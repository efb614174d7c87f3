import Bindery.Program

/-!
# The program on a disk

The part of the program that touches the disk: files are read into a tree, the program runs on the
tree, and what it changed is written back.
-/

namespace Bindery
namespace Disk

/-- What the program tells about its arguments. -/
def usage : String := "Usage: quire [OPTIONS] <COMMAND>

Commands:
  build  Compile every document of the content folder into the output folder
  watch  Build, then build again whenever a source changes
  help   Print this message

Options:
  -r, --root <ROOT>        Root of the project (default: the working directory)
  -o, --output <OUTPUT>    Output folder, from the root
  -c, --content <CONTENT>  Content folder, from the root
  -C, --config <CONFIG>    Configuration file (default: quire.toml)
  -h, --help               Print help
  -V, --version            Print version

Options of build and watch:
      --clean              Clear the output folder before building
  -m, --minify [<MINIFY>]  Write small markup (true or false)"

/-- Read what is at a path from the top into a tree, where there is something. -/
partial def read (tree : Tree) (path : String) : IO Tree := do
  let some place ← (some <$> IO.FS.realPath path) <|> pure none | return tree
  let path := place.toString
  let metadata ← place.metadata
  let time := metadata.modified.sec.toNat
  let tree := { tree with now := max tree.now time }
  let some tree := (tree.createFolder ("/".intercalate ((Path.steps path).dropLast))).toOption
    | return tree
  match metadata.type with
  | .dir =>
    let mut tree := (tree.createFolder path).toOption.getD tree
    for entry in ← place.readDir do
      tree ← read tree (Path.join path entry.fileName)
    return tree
  | .file =>
    let bytes ← IO.FS.readBinFile path
    return { tree with top := tree.top.put (Path.steps path) (.file ⟨bytes.toList, time⟩) }
  | _ => return tree

/-- Write what changed at a path. -/
partial def write (path : String) (before after : Option FileNode) : IO Unit := do
  match before, after with
  | some (.folder old), some (.folder new) =>
    let names := (old.map (·.1) ++ new.map (·.1)).eraseDups
    for name in names do
      write (Path.join path name) (Sorted.lookup name old) (Sorted.lookup name new)
  | some (.file old), some (.file new) =>
    if old ≠ new then IO.FS.writeBinFile path ⟨new.bytes.toArray⟩
  | some (.folder _), _ =>
    IO.FS.removeDirAll path
    write path none after
  | some (.file _), _ =>
    IO.FS.removeFile path
    write path none after
  | none, some (.folder new) =>
    IO.FS.createDirAll path
    for (name, node) in new do
      write (Path.join path name) none (some node)
  | none, some (.file new) => IO.FS.writeBinFile path ⟨new.bytes.toArray⟩
  | none, none => return

/-- The tree that a command line is about: the configuration file, the content and the output. -/
def readFor (cwd : String) (line : CommandLine) : IO Tree := do
  let root := Path.join cwd (line.root.getD "./")
  let tree ← read {} (Path.join root line.config)
  let tree := (tree.createFolder root).toOption.getD tree
  let tree := (tree.createFolder cwd).toOption.getD tree
  let config := (Config.load tree cwd (Path.join root line.config)).toOption.getD {}
  let build := (Config.locate tree cwd line config).config.build
  let tree ← read tree build.output
  read tree build.content

/-- The files in a folder that differ between two trees. -/
def changedPaths (before after : Tree) (folder : String) : List String :=
  let old := before.filesBelow folder
  let new := after.filesBelow folder
  let gone := old.filter fun (path, _) => !new.any (·.1 = path)
  let changed := new.filter fun (path, f) => !old.any fun (p, g) => p = path && g.bytes = f.bytes
  (gone ++ changed).map (·.1)

/-- Bring a site up to date whenever content files change. -/
partial def follow (cwd : String) (line : CommandLine) (located : Config.Located) (site : Site)
    (seen : Tree) : IO Unit := do
  IO.sleep 300
  let tree ← readFor cwd line
  let paths := changedPaths seen tree located.config.build.content
  if paths.isEmpty then follow cwd line located site tree
  else
    match site.update tree paths with
    | (.error e, site) =>
      IO.eprintln ("update failed: " ++ e.message)
      follow cwd line located site tree
    | (.ok _, site) =>
      let (built, site, after) := site.build tree
      if let .error e := built then IO.eprintln ("build failed: " ++ e.message)
      write "/" (some tree.top) (some after.top)
      follow cwd line located site after

end Disk
end Bindery

open Bindery in
/-- Run the program. -/
def main (args : List String) : IO UInt32 := do
  match CommandLine.parse args with
  | .error reason =>
    if reason = .version then IO.println "quire 0.1.0"
    else if reason.status = 0 then IO.println Disk.usage
    else IO.eprintln Disk.usage
    return UInt32.ofNat reason.status
  | .ok line =>
    let cwd := (← IO.currentDir).toString
    let before ← Disk.readFor cwd line
    let (outcome, after) := Program.run before cwd args
    Disk.write "/" (some before.top) (some after.top)
    if let some message := outcome.error? then IO.eprintln message
    if let .watching located site := outcome then Disk.follow cwd line located site after
    return UInt32.ofNat outcome.status
