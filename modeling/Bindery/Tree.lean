import Bindery.Path
import Bindery.Sorted
import Bindery.Text.Utf8

/-!
# File trees

A tree of folders and files with the time that a file written now gets. A path leads through the
tree step by step; each step starts in a folder, also one that leads nowhere, so that a path to a
file does not end in `/`.
-/

namespace Bindery

/-- A file: what is in it and when it was written. -/
structure File where
  bytes : List UInt8
  time : Nat
deriving DecidableEq, Repr, Inhabited

/-- A file or a folder; the entries of a folder stand by ascending name. -/
inductive FileNode where
  | file (f : File)
  | folder (entries : List (String × FileNode))
deriving Inhabited

/-- Why a folder cannot be made. -/
inductive FolderFault where
  | fileInPlace
  | fileOnWay
deriving DecidableEq, Repr

namespace FolderFault

/-- The wording of the fault. -/
def message : FolderFault → String
  | fileInPlace => "File exists (os error 17)"
  | fileOnWay => "Not a directory (os error 20)"

end FolderFault

namespace FileNode

/-- The entries of a folder. -/
def entries : FileNode → List (String × FileNode)
  | .file _ => []
  | .folder entries => entries

/-- Whether this is a folder. -/
def isFolder : FileNode → Bool
  | .file _ => false
  | .folder _ => true

/-- The node at some names below a node. -/
def get? : List String → FileNode → Option FileNode
  | [], node => some node
  | name :: rest, node => (Sorted.lookup name node.entries).bind (get? rest)

/-- Put a node at some names below a folder; folders on the way are there or are made. -/
def put (parent : FileNode) : (names : List String) → FileNode → FileNode
  | [], node => node
  | name :: rest, node =>
    let child := (Sorted.lookup name parent.entries).getD (.folder [])
    .folder (Sorted.place name (put child rest node) parent.entries)

/-- Take away the node at some names below a folder. -/
def remove (parent : FileNode) : (names : List String) → FileNode
  | [] => parent
  | [name] => .folder (parent.entries.filter (·.1 ≠ name))
  | name :: rest =>
    match Sorted.lookup name parent.entries with
    | some child => .folder (Sorted.place name (remove child rest) parent.entries)
    | none => parent

mutual

/-- The files below a node, with the names that lead to them. -/
def files : FileNode → List (List String × File)
  | .file f => [([], f)]
  | .folder entries => filesOf entries

/-- The files below some entries. -/
def filesOf : List (String × FileNode) → List (List String × File)
  | [] => []
  | (name, node) :: rest =>
    node.files.map (fun (names, f) => (name :: names, f)) ++ filesOf rest

end

end FileNode

/-- A file tree. -/
structure Tree where
  top : FileNode := .folder []
  now : Nat := 0
deriving Inhabited

namespace Tree

/-- The node at some names. -/
def get? (t : Tree) (names : List String) : Option FileNode := t.top.get? names

/-- Walk the steps of a path from a place, given as names with the last one first. -/
def walk (t : Tree) (place : List String) : (steps : List String) → Option (List String)
  | [] => some place
  | step :: rest =>
    if (t.get? place.reverse).any FileNode.isFolder then
      if step = "" || step = "." then walk t place rest
      else if step = ".." then walk t (place.drop 1) rest
      else if (t.get? (place.reverse ++ [step])).isSome then walk t (step :: place) rest
      else none
    else none

/-- The names of what a path from the top leads to. -/
def locate? (t : Tree) (path : String) : Option (List String) :=
  (t.walk [] (Link.segments path)).map List.reverse

/-- What a path from the top leads to. -/
def find? (t : Tree) (path : String) : Option FileNode := (t.locate? path).bind t.get?

/-- Whether there is anything at a path. -/
def contains (t : Tree) (path : String) : Bool := (t.find? path).isSome

/-- Whether there is a folder at a path. -/
def isFolder (t : Tree) (path : String) : Bool := (t.find? path).any FileNode.isFolder

/-- The file at a path. -/
def file? (t : Tree) (path : String) : Option File :=
  match t.find? path with
  | some (.file f) => some f
  | _ => none

/-- Whether there is a file at a path. -/
def isFile (t : Tree) (path : String) : Bool := (t.file? path).isSome

/-- The text of the file at a path. -/
def readText? (t : Tree) (path : String) : Option String :=
  (t.file? path).bind fun f => Text.ofBytes? f.bytes

/-- When what is at a path was changed; folders count as changed now. -/
def time? (t : Tree) (path : String) : Option Nat :=
  (t.find? path).map fun
    | .file f => f.time
    | .folder _ => t.now

/-- The paths of the files at and below a path. -/
def filesBelow (t : Tree) (path : String) : List (String × File) :=
  match t.find? path with
  | none => []
  | some node => node.files.map fun (names, f) => (names.foldl Path.join path, f)

/-- Make the folders that are missing on the way from a place. -/
def makeFolders (t : Tree) (place : List String) :
    (steps : List String) → Except FolderFault Tree
  | [] => .ok t
  | step :: rest =>
    if step = ".." then makeFolders t (place.drop 1) rest
    else
      let names := place.reverse ++ [step]
      match t.get? names with
      | some (.folder _) => makeFolders t (step :: place) rest
      | some (.file _) => .error (if rest.isEmpty then .fileInPlace else .fileOnWay)
      | none =>
        makeFolders { t with top := t.top.put names (.folder []) } (step :: place) rest

/-- Make the folder at a path from the top, and those on the way. -/
def createFolder (t : Tree) (path : String) : Except FolderFault Tree :=
  t.makeFolders [] (Path.steps path)

/-- The folder and the name that a path consists of; none if it ends in no name. -/
def split (path : String) : Option (List String × String) :=
  match (Path.steps path).reverse with
  | [] => none
  | name :: parent => if name = ".." then none else some (parent.reverse, name)

/-- Write a file whose folder is there; none where a folder stands in its place or there is no
folder for it. -/
def write? (t : Tree) (path : String) (bytes : List UInt8) : Option Tree := do
  let (parent, name) ← split path
  let place ← t.walk [] parent
  let names := place.reverse ++ [name]
  match t.get? place.reverse, t.get? names with
  | some (.folder _), some (.folder _) => none
  | some (.folder _), _ => some { t with top := t.top.put names (.file ⟨bytes, t.now⟩) }
  | _, _ => none

/-- Take away the folder at a path with all below it; none where there is no folder. -/
def removeFolder? (t : Tree) (path : String) : Option Tree := do
  let names ← t.locate? path
  match t.get? names with
  | some (.folder _) => some { t with top := t.top.remove names }
  | _ => none

/-- Take away the file at a path; none where there is no file. -/
def removeFile? (t : Tree) (path : String) : Option Tree := do
  let names ← t.locate? path
  match t.get? names with
  | some (.file _) => some { t with top := t.top.remove names }
  | _ => none

end Tree
end Bindery
