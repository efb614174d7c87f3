import Bindery.CommandLine
import Bindery.Config.Reader
import Bindery.Tree

/-!
# Locating a site

The command line goes before the configuration. Paths are taken from the root of the site, and the
root from the working directory; a path to something that is there is written without detours.
-/

namespace Bindery
namespace Config

/-- The names from the top of what a path leads to from a working directory. -/
def canonical? (tree : Tree) (cwd path : String) : Option (List String) :=
  if path.isEmpty then none else tree.locate? (Path.join cwd path)

/-- A path from the top, without detours if it leads to something. -/
def normalize (tree : Tree) (cwd path : String) : String :=
  match canonical? tree cwd path with
  | some names => Path.ofSteps names
  | none => Path.join cwd path

/-- A configuration with all paths from the top, and where its own file is. -/
structure Located where
  config : Config
  root : String
  configPath : String
deriving DecidableEq, Repr, Inhabited

/-- Locate a site: a configuration under a command line. -/
def locate (tree : Tree) (cwd : String) (line : CommandLine) (config : Config) : Located :=
  let build := config.build
  let root := normalize tree cwd ((line.root.or build.root).getD "./")
  let under (path : String) : String := normalize tree cwd (Path.join root path)
  let build := { build with
    root := some root
    content := under (line.content.getD build.content)
    output := under (line.output.getD build.output)
    minify := line.minify.getD build.minify
    clean := line.clean || build.clean }
  { config := { config with build }, root, configPath := under line.config }

/-- Check a located configuration. -/
def validate (tree : Tree) (config : Config) : Except ConfigError Unit :=
  let build := config.build
  if !tree.isFolder build.content then .error (.notFolder build.content)
  else if Path.same build.output build.content then .error .outputIsContent
  else if !build.publicPath.endsWith "/" then .error .publicPathEnd
  else .ok ()

/-- Read the configuration file at a path. -/
def load (tree : Tree) (cwd path : String) : Except ConfigError Config :=
  match tree.readText? (Path.join cwd path) with
  | some text => parse text
  | none => .error (.unreadable path)

end Config
end Bindery
