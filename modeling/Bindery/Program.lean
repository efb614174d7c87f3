import Bindery.Site

/-!
# The program

From its arguments and the files around it the program finds a configuration and does what it is
told to. What it leaves behind is a changed file tree and an outcome.
-/

namespace Bindery

/-- How the program ends, or that it goes on to watch a site. -/
inductive Outcome where
  | done
  | refused (reason : CommandLine.Refusal)
  | failed (message : String)
  | watching (located : Config.Located) (site : Site)

namespace Outcome

/-- The exit status of the program. -/
def status : Outcome → Nat
  | done | watching _ _ => 0
  | refused reason => reason.status
  | failed _ => 1

/-- What the program tells about a failure. -/
def error? : Outcome → Option String
  | failed message => some ("Error: " ++ message)
  | _ => none

end Outcome

namespace Program

/-- The configuration for a command line: the one in its file, or defaults where there is none. -/
def configure (tree : Tree) (cwd : String) (line : CommandLine) :
    Except ConfigError Config.Located := do
  let path := Path.join (line.root.getD "./") line.config
  let config ← if tree.contains (Path.join cwd path) then Config.load tree cwd path else .ok {}
  let located := Config.locate tree cwd line config
  Config.validate tree located.config
  return located

/-- Run the program in a working directory. -/
def run (tree : Tree) (cwd : String) (args : List String) : Outcome × Tree :=
  match CommandLine.parse args with
  | .error reason => (.refused reason, tree)
  | .ok line =>
    match configure tree cwd line with
    | .error e => (.failed e.message, tree)
    | .ok located =>
      match line.command with
      | .build =>
        match Site.buildOnce located.config tree with
        | (.ok _, tree) => (.done, tree)
        | (.error e, tree) => (.failed e.message, tree)
      | .watch =>
        match Site.watch located.config tree with
        | (.ok site, tree) => (.watching located site, tree)
        | (.error e, tree) => (.failed e.message, tree)

end Program
end Bindery
