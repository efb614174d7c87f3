import Bindery.Link

/-!
# Paths

A path is a text with `/` between its steps. Empty steps and steps to `.` lead nowhere; a step to
`..` leads back. A path that starts with `/` starts at the top of the tree.
-/

namespace Bindery
namespace Path

/-- Whether a path starts at the top. -/
def isAbsolute (path : String) : Bool := path.startsWith "/"

/-- The steps of a path that lead somewhere. -/
def steps (path : String) : List String :=
  (Link.segments path).filter fun s => s ≠ "" && s ≠ "."

/-- The path that starts with one path and goes on with another, which stands for itself if it
starts at the top. -/
def join (base rest : String) : String :=
  if isAbsolute rest then rest
  else if base.isEmpty || base.endsWith "/" then base ++ rest
  else base ++ "/" ++ rest

/-- The steps after the first ones, if the first ones are as given. -/
def stepsAfter? : (first steps : List String) → Option (List String)
  | [], rest => some rest
  | _ :: _, [] => none
  | a :: first, b :: steps => if a = b then stepsAfter? first steps else none

/-- The steps by which a path goes on from another one, if it does. -/
def below? (base path : String) : Option (List String) :=
  if isAbsolute base = isAbsolute path then stepsAfter? (steps base) (steps path) else none

/-- Whether two paths have the same steps. -/
def same (a b : String) : Bool := isAbsolute a = isAbsolute b && steps a = steps b

/-- The text of steps from the top. -/
def ofSteps (steps : List String) : String := "/" ++ "/".intercalate steps

/-- The part of a file name after its last point; none for a name without one or that only starts
with one. -/
def extensionOf (name : String) : Option String :=
  let chars := name.toList
  let rest := chars.reverse.takeWhile (· ≠ '.')
  if rest.length + 1 < chars.length then some (String.ofList rest.reverse) else none

/-- The extension of the file that a path leads to. -/
def extension? (path : String) : Option String :=
  match (steps path).getLast? with
  | some ".." => none
  | some name => extensionOf name
  | none => none

end Path
end Bindery
