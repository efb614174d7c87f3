import Bindery.Template.Fragment

/-!
# Placeholders

Before a text is rendered its expressions are taken out and replaced by placeholders, inert
strings that rendering leaves alone. An `Environment` keeps the sources in the order in which they
were taken out; `postprocess` puts them back and insists that each placeholder comes up exactly
once.
-/

namespace Bindery
namespace Template

/-- The characters that start every placeholder. -/
def placeholderStart : List Char := "~~replacement-".toList

/-- The placeholder of the expression at `index`. It holds only characters that neither HTML
escaping nor the encoding of link targets changes. -/
def placeholder (index : Nat) : String :=
  String.ofList (placeholderStart ++ Nat.toDigits 10 index ++ ['~', '~'])

/-- Why placeholders could not be put back. -/
inductive PlaceholderError where
  | unknown (index registered : Nat)
  | duplicate (index : Nat)
  | count (found registered : Nat)
deriving DecidableEq, Repr

namespace PlaceholderError

/-- The text of the error. -/
def message : PlaceholderError → String
  | .unknown index registered =>
    s!"placeholder {index} does not exist ({registered} registered)"
  | .duplicate index => s!"placeholder {index} appears more than once in rendered output"
  | .count found registered => s!"rendered output contains {found} of {registered} placeholders"

end PlaceholderError

/-- Drop a given start of a text. -/
def dropStart : (start : List Char) → List Char → Option (List Char)
  | [], s => some s
  | _ :: _, [] => none
  | p :: ps, c :: s => if p = c then dropStart ps s else none

/-- A placeholder at the very start of a text: its digits, of any script, and the rest. -/
def leadingPlaceholder (s : List Char) : Option (List Char × List Char) :=
  match dropStart placeholderStart s with
  | none => none
  | some s =>
    match s.takeWhile Text.isDecimalDigit, s.dropWhile Text.isDecimalDigit with
    | [], _ => none
    | digits, '~' :: '~' :: after => some (digits, after)
    | _, _ => none

/-- The first placeholder of a text: the text before it, its digits and the rest. -/
def firstPlaceholder : List Char → Option (List Char × List Char × List Char)
  | [] => none
  | c :: rest =>
    match leadingPlaceholder (c :: rest) with
    | some (digits, after) => some ([], digits, after)
    | none => (firstPlaceholder rest).map fun (before, found) => (c :: before, found)

/-- Whether a text holds a placeholder. -/
def holdsPlaceholder (text : String) : Bool := (firstPlaceholder text.toList).isSome

/-- The largest index, `2 ^ 64 - 1`. -/
def maxIndex : Nat := 0xffffffffffffffff

/-- The index that digits stand for. Digits of other scripts and numbers out of range stand for
none. -/
def readIndex (digits : List Char) : Option Nat :=
  if digits.all Char.isDigit then
    let n := Number.digitsValue digits
    if n ≤ maxIndex then some n else none
  else none

theorem dropStart_length {start s rest : List Char} (h : dropStart start s = some rest) :
    rest.length + start.length = s.length := by
  induction start generalizing s with
  | nil => simp_all [dropStart]
  | cons p ps ih =>
    cases s with
    | nil => simp [dropStart] at h
    | cons c s =>
      rw [dropStart] at h
      split at h
      · have := ih h
        simp only [List.length_cons]; omega
      · simp at h

theorem leadingPlaceholder_length {s digits after : List Char}
    (h : leadingPlaceholder s = some (digits, after)) : after.length < s.length := by
  unfold leadingPlaceholder at h
  split at h
  · simp at h
  · rename_i body hdrop
    have hbody := dropStart_length hdrop
    have hsuffix := (List.dropWhile_suffix (l := body) Text.isDecimalDigit).length_le
    split at h
    · simp at h
    · rename_i hrest _
      simp only [Option.some.injEq, Prod.mk.injEq] at h
      obtain ⟨-, rfl⟩ := h
      rw [hrest] at hsuffix
      simp only [List.length_cons] at hsuffix
      omega
    · simp at h

theorem firstPlaceholder_length {s before digits after : List Char}
    (h : firstPlaceholder s = some (before, digits, after)) : after.length < s.length := by
  induction s generalizing before with
  | nil => simp [firstPlaceholder] at h
  | cons c rest ih =>
    rw [firstPlaceholder] at h
    split at h
    · rename_i hlead
      simp only [Option.some.injEq, Prod.mk.injEq] at h
      obtain ⟨-, -, rfl⟩ := h
      exact leadingPlaceholder_length hlead
    · obtain ⟨⟨bef, found⟩, hfirst, heq⟩ := Option.map_eq_some_iff.1 h
      simp only [Prod.mk.injEq] at heq
      obtain ⟨-, rfl⟩ := heq
      have := ih hfirst
      simp only [List.length_cons]; omega

/-- The expressions taken out of one document, in the order in which they were taken out. -/
structure Environment where
  sources : List String := []
deriving DecidableEq, Repr, Inhabited

namespace Environment

/-- Register an expression; the placeholder that stands in for it. -/
def replace (env : Environment) (source : String) : String × Environment :=
  (placeholder env.sources.length, ⟨env.sources ++ [source]⟩)

/-- Write fragments with a placeholder for every expression. -/
def substitute (env : Environment) : List Fragment → String × Environment
  | [] => ("", env)
  | .raw text :: rest =>
    let (body, env) := env.substitute rest
    (text ++ body, env)
  | .expr source :: rest =>
    let (mark, env) := env.replace source
    let (body, env) := env.substitute rest
    (mark ++ body, env)

/-- Take the expressions out of a text: the text with placeholders, and the fragments it was
scanned into. -/
def extract (env : Environment) (text : String) : (String × List Fragment) × Environment :=
  let fragments := scan text
  let (body, env) := env.substitute fragments
  ((body, fragments), env)

/-- A text with a placeholder for every expression. -/
def preprocess (env : Environment) (text : String) : String × Environment :=
  if hasExpressions text then
    let ((body, _), env) := env.extract text
    (body, env)
  else (text, env)

/-- As `preprocess`, for a value: only a string is changed. -/
def preprocessValue (env : Environment) (value : Value) : Value × Environment :=
  match value with
  | .string text =>
    let (body, env) := env.preprocess text
    (.string body, env)
  | other => (other, env)

/-- The literal fragment of a run of text; an empty run gives none. -/
def rawRun (text : List Char) : List Fragment :=
  if text.isEmpty then [] else [.raw (String.ofList text)]

/-- Put the sources back into a text, given the indices that came up before it. -/
def splice (sources : List String) (seen : List Nat) (s : List Char) :
    Except PlaceholderError (List Fragment) :=
  match _h : firstPlaceholder s with
  | none =>
    if seen.length = sources.length then .ok (rawRun s)
    else .error (.count seen.length sources.length)
  | some (before, digits, after) =>
    match readIndex digits with
    | none => .error (.unknown maxIndex sources.length)
    | some index =>
      match sources[index]? with
      | none => .error (.unknown index sources.length)
      | some source =>
        if index ∈ seen then .error (.duplicate index)
        else
          match splice sources (index :: seen) after with
          | .error e => .error e
          | .ok rest => .ok (rawRun before ++ .expr source :: rest)
termination_by s.length
decreasing_by exact firstPlaceholder_length _h

/-- The fragments of a rendered text: every placeholder gives back its source. Each registered
placeholder has to come up exactly once. -/
def postprocess (env : Environment) (rendered : String) :
    Except PlaceholderError (List Fragment) :=
  splice env.sources [] rendered.toList

/-- The code of a rendered text. -/
def reassemble (env : Environment) (rendered : String) : Except PlaceholderError String :=
  (env.postprocess rendered).map Template.reassemble

end Environment

end Template
end Bindery
