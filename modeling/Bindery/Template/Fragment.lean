import Bindery.Value.Json

/-!
# Expressions embedded in text

An author writes `<%= e %>` for the value of `e` and `<%- e %>` for its escaped form. `pieces`
cuts a text at these delimiters, `scan` gives the fragments that the cut stands for, and
`reassemble` writes fragments as one code expression: a sum of quoted literals and parenthesized
sources, in order. An opening that is never closed is ordinary text.
-/

namespace Bindery
namespace Template

/-- A part of a text: literal characters, or the source between a pair of delimiters. -/
inductive Piece where
  | literal (text : List Char)
  | code (escaped : Bool) (source : List Char)
deriving DecidableEq, Repr

/-- What a text compiles to, piece by piece: literal text, or the source of an expression. -/
inductive Fragment where
  | raw (text : String)
  | expr (source : String)
deriving DecidableEq, Repr

namespace Fragment

/-- Whether a fragment is an expression. -/
def isExpr : Fragment → Bool
  | .raw _ => false
  | .expr _ => true

end Fragment

/-- The name of the function that an escaped expression is wrapped in. -/
def escapeHelper : String := "escapeHtml"

namespace Piece

/-- The fragment a piece stands for. -/
def toFragment : Piece → Fragment
  | .literal text => .raw (String.ofList text)
  | .code false source => .expr (String.ofList source)
  | .code true source => .expr (escapeHelper ++ "(" ++ String.ofList source ++ ")")

/-- A piece as it stood in the text. -/
def written : Piece → List Char
  | .literal text => text
  | .code escaped source =>
    ['<', '%', if escaped then '-' else '='] ++ source ++ ['%', '>']

end Piece

/-- Cut a text at its first closing delimiter. -/
def cutClosing : List Char → Option (List Char × List Char)
  | [] => none
  | '%' :: '>' :: rest => some ([], rest)
  | c :: rest => (cutClosing rest).map fun (source, after) => (c :: source, after)

/-- A delimited expression at the very start of a text: whether it is escaped, its source and the
rest. The source has at least one character, so a closing delimiter right after the opening one
belongs to the source. -/
def leadingCode : List Char → Option (Bool × List Char × List Char)
  | '<' :: '%' :: mark :: c :: rest =>
    if mark = '=' || mark = '-' then
      (cutClosing rest).map fun (source, after) => (mark = '-', c :: source, after)
    else none
  | _ => none

/-- The first delimited expression of a text: the literal text before it, whether it is escaped,
its source and the rest. -/
def firstCode : List Char → Option (List Char × Bool × List Char × List Char)
  | [] => none
  | c :: rest =>
    match leadingCode (c :: rest) with
    | some (escaped, source, after) => some ([], escaped, source, after)
    | none => (firstCode rest).map fun (before, code) => (c :: before, code)

theorem cutClosing_length {s source after : List Char} (h : cutClosing s = some (source, after)) :
    after.length < s.length := by
  induction s using cutClosing.induct generalizing source after with
  | case1 => simp [cutClosing] at h
  | case2 rest =>
    simp only [cutClosing, Option.some.injEq, Prod.mk.injEq] at h
    obtain ⟨-, rfl⟩ := h
    simp only [List.length_cons]; omega
  | case3 c rest hne ih =>
    rw [cutClosing] at h
    · obtain ⟨⟨src, aft⟩, hcut, heq⟩ := Option.map_eq_some_iff.1 h
      simp only [Prod.mk.injEq] at heq
      obtain ⟨-, rfl⟩ := heq
      have := ih hcut
      simp only [List.length_cons]; omega
    · exact hne

theorem leadingCode_length {s source after : List Char} {escaped : Bool}
    (h : leadingCode s = some (escaped, source, after)) : after.length < s.length := by
  unfold leadingCode at h
  split at h
  · split at h
    · obtain ⟨⟨src, aft⟩, hcut, heq⟩ := Option.map_eq_some_iff.1 h
      simp only [Prod.mk.injEq] at heq
      obtain ⟨-, -, rfl⟩ := heq
      have := cutClosing_length hcut
      simp only [List.length_cons]; omega
    · simp at h
  · simp at h

theorem firstCode_length {s before source after : List Char} {escaped : Bool}
    (h : firstCode s = some (before, escaped, source, after)) : after.length < s.length := by
  induction s generalizing before with
  | nil => simp [firstCode] at h
  | cons c rest ih =>
    rw [firstCode] at h
    split at h
    · rename_i hlead
      simp only [Option.some.injEq, Prod.mk.injEq] at h
      obtain ⟨-, -, -, rfl⟩ := h
      exact leadingCode_length hlead
    · obtain ⟨⟨bef, code⟩, hfirst, heq⟩ := Option.map_eq_some_iff.1 h
      simp only [Prod.mk.injEq] at heq
      obtain ⟨-, rfl⟩ := heq
      have := ih hfirst
      simp only [List.length_cons]; omega

/-- Cut a text into its pieces. No literal piece is empty. -/
def pieces (s : List Char) : List Piece :=
  match _h : firstCode s with
  | none => if s.isEmpty then [] else [.literal s]
  | some (before, escaped, source, after) =>
    let rest := .code escaped source :: pieces after
    if before.isEmpty then rest else .literal before :: rest
termination_by s.length
decreasing_by exact firstCode_length _h

/-- The fragments of a text. -/
def scan (text : String) : List Fragment := (pieces text.toList).map Piece.toFragment

/-- Whether a text holds a complete delimited expression. -/
def hasExpressions (text : String) : Bool := (firstCode text.toList).isSome

/-- What stands between two operands of reassembled code. -/
def join : String := " +\n    "

/-- A fragment as an operand of code; an empty literal gives none. -/
def operand? : Fragment → Option String
  | .raw text => if text.isEmpty then none else some (Json.quote text)
  | .expr source => some ("(" ++ source ++ ")")

/-- Fragments as one code expression. -/
def reassemble (fragments : List Fragment) : String :=
  match fragments.filterMap operand? with
  | [] => Json.quote ""
  | operands => join.intercalate operands

/-- Compile a text that needs no rendering straight to code. -/
def compilePlain (text : String) : String := reassemble (scan text)

end Template
end Bindery
