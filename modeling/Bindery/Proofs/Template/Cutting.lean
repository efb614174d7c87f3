import Bindery.Template.Fragment
import Mathlib.Tactic.Lemma

/-!
# Cutting a text at its delimiters

The pieces of a text, written one after the other, are the text (`flatMap_written_pieces`), and no
literal piece is empty (`ne_nil_of_literal_mem_pieces`). An expression that is written behind
literal text without an opening delimiter is the first one that is found (`firstCode_append`).
-/

namespace Bindery
namespace Template

/-- What is cut off at a closing is the text in front of it and behind it. -/
lemma eq_of_cutClosing {s source after : List Char} (h : cutClosing s = some (source, after)) :
    s = source ++ '%' :: '>' :: after := by
  fun_induction cutClosing s generalizing source after with
  | case1 => simp at h
  | case2 rest =>
    simp only [Option.some.injEq, Prod.mk.injEq] at h
    obtain ⟨rfl, rfl⟩ := h
    rfl
  | case3 c rest hne ih =>
    obtain ⟨⟨src, aft⟩, hcut, heq⟩ := Option.map_eq_some_iff.1 h
    simp only [Prod.mk.injEq] at heq
    obtain ⟨rfl, rfl⟩ := heq
    rw [ih hcut, List.cons_append]

lemma eq_of_leadingCode {s source after : List Char} {escaped : Bool}
    (h : leadingCode s = some (escaped, source, after)) :
    s = (Piece.code escaped source).written ++ after := by
  unfold leadingCode at h
  split at h
  · rename_i mark c rest
    split at h
    · rename_i hmark
      obtain ⟨⟨src, aft⟩, hcut, heq⟩ := Option.map_eq_some_iff.1 h
      simp only [Prod.mk.injEq] at heq
      obtain ⟨rfl, rfl, rfl⟩ := heq
      have hchar : (if mark = '-' then '-' else '=') = mark := by
        rcases Bool.or_eq_true_iff.1 hmark with h | h <;> simp_all
      simp [Piece.written, eq_of_cutClosing hcut, hchar]
    · simp at h
  · simp at h

lemma eq_of_firstCode {s before source after : List Char} {escaped : Bool}
    (h : firstCode s = some (before, escaped, source, after)) :
    s = before ++ ((Piece.code escaped source).written ++ after) := by
  induction s generalizing before with
  | nil => simp [firstCode] at h
  | cons c rest ih =>
    rw [firstCode] at h
    split at h
    · rename_i hlead
      simp only [Option.some.injEq, Prod.mk.injEq] at h
      obtain ⟨rfl, rfl, rfl, rfl⟩ := h
      exact eq_of_leadingCode hlead
    · obtain ⟨⟨bef, code⟩, hfirst, heq⟩ := Option.map_eq_some_iff.1 h
      simp only [Prod.mk.injEq] at heq
      obtain ⟨rfl, rfl⟩ := heq
      rw [List.cons_append, ← ih hfirst]

/-- The pieces of a text, as they stood in it, make up the text. -/
lemma flatMap_written_pieces (s : List Char) : (pieces s).flatMap Piece.written = s := by
  fun_induction pieces s with
  | case1 s hfirst hempty => simp [List.isEmpty_iff.1 hempty]
  | case2 s hfirst hempty => simp [Piece.written]
  | case3 s before escaped source after hfirst rest hempty ih =>
    obtain rfl : before = [] := List.isEmpty_iff.1 hempty
    simp [rest, ih, eq_of_firstCode hfirst]
  | case4 s before escaped source after hfirst rest hempty ih =>
    have hliteral : (Piece.literal before).written = before := rfl
    simp [rest, ih, hliteral, eq_of_firstCode hfirst]

/-- No literal piece is empty. -/
lemma ne_nil_of_literal_mem_pieces {s text : List Char} (h : .literal text ∈ pieces s) :
    text ≠ [] := by
  fun_induction pieces s with
  | case1 s hfirst hempty => simp at h
  | case2 s hfirst hempty =>
    obtain rfl : text = s := by simpa using h
    exact fun hnil => hempty (List.isEmpty_iff.2 hnil)
  | case3 s before escaped source after hfirst rest hempty ih =>
    exact ih (by simpa [rest] using h)
  | case4 s before escaped source after hfirst rest hempty ih =>
    rcases List.mem_cons.1 h with h | h
    · simp only [Piece.literal.injEq] at h
      rw [h]
      exact fun hnil => hempty (List.isEmpty_iff.2 hnil)
    · exact ih (by simpa [rest] using h)

/-- A text is scanned into fragments that all become operands. -/
lemma raw_empty_not_mem_scan (text : String) : Fragment.raw "" ∉ scan text := by
  intro h
  obtain ⟨piece, hmem, heq⟩ := List.mem_map.1 h
  cases piece with
  | literal chars =>
    have hempty : String.ofList chars = "" := by simpa [Piece.toFragment] using heq
    have hnil : chars = [] := by simpa using congrArg String.toList hempty
    exact ne_nil_of_literal_mem_pieces hmem hnil
  | code escaped source => cases escaped <;> simp [Piece.toFragment] at heq

/-- A source ends at the first closing delimiter. -/
lemma cutClosing_append {source : List Char} (h : ¬ ['%', '>'] <:+: source) (after : List Char) :
    cutClosing (source ++ '%' :: '>' :: after) = some (source, after) := by
  induction source with
  | nil => rfl
  | cons c source ih =>
    have hrest : ¬ ['%', '>'] <:+: source := fun hwithin => h (List.infix_cons hwithin)
    rw [List.cons_append, cutClosing, ih hrest, Option.map_some]
    rintro rest rfl heq
    cases source with
    | nil => simp at heq
    | cons d source =>
      obtain ⟨rfl, -⟩ := List.cons.inj heq
      exact h ⟨[], source, rfl⟩

/-- The closing delimiter stands in a source at its very start at most. -/
def ClosesOnce (source : List Char) : Prop :=
  ∀ before after, source = before ++ '%' :: '>' :: after → before = []

/-- A source closes at its start at most if no closing is found behind its first character. -/
lemma closesOnce_cons_iff {c : Char} {source : List Char} :
    ClosesOnce (c :: source) ↔ ¬ ['%', '>'] <:+: source := by
  constructor
  · rintro h ⟨before, after, rfl⟩
    have hnil : c :: before = [] := h _ after (by simp)
    cases hnil
  · intro h before after heq
    cases before with
    | nil => rfl
    | cons d before =>
      obtain ⟨-, rfl⟩ := List.cons.inj heq
      exact absurd ⟨before, after, by simp⟩ h

lemma closesOnce_of_not_closing {source : List Char} (h : ¬ ['%', '>'] <:+: source) :
    ClosesOnce source := by
  rintro before after rfl
  exact absurd ⟨before, after, by simp⟩ h

/-- A written expression is read back, whatever follows it. -/
lemma leadingCode_append {source : List Char} (hne : source ≠ []) (hsource : ClosesOnce source)
    (escaped : Bool) (after : List Char) :
    leadingCode ((Piece.code escaped source).written ++ after) = some (escaped, source, after) := by
  obtain ⟨c, source, rfl⟩ := List.exists_cons_of_ne_nil hne
  have hcut := cutClosing_append (closesOnce_cons_iff.1 hsource) after
  cases escaped <;> simp [Piece.written, leadingCode, hcut]

lemma firstCode_of_leadingCode {s source after : List Char} {escaped : Bool}
    (h : leadingCode s = some (escaped, source, after)) :
    firstCode s = some ([], escaped, source, after) := by
  cases s with
  | nil => cases h
  | cons c s => rw [firstCode, h]

/-- An opening delimiter stands in a text. -/
def HoldsOpening (text : List Char) : Prop :=
  ['<', '%', '='] <:+: text ∨ ['<', '%', '-'] <:+: text

/-- Without an angle bracket there is no opening. -/
lemma not_holdsOpening_of_not_mem {text : List Char} (h : '<' ∉ text) : ¬ HoldsOpening text := by
  rintro (hwithin | hwithin) <;> exact h (hwithin.subset List.mem_cons_self)

/-- An expression starts with an opening delimiter. None starts in literal text in front of a
character that does not go on with an opening. -/
lemma leadingCode_eq_none {c d : Char} {before : List Char} (h : ¬ HoldsOpening (c :: before))
    (hd : d ∉ ['%', '=', '-']) (rest : List Char) :
    leadingCode (c :: before ++ d :: rest) = none := by
  rw [Option.eq_none_iff_forall_not_mem]
  rintro ⟨escaped, source, after⟩ hlead
  have hwritten := eq_of_leadingCode hlead
  cases before with
  | nil =>
    obtain ⟨-, rfl, -⟩ : c = '<' ∧ d = '%' ∧ _ := by simpa [Piece.written] using hwritten
    exact hd (by decide)
  | cons e before =>
    cases before with
    | nil =>
      obtain ⟨-, -, rfl, -⟩ : c = '<' ∧ e = '%' ∧ d = (if escaped then '-' else '=') ∧ _ := by
        simpa [Piece.written] using hwritten
      cases escaped <;> exact hd (by decide)
    | cons f before =>
      refine h ?_
      cases escaped with
      | false =>
        obtain ⟨rfl, rfl, rfl, -⟩ : c = '<' ∧ e = '%' ∧ f = '=' ∧ _ := by
          simpa [Piece.written] using hwritten
        exact .inl ⟨[], before, rfl⟩
      | true =>
        obtain ⟨rfl, rfl, rfl, -⟩ : c = '<' ∧ e = '%' ∧ f = '-' ∧ _ := by
          simpa [Piece.written] using hwritten
        exact .inr ⟨[], before, rfl⟩

/-- The first expression of a text that starts with literal text is the first one behind this. -/
lemma firstCode_literal_append {d : Char} {before : List Char} (hbefore : ¬ HoldsOpening before)
    (hd : d ∉ ['%', '=', '-']) (rest : List Char) :
    firstCode (before ++ d :: rest)
      = (firstCode (d :: rest)).map fun found => (before ++ found.1, found.2) := by
  induction before with
  | nil => simp
  | cons c before ih =>
    have hlead := leadingCode_eq_none hbefore hd rest
    have hrest : ¬ HoldsOpening before := fun hwithin =>
      hbefore (hwithin.imp List.infix_cons List.infix_cons)
    rw [List.cons_append] at hlead ⊢
    rw [firstCode, hlead, ih hrest, Option.map_map]
    rfl

/-- The first expression of a text comes after literal text without an opening delimiter. -/
lemma firstCode_append {before source : List Char} (hbefore : ¬ HoldsOpening before)
    (hne : source ≠ []) (hsource : ClosesOnce source) (escaped : Bool) (after : List Char) :
    firstCode (before ++ (Piece.code escaped source).written ++ after)
      = some (before, escaped, source, after) := by
  have hcode := firstCode_of_leadingCode (leadingCode_append hne hsource escaped after)
  obtain ⟨rest, hwritten⟩ : ∃ rest, (Piece.code escaped source).written ++ after = '<' :: rest :=
    ⟨_, rfl⟩
  rw [List.append_assoc, hwritten, firstCode_literal_append hbefore (by decide), ← hwritten, hcode,
    Option.map_some, List.append_nil]

/-- A text is cut behind its first expression, and what follows is cut in the same way. -/
lemma pieces_of_firstCode {s before source after : List Char} {escaped : Bool}
    (h : firstCode s = some (before, escaped, source, after)) (hbefore : before ≠ []) :
    pieces s = .literal before :: .code escaped source :: pieces after := by
  rw [pieces]
  split <;> simp_all

end Template
end Bindery
