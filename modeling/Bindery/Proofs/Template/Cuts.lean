import Bindery.Proofs.Template.Cutting
import Mathlib.Data.List.Chain

/-!
# The one cut of a text

What a cut of a text is can be said without saying how it is found (`IsCut`): the pieces make up the
text, literal text is as long as it can be, and no delimiter is left in it that an expression could
start at. A text has one cut and no other (`scan_eq_iff`).
-/

namespace Bindery
namespace Template

/-- A complete delimited expression stands in a text. -/
def HoldsCode (text : List Char) : Prop :=
  ∃ escaped source, source ≠ [] ∧ (Piece.code escaped source).written <:+: text

namespace Piece

/-- Whether a piece is literal text. -/
def IsLiteral : Piece → Prop
  | literal _ => True
  | code _ _ => False

/-- A piece that is cut neither too short nor too long. -/
def IsWhole : Piece → Prop
  | literal text => text ≠ [] ∧ ¬ HoldsCode text
  | code _ source => source ≠ [] ∧ ClosesOnce source

/-- Literal text in which something is opened. -/
def IsOpened : Piece → Prop
  | literal text => HoldsOpening text
  | code _ _ => False

end Piece

/-- Some pieces are a cut of a text. -/
structure IsCut (text : List Char) (ps : List Piece) : Prop where
  written_eq : ps.flatMap Piece.written = text
  whole : ∀ p ∈ ps, p.IsWhole
  apart : ps.IsChain fun p q => ¬ (p.IsLiteral ∧ q.IsLiteral)
  not_opened : ∀ p ∈ ps.dropLast, ¬ p.IsOpened

section

variable {s text source after before : List Char} {escaped : Bool} {ps : List Piece} {p : Piece}

/-! ## Expressions that are found -/

/-- A text that holds an expression holds an opening. -/
lemma HoldsCode.holdsOpening (h : HoldsCode text) : HoldsOpening text := by
  obtain ⟨escaped, source, -, before, after, rfl⟩ := h
  cases escaped with
  | false => exact .inl ⟨before, source ++ ['%', '>'] ++ after, by simp [Piece.written]⟩
  | true => exact .inr ⟨before, source ++ ['%', '>'] ++ after, by simp [Piece.written]⟩

/-- A source goes up to the first closing delimiter, and not beyond it. -/
lemma not_infix_of_cutClosing (h : cutClosing s = some (source, after)) :
    ¬ ['%', '>'] <:+: source := by
  fun_induction cutClosing s generalizing source after with
  | case1 => simp at h
  | case2 rest =>
    simp only [Option.some.injEq, Prod.mk.injEq] at h
    rw [← h.1]
    simp
  | case3 c rest hne ih =>
    obtain ⟨⟨src, aft⟩, hcut, heq⟩ := Option.map_eq_some_iff.1 h
    simp only [Prod.mk.injEq] at heq
    obtain ⟨rfl, rfl⟩ := heq
    rw [List.infix_cons_iff, not_or]
    refine ⟨?_, ih hcut⟩
    -- what is cut off starts like the source does
    rintro ⟨after, hstart⟩
    obtain ⟨rfl, hsrc⟩ := List.cons.inj hstart
    exact hne (after ++ '%' :: '>' :: aft) rfl (by rw [eq_of_cutClosing hcut, ← hsrc]; rfl)

/-- A closing that is there is found. -/
lemma isSome_cutClosing (h : ['%', '>'] <:+: s) : (cutClosing s).isSome := by
  fun_induction cutClosing s with
  | case1 => simp at h
  | case2 rest => rfl
  | case3 c rest hne ih =>
    rw [Option.isSome_map]
    refine ih ((List.infix_cons_iff.1 h).resolve_left ?_)
    rintro ⟨after, hstart⟩
    obtain ⟨rfl, rfl⟩ := List.cons.inj hstart
    exact hne after rfl rfl

/-- The expression in front is whole. -/
lemma isWhole_of_leadingCode (h : leadingCode s = some (escaped, source, after)) :
    (Piece.code escaped source).IsWhole := by
  unfold leadingCode at h
  split at h
  · split at h
    · obtain ⟨⟨src, aft⟩, hcut, heq⟩ := Option.map_eq_some_iff.1 h
      simp only [Prod.mk.injEq] at heq
      obtain ⟨-, rfl, -⟩ := heq
      exact ⟨List.cons_ne_nil _ _, closesOnce_cons_iff.2 (not_infix_of_cutClosing hcut)⟩
    · simp at h
  · simp at h

/-- An opening delimiter starts an expression if something is closed behind it, one character or
more further on. -/
lemma isSome_leadingCode {mark c : Char} {rest : List Char} (hmark : mark = '=' ∨ mark = '-')
    (h : ['%', '>'] <:+: rest) : (leadingCode ('<' :: '%' :: mark :: c :: rest)).isSome := by
  have hcut := isSome_cutClosing h
  rw [leadingCode, if_pos (by simpa using hmark), Option.isSome_map]
  exact hcut

/-- What is opened in front of an expression is closed where the expression is. -/
lemma isSome_leadingCode_append {mark : Char} (hmark : mark = '=' ∨ mark = '-')
    (back : List Char) (escaped : Bool) (source after : List Char) :
    (leadingCode ('<' :: '%' :: mark ::
      (back ++ ((Piece.code escaped source).written ++ after)))).isSome := by
  have hclosed : ['%', '>'] <:+: source ++ ['%', '>'] ++ after := ⟨source, after, by simp⟩
  cases back with
  | nil => exact isSome_leadingCode hmark (List.infix_cons (List.infix_cons hclosed))
  | cons c back =>
    refine isSome_leadingCode hmark (List.IsInfix.trans hclosed ?_)
    exact ⟨back ++ ['<', '%', if escaped then '-' else '='], [], by simp [Piece.written]⟩

/-- An expression is found behind any text. -/
lemma isSome_firstCode_append (h : (leadingCode s).isSome) (before : List Char) :
    (firstCode (before ++ s)).isSome := by
  induction before with
  | nil =>
    obtain ⟨⟨escaped, source, after⟩, hlead⟩ := Option.isSome_iff_exists.1 h
    rw [List.nil_append, firstCode_of_leadingCode hlead]
    rfl
  | cons c before ih =>
    rw [List.cons_append, firstCode]
    split
    · rfl
    · rw [Option.isSome_map]
      exact ih

/-- The first expression is whole. -/
lemma isWhole_of_firstCode (h : firstCode s = some (before, escaped, source, after)) :
    (Piece.code escaped source).IsWhole := by
  induction s generalizing before with
  | nil => simp [firstCode] at h
  | cons c rest ih =>
    rw [firstCode] at h
    split at h
    · rename_i hlead
      simp only [Option.some.injEq, Prod.mk.injEq] at h
      obtain ⟨-, rfl, rfl, rfl⟩ := h
      exact isWhole_of_leadingCode hlead
    · obtain ⟨⟨bef, code⟩, hfirst, heq⟩ := Option.map_eq_some_iff.1 h
      simp only [Prod.mk.injEq] at heq
      obtain ⟨-, rfl⟩ := heq
      exact ih hfirst

/-- No expression starts in front of the first one. -/
lemma leadingCode_of_firstCode (h : firstCode s = some (before, escaped, source, after))
    {front back : List Char} {c : Char} (hbefore : before = front ++ c :: back) :
    leadingCode (c :: back ++ ((Piece.code escaped source).written ++ after)) = none := by
  induction s generalizing before front with
  | nil => simp [firstCode] at h
  | cons d rest ih =>
    have hs := eq_of_firstCode h
    rw [firstCode] at h
    split at h
    · simp only [Option.some.injEq, Prod.mk.injEq] at h
      rw [hbefore] at h
      simp at h
    · rename_i hlead
      obtain ⟨⟨bef, code⟩, hfirst, heq⟩ := Option.map_eq_some_iff.1 h
      simp only [Prod.mk.injEq] at heq
      obtain ⟨rfl, rfl⟩ := heq
      cases front with
      | nil =>
        obtain ⟨rfl, rfl⟩ := List.cons.inj hbefore
        rw [← hs]
        exact hlead
      | cons e front =>
        obtain ⟨-, htail⟩ := List.cons.inj hbefore
        exact ih hfirst htail

/-- Nothing is opened in front of the first expression. -/
lemma not_holdsOpening_of_firstCode (h : firstCode s = some (before, escaped, source, after)) :
    ¬ HoldsOpening before := by
  have hopened {mark : Char} (hmark : mark = '=' ∨ mark = '-') :
      ¬ ['<', '%', mark] <:+: before := by
    rintro ⟨front, back, hbefore⟩
    have hbefore : before = front ++ '<' :: '%' :: mark :: back := by
      rw [← hbefore]
      simp
    have hnone := leadingCode_of_firstCode h hbefore
    have hsome := isSome_leadingCode_append hmark back escaped source after
    rw [List.cons_append, List.cons_append, List.cons_append] at hnone
    rw [hnone] at hsome
    cases hsome
  rintro (hwithin | hwithin)
  · exact hopened (.inl rfl) hwithin
  · exact hopened (.inr rfl) hwithin

/-- No expression is found exactly if the text holds none. -/
lemma firstCode_eq_none_iff : firstCode s = none ↔ ¬ HoldsCode s := by
  constructor
  · rintro h ⟨escaped, source, hne, before, after, rfl⟩
    obtain ⟨c, source, rfl⟩ := List.exists_cons_of_ne_nil hne
    have hclosed : ['%', '>'] <:+: source ++ ['%', '>'] ++ after := ⟨source, after, by simp⟩
    have hlead : (leadingCode ((Piece.code escaped (c :: source)).written ++ after)).isSome := by
      cases escaped with
      | false => exact isSome_leadingCode (.inl rfl) hclosed
      | true => exact isSome_leadingCode (.inr rfl) hclosed
    have hfirst := isSome_firstCode_append hlead before
    rw [← List.append_assoc, h] at hfirst
    cases hfirst
  · intro h
    rw [Option.eq_none_iff_forall_not_mem]
    rintro ⟨before, escaped, source, after⟩ hfirst
    refine h ⟨escaped, source, (isWhole_of_firstCode hfirst).1, before, after, ?_⟩
    rw [eq_of_firstCode hfirst, List.append_assoc]

/-! ## Cuts put together -/

lemma isCut_nil : IsCut [] [] := ⟨rfl, by simp, .nil, by simp⟩

/-- A text without a complete expression is a single piece. -/
lemma isCut_literal (hne : s ≠ []) (hcode : ¬ HoldsCode s) : IsCut s [.literal s] where
  written_eq := by simp [Piece.written]
  whole p hp := by
    rw [List.mem_singleton.1 hp]
    exact ⟨hne, hcode⟩
  apart := .singleton _
  not_opened := by simp

/-- A whole expression in front of a cut makes a cut. -/
lemma IsCut.code (h : IsCut text ps) (hwhole : (Piece.code escaped source).IsWhole) :
    IsCut ((Piece.code escaped source).written ++ text) (.code escaped source :: ps) where
  written_eq := by rw [List.flatMap_cons, h.written_eq]
  whole := List.forall_mem_cons.2 ⟨hwhole, h.whole⟩
  apart := by
    cases ps with
    | nil => exact .singleton _
    | cons q ps => exact .cons_cons (fun hboth => hboth.1) h.apart
  not_opened p hp := by
    cases ps with
    | nil => simp at hp
    | cons q ps =>
      rw [List.dropLast_cons_cons, List.mem_cons] at hp
      obtain rfl | hp := hp
      · exact id
      · exact h.not_opened p hp

/-- Text without an opening in front of an expression makes a cut. -/
lemma IsCut.literal (h : IsCut text (.code escaped source :: ps)) (hne : before ≠ [])
    (hopening : ¬ HoldsOpening before) :
    IsCut (before ++ text) (.literal before :: .code escaped source :: ps) where
  written_eq := by
    rw [List.flatMap_cons, h.written_eq]
    rfl
  whole := List.forall_mem_cons.2
    ⟨⟨hne, fun hcode => hopening hcode.holdsOpening⟩, h.whole⟩
  apart := .cons_cons (fun hboth => hboth.2) h.apart
  not_opened p hp := by
    rw [List.dropLast_cons_cons, List.mem_cons] at hp
    obtain rfl | hp := hp
    · exact hopening
    · exact h.not_opened p hp

/-- What is behind the first piece of a cut is cut, too. -/
lemma IsCut.tail (h : IsCut text (p :: ps)) : IsCut (ps.flatMap Piece.written) ps where
  written_eq := rfl
  whole q hq := h.whole q (List.mem_cons_of_mem p hq)
  apart := h.apart.tail
  not_opened q hq := by
    cases ps with
    | nil => simp at hq
    | cons r ps => exact h.not_opened q (List.mem_cons_of_mem p hq)

/-! ## One cut -/

/-- The pieces of a text are a cut of it. -/
lemma isCut_pieces (s : List Char) : IsCut s (pieces s) := by
  fun_induction pieces s with
  | case1 s hfirst hempty =>
    obtain rfl := List.isEmpty_iff.1 hempty
    exact isCut_nil
  | case2 s hfirst hempty =>
    exact isCut_literal (fun hnil => hempty (List.isEmpty_iff.2 hnil))
      (firstCode_eq_none_iff.1 hfirst)
  | case3 s before escaped source after hfirst rest hempty ih =>
    obtain rfl := List.isEmpty_iff.1 hempty
    have hcut := ih.code (isWhole_of_firstCode hfirst)
    rw [eq_of_firstCode hfirst]
    exact hcut
  | case4 s before escaped source after hfirst rest hempty ih =>
    have hcut := ih.code (isWhole_of_firstCode hfirst)
    rw [eq_of_firstCode hfirst]
    exact hcut.literal (fun hnil => hempty (List.isEmpty_iff.2 hnil))
      (not_holdsOpening_of_firstCode hfirst)

lemma pieces_of_not_holdsCode (hne : s ≠ []) (hcode : ¬ HoldsCode s) : pieces s = [.literal s] := by
  have hfirst := firstCode_eq_none_iff.2 hcode
  rw [pieces]
  split <;> simp_all

lemma pieces_of_firstCode_nil (h : firstCode s = some ([], escaped, source, after)) :
    pieces s = .code escaped source :: pieces after := by
  rw [pieces]
  split <;> simp_all

/-- A cut is found again, piece by piece. -/
lemma IsCut.eq_pieces {s : List Char} {ps : List Piece} (h : IsCut s ps) : ps = pieces s := by
  obtain rfl := h.written_eq
  match ps, h with
  | [], h =>
    rw [List.flatMap_nil, pieces]
    rfl
  | [.literal text], h =>
    obtain ⟨hne, hcode⟩ := h.whole _ List.mem_cons_self
    rw [List.flatMap_singleton]
    exact (pieces_of_not_holdsCode hne hcode).symm
  | .literal _ :: .literal _ :: _, h =>
    exact absurd ⟨trivial, trivial⟩ (List.isChain_cons_cons.1 h.apart).1
  | .literal before :: .code escaped source :: ps, h =>
    -- literal text with something behind it opens nothing, so the first expression comes next
    have hopening : ¬ HoldsOpening before := h.not_opened (.literal before) List.mem_cons_self
    obtain ⟨hbefore, -⟩ := h.whole (.literal before) List.mem_cons_self
    obtain ⟨hne, hcloses⟩ := h.tail.whole (.code escaped source) List.mem_cons_self
    have hfirst := firstCode_append hopening hne hcloses escaped (ps.flatMap Piece.written)
    rw [List.flatMap_cons, List.flatMap_cons, ← List.append_assoc]
    rw [show (Piece.literal before).written = before from rfl, pieces_of_firstCode hfirst hbefore,
      ← h.tail.tail.eq_pieces]
  | .code escaped source :: ps, h =>
    obtain ⟨hne, hcloses⟩ := h.whole (.code escaped source) List.mem_cons_self
    have hlead := leadingCode_append hne hcloses escaped (ps.flatMap Piece.written)
    rw [List.flatMap_cons, pieces_of_firstCode_nil (firstCode_of_leadingCode hlead),
      ← h.tail.eq_pieces]

/-- A text has no other cut than its pieces. -/
lemma isCut_iff_eq_pieces : IsCut s ps ↔ ps = pieces s := by
  constructor
  · exact IsCut.eq_pieces
  · rintro rfl
    exact isCut_pieces s

/-- Only a text with a complete expression has a piece that is one. -/
lemma exists_code_mem_pieces_iff :
    (∃ escaped source, .code escaped source ∈ pieces s) ↔ (firstCode s).isSome := by
  rw [pieces]
  split
  · rename_i hfirst
    rw [hfirst]
    split <;> simp
  · rename_i before escaped source after hfirst
    rw [hfirst]
    refine iff_of_true ⟨escaped, source, ?_⟩ rfl
    dsimp only
    split <;> simp

end

lemma isExpr_toFragment_iff {p : Piece} :
    p.toFragment.isExpr = true ↔ ∃ escaped source, p = .code escaped source := by
  rcases p with text | ⟨_ | _, source⟩ <;> simp [Piece.toFragment, Fragment.isExpr]

/-- A text has one cut, and its scan gives the fragments that the pieces of this cut stand for: no
other fragments come from a cut of the text. There is an expression among them exactly if the text
is said to hold one, which means that a complete delimited expression stands in it. -/
theorem scan_eq_iff (text : String) :
    (∀ ps, IsCut text.toList ps ↔ ps = pieces text.toList) ∧
      (∀ fragments, (∃ ps, IsCut text.toList ps ∧ ps.map Piece.toFragment = fragments) ↔
        fragments = scan text) ∧
      (hasExpressions text = true ↔ ∃ fragment ∈ scan text, fragment.isExpr = true) ∧
      (hasExpressions text = true ↔ HoldsCode text.toList) := by
  refine ⟨fun ps => isCut_iff_eq_pieces, fun fragments => ?_, ?_, ?_⟩
  · simp only [isCut_iff_eq_pieces, exists_eq_left]
    exact eq_comm
  · rw [hasExpressions, ← exists_code_mem_pieces_iff, scan]
    simp only [List.mem_map, exists_exists_and_eq_and, isExpr_toFragment_iff]
    constructor
    · rintro ⟨escaped, source, hmem⟩
      exact ⟨_, hmem, escaped, source, rfl⟩
    · rintro ⟨_, hmem, escaped, source, rfl⟩
      exact ⟨escaped, source, hmem⟩
  · rw [hasExpressions, Option.isSome_iff_ne_none, Ne, firstCode_eq_none_iff, not_not]

/-- A closing delimiter right behind the opening one belongs to the source, and what is opened and
never closed is text. -/
example : scan "a<%=%>b%><%-" = [.raw "a", .expr "%>b", .raw "<%-"] := by cbv

end Template
end Bindery
