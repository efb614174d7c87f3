import Bindery.Proofs.Template.Cutting
import Bindery.Proofs.Template.Placeholder
import Bindery.Text.Markup
import Mathlib.Data.List.Intervals
import Mathlib.Tactic.Lemma

/-!
# Texts with placeholders in them

`Marked` relates a text to the indices of the placeholders that were put into it, in order. What is
between them is literal text. The relation composes (`Marked.append`), escaping keeps it
(`Marked.escape`), and a marked text is a text of runs and placeholders
(`Marked.exists_interleave`). Writing fragments puts one placeholder into the text for every
expression (`Environment.substitute_marked`).
-/

namespace Bindery
namespace Template

variable {tildes : Bool} {indices others : List Nat} {s t : List Char}

/-! ## Literal characters -/

/-- Whether a character may stand between placeholders; `tildes` says whether a tilde may. -/
def IsLiteral (tildes : Bool) (c : Char) : Prop := tildes = true ∨ c ≠ '~'

/-- Whether a text may stand between placeholders. -/
def IsLiteralText (tildes : Bool) (text : String) : Prop := ∀ c ∈ text.toList, IsLiteral tildes c

/-- Whether a placeholder may hold a character. -/
def isMarkChar (c : Char) : Bool := c = '~' || c = '-' || c.isAlphanum

/-- A placeholder consists of its own characters. -/
lemma isMarkChar_of_mem_placeholder {i : Nat} {c : Char} (h : c ∈ (placeholder i).toList) :
    isMarkChar c = true := by
  rw [toList_placeholder, List.mem_append, List.mem_append] at h
  have hstart : placeholderStart.all isMarkChar = true := by decide
  have htildes : ['~', '~'].all isMarkChar = true := by decide
  rcases h with h | h | h
  · exact List.all_eq_true.1 hstart c h
  · have hdigit := List.all_eq_true.1 (all_isDigit_toDigits i) c h
    simp [isMarkChar, Char.isAlphanum, hdigit]
  · exact List.all_eq_true.1 htildes c h

/-! ## Marked texts -/

/-- A text of literal characters and of the placeholders of given indices, in order. -/
inductive Marked (tildes : Bool) : List Nat → List Char → Prop
  | nil : Marked tildes [] []
  | char {indices : List Nat} {s : List Char} (c : Char) (hc : IsLiteral tildes c)
      (hs : Marked tildes indices s) : Marked tildes indices (c :: s)
  | mark {indices : List Nat} {s : List Char} (i : Nat) (hs : Marked tildes indices s) :
      Marked tildes (i :: indices) ((placeholder i).toList ++ s)

namespace Marked

/-- Text without placeholders. -/
lemma literal (h : ∀ c ∈ s, IsLiteral tildes c) : Marked tildes [] s := by
  induction s with
  | nil => exact .nil
  | cons c s ih =>
    exact .char c (h c List.mem_cons_self) (ih fun d hd => h d (List.mem_cons_of_mem c hd))

/-- Text without tildes. -/
lemma constant (h : '~' ∉ s) : Marked tildes [] s :=
  literal fun _ hc => .inr fun heq => h (heq ▸ hc)

lemma placeholder (i : Nat) : Marked tildes [i] (Template.placeholder i).toList := by
  rw [← List.append_nil (Template.placeholder i).toList]
  exact .mark i .nil

lemma append (hs : Marked tildes indices s) (ht : Marked tildes others t) :
    Marked tildes (indices ++ others) (s ++ t) := by
  induction hs with
  | nil => exact ht
  | char c hc _ ih => exact .char c hc ih
  | mark i _ ih =>
    rw [List.append_assoc]
    exact .mark i ih

/-- The sum of two texts. -/
lemma append_text {a b : String} (ha : Marked tildes indices a.toList)
    (hb : Marked tildes others b.toList) : Marked tildes (indices ++ others) (a ++ b).toList := by
  rw [String.toList_append]
  exact ha.append hb

/-- Text without placeholders in front of a text. -/
lemma const_append {a b : String} (ha : '~' ∉ a.toList) (hb : Marked tildes indices b.toList) :
    Marked tildes indices (a ++ b).toList := (constant ha).append_text hb

/-- Text without placeholders behind a text. -/
lemma append_const {a b : String} (ha : Marked tildes indices a.toList) (hb : '~' ∉ b.toList) :
    Marked tildes indices (a ++ b).toList := by
  have h := ha.append_text (constant hb)
  rwa [List.append_nil] at h

/-- The sum of texts without placeholders. -/
lemma join {texts : List String} (h : ∀ text ∈ texts, Marked tildes [] text.toList) :
    Marked tildes [] (String.join texts).toList := by
  induction texts with
  | nil => exact .nil
  | cons text texts ih =>
    rw [String.join_cons]
    exact (h text List.mem_cons_self).append_text
      (ih fun other hother => h other (List.mem_cons_of_mem text hother))

/-- Texts without placeholders with a text without tildes between each two. -/
lemma intercalate {separator : String} (hseparator : '~' ∉ separator.toList) {texts : List String}
    (h : ∀ text ∈ texts, Marked tildes [] text.toList) :
    Marked tildes [] (separator.intercalate texts).toList := by
  induction texts with
  | nil => exact .nil
  | cons text texts ih =>
    have hfirst := h text List.mem_cons_self
    have hrest := ih fun other hother => h other (List.mem_cons_of_mem text hother)
    cases texts with
    | nil =>
      rw [String.intercalate_singleton]
      exact hfirst
    | cons other texts =>
      rw [String.intercalate_cons_cons]
      exact (hfirst.append_const hseparator).append_text hrest

/-- Characters may be replaced, if those of placeholders are not, and the replacements hold no
tildes. -/
lemma flatMap {f : Char → List Char} (hmark : ∀ c, isMarkChar c = true → f c = [c])
    (hother : ∀ c, ∀ d ∈ f c, d = c ∨ d ≠ '~') (h : Marked tildes indices s) :
    Marked tildes indices (s.flatMap f) := by
  induction h with
  | nil => exact .nil
  | char c hc _ ih =>
    have hfirst : Marked tildes [] (f c) := literal fun d hd => by
      rcases hother c d hd with rfl | hne
      · exact hc
      · exact .inr hne
    exact hfirst.append ih
  | mark i _ ih =>
    have hfixed : (Template.placeholder i).toList.flatMap f = (Template.placeholder i).toList := by
      rw [List.flatMap_congr fun c hc => hmark c (isMarkChar_of_mem_placeholder hc),
        List.flatMap_singleton']
    rw [List.flatMap_append, hfixed]
    exact .mark i ih

/-- Escaping keeps the placeholders of a text. -/
lemma escape {entity : Char → Option String} (hmark : ∀ c, isMarkChar c = true → entity c = none)
    (hother : ∀ c text, entity c = some text → '~' ∉ text.toList) {text : String}
    (h : Marked tildes indices text.toList) :
    Marked tildes indices (Text.escapeWith entity text).toList := by
  rw [Text.escapeWith, String.toList_ofList]
  refine h.flatMap (fun c hc => ?_) fun c d hd => ?_
  · rw [hmark c hc]
    rfl
  · cases hentity : entity c with
    | none =>
      rw [hentity] at hd
      exact .inl (List.mem_singleton.1 hd)
    | some text =>
      rw [hentity] at hd
      exact .inr fun heq => hother c text hentity (heq ▸ hd)

/-- A marked text consists of runs and placeholders. -/
lemma exists_interleave (h : Marked tildes indices s) :
    ∃ first marked, s = (interleave first marked).toList ∧ marked.map Prod.fst = indices ∧
      IsLiteralText tildes first ∧ ∀ m ∈ marked, IsLiteralText tildes m.2 := by
  induction h with
  | nil => exact ⟨"", [], rfl, rfl, by simp [IsLiteralText], by simp⟩
  | @char indices s c hc _ ih =>
    obtain ⟨first, marked, rfl, hindices, hfirst, hmarked⟩ := ih
    refine ⟨String.singleton c ++ first, marked, ?_, hindices, ?_, hmarked⟩
    · simp [interleave]
    · intro d hd
      rw [String.toList_append, String.toList_singleton, List.mem_append, List.mem_singleton] at hd
      rcases hd with rfl | hd
      · exact hc
      · exact hfirst d hd
  | @mark indices s i _ ih =>
    obtain ⟨first, marked, rfl, hindices, hfirst, hmarked⟩ := ih
    refine ⟨"", (i, first) :: marked, ?_, ?_, by simp [IsLiteralText], ?_⟩
    · rw [toList_interleave_cons]
      rfl
    · rw [List.map_cons, hindices]
    · intro m hm
      rcases List.mem_cons.1 hm with rfl | hm
      · exact hfirst
      · exact hmarked m hm

end Marked

/-- Text without tildes does not hold the start of a placeholder. -/
lemma isRun_of_isLiteralText {text : String} (h : IsLiteralText false text) :
    IsRun text.toList := by
  intro hstart
  have hmem : '~' ∈ text.toList := hstart.subset (by decide)
  rcases h '~' hmem with hfalse | hne
  · exact absurd hfalse (by decide)
  · exact hne rfl

/-! ## Numbers of placeholders -/

/-- The numbers that an environment gave away while it grew, each once. -/
def Numbered (before after : Nat) (indices : List Nat) : Prop :=
  before ≤ after ∧ indices.Perm (List.Ico before after)

namespace Numbered

variable {a b c : Nat}

lemma refl (a : Nat) : Numbered a a [] := by
  refine ⟨le_refl a, ?_⟩
  rw [List.Ico.self_empty]

lemma ico (h : a ≤ b) : Numbered a b (List.Ico a b) := ⟨h, .refl _⟩

lemma append (hs : Numbered a b indices) (ht : Numbered b c others) :
    Numbered a c (indices ++ others) := by
  refine ⟨hs.1.trans ht.1, ?_⟩
  rw [← List.Ico.append_consecutive hs.1 ht.1]
  exact hs.2.append ht.2

lemma perm (h : Numbered a b indices) (hperm : others.Perm indices) : Numbered a b others :=
  ⟨h.1, hperm.trans h.2⟩

/-- There are as many numbers as the counter has gone on. -/
lemma length_eq (h : Numbered a b indices) : indices.length = b - a := by
  rw [h.2.length_eq, List.Ico.length]

end Numbered

/-! ## Writing fragments -/

/-- The number of expressions in a text. -/
def expressionCount (text : String) : Nat := (scan text).countP Fragment.isExpr

/-- A text without an expression counts none. -/
lemma expressionCount_eq_zero {text : String} (h : hasExpressions text = false) :
    expressionCount text = 0 := by
  have hnone : firstCode text.toList = none := by simpa [hasExpressions] using h
  rw [expressionCount, scan, pieces]
  split
  · split
    · rfl
    · rfl
  · rename_i hfirst
    rw [hnone] at hfirst
    simp at hfirst

/-- The literal parts of a text are literal if the text is. -/
lemma IsLiteralText.of_mem_scan {text part : String} (htext : IsLiteralText tildes text)
    (h : .raw part ∈ scan text) : IsLiteralText tildes part := by
  intro c hc
  obtain ⟨piece, hpiece, heq⟩ := List.mem_map.1 h
  have hwritten : c ∈ piece.written := by
    cases piece with
    | literal literal =>
      simp only [Piece.toFragment, Fragment.raw.injEq] at heq
      rw [← heq, String.toList_ofList] at hc
      exact hc
    | code escaped source => cases escaped <;> simp [Piece.toFragment] at heq
  refine htext c ?_
  -- the pieces are the text, so what stands in one stands in the text
  rw [← flatMap_written_pieces text.toList]
  exact List.mem_flatMap.2 ⟨piece, hpiece, hwritten⟩

namespace Environment

/-- Written fragments hold one new placeholder for every expression, in order. -/
lemma substitute_marked (env : Environment) {fragments : List Fragment}
    (h : ∀ part, .raw part ∈ fragments → IsLiteralText tildes part) :
    (env.substitute fragments).2.sources.length
        = env.sources.length + fragments.countP Fragment.isExpr ∧
      Marked tildes
        (List.Ico env.sources.length (env.substitute fragments).2.sources.length)
        (env.substitute fragments).1.toList := by
  induction fragments generalizing env with
  | nil =>
    rw [substitute, List.Ico.self_empty]
    exact ⟨rfl, .nil⟩
  | cons fragment fragments ih =>
    have hrest : ∀ part, .raw part ∈ fragments → IsLiteralText tildes part :=
      fun part hpart => h part (List.mem_cons_of_mem fragment hpart)
    cases fragment with
    | raw text =>
      obtain ⟨hlen, hmarked⟩ := ih env hrest
      exact ⟨hlen, (Marked.literal (h text List.mem_cons_self)).append_text hmarked⟩
    | expr source =>
      obtain ⟨hlen, hmarked⟩ := ih (env.replace source).2 hrest
      have hnext : (env.replace source).2.sources.length = env.sources.length + 1 := by
        simp [replace]
      -- the new number is the length so far, and the rest is numbered behind it
      rw [hnext] at hlen hmarked
      have hlen' : (env.substitute (.expr source :: fragments)).2.sources.length
          = env.sources.length + 1 + fragments.countP Fragment.isExpr := hlen
      refine ⟨?_, ?_⟩
      · rw [hlen', List.countP_cons_of_pos (by rfl)]
        omega
      · rw [hlen', List.Ico.eq_cons (by omega), ← hlen]
        exact (Marked.placeholder env.sources.length).append_text hmarked

/-- A text keeps its literal characters and gets one new placeholder for every expression. -/
lemma preprocess_marked (env : Environment) {text : String} (h : IsLiteralText tildes text) :
    (env.preprocess text).2.sources.length = env.sources.length + expressionCount text ∧
      Marked tildes (List.Ico env.sources.length (env.preprocess text).2.sources.length)
        (env.preprocess text).1.toList := by
  rw [preprocess]
  by_cases hexpr : hasExpressions text = true
  · rw [if_pos hexpr]
    exact env.substitute_marked fun part hpart => h.of_mem_scan hpart
  · rw [if_neg hexpr, expressionCount_eq_zero (by simpa using hexpr), List.Ico.self_empty]
    exact ⟨rfl, .literal h⟩

end Environment

end Template
end Bindery
