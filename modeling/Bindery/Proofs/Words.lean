import Bindery.Text.Blank
import Mathlib.Data.List.Basic
import Mathlib.Tactic.Lemma

/-!
# Words of a text in parts

The words of a text in two parts are those of its parts, unless a word goes on across the seam
(`Meet`): then there is one word less. So what becomes of the words of a text when blank parts of it
are dropped depends on what stands around these parts: the words stay the same unless a dropped
blank was all that stood between two words (`words_kept_eq_iff`).
-/

namespace Bindery
namespace Text

/-- A word goes on from the end of a text to the start of another. -/
def Meet (s t : List Char) : Prop :=
  (∃ c ∈ s.getLast?, isBlank c = false) ∧ ∃ c ∈ t.head?, isBlank c = false

section

variable {begun s t b : List Char} {c : Char}

/-! ## Words across a seam -/

@[simp] lemma words_nil : words [] = [] := rfl

/-- A blank ends the word that was begun. -/
lemma wordsFrom_blank_cons (hc : isBlank c = true) :
    wordsFrom begun (c :: s) = wordsFrom begun [] ++ words s := by
  rw [words]
  simp only [wordsFrom, hc, if_true]
  split <;> rfl

lemma wordsFrom_cons (hc : ¬ isBlank c = true) :
    wordsFrom begun (c :: s) = wordsFrom (c :: begun) s := by
  rw [wordsFrom, if_neg hc]

/-- A blank parts the words in front of it from those behind it, whatever was begun. -/
lemma wordsFrom_append_blank (hc : isBlank c = true) :
    wordsFrom begun (s ++ c :: t) = wordsFrom begun s ++ words t := by
  induction s generalizing begun with
  | nil => exact wordsFrom_blank_cons hc
  | cons d s ih =>
    rw [List.cons_append]
    by_cases hd : isBlank d = true
    · rw [wordsFrom_blank_cons hd, wordsFrom_blank_cons hd, words, ih, List.append_assoc]
      rfl
    · rw [wordsFrom_cons hd, wordsFrom_cons hd, ih]

/-- No word goes across a blank. -/
lemma words_append_blank (hc : isBlank c = true) : words (s ++ c :: t) = words s ++ words t :=
  wordsFrom_append_blank hc

lemma words_blank_cons (hc : isBlank c = true) : words (c :: t) = words t :=
  words_append_blank (s := []) hc

/-- Several blanks in front add no word. -/
lemma words_blanks_append (hb : ∀ c ∈ b, isBlank c = true) : words (b ++ t) = words t := by
  induction b with
  | nil => rfl
  | cons c b ih =>
    rw [List.cons_append, words_blank_cons (hb c List.mem_cons_self),
      ih fun d hd => hb d (List.mem_cons_of_mem c hd)]

/-- Blanks part the words in front of them from those behind them. -/
lemma words_append_blanks_append (hb : ∀ c ∈ b, isBlank c = true) (hne : b ≠ []) :
    words (s ++ (b ++ t)) = words s ++ words t := by
  obtain ⟨c, b, rfl⟩ := List.exists_cons_of_ne_nil hne
  rw [List.cons_append, words_append_blank (hb c List.mem_cons_self),
    words_blanks_append fun d hd => hb d (List.mem_cons_of_mem c hd)]

/-- Two texts that do not meet have the words of both. -/
lemma words_append_of_not_meet (h : ¬ Meet s t) : words (s ++ t) = words s ++ words t := by
  rcases List.eq_nil_or_concat s with rfl | ⟨s, c, rfl⟩
  · rfl
  · cases t with
    | nil => rw [List.append_nil, words_nil, List.append_nil]
    | cons d t =>
      by_cases hc : isBlank c = true
      · rw [List.concat_eq_append, List.append_assoc, List.singleton_append,
          words_append_blank hc, words_append_blank hc, words_nil, List.append_nil]
      · by_cases hd : isBlank d = true
        · rw [words_append_blank hd, words_blank_cons hd]
        · exact absurd ⟨⟨c, by simp, by simpa using hc⟩, d, by simp, by simpa using hd⟩ h

/-- How many words there are does not depend on how far the first of them has come. -/
lemma length_wordsFrom_cons (d : Char) :
    (wordsFrom (c :: begun) s).length = (wordsFrom [d] s).length := by
  induction s generalizing c begun d with
  | nil => rfl
  | cons e s ih =>
    by_cases he : isBlank e = true
    · rw [wordsFrom_blank_cons he, wordsFrom_blank_cons he]
      rfl
    · rw [wordsFrom_cons he, wordsFrom_cons he]
      exact (ih d).trans (ih d).symm

/-- Where two texts meet, one word less is counted than in both of them. -/
lemma length_wordsFrom_append (hc : isBlank c = false) {d : Char} (hd : isBlank d = false) :
    (wordsFrom begun (s ++ c :: d :: t)).length + 1
      = (wordsFrom begun (s ++ [c])).length + (words (d :: t)).length := by
  induction s generalizing begun with
  | nil =>
    rw [List.nil_append, List.nil_append, words]
    simp only [wordsFrom, hc, hd, Bool.false_eq_true, if_false]
    rw [length_wordsFrom_cons d]
    simp [Nat.add_comm]
  | cons e s ih =>
    by_cases he : isBlank e = true
    · rw [List.cons_append, List.cons_append, wordsFrom_blank_cons he, wordsFrom_blank_cons he,
        List.length_append, List.length_append, words, words, Nat.add_assoc, ih, Nat.add_assoc]
    · rw [List.cons_append, List.cons_append, wordsFrom_cons he, wordsFrom_cons he, ih]

/-- A word that goes on across the seam is one word less. -/
lemma length_words_append_of_meet (h : Meet s t) :
    (words (s ++ t)).length + 1 = (words s).length + (words t).length := by
  obtain ⟨⟨c, hs, hc⟩, d, ht, hd⟩ := h
  obtain ⟨s, rfl⟩ := List.getLast?_eq_some_iff.1 hs
  obtain ⟨t, rfl⟩ := List.head?_eq_some_iff.1 ht
  rw [List.append_assoc]
  exact length_wordsFrom_append hc hd

/-- Two texts together have no more words than each for itself. -/
lemma length_words_append_le : (words (s ++ t)).length ≤ (words s).length + (words t).length := by
  by_cases h : Meet s t
  · have hlength := length_words_append_of_meet h
    omega
  · refine Nat.le_of_eq ?_
    rw [words_append_of_not_meet h, List.length_append]

end

/-! ## Texts in which blank parts are dropped -/

section

variable {α : Type} (text : α → List Char) (keep : α → Bool)

/-- A part is dropped that is all that stands between two words. -/
def Joins (parts : List α) : Prop :=
  ∃ before part after, parts = before ++ part :: after ∧ keep part = false ∧ text part ≠ [] ∧
    Meet ((before.filter keep).flatMap text) ((after.filter keep).flatMap text)

end

section

variable {α : Type} {text : α → List Char} {keep : α → Bool} {parts : List α}

/-- No words are added by dropping blank parts. -/
lemma length_words_kept_le (hblank : ∀ part ∈ parts, keep part = false → ∀ c ∈ text part,
    isBlank c = true) (s : List Char) :
    (words (s ++ (parts.filter keep).flatMap text)).length
      ≤ (words (s ++ parts.flatMap text)).length := by
  induction parts generalizing s with
  | nil => exact Nat.le_refl _
  | cons part parts ih =>
    have hrest := ih fun part hpart => hblank part (List.mem_cons_of_mem _ hpart)
    rw [List.flatMap_cons]
    cases hkeep : keep part with
    | true =>
      rw [List.filter_cons_of_pos hkeep, List.flatMap_cons, ← List.append_assoc,
        ← List.append_assoc]
      exact hrest (s ++ text part)
    | false =>
      rw [List.filter_cons_of_neg (by simp [hkeep])]
      by_cases hne : text part = []
      · rw [hne, List.nil_append]
        exact hrest s
      · rw [words_append_blanks_append (hblank part List.mem_cons_self hkeep) hne,
          List.length_append]
        have hkept := hrest []
        rw [List.nil_append, List.nil_append] at hkept
        exact Nat.le_trans length_words_append_le (Nat.add_le_add_left hkept _)

lemma Meet.append_left {s t : List Char} (h : Meet s t) (front : List Char) :
    Meet (front ++ s) t := by
  obtain ⟨⟨c, hs, hc⟩, ht⟩ := h
  obtain ⟨s, rfl⟩ := List.getLast?_eq_some_iff.1 hs
  exact ⟨⟨c, by simp, hc⟩, ht⟩

/-- The words stay the same where no dropped part stands between two words. -/
lemma words_kept_eq (hblank : ∀ part ∈ parts, keep part = false → ∀ c ∈ text part, isBlank c = true)
    (s : List Char)
    (h : ∀ before part after, parts = before ++ part :: after → keep part = false →
      text part ≠ [] →
        ¬ Meet (s ++ (before.filter keep).flatMap text) ((after.filter keep).flatMap text)) :
    words (s ++ (parts.filter keep).flatMap text) = words (s ++ parts.flatMap text) := by
  induction parts generalizing s with
  | nil => rfl
  | cons part parts ih =>
    have hrest := ih fun part hpart => hblank part (List.mem_cons_of_mem _ hpart)
    rw [List.flatMap_cons]
    cases hkeep : keep part with
    | true =>
      rw [List.filter_cons_of_pos hkeep, List.flatMap_cons, ← List.append_assoc,
        ← List.append_assoc]
      refine hrest (s ++ text part) fun before dropped after heq hdropped hne => ?_
      have hno := h (part :: before) dropped after (by rw [heq]; rfl) hdropped hne
      rwa [List.filter_cons_of_pos hkeep, List.flatMap_cons, ← List.append_assoc] at hno
    | false =>
      have hskip (before : List α) : (part :: before).filter keep = before.filter keep :=
        List.filter_cons_of_neg (by simp [hkeep])
      rw [hskip]
      by_cases hne : text part = []
      · rw [hne, List.nil_append]
        refine hrest s fun before dropped after heq hdropped hne => ?_
        have hno := h (part :: before) dropped after (by rw [heq]; rfl) hdropped hne
        rwa [hskip] at hno
      · have hseam := h [] part parts rfl hkeep hne
        rw [List.filter_nil, List.flatMap_nil, List.append_nil] at hseam
        have hafter := hrest [] fun before dropped after heq hdropped hne hmeet => by
          have hno := h (part :: before) dropped after (by rw [heq]; rfl) hdropped hne
          rw [hskip] at hno
          exact hno (hmeet.append_left s)
        rw [words_append_blanks_append (hblank part List.mem_cons_self hkeep) hne,
          words_append_of_not_meet hseam]
        exact congrArg (words s ++ ·) hafter

/-- Dropping blank parts leaves the words the same exactly if it joins none of them. -/
lemma words_kept_eq_iff
    (hblank : ∀ part ∈ parts, keep part = false → ∀ c ∈ text part, isBlank c = true) :
    words ((parts.filter keep).flatMap text) = words (parts.flatMap text)
      ↔ ¬ Joins text keep parts := by
  constructor
  · rintro heq ⟨before, part, after, rfl, hkeep, hne, hmeet⟩
    have hbefore := length_words_kept_le
      (fun part hpart => hblank part (List.mem_append_left _ hpart)) []
    have hafter := length_words_kept_le
      (fun part hpart => hblank part (List.mem_append_right _ (List.mem_cons_of_mem _ hpart))) []
    have hjoined := length_words_append_of_meet hmeet
    have hlength := congrArg List.length heq
    have hpart := hblank part (List.mem_append_right _ List.mem_cons_self) hkeep
    rw [List.filter_append, List.filter_cons_of_neg (by simp [hkeep]), List.flatMap_append,
      List.flatMap_append, List.flatMap_cons, words_append_blanks_append hpart hne,
      List.length_append] at hlength
    simp only [List.nil_append] at hbefore hafter
    omega
  · intro h
    refine words_kept_eq hblank [] fun before part after heq hkeep hne hmeet => ?_
    exact h ⟨before, part, after, heq, hkeep, hne, hmeet⟩

end

/-! ## Words parted by single spaces -/

section

variable {begun w s : List Char}

/-- A word that ends with the text is not empty and holds no blank. -/
lemma mem_wordsFrom_nil (hbegun : ∀ c ∈ begun, isBlank c = false) (h : w ∈ wordsFrom begun []) :
    w ≠ [] ∧ ∀ c ∈ w, isBlank c = false := by
  rw [wordsFrom] at h
  split at h
  · exact absurd h List.not_mem_nil
  · rename_i hne
    rw [List.mem_singleton.1 h]
    refine ⟨?_, fun c hc => hbegun c (List.mem_reverse.1 hc)⟩
    rw [Ne, List.reverse_eq_nil_iff]
    exact fun hnil => hne (List.isEmpty_iff.2 hnil)

/-- A word has characters, and none of them is blank. -/
lemma mem_wordsFrom (hbegun : ∀ c ∈ begun, isBlank c = false) (h : w ∈ wordsFrom begun s) :
    w ≠ [] ∧ ∀ c ∈ w, isBlank c = false := by
  induction s generalizing begun with
  | nil => exact mem_wordsFrom_nil hbegun h
  | cons c s ih =>
    by_cases hc : isBlank c = true
    · rw [wordsFrom_blank_cons hc, List.mem_append] at h
      obtain h | h := h
      · exact mem_wordsFrom_nil hbegun h
      · exact ih (fun _ hnil => absurd hnil List.not_mem_nil) h
    · rw [wordsFrom_cons hc] at h
      exact ih (List.forall_mem_cons.2 ⟨by simpa using hc, hbegun⟩) h

lemma wordsFrom_of_forall_not_blank (h : ∀ c ∈ w, isBlank c = false) :
    wordsFrom begun w = wordsFrom (w.reverse ++ begun) [] := by
  induction w generalizing begun with
  | nil => rfl
  | cons c w ih =>
    have hc : ¬ isBlank c = true := by simp [h c List.mem_cons_self]
    rw [wordsFrom_cons hc, ih fun d hd => h d (List.mem_cons_of_mem c hd), List.reverse_cons,
      List.append_assoc, List.singleton_append]

/-- A word is the one word of itself. -/
lemma words_of_forall_not_blank (hne : w ≠ []) (h : ∀ c ∈ w, isBlank c = false) :
    words w = [w] := by
  rw [words, wordsFrom_of_forall_not_blank h, List.append_nil, wordsFrom, if_neg,
    List.reverse_reverse]
  rw [List.isEmpty_iff, List.reverse_eq_nil_iff]
  exact hne

/-- Words that are parted by single spaces are found again. -/
lemma words_intercalate {ws : List (List Char)}
    (h : ∀ w ∈ ws, w ≠ [] ∧ ∀ c ∈ w, isBlank c = false) :
    words (" ".intercalate (ws.map String.ofList)).toList = ws := by
  induction ws with
  | nil => rfl
  | cons w ws ih =>
    obtain ⟨hne, hword⟩ := h w List.mem_cons_self
    have hrest := ih fun v hv => h v (List.mem_cons_of_mem w hv)
    cases ws with
    | nil =>
      rw [List.map_singleton, String.intercalate_singleton, String.toList_ofList]
      exact words_of_forall_not_blank hne hword
    | cons v ws =>
      rw [List.map_cons] at hrest
      rw [List.map_cons, List.map_cons, String.intercalate_cons_cons, String.toList_append,
        String.toList_append, String.toList_ofList, List.append_assoc]
      rw [show " ".toList = [' '] from rfl, List.singleton_append, words_append_blank (by decide),
        words_of_forall_not_blank hne hword, hrest]
      rfl

end

/-- A text whose blanks are collapsed has the words that it had. -/
lemma words_collapse (s : String) : words (collapse s).toList = words s.toList :=
  words_intercalate fun _ hw => mem_wordsFrom (fun _ hnil => absurd hnil List.not_mem_nil) hw

/-- Texts are collapsed to the same exactly if they have the same words. -/
lemma collapse_eq_iff {s t : String} :
    collapse s = collapse t ↔ words s.toList = words t.toList := by
  constructor
  · intro h
    rw [← words_collapse s, h, words_collapse t]
  · intro h
    rw [collapse, collapse, h]

end Text
end Bindery
