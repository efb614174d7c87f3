import Bindery.Template.Environment
import Mathlib.Data.List.Perm.Subperm
import Mathlib.Data.List.Infix
import Mathlib.Tactic.Lemma

/-!
# Placing sources back at their placeholders

Facts about `Environment.postprocess` on texts of the form `r₀ s(i₁) r₁ s(i₂) … s(iₖ) rₖ`, where
`s(i)` is the placeholder of `i`:

* the start of a placeholder has no border, so a placeholder that is written behind a run is the
  first that is found, unless the run and the tildes behind it read as one (`firstPlaceholder_run`);
* runs of which none does are `Inert`; runs without the characters that start a placeholder are;
* one step of `splice` then reads one index (`splice_placeholder`), and only inert runs give back
  the fragments that the text was made of (`splice_interleave`, `inert_of_splice`);
* `postprocess_interleave` assembles the steps: all indices once give the fragments in order, and
  anything else gives the error of the first index that does not fit, or of the count.
-/

namespace Bindery
namespace Template

/-- A run of text without the characters that start a placeholder. -/
def IsRun (s : List Char) : Prop := ¬ placeholderStart <:+: s

/-- A text that consists of a run and then, in turn, of placeholders and runs. -/
def interleave (first : String) (marked : List (Nat × String)) : String :=
  first ++ String.join (marked.map fun (index, run) => placeholder index ++ run)

/-- The fragments that such a text stands for: its runs, and the sources of its placeholders. -/
def interleaved (sources : List String) (first : String) (marked : List (Nat × String)) :
    List Fragment :=
  Environment.rawRun first.toList ++ marked.flatMap fun (index, run) =>
    (sources[index]?).toList.map .expr ++ Environment.rawRun run.toList

/-! ## The characters of a placeholder -/

/-- A start is dropped if the text begins with it. -/
lemma dropStart_eq_some_iff {start s rest : List Char} :
    dropStart start s = some rest ↔ s = start ++ rest := by
  induction start generalizing s with
  | nil => simp [dropStart, eq_comm]
  | cons p ps ih =>
    cases s with
    | nil => simp [dropStart]
    | cons c s =>
      rw [dropStart]
      by_cases h : p = c
      · rw [if_pos h, ih, h]
        simp
      · rw [if_neg h]
        simp [Ne.symm h]

lemma isDecimalDigit_of_isDigit {c : Char} (h : c.isDigit = true) :
    Text.isDecimalDigit c = true := by
  have hlt : c.toNat < 128 := by
    have hle := (Char.isDigit_iff_toNat.1 h).2
    have hnine : '9'.toNat = 57 := rfl
    omega
  rw [Text.isDecimalDigit, if_pos hlt]
  exact h

/-- A number is written in digits. -/
lemma all_isDigit_toDigits (n : Nat) : (Nat.toDigits 10 n).all Char.isDigit = true := by
  rw [List.all_eq_true]
  intro c hc
  exact Nat.isDigit_of_mem_toDigits (by omega) (by omega) hc

lemma toDigits_ne_nil (n : Nat) : Nat.toDigits 10 n ≠ [] := by
  intro h
  have hpos := Nat.length_toDigits_pos (b := 10) (n := n)
  rw [h] at hpos
  simp at hpos

/-- The digits of a placeholder stand for its index. -/
lemma readIndex_toDigits {i : Nat} (h : i ≤ maxIndex) : readIndex (Nat.toDigits 10 i) = some i := by
  have hvalue : Number.digitsValue (Nat.toDigits 10 i) = i := by
    have := Nat.ofDigitChars_ten_toDigits (n := i)
    rwa [Nat.ofDigitChars_eq_foldl] at this
  rw [readIndex, if_pos (all_isDigit_toDigits i), hvalue]
  exact if_pos h

/-- What a placeholder at the start of a text says about the text. -/
lemma eq_of_leadingPlaceholder {s digits after : List Char}
    (h : leadingPlaceholder s = some (digits, after)) :
    s = placeholderStart ++ (digits ++ '~' :: '~' :: after) ∧ digits ≠ [] ∧
      ∀ c ∈ digits, Text.isDecimalDigit c = true := by
  unfold leadingPlaceholder at h
  split at h
  · simp at h
  · rename_i body hdrop
    have hs := dropStart_eq_some_iff.1 hdrop
    have hcut := List.takeWhile_append_dropWhile (p := Text.isDecimalDigit) (l := body)
    split at h
    · simp at h
    · rename_i hrest hne
      simp only [Option.some.injEq, Prod.mk.injEq] at h
      obtain ⟨rfl, rfl⟩ := h
      refine ⟨?_, fun hnil => hne hnil, fun c hc => ?_⟩
      · rw [hs, ← hrest, hcut]
      · exact List.all_eq_true.1 List.all_takeWhile c hc
    · simp at h

/-- Such a text starts with a placeholder. -/
lemma leadingPlaceholder_eq_some {digits : List Char} (hne : digits ≠ [])
    (hall : ∀ c ∈ digits, Text.isDecimalDigit c = true) (after : List Char) :
    leadingPlaceholder (placeholderStart ++ (digits ++ '~' :: '~' :: after))
      = some (digits, after) := by
  have htilde : Text.isDecimalDigit '~' = false := by decide
  have hdrop : dropStart placeholderStart (placeholderStart ++ (digits ++ '~' :: '~' :: after))
      = some (digits ++ '~' :: '~' :: after) := dropStart_eq_some_iff.2 rfl
  have htake : (digits ++ '~' :: '~' :: after).takeWhile Text.isDecimalDigit = digits := by
    rw [List.takeWhile_append_of_pos hall, List.takeWhile_cons_of_neg (by simp [htilde])]
    simp
  have hrest : (digits ++ '~' :: '~' :: after).dropWhile Text.isDecimalDigit
      = '~' :: '~' :: after := by
    rw [List.dropWhile_append_of_pos hall, List.dropWhile_cons_of_neg (by simp [htilde])]
  rw [leadingPlaceholder, hdrop]
  dsimp only
  rw [htake, hrest]
  cases hdigits : digits with
  | nil => exact absurd hdigits hne
  | cons d ds => rfl

lemma toList_placeholder (i : Nat) :
    (placeholder i).toList = placeholderStart ++ (Nat.toDigits 10 i ++ ['~', '~']) := by
  simp [placeholder]

/-- A placeholder starts with two tildes. -/
lemma exists_toList_placeholder_append (i : Nat) (tail : List Char) :
    ∃ behind, (placeholder i).toList ++ tail = ['~', '~'] ++ behind := by
  have hstart : placeholderStart = ['~', '~'] ++ "replacement-".toList := by decide
  refine ⟨"replacement-".toList ++ (Nat.toDigits 10 i ++ ['~', '~'] ++ tail), ?_⟩
  rw [toList_placeholder, hstart]
  simp only [List.append_assoc]

/-- A placeholder at the start of a text is read whole. -/
lemma leadingPlaceholder_placeholder (i : Nat) (tail : List Char) :
    leadingPlaceholder ((placeholder i).toList ++ tail) = some (Nat.toDigits 10 i, tail) := by
  have hall : ∀ c ∈ Nat.toDigits 10 i, Text.isDecimalDigit c = true := fun c hc =>
    isDecimalDigit_of_isDigit (List.all_eq_true.1 (all_isDigit_toDigits i) c hc)
  have h := leadingPlaceholder_eq_some (toDigits_ne_nil i) hall tail
  rw [toList_placeholder]
  simpa using h

/-! ## The first placeholder of a text -/

/-- No proper end of the start of a placeholder is also its beginning. -/
private lemma placeholderStart_borderless :
    ∀ k < placeholderStart.length, 0 < k →
      placeholderStart.drop k ≠ placeholderStart.take (placeholderStart.length - k) := by
  decide

/-- The start of a placeholder does not reach from a run into the placeholder behind it. -/
private lemma start_prefix_of_append {run tail : List Char} (hne : run ≠ [])
    (h : placeholderStart <+: run ++ (placeholderStart ++ tail)) : placeholderStart <+: run := by
  rcases Nat.lt_or_ge run.length placeholderStart.length with hlt | hge
  · -- the start would overlap itself, shifted by the length of the run
    exfalso
    obtain ⟨rest, hrest⟩ := h
    have hpos : 0 < run.length := List.length_pos_iff.2 hne
    have hdrop := congrArg (List.drop run.length) hrest
    rw [List.drop_left, List.drop_append_of_le_length (Nat.le_of_lt hlt)] at hdrop
    have htake := congrArg (List.take (placeholderStart.length - run.length)) hdrop
    rw [List.take_append_of_le_length (by rw [List.length_drop]),
      List.take_append_of_le_length (by omega), List.take_of_length_le (by rw [List.length_drop])]
      at htake
    exact placeholderStart_borderless run.length hlt hpos htake
  · exact List.prefix_of_prefix_length_le h (List.prefix_append _ _) hge

/-- Behind a run that starts with no placeholder, not even together with two more tildes, a
placeholder does not make one start in the run. -/
private lemma leadingPlaceholder_append_placeholder {run : List Char} (hne : run ≠ [])
    (h : leadingPlaceholder (run ++ ['~', '~']) = none) (i : Nat) (tail : List Char) :
    leadingPlaceholder (run ++ ((placeholder i).toList ++ tail)) = none := by
  rw [Option.eq_none_iff_forall_ne_some]
  rintro ⟨digits, after⟩ hlead
  obtain ⟨heq, hdigits, hall⟩ := eq_of_leadingPlaceholder hlead
  rw [toList_placeholder, List.append_assoc] at heq
  obtain ⟨body, rfl⟩ := start_prefix_of_append hne ⟨_, heq.symm⟩
  -- digits and two tildes in the run would have been read before
  have hread (more : List Char) (hbody : body ++ ['~', '~'] = digits ++ '~' :: '~' :: more) :
      False := by
    rw [List.append_assoc, hbody, leadingPlaceholder_eq_some hdigits hall] at h
    simp at h
  rw [List.append_assoc, List.append_cancel_left_eq] at heq
  have hstart : placeholderStart = '~' :: '~' :: "replacement-".toList := by decide
  rcases List.append_eq_append_iff.1 heq with ⟨more, rfl, hmore⟩ | ⟨more, rfl, hmore⟩
  · -- the digits do not go on into the placeholder, which starts with a tilde
    cases more with
    | nil => exact hread [] (by simp)
    | cons d more =>
      rw [hstart] at hmore
      simp only [List.cons_append, List.cons.injEq] at hmore
      have hdigit := hall d (by simp)
      rw [← hmore.1] at hdigit
      exact absurd hdigit (by decide)
  · -- the run goes on behind the digits: by nothing, one tilde or both
    rw [hstart] at hmore
    rcases more with _ | ⟨c, _ | ⟨d, more⟩⟩
    · exact hread [] (by simp)
    · simp only [List.cons_append, List.nil_append, List.cons.injEq] at hmore
      exact hread ['~'] (by simp [← hmore.1])
    · simp only [List.cons_append, List.cons.injEq] at hmore
      exact hread (more ++ ['~', '~']) (by simp [← hmore.1, ← hmore.2.1])

lemma firstPlaceholder_of_leading {c : Char} {s digits after : List Char}
    (h : leadingPlaceholder (c :: s) = some (digits, after)) :
    firstPlaceholder (c :: s) = some ([], digits, after) := by
  rw [firstPlaceholder, h]

lemma firstPlaceholder_of_not_leading {c : Char} {s : List Char}
    (h : leadingPlaceholder (c :: s) = none) :
    firstPlaceholder (c :: s)
      = (firstPlaceholder s).map fun found => (c :: found.1, found.2) := by
  rw [firstPlaceholder, h]

/-- There is no placeholder if none is in front and none behind. -/
lemma firstPlaceholder_cons_eq_none {c : Char} {s : List Char} :
    firstPlaceholder (c :: s) = none ↔
      leadingPlaceholder (c :: s) = none ∧ firstPlaceholder s = none := by
  cases hlead : leadingPlaceholder (c :: s) with
  | some found => simp [firstPlaceholder_of_leading hlead]
  | none => simp [firstPlaceholder_of_not_leading hlead]

/-- A run without the start of a placeholder holds no placeholder. -/
lemma firstPlaceholder_eq_none {run : List Char} (h : IsRun run) : firstPlaceholder run = none := by
  induction run with
  | nil => rfl
  | cons c rest ih =>
    refine firstPlaceholder_cons_eq_none.2 ⟨?_, ih fun hs => ?_⟩
    · rw [Option.eq_none_iff_forall_ne_some]
      rintro ⟨digits, after⟩ hlead
      have hprefix : placeholderStart <+: c :: rest := ⟨_, (eq_of_leadingPlaceholder hlead).1.symm⟩
      exact h hprefix.isInfix
    · exact h (hs.trans (List.suffix_cons c rest).isInfix)

/-- Tildes at the end of a run do not complete the start of a placeholder. -/
lemma IsRun.append_tilde {run : List Char} (h : IsRun run) : IsRun (run ++ ['~']) := by
  intro hs
  rcases List.infix_concat_iff.1 hs with hsuffix | hinfix
  · have hlast : placeholderStart.getLast? = some '-' := by decide
    obtain ⟨before, hbefore⟩ := hsuffix
    have := congrArg List.getLast? hbefore
    rw [List.getLast?_append, hlast, List.getLast?_append] at this
    simp at this
  · exact h hinfix

/-- The first placeholder behind a run is the one written there, if the run reads as none together
with its tildes. -/
lemma firstPlaceholder_run {run : List Char} (h : firstPlaceholder (run ++ ['~', '~']) = none)
    (i : Nat) (tail : List Char) :
    firstPlaceholder (run ++ ((placeholder i).toList ++ tail))
      = some (run, Nat.toDigits 10 i, tail) := by
  induction run with
  | nil =>
    have hlead := leadingPlaceholder_placeholder i tail
    obtain ⟨c, rest, hcons⟩ : ∃ c rest, (placeholder i).toList ++ tail = c :: rest :=
      List.exists_cons_of_ne_nil (by simp [placeholder])
    rw [hcons] at hlead
    rw [List.nil_append, hcons, firstPlaceholder_of_leading hlead]
  | cons c rest ih =>
    obtain ⟨hnone, hrest⟩ := firstPlaceholder_cons_eq_none.1 h
    have hlead := leadingPlaceholder_append_placeholder (List.cons_ne_nil c rest) hnone i tail
    rw [List.cons_append] at hlead ⊢
    rw [firstPlaceholder_of_not_leading hlead, ih hrest]
    rfl

/-- A placeholder of a text is still read when the text goes on, or one before it. -/
lemma firstPlaceholder_append {s before digits after : List Char}
    (h : firstPlaceholder s = some (before, digits, after)) (tail : List Char) :
    ∃ before' digits' after', firstPlaceholder (s ++ tail) = some (before', digits', after') ∧
      before'.length + placeholderStart.length + 2 < s.length := by
  induction s generalizing before with
  | nil => simp [firstPlaceholder] at h
  | cons c rest ih =>
    cases hlead : leadingPlaceholder (c :: rest) with
    | some found =>
      obtain ⟨digits', after'⟩ := found
      obtain ⟨heq, hne, hall⟩ := eq_of_leadingPlaceholder hlead
      have hpos := List.length_pos_iff.2 hne
      have hread : leadingPlaceholder (c :: (rest ++ tail)) = some (digits', after' ++ tail) := by
        rw [← List.cons_append, heq, List.append_assoc, List.append_assoc]
        exact leadingPlaceholder_eq_some hne hall (after' ++ tail)
      refine ⟨[], digits', after' ++ tail, firstPlaceholder_of_leading hread, ?_⟩
      rw [heq]
      simp only [List.length_append, List.length_cons, List.length_nil]
      omega
    | none =>
      rw [firstPlaceholder_of_not_leading hlead] at h
      obtain ⟨⟨before, found⟩, hrest, heq⟩ := Option.map_eq_some_iff.1 h
      simp only [Prod.mk.injEq] at heq
      rw [heq.2] at hrest
      obtain ⟨before', digits', after', hfirst, hlt⟩ := ih hrest
      rw [List.cons_append]
      -- what was cut off may be a placeholder now that the text goes on
      cases hread : leadingPlaceholder (c :: (rest ++ tail)) with
      | some found =>
        refine ⟨[], found.1, found.2, firstPlaceholder_of_leading hread, ?_⟩
        simp only [List.length_nil, List.length_cons] at hlt ⊢
        omega
      | none =>
        refine ⟨c :: before', digits', after', ?_, ?_⟩
        · rw [firstPlaceholder_of_not_leading hread, hfirst]
          rfl
        · simp only [List.length_cons]
          omega

/-! ## Splicing -/

@[simp] lemma interleave_nil (first : String) : interleave first [] = first := by
  simp [interleave]

/-- A run, a placeholder, and the rest. -/
lemma toList_interleave_cons (first : String) (i : Nat) (run : String)
    (marked : List (Nat × String)) :
    (interleave first ((i, run) :: marked)).toList
      = first.toList ++ ((placeholder i).toList ++ (interleave run marked).toList) := by
  simp [interleave, String.join_cons]

/-- No run of such a text reads as a placeholder, not even together with the first tildes of the
placeholder behind it. -/
def Inert : String → List (Nat × String) → Prop
  | run, [] => holdsPlaceholder run = false
  | run, (_, next) :: marked => holdsPlaceholder (run ++ "~~") = false ∧ Inert next marked

lemma holdsPlaceholder_eq_false {text : String} :
    holdsPlaceholder text = false ↔ firstPlaceholder text.toList = none := by
  simp [holdsPlaceholder]

lemma inert_nil {run : String} : Inert run [] ↔ firstPlaceholder run.toList = none :=
  holdsPlaceholder_eq_false

lemma inert_cons {run next : String} {i : Nat} {marked : List (Nat × String)} :
    Inert run ((i, next) :: marked) ↔
      firstPlaceholder (run.toList ++ ['~', '~']) = none ∧ Inert next marked := by
  rw [Inert, holdsPlaceholder_eq_false, String.toList_append]
  rfl

/-- Runs that do not hold the start of a placeholder read as none. -/
lemma inert_of_isRun {first : String} {marked : List (Nat × String)} (hfirst : IsRun first.toList)
    (hmarked : ∀ m ∈ marked, IsRun m.2.toList) : Inert first marked := by
  induction marked generalizing first with
  | nil => exact inert_nil.2 (firstPlaceholder_eq_none hfirst)
  | cons m marked ih =>
    obtain ⟨i, run⟩ := m
    refine inert_cons.2 ⟨?_, ih (hmarked (i, run) List.mem_cons_self) fun m hm =>
      hmarked m (List.mem_cons_of_mem _ hm)⟩
    have htildes := hfirst.append_tilde.append_tilde
    rw [List.append_assoc] at htildes
    exact firstPlaceholder_eq_none htildes

namespace Environment

variable {sources : List String} {seen : List Nat}

/-- Behind the last placeholder only the number of indices is left to be checked. -/
lemma splice_run {run : List Char} (h : firstPlaceholder run = none) :
    splice sources seen run =
      if seen.length = sources.length then .ok (rawRun run)
      else .error (.count seen.length sources.length) := by
  rw [splice]
  split
  · rfl
  · rename_i hfirst
    rw [h] at hfirst
    simp at hfirst

/-- One step of splicing: the text before the first placeholder, and its index. -/
lemma splice_first {s before digits after : List Char}
    (h : firstPlaceholder s = some (before, digits, after)) :
    splice sources seen s =
      match readIndex digits with
      | none => .error (.unknown maxIndex sources.length)
      | some i =>
        match sources[i]? with
        | none => .error (.unknown i sources.length)
        | some source =>
          if i ∈ seen then .error (.duplicate i)
          else
            match splice sources (i :: seen) after with
            | .error e => .error e
            | .ok rest => .ok (rawRun before ++ .expr source :: rest) := by
  rw [splice]
  split
  · rename_i hfirst
    rw [h] at hfirst
    simp at hfirst
  · rename_i before' digits' after' hfirst
    rw [h] at hfirst
    simp only [Option.some.injEq, Prod.mk.injEq] at hfirst
    obtain ⟨rfl, rfl, rfl⟩ := hfirst
    rfl

/-- One step of splicing, where the placeholder is one that was written. -/
lemma splice_placeholder {run : List Char} (h : firstPlaceholder (run ++ ['~', '~']) = none)
    {i : Nat} (hi : i ≤ maxIndex) (tail : List Char) :
    splice sources seen (run ++ ((placeholder i).toList ++ tail)) =
      match sources[i]? with
      | none => .error (.unknown i sources.length)
      | some source =>
        if i ∈ seen then .error (.duplicate i)
        else
          match splice sources (i :: seen) tail with
          | .error e => .error e
          | .ok rest => .ok (rawRun run ++ .expr source :: rest) := by
  rw [splice_first (firstPlaceholder_run h i tail), readIndex_toDigits hi]

/-- A text that is spliced starts with the text before its first placeholder. -/
lemma splice_eq_ok {s before digits after : List Char} {fragments : List Fragment}
    (h : firstPlaceholder s = some (before, digits, after))
    (hok : splice sources seen s = .ok fragments) :
    ∃ source rest, fragments = rawRun before ++ .expr source :: rest := by
  rw [splice_first h] at hok
  split at hok
  · simp at hok
  · split at hok
    · simp at hok
    · split at hok
      · simp at hok
      · split at hok
        · simp at hok
        · rename_i source _ _ _ rest _
          simp only [Except.ok.injEq] at hok
          exact ⟨source, rest, hok.symm⟩

/-- Indices that did not come up yet are still new after another one came up. -/
private lemma fresh_cons {marked : List (Nat × String)} {n i : Nat}
    (hnew : ∀ m ∈ marked, m.1 < n ∧ m.1 ∉ seen) (hother : i ∉ marked.map Prod.fst) :
    ∀ m ∈ marked, m.1 < n ∧ m.1 ∉ i :: seen := by
  intro m hm
  obtain ⟨hlt, hunseen⟩ := hnew m hm
  refine ⟨hlt, fun hmem => ?_⟩
  rcases List.mem_cons.1 hmem with rfl | hmem
  · exact hother (List.mem_map.2 ⟨m, hm, rfl⟩)
  · exact hunseen hmem

/-- Indices that are registered and come up for the first time are read through: what decides is
whether they are all. -/
lemma splice_interleave {first : String} {marked : List (Nat × String)}
    (hinert : Inert first marked) (hindex : ∀ m ∈ marked, m.1 ≤ maxIndex)
    (hnew : ∀ m ∈ marked, m.1 < sources.length ∧ m.1 ∉ seen)
    (hnodup : (marked.map Prod.fst).Nodup) :
    splice sources seen (interleave first marked).toList =
      if seen.length + marked.length = sources.length then .ok (interleaved sources first marked)
      else .error (.count (seen.length + marked.length) sources.length) := by
  induction marked generalizing first seen with
  | nil =>
    rw [interleave_nil, splice_run (inert_nil.1 hinert)]
    simp [interleaved]
  | cons m marked ih =>
    obtain ⟨i, run⟩ := m
    obtain ⟨hfirst, hinert⟩ := inert_cons.1 hinert
    obtain ⟨hlt, hunseen⟩ := hnew (i, run) List.mem_cons_self
    obtain ⟨hother, hnodup⟩ := List.nodup_cons.1 hnodup
    have hrest := fresh_cons (fun m hm => hnew m (List.mem_cons_of_mem _ hm)) hother
    have hlen : (i :: seen).length + marked.length = seen.length + ((i, run) :: marked).length := by
      simp only [List.length_cons]
      omega
    rw [toList_interleave_cons, splice_placeholder hfirst (hindex (i, run) List.mem_cons_self),
      List.getElem?_eq_getElem hlt]
    dsimp only
    rw [if_neg hunseen, ih hinert (fun m hm => hindex m (List.mem_cons_of_mem _ hm)) hrest hnodup,
      hlen]
    by_cases hcount : seen.length + ((i, run) :: marked).length = sources.length
    · rw [if_pos hcount, if_pos hcount]
      simp [interleaved, List.getElem?_eq_getElem hlt]
    · rw [if_neg hcount, if_neg hcount]

lemma interleaved_nil (first : String) :
    interleaved sources first [] = rawRun first.toList := by
  simp [interleaved]

/-- A run, the source of a placeholder, and the rest. -/
lemma interleaved_cons {i : Nat} (hi : i < sources.length) (first run : String)
    (marked : List (Nat × String)) :
    interleaved sources first ((i, run) :: marked)
      = rawRun first.toList ++ .expr sources[i] :: interleaved sources run marked := by
  simp [interleaved, List.getElem?_eq_getElem hi]

/-- A shorter text before an expression gives other fragments. -/
private lemma rawRun_ne {before run : List Char} (hlt : before.length < run.length)
    {source : String} {rest others : List Fragment} :
    rawRun before ++ .expr source :: rest ≠ rawRun run ++ others := by
  intro heq
  have hrun : run.isEmpty = false := by
    cases run with
    | nil => simp at hlt
    | cons c run => rfl
  rw [rawRun, rawRun, hrun] at heq
  by_cases hbefore : before.isEmpty
  · simp [hbefore] at heq
  · simp only [hbefore, Bool.false_eq_true, if_false, List.cons_append, List.nil_append,
      List.cons.injEq, Fragment.raw.injEq, String.ofList_inj] at heq
    rw [heq.1] at hlt
    omega

/-- A comparison of fragments that takes none with a shorter text before an expression for the others,
and goes on behind what is the same in both. -/
structure Compares (same : List Fragment → List Fragment → Prop) : Prop where
  shorter {before run : List Char} {source : String} {rest others : List Fragment}
    (h : before.length < run.length) :
    ¬ same (rawRun before ++ .expr source :: rest) (rawRun run ++ others)
  behind {run : List Char} {source : String} {rest others : List Fragment}
    (h : same (rawRun run ++ .expr source :: rest) (rawRun run ++ .expr source :: others)) :
    same rest others

lemma compares_eq : Compares Eq where
  shorter h := rawRun_ne h
  behind h := by simpa using h

section

variable {same : List Fragment → List Fragment → Prop} {fragments : List Fragment}

/-- A run that reads as a placeholder, if only together with the tildes behind it, does not come
back whole. -/
private lemma not_same_rawRun (hsame : Compares same) {run : List Char} (ending : List Char)
    (hending : ending.length ≤ 2) (h : firstPlaceholder (run ++ ending) ≠ none)
    {behind : List Char} (hok : splice sources seen (run ++ ending ++ behind) = .ok fragments)
    (others : List Fragment) : ¬ same fragments (rawRun run ++ others) := by
  obtain ⟨⟨before, digits, after⟩, hfirst⟩ := Option.ne_none_iff_exists'.1 h
  obtain ⟨before, digits, after, hread, hshort⟩ := firstPlaceholder_append hfirst behind
  obtain ⟨source, rest, rfl⟩ := splice_eq_ok hread hok
  rw [List.length_append] at hshort
  exact hsame.shorter (by omega)

/-- Only inert runs give back what passes for the fragments that the text was made of. -/
lemma inert_of_same (hsame : Compares same) {first : String} {marked : List (Nat × String)}
    (hindex : ∀ m ∈ marked, m.1 ≤ maxIndex)
    (hnew : ∀ m ∈ marked, m.1 < sources.length ∧ m.1 ∉ seen)
    (hnodup : (marked.map Prod.fst).Nodup)
    (hok : splice sources seen (interleave first marked).toList = .ok fragments)
    (h : same fragments (interleaved sources first marked)) : Inert first marked := by
  induction marked generalizing first seen fragments with
  | nil =>
    rw [interleaved_nil, ← List.append_nil (rawRun first.toList)] at h
    refine inert_nil.2 ?_
    by_contra hfirst
    have hread : firstPlaceholder (first.toList ++ []) ≠ none := by rwa [List.append_nil]
    have hwhole : splice sources seen (first.toList ++ [] ++ []) = .ok fragments := by
      rwa [List.append_nil, List.append_nil, ← interleave_nil first]
    exact not_same_rawRun hsame [] (Nat.zero_le 2) hread hwhole [] h
  | cons m marked ih =>
    obtain ⟨i, run⟩ := m
    obtain ⟨hlt, hunseen⟩ := hnew (i, run) List.mem_cons_self
    obtain ⟨hother, hnodup⟩ := List.nodup_cons.1 hnodup
    rw [toList_interleave_cons] at hok
    rw [interleaved_cons hlt] at h
    have hfirst : firstPlaceholder (first.toList ++ ['~', '~']) = none := by
      by_contra hfirst
      obtain ⟨behind, hmark⟩ := exists_toList_placeholder_append i (interleave run marked).toList
      rw [hmark, ← List.append_assoc] at hok
      exact not_same_rawRun hsame ['~', '~'] (Nat.le_refl 2) hfirst hok _ h
    refine inert_cons.2 ⟨hfirst, ?_⟩
    rw [splice_placeholder hfirst (hindex (i, run) List.mem_cons_self),
      List.getElem?_eq_getElem hlt] at hok
    dsimp only at hok
    rw [if_neg hunseen] at hok
    have hrest := fresh_cons (fun m hm => hnew m (List.mem_cons_of_mem _ hm)) hother
    split at hok
    · simp at hok
    · rename_i rest hrestOk
      simp only [Except.ok.injEq] at hok
      subst hok
      exact ih (fun m hm => hindex m (List.mem_cons_of_mem _ hm)) hrest hnodup hrestOk
        (hsame.behind h)

end

/-- Only inert runs give back the fragments that the text was made of. -/
lemma inert_of_splice {first : String} {marked : List (Nat × String)}
    (hindex : ∀ m ∈ marked, m.1 ≤ maxIndex)
    (hnew : ∀ m ∈ marked, m.1 < sources.length ∧ m.1 ∉ seen)
    (hnodup : (marked.map Prod.fst).Nodup)
    (h : splice sources seen (interleave first marked).toList
      = .ok (interleaved sources first marked)) :
    Inert first marked :=
  inert_of_same compares_eq hindex hnew hnodup h rfl

/-- The first index that is not registered, or came up before, ends the splicing. -/
lemma splice_interleave_fault {first run : String} {before after : List (Nat × String)} {i : Nat}
    (hinert : Inert first (before ++ (i, run) :: after))
    (hindex : ∀ m ∈ before ++ (i, run) :: after, m.1 ≤ maxIndex)
    (hnew : ∀ m ∈ before, m.1 < sources.length ∧ m.1 ∉ seen)
    (hnodup : (before.map Prod.fst).Nodup)
    (hfault : i < sources.length → i ∈ seen ∨ i ∈ before.map Prod.fst) :
    splice sources seen (interleave first (before ++ (i, run) :: after)).toList =
      .error (if i < sources.length then .duplicate i else .unknown i sources.length) := by
  induction before generalizing first seen with
  | nil =>
    obtain ⟨hfirst, -⟩ := inert_cons.1 hinert
    rw [List.nil_append, toList_interleave_cons,
      splice_placeholder hfirst (hindex (i, run) (by simp))]
    by_cases hlt : i < sources.length
    · have hseen : i ∈ seen := by simpa using hfault hlt
      rw [List.getElem?_eq_getElem hlt, if_pos hlt]
      dsimp only
      rw [if_pos hseen]
    · rw [List.getElem?_eq_none (by omega), if_neg hlt]
  | cons m before ih =>
    obtain ⟨j, other⟩ := m
    obtain ⟨hfirst, hinert⟩ := inert_cons.1 hinert
    obtain ⟨hlt, hunseen⟩ := hnew (j, other) List.mem_cons_self
    obtain ⟨hfresh, hnodup⟩ := List.nodup_cons.1 hnodup
    have hrest := fresh_cons (fun m hm => hnew m (List.mem_cons_of_mem _ hm)) hfresh
    have hfault' : i < sources.length → i ∈ j :: seen ∨ i ∈ before.map Prod.fst := by
      intro hi
      rcases hfault hi with h | h
      · exact .inl (List.mem_cons_of_mem _ h)
      · rcases List.mem_cons.1 h with h | h
        · exact .inl (h ▸ List.mem_cons_self)
        · exact .inr h
    rw [List.cons_append, toList_interleave_cons,
      splice_placeholder hfirst (hindex (j, other) (by simp)), List.getElem?_eq_getElem hlt]
    dsimp only
    rw [if_neg hunseen, ih hinert (fun m hm => hindex m (List.mem_cons_of_mem _ hm)) hrest hnodup
      hfault']

/-- Indices without a repetition are a permutation of the registered ones exactly if they are
registered and as many. -/
lemma perm_range_iff {indices : List Nat} {n : Nat} :
    indices.Perm (List.range n) ↔
      indices.Nodup ∧ (∀ i ∈ indices, i < n) ∧ indices.length = n := by
  constructor
  · intro h
    refine ⟨h.nodup_iff.2 List.nodup_range, fun i hi => ?_, ?_⟩
    · exact List.mem_range.1 (h.mem_iff.1 hi)
    · rw [h.length_eq, List.length_range]
  · rintro ⟨hnodup, hlt, hlen⟩
    have hsub : indices ⊆ List.range n := fun i hi => List.mem_range.2 (hlt i hi)
    have hle : (List.range n).length ≤ indices.length := by rw [List.length_range, hlen]
    exact (List.subperm_of_subset hnodup hsub).perm_of_length_le hle

/-- The first index that does not fit, if the indices are not all registered and different. -/
lemma exists_first_fault {indices : List Nat} {n : Nat}
    (h : ¬ (indices.Nodup ∧ ∀ i ∈ indices, i < n)) :
    ∃ before i after, indices = before ++ i :: after ∧ before.Nodup ∧ (∀ j ∈ before, j < n) ∧
      (i < n → i ∈ before) := by
  induction indices using List.reverseRecOn with
  | nil => simp at h
  | append_singleton indices i ih =>
    -- a fault among the indices before is the first one still; else it can only be the last index
    by_cases hbefore : indices.Nodup ∧ ∀ j ∈ indices, j < n
    · refine ⟨indices, i, [], by simp, hbefore.1, hbefore.2, fun hi => ?_⟩
      by_contra hmem
      refine h ⟨?_, ?_⟩
      · rw [List.nodup_append]
        refine ⟨hbefore.1, by simp, fun a ha b hb => ?_⟩
        rw [List.mem_singleton.1 hb]
        exact fun heq => hmem (heq ▸ ha)
      · intro j hj
        rcases List.mem_append.1 hj with hj | hj
        · exact hbefore.2 j hj
        · rw [List.mem_singleton.1 hj]
          exact hi
    · obtain ⟨before, j, after, heq, hnodup, hlt, hfault⟩ := ih hbefore
      exact ⟨before, j, after ++ [i], by simp [heq], hnodup, hlt, hfault⟩

/-- A text of runs and placeholders gives back its fragments exactly if its indices are the
registered ones, each once; then these are the non-empty runs and the sources in the order of the
text. Else the error names the first index that is not registered or came up before, and if there
is none of these, how many of the registered ones were found. -/
theorem postprocess_interleave (env : Environment) (first : String) (marked : List (Nat × String))
    (hfirst : IsRun first.toList)
    (hmarked : ∀ m ∈ marked, m.1 ≤ maxIndex ∧ IsRun m.2.toList) :
    let indices := marked.map Prod.fst
    let n := env.sources.length
    let outcome := env.postprocess (interleave first marked)
    ((∃ fragments, outcome = .ok fragments) ↔ indices.Perm (List.range n)) ∧
    (indices.Perm (List.range n) → outcome = .ok (interleaved env.sources first marked)) ∧
    (∀ before i after, indices = before ++ i :: after →
      before.Nodup → (∀ j ∈ before, j < n) →
        (n ≤ i → outcome = .error (.unknown i n)) ∧
        (i < n → i ∈ before → outcome = .error (.duplicate i))) ∧
    (indices.Nodup → (∀ i ∈ indices, i < n) → ¬ indices.Perm (List.range n) →
      outcome = .error (.count indices.length n)) := by
  intro indices n outcome
  have hinert : Inert first marked := inert_of_isRun hfirst fun m hm => (hmarked m hm).2
  have hindex : ∀ m ∈ marked, m.1 ≤ maxIndex := fun m hm => (hmarked m hm).1
  -- every index fits: only their number is left to be checked
  have hvalid (hnodup : indices.Nodup) (hlt : ∀ i ∈ indices, i < n) :
      outcome = if indices.length = n then .ok (interleaved env.sources first marked)
        else .error (.count indices.length n) := by
    have hnew : ∀ m ∈ marked, m.1 < n ∧ m.1 ∉ ([] : List Nat) := fun m hm =>
      ⟨hlt m.1 (List.mem_map_of_mem hm), by simp⟩
    have hsplice := splice_interleave hinert hindex hnew hnodup
    simpa [outcome, postprocess, indices] using hsplice
  -- the first index that does not fit decides, whatever comes after it
  have hfaulty (before : List Nat) (i : Nat) (after : List Nat)
      (heq : indices = before ++ i :: after) (hnodup : before.Nodup) (hlt : ∀ j ∈ before, j < n)
      (hfault : i < n → i ∈ before) :
      outcome = .error (if i < n then .duplicate i else .unknown i n) := by
    obtain ⟨markedBefore, rest, rfl, rfl, hrest⟩ := List.map_eq_append_iff.1 heq
    obtain ⟨m, markedAfter, rfl, rfl, -⟩ := List.map_eq_cons_iff.1 hrest
    have hnew : ∀ m ∈ markedBefore, m.1 < n ∧ m.1 ∉ ([] : List Nat) := fun m hm =>
      ⟨hlt m.1 (List.mem_map_of_mem hm), by simp⟩
    exact splice_interleave_fault hinert hindex hnew hnodup fun hi => .inr (hfault hi)
  have hperm (h : indices.Perm (List.range n)) :
      outcome = .ok (interleaved env.sources first marked) := by
    obtain ⟨hnodup, hlt, hlen⟩ := perm_range_iff.1 h
    rw [hvalid hnodup hlt, if_pos hlen]
  refine ⟨⟨?_, fun h => ⟨_, hperm h⟩⟩, hperm, ?_, ?_⟩
  · rintro ⟨fragments, hok⟩
    by_cases hgood : indices.Nodup ∧ ∀ i ∈ indices, i < n
    · rw [hvalid hgood.1 hgood.2] at hok
      by_cases hlen : indices.length = n
      · exact perm_range_iff.2 ⟨hgood.1, hgood.2, hlen⟩
      · rw [if_neg hlen] at hok
        simp at hok
    · obtain ⟨before, i, after, heq, hnodup, hlt, hfault⟩ := exists_first_fault hgood
      rw [hfaulty before i after heq hnodup hlt hfault] at hok
      simp at hok
  · intro before i after heq hnodup hlt
    constructor
    · intro hi
      rw [hfaulty before i after heq hnodup hlt (by omega), if_neg (by omega)]
    · intro hi hmem
      rw [hfaulty before i after heq hnodup hlt (fun _ => hmem), if_pos hi]
  · intro hnodup hlt hnot
    have hlen : indices.length ≠ n := fun hlen => hnot (perm_range_iff.2 ⟨hnodup, hlt, hlen⟩)
    rw [hvalid hnodup hlt, if_neg hlen]

/-- The runs may end in tildes or in a part of the start of a placeholder. -/
theorem postprocess_interleave_two :
    (⟨["a", "b"]⟩ : Environment).postprocess
        (interleave "~" [(1, "~~replacement"), (0, "")])
      = .ok [.raw "~", .expr "b", .raw "~~replacement", .expr "a"] := by
  have h := postprocess_interleave ⟨["a", "b"]⟩ "~" [(1, "~~replacement"), (0, "")]
    (by unfold IsRun; decide) (by unfold IsRun; decide)
  exact h.2.1 (by decide)

end Environment

end Template
end Bindery
