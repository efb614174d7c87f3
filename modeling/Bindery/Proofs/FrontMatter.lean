import Bindery.FrontMatter
import Mathlib.Data.List.Basic

/-!
# Front matter by lines

A text that begins with an opening line is cut at the first later line that is the mark, up to
blanks at its end: what stands in front of the line is front matter, and what follows it the body.
The cut can be found by counting the bytes of the lines, and it falls between characters
(`split?_lines`).
-/

namespace Bindery
namespace FrontMatter

/-! ## Lines -/

/-- The lines of a text, each with the line feed that ends it. -/
def linesOf : List Char → List (List Char)
  | [] => []
  | c :: rest =>
    if c = '\n' then [c] :: linesOf rest
    else
      match linesOf rest with
      | [] => [[c]]
      | line :: more => (c :: line) :: more

variable {s rest init line front body opening : List Char}
variable {lines first second : List (List Char)}

/-- A line ends with its line feed. -/
lemma linesOf_feed (h : '\n' ∉ init) (rest : List Char) :
    linesOf (init ++ '\n' :: rest) = (init ++ ['\n']) :: linesOf rest := by
  induction init with
  | nil => rfl
  | cons c init ih =>
    rw [List.mem_cons, not_or] at h
    rw [List.cons_append, linesOf, if_neg (Ne.symm h.1), ih h.2]
    rfl

/-- The last line may come without a line feed. -/
lemma linesOf_last (h : '\n' ∉ s) (hne : s ≠ []) : linesOf s = [s] := by
  induction s with
  | nil => exact absurd rfl hne
  | cons c rest ih =>
    rw [List.mem_cons, not_or] at h
    rw [linesOf, if_neg (Ne.symm h.1)]
    by_cases hrest : rest = []
    · rw [hrest]
      rfl
    · rw [ih h.2 hrest]

/-- A text is empty, or a line that is not ended, or a line that is ended in front of a text. -/
lemma lines_cases (s : List Char) :
    s = [] ∨ ('\n' ∉ s ∧ linesOf s = [s]) ∨
      ∃ init rest, '\n' ∉ init ∧ s = init ++ '\n' :: rest ∧ rest.length < s.length := by
  by_cases hfeed : '\n' ∈ s
  · obtain ⟨init, rest, rfl, hinit⟩ := List.eq_append_cons_of_mem hfeed
    refine .inr (.inr ⟨init, rest, hinit, rfl, ?_⟩)
    rw [List.length_append, List.length_cons]
    omega
  · by_cases hs : s = []
    · exact .inl hs
    · exact .inr (.inl ⟨hfeed, linesOf_last hfeed hs⟩)

/-- The lines of a text make up the text. -/
lemma flatten_linesOf (s : List Char) : (linesOf s).flatten = s := by
  rcases lines_cases s with rfl | ⟨-, hlast⟩ | ⟨init, rest, hinit, rfl, hlength⟩
  · rfl
  · rw [hlast, List.flatten_singleton]
  · rw [linesOf_feed hinit, List.flatten_cons, flatten_linesOf rest, List.append_assoc]
    rfl
termination_by s.length

/-- Some of the first lines of a text are the lines of the text that they make up, and so are the
others. -/
lemma linesOf_flatten_of_append {s : List Char} {first second : List (List Char)}
    (h : linesOf s = first ++ second) :
    linesOf first.flatten = first ∧ linesOf second.flatten = second := by
  cases first with
  | nil =>
    rw [List.nil_append] at h
    rw [← h, flatten_linesOf]
    exact ⟨rfl, rfl⟩
  | cons line more =>
    rcases lines_cases s with rfl | ⟨hs, hlast⟩ | ⟨init, rest, hinit, rfl, hlength⟩
    · cases h
    · rw [hlast, List.cons_append, List.cons.injEq, eq_comm (a := []), List.append_eq_nil_iff] at h
      obtain ⟨rfl, rfl, rfl⟩ := h
      rw [List.flatten_singleton]
      exact ⟨hlast, rfl⟩
    · rw [linesOf_feed hinit, List.cons_append, List.cons.injEq] at h
      obtain ⟨rfl, hrest⟩ := h
      obtain ⟨hmore, hsecond⟩ := linesOf_flatten_of_append hrest
      rw [List.flatten_cons, List.append_assoc, List.singleton_append, linesOf_feed hinit, hmore]
      exact ⟨rfl, hsecond⟩
termination_by s.length

/-! ## The closing line -/

/-- Lines cut at the first one that closes front matter. -/
def cutLines? : List (List Char) → Option (List Char × List Char)
  | [] => none
  | line :: more =>
    if closes line then some ([], more.flatten)
    else (cutLines? more).map fun (front, body) => (line ++ front, body)

/-- A line closes the front matter if it is the mark with blanks behind it. -/
lemma closes_iff : closes line = true ↔ Text.trimBack line = mark := by
  rw [closes, beq_iff_eq]

/-- A line feed at the end is a blank. -/
lemma trimBack_feed (line : List Char) : Text.trimBack (line ++ ['\n']) = Text.trimBack line := by
  induction line with
  | nil => rfl
  | cons c line ih => rw [List.cons_append, Text.trimBack, Text.trimBack, ih]

lemma closes_feed (line : List Char) : closes (line ++ ['\n']) = closes line := by
  rw [closes, closes, trimBack_feed]

/-- Cutting a text is cutting its lines. -/
lemma cut?_eq (hline : '\n' ∉ line.reverse) (s : List Char) :
    cut? line s = cutLines? (linesOf (line.reverse ++ s)) := by
  induction s generalizing line with
  | nil =>
    rw [cut?, List.append_nil]
    by_cases hempty : line = []
    · rw [hempty]
      rfl
    · rw [linesOf_last hline (by simpa using hempty), cutLines?, cutLines?]
      rfl
  | cons c rest ih =>
    by_cases hc : c = '\n'
    · subst hc
      have hrest : cut? [] rest = cutLines? (linesOf rest) := ih List.not_mem_nil
      rw [cut?, linesOf_feed hline, cutLines?, closes_feed, hrest, flatten_linesOf]
      simp only [List.append_assoc, List.singleton_append]
    · have hrest : cut? (c :: line) rest = cutLines? (linesOf ((c :: line).reverse ++ rest)) :=
        ih (by simpa [Ne.symm hc] using hline)
      rw [List.reverse_cons, List.append_assoc, List.singleton_append] at hrest
      rw [← hrest, cut?]
      exact hc

/-- Lines are cut at the first one that closes front matter. -/
lemma cutLines?_eq_some_iff :
    cutLines? lines = some (front, body) ↔
      ∃ before line after, lines = before ++ line :: after ∧ closes line = true ∧
        (∀ other ∈ before, closes other = false) ∧ front = before.flatten ∧
        body = after.flatten := by
  induction lines generalizing front with
  | nil => simp [cutLines?]
  | cons line more ih =>
    rw [cutLines?]
    cases hclose : closes line with
    | true =>
      simp only [if_true]
      constructor
      · intro h
        cases h
        exact ⟨[], line, more, rfl, hclose, by simp, rfl, rfl⟩
      · rintro ⟨before, closing, after, hlines, hclosing, hbefore, rfl, rfl⟩
        cases before with
        | nil =>
          rw [List.nil_append, List.cons.injEq] at hlines
          rw [hlines.2]
          rfl
        | cons other before =>
          rw [List.cons_append, List.cons.injEq] at hlines
          rw [← hlines.1] at hbefore
          rw [hbefore line List.mem_cons_self] at hclose
          cases hclose
    | false =>
      simp only [Bool.false_eq_true, if_false, Option.map_eq_some_iff]
      constructor
      · rintro ⟨⟨front', body'⟩, hmore, heq⟩
        cases heq
        obtain ⟨before, closing, after, rfl, hclosing, hbefore, rfl, rfl⟩ := ih.1 hmore
        exact ⟨line :: before, closing, after, rfl, hclosing,
          List.forall_mem_cons.2 ⟨hclose, hbefore⟩, rfl, rfl⟩
      · rintro ⟨before, closing, after, hlines, hclosing, hbefore, rfl, rfl⟩
        cases before with
        | nil =>
          rw [List.nil_append, List.cons.injEq] at hlines
          rw [← hlines.1, hclose] at hclosing
          cases hclosing
        | cons other before =>
          rw [List.cons_append, List.cons.injEq] at hlines
          obtain ⟨rfl, rfl⟩ := hlines
          refine ⟨(before.flatten, after.flatten), ih.2 ?_, rfl⟩
          exact ⟨before, closing, after, rfl, hclosing, (List.forall_mem_cons.1 hbefore).2, rfl, rfl⟩

/-- Lines are not cut exactly if none of them closes. -/
lemma cutLines?_eq_none_iff :
    cutLines? lines = none ↔ ∀ line ∈ lines, closes line = false := by
  induction lines with
  | nil => simp [cutLines?]
  | cons line more ih =>
    rw [cutLines?, List.forall_mem_cons]
    cases hclose : closes line with
    | true => simp
    | false => simp [ih]

/-- The lines in front of the first line that closes are those of the front matter, and the lines
behind it those of the body. -/
lemma cutLines?_linesOf :
    cutLines? (linesOf rest) = some (front, body) ↔
      ∃ line, rest = front ++ (line ++ body) ∧
        linesOf rest = linesOf front ++ line :: linesOf body ∧ closes line = true ∧
        ∀ other ∈ linesOf front, closes other = false := by
  rw [cutLines?_eq_some_iff]
  constructor
  · rintro ⟨before, line, after, hlines, hclosing, hbefore, rfl, rfl⟩
    have hrest := flatten_linesOf rest
    have hfront := (linesOf_flatten_of_append hlines).1
    have hbody : linesOf after.flatten = after := by
      rw [List.append_cons] at hlines
      exact (linesOf_flatten_of_append hlines).2
    rw [hlines, List.flatten_append, List.flatten_cons] at hrest
    refine ⟨line, hrest.symm, ?_, hclosing, ?_⟩
    · rw [hlines, hfront, hbody]
    · rwa [hfront]
  · rintro ⟨line, -, hlines, hclosing, hfront⟩
    exact ⟨linesOf front, line, linesOf body, hlines, hclosing, hfront,
      (flatten_linesOf front).symm, (flatten_linesOf body).symm⟩

/-! ## The opening line -/

/-- The lines that open front matter. -/
def openings : List (List Char) := [mark ++ ['\n'], mark ++ ['\r', '\n']]

/-- A text is opened by one of the openings in front of it. -/
lemma afterOpening?_eq_some_iff :
    afterOpening? s = some rest ↔ ∃ opening ∈ openings, s = opening ++ rest := by
  constructor
  · intro h
    unfold afterOpening? at h
    split at h
    · cases h
      exact ⟨_, List.mem_cons_self, rfl⟩
    · cases h
      exact ⟨_, List.mem_cons_of_mem _ List.mem_cons_self, rfl⟩
    · cases h
  · rintro ⟨opening, hopening, rfl⟩
    rcases List.mem_pair.1 hopening with rfl | rfl <;> rfl

lemma afterOpening?_eq_none_iff :
    afterOpening? s = none ↔ ∀ opening ∈ openings, ¬ opening <+: s := by
  rw [Option.eq_none_iff_forall_ne_some]
  constructor
  · rintro h opening hopening ⟨rest, rfl⟩
    exact h rest (afterOpening?_eq_some_iff.2 ⟨opening, hopening, rfl⟩)
  · intro h rest hrest
    obtain ⟨opening, hopening, rfl⟩ := afterOpening?_eq_some_iff.1 hrest
    exact h opening hopening (List.prefix_append _ _)

lemma split?_of_not_opened (h : afterOpening? s = none) : split? s = some (none, s) := by
  rw [split?, h]

/-- A text that is opened is split at the line that closes. -/
lemma split?_of_opened (h : afterOpening? s = some rest) :
    split? s = (cutLines? (linesOf rest)).map fun (front, body) => (some front, body) := by
  rw [split?, h]
  dsimp only
  have hcut : cut? [] rest = cutLines? (linesOf rest) := cut?_eq List.not_mem_nil rest
  rw [hcut]

/-- A text is all body exactly if it does not begin with an opening line. -/
lemma split?_eq_body_iff :
    split? s = some (none, body) ↔ body = s ∧ ∀ opening ∈ openings, ¬ opening <+: s := by
  rw [← afterOpening?_eq_none_iff]
  cases hopened : afterOpening? s with
  | none =>
    rw [split?_of_not_opened hopened]
    simp [eq_comm]
  | some rest =>
    rw [split?_of_opened hopened]
    simp

/-- A text is split at the first line behind the opening line that closes front matter. -/
lemma split?_eq_front_iff :
    split? s = some (some front, body) ↔
      ∃ opening ∈ openings, ∃ line, s = opening ++ (front ++ (line ++ body)) ∧
        linesOf (front ++ (line ++ body)) = linesOf front ++ line :: linesOf body ∧
        closes line = true ∧ ∀ other ∈ linesOf front, closes other = false := by
  constructor
  · intro h
    cases hopened : afterOpening? s with
    | none =>
      rw [split?_of_not_opened hopened] at h
      cases h
    | some rest =>
      rw [split?_of_opened hopened, Option.map_eq_some_iff] at h
      obtain ⟨parts, hcut, hparts⟩ := h
      cases hparts
      obtain ⟨opening, hopening, rfl⟩ := afterOpening?_eq_some_iff.1 hopened
      obtain ⟨line, rfl, hlines⟩ := cutLines?_linesOf.1 hcut
      exact ⟨opening, hopening, line, rfl, hlines⟩
  · rintro ⟨opening, hopening, line, rfl, hlines⟩
    rw [split?_of_opened (afterOpening?_eq_some_iff.2 ⟨opening, hopening, rfl⟩),
      cutLines?_linesOf.2 ⟨line, rfl, hlines⟩]
    rfl

/-- A text cannot be split exactly if no line behind its opening line closes front matter. -/
lemma split?_eq_none_iff :
    split? s = none ↔ ∃ opening ∈ openings, ∃ rest, s = opening ++ rest ∧
      ∀ line ∈ linesOf rest, closes line = false := by
  constructor
  · intro h
    cases hopened : afterOpening? s with
    | none =>
      rw [split?_of_not_opened hopened] at h
      cases h
    | some rest =>
      rw [split?_of_opened hopened, Option.map_eq_none_iff, cutLines?_eq_none_iff] at h
      obtain ⟨opening, hopening, rfl⟩ := afterOpening?_eq_some_iff.1 hopened
      exact ⟨opening, hopening, rest, rfl, h⟩
  · rintro ⟨opening, hopening, rest, rfl, hlines⟩
    rw [split?_of_opened (afterOpening?_eq_some_iff.2 ⟨opening, hopening, rfl⟩),
      cutLines?_eq_none_iff.2 hlines]
    rfl

/-! ## Counting bytes -/

/-- The bytes between which the first closing line stands, looked for in lines from some byte on. -/
def closingAt? (offset : Nat) : List String → Option (Nat × Nat)
  | [] => none
  | line :: more =>
    if closes line.toList then some (offset, offset + line.utf8ByteSize)
    else closingAt? (offset + line.utf8ByteSize) more

/-- The text between two bytes of a text; none if one of them lies inside a character or behind the
end, or if they are out of order. -/
def slice? (s : String) (start stop : Nat) : Option String :=
  if h : String.Pos.Raw.IsValid s ⟨start⟩ ∧ String.Pos.Raw.IsValid s ⟨stop⟩ ∧ start ≤ stop then
    some (s.extract (s.pos ⟨start⟩ h.1) (s.pos ⟨stop⟩ h.2.1))
  else none

/-- A document split by counting bytes; none if a slice is taken inside a character. -/
def sliced? (source : String) : Option (Option (Option String × String)) :=
  match afterOpening? source.toList with
  | none => some (some (none, source))
  | some rest =>
    let text := String.ofList rest
    match closingAt? 0 ((linesOf rest).map String.ofList) with
    | none => some none
    | some (start, stop) => do
      let front ← slice? text 0 start
      let body ← slice? text stop text.utf8ByteSize
      return some (some front, body)

/-- The middle of three texts is sliced out at the sizes of what stands in front of it. -/
lemma slice?_append (a b c : String) :
    slice? (a ++ (b ++ c)) a.utf8ByteSize (a.utf8ByteSize + b.utf8ByteSize) = some b := by
  have hstart : String.Pos.Raw.IsValid (a ++ (b ++ c)) ⟨a.utf8ByteSize⟩ :=
    String.Pos.Raw.isValid_iff_exists_append.2 ⟨a, b ++ c, rfl, rfl⟩
  have hstop : String.Pos.Raw.IsValid (a ++ (b ++ c)) ⟨a.utf8ByteSize + b.utf8ByteSize⟩ := by
    rw [← String.utf8ByteSize_append, ← String.append_assoc]
    exact String.Pos.Raw.isValid_iff_exists_append.2 ⟨a ++ b, c, rfl, rfl⟩
  rw [slice?, dif_pos ⟨hstart, hstop, Nat.le_add_right _ _⟩]
  congr 1
  apply String.toByteArray_inj.1
  rw [String.toByteArray_extract, String.offset_pos, String.offset_pos, String.toByteArray_append,
    String.toByteArray_append]
  have hb : (a.toByteArray ++ b.toByteArray).extract a.utf8ByteSize
      (a.utf8ByteSize + b.utf8ByteSize) = b.toByteArray :=
    ByteArray.extract_append_eq_right String.size_toByteArray.symm
      (by rw [String.size_toByteArray, String.size_toByteArray])
  rw [← ByteArray.append_assoc, ByteArray.extract_append]
  simpa using hb

/-- Counting finds the closing line behind the bytes of the lines in front of it. -/
lemma closingAt?_of_first {before after : List (List Char)} (hclosing : closes line = true)
    (hbefore : ∀ other ∈ before, closes other = false) (offset : Nat) :
    closingAt? offset ((before ++ line :: after).map String.ofList)
      = some (offset + (String.ofList before.flatten).utf8ByteSize,
        offset + (String.ofList before.flatten).utf8ByteSize
          + (String.ofList line).utf8ByteSize) := by
  induction before generalizing offset with
  | nil => simp [closingAt?, hclosing]
  | cons other before ih =>
    obtain ⟨hother, hbefore⟩ := List.forall_mem_cons.1 hbefore
    rw [List.cons_append, List.map_cons, closingAt?, String.toList_ofList, hother, ih hbefore,
      List.flatten_cons, String.ofList_append, String.utf8ByteSize_append, Nat.add_assoc]
    rfl

/-- No offset is found if no line closes. -/
lemma closingAt?_of_none (h : ∀ line ∈ lines, closes line = false) (offset : Nat) :
    closingAt? offset (lines.map String.ofList) = none := by
  induction lines generalizing offset with
  | nil => rfl
  | cons line more ih =>
    obtain ⟨hline, hmore⟩ := List.forall_mem_cons.1 h
    rw [List.map_cons, closingAt?, String.toList_ofList, hline]
    exact ih hmore _

/-- Splitting by bytes never takes a slice inside a character, and gives the same parts. -/
lemma sliced?_eq (source : String) :
    sliced? source = some ((split? source.toList).map fun (front, body) =>
      (front.map String.ofList, String.ofList body)) := by
  cases hopened : afterOpening? source.toList with
  | none =>
    rw [sliced?, hopened, split?_of_not_opened hopened]
    simp
  | some rest =>
    rw [sliced?, hopened, split?_of_opened hopened]
    dsimp only
    cases hcut : cutLines? (linesOf rest) with
    | none =>
      rw [closingAt?_of_none (cutLines?_eq_none_iff.1 hcut)]
      rfl
    | some parts =>
      obtain ⟨front, body⟩ := parts
      obtain ⟨line, hrest, hlines, hclosing, hfront⟩ := cutLines?_linesOf.1 hcut
      -- the slices of the text that the offsets of its closing line give
      have hleft := slice?_append "" (String.ofList front) (String.ofList (line ++ body))
      have hright := slice?_append (String.ofList (front ++ line)) (String.ofList body) ""
      rw [String.empty_append, String.utf8ByteSize_empty] at hleft
      rw [String.append_empty] at hright
      rw [hlines, closingAt?_of_first hclosing hfront, flatten_linesOf]
      dsimp only
      rw [hrest]
      simp only [String.ofList_append, String.utf8ByteSize_append, String.append_assoc,
        Nat.zero_add, Nat.add_assoc] at hleft hright ⊢
      rw [hleft, hright]
      rfl

/-! ## The parts of a document -/

/-- A document that does not begin with an opening line is all body. Any other one is split at the
first later line that is the mark, up to blanks at its end: the opening line, the front matter, that
line and the body make up the document, and no line of the front matter is the mark. If there is no
such line, there is no way to split it. Splitting by bytes gives the same and takes no slice inside
a character. -/
theorem split?_lines (source : String) :
    (∀ body, split? source.toList = some (none, body) ↔
      body = source.toList ∧ ∀ opening ∈ openings, ¬ opening <+: source.toList) ∧
    (∀ front body, split? source.toList = some (some front, body) ↔
      ∃ opening ∈ openings, ∃ line, source.toList = opening ++ (front ++ (line ++ body)) ∧
        linesOf (front ++ (line ++ body)) = linesOf front ++ line :: linesOf body ∧
        Text.trimBack line = mark ∧ ∀ other ∈ linesOf front, Text.trimBack other ≠ mark) ∧
    (split? source.toList = none ↔
      ∃ opening ∈ openings, ∃ rest, source.toList = opening ++ rest ∧
        ∀ line ∈ linesOf rest, Text.trimBack line ≠ mark) ∧
    sliced? source = some ((split? source.toList).map fun (front, body) =>
      (front.map String.ofList, String.ofList body)) := by
  have hnot {line : List Char} : Text.trimBack line ≠ mark ↔ closes line = false := by
    rw [Ne, ← closes_iff, Bool.not_eq_true]
  simp only [hnot, ← closes_iff]
  exact ⟨fun _ => split?_eq_body_iff, fun _ _ => split?_eq_front_iff, split?_eq_none_iff,
    sliced?_eq source⟩

example : split? "+++\r\na = 1\n+++ \n# é".toList
    = some (some "a = 1\n".toList, "# é".toList) := by decide

example : split? "+++\n++++\n".toList = none := by decide

end FrontMatter
end Bindery
