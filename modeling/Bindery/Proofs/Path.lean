import Bindery.Path
import Mathlib.Data.List.Basic
import Mathlib.Tactic.Lemma

/-!
# Paths and names

How a path is cut into segments, and what a name adds to a path that it is joined to.
-/

namespace Bindery

/-! ## Segments -/

namespace Link

variable {sep c : Char} {xs rest part : List Char} {parts : List (List Char)}

lemma splitOn_sep (rest : List Char) : splitOn sep (sep :: rest) = [] :: splitOn sep rest :=
  if_pos rfl

lemma splitOn_of_ne (hc : c ≠ sep) (hrest : splitOn sep rest = part :: parts) :
    splitOn sep (c :: rest) = (c :: part) :: parts := by
  rw [splitOn, if_neg hc, hrest]

/-- There is always at least one part. -/
lemma exists_splitOn_eq (sep : Char) (xs : List Char) :
    ∃ part parts, splitOn sep xs = part :: parts := by
  induction xs with
  | nil => exact ⟨[], [], rfl⟩
  | cons c rest ih =>
    by_cases hc : c = sep
    · exact ⟨[], splitOn sep rest, if_pos hc⟩
    · obtain ⟨part, parts, hrest⟩ := ih
      exact ⟨c :: part, parts, splitOn_of_ne hc hrest⟩

/-- A separator parts the segments in front of it from those behind it. -/
lemma splitOn_append (xs ys : List Char) :
    splitOn sep (xs ++ sep :: ys) = splitOn sep xs ++ splitOn sep ys := by
  induction xs with
  | nil => exact splitOn_sep ys
  | cons c rest ih =>
    rw [List.cons_append]
    by_cases hc : c = sep
    · rw [hc, splitOn_sep, splitOn_sep, ih, List.cons_append]
    · obtain ⟨part, parts, hrest⟩ := exists_splitOn_eq sep rest
      rw [hrest, List.cons_append] at ih
      rw [splitOn_of_ne hc hrest, splitOn_of_ne hc ih, List.cons_append]

/-- Without a separator there is one part. -/
lemma splitOn_of_not_mem (h : sep ∉ xs) : splitOn sep xs = [xs] := by
  induction xs with
  | nil => rfl
  | cons c rest ih =>
    rw [List.mem_cons, not_or] at h
    exact splitOn_of_ne (Ne.symm h.1) (ih h.2)

/-- No part holds a separator. -/
lemma not_mem_of_mem_splitOn (h : part ∈ splitOn sep xs) : sep ∉ part := by
  induction xs generalizing part with
  | nil =>
    rw [List.mem_singleton.1 h]
    exact List.not_mem_nil
  | cons c rest ih =>
    by_cases hc : c = sep
    · rw [hc, splitOn_sep] at h
      rcases List.mem_cons.1 h with rfl | h
      · exact List.not_mem_nil
      · exact ih h
    · obtain ⟨first, parts, hrest⟩ := exists_splitOn_eq sep rest
      rw [hrest] at ih
      rw [splitOn_of_ne hc hrest] at h
      rcases List.mem_cons.1 h with rfl | h
      · exact List.not_mem_cons_of_ne_of_not_mem (Ne.symm hc) (ih List.mem_cons_self)
      · exact ih (List.mem_cons_of_mem _ h)

/-- The parts consist of characters of the text. -/
lemma mem_of_mem_splitOn (h : part ∈ splitOn sep xs) (hc : c ∈ part) : c ∈ xs := by
  induction xs generalizing part with
  | nil =>
    rw [List.mem_singleton.1 h] at hc
    exact hc
  | cons head rest ih =>
    by_cases hhead : head = sep
    · rw [hhead, splitOn_sep] at h
      rcases List.mem_cons.1 h with rfl | h
      · exact absurd hc List.not_mem_nil
      · exact List.mem_cons_of_mem _ (ih h hc)
    · obtain ⟨first, parts, hrest⟩ := exists_splitOn_eq sep rest
      rw [hrest] at ih
      rw [splitOn_of_ne hhead hrest] at h
      rcases List.mem_cons.1 h with rfl | h
      · rcases List.mem_cons.1 hc with rfl | hc
        · exact List.mem_cons_self
        · exact List.mem_cons_of_mem _ (ih List.mem_cons_self hc)
      · exact List.mem_cons_of_mem _ (ih (List.mem_cons_of_mem _ h) hc)

lemma segments_append (a b : String) : segments (a ++ "/" ++ b) = segments a ++ segments b := by
  rw [segments, segments, segments, ← List.map_append, ← splitOn_append]
  simp

lemma segments_of_not_mem {name : String} (h : '/' ∉ name.toList) : segments name = [name] := by
  rw [segments, splitOn_of_not_mem h]
  simp

/-- No segment holds a slash. -/
lemma not_mem_of_mem_segments {path segment : String} (h : segment ∈ segments path) :
    '/' ∉ segment.toList := by
  rw [segments, List.mem_map] at h
  obtain ⟨part, hpart, rfl⟩ := h
  rw [String.toList_ofList]
  exact not_mem_of_mem_splitOn hpart

lemma mem_of_mem_segments {path segment : String} {c : Char} (h : segment ∈ segments path)
    (hc : c ∈ segment.toList) : c ∈ path.toList := by
  rw [segments, List.mem_map] at h
  obtain ⟨part, hpart, rfl⟩ := h
  rw [String.toList_ofList] at hc
  exact mem_of_mem_splitOn hpart hc

/-- Texts without slashes, joined by slashes, are the segments again. -/
lemma segments_intercalate {names : List String} (hne : names ≠ [])
    (h : ∀ name ∈ names, '/' ∉ name.toList) : segments ("/".intercalate names) = names := by
  induction names with
  | nil => exact absurd rfl hne
  | cons name rest ih =>
    have hname := segments_of_not_mem (h name List.mem_cons_self)
    cases rest with
    | nil => rw [String.intercalate_singleton, hname]
    | cons next rest =>
      rw [String.intercalate_cons_cons, segments_append, hname,
        ih (by simp) fun other hother => h other (List.mem_cons_of_mem _ hother)]
      rfl

end Link

/-! ## Names -/

namespace Path

/-- A text that can name a file or a folder. -/
structure IsName (name : String) : Prop where
  ne_empty : name ≠ ""
  ne_dot : name ≠ "."
  ne_dots : name ≠ ".."
  not_mem : '/' ∉ name.toList

/-- A path is absolute exactly if it begins with a slash. -/
lemma isAbsolute_iff {path : String} : isAbsolute path ↔ path.toList.head? = some '/' := by
  rw [isAbsolute, String.startsWith_string_iff]
  cases path.toList with
  | nil => simp
  | cons c rest => simp [List.cons_prefix_cons, eq_comm]

/-- A name is no absolute path. -/
lemma IsName.not_isAbsolute {name : String} (h : IsName name) : ¬ isAbsolute name := by
  rw [isAbsolute_iff]
  intro hhead
  exact h.not_mem (List.mem_of_mem_head? hhead)

/-- A path that ends with a slash is something with a slash behind it. -/
lemma exists_of_endsWith {path : String} (h : path.endsWith "/") :
    ∃ start, path = start ++ "/" := by
  rw [← String.endsWith_toSlice, String.Slice.endsWith_string_iff] at h
  obtain ⟨start, hstart⟩ := h
  refine ⟨String.ofList start, String.toList_injective ?_⟩
  simpa using hstart.symm

/-- What joining gives: the first path may end in a separator, or there may be none. -/
lemma join_cases {rest : String} (h : ¬ isAbsolute rest) (base : String) :
    (join base rest = base ++ "/" ++ rest ∧ base ≠ "") ∨
      (∃ start, base = start ++ "/" ∧ join base rest = start ++ "/" ++ rest) ∨
      (base = "" ∧ join base rest = rest) := by
  rw [join, if_neg h]
  by_cases hempty : base = ""
  · subst hempty
    exact .inr (.inr ⟨rfl, by simp⟩)
  · by_cases hend : base.endsWith "/"
    · obtain ⟨start, hstart⟩ := exists_of_endsWith hend
      refine .inr (.inl ⟨start, hstart, ?_⟩)
      rw [if_pos (by simp [hend]), hstart]
    · left
      rw [if_neg (by simp [hend, hempty])]
      exact ⟨rfl, hempty⟩

/-- The segments of a joined path; an empty one at the end of the first path is gone. -/
lemma segments_join {rest : String} (h : ¬ isAbsolute rest) (base : String) :
    Link.segments (join base rest) = Link.segments base ++ Link.segments rest ∨
      ∃ first, Link.segments base = first ++ [""] ∧
        Link.segments (join base rest) = first ++ Link.segments rest := by
  obtain ⟨hjoin, -⟩ | ⟨start, rfl, hjoin⟩ | ⟨rfl, hjoin⟩ := join_cases h base
  · left
    rw [hjoin, Link.segments_append]
  · right
    refine ⟨Link.segments start, ?_, ?_⟩
    · have hsplit := Link.segments_append start ""
      rwa [String.append_empty] at hsplit
    · rw [hjoin, Link.segments_append]
  · right
    exact ⟨[], rfl, by rw [hjoin]; rfl⟩

/-- The steps of a joined path are those of both parts, unless the second one is absolute. -/
lemma steps_join {rest : String} (h : ¬ isAbsolute rest) (base : String) :
    steps (join base rest) = steps base ++ steps rest := by
  rw [steps, steps, steps]
  obtain hjoin | ⟨first, hbase, hjoin⟩ := segments_join h base
  · rw [hjoin, List.filter_append]
  · rw [hjoin, hbase, List.filter_append, List.filter_append]
    simp

lemma steps_name {name : String} (h : IsName name) : steps name = [name] := by
  rw [steps, Link.segments_of_not_mem h.not_mem]
  simp [h.ne_empty, h.ne_dot]

/-- Steps that are written out, be they names or lead back, are read again. -/
lemma steps_intercalate_of_steps {names : List String}
    (h : ∀ step ∈ names, step = ".." ∨ IsName step) : steps ("/".intercalate names) = names := by
  have hplain : ∀ step ∈ names, step ≠ "" ∧ step ≠ "." ∧ '/' ∉ step.toList := by
    intro step hstep
    obtain rfl | hname := h step hstep
    · decide
    · exact ⟨hname.ne_empty, hname.ne_dot, hname.not_mem⟩
  by_cases hne : names = []
  · rw [hne]
    rfl
  rw [steps, Link.segments_intercalate hne fun step hstep => (hplain step hstep).2.2,
    List.filter_eq_self]
  intro step hstep
  simp [(hplain step hstep).1, (hplain step hstep).2.1]

/-- Names joined by slashes are the steps again. -/
lemma steps_intercalate {names : List String} (h : ∀ name ∈ names, IsName name) :
    steps ("/".intercalate names) = names :=
  steps_intercalate_of_steps fun name hname => .inr (h name hname)

lemma not_isAbsolute_intercalate {names : List String} (h : ∀ name ∈ names, IsName name) :
    ¬ isAbsolute ("/".intercalate names) := by
  rw [isAbsolute_iff]
  cases names with
  | nil => simp
  | cons name rest =>
    have hname := h name List.mem_cons_self
    have hne : name.toList ≠ [] := by simpa using hname.ne_empty
    have hhead : ("/".intercalate (name :: rest)).toList.head? = name.toList.head? := by
      cases rest with
      | nil => rw [String.intercalate_singleton]
      | cons next rest =>
        rw [String.intercalate_cons_cons, String.append_assoc, String.toList_append,
          List.head?_append_of_ne_nil _ hne]
    rw [hhead]
    intro heq
    exact hname.not_mem (List.mem_of_mem_head? heq)

/-- A name behind a path does not change whether it is absolute. -/
lemma isAbsolute_join {name : String} (h : IsName name) (base : String) :
    isAbsolute (join base name) = isAbsolute base := by
  rw [Bool.eq_iff_iff]
  obtain ⟨hjoin, hne⟩ | ⟨start, rfl, hjoin⟩ | ⟨rfl, hjoin⟩ := join_cases h.not_isAbsolute base
  · rw [hjoin, isAbsolute_iff, isAbsolute_iff]
    -- only an empty path lets the name decide
    have hlist : base.toList ≠ [] := by simpa using hne
    simp [List.head?_append_of_ne_nil _ hlist]
  · rw [hjoin, isAbsolute_iff, isAbsolute_iff]
    simp [List.head?_append]
  · rw [hjoin]
    simp [h.not_isAbsolute, isAbsolute_iff]

/-- The path that leads from another one by some names. -/
def along (base : String) (names : List String) : String := names.foldl join base

/-- The names that a path is followed along come behind its steps. -/
lemma steps_along {names : List String} (h : ∀ name ∈ names, IsName name) (base : String) :
    steps (along base names) = steps base ++ names := by
  induction names generalizing base with
  | nil => simp [along]
  | cons name rest ih =>
    have hrest := ih (fun other hother => h other (List.mem_cons_of_mem _ hother)) (join base name)
    rw [along] at hrest
    rw [along, List.foldl_cons, hrest, steps_join (h name List.mem_cons_self).not_isAbsolute,
      steps_name (h name List.mem_cons_self), List.append_assoc]
    rfl

lemma isAbsolute_along {names : List String} (h : ∀ name ∈ names, IsName name) (base : String) :
    isAbsolute (along base names) = isAbsolute base := by
  induction names generalizing base with
  | nil => rfl
  | cons name rest ih =>
    have hrest := ih (fun other hother => h other (List.mem_cons_of_mem _ hother)) (join base name)
    rw [along] at hrest
    rw [along, List.foldl_cons, hrest, isAbsolute_join (h name List.mem_cons_self)]

/-- What comes behind the first steps is found. -/
lemma stepsAfter?_append (first rest : List String) :
    stepsAfter? first (first ++ rest) = some rest := by
  induction first with
  | nil => rfl
  | cons step first ih =>
    rw [List.cons_append, stepsAfter?, if_pos rfl, ih]

/-- What is found comes behind the first steps. -/
lemma eq_append_of_stepsAfter? {first steps rest : List String}
    (h : stepsAfter? first steps = some rest) : steps = first ++ rest := by
  induction first generalizing steps with
  | nil =>
    cases h
    rfl
  | cons step first ih =>
    cases steps with
    | nil => cases h
    | cons other steps =>
      rw [stepsAfter?] at h
      split at h
      · rename_i heq
        rw [heq, ih h, List.cons_append]
      · cases h

/-- What comes below a path are the last steps. -/
lemma steps_eq_of_below? {base path : String} {rest : List String}
    (h : below? base path = some rest) : steps path = steps base ++ rest := by
  rw [below?] at h
  split at h
  · exact eq_append_of_stepsAfter? h
  · cases h

/-- The names below a folder are read back from the path along them. -/
lemma below?_along {names : List String} (h : ∀ name ∈ names, IsName name) (base : String) :
    below? base (along base names) = some names := by
  rw [below?, isAbsolute_along h, if_pos rfl, steps_along h, stepsAfter?_append]

/-! ## Where paths lead -/

/-- Follow steps from a place, given as names with the last one first. -/
def follow (place : List String) : List String → List String
  | [] => place
  | step :: rest => if step = ".." then follow (place.drop 1) rest else follow (step :: place) rest

/-- The names that a path leads to by its steps alone. -/
def target (path : String) : List String := (follow [] (steps path)).reverse

/-- Steps are followed one after the other. -/
lemma follow_append (place first rest : List String) :
    follow place (first ++ rest) = follow (follow place first) rest := by
  induction first generalizing place with
  | nil => rfl
  | cons step first ih =>
    rw [List.cons_append, follow, follow]
    split
    · exact ih _
    · exact ih _

/-- Names lead further down, each below the one before. -/
lemma follow_names {names : List String} (h : ∀ name ∈ names, IsName name) (place : List String) :
    follow place names = names.reverse ++ place := by
  induction names generalizing place with
  | nil => rfl
  | cons name rest ih =>
    rw [follow, if_neg (h name List.mem_cons_self).ne_dots,
      ih fun other hother => h other (List.mem_cons_of_mem _ hother)]
    simp

/-- A path joined with names leads to the place that the names give below it. -/
lemma target_join {names : List String} (h : ∀ name ∈ names, IsName name) (base : String) :
    target (join base ("/".intercalate names)) = target base ++ names := by
  rw [target, steps_join (not_isAbsolute_intercalate h), steps_intercalate h, follow_append,
    follow_names h, List.reverse_append, List.reverse_reverse]
  rfl

/-- A step is a name or leads back. -/
lemma isName_of_mem_steps {path step : String} (h : step ∈ steps path) :
    step = ".." ∨ IsName step := by
  rw [steps, List.mem_filter] at h
  obtain ⟨hmem, hkept⟩ := h
  by_cases hdots : step = ".."
  · exact .inl hdots
  · simp only [ne_eq, Bool.and_eq_true, decide_not, Bool.not_eq_true',
      decide_eq_false_iff_not] at hkept
    exact .inr ⟨hkept.1, hkept.2, hdots, Link.not_mem_of_mem_segments hmem⟩

end Path

/-! ## Walks from the root -/

namespace Link

variable {step : String}

lemma walk_stay (hstep : step = "" ∨ step = ".") (place rest : List String) :
    walk place (step :: rest) = walk place rest :=
  if_pos (by simpa using hstep)

lemma walk_back (name : String) (place rest : List String) :
    walk (name :: place) (".." :: rest) = walk place rest := rfl

lemma walk_enter (hname : step ≠ "" ∧ step ≠ "." ∧ step ≠ "..") (place rest : List String) :
    walk place (step :: rest) = walk (step :: place) rest :=
  (if_neg (by simp [hname.1, hname.2.1])).trans (if_neg hname.2.2)

/-- What a step is: it stays, leads back or enters. -/
lemma step_cases (step : String) :
    (step = "" ∨ step = ".") ∨ step = ".." ∨ (step ≠ "" ∧ step ≠ "." ∧ step ≠ "..") := by
  by_cases hstay : step = "" ∨ step = "."
  · exact .inl hstay
  · rw [not_or] at hstay
    by_cases hback : step = ".."
    · exact .inr (.inl hback)
    · exact .inr (.inr ⟨hstay.1, hstay.2, hback⟩)

/-- A walk from names through segments ends at names. -/
lemma isName_of_mem_walk {segments place found : List String}
    (hplace : ∀ name ∈ place, Path.IsName name) (hsegments : ∀ s ∈ segments, '/' ∉ s.toList)
    (h : walk place segments = some found) : ∀ name ∈ found, Path.IsName name := by
  induction segments generalizing place with
  | nil =>
    cases h
    exact hplace
  | cons step rest ih =>
    obtain ⟨hslash, hrest⟩ := List.forall_mem_cons.1 hsegments
    rcases step_cases step with hstay | rfl | hname
    · rw [walk_stay hstay] at h
      exact ih hplace hrest h
    · cases place with
      | nil => cases h
      | cons name place => exact ih (List.forall_mem_cons.1 hplace).2 hrest h
    · rw [walk_enter hname] at h
      have hstep : Path.IsName step := ⟨hname.1, hname.2.1, hname.2.2, hslash⟩
      exact ih (List.forall_mem_cons.2 ⟨hstep, hplace⟩) hrest h

/-- Walking leads by segments that are walked. -/
lemma mem_of_mem_walk {segments place found : List String} {name : String}
    (h : walk place segments = some found) (hname : name ∈ found) :
    name ∈ place ∨ name ∈ segments := by
  induction segments generalizing place with
  | nil =>
    cases h
    exact .inl hname
  | cons step rest ih =>
    rcases step_cases step with hstay | rfl | henter
    · rw [walk_stay hstay] at h
      exact (ih h).imp_right (List.mem_cons_of_mem _)
    · cases place with
      | nil => cases h
      | cons top place =>
        exact (ih h).imp (List.mem_cons_of_mem _) (List.mem_cons_of_mem _)
    · rw [walk_enter henter] at h
      rcases ih h with hmem | hmem
      · rcases List.mem_cons.1 hmem with rfl | hmem
        · exact .inr List.mem_cons_self
        · exact .inl hmem
      · exact .inr (List.mem_cons_of_mem _ hmem)

/-! ## Normalized urls -/

/-- Normalizing a url walks it from the top. -/
lemma exists_walk_of_normalize {url normalized : String} (h : normalize url = some normalized) :
    '\\' ∉ url.toList ∧ ∃ place, place ≠ [] ∧ walk [] (segments ("/" ++ url)) = some place ∧
      normalized = "/".intercalate place.reverse := by
  rw [normalize] at h
  split at h
  · cases h
  · rename_i hplain
    rw [Bool.or_eq_true, not_or, String.contains_char_eq, decide_eq_true_eq] at hplain
    refine ⟨hplain.2, ?_⟩
    rw [resolve] at h
    split at h
    · cases h
    · cases h
    · rename_i place hne hwalk
      cases h
      have hstart : (if ("/" ++ url).startsWith "/" then ([] : List String) else directory "")
          = [] := by
        split
        · rfl
        · rfl
      rw [hstart] at hwalk
      exact ⟨place, hne, hwalk, rfl⟩

/-- A normalized url consists of names, in which there is no backslash. -/
lemma exists_plain_names_of_normalize {url normalized : String}
    (h : normalize url = some normalized) :
    ∃ names, names ≠ [] ∧ (∀ name ∈ names, Path.IsName name ∧ '\\' ∉ name.toList) ∧
      normalized = "/".intercalate names := by
  obtain ⟨hplain, place, hne, hwalk, rfl⟩ := exists_walk_of_normalize h
  have hnames := isName_of_mem_walk (by simp) (fun s hs => not_mem_of_mem_segments hs) hwalk
  refine ⟨place.reverse, by simpa using hne, ?_, rfl⟩
  intro name hname
  rw [List.mem_reverse] at hname
  refine ⟨hnames name hname, fun hslash => hplain ?_⟩
  -- the name is a segment of the url
  have hsegment := (mem_of_mem_walk hwalk hname).resolve_left List.not_mem_nil
  have hmem := mem_of_mem_segments hsegment hslash
  simpa using hmem

/-- A normalized url consists of names. -/
lemma exists_names_of_normalize {url normalized : String} (h : normalize url = some normalized) :
    ∃ names, names ≠ [] ∧ (∀ name ∈ names, Path.IsName name) ∧
      normalized = "/".intercalate names := by
  obtain ⟨names, hne, hnames, heq⟩ := exists_plain_names_of_normalize h
  exact ⟨names, hne, fun name hname => (hnames name hname).1, heq⟩

end Link
end Bindery
