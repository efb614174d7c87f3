import Bindery.Proofs.Resolver.Addresses

/-!
# Where requests lead

A request is walked from the directory of the module that makes it, or from the root if it starts
with a slash. It leads to an id exactly if no step of the walk goes above the root and the walk ends
below it, and the id is the path of the place where it ends (`Link.resolve_walks`). A place that a
relative request leads to can be asked for from the root in the same way.
-/

namespace Bindery
namespace Link

variable {step module request id : String} {place found steps rest names : List String}

/-! ## Walks -/

/-- Steps that lead from one place to another. A place is given by the names that lead to it from
the root. -/
inductive Walks : List String → List String → List String → Prop
  | arrived (place : List String) : Walks place [] place
  | stay {step : String} {place rest found : List String} (hstep : step = "" ∨ step = ".")
      (hrest : Walks place rest found) : Walks place (step :: rest) found
  | back (name : String) {place rest found : List String} (hrest : Walks place rest found) :
      Walks (place ++ [name]) (".." :: rest) found
  | enter {step : String} {place rest found : List String}
      (hname : step ≠ "" ∧ step ≠ "." ∧ step ≠ "..") (hrest : Walks (place ++ [step]) rest found) :
      Walks place (step :: rest) found

/-- What the relation leads to is found by the walk. -/
lemma walk_of_walks (h : Walks place steps found) :
    walk place.reverse steps = some found.reverse := by
  induction h with
  | arrived place => rfl
  | stay hstep _ ih => rw [walk_stay hstep, ih]
  | back name _ ih => rw [List.reverse_append, List.reverse_singleton, List.singleton_append,
      walk_back, ih]
  | enter hname _ ih =>
    rw [List.reverse_append, List.reverse_singleton, List.singleton_append] at ih
    rw [walk_enter hname, ih]

/-- What the walk finds is what the relation leads to. -/
lemma walks_of_walk (h : walk place steps = some found) :
    Walks place.reverse steps found.reverse := by
  induction steps generalizing place with
  | nil =>
    cases h
    exact .arrived _
  | cons step rest ih =>
    rcases step_cases step with hstay | rfl | hname
    · rw [walk_stay hstay] at h
      exact .stay hstay (ih h)
    · cases place with
      | nil => cases h
      | cons name place =>
        rw [List.reverse_cons]
        exact .back name (ih h)
    · rw [walk_enter hname] at h
      have hrest := ih h
      rw [List.reverse_cons] at hrest
      exact .enter hname hrest

/-- The walk finds exactly what the relation leads to. -/
lemma walks_iff : Walks place steps found ↔ walk place.reverse steps = some found.reverse := by
  refine ⟨walk_of_walks, fun h => ?_⟩
  have hwalks := walks_of_walk h
  rwa [List.reverse_reverse, List.reverse_reverse] at hwalks

/-! ## How deep a walk leads -/

/-- The number of steps that lead back. -/
def backs (steps : List String) : Nat := steps.count ".."

/-- The number of steps that enter something. -/
def enters (steps : List String) : Nat := steps.countP fun s => s ≠ "" && s ≠ "." && s ≠ ".."

lemma backs_stay (hstep : step = "" ∨ step = ".") (rest : List String) :
    backs (step :: rest) = backs rest := by
  rcases hstep with rfl | rfl <;> simp [backs]

lemma enters_stay (hstep : step = "" ∨ step = ".") (rest : List String) :
    enters (step :: rest) = enters rest := by
  rcases hstep with rfl | rfl <;> simp [enters]

lemma backs_back (rest : List String) : backs (".." :: rest) = backs rest + 1 := by simp [backs]

lemma enters_back (rest : List String) : enters (".." :: rest) = enters rest := by simp [enters]

/-- A name is no step back. -/
lemma backs_enter (hname : step ≠ "" ∧ step ≠ "." ∧ step ≠ "..") (rest : List String) :
    backs (step :: rest) = backs rest := by
  simp [backs, hname.2.2]

/-- A name enters one place. -/
lemma enters_enter (hname : step ≠ "" ∧ step ≠ "." ∧ step ≠ "..") (rest : List String) :
    enters (step :: rest) = enters rest + 1 := by
  simp [enters, hname]

/-- A walk ends as deep as its steps lead down more often than back. -/
lemma length_of_walk (h : walk place steps = some found) :
    found.length + backs steps = place.length + enters steps := by
  induction steps generalizing place with
  | nil =>
    cases h
    rfl
  | cons step rest ih =>
    rcases step_cases step with hstay | rfl | hname
    · rw [walk_stay hstay] at h
      rw [backs_stay hstay, enters_stay hstay, ih h]
    · cases place with
      | nil => cases h
      | cons name place =>
        have hrest := ih h
        rw [backs_back, enters_back, List.length_cons]
        omega
    · rw [walk_enter hname] at h
      have hrest := ih h
      rw [List.length_cons] at hrest
      rw [backs_enter hname, enters_enter hname]
      omega

/-- No first steps lead above the root, for a walk that starts at some depth. -/
def StaysBelow (depth : Nat) (steps : List String) : Prop :=
  ∀ first, first <+: steps → backs first ≤ depth + enters first

/-- A walk stays below the root if every beginning of it does. -/
lemma staysBelow_cons {depth : Nat} : StaysBelow depth (step :: rest) ↔
    ∀ first, first <+: rest → backs (step :: first) ≤ depth + enters (step :: first) := by
  constructor
  · exact fun h first hfirst => h _ (List.cons_prefix_cons.2 ⟨rfl, hfirst⟩)
  · intro h first hfirst
    rcases List.prefix_cons_iff.1 hfirst with rfl | ⟨first, rfl, hrest⟩
    · exact Nat.zero_le _
    · exact h first hrest

/-- A walk can be taken to its end exactly if it never goes above the root. -/
lemma isSome_walk_iff : (walk place steps).isSome ↔ StaysBelow place.length steps := by
  induction steps generalizing place with
  | nil =>
    refine iff_of_true rfl fun first hfirst => ?_
    rw [List.prefix_nil.1 hfirst]
    exact Nat.zero_le _
  | cons step rest ih =>
    rw [staysBelow_cons]
    rcases step_cases step with hstay | rfl | hname
    · simp only [backs_stay hstay, enters_stay hstay]
      rw [walk_stay hstay, ih, StaysBelow]
    · simp only [backs_back, enters_back]
      cases place with
      | nil =>
        -- the first step alone goes above the root
        refine iff_of_false (by simp [walk]) fun h => ?_
        have hfirst := h [] (List.nil_prefix)
        simp [backs, enters] at hfirst
      | cons name place =>
        rw [walk_back, ih, StaysBelow, List.length_cons]
        refine forall₂_congr fun first _ => ?_
        omega
    · simp only [backs_enter hname, enters_enter hname]
      rw [walk_enter hname, ih, StaysBelow, List.length_cons]
      refine forall₂_congr fun first _ => ?_
      omega

/-! ## Requests -/

/-- The place that a request of a module is walked from. -/
def startOf (module request : String) : List String :=
  if Path.isAbsolute request then [] else (segments module).dropLast

/-- A relative request starts at the folder of the module. -/
lemma startOf_relative (h : Path.isAbsolute request = false) (module : String) :
    startOf module request = (segments module).dropLast := by
  rw [startOf, if_neg (by simp [h])]

lemma directory_eq (module : String) : directory module = (segments module).dropLast.reverse := by
  rw [directory, List.drop_one, List.tail_reverse]

/-- A request is resolved to where it walks, unless that is the root. -/
lemma resolve_eq_some_iff : resolve module request = some id ↔
    ∃ place, Walks (startOf module request) (segments request) place ∧ place ≠ [] ∧
      id = "/".intercalate place := by
  have hstart : (if request.startsWith "/" then [] else directory module)
      = (startOf module request).reverse := by
    rw [startOf, Path.isAbsolute]
    split
    · rfl
    · exact directory_eq module
  simp only [walks_iff]
  rw [resolve, hstart]
  cases hwalk : walk (startOf module request).reverse (segments request) with
  | none => simp
  | some place =>
    cases place with
    | nil => simp
    | cons name place =>
      constructor
      · intro h
        exact ⟨(name :: place).reverse, by simp, by simp, by simpa [eq_comm] using h⟩
      · rintro ⟨other, hother, -, rfl⟩
        rw [Option.some.injEq] at hother
        dsimp only
        rw [hother, List.reverse_reverse]

/-- A request leads somewhere exactly if it never goes above the root and ends below it. -/
lemma isSome_resolve_iff : (resolve module request).isSome ↔
    StaysBelow (startOf module request).length (segments request) ∧
      backs (segments request) < (startOf module request).length + enters (segments request) := by
  rw [← List.length_reverse, ← isSome_walk_iff, Option.isSome_iff_exists, Option.isSome_iff_exists]
  simp only [resolve_eq_some_iff, walks_iff]
  constructor
  · rintro ⟨id, place, hwalk, hplace, -⟩
    have hlength := length_of_walk hwalk
    have hpos : 0 < place.reverse.length := by simpa [List.length_pos_iff] using hplace
    exact ⟨⟨_, hwalk⟩, by omega⟩
  · rintro ⟨⟨place, hwalk⟩, hdeep⟩
    have hlength := length_of_walk hwalk
    have hpos : 0 < place.length := by omega
    refine ⟨"/".intercalate place.reverse, place.reverse, ?_, ?_, rfl⟩
    · rw [List.reverse_reverse, hwalk]
    · simpa [List.length_pos_iff] using hpos

/-- A request starts at names. -/
lemma isName_of_mem_startOf (hmodule : ∀ s ∈ segments module, Path.IsName s) (request : String) :
    ∀ name ∈ startOf module request, Path.IsName name := by
  rw [startOf]
  split
  · simp
  · exact fun name hname => hmodule name ((List.dropLast_sublist _).mem hname)

/-- A module whose id is a path of names only asks for such ids. -/
lemma isPlain_of_resolve_eq_some (hmodule : ∀ s ∈ segments module, Path.IsName s)
    (h : resolve module request = some id) : IsPlain id := by
  obtain ⟨place, hwalks, hplace, rfl⟩ := resolve_eq_some_iff.1 h
  have hnames := isName_of_mem_walk
    (fun name hname => isName_of_mem_startOf hmodule request name (List.mem_reverse.1 hname))
    (fun s hs => not_mem_of_mem_segments hs) (walks_iff.1 hwalks)
  exact ⟨place, hplace, fun name hname => hnames name (List.mem_reverse.2 hname), rfl⟩

lemma IsPlain.segments (h : IsPlain id) : ∀ s ∈ segments id, Path.IsName s := by
  obtain ⟨names, hne, hnames, rfl⟩ := h
  rwa [segments_intercalate hne fun name hname => (hnames name hname).not_mem]

/-! ## Requests that lead to the same place -/

/-- Names in front of a path come in front of its segments. -/
lemma segments_intercalate_append (h : ∀ name ∈ names, '/' ∉ name.toList) (path : String) :
    segments ("/".intercalate (names ++ [path])) = names ++ segments path := by
  by_cases hne : names = []
  · rw [hne, List.nil_append, String.intercalate_singleton, List.nil_append]
  · rw [String.intercalate_append_of_ne_nil hne (by simp), String.intercalate_singleton,
      segments_append, segments_intercalate hne h]

lemma isAbsolute_dot (request : String) : Path.isAbsolute ("./" ++ request) = false := by
  rw [Bool.eq_false_iff, Ne, Path.isAbsolute_iff]
  simp

/-- A dot in front of a relative request changes nothing. -/
lemma resolve_dot (h : Path.isAbsolute request = false) (module : String) :
    resolve module ("./" ++ request) = resolve module request := by
  have hsegments : segments ("./" ++ request) = "." :: segments request :=
    segments_append "." request
  have hstart : startOf module ("./" ++ request) = startOf module request := by
    rw [startOf, startOf, isAbsolute_dot, h]
  have hwalk (place : List String) :
      Walks (startOf module request) ("." :: segments request) place ↔
        Walks (startOf module request) (segments request) place := by
    rw [walks_iff, walks_iff, walk_stay (.inr rfl)]
  ext id
  rw [resolve_eq_some_iff, resolve_eq_some_iff, hsegments, hstart]
  simp only [hwalk]

/-- A relative request leads where the request from the root leads that goes through the directory
of the module. -/
lemma resolve_through_root (hmodule : ∀ s ∈ segments module, Path.IsName s)
    (h : Path.isAbsolute request = false) (other : String) :
    resolve other ("/" ++ "/".intercalate ((segments module).dropLast ++ [request]))
      = resolve module request := by
  have hnames : ∀ name ∈ (segments module).dropLast, Path.IsName name :=
    fun name hname => hmodule name ((List.dropLast_sublist _).mem hname)
  ext id
  rw [← Option.mem_def, Option.mem_def, resolve_rooted, resolve_eq_some_iff, startOf_relative h,
    segments_intercalate_append (fun name hname => (hnames name hname).not_mem),
    walk_names_append hnames, List.append_nil]
  simp only [walks_iff]
  constructor
  · rintro ⟨place, hplace, hwalk, rfl⟩
    exact ⟨place.reverse, by rw [hwalk, List.reverse_reverse], by simpa using hplace, rfl⟩
  · rintro ⟨place, hwalk, hplace, rfl⟩
    exact ⟨place.reverse, by simpa using hplace, hwalk, by rw [List.reverse_reverse]⟩

/-- A request of a module leads to an id exactly if its walk from the directory of the module, or
from the root, never goes above the root and ends below it: then the id is the path of the place
where the walk ends. It consists of names again, and a slash in front of it makes a request that
leads there from everywhere. A relative request leads to the same id with a dot in front of it, and
with the directory in front of it as a request from the root. -/
theorem resolve_walks (hmodule : ∀ s ∈ segments module, Path.IsName s) (request : String) :
    (∀ id, resolve module request = some id ↔
      ∃ place, Walks (startOf module request) (segments request) place ∧ place ≠ [] ∧
        id = "/".intercalate place) ∧
    ((resolve module request).isSome ↔
      StaysBelow (startOf module request).length (segments request) ∧
        backs (segments request) < (startOf module request).length + enters (segments request)) ∧
    (∀ id, resolve module request = some id →
      (∀ s ∈ segments id, Path.IsName s) ∧ ∀ other, resolve other ("/" ++ id) = some id) ∧
    (Path.isAbsolute request = false →
      resolve module ("./" ++ request) = resolve module request ∧
      ∀ other, resolve other ("/" ++ "/".intercalate ((segments module).dropLast ++ [request]))
        = resolve module request) := by
  refine ⟨fun id => resolve_eq_some_iff, isSome_resolve_iff, fun id h => ?_, fun h => ⟨?_, ?_⟩⟩
  · have hplain := isPlain_of_resolve_eq_some hmodule h
    exact ⟨hplain.segments, fun other => resolve_rooted_iff.2 hplain⟩
  · exact resolve_dot h module
  · exact resolve_through_root hmodule h

/-- A walk may lead into a directory and back up to the root, but not above it. -/
theorem resolve_walks_back_and_down :
    (∀ s ∈ segments "guide/intro.md", Path.IsName s) ∧
      resolve "guide/intro.md" "img/../../SUMMARY.md" = some "SUMMARY.md" ∧
      resolve "a/b/c.md" "/SUMMARY.md" = some "SUMMARY.md" ∧
      resolve "x.md" "/guide/img/../../SUMMARY.md" = some "SUMMARY.md" ∧
      ¬ (resolve "guide/intro.md" "../../guide/intro.md").isSome := by
  have hsegments : segments "guide/intro.md" = ["guide", "intro.md"] := by decide
  have hmodule : ∀ s ∈ segments "guide/intro.md", Path.IsName s := by
    rw [hsegments]
    simp only [List.forall_mem_cons, List.not_mem_nil, false_imp_iff, implies_true, and_true]
    exact ⟨⟨by decide, by decide, by decide, by decide⟩, by decide, by decide, by decide, by decide⟩
  have hrelative (request : String) (h : request.toList.head? ≠ some '/') :
      Path.isAbsolute request = false := by
    rwa [Bool.eq_false_iff, Ne, Path.isAbsolute_iff]
  have hdown := hrelative "img/../../SUMMARY.md" (by decide)
  have hup := hrelative "../../guide/intro.md" (by decide)
  obtain ⟨hwalk, -, hagain, hsame⟩ := resolve_walks hmodule "img/../../SUMMARY.md"
  have hsummary : resolve "guide/intro.md" "img/../../SUMMARY.md" = some "SUMMARY.md" := by
    refine (hwalk _).2 ⟨["SUMMARY.md"], ?_, by simp, by decide⟩
    have hrequest : segments "img/../../SUMMARY.md" = ["img", "..", "..", "SUMMARY.md"] := by decide
    rw [startOf_relative hdown, hsegments, hrequest]
    have hend : Walks [] ["SUMMARY.md"] ["SUMMARY.md"] := .enter (by decide) (.arrived _)
    have hback : Walks ["guide"] ["..", "SUMMARY.md"] ["SUMMARY.md"] := .back "guide" hend
    exact .enter (by decide) (.back "img" hback)
  refine ⟨hmodule, hsummary, (hagain _ hsummary).2 _, ?_, ?_⟩
  · have hrooted := (hsame hdown).2 "x.md"
    rw [hsummary, hsegments] at hrooted
    exact hrooted
  · rw [(resolve_walks hmodule "../../guide/intro.md").2.1, startOf_relative hup, hsegments]
    rintro ⟨hstays, -⟩
    -- the second step is one too many
    exact absurd (hstays ["..", ".."] (by decide)) (by decide)

end Link
end Bindery
