import Bindery.Proofs.Resolver.Edits
import Mathlib

/-!
# The life of a resolver

A resolver builds a graph again and again while the graph is edited, and is told of the edits. In
every history in which it is told in time, it puts out the pages that a new resolver puts out
(`Resolver.History.build_pages_eq_new`). Telling it of the module makes up for an edit that keeps
the kind of the module, whether it loads and its url, if the edit also keeps the reason why the
module does not load or no rendering sees such reasons; without that a page goes on to show the old
reason (`Resolver.stale_after_invalidate`). What carries the proof is that the cache, less what was
made with the modules that the resolver was not told of yet, is coherent with the graph as it is.
-/

namespace Bindery

/-! ## Taking back several modules -/

namespace Cache

variable {c : Cache} {ids : List String} {id : String}

/-- What is left of a cache when what was made by some modules or with them is taken back. -/
def without (c : Cache) (ids : List String) : Cache := ids.foldr (fun id c => c.invalidate id) c

/-- Pages are left that neither belong to the modules nor were made with them. -/
lemma mem_pages_without {key : PageKey} {entry : CachedPage} :
    (key, entry) ∈ (c.without ids).pages ↔
      (key, entry) ∈ c.pages ∧ key.module ∉ ids ∧ ∀ id ∈ ids, id ∉ entry.dependencies := by
  induction ids with
  | nil => simp [without]
  | cons id rest ih =>
    show (key, entry) ∈ ((c.without rest).invalidate id).pages ↔ _
    rw [mem_pages_invalidate, ih]
    simp only [List.mem_cons, not_or, forall_eq_or_imp]
    tauto

/-- Tables of contents are left that are not of the modules. -/
lemma mem_tocs_without {other : String} {toc : Toc} :
    (other, toc) ∈ (c.without ids).tocs ↔ (other, toc) ∈ c.tocs ∧ other ∉ ids := by
  induction ids with
  | nil => simp [without]
  | cons id rest ih =>
    show (other, toc) ∈ ((c.without rest).invalidate id).tocs ↔ _
    rw [mem_tocs_invalidate, ih]
    simp only [List.mem_cons, not_or]
    tauto

/-- Of a module that was taken back the others need not be told. -/
lemma pages_invalidate_without_subset :
    ((c.invalidate id).without (ids.filter (· ≠ id))).pages ⊆ (c.without ids).pages := by
  rintro ⟨key, entry⟩ hmem
  obtain ⟨hmem, hmodule, hunused⟩ := mem_pages_without.1 hmem
  obtain ⟨hmem, hne, hfree⟩ := mem_pages_invalidate.1 hmem
  refine mem_pages_without.2 ⟨hmem, ?_, ?_⟩
  · intro h
    exact hmodule (List.mem_filter.2 ⟨h, by simpa using hne⟩)
  · intro other hother
    by_cases h : other = id
    · rw [h]
      exact hfree
    · exact hunused other (List.mem_filter.2 ⟨hother, by simpa using h⟩)

/-- The same for tables of contents. -/
lemma tocs_invalidate_without_subset :
    ((c.invalidate id).without (ids.filter (· ≠ id))).tocs ⊆ (c.without ids).tocs := by
  rintro ⟨other, toc⟩ hmem
  obtain ⟨hmem, hother⟩ := mem_tocs_without.1 hmem
  obtain ⟨hmem, hne⟩ := mem_tocs_invalidate.1 hmem
  refine mem_tocs_without.2 ⟨hmem, ?_⟩
  intro h
  exact hother (List.mem_filter.2 ⟨h, by simpa using hne⟩)

/-- A part of a coherent cache is coherent. -/
lemma Coherent.mono {g : ModuleGraph} {settings : BuildSettings} {c' : Cache}
    (h : c.Coherent g settings) (htocs : c'.tocs ⊆ c.tocs) (hpages : c'.pages ⊆ c.pages) :
    c'.Coherent g settings where
  tocs := fun id toc hmem => h.tocs id toc (htocs hmem)
  pages := fun key entry hmem => h.pages key entry (hpages hmem)

end Cache

/-! ## Histories -/

/-- What a resolver was not told of yet: modules that were edited, and whether there were edits
that telling it of a module does not make up for. -/
structure Untold where
  modules : List String := []
  other : Bool := false

namespace Resolver

open SourceGraph

/-- What becomes of a resolver and the graph that it builds, beginning with a new resolver. Edits of
a kind that is allowed are made up for by telling the resolver of the module, any other change of
the graph by clearing the caches; the graph is built when the resolver was told of everything. -/
inductive History (allowed : SourceGraph → Edit → Prop) (settings : BuildSettings) :
    Resolver → SourceGraph → Untold → Prop where
  | start (g : SourceGraph) : g.Proper → History allowed settings ⟨settings, {}⟩ g {}
  | edit {r : Resolver} {g : SourceGraph} {untold : Untold} (edit : Edit) :
    History allowed settings r g untold → allowed g edit → (edit.apply g).Proper →
      History allowed settings r (edit.apply g)
        { untold with modules := edit.id :: untold.modules }
  | replace {r : Resolver} {g : SourceGraph} {untold : Untold} (g' : SourceGraph) :
    History allowed settings r g untold → g'.Proper →
      History allowed settings r g' { untold with other := true }
  | invalidate {r : Resolver} {g : SourceGraph} {untold : Untold} (id : String) :
    History allowed settings r g untold →
      History allowed settings (r.invalidate id).2 g
        { untold with modules := untold.modules.filter (· ≠ id) }
  | clear {r : Resolver} {g : SourceGraph} {untold : Untold} :
    History allowed settings r g untold → History allowed settings r.clear g {}
  | build {r : Resolver} {g : SourceGraph} :
    History allowed settings r g {} → History allowed settings (r.build g.toGraph).2 g {}

namespace History

variable {allowed : SourceGraph → Edit → Prop} {settings : BuildSettings}
variable {r : Resolver} {g : SourceGraph} {untold : Untold}

/-- The settings stay what they were. -/
lemma settings_eq (h : History allowed settings r g untold) : r.settings = settings := by
  induction h with
  | start => rfl
  | edit _ _ _ _ ih => exact ih
  | replace _ _ _ ih => exact ih
  | invalidate _ _ ih => exact ih
  | clear _ ih => exact ih
  | build _ ih => exact ih

/-- The graph is proper at any time. -/
lemma proper (h : History allowed settings r g untold) : g.Proper := by
  induction h with
  | start _ hg => exact hg
  | edit _ _ _ hg => exact hg
  | replace _ _ hg => exact hg
  | invalidate _ _ ih => exact ih
  | clear _ ih => exact ih
  | build _ ih => exact ih

/-- If the allowed edits leave what other modules render as it was, all that the resolver does not
have to take back yet is as it would be rendered again. -/
lemma coherent
    (hallowed : ∀ g edit, g.Proper → allowed g edit →
      g.toGraph.Unmoved edit.id (edit.apply g).toGraph)
    (h : History allowed settings r g untold) (hother : untold.other = false) :
    (r.cache.without untold.modules).Coherent g.toGraph settings := by
  induction h with
  | start => exact Cache.coherent_of_empty rfl rfl
  | edit edit hbefore hedit hg ih =>
    have hcoherent := ih hother
    exact hcoherent.invalidate_of_unmoved hg.toGraph.owned (hallowed _ edit hbefore.proper hedit)
  | replace => exact absurd hother Bool.noConfusion
  | invalidate id _ ih =>
    have hcoherent := ih hother
    exact hcoherent.mono Cache.tocs_invalidate_without_subset
      Cache.pages_invalidate_without_subset
  | clear => exact Cache.coherent_of_empty rfl rfl
  | @build r g hbefore ih =>
    have hcoherent : r.cache.Coherent g.toGraph r.settings := by
      rw [hbefore.settings_eq]
      exact ih rfl
    have hbuilt := (build_spec hbefore.proper.toGraph.keyed hcoherent).2.2
    rw [hbefore.settings_eq] at hbuilt
    exact hbuilt

/-- A resolver that was told in time puts out the pages that a new resolver puts out: of an edit
that keeps the kind of a module, whether it loads, and its url by invalidating the module, if the
reason why the module does not load is kept, too, or no rendering sees it; of any other change by
clearing the caches. -/
theorem build_pages_eq_new (h : History Edit.Keeps settings r g {}) :
    (r.build g.toGraph).1.pages = ((Resolver.mk settings {}).build g.toGraph).1.pages := by
  have hkeyed := h.proper.toGraph.keyed
  have hcoherent : r.cache.Coherent g.toGraph r.settings := by
    rw [h.settings_eq]
    exact h.coherent (fun _ _ _ hkeeps => hkeeps.unmoved) rfl
  have hempty : Cache.Coherent g.toGraph settings {} := Cache.coherent_of_empty rfl rfl
  have hbuild := (build_spec hkeyed hcoherent).1
  have hnew := (build_spec (r := ⟨settings, {}⟩) hkeyed hempty).1
  rw [hbuild, hnew, h.settings_eq]

end History

/-! ## Examples of histories -/

/-- A module of one page of fixed text. -/
def samplePage (id url text : String) (toc template : Option String) : PageModule where
  page := { module := id, url, filename := id, render := fun _ => .ok text, toc, template }

lemma proper_samplePage (id url text : String) (toc template : Option String) :
    (samplePage id url text toc template).Proper id := PageModule.proper_of_single rfl rfl

lemma proper_empty (publicPath : String) : (SourceGraph.mk publicPath .empty).Proper := by
  intro id m hload
  cases hload

/-- A page and its table of contents. -/
def sampleGraph : SourceGraph :=
  (Edit.module "t.md" "t.md" (samplePage "t.md" "t" "T" none none)).apply
    ((Edit.module "a.md" "a.md" (samplePage "a.md" "a" "A" (some "t.md") none)).apply
      ⟨"/", .empty⟩)

/-- The table of contents gets another text. -/
def sampleEdit : Edit := .module "t.md" "t.md" (samplePage "t.md" "t" "B" none none)

/-- A graph is built, its table of contents is edited, the resolver is told, and builds again. -/
theorem build_pages_eq_new_after_edit :
    let told := ((Resolver.mk {} {}).build sampleGraph.toGraph).2.invalidate "t.md"
    let edited := sampleEdit.apply sampleGraph
    History Edit.Keeps {} told.2 edited {} ∧
      (told.2.build edited.toGraph).1.pages
        = ((Resolver.mk {} {}).build edited.toGraph).1.pages := by
  have hproper : sampleGraph.Proper := by
    apply Edit.proper_apply_module _ (proper_samplePage _ _ _ _ _)
    exact Edit.proper_apply_module (proper_empty _) (proper_samplePage _ _ _ _ _)
  have hbuilt : History Edit.Keeps {} _ sampleGraph {} := .build (.start _ hproper)
  have hkeeps : sampleEdit.Keeps sampleGraph := ⟨by rfl, .inr (by rfl)⟩
  have hedited : (sampleEdit.apply sampleGraph).Proper :=
    Edit.proper_apply_module hproper (proper_samplePage _ _ _ _ _)
  have htold := (hbuilt.edit sampleEdit hkeeps hedited).invalidate "t.md"
  exact ⟨htold, History.build_pages_eq_new htold⟩

/-! ## Pages that show why a request fails -/

/-- A page that shows the answer to its request of another module, or why there is none. -/
def askingPage : PageModule where
  page := {
    module := "a.md", url := "a", filename := "a.md"
    render := fun scope => match scope.assets with
      | some resolve => match resolve scope.module "./b.md" with
        | .ok url => .ok url
        | .error reason => .ok reason
      | none => .ok "" }

/-- The page that asks and nothing else. -/
def askingGraph : SourceGraph := (Edit.module "a.md" "a.md" askingPage).apply ⟨"/", .empty⟩

/-- The other module does not load. -/
def unclosedGraph : SourceGraph :=
  (Edit.document "b.md" "b.md" (.error .unclosedFrontMatter)).apply askingGraph

/-- The other module does not load for another reason. -/
def invalidEdit : Edit := .document "b.md" "b.md" (.error .frontMatter)

/-- The other module is a page. -/
def answeringGraph : SourceGraph :=
  (Edit.module "b.md" "b.md" (samplePage "b.md" "b" "B" none none)).apply askingGraph

/-- Its url is written in another way, and is put out as before. -/
def respellingEdit : Edit := .module "b.md" "b.md" (samplePage "b.md" "./b" "B" none none)

/-- The resolver that has built a graph and is told of the other module. -/
def toldOfOther (g : SourceGraph) : Resolver :=
  (((Resolver.mk {} {}).build g.toGraph).2.invalidate "b.md").2

/-- What a resolver puts out for the page that asks. -/
def shown (r : Resolver) (g : SourceGraph) : Option String :=
  ((r.build g.toGraph).1.assets.find? "a").map (·.page.html)

lemma proper_askingGraph : askingGraph.Proper :=
  Edit.proper_apply_module (proper_empty _) (PageModule.proper_of_single rfl rfl)

/-- The resolver is told that the other module was replaced by one that does not load either. -/
lemma history_invalidEdit :
    History Edit.KeepsStanding {} (toldOfOther unclosedGraph) (invalidEdit.apply unclosedGraph)
      {} := by
  have hproper : unclosedGraph.Proper := Edit.proper_apply_broken proper_askingGraph
  have hbuilt : History Edit.KeepsStanding {} _ unclosedGraph {} := .build (.start _ hproper)
  exact (hbuilt.edit invalidEdit (by rfl) (Edit.proper_apply_broken hproper)).invalidate "b.md"

/-- The resolver is told that the url of the other module was spelled in another way. -/
lemma history_respellingEdit :
    History Edit.KeepsPlace {} (toldOfOther answeringGraph) (respellingEdit.apply answeringGraph)
      {} := by
  have hproper : answeringGraph.Proper :=
    Edit.proper_apply_module proper_askingGraph (proper_samplePage _ _ _ _ _)
  have hedited : (respellingEdit.apply answeringGraph).Proper :=
    Edit.proper_apply_module hproper (proper_samplePage _ _ _ _ _)
  have hbuilt : History Edit.KeepsPlace {} _ answeringGraph {} := .build (.start _ hproper)
  have hkeeps : respellingEdit.KeepsPlace answeringGraph := by cbv
  exact (hbuilt.edit respellingEdit hkeeps hedited).invalidate "b.md"

/-- It is not enough that an edit keeps the kind of the module, whether it loads, and its url: a
page goes on to show the reason why the module did not load before. Nor is it enough to keep the url
that the page is put out under: requests are answered with the url as it is written. -/
theorem stale_after_invalidate :
    (History Edit.KeepsStanding {} (toldOfOther unclosedGraph)
        (invalidEdit.apply unclosedGraph) {} ∧
      (toldOfOther unclosedGraph).shown (invalidEdit.apply unclosedGraph)
        = some ("\x60./b.md\x60 refers to a module that failed to compile: " ++
          "Front matter is missing its closing \x60+++\x60 line") ∧
      (Resolver.mk {} {}).shown (invalidEdit.apply unclosedGraph)
        = some ("\x60./b.md\x60 refers to a module that failed to compile: " ++
          "Front matter parsing error")) ∧
    History Edit.KeepsPlace {} (toldOfOther answeringGraph)
        (respellingEdit.apply answeringGraph) {} ∧
      (toldOfOther answeringGraph).shown (respellingEdit.apply answeringGraph) = some "/b" ∧
      (Resolver.mk {} {}).shown (respellingEdit.apply answeringGraph) = some "/./b" :=
  ⟨⟨history_invalidEdit, by cbv, by cbv⟩, history_respellingEdit, by cbv, by cbv⟩

end Resolver
end Bindery
