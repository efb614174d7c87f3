import Bindery.Proofs.Resolver.Invalidation
import Bindery.Proofs.Sorted
import Mathlib.Data.List.Nodup

/-!
# Edits of a graph

A graph is edited one module at a time. What an edited module is to others is its standing: whether
there is one, of what kind it is, whether it loads and under which url. An edit that keeps the
standing keeps which requests are answered, and how (`SourceGraph.sameBut_of_standing`); of a
request that fails it may change the reason. So what other modules render stays as it was if the
reason why the edited module does not load is kept, too, or if no rendering shows such reasons
(`SourceGraph.Edit.Keeps.unmoved`). An edit may also change the standing as long as no other module
asks for what is answered differently (`SourceGraph.Edit.Unasked.unmoved`).
-/

namespace Bindery

open Bindery.Expr

/-! ## Proper graphs -/

/-- The pages of a module belong to it, and no two that it puts out have one url. -/
structure PageModule.Proper (id : String) (m : PageModule) : Prop where
  owned : ∀ page ∈ m.page :: m.renderPages, page.module = id
  distinct : ((m.outputs.filterMap Page.normalized?).map Page.url).Nodup

/-- What a module puts out is among its pages. -/
lemma PageModule.mem_of_mem_outputs {m : PageModule} {page : Page} (h : page ∈ m.outputs) :
    page ∈ m.page :: m.renderPages := by
  unfold outputs at h
  split at h
  · exact absurd h List.not_mem_nil
  · rcases List.mem_append.1 h with h | h
    · split at h
      · rw [List.mem_singleton.1 h]
        exact List.mem_cons_self
      · exact absurd h List.not_mem_nil
    · exact List.mem_cons_of_mem _ h

/-- A module of one page that is its own is proper. -/
lemma PageModule.proper_of_single {id : String} {m : PageModule} (hmodule : m.page.module = id)
    (hsingle : m.renderPages = []) : m.Proper id := by
  constructor
  · intro page hpage
    rw [hsingle] at hpage
    rw [List.mem_singleton.1 hpage]
    exact hmodule
  · have hlength : m.outputs.length ≤ 1 := by
      unfold outputs
      rw [hsingle]
      split
      · exact Nat.zero_le 1
      · split <;> simp
    have hfew : ((m.outputs.filterMap Page.normalized?).map Page.url).length ≤ 1 := by
      rw [List.length_map]
      exact Nat.le_trans (List.length_filterMap_le _ _) hlength
    rcases h : (m.outputs.filterMap Page.normalized?).map Page.url with _ | ⟨url, _ | _⟩
    · exact List.nodup_nil
    · exact List.nodup_singleton url
    · rw [h] at hfew
      simp at hfew

namespace ModuleGraph

variable {g : ModuleGraph} {id : String} {page : Page}

/-- A graph lists every module once, and each is proper under its id. -/
structure Proper (g : ModuleGraph) : Prop where
  listed : g.modules.Nodup
  modules : ∀ id m, g.pageModule? id = some m → m.Proper id

/-- A page that is put out is one of the pages of a module, with its url normalized. -/
lemma exists_of_mem_pagesOf (hpage : page ∈ g.pagesOf id) :
    ∃ m, g.pageModule? id = some m ∧
      ∃ own ∈ m.page :: m.renderPages, own.normalized? = some page := by
  obtain ⟨m, hm, own, hown, hnormalized⟩ := mem_pagesOf.1 hpage
  exact ⟨m, hm, own, PageModule.mem_of_mem_outputs hown, hnormalized⟩

/-- Pages are put out by the modules that they belong to if every module has pages of its own. -/
lemma owned_of_modules (h : ∀ id m, g.pageModule? id = some m →
    ∀ page ∈ m.page :: m.renderPages, page.module = id) : g.Owned := by
  intro id page hpage
  obtain ⟨m, hm, own, hown, hnormalized⟩ := exists_of_mem_pagesOf hpage
  rw [(Page.eq_of_normalized? hnormalized).1]
  exact h id m hm own hown

lemma Proper.owned (h : g.Proper) : g.Owned :=
  owned_of_modules fun id m hm => (h.modules id m hm).owned

/-- No two pages of a proper graph have one module and one url. -/
lemma Proper.distinct (h : g.Proper) : g.Distinct := by
  rw [Distinct, pages, List.map_flatMap, List.nodup_flatMap]
  constructor
  · intro id _
    have hurls : ((g.pagesOf id).map Page.url).Nodup := by
      rw [pagesOf]
      cases hm : g.pageModule? id with
      | none => exact List.nodup_nil
      | some m => exact (h.modules id m hm).distinct
    apply List.Nodup.of_map Prod.snd
    rw [List.map_map]
    exact hurls
  · refine h.listed.imp ?_
    intro id other hne
    -- pages of different modules differ in their module
    have hmodule : ∀ id key, key ∈ (g.pagesOf id).map (fun page => (page.module, page.url)) →
        key.1 = id := by
      intro id key hkey
      obtain ⟨page, hpage, rfl⟩ := List.mem_map.1 hkey
      exact h.owned id page hpage
    intro key hkey hkey'
    exact hne ((hmodule id key hkey).symm.trans (hmodule other key hkey'))

lemma Proper.keyed (h : g.Proper) : g.Keyed := h.distinct.keyed

end ModuleGraph

namespace SourceGraph

section

variable {g g' : SourceGraph} {id : String}

/-- Every module of a graph is proper under its id. -/
def Proper (g : SourceGraph) : Prop := ∀ id m, g.load id = .ok (some m) → m.Proper id

lemma pageModule?_toGraph {m : PageModule} :
    g.toGraph.pageModule? id = some m ↔ g.load id = .ok (some m) :=
  ModuleGraph.pageModule?_eq_some

/-- A proper graph is proper as a build sees it. -/
lemma Proper.toGraph (h : g.Proper) : g.toGraph.Proper where
  listed := by
    have hkeys : g.entries.entries.Pairwise fun a b => a.1 ≠ b.1 := by
      refine g.entries.inOrder.imp ?_
      intro a b hlt heq
      exact String.lt_irrefl b.1 (heq ▸ hlt)
    exact List.pairwise_map.2 hkeys
  modules := fun id m hm => h id m (pageModule?_toGraph.1 hm)

/-! ## What a module is to others -/

/-- What others see of an id. -/
inductive Standing where
  | absent
  | copied
  | broken
  | page (url : String)
deriving DecidableEq

namespace Standing

/-- The url of the page that there is. -/
def url? : Standing → Option String
  | page url => some url
  | _ => none

/-- What a request of an id is answered with. -/
def answer? (publicPath id : String) : Standing → Option String
  | page url => some (publicPath ++ url)
  | copied => some (publicPath ++ id)
  | absent | broken => none

/-- The same, with the url under which the page is put out. -/
def placed : Standing → Standing
  | page url => page ((Link.normalize url).getD url)
  | standing => standing

end Standing

/-- What others see of an entry. -/
def standingOf : Option SourceEntry → Standing
  | none => .absent
  | some (.static _) => .copied
  | some (.module _ (.error _) _) => .broken
  | some (.module _ (.ok m) _) => .page m.page.url

/-- What others see of an id in a graph. -/
def standing (g : SourceGraph) (id : String) : Standing := standingOf (g.entries.find? id)

/-- Why a module does not load. -/
def failure? (g : SourceGraph) (id : String) : Option String :=
  match g.load id with
  | .ok _ => none
  | .error reason => some reason

/-- Requests are answered by what the ids stand for. -/
lemma toOption_resolve (g : SourceGraph) (module request : String) :
    (g.resolve module request).toOption
      = (Link.resolve module request).bind fun id =>
          (g.standing id).answer? g.publicPath id := by
  rw [resolve]
  cases Link.resolve module request with
  | none => rfl
  | some id =>
    dsimp only [Option.bind_some]
    rw [standing]
    rcases g.entries.find? id with _ | ⟨_, _ | m, _⟩ | _ <;> rfl

/-- Where the failure of a module to load is the same too, so are the reasons given. -/
lemma resolve_congr (hpath : g'.publicPath = g.publicPath)
    (hstanding : ∀ id, g'.standing id = g.standing id)
    (hfailure : ∀ id, g'.failure? id = g.failure? id) : g'.resolve = g.resolve := by
  funext module request
  rw [resolve, resolve]
  cases Link.resolve module request with
  | none => rfl
  | some id =>
    have hstanding := hstanding id
    have hfailure := hfailure id
    rw [standing, standing] at hstanding
    rw [failure?, failure?, load, load] at hfailure
    dsimp only
    rw [hpath]
    generalize g.entries.find? id = entry at hstanding hfailure ⊢
    generalize g'.entries.find? id = entry' at hstanding hfailure ⊢
    rcases entry with _ | ⟨_, _ | m, _⟩ | _ <;> rcases entry' with _ | ⟨_, _ | m', _⟩ | _ <;>
      simp_all [standingOf]

/-- Two graphs that differ in one module, of the same standing in both, give the same answers. -/
lemma sameBut_of_standing (hpath : g'.publicPath = g.publicPath)
    (hother : ∀ other, other ≠ id → g'.entries.find? other = g.entries.find? other)
    (hstanding : g'.standing id = g.standing id) : g.toGraph.SameBut id g'.toGraph := by
  have hstandings : ∀ other, g'.standing other = g.standing other := by
    intro other
    by_cases h : other = id
    · rw [h]
      exact hstanding
    · rw [standing, standing, hother other h]
  constructor
  · intro other hne
    show g'.load other = g.load other
    rw [load, load, hother other hne]
  · intro other hne hmem
    have hfound : (g'.entries.find? other).isSome := Sorted.mem_keys_iff.1 hmem
    rw [hother other hne] at hfound
    exact Sorted.mem_keys_iff.2 hfound
  · intro module request
    show (g.resolve module request).toOption = (g'.resolve module request).toOption
    rw [toOption_resolve, toOption_resolve, hpath]
    congr 1
    funext other
    rw [hstandings]

end

/-! ## Edits -/

/-- A change of one module: it is entered, in the place of what was there, or dropped. -/
inductive Edit where
  | document (id resource : String) (compiled : Except DocumentError Document)
  | module (id resource : String) (m : PageModule)
  | static (id resource : String)
  | remove (id : String)

namespace Edit

/-- The module that an edit changes. -/
def id : Edit → String
  | document id _ _ => id
  | module id _ _ => id
  | static id _ => id
  | remove id => id

/-- The graph after an edit. -/
def apply (edit : Edit) (g : SourceGraph) : SourceGraph :=
  match edit with
  | document id resource compiled => g.insertDocument id resource compiled
  | module id resource m => g.insertModule id resource m
  | static id resource => g.insertStatic id resource
  | remove id => g.erase id

variable {g : SourceGraph} {edit : Edit}

lemma publicPath_apply : (edit.apply g).publicPath = g.publicPath := by
  cases edit <;> rfl

/-- An edit leaves the entries of other modules. -/
lemma find?_apply {other : String} (hne : other ≠ edit.id) :
    (edit.apply g).entries.find? other = g.entries.find? other := by
  cases edit with
  | document => exact Sorted.find?_insert.trans (if_neg hne.symm)
  | module => exact Sorted.find?_insert.trans (if_neg hne.symm)
  | static => exact Sorted.find?_insert.trans (if_neg hne.symm)
  | remove => exact Sorted.find?_erase.trans (if_neg hne.symm)

lemma load_apply {other : String} (hne : other ≠ edit.id) :
    (edit.apply g).load other = g.load other := by
  rw [load, load, find?_apply hne]

/-- An edit adds no other module. -/
lemma mem_modules_apply {other : String} (hne : other ≠ edit.id)
    (hmem : other ∈ (edit.apply g).modules) : other ∈ g.modules := by
  have hfound : ((edit.apply g).entries.find? other).isSome := Sorted.mem_keys_iff.1 hmem
  rw [find?_apply hne] at hfound
  exact Sorted.mem_keys_iff.2 hfound

/-- A module that is entered is what its id loads to. -/
lemma load_apply_module {id resource other : String} {m : PageModule} :
    ((module id resource m).apply g).load other
      = if id = other then .ok (some m) else g.load other := by
  have hfind : ((module id resource m).apply g).entries.find? other
      = if id = other then some (.module resource (.ok m) m.page.dependencies)
        else g.entries.find? other := Sorted.find?_insert
  by_cases h : id = other
  · rw [load, hfind, if_pos h, if_pos h]
  · rw [load, hfind, if_neg h, if_neg h, load]

/-- A graph into which a proper module is entered is proper. -/
lemma proper_apply_module {id resource : String} {m : PageModule} (hg : g.Proper)
    (hm : m.Proper id) : ((module id resource m).apply g).Proper := by
  intro other found hload
  rw [load_apply_module] at hload
  split at hload
  · rename_i heq
    have hfound : m = found := by simpa using hload
    rw [← heq, ← hfound]
    exact hm
  · exact hg other found hload

/-- A graph stays proper when a document is entered that does not compile. -/
lemma proper_apply_broken {id resource : String} {e : DocumentError} (hg : g.Proper) :
    ((document id resource (.error e)).apply g).Proper := by
  intro other m hload
  by_cases h : other = id
  · have hfind : ((document id resource (.error e)).apply g).entries.find? other
        = some (.module resource (.error (": ".intercalate e.chain)) []) := by
      rw [h]
      exact Sorted.find?_insert.trans (if_pos rfl)
    rw [load, hfind] at hload
    cases hload
  · rw [load_apply h] at hload
    exact hg other m hload

/-- An edit keeps the kind of the module that it changes, whether it loads, and the url that its
page is put out under, though perhaps not as it is written. -/
def KeepsPlace (g : SourceGraph) (edit : Edit) : Prop :=
  ((edit.apply g).standing edit.id).placed = (g.standing edit.id).placed

/-- An edit keeps the kind of the module that it changes, whether it loads, and its url as it is
written. -/
def KeepsStanding (g : SourceGraph) (edit : Edit) : Prop :=
  (edit.apply g).standing edit.id = g.standing edit.id

/-- An edit keeps the kind of the module that it changes, whether it loads, and its url. It also
keeps the reason why the module does not load, unless no rendering sees the reasons of requests that
fail. -/
def Keeps (g : SourceGraph) (edit : Edit) : Prop :=
  edit.KeepsStanding g ∧
    (g.toGraph.Respects ∨ (edit.apply g).failure? edit.id = g.failure? edit.id)

end Edit
end SourceGraph

/-! ## What others ask -/

namespace ModuleGraph

variable {g g' : ModuleGraph} {id : String}

/-- The requests that a module makes of a resolver are among some: each of its pages comes out the
same under two resolvers that answer these alike. -/
def Asks (g : ModuleGraph) (asked : (module request : String) → Prop) : Prop :=
  ∀ id m, g.pageModule? id = some m → ∀ page ∈ m.page :: m.renderPages,
    ∀ context resolve other, (∀ request, asked id request → resolve id request = other id request) →
      page.render ⟨context, id, some resolve⟩ = page.render ⟨context, id, some other⟩

/-- Where everything that the other modules ask is answered as before, what they render stays. -/
lemma unmoved_of_asks (hproper : g.Proper) {asked : (module request : String) → Prop}
    (hasks : g.Asks asked) (hload : ∀ other, other ≠ id → g'.load other = g.load other)
    (hmodules : ∀ other, other ≠ id → other ∈ g'.modules → other ∈ g.modules)
    (hanswers : ∀ other request, other ≠ id → asked other request →
      g'.resolve other request = g.resolve other request) : Unmoved id g g' := by
  have hsteady : ∀ other m, other ≠ id → g.pageModule? other = some m →
      ∀ page ∈ m.page :: m.renderPages, Steady g g' other page.render := by
    intro other m hother hm page hpage context
    have hsame := hasks other m hm page hpage context g.resolve g'.resolve
      fun request hasked => (hanswers other request hother hasked).symm
    rw [hsame]
    exact .refl _
  constructor
  · exact hload
  · exact hmodules
  · intro other m hother hm
    have hmodule : m.page.module = other := (hproper.modules other m hm).owned _ List.mem_cons_self
    rw [hmodule]
    exact hsteady other m hother hm _ List.mem_cons_self
  · intro other m hother hm
    exact hsteady other m hother hm _ List.mem_cons_self
  · intro page hpage hmodule
    obtain ⟨owner, -, hpage⟩ := List.mem_flatMap.1 hpage
    have howner : page.module = owner := hproper.owned owner page hpage
    obtain ⟨m, hm, own, hown, hnormalized⟩ := exists_of_mem_pagesOf hpage
    rw [(Page.eq_of_normalized? hnormalized).2]
    rw [howner] at hmodule ⊢
    exact hsteady owner m hmodule hm own hown

end ModuleGraph

namespace SourceGraph.Edit

variable {g : SourceGraph} {edit : Edit}

/-- An edit leaves the answers to all requests that other modules make as they were. -/
def Unasked (g : SourceGraph) (edit : Edit) : Prop :=
  ∃ asked, g.toGraph.Asks asked ∧ ∀ module request, module ≠ edit.id → asked module request →
    (edit.apply g).resolve module request = g.resolve module request

/-- What other modules render stays if none of them asks for what has changed. -/
lemma Unasked.unmoved (h : edit.Unasked g) (hg : g.Proper) :
    g.toGraph.Unmoved edit.id (edit.apply g).toGraph := by
  obtain ⟨asked, hasks, hanswers⟩ := h
  exact ModuleGraph.unmoved_of_asks hg.toGraph hasks (fun _ hne => load_apply hne)
    (fun _ hne hmem => mem_modules_apply hne hmem) hanswers

/-- What other modules render stays if the answers to their requests do, reasons included as far as
they are seen. -/
lemma Keeps.unmoved (h : edit.Keeps g) :
    g.toGraph.Unmoved edit.id (edit.apply g).toGraph := by
  obtain ⟨hstanding, hrespects | hfailure⟩ := h
  · exact (sameBut_of_standing publicPath_apply (fun _ hne => find?_apply hne) hstanding).unmoved
      hrespects
  · -- with the reason kept, every request has the outcome that it had, whoever makes it
    have hresolve : (edit.apply g).resolve = g.resolve := by
      refine resolve_congr publicPath_apply ?_ ?_
      · intro other
        by_cases hother : other = edit.id
        · rw [hother]
          exact hstanding
        · rw [standing, standing, find?_apply hother]
      · intro other
        by_cases hother : other = edit.id
        · rw [hother]
          exact hfailure
        · rw [failure?, failure?, load_apply hother]
    exact ModuleGraph.unmoved_of_resolve_eq (fun _ hne => load_apply hne)
      (fun _ hne hmem => mem_modules_apply hne hmem) hresolve

end SourceGraph.Edit
end Bindery
