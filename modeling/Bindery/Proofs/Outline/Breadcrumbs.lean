import Bindery.Outline
import Mathlib.Data.List.Basic
import Mathlib.Tactic.Lemma

/-!
# The entries of an outline

The entries that can be reached in an outline are those of its top and all below them
(`reachable`). The breadcrumbs have a key for a link target exactly if a reachable entry leads to it
(`mem_keys_breadcrumbs`).
-/

namespace Bindery
namespace Outline

mutual

/-- An entry and all entries below it, each in front of those below it. -/
def Entry.all : Entry → List Entry
  | .mk titleText url title children =>
    .mk titleText url title children :: allEntries children

/-- Some entries and all entries below them. -/
def allEntries : List Entry → List Entry
  | [] => []
  | e :: rest => e.all ++ allEntries rest

end

/-- The entries that can be reached from the top of an outline. -/
def reachable (outline : Item) : List Entry := allEntries outline.entries

/-- An entry comes in front of all that are below it. -/
lemma Entry.all_eq (e : Entry) : e.all = e :: allEntries e.children := by
  cases e
  rw [Entry.all]
  rfl

lemma allEntries_append (entries others : List Entry) :
    allEntries (entries ++ others) = allEntries entries ++ allEntries others := by
  induction entries with
  | nil => rfl
  | cons e entries ih => rw [List.cons_append, allEntries, ih, allEntries, List.append_assoc]

/-! ## Keys of breadcrumbs -/

/-- Adding a trail adds its url to the keys. -/
lemma mem_keys_addTrail {key url : String} {trail : List Crumb} {found : Breadcrumbs} :
    key ∈ (addTrail url trail found).map Prod.fst ↔ key = url ∨ key ∈ found.map Prod.fst := by
  induction found with
  | nil => simp [addTrail]
  | cons entry found ih =>
    obtain ⟨other, trails⟩ := entry
    rw [addTrail]
    split
    · rename_i heq
      simp [heq]
    · split
      · simp
      · simp only [List.map_cons, List.mem_cons, ih]
        exact or_left_comm

/-- An entry leads to a link target. -/
def Entry.LeadsTo (key : String) (e : Entry) : Prop := e.url = some key

mutual

/-- Adding an entry adds its url and those below it. -/
lemma mem_keys_addEntry {key : String} {path : List Crumb} {found : Breadcrumbs} {e : Entry} :
    key ∈ (addEntry path found e).map Prod.fst ↔
      key ∈ found.map Prod.fst ∨ ∃ other ∈ e.all, other.LeadsTo key := by
  obtain ⟨titleText, url, title, children⟩ := e
  cases url with
  | none =>
    rw [addEntry, mem_keys_addEntries, Entry.all]
    simp [Entry.LeadsTo, Entry.url]
  | some url =>
    rw [addEntry, mem_keys_addEntries, mem_keys_addTrail, Entry.all]
    simp only [List.mem_cons, exists_eq_or_imp]
    have hown : (Entry.mk titleText (some url) title children).LeadsTo key ↔ key = url := by
      rw [Entry.LeadsTo, Entry.url, Option.some.injEq, eq_comm]
    rw [hown, or_comm (a := key = url), or_assoc]

/-- Adding entries adds the urls of all that are below them. -/
lemma mem_keys_addEntries {key : String} {path : List Crumb} {found : Breadcrumbs}
    {entries : List Entry} :
    key ∈ (addEntries path found entries).map Prod.fst ↔
      key ∈ found.map Prod.fst ∨ ∃ other ∈ allEntries entries, other.LeadsTo key := by
  cases entries with
  | nil => simp [addEntries, allEntries]
  | cons e rest =>
    rw [addEntries, mem_keys_addEntries, mem_keys_addEntry, allEntries, or_assoc]
    simp only [List.mem_append, or_and_right, exists_or]

end

/-- The breadcrumbs hold the link targets of the entries that can be reached, and no others. -/
lemma mem_keys_breadcrumbs {key : String} {outline : Item} :
    key ∈ (breadcrumbs outline).map Prod.fst ↔ ∃ e ∈ reachable outline, e.LeadsTo key := by
  rw [breadcrumbs, mem_keys_addEntries, List.map_nil, or_iff_right List.not_mem_nil]
  rfl

end Outline
end Bindery
