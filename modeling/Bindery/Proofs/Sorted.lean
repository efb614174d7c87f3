import Bindery.Sorted
import Mathlib.Data.List.Nodup
import Mathlib.Data.List.Sort
import Mathlib.Tactic.Lemma

/-!
# Looking up in maps

What is found in a map after a value was set or dropped. A map is determined by what is found in it.
-/

namespace Bindery

variable {α β : Type}

/-! ## Entries -/

namespace Sorted

lemma lookup_cons (key k : String) (v : α) (rest : List (String × α)) :
    lookup key ((k, v) :: rest) = if k = key then some v else lookup key rest := rfl

lemma place_cons (key k : String) (value v : α) (rest : List (String × α)) :
    place key value ((k, v) :: rest)
      = if key < k then (key, value) :: (k, v) :: rest
        else if k = key then (key, value) :: rest
        else (k, v) :: place key value rest := rfl

/-- Placing a value changes what is found under its key, and nothing else. -/
lemma lookup_place (key other : String) (value : α) (entries : List (String × α)) :
    lookup other (place key value entries)
      = if key = other then some value else lookup other entries := by
  induction entries with
  | nil => rfl
  | cons entry rest ih =>
    obtain ⟨k, v⟩ := entry
    rw [place_cons]
    split
    · rfl
    · split
      · rename_i hk
        rw [lookup_cons, lookup_cons, hk]
        by_cases h : key = other
        · rw [if_pos h, if_pos h]
        · rw [if_neg h, if_neg h, if_neg h]
      · rename_i hk
        rw [lookup_cons, ih, lookup_cons]
        by_cases h : key = other
        · rw [if_pos h, if_neg (h ▸ hk), if_pos h]
        · rw [if_neg h, if_neg h]

/-- Dropping a key changes what is found under it, and nothing else. -/
lemma lookup_filter_ne (key other : String) (entries : List (String × α)) :
    lookup other (entries.filter (·.1 ≠ key))
      = if key = other then none else lookup other entries := by
  induction entries with
  | nil => exact (ite_self none).symm
  | cons entry rest ih =>
    obtain ⟨k, v⟩ := entry
    by_cases hk : k = key
    · rw [List.filter_cons_of_neg (by simp [hk]), ih, lookup_cons, hk]
      by_cases h : key = other
      · rw [if_pos h, if_pos h]
      · rw [if_neg h, if_neg h, if_neg h]
    · rw [List.filter_cons_of_pos (by simp [hk]), lookup_cons, ih, lookup_cons]
      by_cases h : key = other
      · rw [if_pos h, if_pos h, if_neg (h ▸ hk)]
      · rw [if_neg h, if_neg h]

/-- What is found is one of the entries. -/
lemma mem_of_lookup {key : String} {value : α} {entries : List (String × α)}
    (h : lookup key entries = some value) : (key, value) ∈ entries := by
  induction entries with
  | nil => cases h
  | cons entry rest ih =>
    obtain ⟨k, v⟩ := entry
    rw [lookup_cons] at h
    split at h
    · rename_i hk
      cases h
      rw [hk]
      exact List.mem_cons_self
    · exact List.mem_cons_of_mem _ (ih h)

/-- In entries by ascending key, an entry is the one that is found under its key. -/
lemma lookup_of_mem {key : String} {value : α} {entries : List (String × α)}
    (hsorted : InOrder entries) (h : (key, value) ∈ entries) : lookup key entries = some value := by
  induction entries with
  | nil => simp at h
  | cons entry rest ih =>
    obtain ⟨k, v⟩ := entry
    have hparts := List.pairwise_cons.1 hsorted
    rw [lookup_cons]
    rcases List.mem_cons.1 h with h | h
    · cases h
      exact if_pos rfl
    · have hlt : k < key := hparts.1 _ h
      have hne : k ≠ key := by
        rintro rfl
        exact String.lt_irrefl k hlt
      rw [if_neg hne]
      exact ih hparts.2 h

/-- Nothing is found exactly under what is no key. -/
lemma lookup_eq_none_iff {key : String} {entries : List (String × α)} :
    lookup key entries = none ↔ key ∉ entries.map (·.1) := by
  induction entries with
  | nil => exact iff_of_true rfl List.not_mem_nil
  | cons entry rest ih =>
    obtain ⟨k, v⟩ := entry
    rw [lookup_cons, List.map_cons, List.mem_cons, not_or]
    by_cases hk : k = key
    · simp [hk]
    · rw [if_neg hk, ih]
      simp [Ne.symm hk]

/-- Putting an entry in its place adds an entry, unless one has its key. -/
lemma length_place {key : String} (value : α) {entries : List (String × α)}
    (hsorted : InOrder entries) :
    (place key value entries).length
      = if (lookup key entries).isSome then entries.length else entries.length + 1 := by
  induction entries with
  | nil => rfl
  | cons entry rest ih =>
    obtain ⟨k, v⟩ := entry
    have hparts := List.pairwise_cons.1 hsorted
    rw [place_cons]
    split
    · rename_i hlt
      -- the key stands before all others
      have hmissing : lookup key ((k, v) :: rest) = none := by
        rw [lookup_eq_none_iff, List.map_cons, List.mem_cons, not_or]
        constructor
        · rintro rfl
          exact String.lt_irrefl key hlt
        · intro hmem
          obtain ⟨e, he, rfl⟩ := List.mem_map.1 hmem
          exact String.lt_irrefl e.1 (String.lt_trans hlt (hparts.1 e he))
      rw [hmissing]
      rfl
    · split
      · rename_i hk
        rw [lookup_cons, if_pos hk]
        rfl
      · rename_i hk
        rw [lookup_cons, if_neg hk, List.length_cons, ih hparts.2, List.length_cons]
        split <;> rfl

/-- Values may be changed before or after an entry is put in its place. -/
lemma map_place (f : α → β) (key : String) (value : α) (entries : List (String × α)) :
    (place key value entries).map (fun e => (e.1, f e.2))
      = place key (f value) (entries.map fun e => (e.1, f e.2)) := by
  induction entries with
  | nil => rfl
  | cons entry rest ih =>
    obtain ⟨k, v⟩ := entry
    rw [place_cons, List.map_cons, place_cons]
    split
    · rfl
    · split
      · rfl
      · rw [List.map_cons, ih]

/-- Mapping the values maps what is found. -/
lemma lookup_map (f : α → β) (key : String) (entries : List (String × α)) :
    lookup key (entries.map fun e => (e.1, f e.2)) = (lookup key entries).map f := by
  induction entries with
  | nil => rfl
  | cons entry rest ih =>
    obtain ⟨k, v⟩ := entry
    rw [List.map_cons, lookup_cons, lookup_cons, ih]
    split <;> rfl

/-! ## Maps -/

variable {m n : Sorted α} {key other : String} {value : α}

/-- After an insertion the value is found under its key, and all else as before. -/
lemma find?_insert :
    (m.insert key value).find? other = if key = other then some value else m.find? other :=
  lookup_place key other value m.entries

/-- After an erasure nothing is found under the key, and all else as before. -/
lemma find?_erase : (m.erase key).find? other = if key = other then none else m.find? other :=
  lookup_filter_ne key other m.entries

/-- What is found under a key is the entry with that key. -/
lemma find?_eq_some_iff : m.find? key = some value ↔ (key, value) ∈ m.entries :=
  ⟨mem_of_lookup, lookup_of_mem m.inOrder⟩

lemma mem_keys_iff : key ∈ m.keys ↔ (m.find? key).isSome := by
  rw [keys, find?, Option.isSome_iff_ne_none, ne_eq, lookup_eq_none_iff, not_not]

/-- An insertion adds its key. -/
lemma mem_keys_insert : other ∈ (m.insert key value).keys ↔ other = key ∨ other ∈ m.keys := by
  rw [mem_keys_iff, mem_keys_iff, find?_insert]
  by_cases h : key = other
  · rw [if_pos h]
    exact iff_of_true rfl (.inl h.symm)
  · rw [if_neg h]
    exact (or_iff_right (Ne.symm h)).symm

lemma size_insert :
    (m.insert key value).size = if m.contains key then m.size else m.size + 1 :=
  length_place value m.inOrder

/-- Of several values that are set under one key, the last one is found. -/
lemma find?_foldl_insert {γ : Type} (name : γ → String) (f : γ → α) (items : List γ)
    (m : Sorted α) :
    (items.foldl (fun m item => m.insert (name item) (f item)) m).find? key
      = ((items.reverse.find? (name · = key)).map f).or (m.find? key) := by
  induction items generalizing m with
  | nil => rfl
  | cons item rest ih =>
    rw [List.foldl_cons, ih, List.reverse_cons, List.find?_append, find?_insert]
    cases rest.reverse.find? (name · = key) with
    | some found => rfl
    | none =>
      by_cases h : name item = key
      · simp [h]
      · simp [h]

/-- Entries in order are all different. -/
lemma nodup_of_inOrder {entries : List (String × α)} (h : InOrder entries) : entries.Nodup := by
  refine List.Pairwise.imp ?_ h
  intro a b hlt heq
  exact String.lt_irrefl b.1 (heq ▸ hlt)

/-- Two maps with the same keys list them alike. -/
lemma keys_eq_of_mem_iff {m : Sorted α} {n : Sorted β} (h : ∀ key, key ∈ m.keys ↔ key ∈ n.keys) :
    m.keys = n.keys := by
  have hm : m.keys.Pairwise (· < ·) := List.pairwise_map.2 m.inOrder
  have hn : n.keys.Pairwise (· < ·) := List.pairwise_map.2 n.inOrder
  exact hm.eq_of_mem_iff hn h

/-- Two maps in which the same is found are equal. -/
lemma ext_find? (h : ∀ key, m.find? key = n.find? key) : m = n := by
  have hmem : ∀ e, e ∈ m.entries ↔ e ∈ n.entries := by
    intro e
    rw [← find?_eq_some_iff, ← find?_eq_some_iff, h]
  have hperm : m.entries.Perm n.entries :=
    (List.perm_ext_iff_of_nodup (nodup_of_inOrder m.inOrder) (nodup_of_inOrder n.inOrder)).2 hmem
  have hentries : m.entries = n.entries := by
    refine hperm.eq_of_pairwise ?_ m.inOrder n.inOrder
    intro a b _ _ hab hba
    exact absurd (String.lt_trans hab hba) (String.lt_irrefl _)
  cases m
  cases n
  simpa using hentries

end Sorted
end Bindery
