/-!
# Maps in the order of keys

A map from texts whose entries are listed by ascending key. The order is part of the type, so two
maps with the same entries are equal however they came to be.
-/

namespace Bindery

/-- Whether entries stand by ascending key, each key once. -/
def InOrder {α : Type} (entries : List (String × α)) : Prop :=
  entries.Pairwise fun a b => a.1 < b.1

/-- A map from texts. -/
structure Sorted (α : Type) where
  entries : List (String × α)
  inOrder : InOrder entries

namespace Sorted

variable {α : Type}

/-- The map without entries. -/
def empty : Sorted α := ⟨[], .nil⟩

instance : Inhabited (Sorted α) := ⟨empty⟩

instance : EmptyCollection (Sorted α) := ⟨empty⟩

/-- The entry of a list under a key. -/
def lookup (key : String) : List (String × α) → Option α
  | [] => none
  | (k, v) :: rest => if k = key then some v else lookup key rest

/-- Put an entry in its place among entries by ascending key; it replaces one with its key. -/
def place (key : String) (value : α) : List (String × α) → List (String × α)
  | [] => [(key, value)]
  | (k, v) :: rest =>
    if key < k then (key, value) :: (k, v) :: rest
    else if k = key then (key, value) :: rest
    else (k, v) :: place key value rest

/-- The keys after an entry was put in its place are the new key and keys from before. -/
theorem mem_place {key : String} {value : α} {entry : String × α} :
    ∀ {entries : List (String × α)}, entry ∈ place key value entries →
      entry = (key, value) ∨ entry ∈ entries
  | [], h => by simpa [place] using h
  | (k, v) :: rest, h => by
    unfold place at h
    split at h
    · simpa using h
    · split at h
      · rcases List.mem_cons.1 h with h | h <;> simp [h]
      · rcases List.mem_cons.1 h with h | h
        · simp [h]
        · rcases mem_place h with h | h <;> simp [h]

/-- Putting an entry in its place keeps the order. -/
theorem inOrder_place {key : String} {value : α} :
    ∀ {entries : List (String × α)}, InOrder entries → InOrder (place key value entries)
  | [], _ => by simp [place, InOrder]
  | (k, v) :: rest, h => by
    have hrest := List.pairwise_cons.1 h
    unfold place
    split
    · rename_i lt
      refine List.pairwise_cons.2 ⟨fun b hb => ?_, h⟩
      rcases List.mem_cons.1 hb with rfl | hb
      · exact lt
      · exact String.lt_trans lt (hrest.1 b hb)
    · split
      · rename_i eq
        subst eq
        exact List.pairwise_cons.2 ⟨hrest.1, hrest.2⟩
      · rename_i notLt ne
        have lt : k < key := by
          rcases Std.lt_trichotomy k key with h | h | h
          · exact h
          · exact absurd h ne
          · exact absurd h notLt
        refine List.pairwise_cons.2 ⟨fun b hb => ?_, inOrder_place hrest.2⟩
        rcases mem_place hb with rfl | hb
        · exact lt
        · exact hrest.1 b hb

/-- The value under a key. -/
def find? (m : Sorted α) (key : String) : Option α := lookup key m.entries

/-- Whether there is a value under a key. -/
def contains (m : Sorted α) (key : String) : Bool := (m.find? key).isSome

/-- Set the value under a key. -/
def insert (m : Sorted α) (key : String) (value : α) : Sorted α :=
  ⟨place key value m.entries, inOrder_place m.inOrder⟩

/-- Drop the value under a key. -/
def erase (m : Sorted α) (key : String) : Sorted α :=
  ⟨m.entries.filter (·.1 ≠ key), m.inOrder.filter _⟩

/-- The keys in order. -/
def keys (m : Sorted α) : List String := m.entries.map (·.1)

/-- The number of entries. -/
def size (m : Sorted α) : Nat := m.entries.length

end Sorted
end Bindery
