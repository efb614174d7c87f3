import Bindery.Toml

/-!
# Tables of settings

Settings stand in tables, and a table can be written in more than one place: a heading names a
table, and a dotted key names tables inside the table it stands in. A key is set once, a table is
headed once, and a table that was written in one way is not added to in the other. This module
holds tables while they grow; a growing table keeps its keys in order.
-/

namespace Bindery
namespace Toml

/-- How a table came to be. -/
inductive Origin where
  | heading
  | implied
  | dotted
deriving DecidableEq, Repr, Inhabited

/-- What stands under a key while tables grow: a value, a table, or a row of tables of which the
latest comes first. -/
inductive Slot where
  | value (v : Toml)
  | table (origin : Origin) (slots : List (String × Slot))
  | tables (latest : List (String × Slot)) (earlier : List (List (String × Slot)))
deriving Inhabited

/-- A growing table. -/
abbrev Slots := List (String × Slot)

/-- What stands under a key. -/
def find? (key : String) (slots : Slots) : Option Slot :=
  (slots.find? (·.1 = key)).map (·.2)

/-- Put something under a key, in the order of keys. -/
def put (key : String) (slot : Slot) : Slots → Slots
  | [] => [(key, slot)]
  | (k, old) :: rest =>
    if k = key then (key, slot) :: rest
    else if key < k then (key, slot) :: (k, old) :: rest
    else (k, old) :: put key slot rest

/-- Change the table at the end of a path of keys of a heading. Tables on the way are made where
there are none. -/
def underHeading (change : Slots → Option Slots) : List String → Slots → Option Slots
  | [], slots => change slots
  | key :: path, slots =>
    match find? key slots with
    | none => do
      let inner ← underHeading change path []
      return put key (.table .implied inner) slots
    | some (.table origin inner) => do
      let inner ← underHeading change path inner
      return put key (.table origin inner) slots
    | some (.tables latest earlier) => do
      let latest ← underHeading change path latest
      return put key (.tables latest earlier) slots
    | some (.value _) => none

/-- Set a dotted key. `isDotted` says that the table was made by the dots of a key, as it has to be
for the keys behind the first one. -/
def assign (value : Toml) (isDotted : Bool) : List String → (isFirst : Bool) → Slots → Option Slots
  | [], _, _ => none
  | [key], isFirst, slots =>
    if !isFirst && !isDotted then none
    else if (find? key slots).isSome then none
    else some (put key (.value value) slots)
  | key :: path, _, slots =>
    match find? key slots with
    | none => do
      let inner ← assign value true path false []
      return put key (.table .dotted inner) slots
    | some (.table origin inner) =>
      if origin = .heading then none
      else do
        let inner ← assign value (origin = .dotted) path false inner
        return put key (.table origin inner) slots
    | some (.tables latest earlier) => do
      let latest ← assign value false path false latest
      return put key (.tables latest earlier) slots
    | some (.value _) => none

/-- Head a table. -/
def headTable (key : String) (slots : Slots) : Option Slots :=
  match find? key slots with
  | none => some (put key (.table .heading []) slots)
  | some (.table .implied inner) => some (put key (.table .heading inner) slots)
  | some _ => none

/-- Head the next table of a row of tables. -/
def headNext (key : String) (slots : Slots) : Option Slots :=
  match find? key slots with
  | none => some (put key (.tables [] []) slots)
  | some (.tables latest earlier) => some (put key (.tables [] (latest :: earlier)) slots)
  | some _ => none

mutual

/-- What stands under a key once all is read. -/
def Slot.finish : Slot → Toml
  | .value v => v
  | .table _ slots => .table (finishSlots slots)
  | .tables latest earlier => .array (finishRow earlier [.table (finishSlots latest)])

/-- The entries of a table once all is read. -/
def finishSlots : List (String × Slot) → List (String × Toml)
  | [] => []
  | (key, slot) :: rest => (key, slot.finish) :: finishSlots rest

/-- The tables of a row, the earliest first, before some later ones. -/
def finishRow : List (List (String × Slot)) → List Toml → List Toml
  | [], later => later
  | slots :: earlier, later => finishRow earlier (.table (finishSlots slots) :: later)

end

end Toml
end Bindery
