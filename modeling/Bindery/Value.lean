import Bindery.Number

/-!
# Values

The values that contexts and attributes hold. The fields of an object keep the order in which
they were first inserted.
-/

namespace Bindery

/-- A value. -/
inductive Value where
  | null
  | bool (value : Bool)
  | number (value : Number)
  | string (value : String)
  | array (items : List Value)
  | object (fields : List (String × Value))
deriving Repr, Inhabited, BEq

namespace Value

/-- The field of a list of fields under a key. -/
def lookup (key : String) (fields : List (String × Value)) : Option Value :=
  (fields.find? (·.1 = key)).map (·.2)

/-- The field of an object; none for a value that is no object. -/
def get? (key : String) : Value → Option Value
  | .object fields => lookup key fields
  | _ => none

/-- Set a field: a key that is there keeps its place. -/
def insert (key : String) (value : Value) : List (String × Value) → List (String × Value)
  | [] => [(key, value)]
  | (k, v) :: rest => if k = key then (k, value) :: rest else (k, v) :: insert key value rest

/-- An integer value. -/
def int (i : Int) : Value := .number (.int i)

/-- A count. -/
def nat (n : Nat) : Value := .number (.int n)

/-- A text, or null. -/
def ofString? : Option String → Value
  | some s => .string s
  | none => .null

end Value

end Bindery
