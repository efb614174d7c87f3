import Bindery.Value

/-!
# Settings values

The values of the settings language of front matter and configuration files. A date or a time is
kept as the text it is shown as.
-/

namespace Bindery

/-- A settings value; `float none` is an infinite or undefined number. -/
inductive Toml where
  | string (s : String)
  | integer (i : Int)
  | float (x : Option Binary64)
  | boolean (b : Bool)
  | dateTime (shown : String)
  | array (items : List Toml)
  | table (entries : List (String × Toml))
deriving Repr, Inhabited

namespace Toml

mutual

/-- A settings value as a value of documents. -/
def toValue : Toml → Value
  | string s => .string s
  | integer i => .int i
  | float (some x) => .number (.float x)
  | float none => .null
  | boolean b => .bool b
  | dateTime shown => .string shown
  | array items => .array (itemValues items)
  | table entries => .object (entryValues entries)

/-- The items of an array as values of documents. -/
def itemValues : List Toml → List Value
  | [] => []
  | item :: rest => item.toValue :: itemValues rest

/-- The entries of a table as fields. -/
def entryValues : List (String × Toml) → List (String × Value)
  | [] => []
  | (key, item) :: rest => (key, item.toValue) :: entryValues rest

end

end Toml
end Bindery
