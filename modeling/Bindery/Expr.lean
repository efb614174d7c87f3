import Bindery.Value

/-!
# Expressions

The expressions that code consists of. A sum keeps its operands in one flat list, since the code
of a page is one long sum.
-/

namespace Bindery

/-- A parsed expression. -/
inductive Expr where
  | str (text : String)
  | num (number : Number)
  | bool (value : Bool)
  | null
  | undefined
  | array (items : List Expr)
  | ident (name : String)
  | member (target : Expr) (property : String)
  | index (target position : Expr)
  | call (callee : Expr) (args : List Expr)
  | concat (operands : List Expr)
deriving Repr, Inhabited, BEq

namespace Expr

/-- The expression that a name stands for: four names are literals. -/
def ofName (name : String) : Expr :=
  if name = "true" then .bool true
  else if name = "false" then .bool false
  else if name = "null" then .null
  else if name = "undefined" then .undefined
  else .ident name

end Expr

end Bindery
