import Bindery.Expr.Token
import Bindery.Text.Markup
import Bindery.Value.Json

/-!
# Evaluation

An expression is evaluated against a context. A name is looked up among the fields of the context,
and `context` is the context itself. Four functions are built in: `escapeHtml`, `json`,
`fallback`, which evaluates its second argument only if the first fails, and `asset`, which asks
the resolver of the scope for a url. The value `none` is the undefined value.
-/

namespace Bindery
namespace Expr

/-- Why an expression has no value. -/
inductive EvalError where
  | notDefined (name : String)
  | nullAccess (property target : String)
  | notAFunction (callee : String)
  | arity (function : String) (expected got : Nat)
  | noAssets (request : String)
  | asset (request reason : String)
deriving DecidableEq, Repr

namespace EvalError

/-- The text of the error. -/
def message : EvalError → String
  | .notDefined name => name ++ " is not defined"
  | .nullAccess property target =>
    "cannot read property " ++ Text.shown property ++ " of " ++ target
  | .notAFunction callee => callee ++ " is not a function"
  | .arity function expected got =>
    function ++ "() expects " ++ toString expected ++ " argument(s), got " ++ toString got
  | .noAssets request => "no asset resolver available to resolve " ++ Text.shown request
  | .asset request reason => "cannot resolve asset " ++ Text.shown request ++ ": " ++ reason

end EvalError

/-- Where an expression is evaluated: the context, the module it belongs to, and the resolver that
turns the module and a request into a url or a reason why there is none. -/
structure Scope where
  context : Value
  module : String
  assets : Option (String → String → Except String String) := none

namespace Scope

/-- The same scope around another context. -/
def withContext (scope : Scope) (context : Value) : Scope := { scope with context }

end Scope

/-- The text of a value as it goes into output. Null and the undefined value are empty. -/
def stringify : Option Value → String
  | none => ""
  | some .null => ""
  | some (.string text) => text
  | some value => Json.print value

/-- The value of a name. -/
def lookup (context : Value) (name : String) : Except EvalError (Option Value) :=
  if name = "context" then .ok (some context)
  else
    match context.get? name with
    | some value => .ok (some value)
    | none => .error (.notDefined name)

/-- The property of a value. -/
def propertyOf (target : Option Value) (property : String) : Except EvalError (Option Value) :=
  match target with
  | none => .error (.nullAccess property "undefined")
  | some .null => .error (.nullAccess property "null")
  | some (.object fields) => .ok (Value.lookup property fields)
  | some (.array items) =>
    .ok (if property = "length" then some (Value.nat items.length) else none)
  | some (.string text) =>
    .ok (if property = "length" then some (Value.nat (Text.units16 text)) else none)
  | some _ => .ok none

/-- The value at a position: an item of an array, else the property that the position names. -/
def valueAt (target position : Option Value) : Except EvalError (Option Value) :=
  match position with
  | some (.number n) =>
    match target, n.toIndex? with
    | some (.array items), some i => .ok items[i]?
    | _, _ => propertyOf target n.toText
  | other => propertyOf target (stringify other)

/-- The sum of two numbers as a value; null if it is out of range. -/
def addNumbers (a b : Number) : Value :=
  match a.add b with
  | some sum => .number sum
  | none => .null

/-- One application of `+`: numbers add, anything else joins as text. -/
def plus (a b : Option Value) : Option Value :=
  match a, b with
  | some (.number a), some (.number b) => some (addNumbers a b)
  | a, b => some (.string (stringify a ++ stringify b))

/-- What a message calls the callee of a call. -/
def describe : Expr → String
  | .ident name => name
  | .member target property => describe target ++ "." ++ property
  | .index target _ => describe target ++ "[..]"
  | .call callee _ => describe callee ++ "(..)"
  | _ => "expression"

/-- Resolve an asset request of the scope's module. -/
def resolveAsset (scope : Scope) (request : String) : Except EvalError (Option Value) :=
  match scope.assets with
  | none => .error (.noAssets request)
  | some resolve =>
    match resolve scope.module request with
    | .ok url => .ok (some (.string url))
    | .error reason => .error (.asset request reason)

mutual

/-- The value of an expression. -/
def eval (scope : Scope) : Expr → Except EvalError (Option Value)
  | .str text => .ok (some (.string text))
  | .num number => .ok (some (.number number))
  | .bool value => .ok (some (.bool value))
  | .null => .ok (some .null)
  | .undefined => .ok none
  | .array items =>
    match evalItems scope items with
    | .ok values => .ok (some (.array values))
    | .error e => .error e
  | .ident name => lookup scope.context name
  | .member target property =>
    match eval scope target with
    | .ok value => propertyOf value property
    | .error e => .error e
  | .index target position =>
    match eval scope target with
    | .ok value =>
      match eval scope position with
      | .ok place => valueAt value place
      | .error e => .error e
    | .error e => .error e
  | .call (.ident "escapeHtml") args =>
    match args with
    | [arg] =>
      match eval scope arg with
      | .ok value => .ok (some (.string (Text.escapeAnywhere (stringify value))))
      | .error e => .error e
    | args => .error (.arity "escapeHtml" 1 args.length)
  | .call (.ident "json") args =>
    match args with
    | [arg] =>
      match eval scope arg with
      | .ok value => .ok (some (.string (Json.print (value.getD .null))))
      | .error e => .error e
    | args => .error (.arity "json" 1 args.length)
  | .call (.ident "fallback") args =>
    match args with
    | [first, second] =>
      match eval scope first with
      | .ok value => .ok value
      | .error _ => eval scope second
    | args => .error (.arity "fallback" 2 args.length)
  | .call (.ident "asset") args =>
    match args with
    | [arg] =>
      match eval scope arg with
      | .ok value => resolveAsset scope (stringify value)
      | .error e => .error e
    | args => .error (.arity "asset" 1 args.length)
  | .call callee args =>
    -- a call without arguments reads the callee
    match eval scope callee with
    | .ok value =>
      if args.isEmpty then .ok value else .error (.notAFunction (describe callee))
    | .error e => .error e
  | .concat operands =>
    match operands with
    | [] => .ok (some (.string ""))
    | first :: rest =>
      match eval scope first with
      | .ok value => evalSum scope value rest
      | .error e => .error e

/-- The values of the items of an array; the undefined value counts as null. -/
def evalItems (scope : Scope) : List Expr → Except EvalError (List Value)
  | [] => .ok []
  | item :: rest =>
    match eval scope item with
    | .ok value =>
      match evalItems scope rest with
      | .ok values => .ok (value.getD .null :: values)
      | .error e => .error e
    | .error e => .error e

/-- Add operands to a sum that is not yet a text: numbers add until something else comes up. -/
def evalSum (scope : Scope) (sum : Option Value) : List Expr → Except EvalError (Option Value)
  | [] => .ok sum
  | operand :: rest =>
    match eval scope operand with
    | .ok value =>
      match sum, value with
      | some (.number a), some (.number b) => evalSum scope (some (addNumbers a b)) rest
      | sum, value => evalText scope (stringify sum ++ stringify value) rest
    | .error e => .error e

/-- Append operands to a text. -/
def evalText (scope : Scope) (text : String) : List Expr → Except EvalError (Option Value)
  | [] => .ok (some (.string text))
  | operand :: rest =>
    match eval scope operand with
    | .ok value => evalText scope (text ++ stringify value) rest
    | .error e => .error e

end

/-- The text that an expression puts out. -/
def render (scope : Scope) (e : Expr) : Except EvalError String :=
  (eval scope e).map stringify

end Expr
end Bindery
