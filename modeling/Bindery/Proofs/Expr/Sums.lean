import Bindery.Expr.Eval
import Bindery.Proofs.Expr.Parsing

/-!
# Sums of values

The operands of a sum are added from left to right, each to what those before it come to: numbers
add, and anything else goes on as text. The evaluator adds numbers first and then only appends to
one text, and it comes to the same as adding the operands one at a time (`eval_concat`): the same
value, or the error of the first operand that has none. So unless the first two operands are
numbers, a sum is the texts of its operands, one after the other.
-/

namespace Bindery

namespace Expr

/-- Values behind a sum that was begun: as long as both are numbers the next one is added. -/
def addNext (sum : Option Value) : List (Option Value) → List (Option Value)
  | [] => [sum]
  | value :: rest =>
    match sum, value with
    | some (.number a), some (.number b) => addNext (some (addNumbers a b)) rest
    | sum, value => sum :: value :: rest

/-- Values with the numbers that they start with added up. -/
def addLeading : List (Option Value) → List (Option Value)
  | [] => []
  | value :: rest => addNext value rest

/-- Whether the first two values are numbers. -/
def StartsWithNumbers (values : List (Option Value)) : Prop :=
  ∃ a b rest, values = some (.number a) :: some (.number b) :: rest

/-- The texts of values, one after the other. -/
def joined (values : List (Option Value)) : String := String.join (values.map stringify)

/-- Values that do not start with two numbers are left as they are. -/
lemma addLeading_eq_self {values : List (Option Value)} (h : ¬ StartsWithNumbers values) :
    addLeading values = values := by
  match values with
  | [] => rfl
  | [value] => rfl
  | first :: second :: rest =>
    -- a sum is only begun by two numbers
    rw [addLeading, addNext]
    intro a b hfirst hsecond
    exact h ⟨a, b, rest, by rw [hfirst, hsecond]⟩

/-- An expression has a value in a scope. -/
def HasValue (scope : Scope) (e : Expr) (value : Option Value) : Prop := eval scope e = .ok value

variable {scope : Scope} {terms : List Expr} {values : List (Option Value)}

/-- Operands are appended to a text by their values. -/
lemma evalText_eq (h : List.Forall₂ (HasValue scope) terms values) (text : String) :
    evalText scope text terms = .ok (some (.string (text ++ joined values))) := by
  induction h generalizing text with
  | nil => simp [evalText, joined]
  | cons hvalue _ ih =>
    rw [evalText, hvalue]
    dsimp only
    rw [ih]
    simp [joined, String.join_cons, String.append_assoc]

/-- A sum is the text of its values, with the leading numbers added. -/
lemma evalSum_eq (h : List.Forall₂ (HasValue scope) terms values) (sum : Option Value) :
    (evalSum scope sum terms).map stringify = .ok (joined (addNext sum values)) := by
  induction h generalizing sum with
  | nil => simp [evalSum, addNext, joined, Except.map]
  | @cons term value terms values hvalue hrest ih =>
    rw [evalSum, hvalue]
    unfold addNext
    dsimp only
    -- numbers are added on; anything else turns the rest into text
    split
    · exact ih _
    · rw [evalText_eq hrest]
      simp [joined, String.join_cons, Except.map, stringify, String.append_assoc]

/-- The sum of terms is rendered as their values, one after the other, once the numbers that they
start with are added up. -/
lemma render_ofTerms (h : List.Forall₂ (HasValue scope) terms values) :
    (ofTerms terms).render scope = .ok (joined (addLeading values)) := by
  rw [render]
  cases h with
  | nil => simp [ofTerms, eval, addLeading, joined, Except.map, stringify]
  | @cons term value terms values hvalue hrest =>
    cases hrest with
    | nil =>
      rw [ofTerms, show eval scope term = .ok value from hvalue]
      simp [addLeading, addNext, joined, Except.map]
    | cons hnext hrest =>
      rw [ofTerms, eval]
      · rw [show eval scope term = .ok value from hvalue]
        exact evalSum_eq (.cons hnext hrest) value
      · simp
      · simp

/-! ## Adding one operand at a time -/

/-- Add one more operand. -/
def addOperand (scope : Scope) (sum : Option Value) (operand : Expr) :
    Except EvalError (Option Value) :=
  (eval scope operand).map (plus sum)

/-- Anything but two numbers is joined as text. -/
lemma plus_eq_text {sum value : Option Value}
    (h : ∀ a b, sum = some (.number a) → value = some (.number b) → False) :
    plus sum value = some (.string (stringify sum ++ stringify value)) := by
  unfold plus
  split
  · exact (h _ _ rfl rfl).elim
  · rfl

/-- Appending operands to a text is adding them one at a time. -/
lemma evalText_eq_foldlM (scope : Scope) (text : String) (operands : List Expr) :
    evalText scope text operands = operands.foldlM (addOperand scope) (some (.string text)) := by
  induction operands generalizing text with
  | nil => rfl
  | cons operand rest ih =>
    rw [evalText, List.foldlM_cons, addOperand]
    cases eval scope operand with
    | error e => rfl
    | ok value => exact ih _

lemma evalSum_eq_foldlM (scope : Scope) (sum : Option Value) (operands : List Expr) :
    evalSum scope sum operands = operands.foldlM (addOperand scope) sum := by
  induction operands generalizing sum with
  | nil => rfl
  | cons operand rest ih =>
    rw [evalSum, List.foldlM_cons, addOperand]
    cases eval scope operand with
    | error e => rfl
    | ok value =>
      dsimp only
      -- once a text has begun, the sum stays a text
      split
      · exact ih _
      · rename_i hnumbers
        rw [evalText_eq_foldlM, ← plus_eq_text hnumbers]
        rfl

lemma eval_concat_cons (scope : Scope) (first : Expr) (rest : List Expr) :
    eval scope (.concat (first :: rest)) = eval scope first >>= rest.foldlM (addOperand scope) := by
  rw [eval]
  cases eval scope first with
  | error e => rfl
  | ok value => exact evalSum_eq_foldlM scope value rest

/-- A sum comes to the same as its terms in nested sums of two. -/
lemma eval_foldl_concat (scope : Scope) (first : Expr) (rest : List Expr) :
    eval scope (rest.foldl (fun sum operand => .concat [sum, operand]) first)
      = eval scope first >>= rest.foldlM (addOperand scope) := by
  induction rest generalizing first with
  | nil => exact (bind_pure _).symm
  | cons operand rest ih =>
    rw [List.foldl_cons, ih, eval_concat_cons, bind_assoc]
    refine bind_congr fun value => ?_
    simp only [List.foldlM_cons, List.foldlM_nil, bind_pure]

/-- A sum is the left fold of plus over its operands, evaluated from left to right: two numbers are
added, anything else is joined as text, and the first operand without a value gives the error. It is
therefore evaluated like sums of two operands that are nested to the left, and if its first two
operands are not both numbers it is the texts of the operands, one after the other. -/
theorem eval_concat (scope : Scope) (first : Expr) (rest : List Expr) :
    (eval scope (.concat (first :: rest)) = do
      let value ← eval scope first
      rest.foldlM (fun sum operand => return plus sum (← eval scope operand)) value) ∧
    eval scope (.concat (first :: rest))
      = eval scope (rest.foldl (fun sum operand => .concat [sum, operand]) first) ∧
    ∀ values, List.Forall₂ (HasValue scope) (first :: rest) values → rest ≠ [] →
      ¬ StartsWithNumbers values →
      eval scope (.concat (first :: rest)) = .ok (some (.string (joined values))) := by
  refine ⟨?_, ?_, fun values hvalues hne hstart => ?_⟩
  · rw [eval_concat_cons]
    rfl
  · rw [eval_concat_cons, eval_foldl_concat]
  · cases hvalues with
    | @cons _ value _ _ hfirst hrest =>
      cases hrest with
      | nil => exact absurd rfl hne
      | @cons second value' others values hsecond hothers =>
        have hnumbers : ∀ a b, value = some (.number a) → value' = some (.number b) → False :=
          fun a b ha hb => hstart ⟨a, b, values, by rw [ha, hb]⟩
        have htext : addOperand scope value second
            = .ok (some (.string (stringify value ++ stringify value'))) := by
          rw [addOperand, hsecond, ← plus_eq_text hnumbers]
          rfl
        rw [eval_concat_cons, hfirst]
        show (second :: others).foldlM (addOperand scope) value = _
        rw [List.foldlM_cons, htext]
        show others.foldlM (addOperand scope) _ = _
        rw [← evalText_eq_foldlM, evalText_eq hothers]
        simp only [joined, List.map_cons, String.join_cons, String.append_assoc]

/-- Behind null, numbers are joined as text. -/
theorem eval_concat_null_first :
    ¬ StartsWithNumbers [some .null, some (.number (.int 1)), some (.number (.int 2))] ∧
    eval ⟨.null, "", none⟩ (.concat [.null, .num (.int 1), .num (.int 2)])
      = .ok (some (.string "12")) := by
  have hstart :
      ¬ StartsWithNumbers [some .null, some (.number (.int 1)), some (.number (.int 2))] := by
    rintro ⟨a, b, rest, h⟩
    cases h
  have hnull : HasValue ⟨.null, "", none⟩ .null (some .null) := by rw [HasValue, eval]
  have hnumber : ∀ n, HasValue ⟨.null, "", none⟩ (.num n) (some (.number n)) := by
    intro n
    rw [HasValue, eval]
  obtain ⟨-, -, htext⟩ := eval_concat ⟨.null, "", none⟩ .null [.num (.int 1), .num (.int 2)]
  have hjoined :
      joined [some .null, some (.number (.int 1)), some (.number (.int 2))] = "12" := by decide
  refine ⟨hstart, ?_⟩
  rw [htext _ (.cons hnull (.cons (hnumber _) (.cons (hnumber _) .nil))) (List.cons_ne_nil _ _)
    hstart, hjoined]

end Expr
end Bindery
