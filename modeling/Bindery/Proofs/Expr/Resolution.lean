import Bindery.Expr.Eval
import Bindery.Proofs.Outcome

/-!
# Values under another resolver

An expression sees of a resolver which requests it answers and with what, but not why it does not
answer one: two resolvers that differ in their reasons give the same values (`eval_agrees`).
-/

namespace Bindery
namespace Expr

/-- Two resolvers give the same answers. -/
def SameAnswers (resolve other : String → String → Except String String) : Prop :=
  ∀ module request, Agrees (resolve module request) (other module request)

variable {context : Value} {module : String}
variable {resolve other : String → String → Except String String}

/-! ## Lists of operands -/

section Lists

variable {scope scope' : Scope}

/-- An expression has the same value in two scopes. -/
def SameIn (scope scope' : Scope) (e : Expr) : Prop := Agrees (eval scope e) (eval scope' e)

/-- Items agree if each of them does. -/
lemma evalItems_agrees {items : List Expr} (h : ∀ e ∈ items, SameIn scope scope' e) :
    Agrees (evalItems scope items) (evalItems scope' items) := by
  induction items with
  | nil => exact .refl _
  | cons item rest ih =>
    rw [evalItems, evalItems]
    obtain ⟨value, ha, hb⟩ | ⟨e, e', ha, hb⟩ := (h item List.mem_cons_self).cases
    · rw [ha, hb]
      obtain ⟨values, ha, hb⟩ | ⟨e, e', ha, hb⟩ :=
        (ih fun e he => h e (List.mem_cons_of_mem _ he)).cases
      · rw [ha, hb]
        exact .refl _
      · rw [ha, hb]
        exact agrees_error rfl rfl
    · rw [ha, hb]
      exact agrees_error rfl rfl

/-- Text to which operands are appended agrees if each operand does. -/
lemma evalText_agrees {operands : List Expr} (h : ∀ e ∈ operands, SameIn scope scope' e)
    (text : String) : Agrees (evalText scope text operands) (evalText scope' text operands) := by
  induction operands generalizing text with
  | nil => exact .refl _
  | cons operand rest ih =>
    rw [evalText, evalText]
    obtain ⟨value, ha, hb⟩ | ⟨e, e', ha, hb⟩ := (h operand List.mem_cons_self).cases
    · rw [ha, hb]
      exact ih (fun e he => h e (List.mem_cons_of_mem _ he)) _
    · rw [ha, hb]
      exact agrees_error rfl rfl

/-- A sum agrees if each operand does. -/
lemma evalSum_agrees {operands : List Expr} (h : ∀ e ∈ operands, SameIn scope scope' e)
    (sum : Option Value) :
    Agrees (evalSum scope sum operands) (evalSum scope' sum operands) := by
  induction operands generalizing sum with
  | nil => exact .refl _
  | cons operand rest ih =>
    have hrest : ∀ e ∈ rest, SameIn scope scope' e := fun e he => h e (List.mem_cons_of_mem _ he)
    rw [evalSum, evalSum]
    obtain ⟨value, ha, hb⟩ | ⟨e, e', ha, hb⟩ := (h operand List.mem_cons_self).cases
    · rw [ha, hb]
      dsimp only
      split
      · exact ih hrest _
      · exact evalText_agrees hrest _
    · rw [ha, hb]
      exact agrees_error rfl rfl

end Lists

/-! ## Expressions -/

lemma resolveAsset_agrees (h : SameAnswers resolve other) (request : String) :
    Agrees (resolveAsset ⟨context, module, some resolve⟩ request)
      (resolveAsset ⟨context, module, some other⟩ request) := by
  dsimp only [resolveAsset]
  obtain ⟨url, ha, hb⟩ | ⟨e, e', ha, hb⟩ := (h module request).cases
  · exact agrees_ok (by rw [ha]) (by rw [hb])
  · exact agrees_error (by rw [ha]) (by rw [hb])

/-- A call has the same value if the callee and the arguments have. -/
lemma evalCall_agrees (h : SameAnswers resolve other) {callee : Expr} {args : List Expr}
    (hcallee : SameIn ⟨context, module, some resolve⟩ ⟨context, module, some other⟩ callee)
    (hargs : ∀ arg ∈ args,
      SameIn ⟨context, module, some resolve⟩ ⟨context, module, some other⟩ arg) :
    SameIn ⟨context, module, some resolve⟩ ⟨context, module, some other⟩ (.call callee args) := by
  -- four callees are helpers, each of a fixed number of arguments
  by_cases hescape : callee = .ident "escapeHtml"
  · rw [hescape]
    rcases args with _ | ⟨arg, _ | ⟨second, rest⟩⟩
    · simp [SameIn, Agrees, eval]
    · rw [SameIn, eval, eval]
      obtain ⟨value, ha, hb⟩ | ⟨e, e', ha, hb⟩ := (hargs arg List.mem_cons_self).cases
      · rw [ha, hb]
        exact .refl _
      · rw [ha, hb]
        exact agrees_error rfl rfl
    · simp [SameIn, Agrees, eval]
  by_cases hjson : callee = .ident "json"
  · rw [hjson]
    rcases args with _ | ⟨arg, _ | ⟨second, rest⟩⟩
    · simp [SameIn, Agrees, eval]
    · rw [SameIn, eval, eval]
      obtain ⟨value, ha, hb⟩ | ⟨e, e', ha, hb⟩ := (hargs arg List.mem_cons_self).cases
      · rw [ha, hb]
        exact .refl _
      · rw [ha, hb]
        exact agrees_error rfl rfl
    · simp [SameIn, Agrees, eval]
  by_cases hasset : callee = .ident "asset"
  · rw [hasset]
    rcases args with _ | ⟨arg, _ | ⟨second, rest⟩⟩
    · simp [SameIn, Agrees, eval]
    · rw [SameIn, eval, eval]
      obtain ⟨value, ha, hb⟩ | ⟨e, e', ha, hb⟩ := (hargs arg List.mem_cons_self).cases
      · rw [ha, hb]
        exact resolveAsset_agrees h (stringify value)
      · rw [ha, hb]
        exact agrees_error rfl rfl
    · simp [SameIn, Agrees, eval]
  by_cases hfallback : callee = .ident "fallback"
  · rw [hfallback]
    rcases args with _ | ⟨first, _ | ⟨second, _ | ⟨third, rest⟩⟩⟩
    · simp [SameIn, Agrees, eval]
    · simp [SameIn, Agrees, eval]
    · rw [SameIn, eval, eval]
      obtain ⟨value, ha, hb⟩ | ⟨e, e', ha, hb⟩ := (hargs first List.mem_cons_self).cases
      · rw [ha, hb]
        exact .refl _
      · rw [ha, hb]
        exact hargs second (List.mem_cons_of_mem _ List.mem_cons_self)
    · simp [SameIn, Agrees, eval]
  rw [SameIn, eval, eval]
  · obtain ⟨value, ha, hb⟩ | ⟨e, e', ha, hb⟩ := hcallee.cases
    · rw [ha, hb]
      exact .refl _
    · rw [ha, hb]
      exact agrees_error rfl rfl
  all_goals assumption

/-- An expression has the same value under resolvers that give the same answers. -/
lemma eval_agrees (h : SameAnswers resolve other) (e : Expr) :
    SameIn ⟨context, module, some resolve⟩ ⟨context, module, some other⟩ e := by
  match e with
  | .str _ | .num _ | .bool _ | .null | .undefined | .ident _ =>
    rw [SameIn, eval, eval]
    exact .refl _
  | .array items =>
    rw [SameIn, eval, eval]
    obtain ⟨values, ha, hb⟩ | ⟨e, e', ha, hb⟩ :=
      (evalItems_agrees fun item hitem => eval_agrees h item).cases
    · rw [ha, hb]
      exact .refl _
    · rw [ha, hb]
      exact agrees_error rfl rfl
  | .member target property =>
    rw [SameIn, eval, eval]
    obtain ⟨value, ha, hb⟩ | ⟨e, e', ha, hb⟩ := (eval_agrees h target).cases
    · rw [ha, hb]
      exact .refl _
    · rw [ha, hb]
      exact agrees_error rfl rfl
  | .index target position =>
    rw [SameIn, eval, eval]
    obtain ⟨value, ha, hb⟩ | ⟨e, e', ha, hb⟩ := (eval_agrees h target).cases
    · rw [ha, hb]
      obtain ⟨place, ha, hb⟩ | ⟨e, e', ha, hb⟩ := (eval_agrees h position).cases
      · rw [ha, hb]
        exact .refl _
      · rw [ha, hb]
        exact agrees_error rfl rfl
    · rw [ha, hb]
      exact agrees_error rfl rfl
  | .concat [] =>
    rw [SameIn, eval, eval]
    exact .refl _
  | .concat (first :: rest) =>
    rw [SameIn, eval, eval]
    obtain ⟨value, ha, hb⟩ | ⟨e, e', ha, hb⟩ := (eval_agrees h first).cases
    · rw [ha, hb]
      exact evalSum_agrees (fun operand hmem => eval_agrees h operand) value
    · rw [ha, hb]
      exact agrees_error rfl rfl
  | .call callee args =>
    exact evalCall_agrees h (eval_agrees h callee) fun arg hmem => eval_agrees h arg
termination_by sizeOf e

end Expr
end Bindery
