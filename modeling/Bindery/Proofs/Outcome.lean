import Mathlib.Tactic.Lemma

/-!
# Outcomes

What comes out of a computation that may fail: a value or an error. Two steps give a value exactly
if both of them do, and the error of the first that fails (`error?_bind`). Two outcomes agree
(`Agrees`) if they are the same up to the error. They correspond (`Corresponds`) if their values or
their errors are related, and they are parallel (`Parallel`) if the related errors are the same.
-/

namespace Bindery

/-- Two steps succeed exactly if the first one does and the second one does with its result. -/
lemma bind_eq_ok {ε α β : Type} {x : Except ε α} {f : α → Except ε β} {b : β} :
    (x >>= f) = .ok b ↔ ∃ a, x = .ok a ∧ f a = .ok b := by
  cases x with
  | ok a =>
    constructor
    · exact fun h => ⟨a, rfl, h⟩
    · rintro ⟨a', ha, h⟩
      cases ha
      exact h
  | error e =>
    constructor
    · intro h
      cases h
    · rintro ⟨a, ha, -⟩
      cases ha

/-- A mapped outcome is a success exactly if the outcome was one. -/
lemma map_eq_ok {ε α β : Type} {x : Except ε α} {f : α → β} {b : β} :
    x.map f = .ok b ↔ ∃ a, x = .ok a ∧ f a = b := by
  cases x with
  | ok a => simp [Except.map]
  | error e => simp [Except.map]

/-! ## Errors -/

/-- The error that comes out, if there is no value. -/
def error? {ε α : Type} : Except ε α → Option ε
  | .ok _ => none
  | .error e => some e

section

variable {ε α β : Type} {x : Except ε α}

/-- The error of an outcome is there exactly if it failed with it. -/
lemma error?_eq_some_iff {e : ε} : error? x = some e ↔ x = .error e := by
  cases x with
  | ok a => simp [error?]
  | error e => simp [error?]

lemma error?_map (f : α → β) : error? (x.map f) = error? x := by
  cases x <;> rfl

/-- The second step is only taken after the first one, and its error does not depend on what came
out of that. -/
lemma error?_bind {f : α → Except ε β} {e : Option ε}
    (h : ∀ a, x = .ok a → error? (f a) = e) : error? (x >>= f) = (error? x).or e := by
  cases x with
  | ok a => exact h a rfl
  | error e => rfl

end

/-! ## Outcomes up to the error -/

/-- Two outcomes are the same up to the error. -/
def Agrees {ε α : Type} (a b : Except ε α) : Prop := a.toOption = b.toOption

variable {ε α : Type}

lemma Agrees.refl (a : Except ε α) : Agrees a a := rfl

lemma agrees_ok {a b : Except ε α} {value : α} (ha : a = .ok value) (hb : b = .ok value) :
    Agrees a b := by
  rw [ha, hb]
  exact .refl _

lemma agrees_error {a b : Except ε α} {e e' : ε} (ha : a = .error e) (hb : b = .error e') :
    Agrees a b := by
  rw [ha, hb]
  rfl

/-- Outcomes that agree succeed with the same value, or both fail. -/
lemma Agrees.cases {a b : Except ε α} (h : Agrees a b) :
    (∃ value, a = .ok value ∧ b = .ok value) ∨ ∃ e e', a = .error e ∧ b = .error e' := by
  rw [Agrees] at h
  cases a with
  | ok value =>
    cases b with
    | ok other =>
      simp only [Except.toOption, Option.some.injEq] at h
      exact .inl ⟨value, rfl, by rw [h]⟩
    | error e' => simp [Except.toOption] at h
  | error e =>
    cases b with
    | ok other => simp [Except.toOption] at h
    | error e' => exact .inr ⟨e, e', rfl, rfl⟩

/-- Outcomes agree also when their values are mapped. -/
lemma Agrees.map {β : Type} {a b : Except ε α} (h : Agrees a b) (f : α → β) :
    Agrees (a.map f) (b.map f) := by
  obtain ⟨value, ha, hb⟩ | ⟨e, e', ha, hb⟩ := h.cases
  · rw [ha, hb]
    exact .refl _
  · exact agrees_error (by rw [ha]; rfl) (by rw [hb]; rfl)

/-- The errors may be mapped in different ways. -/
lemma Agrees.mapError {δ : Type} {a b : Except ε α} (h : Agrees a b) (f g : ε → δ) :
    Agrees (a.mapError f) (b.mapError g) := by
  obtain ⟨value, ha, hb⟩ | ⟨e, e', ha, hb⟩ := h.cases
  · rw [ha, hb]
    exact agrees_ok rfl rfl
  · exact agrees_error (by rw [ha]; rfl) (by rw [hb]; rfl)

/-! ## Outcomes that go together -/

/-- Two outcomes have related values or related errors. -/
inductive Corresponds {ε δ α β : Type} (E : ε → δ → Prop) (R : α → β → Prop) :
    Except ε α → Except δ β → Prop where
  | ok {a : α} {b : β} (h : R a b) : Corresponds E R (.ok a) (.ok b)
  | error {e : ε} {d : δ} (h : E e d) : Corresponds E R (.error e) (.error d)

section

variable {δ β γ ζ : Type} {E : ε → δ → Prop} {R : α → β → Prop} {S : γ → ζ → Prop}
  {x : Except ε α} {y : Except δ β}

/-- Two steps after one another go together if both do, and the second ones may count on what came
out of the first. -/
lemma Corresponds.bind (h : Corresponds E R x y) {f : α → Except ε γ} {g : β → Except δ ζ}
    (hstep : ∀ a b, x = .ok a → y = .ok b → R a b → Corresponds E S (f a) (g b)) :
    Corresponds E S (x >>= f) (y >>= g) := by
  cases h with
  | ok h => exact hstep _ _ rfl rfl h
  | error h => exact .error h

/-- Values that go together may be mapped to values that go together. -/
lemma Corresponds.map (h : Corresponds E R x y) {f : α → γ} {g : β → ζ}
    (hfg : ∀ a b, R a b → S (f a) (g b)) : Corresponds E S (x.map f) (y.map g) := by
  cases h with
  | ok h => exact .ok (hfg _ _ h)
  | error h => exact .error h

end

/-! ## Outcomes up to the value -/

/-- Two outcomes have related values or the same error. -/
inductive Parallel {ε α β : Type} (R : α → β → Prop) : Except ε α → Except ε β → Prop where
  | ok {a : α} {b : β} (h : R a b) : Parallel R (.ok a) (.ok b)
  | error (e : ε) : Parallel R (.error e) (.error e)

section

variable {β γ : Type} {R : α → β → Prop} {x : Except ε α} {y : Except ε β}

/-- Outcomes whose errors are the same go together up to the value. -/
lemma Corresponds.parallel (h : Corresponds Eq R x y) : Parallel R x y := by
  cases h with
  | ok h => exact .ok h
  | error h =>
    cases h
    exact .error _

/-- They are the same when their values are mapped to the same. -/
lemma Parallel.map_eq (h : Parallel R x y) {f : α → γ} {g : β → γ}
    (hfg : ∀ a b, R a b → f a = g b) : x.map f = y.map g := by
  cases h with
  | ok h => exact congrArg Except.ok (hfg _ _ h)
  | error e => rfl

end

end Bindery
