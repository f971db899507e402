import Mathlib.Control.Basic

/-!
# Computations that fail or panic

`ExceptT ε Option` models code that returns a `Result` and may also panic: `none` is a panic,
`some (.error e)` an error returned, `some (.ok a)` a value. A sequence of such steps succeeds
exactly when each step does, which `run_bind_eq_ok` states once, so that later proofs peel a
computation apart step by step without unfolding the monad.
-/

namespace Outcome

variable {ε α β : Type}

/-- A panic. -/
def abort : ExceptT ε Option α := ExceptT.lift none

/-- A `Result` returned by a step that cannot panic. -/
def ofResult (result : Except ε α) : ExceptT ε Option α := ExceptT.mk (some result)

/-- `Option::unwrap`: the value, or a panic. -/
def unwrap : Option α → ExceptT ε Option α
  | some a => pure a
  | none => abort

@[simp] theorem run_pure (a : α) : (pure a : ExceptT ε Option α).run = some (.ok a) := rfl

@[simp] theorem run_throw (e : ε) : (throw e : ExceptT ε Option α).run = some (.error e) := rfl

@[simp] theorem run_abort : (abort : ExceptT ε Option α).run = none := rfl

@[simp] theorem run_ofResult (result : Except ε α) : (ofResult result).run = some result := rfl

@[simp] theorem unwrap_some (a : α) : (unwrap (some a) : ExceptT ε Option α) = pure a := rfl

@[simp] theorem unwrap_none : (unwrap none : ExceptT ε Option α) = abort := rfl

/-- `Option::ok_or(err)?`: the value, or the error returned. -/
def ofOption (o : Option α) (err : ε) : ExceptT ε Option α :=
  match o with
  | some a => pure a
  | none => throw err

@[simp] theorem ofOption_some (a : α) (err : ε) : (ofOption (some a) err : ExceptT ε Option α) = pure a :=
  rfl

@[simp] theorem ofOption_none (err : ε) : (ofOption none err : ExceptT ε Option α) = throw err := rfl

@[simp] theorem ofResult_ok (a : α) : (ofResult (.ok a) : ExceptT ε Option α) = pure a := rfl

@[simp] theorem ofResult_error (e : ε) : (ofResult (.error e) : ExceptT ε Option α) = throw e := rfl

theorem except_pure_eq_ok (a : α) : (pure a : Except ε α) = .ok a := rfl

/-- A `Result` step that returned a value continues with it. -/
theorem except_ok_bind (a : α) (f : α → Except ε β) : (Except.ok a >>= f) = f a := rfl

/-- `map_err` on a step: its error replaced, its value and its panic kept. -/
@[simp] theorem run_adapt {ε' : Type} (f : ε → ε') (m : ExceptT ε Option α) :
    (ExceptT.adapt f m).run = m.run.map (Except.mapError f) := rfl

theorem run_adapt_eq_ok {ε' : Type} {f : ε → ε'} {m : ExceptT ε Option α} {a : α} :
    (ExceptT.adapt f m).run = some (.ok a) ↔ m.run = some (.ok a) := by
  rw [run_adapt]
  cases m.run with
  | none => simp
  | some result => cases result <;> simp [Except.mapError]

/-- A step that succeeds succeeds whatever its error is mapped to. -/
theorem adapt_eq_pure_of_run {ε' : Type} (f : ε → ε') {m : ExceptT ε Option α} {a : α}
    (h : m.run = some (.ok a)) : ExceptT.adapt f m = pure a :=
  ExceptT.ext (by rw [run_adapt, h]; rfl)

theorem run_unwrap_eq_ok {o : Option α} {a : α} :
    (unwrap o : ExceptT ε Option α).run = some (.ok a) ↔ o = some a := by
  cases o <;> simp [unwrap]

/-- A computation that succeeds is `pure` of its value. -/
theorem eq_pure_of_run {m : ExceptT ε Option α} {a : α} (h : m.run = some (.ok a)) : m = pure a :=
  ExceptT.ext h

theorem run_bind (m : ExceptT ε Option α) (k : α → ExceptT ε Option β) :
    (m >>= k).run = m.run.bind fun
      | .ok a => (k a).run
      | .error e => some (.error e) := by
  cases hm : m.run with
  | none => simp [ExceptT.run_bind, hm]
  | some result => cases result <;> simp [ExceptT.run_bind, hm]

/-- A sequence succeeds exactly when its first step does and the rest succeeds from there. -/
theorem run_bind_eq_ok {m : ExceptT ε Option α} {k : α → ExceptT ε Option β} {b : β} :
    (m >>= k).run = some (.ok b) ↔ ∃ a, m.run = some (.ok a) ∧ (k a).run = some (.ok b) := by
  rw [run_bind]
  constructor
  · intro h
    obtain ⟨result, hm, hk⟩ := Option.bind_eq_some_iff.mp h
    cases result with
    | ok a => exact ⟨a, hm, hk⟩
    | error e => cases hk
  · rintro ⟨a, hm, hk⟩
    rw [hm]
    exact hk

/-- A step that succeeds hands its value on. -/
theorem run_bind_of_ok {m : ExceptT ε Option α} {k : α → ExceptT ε Option β} {a : α}
    (hm : m.run = some (.ok a)) : (m >>= k).run = (k a).run := by
  rw [run_bind, hm]
  rfl

/-- Dropping the error and the panic alike keeps exactly the successful runs. -/
theorem run_bind_toOption_eq_some {m : ExceptT ε Option α} {a : α} :
    m.run.bind Except.toOption = some a ↔ m.run = some (.ok a) := by
  cases hm : m.run with
  | none => simp
  | some result => cases result <;> simp [Except.toOption]

end Outcome
