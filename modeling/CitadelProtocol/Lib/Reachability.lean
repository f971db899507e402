import Mathlib.Logic.Relation

/-! # Reachable states of a labelled transition system

A system is given by its initial states and a labelled step relation. Its
reachable states are those obtained from an initial state by finitely many
steps, in any order the labels allow. A safety property of such a system is an
invariant: it holds of every initial state and every step keeps it, hence it
holds of every reachable state. Systems whose steps are computed by a partial
step function also execute a schedule of labels, and every state a schedule
reaches is reachable.
-/

namespace Transition

/-- A labelled transition system. -/
structure System (State Label : Type*) where
  init : State → Prop
  step : State → Label → State → Prop

namespace System

variable {State Label : Type*} (sys : System State Label)

/-- States reachable from an initial state by finitely many steps. -/
inductive Reachable : State → Prop
  | init {s : State} : sys.init s → Reachable s
  | step {s t : State} (label : Label) : Reachable s → sys.step s label t → Reachable t

/-- An inductive invariant: it holds initially and every step keeps it. -/
structure Inductive (inv : State → Prop) : Prop where
  init : ∀ s, sys.init s → inv s
  step : ∀ s label t, inv s → sys.step s label t → inv t

variable {sys}

theorem Inductive.reachable {inv : State → Prop} (hinv : sys.Inductive inv) {s : State}
    (hs : sys.Reachable s) : inv s := by
  induction hs with
  | init hinit => exact hinv.init _ hinit
  | step label _ hstep ih => exact hinv.step _ label _ ih hstep

/-- A property implied by an inductive invariant holds of every reachable state. -/
theorem Inductive.reachable_imp {inv goal : State → Prop} (hinv : sys.Inductive inv)
    (himp : ∀ s, inv s → goal s) {s : State} (hs : sys.Reachable s) : goal s :=
  himp s (hinv.reachable hs)

/-- Two inductive invariants together are one. -/
theorem Inductive.and {inv inv' : State → Prop} (hinv : sys.Inductive inv)
    (hinv' : sys.Inductive inv') : sys.Inductive (fun s => inv s ∧ inv' s) where
  init s hinit := ⟨hinv.init s hinit, hinv'.init s hinit⟩
  step s label t hs hstep := ⟨hinv.step s label t hs.1 hstep, hinv'.step s label t hs.2 hstep⟩

/-- An invariant that needs a second one already known to hold of reachable states. -/
theorem Inductive.of_reachable {inv aux : State → Prop}
    (hinit : ∀ s, sys.init s → inv s)
    (hstep : ∀ s label t, sys.Reachable s → aux s → inv s → sys.step s label t → inv t)
    (haux : ∀ s, sys.Reachable s → aux s) :
    sys.Inductive (fun s => sys.Reachable s ∧ inv s) where
  init s hs := ⟨.init hs, hinit s hs⟩
  step s label t hs hst := ⟨.step label hs.1 hst, hstep s label t hs.1 (haux s hs.1) hs.2 hst⟩

end System

/-! ## Systems computed by a partial step function -/

section Partial

variable {State Label : Type*}

/-- The system whose steps are those a partial step function takes. -/
def ofStep (init : State → Prop) (step : State → Label → Option State) :
    System State Label where
  init := init
  step s label t := step s label = some t

/-- Execute a schedule of labels, stopping at the first label that is not enabled. -/
def run (step : State → Label → Option State) : State → List Label → Option State
  | s, [] => some s
  | s, label :: rest => (step s label).bind (fun t => run step t rest)

variable {init : State → Prop} {step : State → Label → Option State}

@[simp] theorem run_nil (s : State) : run step s [] = some s := rfl

theorem run_cons (s : State) (label : Label) (rest : List Label) :
    run step s (label :: rest) = (step s label).bind (fun t => run step t rest) := rfl

theorem run_append (s : State) (first second : List Label) :
    run step s (first ++ second) = (run step s first).bind (fun t => run step t second) := by
  induction first generalizing s with
  | nil => rfl
  | cons label rest ih =>
      simp only [List.cons_append, run_cons]
      cases step s label with
      | none => rfl
      | some t => exact ih t

/-- Every state a schedule reaches from a reachable state is reachable. -/
theorem run_reachable {s t : State} {labels : List Label}
    (hs : (ofStep init step).Reachable s) (hrun : run step s labels = some t) :
    (ofStep init step).Reachable t := by
  induction labels generalizing s with
  | nil =>
      cases hrun
      exact hs
  | cons label rest ih =>
      rw [run_cons] at hrun
      cases hstep : step s label with
      | none => simp [hstep] at hrun
      | some middle =>
          rw [hstep, Option.bind_some] at hrun
          exact ih (.step label hs hstep) hrun

/-- A property that every allowed step keeps holds at the end of every schedule of allowed
labels. -/
theorem run_of_step {P : State → Prop} {allowed : Label → Prop}
    (hstep : ∀ s label t, allowed label → P s → step s label = some t → P t)
    {s t : State} {labels : List Label} (hs : P s) (hallowed : ∀ label ∈ labels, allowed label)
    (hrun : run step s labels = some t) : P t := by
  induction labels generalizing s with
  | nil =>
      cases hrun
      exact hs
  | cons label rest ih =>
      rw [run_cons] at hrun
      cases hnext : step s label with
      | none => simp [hnext] at hrun
      | some middle =>
          rw [hnext, Option.bind_some] at hrun
          have hmiddle := hstep s label middle (hallowed label List.mem_cons_self) hs hnext
          exact ih hmiddle (fun label hmem => hallowed label (List.mem_cons_of_mem _ hmem)) hrun

end Partial

end Transition
