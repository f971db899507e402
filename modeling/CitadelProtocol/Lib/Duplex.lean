import CitadelProtocol.Lib.Reachability

/-! # Two parties resolving over a duplex link

Each of two parties, the *initiator* and the *responder*, runs two tasks over one state
guarded by a lock:

* a *completer*, which waits for the party's future and then, holding the lock, records the
  future's output in the state and sends one message;
* an *evaluator*, which receives the other party's messages in order and, holding the lock
  for each, updates the state, sends replies and possibly returns.

Once the evaluator has returned the party is done: its completer is dropped at whatever point
it had reached, and the party neither changes nor sends again. Messages travel over two
reliable FIFO queues, one towards each party.

Each critical section is one atomic step: the lock serialises the two tasks of a party, and
the queues are all that the parties share. Receiving a message before taking the lock is
merged into the evaluator's step, since the completer never reads the queue.

Two invariants hold for every such pair of tasks that satisfies simple conditions:

* `Party.Settled`: while its evaluator runs, a party's state is the start state until its
  completer has run and the completer's state afterwards, provided the evaluator changes the
  state only when it returns;
* `DecisionPlaced`: when only the initiator's evaluator may decide, sending its decision as
  its last message, and the responder's evaluator returns exactly on a decision, the decision
  is the last message towards the responder until the responder has returned on it.
-/

namespace Duplex

variable {σ ρ α ω : Type*}

/-- The two ends of the link. -/
inductive Side
  | initiator
  | responder
  deriving DecidableEq, Repr

namespace Side

/-- The party at the other end of the link. -/
def other : Side → Side
  | initiator => responder
  | responder => initiator

@[simp] theorem other_initiator : initiator.other = responder := rfl

@[simp] theorem other_responder : responder.other = initiator := rfl

@[simp] theorem other_other (side : Side) : side.other.other = side := by
  cases side <;> rfl

theorem other_ne (side : Side) : side.other ≠ side := by
  cases side <;> simp

theorem eq_other_of_ne {side side' : Side} (hne : side' ≠ side) : side' = side.other := by
  cases side <;> cases side' <;> simp_all

/-- A property of both ends follows from the property of one end and of the other. -/
theorem forall_of {P : Side → Prop} (side : Side) (hself : P side) (hother : P side.other)
    (side' : Side) : P side' := by
  by_cases hside : side' = side
  · exact hside ▸ hself
  · exact (eq_other_of_ne hside) ▸ hother

end Side

/-- One party: the state behind its lock, and how far each of its two tasks has got. -/
structure Party (σ ρ ω : Type*) where
  state : σ
  /-- the output of the party's future, once it has produced one -/
  future : Option ρ
  /-- whether the completer has run its critical section -/
  completed : Bool
  /-- what the evaluator returned, once it has -/
  returned : Option ω

/-- A party before either task has done anything. -/
def Party.start (state : σ) : Party σ ρ ω where
  state := state
  future := none
  completed := false
  returned := none

/-- The two parties and the messages in flight towards each, oldest first. -/
structure Link (σ ρ α ω : Type*) where
  initiator : Party σ ρ ω
  responder : Party σ ρ ω
  toInitiator : List α
  toResponder : List α

namespace Link

/-- Both parties at their start, with nothing in flight. -/
def start (state : σ) : Link σ ρ α ω where
  initiator := .start state
  responder := .start state
  toInitiator := []
  toResponder := []

/-- The party at one end. -/
def party (s : Link σ ρ α ω) : Side → Party σ ρ ω
  | .initiator => s.initiator
  | .responder => s.responder

/-- The messages in flight towards one end. -/
def inbox (s : Link σ ρ α ω) : Side → List α
  | .initiator => s.toInitiator
  | .responder => s.toResponder

/-- Replace the party at one end. -/
def setParty (s : Link σ ρ α ω) : Side → Party σ ρ ω → Link σ ρ α ω
  | .initiator, p => { s with initiator := p }
  | .responder, p => { s with responder := p }

/-- Replace the messages in flight towards one end. -/
def setInbox (s : Link σ ρ α ω) : Side → List α → Link σ ρ α ω
  | .initiator, messages => { s with toInitiator := messages }
  | .responder, messages => { s with toResponder := messages }

/-- `side` sends `messages`: they join the queue towards the other party. -/
def send (s : Link σ ρ α ω) (side : Side) (messages : List α) : Link σ ρ α ω :=
  s.setInbox side.other (s.inbox side.other ++ messages)

variable (s : Link σ ρ α ω)

@[simp] theorem party_initiator : s.party .initiator = s.initiator := rfl

@[simp] theorem party_responder : s.party .responder = s.responder := rfl

@[simp] theorem inbox_initiator : s.inbox .initiator = s.toInitiator := rfl

@[simp] theorem inbox_responder : s.inbox .responder = s.toResponder := rfl

@[simp] theorem setParty_initiator (p : Party σ ρ ω) :
    s.setParty .initiator p = { s with initiator := p } := rfl

@[simp] theorem setParty_responder (p : Party σ ρ ω) :
    s.setParty .responder p = { s with responder := p } := rfl

@[simp] theorem setInbox_initiator (messages : List α) :
    s.setInbox .initiator messages = { s with toInitiator := messages } := rfl

@[simp] theorem setInbox_responder (messages : List α) :
    s.setInbox .responder messages = { s with toResponder := messages } := rfl

@[simp] theorem send_initiator (messages : List α) :
    s.send .initiator messages = { s with toResponder := s.toResponder ++ messages } := rfl

@[simp] theorem send_responder (messages : List α) :
    s.send .responder messages = { s with toInitiator := s.toInitiator ++ messages } := rfl

theorem party_setParty_self (side : Side) (p : Party σ ρ ω) : (s.setParty side p).party side = p := by
  cases side <;> rfl

theorem party_setParty_other (side : Side) (p : Party σ ρ ω) :
    (s.setParty side p).party side.other = s.party side.other := by
  cases side <;> rfl

theorem inbox_setParty (side side' : Side) (p : Party σ ρ ω) :
    (s.setParty side p).inbox side' = s.inbox side' := by
  cases side <;> cases side' <;> rfl

theorem party_setInbox (side side' : Side) (messages : List α) :
    (s.setInbox side messages).party side' = s.party side' := by
  cases side <;> cases side' <;> rfl

theorem party_send (side side' : Side) (messages : List α) :
    (s.send side messages).party side' = s.party side' :=
  party_setInbox _ _ _ _

end Link

/-! ## Steps -/

/-- What the two tasks of a party do in their critical sections. -/
structure Tasks (σ ρ α ω : Type*) where
  /-- the completer, given the future's output: the new state and the message it sends -/
  complete : ρ → σ → σ × α
  /-- one round of the evaluator on a received message: the new state, the messages it sends,
  and what it returns if the round ends the loop -/
  evaluate : Side → σ → α → σ × List α × Option ω

/-- What can happen next: a future produces its output, a completer runs, or an evaluator
handles the oldest message towards its party. -/
inductive Action (ρ : Type*)
  | finish (side : Side) (output : ρ)
  | complete (side : Side)
  | evaluate (side : Side)
  deriving Repr

variable (tasks : Tasks σ ρ α ω)

/-- The future of `side` produces `output`. -/
def finishStep (s : Link σ ρ α ω) (side : Side) (output : ρ) : Link σ ρ α ω :=
  s.setParty side { s.party side with future := some output }

/-- The completer of `side` records `output` and sends its message. -/
def completeStep (s : Link σ ρ α ω) (side : Side) (output : ρ) : Link σ ρ α ω :=
  let p := s.party side
  let out := tasks.complete output p.state
  (s.setParty side { p with state := out.1, completed := true }).send side [out.2]

/-- The evaluator of `side` handles `message`, the oldest one towards it, `rest` following. -/
def evaluateStep (s : Link σ ρ α ω) (side : Side) (message : α) (rest : List α) :
    Link σ ρ α ω :=
  let p := s.party side
  let out := tasks.evaluate side p.state message
  ((s.setInbox side rest).setParty side { p with state := out.1, returned := out.2.2 }).send side
    out.2.1

/-- One step; `none` where the action is not enabled. Nothing of a party that has returned
runs again, a future produces one output, and its completer runs once, after it. -/
def step (s : Link σ ρ α ω) : Action ρ → Option (Link σ ρ α ω)
  | .finish side output =>
      if (s.party side).future.isNone && (s.party side).returned.isNone then
        some (finishStep s side output)
      else none
  | .complete side =>
      match (s.party side).future with
      | some output =>
          if !(s.party side).completed && (s.party side).returned.isNone then
            some (completeStep tasks s side output)
          else none
      | none => none
  | .evaluate side =>
      match s.inbox side with
      | message :: rest =>
          if (s.party side).returned.isNone then some (evaluateStep tasks s side message rest)
          else none
      | [] => none

/-- Both parties start from `state`; the futures finish at any time, with any output. -/
def system (state : σ) : Transition.System (Link σ ρ α ω) (Action ρ) :=
  Transition.ofStep (· = Link.start state) (step tasks)

variable {tasks} {s t : Link σ ρ α ω}

theorem step_finish {side : Side} {output : ρ} :
    step tasks s (.finish side output) = some t ↔
      (s.party side).future = none ∧ (s.party side).returned = none ∧
        t = finishStep s side output := by
  simp only [step, Bool.and_eq_true, Option.isNone_iff_eq_none]
  split
  · rename_i h
    simp [h, eq_comm]
  · rename_i h
    simp only [reduceCtorEq, false_iff]
    exact fun hall => h ⟨hall.1, hall.2.1⟩

theorem step_complete {side : Side} :
    step tasks s (.complete side) = some t ↔
      ∃ output, (s.party side).future = some output ∧ (s.party side).completed = false ∧
        (s.party side).returned = none ∧ t = completeStep tasks s side output := by
  simp only [step]
  split
  · rename_i output hfuture
    simp only [Bool.and_eq_true, Bool.not_eq_eq_eq_not, Bool.not_true,
      Option.isNone_iff_eq_none]
    split
    · rename_i h
      simp [hfuture, h, eq_comm]
    · rename_i h
      simp only [reduceCtorEq, false_iff, not_exists, not_and]
      intro output' hfuture' hcompleted hret _
      exact h ⟨hcompleted, hret⟩
  · rename_i hfuture
    simp [hfuture]

theorem step_evaluate {side : Side} :
    step tasks s (.evaluate side) = some t ↔
      ∃ message rest, s.inbox side = message :: rest ∧ (s.party side).returned = none ∧
        t = evaluateStep tasks s side message rest := by
  simp only [step]
  split
  · rename_i message rest hinbox
    simp only [Option.isNone_iff_eq_none]
    split
    · rename_i h
      constructor
      · rintro ⟨⟩
        exact ⟨message, rest, hinbox, h, rfl⟩
      · rintro ⟨message', rest', hinbox', -, rfl⟩
        rw [hinbox, List.cons_eq_cons] at hinbox'
        rw [hinbox'.1, hinbox'.2]
    · rename_i h
      simp [hinbox, h]
  · rename_i hinbox
    simp [hinbox]

/-- Induction over the reachable states, one case per kind of step, each with its guards. -/
theorem reachable_induction {start : σ} {motive : Link σ ρ α ω → Prop}
    (hstart : motive (.start start))
    (hfinish : ∀ s side output, (system tasks start).Reachable s → motive s →
      (s.party side).future = none → (s.party side).returned = none →
      motive (finishStep s side output))
    (hcomplete : ∀ s side output, (system tasks start).Reachable s → motive s →
      (s.party side).future = some output → (s.party side).completed = false →
      (s.party side).returned = none → motive (completeStep tasks s side output))
    (hevaluate : ∀ s side message rest, (system tasks start).Reachable s → motive s →
      s.inbox side = message :: rest → (s.party side).returned = none →
      motive (evaluateStep tasks s side message rest))
    (hs : (system tasks start).Reachable s) : motive s := by
  induction hs with
  | init hinit =>
      subst hinit
      exact hstart
  | step action hs hstep ih =>
      cases action with
      | finish side output =>
          obtain ⟨hfuture, hreturned, rfl⟩ := step_finish.1 hstep
          exact hfinish _ side output hs ih hfuture hreturned
      | complete side =>
          obtain ⟨output, hfuture, hcompleted, hreturned, rfl⟩ := step_complete.1 hstep
          exact hcomplete _ side output hs ih hfuture hcompleted hreturned
      | evaluate side =>
          obtain ⟨message, rest, hinbox, hreturned, rfl⟩ := step_evaluate.1 hstep
          exact hevaluate _ side message rest hs ih hinbox hreturned

/-! The steps at each end, written out. -/

theorem evaluateStep_initiator (message : α) (rest : List α) :
    evaluateStep tasks s .initiator message rest =
      { s with
        initiator := { s.initiator with
          state := (tasks.evaluate .initiator s.initiator.state message).1
          returned := (tasks.evaluate .initiator s.initiator.state message).2.2 }
        toInitiator := rest
        toResponder := s.toResponder ++ (tasks.evaluate .initiator s.initiator.state message).2.1 } :=
  rfl

theorem evaluateStep_responder (message : α) (rest : List α) :
    evaluateStep tasks s .responder message rest =
      { s with
        responder := { s.responder with
          state := (tasks.evaluate .responder s.responder.state message).1
          returned := (tasks.evaluate .responder s.responder.state message).2.2 }
        toResponder := rest
        toInitiator := s.toInitiator ++ (tasks.evaluate .responder s.responder.state message).2.1 } :=
  rfl

theorem party_finishStep_other (side : Side) (output : ρ) :
    (finishStep s side output).party side.other = s.party side.other :=
  Link.party_setParty_other _ _ _

theorem party_completeStep_other (side : Side) (output : ρ) :
    (completeStep tasks s side output).party side.other = s.party side.other := by
  rw [completeStep, Link.party_send, Link.party_setParty_other]

theorem party_evaluateStep_other (side : Side) (message : α) (rest : List α) :
    (evaluateStep tasks s side message rest).party side.other = s.party side.other := by
  rw [evaluateStep, Link.party_send, Link.party_setParty_other, Link.party_setInbox]

/-! ## Parties only move forward -/

/-- `p'` is `p` moved forward: the future's output and the completer's run are kept, and a
party that has returned no longer changes. -/
structure Party.Follows (p p' : Party σ ρ ω) : Prop where
  future : ∀ output, p.future = some output → p'.future = some output
  completed : p.completed = true → p'.completed = true
  frozen : p.returned.isSome → p' = p

theorem Party.Follows.refl (p : Party σ ρ ω) : p.Follows p :=
  ⟨fun _ h => h, id, fun _ => rfl⟩

/-- A running party follows any party with its future and at least its completer's run. -/
theorem Party.Follows.of_running {p p' : Party σ ρ ω} (hreturned : p.returned = none)
    (hfuture : p'.future = p.future) (hcompleted : p.completed = true → p'.completed = true) :
    p.Follows p' :=
  ⟨fun _ h => hfuture.trans h, hcompleted, fun h => by simp [hreturned] at h⟩

theorem follows_finishStep (side : Side) {output : ρ} (hfuture : (s.party side).future = none)
    (hreturned : (s.party side).returned = none) (side' : Side) :
    (s.party side').Follows ((finishStep s side output).party side') := by
  by_cases hside : side' = side
  · subst hside
    rw [finishStep, Link.party_setParty_self]
    exact ⟨fun _ h => by simp [hfuture] at h, id, fun h => by simp [hreturned] at h⟩
  · rw [Side.eq_other_of_ne hside, party_finishStep_other]
    exact .refl _

theorem follows_completeStep (side : Side) {output : ρ}
    (hreturned : (s.party side).returned = none) (side' : Side) :
    (s.party side').Follows ((completeStep tasks s side output).party side') := by
  by_cases hside : side' = side
  · subst hside
    rw [completeStep, Link.party_send, Link.party_setParty_self]
    exact ⟨fun _ h => h, fun _ => rfl, fun h => by simp [hreturned] at h⟩
  · rw [Side.eq_other_of_ne hside, party_completeStep_other]
    exact .refl _

theorem follows_evaluateStep (side : Side) {message : α} {rest : List α}
    (hreturned : (s.party side).returned = none) (side' : Side) :
    (s.party side').Follows ((evaluateStep tasks s side message rest).party side') := by
  by_cases hside : side' = side
  · subst hside
    rw [evaluateStep, Link.party_send, Link.party_setParty_self]
    exact ⟨fun _ h => h, id, fun h => by simp [hreturned] at h⟩
  · rw [Side.eq_other_of_ne hside, party_evaluateStep_other]
    exact .refl _

/-! ## The state a completer leaves -/

section Settled

variable (settle : ρ → σ) (start : σ)

/-- The state the completer leaves, or the start state before it has run. -/
def Party.settledState (p : Party σ ρ ω) : σ :=
  match p.completed, p.future with
  | true, some output => settle output
  | _, _ => start

/-- A completer runs after its future, and while the evaluator runs the state is the one the
completer left, or the start state. -/
structure Party.Settled (p : Party σ ρ ω) : Prop where
  future_of_completed : p.completed = true → p.future.isSome
  state_eq : p.returned = none → p.state = p.settledState settle start

/-- The completer's state depends on the future's output alone, and a round of the evaluator
that does not return leaves the state as it was. -/
structure Tasks.Settles (tasks : Tasks σ ρ α ω) : Prop where
  complete : ∀ output state, (tasks.complete output state).1 = settle output
  evaluate : ∀ side state message, (tasks.evaluate side state message).2.2 = none →
    (tasks.evaluate side state message).1 = state

theorem Party.settled_start : (Party.start start : Party σ ρ ω).Settled settle start :=
  ⟨fun h => by simp [Party.start] at h, fun _ => rfl⟩

variable {settle start}

theorem settled_finishStep {side : Side} {output : ρ} (hfuture : (s.party side).future = none)
    (hsettled : (s.party side).Settled settle start) :
    ((finishStep s side output).party side).Settled settle start := by
  have hcompleted : (s.party side).completed = false := by
    cases h : (s.party side).completed
    · rfl
    · simpa [hfuture] using hsettled.future_of_completed h
  rw [finishStep, Link.party_setParty_self]
  refine ⟨fun h => by simp [hcompleted] at h, fun hreturned => ?_⟩
  rw [hsettled.state_eq hreturned]
  simp [Party.settledState, hcompleted]

theorem settled_completeStep (hsettles : tasks.Settles settle) {side : Side} {output : ρ}
    (hfuture : (s.party side).future = some output) :
    ((completeStep tasks s side output).party side).Settled settle start := by
  rw [completeStep, Link.party_send, Link.party_setParty_self]
  refine ⟨fun _ => by simp [hfuture], fun _ => ?_⟩
  simp [Party.settledState, hfuture, hsettles.complete]

theorem settled_evaluateStep (hsettles : tasks.Settles settle) {side : Side} {message : α}
    {rest : List α} (hreturned : (s.party side).returned = none)
    (hsettled : (s.party side).Settled settle start) :
    ((evaluateStep tasks s side message rest).party side).Settled settle start := by
  rw [evaluateStep, Link.party_send, Link.party_setParty_self]
  refine ⟨hsettled.future_of_completed, fun hcontinues => ?_⟩
  -- the round did not return, so the evaluator left the state as it was
  rw [hsettles.evaluate side (s.party side).state message hcontinues]
  exact hsettled.state_eq hreturned

/-- Every reachable party is settled. -/
theorem settled_of_reachable (hsettles : tasks.Settles settle)
    (hs : (system tasks start).Reachable s) : ∀ side, (s.party side).Settled settle start := by
  refine reachable_induction (motive := fun s => ∀ side, (s.party side).Settled settle start)
    ?_ ?_ ?_ ?_ hs
  · intro side
    cases side <;> exact Party.settled_start settle start
  · intro s side output _ ih hfuture _
    refine Side.forall_of side (settled_finishStep hfuture (ih side)) ?_
    rw [party_finishStep_other]
    exact ih _
  · intro s side output _ ih hfuture _ _
    refine Side.forall_of side (settled_completeStep hsettles hfuture) ?_
    rw [party_completeStep_other]
    exact ih _
  · intro s side message rest _ ih _ hreturned
    refine Side.forall_of side (settled_evaluateStep hsettles hreturned (ih side)) ?_
    rw [party_evaluateStep_other]
    exact ih _

end Settled

/-! ## The initiator's decision -/

section Decision

variable (isDecision : α → Bool) (decision : σ → α)

/-- Only the initiator decides: the completers send no decision, the initiator's evaluator
sends none until it returns and then exactly the decision its new state records, and the
responder's evaluator returns exactly on a decision. -/
structure Tasks.Decides (tasks : Tasks σ ρ α ω) : Prop where
  complete : ∀ output state, isDecision (tasks.complete output state).2 = false
  initiator_continues : ∀ state message, (tasks.evaluate .initiator state message).2.2 = none →
    ∀ m ∈ (tasks.evaluate .initiator state message).2.1, isDecision m = false
  initiator_returns : ∀ state message, (tasks.evaluate .initiator state message).2.2.isSome →
    (tasks.evaluate .initiator state message).2.1 =
        [decision (tasks.evaluate .initiator state message).1] ∧
      isDecision (decision (tasks.evaluate .initiator state message).1) = true
  responder_returns : ∀ state message,
    (tasks.evaluate .responder state message).2.2.isSome = isDecision message

/-- Where the initiator's decision is. The responder returns only after the initiator, and
no decision is in flight before the initiator returns. Afterwards the initiator's state
records a decision, and until the responder returns that decision is the last message in
flight towards it, behind messages that are none. -/
structure DecisionPlaced (s : Link σ ρ α ω) : Prop where
  initiator_first : s.responder.returned.isSome → s.initiator.returned.isSome
  undecided : s.initiator.returned = none → ∀ m ∈ s.toResponder, isDecision m = false
  decided : s.initiator.returned.isSome → isDecision (decision s.initiator.state) = true
  in_flight : s.initiator.returned.isSome → s.responder.returned = none →
    ∃ pending, s.toResponder = pending ++ [decision s.initiator.state] ∧
      ∀ m ∈ pending, isDecision m = false

variable {isDecision decision}

/-- The responder receives either no decision, or the one the initiator has returned with. -/
theorem DecisionPlaced.receives (hplaced : DecisionPlaced isDecision decision s)
    (hreturned : s.responder.returned = none) {message : α} {rest : List α}
    (hinbox : s.toResponder = message :: rest) :
    isDecision message = false ∨
      (s.initiator.returned.isSome ∧ message = decision s.initiator.state) := by
  cases hinitiator : s.initiator.returned with
  | none => exact .inl (hplaced.undecided hinitiator message (by simp [hinbox]))
  | some ret =>
      obtain ⟨pending, hpending, hnone⟩ := hplaced.in_flight (by simp [hinitiator]) hreturned
      cases pending with
      | nil =>
          rw [hinbox, List.nil_append, List.cons_eq_cons] at hpending
          exact .inr ⟨rfl, hpending.1⟩
      | cons first pending =>
          rw [hinbox, List.cons_append, List.cons_eq_cons] at hpending
          exact .inl (hpending.1 ▸ hnone first (by simp))

theorem decisionPlaced_start (state : σ) :
    DecisionPlaced isDecision decision (Link.start state : Link σ ρ α ω) where
  initiator_first h := by simp [Link.start, Party.start] at h
  undecided _ m hm := by simp [Link.start] at hm
  decided h := by simp [Link.start, Party.start] at h
  in_flight h := by simp [Link.start, Party.start] at h

theorem decisionPlaced_completeStep (hdecides : tasks.Decides isDecision decision)
    (hplaced : DecisionPlaced isDecision decision s) {side : Side} {output : ρ}
    (hreturned : (s.party side).returned = none) :
    DecisionPlaced isDecision decision (completeStep tasks s side output) := by
  cases side with
  | initiator =>
      -- the initiator's completer adds a message that is no decision, before any decision
      simp only [Link.party_initiator] at hreturned
      refine ⟨hplaced.initiator_first, fun _ m hm => ?_, fun h => by simp [completeStep,
        hreturned] at h, fun h => by simp [completeStep, hreturned] at h⟩
      simp only [completeStep, Link.party_initiator, Link.setParty_initiator,
        Link.send_initiator, List.mem_append, List.mem_singleton] at hm
      rcases hm with hm | rfl
      · exact hplaced.undecided hreturned m hm
      · exact hdecides.complete _ _
  | responder =>
      exact ⟨hplaced.initiator_first, hplaced.undecided, hplaced.decided, hplaced.in_flight⟩

theorem decisionPlaced_evaluateStep_initiator (hdecides : tasks.Decides isDecision decision)
    (hplaced : DecisionPlaced isDecision decision s) {message : α} {rest : List α}
    (hreturned : s.initiator.returned = none) :
    DecisionPlaced isDecision decision (evaluateStep tasks s .initiator message rest) := by
  have hresponder : s.responder.returned = none := by
    cases h : s.responder.returned with
    | none => rfl
    | some _ => simpa [hreturned] using hplaced.initiator_first (by simp [h])
  have hundecided := hplaced.undecided hreturned
  simp only [evaluateStep, Link.party_initiator, Link.setInbox_initiator,
    Link.setParty_initiator, Link.send_initiator]
  cases hret : (tasks.evaluate .initiator s.initiator.state message).2.2 with
  | none =>
      -- the round goes on: what it sends is no decision
      refine ⟨fun h => by simp [hresponder] at h, fun _ m hm => ?_, fun h => by simp at h,
        fun h => by simp at h⟩
      rcases List.mem_append.1 hm with hm | hm
      · exact hundecided m hm
      · exact hdecides.initiator_continues _ _ hret m hm
  | some ret =>
      -- the round returns: it sends the decision, behind what was already in flight
      obtain ⟨hsent, hdecision⟩ := hdecides.initiator_returns s.initiator.state message
        (by simp [hret])
      exact ⟨fun _ => rfl, fun h => by simp at h, fun _ => hdecision,
        fun _ _ => ⟨s.toResponder, by rw [hsent], hundecided⟩⟩

theorem decisionPlaced_evaluateStep_responder (hdecides : tasks.Decides isDecision decision)
    (hplaced : DecisionPlaced isDecision decision s) {message : α} {rest : List α}
    (hinbox : s.toResponder = message :: rest) (hreturned : s.responder.returned = none) :
    DecisionPlaced isDecision decision (evaluateStep tasks s .responder message rest) := by
  simp only [evaluateStep, Link.party_responder, Link.setInbox_responder,
    Link.setParty_responder, Link.send_responder]
  have hreturns := hdecides.responder_returns s.responder.state message
  rcases hplaced.receives hreturned hinbox with hnone | ⟨hinitiator, rfl⟩
  · -- no decision: the responder goes on, and the rest of the queue is as before
    rw [hnone, Option.isSome_eq_false_iff, Option.isNone_iff_eq_none] at hreturns
    refine ⟨fun h => by simp [hreturns] at h, fun h m hm => hplaced.undecided h m
      (by simp [hinbox, hm]), hplaced.decided, fun h _ => ?_⟩
    obtain ⟨pending, hpending, hpendingNone⟩ := hplaced.in_flight h hreturned
    cases pending with
    | nil =>
        rw [hinbox, List.nil_append, List.cons_eq_cons] at hpending
        rw [hpending.1, hplaced.decided h] at hnone
        cases hnone
    | cons first pending =>
        rw [hinbox, List.cons_append, List.cons_eq_cons] at hpending
        exact ⟨pending, hpending.2, fun m hm => hpendingNone m (by simp [hm])⟩
  · -- the decision: the responder returns on it
    rw [hplaced.decided hinitiator] at hreturns
    refine ⟨fun _ => hinitiator, fun h => absurd h (Option.isSome_iff_ne_none.1 hinitiator),
      hplaced.decided, fun _ h => ?_⟩
    simp only at h
    rw [h] at hreturns
    cases hreturns

/-- Every reachable link has the initiator's decision in its place. -/
theorem decisionPlaced_of_reachable {start : σ} (hdecides : tasks.Decides isDecision decision)
    (hs : (system tasks start).Reachable s) : DecisionPlaced isDecision decision s := by
  refine reachable_induction (motive := DecisionPlaced isDecision decision) ?_ ?_ ?_ ?_ hs
  · exact decisionPlaced_start start
  · intro s side output _ ih _ _
    cases side <;> exact ⟨ih.initiator_first, ih.undecided, ih.decided, ih.in_flight⟩
  · intro s side output _ ih _ _ hreturned
    exact decisionPlaced_completeStep hdecides ih hreturned
  · intro s side message rest _ ih hinbox hreturned
    cases side with
    | initiator => exact decisionPlaced_evaluateStep_initiator hdecides ih hreturned
    | responder => exact decisionPlaced_evaluateStep_responder hdecides ih hinbox hreturned

end Decision

end Duplex
