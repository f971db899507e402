import CitadelProtocol.Netbeam.Resolve

/-! # NetTryJoin: two nodes agree whether both futures succeeded

`resolve` runs on two nodes, one of them the initiator, each with its own future, as for
`NetSelectOk`. Only the initiator's evaluator decides: it returns with `ResolvedBothFail` as
soon as its own state or a received state reports a failure, and with `Resolved` once both
report a success, and sends that verdict; the responder returns on the verdict. Otherwise both
evaluators answer with `Pinging` and the node's own status. Each node returns the value its
future produced, if its completer recorded one.

`resolve_outcome` says how every run in which both nodes return ends: both futures succeeded,
both nodes are `Resolved` and return their `Ok` values; or the initiator concluded
`ResolvedBothFail`, the responder is not `Resolved`, and a node whose completer recorded an
`Err` returns it.
-/

namespace CitadelProtocol.Netbeam

open Duplex (Side Party Link Tasks)

namespace NetTryJoin

/-- The states the two nodes exchange. -/
inductive State
  | pending
  | obtainedValidResult
  | resolved
  | resolvedBothFail
  | nonPreferredFinished
  | error
  /-- `none` while the sender's future runs, then whether it succeeded -/
  | pinging (info : Option Bool)
  deriving DecidableEq, Repr

namespace State

/-- Read by the receiving node: the sender's future succeeded. -/
def impliesSuccess : State → Bool
  | obtainedValidResult => true
  | pinging (some true) => true
  | _ => false

/-- Read by the receiving node: the sender's future failed. -/
def impliesFailure : State → Bool
  | error => true
  | pinging (some false) => true
  | _ => false

/-- The two verdicts of the initiator, on which the responder returns. -/
def isResolved : State → Bool
  | resolved => true
  | resolvedBothFail => true
  | _ => false

theorem eq_some_true_of_impliesSuccess {info : Option Bool}
    (h : (pinging info).impliesSuccess = true) : info = some true := by
  cases info with
  | none => cases h
  | some b => cases b <;> simp_all [impliesSuccess]

theorem eq_some_false_of_impliesFailure {info : Option Bool}
    (h : (pinging info).impliesFailure = true) : info = some false := by
  cases info with
  | none => cases h
  | some b => cases b <;> simp_all [impliesFailure]

end State

variable {T E : Type*}

/-- What `resolve` returns: the node's own value, if it has one. -/
structure NetTryJoinResult (T E : Type*) where
  value : Option (Except E T)

/-- One round of the evaluator: the new state, the states sent and, if it ends the loop, the
value the evaluator returns. -/
abbrev Round (T E : Type*) := LocalState State T E × List State × Option (Option (Except E T))

/-- The completer, reporting `ObtainedValidResult` or `Error`. -/
def completer : Except E T → LocalState State T E → LocalState State T E × State :=
  Netbeam.completer .obtainedValidResult .error

/-- The evaluator's `return_sequence`: record the verdict, send it, and return the taken
value. -/
def returnSequence (newState : State) (state : LocalState State T E) : Round T E :=
  ({ state with localState := newState, retValue := none }, [newState], some state.retValue)

/-- One round of the evaluator's loop, holding the lock, on a received state. -/
def evaluator (hasPreference : Bool) (lock : LocalState State T E) (receivedRemoteState : State) :
    Round T E :=
  let localStateInfo := lock.retValue.map Except.isOk
  if hasPreference then
    if receivedRemoteState.impliesFailure || lock.localState.impliesFailure then
      returnSequence .resolvedBothFail lock
    else if receivedRemoteState.impliesSuccess && lock.localState.impliesSuccess then
      returnSequence .resolved lock
    else (lock, [.pinging localStateInfo], none)
  else
    match receivedRemoteState with
    | .resolved => ({ lock with localState := .resolved, retValue := none }, [], some lock.retValue)
    | .resolvedBothFail => ({ lock with retValue := none }, [], some lock.retValue)
    | _ => (lock, [.pinging localStateInfo], none)

/-- The two tasks of `resolve`; the initiator has the preference. -/
def tasks : Tasks (LocalState State T E) (Except E T) State (Option (Except E T)) where
  complete := completer
  evaluate side := evaluator (side == .initiator)

@[simp] theorem tasks_complete : (tasks (T := T) (E := E)).complete = completer := rfl

@[simp] theorem tasks_evaluate_initiator :
    (tasks (T := T) (E := E)).evaluate .initiator = evaluator true := rfl

@[simp] theorem tasks_evaluate_responder :
    (tasks (T := T) (E := E)).evaluate .responder = evaluator false := rfl

/-- Two nodes running `resolve`, from the initial local state. -/
def system : Transition.System (Link (LocalState State T E) (Except E T) State (Option (Except E T)))
    (Duplex.Action (Except E T)) :=
  Duplex.system tasks (.initial .pending)

/-- A node of the system. -/
abbrev Node (T E : Type*) := Netbeam.Node State T E (Option (Except E T))

/-- The two nodes and the states in flight between them. -/
abbrev Nodes (T E : Type*) := Netbeam.Nodes State T E (Option (Except E T))

/-- `NetTryJoinResult { value }`. -/
def wrapReturn (value : Option (Except E T)) : NetTryJoinResult T E := ⟨value⟩

/-- What `resolve` returns on a node once its evaluator has returned. -/
def resolveResult (node : Node T E) : Option (NetTryJoinResult T E) :=
  node.returned.map wrapReturn

/-! ## One round -/

/-- What a round of the initiator can do: conclude that both failed on any reported failure,
resolve on two reported successes, or ping. -/
theorem evaluator_initiator_cases (lock : LocalState State T E) (received : State) :
    ((received.impliesFailure = true ∨ lock.localState.impliesFailure = true) ∧
      evaluator true lock received = returnSequence .resolvedBothFail lock) ∨
    (received.impliesSuccess = true ∧ lock.localState.impliesSuccess = true ∧
      evaluator true lock received = returnSequence .resolved lock) ∨
    evaluator true lock received = (lock, [.pinging (lock.retValue.map Except.isOk)], none) := by
  by_cases hfailure : received.impliesFailure = true ∨ lock.localState.impliesFailure = true
  · refine .inl ⟨hfailure, ?_⟩
    simp [evaluator, hfailure]
  · have hnone : (received.impliesFailure || lock.localState.impliesFailure) = false := by
      simpa using hfailure
    by_cases hsuccess : received.impliesSuccess = true ∧ lock.localState.impliesSuccess = true
    · exact .inr (.inl ⟨hsuccess.1, hsuccess.2, by simp [evaluator, hnone, hsuccess]⟩)
    · have hnot : (received.impliesSuccess && lock.localState.impliesSuccess) = false := by
        simpa using hsuccess
      exact .inr (.inr (by simp [evaluator, hnone, hnot]))

/-- What a round of the responder can do: return on one of the two verdicts, or ping. -/
theorem evaluator_responder_cases (lock : LocalState State T E) (received : State) :
    (received = .resolved ∧ evaluator false lock received =
      ({ lock with localState := .resolved, retValue := none }, [], some lock.retValue)) ∨
    (received = .resolvedBothFail ∧ evaluator false lock received =
      ({ lock with retValue := none }, [], some lock.retValue)) ∨
    (received.isResolved = false ∧
      evaluator false lock received = (lock, [.pinging (lock.retValue.map Except.isOk)], none)) := by
  cases received <;> simp [evaluator, State.isResolved]

/-- The local state the completer leaves. -/
abbrev completedState : Except E T → LocalState State T E :=
  Netbeam.completedState .obtainedValidResult .error

theorem tasks_settles : (tasks (T := T) (E := E)).Settles completedState where
  complete _ _ := rfl
  evaluate side lock received hcontinues := by
    cases side with
    | initiator =>
        rcases evaluator_initiator_cases lock received with ⟨-, h⟩ | ⟨-, -, h⟩ | h <;>
        simp [h, returnSequence] at hcontinues ⊢
    | responder =>
        rcases evaluator_responder_cases lock received with ⟨-, h⟩ | ⟨-, h⟩ | ⟨-, h⟩ <;>
        simp [h] at hcontinues ⊢

theorem tasks_decides :
    (tasks (T := T) (E := E)).Decides State.isResolved LocalState.localState where
  complete res _ := by cases res <;> rfl
  initiator_continues lock received hcontinues := by
    rcases evaluator_initiator_cases lock received with ⟨-, h⟩ | ⟨-, -, h⟩ | h <;>
    simp [h, returnSequence, State.isResolved] at hcontinues ⊢
  initiator_returns lock received hreturns := by
    rcases evaluator_initiator_cases lock received with ⟨-, h⟩ | ⟨-, -, h⟩ | h <;>
    simp [h, returnSequence, State.isResolved] at hreturns ⊢
  responder_returns lock received := by
    rw [tasks_evaluate_responder]
    rcases evaluator_responder_cases lock received with
      ⟨rfl, h⟩ | ⟨rfl, h⟩ | ⟨hresolved, h⟩ <;>
    rw [h]
    · rfl
    · rfl
    · rw [hresolved]
      rfl

/-! ## The invariant -/

section Invariant

/-- The states of `NetTryJoin` report their sender's future as `Netbeam.Reports` says. -/
abbrev Reports : Node T E → State → Prop :=
  Netbeam.Reports State.impliesSuccess State.impliesFailure

/-- A running node's ping reports the value it holds. -/
theorem reports_ping {node : Node T E}
    (hsettled : node.Settled completedState (.initial .pending)) (hreturned : node.returned = none) :
    Reports node (.pinging (node.state.retValue.map Except.isOk)) :=
  reports_pinging (fun _ => State.eq_some_true_of_impliesSuccess)
    (fun _ => State.eq_some_false_of_impliesFailure) hsettled hreturned

/-- What the initiator's verdict, returned with the value `ret`, says of the two futures:
`Resolved` that both succeeded, `ResolvedBothFail` that a completer recorded a failure. -/
def Verdict (verdict : State) (ret : Option (Except E T)) (initiator responder : Node T E) :
    Prop :=
  match verdict with
  | .resolved =>
      (∃ x, initiator.future = some (.ok x) ∧ ret = some (.ok x)) ∧
        responder.completed = true ∧ ∃ x, responder.future = some (.ok x)
  | .resolvedBothFail =>
      (initiator.completed = true ∧ ∃ e, initiator.future = some (.error e) ∧ ret = some (.error e)) ∨
        (responder.completed = true ∧ ∃ e, responder.future = some (.error e))
  | _ => False

theorem verdict_mono : VerdictMono (Verdict (T := T) (E := E)) := by
  intro verdict ret initiator initiator' responder responder' hverdict hinitiator hresponder
  cases verdict
  case resolved =>
    obtain ⟨⟨x, hx, hret⟩, hcompleted, y, hy⟩ := hverdict
    exact ⟨⟨x, hinitiator.future _ hx, hret⟩, hresponder.completed hcompleted, y,
      hresponder.future _ hy⟩
  case resolvedBothFail =>
    rcases hverdict with ⟨hcompleted, e, he, hret⟩ | ⟨hcompleted, e, he⟩
    · exact .inl ⟨hinitiator.completed hcompleted, e, hinitiator.future _ he, hret⟩
    · exact .inr ⟨hresponder.completed hcompleted, e, hresponder.future _ he⟩
  all_goals exact (hverdict : False).elim

/-- What the responder returned on the initiator's verdict: its own value in either case,
and the `Resolved` state only on `Resolved`. -/
def Answer (verdict : State) (ret : Option (Except E T)) (responder : Node T E) : Prop :=
  match verdict with
  | .resolved =>
      responder.state.localState = .resolved ∧ ∃ x, responder.future = some (.ok x) ∧ ret = some (.ok x)
  | .resolvedBothFail =>
      responder.state.localState ≠ .resolved ∧ (responder.completed = true → ret = responder.future)
  | _ => False

/-- The invariant of `NetTryJoin`: true reports towards the initiator, and returns as the
verdict says. -/
abbrev Inv : Nodes T E → Prop :=
  Netbeam.Inv State.impliesSuccess State.impliesFailure Verdict Answer

/-- The verdict is in place: `Duplex.DecisionPlaced` for this protocol. -/
abbrev Placed (s : Nodes T E) : Prop :=
  Duplex.DecisionPlaced State.isResolved LocalState.localState s

end Invariant

/-! ## Every step keeps the invariant -/

section Steps

variable {s : Nodes T E} {message : State} {rest : List State}

/-- A running node is not `Resolved`: its state is the initial one or the completer's. -/
theorem localState_ne_resolved {node : Node T E}
    (hsettled : node.Settled completedState (.initial .pending)) (hreturned : node.returned = none) :
    node.state.localState ≠ .resolved := by
  rcases state_of_settled hsettled hreturned with ⟨-, hstate⟩ | ⟨res, -, -, hstate⟩
  · simp [hstate, LocalState.initial]
  · cases res <;> simp [hstate, Netbeam.completedState, resultState]

/-- A running node that reports success is in `ObtainedValidResult`, hence holds an `Ok`. -/
theorem future_of_impliesSuccess {node : Node T E}
    (hsettled : node.Settled completedState (.initial .pending)) (hreturned : node.returned = none)
    (hsuccess : node.state.localState.impliesSuccess = true) :
    ∃ x, node.future = some (.ok x) ∧ node.state.retValue = some (.ok x) := by
  have hvalid : node.state.localState = .obtainedValidResult := by
    rcases state_of_settled hsettled hreturned with ⟨-, hstate⟩ | ⟨res, -, -, hstate⟩
    · simp [hstate, LocalState.initial, State.impliesSuccess] at hsuccess
    · cases res <;> simp_all [Netbeam.completedState, resultState, State.impliesSuccess]
  exact (future_of_obtainedValidResult (by decide) (by decide) hsettled hreturned hvalid).2

/-- A running node that reports failure is in `Error`, hence holds an `Err`. -/
theorem future_of_impliesFailure {node : Node T E}
    (hsettled : node.Settled completedState (.initial .pending)) (hreturned : node.returned = none)
    (hfailure : node.state.localState.impliesFailure = true) :
    node.completed = true ∧ ∃ e, node.future = some (.error e) ∧
      node.state.retValue = some (.error e) := by
  have herror : node.state.localState = .error := by
    rcases state_of_settled hsettled hreturned with ⟨-, hstate⟩ | ⟨res, -, -, hstate⟩
    · simp [hstate, LocalState.initial, State.impliesFailure] at hfailure
    · cases res <;> simp_all [Netbeam.completedState, resultState, State.impliesFailure]
  exact future_of_error (by decide) (by decide) hsettled hreturned herror

theorem inv_evaluateStep_initiator (hinv : Inv s) (hplaced : Placed s)
    (hsettled : s.initiator.Settled completedState (.initial .pending))
    (hinbox : s.toInitiator = message :: rest) (hreturned : s.initiator.returned = none) :
    Inv (Duplex.evaluateStep tasks s .initiator message rest) := by
  have hreport := hinv.reports message (by simp [hinbox])
  have hstep : ∀ ret : Option (Except E T),
      (tasks.evaluate .initiator s.initiator.state message).2.2 = some ret →
      Verdict (tasks.evaluate .initiator s.initiator.state message).1.localState ret s.initiator
        s.responder → Inv (Duplex.evaluateStep tasks s .initiator message rest) :=
    inv_evaluateStep_initiator_returns verdict_mono hinv hplaced.initiator_first hinbox hreturned
  rcases evaluator_initiator_cases s.initiator.state message with
    ⟨hfailure, hround⟩ | ⟨hsuccess, hlocal, hround⟩ | hround
  · -- a failure, reported by the responder or recorded here, ends the join
    refine hstep _ (by simp [hround, returnSequence]; rfl) ?_
    simp only [tasks_evaluate_initiator, hround, returnSequence]
    rcases hfailure with hremote | hlocal
    · exact .inr (hreport.failure hremote)
    · obtain ⟨hcompleted, e, he, hret⟩ := future_of_impliesFailure hsettled hreturned hlocal
      exact .inl ⟨hcompleted, e, he, hret⟩
  · -- both successes are known: the join is resolved
    obtain ⟨x, hx, hret⟩ := future_of_impliesSuccess hsettled hreturned hlocal
    refine hstep _ (by simp [hround, returnSequence]; rfl) ?_
    simp only [tasks_evaluate_initiator, hround, returnSequence]
    exact ⟨⟨x, hx, hret⟩, hreport.success hsuccess⟩
  · -- a ping leaves the initiator running
    exact inv_evaluateStep_initiator_continues verdict_mono hinv hplaced.initiator_first hinbox
      hreturned (by simp [hround])

theorem inv_evaluateStep_responder (hinv : Inv s) (hplaced : Placed s)
    (hsettled : s.responder.Settled completedState (.initial .pending))
    (hinbox : s.toResponder = message :: rest) (hreturned : s.responder.returned = none) :
    Inv (Duplex.evaluateStep tasks s .responder message rest) := by
  rcases evaluator_responder_cases s.responder.state message with
    ⟨rfl, hround⟩ | ⟨rfl, hround⟩ | ⟨-, hround⟩
  · -- resolved: the responder holds the `Ok` of which the initiator learnt
    obtain ⟨hmessage, ret, -, hcompleted, x, hx⟩ :=
      verdict_of_received hinv hplaced hreturned hinbox rfl
    refine inv_evaluateStep_responder_returns verdict_mono hinv hreturned _
      (by simp [hround]; rfl) (by simp [hround]) ?_
    rw [← hmessage]
    simp only [tasks_evaluate_responder, hround]
    exact ⟨rfl, x, hx, retValue_of_completed hsettled hreturned hcompleted hx⟩
  · -- both failed: the responder returns what it holds, and stays unresolved
    obtain ⟨hmessage, -⟩ := verdict_of_received hinv hplaced hreturned hinbox rfl
    refine inv_evaluateStep_responder_returns verdict_mono hinv hreturned _
      (by simp [hround]; rfl) (by simp [hround]) ?_
    rw [← hmessage]
    simp only [tasks_evaluate_responder, hround]
    have hunresolved := localState_ne_resolved hsettled hreturned
    refine ⟨hunresolved, fun hcompleted => ?_⟩
    obtain ⟨res, hres⟩ :=
      Option.isSome_iff_exists.1 (hsettled.future_of_completed hcompleted)
    rw [hres, retValue_of_completed hsettled hreturned hcompleted hres]
  · -- a ping reports the responder's value
    refine inv_evaluateStep_responder_continues verdict_mono hinv hplaced.initiator_first
      hreturned (by simp [hround]) fun m hm => ?_
    simp only [tasks_evaluate_responder, hround, List.mem_singleton] at hm
    exact hm ▸ reports_ping hsettled hreturned

/-- Every reachable pair of nodes keeps the invariant. -/
theorem inv_of_reachable (hs : (system (T := T) (E := E)).Reachable s) : Inv s := by
  refine Duplex.reachable_induction (motive := Inv) (inv_start State.pending) ?_ ?_ ?_ hs
  · intro s side output hreach hinv hfuture hreturned
    exact inv_finishStep verdict_mono hinv
      (Duplex.decisionPlaced_of_reachable tasks_decides hreach).initiator_first hfuture hreturned
  · intro s side output hreach hinv hfuture _ hreturned
    exact inv_completeStep verdict_mono hinv
      (Duplex.decisionPlaced_of_reachable tasks_decides hreach).initiator_first
      (fun _ _ => rfl) rfl rfl hfuture hreturned
  · intro s side message rest hreach hinv hinbox hreturned
    have hplaced := Duplex.decisionPlaced_of_reachable tasks_decides hreach
    have hsettled := Duplex.settled_of_reachable tasks_settles hreach side
    cases side with
    | initiator => exact inv_evaluateStep_initiator hinv hplaced hsettled hinbox hreturned
    | responder => exact inv_evaluateStep_responder hinv hplaced hsettled hinbox hreturned

end Steps

/-! ## How a run ends -/

variable {s : Nodes T E} {outI outN : NetTryJoinResult T E}

/-- How every run in which both nodes return ends: both futures succeeded, both nodes are
`Resolved` and return their `Ok` values; or the initiator concluded `ResolvedBothFail`, the
responder is not `Resolved`, and a node whose completer recorded an `Err` returns it. -/
theorem resolve_outcome (hs : (system (T := T) (E := E)).Reachable s)
    (hI : resolveResult s.initiator = some outI) (hN : resolveResult s.responder = some outN) :
    (s.initiator.state.localState = .resolved ∧ s.responder.state.localState = .resolved ∧
      ∃ x y, s.initiator.future = some (.ok x) ∧ s.responder.future = some (.ok y) ∧
        outI.value = some (.ok x) ∧ outN.value = some (.ok y)) ∨
    (s.initiator.state.localState = .resolvedBothFail ∧
      s.responder.state.localState ≠ .resolved ∧
      ((s.initiator.completed = true ∧
          ∃ e, s.initiator.future = some (.error e) ∧ outI.value = some (.error e)) ∨
        (s.responder.completed = true ∧
          ∃ e, s.responder.future = some (.error e) ∧ outN.value = some (.error e)))) := by
  have hinv := inv_of_reachable hs
  obtain ⟨retI, hretI, rfl⟩ := Option.map_eq_some_iff.1 hI
  obtain ⟨retN, hretN, rfl⟩ := Option.map_eq_some_iff.1 hN
  have hverdict := hinv.verdict retI hretI
  have hanswer := hinv.answer retN hretN
  -- the initiator's verdict, which its state records, decides the outcome
  cases hv : s.initiator.state.localState
  all_goals rw [hv] at hverdict hanswer
  case resolved =>
    obtain ⟨⟨x, hx, hretx⟩, -, -⟩ := hverdict
    obtain ⟨hresolved, y, hy, hrety⟩ := hanswer
    exact .inl ⟨rfl, hresolved, x, y, hx, hy, hretx, hrety⟩
  case resolvedBothFail =>
    obtain ⟨hunresolved, hown⟩ := hanswer
    refine .inr ⟨rfl, hunresolved, ?_⟩
    rcases hverdict with ⟨hcompleted, e, he, hret⟩ | ⟨hcompleted, e, he⟩
    · exact .inl ⟨hcompleted, e, he, hret⟩
    · exact .inr ⟨hcompleted, e, he, (hown hcompleted).trans he⟩
  all_goals exact (hverdict : False).elim

/-- Agreement of `NetTryJoin`: when both nodes return, the initiator is `Resolved` exactly when
both futures succeeded, and then both nodes return their `Ok` values; if a future failed, the
initiator concluded `ResolvedBothFail` and a node returns no value or an `Err`; and the two
nodes reach the same verdict. -/
theorem join_verdict_agreement (hs : (system (T := T) (E := E)).Reachable s)
    (hI : resolveResult s.initiator = some outI) (hN : resolveResult s.responder = some outN) :
    (s.initiator.state.localState = .resolved ↔
      (∃ x, s.initiator.future = some (.ok x)) ∧ ∃ x, s.responder.future = some (.ok x)) ∧
    (s.initiator.state.localState = .resolved →
      (∃ x, outI.value = some (.ok x)) ∧ ∃ x, outN.value = some (.ok x)) ∧
    ((∃ e, s.initiator.future = some (.error e)) ∨ (∃ e, s.responder.future = some (.error e)) →
      s.initiator.state.localState = .resolvedBothFail ∧
        ((outI.value = none ∨ ∃ e, outI.value = some (.error e)) ∨
          (outN.value = none ∨ ∃ e, outN.value = some (.error e)))) ∧
    (s.responder.state.localState = .resolved ↔ s.initiator.state.localState = .resolved) ∧
    (s.initiator.state.localState = .resolved ∨
      s.initiator.state.localState = .resolvedBothFail) := by
  rcases resolve_outcome hs hI hN with
    ⟨hIresolved, hNresolved, x, y, hx, hy, hretx, hrety⟩ |
    ⟨hIfailed, hNunresolved, hfailed⟩
  · -- both succeeded: no future failed
    refine ⟨⟨fun _ => ⟨⟨x, hx⟩, y, hy⟩, fun _ => hIresolved⟩, fun _ => ⟨⟨x, hretx⟩, y, hrety⟩,
      fun herror => ?_, ⟨fun _ => hIresolved, fun _ => hNresolved⟩, .inl hIresolved⟩
    rcases herror with ⟨e, he⟩ | ⟨e, he⟩
    · simp [hx] at he
    · simp [hy] at he
  · -- both failed as far as the initiator knows: a completer recorded an `Err`
    have hIunresolved : s.initiator.state.localState ≠ .resolved := by simp [hIfailed]
    refine ⟨⟨fun h => absurd h hIunresolved, fun ⟨⟨x, hx⟩, y, hy⟩ => ?_⟩,
      fun h => absurd h hIunresolved, fun _ => ⟨hIfailed, ?_⟩,
      ⟨fun h => absurd h hNunresolved, fun h => absurd h hIunresolved⟩, .inr hIfailed⟩
    · rcases hfailed with ⟨-, e, he, -⟩ | ⟨-, e, he, -⟩
      · simp [hx] at he
      · simp [hy] at he
    · rcases hfailed with ⟨-, e, -, hret⟩ | ⟨-, e, -, hret⟩
      · exact .inl (.inr ⟨e, hret⟩)
      · exact .inr (.inr ⟨e, hret⟩)

/-- The run in which both futures succeed, with 1 and 2, and both completers report before the
initiator's evaluator runs: the initiator resolves, the responder pings once and then
resolves. -/
def bothSucceedRun : List (Duplex.Action (Except Unit Nat)) :=
  [.finish .initiator (.ok 1), .complete .initiator, .finish .responder (.ok 2),
    .complete .responder, .evaluate .initiator, .evaluate .responder, .evaluate .responder]

/-- Where that run ends. -/
def bothSucceed : Nodes Nat Unit where
  initiator := ⟨⟨.resolved, none⟩, some (.ok 1), true, some (some (.ok 1))⟩
  responder := ⟨⟨.resolved, none⟩, some (.ok 2), true, some (some (.ok 2))⟩
  toInitiator := [.pinging (some true)]
  toResponder := []

theorem run_bothSucceedRun :
    Transition.run (Duplex.step tasks) (Link.start (.initial .pending)) bothSucceedRun =
      some bothSucceed := rfl

theorem join_verdict_agreement_of_bothSucceed :
    (system (T := Nat) (E := Unit)).Reachable bothSucceed ∧
      resolveResult bothSucceed.initiator = some ⟨some (.ok 1)⟩ ∧
      resolveResult bothSucceed.responder = some ⟨some (.ok 2)⟩ ∧
      (bothSucceed.initiator.state.localState = .resolved ↔
        (∃ x, bothSucceed.initiator.future = some (.ok x)) ∧
          ∃ x, bothSucceed.responder.future = some (.ok x)) ∧
      (bothSucceed.initiator.state.localState = .resolved →
        (∃ x, (⟨some (.ok 1)⟩ : NetTryJoinResult Nat Unit).value = some (.ok x)) ∧
          ∃ x, (⟨some (.ok 2)⟩ : NetTryJoinResult Nat Unit).value = some (.ok x)) ∧
      ((∃ e, bothSucceed.initiator.future = some (.error e)) ∨
          (∃ e, bothSucceed.responder.future = some (.error e)) →
        bothSucceed.initiator.state.localState = .resolvedBothFail ∧
          (((⟨some (.ok 1)⟩ : NetTryJoinResult Nat Unit).value = none ∨
              ∃ e, (⟨some (.ok 1)⟩ : NetTryJoinResult Nat Unit).value = some (.error e)) ∨
            ((⟨some (.ok 2)⟩ : NetTryJoinResult Nat Unit).value = none ∨
              ∃ e, (⟨some (.ok 2)⟩ : NetTryJoinResult Nat Unit).value = some (.error e)))) ∧
      (bothSucceed.responder.state.localState = .resolved ↔
        bothSucceed.initiator.state.localState = .resolved) ∧
      (bothSucceed.initiator.state.localState = .resolved ∨
        bothSucceed.initiator.state.localState = .resolvedBothFail) := by
  have hs : (system (T := Nat) (E := Unit)).Reachable bothSucceed :=
    Transition.run_reachable (.init rfl) run_bothSucceedRun
  exact ⟨hs, rfl, rfl, join_verdict_agreement hs rfl rfl⟩

end NetTryJoin

end CitadelProtocol.Netbeam
