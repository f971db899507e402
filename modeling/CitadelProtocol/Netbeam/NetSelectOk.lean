import CitadelProtocol.Netbeam.Resolve

/-! # NetSelectOk: two nodes agree on one winner

`resolve` runs on two nodes, one of them the initiator, each with its own future. Each node
runs a completer, which records the future's result and reports it to the other node, and an
evaluator, which answers the other node's states. Only the initiator's evaluator decides:
it returns with `ResolvedLocalWon` when its own future succeeded first,
`ResolvedAdjacentWins` when it learnt that the other's did, and `ResolvedBothFail` when both
failed, and sends that verdict; the responder returns on the verdict, in the opposite role.
Otherwise both evaluators answer with `Pinging` and the node's own status.

The model instantiates `Duplex`: the completer and one round of the evaluator are the critical
sections, the futures finish at any time with any result, and the subscription is a reliable
FIFO queue in each direction. `resolve_outcome` says how every run in which both nodes return
ends: exactly one node has the result of an `Ok` future, or both futures failed and both nodes
report a global failure.
-/

namespace CitadelProtocol.Netbeam

open Duplex (Side Party Link Tasks)

namespace NetSelectOk

/-- The states the two nodes exchange. -/
inductive State
  | pending
  | obtainedValidResult
  | resolvedLocalWon
  | resolvedAdjacentWins
  | resolvedBothFail
  | nonPreferredFinished
  | error
  /-- `none` while the sender's future runs, then whether it succeeded -/
  | pinging (info : Option Bool)
  deriving DecidableEq, Repr

namespace State

/-- Read by the receiving node: the sender's future succeeded. -/
def impliesRemoteSuccess : State → Bool
  | obtainedValidResult => true
  | pinging (some true) => true
  | _ => false

/-- Read by the receiving node: the sender's future failed. -/
def impliesRemoteFailure : State → Bool
  | error => true
  | pinging (some false) => true
  | _ => false

/-- The three verdicts of the initiator, on which the responder returns. -/
def isResolved : State → Bool
  | resolvedLocalWon => true
  | resolvedAdjacentWins => true
  | resolvedBothFail => true
  | _ => false

theorem eq_some_true_of_impliesRemoteSuccess {info : Option Bool}
    (h : (pinging info).impliesRemoteSuccess = true) : info = some true := by
  cases info with
  | none => cases h
  | some b => cases b <;> simp_all [impliesRemoteSuccess]

theorem eq_some_false_of_impliesRemoteFailure {info : Option Bool}
    (h : (pinging info).impliesRemoteFailure = true) : info = some false := by
  cases info with
  | none => cases h
  | some b => cases b <;> simp_all [impliesRemoteFailure]

end State

variable {T E : Type*}

/-- What `resolve` returns: the value on the winning node only, and whether the other node's
future succeeded. -/
structure NetSelectOkResult (T : Type*) where
  result : Option T
  otherSideSucceeded : Bool

/-- Both nodes failed. -/
def NetSelectOkResult.globalFailure (r : NetSelectOkResult T) : Bool :=
  r.result.isNone && !r.otherSideSucceeded

/-- What the evaluator returns: the result it took and whether the other side succeeded. -/
abbrev EvaluatorOutput (T E : Type*) := Option (Except E T) × Bool

/-- One round of the evaluator: the new state, the states sent and, if it ends the loop, what
the evaluator returns. -/
abbrev Round (T E : Type*) := LocalState State T E × List State × Option (EvaluatorOutput T E)

/-- The completer, reporting `ObtainedValidResult` or `Error`. -/
def completer : Except E T → LocalState State T E → LocalState State T E × State :=
  Netbeam.completer .obtainedValidResult .error

/-- The evaluator's `return_sequence`: record the verdict, send it, and return the taken
result. -/
def returnSequence (newState : State) (state : LocalState State T E) (adjacentSuccess : Bool) :
    Round T E :=
  ({ state with localState := newState, retValue := none }, [newState],
    some (state.retValue, adjacentSuccess))

/-- One round of the evaluator's loop, holding the lock, on a received state. -/
def evaluator (hasPreference : Bool) (lock : LocalState State T E) (receivedRemoteState : State) :
    Round T E :=
  let localStateInfo := lock.retValue.map Except.isOk
  let adjacentSuccess := receivedRemoteState.impliesRemoteSuccess
  if hasPreference then
    match lock.localState with
    | .obtainedValidResult => returnSequence .resolvedLocalWon lock false
    | .error =>
        if receivedRemoteState.impliesRemoteSuccess then
          returnSequence .resolvedAdjacentWins lock adjacentSuccess
        else if receivedRemoteState.impliesRemoteFailure then
          returnSequence .resolvedBothFail lock false
        else (lock, [.pinging localStateInfo], none)
    | _ =>
        if receivedRemoteState.impliesRemoteSuccess then
          returnSequence .resolvedAdjacentWins lock adjacentSuccess
        else if receivedRemoteState.impliesRemoteFailure then
          (lock, [.pinging localStateInfo], none)
        else (lock, [.pinging localStateInfo], none)
  else
    match receivedRemoteState with
    | .resolvedAdjacentWins =>
        ({ lock with localState := .resolvedLocalWon, retValue := none }, [],
          some (lock.retValue, false))
    | .resolvedLocalWon => ({ lock with localState := .resolvedAdjacentWins }, [], some (none, true))
    | .resolvedBothFail => (lock, [], some (none, false))
    | _ => (lock, [.pinging localStateInfo], none)

/-- The two tasks of `resolve`; the initiator has the preference. -/
def tasks : Tasks (LocalState State T E) (Except E T) State (EvaluatorOutput T E) where
  complete := completer
  evaluate side := evaluator (side == .initiator)

@[simp] theorem tasks_complete : (tasks (T := T) (E := E)).complete = completer := rfl

@[simp] theorem tasks_evaluate_initiator :
    (tasks (T := T) (E := E)).evaluate .initiator = evaluator true := rfl

@[simp] theorem tasks_evaluate_responder :
    (tasks (T := T) (E := E)).evaluate .responder = evaluator false := rfl

/-- Two nodes running `resolve`, from the initial local state. -/
def system : Transition.System (Link (LocalState State T E) (Except E T) State (EvaluatorOutput T E))
    (Duplex.Action (Except E T)) :=
  Duplex.system tasks (.initial .pending)

/-- A node of the system. -/
abbrev Node (T E : Type*) := Netbeam.Node State T E (EvaluatorOutput T E)

/-- The two nodes and the states in flight between them. -/
abbrev Nodes (T E : Type*) := Netbeam.Nodes State T E (EvaluatorOutput T E)

/-- The value on the winning node only. -/
def wrapReturn (result : Option (Except E T)) (didWin otherSideSucceeded : Bool) :
    NetSelectOkResult T where
  result := if didWin then result.bind Except.toOption else none
  otherSideSucceeded := otherSideSucceeded

/-- What `resolve` returns on a node once its evaluator has returned: it reads again whether
the node's local state says it won. -/
def resolveResult (node : Node T E) : Option (NetSelectOkResult T) :=
  node.returned.map fun out => wrapReturn out.1 (node.state.localState == .resolvedLocalWon) out.2

/-! ## One round -/

/-- What a round of the initiator can do: win on its own success, hand the win to the
responder on a reported success, conclude that both failed, or ping. -/
theorem evaluator_initiator_cases (lock : LocalState State T E) (received : State) :
    (lock.localState = .obtainedValidResult ∧
      evaluator true lock received = returnSequence .resolvedLocalWon lock false) ∨
    (lock.localState ≠ .obtainedValidResult ∧ received.impliesRemoteSuccess = true ∧
      evaluator true lock received = returnSequence .resolvedAdjacentWins lock true) ∨
    (lock.localState = .error ∧ received.impliesRemoteFailure = true ∧
      evaluator true lock received = returnSequence .resolvedBothFail lock false) ∨
    evaluator true lock received = (lock, [.pinging (lock.retValue.map Except.isOk)], none) := by
  -- the initiator's own state first: its success wins outright, whatever it received
  cases hstate : lock.localState
  case obtainedValidResult => exact .inl ⟨rfl, by simp [evaluator, hstate]⟩
  case error =>
    cases hsuccess : received.impliesRemoteSuccess
    · cases hfailure : received.impliesRemoteFailure
      · exact .inr (.inr (.inr (by simp [evaluator, hstate, hsuccess, hfailure])))
      · exact .inr (.inr (.inl ⟨rfl, rfl, by simp [evaluator, hstate, hsuccess, hfailure]⟩))
    · exact .inr (.inl ⟨by simp, rfl, by simp [evaluator, hstate, hsuccess]⟩)
  -- any other state: a reported success hands the win over, anything else is answered
  all_goals
    cases hsuccess : received.impliesRemoteSuccess
    · exact .inr (.inr (.inr (by simp [evaluator, hstate, hsuccess])))
    · exact .inr (.inl ⟨by simp, rfl, by simp [evaluator, hstate, hsuccess]⟩)

/-- What a round of the responder can do: return on one of the three verdicts, or ping. -/
theorem evaluator_responder_cases (lock : LocalState State T E) (received : State) :
    (received = .resolvedAdjacentWins ∧ evaluator false lock received =
      ({ lock with localState := .resolvedLocalWon, retValue := none }, [],
        some (lock.retValue, false))) ∨
    (received = .resolvedLocalWon ∧ evaluator false lock received =
      ({ lock with localState := .resolvedAdjacentWins }, [], some (none, true))) ∨
    (received = .resolvedBothFail ∧ evaluator false lock received = (lock, [], some (none, false))) ∨
    (received.isResolved = false ∧
      evaluator false lock received = (lock, [.pinging (lock.retValue.map Except.isOk)], none)) := by
  cases received <;> simp [evaluator, State.isResolved]

/-- The local state the completer leaves. -/
abbrev completedState : Except E T → LocalState State T E :=
  Netbeam.completedState .obtainedValidResult .error

theorem tasks_settles : (tasks (T := T) (E := E)).Settles completedState where
  complete _ _ := rfl
  evaluate side lock received hcontinues := by
    cases side with
    | initiator =>
        rcases evaluator_initiator_cases lock received with
          ⟨-, h⟩ | ⟨-, -, h⟩ | ⟨-, -, h⟩ | h <;>
        simp [h, returnSequence] at hcontinues ⊢
    | responder =>
        rcases evaluator_responder_cases lock received with
          ⟨-, h⟩ | ⟨-, h⟩ | ⟨-, h⟩ | ⟨-, h⟩ <;>
        simp [h] at hcontinues ⊢

theorem tasks_decides :
    (tasks (T := T) (E := E)).Decides State.isResolved LocalState.localState where
  complete res _ := by cases res <;> rfl
  initiator_continues lock received hcontinues := by
    rcases evaluator_initiator_cases lock received with
      ⟨-, h⟩ | ⟨-, -, h⟩ | ⟨-, -, h⟩ | h <;>
    simp [h, returnSequence, State.isResolved] at hcontinues ⊢
  initiator_returns lock received hreturns := by
    rcases evaluator_initiator_cases lock received with
      ⟨-, h⟩ | ⟨-, -, h⟩ | ⟨-, -, h⟩ | h <;>
    simp [h, returnSequence, State.isResolved] at hreturns ⊢
  responder_returns lock received := by
    rw [tasks_evaluate_responder]
    rcases evaluator_responder_cases lock received with
      ⟨rfl, h⟩ | ⟨rfl, h⟩ | ⟨rfl, h⟩ | ⟨hresolved, h⟩ <;>
    rw [h]
    · rfl
    · rfl
    · rfl
    · rw [hresolved]
      rfl

/-! ## The invariant -/

section Invariant

/-- The states of `NetSelectOk` report their sender's future as `Netbeam.Reports` says. -/
abbrev Reports : Node T E → State → Prop :=
  Netbeam.Reports State.impliesRemoteSuccess State.impliesRemoteFailure

/-- A running node's ping reports the value it holds. -/
theorem reports_ping {node : Node T E}
    (hsettled : node.Settled completedState (.initial .pending)) (hreturned : node.returned = none) :
    Reports node (.pinging (node.state.retValue.map Except.isOk)) :=
  reports_pinging (fun _ => State.eq_some_true_of_impliesRemoteSuccess)
    (fun _ => State.eq_some_false_of_impliesRemoteFailure) hsettled hreturned

/-- What the initiator's verdict, returned with `out`, says of the two futures. -/
def Verdict (verdict : State) (out : EvaluatorOutput T E) (initiator responder : Node T E) :
    Prop :=
  match verdict with
  | .resolvedLocalWon => out.2 = false ∧ ∃ x, initiator.future = some (.ok x) ∧ out.1 = some (.ok x)
  | .resolvedAdjacentWins =>
      out.2 = true ∧ responder.completed = true ∧ ∃ x, responder.future = some (.ok x)
  | .resolvedBothFail =>
      out.2 = false ∧ (∃ e, initiator.future = some (.error e)) ∧
        ∃ e, responder.future = some (.error e)
  | _ => False

theorem verdict_mono : VerdictMono (Verdict (T := T) (E := E)) := by
  intro verdict out initiator initiator' responder responder' hverdict hinitiator hresponder
  cases verdict
  case resolvedLocalWon =>
    obtain ⟨hadjacent, x, hx, hout⟩ := hverdict
    exact ⟨hadjacent, x, hinitiator.future _ hx, hout⟩
  case resolvedAdjacentWins =>
    obtain ⟨hadjacent, hcompleted, x, hx⟩ := hverdict
    exact ⟨hadjacent, hresponder.completed hcompleted, x, hresponder.future _ hx⟩
  case resolvedBothFail =>
    obtain ⟨hadjacent, ⟨e, he⟩, e', he'⟩ := hverdict
    exact ⟨hadjacent, ⟨e, hinitiator.future _ he⟩, e', hresponder.future _ he'⟩
  all_goals exact (hverdict : False).elim

/-- What the responder returned on the initiator's verdict. -/
def Answer (verdict : State) (out : EvaluatorOutput T E) (responder : Node T E) : Prop :=
  match verdict with
  | .resolvedLocalWon => responder.state.localState = .resolvedAdjacentWins ∧ out = (none, true)
  | .resolvedAdjacentWins =>
      responder.state.localState = .resolvedLocalWon ∧
        ∃ x, responder.future = some (.ok x) ∧ out = (some (.ok x), false)
  | .resolvedBothFail => out = (none, false)
  | _ => False

/-- The invariant of `NetSelectOk`: true reports towards the initiator, and returns as the
verdict says. -/
abbrev Inv : Nodes T E → Prop :=
  Netbeam.Inv State.impliesRemoteSuccess State.impliesRemoteFailure Verdict Answer

/-- The verdict is in place: `Duplex.DecisionPlaced` for this protocol. -/
abbrev Placed (s : Nodes T E) : Prop :=
  Duplex.DecisionPlaced State.isResolved LocalState.localState s

end Invariant

/-! ## Every step keeps the invariant -/

section Steps

variable {s : Nodes T E} {message : State} {rest : List State}

theorem inv_evaluateStep_initiator (hinv : Inv s) (hplaced : Placed s)
    (hsettled : s.initiator.Settled completedState (.initial .pending))
    (hinbox : s.toInitiator = message :: rest) (hreturned : s.initiator.returned = none) :
    Inv (Duplex.evaluateStep tasks s .initiator message rest) := by
  have hreport := hinv.reports message (by simp [hinbox])
  have hstep : ∀ out : EvaluatorOutput T E,
      (tasks.evaluate .initiator s.initiator.state message).2.2 = some out →
      Verdict (tasks.evaluate .initiator s.initiator.state message).1.localState out s.initiator
        s.responder → Inv (Duplex.evaluateStep tasks s .initiator message rest) :=
    inv_evaluateStep_initiator_returns verdict_mono hinv hplaced.initiator_first hinbox hreturned
  rcases evaluator_initiator_cases s.initiator.state message with
    ⟨hvalid, hround⟩ | ⟨-, hsuccess, hround⟩ | ⟨herror, hfailure, hround⟩ | hround
  · -- the initiator's own success wins
    obtain ⟨-, x, hx, hret⟩ :=
      future_of_obtainedValidResult (by decide) (by decide) hsettled hreturned hvalid
    refine hstep _ (by simp [hround, returnSequence]; rfl) ?_
    simp only [tasks_evaluate_initiator, hround, returnSequence]
    exact ⟨rfl, x, hx, hret⟩
  · -- a reported success of the responder hands it the win
    refine hstep _ (by simp [hround, returnSequence]; rfl) ?_
    simp only [tasks_evaluate_initiator, hround, returnSequence]
    exact ⟨rfl, hreport.success hsuccess⟩
  · -- the initiator failed and the responder reported its failure
    obtain ⟨-, e, he, -⟩ := future_of_error (by decide) (by decide) hsettled hreturned herror
    refine hstep _ (by simp [hround, returnSequence]; rfl) ?_
    simp only [tasks_evaluate_initiator, hround, returnSequence]
    exact ⟨rfl, ⟨e, he⟩, (hreport.failure hfailure).2⟩
  · -- a ping leaves the initiator running
    exact inv_evaluateStep_initiator_continues verdict_mono hinv hplaced.initiator_first hinbox
      hreturned (by simp [hround])

theorem inv_evaluateStep_responder (hinv : Inv s) (hplaced : Placed s)
    (hsettled : s.responder.Settled completedState (.initial .pending))
    (hinbox : s.toResponder = message :: rest) (hreturned : s.responder.returned = none) :
    Inv (Duplex.evaluateStep tasks s .responder message rest) := by
  rcases evaluator_responder_cases s.responder.state message with
    ⟨rfl, hround⟩ | ⟨rfl, hround⟩ | ⟨rfl, hround⟩ | ⟨-, hround⟩
  · -- the responder wins: it holds the `Ok` of which the initiator learnt
    obtain ⟨hmessage, out, -, hcompleted, x, hx⟩ :=
      verdict_of_received hinv hplaced hreturned hinbox rfl
    refine inv_evaluateStep_responder_returns verdict_mono hinv hreturned _
      (by simp [hround]; rfl) (by simp [hround]) ?_
    rw [← hmessage]
    simp only [tasks_evaluate_responder, hround]
    exact ⟨rfl, x, hx, by rw [retValue_of_completed hsettled hreturned hcompleted hx]⟩
  · obtain ⟨hmessage, -⟩ := verdict_of_received hinv hplaced hreturned hinbox rfl
    refine inv_evaluateStep_responder_returns verdict_mono hinv hreturned _
      (by simp [hround]; rfl) (by simp [hround]) ?_
    rw [← hmessage]
    simp only [tasks_evaluate_responder, hround]
    exact ⟨rfl, rfl⟩
  · obtain ⟨hmessage, -⟩ := verdict_of_received hinv hplaced hreturned hinbox rfl
    refine inv_evaluateStep_responder_returns verdict_mono hinv hreturned _
      (by simp [hround]; rfl) (by simp [hround]) ?_
    rw [← hmessage]
    simp only [tasks_evaluate_responder, hround]
    rfl
  · -- a ping reports the responder's value
    refine inv_evaluateStep_responder_continues verdict_mono hinv hplaced.initiator_first
      hreturned (by simp [hround]) fun m hm => ?_
    simp only [tasks_evaluate_responder, hround, List.mem_singleton] at hm
    exact hm ▸ reports_ping hsettled hreturned

/-- Every reachable pair of nodes keeps the invariant. -/
theorem inv_of_reachable (hs : (system (T := T) (E := E)).Reachable s) : Inv s := by
  refine Duplex.reachable_induction (motive := Inv) (inv_start State.pending) ?_ ?_ ?_ hs
  · intro s side output hreach hinv hfuture hreturned
    exact inv_finishStep verdict_mono hinv
      (Duplex.decisionPlaced_of_reachable tasks_decides hreach).initiator_first hfuture hreturned
  · intro s side output hreach hinv hfuture _ hreturned
    exact inv_completeStep verdict_mono hinv
      (Duplex.decisionPlaced_of_reachable tasks_decides hreach).initiator_first
      (fun _ _ => rfl) rfl rfl hfuture hreturned
  · intro s side message rest hreach hinv hinbox hreturned
    have hplaced := Duplex.decisionPlaced_of_reachable tasks_decides hreach
    have hsettled := Duplex.settled_of_reachable tasks_settles hreach side
    cases side with
    | initiator => exact inv_evaluateStep_initiator hinv hplaced hsettled hinbox hreturned
    | responder => exact inv_evaluateStep_responder hinv hplaced hsettled hinbox hreturned

end Steps

/-! ## How a run ends -/

variable {s : Nodes T E} {outI outN : NetSelectOkResult T}

/-- How every run in which both nodes return ends: the initiator wins with its own `Ok` and
the responder learns that the other side succeeded; or the other way round; or both futures
failed, and neither node has a value or a succeeding other side. -/
theorem resolve_outcome (hs : (system (T := T) (E := E)).Reachable s)
    (hI : resolveResult s.initiator = some outI) (hN : resolveResult s.responder = some outN) :
    (∃ x, s.initiator.future = some (.ok x) ∧ outI = ⟨some x, false⟩ ∧ outN = ⟨none, true⟩) ∨
    (∃ x, s.responder.future = some (.ok x) ∧ outI = ⟨none, true⟩ ∧ outN = ⟨some x, false⟩) ∨
    ((∃ e, s.initiator.future = some (.error e)) ∧ (∃ e, s.responder.future = some (.error e)) ∧
      outI = ⟨none, false⟩ ∧ outN = ⟨none, false⟩) := by
  have hinv := inv_of_reachable hs
  obtain ⟨retI, hretI, rfl⟩ := Option.map_eq_some_iff.1 hI
  obtain ⟨retN, hretN, rfl⟩ := Option.map_eq_some_iff.1 hN
  have hverdict := hinv.verdict retI hretI
  have hanswer := hinv.answer retN hretN
  -- the initiator's verdict, which its state records, decides the outcome
  cases hv : s.initiator.state.localState
  all_goals rw [hv] at hverdict hanswer
  case resolvedLocalWon =>
    obtain ⟨hadjacent, x, hx, hret⟩ := hverdict
    obtain ⟨hlost, rfl⟩ := hanswer
    refine .inl ⟨x, hx, ?_, ?_⟩
    · simp [wrapReturn, hret, hadjacent, Except.toOption]
    · simp [wrapReturn, hlost]
  case resolvedAdjacentWins =>
    obtain ⟨hadjacent, -, -⟩ := hverdict
    obtain ⟨hwon, x, hx, rfl⟩ := hanswer
    refine .inr (.inl ⟨x, hx, ?_, ?_⟩)
    · simp [wrapReturn, hadjacent]
    · simp [wrapReturn, hwon, Except.toOption]
  case resolvedBothFail =>
    obtain ⟨hadjacent, hfailedI, hfailedN⟩ := hverdict
    subst hanswer
    refine .inr (.inr ⟨hfailedI, hfailedN, ?_, ?_⟩)
    · simp [wrapReturn, hadjacent]
    · simp [wrapReturn]
  all_goals exact (hverdict : False).elim

/-- Agreement of `NetSelectOk`: when both nodes return, at most one has a value, and it is the
`Ok` of its own future; if a future succeeded, exactly one node has a value and the other
knows that the other side succeeded; if both futures failed, both nodes see a global
failure. -/
theorem one_winner_agreement (hs : (system (T := T) (E := E)).Reachable s)
    (hI : resolveResult s.initiator = some outI) (hN : resolveResult s.responder = some outN) :
    (outI.result = none ∨ outN.result = none) ∧
    (∀ v, outI.result = some v → s.initiator.future = some (.ok v)) ∧
    (∀ v, outN.result = some v → s.responder.future = some (.ok v)) ∧
    ((∃ v, s.initiator.future = some (.ok v)) ∨ (∃ v, s.responder.future = some (.ok v)) →
      (outI.result.isSome ∧ outN.result = none ∧ outN.otherSideSucceeded = true) ∨
      (outN.result.isSome ∧ outI.result = none ∧ outI.otherSideSucceeded = true)) ∧
    ((∃ e, s.initiator.future = some (.error e)) → (∃ e, s.responder.future = some (.error e)) →
      outI.globalFailure = true ∧ outN.globalFailure = true) := by
  rcases resolve_outcome hs hI hN with
    ⟨x, hx, rfl, rfl⟩ | ⟨x, hx, rfl, rfl⟩ | ⟨⟨e, he⟩, ⟨e', he'⟩, rfl, rfl⟩
  · -- the initiator won
    refine ⟨.inr rfl, fun v hv => ?_, fun v hv => by simp at hv, fun _ => .inl ⟨rfl, rfl, rfl⟩,
      fun hfailed _ => ?_⟩
    · simp only [Option.some.injEq] at hv
      exact hv ▸ hx
    · obtain ⟨e, he⟩ := hfailed
      simp [hx] at he
  · -- the responder won
    refine ⟨.inl rfl, fun v hv => by simp at hv, fun v hv => ?_, fun _ => .inr ⟨rfl, rfl, rfl⟩,
      fun _ hfailed => ?_⟩
    · simp only [Option.some.injEq] at hv
      exact hv ▸ hx
    · obtain ⟨e, he⟩ := hfailed
      simp [hx] at he
  · -- both failed: no future succeeded
    refine ⟨.inl rfl, fun v hv => by simp at hv, fun v hv => by simp at hv, fun hok => ?_,
      fun _ _ => ⟨rfl, rfl⟩⟩
    rcases hok with ⟨v, hv⟩ | ⟨v, hv⟩
    · simp [he] at hv
    · simp [he'] at hv

/-- The run in which the initiator's future succeeds with 7 and is reported first: the
responder pings, and the initiator wins. -/
def initiatorWinsRun : List (Duplex.Action (Except Unit Nat)) :=
  [.finish .initiator (.ok 7), .complete .initiator, .evaluate .responder, .evaluate .initiator,
    .evaluate .responder]

/-- Where that run ends. -/
def initiatorWins : Nodes Nat Unit where
  initiator := ⟨⟨.resolvedLocalWon, none⟩, some (.ok 7), true, some (some (.ok 7), false)⟩
  responder := ⟨⟨.resolvedAdjacentWins, none⟩, none, false, some (none, true)⟩
  toInitiator := []
  toResponder := []

theorem run_initiatorWinsRun :
    Transition.run (Duplex.step tasks) (Link.start (.initial .pending)) initiatorWinsRun =
      some initiatorWins := rfl

theorem one_winner_agreement_of_initiatorWins :
    (system (T := Nat) (E := Unit)).Reachable initiatorWins ∧
      resolveResult initiatorWins.initiator = some ⟨some 7, false⟩ ∧
      resolveResult initiatorWins.responder = some ⟨none, true⟩ ∧
      ((⟨some 7, false⟩ : NetSelectOkResult Nat).result = none ∨
          (⟨none, true⟩ : NetSelectOkResult Nat).result = none) ∧
      (∀ v, (⟨some 7, false⟩ : NetSelectOkResult Nat).result = some v →
          initiatorWins.initiator.future = some (.ok v)) ∧
      (∀ v, (⟨none, true⟩ : NetSelectOkResult Nat).result = some v →
          initiatorWins.responder.future = some (.ok v)) ∧
      ((∃ v, initiatorWins.initiator.future = some (.ok v)) ∨
          (∃ v, initiatorWins.responder.future = some (.ok v)) →
        ((⟨some 7, false⟩ : NetSelectOkResult Nat).result.isSome ∧
            (⟨none, true⟩ : NetSelectOkResult Nat).result = none ∧
            (⟨none, true⟩ : NetSelectOkResult Nat).otherSideSucceeded = true) ∨
          ((⟨none, true⟩ : NetSelectOkResult Nat).result.isSome ∧
            (⟨some 7, false⟩ : NetSelectOkResult Nat).result = none ∧
            (⟨some 7, false⟩ : NetSelectOkResult Nat).otherSideSucceeded = true)) ∧
      ((∃ e, initiatorWins.initiator.future = some (.error e)) →
        (∃ e, initiatorWins.responder.future = some (.error e)) →
          (⟨some 7, false⟩ : NetSelectOkResult Nat).globalFailure = true ∧
            (⟨none, true⟩ : NetSelectOkResult Nat).globalFailure = true) := by
  have hs : (system (T := Nat) (E := Unit)).Reachable initiatorWins :=
    Transition.run_reachable (.init rfl) run_initiatorWinsRun
  exact ⟨hs, rfl, rfl, one_winner_agreement hs rfl rfl⟩

end NetSelectOk

end CitadelProtocol.Netbeam
