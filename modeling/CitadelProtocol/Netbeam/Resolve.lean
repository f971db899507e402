import CitadelProtocol.Lib.Duplex

/-! # What netbeam's two-node operations share

`NetSelectOk` and `NetTryJoin` resolve two futures, one on each node, in the same way. Each node
keeps a `LocalState { local_state, ret_value }` behind a mutex, starting from `Pending` and no
value, and runs a completer that awaits the node's future, records its result and sends the
state reporting it: `ObtainedValidResult` for an `Ok`, `Error` for an `Err`. The operations
differ in their state types and in their evaluators.

This module holds the shared part over the state type `S` and what `Duplex`'s settled
invariant says of a node whose evaluator still runs: its local state is the initial one until
its completer has run, and the completer's afterwards, so the value it holds, and the state
it is in, are those of its own future.
-/

namespace CitadelProtocol.Netbeam

open Duplex (Party)

variable {S T E ω : Type*}

/-- The state behind a node's lock. -/
structure LocalState (S T E : Type*) where
  localState : S
  retValue : Option (Except E T)

/-- `LocalState { local_state: pending, ret_value: None }`. -/
def LocalState.initial (pending : S) : LocalState S T E := ⟨pending, none⟩

/-- A node running `resolve`, whose evaluator returns an `ω`. -/
abbrev Node (S T E ω : Type*) := Party (LocalState S T E) (Except E T) ω

/-- Two nodes running `resolve` and the states in flight between them. -/
abbrev Nodes (S T E ω : Type*) := Duplex.Link (LocalState S T E) (Except E T) S ω

section Completer

variable (obtainedValidResult error : S)

/-- The state that reports the future's result. -/
def resultState : Except E T → S
  | .ok _ => obtainedValidResult
  | .error _ => error

/-- The completer: record the future's result and send the state that reports it. -/
def completer (res : Except E T) (localState : LocalState S T E) : LocalState S T E × S :=
  let state := resultState obtainedValidResult error res
  ({ localState with localState := state, retValue := some res }, state)

/-- The local state the completer leaves. -/
def completedState (res : Except E T) : LocalState S T E :=
  ⟨resultState obtainedValidResult error res, some res⟩

@[simp] theorem completer_fst (res : Except E T) (localState : LocalState S T E) :
    (completer obtainedValidResult error res localState).1 =
      completedState obtainedValidResult error res := rfl

@[simp] theorem completer_snd (res : Except E T) (localState : LocalState S T E) :
    (completer obtainedValidResult error res localState).2 =
      resultState obtainedValidResult error res := rfl

end Completer

/-! ## A node whose evaluator still runs -/

section Running

variable {pending obtainedValidResult error : S}
  {node : Party (LocalState S T E) (Except E T) ω}

/-- A running node's state is the initial one, or the one its completer left. -/
theorem state_of_settled
    (hsettled : node.Settled (completedState obtainedValidResult error) (.initial pending))
    (hreturned : node.returned = none) :
    (node.completed = false ∧ node.state = .initial pending) ∨
      ∃ res, node.completed = true ∧ node.future = some res ∧
        node.state = completedState obtainedValidResult error res := by
  have hstate := hsettled.state_eq hreturned
  cases hcompleted : node.completed
  · exact .inl ⟨rfl, by simp [hstate, Party.settledState, hcompleted]⟩
  · obtain ⟨res, hres⟩ := Option.isSome_iff_exists.1 (hsettled.future_of_completed hcompleted)
    exact .inr ⟨res, rfl, hres, by simp [hstate, Party.settledState, hcompleted, hres]⟩

/-- A running node holds a value only once its completer has recorded its future's. -/
theorem future_of_retValue
    (hsettled : node.Settled (completedState obtainedValidResult error) (.initial pending))
    (hreturned : node.returned = none) {res : Except E T}
    (hres : node.state.retValue = some res) :
    node.completed = true ∧ node.future = some res := by
  rcases state_of_settled hsettled hreturned with ⟨-, hstate⟩ | ⟨res', hcompleted, hfuture, hstate⟩
  · simp [hstate, LocalState.initial] at hres
  · simp only [hstate, completedState, Option.some.injEq] at hres
    exact ⟨hcompleted, hres ▸ hfuture⟩

/-- A running node whose completer has run holds its future's result. -/
theorem retValue_of_completed
    (hsettled : node.Settled (completedState obtainedValidResult error) (.initial pending))
    (hreturned : node.returned = none) (hcompleted : node.completed = true) {res : Except E T}
    (hfuture : node.future = some res) : node.state.retValue = some res := by
  rcases state_of_settled hsettled hreturned with ⟨hnot, -⟩ | ⟨res', -, hfuture', hstate⟩
  · simp [hcompleted] at hnot
  · rw [hfuture, Option.some.injEq] at hfuture'
    simp [hstate, completedState, hfuture']

/-- A running node in the success state holds its future's `Ok`. -/
theorem future_of_obtainedValidResult (hpending : obtainedValidResult ≠ pending)
    (herror : obtainedValidResult ≠ error)
    (hsettled : node.Settled (completedState obtainedValidResult error) (.initial pending))
    (hreturned : node.returned = none) (hvalid : node.state.localState = obtainedValidResult) :
    node.completed = true ∧ ∃ x, node.future = some (.ok x) ∧ node.state.retValue = some (.ok x) := by
  rcases state_of_settled hsettled hreturned with ⟨-, hstate⟩ | ⟨res, hcompleted, hfuture, hstate⟩
  · simp [hstate, LocalState.initial] at hvalid
    exact absurd hvalid.symm hpending
  · cases res with
    | ok x => exact ⟨hcompleted, x, hfuture, by simp [hstate, completedState]⟩
    | error e =>
        simp [hstate, completedState, resultState] at hvalid
        exact absurd hvalid.symm herror

/-- A running node in the failure state holds its future's `Err`. -/
theorem future_of_error (hpending : error ≠ pending) (hvalid : error ≠ obtainedValidResult)
    (hsettled : node.Settled (completedState obtainedValidResult error) (.initial pending))
    (hreturned : node.returned = none) (herror : node.state.localState = error) :
    node.completed = true ∧ ∃ e, node.future = some (.error e) ∧
      node.state.retValue = some (.error e) := by
  rcases state_of_settled hsettled hreturned with ⟨-, hstate⟩ | ⟨res, hcompleted, hfuture, hstate⟩
  · simp [hstate, LocalState.initial] at herror
    exact absurd herror.symm hpending
  · cases res with
    | ok x =>
        simp [hstate, completedState, resultState] at herror
        exact absurd herror.symm hvalid
    | error e => exact ⟨hcompleted, e, hfuture, by simp [hstate, completedState]⟩

end Running

/-! ## What a node's states report -/

section Reports

variable (impliesSuccess impliesFailure : S → Bool)

/-- A state a node sent claims no more than the node has: a success once its completer has
recorded an `Ok`, a failure once it has recorded an `Err`. -/
structure Reports (node : Party (LocalState S T E) (Except E T) ω) (m : S) : Prop where
  success : impliesSuccess m = true → node.completed = true ∧ ∃ x, node.future = some (.ok x)
  failure : impliesFailure m = true →
    node.completed = true ∧ ∃ e, node.future = some (.error e)

variable {impliesSuccess impliesFailure} {node node' : Party (LocalState S T E) (Except E T) ω}
  {m : S}

/-- A report stays true as the node moves forward. -/
theorem Reports.mono (hreports : Reports impliesSuccess impliesFailure node m)
    (hfollows : node.Follows node') : Reports impliesSuccess impliesFailure node' m where
  success h := by
    obtain ⟨hcompleted, x, hx⟩ := hreports.success h
    exact ⟨hfollows.completed hcompleted, x, hfollows.future _ hx⟩
  failure h := by
    obtain ⟨hcompleted, e, he⟩ := hreports.failure h
    exact ⟨hfollows.completed hcompleted, e, hfollows.future _ he⟩

/-- The completer's state reports the result it recorded. -/
theorem reports_resultState {obtainedValidResult error : S}
    (hvalid : impliesFailure obtainedValidResult = false) (herror : impliesSuccess error = false)
    {res : Except E T} (hcompleted : node.completed = true) (hfuture : node.future = some res) :
    Reports impliesSuccess impliesFailure node (resultState obtainedValidResult error res) := by
  cases res with
  | ok x =>
      refine ⟨fun _ => ⟨hcompleted, x, hfuture⟩, fun h => ?_⟩
      simp only [resultState, hvalid] at h
      cases h
  | error e =>
      refine ⟨fun h => ?_, fun _ => ⟨hcompleted, e, hfuture⟩⟩
      simp only [resultState, herror] at h
      cases h

/-- A running node's ping reports the value it holds. -/
theorem reports_pinging {pending obtainedValidResult error : S} {pinging : Option Bool → S}
    (hsuccess : ∀ info, impliesSuccess (pinging info) = true → info = some true)
    (hfailure : ∀ info, impliesFailure (pinging info) = true → info = some false)
    (hsettled : node.Settled (completedState obtainedValidResult error) (.initial pending))
    (hreturned : node.returned = none) :
    Reports impliesSuccess impliesFailure node (pinging (node.state.retValue.map Except.isOk)) := by
  constructor
  · intro h
    obtain ⟨res, hres, hok⟩ := Option.map_eq_some_iff.1 (hsuccess _ h)
    obtain ⟨hcompleted, hfuture⟩ := future_of_retValue hsettled hreturned hres
    cases res with
    | ok x => exact ⟨hcompleted, x, hfuture⟩
    | error e => cases hok
  · intro h
    obtain ⟨res, hres, herr⟩ := Option.map_eq_some_iff.1 (hfailure _ h)
    obtain ⟨hcompleted, hfuture⟩ := future_of_retValue hsettled hreturned hres
    cases res with
    | ok x => cases herr
    | error e => exact ⟨hcompleted, e, hfuture⟩

end Reports

/-! ## The invariant of a resolution

Each operation says what the initiator's verdict claims of the two nodes (`Verdict`) and what
the responder's answer to a verdict claims of the responder (`Answer`); the lemmas below show
which steps keep the resulting invariant, so that each operation only analyses the rounds of
its evaluator. -/

section Invariant

variable (impliesSuccess impliesFailure : S → Bool)
  (Verdict : S → ω → Node S T E ω → Node S T E ω → Prop) (Answer : S → ω → Node S T E ω → Prop)

/-- The states in flight towards the initiator are true reports of the responder, and a node
that has returned did so as the initiator's verdict says. -/
structure Inv (s : Nodes S T E ω) : Prop where
  reports : ∀ m ∈ s.toInitiator, Reports impliesSuccess impliesFailure s.responder m
  verdict : ∀ out, s.initiator.returned = some out →
    Verdict s.initiator.state.localState out s.initiator s.responder
  answer : ∀ out, s.responder.returned = some out →
    Answer s.initiator.state.localState out s.responder

/-- A verdict stays true as the two nodes move forward. -/
def VerdictMono : Prop :=
  ∀ verdict out (initiator initiator' responder responder' : Node S T E ω),
    Verdict verdict out initiator responder → initiator.Follows initiator' →
      responder.Follows responder' → Verdict verdict out initiator' responder'

variable {impliesSuccess impliesFailure Verdict Answer} {s t : Nodes S T E ω}
  {tasks : Duplex.Tasks (LocalState S T E) (Except E T) S ω}

theorem inv_start (pending : S) :
    Inv impliesSuccess impliesFailure Verdict Answer (Duplex.Link.start (.initial pending)) where
  reports m hm := by simp [Duplex.Link.start] at hm
  verdict out h := by simp [Duplex.Link.start, Party.start] at h
  answer out h := by simp [Duplex.Link.start, Party.start] at h

section Steps

variable (hmono : VerdictMono Verdict)
  (hinv : Inv impliesSuccess impliesFailure Verdict Answer s)
  (hfirst : s.responder.returned.isSome → s.initiator.returned.isSome)
include hmono hinv hfirst

/-- A step in which no node returns and only true reports join the queue towards the
initiator keeps the invariant. -/
theorem Inv.of_follows
    (hinitiator : s.initiator.Follows t.initiator) (hresponder : s.responder.Follows t.responder)
    (hinitiatorReturned : t.initiator.returned = s.initiator.returned)
    (hresponderReturned : t.responder.returned = s.responder.returned)
    (hreports : ∀ m ∈ t.toInitiator,
      m ∈ s.toInitiator ∨ Reports impliesSuccess impliesFailure t.responder m) :
    Inv impliesSuccess impliesFailure Verdict Answer t where
  reports m hm := (hreports m hm).elim (fun hm => (hinv.reports m hm).mono hresponder) id
  verdict out hout := by
    rw [hinitiatorReturned] at hout
    rw [hinitiator.frozen (by simp [hout])]
    exact hmono _ _ _ _ _ _ (hinv.verdict out hout) (.refl _) hresponder
  answer out hout := by
    rw [hresponderReturned] at hout
    have hreturned : s.responder.returned.isSome := by simp [hout]
    rw [hinitiator.frozen (hfirst hreturned), hresponder.frozen hreturned]
    exact hinv.answer out hout

theorem inv_finishStep {side : Duplex.Side} {output : Except E T}
    (hfuture : (s.party side).future = none) (hreturned : (s.party side).returned = none) :
    Inv impliesSuccess impliesFailure Verdict Answer (Duplex.finishStep s side output) := by
  cases side <;>
  exact hinv.of_follows hmono hfirst (Duplex.follows_finishStep _ hfuture hreturned .initiator)
    (Duplex.follows_finishStep _ hfuture hreturned .responder) rfl rfl fun m hm => .inl hm

/-- A completer that sends the state reporting its result keeps the invariant. -/
theorem inv_completeStep {obtainedValidResult error : S}
    (hcomplete : ∀ res state, (tasks.complete res state).2 = resultState obtainedValidResult error res)
    (hvalid : impliesFailure obtainedValidResult = false) (herror : impliesSuccess error = false)
    {side : Duplex.Side} {output : Except E T} (hfuture : (s.party side).future = some output)
    (hreturned : (s.party side).returned = none) :
    Inv impliesSuccess impliesFailure Verdict Answer (Duplex.completeStep tasks s side output) := by
  have hinitiator : s.initiator.Follows (Duplex.completeStep tasks s side output).initiator :=
    Duplex.follows_completeStep _ hreturned .initiator
  have hresponder : s.responder.Follows (Duplex.completeStep tasks s side output).responder :=
    Duplex.follows_completeStep _ hreturned .responder
  cases side with
  | initiator =>
      exact hinv.of_follows hmono hfirst hinitiator hresponder rfl rfl fun m hm => .inl hm
  | responder =>
      -- the responder's completer reports the result it records
      refine hinv.of_follows hmono hfirst hinitiator hresponder rfl rfl fun m hm => ?_
      change m ∈ s.toInitiator ++ [(tasks.complete output s.responder.state).2] at hm
      rcases List.mem_append.1 hm with hm | hm
      · exact .inl hm
      · rw [List.mem_singleton.1 hm, hcomplete]
        exact .inr (reports_resultState hvalid herror rfl hfuture)

variable {message : S} {rest : List S}

/-- A round of the initiator that goes on keeps the invariant. -/
theorem inv_evaluateStep_initiator_continues (hinbox : s.toInitiator = message :: rest)
    (hreturned : s.initiator.returned = none)
    (hcontinues : (tasks.evaluate .initiator s.initiator.state message).2.2 = none) :
    Inv impliesSuccess impliesFailure Verdict Answer
      (Duplex.evaluateStep tasks s .initiator message rest) := by
  refine hinv.of_follows hmono hfirst (Duplex.follows_evaluateStep .initiator hreturned .initiator)
    (Duplex.follows_evaluateStep .initiator hreturned .responder) ?_ rfl fun m hm => .inl ?_
  · rw [Duplex.evaluateStep_initiator, hcontinues, hreturned]
  · rw [Duplex.evaluateStep_initiator] at hm
    simp [hinbox, hm]

/-- The initiator returning with a verdict that holds keeps the invariant. -/
theorem inv_evaluateStep_initiator_returns (hinbox : s.toInitiator = message :: rest)
    (hreturned : s.initiator.returned = none) (out : ω)
    (hreturns : (tasks.evaluate .initiator s.initiator.state message).2.2 = some out)
    (hverdict : Verdict (tasks.evaluate .initiator s.initiator.state message).1.localState out
      s.initiator s.responder) :
    Inv impliesSuccess impliesFailure Verdict Answer
      (Duplex.evaluateStep tasks s .initiator message rest) := by
  have hresponder : s.responder.returned = none := by
    cases h : s.responder.returned with
    | none => rfl
    | some _ => simpa [hreturned] using hfirst (by simp [h])
  rw [Duplex.evaluateStep_initiator, hreturns]
  refine ⟨fun m hm => hinv.reports m (by simp [hinbox, hm]), fun out' hout' => ?_,
    fun out' hout' => by simp [hresponder] at hout'⟩
  simp only [Option.some.injEq] at hout'
  subst hout'
  exact hmono _ _ _ _ _ _ hverdict (.of_running hreturned rfl id) (.refl _)

/-- A round of the responder that goes on, sending only true reports, keeps the invariant. -/
theorem inv_evaluateStep_responder_continues (hreturned : s.responder.returned = none)
    (hcontinues : (tasks.evaluate .responder s.responder.state message).2.2 = none)
    (hsent : ∀ m ∈ (tasks.evaluate .responder s.responder.state message).2.1,
      Reports impliesSuccess impliesFailure s.responder m) :
    Inv impliesSuccess impliesFailure Verdict Answer
      (Duplex.evaluateStep tasks s .responder message rest) := by
  have hresponder :
      s.responder.Follows (Duplex.evaluateStep tasks s .responder message rest).responder :=
    Duplex.follows_evaluateStep .responder hreturned .responder
  refine hinv.of_follows hmono hfirst (Duplex.follows_evaluateStep .responder hreturned .initiator)
    hresponder rfl ?_ fun m hm => ?_
  · rw [Duplex.evaluateStep_responder, hcontinues, hreturned]
  · rw [Duplex.evaluateStep_responder] at hm
    rcases List.mem_append.1 hm with hm | hm
    · exact .inl hm
    · exact .inr ((hsent m hm).mono hresponder)

end Steps

/-- The responder returning, with nothing sent and an answer that holds, keeps the
invariant. -/
theorem inv_evaluateStep_responder_returns (hmono : VerdictMono Verdict)
    (hinv : Inv impliesSuccess impliesFailure Verdict Answer s) {message : S} {rest : List S}
    (hreturned : s.responder.returned = none) (out : ω)
    (hreturns : (tasks.evaluate .responder s.responder.state message).2.2 = some out)
    (hsent : (tasks.evaluate .responder s.responder.state message).2.1 = [])
    (hanswer : Answer s.initiator.state.localState out
      { s.responder with
        state := (tasks.evaluate .responder s.responder.state message).1
        returned := some out }) :
    Inv impliesSuccess impliesFailure Verdict Answer
      (Duplex.evaluateStep tasks s .responder message rest) := by
  have hresponder : s.responder.Follows
      { s.responder with
        state := (tasks.evaluate .responder s.responder.state message).1
        returned := some out } :=
    .of_running hreturned rfl id
  rw [Duplex.evaluateStep_responder, hreturns, hsent]
  refine ⟨fun m hm => (hinv.reports m (by simpa using hm)).mono hresponder,
    fun out' hout' => hmono _ _ _ _ _ _ (hinv.verdict out' hout') (.refl _) hresponder,
    fun out' hout' => ?_⟩
  simp only [Option.some.injEq] at hout'
  exact hout' ▸ hanswer

/-- A verdict the responder receives is the one the initiator returned with. -/
theorem verdict_of_received {isResolved : S → Bool}
    (hinv : Inv impliesSuccess impliesFailure Verdict Answer s)
    (hplaced : Duplex.DecisionPlaced isResolved LocalState.localState s)
    (hreturned : s.responder.returned = none) {message : S} {rest : List S}
    (hinbox : s.toResponder = message :: rest) (hresolved : isResolved message = true) :
    message = s.initiator.state.localState ∧
      ∃ out, Verdict message out s.initiator s.responder := by
  rcases hplaced.receives hreturned hinbox with hnone | ⟨hinitiator, hmessage⟩
  · rw [hresolved] at hnone
    cases hnone
  · obtain ⟨out, hout⟩ := Option.isSome_iff_exists.1 hinitiator
    exact ⟨hmessage, out, hmessage ▸ hinv.verdict out hout⟩

end Invariant

end CitadelProtocol.Netbeam
