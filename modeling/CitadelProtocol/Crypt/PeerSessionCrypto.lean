import CitadelProtocol.Crypt.Toolset

/-! # The crypto state of one end of a session

`PeerSessionCrypto` keeps an endpoint's toolset together with the counters and flags the
protocol reads around it: the rolling object and group ids that name what the endpoint sends,
the lock that keeps two rekeys from overlapping, and `latest_usable_version`, the version the
endpoint encrypts with.

Every group id the session hands out, to a message or to a file's groups, comes from the one
counter `rolling_group_id`; `get_and_increment_group_id` returns its value and bumps it, with
wrapping arithmetic.

A rekey goes through the functions of the second half: `get_next_constructor` takes the lock and
starts Alice's side, `update_sync_safe` commits the next ratchet (or, at a locked initiator,
omits the update), `maybe_unlock` releases the lock, and `post_alice_stage1_or_post_stage1_bob`
advances `latest_usable_version` by one, whatever the toolset holds.
-/

namespace CitadelProtocol.Crypt

/-- `PeerSessionCrypto`. `update_in_progress` is an atomic flag in the source; every access
modelled here holds the session's state lock, so it is a plain field. -/
structure PeerSessionCrypto (R : Type*) where
  toolset : Toolset R
  updateInProgress : Bool
  localIsInitiator : Bool
  rollingObjectId : UInt32
  rollingGroupId : UInt64
  lockSetByAlice : Option Bool
  latestUsableVersion : UInt32

namespace PeerSessionCrypto

variable {R : Type*}

/-- `PeerSessionCrypto::new`: no lock, object ids from 1, group ids from 0. -/
def new (toolset : Toolset R) (localIsInitiator : Bool) : PeerSessionCrypto R where
  toolset := toolset
  updateInProgress := false
  localIsInitiator := localIsInitiator
  rollingObjectId := 1
  rollingGroupId := 0
  lockSetByAlice := none
  latestUsableVersion := 0

/-- `get_hyper_ratchet`: the given version, or else the latest usable one. -/
def getHyperRatchet (c : PeerSessionCrypto R) (version : Option UInt32) : Option R :=
  c.toolset.getHyperRatchet (version.getD c.latestUsableVersion)

/-- `get_and_increment_group_id`. -/
def getAndIncrementGroupId (c : PeerSessionCrypto R) : PeerSessionCrypto R × UInt64 :=
  let c := { c with rollingGroupId := c.rollingGroupId + 1 }
  (c, c.rollingGroupId - 1)

/-- `get_and_increment_object_id`. -/
def getAndIncrementObjectId (c : PeerSessionCrypto R) : PeerSessionCrypto R × UInt32 :=
  let c := { c with rollingObjectId := c.rollingObjectId + 1 }
  (c, c.rollingObjectId - 1)

/-- Both counters hand out the value they held. -/
@[simp] theorem getAndIncrementGroupId_eq (c : PeerSessionCrypto R) :
    c.getAndIncrementGroupId =
      ({ c with rollingGroupId := c.rollingGroupId + 1 }, c.rollingGroupId) := by
  simp [getAndIncrementGroupId]

@[simp] theorem getAndIncrementObjectId_eq (c : PeerSessionCrypto R) :
    c.getAndIncrementObjectId =
      ({ c with rollingObjectId := c.rollingObjectId + 1 }, c.rollingObjectId) := by
  simp [getAndIncrementObjectId]

/-- The counters do not touch the ratchet the session encrypts with. -/
@[simp] theorem getHyperRatchet_rollingGroupId (c : PeerSessionCrypto R) (id : UInt64)
    (version : Option UInt32) :
    ({ c with rollingGroupId := id } : PeerSessionCrypto R).getHyperRatchet version =
      c.getHyperRatchet version := rfl

@[simp] theorem getHyperRatchet_rollingObjectId (c : PeerSessionCrypto R) (id : UInt32)
    (version : Option UInt32) :
    ({ c with rollingObjectId := id } : PeerSessionCrypto R).getHyperRatchet version =
      c.getHyperRatchet version := rfl

/-- A fresh session encrypts with the ratchet its toolset starts from. -/
@[simp] theorem getHyperRatchet_new (cid : UInt64) (hyperRatchet : R) (localIsInitiator : Bool) :
    (new (Toolset.new cid hyperRatchet) localIsInitiator).getHyperRatchet none =
      some hyperRatchet := by
  simp [getHyperRatchet, new, Toolset.getHyperRatchet, Toolset.getAdjustedIndex, Toolset.new]

end PeerSessionCrypto

/-! ## Rekeying -/

/-- `KemTransferStatus`, over the transfer `B` that Bob sends back to Alice. -/
inductive KemTransferStatus (B : Type*)
  | statusNoTransfer (status : UpdateStatus)
  | empty
  | omitted
  | some (transfer : B) (status : UpdateStatus)
  deriving DecidableEq, Repr

namespace KemTransferStatus

variable {B : Type*}

/-- `requires_truncation`: the oldest version, when the update took the deque over capacity. -/
def requiresTruncation : KemTransferStatus B → Option UInt32
  | .statusNoTransfer (.committedNeedsSynchronization _ oldVersion) => Option.some oldVersion
  | .some _ (.committedNeedsSynchronization _ oldVersion) => Option.some oldVersion
  | _ => Option.none

/-- `has_some`. -/
def hasSome : KemTransferStatus B → Bool
  | .some .. => true
  | _ => false

end KemTransferStatus

/-- What an endpoint uses of a ratchet's constructor (`EndpointRatchetConstructor`, and
`Ratchet::next_alice_constructor`), with Alice's transfer `A` and Bob's transfer `B`. Each step
may fail, as in the source; the constructor options and the security level are left out. -/
class RatchetConstructor (C : Type*) (R A B : outParam Type*) where
  nextAliceConstructor : R → Option C
  newBob : UInt64 → UInt32 → A → Option C
  stage0Alice : C → Option A
  stage0Bob : C → Option B
  stage1Alice : C → B → Except CryptError C
  updateVersion : C → UInt32 → Option C
  finishWithCustomCid : C → UInt64 → Option R
  getDeclaredNewVersion : A → UInt32

/-- `Option::ok_or`. -/
def okOr {α : Type*} (o : Option α) (err : CryptError) : Except CryptError α :=
  match o with
  | some a => .ok a
  | none => .error err

namespace PeerSessionCrypto

open RatchetConstructor

-- the rekey functions bind values of several types in one `Except` block, so their types share
-- one universe
variable {R C A B : Type} [Ratchet R] [RatchetConstructor C R A B] (profile : BuildProfile)

/-- `commit_next_hyper_ratchet_version`: the constructor is stamped with the version after the
most recent one, finished under the local CID and pushed; Bob also produces his transfer back to
Alice. An error leaves the endpoint as it was. -/
def commitNextHyperRatchetVersion (c : PeerSessionCrypto R) (newestVersion : C) (localCid : UInt64)
    (localIsAlice : Bool) : Except CryptError (PeerSessionCrypto R × Option B × UpdateStatus) := do
  let curVers := c.toolset.mostRecentHyperRatchetVersion
  let nextVers := curVers + 1
  let newestVersion ← okOr (updateVersion newestVersion nextVers)
    (.drillUpdateError "Unable to progress past update_version")
  let transfer ← if localIsAlice then pure none else
    some <$> okOr (stage0Bob newestVersion) (.drillUpdateError "Unable to progress past stage0_bob")
  let nextHyperRatchet ← okOr (finishWithCustomCid newestVersion localCid)
    (.drillUpdateError "Unable to progress past finish_with_custom_cid")
  let (status, toolset) : Option UpdateStatus × Toolset R :=
    c.toolset.updateFrom profile nextHyperRatchet
  let status ← okOr status (.drillUpdateError "Unable to progress past update_from")
  pure ({ c with toolset := toolset }, transfer, status)

/-- `update_sync_safe`: at an initiator whose own update is in progress, an update that Alice
started is omitted; otherwise the next ratchet is committed, and Bob locks the endpoint until
the TRUNCATE packet arrives. -/
def updateSyncSafe (c : PeerSessionCrypto R) (constructor : C) (localIsAlice : Bool)
    (localCid : UInt64) : Except CryptError (PeerSessionCrypto R × KemTransferStatus B) := do
  if c.updateInProgress && !localIsAlice then
    if c.localIsInitiator then
      return (c, .omitted)
  let (c, transfer, status) ←
    c.commitNextHyperRatchetVersion profile constructor localCid localIsAlice
  let ret ← match transfer with
    | some transfer => pure (KemTransferStatus.some transfer status)
    | none =>
        if !localIsAlice then
          throw (.drillUpdateError "Local is not alice, yet, conflicting program state")
        else pure (.statusNoTransfer status)
  if !localIsAlice && ret.hasSome then
    return ({ c with updateInProgress := true, lockSetByAlice := some false }, ret)
  return (c, ret)

/-- `maybe_unlock`, then the latest ratchet. `fetch_nand(true)` stores the negation of the flag:
it clears a set flag, and sets a clear one (the case the source logs as an error). With
`requires_locked_by_alice`, only a lock that Alice set is released. -/
def maybeUnlock (c : PeerSessionCrypto R) (requiresLockedByAlice : Bool) :
    PeerSessionCrypto R × Option R :=
  let unlock (c : PeerSessionCrypto R) : PeerSessionCrypto R :=
    { c with updateInProgress := !c.updateInProgress, lockSetByAlice := none }
  let c := if requiresLockedByAlice then
      if c.lockSetByAlice.getD false then unlock c else c
    else unlock c
  (c, c.getHyperRatchet none)

/-- `post_alice_stage1_or_post_stage1_bob`: the next version becomes the one to use. -/
def postAliceStage1OrPostStage1Bob (c : PeerSessionCrypto R) : PeerSessionCrypto R :=
  { c with latestUsableVersion := c.latestUsableVersion + 1 }

/-- `get_next_constructor`: unless forced, only an endpoint with no update in progress takes the
lock and starts Alice's constructor from its latest ratchet. The lock stays taken when the latest
ratchet is missing. -/
def getNextConstructor (c : PeerSessionCrypto R) (force : Bool) : PeerSessionCrypto R × Option C :=
  let setLock (c : PeerSessionCrypto R) : PeerSessionCrypto R × Option C :=
    let c := { c with updateInProgress := true, lockSetByAlice := some true }
    (c, (c.getHyperRatchet none).bind nextAliceConstructor)
  if force then setLock c
  else if c.updateInProgress then (c, none)
  else setLock c

/-- `deregister_oldest_hyper_ratchet`. -/
def deregisterOldestHyperRatchet (c : PeerSessionCrypto R) (version : UInt32) :
    Except CryptError Unit × PeerSessionCrypto R :=
  let (result, toolset) := c.toolset.deregisterOldestHyperRatchet profile version
  (result, { c with toolset := toolset })

/-! ## What each rekey function does -/

/-- `x >>= f` succeeds in `Except` exactly when `x` does and `f` does on its value. -/
theorem except_bind_eq_ok {ε α β : Type} {x : Except ε α} {f : α → Except ε β} {b : β} :
    (x >>= f) = .ok b ↔ ∃ a, x = .ok a ∧ f a = .ok b := by
  cases x <;> simp [bind, Except.bind]

theorem except_map_eq_ok {ε α β : Type} {x : Except ε α} {f : α → β} {b : β} :
    (f <$> x) = .ok b ↔ ∃ a, x = .ok a ∧ f a = b := by
  cases x <;> simp [Functor.map, Except.map]

theorem okOr_eq_ok {α : Type} {o : Option α} {err : CryptError} {a : α} :
    okOr o err = .ok a ↔ o = some a := by
  cases o <;> simp [okOr]

variable {c c' : PeerSessionCrypto R} {k k' : C} {r : R} {localCid : UInt64}
  {status : UpdateStatus}

omit [Ratchet R] [RatchetConstructor C R A B] in
/-- The latest ratchet is read off the toolset and `latest_usable_version` only. -/
theorem getHyperRatchet_congr (htoolset : c'.toolset = c.toolset)
    (hlatest : c'.latestUsableVersion = c.latestUsableVersion) (version : Option UInt32) :
    c'.getHyperRatchet version = c.getHyperRatchet version := by
  simp [getHyperRatchet, htoolset, hlatest]

/-- Alice's commit: the stamped constructor finishes as a ratchet that the toolset accepts. -/
theorem commitNextHyperRatchetVersion_alice
    (hversion : updateVersion k (c.toolset.mostRecentHyperRatchetVersion + 1) = some k')
    (hfinish : finishWithCustomCid k' localCid = some r)
    (hupdate : (c.toolset.updateFrom profile r).1 = some status) :
    c.commitNextHyperRatchetVersion profile k localCid true =
      .ok ({ c with toolset := (c.toolset.updateFrom profile r).2 }, (none : Option B), status) := by
  simp [commitNextHyperRatchetVersion, okOr, hversion, hfinish, hupdate, bind, Except.bind, pure,
    Except.pure]

/-- Bob's commit also produces his transfer back to Alice. -/
theorem commitNextHyperRatchetVersion_bob {transfer : B}
    (hversion : updateVersion k (c.toolset.mostRecentHyperRatchetVersion + 1) = some k')
    (htransfer : stage0Bob k' = some transfer)
    (hfinish : finishWithCustomCid k' localCid = some r)
    (hupdate : (c.toolset.updateFrom profile r).1 = some status) :
    c.commitNextHyperRatchetVersion profile k localCid false =
      .ok ({ c with toolset := (c.toolset.updateFrom profile r).2 }, some transfer, status) := by
  simp [commitNextHyperRatchetVersion, okOr, hversion, htransfer, hfinish, hupdate, bind,
    Except.bind, pure, Except.pure, Functor.map, Except.map]

/-- A commit that succeeds changes the toolset only, by an update. -/
theorem commitNextHyperRatchetVersion_ok {localIsAlice : Bool}
    {result : PeerSessionCrypto R × Option B × UpdateStatus}
    (hcommit : c.commitNextHyperRatchetVersion profile k localCid localIsAlice = .ok result) :
    ∃ r, result.1 = { c with toolset := (c.toolset.updateFrom profile r).2 } := by
  -- the transfer is computed under `if local_is_alice`, so the two roles unfold apart
  cases localIsAlice <;>
    simp only [commitNextHyperRatchetVersion, Bool.false_eq_true, if_false, if_true,
      except_bind_eq_ok, except_map_eq_ok, okOr_eq_ok, pure, Except.pure, Except.ok.injEq] at hcommit
  · obtain ⟨k', -, transfer, -, r, -, status, -, hresult⟩ := hcommit
    exact ⟨r, by rw [← hresult]⟩
  · obtain ⟨k', -, transfer, -, r, -, status, -, hresult⟩ := hcommit
    exact ⟨r, by rw [← hresult]⟩

/-- An initiator whose own update is in progress omits the update Alice started. -/
theorem updateSyncSafe_of_omitted (hprogress : c.updateInProgress = true)
    (hinitiator : c.localIsInitiator = true) :
    c.updateSyncSafe profile k false localCid = .ok (c, (.omitted : KemTransferStatus B)) := by
  simp [updateSyncSafe, hprogress, hinitiator, pure, Except.pure]

/-- Otherwise Bob commits and locks the endpoint, lock set by Bob. -/
theorem updateSyncSafe_bob {transfer : B}
    (hcommit : c.commitNextHyperRatchetVersion profile k localCid false =
      .ok (c', some transfer, status))
    (hproceed : c.updateInProgress = false ∨ c.localIsInitiator = false) :
    c.updateSyncSafe profile k false localCid =
      .ok ({ c' with updateInProgress := true, lockSetByAlice := some false },
        .some transfer status) := by
  rcases hproceed with hproceed | hproceed <;>
    simp [updateSyncSafe, hproceed, hcommit, bind, Except.bind, pure, Except.pure,
      KemTransferStatus.hasSome]

/-- Alice commits whatever the lock says. -/
theorem updateSyncSafe_alice
    (hcommit : c.commitNextHyperRatchetVersion profile k localCid true = .ok (c', none, status)) :
    c.updateSyncSafe profile k true localCid =
      .ok (c', (.statusNoTransfer status : KemTransferStatus B)) := by
  simp [updateSyncSafe, hcommit, bind, Except.bind, pure, Except.pure, KemTransferStatus.hasSome]

/-- An update that succeeds leaves the toolset, or changes it by an update. -/
theorem updateSyncSafe_ok {localIsAlice : Bool} {result : PeerSessionCrypto R × KemTransferStatus B}
    (hsync : c.updateSyncSafe profile k localIsAlice localCid = .ok result) :
    result.1.toolset = c.toolset ∨ ∃ r, result.1.toolset = (c.toolset.updateFrom profile r).2 := by
  by_cases homit : c.updateInProgress = true ∧ localIsAlice = false ∧ c.localIsInitiator = true
  · -- the omitted update returns the endpoint as it was
    obtain ⟨hprogress, rfl, hinitiator⟩ := homit
    rw [updateSyncSafe_of_omitted profile hprogress hinitiator, Except.ok.injEq] at hsync
    exact .inl (by rw [← hsync])
  · -- otherwise the endpoint returned carries the committed toolset, whatever the lock does
    have hcommitted : ∃ committed : PeerSessionCrypto R × Option B × UpdateStatus,
        c.commitNextHyperRatchetVersion profile k localCid localIsAlice = .ok committed ∧
          result.1.toolset = committed.1.toolset := by
      unfold updateSyncSafe at hsync
      cases hprogress : c.updateInProgress <;> cases localIsAlice <;>
        cases hinitiator : c.localIsInitiator <;>
        simp only [hprogress, hinitiator, Bool.not_true, Bool.not_false, Bool.and_true,
          Bool.and_false, Bool.false_eq_true, if_false, if_true, except_bind_eq_ok, and_self,
          not_true_eq_false] at hsync homit
      all_goals
        obtain ⟨⟨c'', transfer, status⟩, hcommit, hrest⟩ := hsync
        refine ⟨_, hcommit, ?_⟩
        cases transfer <;>
          simp [pure, Except.pure, bind, Except.bind, throw, throwThe, MonadExceptOf.throw,
            KemTransferStatus.hasSome] at hrest <;>
          simp [← hrest]
    obtain ⟨committed, hcommit, hsame⟩ := hcommitted
    obtain ⟨r, hr⟩ := commitNextHyperRatchetVersion_ok profile hcommit
    exact .inr ⟨r, by rw [hsame, hr]⟩

omit [Ratchet R] [RatchetConstructor C R A B] in
/-- Unlocking reads the latest ratchet of the endpoint it was given. -/
@[simp] theorem snd_maybeUnlock (requiresLockedByAlice : Bool) :
    (c.maybeUnlock requiresLockedByAlice).2 = c.getHyperRatchet none := by
  unfold maybeUnlock
  split_ifs <;> rfl

omit [Ratchet R] [RatchetConstructor C R A B] in
@[simp] theorem toolset_maybeUnlock (requiresLockedByAlice : Bool) :
    (c.maybeUnlock requiresLockedByAlice).1.toolset = c.toolset := by
  unfold maybeUnlock
  split_ifs <;> rfl

omit [Ratchet R] [RatchetConstructor C R A B] in
@[simp] theorem latestUsableVersion_maybeUnlock (requiresLockedByAlice : Bool) :
    (c.maybeUnlock requiresLockedByAlice).1.latestUsableVersion = c.latestUsableVersion := by
  unfold maybeUnlock
  split_ifs <;> rfl

omit [Ratchet R] [RatchetConstructor C R A B] in
/-- An unconditional unlock flips the flag and clears the lock. -/
theorem maybeUnlock_false :
    (c.maybeUnlock false).1 =
      { c with updateInProgress := !c.updateInProgress, lockSetByAlice := none } := rfl

omit [Ratchet R] [RatchetConstructor C R A B] in
/-- A lock that Alice set is released by the unlock that requires it. -/
theorem maybeUnlock_of_lockSetByAlice (hlock : c.lockSetByAlice = some true) :
    (c.maybeUnlock true).1 =
      { c with updateInProgress := !c.updateInProgress, lockSetByAlice := none } := by
  simp [maybeUnlock, hlock]

omit [Ratchet R] [RatchetConstructor C R A B] in
/-- Any other lock stays. -/
theorem maybeUnlock_of_not_lockSetByAlice (hlock : c.lockSetByAlice.getD false = false) :
    (c.maybeUnlock true).1 = c := by
  simp [maybeUnlock, hlock]

omit [Ratchet R] [RatchetConstructor C R A B] in
@[simp] theorem toolset_postAliceStage1OrPostStage1Bob :
    c.postAliceStage1OrPostStage1Bob.toolset = c.toolset := rfl

omit [Ratchet R] [RatchetConstructor C R A B] in
@[simp] theorem latestUsableVersion_postAliceStage1OrPostStage1Bob :
    c.postAliceStage1OrPostStage1Bob.latestUsableVersion = c.latestUsableVersion + 1 := rfl

omit [Ratchet R] in
/-- An idle endpoint takes the lock as Alice and starts her constructor. -/
theorem getNextConstructor_of_idle (hidle : c.updateInProgress = false) :
    c.getNextConstructor false =
      ({ c with updateInProgress := true, lockSetByAlice := some true },
        ((c.getHyperRatchet none).bind nextAliceConstructor : Option C)) := by
  simp [getNextConstructor, hidle, getHyperRatchet]

omit [Ratchet R] in
/-- A busy endpoint starts nothing. -/
theorem getNextConstructor_of_busy (hbusy : c.updateInProgress = true) :
    c.getNextConstructor false = (c, (none : Option C)) := by
  simp [getNextConstructor, hbusy]

omit [Ratchet R] in
@[simp] theorem toolset_getNextConstructor (force : Bool) :
    (c.getNextConstructor force : PeerSessionCrypto R × Option C).1.toolset = c.toolset := by
  unfold getNextConstructor
  split_ifs <;> rfl

omit [Ratchet R] [RatchetConstructor C R A B] in
/-- The endpoint's deregistration is the toolset's. -/
theorem deregisterOldestHyperRatchet_eq (version : UInt32) :
    c.deregisterOldestHyperRatchet profile version =
      ((c.toolset.deregisterOldestHyperRatchet profile version).1,
        { c with toolset := (c.toolset.deregisterOldestHyperRatchet profile version).2 }) := rfl

end PeerSessionCrypto

end CitadelProtocol.Crypt
