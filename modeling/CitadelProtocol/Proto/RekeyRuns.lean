import CitadelProtocol.Proto.Rekey
import CitadelProtocol.Crypt.ToolsetRuns

/-! # Runs of the rekey protocol in a session

The ratchets here are `VersionStamp`s, a ratchet reduced to its version and CID. Their
constructor passes every step of the key exchange, and the transfers carry only the version
Alice declares. On such ratchets the protocol's versions and locks run as in the source, and a
run can be computed.

Alone, a rekey brings both endpoints of a fresh session to version 1. When both endpoints start
one before either hears of the other's (`concurrentRekey`), the initiator omits the responder's
update. The responder's STAGE1 still commits the initiator's, and each side then receives a
TRUNCATE. Each TRUNCATE moves `latest_usable_version` on by one, so the initiator ends at
version 2 while its newest ratchet is version 1, and it has no ratchet to encrypt with. Its
unconditional unlock also finds the lock already released, and `fetch_nand` sets it again.
-/

namespace CitadelProtocol.Proto

open Crypt Crypt.Toolset Network Duplex

/-- The constructor of a `VersionStamp`: each step of the key exchange succeeds, and the ratchet
it finishes carries the version it was stamped with and the CID it is given. -/
instance : RatchetConstructor VersionStamp VersionStamp UInt32 Unit where
  nextAliceConstructor r := some ⟨r.version + 1, r.cid⟩
  newBob cid newVersion _ := some ⟨newVersion, cid⟩
  stage0Alice c := some c.version
  stage0Bob _ := some ()
  stage1Alice c _ := .ok c
  updateVersion c version := some { c with version := version }
  finishWithCustomCid c cid := some { c with cid := cid }
  getDeclaredNewVersion newVersion := newVersion

/-- An endpoint of a fresh session: `PeerSessionCrypto::new` over `Toolset::new` with the
ratchet of version 0, and no rekey of its own running. -/
def freshEndpoint (cid : UInt64) (localIsInitiator : Bool) : Endpoint VersionStamp VersionStamp :=
  ⟨PeerSessionCrypto.new (Toolset.new cid ⟨0, cid⟩) localIsInitiator, none⟩

/-- A fresh session, with nothing in flight. -/
def freshNet (cid : UInt64) : Net (Endpoint VersionStamp VersionStamp) (RekeyPacket UInt32 Unit) :=
  Net.start (freshEndpoint cid true) (freshEndpoint cid false)

/-- The runs of the rekey protocol in a fresh session. -/
def freshSession (profile : BuildProfile) (cid : UInt64) :
    Transition.System (Net (Endpoint VersionStamp VersionStamp) (RekeyPacket UInt32 Unit))
      (Label Unit) :=
  Network.system (rekeyProtocol profile) (freshEndpoint cid true) (freshEndpoint cid false)

/-- A rekey started by `side` alone: STAGE0, STAGE1, TRUNCATE, each delivered in turn. -/
def loneRekey (side : Side) : List (Label Unit) :=
  [.act side (), .deliver side.other, .deliver side, .deliver side.other]

/-- Alone, a rekey started by either side leaves both endpoints unlocked at version 1, with
nothing in flight. -/
example (side : Side) :
    ((Transition.run (step (rekeyProtocol .release)) (freshNet 0) (loneRekey side)).map fun net =>
      (net.inbox .initiator, net.inbox .responder)) = some ([], []) := by
  cases side <;> decide

example (side : Side) :
    ((Transition.run (step (rekeyProtocol .release)) (freshNet 0) (loneRekey side)).map fun net =>
      ((net.node .initiator).crypt.getHyperRatchet none,
        (net.node .responder).crypt.getHyperRatchet none,
        (net.node .initiator).crypt.updateInProgress,
        (net.node .responder).crypt.updateInProgress)) =
      some (some ⟨1, 0⟩, some ⟨1, 0⟩, false, false) := by
  cases side <;> decide

/-- Both endpoints start a rekey; each STAGE0 reaches the other endpoint, then each STAGE1, then
each TRUNCATE. Every packet sent is delivered, in the order of its direction. -/
def concurrentRekey : List (Label Unit) :=
  [.act .initiator (), .act .responder (), .deliver .initiator, .deliver .responder,
    .deliver .initiator, .deliver .responder, .deliver .responder, .deliver .initiator]

/-- Concurrent rekeys in a fresh session, in either build, reach a state with nothing in flight
where the initiator's `latest_usable_version` is 2 while its newest ratchet is version 1: it has
no ratchet to encrypt with, its lock is taken for good, and the responder encrypts with
version 1. -/
theorem concurrent_rekeys_strand_initiator (profile : BuildProfile) :
    ∃ net, (freshSession profile 0).Reachable net ∧
      net.inbox .initiator = [] ∧ net.inbox .responder = [] ∧
      (net.node .initiator).crypt.latestUsableVersion = 2 ∧
      (net.node .initiator).crypt.toolset.mostRecentHyperRatchetVersion = 1 ∧
      (net.node .initiator).crypt.getHyperRatchet none = none ∧
      (net.node .initiator).crypt.updateInProgress = true ∧
      (net.node .responder).crypt.latestUsableVersion = 1 ∧
      (net.node .responder).crypt.getHyperRatchet none = some ⟨1, 0⟩ := by
  -- the schedule runs to its end: every label in it is enabled
  obtain ⟨net, hrun⟩ : ∃ net,
      Transition.run (step (rekeyProtocol profile)) (freshNet 0) concurrentRekey = some net :=
    Option.isSome_iff_exists.mp (by cases profile <;> decide)
  -- what the run ends with, computed for each build: the links, then each endpoint
  have hinboxes : (Transition.run (step (rekeyProtocol profile)) (freshNet 0) concurrentRekey).map
      (fun net => (net.inbox .initiator, net.inbox .responder)) = some ([], []) := by
    cases profile <;> decide
  have hinitiator : (Transition.run (step (rekeyProtocol profile)) (freshNet 0)
      concurrentRekey).map (fun net =>
        ((net.node .initiator).crypt.latestUsableVersion,
          (net.node .initiator).crypt.toolset.mostRecentHyperRatchetVersion,
          (net.node .initiator).crypt.getHyperRatchet none,
          (net.node .initiator).crypt.updateInProgress)) = some (2, 1, none, true) := by
    cases profile <;> decide
  have hresponder : (Transition.run (step (rekeyProtocol profile)) (freshNet 0)
      concurrentRekey).map (fun net =>
        ((net.node .responder).crypt.latestUsableVersion,
          (net.node .responder).crypt.getHyperRatchet none)) = some (1, some ⟨1, 0⟩) := by
    cases profile <;> decide
  rw [hrun] at hinboxes hinitiator hresponder
  simp only [Option.map_some, Option.some.injEq, Prod.mk.injEq] at hinboxes hinitiator hresponder
  exact ⟨net, Transition.run_reachable (.init rfl) hrun, hinboxes.1, hinboxes.2, hinitiator.1,
    hinitiator.2.1, hinitiator.2.2.1, hinitiator.2.2.2, hresponder.1, hresponder.2⟩

/-- Fresh endpoints start with well-formed toolsets, so they keep them in every run. -/
theorem toolsets_wf_of_fresh :
    (freshEndpoint 0 true).crypt.toolset.Wf ∧ (freshEndpoint 0 false).crypt.toolset.Wf ∧
      ∀ net, (freshSession .release 0).Reachable net → ∀ side,
        (net.node side).crypt.toolset.Wf := by
  have hwf : ∀ localIsInitiator, (freshEndpoint 0 localIsInitiator).crypt.toolset.Wf :=
    fun _ => wf_new rfl
  exact ⟨hwf true, hwf false, fun net hnet side =>
    toolsets_wf_of_reachable .release (hwf true) (hwf false) hnet side⟩

end CitadelProtocol.Proto
