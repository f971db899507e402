import CitadelProtocol.Crypt.PeerSessionCrypto
import CitadelProtocol.Lib.Network

/-! # The rekey protocol of a session

A rekey replaces the ratchet that a session's two endpoints encrypt with. Either endpoint may
start one (`initiate_drill_update`), as Alice; the DO_DRILL_UPDATE packets then run

* STAGE0, Alice to Bob: Alice's transfer; Bob commits the next ratchet (`attempt_kem_as_bob`)
  and answers with his status;
* STAGE1, Bob to Alice: Alice commits her side (`attempt_kem_as_alice_finish`), moves to the
  new version and answers with TRUNCATE;
* TRUNCATE, Alice to Bob: Bob deregisters the oldest ratchet if asked, moves to the new version
  and unlocks; he answers with TRUNCATE_ACK after a deregistration;
* TRUNCATE_ACK, Bob to Alice: Alice unlocks.

This is `process_rekey` on the session's own channel (`C2S_ENCRYPTION_ONLY`). A packet's header
carries the CID and the version of the ratchet that protects it; the receiver opens it with its
own ratchet of that version and drops it when it has none. Opening it is otherwise taken to
succeed: the key material of the ratchets is out of this model, which follows the versions and
the locks. The notifications to the kernel (`on_complete`) and the polling of the `Perfect`
secrecy mode change neither and are left out.

When both endpoints start a rekey at once, the initiator omits the update the responder asked
for, but both sides still exchange TRUNCATE packets; each TRUNCATE advances
`latest_usable_version` by one, so the initiator ends up one version past its newest ratchet.
-/

namespace CitadelProtocol.Proto

open Crypt Crypt.Ratchet Crypt.RatchetConstructor

/-- The header fields of a DO_DRILL_UPDATE packet that the receiver reads. -/
structure RekeyHeader where
  sessionCid : UInt64
  drillVersion : UInt32
  deriving DecidableEq, Repr

/-- The payloads of the four DO_DRILL_UPDATE packets, by `cmd_aux`. -/
inductive RekeyPayload (A B : Type)
  | stage0 (transfer : A)
  | stage1 (updateStatus : KemTransferStatus B)
  | truncate (truncateVersion : Option UInt32)
  | truncateAck (truncatedVersion : UInt32)
  deriving DecidableEq, Repr

/-- A DO_DRILL_UPDATE packet. -/
structure RekeyPacket (A B : Type) where
  header : RekeyHeader
  payload : RekeyPayload A B
  deriving DecidableEq, Repr

/-- What one endpoint keeps for its rekeys: the crypto state of the session's channel, and
Alice's constructor while her rekey runs (`ratchet_update_state.alice_hyper_ratchet`). -/
structure Endpoint (R C : Type) where
  crypt : PeerSessionCrypto R
  aliceHyperRatchet : Option C

variable {R C A B : Type} [Ratchet R] [RatchetConstructor C R A B] (profile : BuildProfile)

/-- The packet crafters of `do_drill_update`: the header names the protecting ratchet. -/
def craftRekey (hyperRatchet : R) (payload : RekeyPayload A B) : RekeyPacket A B :=
  ⟨⟨getCid hyperRatchet, version hyperRatchet⟩, payload⟩

/-- `initiate_drill_update` towards the server: the endpoint takes the lock and sends STAGE0
under its latest ratchet, keeping Alice's constructor. When an update is in progress nothing is
sent. `none` is the panic of `unwrap` on a missing latest ratchet; when `stage0_alice` fails the
error is returned, with the lock taken. -/
def initiateDrillUpdate (e : Endpoint R C) : Option (Endpoint R C × List (RekeyPacket A B)) :=
  match e.crypt.getNextConstructor false with
  | (crypt, some aliceConstructor) =>
      match crypt.getHyperRatchet none with
      | none => none
      | some ratchet =>
          match stage0Alice aliceConstructor with
          | none => some ({ e with crypt := crypt }, [])
          | some transfer =>
              some (⟨crypt, some aliceConstructor⟩, [craftRekey ratchet (.stage0 transfer)])
  | (crypt, none) => some ({ e with crypt := crypt }, [])

variable (C) in
/-- `attempt_kem_as_bob` with Alice's transfer, through `update_toolset_as_bob`: Bob's
constructor for the version the transfer declares, committed by `update_sync_safe` as Bob.
`none` where the source returns `None`. The constructor type is the one the ratchet names, given
here explicitly. -/
def attemptKemAsBob (crypt : PeerSessionCrypto R) (localCid : UInt64) (transfer : A) :
    Option (PeerSessionCrypto R × KemTransferStatus B) := do
  let constructor : C ← newBob localCid (getDeclaredNewVersion C transfer) transfer
  (crypt.updateSyncSafe profile constructor false localCid).toOption

/-- The latest ratchet that `attempt_kem_as_alice_finish` returns, or its error. -/
def latestOrError (latest : Option R) : Except Unit (Option R) :=
  match latest with
  | some hyperRatchet => .ok (some hyperRatchet)
  | none => .error ()

/-- `attempt_kem_as_alice_finish`: with Bob's transfer, Alice commits her side, deregisters the
oldest ratchet if Bob's update asked for it, and moves to the new version; she unlocks at once
unless a TRUNCATE_ACK is to come. On an omitted update she only calls `maybe_unlock(true)`, which
releases a lock only if Alice set it. The state is returned with the result, since an error may
come after the toolset changed. -/
def attemptKemAsAliceFinish (crypt : PeerSessionCrypto R) (localCid : UInt64)
    (transfer : KemTransferStatus B) (constructor : Option C) :
    PeerSessionCrypto R × Except Unit (Option R) :=
  let requiresTruncation := transfer.requiresTruncation
  match transfer with
  | .some transfer _ =>
      match constructor with
      | none => (crypt, .ok none)
      | some constructor =>
          match stage1Alice constructor transfer with
          | .error _ => (crypt, .error ())
          | .ok constructor =>
              match crypt.updateSyncSafe profile constructor true localCid with
              | .error _ => (crypt, .error ())
              | .ok (crypt, _) =>
                  let deregistered := match requiresTruncation with
                    | some version => crypt.deregisterOldestHyperRatchet profile version
                    | none => (.ok (), crypt)
                  match deregistered with
                  | (.error _, crypt) => (crypt, .error ())
                  | (.ok (), crypt) =>
                      let crypt := crypt.postAliceStage1OrPostStage1Bob
                      if requiresTruncation.isSome then
                        (crypt, latestOrError (crypt.getHyperRatchet none))
                      else
                        let (crypt, latest) := crypt.maybeUnlock true
                        (crypt, latestOrError latest)
  | .omitted =>
      let (crypt, latest) := crypt.maybeUnlock true
      (crypt, latestOrError latest)
  | .statusNoTransfer _ => (crypt, .error ())
  | .empty => (crypt, .ok none)

/-- `process_rekey` on the session's own channel: the endpoint after the packet, and the packets
it sends back. A packet whose version the endpoint holds no ratchet for is dropped; so is one a
handler gives up on (`return_if_none!`), with what the handler changed before it gave up. -/
def processRekey (e : Endpoint R C) (packet : RekeyPacket A B) :
    Endpoint R C × List (RekeyPacket A B) :=
  match e.crypt.getHyperRatchet (some packet.header.drillVersion) with
  | none => (e, [])
  | some hyperRatchet =>
      match packet.payload with
      | .stage0 transfer =>
          match attemptKemAsBob C profile e.crypt packet.header.sessionCid transfer with
          | none => (e, [])
          | some (crypt, status) =>
              ({ e with crypt := crypt }, [craftRekey hyperRatchet (.stage1 status)])
      | .stage1 updateStatus =>
          -- the constructor is taken out of `alice_hyper_ratchet`
          match e.aliceHyperRatchet with
          | none => (e, [])
          | some constructor =>
              let needsTruncate := updateStatus.requiresTruncation
              match attemptKemAsAliceFinish profile e.crypt packet.header.sessionCid updateStatus
                  (some constructor) with
              | (crypt, .error ()) => (⟨crypt, none⟩, [])
              | (crypt, .ok latest) =>
                  (⟨crypt, none⟩, [craftRekey (latest.getD hyperRatchet) (.truncate needsTruncate)])
      | .truncate truncateVersion =>
          -- a failed deregistration is only logged
          let crypt := match truncateVersion with
            | some version => (e.crypt.deregisterOldestHyperRatchet profile version).2
            | none => e.crypt
          let crypt := crypt.postAliceStage1OrPostStage1Bob
          let (crypt, latest) := crypt.maybeUnlock false
          match latest, truncateVersion with
          | some _, some version =>
              ({ e with crypt := crypt }, [craftRekey hyperRatchet (.truncateAck version)])
          | _, _ => ({ e with crypt := crypt }, [])
      | .truncateAck _ => ({ e with crypt := (e.crypt.maybeUnlock true).1 }, [])

/-- The rekey protocol between the two endpoints of a session: an endpoint's own input starts a
rekey, and each packet goes through `process_rekey`. -/
def rekeyProtocol : Network.Protocol (Endpoint R C) (RekeyPacket A B) Unit where
  act e _ := initiateDrillUpdate e
  handle e packet := some (processRekey profile e packet)

/-! ## The toolsets stay well formed

A rekey changes an endpoint's toolset only through `update_from` and
`deregister_oldest_hyper_ratchet`, which keep it well formed (`Toolset.Wf`); so in every
reachable network both toolsets are well formed, whatever the interleaving.
-/

section Toolsets

variable {e : Endpoint R C}

/-- Starting a rekey takes the lock; the toolset stays. -/
theorem toolset_of_initiateDrillUpdate {next : Endpoint R C × List (RekeyPacket A B)}
    (hinit : initiateDrillUpdate e = some next) : next.1.crypt.toolset = e.crypt.toolset := by
  have hlock : ∀ crypt (aliceConstructor : Option C),
      e.crypt.getNextConstructor false = (crypt, aliceConstructor) →
      crypt.toolset = e.crypt.toolset := by
    intro crypt aliceConstructor hnext
    simpa using congrArg (fun taken => taken.1.toolset) hnext.symm
  unfold initiateDrillUpdate at hinit
  split at hinit
  · rename_i crypt aliceConstructor hnext
    split at hinit
    · cases hinit
    · split at hinit <;> cases hinit <;> exact hlock _ _ hnext
  · rename_i crypt hnext
    cases hinit
    exact hlock _ _ hnext

/-- A commit through `update_sync_safe` keeps the toolset well formed. -/
theorem wf_of_updateSyncSafe {crypt : PeerSessionCrypto R} {constructor : C} {localIsAlice : Bool}
    {localCid : UInt64} {result : PeerSessionCrypto R × KemTransferStatus B}
    (hsync : crypt.updateSyncSafe profile constructor localIsAlice localCid = .ok result)
    (hwf : crypt.toolset.Wf) : result.1.toolset.Wf := by
  rcases PeerSessionCrypto.updateSyncSafe_ok profile hsync with hsame | ⟨r, hupdate⟩
  · rwa [hsame]
  · rw [hupdate]
    exact hwf.updateFrom r

variable (C) in
theorem wf_of_attemptKemAsBob {crypt crypt' : PeerSessionCrypto R} {localCid : UInt64}
    {transfer : A} {status : KemTransferStatus B}
    (hbob : attemptKemAsBob C profile crypt localCid transfer = some (crypt', status))
    (hwf : crypt.toolset.Wf) : crypt'.toolset.Wf := by
  simp only [attemptKemAsBob, Option.bind_eq_bind, Option.bind_eq_some_iff] at hbob
  obtain ⟨constructor, -, hsync⟩ := hbob
  cases hresult : crypt.updateSyncSafe profile constructor false localCid with
  | error err => simp [hresult, Except.toOption] at hsync
  | ok result =>
      simp only [hresult, Except.toOption, Option.some.injEq] at hsync
      subst hsync
      exact wf_of_updateSyncSafe profile hresult hwf

theorem wf_of_attemptKemAsAliceFinish {crypt : PeerSessionCrypto R} {localCid : UInt64}
    {transfer : KemTransferStatus B} {constructor : Option C} (hwf : crypt.toolset.Wf) :
    (attemptKemAsAliceFinish profile crypt localCid transfer constructor).1.toolset.Wf := by
  -- the cases follow the checks of the source, each naming the result it goes on with
  cases transfer with
  | some transfer status =>
      cases constructor with
      | none => exact hwf
      | some constructor =>
          cases hstage1 : stage1Alice constructor transfer with
          | error err => simpa [attemptKemAsAliceFinish, hstage1] using hwf
          | ok constructor' =>
              cases hsync : crypt.updateSyncSafe profile constructor' true localCid with
              | error err => simpa [attemptKemAsAliceFinish, hstage1, hsync] using hwf
              | ok result =>
                  have hwf' := wf_of_updateSyncSafe profile hsync hwf
                  cases htruncation : (KemTransferStatus.some transfer status).requiresTruncation with
                  | none =>
                      simpa [attemptKemAsAliceFinish, hstage1, hsync, htruncation] using hwf'
                  | some version =>
                      have hwf'' : (result.1.toolset.deregisterOldestHyperRatchet profile
                          version).2.Wf := hwf'.deregisterOldestHyperRatchet version
                      cases hderegistered :
                          (result.1.toolset.deregisterOldestHyperRatchet profile version).1 with
                      | error err =>
                          simpa [attemptKemAsAliceFinish, hstage1, hsync, htruncation,
                            PeerSessionCrypto.deregisterOldestHyperRatchet_eq, hderegistered]
                            using hwf''
                      | ok u =>
                          simpa [attemptKemAsAliceFinish, hstage1, hsync, htruncation,
                            PeerSessionCrypto.deregisterOldestHyperRatchet_eq, hderegistered]
                            using hwf''
  | omitted => simpa [attemptKemAsAliceFinish] using hwf
  | statusNoTransfer status => exact hwf
  | empty => exact hwf

/-- Whatever packet arrives, the endpoint's toolset stays well formed. -/
theorem wf_processRekey (hwf : e.crypt.toolset.Wf) (packet : RekeyPacket A B) :
    (processRekey profile e packet).1.crypt.toolset.Wf := by
  obtain ⟨⟨sessionCid, drillVersion⟩, payload⟩ := packet
  cases hheader : e.crypt.getHyperRatchet (some drillVersion) with
  | none => simpa [processRekey, hheader] using hwf
  | some hyperRatchet =>
      cases payload with
      | stage0 transfer =>
          cases hbob : attemptKemAsBob C profile e.crypt sessionCid transfer with
          | none => simpa [processRekey, hheader, hbob] using hwf
          | some bob =>
              simpa [processRekey, hheader, hbob] using wf_of_attemptKemAsBob C profile hbob hwf
      | stage1 updateStatus =>
          cases halice : e.aliceHyperRatchet with
          | none => simpa [processRekey, hheader, halice] using hwf
          | some constructor =>
              have hfinish : (attemptKemAsAliceFinish profile e.crypt sessionCid updateStatus
                  (some constructor)).1.toolset.Wf := wf_of_attemptKemAsAliceFinish profile hwf
              cases hresult : attemptKemAsAliceFinish profile e.crypt sessionCid updateStatus
                  (some constructor) with
              | mk crypt latest =>
                  rw [hresult] at hfinish
                  cases latest <;> simpa [processRekey, hheader, halice, hresult] using hfinish
      | truncate truncateVersion =>
          -- the deregistration, when asked for, is the only change to the toolset
          have hderegistered : (match truncateVersion with
              | some version => (e.crypt.deregisterOldestHyperRatchet profile version).2
              | none => e.crypt).toolset.Wf := by
            cases truncateVersion with
            | none => exact hwf
            | some version =>
                simpa [PeerSessionCrypto.deregisterOldestHyperRatchet_eq] using
                  hwf.deregisterOldestHyperRatchet version
          unfold processRekey
          simp only [hheader]
          split <;> simpa using hderegistered
      | truncateAck truncatedVersion => simpa [processRekey, hheader] using hwf

/-- However the two endpoints' rekeys interleave, both toolsets stay well formed in every
reachable network. -/
theorem toolsets_wf_of_reachable {initiator responder : Endpoint R C}
    (hinitiator : initiator.crypt.toolset.Wf) (hresponder : responder.crypt.toolset.Wf)
    {net : Network.Net (Endpoint R C) (RekeyPacket A B)}
    (hnet : (Network.system (rekeyProtocol profile) initiator responder).Reachable net)
    (side : Duplex.Side) : (net.node side).crypt.toolset.Wf := by
  refine @Network.node_of_reachable _ _ _ (rekeyProtocol profile) (fun e => e.crypt.toolset.Wf)
    initiator responder hinitiator hresponder ?_ ?_ net hnet side
  · intro e _ next hwf hinit
    rw [toolset_of_initiateDrillUpdate hinit]
    exact hwf
  · intro e packet next hwf hhandle
    cases hhandle
    exact wf_processRekey profile hwf packet

end Toolsets

end CitadelProtocol.Proto
