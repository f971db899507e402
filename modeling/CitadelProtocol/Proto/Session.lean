import CitadelProtocol.Crypt.PeerSessionCrypto
import CitadelProtocol.Crypt.StreamingCryptScrambler

/-! # What a session sends

`process_outbound_message` and `process_outbound_file` on the session's own channel (the C2S
branch; the P2P branch does the same on the virtual connection's `PeerSessionCrypto`). A message
takes the next group id from `get_and_increment_group_id` and travels in its GROUP_HEADER. A file
takes the next object id and the next group id as the id of its first group, has the scrambler
number its groups from there, and then reserves the ids of its other `groups_needed - 1` groups
by adding that count to `rolling_group_id`.

A request is modelled as sending all its packets before the next request starts, which is one
of the orders the FIFO transport allows. The net effect on the counter is what matters below: a
file of `n` groups advances `rolling_group_id` by exactly `n`, and its groups carry the ids
`start, ..., start + n - 1`, so the ids a session hands out are consecutive, shared between
messages and files.
-/

namespace CitadelProtocol.Proto

open Crypt Bytes

/-- `VirtualObjectMetadata`, with the fields the receiver reads. -/
structure VirtualObjectMetadata where
  objectId : UInt32
  plaintextLength : Nat
  groupCount : Nat
  deriving DecidableEq, Repr

/-- The packets of the primary stream that carry messages and files, with what the receiver
reads of them. A message travels in its GROUP_HEADER. A file's group has a GROUP_HEADER, whose
`wave_id` field names the object, and payload packets, of which the one that completes the
group stands for them all, carrying the group's plaintext (the per-group round trip). -/
inductive Packet
  | messageGroupHeader (groupId : UInt64) (plaintext : List UInt8)
  | fileHeader (groupIdStart : UInt64) (metadata : VirtualObjectMetadata)
  | groupHeader (objectId : UInt32) (groupId : UInt64)
  | groupPayload (groupId : UInt64) (chunk : List UInt8)
  deriving DecidableEq, Repr

/-- The message a packet carries, under its group id. -/
def Packet.message : Packet → Option (UInt64 × List UInt8)
  | .messageGroupHeader groupId plaintext => some (groupId, plaintext)
  | _ => none

/-- The packets of one rendered group of a file: its header, then its payload. -/
def groupPackets (objectId : UInt32) (group : UInt64 × List UInt8) : List Packet :=
  [.groupHeader objectId group.1, .groupPayload group.1 group.2]

variable {R : Type*}

/-- `process_outbound_message` in `BestEffort` mode: the message takes the next group id. `none`
is the panic of `unwrap` when the latest ratchet is missing. The key exchange a message may
carry (`get_next_constructor`) touches neither counter and is left to the rekey model. -/
def processOutboundMessage (crypt : PeerSessionCrypto R) (plaintext : List UInt8) :
    Option (PeerSessionCrypto R × List Packet) := do
  let _ ← crypt.getHyperRatchet none
  let (crypt, groupId) := crypt.getAndIncrementGroupId
  pure (crypt, [.messageGroupHeader groupId plaintext])

/-- `process_outbound_file`: the FILE_HEADER with the first group id and the metadata, then the
file's groups. The counters are bumped before `scramble_encrypt_source` runs, so they stay
bumped when it fails. `none` is a panic: of `unwrap` on a missing ratchet, or in the scrambler. -/
def processOutboundFile (crypt : PeerSessionCrypto R) (source : List UInt8)
    (maxGroupSize : Option Nat) :
    Option (PeerSessionCrypto R × Except SplitterError (List Packet)) := do
  let (crypt, objectId) := crypt.getAndIncrementObjectId
  let (crypt, groupIdStart) := crypt.getAndIncrementGroupId
  let _ ← crypt.getHyperRatchet none
  match scrambleEncryptSource source maxGroupSize groupIdStart with
  | none => none
  | some (.error err) => pure (crypt, .error err)
  | some (.ok (fileSize, groupsNeeded, groups)) =>
      let fileMetadata : VirtualObjectMetadata :=
        { objectId := objectId, plaintextLength := fileSize, groupCount := groupsNeeded }
      -- `(groups_needed - 1) as u64`, with the wrapping arithmetic of a release build
      let amtToReserve := UInt64.ofNat groupsNeeded - 1
      pure ({ crypt with rollingGroupId := crypt.rollingGroupId + amtToReserve },
        .ok (.fileHeader groupIdStart fileMetadata :: groups.flatMap (groupPackets objectId)))

/-- What the application asks the session to send. -/
inductive Outbound
  | message (plaintext : List UInt8)
  | file (source : List UInt8) (maxGroupSize : Option Nat)

/-- One request and its packets; a file that fails to start sends nothing. -/
def processOutbound (crypt : PeerSessionCrypto R) : Outbound → Option (PeerSessionCrypto R × List Packet)
  | .message plaintext => processOutboundMessage crypt plaintext
  | .file source maxGroupSize =>
      (processOutboundFile crypt source maxGroupSize).map fun sent => (sent.1, sent.2.toOption.getD [])

/-- The requests one after another: the crypto state after them and the stream of packets, in
the order they go out. `none` if one of them panics. -/
def sendAll (crypt : PeerSessionCrypto R) : List Outbound → Option (PeerSessionCrypto R × List Packet)
  | [] => some (crypt, [])
  | request :: requests => do
      let (crypt, packets) ← processOutbound crypt request
      let (crypt, rest) ← sendAll crypt requests
      pure (crypt, packets ++ rest)

/-! ## What each request does to the counters -/

section Sending

variable {crypt : PeerSessionCrypto R} {hyperRatchet : R}

/-- A message goes out under the current group id, which the counter then passes. -/
theorem processOutboundMessage_eq (hratchet : crypt.getHyperRatchet none = some hyperRatchet)
    (plaintext : List UInt8) :
    processOutboundMessage crypt plaintext =
      some ({ crypt with rollingGroupId := crypt.rollingGroupId + 1 },
        [.messageGroupHeader crypt.rollingGroupId plaintext]) := by
  simp [processOutboundMessage, hratchet]

/-- A file of `n` groups goes out under the current object id, its groups under the `n` group
ids from the current one; the counter passes all `n` of them. -/
theorem processOutboundFile_eq (hratchet : crypt.getHyperRatchet none = some hyperRatchet)
    {source : List UInt8} {maxGroupSize : Option Nat}
    (hpos : 0 < maxGroupSize.getD defaultBytesPerGroup)
    (hmax : maxGroupSize.getD defaultBytesPerGroup ≤ maxBytesPerGroup) :
    processOutboundFile crypt source maxGroupSize =
      some ({ crypt with
          rollingObjectId := crypt.rollingObjectId + 1
          rollingGroupId := crypt.rollingGroupId +
            UInt64.ofNat (divCeil source.length (maxGroupSize.getD defaultBytesPerGroup)) },
        .ok (.fileHeader crypt.rollingGroupId
            { objectId := crypt.rollingObjectId, plaintextLength := source.length,
              groupCount := divCeil source.length (maxGroupSize.getD defaultBytesPerGroup) } ::
          (sourceGroups source (maxGroupSize.getD defaultBytesPerGroup)
            crypt.rollingGroupId).flatMap (groupPackets crypt.rollingObjectId))) := by
  -- the reservation `1 + (n - 1)` is `n` in wrapping arithmetic, whatever `n` is
  have hadvance : ∀ n : UInt64, crypt.rollingGroupId + 1 + (n - 1) = crypt.rollingGroupId + n := by
    intro n
    grind
  simp only [PeerSessionCrypto.getHyperRatchet, Option.getD_none] at hratchet
  simp [processOutboundFile, PeerSessionCrypto.getHyperRatchet, hratchet,
    scrambleEncryptSource_eq hpos hmax, hadvance]

/-- The same file request as the session issues it, with its packets. -/
theorem processOutbound_file_eq (hratchet : crypt.getHyperRatchet none = some hyperRatchet)
    {source : List UInt8} {b : Nat} (hpos : 0 < b) (hmax : b ≤ maxBytesPerGroup) :
    processOutbound crypt (.file source (some b)) =
      some ({ crypt with
          rollingObjectId := crypt.rollingObjectId + 1
          rollingGroupId := crypt.rollingGroupId + UInt64.ofNat (divCeil source.length b) },
        .fileHeader crypt.rollingGroupId
            { objectId := crypt.rollingObjectId, plaintextLength := source.length,
              groupCount := divCeil source.length b } ::
          (sourceGroups source b crypt.rollingGroupId).flatMap (groupPackets crypt.rollingObjectId)) := by
  have hfile : processOutboundFile crypt source (some b) = _ :=
    processOutboundFile_eq hratchet hpos hmax
  simp [processOutbound, hfile, Except.toOption]

theorem sendAll_cons_of_processOutbound {request : Outbound} {requests : List Outbound}
    {crypt' : PeerSessionCrypto R} {packets : List Packet}
    (hrequest : processOutbound crypt request = some (crypt', packets)) :
    sendAll crypt (request :: requests) =
      (sendAll crypt' requests).map fun sent => (sent.1, packets ++ sent.2) := by
  simp only [sendAll, hrequest, Option.bind_eq_bind, Option.bind_some]
  cases sendAll crypt' requests <;> rfl

/-- A run of messages goes out under consecutive group ids from the current one. The induction
is on the messages, each taking the id the previous one left. -/
theorem sendAll_messages (hratchet : crypt.getHyperRatchet none = some hyperRatchet)
    (plaintexts : List (List UInt8)) :
    sendAll crypt (plaintexts.map .message) =
      some ({ crypt with rollingGroupId := crypt.rollingGroupId + UInt64.ofNat plaintexts.length },
        plaintexts.mapIdx fun j plaintext =>
          .messageGroupHeader (crypt.rollingGroupId + UInt64.ofNat j) plaintext) := by
  induction plaintexts generalizing crypt with
  | nil => simp [sendAll]
  | cons plaintext plaintexts ih =>
      have hsent : processOutbound crypt (.message plaintext) = _ :=
        processOutboundMessage_eq hratchet plaintext
      have hnext : ({ crypt with rollingGroupId := crypt.rollingGroupId + 1 } :
          PeerSessionCrypto R).getHyperRatchet none = some hyperRatchet := by
        simpa using hratchet
      rw [List.map_cons, sendAll_cons_of_processOutbound hsent, ih hnext]
      simp only [Option.map_some, List.length_cons, List.mapIdx_cons, UInt64.ofNat_add,
        List.singleton_append, Option.some.injEq, Prod.mk.injEq]
      refine ⟨?_, ?_⟩
      · congr 1
        grind
      · congr 1
        · simp
        · refine List.mapIdx_eq_mapIdx_iff.mpr fun j _ => ?_
          simp only [UInt64.ofNat_one]
          congr 1
          grind

end Sending

/-! ## The messages of a stream -/

/-- A file's packets carry no message. -/
@[simp] theorem filterMap_message_flatMap_groupPackets (objectId : UInt32)
    (groups : List (UInt64 × List UInt8)) :
    (groups.flatMap (groupPackets objectId)).filterMap Packet.message = [] := by
  induction groups with
  | nil => rfl
  | cons group groups ih => simpa [groupPackets, Packet.message] using ih

/-- A run of message headers carries its messages, under their ids. -/
theorem filterMap_message_mapIdx (groupId : Nat → UInt64) (plaintexts : List (List UInt8)) :
    (plaintexts.mapIdx fun j plaintext => Packet.messageGroupHeader (groupId j) plaintext).filterMap
        Packet.message =
      plaintexts.mapIdx fun j plaintext => (groupId j, plaintext) := by
  induction plaintexts generalizing groupId with
  | nil => rfl
  | cons plaintext plaintexts ih =>
      simp only [List.mapIdx_cons, List.filterMap_cons, Packet.message]
      rw [ih fun j => groupId (j + 1)]

section Sending

variable {crypt : PeerSessionCrypto R} {hyperRatchet : R}

/-- Messages sent after a file of `n` groups take the group ids from `n` past the file's first;
the file's own packets carry no message. -/
theorem sendAll_file_messages (hratchet : crypt.getHyperRatchet none = some hyperRatchet)
    (source : List UInt8) {b : Nat} (hpos : 0 < b) (hmax : b ≤ maxBytesPerGroup)
    (plaintexts : List (List UInt8)) :
    ∃ crypt' filePackets,
      sendAll crypt (.file source (some b) :: plaintexts.map .message) =
        some (crypt', filePackets ++ plaintexts.mapIdx fun j plaintext =>
          .messageGroupHeader (crypt.rollingGroupId + UInt64.ofNat (divCeil source.length b) +
            UInt64.ofNat j) plaintext) ∧
      filePackets.filterMap Packet.message = [] := by
  have hfile : processOutbound crypt (.file source (some b)) = _ :=
    processOutbound_file_eq hratchet hpos hmax
  rw [sendAll_cons_of_processOutbound hfile, sendAll_messages ?hnext plaintexts]
  -- the file moves only the counters, not the ratchet
  case hnext => exact hratchet
  exact ⟨_, _, rfl, by rw [List.filterMap_cons_none rfl, filterMap_message_flatMap_groupPackets]⟩

end Sending

end CitadelProtocol.Proto
