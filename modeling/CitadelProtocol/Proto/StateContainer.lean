import CitadelProtocol.Proto.Session
import CitadelProtocol.Proto.OrderedChannel

/-! # What the receiving end of a session does with it

The handlers of `StateContainerInner` that a session's messages and files reach, and the
dispatch of `process_primary_packet` and the file packet processor over them:

* a message's GROUP_HEADER goes to `forward_data_to_ordered_channel` under its group id;
* a FILE_HEADER opens an inbound transfer of `group_count` groups under its object id
  (`on_file_header_received`, once the local user accepts); the first group id it carries is
  not recorded;
* a group's GROUP_HEADER opens a group receiver, but only while its object's transfer is open
  (`on_group_header_received`);
* the payload packet that completes a group streams the group's plaintext to the backend and
  closes the group; when the group id equals `total_groups - 1`, it also signals
  `reception_complete_tx` and closes the transfer (`on_group_payload_received`).

A handler that refuses a packet (`None`, `false`, or an error the caller logs) leaves the state
as it was. The maps are keyed by object id and group id: the session cid in `FileKey` and
`GroupKey` is the peer's, the same for every packet of one session.

The run lemmas at the end say what a file's groups do to an open transfer: the receiver hands
on each group's chunk, and completes, once and for good, at the first group whose absolute id
is `total_groups - 1`.
-/

namespace CitadelProtocol.Proto

/-- `InboundFileTransfer`, with the fields the handlers read. -/
structure InboundFileTransfer where
  objectId : UInt32
  totalGroups : Nat
  deriving DecidableEq, Repr

/-- `GroupReceiverContainer`, with the object its group belongs to; the `GroupReceiver` itself
is left to the per-group round trip. -/
structure GroupReceiverContainer where
  objectId : UInt32
  deriving DecidableEq, Repr

/-- What the handlers hand on to the rest of the node: the chunks sent into a transfer's
`stream_to_hd`, the signal of its `reception_complete_tx`, and the `ReceptionTick` statuses
sent to its `file_transfer_handle`. -/
inductive FileOutput
  | streamToHd (objectId : UInt32) (chunk : List UInt8)
  | receptionComplete (objectId : UInt32)
  | receptionTick (objectId : UInt32) (groupId : UInt64) (totalGroups : Nat)
  deriving DecidableEq, Repr

/-- The errors of `on_group_payload_received`: "inbound_groups does not contain key for ..."
and the same of `inbound_files` and of `file_transfer_handle`. -/
inductive PayloadError
  | inboundGroupsMissing (groupId : UInt64)
  | inboundFilesMissing (objectId : UInt32)
  | fileTransferHandleMissing (objectId : UInt32)
  deriving DecidableEq, Repr

/-- `StateContainerInner`, with what the handlers of one session read and write; `toChannel`
is the ordered channel of the session's C2S container. -/
structure StateContainer where
  inboundFiles : AList fun _ : UInt32 => InboundFileTransfer
  fileTransferHandles : List UInt32
  inboundGroups : AList fun _ : UInt64 => GroupReceiverContainer
  toChannel : OrderedChannel (List UInt8)
  outputs : List FileOutput

namespace StateContainer

/-- A session that has received nothing yet. -/
def new : StateContainer := ⟨∅, [], ∅, .new, []⟩

/-- `forward_data_to_ordered_channel` for the session's own channel (`target_cid == 0`), whose
sink stays open. -/
def forwardDataToOrderedChannel (sc : StateContainer) (groupId : UInt64) (data : List UInt8) :
    StateContainer :=
  { sc with toChannel := sc.toChannel.onPacketReceived groupId data }

/-- `on_file_header_received`, with the local user accepting the transfer: a vacant object id
opens a transfer of `group_count` groups and its handle; `none` (`false`) for a duplicate. -/
def onFileHeaderReceived (sc : StateContainer) (metadata : VirtualObjectMetadata) :
    Option StateContainer :=
  if metadata.objectId ∈ sc.inboundFiles then none
  else some { sc with
    inboundFiles := sc.inboundFiles.insert metadata.objectId
      { objectId := metadata.objectId, totalGroups := metadata.groupCount }
    fileTransferHandles := metadata.objectId :: sc.fileTransferHandles }

/-- `on_group_header_received`: a vacant group id opens a group receiver; `none` for a duplicate
header, or when the header names an object (`object_id != 0`) with no open transfer. -/
def onGroupHeaderReceived (sc : StateContainer) (objectId : UInt32) (groupId : UInt64) :
    Option StateContainer :=
  if groupId ∈ sc.inboundGroups then none
  else if objectId ≠ 0 ∧ objectId ∉ sc.inboundFiles then none
  else some { sc with inboundGroups := sc.inboundGroups.insert groupId { objectId := objectId } }

/-- `on_group_payload_received` on the payload packet that completes its group
(`GROUP_COMPLETE`): the group's receiver is removed and its plaintext streamed; the transfer
completes, and is removed with its handle, when the group id equals `total_groups - 1`, and
otherwise reports a tick. -/
def onGroupPayloadReceived (sc : StateContainer) (groupId : UInt64) (chunk : List UInt8) :
    Except PayloadError StateContainer :=
  match sc.inboundGroups.lookup groupId with
  | none => .error (.inboundGroupsMissing groupId)
  | some grc =>
      match sc.inboundFiles.lookup grc.objectId with
      | none => .error (.inboundFilesMissing grc.objectId)
      | some fileContainer =>
          if grc.objectId ∉ sc.fileTransferHandles then
            .error (.fileTransferHandleMissing grc.objectId)
          else
            let sc := { sc with
              inboundGroups := sc.inboundGroups.erase groupId
              outputs := sc.outputs ++ [FileOutput.streamToHd grc.objectId chunk] }
            -- `group_id as usize == total_groups - 1`, 64-bit and wrapping as in a release
            -- build: the absolute group id against a count of groups
            if groupId = UInt64.ofNat fileContainer.totalGroups - 1 then
              .ok { sc with
                inboundFiles := sc.inboundFiles.erase grc.objectId
                fileTransferHandles := sc.fileTransferHandles.erase grc.objectId
                outputs := sc.outputs ++ [FileOutput.receptionComplete grc.objectId] }
            else
              .ok { sc with
                outputs := sc.outputs ++
                  [FileOutput.receptionTick grc.objectId groupId fileContainer.totalGroups] }

/-- The receiver's handling of one packet of the stream. -/
def processPacket (sc : StateContainer) : Packet → StateContainer
  | .messageGroupHeader groupId plaintext => sc.forwardDataToOrderedChannel groupId plaintext
  | .fileHeader _ metadata => (sc.onFileHeaderReceived metadata).getD sc
  | .groupHeader objectId groupId => (sc.onGroupHeaderReceived objectId groupId).getD sc
  | .groupPayload groupId chunk =>
      match sc.onGroupPayloadReceived groupId chunk with
      | .ok sc => sc
      | .error _ => sc

/-- The receiver after a stream of packets, in order. -/
def receiveAll (sc : StateContainer) (packets : List Packet) : StateContainer :=
  packets.foldl processPacket sc

@[simp] theorem receiveAll_nil (sc : StateContainer) : sc.receiveAll [] = sc := rfl

@[simp] theorem receiveAll_cons (sc : StateContainer) (packet : Packet) (packets : List Packet) :
    sc.receiveAll (packet :: packets) = (sc.processPacket packet).receiveAll packets := rfl

theorem receiveAll_append (sc : StateContainer) (packets packets' : List Packet) :
    sc.receiveAll (packets ++ packets') = (sc.receiveAll packets).receiveAll packets' := by
  simp [receiveAll, List.foldl_append]

/-! ## The messages -/

/-- The file handlers leave the ordered channel alone. -/
theorem toChannel_of_onGroupPayloadReceived {sc sc' : StateContainer} {groupId : UInt64}
    {chunk : List UInt8} (hpayload : sc.onGroupPayloadReceived groupId chunk = .ok sc') :
    sc'.toChannel = sc.toChannel := by
  unfold onGroupPayloadReceived at hpayload
  split at hpayload
  · cases hpayload
  · split at hpayload
    · cases hpayload
    · split at hpayload
      · cases hpayload
      · split at hpayload <;> (injection hpayload with hpayload; subst hpayload; rfl)

/-- Only a message's packet reaches the ordered channel. -/
theorem toChannel_processPacket (sc : StateContainer) (packet : Packet) :
    (sc.processPacket packet).toChannel =
      match packet.message with
      | some (groupId, plaintext) => sc.toChannel.onPacketReceived groupId plaintext
      | none => sc.toChannel := by
  cases packet with
  | messageGroupHeader groupId plaintext => rfl
  | fileHeader groupIdStart metadata =>
      simp only [processPacket, Packet.message, onFileHeaderReceived]
      split <;> rfl
  | groupHeader objectId groupId =>
      simp only [processPacket, Packet.message, onGroupHeaderReceived]
      split
      · rfl
      · split <;> rfl
  | groupPayload groupId chunk =>
      simp only [processPacket, Packet.message]
      split
      · exact toChannel_of_onGroupPayloadReceived ‹_›
      · rfl

/-- Over a stream, the ordered channel receives the stream's messages, in order. -/
theorem toChannel_receiveAll (sc : StateContainer) (packets : List Packet) :
    (sc.receiveAll packets).toChannel = sc.toChannel.receiveAll (packets.filterMap Packet.message) := by
  induction packets generalizing sc with
  | nil => rfl
  | cons packet packets ih =>
      rw [receiveAll_cons, ih, toChannel_processPacket]
      cases hmessage : packet.message with
      | none => simp [hmessage]
      | some message => simp [hmessage]

/-! ## A file's groups -/

/-- An inbound transfer of `totalGroups` groups is open for the object. -/
structure FileOpen (sc : StateContainer) (objectId : UInt32) (totalGroups : Nat) : Prop where
  lookup : sc.inboundFiles.lookup objectId = some ⟨objectId, totalGroups⟩
  handle : objectId ∈ sc.fileTransferHandles

theorem FileOpen.mem {sc : StateContainer} {objectId : UInt32} {totalGroups : Nat}
    (hopen : sc.FileOpen objectId totalGroups) : objectId ∈ sc.inboundFiles :=
  AList.lookup_isSome.mp (by rw [hopen.lookup]; rfl)

/-- A FILE_HEADER for a vacant object id opens its transfer. -/
theorem onFileHeaderReceived_of_notMem {sc : StateContainer} {metadata : VirtualObjectMetadata}
    (hvacant : metadata.objectId ∉ sc.inboundFiles) :
    ∃ sc', sc.onFileHeaderReceived metadata = some sc' ∧
      sc'.FileOpen metadata.objectId metadata.groupCount ∧ sc'.inboundGroups = sc.inboundGroups ∧
      sc'.outputs = sc.outputs := by
  refine ⟨_, if_neg hvacant, ⟨?_, ?_⟩, rfl, rfl⟩
  · simp
  · simp

/-- The header of a fresh group of an open transfer opens the group. -/
theorem onGroupHeaderReceived_of_open {sc : StateContainer} {objectId : UInt32}
    {totalGroups : Nat} {groupId : UInt64} (hopen : sc.FileOpen objectId totalGroups)
    (hfresh : groupId ∉ sc.inboundGroups) :
    sc.onGroupHeaderReceived objectId groupId =
      some { sc with inboundGroups := sc.inboundGroups.insert groupId { objectId := objectId } } := by
  simp [onGroupHeaderReceived, hfresh, hopen.mem]

/-- The header of a group of an object with no open transfer is refused. -/
theorem onGroupHeaderReceived_of_closed {sc : StateContainer} {objectId : UInt32}
    (hobject : objectId ≠ 0) (hclosed : objectId ∉ sc.inboundFiles) (groupId : UInt64) :
    sc.onGroupHeaderReceived objectId groupId = none := by
  unfold onGroupHeaderReceived
  split
  · rfl
  · exact if_pos ⟨hobject, hclosed⟩

/-- The payload of a group with no receiver is an error. -/
theorem onGroupPayloadReceived_of_notMem {sc : StateContainer} {groupId : UInt64}
    (hmissing : groupId ∉ sc.inboundGroups) (chunk : List UInt8) :
    sc.onGroupPayloadReceived groupId chunk = .error (.inboundGroupsMissing groupId) := by
  simp [onGroupPayloadReceived, AList.lookup_eq_none.mpr hmissing]

section Groups

variable {sc : StateContainer} {objectId : UInt32} {totalGroups : Nat} {groupId : UInt64}

/-- The payload completing an open group of an open transfer, not its last by id: the chunk is
streamed and a tick reported. -/
theorem onGroupPayloadReceived_of_ne (hopen : sc.FileOpen objectId totalGroups)
    (hgroup : sc.inboundGroups.lookup groupId = some ⟨objectId⟩)
    (hlast : groupId ≠ UInt64.ofNat totalGroups - 1) (chunk : List UInt8) :
    sc.onGroupPayloadReceived groupId chunk = .ok { sc with
      inboundGroups := sc.inboundGroups.erase groupId
      outputs := sc.outputs ++
        [.streamToHd objectId chunk, .receptionTick objectId groupId totalGroups] } := by
  simp [onGroupPayloadReceived, hgroup, hopen.lookup, hopen.handle, hlast]

/-- The payload completing an open group of an open transfer whose id is `total_groups - 1`:
the chunk is streamed, completion signalled, and the transfer closed. -/
theorem onGroupPayloadReceived_of_eq (hopen : sc.FileOpen objectId totalGroups)
    (hgroup : sc.inboundGroups.lookup groupId = some ⟨objectId⟩)
    (hlast : groupId = UInt64.ofNat totalGroups - 1) (chunk : List UInt8) :
    sc.onGroupPayloadReceived groupId chunk = .ok { sc with
      inboundFiles := sc.inboundFiles.erase objectId
      fileTransferHandles := sc.fileTransferHandles.erase objectId
      inboundGroups := sc.inboundGroups.erase groupId
      outputs := sc.outputs ++ [.streamToHd objectId chunk, .receptionComplete objectId] } := by
  simp [onGroupPayloadReceived, hgroup, hopen.lookup, hopen.handle, hlast]

/-- Opening a group keeps its transfer open. -/
theorem FileOpen.insertGroup (hopen : sc.FileOpen objectId totalGroups)
    (group : GroupReceiverContainer) :
    ({ sc with inboundGroups := sc.inboundGroups.insert groupId group } : StateContainer).FileOpen
      objectId totalGroups :=
  ⟨hopen.lookup, hopen.handle⟩

/-- A fresh group of an open transfer that is not its last by id: its chunk is streamed, a
tick reported, and the transfer stays open. -/
theorem receiveAll_groupPackets_of_ne (hopen : sc.FileOpen objectId totalGroups)
    (hfresh : groupId ∉ sc.inboundGroups) (hlast : groupId ≠ UInt64.ofNat totalGroups - 1)
    (chunk : List UInt8) :
    let sc' := sc.receiveAll (groupPackets objectId (groupId, chunk))
    sc'.outputs = sc.outputs ++
        [.streamToHd objectId chunk, .receptionTick objectId groupId totalGroups] ∧
      sc'.FileOpen objectId totalGroups ∧
      ∀ groupId', groupId' ∈ sc'.inboundGroups ↔ groupId' ≠ groupId ∧ groupId' ∈ sc.inboundGroups := by
  have hpayload := onGroupPayloadReceived_of_ne (hopen.insertGroup ⟨objectId⟩)
    (AList.lookup_insert _) hlast chunk
  simp only [groupPackets, receiveAll_cons, receiveAll_nil, processPacket,
    onGroupHeaderReceived_of_open hopen hfresh, Option.getD_some, hpayload]
  refine ⟨trivial, ⟨hopen.lookup, hopen.handle⟩, fun groupId' => ?_⟩
  simp only [AList.mem_erase, AList.mem_insert]
  tauto

/-- A fresh group of an open transfer whose id is `total_groups - 1`: its chunk is streamed,
completion signalled, and the transfer closed. -/
theorem receiveAll_groupPackets_of_eq (hopen : sc.FileOpen objectId totalGroups)
    (hfresh : groupId ∉ sc.inboundGroups) (hlast : groupId = UInt64.ofNat totalGroups - 1)
    (chunk : List UInt8) :
    let sc' := sc.receiveAll (groupPackets objectId (groupId, chunk))
    sc'.outputs = sc.outputs ++ [.streamToHd objectId chunk, .receptionComplete objectId] ∧
      objectId ∉ sc'.inboundFiles ∧
      ∀ groupId', groupId' ∈ sc'.inboundGroups ↔ groupId' ≠ groupId ∧ groupId' ∈ sc.inboundGroups := by
  have hpayload := onGroupPayloadReceived_of_eq (hopen.insertGroup ⟨objectId⟩)
    (AList.lookup_insert _) hlast chunk
  simp only [groupPackets, receiveAll_cons, receiveAll_nil, processPacket,
    onGroupHeaderReceived_of_open hopen hfresh, Option.getD_some, hpayload]
  refine ⟨trivial, by simp, fun groupId' => ?_⟩
  simp only [AList.mem_erase, AList.mem_insert]
  tauto

/-- A fresh group of an object with no open transfer changes nothing: its header is refused,
so its payload finds no receiver. -/
theorem receiveAll_groupPackets_of_closed (hobject : objectId ≠ 0)
    (hclosed : objectId ∉ sc.inboundFiles) (hfresh : groupId ∉ sc.inboundGroups)
    (chunk : List UInt8) :
    sc.receiveAll (groupPackets objectId (groupId, chunk)) = sc := by
  simp [groupPackets, processPacket, onGroupHeaderReceived_of_closed hobject hclosed,
    onGroupPayloadReceived_of_notMem hfresh]

end Groups

/-- What the receiver hands on for the groups of an open transfer of `totalGroups` groups, as
they come: each group's chunk, then completion if the group's id is `total_groups - 1`, which
closes the transfer so that later groups hand on nothing, or else a tick. -/
def fileOutputs (objectId : UInt32) (totalGroups : Nat) :
    List (UInt64 × List UInt8) → List FileOutput
  | [] => []
  | (groupId, chunk) :: groups =>
      .streamToHd objectId chunk ::
        if groupId = UInt64.ofNat totalGroups - 1 then [.receptionComplete objectId]
        else .receptionTick objectId groupId totalGroups :: fileOutputs objectId totalGroups groups

/-- Groups of an object with no open transfer change nothing. -/
theorem receiveAll_flatMap_groupPackets_of_closed {sc : StateContainer} {objectId : UInt32}
    (hobject : objectId ≠ 0) (hclosed : objectId ∉ sc.inboundFiles)
    {groups : List (UInt64 × List UInt8)} (hfresh : ∀ group ∈ groups, group.1 ∉ sc.inboundGroups) :
    sc.receiveAll (groups.flatMap (groupPackets objectId)) = sc := by
  induction groups with
  | nil => rfl
  | cons group groups ih =>
      rw [List.flatMap_cons, receiveAll_append,
        receiveAll_groupPackets_of_closed hobject hclosed (hfresh group List.mem_cons_self) _]
      exact ih fun group' hmem => hfresh group' (List.mem_cons_of_mem group hmem)

/-- The run lemma: over an open transfer, groups of fresh ids hand on
`fileOutputs`. The induction is on the groups; the transfer stays open until the group whose
id is `total_groups - 1`, after which the rest change nothing. -/
theorem outputs_receiveAll_flatMap_groupPackets {sc : StateContainer} {objectId : UInt32}
    {totalGroups : Nat} (hobject : objectId ≠ 0) (hopen : sc.FileOpen objectId totalGroups)
    {groups : List (UInt64 × List UInt8)} (hfresh : ∀ group ∈ groups, group.1 ∉ sc.inboundGroups) :
    (sc.receiveAll (groups.flatMap (groupPackets objectId))).outputs =
      sc.outputs ++ fileOutputs objectId totalGroups groups := by
  induction groups generalizing sc with
  | nil => simp [fileOutputs]
  | cons group groups ih =>
      obtain ⟨groupId, chunk⟩ := group
      have hhead : groupId ∉ sc.inboundGroups := hfresh _ List.mem_cons_self
      -- the later groups are still fresh once this one has come and gone
      have hrest : ∀ sc' : StateContainer,
          (∀ groupId', groupId' ∈ sc'.inboundGroups ↔
            groupId' ≠ groupId ∧ groupId' ∈ sc.inboundGroups) →
          ∀ group ∈ groups, group.1 ∉ sc'.inboundGroups := by
        intro sc' hmem group hgroup hin
        exact hfresh group (List.mem_cons_of_mem _ hgroup) ((hmem group.1).mp hin).2
      rw [List.flatMap_cons, receiveAll_append, fileOutputs]
      by_cases hlast : groupId = UInt64.ofNat totalGroups - 1
      · obtain ⟨houtputs, hclosed, hmem⟩ :=
          receiveAll_groupPackets_of_eq hopen hhead hlast chunk
        rw [receiveAll_flatMap_groupPackets_of_closed hobject hclosed (hrest _ hmem), houtputs,
          if_pos hlast]
      · obtain ⟨houtputs, hopen', hmem⟩ :=
          receiveAll_groupPackets_of_ne hopen hhead hlast chunk
        rw [ih hopen' (hrest _ hmem), houtputs, if_neg hlast]
        simp

/-- A file's packets: its FILE_HEADER opens the transfer, and its groups then hand on
`fileOutputs`. -/
theorem outputs_receiveAll_file {sc : StateContainer} {groupIdStart : UInt64}
    {metadata : VirtualObjectMetadata} (hobject : metadata.objectId ≠ 0)
    (hvacant : metadata.objectId ∉ sc.inboundFiles) {groups : List (UInt64 × List UInt8)}
    (hfresh : ∀ group ∈ groups, group.1 ∉ sc.inboundGroups) :
    (sc.receiveAll (.fileHeader groupIdStart metadata ::
        groups.flatMap (groupPackets metadata.objectId))).outputs =
      sc.outputs ++ fileOutputs metadata.objectId metadata.groupCount groups := by
  obtain ⟨sc', hheader, hopen, hgroups, houtputs⟩ := onFileHeaderReceived_of_notMem hvacant
  rw [receiveAll_cons, processPacket, hheader, Option.getD_some, ← houtputs]
  exact outputs_receiveAll_flatMap_groupPackets hobject hopen (hgroups ▸ hfresh)

end StateContainer

end CitadelProtocol.Proto
