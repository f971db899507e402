import CitadelProtocol.Proto.StateContainer

/-! # A session end to end

One endpoint sends a run of requests (`sendAll`) over a FIFO stream and the other receives the
stream (`StateContainer.receiveAll`). The sender numbers messages and files' groups from one
counter; the receiver judges a file complete by comparing the absolute id of a group with the
file's count of groups, and releases messages through the ordered channel by id. Both work only
when the counter is where the receiver assumes it is:

* whatever came before, a file's groups reach the receiver under the ids `start, ...,
  start + n - 1`, and it completes at the first of them equal to `n - 1`
  (`file_outputs_of_history`);
* a file is received whole, with one completion after its last group, when its first group id
  is 0, as for the first request of a fresh session (`first_file_received_whole`);
* after one message, a file of two groups completes after its first group, and its second half
  never reaches the backend (`file_after_message_completes_after_first_group`);
* a message sent after a file is never released, since the ordered channel waits for an id that
  went to the file (`message_after_file_never_released`).
-/

namespace CitadelProtocol.Proto

open Crypt Bytes StateContainer

variable {R : Type*}

/-- The bytes an output streams to the backend for the object. -/
def FileOutput.streamedBytes (objectId : UInt32) : FileOutput → List UInt8
  | .streamToHd objectId' chunk => if objectId' = objectId then chunk else []
  | _ => []

/-! ## What a file's groups hand on -/

section FileOutputs

variable {objectId : UInt32} {totalGroups : Nat}

/-- The outputs of a group that does not complete its file. -/
def tickOutputs (objectId : UInt32) (totalGroups : Nat) (group : UInt64 × List UInt8) :
    List FileOutput :=
  [.streamToHd objectId group.2, .receptionTick objectId group.1 totalGroups]

/-- Groups none of whose ids is `total_groups - 1` each stream their chunk and report a tick. -/
theorem fileOutputs_append_of_forall_ne {groups : List (UInt64 × List UInt8)}
    (hne : ∀ group ∈ groups, group.1 ≠ UInt64.ofNat totalGroups - 1)
    (rest : List (UInt64 × List UInt8)) :
    fileOutputs objectId totalGroups (groups ++ rest) =
      groups.flatMap (tickOutputs objectId totalGroups) ++ fileOutputs objectId totalGroups rest := by
  induction groups with
  | nil => rfl
  | cons group groups ih =>
      obtain ⟨groupId, chunk⟩ := group
      have hgroup : groupId ≠ UInt64.ofNat totalGroups - 1 := hne _ List.mem_cons_self
      rw [List.cons_append, fileOutputs, if_neg hgroup,
        ih fun group' hmem => hne group' (List.mem_cons_of_mem _ hmem)]
      simp [tickOutputs]

/-- The group whose id is `total_groups - 1` streams its chunk and completes the file, and the
groups after it hand on nothing. -/
theorem fileOutputs_cons_of_eq {group : UInt64 × List UInt8}
    (hlast : group.1 = UInt64.ofNat totalGroups - 1) (rest : List (UInt64 × List UInt8)) :
    fileOutputs objectId totalGroups (group :: rest) =
      [.streamToHd objectId group.2, .receptionComplete objectId] := by
  obtain ⟨groupId, chunk⟩ := group
  simp only at hlast
  simp [fileOutputs, hlast]

@[simp] theorem streamedBytes_tickOutputs (group : UInt64 × List UInt8) :
    (tickOutputs objectId totalGroups group).flatMap (FileOutput.streamedBytes objectId) =
      group.2 := by
  simp [tickOutputs, FileOutput.streamedBytes]

@[simp] theorem count_receptionComplete_tickOutputs (group : UInt64 × List UInt8) :
    (tickOutputs objectId totalGroups group).count (.receptionComplete objectId) = 0 := by
  simp [tickOutputs]

end FileOutputs

/-- The groups of a source carry the ids from the start id on. -/
theorem fst_getElem_sourceGroups {source : List UInt8} {bytesPerGroup : Nat} {groupId : UInt64}
    {k : Nat} (hk : k < (sourceGroups source bytesPerGroup groupId).length) :
    (sourceGroups source bytesPerGroup groupId)[k].1 = groupId + UInt64.ofNat k := by
  simp [sourceGroups]

/-! ## A file after any history -/

/-- Whatever the session sent before, a file goes out under the current object id, its `n`
groups under the `n` group ids from the current one, and the counter passes them; the receiver,
with no transfer of that object open and no group open, hands on `fileOutputs` over those
groups. -/
theorem file_outputs_of_history {crypt : PeerSessionCrypto R} {hyperRatchet : R}
    (hratchet : crypt.getHyperRatchet none = some hyperRatchet) (source : List UInt8) {b : Nat}
    (hpos : 0 < b) (hmax : b ≤ maxBytesPerGroup) (sc : StateContainer)
    (hobject : crypt.rollingObjectId ≠ 0) (hvacant : crypt.rollingObjectId ∉ sc.inboundFiles)
    (hidle : ∀ groupId, groupId ∉ sc.inboundGroups) :
    ∃ crypt' packets, processOutbound crypt (.file source (some b)) = some (crypt', packets) ∧
      crypt'.rollingGroupId = crypt.rollingGroupId + UInt64.ofNat (divCeil source.length b) ∧
      (sc.receiveAll packets).outputs = sc.outputs ++
        fileOutputs crypt.rollingObjectId (divCeil source.length b)
          (sourceGroups source b crypt.rollingGroupId) := by
  refine ⟨_, _, processOutbound_file_eq hratchet hpos hmax, rfl, ?_⟩
  exact outputs_receiveAll_file hobject hvacant fun group _ => hidle group.1

/-! ## The first file of a fresh session -/

/-- Groups numbered from 0, as many as the file counts: every group but the last streams its
chunk with a tick and the last one completes the file, so the streamed bytes are the source and
there is one completion, the last output. -/
theorem fileOutputs_sourceGroups_zero (objectId : UInt32) {source : List UInt8} {b : Nat}
    (hpos : 0 < b) (hsource : source ≠ []) (hcount : divCeil source.length b < 2 ^ 64) :
    let outputs := fileOutputs objectId (divCeil source.length b) (sourceGroups source b 0)
    outputs.flatMap (FileOutput.streamedBytes objectId) = source ∧
      outputs.count (.receptionComplete objectId) = 1 ∧
      outputs.getLast? = some (.receptionComplete objectId) := by
  intro outputs
  have hlen := length_sourceGroups source b 0
  have hnpos : 0 < divCeil source.length b :=
    divCeil_pos hpos (List.length_pos_iff.mpr hsource)
  have hne : sourceGroups source b 0 ≠ [] := by
    rw [← List.length_pos_iff, hlen]
    exact hnpos
  have hid : ∀ k (hk : k < (sourceGroups source b 0).length),
      (sourceGroups source b 0)[k].1 = UInt64.ofNat k := by
    intro k hk
    rw [fst_getElem_sourceGroups]
    simp
  -- only the last group carries the id `n - 1`
  have hinit : ∀ group ∈ (sourceGroups source b 0).dropLast,
      group.1 ≠ UInt64.ofNat (divCeil source.length b) - 1 := by
    intro group hmem
    obtain ⟨k, hk, rfl⟩ := List.getElem_of_mem hmem
    rw [List.length_dropLast, hlen] at hk
    rw [List.getElem_dropLast, hid, MachineInt.ofNat_sub_one hnpos]
    exact MachineInt.ofNat_ne_ofNat (by omega) (by omega) (by omega)
  have hlast : ((sourceGroups source b 0).getLast hne).1 =
      UInt64.ofNat (divCeil source.length b) - 1 := by
    rw [List.getLast_eq_getElem, hid, hlen, MachineInt.ofNat_sub_one hnpos]
  have houtputs : outputs =
      (sourceGroups source b 0).dropLast.flatMap (tickOutputs objectId (divCeil source.length b)) ++
        [.streamToHd objectId ((sourceGroups source b 0).getLast hne).2,
          .receptionComplete objectId] := by
    change fileOutputs _ _ _ = _
    conv_lhs => rw [← List.dropLast_append_getLast hne]
    rw [fileOutputs_append_of_forall_ne hinit, fileOutputs_cons_of_eq hlast]
  have hbytes : (sourceGroups source b 0).flatMap Prod.snd = source := flatMap_sourceGroups hpos 0
  refine ⟨?_, ?_, ?_⟩
  · rw [houtputs, List.flatMap_append, List.flatMap_assoc]
    conv_rhs => rw [← hbytes, ← List.dropLast_append_getLast hne]
    simp [FileOutput.streamedBytes]
  · rw [houtputs, List.count_append, List.count_flatMap]
    simp [Function.comp_def]
  · rw [houtputs]
    simp

/-- The first request of a fresh session, a file, is received whole: the bytes streamed to the
backend are the file's, and completion is signalled once, after everything else. -/
theorem first_file_received_whole (cid : UInt64) (hyperRatchet : R) (localIsInitiator : Bool)
    {source : List UInt8} {b : Nat} (hpos : 0 < b) (hmax : b ≤ maxBytesPerGroup)
    (hsource : source ≠ []) (hcount : divCeil source.length b < 2 ^ 64) :
    ∃ crypt packets,
      sendAll (PeerSessionCrypto.new (Toolset.new cid hyperRatchet) localIsInitiator)
          [.file source (some b)] = some (crypt, packets) ∧
        let outputs := (StateContainer.new.receiveAll packets).outputs
        outputs.flatMap (FileOutput.streamedBytes 1) = source ∧
          outputs.count (.receptionComplete 1) = 1 ∧
          outputs.getLast? = some (.receptionComplete 1) := by
  obtain ⟨crypt, packets, hfile, -, houtputs⟩ :=
    file_outputs_of_history (PeerSessionCrypto.getHyperRatchet_new cid hyperRatchet localIsInitiator)
      source hpos hmax StateContainer.new (by simp [PeerSessionCrypto.new]) (by simp [StateContainer.new])
      (by simp [StateContainer.new])
  refine ⟨crypt, packets, by simp [sendAll, hfile], ?_⟩
  show let outputs := (StateContainer.new.receiveAll packets).outputs; _
  rw [houtputs]
  exact fileOutputs_sourceGroups_zero 1 hpos hsource hcount

theorem first_file_received_whole_of_two_bytes :
    (0 < 1 ∧ 1 ≤ maxBytesPerGroup ∧ [0, 1] ≠ ([] : List UInt8) ∧ divCeil 2 1 < 2 ^ 64) ∧
      ∃ crypt packets,
        sendAll (PeerSessionCrypto.new (Toolset.new 0 ()) false)
            [.file [0, 1] (some 1)] = some (crypt, packets) ∧
          let outputs := (StateContainer.new.receiveAll packets).outputs
          outputs.flatMap (FileOutput.streamedBytes 1) = [0, 1] ∧
            outputs.count (.receptionComplete 1) = 1 ∧
            outputs.getLast? = some (.receptionComplete 1) :=
  ⟨⟨by decide, by decide, by decide, by decide⟩,
    first_file_received_whole 0 () false (by decide) (by decide) (by decide) (by decide)⟩

/-! ## A file after a message -/

/-- After one message, a file of two groups starts at group id 1; the receiver takes its first
group, id 1, for the last of two, signals completion after it and closes the transfer, so the
second half of the file never reaches the backend. -/
theorem file_after_message_completes_after_first_group (cid : UInt64) (hyperRatchet : R)
    (localIsInitiator : Bool) (message source : List UInt8) {b : Nat} (hpos : 0 < b)
    (hmax : b ≤ maxBytesPerGroup) (hlen : source.length = 2 * b) :
    ∃ crypt packets,
      sendAll (PeerSessionCrypto.new (Toolset.new cid hyperRatchet) localIsInitiator)
          [.message message, .file source (some b)] = some (crypt, packets) ∧
        (StateContainer.new.receiveAll packets).outputs =
          [.streamToHd 1 (source.take b), .receptionComplete 1] ∧
        source.take b ≠ source := by
  have hratchet0 := PeerSessionCrypto.getHyperRatchet_new cid hyperRatchet localIsInitiator
  -- the message takes group id 0
  have hmessage : processOutbound (PeerSessionCrypto.new (Toolset.new cid hyperRatchet)
      localIsInitiator) (.message message) = _ := processOutboundMessage_eq hratchet0 message
  generalize hcrypt1 : ({ PeerSessionCrypto.new (Toolset.new cid hyperRatchet) localIsInitiator with
    rollingGroupId := (PeerSessionCrypto.new (Toolset.new cid hyperRatchet)
      localIsInitiator).rollingGroupId + 1 } : PeerSessionCrypto R) = crypt1 at hmessage
  have hratchet1 : crypt1.getHyperRatchet none = some hyperRatchet := by
    rw [← hcrypt1]
    exact hratchet0
  -- the file starts at group id 1 and has two groups
  obtain ⟨crypt, filePackets, hfile, -, houtputs⟩ :=
    file_outputs_of_history hratchet1 source hpos hmax
      (StateContainer.new.processPacket (.messageGroupHeader 0 message))
      (by rw [← hcrypt1]; simp [PeerSessionCrypto.new]) (by rw [← hcrypt1]; simp [StateContainer.new, processPacket,
        forwardDataToOrderedChannel]) (by simp [StateContainer.new, processPacket,
        forwardDataToOrderedChannel])
  have hsource : source ≠ [] := by
    rw [← List.length_pos_iff, hlen]
    omega
  have hcount : divCeil source.length b = 2 := by
    rw [hlen]
    exact divCeil_mul hpos
  have hfirst : (crypt1.rollingGroupId, source.take b).1 = UInt64.ofNat 2 - 1 := by
    rw [← hcrypt1]
    show (0 : UInt64) + 1 = UInt64.ofNat 2 - 1
    decide
  refine ⟨crypt, [.messageGroupHeader 0 message] ++ filePackets, ?_, ?_, ?_⟩
  · rw [sendAll_cons_of_processOutbound hmessage, sendAll_cons_of_processOutbound hfile]
    simp [sendAll, PeerSessionCrypto.new]
  · rw [List.singleton_append, receiveAll_cons, houtputs, hcount, sourceGroups_of_ne_nil hpos hsource,
      fileOutputs_cons_of_eq hfirst, ← hcrypt1]
    rfl
  · intro htake
    have := congrArg List.length htake
    rw [List.length_take, hlen] at this
    omega

theorem file_after_message_completes_after_first_group_of_two_bytes :
    (0 < 1 ∧ 1 ≤ maxBytesPerGroup ∧ ([0, 1] : List UInt8).length = 2 * 1) ∧
      ∃ crypt packets,
        sendAll (PeerSessionCrypto.new (Toolset.new 0 ()) false)
            [.message [], .file [0, 1] (some 1)] = some (crypt, packets) ∧
          (StateContainer.new.receiveAll packets).outputs =
            [.streamToHd 1 ([0, 1].take 1), .receptionComplete 1] ∧
          ([0, 1] : List UInt8).take 1 ≠ [0, 1] :=
  ⟨⟨by decide, by decide, rfl⟩,
    file_after_message_completes_after_first_group 0 () false [] [0, 1] (by decide) (by decide) rfl⟩

/-! ## A message after a file -/

/-- After a message and a file, no later message is released, though each is forwarded to the
ordered channel: the first message takes id 0, the file's `n` groups the ids `1, ..., n` and the
messages after it the ids from `n + 1`, while the channel, having released id 0, waits for id 1,
which no message carries. -/
theorem message_after_file_never_released (cid : UInt64) (hyperRatchet : R)
    (localIsInitiator : Bool) (first source : List UInt8) {b : Nat} (hpos : 0 < b)
    (hmax : b ≤ maxBytesPerGroup) (hsource : source ≠ []) (last : List UInt8)
    (later : List (List UInt8)) (hbound : source.length + later.length < 2 ^ 64) :
    ∃ crypt packets,
      sendAll (PeerSessionCrypto.new (Toolset.new cid hyperRatchet) localIsInitiator)
          (.message first :: .file source (some b) :: (last :: later).map .message) =
        some (crypt, packets) ∧
      (∃ groupId, .messageGroupHeader groupId last ∈ packets) ∧
      (StateContainer.new.receiveAll packets).toChannel.sink = [first] := by
  have hratchet0 := PeerSessionCrypto.getHyperRatchet_new cid hyperRatchet localIsInitiator
  -- the first message takes id 0 and leaves the counter at 1
  obtain ⟨crypt1, hmessage, hgroup1, hratchet1⟩ : ∃ crypt1 : PeerSessionCrypto R,
      processOutbound (PeerSessionCrypto.new (Toolset.new cid hyperRatchet) localIsInitiator)
          (.message first) = some (crypt1, [.messageGroupHeader 0 first]) ∧
        crypt1.rollingGroupId = 1 ∧ crypt1.getHyperRatchet none = some hyperRatchet :=
    ⟨_, processOutboundMessage_eq hratchet0 first, rfl, hratchet0⟩
  obtain ⟨crypt, filePackets, hsent, hfileMessages⟩ :=
    sendAll_file_messages hratchet1 source hpos hmax (last :: later)
  -- the messages after the file carry the ids `1 + n + j`, none of which is 1
  have hids : ∀ msg ∈ (last :: later).mapIdx fun j plaintext =>
      (crypt1.rollingGroupId + UInt64.ofNat (divCeil source.length b) + UInt64.ofNat j, plaintext),
      msg.1 ≠ 1 := by
    intro msg hmem
    obtain ⟨j, hj, rfl⟩ := List.mem_mapIdx.mp hmem
    have hnpos : 0 < divCeil source.length b := divCeil_pos hpos (List.length_pos_iff.mpr hsource)
    have hnle : divCeil source.length b ≤ source.length := divCeil_le_self hpos
    simp only [List.length_cons] at hj
    dsimp only
    rw [hgroup1, UInt64.add_assoc, ← UInt64.ofNat_add]
    exact MachineInt.add_ofNat_ne_self (by omega) (by omega)
  refine ⟨crypt, [.messageGroupHeader 0 first] ++ (filePackets ++ (last :: later).mapIdx
    fun j plaintext => .messageGroupHeader
      (crypt1.rollingGroupId + UInt64.ofNat (divCeil source.length b) + UInt64.ofNat j) plaintext),
    ?_, ?_, ?_⟩
  · rw [sendAll_cons_of_processOutbound hmessage, hsent]
    rfl
  · refine ⟨crypt1.rollingGroupId + UInt64.ofNat (divCeil source.length b) + UInt64.ofNat 0,
      List.mem_append_right _ (List.mem_append_right _ ?_)⟩
    rw [List.mapIdx_cons]
    exact List.mem_cons_self
  · rw [toChannel_receiveAll, List.filterMap_append, List.filterMap_append, hfileMessages,
      filterMap_message_mapIdx fun j =>
        crypt1.rollingGroupId + UInt64.ofNat (divCeil source.length b) + UInt64.ofNat j,
      List.nil_append]
    simp only [List.filterMap_cons, Packet.message, List.filterMap_nil, List.singleton_append,
      OrderedChannel.receiveAll_cons]
    -- id 0 is released at once, and the channel then waits for id 1
    have hreleased : (StateContainer.new.toChannel.onPacketReceived 0 first).sink = _ ∧ _ :=
      OrderedChannel.onPacketReceived_of_eq_of_empty first rfl rfl
    have hwaiting := OrderedChannel.receiveAll_of_forall_ne fun msg hmem => by
      rw [hreleased.2]
      exact hids msg hmem
    rw [hwaiting.1, hreleased.1]
    rfl

theorem message_after_file_never_released_of_one_byte :
    (0 < 1 ∧ 1 ≤ maxBytesPerGroup ∧ [0] ≠ ([] : List UInt8) ∧
        ([0] : List UInt8).length + ([] : List (List UInt8)).length < 2 ^ 64) ∧
      ∃ crypt packets,
        sendAll (PeerSessionCrypto.new (Toolset.new 0 ()) false)
            (.message [] :: .file [0] (some 1) :: ([[1]] : List (List UInt8)).map .message) =
          some (crypt, packets) ∧
        (∃ groupId, .messageGroupHeader groupId [1] ∈ packets) ∧
        (StateContainer.new.receiveAll packets).toChannel.sink = [[]] :=
  ⟨⟨by decide, by decide, by decide, by decide⟩,
    message_after_file_never_released 0 () false [] [0] (by decide) (by decide) (by decide) [1] []
      (by decide)⟩

end CitadelProtocol.Proto
