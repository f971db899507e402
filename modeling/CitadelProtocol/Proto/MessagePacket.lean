import CitadelProtocol.Crypt.SecPacket
import CitadelProtocol.Crypt.StackedRatchet
import CitadelProtocol.Proto.GroupPayload

/-! # Fast messages in their group header

A message small enough to travel in its group header is framed once and written in three
turns. `SecureProtocolPacket::from` reserves the header partition, then writes the message after
its big-endian `u32` length; `GroupTransmitter::new_message` keeps that packet as the group's
oneshot; `craft_group_header_packet` writes the `HdpHeader` into the header partition and then
appends the bincode encoding of the post-quantum transfer, if any, as the extension.
`validate_message` reads the message and the transfer back from everything after the header.

`fastMessagePlaintext_eq` gives the packet for every message whose length fits the `u32` field:
the extension is written from the `u32` sum of the header's and the payload's widths. Below
`2 ^ 32` that is the end of the packet, and the message and the transfer read back; from a
message of `2 ^ 32 - 64` bytes on the sum wraps, and the transfer's encoding is written over the
header.
-/

namespace CitadelProtocol.Proto

open Crypt Bytes Outcome

/-! ## Bincode through `SyncIO` -/

/-- The limit `bincode_config` sets on encodings. -/
def bincodeLimit : Nat := 1000 * 1000 * 1000 * 4

/-- A type's `bincode2` encoding, as `SyncIO` reaches it: the bytes of a value, and the value a
byte string decodes to. -/
structure Bincode (α : Type) where
  serialize : α → List UInt8
  deserialize : List UInt8 → Option α

/-- Bincode reads back every value it writes. -/
def Bincode.ReadsBack {α : Type} (codec : Bincode α) : Prop :=
  ∀ x, codec.deserialize (codec.serialize x) = some x

namespace SyncIo

variable {α : Type} (codec : Bincode α)

/-- `serialized_size`: the length of the encoding, or `None` past the limit. -/
def serializedSize (x : α) : Option Nat :=
  if (codec.serialize x).length ≤ bincodeLimit then some (codec.serialize x).length else none

/-- `serialize_into_slice`: bincode refuses an encoding past its limit before writing, and
otherwise writes the encoding at the front of the slice, failing once the slice is full. The
errors carry bincode's texts. -/
def serializeIntoSlice (x : α) (slice : List UInt8) : List UInt8 × Except String Unit :=
  let bytes := codec.serialize x
  if bincodeLimit < bytes.length then (slice, .error "the size limit has been reached")
  else if slice.length < bytes.length then
    (bytes.take slice.length, .error "io error: failed to write whole buffer")
  else (bytes ++ slice.drop bytes.length, .ok ())

/-- `serialize_into_buf`: the encoding appended to the buffer. -/
def serializeIntoBuf (x : α) (buf : List UInt8) : Except String (List UInt8) :=
  if (codec.serialize x).length ≤ bincodeLimit then .ok (buf ++ codec.serialize x)
  else .error "Bad ser"

/-- `deserialize_from_vector`, with its error dropped as its callers here drop it. -/
def deserializeFromVector (input : List UInt8) : Option α := codec.deserialize input

/-- An encoding within the limit and a slice with room for it: the encoding is written at the
front, and the rest of the slice is left. -/
theorem serializeIntoSlice_of_le {x : α} {slice : List UInt8}
    (hlimit : (codec.serialize x).length ≤ bincodeLimit)
    (hroom : (codec.serialize x).length ≤ slice.length) :
    serializeIntoSlice codec x slice =
      (codec.serialize x ++ slice.drop (codec.serialize x).length, .ok ()) := by
  simp [serializeIntoSlice, Nat.not_lt.mpr hlimit, Nat.not_lt.mpr hroom]

end SyncIo

/-! ## The packet, the transmitter and the header -/

/-- `SecureProtocolPacket`: a packet whose header partition holds an `HdpHeader`. -/
structure SecureProtocolPacket where
  inner : SecureMessagePacket

namespace SecureProtocolPacket

/-- `SecureProtocolPacket::new`: `SecureMessagePacket::new().unwrap()`. -/
def new : Option SecureProtocolPacket :=
  match (SecureMessagePacket.new hdpHeaderByteLen).run with
  | some (.ok inner) => some ⟨inner⟩
  | _ => none

/-- `<[u8]>::copy_from_slice`, which panics unless the two lengths agree. -/
def copyFromSlice (bytes : List UInt8) : SliceWriter := fun slice =>
  if slice.length = bytes.length then some (bytes, .ok ()) else none

/-- `impl From<T: AsRef<[u8]>> for SecureProtocolPacket`: the bytes written as the payload, their
length cast to `u32`. -/
def «from» (bytes : List UInt8) : Option SecureProtocolPacket := do
  let this ← new
  let (inner, ret) ← this.inner.writePayload (UInt32.ofNat bytes.length) (copyFromSlice bytes)
  ret.toOption
  pure ⟨inner⟩

/-- `extract_message`: the message, and the bytes the input is left with. -/
def extractMessage (input : List UInt8) : Except IoError (List UInt8 × List UInt8) :=
  SecureMessagePacket.extractPayload input

end SecureProtocolPacket

/-- `VirtualConnectionType`, the target of a group. -/
inductive VirtualConnectionType
  | localGroupPeer (implicatedCid targetCid : UInt64)
  | externalGroupPeer (implicatedCid icid targetCid : UInt64)
  | localGroupServer (implicatedCid : UInt64)
  | externalGroupServer (implicatedCid icid : UInt64)
  deriving DecidableEq, Repr

/-- `get_target_cid`: a server connection within the group targets CID 0. -/
def VirtualConnectionType.getTargetCid : VirtualConnectionType → UInt64
  | .localGroupPeer _ targetCid => targetCid
  | .externalGroupPeer _ _ targetCid => targetCid
  | .localGroupServer _ => 0
  | .externalGroupServer _ icid => icid

/-- `validation::group::GroupHeader`. -/
inductive GroupHeader
  | standard (cfg : GroupReceiverConfig) (virtualTarget : VirtualConnectionType)

/-- `RatchetPacketCrafterContainer`: the ratchet that protects, and the constructor of the next
one while an update is under way. -/
structure RatchetPacketCrafterContainer (C : Type) where
  base : StackedRatchet
  baseConstructor : Option C

/-- `GroupTransmitter`, without its outbound stream and its clock. The oneshot packet that the
source keeps inside `group_transmitter` is kept beside it. -/
structure GroupTransmitter (C : Type) where
  hyperRatchetContainer : RatchetPacketCrafterContainer C
  groupTransmitter : GroupSenderDevice
  oneshot : Option SecureMessagePacket
  groupConfig : GroupReceiverConfig
  objectId : UInt32
  groupId : UInt64
  ticket : Nat
  securityLevel : SecurityLevel
  bytesEncrypted : Nat
  isMessage : Bool

/-- `HDP_HEADER_EXTENDED_BYTE_LEN`: the header and two port bytes. -/
def hdpHeaderExtendedByteLen : Nat := hdpHeaderByteLen + 2

namespace GroupTransmitter

variable {C : Type}

/-- `GroupTransmitter::new_message`: a group of the one packet, kept as its oneshot. -/
def newMessage (objectId : UInt32) (hyperRatchet : RatchetPacketCrafterContainer C)
    (inputPacket : SecureProtocolPacket) (securityLevel : SecurityLevel) (groupId : UInt64)
    (ticket : Nat) : Option (GroupTransmitter C) :=
  let bytesEncrypted := inputPacket.inner.messageLen
  match oneshotUnencryptedGroupUnified inputPacket.inner hdpHeaderExtendedByteLen groupId with
  | .ok (groupTransmitter, oneshot) =>
      some { hyperRatchetContainer := hyperRatchet, groupTransmitter, oneshot,
             groupConfig := groupTransmitter.getReceiverConfig, objectId, groupId, ticket,
             securityLevel, bytesEncrypted, isMessage := true }
  | .error _ => none

/-- `get_unencrypted_oneshot_packet`: the oneshot, taken out of the transmitter. -/
def getUnencryptedOneshotPacket (self : GroupTransmitter C) :
    GroupTransmitter C × Option SecureProtocolPacket :=
  ({ self with oneshot := none }, self.oneshot.map SecureProtocolPacket.mk)

/-- The `HdpHeader` that `craft_group_header_packet` builds, stamped with the clock's `now`; a
ratchet with no layer panics at its CID. -/
def groupHeaderHdp (processor : GroupTransmitter C) (virtualTarget : VirtualConnectionType)
    (now : Int) : Option HdpHeader := do
  let sessionCid ← processor.hyperRatchetContainer.base.getCid
  let drillVersion ← processor.hyperRatchetContainer.base.version
  pure { cmdPrimary := groupPacket, cmdAux := groupHeader
         algorithm := if processor.isMessage then 1 else 0
         securityLevel := processor.securityLevel.value, contextInfo := processor.ticket
         group := processor.groupId, waveId := processor.objectId, sessionCid, drillVersion
         timestamp := now, targetCid := virtualTarget.getTargetCid }

section Craft

-- the bincode of the transfer and of the group header, and `stage0_alice` of a constructor
variable {T : Type} (kemCodec : Bincode (Option T)) (headerCodec : Bincode GroupHeader)
  (stage0Alice : C → Option T)

/-- The packet `craft_group_header_packet` holds before `protect_message_packet`, and the
transmitter after it. A message's oneshot gets the header and then the transfer's encoding as its
extension; any other group gets the header followed by its `GroupHeader`. Every `unwrap` of the
source is a panic here. -/
def groupHeaderPlaintext (processor : GroupTransmitter C) (header : HdpHeader)
    (virtualTarget : VirtualConnectionType) : Option (GroupTransmitter C × List UInt8) :=
  if processor.isMessage then do
    let (processor, packet) := processor.getUnencryptedOneshotPacket
    let packet ← packet
    let (packet, ret) ← packet.inner.writeHeader fun buf =>
      (header.inscribeIntoSlice buf).map (·, .ok ())
    ret.toOption
    let kem ← processor.hyperRatchetContainer.baseConstructor.mapM stage0Alice
    let expectedLen ← SyncIo.serializedSize kemCodec kem
    let written := packet.writePayloadExtension (UInt32.ofNat expectedLen) fun slice =>
      let (slice, ret) := SyncIo.serializeIntoSlice kemCodec kem slice
      some (slice, ret.mapError fun err => ⟨.other, err⟩)
    let packet ← written.run.bind Except.toOption
    pure (processor, packet)
  else do
    let packet ← (SyncIo.serializeIntoBuf headerCodec (.standard processor.groupConfig virtualTarget)
      header.inscribeInto).toOption
    pure (processor, packet)

/-- `craft_group_header_packet`: the header, the plaintext, and the packet protected by the
base ratchet at the transmitter's security level. -/
def craftGroupHeaderPacket (getNonce : EntropyBank → Nat → List UInt8) (tapes : Nat → Pqcrypto.RandomTape)
    (processor : GroupTransmitter C) (virtualTarget : VirtualConnectionType) (now : Int) :
    Option (GroupTransmitter C × List UInt8) := do
  let header ← processor.groupHeaderHdp virtualTarget now
  let (processor, packet) ←
    processor.groupHeaderPlaintext kemCodec headerCodec stage0Alice header virtualTarget
  let (base, protection) := processor.hyperRatchetContainer.base.protectMessagePacket getNonce tapes
    (some processor.securityLevel) hdpHeaderByteLen packet
  let packet ← protection.run.bind Except.toOption
  pure ({ processor with hyperRatchetContainer := { processor.hyperRatchetContainer with base } },
    packet)

end Craft

end GroupTransmitter

section FastMessage

variable {T C : Type} (kemCodec : Bincode (Option T)) (headerCodec : Bincode GroupHeader)
  (stage0Alice : C → Option T)

/-- `validation::aead::validate_custom`: the header read as an `HdpHeader`, and the payload
validated by the ratchet at the level the header names. The ratchet's containers record what
they received; a failed validation gives `None`. -/
def validateCustom (getNonce : EntropyBank → Nat → List UInt8) (hyperRatchet : StackedRatchet)
    (header payload : List UInt8) : StackedRatchet × Option (Option (HdpHeaderView × List UInt8)) :=
  match HdpHeaderView.new header with
  | none => (hyperRatchet, some none)
  | some view =>
      let validated := hyperRatchet.validateMessagePacketInPlaceSplit getNonce
        (some (SecurityLevel.«from» view.securityLevel)) header payload
      (validated.1, validated.2.run.map fun result => result.toOption.map (view, ·))

/-- `validation::group::validate_message`: the message after its length, and the transfer
decoded from the rest. -/
def validateMessage (payload : List UInt8) : Option (List UInt8 × Option T) := do
  let (message, payload) ← (SecureProtocolPacket.extractMessage payload).toOption
  let deser ← SyncIo.deserializeFromVector kemCodec payload
  pure (message, deser)

/-- A message on its way into its group header, up to `protect_message_packet`:
`SecureProtocolPacket::from`, `GroupTransmitter::new_message`, and the plaintext that
`craft_group_header_packet` writes under `header`. -/
def fastMessagePlaintext (message : List UInt8) (objectId : UInt32)
    (hyperRatchet : RatchetPacketCrafterContainer C) (securityLevel : SecurityLevel)
    (groupId : UInt64) (ticket : Nat) (header : HdpHeader) (virtualTarget : VirtualConnectionType) :
    Option (List UInt8) := do
  let inputPacket ← SecureProtocolPacket.«from» message
  let processor ← GroupTransmitter.newMessage objectId hyperRatchet inputPacket securityLevel
    groupId ticket
  let (_, packet) ←
    processor.groupHeaderPlaintext kemCodec headerCodec stage0Alice header virtualTarget
  pure packet

/-- A message sent as a fast message: `SecureProtocolPacket::from`,
`GroupTransmitter::new_message`, and the packet `craft_group_header_packet` puts on the wire. -/
def fastMessagePacket (getNonce : EntropyBank → Nat → List UInt8)
    (tapes : Nat → Pqcrypto.RandomTape) (message : List UInt8) (objectId : UInt32)
    (hyperRatchet : RatchetPacketCrafterContainer C) (securityLevel : SecurityLevel)
    (groupId : UInt64) (ticket : Nat) (virtualTarget : VirtualConnectionType) (now : Int) :
    Option (List UInt8) := do
  let inputPacket ← SecureProtocolPacket.«from» message
  let processor ← GroupTransmitter.newMessage objectId hyperRatchet inputPacket securityLevel
    groupId ticket
  let (_, packet) ← processor.craftGroupHeaderPacket kemCodec headerCodec stage0Alice getNonce
    tapes virtualTarget now
  pure packet

end FastMessage

/-! ## The message on its way into its header -/

/-- A message whose length fits the `u32` field with its four bytes: the header partition holds
60 zero bytes, and the payload partition the length, big-endian, and the message. -/
theorem SecureProtocolPacket.from_eq_some {bytes : List UInt8} (hlen : bytes.length + 4 < 2 ^ 32) :
    ∃ packet, SecureProtocolPacket.«from» bytes = some ⟨.headerNext packet⟩ ∧
      packet.layout = [UInt32.ofNat hdpHeaderByteLen, UInt32.ofNat bytes.length + 4, 0] ∧
      packet.buffer = List.replicate hdpHeaderByteLen 0 ++ (toBytesBE 4 bytes.length ++ bytes) := by
  have hcast : (UInt32.ofNat bytes.length).toNat = bytes.length :=
    UInt32.toNat_ofNat_of_lt' (show bytes.length < 2 ^ 32 by omega)
  obtain ⟨init, hnew, hlayout, hbuffer⟩ :=
    SecureMessagePacket.new_eq_ok (show hdpHeaderByteLen < 2 ^ 32 by decide)
  have hfx : SecureProtocolPacket.copyFromSlice bytes
      (List.replicate (UInt32.ofNat bytes.length).toNat 0) = some (bytes, .ok ()) := by
    simp [SecureProtocolPacket.copyFromSlice, hcast]
  obtain ⟨written, hwrite, hwrittenLayout, hwrittenBuffer⟩ :=
    SecureMessagePacket.writePayload_payloadNext hlayout (by decide)
      (by simp [hbuffer, hdpHeaderByteLen]) (by rw [hcast]; exact hlen) hfx
  refine ⟨written, ?_, hwrittenLayout, by rw [hwrittenBuffer, hbuffer, hcast]⟩
  simp [SecureProtocolPacket.«from», SecureProtocolPacket.new, hnew, hwrite, Except.toOption]

/-- `new_message` keeps the packet as the oneshot of a message group. -/
theorem GroupTransmitter.newMessage_eq_some {C : Type} (objectId : UInt32)
    (hyperRatchet : RatchetPacketCrafterContainer C) (inner : SecureMessagePacket)
    (securityLevel : SecurityLevel) (groupId : UInt64) (ticket : Nat) :
    ∃ processor, GroupTransmitter.newMessage objectId hyperRatchet ⟨inner⟩ securityLevel groupId
        ticket = some processor ∧ processor.isMessage = true ∧ processor.oneshot = some inner ∧
      processor.hyperRatchetContainer = hyperRatchet ∧ processor.securityLevel = securityLevel :=
  ⟨_, rfl, rfl, rfl, rfl, rfl⟩

/-- A base ratchet with a layer gives `craft_group_header_packet` its header: a group header
stamped with the transmitter's kind and level. -/
theorem GroupTransmitter.groupHeaderHdp_of_ne_nil {C : Type} {processor : GroupTransmitter C}
    (hlayers : processor.hyperRatchetContainer.base.message ≠ [])
    (virtualTarget : VirtualConnectionType) (now : Int) :
    ∃ header, processor.groupHeaderHdp virtualTarget now = some header ∧
      header.cmdAux = groupHeader ∧ header.algorithm = (if processor.isMessage then 1 else 0) ∧
      header.securityLevel = processor.securityLevel.value := by
  obtain ⟨layer, layers, hcons⟩ := List.exists_cons_of_ne_nil hlayers
  simp [groupHeaderHdp, StackedRatchet.getCid, StackedRatchet.version, hcons]

section Framing

variable {T C : Type} (kemCodec : Bincode (Option T)) (headerCodec : Bincode GroupHeader)
  (stage0Alice : C → Option T)

/-- The plaintext of a message's oneshot whose payload is written: the header over its first 60
bytes, then the transfer's encoding written from the `u32` sum of the two widths, over the packet
with the extension's zero bytes appended. -/
theorem GroupTransmitter.groupHeaderPlaintext_headerNext {processor : GroupTransmitter C}
    {packet : SecurePacket} {payloadWidth : UInt32} {k : Option T} (header : HdpHeader)
    (virtualTarget : VirtualConnectionType) (hmessage : processor.isMessage = true)
    (honeshot : processor.oneshot = some (.headerNext packet))
    (hlayout : packet.layout = [UInt32.ofNat hdpHeaderByteLen, payloadWidth, 0])
    (hpayload : payloadWidth ≠ 0)
    (hbuffer : packet.buffer.length = hdpHeaderByteLen + payloadWidth.toNat)
    (hk : processor.hyperRatchetContainer.baseConstructor.mapM stage0Alice = some k)
    (hsize : (kemCodec.serialize k).length ≤ bincodeLimit) :
    processor.groupHeaderPlaintext kemCodec headerCodec stage0Alice header virtualTarget =
      some ({ processor with oneshot := none },
        let written := header.inscribeInto ++ packet.buffer.drop hdpHeaderByteLen ++
          List.replicate (kemCodec.serialize k).length 0
        let start := (UInt32.ofNat hdpHeaderByteLen + payloadWidth).toNat
        written.take start ++ kemCodec.serialize k ++
          written.drop (start + (kemCodec.serialize k).length)) := by
  have hwidth : (UInt32.ofNat hdpHeaderByteLen).toNat = hdpHeaderByteLen := by decide
  have hinscribe : (header.inscribeIntoSlice (packet.buffer.take hdpHeaderByteLen)).map
      (·, (.ok () : Except IoError Unit)) = some (header.inscribeInto, .ok ()) := by
    rw [HdpHeader.inscribeIntoSlice_of_length (by simp [hbuffer])]
    rfl
  -- the closure is given by hand: it is a lambda that unification cannot guess
  obtain ⟨headed, hwrite, hheadedLayout, hheadedBuffer⟩ :=
    @SecureMessagePacket.writeHeader_headerNext packet _ payloadWidth
      (fun buf => (header.inscribeIntoSlice buf).map (·, .ok ())) header.inscribeInto (.ok ())
      hlayout (by rw [hwidth, hbuffer]; omega) (by rw [hwidth]; exact hinscribe)
  rw [hwidth] at hheadedBuffer
  have hheadedLength : headed.buffer.length = hdpHeaderByteLen + payloadWidth.toNat := by
    simp [hheadedBuffer, hbuffer]
  -- the encoder writes the encoding at the front of any slice with room for it
  have hext := @SecureMessagePacket.writePayloadExtension_of_writesFront headed
    (UInt32.ofNat hdpHeaderByteLen) payloadWidth
    (fun slice => let (slice, ret) := SyncIo.serializeIntoSlice kemCodec k slice
      some (slice, ret.mapError fun err => ⟨.other, err⟩)) (kemCodec.serialize k)
    (hheadedLayout.trans hlayout) (by decide) hpayload (by rw [hheadedLength, hwidth])
    (lt_of_le_of_lt hsize (by decide))
    (fun slice hroom => by rw [SyncIo.serializeIntoSlice_of_le kemCodec hsize hroom]; rfl)
  simp [groupHeaderPlaintext, hmessage, getUnencryptedOneshotPacket, honeshot, hwrite, hk,
    SyncIo.serializedSize, hsize, hext, Except.toOption, hheadedBuffer, List.append_assoc]

/-- The transmitter `new_message` makes of a message whose length fits the `u32` field with its
four bytes: a message group at the given level and ratchet, whose plaintext under any header is
the header, the framed message and the extension's zero bytes, with the transfer's encoding
written over them from `(message.length + 64) % 2 ^ 32`, where the `u32` sum of the widths puts
the window. -/
theorem GroupTransmitter.newMessage_groupHeaderPlaintext (message : List UInt8)
    (hlen : message.length + 4 < 2 ^ 32) (objectId : UInt32)
    (hyperRatchet : RatchetPacketCrafterContainer C) (securityLevel : SecurityLevel)
    (groupId : UInt64) (ticket : Nat) {k : Option T}
    (hk : hyperRatchet.baseConstructor.mapM stage0Alice = some k)
    (hsize : (kemCodec.serialize k).length ≤ bincodeLimit) :
    ∃ inputPacket processor, SecureProtocolPacket.«from» message = some inputPacket ∧
      newMessage objectId hyperRatchet inputPacket securityLevel groupId ticket = some processor ∧
      processor.isMessage = true ∧ processor.hyperRatchetContainer = hyperRatchet ∧
      processor.securityLevel = securityLevel ∧
      ∀ header virtualTarget,
        processor.groupHeaderPlaintext kemCodec headerCodec stage0Alice header virtualTarget =
          some ({ processor with oneshot := none },
            let framed := header.inscribeInto ++ toBytesBE 4 message.length ++ message ++
              List.replicate (kemCodec.serialize k).length 0
            let start := (message.length + 64) % 2 ^ 32
            framed.take start ++ kemCodec.serialize k ++
              framed.drop (start + (kemCodec.serialize k).length)) := by
  obtain ⟨packet, hfrom, hlayout, hbuffer⟩ := SecureProtocolPacket.from_eq_some hlen
  obtain ⟨processor, hnew, hmessage, honeshot, hratchet, hlevel⟩ :=
    newMessage_eq_some objectId hyperRatchet (.headerNext packet) securityLevel groupId ticket
  have hpayloadWidth : (UInt32.ofNat message.length + 4).toNat = message.length + 4 := by
    rw [UInt32.toNat_add, UInt32.toNat_ofNat']
    simp only [UInt32.reduceToNat]
    omega
  have hstart : (UInt32.ofNat hdpHeaderByteLen + (UInt32.ofNat message.length + 4)).toNat =
      (message.length + 64) % 2 ^ 32 := by
    rw [UInt32.toNat_add, hpayloadWidth,
      show (UInt32.ofNat hdpHeaderByteLen).toNat = 60 by decide]
    omega
  refine ⟨_, processor, hfrom, hnew, hmessage, hratchet, hlevel, fun header virtualTarget => ?_⟩
  have hplain := groupHeaderPlaintext_headerNext kemCodec headerCodec stage0Alice
    header virtualTarget hmessage honeshot hlayout
    (fun hzero => by simp [hzero] at hpayloadWidth)
    (by simp [hbuffer, hpayloadWidth, hdpHeaderByteLen]; omega) (by rw [hratchet]; exact hk) hsize
  rw [hstart] at hplain
  simp [hplain, hbuffer, hdpHeaderByteLen, List.append_assoc]

/-- The packet of a message whose length fits the `u32` field with its four bytes: the header,
the framed message and the extension's zero bytes, with the transfer's encoding written over them
from `(message.length + 64) % 2 ^ 32`. -/
theorem fastMessagePlaintext_eq (message : List UInt8) (hlen : message.length + 4 < 2 ^ 32)
    (objectId : UInt32) (hyperRatchet : RatchetPacketCrafterContainer C)
    (securityLevel : SecurityLevel) (groupId : UInt64) (ticket : Nat) (header : HdpHeader)
    (virtualTarget : VirtualConnectionType) {k : Option T}
    (hk : hyperRatchet.baseConstructor.mapM stage0Alice = some k)
    (hsize : (kemCodec.serialize k).length ≤ bincodeLimit) :
    fastMessagePlaintext kemCodec headerCodec stage0Alice message objectId hyperRatchet
        securityLevel groupId ticket header virtualTarget =
      some (let framed := header.inscribeInto ++ toBytesBE 4 message.length ++ message ++
          List.replicate (kemCodec.serialize k).length 0
        let start := (message.length + 64) % 2 ^ 32
        framed.take start ++ kemCodec.serialize k ++
          framed.drop (start + (kemCodec.serialize k).length)) := by
  obtain ⟨inputPacket, processor, hfrom, hnew, -, -, -, hplain⟩ :=
    GroupTransmitter.newMessage_groupHeaderPlaintext kemCodec headerCodec stage0Alice message hlen
      objectId hyperRatchet securityLevel groupId ticket hk hsize
  simp only [fastMessagePlaintext, hfrom, hnew, hplain header virtualTarget, Option.bind_eq_bind,
    Option.bind_some, Option.pure_def]

/-- Below the wrap the window starts at the end of the framed message, so the transfer's encoding
is appended to it. -/
theorem frame_of_lt_wrap (header : HdpHeader) {message ext : List UInt8}
    (hlen : message.length + 64 < 2 ^ 32) :
    (let framed := header.inscribeInto ++ toBytesBE 4 message.length ++ message ++
        List.replicate ext.length 0
      let start := (message.length + 64) % 2 ^ 32
      framed.take start ++ ext ++ framed.drop (start + ext.length)) =
      header.inscribeInto ++ (toBytesBE 4 message.length ++ (message ++ ext)) := by
  have hframed : (header.inscribeInto ++ toBytesBE 4 message.length ++ message).length =
      (message.length + 64) % 2 ^ 32 := by
    rw [Nat.mod_eq_of_lt hlen]
    simp [hdpHeaderByteLen]
    omega
  simp only
  rw [List.take_left' hframed, List.drop_eq_nil_of_le
    (le_of_eq (by rw [List.length_append, hframed, List.length_replicate]))]
  simp

/-- `validate_message` reads a framed message back, and the transfer after it. -/
theorem validateMessage_frame {message : List UInt8} (hlen : message.length < 2 ^ 32) {k : Option T}
    (hdecode : kemCodec.deserialize (kemCodec.serialize k) = some k) :
    validateMessage kemCodec (toBytesBE 4 message.length ++ (message ++ kemCodec.serialize k)) =
      some (message, k) := by
  simp [validateMessage, SecureProtocolPacket.extractMessage,
    SecureMessagePacket.extractPayload_frame hlen, SyncIo.deserializeFromVector, hdecode,
    Except.toOption]

/-- Below the wrap the transfer's encoding is appended after the message: the first 60 bytes of
the packet are the inscribed header, and `validate_message` reads the message and the transfer
back from the rest. No write of the flow fails, and nothing panics. -/
theorem fastMessagePlaintext_round_trip (message : List UInt8)
    (hlen : message.length + 64 < 2 ^ 32) (objectId : UInt32)
    (hyperRatchet : RatchetPacketCrafterContainer C) (securityLevel : SecurityLevel)
    (groupId : UInt64) (ticket : Nat) (header : HdpHeader) (virtualTarget : VirtualConnectionType)
    {k : Option T} (hk : hyperRatchet.baseConstructor.mapM stage0Alice = some k)
    (hsize : (kemCodec.serialize k).length ≤ bincodeLimit)
    (hdecode : kemCodec.deserialize (kemCodec.serialize k) = some k) :
    ∃ packet, fastMessagePlaintext kemCodec headerCodec stage0Alice message objectId hyperRatchet
        securityLevel groupId ticket header virtualTarget = some packet ∧
      packet.take hdpHeaderByteLen = header.inscribeInto ∧
      validateMessage kemCodec (packet.drop hdpHeaderByteLen) = some (message, k) := by
  have hframe := fastMessagePlaintext_eq kemCodec headerCodec stage0Alice message (by omega)
    objectId hyperRatchet securityLevel groupId ticket header virtualTarget hk hsize
  rw [frame_of_lt_wrap header hlen] at hframe
  refine ⟨_, hframe, List.take_left' header.length_inscribeInto, ?_⟩
  rw [List.drop_left' header.length_inscribeInto]
  exact validateMessage_frame kemCodec (by omega) hdecode

end Framing

/-- bincode's encoding of `Option<()>`: a tag byte, and nothing after it for `()`. The decoder
reads the tag and leaves what follows. -/
def optionUnitBincode : Bincode (Option Unit) where
  serialize
    | none => [0]
    | some () => [1]
  deserialize
    | 0 :: _ => some none
    | 1 :: _ => some (some ())
    | _ => none

/-- The header of a message group at security level 0, every number 0. -/
def messageHeader : HdpHeader :=
  { cmdPrimary := groupPacket, cmdAux := groupHeader, algorithm := 1, securityLevel := 0
    contextInfo := 0, group := 0, waveId := 0, sessionCid := 0, drillVersion := 0, timestamp := 0
    targetCid := 0 }

/-- Three bytes sent with no constructor, whose transfer `None` is the one byte `[0]`. -/
theorem fastMessagePlaintext_round_trip_of_three_bytes :
    ∃ packet, fastMessagePlaintext optionUnitBincode ⟨fun _ => [], fun _ => none⟩
        (fun () => none) [7, 8, 9] 0 ⟨⟨[]⟩, none⟩ .standard 0 0 messageHeader
        (.localGroupServer 0) = some packet ∧
      packet.take hdpHeaderByteLen = messageHeader.inscribeInto ∧
      validateMessage optionUnitBincode (packet.drop hdpHeaderByteLen) = some ([7, 8, 9], none) :=
  fastMessagePlaintext_round_trip optionUnitBincode _ _ [7, 8, 9] (by decide) 0 ⟨⟨[]⟩, none⟩
    .standard 0 0 messageHeader (.localGroupServer 0) rfl (by decide) rfl

section Wrap

variable {T C : Type} (kemCodec : Bincode (Option T)) (headerCodec : Bincode GroupHeader)
  (stage0Alice : C → Option T)

/-- From a message of `2 ^ 32 - 64` bytes on, the `u32` sum of the widths wraps to a start
inside the header: the first 60 bytes of the packet are the header with the transfer's encoding
written over it from byte `message.length + 64 - 2 ^ 32`. -/
theorem fastMessagePlaintext_overwrites_header (message : List UInt8)
    (hwrap : 2 ^ 32 ≤ message.length + 64) (hlen : message.length + 4 < 2 ^ 32) (objectId : UInt32)
    (hyperRatchet : RatchetPacketCrafterContainer C) (securityLevel : SecurityLevel)
    (groupId : UInt64) (ticket : Nat) (header : HdpHeader) (virtualTarget : VirtualConnectionType)
    {k : Option T} (hk : hyperRatchet.baseConstructor.mapM stage0Alice = some k)
    (hsize : (kemCodec.serialize k).length ≤ bincodeLimit) :
    ∃ packet, fastMessagePlaintext kemCodec headerCodec stage0Alice message objectId hyperRatchet
        securityLevel groupId ticket header virtualTarget = some packet ∧
      packet.take hdpHeaderByteLen =
        (header.inscribeInto.take (message.length + 64 - 2 ^ 32) ++ kemCodec.serialize k ++
          header.inscribeInto.drop (message.length + 64 - 2 ^ 32 + (kemCodec.serialize k).length)).take
          hdpHeaderByteLen := by
  have hframe := fastMessagePlaintext_eq kemCodec headerCodec stage0Alice message hlen
    objectId hyperRatchet securityLevel groupId ticket header virtualTarget hk hsize
  have hstart : (message.length + 64) % 2 ^ 32 = message.length + 64 - 2 ^ 32 := by omega
  have hinside : message.length + 64 - 2 ^ 32 ≤ header.inscribeInto.length := by
    rw [header.length_inscribeInto, hdpHeaderByteLen]
    omega
  refine ⟨_, hframe, ?_⟩
  simp only [hstart]
  -- the framed packet is the header and what follows it, which the first 60 bytes never reach
  rw [← header.length_inscribeInto, List.append_assoc (header.inscribeInto ++ _),
    List.append_assoc header.inscribeInto]
  exact Bytes.take_overwrite_append hinside

end Wrap

/-- A message of `2 ^ 32 - 64` bytes sent with no constructor: the window starts at byte 0, and
the transfer's encoding `[0]` replaces the header's first byte, `GROUP_PACKET`. -/
theorem fastMessagePlaintext_overwrites_header_of_none :
    ∃ packet, fastMessagePlaintext optionUnitBincode ⟨fun _ => [], fun _ => none⟩
        (fun () => none) (List.replicate (2 ^ 32 - 64) 0) 0 ⟨⟨[]⟩, none⟩ .standard 0 0
        messageHeader (.localGroupServer 0) = some packet ∧
      packet.take hdpHeaderByteLen ≠ messageHeader.inscribeInto := by
  -- only the message's length is ever computed, never the message
  have hwrap : 2 ^ 32 ≤ (List.replicate (2 ^ 32 - 64) (0 : UInt8)).length + 64 := by
    rw [List.length_replicate]; decide
  have hlen : (List.replicate (2 ^ 32 - 64) (0 : UInt8)).length + 4 < 2 ^ 32 := by
    rw [List.length_replicate]; decide
  obtain ⟨packet, hplain, htake⟩ := fastMessagePlaintext_overwrites_header optionUnitBincode
    ⟨fun _ => [], fun _ => none⟩ (fun () => none) (List.replicate (2 ^ 32 - 64) 0) hwrap
    hlen 0 ⟨⟨[]⟩, none⟩ .standard 0 0 messageHeader (.localGroupServer 0) rfl (by decide)
  refine ⟨packet, hplain, ?_⟩
  have hstart : (List.replicate (2 ^ 32 - 64) (0 : UInt8)).length + 64 - 2 ^ 32 = 0 := by
    rw [List.length_replicate]; decide
  rw [htake, hstart]
  decide

/-! ## The message at its peer -/

section Peer

variable {T C : Type} (kemCodec : Bincode (Option T)) (headerCodec : Bincode GroupHeader)
  (stage0Alice : C → Option T) {getNonce : EntropyBank → Nat → List UInt8}

open StackedRatchet in
/-- Alice's protection of a packet under an inscribed header, at the level the header names, is
opened by the `validate_custom` of Bob's ratchet of the same key exchange: the header is read back
as it was inscribed, and the payload comes back. -/
theorem validateCustom_protectMessagePacket {alice bob : StackedRatchet}
    (hpair : List.Forall₂ LayerPair alice.message bob.message) {securityLevel : SecurityLevel}
    {idx : Nat} (hlevel : alice.verifyLevel (some securityLevel) = .ok idx)
    (hfresh : List.Forall₂ LayerFresh (alice.message.take (idx + 1)) (bob.message.take (idx + 1)))
    {header : HdpHeader} (hheaderLevel : header.securityLevel = securityLevel.value)
    {tapes : Nat → Pqcrypto.RandomTape} {payload out : List UInt8}
    (hprotect : (alice.protectMessagePacket getNonce tapes (some securityLevel) hdpHeaderByteLen
      (header.inscribeInto ++ payload)).2.run = some (.ok out)) :
    ∃ bob' view, validateCustom getNonce bob (out.take hdpHeaderByteLen)
        (out.drop hdpHeaderByteLen) = (bob', some (some (view, payload))) ∧
      view.cmdAux = header.cmdAux ∧ view.algorithm = header.algorithm := by
  obtain ⟨view, hview, hcmd, halg, hviewLevel⟩ := HdpHeaderView.new_inscribeInto header
  -- Bob reads the level back from the header, and has as many layers as Alice
  have hbobLevel : bob.verifyLevel (some (SecurityLevel.«from» view.securityLevel)) = .ok idx := by
    rw [verifyLevel_of_value_eq bob (show (SecurityLevel.«from» view.securityLevel).value =
      securityLevel.value by rw [SecurityLevel.value_from, hviewLevel, hheaderLevel]),
      ← verifyLevel_of_length_eq hpair.length_eq]
    exact hlevel
  obtain ⟨hheader, hvalidate⟩ :=
    validateMessagePacketInPlaceSplit_of_levels hpair hlevel hbobLevel hfresh hprotect
  rw [List.take_left' header.length_inscribeInto] at hheader
  rw [List.drop_left' header.length_inscribeInto] at hvalidate
  have hviewOut : HdpHeaderView.new (out.take hdpHeaderByteLen) = some view := by
    rw [hheader]
    exact hview
  refine ⟨_, view, Prod.ext rfl ?_, hcmd, halg⟩
  simp [validateCustom, hviewOut, hvalidate, Except.toOption]

/-- A fast message end to end. A message below the wrap that Alice's base ratchet sends, at a
level it has a layer for, is opened by the `validate_custom` of Bob's ratchet of the same key
exchange, whose containers have not received Alice's PIDs: the header names the group header of
a message, and `validate_message` gives back the message and the transfer. -/
theorem fastMessagePacket_validateCustom (message : List UInt8)
    (hlen : message.length + 64 < 2 ^ 32) (objectId : UInt32) {alice bob : StackedRatchet}
    (baseConstructor : Option C) (securityLevel : SecurityLevel) (groupId : UInt64) (ticket : Nat)
    (virtualTarget : VirtualConnectionType) (now : Int) {k : Option T}
    (hk : baseConstructor.mapM stage0Alice = some k)
    (hsize : (kemCodec.serialize k).length ≤ bincodeLimit)
    (hdecode : kemCodec.deserialize (kemCodec.serialize k) = some k)
    (hpair : List.Forall₂ StackedRatchet.LayerPair alice.message bob.message) {idx : Nat}
    (hlevel : alice.verifyLevel (some securityLevel) = .ok idx)
    (hfresh : List.Forall₂ StackedRatchet.LayerFresh (alice.message.take (idx + 1))
      (bob.message.take (idx + 1)))
    {tapes : Nat → Pqcrypto.RandomTape} {out : List UInt8}
    (hsent : fastMessagePacket kemCodec headerCodec stage0Alice getNonce tapes message objectId
      ⟨alice, baseConstructor⟩ securityLevel groupId ticket virtualTarget now = some out) :
    ∃ bob' view payload, validateCustom getNonce bob (out.take hdpHeaderByteLen)
        (out.drop hdpHeaderByteLen) = (bob', some (some (view, payload))) ∧
      view.cmdAux = groupHeader ∧ view.algorithm = 1 ∧
      validateMessage kemCodec payload = some (message, k) := by
  obtain ⟨inputPacket, processor, hfrom, hnew, hmessage, hratchet, hprocessorLevel, hplain⟩ :=
    GroupTransmitter.newMessage_groupHeaderPlaintext kemCodec headerCodec stage0Alice message
      (by omega) objectId ⟨alice, baseConstructor⟩ securityLevel groupId ticket hk hsize
  -- Alice's ratchet has a layer at the level, so the header is stamped
  have hlayers : processor.hyperRatchetContainer.base.message ≠ [] := by
    rw [hratchet]
    exact List.ne_nil_of_length_pos
      (Nat.lt_of_le_of_lt (Nat.zero_le idx) (StackedRatchet.lt_length_of_verifyLevel hlevel))
  obtain ⟨header, hheader, hcmd, halg, hheaderLevel⟩ :=
    processor.groupHeaderHdp_of_ne_nil hlayers virtualTarget now
  have hframe := hplain header virtualTarget
  rw [frame_of_lt_wrap header hlen] at hframe
  -- what goes on the wire is Alice's protection of the framed message under the header
  have hprotect : (alice.protectMessagePacket getNonce tapes (some securityLevel) hdpHeaderByteLen
      (header.inscribeInto ++ (toBytesBE 4 message.length ++
        (message ++ kemCodec.serialize k)))).2.run = some (.ok out) := by
    simp only [fastMessagePacket, hfrom, hnew, GroupTransmitter.craftGroupHeaderPacket, hheader,
      hframe, hratchet, hprocessorLevel, Option.bind_eq_bind, Option.bind_some, Option.pure_def,
      Option.bind_assoc, Option.bind_fun_some] at hsent
    exact Outcome.run_bind_toOption_eq_some.mp hsent
  obtain ⟨bob', view, hvalidate, hviewCmd, hviewAlg⟩ :=
    validateCustom_protectMessagePacket hpair hlevel hfresh
      (hheaderLevel.trans (by rw [hprocessorLevel])) hprotect
  refine ⟨bob', view, _, hvalidate, hviewCmd.trans hcmd, ?_,
    validateMessage_frame kemCodec (by omega) hdecode⟩
  rw [hviewAlg, halg, hmessage]
  rfl

end Peer

open StackedRatchet in
/-- Three bytes sent with no constructor at the default level through the zero-tag ratchets: Bob
opens the packet, and reads `[7, 8, 9]` and the transfer `None` back. -/
theorem fastMessagePacket_validateCustom_of_zero_tags :
    (zeroTagRatchet .alice).verifyLevel (some .standard) = .ok 0 ∧
      ∃ out, fastMessagePacket optionUnitBincode ⟨fun _ => [], fun _ => none⟩ (fun () => none)
          (fun _ _ => []) (fun _ _ => 0) [7, 8, 9] 0 ⟨zeroTagRatchet .alice, none⟩ .standard 0 0
          (.localGroupServer 0) 0 = some out ∧
        ∃ bob' view payload, validateCustom (fun _ _ => []) (zeroTagRatchet .bob)
            (out.take hdpHeaderByteLen) (out.drop hdpHeaderByteLen) =
            (bob', some (some (view, payload))) ∧
          view.cmdAux = groupHeader ∧ view.algorithm = 1 ∧
          validateMessage optionUnitBincode payload = some ([7, 8, 9], none) := by
  have hlevel : (zeroTagRatchet .alice).verifyLevel (some .standard) = .ok 0 := rfl
  have hfresh : List.Forall₂ LayerFresh ((zeroTagRatchet .alice).message.take 1)
      ((zeroTagRatchet .bob).message.take 1) :=
    .cons ⟨[], rfl, List.not_mem_nil⟩ .nil
  -- the send is run by the kernel
  have hsome : (fastMessagePacket optionUnitBincode ⟨fun _ => [], fun _ => none⟩
      (fun () => none) (fun _ _ => []) (fun _ _ => 0) [7, 8, 9] 0 ⟨zeroTagRatchet .alice, none⟩
      .standard 0 0 (.localGroupServer 0) 0).isSome := by
    decide +kernel
  obtain ⟨out, hsent⟩ := Option.isSome_iff_exists.mp hsome
  exact ⟨hlevel, out, hsent, fastMessagePacket_validateCustom optionUnitBincode _ _ [7, 8, 9]
    (by decide) 0 none .standard 0 0 (.localGroupServer 0) 0 rfl (by decide) rfl
    zeroTagRatchet_layerPair hlevel hfresh hsent⟩

end CitadelProtocol.Proto
