import Mathlib.Data.UInt
import CitadelProtocol.Lib.Outcome
import CitadelProtocol.Crypt.GroupSender

/-! # Partitioned buffers and the packets written through them

`PartitionedSecBuffer<N>` keeps one buffer cut into `N` consecutive partitions. A partition is
reserved once, in order, by appending its width of zero bytes. The window of partition `i`
starts at the sum of the widths before it, added in `u32`, and ends after its own width, except
that the last partition runs to the end of the buffer.

`SecureMessagePacket` writes a packet of three partitions in a fixed order: the payload with its
big-endian length, then the header its first partition was reserved for, then an extension
appended at the end. Each write is accepted only in its turn.

The start of the extension's window is a `u32` sum. Once the header and the payload together
reach `2 ^ 32` bytes that sum wraps, and the window starts inside the header:
`writePayloadExtension_finalPayloadExt` states where it starts in general.
-/

namespace CitadelProtocol.Crypt

open Bytes Outcome

/-- `std::io::ErrorKind`, the kinds raised here. -/
inductive ErrorKind
  | invalidInput
  | other
  deriving DecidableEq, Repr

/-- `std::io::Error`. -/
structure IoError where
  kind : ErrorKind
  message : String
  deriving DecidableEq, Repr

/-- A closure handed a mutable slice, as the writes here take it: the bytes it leaves in the
slice and its result, or `none` where it panics. -/
abbrev SliceWriter := List UInt8 → Option (List UInt8 × Except IoError Unit)

/-- `PartitionedSecBuffer<N>`: the width of each of the `n` partitions, and the bytes. -/
structure PartitionedSecBuffer (n : Nat) where
  layout : List UInt32
  buffer : List UInt8
  length_layout : layout.length = n

namespace PartitionedSecBuffer

variable {n : Nat}

/-- `PartitionedSecBuffer::new`. -/
def new (n : Nat) : Except IoError (PartitionedSecBuffer n) :=
  if n ≠ 0 then .ok ⟨List.replicate n 0, [], List.length_replicate⟩
  else .error ⟨.invalidInput, "Partitions == 0"⟩

/-- `check_index`. -/
def checkIndex (_self : PartitionedSecBuffer n) (idx : Nat) : Except IoError Unit :=
  if idx ≥ n then .error ⟨.invalidInput, "idx > partitions"⟩ else .ok ()

/-- `check_reserve`: the partition is unset, every one before it is set, and every one from it
on is unset. -/
def checkReserve (self : PartitionedSecBuffer n) (idx : Nat) : Except IoError Unit := do
  self.checkIndex idx
  if self.layout.getD idx 0 ≠ 0 then
    throw ⟨.invalidInput, "Current index already set"⟩
  if (self.layout.take idx).any (· = 0) then
    throw ⟨.invalidInput, "Previously unset partition detected"⟩
  if (self.layout.drop idx).any (· ≠ 0) then
    throw ⟨.invalidInput, "Next partitions already set"⟩

/-- `reserve_partition`: `len` zero bytes appended, and the width recorded. -/
def reservePartition (self : PartitionedSecBuffer n) (idx : Nat) (len : UInt32) :
    Except IoError (PartitionedSecBuffer n) := do
  self.checkReserve idx
  pure ⟨self.layout.set idx len, self.buffer ++ List.replicate len.toNat 0,
    by rw [List.length_set, self.length_layout]⟩

/-- `get_range`: the window of partition `idx`. Its start is the sum of the widths before it,
added in `u32` by `sum::<u32>()` and wrapping as in a release build; the last partition ends at
the end of the buffer. -/
def getRange (self : PartitionedSecBuffer n) (idx : Nat) : Except IoError (Nat × Nat) := do
  self.checkIndex idx
  let startIdx := (self.layout.take idx).sum.toNat
  let endIdx :=
    if idx + 1 = n then self.buffer.length else startIdx + (self.layout.getD idx 0).toNat
  pure (startIdx, endIdx)

/-- The bytes `startIdx..endIdx` of the buffer, as a `SliceHandle` dereferences them; a range
past the end, or backwards, panics. -/
def slice (self : PartitionedSecBuffer n) (startIdx endIdx : Nat) : Option (List UInt8) :=
  if startIdx ≤ endIdx ∧ endIdx ≤ self.buffer.length then
    some ((self.buffer.drop startIdx).take (endIdx - startIdx))
  else none

/-- The buffer once a write through the slice `startIdx..endIdx` left `bytes` there. -/
def setSlice (self : PartitionedSecBuffer n) (startIdx endIdx : Nat) (bytes : List UInt8) :
    PartitionedSecBuffer n :=
  { self with buffer := self.buffer.take startIdx ++ bytes ++ self.buffer.drop endIdx }

/-- `into_buffer`. -/
def intoBuffer (self : PartitionedSecBuffer n) : List UInt8 := self.buffer

/-- Reserving a partition after the set ones and before the unset ones appends its zero bytes
and records its width. -/
theorem reservePartition_eq_ok {self : PartitionedSecBuffer n} {idx : Nat} (hidx : idx < n)
    (hbefore : ∀ w ∈ self.layout.take idx, w ≠ 0) (hafter : ∀ w ∈ self.layout.drop idx, w = 0)
    (len : UInt32) :
    ∃ packet, self.reservePartition idx len = .ok packet ∧ packet.layout = self.layout.set idx len ∧
      packet.buffer = self.buffer ++ List.replicate len.toNat 0 := by
  have hlen : idx < self.layout.length := by rw [self.length_layout]; exact hidx
  -- the partition itself is the first of the unset ones
  have hunset : self.layout[idx]? = some 0 := by
    rw [List.getElem?_eq_getElem hlen]
    exact congrArg some (hafter _ (List.mem_iff_getElem.mpr ⟨0, by simp; omega, by simp⟩))
  have hset : (0 : UInt32) ∉ self.layout.take idx := fun hzero => hbefore 0 hzero rfl
  have hunsetAfter : ¬ ∃ w ∈ self.layout.drop idx, ¬ w = 0 := fun ⟨w, hw, hne⟩ => hne (hafter w hw)
  refine ⟨⟨self.layout.set idx len, self.buffer ++ List.replicate len.toNat 0,
    by rw [List.length_set, self.length_layout]⟩, ?_, rfl, rfl⟩
  simp [reservePartition, checkReserve, checkIndex, Nat.not_le.mpr hidx, hunset, hset,
    hunsetAfter]

/-- The window of a partition that exists. -/
theorem getRange_of_lt (self : PartitionedSecBuffer n) {idx : Nat} (hidx : idx < n) :
    self.getRange idx = .ok ((self.layout.take idx).sum.toNat,
      if idx + 1 = n then self.buffer.length
      else (self.layout.take idx).sum.toNat + (self.layout.getD idx 0).toNat) := by
  simp [getRange, checkIndex, Nat.not_le.mpr hidx]

/-- A slice that ends at the end of the buffer is everything from its start. -/
theorem slice_to_end (self : PartitionedSecBuffer n) {startIdx : Nat}
    (hstart : startIdx ≤ self.buffer.length) :
    self.slice startIdx self.buffer.length = some (self.buffer.drop startIdx) := by
  simp [slice, hstart]

end PartitionedSecBuffer

/-- `SecurePacket`: a header, a payload and an extended payload. -/
abbrev SecurePacket := PartitionedSecBuffer 3

/-- `HEADER_PART`. -/
def headerPart : Nat := 0

/-- `PAYLOAD_PART`. -/
def payloadPart : Nat := 1

/-- `PAYLOAD_EXT`. -/
def payloadExt : Nat := 2

/-- `SecurePacket::new`: `PartitionedSecBuffer::<3>::new().unwrap()`. -/
def SecurePacket.new : Option SecurePacket := (PartitionedSecBuffer.new 3).toOption

/-- `SecureMessagePacket<N>`: a packet and the write it accepts next. -/
inductive SecureMessagePacket
  | payloadNext (packet : SecurePacket)
  | headerNext (packet : SecurePacket)
  | finalPayloadExt (packet : SecurePacket)

namespace SecureMessagePacket

/-- The error of a write out of its turn. -/
def invalidFlow : IoError := ⟨.invalidInput, "Invalid packet construction flow"⟩

/-- `SecureMessagePacket::<N>::new`: the header partition reserved for `N` bytes. -/
def new (headerLen : Nat) : ExceptT IoError Option SecureMessagePacket := do
  let init ← unwrap SecurePacket.new
  let init ← ofResult (init.reservePartition headerPart (UInt32.ofNat headerLen))
  pure (payloadNext init)

/-- `extract_payload`: the payload after its big-endian `u32` length, and the bytes after it. -/
def extractPayload (input : List UInt8) : Except IoError (List UInt8 × List UInt8) :=
  if input.length < 4 then .error ⟨.invalidInput, "Bad size"⟩
  else
    let lenField := input.take 4
    let input := input.drop 4
    let payloadLen := fromBytesBE lenField
    if input.length < payloadLen then .error ⟨.invalidInput, "Bad payload len size"⟩
    else .ok (input.take payloadLen, input.drop payloadLen)

/-- `write_payload`: the payload reserved with four more bytes for its length, the length written
big-endian and the rest left to `fx`. The packet moves on to its header even when `fx` fails;
the packet is returned beside the result. -/
def writePayload (self : SecureMessagePacket) (len : UInt32) (fx : SliceWriter) :
    Option (SecureMessagePacket × Except IoError Unit) :=
  match self with
  | .payloadNext packet =>
      match packet.reservePartition payloadPart (len + 4) with
      | .error e => some (self, .error e)
      | .ok packet =>
          match packet.getRange payloadPart with
          | .error e => some (.payloadNext packet, .error e)
          | .ok (startIdx, endIdx) => do
              let payload ← packet.slice startIdx endIdx
              -- `payload[0..4]` and `payload[4..]` panic on a window shorter than four bytes
              guard (4 ≤ payload.length)
              let (rest, ret) ← fx (payload.drop 4)
              some (.headerNext (packet.setSlice startIdx endIdx (toBytesBE 4 len.toNat ++ rest)),
                ret)
  | _ => some (self, .error invalidFlow)

/-- `write_header`: `fx` writes the header partition. -/
def writeHeader (self : SecureMessagePacket) (fx : SliceWriter) :
    Option (SecureMessagePacket × Except IoError Unit) :=
  match self with
  | .headerNext packet =>
      match packet.getRange headerPart with
      | .error e => some (self, .error e)
      | .ok (startIdx, endIdx) => do
          let header ← packet.slice startIdx endIdx
          let (header, ret) ← fx header
          some (.finalPayloadExt (packet.setSlice startIdx endIdx header), ret)
  | _ => some (self, .error invalidFlow)

/-- `write_payload_extension`: the extension reserved at the end and written by `fx`; the packet
is consumed into its bytes. -/
def writePayloadExtension (self : SecureMessagePacket) (len : UInt32) (fx : SliceWriter) :
    ExceptT IoError Option (List UInt8) :=
  match self with
  | .finalPayloadExt packet => do
      let packet ← ofResult (packet.reservePartition payloadExt len)
      let (startIdx, endIdx) ← ofResult (packet.getRange payloadExt)
      let ext ← unwrap (packet.slice startIdx endIdx)
      let (ext, ret) ← unwrap (fx ext)
      ofResult ret
      pure (packet.setSlice startIdx endIdx ext).intoBuffer
  | _ => throw invalidFlow

/-- `message_len`: the width of the payload partition, its length field included. -/
def messageLen : SecureMessagePacket → Nat
  | .finalPayloadExt p | .headerNext p | .payloadNext p => (p.layout.getD payloadPart 0).toNat

/-- A fresh packet: its header partition reserved, as zero bytes. -/
theorem new_eq_ok {headerLen : Nat} (hlen : headerLen < 2 ^ 32) :
    ∃ packet, (new headerLen).run = some (.ok (.payloadNext packet)) ∧
      packet.layout = [UInt32.ofNat headerLen, 0, 0] ∧ packet.buffer = List.replicate headerLen 0 := by
  obtain ⟨packet, hreserve, hlayout, hbuffer⟩ :=
    @PartitionedSecBuffer.reservePartition_eq_ok 3 ⟨[0, 0, 0], [], rfl⟩ headerPart (by decide)
      (by simp [headerPart]) (by simp [headerPart]) (UInt32.ofNat headerLen)
  refine ⟨packet, ?_, by simpa [headerPart] using hlayout, ?_⟩
  · simp [new, SecurePacket.new, PartitionedSecBuffer.new, Except.toOption, hreserve]
  · simp only [hbuffer, List.nil_append, UInt32.toNat_ofNat']
    rw [Nat.mod_eq_of_lt hlen]

/-- Writing the payload of a fresh packet: the length field, big-endian, and then what `fx` left
in the `len` bytes after it. -/
theorem writePayload_payloadNext {packet : SecurePacket} {headerWidth len : UInt32}
    {fx : SliceWriter} {rest : List UInt8} {ret : Except IoError Unit}
    (hlayout : packet.layout = [headerWidth, 0, 0]) (hheader : headerWidth ≠ 0)
    (hbuffer : packet.buffer.length = headerWidth.toNat) (hlen : len.toNat + 4 < 2 ^ 32)
    (hfx : fx (List.replicate len.toNat 0) = some (rest, ret)) :
    ∃ written, (payloadNext packet).writePayload len fx = some (.headerNext written, ret) ∧
      written.layout = [headerWidth, len + 4, 0] ∧
      written.buffer = packet.buffer ++ (toBytesBE 4 len.toNat ++ rest) := by
  have hwidth : (len + 4).toNat = len.toNat + 4 := by
    rw [UInt32.toNat_add]
    simp only [UInt32.reduceToNat]
    omega
  obtain ⟨reserved, hreserve, hreservedLayout, hreservedBuffer⟩ :=
    @PartitionedSecBuffer.reservePartition_eq_ok 3 packet payloadPart (by decide)
      (by simp [hlayout, payloadPart, hheader]) (by simp [hlayout, payloadPart]) (len + 4)
  have hlayout' : reserved.layout = [headerWidth, len + 4, 0] := by
    simp [hreservedLayout, hlayout, payloadPart]
  -- the payload's window is the `len + 4` zero bytes just appended
  have hrange : reserved.getRange payloadPart =
      .ok (packet.buffer.length, packet.buffer.length + (len.toNat + 4)) := by
    rw [reserved.getRange_of_lt (by decide)]
    simp [hlayout', payloadPart, hwidth, hbuffer]
  have hslice : reserved.slice packet.buffer.length (packet.buffer.length + (len.toNat + 4)) =
      some (List.replicate (len.toNat + 4) 0) := by
    simp [PartitionedSecBuffer.slice, hreservedBuffer, hwidth]
  refine ⟨reserved.setSlice packet.buffer.length (packet.buffer.length + (len.toNat + 4))
    (toBytesBE 4 len.toNat ++ rest), ?_, hlayout', ?_⟩
  · simp [writePayload, hreserve, hrange, hslice, List.drop_replicate, hfx]
  · simp [PartitionedSecBuffer.setSlice, hreservedBuffer, hwidth]

/-- Writing the header: `fx` is handed the header partition, the first `headerWidth` bytes. -/
theorem writeHeader_headerNext {packet : SecurePacket} {headerWidth payloadWidth : UInt32}
    {fx : SliceWriter} {header : List UInt8} {ret : Except IoError Unit}
    (hlayout : packet.layout = [headerWidth, payloadWidth, 0])
    (hbuffer : headerWidth.toNat ≤ packet.buffer.length)
    (hfx : fx (packet.buffer.take headerWidth.toNat) = some (header, ret)) :
    ∃ written, (headerNext packet).writeHeader fx = some (.finalPayloadExt written, ret) ∧
      written.layout = packet.layout ∧ written.buffer = header ++ packet.buffer.drop headerWidth.toNat := by
  have hrange : packet.getRange headerPart = .ok (0, headerWidth.toNat) := by
    rw [packet.getRange_of_lt (by decide)]
    simp [hlayout, headerPart]
  have hslice : packet.slice 0 headerWidth.toNat = some (packet.buffer.take headerWidth.toNat) := by
    simp [PartitionedSecBuffer.slice, hbuffer]
  refine ⟨packet.setSlice 0 headerWidth.toNat header, ?_, rfl, ?_⟩
  · simp [writeHeader, hrange, hslice, hfx]
  · simp [PartitionedSecBuffer.setSlice]

/-- Writing the extension: `len` zero bytes are appended, and `fx` is handed everything from the
`u32` sum of the header's and the payload's widths, which wraps once they reach `2 ^ 32` bytes. -/
theorem writePayloadExtension_finalPayloadExt {packet : SecurePacket}
    {headerWidth payloadWidth len : UInt32} {fx : SliceWriter} {ext : List UInt8}
    (hlayout : packet.layout = [headerWidth, payloadWidth, 0]) (hheader : headerWidth ≠ 0)
    (hpayload : payloadWidth ≠ 0)
    (hbuffer : packet.buffer.length = headerWidth.toNat + payloadWidth.toNat)
    (hfx : fx ((packet.buffer ++ List.replicate len.toNat 0).drop (headerWidth + payloadWidth).toNat) =
      some (ext, .ok ())) :
    ((finalPayloadExt packet).writePayloadExtension len fx).run =
      some (.ok ((packet.buffer ++ List.replicate len.toNat 0).take (headerWidth + payloadWidth).toNat ++
        ext)) := by
  obtain ⟨reserved, hreserve, hreservedLayout, hreservedBuffer⟩ :=
    @PartitionedSecBuffer.reservePartition_eq_ok 3 packet payloadExt (by decide)
      (by simp [hlayout, payloadExt, hheader, hpayload]) (by simp [hlayout, payloadExt]) len
  -- the start wraps modulo `2 ^ 32`, so it never passes the end of the buffer
  have hstart : (headerWidth + payloadWidth).toNat ≤ reserved.buffer.length := by
    rw [hreservedBuffer, List.length_append, hbuffer, UInt32.toNat_add]
    exact le_trans (Nat.mod_le _ _) (Nat.le_add_right _ _)
  have hrange : reserved.getRange payloadExt =
      .ok ((headerWidth + payloadWidth).toNat, reserved.buffer.length) := by
    rw [reserved.getRange_of_lt (by decide)]
    simp [hreservedLayout, hlayout, payloadExt]
  generalize (headerWidth + payloadWidth).toNat = start at hstart hrange hfx ⊢
  have hslice := reserved.slice_to_end hstart
  simp only [writePayloadExtension, hreserve, hrange, hslice, ofResult_ok, unwrap_some, pure_bind,
    bind_pure_comp]
  rw [hreservedBuffer] at hslice ⊢
  simp [hfx, PartitionedSecBuffer.setSlice, PartitionedSecBuffer.intoBuffer, hreservedBuffer]

/-- An extension written by `fx` that puts `ext` at the front of any slice with room for it:
`ext` lands over the packet from the `u32` sum of the widths, which is inside the header once that
sum wraps, and the bytes it does not cover are left as they were. -/
theorem writePayloadExtension_of_writesFront {packet : SecurePacket}
    {headerWidth payloadWidth : UInt32} {fx : SliceWriter} {ext : List UInt8}
    (hlayout : packet.layout = [headerWidth, payloadWidth, 0]) (hheader : headerWidth ≠ 0)
    (hpayload : payloadWidth ≠ 0)
    (hbuffer : packet.buffer.length = headerWidth.toNat + payloadWidth.toNat)
    (hext : ext.length < 2 ^ 32)
    (hfx : ∀ slice, ext.length ≤ slice.length →
      fx slice = some (ext ++ slice.drop ext.length, .ok ())) :
    ((finalPayloadExt packet).writePayloadExtension (UInt32.ofNat ext.length) fx).run =
      some (.ok (let written := packet.buffer ++ List.replicate ext.length 0
        let start := (headerWidth + payloadWidth).toNat
        written.take start ++ ext ++ written.drop (start + ext.length))) := by
  have hlen : (UInt32.ofNat ext.length).toNat = ext.length := UInt32.toNat_ofNat_of_lt' hext
  -- the window starts at the end of the packet at the latest, so the slice has room for `ext`
  have hstart : (headerWidth + payloadWidth).toNat ≤ packet.buffer.length := by
    rw [hbuffer, UInt32.toNat_add]
    exact Nat.mod_le _ _
  have hroom : ext.length ≤ ((packet.buffer ++ List.replicate ext.length 0).drop
      (headerWidth + payloadWidth).toNat).length := by
    simp only [List.length_drop, List.length_append, List.length_replicate]
    omega
  rw [writePayloadExtension_finalPayloadExt hlayout hheader hpayload hbuffer
    (by rw [hlen]; exact hfx _ hroom), hlen, List.drop_drop, List.append_assoc]

/-- A payload framed by its big-endian length is read back, with the bytes after it. -/
theorem extractPayload_frame {payload rest : List UInt8} (hlen : payload.length < 2 ^ 32) :
    extractPayload (toBytesBE 4 payload.length ++ (payload ++ rest)) = .ok (payload, rest) := by
  have hfield : fromBytesBE (toBytesBE 4 payload.length) = payload.length := by
    rw [fromBytesBE_toBytesBE]
    exact Nat.mod_eq_of_lt hlen
  simp [extractPayload, List.take_left' (length_toBytesBE 4 payload.length),
    List.drop_left' (length_toBytesBE 4 payload.length), hfield]

end SecureMessagePacket

/-- `oneshot_unencrypted_group_unified`: a group of one packet that is the whole message, kept by
the sender as its oneshot; `GroupSenderDevice::new_oneshot` holds no packet in RAM. -/
def oneshotUnencryptedGroupUnified (plainText : SecureMessagePacket) (headerSizeBytes : Nat)
    (groupId : UInt64) : Except String (GroupSenderDevice × Option SecureMessagePacket) :=
  let len := plainText.messageLen
  let groupReceiverConfig : GroupReceiverConfig :=
    { groupId := groupId.toNat
      packetsNeeded := 1
      headerSizeBytes := headerSizeBytes
      plaintextLength := len
      maxPayloadSize := len
      lastPayloadSize := len
      numberOfFullWaves := 0
      numberOfPartialWaves := 1
      waveCount := 1
      maxPlaintextWaveLength := len
      lastPlaintextWaveLength := len
      maxPacketsPerWave := 1
      packetsInLastWave := 1 }
  .ok (GroupSenderDevice.new groupReceiverConfig ∅, some plainText)

end CitadelProtocol.Crypt
