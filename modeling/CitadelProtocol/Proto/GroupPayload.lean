import CitadelProtocol.Crypt.GroupReceiver
import CitadelProtocol.Crypt.GroupSender

/-! # Group payload packets

`craft_wave_payload_packet_into` writes an `HdpHeader` and then the two ports of the packet's
vector, one byte each, in front of each ciphertext chunk. On reception the header is split off,
and `on_group_payload_received` reads the two port bytes, recovers the packet's true sequence
with `generate_packet_coordinates_inv`, and hands the rest to
`GroupReceiver::on_packet_received`.

A plaintext whose length is a whole number of waves is never reassembled: the metadata
announces no packet in its last wave, so that wave's store never completes.
-/

namespace CitadelProtocol.Proto

open Crypt Bytes

/-- `NetworkError`, with the variants the group path raises. -/
inductive NetworkError
  | invalidRequest (message : String)
  | generic (message : String)
  deriving DecidableEq, Repr

/-- `HDP_HEADER_BYTE_LEN`, the size of the unaligned `HdpHeader`. -/
def hdpHeaderByteLen : Nat := 60

/-- `packet_flags::cmd::primary::GROUP_PACKET`. -/
def groupPacket : UInt8 := 2

/-- `packet_flags::cmd::aux::group::GROUP_HEADER`. -/
def groupHeader : UInt8 := 0

/-- `packet_flags::cmd::aux::group::GROUP_PAYLOAD`. -/
def groupPayload : UInt8 := 2

/-- `HdpHeader`; the `u128` context info is a natural number. -/
structure HdpHeader where
  cmdPrimary : UInt8
  cmdAux : UInt8
  algorithm : UInt8
  securityLevel : UInt8
  contextInfo : Nat
  group : UInt64
  waveId : UInt32
  sessionCid : UInt64
  drillVersion : UInt32
  timestamp : Int
  targetCid : UInt64
  deriving DecidableEq, Repr

/-- `HdpHeader::inscribe_into`: the fields in order, in network byte order. -/
def HdpHeader.inscribeInto (h : HdpHeader) : List UInt8 :=
  [h.cmdPrimary, h.cmdAux, h.algorithm, h.securityLevel] ++ toBytesBE 16 h.contextInfo ++
    toBytesBE 8 h.group.toNat ++ toBytesBE 4 h.waveId.toNat ++ toBytesBE 8 h.sessionCid.toNat ++
    toBytesBE 4 h.drillVersion.toNat ++ toBytesBE 8 (h.timestamp % 2 ^ 64).toNat ++
    toBytesBE 8 h.targetCid.toNat

@[simp] theorem HdpHeader.length_inscribeInto (h : HdpHeader) :
    h.inscribeInto.length = hdpHeaderByteLen := by
  simp [HdpHeader.inscribeInto, hdpHeaderByteLen]

/-- `HdpHeader::inscribe_into_slice`: the header over the first bytes of the slice, through a
cursor whose writes are unwrapped, so a slice shorter than the header panics. -/
def HdpHeader.inscribeIntoSlice (h : HdpHeader) (output : List UInt8) : Option (List UInt8) :=
  if hdpHeaderByteLen ≤ output.length then some (h.inscribeInto ++ output.drop hdpHeaderByteLen)
  else none

theorem HdpHeader.inscribeIntoSlice_of_length {h : HdpHeader} {output : List UInt8}
    (hlen : output.length = hdpHeaderByteLen) : h.inscribeIntoSlice output = some h.inscribeInto := by
  simp [HdpHeader.inscribeIntoSlice, hlen]

/-- `LayoutVerified<&[u8], HdpHeader>`: the 60 bytes of a header, read in place. -/
structure HdpHeaderView where
  bytes : List UInt8
  length_bytes : bytes.length = hdpHeaderByteLen

namespace HdpHeaderView

/-- `LayoutVerified::new`: a view of exactly `HDP_HEADER_BYTE_LEN` bytes. -/
def new (bytes : List UInt8) : Option HdpHeaderView :=
  if h : bytes.length = hdpHeaderByteLen then some ⟨bytes, h⟩ else none

/-- The field `cmd_aux`, the header's second byte. -/
def cmdAux (view : HdpHeaderView) : UInt8 :=
  view.bytes.get ⟨1, by rw [view.length_bytes]; decide⟩

/-- The field `algorithm`, the header's third byte. -/
def algorithm (view : HdpHeaderView) : UInt8 :=
  view.bytes.get ⟨2, by rw [view.length_bytes]; decide⟩

/-- The field `security_level`, the header's fourth byte. -/
def securityLevel (view : HdpHeaderView) : UInt8 :=
  view.bytes.get ⟨3, by rw [view.length_bytes]; decide⟩

/-- An inscribed header is viewed with the fields it was inscribed with. -/
theorem new_inscribeInto (h : HdpHeader) :
    ∃ view, new h.inscribeInto = some view ∧ view.cmdAux = h.cmdAux ∧
      view.algorithm = h.algorithm ∧ view.securityLevel = h.securityLevel :=
  ⟨⟨h.inscribeInto, h.length_inscribeInto⟩, dif_pos h.length_inscribeInto, rfl, rfl, rfl⟩

end HdpHeaderView

/-- `craft_wave_payload_packet_into`: the header of a wave payload packet, then its two ports
cast to bytes. -/
def craftWavePayloadPacketInto (coords : PacketVector) (scrambleDrill : EntropyBank)
    (objectId : UInt32) (targetCid : UInt64) : List UInt8 :=
  let header : HdpHeader :=
    { cmdPrimary := groupPacket
      cmdAux := groupPayload
      algorithm := 0
      securityLevel := 0
      contextInfo := objectId.toNat
      group := coords.groupId
      waveId := coords.waveId
      sessionCid := scrambleDrill.cid
      drillVersion := scrambleDrill.version
      timestamp := 0
      targetCid := targetCid }
  header.inscribeInto ++ [coords.localPort.toUInt8, coords.remotePort.toUInt8]

/-- Splitting the header off a wave payload packet leaves its two port bytes and its chunk. -/
theorem drop_craftWavePayloadPacketInto (coords : PacketVector) (scrambleDrill : EntropyBank)
    (objectId : UInt32) (targetCid : UInt64) (chunk : List UInt8) :
    (craftWavePayloadPacketInto coords scrambleDrill objectId targetCid ++ chunk).drop
        hdpHeaderByteLen =
      coords.localPort.toUInt8 :: coords.remotePort.toUInt8 :: chunk := by
  simp [craftWavePayloadPacketInto]

/-- The packet path of `on_group_payload_received`, from the payload after the header to the
status of `on_packet_received`; `none` is a panic. -/
def groupPayloadStatus (cipher : WaveCipher) (scrambleDrill : EntropyBank) (groupId : UInt64)
    (waveId : UInt32) (receiver : GroupReceiver) (payload : List UInt8) :
    Option (Except NetworkError (GroupReceiverStatus × GroupReceiver)) :=
  match payload with
  | [] => some (.error (.invalidRequest "Bad payload packet [0]"))
  | [_] => some (.error (.invalidRequest "Bad payload packet [1]"))
  | src :: dest :: rest =>
      match generatePacketCoordinatesInv waveId src.toUInt16 dest.toUInt16 scrambleDrill with
      | none => some (.error (.invalidRequest "Unable to obtain true_sequence"))
      | some trueSequence =>
          (receiver.onPacketReceived cipher groupId trueSequence waveId rest).map .ok

/-- A packet of the sender handed to the receiver: its header split off, under the group id and
wave id the header carries. -/
def deliverPacket (cipher : WaveCipher) (scrambleDrill : EntropyBank) (groupId : UInt64)
    (receiver : GroupReceiver) (coord : PacketCoordinate) :
    Option (Except NetworkError (GroupReceiverStatus × GroupReceiver)) :=
  groupPayloadStatus cipher scrambleDrill groupId coord.vector.waveId receiver
    (coord.packet.drop hdpHeaderByteLen)

/-- A packet built by `scramble_encrypt_wave` with `craft_wave_payload_packet_into` reaches
`on_packet_received` with its own true sequence and its chunk, when the drill's mappings are
distinct and fit in a byte. -/
theorem deliverPacket_of_vector {cipher : WaveCipher} {drill : EntropyBank}
    (hnodup : drill.scrambleMappings.Nodup)
    (hports : ∀ pair ∈ drill.scrambleMappings, pair.1.toNat < 256 ∧ pair.2.toNat < 256)
    (trueSequence : Nat) (hwave : trueSequence / drill.getMultiportWidth < 2 ^ 32)
    (groupId : UInt64) (receiver : GroupReceiver) (objectId : UInt32) (targetCid : UInt64)
    (chunk : List UInt8) :
    let vector := generatePacketVector trueSequence groupId drill
    deliverPacket cipher drill groupId receiver
        { packet := craftWavePayloadPacketInto vector drill objectId targetCid ++ chunk
          vector := vector } =
      (receiver.onPacketReceived cipher groupId trueSequence vector.waveId chunk).map .ok := by
  intro vector
  have hinv := generatePacketCoordinatesInv_generatePacketVector hnodup hports hwave groupId
  simp only [deliverPacket, drop_craftWavePayloadPacketInto, groupPayloadStatus]
  rw [show generatePacketCoordinatesInv vector.waveId vector.localPort.toUInt8.toUInt16
    vector.remotePort.toUInt8.toUInt16 drill = some trueSequence from hinv]

/-! ## Plaintexts of whole waves -/

/-- A plaintext of whole waves, scrambled with a symmetric algorithm, is never reassembled:
whatever packets the receiver built from the sender's configuration is handed, no call returns
`GROUP_COMPLETE`. -/
theorem scrambled_whole_waves_never_complete {sizes : KyberSizes} {cipher : WaveCipher}
    {headerLen : Nat} {plainText : List UInt8} {securityLevel : SecurityLevel}
    {msgDrill scrambleDrill : EntropyBank} {enx : EncryptionAlgorithm} {sigAlg : SigAlgorithm}
    {headerSizeBytes : Nat} {targetCid : UInt64} {objectId : UInt32} {groupId : UInt64}
    {headerInscriber : PacketVector → EntropyBank → UInt32 → UInt64 → List UInt8}
    {dev : GroupSenderDevice} (henx : enx ≠ .kyber)
    (h : parScrambleEncryptGroup sizes cipher headerLen plainText securityLevel msgDrill
      scrambleDrill enx sigAlg headerSizeBytes targetCid objectId groupId headerInscriber = .ok dev)
    (hwhole : plainText.length % dev.getReceiverConfig.maxPlaintextWaveLength = 0)
    {r r' : GroupReceiver} {arrival : GroupReceiver.PacketArrival} {status : GroupReceiverStatus}
    (hr : (GroupReceiver.system cipher dev.getReceiverConfig).Reachable r)
    (hstep : (GroupReceiver.system cipher dev.getReceiverConfig).step r (arrival, status) r') :
    ∀ w, status ≠ .groupComplete w := by
  obtain ⟨hcfg, -⟩ := parScrambleEncryptGroup_of_ne_kyber henx h
  obtain ⟨hlast, hcount, -⟩ := generateScramblerMetadata_of_full_waves hcfg hwhole
  exact GroupReceiver.never_groupComplete_of_packetsInLastWave_eq_zero hcount hlast hr hstep

/-- The 14 port pairs `(i, i)`, which `create_port_mapping` builds when its two shuffles leave
the ports in place. -/
def identityPortMapping : List (UInt16 × UInt16) :=
  (List.range portRange).map fun i => (i.toUInt16, i.toUInt16)

/-- A scramble drill with the identity port mapping. -/
def identityDrill : EntropyBank where
  cid := 0
  version := 0
  scrambleMappings := identityPortMapping
  scrambleMappings_ne_nil := by decide

/-- 6928 bytes are one whole wave of 14 packets of 496 bytes under AES-GCM-SIV: the receiver
built from the sender's configuration allocates 496 bytes for that wave, takes the packet of
true sequence 0, and panics on the packet of true sequence 1, whose range is `496..992`. -/
theorem whole_wave_group_panics_at_second_packet (sizes : KyberSizes) (cipher : WaveCipher)
    (hcipher : ∀ nonce bytes, (cipher.encrypt nonce bytes).length = bytes.length + 16) :
    ∃ dev first second r,
      parScrambleEncryptGroup sizes cipher hdpHeaderByteLen (List.replicate 6928 0) .standard
          identityDrill identityDrill .aesGcm256Siv .none hdpHeaderByteLen 0 0 0
          craftWavePayloadPacketInto = .ok dev ∧
        dev.packetsInRam.lookup 0 = some first ∧ dev.packetsInRam.lookup 1 = some second ∧
        deliverPacket cipher identityDrill 0 (GroupReceiver.new dev.getReceiverConfig) first =
          some (.ok (.insertSuccess, r)) ∧
        deliverPacket cipher identityDrill 0 r second = none := by
  generalize hplain : List.replicate 6928 (0 : UInt8) = plainText
  have hlen : plainText.length = 6928 := by rw [← hplain, List.length_replicate]
  have hempty : plainText.isEmpty = false := by rw [← hplain]; rfl
  -- one full wave of 14 packets of 496 bytes, and no packet announced in the last wave
  let cfg : GroupReceiverConfig :=
    { packetsNeeded := 14, maxPacketsPerWave := 14, plaintextLength := 6928, maxPayloadSize := 496
      lastPayloadSize := 496, numberOfFullWaves := 1, numberOfPartialWaves := 0, waveCount := 1
      maxPlaintextWaveLength := 6928, lastPlaintextWaveLength := 6928, packetsInLastWave := 0
      headerSizeBytes := 60, groupId := 0 }
  have hwidth : identityDrill.getMultiportWidth = 14 := rfl
  have hcfg : generateScramblerMetadata sizes identityDrill plainText hdpHeaderByteLen .standard 0
      .aesGcm256Siv .none = .ok cfg := by
    have hsplit : waveSplit plainText.length 6928 = (1, 0, 6928) := by rw [hlen]; rfl
    simp only [generateScramblerMetadata, hempty, Bool.false_eq_true, if_false, hwidth]
    rw [getMaxPacketSize_of_isSymmetric (show EncryptionAlgorithm.aesGcm256Siv.IsSymmetric from trivial),
      show maxPlaintextBytesPerWave 496 14 = 6928 from rfl,
      hsplit]
    simp [GroupReceiverConfig.newRefresh, hlen, divCeil, cfg, hdpHeaderByteLen]
  -- the one wave's ciphertext is cut into 14 chunks of 496 bytes
  set wave := scrambleEncryptWave cipher 0 plainText cfg identityDrill 0 0
    craftWavePayloadPacketInto with hwave
  have hdev : parScrambleEncryptGroup sizes cipher hdpHeaderByteLen plainText .standard
      identityDrill identityDrill .aesGcm256Siv .none hdpHeaderByteLen 0 0 0
      craftWavePayloadPacketInto = .ok (GroupSenderDevice.new cfg (FiniteMap.collect wave)) := by
    rw [parScrambleEncryptGroup_eq_of_ne_kyber (by decide) hcfg,
      scrambleEncryptWaves_of_length_le (by omega) (by rw [hlen])]
  have hctlen : (cipher.encrypt (calculateNonceVersion 0 (UInt64.ofNat cfg.groupId))
      plainText).length = 14 * cfg.maxPayloadSize := by
    rw [hcipher, hlen]
    rfl
  have hlenWave : wave.length = 14 := by
    rw [hwave, length_scrambleEncryptWave, length_chunks, hctlen, divCeil_mul (by decide)]
  -- packet `j` of the wave holds a chunk of 496 bytes behind the header of its vector
  have hpacket : ∀ j, j < 14 → ∃ coord, (FiniteMap.collect wave).lookup j = some coord ∧
      ∃ chunk : List UInt8, chunk.length = 496 ∧ coord =
        { packet := craftWavePayloadPacketInto (generatePacketVector j 0 identityDrill)
            identityDrill 0 0 ++ chunk
          vector := generatePacketVector j 0 identityDrill } := by
    intro j hj
    have hj' : j < (scrambleEncryptWave cipher 0 plainText cfg identityDrill 0 0
        craftWavePayloadPacketInto).length := by
      rw [← hwave, hlenWave]
      exact hj
    have hlookup := lookup_collect_scrambleEncryptWave hj'
    rw [getElem_scrambleEncryptWave hj'] at hlookup
    rw [Nat.zero_mul, Nat.zero_add] at hlookup
    refine ⟨_, hlookup, _, ?_, rfl⟩
    rw [List.get_eq_getElem, length_getElem_chunks_of_mul (by decide) hctlen]
  obtain ⟨first, hlookup0, chunk0, hchunk0, hfirst⟩ := hpacket 0 (by decide)
  obtain ⟨second, hlookup1, chunk1, hchunk1, hsecond⟩ := hpacket 1 (by decide)
  have hnodup : identityDrill.scrambleMappings.Nodup := by decide
  have hports : ∀ pair ∈ identityDrill.scrambleMappings,
      pair.1.toNat < 256 ∧ pair.2.toNat < 256 := by
    intro pair hpair
    simp only [identityDrill, identityPortMapping, portRange, List.mem_map, List.mem_range] at hpair
    obtain ⟨i, hi, rfl⟩ := hpair
    have : i % 65536 < 256 := by omega
    simpa using this
  -- the last wave is wave 0: its store expects no packet and holds 496 bytes
  set store0 := GroupReceiver.newWaveStore cfg 0 with hstore0
  have hlast : store0 = GroupReceiver.newWaveStore cfg (cfg.waveCount - 1) := rfl
  rw [GroupReceiver.newWaveStore_last] at hlast
  have hsizes : cfg.packetsInLastWave = 0 ∧ cfg.maxPayloadSize = 496 ∧ cfg.lastPayloadSize = 496 :=
    ⟨rfl, rfl, rfl⟩
  have hbuf0 : store0.ciphertextBuffer.length = 496 := by
    rw [hlast, List.length_replicate, hsizes.1, hsizes.2.1, hsizes.2.2]
  have hfields0 : store0.packetsReceived = 0 ∧ store0.packetsInWave = 0 := by
    rw [hlast]
    exact ⟨rfl, rfl⟩
  have hwidth : 0 < (GroupReceiver.new cfg).maxPacketsPerWave := (by decide : 0 < 14)
  have hpayload : (GroupReceiver.new cfg).maxPayloadSize = 496 := rfl
  -- packet 0 goes to `0..496`, the whole buffer
  obtain ⟨store1, hins0⟩ : ∃ store1,
      (GroupReceiver.new cfg).insertPacket store0 0 chunk0 = some store1 := by
    rw [GroupReceiver.insertPacket_of_ne_last hwidth (by decide), copyInto_of_le (by omega)
      (by rw [hpayload, hbuf0]; decide) (by rw [hpayload, hchunk0]; decide)]
    exact ⟨_, rfl⟩
  obtain ⟨hinwave1, hreceived1, -, hbuf1⟩ := GroupReceiver.insertPacket_spec hins0
  let r1 : GroupReceiver := { GroupReceiver.new cfg with
    packetsReceivedOrder := (GroupReceiver.new cfg).packetsReceivedOrder.set 0 true
    tempWaveStore := (GroupReceiver.new cfg).tempWaveStore.set 0 (some store1) }
  have hstep0 : (GroupReceiver.new cfg).onPacketReceived cipher 0 0 0 chunk0 =
      some (.insertSuccess, r1) := by
    rw [GroupReceiver.onPacketReceived_of_waveStore rfl (GroupReceiver.waveStore_new (by decide)),
      show (0 : UInt32).toNat = 0 from rfl, hins0]
    have hopen : store1.packetsReceived ≠ store1.packetsInWave := by omega
    simp only [hopen, if_false]
    rfl
  -- packet 1 goes to `496..992`, past the end of the buffer
  have hins1 : r1.insertPacket store1 1 chunk1 = none := by
    rw [GroupReceiver.insertPacket_of_ne_last (show 0 < r1.maxPacketsPerWave from hwidth)
      (show 1 ≠ 14 - 1 by decide),
      copyInto_of_length_lt (by rw [hbuf1, hbuf0]; show 496 < 496 + 496 * (1 % 14); decide)]
    rfl
  have hstep1 : r1.onPacketReceived cipher 0 1 0 chunk1 = none := by
    rw [GroupReceiver.onPacketReceived_of_waveStore rfl rfl, hins1]
  refine ⟨_, first, second, r1, hdev, hlookup0, hlookup1, ?_, ?_⟩
  · rw [hfirst, deliverPacket_of_vector hnodup hports 0 (by decide)]
    exact congrArg (Option.map Except.ok) hstep0
  · rw [hsecond, deliverPacket_of_vector hnodup hports 1 (by decide)]
    exact congrArg (Option.map Except.ok) hstep1

/-- A cipher with the shape of an AEAD: encryption appends a 16-byte tag, which decryption
strips. -/
def appendTagCipher : WaveCipher where
  encrypt _ bytes := bytes ++ List.replicate 16 0
  decrypt _ bytes := some (bytes.take (bytes.length - 16))

theorem whole_wave_group_panics_with_appended_tag :
    (∀ nonce bytes, (appendTagCipher.encrypt nonce bytes).length = bytes.length + 16) ∧
      ∃ dev first second r,
        parScrambleEncryptGroup ⟨0, fun _ => 0⟩ appendTagCipher hdpHeaderByteLen
            (List.replicate 6928 0) .standard identityDrill identityDrill .aesGcm256Siv .none
            hdpHeaderByteLen 0 0 0 craftWavePayloadPacketInto = .ok dev ∧
          dev.packetsInRam.lookup 0 = some first ∧ dev.packetsInRam.lookup 1 = some second ∧
          deliverPacket appendTagCipher identityDrill 0 (GroupReceiver.new dev.getReceiverConfig)
              first = some (.ok (.insertSuccess, r)) ∧
          deliverPacket appendTagCipher identityDrill 0 r second = none :=
  have hcipher : ∀ nonce bytes, (appendTagCipher.encrypt nonce bytes).length = bytes.length + 16 :=
    fun _ bytes => by simp [appendTagCipher]
  ⟨hcipher, whole_wave_group_panics_at_second_packet ⟨0, fun _ => 0⟩ appendTagCipher hcipher⟩

/-! ## Headers and payloads from the peer

A GROUP_HEADER carries the sender's `GroupReceiverConfig`, which `validate_header` accepts once
its plaintext length is within `MAX_BYTES_PER_GROUP`; no other field is checked. A GROUP_PAYLOAD
is not authenticated before `on_packet_received` writes it into its wave's buffer. -/

/-- The check of `validation::group::validate_header` on the deserialized configuration: a
plaintext slab over `MAX_BYTES_PER_GROUP` is refused. -/
def validateHeader (cfg : GroupReceiverConfig) : Option GroupReceiverConfig :=
  if maxBytesPerGroup < cfg.plaintextLength then none else some cfg

/-- A receiver built from any accepted configuration of two packets or more panics on a first
packet whose payload is longer than `max_payload_size`: the packet's range in its wave's buffer
is one payload long, and the copy does not fit. -/
theorem oversized_payload_panics_receiver {cipher : WaveCipher} {cfg : GroupReceiverConfig}
    {receiver : GroupReceiver} (hreceiver : (validateHeader cfg).map GroupReceiver.new = some receiver)
    (hwaves : 0 < cfg.waveCount) (hneeded : 2 ≤ cfg.packetsNeeded)
    (hwidth : 0 < cfg.maxPacketsPerWave) (groupId : UInt64) {payload : List UInt8}
    (hlong : cfg.maxPayloadSize < payload.length) :
    receiver.onPacketReceived cipher groupId 0 0 payload = none := by
  -- the header was accepted, and the receiver is the one `new` builds from it
  have hnew : receiver = GroupReceiver.new cfg := by
    unfold validateHeader at hreceiver
    split at hreceiver
    · cases hreceiver
    · exact (Option.some.inj hreceiver).symm
  subst hnew
  have hbit : (GroupReceiver.new cfg).packetsReceivedOrder[0]? = some false := by
    simp only [GroupReceiver.new, List.getElem?_replicate]
    rw [if_pos (by omega)]
  have hstore : (GroupReceiver.new cfg).waveStore (0 : UInt32).toNat =
      some (GroupReceiver.newWaveStore cfg 0) := GroupReceiver.waveStore_new hwaves
  rw [GroupReceiver.onPacketReceived_of_waveStore hbit hstore]
  -- the first packet is not the group's last, so its range is the wave's first payload
  have hnotLast : 0 ≠ (GroupReceiver.new cfg).packetsNeeded - 1 := by
    simp only [GroupReceiver.new]
    omega
  have hinsert : (GroupReceiver.new cfg).insertPacket (GroupReceiver.newWaveStore cfg 0) 0 payload =
      none := by
    rw [GroupReceiver.insertPacket_of_ne_last hwidth hnotLast, Option.map_eq_none_iff,
      copyInto_eq_none_iff]
    simp only [GroupReceiver.new, Nat.zero_mod, Nat.mul_zero, Nat.add_zero, Nat.sub_zero]
    omega
  rw [hinsert]

/-- Two waves of one packet each, as the sender cuts 481 bytes under AES-GCM-SIV with one port
pair. -/
def twoPacketConfig : GroupReceiverConfig where
  packetsNeeded := 2
  maxPacketsPerWave := 1
  plaintextLength := 481
  maxPayloadSize := 496
  lastPayloadSize := 17
  numberOfFullWaves := 1
  numberOfPartialWaves := 1
  waveCount := 2
  maxPlaintextWaveLength := 480
  lastPlaintextWaveLength := 1
  packetsInLastWave := 1
  headerSizeBytes := hdpHeaderByteLen
  groupId := 0

/-- A first payload of 497 bytes panics the receiver of `twoPacketConfig`. -/
theorem oversized_payload_panics_receiver_of_two_packets :
    (validateHeader twoPacketConfig).map GroupReceiver.new =
        some (GroupReceiver.new twoPacketConfig) ∧ 0 < twoPacketConfig.waveCount ∧
      2 ≤ twoPacketConfig.packetsNeeded ∧ 0 < twoPacketConfig.maxPacketsPerWave ∧
      twoPacketConfig.maxPayloadSize < (List.replicate 497 (0 : UInt8)).length ∧
      (GroupReceiver.new twoPacketConfig).onPacketReceived appendTagCipher 0 0 0
        (List.replicate 497 0) = none := by
  have hreceiver : (validateHeader twoPacketConfig).map GroupReceiver.new =
      some (GroupReceiver.new twoPacketConfig) := rfl
  have hlong : twoPacketConfig.maxPayloadSize < (List.replicate 497 (0 : UInt8)).length := by
    rw [List.length_replicate]
    decide
  exact ⟨hreceiver, by decide, by decide, by decide, hlong,
    oversized_payload_panics_receiver hreceiver (by decide) (by decide) (by decide) 0 hlong⟩

end CitadelProtocol.Proto
