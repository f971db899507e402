import CitadelProtocol.Lib.FiniteMap
import CitadelProtocol.Lib.MachineInt
import CitadelProtocol.Crypt.CryptSplitter
import CitadelProtocol.Pqcrypto.Encryption

/-! # Scrambling a group

`par_scramble_encrypt_group` cuts a plaintext into waves of `max_plaintext_wave_length` bytes,
encrypts each wave once, and cuts each ciphertext into packets of `max_payload_size` bytes.
A packet's true sequence is its wave index times `max_packets_per_wave` plus its index in the
wave; a header inscriber writes the packet's header, and the packets are collected into a hash
map keyed by true sequence, where a later packet of the same key replaces an earlier one.

The hash map is `FiniteMap.collect`; the shuffle of each wave's packets is dropped, since
the packets end in that map.
-/

namespace CitadelProtocol.Crypt

open Bytes

/-- `PacketCoordinate`: a packet and where it sits in its group. -/
structure PacketCoordinate where
  packet : List UInt8
  vector : PacketVector
  deriving DecidableEq, Repr

/-- The packets of a group, by true sequence. -/
abbrev PacketMap := AList fun _ : Nat => PacketCoordinate

/-- `scramble_encrypt_wave`: encrypt one wave and cut its ciphertext into packets. -/
def scrambleEncryptWave (cipher : WaveCipher) (waveIdx : Nat) (bytesToEncryptForThisWave : List UInt8)
    (cfg : GroupReceiverConfig) (scrambleDrill : EntropyBank) (targetCid : UInt64)
    (objectId : UInt32)
    (headerInscriber : PacketVector → EntropyBank → UInt32 → UInt64 → List UInt8) :
    List (Nat × PacketCoordinate) :=
  let ciphertext := cipher.encrypt (calculateNonceVersion waveIdx (UInt64.ofNat cfg.groupId))
    bytesToEncryptForThisWave
  (chunks cfg.maxPayloadSize ciphertext).zipIdx.map fun (ciphertextPacketBytes, relativePacketIdx) =>
    let truePacketSequence := waveIdx * cfg.maxPacketsPerWave + relativePacketIdx
    let vector := generatePacketVector truePacketSequence (UInt64.ofNat cfg.groupId) scrambleDrill
    (truePacketSequence,
      { packet := headerInscriber vector scrambleDrill objectId targetCid ++ ciphertextPacketBytes
        vector := vector })

/-- `GroupSenderDevice`, without its oneshot packet and its timer. -/
structure GroupSenderDevice where
  packetsInRam : PacketMap
  packetsReceived : Nat
  packetsSent : Nat
  receiverConfig : GroupReceiverConfig

namespace GroupSenderDevice

/-- `GroupSenderDevice::new`. -/
def new (receiverConfig : GroupReceiverConfig) (packetsInRam : PacketMap) : GroupSenderDevice where
  packetsInRam := packetsInRam
  packetsReceived := 0
  packetsSent := 0
  receiverConfig := receiverConfig

/-- `get_receiver_config`. -/
def getReceiverConfig (dev : GroupSenderDevice) : GroupReceiverConfig := dev.receiverConfig

end GroupSenderDevice

/-- The packets of every wave of a plaintext, in wave order. -/
def scrambleEncryptWaves (cipher : WaveCipher) (plainText : List UInt8) (cfg : GroupReceiverConfig)
    (scrambleDrill : EntropyBank) (targetCid : UInt64) (objectId : UInt32)
    (headerInscriber : PacketVector → EntropyBank → UInt32 → UInt64 → List UInt8) :
    List (Nat × PacketCoordinate) :=
  (chunks cfg.maxPlaintextWaveLength plainText).zipIdx.flatMap fun (bytesToEncrypt, waveIdx) =>
    scrambleEncryptWave cipher waveIdx bytesToEncrypt cfg scrambleDrill targetCid objectId
      headerInscriber

/-- `par_scramble_encrypt_group`, with the header length `N` of the device. For Kyber, whose
ciphertext length varies, the configuration is refreshed with the measured length of the last
wave's ciphertext. -/
def parScrambleEncryptGroup (sizes : KyberSizes) (cipher : WaveCipher) (headerLen : Nat)
    (plainText : List UInt8) (securityLevel : SecurityLevel) (msgDrill scrambleDrill : EntropyBank)
    (enx : EncryptionAlgorithm) (sigAlg : SigAlgorithm) (headerSizeBytes : Nat)
    (targetCid : UInt64) (objectId : UInt32) (groupId : UInt64)
    (headerInscriber : PacketVector → EntropyBank → UInt32 → UInt64 → List UInt8) :
    Except SplitterError GroupSenderDevice := do
  let cfg ← generateScramblerMetadata sizes msgDrill plainText headerSizeBytes securityLevel
    groupId enx sigAlg
  let packets := FiniteMap.collect
    (scrambleEncryptWaves cipher plainText cfg scrambleDrill targetCid objectId headerInscriber)
  if enx ≠ .kyber then
    pure (GroupSenderDevice.new cfg packets)
  else
    let lastWaveIdx := UInt32.ofNat cfg.waveCount - 1
    let ciphertextLen := (packets.entries.filterMap fun r =>
      if r.2.vector.waveId = lastWaveIdx then some (r.2.packet.length - headerLen) else none).sum
    let cfg := GroupReceiverConfig.newRefresh (UInt64.ofNat cfg.groupId) cfg.headerSizeBytes
      plainText cfg.maxPayloadSize cfg.numberOfFullWaves cfg.numberOfPartialWaves
      cfg.maxPlaintextWaveLength cfg.lastPlaintextWaveLength cfg.maxPacketsPerWave ciphertextLen
    pure (GroupSenderDevice.new cfg packets)

/-! ## The packets of a wave -/

section Wave

variable {cipher : WaveCipher} {waveIdx : Nat} {bytes : List UInt8} {cfg : GroupReceiverConfig}
  {scrambleDrill : EntropyBank} {targetCid : UInt64} {objectId : UInt32}
  {headerInscriber : PacketVector → EntropyBank → UInt32 → UInt64 → List UInt8}

@[simp] theorem length_scrambleEncryptWave :
    (scrambleEncryptWave cipher waveIdx bytes cfg scrambleDrill targetCid objectId
      headerInscriber).length =
      (chunks cfg.maxPayloadSize
        (cipher.encrypt (calculateNonceVersion waveIdx (UInt64.ofNat cfg.groupId)) bytes)).length := by
  simp [scrambleEncryptWave]

/-- The `j`-th packet of a wave is its `j`-th ciphertext chunk behind the header of its vector,
at true sequence `wave_idx * max_packets_per_wave + j`. -/
theorem getElem_scrambleEncryptWave {j : Nat}
    (hj : j < (scrambleEncryptWave cipher waveIdx bytes cfg scrambleDrill targetCid objectId
      headerInscriber).length) :
    let ciphertext := cipher.encrypt (calculateNonceVersion waveIdx (UInt64.ofNat cfg.groupId)) bytes
    let vector := generatePacketVector (waveIdx * cfg.maxPacketsPerWave + j)
      (UInt64.ofNat cfg.groupId) scrambleDrill
    (scrambleEncryptWave cipher waveIdx bytes cfg scrambleDrill targetCid objectId
      headerInscriber)[j] =
      (waveIdx * cfg.maxPacketsPerWave + j,
        { packet := headerInscriber vector scrambleDrill objectId targetCid ++
            (chunks cfg.maxPayloadSize ciphertext).get ⟨j, by simpa using hj⟩
          vector := vector }) := by
  simp [scrambleEncryptWave]

/-- The true sequences of a wave are consecutive from `wave_idx * max_packets_per_wave`. -/
theorem keys_scrambleEncryptWave :
    (scrambleEncryptWave cipher waveIdx bytes cfg scrambleDrill targetCid objectId
      headerInscriber).map Prod.fst =
      (List.range (scrambleEncryptWave cipher waveIdx bytes cfg scrambleDrill targetCid objectId
        headerInscriber).length).map (waveIdx * cfg.maxPacketsPerWave + ·) := by
  apply List.ext_getElem (by simp)
  intro j hj _
  simp only [List.getElem_map, List.getElem_range]
  rw [getElem_scrambleEncryptWave (by simpa using hj)]

/-- Within a wave the true sequences are distinct, so the collected map holds each packet of
the wave under its true sequence. -/
theorem lookup_collect_scrambleEncryptWave {j : Nat}
    (hj : j < (scrambleEncryptWave cipher waveIdx bytes cfg scrambleDrill targetCid objectId
      headerInscriber).length) :
    (FiniteMap.collect (scrambleEncryptWave cipher waveIdx bytes cfg scrambleDrill targetCid
        objectId headerInscriber)).lookup (waveIdx * cfg.maxPacketsPerWave + j) =
      some (scrambleEncryptWave cipher waveIdx bytes cfg scrambleDrill targetCid objectId
        headerInscriber)[j].2 := by
  have hnodup : ((scrambleEncryptWave cipher waveIdx bytes cfg scrambleDrill targetCid objectId
      headerInscriber).map Prod.fst).Nodup := by
    rw [keys_scrambleEncryptWave]
    exact List.Nodup.map (fun a b h => by simpa using h) List.nodup_range
  have hkey : (scrambleEncryptWave cipher waveIdx bytes cfg scrambleDrill targetCid objectId
      headerInscriber)[j].1 = waveIdx * cfg.maxPacketsPerWave + j := by
    rw [getElem_scrambleEncryptWave hj]
  apply FiniteMap.lookup_collect_of_mem hnodup
  rw [← hkey]
  exact List.getElem_mem hj

end Wave

/-- A non-empty plaintext no longer than a wave is scrambled as the single wave 0. -/
theorem scrambleEncryptWaves_of_length_le {cipher : WaveCipher} {plainText : List UInt8}
    {cfg : GroupReceiverConfig} {scrambleDrill : EntropyBank} {targetCid : UInt64}
    {objectId : UInt32} {headerInscriber : PacketVector → EntropyBank → UInt32 → UInt64 → List UInt8}
    (hpos : 0 < plainText.length) (hle : plainText.length ≤ cfg.maxPlaintextWaveLength) :
    scrambleEncryptWaves cipher plainText cfg scrambleDrill targetCid objectId headerInscriber =
      scrambleEncryptWave cipher 0 plainText cfg scrambleDrill targetCid objectId
        headerInscriber := by
  simp [scrambleEncryptWaves, chunks_of_length_le hpos hle]

/-- Each packet of each wave is collected under its true sequence. -/
theorem mem_keys_scrambleEncryptWaves {cipher : WaveCipher} {plainText : List UInt8}
    {cfg : GroupReceiverConfig} {scrambleDrill : EntropyBank} {targetCid : UInt64}
    {objectId : UInt32} {headerInscriber : PacketVector → EntropyBank → UInt32 → UInt64 → List UInt8}
    {i j : Nat} (hi : i < (chunks cfg.maxPlaintextWaveLength plainText).length)
    (hj : j < (scrambleEncryptWave cipher i (chunks cfg.maxPlaintextWaveLength plainText)[i] cfg
      scrambleDrill targetCid objectId headerInscriber).length) :
    i * cfg.maxPacketsPerWave + j ∈
      (scrambleEncryptWaves cipher plainText cfg scrambleDrill targetCid objectId
        headerInscriber).map Prod.fst := by
  rw [List.mem_map]
  refine ⟨(scrambleEncryptWave cipher i (chunks cfg.maxPlaintextWaveLength plainText)[i] cfg
    scrambleDrill targetCid objectId headerInscriber)[j], ?_, ?_⟩
  · rw [scrambleEncryptWaves, List.mem_flatMap]
    exact ⟨((chunks cfg.maxPlaintextWaveLength plainText)[i], i),
      List.mk_mem_zipIdx_iff_getElem?.mpr (by simp), List.getElem_mem hj⟩
  · rw [getElem_scrambleEncryptWave hj]

/-- Spec of `par_scramble_encrypt_group` for any algorithm but Kyber: the device holds the
configuration of `generate_scrambler_metadata` and the packets of every wave. -/
theorem parScrambleEncryptGroup_eq_of_ne_kyber {sizes : KyberSizes} {cipher : WaveCipher}
    {headerLen : Nat} {plainText : List UInt8} {securityLevel : SecurityLevel}
    {msgDrill scrambleDrill : EntropyBank} {enx : EncryptionAlgorithm} {sigAlg : SigAlgorithm}
    {headerSizeBytes : Nat} {targetCid : UInt64} {objectId : UInt32} {groupId : UInt64}
    {headerInscriber : PacketVector → EntropyBank → UInt32 → UInt64 → List UInt8}
    {cfg : GroupReceiverConfig} (henx : enx ≠ .kyber)
    (hcfg : generateScramblerMetadata sizes msgDrill plainText headerSizeBytes securityLevel
      groupId enx sigAlg = .ok cfg) :
    parScrambleEncryptGroup sizes cipher headerLen plainText securityLevel msgDrill
      scrambleDrill enx sigAlg headerSizeBytes targetCid objectId groupId headerInscriber =
      .ok (GroupSenderDevice.new cfg (FiniteMap.collect (scrambleEncryptWaves cipher plainText cfg
        scrambleDrill targetCid objectId headerInscriber))) := by
  simp only [parScrambleEncryptGroup, hcfg, henx, ne_eq, not_false_eq_true, if_true]
  rfl

/-- For a symmetric algorithm the device keeps the configuration of `generate_scrambler_metadata`
and the packets of every wave. -/
theorem parScrambleEncryptGroup_of_ne_kyber {sizes : KyberSizes} {cipher : WaveCipher}
    {headerLen : Nat} {plainText : List UInt8} {securityLevel : SecurityLevel}
    {msgDrill scrambleDrill : EntropyBank} {enx : EncryptionAlgorithm} {sigAlg : SigAlgorithm}
    {headerSizeBytes : Nat} {targetCid : UInt64} {objectId : UInt32} {groupId : UInt64}
    {headerInscriber : PacketVector → EntropyBank → UInt32 → UInt64 → List UInt8}
    {dev : GroupSenderDevice} (henx : enx ≠ .kyber)
    (h : parScrambleEncryptGroup sizes cipher headerLen plainText securityLevel msgDrill
      scrambleDrill enx sigAlg headerSizeBytes targetCid objectId groupId headerInscriber = .ok dev) :
    generateScramblerMetadata sizes msgDrill plainText headerSizeBytes securityLevel groupId enx
        sigAlg = .ok dev.receiverConfig ∧
      dev.packetsInRam = FiniteMap.collect (scrambleEncryptWaves cipher plainText dev.receiverConfig
        scrambleDrill targetCid objectId headerInscriber) := by
  unfold parScrambleEncryptGroup at h
  cases hcfg : generateScramblerMetadata sizes msgDrill plainText headerSizeBytes securityLevel
      groupId enx sigAlg with
  | error err => simp [hcfg] at h; cases h
  | ok cfg =>
      simp only [hcfg, henx, ne_eq, not_false_eq_true, if_true] at h
      cases h
      exact ⟨rfl, rfl⟩

/-! ## Distinct true sequences

The packets of wave `i` take the true sequences from `i * max_packets_per_wave` on, so the
packets of all waves have distinct true sequences as long as no wave is cut into more than
`max_packets_per_wave` packets. A wave holds that many packets' worth of bytes less
`max_payload_size - 480`, which is the room left for what encryption adds to it. The symmetric
ciphers add their 16-byte tag and fill the room exactly. Kyber's framing adds the signature, the
encrypted scramble dictionary, less than a block of padding and 103 bytes more, against a room
of `signature_bytes() + ct_len(40) - 448` bytes.
-/

/-- A drill of one port pair: a wave is a single packet. -/
def onePortDrill : EntropyBank := ⟨0, 0, [(0, 0)], by simp⟩

section Sequences

variable {sizes : KyberSizes} {cipher : WaveCipher} {headerLen : Nat} {plainText : List UInt8}
  {securityLevel : SecurityLevel} {msgDrill scrambleDrill : EntropyBank} {enx : EncryptionAlgorithm}
  {sigAlg : SigAlgorithm} {headerSizeBytes : Nat} {targetCid : UInt64} {objectId : UInt32}
  {groupId : UInt64} {headerInscriber : PacketVector → EntropyBank → UInt32 → UInt64 → List UInt8}
  {cfg : GroupReceiverConfig} {dev : GroupSenderDevice}

end Sequences

/-! ## Wave tail acknowledgements

The sender frees a wave's packets when the receiver acknowledges the wave's tail, and counts
them as received. It takes the wave's packets to lie from `max_packets_per_wave * wave_id` on,
and their number from `get_packets_in_wave`, which reads the configuration. The group is
complete when the count reaches `packets_needed`. -/

namespace GroupSenderDevice

/-- `get_packets_in_wave`, without its `debug_assert!`, as in a release build. -/
def getPacketsInWave (dev : GroupSenderDevice) (waveId : UInt32) : Nat :=
  if waveId = UInt32.ofNat dev.receiverConfig.waveCount - 1 then
    dev.receiverConfig.packetsInLastWave
  else dev.receiverConfig.maxPacketsPerWave

/-- `on_wave_tail_ack_received`: the packets from `offset` to `end` leave memory and count as
received; `true` once all the group's packets have. -/
def onWaveTailAckReceived (dev : GroupSenderDevice) (waveId : UInt32) :
    Bool × GroupSenderDevice :=
  let offset := dev.receiverConfig.maxPacketsPerWave * waveId.toNat
  let packetsInThisWave := dev.getPacketsInWave waveId
  let packetsInRam := (List.range' offset packetsInThisWave).foldl (fun map idx => map.erase idx)
    dev.packetsInRam
  let packetsReceived := dev.packetsReceived + packetsInThisWave
  (packetsReceived == dev.receiverConfig.packetsNeeded,
    { dev with packetsInRam := packetsInRam, packetsReceived := packetsReceived })

/-- Wave tail acknowledgements in turn: what each call returns, and the device after them. -/
def onWaveTailAcksReceived : GroupSenderDevice → List UInt32 → List Bool × GroupSenderDevice
  | dev, [] => ([], dev)
  | dev, waveId :: rest =>
      let first := dev.onWaveTailAckReceived waveId
      let after := first.2.onWaveTailAcksReceived rest
      (first.1 :: after.1, after.2)

section Acks

variable (dev : GroupSenderDevice) (waveId : UInt32)

@[simp] theorem receiverConfig_onWaveTailAckReceived :
    (dev.onWaveTailAckReceived waveId).2.receiverConfig = dev.receiverConfig := rfl

@[simp] theorem getPacketsInWave_onWaveTailAckReceived :
    (dev.onWaveTailAckReceived waveId).2.getPacketsInWave = dev.getPacketsInWave := rfl

@[simp] theorem packetsReceived_onWaveTailAckReceived :
    (dev.onWaveTailAckReceived waveId).2.packetsReceived =
      dev.packetsReceived + dev.getPacketsInWave waveId := rfl

theorem fst_onWaveTailAckReceived :
    (dev.onWaveTailAckReceived waveId).1 =
      (dev.packetsReceived + dev.getPacketsInWave waveId == dev.receiverConfig.packetsNeeded) :=
  rfl

/-- An acknowledgement frees exactly the indices of its wave's range. -/
theorem mem_packetsInRam_onWaveTailAckReceived {idx : Nat} :
    idx ∈ (dev.onWaveTailAckReceived waveId).2.packetsInRam ↔ idx ∈ dev.packetsInRam ∧
      ¬ (dev.receiverConfig.maxPacketsPerWave * waveId.toNat ≤ idx ∧
        idx < dev.receiverConfig.maxPacketsPerWave * waveId.toNat +
          dev.getPacketsInWave waveId) := by
  simp only [onWaveTailAckReceived, FiniteMap.mem_foldl_erase, List.mem_range'_1]

@[simp] theorem receiverConfig_onWaveTailAcksReceived (waveIds : List UInt32) :
    (dev.onWaveTailAcksReceived waveIds).2.receiverConfig = dev.receiverConfig := by
  induction waveIds generalizing dev with
  | nil => rfl
  | cons waveId rest ih => simp [onWaveTailAcksReceived, ih]

/-- Run lemma: the acknowledgements count the packets of their waves as received. -/
theorem packetsReceived_onWaveTailAcksReceived (waveIds : List UInt32) :
    (dev.onWaveTailAcksReceived waveIds).2.packetsReceived =
      dev.packetsReceived + (waveIds.map dev.getPacketsInWave).sum := by
  induction waveIds generalizing dev with
  | nil => simp [onWaveTailAcksReceived]
  | cons waveId rest ih =>
      simp only [onWaveTailAcksReceived, ih, packetsReceived_onWaveTailAckReceived,
        getPacketsInWave_onWaveTailAckReceived, List.map_cons, List.sum_cons]
      omega

/-- Run lemma: while the packets acknowledged stay short of those the group needs, no
acknowledgement reports the group complete. -/
theorem onWaveTailAcksReceived_of_lt (waveIds : List UInt32)
    (hlt : dev.packetsReceived + (waveIds.map dev.getPacketsInWave).sum <
      dev.receiverConfig.packetsNeeded) :
    (dev.onWaveTailAcksReceived waveIds).1 = List.replicate waveIds.length false := by
  induction waveIds generalizing dev with
  | nil => rfl
  | cons waveId rest ih =>
      simp only [List.map_cons, List.sum_cons] at hlt
      have hfirst : (dev.onWaveTailAckReceived waveId).1 = false := by
        rw [fst_onWaveTailAckReceived, beq_eq_false_iff_ne]
        omega
      have hrest := ih (dev.onWaveTailAckReceived waveId).2 (by simp; omega)
      simp [onWaveTailAcksReceived, hfirst, hrest, List.replicate_succ]

/-- Run lemma: an index stays in memory unless an acknowledged wave's range holds it. -/
theorem mem_packetsInRam_onWaveTailAcksReceived (waveIds : List UInt32) {idx : Nat} :
    idx ∈ (dev.onWaveTailAcksReceived waveIds).2.packetsInRam ↔ idx ∈ dev.packetsInRam ∧
      ∀ waveId ∈ waveIds, ¬ (dev.receiverConfig.maxPacketsPerWave * waveId.toNat ≤ idx ∧
        idx < dev.receiverConfig.maxPacketsPerWave * waveId.toNat +
          dev.getPacketsInWave waveId) := by
  induction waveIds generalizing dev with
  | nil => simp [onWaveTailAcksReceived]
  | cons waveId rest ih =>
      simp only [onWaveTailAcksReceived, ih, mem_packetsInRam_onWaveTailAckReceived,
        receiverConfig_onWaveTailAckReceived, getPacketsInWave_onWaveTailAckReceived,
        List.forall_mem_cons]
      tauto

/-- Of the group's wave ids, all but the last count a full wave, as long as the ids are
distinct as `u32` values. -/
theorem getPacketsInWave_ofNat (hcount : dev.receiverConfig.waveCount ≤ 2 ^ 32) {i : Nat}
    (hi : i < dev.receiverConfig.waveCount) :
    dev.getPacketsInWave (UInt32.ofNat i) =
      if i = dev.receiverConfig.waveCount - 1 then dev.receiverConfig.packetsInLastWave
      else dev.receiverConfig.maxPacketsPerWave := by
  have hlast : UInt32.ofNat dev.receiverConfig.waveCount - 1 =
      UInt32.ofNat (dev.receiverConfig.waveCount - 1) := by
    have hsucc : dev.receiverConfig.waveCount = (dev.receiverConfig.waveCount - 1) + 1 := by omega
    rw [hsucc, UInt32.ofNat_add]
    simp
  unfold getPacketsInWave
  rw [hlast]
  by_cases heq : i = dev.receiverConfig.waveCount - 1
  · simp [heq]
  · rw [if_neg (MachineInt.ofNat32_ne_ofNat32 (by omega) (by omega) heq), if_neg heq]

/-- Acknowledging each wave of the group once, in any order, counts every wave but the last as
full, and the last as `packets_in_last_wave`. -/
theorem sum_getPacketsInWave_of_perm (hcount : dev.receiverConfig.waveCount ≤ 2 ^ 32)
    (hpos : 0 < dev.receiverConfig.waveCount) {waveIds : List UInt32}
    (hperm : waveIds.Perm ((List.range dev.receiverConfig.waveCount).map UInt32.ofNat)) :
    (waveIds.map dev.getPacketsInWave).sum =
      (dev.receiverConfig.waveCount - 1) * dev.receiverConfig.maxPacketsPerWave +
        dev.receiverConfig.packetsInLastWave := by
  rw [(hperm.map _).sum_eq, List.map_map]
  have hsplit : List.range dev.receiverConfig.waveCount =
      List.range (dev.receiverConfig.waveCount - 1) ++ [dev.receiverConfig.waveCount - 1] := by
    rw [← List.range_succ]
    congr 1
    omega
  -- the waves before the last are full
  have hfull : ∀ i ∈ List.range (dev.receiverConfig.waveCount - 1),
      (dev.getPacketsInWave ∘ UInt32.ofNat) i = dev.receiverConfig.maxPacketsPerWave := by
    intro i hi
    rw [List.mem_range] at hi
    have hne : i ≠ dev.receiverConfig.waveCount - 1 := by omega
    rw [Function.comp_apply, getPacketsInWave_ofNat dev hcount (by omega), if_neg hne]
  rw [hsplit, List.map_append, List.sum_append, List.map_congr_left hfull]
  simp [getPacketsInWave_ofNat dev hcount (by omega : dev.receiverConfig.waveCount - 1 < _)]

end Acks

end GroupSenderDevice

/-- A group of whole waves under a symmetric algorithm is never reported complete: acknowledging
each of its waves once, in any order, returns `false` every time, and the first packet of the
last wave stays in memory. Its configuration announces no packet in the last wave, so the count
ends one full wave short of `packets_needed`. -/
theorem whole_wave_group_never_acked_complete {sizes : KyberSizes} {cipher : WaveCipher}
    {headerLen : Nat} {plainText : List UInt8} {securityLevel : SecurityLevel}
    {msgDrill scrambleDrill : EntropyBank} {enx : EncryptionAlgorithm} {sigAlg : SigAlgorithm}
    {headerSizeBytes : Nat} {targetCid : UInt64} {objectId : UInt32} {groupId : UInt64}
    {headerInscriber : PacketVector → EntropyBank → UInt32 → UInt64 → List UInt8}
    {dev : GroupSenderDevice} (henx : enx.IsSymmetric)
    (hcipher : ∀ nonce bytes, (cipher.encrypt nonce bytes).length = bytes.length + 16)
    (hdev : parScrambleEncryptGroup sizes cipher headerLen plainText securityLevel msgDrill
      scrambleDrill enx sigAlg headerSizeBytes targetCid objectId groupId headerInscriber = .ok dev)
    (hfull : plainText.length % dev.receiverConfig.maxPlaintextWaveLength = 0)
    (hcount : dev.receiverConfig.waveCount ≤ 2 ^ 32) {waveIds : List UInt32}
    (hperm : waveIds.Perm ((List.range dev.receiverConfig.waveCount).map UInt32.ofNat)) :
    (dev.onWaveTailAcksReceived waveIds).1 = List.replicate dev.receiverConfig.waveCount false ∧
      (dev.receiverConfig.waveCount - 1) * dev.receiverConfig.maxPacketsPerWave ∈
        (dev.onWaveTailAcksReceived waveIds).2.packetsInRam := by
  have hne : enx ≠ .kyber := by
    rintro rfl
    exact henx
  obtain ⟨hcfg, hram⟩ := parScrambleEncryptGroup_of_ne_kyber hne hdev
  have hreceived : dev.packetsReceived = 0 := by
    have hnew := (parScrambleEncryptGroup_eq_of_ne_kyber hne hcfg).symm.trans hdev
    rw [← Except.ok.inj hnew]
    rfl
  obtain ⟨hlast, hpos, hneeded⟩ := generateScramblerMetadata_of_full_waves hcfg hfull
  obtain ⟨hpayload, hwidth, hwaves⟩ := generateScramblerMetadata_spec hcfg
  have hwidthPos : 0 < dev.receiverConfig.maxPacketsPerWave := hwidth ▸ msgDrill.getMultiportWidth_pos
  -- the acknowledgements count every wave but the last, which counts for nothing
  have hsum := dev.sum_getPacketsInWave_of_perm hcount hpos hperm
  rw [hlast, Nat.add_zero] at hsum
  have hshort : (dev.receiverConfig.waveCount - 1) * dev.receiverConfig.maxPacketsPerWave <
      dev.receiverConfig.waveCount * dev.receiverConfig.maxPacketsPerWave :=
    Nat.mul_lt_mul_of_pos_right (by omega) hwidthPos
  have hlength : waveIds.length = dev.receiverConfig.waveCount := by simpa using hperm.length_eq
  refine ⟨?_, ?_⟩
  · rw [← hlength]
    apply GroupSenderDevice.onWaveTailAcksReceived_of_lt
    rw [hreceived, hsum, hneeded]
    omega
  · rw [GroupSenderDevice.mem_packetsInRam_onWaveTailAcksReceived]
    refine ⟨?_, ?_⟩
    · -- the last wave's ciphertext is not empty, so its first packet was collected
      have hwave : dev.receiverConfig.waveCount - 1 <
          (chunks dev.receiverConfig.maxPlaintextWaveLength plainText).length := by
        rw [length_chunks, ← hwaves]
        omega
      have hfirst : 0 < (scrambleEncryptWave cipher (dev.receiverConfig.waveCount - 1)
          (chunks dev.receiverConfig.maxPlaintextWaveLength plainText)[dev.receiverConfig.waveCount - 1]
          dev.receiverConfig scrambleDrill targetCid objectId headerInscriber).length := by
        rw [length_scrambleEncryptWave, length_chunks, hcipher]
        exact divCeil_pos (hpayload ▸ getMaxPacketSize_pos sizes enx sigAlg securityLevel)
          (by omega)
      rw [hram, FiniteMap.mem_collect]
      exact mem_keys_scrambleEncryptWaves hwave hfirst
    · -- no acknowledged wave's range reaches the last wave's first index
      intro waveId hmem
      obtain ⟨i, hi, rfl⟩ : ∃ i, i < dev.receiverConfig.waveCount ∧ UInt32.ofNat i = waveId := by
        simpa using hperm.mem_iff.mp hmem
      have htoNat : (UInt32.ofNat i).toNat = i := by
        simp only [UInt32.toNat_ofNat']
        exact Nat.mod_eq_of_lt (by omega)
      rw [GroupSenderDevice.getPacketsInWave_ofNat dev hcount hi, htoNat]
      split_ifs with hlastWave
      · rw [hlast]
        omega
      · have hbefore : dev.receiverConfig.maxPacketsPerWave * i +
            dev.receiverConfig.maxPacketsPerWave ≤
            (dev.receiverConfig.waveCount - 1) * dev.receiverConfig.maxPacketsPerWave := by
          rw [← Nat.mul_succ, Nat.mul_comm]
          exact Nat.mul_le_mul_right _ (by omega)
        omega

/-- 480 bytes under AES-GCM-SIV with one port pair are one whole wave of one packet; the
acknowledgement of wave 0 returns `false` and leaves packet 0 in memory. -/
theorem whole_wave_group_never_acked_complete_of_one_port :
    ∃ dev, parScrambleEncryptGroup ⟨0, fun _ => 0⟩
        ⟨fun _ bytes => bytes ++ List.replicate 16 0, fun _ bytes => some bytes⟩ 0
        (List.replicate 480 0) .standard onePortDrill onePortDrill .aesGcm256Siv .none 0 0 0 0
        (fun _ _ _ _ => []) = .ok dev ∧
      (dev.onWaveTailAcksReceived [0]).1 = List.replicate dev.receiverConfig.waveCount false ∧
      (dev.receiverConfig.waveCount - 1) * dev.receiverConfig.maxPacketsPerWave ∈
        (dev.onWaveTailAcksReceived [0]).2.packetsInRam := by
  have hsymmetric : EncryptionAlgorithm.aesGcm256Siv.IsSymmetric := trivial
  have hlen : (List.replicate 480 (0 : UInt8)).length = 480 := List.length_replicate
  have hcfg : generateScramblerMetadata ⟨0, fun _ => 0⟩ onePortDrill (List.replicate 480 0) 0
      .standard 0 .aesGcm256Siv .none = .ok
      { packetsNeeded := 1, maxPacketsPerWave := 1, plaintextLength := 480, maxPayloadSize := 496
        lastPayloadSize := 496, numberOfFullWaves := 1, numberOfPartialWaves := 0, waveCount := 1
        maxPlaintextWaveLength := 480, lastPlaintextWaveLength := 480, packetsInLastWave := 0
        headerSizeBytes := 0, groupId := 0 } := by
    generalize hplain : List.replicate 480 (0 : UInt8) = plainText at hlen
    have hempty : plainText.isEmpty = false := by
      rw [← hplain]
      rfl
    have hsplit : waveSplit plainText.length 480 = (1, 0, 480) := by
      rw [hlen]
      rfl
    simp only [generateScramblerMetadata, hempty, Bool.false_eq_true, if_false]
    rw [getMaxPacketSize_of_isSymmetric hsymmetric,
      show maxPlaintextBytesPerWave 496 onePortDrill.getMultiportWidth = 480 from rfl, hsplit]
    have hwidth : onePortDrill.getMultiportWidth = 1 := rfl
    simp [GroupReceiverConfig.newRefresh, hlen, divCeil, hwidth]
  have hdev : parScrambleEncryptGroup ⟨0, fun _ => 0⟩
      ⟨fun _ bytes => bytes ++ List.replicate 16 0, fun _ bytes => some bytes⟩ 0
      (List.replicate 480 0) .standard onePortDrill onePortDrill .aesGcm256Siv .none 0 0 0 0
      (fun _ _ _ _ => []) = .ok _ :=
    parScrambleEncryptGroup_eq_of_ne_kyber (by decide) hcfg
  exact ⟨_, hdev, whole_wave_group_never_acked_complete hsymmetric (fun _ bytes => by simp) hdev
    (by rw [hlen]; rfl) (by decide) (by decide)⟩

end CitadelProtocol.Crypt
