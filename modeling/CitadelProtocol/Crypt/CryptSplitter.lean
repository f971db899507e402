import CitadelProtocol.Lib.Bytes
import CitadelProtocol.Crypt.PacketVector

/-! # Group metadata of the scrambler

`generate_scrambler_metadata` cuts a plaintext into waves: full waves of
`max_plaintext_bytes_per_wave` bytes and at most one partial wave. Each wave is
encrypted once, and its ciphertext is cut into packets of `max_payload_size`
bytes. `GroupReceiverConfig::new_refresh` records the packet counts that the
receiver then allocates buffers for.

When the plaintext length is a multiple of the wave size the code takes the
"no partial wave" branch and passes a last-wave ciphertext length of 0, so the
configuration announces no packet at all in the last wave, though that wave is
a full one.
-/

namespace CitadelProtocol.Crypt

open Bytes

/-- `MAX_BYTES_PER_GROUP`. -/
def maxBytesPerGroup : Nat := 1024 * 1024 * 10

/-- `MAX_WAVEFORM_PACKET_SIZE`. -/
def maxWaveformPacketSize : Nat := 480

/-- `AES_GCM_GHASH_OVERHEAD`. -/
def aesGcmGhashOverhead : Nat := 16

/-- `EncryptionAlgorithm`. -/
inductive EncryptionAlgorithm
  | aesGcm256Siv
  | xchacha20Poly1305
  | kyber
  deriving DecidableEq, Repr

/-- `SigAlgorithm`. -/
inductive SigAlgorithm
  | none
  | falcon1024
  deriving DecidableEq, Repr

/-- The two sizes `max_ciphertext_len` takes from outside crates for Kyber: the length of a
signature, and `kyber_pke::ct_len`. -/
structure KyberSizes where
  signatureBytes : Nat
  ctLen : Nat → Nat

/-- `EncryptionAlgorithm::max_ciphertext_len`. -/
def EncryptionAlgorithm.maxCiphertextLen (sizes : KyberSizes) :
    EncryptionAlgorithm → Nat → SigAlgorithm → Nat
  | .aesGcm256Siv, plaintextLength, _ => plaintextLength + 16
  | .xchacha20Poly1305, plaintextLength, _ => plaintextLength + 16
  | .kyber, _, _ =>
      let lengthField := 8
      let aesInputLen := sizes.signatureBytes + lengthField
      let aesOutputLen := aesInputLen + 16
      let kyberInputLen := 32 + lengthField
      let kyberOutputLen := sizes.ctLen kyberInputLen
      aesOutputLen + kyberOutputLen + lengthField

/-- The symmetric algorithms, whose ciphertext is the plaintext and a 16-byte tag. -/
def EncryptionAlgorithm.IsSymmetric : EncryptionAlgorithm → Prop
  | .aesGcm256Siv => True
  | .xchacha20Poly1305 => True
  | .kyber => False

/-- `SecurityLevel`. -/
inductive SecurityLevel
  | standard
  | reinforced
  | high
  | ultra
  | extreme
  | custom (value : UInt8)
  deriving DecidableEq, Repr

/-- `SecurityLevel::value`. -/
def SecurityLevel.value : SecurityLevel → UInt8
  | .standard => 0
  | .reinforced => 1
  | .high => 2
  | .ultra => 3
  | .extreme => 4
  | .custom value => value

/-- `impl From<u8> for SecurityLevel`. -/
def SecurityLevel.«from» (val : UInt8) : SecurityLevel :=
  match val with
  | 0 => .standard
  | 1 => .reinforced
  | 2 => .high
  | 3 => .ultra
  | 4 => .extreme
  | n => .custom n

/-- A level read back from its byte has that byte as its value. -/
@[simp] theorem SecurityLevel.value_from (val : UInt8) :
    (SecurityLevel.«from» val).value = val := by
  unfold SecurityLevel.«from»
  split <;> rfl

/-- `get_max_packet_size`: the ciphertext size of a full waveform packet, with the security
exponent capped at that of `Standard`. -/
def getMaxPacketSize (sizes : KyberSizes) (enx : EncryptionAlgorithm) (sigAlg : SigAlgorithm)
    (securityLevel : SecurityLevel) : Nat :=
  let base := 2
  let securityExponent := (min securityLevel.value SecurityLevel.standard.value).toNat
  let startingMaxPacketSize := enx.maxCiphertextLen sizes maxWaveformPacketSize sigAlg
  max (startingMaxPacketSize / base ^ securityExponent) aesGcmGhashOverhead

/-- The security exponent is capped at that of `Standard`, which is 0: a full packet of a
symmetric algorithm is a waveform packet and its 16-byte tag, at every security level. -/
theorem getMaxPacketSize_of_isSymmetric {enx : EncryptionAlgorithm} (henx : enx.IsSymmetric)
    (sizes : KyberSizes) (sigAlg : SigAlgorithm) (securityLevel : SecurityLevel) :
    getMaxPacketSize sizes enx sigAlg securityLevel = 496 := by
  have hmin : min securityLevel.value SecurityLevel.standard.value = 0 := by
    simp [min, SecurityLevel.value]
  simp only [getMaxPacketSize, hmin]
  cases enx with
  | aesGcm256Siv =>
      simp [EncryptionAlgorithm.maxCiphertextLen, maxWaveformPacketSize, aesGcmGhashOverhead]
  | xchacha20Poly1305 =>
      simp [EncryptionAlgorithm.maxCiphertextLen, maxWaveformPacketSize, aesGcmGhashOverhead]
  | kyber => exact henx.elim

/-- `calculate_nonce_version`: Szudzik's pairing of the wave id and the group id. -/
def calculateNonceVersion (a : Nat) (b : UInt64) : Nat :=
  let b := b.toNat
  if a < b then a + b * b else a * a + a + b

/-- What the scrambler uses of a message drill and its post-quantum container: the encryption
of one wave under a nonce version, and its decryption, which may fail. -/
structure WaveCipher where
  encrypt : Nat → List UInt8 → List UInt8
  decrypt : Nat → List UInt8 → Option (List UInt8)

/-- `GroupReceiverConfig`. -/
structure GroupReceiverConfig where
  packetsNeeded : Nat
  maxPacketsPerWave : Nat
  plaintextLength : Nat
  maxPayloadSize : Nat
  lastPayloadSize : Nat
  numberOfFullWaves : Nat
  numberOfPartialWaves : Nat
  waveCount : Nat
  maxPlaintextWaveLength : Nat
  lastPlaintextWaveLength : Nat
  packetsInLastWave : Nat
  headerSizeBytes : Nat
  groupId : Nat
  deriving DecidableEq, Repr

namespace GroupReceiverConfig

/-- `GroupReceiverConfig::new_refresh`. -/
def newRefresh (groupId : UInt64) (headerSizeBytes : Nat) (plainText : List UInt8)
    (maxPacketPayloadSize numberOfFullWaves numberOfPartialWaves maxPlaintextBytesPerWave
      bytesInLastWave maxPacketsPerWave ciphertextLenLastWave : Nat) : GroupReceiverConfig :=
  let numberOfWaves := numberOfFullWaves + numberOfPartialWaves
  let packetsInLastWave := divCeil ciphertextLenLastWave maxPacketPayloadSize
  -- a remainder of zero means the last payload is a whole one
  let debugLastPayloadSize :=
    if ciphertextLenLastWave % maxPacketPayloadSize = 0 then maxPacketPayloadSize
    else ciphertextLenLastWave % maxPacketPayloadSize
  let packetsNeeded := numberOfFullWaves * maxPacketsPerWave + packetsInLastWave
  { groupId := groupId.toNat
    packetsNeeded := packetsNeeded
    headerSizeBytes := headerSizeBytes
    plaintextLength := plainText.length
    maxPayloadSize := maxPacketPayloadSize
    lastPayloadSize := debugLastPayloadSize
    numberOfFullWaves := numberOfFullWaves
    numberOfPartialWaves := numberOfPartialWaves
    waveCount := numberOfWaves
    maxPlaintextWaveLength := maxPlaintextBytesPerWave
    lastPlaintextWaveLength := bytesInLastWave
    maxPacketsPerWave := maxPacketsPerWave
    packetsInLastWave := packetsInLastWave }

/-- `get_packet_count_in_wave`. -/
def getPacketCountInWave (cfg : GroupReceiverConfig) (waveId : Nat) : Nat :=
  if waveId = cfg.waveCount - 1 then cfg.packetsInLastWave else cfg.maxPacketsPerWave

end GroupReceiverConfig

/-- `CryptError`, as the splitter raises it. -/
inductive SplitterError
  | encrypt (message : String)
  deriving DecidableEq, Repr

/-- The cut of `generate_scrambler_metadata` into full waves, partial waves and the bytes in
the last wave. -/
def waveSplit (length maxPlaintextBytesPerWave : Nat) : Nat × Nat × Nat :=
  if length < maxPlaintextBytesPerWave then
    (0, 1, length % maxPlaintextBytesPerWave)
  else if length % maxPlaintextBytesPerWave = 0 then
    -- n full waves and no partial wave: the last wave holds a full wave's bytes
    (length / maxPlaintextBytesPerWave, 0, maxPlaintextBytesPerWave)
  else
    (length / maxPlaintextBytesPerWave, 1, length % maxPlaintextBytesPerWave)

/-- The plaintext bytes of a full wave: one encryption per wave stretches them by the
overhead of a packet. -/
def maxPlaintextBytesPerWave (maxPacketPayloadSize maxPacketsPerWave : Nat) : Nat :=
  let overhead := maxPacketPayloadSize - maxWaveformPacketSize
  maxPacketPayloadSize * maxPacketsPerWave - overhead

/-- `generate_scrambler_metadata`: the waves of the plaintext and the ciphertext length of the
last one, passed to `new_refresh`. -/
def generateScramblerMetadata (sizes : KyberSizes) (msgDrill : EntropyBank)
    (plainText : List UInt8) (headerSizeBytes : Nat) (securityLevel : SecurityLevel)
    (groupId : UInt64) (enx : EncryptionAlgorithm) (sigAlg : SigAlgorithm) :
    Except SplitterError GroupReceiverConfig :=
  if plainText.isEmpty then
    .error (.encrypt "Empty input")
  else
    let maxPacketPayloadSize := getMaxPacketSize sizes enx sigAlg securityLevel
    let maxPacketsPerWave := msgDrill.getMultiportWidth
    let wave := maxPlaintextBytesPerWave maxPacketPayloadSize maxPacketsPerWave
    let (numberOfFullWaves, numberOfPartialWaves, bytesInLastWave) :=
      waveSplit plainText.length wave
    -- with no partial wave the last wave's ciphertext length is passed as 0
    let ciphertextLenLastWave :=
      if numberOfPartialWaves ≠ 0 then enx.maxCiphertextLen sizes bytesInLastWave sigAlg else 0
    .ok (GroupReceiverConfig.newRefresh groupId headerSizeBytes plainText maxPacketPayloadSize
      numberOfFullWaves numberOfPartialWaves wave bytesInLastWave maxPacketsPerWave
      ciphertextLenLastWave)

/-- A packet is never smaller than the 16 bytes of an AES-GCM tag. -/
theorem getMaxPacketSize_pos (sizes : KyberSizes) (enx : EncryptionAlgorithm)
    (sigAlg : SigAlgorithm) (securityLevel : SecurityLevel) :
    0 < getMaxPacketSize sizes enx sigAlg securityLevel := by
  have hoverhead : 0 < aesGcmGhashOverhead := by simp [aesGcmGhashOverhead]
  simp only [getMaxPacketSize]
  exact lt_max_of_lt_right hoverhead

/-- The cut counts one wave for each piece of a non-empty plaintext. -/
theorem waveCount_waveSplit {length wave : Nat} (hpos : 0 < length) :
    (waveSplit length wave).1 + (waveSplit length wave).2.1 = divCeil length wave := by
  unfold waveSplit
  by_cases hlt : length < wave
  · -- one partial wave
    have hmod : length % wave ≠ 0 := by rw [Nat.mod_eq_of_lt hlt]; omega
    simp [hlt, divCeil, Nat.div_eq_of_lt hlt, hmod]
  · by_cases hmod : length % wave = 0
    · simp [hlt, hmod, divCeil]
    · simp [hlt, hmod, divCeil]

/-- Spec of `generate_scrambler_metadata`: the packet size and the wave width are those it
computes, and there is one wave for each piece of the plaintext. -/
theorem generateScramblerMetadata_spec {sizes : KyberSizes} {msgDrill : EntropyBank}
    {plainText : List UInt8} {headerSizeBytes : Nat} {securityLevel : SecurityLevel}
    {groupId : UInt64} {enx : EncryptionAlgorithm} {sigAlg : SigAlgorithm}
    {cfg : GroupReceiverConfig}
    (hcfg : generateScramblerMetadata sizes msgDrill plainText headerSizeBytes securityLevel
      groupId enx sigAlg = .ok cfg) :
    cfg.maxPayloadSize = getMaxPacketSize sizes enx sigAlg securityLevel ∧
      cfg.maxPacketsPerWave = msgDrill.getMultiportWidth ∧
      cfg.waveCount = divCeil plainText.length cfg.maxPlaintextWaveLength := by
  unfold generateScramblerMetadata at hcfg
  by_cases hempty : plainText.isEmpty
  · simp [hempty] at hcfg
  have hpos : 0 < plainText.length := by
    cases plainText with
    | nil => simp at hempty
    | cons b rest => simp
  simp only [hempty, Bool.false_eq_true, if_false, Except.ok.injEq] at hcfg
  subst hcfg
  refine ⟨rfl, rfl, ?_⟩
  simp only [GroupReceiverConfig.newRefresh]
  generalize maxPlaintextBytesPerWave _ _ = wave
  exact waveCount_waveSplit hpos

theorem waveSplit_of_mod_eq_zero {length wave : Nat} (hpos : 0 < length)
    (hmod : length % wave = 0) : waveSplit length wave = (length / wave, 0, wave) := by
  have hle : wave ≤ length := by
    by_contra hlt
    rw [Nat.mod_eq_of_lt (Nat.lt_of_not_le hlt)] at hmod
    omega
  simp [waveSplit, Nat.not_lt.2 hle, hmod]

/-- A plaintext of whole waves takes the branch with no partial wave: the last wave is announced
with no packet. -/
theorem generateScramblerMetadata_of_full_waves {sizes : KyberSizes} {msgDrill : EntropyBank}
    {plainText : List UInt8} {headerSizeBytes : Nat} {securityLevel : SecurityLevel}
    {groupId : UInt64} {enx : EncryptionAlgorithm} {sigAlg : SigAlgorithm}
    {cfg : GroupReceiverConfig}
    (hcfg : generateScramblerMetadata sizes msgDrill plainText headerSizeBytes securityLevel
      groupId enx sigAlg = .ok cfg)
    (hfull : plainText.length % cfg.maxPlaintextWaveLength = 0) :
    cfg.packetsInLastWave = 0 ∧ 0 < cfg.waveCount ∧
      cfg.packetsNeeded = cfg.waveCount * cfg.maxPacketsPerWave := by
  unfold generateScramblerMetadata at hcfg
  by_cases hempty : plainText.isEmpty
  · simp [hempty] at hcfg
  have hpos : 0 < plainText.length := by
    cases plainText with
    | nil => simp at hempty
    | cons b rest => simp
  simp only [hempty, Bool.false_eq_true, if_false, Except.ok.injEq] at hcfg
  subst hcfg
  generalize maxPlaintextBytesPerWave _ _ = wave at hfull ⊢
  simp only [GroupReceiverConfig.newRefresh] at hfull
  rw [waveSplit_of_mod_eq_zero hpos hfull]
  have hwave : 0 < plainText.length / wave := by
    rcases Nat.eq_zero_or_pos wave with h | h
    · rw [h, Nat.mod_zero] at hfull
      omega
    · exact Nat.div_pos (Nat.le_of_dvd hpos (Nat.dvd_of_mod_eq_zero hfull)) h
  simp [GroupReceiverConfig.newRefresh, divCeil, hwave]

end CitadelProtocol.Crypt
