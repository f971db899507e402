import CitadelProtocol.Lib.Bytes
import CitadelProtocol.Lib.Outcome

/-! # The framing of `KyberModule`

`KyberModule::encrypt_in_place` builds its ciphertext in layers, each appended to the buffer:

1. the signature of the associated data and the plaintext, and its length;
2. the AES-GCM-SIV encryption of all that;
3. random padding to whole 32-byte blocks, every block then scrambled by a random
   `ScramCryptDictionary`, and the length before the padding;
4. the dictionary, serialized and encrypted with `kyber_pke` to the peer, and its length;
5. the SHA3-256 of everything before.

`decrypt_in_place` peels the layers from the end, each length being read from the eight bytes
before the layer it measures. The round trip (`decryptInPlace_encryptInPlace`) holds for
every plaintext, every associated data and every draw of the random bytes, given what the
other crates' functions are assumed to do.

Buffers are lists, and a call that appends to a `Vec` cannot fail. Randomness is a tape of
bytes the thread RNG hands out. The functions of other crates are fields of
`KyberPrimitives`, and their contracts are hypotheses of the round trip.
-/

namespace CitadelProtocol.Pqcrypto

open Bytes Outcome

/-- `Error` of the post-quantum crate. A formatted message keeps its fixed text and the numbers
it shows. -/
inductive PqError
  | sharedSecretNotLoaded
  | encryptionFailure
  | decryptionFailure
  | generic (message : String)
  | other (message : String)
  | invalidLength
  deriving DecidableEq, Repr

/-- `AES_GCM_NONCE_LENGTH_BYTES`. -/
def aesGcmNonceLengthBytes : Nat := 12

/-- The bytes the thread RNG hands out, in order. -/
abbrev RandomTape := Nat → UInt8

/-- The `n` bytes of the tape from position `start` on. -/
def RandomTape.take (tape : RandomTape) (start n : Nat) : List UInt8 :=
  List.ofFn fun i : Fin n => tape (start + i)

@[simp] theorem RandomTape.length_take (tape : RandomTape) (start n : Nat) :
    (tape.take start n).length = n := by
  simp [RandomTape.take]

/-- `AeadModule`: encryption and decryption of a buffer in place, under a nonce and associated
data. Encryption may draw from the RNG. -/
structure AeadModule where
  encryptInPlace : RandomTape → List UInt8 → List UInt8 → List UInt8 →
    ExceptT PqError Option (List UInt8)
  decryptInPlace : List UInt8 → List UInt8 → List UInt8 → ExceptT PqError Option (List UInt8)

/-- What the framing assumes of a pair of AEAD keys: `opener` decrypts what `sealer` encrypts,
and sealing appends a 16-byte tag, as AES-GCM-SIV and XChaCha20-Poly1305 do. -/
structure AeadModule.Opens (sealer opener : AeadModule) : Prop where
  decrypt_encrypt : ∀ tape nonce ad plain sealed,
    (sealer.encryptInPlace tape nonce ad plain).run = some (.ok sealed) →
      (opener.decryptInPlace nonce ad sealed).run = some (.ok plain)
  length_encrypt : ∀ tape nonce ad plain sealed,
    (sealer.encryptInPlace tape nonce ad plain).run = some (.ok sealed) →
      sealed.length = plain.length + 16

/-- `&nonce[..len]`, which panics on a shorter nonce. -/
def sliceTo (nonce : List UInt8) (len : Nat) : ExceptT PqError Option (List UInt8) :=
  if len ≤ nonce.length then pure (nonce.take len) else abort

/-! ## Length fields -/

/-- `encode_length_be_bytes`: the length as a big-endian `u64`, appended. -/
def encodeLengthBeBytes (len : Nat) (buf : List UInt8) : List UInt8 :=
  buf ++ toBytesBE 8 len

/-- `decode_length`: the `u64` in the last eight bytes, and the buffer without them. The value
may not exceed the length of the buffer it was read from. -/
def decodeLength (input : List UInt8) : Except PqError (Nat × List UInt8) :=
  let totalLen := input.length
  let startingPos := totalLen - 8
  let lenBeBytes := input.drop startingPos
  if lenBeBytes.length ≠ 8 then .error (.generic "Bad sig_size_bytes length")
  else
    let objectLen := fromBytesBE lenBeBytes
    if objectLen > totalLen then
      .error (.other s!"Decoded length = {objectLen}, yet, input buffer\x27s len is only {totalLen}")
    else .ok (objectLen, input.take startingPos)

@[simp] theorem length_encodeLengthBeBytes (len : Nat) (buf : List UInt8) :
    (encodeLengthBeBytes len buf).length = buf.length + 8 := by
  simp [encodeLengthBeBytes]

/-- A length that fits a `u64` and the buffer reads back, with the buffer before it. -/
theorem decodeLength_encodeLengthBeBytes {len : Nat} {buf : List UInt8} (hlt : len < 2 ^ 64)
    (hle : len ≤ buf.length + 8) :
    decodeLength (encodeLengthBeBytes len buf) = .ok (len, buf) := by
  have hdrop : (encodeLengthBeBytes len buf).drop (buf.length + 8 - 8) = toBytesBE 8 len := by
    simp [encodeLengthBeBytes]
  have hvalue : fromBytesBE (toBytesBE 8 len) = len := by
    rw [fromBytesBE_toBytesBE]
    exact Nat.mod_eq_of_lt (by simpa using hlt)
  simp only [decodeLength, length_encodeLengthBeBytes, hdrop, length_toBytesBE, ne_eq,
    not_true_eq_false, if_false, hvalue, gt_iff_lt, Nat.not_lt.mpr hle]
  simp [encodeLengthBeBytes]

/-! ## The scramble dictionary -/

/-- `ScramCryptDictionary<BLOCK_SIZE>`: a byte added to each position of a block. -/
structure ScramCryptDictionary (blockSize : Nat) where
  mapping : List UInt8
  length_mapping : mapping.length = blockSize

namespace ScramCryptDictionary

variable {blockSize : Nat}

/-- `ScramCryptDictionary::new`, its mapping drawn from the tape. Its assertions on the block
size panic. -/
def new (tape : RandomTape) : Option (ScramCryptDictionary blockSize) :=
  if blockSize ≤ 256 ∧ blockSize % 2 = 0 then some ⟨tape.take 0 blockSize, by simp⟩ else none

/-- A block with the mapping added to it, or subtracted with `reverse`, wrapping. -/
def shiftBlock (dict : ScramCryptDictionary blockSize) (reverse : Bool) (buf : List UInt8) :
    List UInt8 :=
  List.zipWith (fun shift byte => if reverse then byte - shift else byte + shift) dict.mapping buf

/-- `swap_in_place`: shift a block, which must be a whole one. -/
def swapInPlace (dict : ScramCryptDictionary blockSize) (reverse : Bool) (buf : List UInt8) :
    Except PqError (List UInt8) :=
  if buf.length ≠ blockSize then .error (.generic "Bad input buffer length")
  else .ok (dict.shiftBlock reverse buf)

/-- The padding of `scramble_in_place`: random bytes up to whole blocks, and one whole block
of them for an empty buffer. -/
def pad (blockSize : Nat) (fill : Nat → List UInt8) (buf : List UInt8) : List UInt8 :=
  if buf.length % blockSize ≠ 0 ∨ buf.isEmpty then buf ++ fill (blockSize - buf.length % blockSize)
  else buf

/-- `scramble_in_place`: pad, then swap every block. Once padded the buffer is whole blocks,
so its exact chunks are its chunks. -/
def scrambleInPlace (dict : ScramCryptDictionary blockSize) (fill : Nat → List UInt8)
    (buf : List UInt8) : Except PqError (List UInt8) := do
  let blocks ← (chunks blockSize (pad blockSize fill buf)).mapM (dict.swapInPlace false)
  pure blocks.flatten

/-- `descramble_in_place`: swap every block back; a buffer of partial blocks is refused. -/
def descrambleInPlace (dict : ScramCryptDictionary blockSize) (buf : List UInt8) :
    Except PqError (List UInt8) :=
  let len := buf.length
  if len % blockSize ≠ 0 then .error (.other s!"Invalid input len for scrambler: {len}")
  else do
    let blocks ← (chunks blockSize buf).mapM (dict.swapInPlace true)
    pure blocks.flatten

section Lemmas

variable {dict : ScramCryptDictionary blockSize}

theorem length_shiftBlock {reverse : Bool} {buf : List UInt8} (hbuf : buf.length = blockSize) :
    (dict.shiftBlock reverse buf).length = blockSize := by
  simp [shiftBlock, dict.length_mapping, hbuf]

/-- Shifting back undoes a shift: wrapping addition and subtraction cancel. -/
theorem shiftBlock_true_shiftBlock_false {buf : List UInt8} (hbuf : buf.length = blockSize) :
    dict.shiftBlock true (dict.shiftBlock false buf) = buf := by
  apply List.ext_getElem
  · rw [length_shiftBlock (length_shiftBlock hbuf), hbuf]
  · intro i hi _
    simp [shiftBlock]

/-- Every whole block is swapped. -/
theorem mapM_swapInPlace {reverse : Bool} {blocks : List (List UInt8)}
    (hblocks : ∀ block ∈ blocks, block.length = blockSize) :
    blocks.mapM (dict.swapInPlace reverse) = .ok (blocks.map (dict.shiftBlock reverse)) := by
  induction blocks with
  | nil => rfl
  | cons block rest ih =>
      have hblock : block.length = blockSize := hblocks block (List.mem_cons_self ..)
      have hrest := ih fun b hb => hblocks b (List.mem_cons_of_mem _ hb)
      simp [swapInPlace, hblock, hrest]
      rfl

/-- Cutting whole blocks, put end to end, gives the blocks back. -/
theorem chunks_flatten_of_length {blocks : List (List UInt8)} (hsize : 0 < blockSize)
    (hblocks : ∀ block ∈ blocks, block.length = blockSize) :
    chunks blockSize blocks.flatten = blocks := by
  induction blocks with
  | nil => simp [chunks, divCeil]
  | cons block rest ih =>
      have hblock : block.length = blockSize := hblocks block (List.mem_cons_self ..)
      have hne : (block :: rest).flatten ≠ [] := by
        simp only [List.flatten_cons, ne_eq, List.append_eq_nil_iff, not_and]
        intro hnil
        simp [hnil] at hblock
        omega
      rw [chunks_of_ne_nil hsize hne, List.flatten_cons, ← hblock, List.take_left, List.drop_left,
        hblock, ih fun b hb => hblocks b (List.mem_cons_of_mem _ hb)]

variable {fill : Nat → List UInt8}

/-- The padded buffer begins with the buffer. -/
theorem take_pad (buf : List UInt8) : (pad blockSize fill buf).take buf.length = buf := by
  unfold pad
  split <;> simp

/-- Padding leaves whole blocks. -/
theorem length_pad_mod (hsize : 0 < blockSize) (hfill : ∀ n, (fill n).length = n)
    (buf : List UInt8) : (pad blockSize fill buf).length % blockSize = 0 := by
  unfold pad
  split
  · -- the padding completes the last partial block, or adds one to an empty buffer
    have hlt := Nat.mod_lt buf.length hsize
    have hsplit := Nat.div_add_mod buf.length blockSize
    have hwhole : buf.length + (blockSize - buf.length % blockSize) =
        blockSize * (buf.length / blockSize + 1) := by
      rw [Nat.mul_add, Nat.mul_one]
      omega
    rw [List.length_append, hfill, hwhole, Nat.mul_mod_right]
  · next hcond =>
      simp only [not_or, ne_eq, not_not] at hcond
      exact hcond.1

theorem length_le_length_pad (buf : List UInt8) : buf.length ≤ (pad blockSize fill buf).length := by
  unfold pad
  split <;> simp

/-- The blocks of a buffer of whole blocks are whole. -/
theorem length_of_mem_chunks {buf block : List UInt8} (hsize : 0 < blockSize)
    (hwhole : buf.length % blockSize = 0) (hblock : block ∈ chunks blockSize buf) :
    block.length = blockSize := by
  obtain ⟨k, hk, rfl⟩ := List.mem_iff_getElem.mp hblock
  have hlen : buf.length = buf.length / blockSize * blockSize := by
    have := Nat.div_add_mod buf.length blockSize
    rw [hwhole, Nat.add_zero] at this
    rw [Nat.mul_comm, this]
  exact length_getElem_chunks_of_mul hsize hlen hk

/-- Shifting whole blocks keeps the length of their concatenation. -/
theorem length_flatten_map_shiftBlock {reverse : Bool} {blocks : List (List UInt8)}
    (hblocks : ∀ block ∈ blocks, block.length = blockSize) :
    (blocks.map (dict.shiftBlock reverse)).flatten.length = blocks.flatten.length := by
  simp only [List.length_flatten, List.map_map]
  congr 1
  exact List.map_congr_left fun block hblock => by
    simp [length_shiftBlock (hblocks block hblock), hblocks block hblock]

variable (hsize : 0 < blockSize) (hfill : ∀ n, (fill n).length = n)

include hsize hfill in
/-- The blocks of a padded buffer are whole. -/
theorem length_of_mem_chunks_pad {buf block : List UInt8}
    (hblock : block ∈ chunks blockSize (pad blockSize fill buf)) : block.length = blockSize :=
  length_of_mem_chunks hsize (length_pad_mod hsize hfill buf) hblock

include hsize hfill in
/-- Spec of `scramble_in_place`: the blocks of the padded buffer, shifted, end to end. -/
theorem scrambleInPlace_eq (buf : List UInt8) :
    dict.scrambleInPlace fill buf =
      .ok ((chunks blockSize (pad blockSize fill buf)).map (dict.shiftBlock false)).flatten := by
  simp only [scrambleInPlace, mapM_swapInPlace fun _ => length_of_mem_chunks_pad hsize hfill]
  rfl

include hsize hfill in
/-- A scrambled buffer is as long as the padded one. -/
theorem length_of_scrambleInPlace {buf scrambled : List UInt8}
    (hscramble : dict.scrambleInPlace fill buf = .ok scrambled) :
    scrambled.length = (pad blockSize fill buf).length := by
  rw [scrambleInPlace_eq hsize hfill, Except.ok.injEq] at hscramble
  rw [← hscramble, length_flatten_map_shiftBlock fun _ => length_of_mem_chunks_pad hsize hfill,
    flatten_chunks hsize]

include hsize hfill in
/-- Descrambling undoes scrambling and leaves the padded buffer. -/
theorem descrambleInPlace_of_scrambleInPlace {buf scrambled : List UInt8}
    (hscramble : dict.scrambleInPlace fill buf = .ok scrambled) :
    dict.descrambleInPlace scrambled = .ok (pad blockSize fill buf) := by
  set blocks := chunks blockSize (pad blockSize fill buf) with hblocks_def
  have hwhole : ∀ block ∈ blocks, block.length = blockSize :=
    fun _ hblock => length_of_mem_chunks_pad hsize hfill hblock
  have hshifted : ∀ block ∈ blocks.map (dict.shiftBlock false), block.length = blockSize := by
    intro block hblock
    obtain ⟨original, horiginal, rfl⟩ := List.mem_map.mp hblock
    exact length_shiftBlock (hwhole original horiginal)
  have hmod : scrambled.length % blockSize = 0 := by
    rw [length_of_scrambleInPlace hsize hfill hscramble]
    exact length_pad_mod hsize hfill buf
  have hback : (blocks.map (dict.shiftBlock false)).map (dict.shiftBlock true) = blocks := by
    rw [List.map_map]
    conv_rhs => rw [← List.map_id blocks]
    exact List.map_congr_left fun block hblock =>
      shiftBlock_true_shiftBlock_false (hwhole block hblock)
  rw [scrambleInPlace_eq hsize hfill, Except.ok.injEq] at hscramble
  simp only [descrambleInPlace, hmod, ne_eq, not_true_eq_false, if_false]
  -- the shifted blocks are cut back apart and each is shifted back
  rw [← hscramble, chunks_flatten_of_length hsize hshifted, mapM_swapInPlace hshifted, hback]
  exact congrArg Except.ok (flatten_chunks hsize _)

end Lemmas

end ScramCryptDictionary

/-! ## The module -/

/-- The functions of other crates that `KyberModule` calls: SHA3-256, the signature scheme,
`kyber_pke` (whose encryption error is dropped and whose decryption error is shown), and
bincode on a 32-byte scramble dictionary. -/
structure KyberPrimitives where
  sha3256 : List UInt8 → List UInt8
  length_sha3256 : ∀ input, (sha3256 input).length = 32
  signatureSign : List UInt8 → List UInt8 → Except PqError (List UInt8)
  signatureVerify : List UInt8 → List UInt8 → List UInt8 → Except PqError Unit
  pkeEncrypt : List UInt8 → List UInt8 → List UInt8 → Option (List UInt8)
  pkeDecrypt : List UInt8 → List UInt8 → Except String (List UInt8)
  serialize : ScramCryptDictionary 32 → Except String (List UInt8)
  deserialize : List UInt8 → Except String (ScramCryptDictionary 32)

namespace KyberPrimitives

variable (prims : KyberPrimitives)

/-- `sha3_256_with_ad`: the digest updated with the associated data and then the input, which
is the digest of their concatenation. -/
def sha3256WithAd (ad input : List UInt8) : List UInt8 :=
  prims.sha3256 (ad ++ input)

/-- `encrypt_pke`. -/
def encryptPke (localPk plaintext nonce : List UInt8) : Except PqError (List UInt8) :=
  match prims.pkeEncrypt localPk plaintext nonce with
  | some ciphertext => .ok ciphertext
  | none => .error .encryptionFailure

/-- `decrypt_pke`. -/
def decryptPke (localSk ciphertext : List UInt8) : Except PqError (List UInt8) :=
  (prims.pkeDecrypt localSk ciphertext).mapError .other

theorem encryptPke_eq_ok {localPk plaintext nonce ciphertext : List UInt8} :
    prims.encryptPke localPk plaintext nonce = .ok ciphertext ↔
      prims.pkeEncrypt localPk plaintext nonce = some ciphertext := by
  unfold encryptPke
  split <;> simp_all

theorem decryptPke_of_ok {localSk ciphertext plaintext : List UInt8}
    (h : prims.pkeDecrypt localSk ciphertext = .ok plaintext) :
    prims.decryptPke localSk ciphertext = .ok plaintext := by
  simp [decryptPke, h, Except.mapError]

end KyberPrimitives

/-- `PostQuantumMetaKex`, as the module reads it: the peer's public key and the own secret
key. -/
structure PostQuantumMetaKex where
  remotePublicKey : Option (List UInt8)
  secretKey : Option (List UInt8)

/-- `PostQuantumMetaSig`, as the module reads it: the own signing key and the peer's
verification key. -/
structure PostQuantumMetaSig where
  sigPrivateKey : List UInt8
  remoteSigPublicKey : Option (List UInt8)

/-- `KyberModule`, without its algorithm tags, which these calls do not read. -/
structure KyberModule where
  kex : PostQuantumMetaKex
  sig : PostQuantumMetaSig
  symmetricKeyLocal : AeadModule
  symmetricKeyRemote : AeadModule

namespace KyberModule

variable (prims : KyberPrimitives)

/-- `encrypt_in_place`. The dictionary's mapping is the first 32 bytes of the tape and the
padding the bytes after them. -/
def encryptInPlace (m : KyberModule) (tape : RandomTape) (nonce ad input : List UInt8) :
    ExceptT PqError Option (List UInt8) := do
  let aesNonce ← sliceTo nonce aesGcmNonceLengthBytes
  let signature ← ofResult (prims.signatureSign (prims.sha3256WithAd ad input) m.sig.sigPrivateKey)
  let input := encodeLengthBeBytes signature.length (input ++ signature)
  let input ← m.symmetricKeyLocal.encryptInPlace tape aesNonce ad input
  let preScrambleLen := input.length
  let scramCryptDict : ScramCryptDictionary 32 ← unwrap (ScramCryptDictionary.new tape)
  let input ← ofResult (scramCryptDict.scrambleInPlace (tape.take 32) input)
  let input := encodeLengthBeBytes preScrambleLen input
  let remotePublicKey ← unwrap m.kex.remotePublicKey
  let scramCryptSer ← ofResult ((prims.serialize scramCryptDict).mapError .other)
  let encryptedScrambleDict ← ofResult (prims.encryptPke remotePublicKey scramCryptSer nonce)
  let input := encodeLengthBeBytes encryptedScrambleDict.length (input ++ encryptedScrambleDict)
  pure (input ++ prims.sha3256 input)

/-- `decrypt_in_place`. -/
def decryptInPlace (m : KyberModule) (nonce ad input : List UInt8) :
    ExceptT PqError Option (List UInt8) := do
  let localSk ← unwrap m.kex.secretKey
  let sigRemotePk ← unwrap m.sig.remoteSigPublicKey
  let (ciphertext, shaRequired) := input.splitAt (input.length - 32)
  if prims.sha3256 ciphertext ≠ shaRequired then
    throw (.other "Invalid ciphertext checksum")
  let input := input.take (input.length - 32)
  let (encryptedScrambleDictLen, input) ← ofResult (decodeLength input)
  let encryptedScrambleDict := input.drop (input.length - encryptedScrambleDictLen)
  let decryptedScrambleDict ← ofResult (prims.decryptPke localSk encryptedScrambleDict)
  let scramCryptDict ← ofResult ((prims.deserialize decryptedScrambleDict).mapError .other)
  -- the encrypted dictionary leaves the buffer
  let input := input.take (input.length - encryptedScrambleDictLen)
  let (preScrambleLength, input) ← ofResult (decodeLength input)
  let input ← ofResult (scramCryptDict.descrambleInPlace input)
  let input := input.take preScrambleLength
  let aesNonce ← sliceTo nonce aesGcmNonceLengthBytes
  let input ← m.symmetricKeyRemote.decryptInPlace aesNonce ad input
  let (signatureLen, input) ← ofResult (decodeLength input)
  let splitPt := input.length - signatureLen
  let signatureBytes := input.drop splitPt
  ofResult (prims.signatureVerify (prims.sha3256WithAd ad (input.take splitPt)) signatureBytes
    sigRemotePk)
  pure (input.take splitPt)

/-! ## The round trip -/

/-- The dictionary `ScramCryptDictionary::<32>::new` draws from the tape. -/
def tapeDictionary (tape : RandomTape) : ScramCryptDictionary 32 := ⟨tape.take 0 32, by simp⟩

theorem new_eq_tapeDictionary (tape : RandomTape) :
    (ScramCryptDictionary.new tape : Option (ScramCryptDictionary 32)) =
      some (tapeDictionary tape) := by
  simp [ScramCryptDictionary.new, tapeDictionary]

theorem mapError_eq_ok {ε ε' α : Type} {f : ε → ε'} {x : Except ε α} {a : α} :
    x.mapError f = .ok a ↔ x = .ok a := by
  cases x <;> simp [Except.mapError]

theorem run_sliceTo_eq_ok {nonce aesNonce : List UInt8} {len : Nat} :
    (sliceTo nonce len).run = some (.ok aesNonce) ↔ len ≤ nonce.length ∧ aesNonce = nonce.take len := by
  unfold sliceTo
  split <;> simp_all [eq_comm]

/-- Spec of `encrypt_in_place` when it succeeds: each step succeeded, and the output is the
scrambled AES ciphertext, its length, the encrypted dictionary, its length and the digest. -/
theorem encryptInPlace_eq_ok {m : KyberModule} {tape : RandomTape} {nonce ad input out : List UInt8}
    (hencrypt : (m.encryptInPlace prims tape nonce ad input).run = some (.ok out)) :
    ∃ signature sealed scrambled remotePublicKey scramCryptSer encryptedScrambleDict,
      aesGcmNonceLengthBytes ≤ nonce.length ∧
      prims.signatureSign (prims.sha3256WithAd ad input) m.sig.sigPrivateKey = .ok signature ∧
      (m.symmetricKeyLocal.encryptInPlace tape (nonce.take aesGcmNonceLengthBytes) ad
        (encodeLengthBeBytes signature.length (input ++ signature))).run = some (.ok sealed) ∧
      (tapeDictionary tape).scrambleInPlace (tape.take 32) sealed = .ok scrambled ∧
      m.kex.remotePublicKey = some remotePublicKey ∧
      prims.serialize (tapeDictionary tape) = .ok scramCryptSer ∧
      prims.pkeEncrypt remotePublicKey scramCryptSer nonce = some encryptedScrambleDict ∧
      out = encodeLengthBeBytes encryptedScrambleDict.length
          (encodeLengthBeBytes sealed.length scrambled ++ encryptedScrambleDict) ++
        prims.sha3256 (encodeLengthBeBytes encryptedScrambleDict.length
          (encodeLengthBeBytes sealed.length scrambled ++ encryptedScrambleDict)) := by
  simp only [encryptInPlace, Outcome.run_bind_eq_ok, run_sliceTo_eq_ok, Outcome.run_ofResult,
    Outcome.run_unwrap_eq_ok, new_eq_tapeDictionary, Option.some.injEq, Outcome.run_pure,
    mapError_eq_ok, KyberPrimitives.encryptPke_eq_ok, Except.ok.injEq] at hencrypt
  obtain ⟨_, ⟨hnonce, rfl⟩, signature, hsign, sealed, hseal, _, rfl, scrambled, hscramble,
    remotePublicKey, hpk, scramCryptSer, hser, encryptedScrambleDict, hpke, rfl⟩ := hencrypt
  exact ⟨signature, sealed, scrambled, remotePublicKey, scramCryptSer, encryptedScrambleDict,
    hnonce, hsign, hseal, hscramble, hpk, hser, hpke, rfl⟩

/-- Two modules of one key exchange, as the round trip uses them: the receiver's remote AES key
opens what the sender's local one seals, the sender encrypts the dictionary to a public key
whose secret key the receiver holds, and the receiver verifies the sender's signatures. -/
structure Paired (sender receiver : KyberModule) : Prop where
  aead : sender.symmetricKeyLocal.Opens receiver.symmetricKeyRemote
  pke : ∀ remotePublicKey, sender.kex.remotePublicKey = some remotePublicKey →
    ∃ secretKey, receiver.kex.secretKey = some secretKey ∧
      ∀ plaintext nonce ciphertext,
        prims.pkeEncrypt remotePublicKey plaintext nonce = some ciphertext →
          prims.pkeDecrypt secretKey ciphertext = .ok plaintext
  sig : ∃ publicKey, receiver.sig.remoteSigPublicKey = some publicKey ∧
    ∀ message signature, prims.signatureSign message sender.sig.sigPrivateKey = .ok signature →
      prims.signatureVerify message signature publicKey = .ok ()

/-- bincode reads back a dictionary it wrote. -/
def DeserializesSerialized : Prop :=
  ∀ dict bytes, prims.serialize dict = .ok bytes → prims.deserialize bytes = .ok dict

/-- Decryption with the receiver's module returns exactly the plaintext the sender's module
encrypted, for every nonce, associated data and draw of random bytes. -/
theorem decryptInPlace_encryptInPlace {sender receiver : KyberModule}
    (hpaired : Paired prims sender receiver) (hbincode : DeserializesSerialized prims)
    {tape : RandomTape} {nonce ad input out : List UInt8}
    (hencrypt : (sender.encryptInPlace prims tape nonce ad input).run = some (.ok out))
    (hlen : out.length < 2 ^ 64) :
    (receiver.decryptInPlace prims nonce ad out).run = some (.ok input) := by
  obtain ⟨signature, sealed, scrambled, remotePublicKey, scramCryptSer, encryptedScrambleDict,
    hnonce, hsign, hseal, hscramble, hpk, hser, hpke, rfl⟩ := encryptInPlace_eq_ok prims hencrypt
  obtain ⟨secretKey, hsk, hpkeInverse⟩ := hpaired.pke remotePublicKey hpk
  obtain ⟨sigPublicKey, hsigPk, hverify⟩ := hpaired.sig
  set plain := encodeLengthBeBytes signature.length (input ++ signature) with hplain
  set withLength := encodeLengthBeBytes sealed.length scrambled with hwithLength
  set framed := encodeLengthBeBytes encryptedScrambleDict.length (withLength ++ encryptedScrambleDict)
    with hframed
  -- the lengths in the frame are those of its parts, each shorter than the whole
  have hsealed := hpaired.aead.length_encrypt _ _ _ _ _ hseal
  have hscrambledLen := ScramCryptDictionary.length_of_scrambleInPlace (by norm_num)
    (RandomTape.length_take tape 32) hscramble
  have hpadLen : sealed.length ≤ (ScramCryptDictionary.pad 32 (tape.take 32) sealed).length :=
    ScramCryptDictionary.length_le_length_pad sealed
  have hsha := prims.length_sha3256 framed
  have hframedLen : framed.length = withLength.length + encryptedScrambleDict.length + 8 := by
    simp [hframed]
  have hwithLengthLen : withLength.length = scrambled.length + 8 := by simp [hwithLength]
  have hplainLen : plain.length = input.length + signature.length + 8 := by simp [hplain]
  have houtLen : (framed ++ prims.sha3256 framed).length = framed.length + 32 := by simp [hsha]
  -- the digest checks out
  have hsplit : (framed ++ prims.sha3256 framed).splitAt
      ((framed ++ prims.sha3256 framed).length - 32) = (framed, prims.sha3256 framed) := by
    simp [houtLen]
  have htrim : (framed ++ prims.sha3256 framed).take ((framed ++ prims.sha3256 framed).length - 32) =
      framed := by simp [houtLen]
  -- the encrypted dictionary and its length
  have hdict : decodeLength framed = .ok (encryptedScrambleDict.length, withLength ++ encryptedScrambleDict) :=
    decodeLength_encodeLengthBeBytes (by omega) (by simp; omega)
  have hsplitDict : (withLength ++ encryptedScrambleDict).length - encryptedScrambleDict.length =
      withLength.length := by simp
  have hdecryptedDict : prims.decryptPke secretKey encryptedScrambleDict = .ok scramCryptSer :=
    prims.decryptPke_of_ok (hpkeInverse _ _ _ hpke)
  have hdeserialized : (prims.deserialize scramCryptSer).mapError PqError.other =
      .ok (tapeDictionary tape) := mapError_eq_ok.mpr (hbincode _ _ hser)
  -- the scrambled ciphertext and its length
  have hscrambled : decodeLength withLength = .ok (sealed.length, scrambled) :=
    decodeLength_encodeLengthBeBytes (by omega) (by omega)
  have hdescrambled := ScramCryptDictionary.descrambleInPlace_of_scrambleInPlace (by norm_num)
    (RandomTape.length_take tape 32) hscramble
  have hunpadded : (ScramCryptDictionary.pad 32 (tape.take 32) sealed).take sealed.length = sealed :=
    ScramCryptDictionary.take_pad sealed
  have hslice : sliceTo nonce aesGcmNonceLengthBytes = pure (nonce.take aesGcmNonceLengthBytes) := by
    simp [sliceTo, hnonce]
  -- the AES layer opens, and the signature and its length follow the plaintext
  have hopened := Outcome.eq_pure_of_run (hpaired.aead.decrypt_encrypt _ _ _ _ _ hseal)
  have hsigned : decodeLength plain = .ok (signature.length, input ++ signature) :=
    decodeLength_encodeLengthBeBytes (by omega) (by simp only [List.length_append]; omega)
  have hsplitSig : (input ++ signature).length - signature.length = input.length := by simp
  have hverified := hverify _ _ hsign
  simp only [decryptInPlace, hsk, hsigPk, Outcome.unwrap_some, pure_bind, hsplit, htrim, hdict,
    Outcome.ofResult_ok, ne_eq, not_true_eq_false, if_false, hsplitDict, List.drop_left,
    List.take_left, hdecryptedDict, hdeserialized, hscrambled, hdescrambled, hunpadded, hslice,
    hopened, hsigned, hsplitSig, hverified, Outcome.run_pure]

end KyberModule

/-! ## A run of the framing -/

/-- An AEAD that appends a zero tag and strips it again. -/
def zeroTagAead : AeadModule where
  encryptInPlace _ _ _ plain := pure (plain ++ List.replicate 16 0)
  decryptInPlace _ _ sealed := pure (sealed.take (sealed.length - 16))

theorem zeroTagAead_opens : zeroTagAead.Opens zeroTagAead where
  decrypt_encrypt := by
    intro tape nonce ad plain sealed hseal
    simp only [zeroTagAead, Outcome.run_pure, Option.some.injEq, Except.ok.injEq] at hseal
    simp [zeroTagAead, ← hseal]
  length_encrypt := by
    intro tape nonce ad plain sealed hseal
    simp only [zeroTagAead, Outcome.run_pure, Option.some.injEq, Except.ok.injEq] at hseal
    simp [← hseal]

/-- Primitives that pass their inputs through: a zero digest, a one-byte signature that always
verifies, a public-key encryption that is the identity, and bincode writing the mapping. -/
def passThroughPrimitives : KyberPrimitives where
  sha3256 _ := List.replicate 32 0
  length_sha3256 _ := by simp
  signatureSign _ _ := .ok [7]
  signatureVerify _ _ _ := .ok ()
  pkeEncrypt _ plaintext _ := some plaintext
  pkeDecrypt _ ciphertext := .ok ciphertext
  serialize dict := .ok dict.mapping
  deserialize bytes := if h : bytes.length = 32 then .ok ⟨bytes, h⟩ else .error "bad length"

/-- A sender and a receiver that pass their keys through the primitives above. -/
def passThroughSender : KyberModule := ⟨⟨some [1], none⟩, ⟨[2], none⟩, zeroTagAead, zeroTagAead⟩

def passThroughReceiver : KyberModule := ⟨⟨none, some [3]⟩, ⟨[], some [4]⟩, zeroTagAead, zeroTagAead⟩

/-- The one-byte plaintext `[5]`, framed under a 12-byte nonce with no associated data and an
all-zero tape, decrypts back. -/
theorem decryptInPlace_encryptInPlace_of_pass_through :
    KyberModule.Paired passThroughPrimitives passThroughSender passThroughReceiver ∧
      KyberModule.DeserializesSerialized passThroughPrimitives ∧
      ∃ out, (passThroughSender.encryptInPlace passThroughPrimitives (fun _ => 0)
          (List.replicate 12 0) [] [5]).run = some (.ok out) ∧ out.length < 2 ^ 64 ∧
        (passThroughReceiver.decryptInPlace passThroughPrimitives (List.replicate 12 0) [] out).run =
          some (.ok [5]) := by
  have hpaired : KyberModule.Paired passThroughPrimitives passThroughSender passThroughReceiver :=
    { aead := zeroTagAead_opens
      pke := fun remotePublicKey _ => ⟨[3], rfl, fun plaintext _ ciphertext h => by
        simp only [passThroughPrimitives, Option.some.injEq] at h
        simp [passThroughPrimitives, h]⟩
      sig := ⟨[4], rfl, fun _ _ _ => rfl⟩ }
  have hbincode : KyberModule.DeserializesSerialized passThroughPrimitives := by
    intro dict bytes h
    simp only [passThroughPrimitives, Except.ok.injEq] at h
    subst h
    simp [passThroughPrimitives, dict.length_mapping]
  obtain ⟨out, hencrypt, hlen⟩ : ∃ out, (passThroughSender.encryptInPlace passThroughPrimitives
      (fun _ => 0) (List.replicate 12 0) [] [5]).run = some (.ok out) ∧ out.length < 2 ^ 64 :=
    ⟨_, rfl, by decide⟩
  exact ⟨hpaired, hbincode, out, hencrypt, hlen,
    KyberModule.decryptInPlace_encryptInPlace passThroughPrimitives hpaired hbincode hencrypt hlen⟩

end CitadelProtocol.Pqcrypto
