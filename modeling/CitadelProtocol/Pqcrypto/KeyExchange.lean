import CitadelProtocol.Pqcrypto.Container

/-! # The key exchange of a post-quantum container

Alice's container draws a KEM key pair and, under a signature scheme, a signing key pair, and
sends Bob her public keys, her KEM key signed. Bob's container checks the signature, encapsulates
a shared secret to Alice's key, derives its keys at once, and sends back the ciphertext, signed,
with his own public keys. Alice checks his signature, decapsulates, and derives her keys the same
way.

The keys come from a recursive chain. The first exchange hashes the shared secret with SHA3-512
and splits the digest into Alice's and Bob's 32-byte keys; a later one hashes the previous chain
with the secret and mixes each half into the previous key of its side. The new chain is the
SHA3-256 digest of the two keys XORed. `keys_to_aead_store` builds AES-GCM-SIV or
XChaCha20-Poly1305 modules of both keys, or under Kyber one `KyberModule` on the container's own
side, whose local AES key is that side's key and whose remote one the other side's.

The exchange is sound when the KEM decapsulates what it encapsulates, a signature verifies under
the key pair it was made with, `kyber_pke` decrypts under the KEM key pair, and each AEAD opens
what it seals. Then the two containers share their chain, and each side's module opens what the
other side's seals: under a symmetric algorithm these are the modules packet protection assumes
(`KeyExchangePair`), under Kyber two `KyberModule`s paired both ways.
-/

namespace CitadelProtocol.Pqcrypto

/-- `CHA_CHA_NONCE_LENGTH_BYTES`. -/
def chaChaNonceLengthBytes : Nat := 24

/-- `KYBER_NONCE_LENGTH_BYTES`. -/
def kyberNonceLengthBytes : Nat := 32

end CitadelProtocol.Pqcrypto

namespace CitadelProtocol.Crypt

/-- `EncryptionAlgorithm::nonce_len`. -/
def EncryptionAlgorithm.nonceLen : EncryptionAlgorithm → Nat
  | .aesGcm256Siv => Pqcrypto.aesGcmNonceLengthBytes
  | .xchacha20Poly1305 => Pqcrypto.chaChaNonceLengthBytes
  | .kyber => Pqcrypto.kyberNonceLengthBytes

end CitadelProtocol.Crypt

namespace CitadelProtocol.Pqcrypto

open Bytes Outcome Crypt

/-- `KemAlgorithm`. -/
inductive KemAlgorithm
  | kyber
  deriving DecidableEq, Repr

/-- `CryptoParameters`. -/
structure CryptoParameters where
  encryptionAlgorithm : EncryptionAlgorithm
  kemAlgorithm : KemAlgorithm
  sigAlgorithm : SigAlgorithm
  deriving DecidableEq, Repr

/-- `CryptoParameters::default`: AES-GCM-SIV, the Kyber KEM, and no signature scheme. -/
def CryptoParameters.default : CryptoParameters := ⟨.aesGcm256Siv, .kyber, .none⟩

/-- `validate_crypto_params`. -/
def validateCryptoParams (params : CryptoParameters) : Except PqError Unit :=
  if params.encryptionAlgorithm = .kyber ∧ params.kemAlgorithm ≠ .kyber then
    .error (.generic
      "Invalid crypto parameter combination. Kyber encryption must be paired with Kyber KEM")
  else if params.encryptionAlgorithm = .kyber ∧ params.kemAlgorithm = .kyber ∧
      params.sigAlgorithm = .none then
    .error (.generic
      "A post-quantum signature scheme must be selected when using Kyber encryption + KEM")
  else .ok ()

/-- The functions of other crates the exchange calls, beside those `KyberModule` calls: the
KEM of `kyber_pke`, the signing key pair, SHA3-512, and the two AEAD ciphers keyed by 32 bytes.
Each draw of the thread RNG is a tape of its own. -/
structure KexPrimitives extends KyberPrimitives where
  kemKeypair : RandomTape → List UInt8 × List UInt8
  encapsulate : List UInt8 → RandomTape → Option (List UInt8 × List UInt8)
  decapsulate : List UInt8 → List UInt8 → Except String (List UInt8)
  signatureKeypair : RandomTape → Except PqError (List UInt8 × List UInt8)
  sha3512 : List UInt8 → List UInt8
  length_sha3512 : ∀ input, (sha3512 input).length = 64
  aes256GcmSiv : List UInt8 → AeadModule
  xchacha20Poly1305 : List UInt8 → AeadModule

/-! ## The records of an exchange -/

/-- `PostQuantumMetaKex`, whole: beside what `KyberModule` reads, the own public key, the
ciphertext, the shared secret and the KEM. -/
structure PostQuantumMetaKex.Full extends PostQuantumMetaKex where
  publicKey : List UInt8
  ciphertext : Option (List UInt8)
  sharedSecret : Option (List UInt8)
  kemAlg : KemAlgorithm

/-- `PostQuantumMetaSig`, whole: beside what `KyberModule` reads, the own verification key and
the scheme. -/
structure PostQuantumMetaSig.Full extends PostQuantumMetaSig where
  sigPublicKey : List UInt8
  sigAlg : SigAlgorithm

/-- `PostQuantumMeta`. -/
inductive PostQuantumMeta
  | pureSymmetricEncryption (kex : PostQuantumMetaKex.Full)
  | mixedAsymmetric (kex : PostQuantumMetaKex.Full) (sig : PostQuantumMetaSig.Full)

/-- `AliceToBobTransferParameters`. -/
inductive AliceToBobTransferParameters
  | mixedAsymmetric (alicePk alicePkSig alicePublicKeySignature : List UInt8)
      (sigScheme : SigAlgorithm) (kemScheme : KemAlgorithm)
  | pureSymmetric (alicePk : List UInt8) (kemScheme : KemAlgorithm)

/-- `BobToAliceTransferParameters`. -/
inductive BobToAliceTransferParameters
  | mixedAsymmetric (bobCiphertextSignature bobCiphertext bobPkSig bobPk : List UInt8)
  | pureSymmetric (bobCiphertext bobPk : List UInt8)

namespace PostQuantumMeta

/-- `kex`. -/
def kex : PostQuantumMeta → PostQuantumMetaKex.Full
  | .pureSymmetricEncryption kex => kex
  | .mixedAsymmetric kex _ => kex

/-- `sig`. -/
def sig : PostQuantumMeta → Option PostQuantumMetaSig.Full
  | .pureSymmetricEncryption _ => none
  | .mixedAsymmetric _ sig => some sig

/-- A write through `get_kex_mut`. -/
def modifyKex (f : PostQuantumMetaKex.Full → PostQuantumMetaKex.Full) :
    PostQuantumMeta → PostQuantumMeta
  | .pureSymmetricEncryption kex => .pureSymmetricEncryption (f kex)
  | .mixedAsymmetric kex sig => .mixedAsymmetric (f kex) sig

/-- `get_secret_key`. -/
def getSecretKey (m : PostQuantumMeta) : Except PqError (List UInt8) :=
  match m.kex.secretKey with
  | some secretKey => .ok secretKey
  | none => .error (.generic "Unable to get secret key")

/-- `get_ciphertext`. -/
def getCiphertext (m : PostQuantumMeta) : Except PqError (List UInt8) :=
  match m.kex.ciphertext with
  | some ciphertext => .ok ciphertext
  | none => .error (.generic "Unable to get ciphertext")

/-- `get_shared_secret`, whose error repeats the text of `get_secret_key`. -/
def getSharedSecret (m : PostQuantumMeta) : Except PqError (List UInt8) :=
  match m.kex.sharedSecret with
  | some sharedSecret => .ok sharedSecret
  | none => .error (.generic "Unable to get secret key")

variable (prims : KexPrimitives)

/-- `PostQuantumMeta::new_alice`: the KEM key pair from `rng 0` and, under Falcon, the signing
key pair from `rng 1`. -/
def newAlice (kemAlg : KemAlgorithm) (sigAlg : SigAlgorithm) (rng : Nat → RandomTape) :
    Except PqError PostQuantumMeta :=
  let (publicKey, secretKey) := prims.kemKeypair (rng 0)
  let kex : PostQuantumMetaKex.Full :=
    { remotePublicKey := none, secretKey := some secretKey, publicKey, ciphertext := none
      sharedSecret := none, kemAlg }
  match sigAlg with
  | .falcon1024 => do
      let (sigPublicKey, sigPrivateKey) ← prims.signatureKeypair (rng 1)
      pure (.mixedAsymmetric kex
        { sigPrivateKey, remoteSigPublicKey := none, sigPublicKey, sigAlg })
  | .none => pure (.pureSymmetricEncryption kex)

/-- `PostQuantumMeta::new_bob`: Bob's KEM key pair from `rng 0` and the encapsulation to Alice's
key from `rng 2`; for a signed transfer his signing key pair from `rng 1`, after which Alice's
signature of her key must verify. -/
def newBob (params : AliceToBobTransferParameters) (rng : Nat → RandomTape) :
    Except PqError PostQuantumMeta := do
  let (kemScheme, pkAlice) := match params with
    | .mixedAsymmetric alicePk _ _ _ kemScheme => (kemScheme, alicePk)
    | .pureSymmetric alicePk kemScheme => (kemScheme, alicePk)
  let (kemPkBob, kemSkBob) := prims.kemKeypair (rng 0)
  let (ciphertext, sharedSecret) ← match kemScheme with
    | .kyber =>
        match prims.encapsulate pkAlice (rng 2) with
        | some encapsulated => .ok encapsulated
        | none => .error (.generic "Failed encapsulate step")
  let kex : PostQuantumMetaKex.Full :=
    { remotePublicKey := some pkAlice, secretKey := some kemSkBob, publicKey := kemPkBob
      ciphertext := some ciphertext, sharedSecret := some sharedSecret, kemAlg := kemScheme }
  match params with
  | .mixedAsymmetric alicePk alicePkSig alicePublicKeySignature sigScheme _ => do
      let (sigPkBob, sigSkBob) ← prims.signatureKeypair (rng 1)
      prims.signatureVerify alicePk alicePublicKeySignature alicePkSig
      pure (.mixedAsymmetric kex
        { sigPrivateKey := sigSkBob, remoteSigPublicKey := some alicePkSig
          sigPublicKey := sigPkBob, sigAlg := sigScheme })
  | .pureSymmetric _ _ => pure (.pureSymmetricEncryption kex)

/-- `PostQuantumMeta::alice_on_receive_ciphertext`: a signed ciphertext must verify; Alice
decapsulates it and records it, the secret and Bob's public keys. A container without signing
keys handed a signed transfer panics at them. -/
def aliceOnReceiveCiphertext (m : PostQuantumMeta) (params : BobToAliceTransferParameters) :
    ExceptT PqError Option PostQuantumMeta := do
  let bobCiphertext ← match params with
    | .pureSymmetric bobCiphertext _ => pure bobCiphertext
    | .mixedAsymmetric bobCiphertextSignature bobCiphertext bobPkSig _ => do
        ofResult (prims.signatureVerify bobCiphertext bobCiphertextSignature bobPkSig)
        pure bobCiphertext
  let secretKey ← ofResult m.getSecretKey
  let sharedSecret ← ofResult ((prims.decapsulate bobCiphertext secretKey).mapError .other)
  let m := m.modifyKex fun kex =>
    { kex with sharedSecret := some sharedSecret, ciphertext := some bobCiphertext }
  match params with
  | .mixedAsymmetric _ _ bobPkSig bobPk =>
      match m.modifyKex fun kex => { kex with remotePublicKey := some bobPk } with
      | .mixedAsymmetric kex sig =>
          pure (.mixedAsymmetric kex { sig with remoteSigPublicKey := some bobPkSig })
      | .pureSymmetricEncryption _ => abort
  | .pureSymmetric _ bobPk =>
      pure (m.modifyKex fun kex => { kex with remotePublicKey := some bobPk })

/-- `generate_alice_to_bob_transfer`: the KEM public key, signed under a signature scheme. -/
def generateAliceToBobTransfer : PostQuantumMeta → Except PqError AliceToBobTransferParameters
  | .mixedAsymmetric kex sig => do
      let alicePublicKeySignature ← prims.signatureSign kex.publicKey sig.sigPrivateKey
      pure (.mixedAsymmetric kex.publicKey sig.sigPublicKey alicePublicKeySignature sig.sigAlg
        kex.kemAlg)
  | .pureSymmetricEncryption kex => pure (.pureSymmetric kex.publicKey kex.kemAlg)

/-- `generate_bob_to_alice_transfer`: the ciphertext, signed under a signature scheme, and the
public keys. -/
def generateBobToAliceTransfer (m : PostQuantumMeta) :
    Except PqError BobToAliceTransferParameters := do
  let bobCiphertext ← m.getCiphertext
  let bobPk := m.kex.publicKey
  match m with
  | .pureSymmetricEncryption _ => pure (.pureSymmetric bobCiphertext bobPk)
  | .mixedAsymmetric _ sig => do
      let bobSignedCiphertext ← prims.signatureSign bobCiphertext sig.sigPrivateKey
      pure (.mixedAsymmetric bobSignedCiphertext bobCiphertext sig.sigPublicKey bobPk)

/-! ### What each step computes -/

variable {prims}

section Alice

variable {kemAlg : KemAlgorithm} {rng : Nat → RandomTape} {pk sk : List UInt8}

/-- Alice's records without a signature scheme: her KEM key pair and nothing of Bob's yet. -/
theorem newAlice_of_none (hkem : prims.kemKeypair (rng 0) = (pk, sk)) :
    newAlice prims kemAlg .none rng = .ok (.pureSymmetricEncryption
      { remotePublicKey := none, secretKey := some sk, publicKey := pk, ciphertext := none
        sharedSecret := none, kemAlg }) := by
  simp only [newAlice, hkem]
  rfl

/-- Alice's records under Falcon: her KEM key pair and her signing key pair. -/
theorem newAlice_of_falcon {spk ssk : List UInt8} (hkem : prims.kemKeypair (rng 0) = (pk, sk))
    (hsig : prims.signatureKeypair (rng 1) = .ok (spk, ssk)) :
    newAlice prims kemAlg .falcon1024 rng = .ok (.mixedAsymmetric
      { remotePublicKey := none, secretKey := some sk, publicKey := pk, ciphertext := none
        sharedSecret := none, kemAlg }
      { sigPrivateKey := ssk, remoteSigPublicKey := none, sigPublicKey := spk
        sigAlg := .falcon1024 }) := by
  simp only [newAlice, hkem, hsig]
  rfl

end Alice

section Bob

variable {alicePk : List UInt8} {kemScheme : KemAlgorithm} {rng : Nat → RandomTape}
  {pk sk ct ss : List UInt8}

/-- Bob's records of an unsigned transfer: his KEM key pair and the secret he encapsulated to
Alice's key. -/
theorem newBob_of_pureSymmetric (hkem : prims.kemKeypair (rng 0) = (pk, sk))
    (hencap : prims.encapsulate alicePk (rng 2) = some (ct, ss)) :
    newBob prims (.pureSymmetric alicePk kemScheme) rng = .ok (.pureSymmetricEncryption
      { remotePublicKey := some alicePk, secretKey := some sk, publicKey := pk
        ciphertext := some ct, sharedSecret := some ss, kemAlg := kemScheme }) := by
  -- the KEM has one scheme, so the encapsulation is the only branch
  cases kemScheme
  simp only [newBob, hkem, hencap]
  rfl

/-- Bob's records of a signed transfer whose signature verifies: beside the unsigned records,
his signing key pair and Alice's verification key. -/
theorem newBob_of_mixedAsymmetric {alicePkSig alicePublicKeySignature spk ssk : List UInt8}
    {sigScheme : SigAlgorithm} (hkem : prims.kemKeypair (rng 0) = (pk, sk))
    (hencap : prims.encapsulate alicePk (rng 2) = some (ct, ss))
    (hsig : prims.signatureKeypair (rng 1) = .ok (spk, ssk))
    (hverify : prims.signatureVerify alicePk alicePublicKeySignature alicePkSig = .ok ()) :
    newBob prims (.mixedAsymmetric alicePk alicePkSig alicePublicKeySignature sigScheme kemScheme)
        rng = .ok (.mixedAsymmetric
      { remotePublicKey := some alicePk, secretKey := some sk, publicKey := pk
        ciphertext := some ct, sharedSecret := some ss, kemAlg := kemScheme }
      { sigPrivateKey := ssk, remoteSigPublicKey := some alicePkSig, sigPublicKey := spk
        sigAlg := sigScheme }) := by
  cases kemScheme
  simp only [newBob, hkem, hencap, hsig, hverify]
  rfl

end Bob

section Transfers

variable {kex : PostQuantumMetaKex.Full} {sig : PostQuantumMetaSig.Full} {signature : List UInt8}

theorem generateAliceToBobTransfer_of_mixedAsymmetric
    (hsign : prims.signatureSign kex.publicKey sig.sigPrivateKey = .ok signature) :
    generateAliceToBobTransfer prims (.mixedAsymmetric kex sig) =
      .ok (.mixedAsymmetric kex.publicKey sig.sigPublicKey signature sig.sigAlg kex.kemAlg) := by
  simp [generateAliceToBobTransfer, hsign, except_ok_bind, except_pure_eq_ok]

theorem generateBobToAliceTransfer_of_mixedAsymmetric {ct : List UInt8}
    (hct : kex.ciphertext = some ct)
    (hsign : prims.signatureSign ct sig.sigPrivateKey = .ok signature) :
    generateBobToAliceTransfer prims (.mixedAsymmetric kex sig) =
      .ok (.mixedAsymmetric signature ct sig.sigPublicKey kex.publicKey) := by
  simp [generateBobToAliceTransfer, getCiphertext, PostQuantumMeta.kex, hct, hsign, except_ok_bind,
    except_pure_eq_ok]

end Transfers

section Receive

variable {bobCiphertext bobPk sk ss : List UInt8}

/-- Alice's records after an unsigned ciphertext that her secret key decapsulates: the secret,
the ciphertext and Bob's public key. -/
theorem aliceOnReceiveCiphertext_of_pureSymmetric {m : PostQuantumMeta}
    (hsecret : m.kex.secretKey = some sk) (hdecap : prims.decapsulate bobCiphertext sk = .ok ss) :
    (m.aliceOnReceiveCiphertext prims (.pureSymmetric bobCiphertext bobPk)).run =
      some (.ok (m.modifyKex fun kex => { kex with
        sharedSecret := some ss, ciphertext := some bobCiphertext,
        remotePublicKey := some bobPk })) := by
  cases m <;>
    simp_all [aliceOnReceiveCiphertext, getSecretKey, kex, modifyKex, Except.mapError]

/-- Alice's signed records after a signed ciphertext that verifies under Bob's key and that her
secret key decapsulates: beside the unsigned update, Bob's verification key. -/
theorem aliceOnReceiveCiphertext_of_mixedAsymmetric {kex : PostQuantumMetaKex.Full}
    {sig : PostQuantumMetaSig.Full} {bobCiphertextSignature bobPkSig : List UInt8}
    (hsecret : kex.secretKey = some sk)
    (hverify : prims.signatureVerify bobCiphertext bobCiphertextSignature bobPkSig = .ok ())
    (hdecap : prims.decapsulate bobCiphertext sk = .ok ss) :
    ((PostQuantumMeta.mixedAsymmetric kex sig).aliceOnReceiveCiphertext prims
        (.mixedAsymmetric bobCiphertextSignature bobCiphertext bobPkSig bobPk)).run =
      some (.ok (.mixedAsymmetric
        { kex with
          sharedSecret := some ss, ciphertext := some bobCiphertext,
          remotePublicKey := some bobPk }
        { sig with remoteSigPublicKey := some bobPkSig })) := by
  simp [aliceOnReceiveCiphertext, getSecretKey, PostQuantumMeta.kex, modifyKex, hsecret, hverify,
    hdecap, Except.mapError]

end Receive

end PostQuantumMeta

/-! ## The recursive chain and the key store -/

/-- `RecursiveChain`: the chain and the two keys of the last exchange, 32 bytes each, and
whether it was the first. -/
structure RecursiveChain where
  chain : List UInt8
  alice : List UInt8
  bob : List UInt8
  first : Bool
  length_chain : chain.length = 32
  length_alice : alice.length = 32
  length_bob : bob.length = 32

/-- `RecursiveChain::new`. -/
def RecursiveChain.new (chain alice bob : List UInt8) (first : Bool) : Option RecursiveChain :=
  if h : chain.length = 32 ∧ alice.length = 32 ∧ bob.length = 32 then
    some ⟨chain, alice, bob, first, h.1, h.2.1, h.2.2⟩
  else none

/-- `ConstructorOpts`: the parameters of a container, and the chain of the one it follows. -/
structure ConstructorOpts where
  cryptography : Option CryptoParameters
  chain : Option RecursiveChain

namespace ConstructorOpts

/-- `ConstructorOpts::new_init`. -/
def newInit (cryptography : Option CryptoParameters) : ConstructorOpts := ⟨cryptography, none⟩

/-- `ConstructorOpts::new_vec_init`. -/
def newVecInit (cryptography : Option CryptoParameters) (count : Nat) : List ConstructorOpts :=
  List.replicate count (newInit (some (cryptography.getD .default)))

/-- `ConstructorOpts::new_from_previous`. -/
def newFromPrevious (cryptography : Option CryptoParameters)
    (previousSharedSecret : RecursiveChain) : ConstructorOpts :=
  ⟨cryptography, some previousSharedSecret⟩

end ConstructorOpts

/-- `KyberModule` as an `AeadModule`. -/
def KyberModule.toAeadModule (prims : KyberPrimitives) (m : KyberModule) : AeadModule where
  encryptInPlace tape nonce ad input := m.encryptInPlace prims tape nonce ad input
  decryptInPlace nonce ad input := m.decryptInPlace prims nonce ad input

section KeyStore

variable (prims : KexPrimitives)

/-- `GenericArray::<u8, U32>::from_exact_iter`: the bytes, when there are exactly 32. -/
def exactKey (key : List UInt8) : Except PqError (List UInt8) :=
  if key.length = 32 then .ok key else .error .invalidLength

/-- `Option::ok_or(Error::InvalidLength)`. -/
def okOrInvalidLength {α : Type} : Option α → Except PqError α
  | some a => .ok a
  | none => .error .invalidLength

/-- The chain and the two keys of `generate_recursive_keystore`. The first exchange splits the
SHA3-512 digest of the shared secret into the keys; a later one splits the digest of the previous
chain and the secret, and hashes each half XORed into the previous key of its side. The chain is
the digest of the keys XORed. -/
def recursiveKeys (ss : List UInt8) :
    Option RecursiveChain → Except PqError (RecursiveChain × List UInt8 × List UInt8)
  | some prev => do
      let tempKey := prims.sha3512 (prev.chain ++ ss)
      let (tempAliceKey, tempBobKey) := tempKey.splitAt 32
      let aliceKey := prims.sha3256 (xorBytes prev.alice tempAliceKey)
      let bobKey := prims.sha3256 (xorBytes prev.bob tempBobKey)
      let chain := prims.sha3256 (xorBytes aliceKey bobKey)
      let chain ← okOrInvalidLength (RecursiveChain.new chain aliceKey bobKey false)
      let aliceKey ← exactKey aliceKey
      let bobKey ← exactKey bobKey
      pure (chain, aliceKey, bobKey)
  | none => do
      let tempKey := prims.sha3512 ss
      let (aliceKey, bobKey) := tempKey.splitAt 32
      let chain := prims.sha3256 (xorBytes aliceKey bobKey)
      let chain ← okOrInvalidLength (RecursiveChain.new chain aliceKey bobKey true)
      let aliceKey ← exactKey aliceKey
      let bobKey ← exactKey bobKey
      pure (chain, aliceKey, bobKey)

/-- `keys_to_aead_store`: modules of both keys under a symmetric algorithm; under Kyber one
`KyberModule` on the container's own side, its local key that side's, which panics without
signing keys. -/
def keysToAeadStore (alice bob : List UInt8) (kex : PostQuantumMetaKex.Full)
    (params : CryptoParameters) (sig : Option PostQuantumMetaSig.Full) (pqNode : PQNode) :
    Option KeyStore :=
  match params.encryptionAlgorithm with
  | .aesGcm256Siv => some ⟨some (prims.aes256GcmSiv alice), some (prims.aes256GcmSiv bob)⟩
  | .xchacha20Poly1305 =>
      some ⟨some (prims.xchacha20Poly1305 alice), some (prims.xchacha20Poly1305 bob)⟩
  | .kyber =>
      let symmetricKeyLocal := match pqNode with
        | .alice => prims.aes256GcmSiv alice
        | .bob => prims.aes256GcmSiv bob
      let symmetricKeyRemote := match pqNode with
        | .alice => prims.aes256GcmSiv bob
        | .bob => prims.aes256GcmSiv alice
      sig.map fun sig =>
        let keys := KyberModule.toAeadModule prims.toKyberPrimitives
          ⟨kex.toPostQuantumMetaKex, sig.toPostQuantumMetaSig, symmetricKeyLocal,
            symmetricKeyRemote⟩
        match pqNode with
        | .alice => ⟨some keys, none⟩
        | .bob => ⟨none, some keys⟩

/-- `generate_recursive_keystore`: the chain and the key store of the keys. -/
def generateRecursiveKeystore (pqNode : PQNode) (params : CryptoParameters)
    (sig : Option PostQuantumMetaSig.Full) (ss : List UInt8) (previousChain : Option RecursiveChain)
    (kex : PostQuantumMetaKex.Full) : ExceptT PqError Option (RecursiveChain × KeyStore) := do
  let (chain, aliceKey, bobKey) ← ofResult (recursiveKeys prims ss previousChain)
  let keyStore ← unwrap (keysToAeadStore prims aliceKey bobKey kex params sig pqNode)
  pure (chain, keyStore)

end KeyStore

/-! ## The container -/

/-- `PostQuantumContainer`, whole: its parameters, its `PostQuantumMeta`, its recursive chain,
its anti-replay container, its key store and its side. Packet protection reads `view`. -/
structure PostQuantumContainer.Full where
  params : CryptoParameters
  data : PostQuantumMeta
  chain : Option RecursiveChain
  antiReplayAttack : AntiReplayAttackContainer
  keyStore : Option KeyStore
  node : PQNode

namespace PostQuantumContainer.Full

/-- What packet protection reads of a container. -/
def view (c : Full) : PostQuantumContainer :=
  ⟨c.node, c.params.encryptionAlgorithm, c.keyStore, c.antiReplayAttack⟩

/-- `get_shared_secret`. -/
def getSharedSecret (c : Full) : Except PqError (List UInt8) := c.data.getSharedSecret

/-- `get_chain`: a container has none until its keys are derived. -/
def getChain (c : Full) : Except PqError RecursiveChain := okOrInvalidLength c.chain

variable (prims : KexPrimitives)

/-- `PostQuantumContainer::new_alice`: a container with no keys yet, keeping the chain of the
options for the keys to come. -/
def newAlice (opts : ConstructorOpts) (rng : Nat → RandomTape) : Except PqError Full := do
  let params := opts.cryptography.getD .default
  validateCryptoParams params
  let data ← PostQuantumMeta.newAlice prims params.kemAlgorithm params.sigAlgorithm rng
  pure { params, data, chain := opts.chain, keyStore := none
         antiReplayAttack := .default, node := .alice }

/-- `PostQuantumContainer::new_bob`: Bob's records and, from the shared secret he encapsulated,
his chain and keys. -/
def newBob (opts : ConstructorOpts) (txParams : AliceToBobTransferParameters)
    (rng : Nat → RandomTape) : ExceptT PqError Option Full := do
  let params := opts.cryptography.getD .default
  ofResult (validateCryptoParams params)
  let data ← ofResult (PostQuantumMeta.newBob prims txParams rng)
  -- `get_shared_secret().unwrap()`
  let ss ← unwrap data.getSharedSecret.toOption
  let (chain, keys) ← generateRecursiveKeystore prims .bob params data.sig ss opts.chain data.kex
  pure { chain := some chain, params, keyStore := some keys, data
         antiReplayAttack := .default, node := .bob }

/-- `load_symmetric_keys`: the chain and keys of the shared secret, after the chain kept. -/
def loadSymmetricKeys (c : Full) : ExceptT PqError Option Full := do
  let ss ← ofResult c.getSharedSecret
  let (chain, key) ← generateRecursiveKeystore prims c.node c.params c.data.sig ss c.chain c.data.kex
  pure { c with keyStore := some key, chain := some chain }

/-- `alice_on_receive_ciphertext`. -/
def aliceOnReceiveCiphertext (c : Full) (params : BobToAliceTransferParameters) :
    ExceptT PqError Option Full := do
  let data ← c.data.aliceOnReceiveCiphertext prims params
  let _ ← ofResult data.getSharedSecret
  loadSymmetricKeys prims { c with data }

/-- `generate_alice_to_bob_transfer`. -/
def generateAliceToBobTransfer (c : Full) : Except PqError AliceToBobTransferParameters :=
  c.data.generateAliceToBobTransfer prims

/-- `generate_bob_to_alice_transfer`. -/
def generateBobToAliceTransfer (c : Full) : Except PqError BobToAliceTransferParameters :=
  c.data.generateBobToAliceTransfer prims

section Steps

variable {prims} {opts : ConstructorOpts} {rng : Nat → RandomTape} {ss : List UInt8}
  {chain : RecursiveChain} {keys : KeyStore}

theorem newAlice_eq_ok {data : PostQuantumMeta}
    (hvalid : validateCryptoParams (opts.cryptography.getD .default) = .ok ())
    (hdata : PostQuantumMeta.newAlice prims (opts.cryptography.getD .default).kemAlgorithm
      (opts.cryptography.getD .default).sigAlgorithm rng = .ok data) :
    newAlice prims opts rng = .ok
      { params := opts.cryptography.getD .default, data, chain := opts.chain, keyStore := none,
        antiReplayAttack := .default, node := .alice } := by
  simp only [newAlice, hvalid, hdata]
  rfl

theorem loadSymmetricKeys_eq_ok {c : Full} (hss : c.data.getSharedSecret = .ok ss)
    (hkeys : (generateRecursiveKeystore prims c.node c.params c.data.sig ss c.chain
      c.data.kex).run = some (.ok (chain, keys))) :
    (c.loadSymmetricKeys prims).run =
      some (.ok { c with keyStore := some keys, chain := some chain }) := by
  simp only [loadSymmetricKeys, getSharedSecret, hss, ofResult_ok, pure_bind]
  rw [run_bind_of_ok hkeys]
  rfl

/-- Bob's container: his records and the chain and keys of the secret he encapsulated. -/
theorem newBob_eq_ok {txParams : AliceToBobTransferParameters} {data : PostQuantumMeta}
    (hvalid : validateCryptoParams (opts.cryptography.getD .default) = .ok ())
    (hdata : PostQuantumMeta.newBob prims txParams rng = .ok data)
    (hss : data.getSharedSecret = .ok ss)
    (hkeys : (generateRecursiveKeystore prims .bob (opts.cryptography.getD .default) data.sig ss
      opts.chain data.kex).run = some (.ok (chain, keys))) :
    (newBob prims opts txParams rng).run = some (.ok
      { params := opts.cryptography.getD .default, data, chain := some chain,
        keyStore := some keys, antiReplayAttack := .default, node := .bob }) := by
  simp only [newBob, hvalid, hdata, hss, ofResult_ok, Except.toOption, unwrap_some, pure_bind]
  rw [run_bind_of_ok hkeys]
  rfl

/-- Alice's container after Bob's response: her updated records, and the chain and keys of the
secret they now hold. -/
theorem aliceOnReceiveCiphertext_eq_ok {c : Full} {params : BobToAliceTransferParameters}
    {data : PostQuantumMeta}
    (hdata : (c.data.aliceOnReceiveCiphertext prims params).run = some (.ok data))
    (hss : data.getSharedSecret = .ok ss)
    (hkeys : (generateRecursiveKeystore prims c.node c.params data.sig ss c.chain data.kex).run =
      some (.ok (chain, keys))) :
    (c.aliceOnReceiveCiphertext prims params).run =
      some (.ok { c with data, keyStore := some keys, chain := some chain }) := by
  rw [aliceOnReceiveCiphertext, run_bind_of_ok hdata]
  simp only [hss, ofResult_ok, pure_bind]
  exact loadSymmetricKeys_eq_ok hss hkeys

end Steps

/-- `encrypt`: the input sealed by the encryption key with no associated data. -/
def encrypt (c : Full) (tape : RandomTape) (input nonce : List UInt8) :
    ExceptT PqError Option (List UInt8) :=
  match c.view.getEncryptionKey with
  | some key => key.encryptInPlace tape nonce [] input
  | none => throw .sharedSecretNotLoaded

/-- `decrypt`: the input opened by the decryption key with no associated data. -/
def decrypt (c : Full) (input nonce : List UInt8) : ExceptT PqError Option (List UInt8) :=
  match c.view.getDecryptionKey with
  | some key => key.decryptInPlace nonce [] input
  | none => throw .sharedSecretNotLoaded

end PostQuantumContainer.Full

/-! ## What the exchange assumes -/

/-- `sealer` encrypts every plaintext shorter than `2 ^ 32` bytes under a nonce of `nonceLen`
bytes. -/
def AeadModule.SealsShort (sealer : AeadModule) (nonceLen : Nat) : Prop :=
  ∀ tape nonce ad plain, nonce.length = nonceLen → plain.length < 2 ^ 32 →
    ∃ sealed, (sealer.encryptInPlace tape nonce ad plain).run = some (.ok sealed)

/-- What the exchange assumes of the primitives: the KEM decapsulates what it encapsulates to
its key pairs, a signing key pair signs and verifies, `kyber_pke` decrypts under the KEM key
pair, and each AEAD opens what it seals and seals under a nonce of its length. -/
structure KexPrimitives.Sound (prims : KexPrimitives) : Prop where
  decapsulate_encapsulate : ∀ tape tape' publicKey secretKey ciphertext ss,
    prims.kemKeypair tape = (publicKey, secretKey) →
      prims.encapsulate publicKey tape' = some (ciphertext, ss) →
        prims.decapsulate ciphertext secretKey = .ok ss
  encapsulate_isSome : ∀ tape tape', (prims.encapsulate (prims.kemKeypair tape).1 tape').isSome
  signatureKeypair_isOk : ∀ tape, ∃ publicKey secretKey,
    prims.signatureKeypair tape = .ok (publicKey, secretKey)
  signatureSign_isOk : ∀ tape publicKey secretKey message,
    prims.signatureKeypair tape = .ok (publicKey, secretKey) →
      ∃ signature, prims.signatureSign message secretKey = .ok signature
  signatureVerify_sign : ∀ tape publicKey secretKey message signature,
    prims.signatureKeypair tape = .ok (publicKey, secretKey) →
      prims.signatureSign message secretKey = .ok signature →
        prims.signatureVerify message signature publicKey = .ok ()
  pkeDecrypt_pkeEncrypt : ∀ tape publicKey secretKey plaintext nonce ciphertext,
    prims.kemKeypair tape = (publicKey, secretKey) →
      prims.pkeEncrypt publicKey plaintext nonce = some ciphertext →
        prims.pkeDecrypt secretKey ciphertext = .ok plaintext
  aes_opens : ∀ key, (prims.aes256GcmSiv key).Opens (prims.aes256GcmSiv key)
  xchacha_opens : ∀ key, (prims.xchacha20Poly1305 key).Opens (prims.xchacha20Poly1305 key)
  aes_sealsShort : ∀ key, (prims.aes256GcmSiv key).SealsShort aesGcmNonceLengthBytes
  xchacha_sealsShort : ∀ key, (prims.xchacha20Poly1305 key).SealsShort chaChaNonceLengthBytes

/-- Bob encapsulates a secret to every key pair Alice draws, and her secret key decapsulates it. -/
theorem KexPrimitives.Sound.encapsulate_of_keypair {prims : KexPrimitives} (hsound : prims.Sound)
    (tape tape' : RandomTape) :
    ∃ publicKey secretKey ciphertext ss, prims.kemKeypair tape = (publicKey, secretKey) ∧
      prims.encapsulate publicKey tape' = some (ciphertext, ss) ∧
      prims.decapsulate ciphertext secretKey = .ok ss := by
  rcases hkeys : prims.kemKeypair tape with ⟨publicKey, secretKey⟩
  obtain ⟨⟨ciphertext, ss⟩, hencap⟩ :=
    Option.isSome_iff_exists.mp (hsound.encapsulate_isSome tape tape')
  rw [hkeys] at hencap
  exact ⟨publicKey, secretKey, ciphertext, ss, rfl, hencap,
    hsound.decapsulate_encapsulate _ _ _ _ _ _ hkeys hencap⟩

/-- Two Kyber modules of one exchange: the sender encrypts to the public key of a KEM key pair
whose secret key the receiver holds, signs with the signing key of a key pair whose verification
key the receiver holds, and seals with an AES key that opens under the receiver's remote key. -/
theorem KyberModule.paired_of_keypairs {prims : KexPrimitives} (hsound : prims.Sound)
    {sender receiver : KyberModule} {kemTape sigTape : RandomTape}
    {publicKey secretKey sigPublicKey : List UInt8}
    (hkem : prims.kemKeypair kemTape = (publicKey, secretKey))
    (hsig : prims.signatureKeypair sigTape = .ok (sigPublicKey, sender.sig.sigPrivateKey))
    (hremote : sender.kex.remotePublicKey = some publicKey)
    (hsecret : receiver.kex.secretKey = some secretKey)
    (hremoteSig : receiver.sig.remoteSigPublicKey = some sigPublicKey)
    (haead : sender.symmetricKeyLocal.Opens receiver.symmetricKeyRemote) :
    KyberModule.Paired prims.toKyberPrimitives sender receiver where
  aead := haead
  pke remotePublicKey hpk := by
    rw [hremote, Option.some.injEq] at hpk
    subst hpk
    exact ⟨secretKey, hsecret, fun _ _ _ => hsound.pkeDecrypt_pkeEncrypt _ _ _ _ _ _ hkem⟩
  sig := ⟨sigPublicKey, hremoteSig, fun _ _ => hsound.signatureVerify_sign _ _ _ _ _ hsig⟩

namespace PostQuantumContainer

/-- The key `c` encrypts with is opened by the key `c'` decrypts with. -/
def Channel (c c' : PostQuantumContainer) : Prop :=
  ∃ sealer opener, c.getEncryptionKey = some sealer ∧ c'.getDecryptionKey = some opener ∧
    sealer.Decrypts opener

/-- The key `c` encrypts with seals every plaintext shorter than `2 ^ 32` bytes under a nonce of
`nonceLen` bytes. -/
def Seals (c : PostQuantumContainer) (nonceLen : Nat) : Prop :=
  ∃ sealer, c.getEncryptionKey = some sealer ∧ sealer.SealsShort nonceLen

end PostQuantumContainer

/-! ## The key schedule -/

section Schedule

variable (prims : KexPrimitives)

/-- The chain and keys of a shared secret are always derived: every digest has the lengths they
need. -/
theorem recursiveKeys_isOk (ss : List UInt8) (previousChain : Option RecursiveChain) :
    ∃ chain, recursiveKeys prims ss previousChain = .ok (chain, chain.alice, chain.bob) := by
  cases previousChain with
  | none =>
      have h64 := prims.length_sha3512 ss
      simp only [recursiveKeys, RecursiveChain.new, okOrInvalidLength, exactKey, prims.length_sha3256, h64, List.splitAt_eq, List.length_take, List.length_drop]
      exact ⟨_, rfl⟩
  | some prev =>
      simp only [recursiveKeys, RecursiveChain.new, okOrInvalidLength, exactKey, prims.length_sha3256]
      exact ⟨_, rfl⟩

theorem validateCryptoParams_kyber {params : CryptoParameters}
    (hvalid : validateCryptoParams params = .ok ()) (hkyber : params.encryptionAlgorithm = .kyber) :
    params.sigAlgorithm = .falcon1024 := by
  obtain ⟨encryptionAlgorithm, kemAlgorithm, sigAlgorithm⟩ := params
  cases kemAlgorithm
  cases sigAlgorithm <;> simp_all [validateCryptoParams]

theorem keysToAeadStore_isSome (aliceKey bobKey : List UInt8)
    (kex : PostQuantumMetaKex.Full) (params : CryptoParameters) (sig : Option PostQuantumMetaSig.Full)
    (hsig : params.encryptionAlgorithm = .kyber → sig.isSome) (pqNode : PQNode) :
    ∃ store, keysToAeadStore prims aliceKey bobKey kex params sig pqNode = some store := by
  unfold keysToAeadStore
  cases halg : params.encryptionAlgorithm with
  | aesGcm256Siv => simp
  | xchacha20Poly1305 => simp
  | kyber =>
      obtain ⟨s, rfl⟩ := Option.isSome_iff_exists.mp (hsig halg)
      simp

theorem generateRecursiveKeystore_eq_ok {pqNode : PQNode} {params : CryptoParameters}
    {sig : Option PostQuantumMetaSig.Full} {ss : List UInt8} {previousChain : Option RecursiveChain}
    {kex : PostQuantumMetaKex.Full} {chain : RecursiveChain} {aliceKey bobKey : List UInt8}
    {store : KeyStore} (hkeys : recursiveKeys prims ss previousChain = .ok (chain, aliceKey, bobKey))
    (hstore : keysToAeadStore prims aliceKey bobKey kex params sig pqNode = some store) :
    (generateRecursiveKeystore prims pqNode params sig ss previousChain kex).run =
      some (.ok (chain, store)) := by
  simp [generateRecursiveKeystore, hkeys, hstore]

end Schedule

section Stores

variable {prims : KexPrimitives}

/-- The containers of two key stores built from one pair of keys. Under a symmetric algorithm
both sides hold modules of both keys, so each side opens what the other seals, Alice's pair is the
one packet protection assumes, and both seal under a nonce of the algorithm's length. Under Kyber
each side holds its own `KyberModule`, and the two are paired both ways when the modules built
from the two sides' records are. -/
theorem keys_of_keysToAeadStore (hsound : prims.Sound) {params : CryptoParameters}
    {aliceKey bobKey : List UInt8} {kexA kexB : PostQuantumMetaKex.Full}
    {sigA sigB : Option PostQuantumMetaSig.Full} {storeA storeB : KeyStore}
    (hA : keysToAeadStore prims aliceKey bobKey kexA params sigA .alice = some storeA)
    (hB : keysToAeadStore prims aliceKey bobKey kexB params sigB .bob = some storeB)
    (hkyber : params.encryptionAlgorithm = .kyber → ∀ sA sB, sigA = some sA → sigB = some sB →
      KyberModule.Paired prims.toKyberPrimitives
          ⟨kexA.toPostQuantumMetaKex, sA.toPostQuantumMetaSig, prims.aes256GcmSiv aliceKey,
            prims.aes256GcmSiv bobKey⟩
          ⟨kexB.toPostQuantumMetaKex, sB.toPostQuantumMetaSig, prims.aes256GcmSiv bobKey,
            prims.aes256GcmSiv aliceKey⟩ ∧
        KyberModule.Paired prims.toKyberPrimitives
          ⟨kexB.toPostQuantumMetaKex, sB.toPostQuantumMetaSig, prims.aes256GcmSiv bobKey,
            prims.aes256GcmSiv aliceKey⟩
          ⟨kexA.toPostQuantumMetaKex, sA.toPostQuantumMetaSig, prims.aes256GcmSiv aliceKey,
            prims.aes256GcmSiv bobKey⟩)
    (araA araB : AntiReplayAttackContainer) :
    let alice : PostQuantumContainer := ⟨.alice, params.encryptionAlgorithm, some storeA, araA⟩
    let bob : PostQuantumContainer := ⟨.bob, params.encryptionAlgorithm, some storeB, araB⟩
    (params.encryptionAlgorithm ≠ .kyber → alice.Channel bob ∧ bob.Channel alice ∧
      PostQuantumContainer.KeyExchangePair alice bob ∧
      alice.Seals params.encryptionAlgorithm.nonceLen ∧ bob.Seals params.encryptionAlgorithm.nonceLen) ∧
    (params.encryptionAlgorithm = .kyber → ∃ aliceModule bobModule,
      alice.keyStore = some ⟨some (aliceModule.toAeadModule prims.toKyberPrimitives), none⟩ ∧
      bob.keyStore = some ⟨none, some (bobModule.toAeadModule prims.toKyberPrimitives)⟩ ∧
      KyberModule.Paired prims.toKyberPrimitives aliceModule bobModule ∧
      KyberModule.Paired prims.toKyberPrimitives bobModule aliceModule) := by
  intro alice bob
  cases halg : params.encryptionAlgorithm with
  | aesGcm256Siv =>
      simp only [keysToAeadStore, halg, Option.some.injEq] at hA hB
      subst hA hB
      have hdecA : alice.getDecryptionKey = some (prims.aes256GcmSiv bobKey) := by
        simp [alice, PostQuantumContainer.getDecryptionKey, halg]
      have hdecB : bob.getDecryptionKey = some (prims.aes256GcmSiv aliceKey) := by
        simp [bob, PostQuantumContainer.getDecryptionKey, halg]
      refine ⟨fun _ => ⟨⟨_, _, rfl, hdecB, (hsound.aes_opens aliceKey).decrypts⟩,
        ⟨_, _, rfl, hdecA, (hsound.aes_opens bobKey).decrypts⟩, ?_,
        ⟨_, rfl, hsound.aes_sealsShort aliceKey⟩, ⟨_, rfl, hsound.aes_sealsShort bobKey⟩⟩,
        fun h => by cases h⟩
      exact ⟨rfl, rfl, rfl, fun _ => ⟨_, _, rfl, rfl, (hsound.aes_opens aliceKey).decrypts⟩,
        fun hkyber => absurd hkyber (by simp [alice, halg])⟩
  | xchacha20Poly1305 =>
      simp only [keysToAeadStore, halg, Option.some.injEq] at hA hB
      subst hA hB
      have hdecA : alice.getDecryptionKey = some (prims.xchacha20Poly1305 bobKey) := by
        simp [alice, PostQuantumContainer.getDecryptionKey, halg]
      have hdecB : bob.getDecryptionKey = some (prims.xchacha20Poly1305 aliceKey) := by
        simp [bob, PostQuantumContainer.getDecryptionKey, halg]
      refine ⟨fun _ => ⟨⟨_, _, rfl, hdecB, (hsound.xchacha_opens aliceKey).decrypts⟩,
        ⟨_, _, rfl, hdecA, (hsound.xchacha_opens bobKey).decrypts⟩, ?_,
        ⟨_, rfl, hsound.xchacha_sealsShort aliceKey⟩, ⟨_, rfl, hsound.xchacha_sealsShort bobKey⟩⟩,
        fun h => by cases h⟩
      exact ⟨rfl, rfl, rfl, fun _ => ⟨_, _, rfl, rfl, (hsound.xchacha_opens aliceKey).decrypts⟩,
        fun hkyber => absurd hkyber (by simp [alice, halg])⟩
  | kyber =>
      -- both sides hold signing keys, or their stores would have panicked
      obtain ⟨sA, rfl⟩ : ∃ sA, sigA = some sA := by
        cases sigA <;> simp_all [keysToAeadStore]
      obtain ⟨sB, rfl⟩ : ∃ sB, sigB = some sB := by
        cases sigB <;> simp_all [keysToAeadStore]
      obtain ⟨hpaired, hpaired'⟩ := hkyber halg sA sB rfl rfl
      simp only [keysToAeadStore, halg, Option.map_some, Option.some.injEq] at hA hB
      subst hA hB
      exact ⟨fun h => absurd rfl h, fun _ => ⟨_, _, rfl, rfl, hpaired, hpaired'⟩⟩

end Stores


/-! ## One exchange -/


namespace PostQuantumContainer.Full

variable (prims : KexPrimitives)

/-- One exchange between containers built from the same options. -/
def exchange (opts : ConstructorOpts) (rngAlice rngBob : Nat → RandomTape) :
    ExceptT PqError Option (Full × Full) := do
  let alice ← ofResult (newAlice prims opts rngAlice)
  let transfer ← ofResult (alice.generateAliceToBobTransfer prims)
  let bob ← newBob prims opts transfer rngBob
  let response ← ofResult (bob.generateBobToAliceTransfer prims)
  let alice ← alice.aliceOnReceiveCiphertext prims response
  pure (alice, bob)

/-- The steps of an exchange that succeeds. -/
theorem exchange_steps {opts : ConstructorOpts} {rngAlice rngBob : Nat → RandomTape}
    {alice bob : Full} (h : (exchange prims opts rngAlice rngBob).run = some (.ok (alice, bob))) :
    ∃ alice₀ transfer response, newAlice prims opts rngAlice = .ok alice₀ ∧
      alice₀.generateAliceToBobTransfer prims = .ok transfer ∧
      (newBob prims opts transfer rngBob).run = some (.ok bob) ∧
      bob.generateBobToAliceTransfer prims = .ok response ∧
      (alice₀.aliceOnReceiveCiphertext prims response).run = some (.ok alice) := by
  simp only [exchange, run_bind_eq_ok, run_ofResult, Option.some.injEq, Except.ok.injEq,
    run_pure, Prod.mk.injEq] at h
  obtain ⟨alice₀, halice₀, transfer, htransfer, bob', hbob, response, hresponse, alice', hreceive,
    rfl, rfl⟩ := h
  exact ⟨alice₀, transfer, response, halice₀, htransfer, hbob, hresponse, hreceive⟩

/-- An exchange whose every step succeeds hands on Alice's last container and Bob's. -/
theorem exchange_of_steps {opts : ConstructorOpts} {rngAlice rngBob : Nat → RandomTape}
    {alice₀ alice bob : Full} {transfer : AliceToBobTransferParameters}
    {response : BobToAliceTransferParameters} (halice : newAlice prims opts rngAlice = .ok alice₀)
    (htransfer : alice₀.generateAliceToBobTransfer prims = .ok transfer)
    (hbob : (newBob prims opts transfer rngBob).run = some (.ok bob))
    (hresponse : bob.generateBobToAliceTransfer prims = .ok response)
    (hreceive : (alice₀.aliceOnReceiveCiphertext prims response).run = some (.ok alice)) :
    (exchange prims opts rngAlice rngBob).run = some (.ok (alice, bob)) := by
  simp only [exchange, halice, htransfer, ofResult_ok, pure_bind]
  rw [run_bind_of_ok hbob]
  simp only [hresponse, ofResult_ok, pure_bind]
  rw [run_bind_of_ok hreceive]
  rfl

/-- The containers of an exchange, from the records its steps compute: Alice's records `dataA`,
Bob's `dataB` built on her transfer, and Alice's `dataA'` after his response, when both sides
hold the secret `ss` and the chain of `ss` builds both key stores. -/
theorem exchange_of_records {opts : ConstructorOpts} {rngAlice rngBob : Nat → RandomTape}
    {dataA dataA' dataB : PostQuantumMeta} {transfer : AliceToBobTransferParameters}
    {response : BobToAliceTransferParameters} {ss : List UInt8} {chain : RecursiveChain}
    {storeA storeB : KeyStore}
    (hvalid : validateCryptoParams (opts.cryptography.getD .default) = .ok ())
    (halice : PostQuantumMeta.newAlice prims (opts.cryptography.getD .default).kemAlgorithm
      (opts.cryptography.getD .default).sigAlgorithm rngAlice = .ok dataA)
    (htransfer : dataA.generateAliceToBobTransfer prims = .ok transfer)
    (hbob : PostQuantumMeta.newBob prims transfer rngBob = .ok dataB)
    (hresponse : dataB.generateBobToAliceTransfer prims = .ok response)
    (hreceive : (dataA.aliceOnReceiveCiphertext prims response).run = some (.ok dataA'))
    (hssA : dataA'.getSharedSecret = .ok ss) (hssB : dataB.getSharedSecret = .ok ss)
    (hkeys : recursiveKeys prims ss opts.chain = .ok (chain, chain.alice, chain.bob))
    (hstoreA : keysToAeadStore prims chain.alice chain.bob dataA'.kex
      (opts.cryptography.getD .default) dataA'.sig .alice = some storeA)
    (hstoreB : keysToAeadStore prims chain.alice chain.bob dataB.kex
      (opts.cryptography.getD .default) dataB.sig .bob = some storeB) :
    (exchange prims opts rngAlice rngBob).run = some (.ok
      ({ params := opts.cryptography.getD .default, data := dataA', chain := some chain,
         keyStore := some storeA, antiReplayAttack := .default, node := .alice },
       { params := opts.cryptography.getD .default, data := dataB, chain := some chain,
         keyStore := some storeB, antiReplayAttack := .default, node := .bob })) := by
  have hbobKeys := generateRecursiveKeystore_eq_ok prims hkeys hstoreB
  have haliceKeys := generateRecursiveKeystore_eq_ok prims hkeys hstoreA
  exact exchange_of_steps prims (newAlice_eq_ok hvalid halice) htransfer
    (newBob_eq_ok hvalid hbob hssB hbobKeys) hresponse
    (aliceOnReceiveCiphertext_eq_ok hreceive hssA haliceKeys)

/-- Bob's container holds the parameters of his options. -/
theorem newBob_params {opts : ConstructorOpts} {txParams : AliceToBobTransferParameters}
    {rng : Nat → RandomTape} {c : Full} (h : (newBob prims opts txParams rng).run = some (.ok c)) :
    c.params = opts.cryptography.getD .default := by
  simp only [newBob, run_bind_eq_ok, run_ofResult, Option.some.injEq, run_pure,
    Except.ok.injEq] at h
  obtain ⟨_, _, _, _, _, _, ⟨_, _⟩, _, rfl⟩ := h
  rfl

/-- What a container encrypts, the container at the other end of its channel decrypts. -/
theorem decrypt_encrypt_of_channel {c c' : Full} (hchannel : c.view.Channel c'.view)
    {tape : RandomTape} {input nonce sealed : List UInt8}
    (hencrypt : (c.encrypt tape input nonce).run = some (.ok sealed)) :
    (c'.decrypt sealed nonce).run = some (.ok input) := by
  obtain ⟨sealer, opener, hsealer, hopener, hdecrypts⟩ := hchannel
  simp only [encrypt, hsealer] at hencrypt
  simp only [decrypt, hopener]
  exact hdecrypts tape nonce [] input sealed hencrypt

/-- A container whose key seals encrypts every short input under a nonce of the right length. -/
theorem encrypt_isOk_of_seals {c : Full} {nonceLen : Nat} (hseals : c.view.Seals nonceLen)
    (tape : RandomTape) {input nonce : List UInt8} (hnonce : nonce.length = nonceLen)
    (hshort : input.length < 2 ^ 32) :
    ∃ sealed, (c.encrypt tape input nonce).run = some (.ok sealed) := by
  obtain ⟨sealer, hsealer, hsealsShort⟩ := hseals
  simp only [encrypt, hsealer]
  exact hsealsShort tape nonce [] input hnonce hshort

/-- What an exchange leaves in Alice's and Bob's containers: their sides, one set of valid
parameters, one shared secret and one chain, fresh anti-replay containers, and keys that match.
Under a symmetric algorithm each side opens what the other seals, both seal under a nonce of the
algorithm's length, and Alice's keys and Bob's are the pair packet protection assumes. Under
Kyber Alice's module and Bob's are paired both ways, the premise of their round trip. -/
structure Agreed (alice bob : Full) : Prop where
  alice_node : alice.node = .alice
  bob_node : bob.node = .bob
  params : alice.params = bob.params
  valid : validateCryptoParams alice.params = .ok ()
  sharedSecret : ∃ ss, alice.getSharedSecret = .ok ss ∧ bob.getSharedSecret = .ok ss
  chain : ∃ chain, alice.chain = some chain ∧ bob.chain = some chain
  antiReplayAttack : alice.antiReplayAttack = .default ∧ bob.antiReplayAttack = .default
  symmetric : alice.params.encryptionAlgorithm ≠ .kyber →
    alice.view.Channel bob.view ∧ bob.view.Channel alice.view ∧
      PostQuantumContainer.KeyExchangePair alice.view bob.view ∧
      alice.view.Seals alice.params.encryptionAlgorithm.nonceLen ∧
      bob.view.Seals alice.params.encryptionAlgorithm.nonceLen
  kyber : alice.params.encryptionAlgorithm = .kyber → ∃ aliceModule bobModule,
    alice.keyStore = some ⟨some (aliceModule.toAeadModule prims.toKyberPrimitives), none⟩ ∧
      bob.keyStore = some ⟨none, some (bobModule.toAeadModule prims.toKyberPrimitives)⟩ ∧
      KyberModule.Paired prims.toKyberPrimitives aliceModule bobModule ∧
      KyberModule.Paired prims.toKyberPrimitives bobModule aliceModule

theorem exchange_of_none (hsound : prims.Sound) {opts : ConstructorOpts}
    (hvalid : validateCryptoParams (opts.cryptography.getD .default) = .ok ())
    (hnone : (opts.cryptography.getD .default).sigAlgorithm = .none)
    (rngAlice rngBob : Nat → RandomTape) :
    ∃ alice bob, (exchange prims opts rngAlice rngBob).run = some (.ok (alice, bob)) ∧
      Agreed prims alice bob := by
  have hsym : (opts.cryptography.getD .default).encryptionAlgorithm ≠ .kyber := fun hkyber => by
    simp [validateCryptoParams_kyber hvalid hkyber] at hnone
  -- the KEM key pairs drawn, and the secret Bob encapsulates and Alice decapsulates
  obtain ⟨pkA, skA, ct, ss, hkA, hencap, hdecap⟩ :=
    hsound.encapsulate_of_keypair (rngAlice 0) (rngBob 2)
  rcases hkB : prims.kemKeypair (rngBob 0) with ⟨pkB, skB⟩
  obtain ⟨chain, hkeys⟩ := recursiveKeys_isOk prims ss opts.chain
  -- a symmetric algorithm builds both stores from the keys alone
  obtain ⟨storeA, hstoreA⟩ := keysToAeadStore_isSome prims chain.alice chain.bob
    { remotePublicKey := some pkB, secretKey := some skA, publicKey := pkA, ciphertext := some ct
      sharedSecret := some ss, kemAlg := (opts.cryptography.getD .default).kemAlgorithm }
    (opts.cryptography.getD .default) none (fun h => absurd h hsym) .alice
  obtain ⟨storeB, hstoreB⟩ := keysToAeadStore_isSome prims chain.alice chain.bob
    { remotePublicKey := some pkA, secretKey := some skB, publicKey := pkB, ciphertext := some ct
      sharedSecret := some ss, kemAlg := (opts.cryptography.getD .default).kemAlgorithm }
    (opts.cryptography.getD .default) none (fun h => absurd h hsym) .bob
  obtain ⟨hsymmetric, hkyber⟩ := keys_of_keysToAeadStore hsound hstoreA hstoreB
    (fun h => absurd h hsym) .default .default
  have halice := (congrArg (fun sigAlg => PostQuantumMeta.newAlice prims
      (opts.cryptography.getD .default).kemAlgorithm sigAlg rngAlice) hnone).trans
    (PostQuantumMeta.newAlice_of_none hkA)
  have hrun := exchange_of_records prims hvalid halice rfl
    (PostQuantumMeta.newBob_of_pureSymmetric hkB hencap) rfl
    (PostQuantumMeta.aliceOnReceiveCiphertext_of_pureSymmetric rfl hdecap) rfl rfl hkeys hstoreA
    hstoreB
  exact ⟨_, _, hrun, rfl, rfl, rfl, hvalid, ⟨ss, rfl, rfl⟩, ⟨chain, rfl, rfl⟩, ⟨rfl, rfl⟩,
    hsymmetric, hkyber⟩

theorem exchange_of_falcon (hsound : prims.Sound) {opts : ConstructorOpts}
    (hvalid : validateCryptoParams (opts.cryptography.getD .default) = .ok ())
    (hfalcon : (opts.cryptography.getD .default).sigAlgorithm = .falcon1024)
    (rngAlice rngBob : Nat → RandomTape) :
    ∃ alice bob, (exchange prims opts rngAlice rngBob).run = some (.ok (alice, bob)) ∧
      Agreed prims alice bob := by
  obtain ⟨pkA, skA, ct, ss, hkA, hencap, hdecap⟩ :=
    hsound.encapsulate_of_keypair (rngAlice 0) (rngBob 2)
  rcases hkB : prims.kemKeypair (rngBob 0) with ⟨pkB, skB⟩
  obtain ⟨spkA, sskA, hsA⟩ := hsound.signatureKeypair_isOk (rngAlice 1)
  obtain ⟨spkB, sskB, hsB⟩ := hsound.signatureKeypair_isOk (rngBob 1)
  -- each side signs what it sends, and the other side verifies it
  obtain ⟨signA, hsignA⟩ := hsound.signatureSign_isOk _ _ _ pkA hsA
  obtain ⟨signB, hsignB⟩ := hsound.signatureSign_isOk _ _ _ ct hsB
  have hverA := hsound.signatureVerify_sign _ _ _ _ _ hsA hsignA
  have hverB := hsound.signatureVerify_sign _ _ _ _ _ hsB hsignB
  obtain ⟨chain, hkeys⟩ := recursiveKeys_isOk prims ss opts.chain
  obtain ⟨storeA, hstoreA⟩ := keysToAeadStore_isSome prims chain.alice chain.bob
    { remotePublicKey := some pkB, secretKey := some skA, publicKey := pkA, ciphertext := some ct
      sharedSecret := some ss, kemAlg := (opts.cryptography.getD .default).kemAlgorithm }
    (opts.cryptography.getD .default)
    (some { sigPrivateKey := sskA, remoteSigPublicKey := some spkB,
            sigPublicKey := spkA, sigAlg := .falcon1024 })
    (fun _ => rfl) .alice
  obtain ⟨storeB, hstoreB⟩ := keysToAeadStore_isSome prims chain.alice chain.bob
    { remotePublicKey := some pkA, secretKey := some skB, publicKey := pkB, ciphertext := some ct
      sharedSecret := some ss, kemAlg := (opts.cryptography.getD .default).kemAlgorithm }
    (opts.cryptography.getD .default)
    (some { sigPrivateKey := sskB, remoteSigPublicKey := some spkA,
            sigPublicKey := spkB, sigAlg := .falcon1024 })
    (fun _ => rfl) .bob
  -- under Kyber the two modules are paired both ways by the key pairs each side drew
  obtain ⟨hsymmetric, hkyber⟩ := keys_of_keysToAeadStore hsound hstoreA hstoreB
    (fun _ sA sB hA hB => by
      cases hA; cases hB
      exact ⟨KyberModule.paired_of_keypairs hsound hkB hsA rfl rfl rfl (hsound.aes_opens _),
        KyberModule.paired_of_keypairs hsound hkA hsB rfl rfl rfl (hsound.aes_opens _)⟩)
    .default .default
  have halice := (congrArg (fun sigAlg => PostQuantumMeta.newAlice prims
      (opts.cryptography.getD .default).kemAlgorithm sigAlg rngAlice) hfalcon).trans
    (PostQuantumMeta.newAlice_of_falcon hkA hsA)
  have hrun := exchange_of_records prims hvalid halice
    (PostQuantumMeta.generateAliceToBobTransfer_of_mixedAsymmetric hsignA)
    (PostQuantumMeta.newBob_of_mixedAsymmetric hkB hencap hsB hverA)
    (PostQuantumMeta.generateBobToAliceTransfer_of_mixedAsymmetric rfl hsignB)
    (PostQuantumMeta.aliceOnReceiveCiphertext_of_mixedAsymmetric rfl hverB hdecap) rfl rfl hkeys
    hstoreA hstoreB
  exact ⟨_, _, hrun, rfl, rfl, rfl, hvalid, ⟨ss, rfl, rfl⟩, ⟨chain, rfl, rfl⟩, ⟨rfl, rfl⟩,
    hsymmetric, hkyber⟩

/-- Two containers built from the same valid options agree after one exchange, whatever either
side draws. -/
theorem exchange_agreed (hsound : prims.Sound) {opts : ConstructorOpts}
    (hvalid : validateCryptoParams (opts.cryptography.getD .default) = .ok ())
    (rngAlice rngBob : Nat → RandomTape) :
    ∃ alice bob, (exchange prims opts rngAlice rngBob).run = some (.ok (alice, bob)) ∧
      Agreed prims alice bob := by
  -- a signed and an unsigned exchange part at every step
  cases hsig : (opts.cryptography.getD .default).sigAlgorithm with
  | none => exact exchange_of_none prims hsound hvalid hsig rngAlice rngBob
  | falcon1024 => exact exchange_of_falcon prims hsound hvalid hsig rngAlice rngBob

end PostQuantumContainer.Full

/-- The pass-through primitives, with a KEM whose two keys are one byte and whose shared
secret is fixed, a fixed signing key pair, a zero SHA3-512 digest and zero-tag AEADs. -/
def passThroughKexPrimitives : KexPrimitives :=
  { passThroughPrimitives with
    kemKeypair := fun _ => ([1], [1])
    encapsulate := fun publicKey _ => some (publicKey, [9])
    decapsulate := fun _ _ => .ok [9]
    signatureKeypair := fun _ => .ok ([4], [2])
    sha3512 := fun _ => List.replicate 64 0
    length_sha3512 := fun _ => by simp
    aes256GcmSiv := fun _ => zeroTagAead
    xchacha20Poly1305 := fun _ => zeroTagAead }

theorem passThroughKexPrimitives_sound : passThroughKexPrimitives.Sound where
  decapsulate_encapsulate := by
    intro tape tape' publicKey secretKey ciphertext ss _ hencap
    simp only [passThroughKexPrimitives, Option.some.injEq, Prod.mk.injEq] at hencap
    rw [← hencap.2]
    rfl
  encapsulate_isSome _ _ := rfl
  signatureKeypair_isOk _ := ⟨_, _, rfl⟩
  signatureSign_isOk _ _ _ _ _ := ⟨_, rfl⟩
  signatureVerify_sign _ _ _ _ _ _ _ := rfl
  pkeDecrypt_pkeEncrypt := by
    intro tape publicKey secretKey plaintext nonce ciphertext _ hpke
    simp only [passThroughKexPrimitives, passThroughPrimitives, Option.some.injEq] at hpke
    simp [passThroughKexPrimitives, passThroughPrimitives, hpke]
  aes_opens _ := zeroTagAead_opens
  xchacha_opens _ := zeroTagAead_opens
  aes_sealsShort _ _ _ _ _ _ _ := ⟨_, rfl⟩
  xchacha_sealsShort _ _ _ _ _ _ _ := ⟨_, rfl⟩

/-- A Kyber exchange signed with Falcon, every draw all zeros. -/
theorem exchange_agreed_of_kyber :
    validateCryptoParams ⟨.kyber, .kyber, .falcon1024⟩ = .ok () ∧
      ∃ alice bob, (PostQuantumContainer.Full.exchange passThroughKexPrimitives
          (.newInit (some ⟨.kyber, .kyber, .falcon1024⟩)) (fun _ _ => 0) (fun _ _ => 0)).run =
          some (.ok (alice, bob)) ∧ PostQuantumContainer.Full.Agreed passThroughKexPrimitives alice bob :=
  ⟨rfl, PostQuantumContainer.Full.exchange_agreed passThroughKexPrimitives
    passThroughKexPrimitives_sound rfl _ _⟩

end CitadelProtocol.Pqcrypto
