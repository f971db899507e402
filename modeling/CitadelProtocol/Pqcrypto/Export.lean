import Mathlib.Data.Nat.Digits.Lemmas
import Mathlib.Logic.Encodable.Basic
import Mathlib.Tactic.DeriveEncodable
import CitadelProtocol.Pqcrypto.KeyExchange
import CitadelProtocol.Proto.MessagePacket

/-!
# Saving and loading a key store

`export.rs`: a `KeyStore` is written as its `KeyStoreIntermediate` (both keys, the KEM and
signature state, the side and the parameters) and read back by rebuilding its modules with
`keys_to_aead_store` under the side written. The reader stamps every store it builds as Alice's.
Bincode writes the intermediate form and reads it back; its codec is a parameter, and the results
assume only that it reads back what it writes.

A store written from its own keys reads back as itself but for that stamp. Under a symmetric
algorithm the modules do not depend on the side, and so do not change however often the store
is saved and loaded; nor do Alice's. Under Kyber a store holds one module, on its own side: the
second load of Bob's store rebuilds it as Alice's, and his container is left without the module
it protects and validates packets with.
-/

namespace CitadelProtocol.Pqcrypto

/-- `KeyStore`, whole: the two modules packet protection reads, and the keys, the KEM and
signature state, the side and the parameters they are built from. -/
structure KeyStore.Full where
  modules : KeyStore
  aliceKey : List UInt8
  bobKey : List UInt8
  kex : PostQuantumMetaKex.Full
  sig : Option PostQuantumMetaSig.Full
  pqNode : PQNode
  params : CryptoParameters

/-- `KeyStoreIntermediate`: what the serde of a key store writes. -/
structure KeyStoreIntermediate where
  aliceKey : List UInt8
  bobKey : List UInt8
  kex : PostQuantumMetaKex.Full
  sig : Option PostQuantumMetaSig.Full
  pqNode : PQNode
  params : CryptoParameters

namespace KeyStore.Full

variable (prims : KexPrimitives) (codec : Proto.Bincode KeyStoreIntermediate)

/-- The store `generate_recursive_keystore` builds: the modules of `keys_to_aead_store`, with the
keys, state, side and parameters they come from. -/
def generate (aliceKey bobKey : List UInt8) (kex : PostQuantumMetaKex.Full)
    (params : CryptoParameters) (sig : Option PostQuantumMetaSig.Full) (pqNode : PQNode) :
    Option KeyStore.Full :=
  (keysToAeadStore prims aliceKey bobKey kex params sig pqNode).map fun modules =>
    ⟨modules, aliceKey, bobKey, kex, sig, pqNode, params⟩

/-- `impl Serialize for KeyStore`: the intermediate form of the store. -/
def serialize (ks : KeyStore.Full) : KeyStoreIntermediate :=
  ⟨ks.aliceKey, ks.bobKey, ks.kex, ks.sig, ks.pqNode, ks.params⟩

/-- `impl From<KeyStoreIntermediate> for KeyStore`: the modules rebuilt by `keys_to_aead_store`
under the side written, and the side set to Alice. A Kyber store without signing keys panics. -/
def ofIntermediate (int : KeyStoreIntermediate) : Option KeyStore.Full := do
  let modules ← keysToAeadStore prims int.aliceKey int.bobKey int.kex int.params int.sig int.pqNode
  pure ⟨modules, int.aliceKey, int.bobKey, int.kex, int.sig, .alice, int.params⟩

/-- A store saved and loaded: bincode writes its intermediate form and reads it back, and the
store is rebuilt from what was read. `none` where bincode fails or the reader panics. -/
def roundTrip (ks : KeyStore.Full) : Option KeyStore.Full :=
  (codec.deserialize (codec.serialize ks.serialize)).bind (ofIntermediate prims)

/-- A store saved and loaded `n` times, as a session persisted `n` times holds it. -/
def roundTrips : Nat → KeyStore.Full → Option KeyStore.Full
  | 0, ks => some ks
  | n + 1, ks => (roundTrip prims codec ks).bind (roundTrips n)

/-- The modules of a store are those its keys give on its side. -/
def Coherent (ks : KeyStore.Full) : Prop :=
  keysToAeadStore prims ks.aliceKey ks.bobKey ks.kex ks.params ks.sig ks.pqNode = some ks.modules

/-! ## Saving and loading -/

variable {prims} {codec} {aliceKey bobKey : List UInt8} {kex : PostQuantumMetaKex.Full}
  {params : CryptoParameters} {sig : Option PostQuantumMetaSig.Full} {ks : KeyStore.Full}

theorem coherent_of_generate {pqNode : PQNode}
    (h : generate prims aliceKey bobKey kex params sig pqNode = some ks) : Coherent prims ks := by
  simp only [generate, Option.map_eq_some_iff] at h
  obtain ⟨modules, hmodules, rfl⟩ := h
  exact hmodules

/-- A store whose modules are those of its keys loads back as itself, stamped as Alice's. -/
theorem roundTrip_of_coherent (hcodec : codec.ReadsBack) (h : Coherent prims ks) :
    roundTrip prims codec ks = some { ks with pqNode := .alice } := by
  rw [roundTrip, hcodec, Option.bind_some]
  simp only [ofIntermediate, serialize]
  rw [h]
  rfl

/-- Under a symmetric algorithm the modules do not depend on the side. -/
theorem keysToAeadStore_of_ne_kyber (hsym : params.encryptionAlgorithm ≠ .kyber)
    (pqNode pqNode' : PQNode) :
    keysToAeadStore prims aliceKey bobKey kex params sig pqNode =
      keysToAeadStore prims aliceKey bobKey kex params sig pqNode' := by
  cases halg : params.encryptionAlgorithm <;> simp_all [keysToAeadStore]

/-- Under Kyber, with signing keys, a store holds one module, on its own side. -/
theorem keysToAeadStore_kyber (hkyber : params.encryptionAlgorithm = .kyber)
    (s : PostQuantumMetaSig.Full) :
    (∃ m, keysToAeadStore prims aliceKey bobKey kex params (some s) .alice = some ⟨some m, none⟩) ∧
      ∃ m, keysToAeadStore prims aliceKey bobKey kex params (some s) .bob = some ⟨none, some m⟩ := by
  simp [keysToAeadStore, hkyber]

/-- Alice's stores, and all stores under a symmetric algorithm, stay coherent when stamped as
Alice's. -/
theorem coherent_stamp (h : Coherent prims ks)
    (hside : ks.pqNode = .alice ∨ ks.params.encryptionAlgorithm ≠ .kyber) :
    Coherent prims { ks with pqNode := .alice } := by
  rcases hside with hnode | hsym
  · rw [← hnode]
    exact h
  · unfold Coherent at h ⊢
    rw [keysToAeadStore_of_ne_kyber hsym _ ks.pqNode]
    exact h

/-- A store that is Alice's, or under a symmetric algorithm, keeps its modules however often it
is saved and loaded. -/
theorem roundTrips_of_stable (hcodec : codec.ReadsBack) (n : Nat) (h : Coherent prims ks)
    (hside : ks.pqNode = .alice ∨ ks.params.encryptionAlgorithm ≠ .kyber) :
    ∃ ks', roundTrips prims codec n ks = some ks' ∧ ks'.modules = ks.modules := by
  induction n generalizing ks with
  | zero => exact ⟨ks, rfl, rfl⟩
  | succ n ih =>
      -- after one load the store is stamped as Alice's, and stays coherent
      obtain ⟨ks', hrun, hmodules⟩ := ih (coherent_stamp h hside) (.inl rfl)
      refine ⟨ks', ?_, hmodules⟩
      simp only [roundTrips, roundTrip_of_coherent hcodec h, Option.bind_some]
      exact hrun

/-- Under Kyber, a store loaded a second time or more holds a module on Alice's side and none on
Bob's, whichever side it was built for. -/
theorem roundTrips_kyber (hcodec : codec.ReadsBack) (h : Coherent prims ks)
    (hkyber : ks.params.encryptionAlgorithm = .kyber) {n : Nat} (hn : 2 ≤ n) :
    ∃ ks', roundTrips prims codec n ks = some ks' ∧ ks'.modules.bobModule = none ∧
      ks'.modules.aliceModule.isSome := by
  obtain ⟨m, rfl⟩ : ∃ m, n = m + 2 := ⟨n - 2, by omega⟩
  -- a coherent Kyber store has its signing keys
  obtain ⟨s, hs⟩ : ∃ s, ks.sig = some s := by
    cases hsig : ks.sig with
    | none =>
        unfold Coherent at h
        simp [keysToAeadStore, hkyber, hsig] at h
    | some s => exact ⟨s, rfl⟩
  -- the second load rebuilds the store on Alice's side, where it then stays
  obtain ⟨am, hAlice⟩ : ∃ am, keysToAeadStore prims ks.aliceKey ks.bobKey ks.kex ks.params ks.sig
      .alice = some ⟨some am, none⟩ := by
    rw [hs]
    exact (keysToAeadStore_kyber hkyber s).1
  have hsecond : roundTrip prims codec { ks with pqNode := .alice } =
      some { ks with modules := ⟨some am, none⟩, pqNode := .alice } := by
    rw [roundTrip, hcodec, Option.bind_some]
    simp only [ofIntermediate, serialize]
    rw [hAlice]
    rfl
  have hcoherent : Coherent prims { ks with modules := ⟨some am, none⟩, pqNode := .alice } := hAlice
  obtain ⟨ks', hrun, hmodules⟩ := roundTrips_of_stable hcodec m hcoherent (.inl rfl)
  refine ⟨ks', ?_, by rw [hmodules], by rw [hmodules]; rfl⟩
  simp only [roundTrips, roundTrip_of_coherent hcodec h, Option.bind_some, hsecond]
  exact hrun

end KeyStore.Full

/-! ## A container without its module -/

namespace PostQuantumContainer

variable {c : PostQuantumContainer}

/-- A container without an encryption key protects no packet at least `header_len` long. -/
theorem protectPacketInPlace_of_getEncryptionKey_none (hkey : c.getEncryptionKey = none)
    (tape : RandomTape) {headerLen : Nat} {fullPacket : List UInt8}
    (hlong : headerLen ≤ fullPacket.length) (nonce : List UInt8) :
    (c.protectPacketInPlace tape headerLen fullPacket nonce).2.run =
      some (.error .sharedSecretNotLoaded) := by
  simp [protectPacketInPlace, hkey, Nat.not_lt.mpr hlong]

/-- A container without a decryption key validates no packet. -/
theorem validatePacketInPlace_of_getDecryptionKey_none (hkey : c.getDecryptionKey = none)
    (header payload nonce : List UInt8) :
    (c.validatePacketInPlace header payload nonce).run = some (.error .sharedSecretNotLoaded) := by
  simp [validatePacketInPlace, hkey]

/-- A Kyber container on Bob's side whose store holds no module of his has neither key. -/
theorem keys_of_bobModule_none {modules : KeyStore} (hnode : c.node = .bob)
    (hkyber : c.encryptionAlgorithm = .kyber) (hstore : c.keyStore = some modules)
    (hbob : modules.bobModule = none) :
    c.getEncryptionKey = none ∧ c.getDecryptionKey = none := by
  have hencrypt : c.getEncryptionKey = none := by
    simp [getEncryptionKey, hnode, hstore, hbob]
  exact ⟨hencrypt, by simp [getDecryptionKey, hkyber, hencrypt]⟩

end PostQuantumContainer

/-! ## A byte codec

Every type of the intermediate form is encodable, and an encodable type has a codec that reads
back what it writes: the base-256 digits of the value's code. -/

instance encodableUInt8 : Encodable UInt8 :=
  Encodable.ofEquiv (Fin 256) ⟨UInt8.toFin, UInt8.ofFin, fun _ => rfl, fun _ => rfl⟩

deriving instance Encodable for Crypt.EncryptionAlgorithm, KemAlgorithm, Crypt.SigAlgorithm,
  PQNode, CryptoParameters, PostQuantumMetaKex, PostQuantumMetaKex.Full, PostQuantumMetaSig,
  PostQuantumMetaSig.Full, KeyStoreIntermediate

/-- The codec of an encodable type: the base-256 digits of the value's code, one per byte. -/
def bincodeOfEncodable (α : Type) [Encodable α] : Proto.Bincode α where
  serialize x := (Nat.digits 256 (Encodable.encode x)).map UInt8.ofNat
  deserialize bytes := Encodable.decode (Nat.ofDigits 256 (bytes.map UInt8.toNat))

theorem readsBack_bincodeOfEncodable (α : Type) [Encodable α] :
    (bincodeOfEncodable α).ReadsBack := by
  intro x
  -- every base-256 digit fits a byte
  have hdigits : ((Nat.digits 256 (Encodable.encode x)).map UInt8.ofNat).map UInt8.toNat =
      Nat.digits 256 (Encodable.encode x) := by
    rw [List.map_map]
    conv_rhs => rw [← List.map_id (Nat.digits 256 (Encodable.encode x))]
    refine List.map_congr_left fun d hd => ?_
    have hlt : d < 256 := Nat.digits_lt_base (by norm_num) hd
    simp [Nat.mod_eq_of_lt hlt]
  simp only [bincodeOfEncodable, hdigits, Nat.ofDigits_digits, Encodable.encodek]

namespace KeyStore.Full

variable {prims : KexPrimitives} {codec : Proto.Bincode KeyStoreIntermediate}
  {params : CryptoParameters}

/-- Bob's Kyber key store does not survive being saved and loaded twice, whatever codec bincode
is, as long as it reads back what it writes. Generated for him from any keys, with signing keys,
it holds his module; loaded a second time or more it holds none, and a Kyber container on his
side that holds it protects no packet at least `header_len` long (a shorter one panics) and
validates none. -/
theorem bob_kyber_keyStore_lost_on_second_load (hcodec : codec.ReadsBack)
    (hkyber : params.encryptionAlgorithm = .kyber)
    (aliceKey bobKey : List UInt8) (kex : PostQuantumMetaKex.Full) (s : PostQuantumMetaSig.Full)
    {n : Nat} (hn : 2 ≤ n) :
    ∃ ks, generate prims aliceKey bobKey kex params (some s) .bob = some ks ∧
      ks.modules.bobModule.isSome ∧
      ∃ ks', roundTrips prims codec n ks = some ks' ∧
        ∀ c : PostQuantumContainer, c.node = .bob → c.encryptionAlgorithm = .kyber →
          c.keyStore = some ks'.modules →
          (∀ tape headerLen packet nonce, headerLen ≤ packet.length →
            (c.protectPacketInPlace tape headerLen packet nonce).2.run =
              some (.error .sharedSecretNotLoaded)) ∧
          ∀ header payload nonce, (c.validatePacketInPlace header payload nonce).run =
            some (.error .sharedSecretNotLoaded) := by
  obtain ⟨m, hBob⟩ : ∃ m, keysToAeadStore prims aliceKey bobKey kex params (some s) .bob =
      some ⟨none, some m⟩ :=
    (keysToAeadStore_kyber hkyber s).2
  have hgenerate : generate prims aliceKey bobKey kex params (some s) .bob =
      some ⟨⟨none, some m⟩, aliceKey, bobKey, kex, some s, .bob, params⟩ := by
    simp [generate, hBob]
  obtain ⟨ks', hrun, hbobNone, -⟩ :=
    roundTrips_kyber hcodec (coherent_of_generate hgenerate) hkyber hn
  refine ⟨_, hgenerate, rfl, ks', hrun, fun c hnode hcKyber hstore => ?_⟩
  obtain ⟨hencrypt, hdecrypt⟩ :=
    PostQuantumContainer.keys_of_bobModule_none hnode hcKyber hstore hbobNone
  exact ⟨fun tape headerLen packet nonce hlong =>
      PostQuantumContainer.protectPacketInPlace_of_getEncryptionKey_none hencrypt tape hlong nonce,
    PostQuantumContainer.validatePacketInPlace_of_getDecryptionKey_none hdecrypt⟩

/-- Bob's store of a Kyber exchange signed with Falcon, from empty keys, saved with the codec of
the encodable intermediate form and loaded twice. -/
theorem bob_kyber_keyStore_lost_on_second_load_of_empty_keys :
    (bincodeOfEncodable KeyStoreIntermediate).ReadsBack ∧
      (⟨.kyber, .kyber, .falcon1024⟩ : CryptoParameters).encryptionAlgorithm = .kyber ∧ 2 ≤ 2 ∧
      ∃ ks, generate passThroughKexPrimitives [] [] ⟨⟨none, none⟩, [], none, none, .kyber⟩
          ⟨.kyber, .kyber, .falcon1024⟩ (some ⟨⟨[], none⟩, [], .falcon1024⟩) .bob = some ks ∧
        ks.modules.bobModule.isSome ∧
        ∃ ks', roundTrips passThroughKexPrimitives (bincodeOfEncodable KeyStoreIntermediate) 2 ks =
            some ks' ∧
          ∀ c : PostQuantumContainer, c.node = .bob → c.encryptionAlgorithm = .kyber →
            c.keyStore = some ks'.modules →
            (∀ tape headerLen packet nonce, headerLen ≤ packet.length →
              (c.protectPacketInPlace tape headerLen packet nonce).2.run =
                some (.error .sharedSecretNotLoaded)) ∧
            ∀ header payload nonce, (c.validatePacketInPlace header payload nonce).run =
              some (.error .sharedSecretNotLoaded) :=
  ⟨readsBack_bincodeOfEncodable KeyStoreIntermediate, rfl, le_refl 2,
    bob_kyber_keyStore_lost_on_second_load (readsBack_bincodeOfEncodable KeyStoreIntermediate) rfl
      [] [] _ _ (le_refl 2)⟩

end KeyStore.Full

end CitadelProtocol.Pqcrypto
