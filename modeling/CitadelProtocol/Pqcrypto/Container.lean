import CitadelProtocol.Crypt.CryptSplitter
import CitadelProtocol.Pqcrypto.Encryption
import CitadelProtocol.Pqcrypto.ReplayAttackContainer

/-! # Packet protection by a post-quantum container

`PostQuantumContainer::protect_packet_in_place` keeps the first `header_len` bytes of a packet,
appends the next PID of the anti-replay counter to the rest, and encrypts that in place with the
header as associated data. `validate_packet_in_place` decrypts a payload under its header, reads
the PID in its last eight bytes, admits it or not, and strips it.

Which AEAD module each side takes depends on the algorithm. Under a symmetric algorithm Alice
encrypts with `alice_module` and Bob decrypts with his copy of it. Under Kyber each side encrypts
and decrypts with its own module, Alice's sealing to the public key Bob's module holds the secret
of. `KeyExchangePair` states what the key exchange leaves in the two containers, and
`KeyExchangePair.keys` shows that either way Bob's decryption key opens what Alice's encryption
key seals.

The counter is an atomic and the history sits behind a mutex, in a container shared by
reference; here the container is passed along. `InPlaceBuffer` is a window over the whole
payload, so encrypting through it is encrypting the payload.
-/

namespace CitadelProtocol.Pqcrypto

open Bytes Outcome MachineInt

/-- `opener` decrypts what `sealer` encrypts, under every nonce and associated data. -/
def AeadModule.Decrypts (sealer opener : AeadModule) : Prop :=
  ∀ tape nonce ad plain sealed,
    (sealer.encryptInPlace tape nonce ad plain).run = some (.ok sealed) →
      (opener.decryptInPlace nonce ad sealed).run = some (.ok plain)

theorem AeadModule.Opens.decrypts {sealer opener : AeadModule} (hopens : sealer.Opens opener) :
    sealer.Decrypts opener :=
  hopens.decrypt_encrypt

/-- `PQNode`. -/
inductive PQNode
  | alice
  | bob
  deriving DecidableEq, Repr

/-- The two AEAD modules of a `KeyStore`, set up by the key exchange. -/
structure KeyStore where
  aliceModule : Option AeadModule
  bobModule : Option AeadModule

/-- `PostQuantumContainer`: the side it was built for, the encryption algorithm of its
parameters, its keys once the exchange is done, and its anti-replay container. -/
structure PostQuantumContainer where
  node : PQNode
  encryptionAlgorithm : Crypt.EncryptionAlgorithm
  keyStore : Option KeyStore
  antiReplayAttack : AntiReplayAttackContainer

namespace PostQuantumContainer

/-- `get_encryption_key`: the module of the container's own side. -/
def getEncryptionKey (c : PostQuantumContainer) : Option AeadModule :=
  match c.node with
  | .alice => c.keyStore.bind KeyStore.aliceModule
  | .bob => c.keyStore.bind KeyStore.bobModule

/-- `get_decryption_key`: under Kyber the container's own module, under a symmetric algorithm
the other side's. -/
def getDecryptionKey (c : PostQuantumContainer) : Option AeadModule :=
  if c.encryptionAlgorithm = .kyber then c.getEncryptionKey
  else
    match c.node with
    | .alice => c.keyStore.bind KeyStore.bobModule
    | .bob => c.keyStore.bind KeyStore.aliceModule

/-- `protect_packet_in_place`, with the random bytes the AEAD draws. `split_off` panics when the
packet is shorter than `header_len`, before anything else. Otherwise the PID is drawn before
anything can fail, so the counter advances whatever the outcome, and an error of the AEAD
becomes `EncryptionFailure`. -/
def protectPacketInPlace (c : PostQuantumContainer) (tape : RandomTape) (headerLen : Nat)
    (fullPacket nonce : List UInt8) : PostQuantumContainer × ExceptT PqError Option (List UInt8) :=
  if fullPacket.length < headerLen then (c, abort)
  else
    let payload := fullPacket.drop headerLen
    let header := fullPacket.take headerLen
    let drawn := c.antiReplayAttack.getNextPid
    let payload := payload ++ toBytesBE 8 drawn.1.toNat
    ({ c with antiReplayAttack := drawn.2 },
      match c.getEncryptionKey with
      | some aesGcmKey => do
          let ad ← sliceTo header headerLen
          let payload ← ExceptT.adapt (fun _ => PqError.encryptionFailure)
            (aesGcmKey.encryptInPlace tape nonce ad payload)
          pure (header ++ payload)
      | none => throw .sharedSecretNotLoaded)

/-- `validate_packet_in_place`: decrypt the payload under the header, then admit and strip the
PID in its last eight bytes. Only an admitted PID changes the container, which is returned with
the payload. An error of the AEAD is passed on as it is. -/
def validatePacketInPlace (c : PostQuantumContainer) (header payload nonce : List UInt8) :
    ExceptT PqError Option (List UInt8 × PostQuantumContainer) :=
  match c.getDecryptionKey with
  | some aesGcmKey => do
      let payload ← aesGcmKey.decryptInPlace nonce header payload
      let endIdx := payload.length
      let startIdx := endIdx - 8
      if endIdx - startIdx = 8 then
        let received :=
          c.antiReplayAttack.onPidReceived (UInt64.ofNat (fromBytesBE (payload.drop startIdx)))
        if received.1 then
          pure (payload.take startIdx, { c with antiReplayAttack := received.2 })
        else throw (.generic "Anti-replay-attack: invalid")
      else throw (.generic "Anti-replay-attack: Invalid inscription length")
  | none => throw .sharedSecretNotLoaded

/-! ## One layer -/

/-- Spec of `protect_packet_in_place` when it succeeds: the header, then what the encryption
key made of the payload and the PID. -/
theorem protectPacketInPlace_eq_ok {c : PostQuantumContainer} {tape : RandomTape}
    {headerLen : Nat} {fullPacket nonce out : List UInt8}
    (hprotect : (c.protectPacketInPlace tape headerLen fullPacket nonce).2.run = some (.ok out)) :
    ∃ sealer sealed, headerLen ≤ fullPacket.length ∧ c.getEncryptionKey = some sealer ∧
      (sealer.encryptInPlace tape nonce (fullPacket.take headerLen)
        (fullPacket.drop headerLen ++ toBytesBE 8 c.antiReplayAttack.counterOut.toNat)).run =
          some (.ok sealed) ∧
      out = fullPacket.take headerLen ++ sealed := by
  -- a packet shorter than the header panics at `split_off`
  have hlong : headerLen ≤ fullPacket.length := by
    by_contra hshort
    simp [protectPacketInPlace, Nat.lt_of_not_le hshort] at hprotect
  simp only [protectPacketInPlace, Nat.not_lt.mpr hlong, if_false,
    AntiReplayAttackContainer.getNextPid] at hprotect
  cases hkey : c.getEncryptionKey with
  | none => simp [hkey] at hprotect
  | some sealer =>
      simp only [hkey, Outcome.run_bind_eq_ok, KyberModule.run_sliceTo_eq_ok, Outcome.run_adapt_eq_ok,
        Outcome.run_pure, Option.some.injEq, Except.ok.injEq] at hprotect
      obtain ⟨ad, ⟨-, rfl⟩, sealed, hseal, rfl⟩ := hprotect
      rw [List.take_take, Nat.min_self] at hseal
      exact ⟨sealer, sealed, hlong, rfl, hseal, rfl⟩

/-- The PID written by `put_u64` reads back as itself. -/
theorem ofNat_fromBytesBE_toBytesBE (pid : UInt64) :
    UInt64.ofNat (fromBytesBE (toBytesBE 8 pid.toNat)) = pid := by
  rw [fromBytesBE_toBytesBE, Nat.mod_eq_of_lt (by simpa using pid.toNat_lt), UInt64.ofNat_toNat]

/-- Spec of `validate_packet_in_place` on a payload that the decryption key opens to a plaintext
and a PID that the container admits: the plaintext, and the container after the PID. -/
theorem validatePacketInPlace_of_decrypt {c : PostQuantumContainer} {opener : AeadModule}
    {header payload nonce plain : List UInt8} {pid : UInt64}
    (hkey : c.getDecryptionKey = some opener)
    (hdecrypt : (opener.decryptInPlace nonce header payload).run =
      some (.ok (plain ++ toBytesBE 8 pid.toNat)))
    (haccepted : (c.antiReplayAttack.onPidReceived pid).1 = true) :
    (c.validatePacketInPlace header payload nonce).run =
      some (.ok (plain, { c with antiReplayAttack := (c.antiReplayAttack.onPidReceived pid).2 })) := by
  have hlen : (plain ++ toBytesBE 8 pid.toNat).length = plain.length + 8 := by simp
  simp only [validatePacketInPlace, hkey, Outcome.eq_pure_of_run hdecrypt, pure_bind, hlen,
    Nat.add_sub_cancel, Nat.add_sub_cancel_left, List.drop_left, List.take_left, ofNat_fromBytesBE_toBytesBE, haccepted,
    if_true, Outcome.run_pure]

/-- What the key exchange leaves in the two containers for packets from `alice` to `bob`: the
sides and the algorithm agree, and the module Bob decrypts with opens what Alice's seals. Under
a symmetric algorithm both decrypt and encrypt with `alice_module`, built from one shared key.
Under Kyber Bob decrypts with his own `bob_module`, which holds the secret key Alice's module
encrypts to. -/
structure KeyExchangePair (alice bob : PostQuantumContainer) : Prop where
  alice_node : alice.node = .alice
  bob_node : bob.node = .bob
  algorithm : alice.encryptionAlgorithm = bob.encryptionAlgorithm
  symmetric : alice.encryptionAlgorithm ≠ .kyber → ∃ sealer opener,
    alice.keyStore.bind KeyStore.aliceModule = some sealer ∧
      bob.keyStore.bind KeyStore.aliceModule = some opener ∧ sealer.Decrypts opener
  kyber : alice.encryptionAlgorithm = .kyber → ∃ sealer opener,
    alice.keyStore.bind KeyStore.aliceModule = some sealer ∧
      bob.keyStore.bind KeyStore.bobModule = some opener ∧ sealer.Decrypts opener

/-- Alice's encryption key and Bob's decryption key are a sealer and its opener, under either
kind of algorithm. -/
theorem KeyExchangePair.keys {alice bob : PostQuantumContainer} (hpair : KeyExchangePair alice bob) :
    ∃ sealer opener, alice.getEncryptionKey = some sealer ∧ bob.getDecryptionKey = some opener ∧
      sealer.Decrypts opener := by
  by_cases hkyber : alice.encryptionAlgorithm = .kyber
  · -- Bob decrypts with his own encryption key
    obtain ⟨sealer, opener, hsealer, hopener, hdecrypts⟩ := hpair.kyber hkyber
    have hbob : bob.encryptionAlgorithm = .kyber := hpair.algorithm ▸ hkyber
    refine ⟨sealer, opener, ?_, ?_, hdecrypts⟩
    · simp only [getEncryptionKey, hpair.alice_node, hsealer]
    · simp only [getDecryptionKey, hbob, if_true, getEncryptionKey, hpair.bob_node, hopener]
  · -- Bob decrypts with his copy of Alice's key
    obtain ⟨sealer, opener, hsealer, hopener, hdecrypts⟩ := hpair.symmetric hkyber
    have hbob : bob.encryptionAlgorithm ≠ .kyber := hpair.algorithm ▸ hkyber
    refine ⟨sealer, opener, ?_, ?_, hdecrypts⟩
    · simp only [getEncryptionKey, hpair.alice_node, hsealer]
    · simp only [getDecryptionKey, hbob, if_false, hpair.bob_node, hopener]

/-- One layer of the round trip. Alice's protected packet begins with the header, and Bob,
given the header and the rest, gets the payload back, as long as his container has not received
Alice's PID since it was created or reset. His history is then that of a fresh container after
the PIDs before and Alice's. -/
theorem validatePacketInPlace_protectPacketInPlace {alice bob : PostQuantumContainer}
    (hpair : KeyExchangePair alice bob) {seen : List UInt64}
    (hhistory : bob.antiReplayAttack.history =
      (AntiReplayAttackContainer.default.onPidsReceived seen).2.history)
    (hfresh : alice.antiReplayAttack.counterOut ∉ seen) {tape : RandomTape} {headerLen : Nat}
    {packet nonce out : List UInt8}
    (hprotect : (alice.protectPacketInPlace tape headerLen packet nonce).2.run = some (.ok out)) :
    out.take headerLen = packet.take headerLen ∧
      ∃ bob', (bob.validatePacketInPlace (out.take headerLen) (out.drop headerLen) nonce).run =
          some (.ok (packet.drop headerLen, bob')) ∧
        bob'.antiReplayAttack.history = (AntiReplayAttackContainer.default.onPidsReceived
          (seen ++ [alice.antiReplayAttack.counterOut])).2.history := by
  obtain ⟨sealer, sealed, hlen, hsealer, hseal, rfl⟩ := protectPacketInPlace_eq_ok hprotect
  obtain ⟨sealer', opener, hsealer', hopener, hdecrypts⟩ := hpair.keys
  obtain rfl : sealer' = sealer := Option.some.inj (hsealer'.symm.trans hsealer)
  obtain ⟨haccepted, hafter⟩ := AntiReplayAttackContainer.onPidReceived_of_history hhistory hfresh
  -- the header is what Alice kept, so Bob decrypts under the associated data she encrypted under
  have hheaderLen : (packet.take headerLen).length = headerLen := by
    rw [List.length_take]
    omega
  rw [List.take_left' hheaderLen, List.drop_left' hheaderLen]
  exact ⟨rfl, _, validatePacketInPlace_of_decrypt hopener (hdecrypts _ _ _ _ _ hseal) haccepted,
    hafter⟩

end PostQuantumContainer

end CitadelProtocol.Pqcrypto
