import CitadelProtocol.Pqcrypto.KeyExchange
import CitadelProtocol.Crypt.StackedRatchet
import CitadelProtocol.Crypt.Toolset
import CitadelProtocol.Lib.Collect

/-! # Building a stacked ratchet by key exchange

`StackedRatchetConstructor` runs one key exchange for each message layer of a ratchet and one
for its scramble layer. Alice's constructor creates a container for each of the options it is
given and sends the public keys (`stage0_alice`). Bob's constructor creates his containers from
them, each with a fresh drill, and sends back the ciphertexts and his drills, each encrypted by
its layer's container (`stage0_bob`). Alice decapsulates, decrypts the drills and checks that
they carry one version and CID (`stage1_alice`). Each side then turns its constructor into a
`StackedRatchet` (`finish`), which checks that every layer has its secret and a drill of the
scramble drill's version and CID.

The register, connect and rekey paths of the protocol run these steps in this order, as the
crate's tests do (`keyExchange`); a rekey takes the options of the next exchange from the
current ratchet (`get_next_constructor_opts`), whose chains seed the next key schedule.

A function of the source that returns an `Option` and may panic returns an
`ExceptT Unit Option`: `throw ()` is its `None`. Each draw of the thread RNG is a tape of its
own (`ConstructorDraws`). The thin ratchet of FCM is in `Crypt/ThinRatchet`.
-/

namespace CitadelProtocol.Crypt

open Bytes Outcome Pqcrypto

/-- The functions of other crates the constructor calls beside those of the containers: the
shuffle of the port lists, and bincode writing and reading a drill. -/
structure RatchetPrimitives extends KexPrimitives where
  shuffle : RandomTape → List Nat → List Nat
  length_shuffle : ∀ tape ports, (shuffle tape ports).length = ports.length
  serializeDrill : EntropyBank → Except String (List UInt8)
  deserializeDrill : List UInt8 → Except String EntropyBank

/-- The draws of the thread RNG while one side builds its ratchet, each a tape of its own: the
container, drill and drill encryption of every message layer and of the scramble layer, and the
two nonces. -/
structure ConstructorDraws where
  layer : Nat → Nat → RandomTape
  drill : Nat → Nat → RandomTape
  encrypt : Nat → RandomTape
  scramble : Nat → RandomTape
  scrambleDrill : Nat → RandomTape
  encryptScramble : RandomTape
  nonceMessage : RandomTape
  nonceScramble : RandomTape

section Drill

variable (prims : RatchetPrimitives)

/-- `create_port_mapping`: the ports `0, …, 13`, shuffled twice and paired up. -/
def createPortMapping (rng : Nat → RandomTape) : List (UInt16 × UInt16) :=
  let inputPorts := prims.shuffle (rng 0) (List.range portRange)
  let outputPorts := prims.shuffle (rng 1) (List.range portRange)
  List.zip (inputPorts.map Nat.toUInt16) (outputPorts.map Nat.toUInt16)

theorem length_createPortMapping (rng : Nat → RandomTape) :
    (createPortMapping prims rng).length = portRange := by
  simp [createPortMapping, prims.length_shuffle]

theorem createPortMapping_ne_nil (rng : Nat → RandomTape) : createPortMapping prims rng ≠ [] :=
  List.ne_nil_of_length_pos (by rw [length_createPortMapping]; decide)

/-- `EntropyBank::new`: a drill of the CID and version with fresh port mappings. The drill's
entropy and algorithm are not modelled. -/
def EntropyBank.new (cid : UInt64) (version : UInt32) (rng : Nat → RandomTape) : EntropyBank :=
  ⟨cid, version, createPortMapping prims rng, createPortMapping_ne_nil prims rng⟩

/-- `EntropyBank::generate_public_nonce`: `nonce_len` bytes of the thread RNG. -/
def EntropyBank.generatePublicNonce (encryptionAlgorithm : EncryptionAlgorithm)
    (tape : RandomTape) : List UInt8 :=
  tape.take 0 encryptionAlgorithm.nonceLen

end Drill

/-- `SecurityLevel::for_value`: the level of a byte, for a value that fits one. -/
def SecurityLevel.forValue (val : Nat) : Option SecurityLevel :=
  if val < 256 then some (SecurityLevel.from val.toUInt8) else none

/-! ## The constructor and its transfers -/

/-- `MessageRatchetConstructorInner`: a layer's container, and its drill once Bob made it or
Alice received it. `ScrambleRatchetConstructor` has the same two fields. -/
structure MessageRatchetConstructorInner where
  drill : Option EntropyBank
  pqc : PostQuantumContainer.Full

/-- `StackedRatchetConstructor`. -/
structure StackedRatchetConstructor where
  message : List MessageRatchetConstructorInner
  scramble : MessageRatchetConstructorInner
  nonceMessage : List UInt8
  nonceScramble : List UInt8
  cid : UInt64
  newVersion : UInt32
  securityLevel : SecurityLevel
  params : CryptoParameters

/-- `AliceToBobTransfer`. -/
structure AliceToBobTransfer where
  params : CryptoParameters
  paramsTxs : List AliceToBobTransferParameters
  scrambleAliceParams : AliceToBobTransferParameters
  scrambleNonce : List UInt8
  msgNonce : List UInt8
  securityLevel : SecurityLevel
  cid : UInt64
  newVersion : UInt32

/-- `FcmAliceToBobTransfer`: the thin ratchet's transfer, with the version and CID Alice
declares. -/
structure FcmAliceToBobTransfer where
  transferParams : AliceToBobTransferParameters
  params : CryptoParameters
  nonce : List UInt8
  cid : UInt64
  version : UInt32

/-- `AliceToBobTransferType`. -/
inductive AliceToBobTransferType
  | default (transfer : AliceToBobTransfer)
  | fcm (transfer : FcmAliceToBobTransfer)

/-- `AliceToBobTransferType::get_declared_new_version`. -/
def AliceToBobTransferType.getDeclaredNewVersion : AliceToBobTransferType → UInt32
  | .default transfer => transfer.newVersion
  | .fcm transfer => transfer.version

/-- `BobToAliceTransfer`. -/
structure BobToAliceTransfer where
  msgBobParamsTxs : List BobToAliceTransferParameters
  scrambleBobParamsTx : BobToAliceTransferParameters
  encryptedMsgDrills : List (List UInt8)
  encryptedScrambleDrill : List UInt8
  securityLevel : SecurityLevel

/-- `FcmBobToAliceTransfer`: Bob's ciphertext and his drill, sealed. -/
structure FcmBobToAliceTransfer where
  paramsTx : BobToAliceTransferParameters
  encryptedDrillBytes : List UInt8

/-- `BobToAliceTransferType`. -/
inductive BobToAliceTransferType
  | default (transfer : BobToAliceTransfer)
  | fcm (transfer : FcmBobToAliceTransfer)

/-- `CryptError::DrillUpdateError` as the constructor raises it: a container's error, kept
whole where the source formats it, or a text. -/
inductive ConstructorError
  | container (err : PqError)
  | drillUpdateError (message : String)
  deriving DecidableEq, Repr

/-- `MessageRatchetInner`, whole: a layer's drill and its whole container. `ScrambleRatchet`
has the same two fields. -/
structure MessageRatchetInner.Full where
  drill : EntropyBank
  pqc : PostQuantumContainer.Full

/-- `StackedRatchetInner`: the message layers, the scramble layer and the default security
level. -/
structure StackedRatchetInner where
  message : List MessageRatchetInner.Full
  scramble : MessageRatchetInner.Full
  defaultSecurityLevel : SecurityLevel

/-- What packet protection reads of a ratchet. -/
def StackedRatchetInner.view (r : StackedRatchetInner) : StackedRatchet :=
  ⟨r.message.map fun layer => ⟨layer.drill, layer.pqc.view⟩⟩

namespace StackedRatchetConstructor

variable (prims : RatchetPrimitives)

/-! ## Alice's first step -/

/-- A layer of `new_alice`'s `filter_map`: Alice's container for the options, with no drill yet. -/
def newAliceLayer (draws : ConstructorDraws) (layer : ConstructorOpts × Nat) :
    Option MessageRatchetConstructorInner :=
  (PostQuantumContainer.Full.newAlice prims.toKexPrimitives layer.1 (draws.layer layer.2)).toOption.map
    fun pqc => ⟨none, pqc⟩

/-- `StackedRatchetConstructor::new_alice`: a container for each of the options, and one for the
scramble layer under the first options' parameters. An empty list of options panics at its first
element; a container that cannot be built makes the constructor `None`. -/
def newAlice (opts : List ConstructorOpts) (cid : UInt64) (newVersion : UInt32)
    (securityLevel : Option SecurityLevel) (draws : ConstructorDraws) :
    ExceptT Unit Option StackedRatchetConstructor := do
  let securityLevel := securityLevel.getD .standard
  let len := opts.length
  -- `opts[0]`
  let first ← unwrap opts.head?
  let params := first.cryptography.getD .default
  let keys := opts.zipIdx.filterMap (newAliceLayer prims draws)
  if keys.length ≠ len then throw ()
  let scramble ← ofOption (PostQuantumContainer.Full.newAlice prims.toKexPrimitives
    (.newInit (some params)) draws.scramble).toOption ()
  pure { params, message := keys, scramble := ⟨none, scramble⟩
         nonceMessage := EntropyBank.generatePublicNonce params.encryptionAlgorithm draws.nonceMessage
         nonceScramble :=
           EntropyBank.generatePublicNonce params.encryptionAlgorithm draws.nonceScramble
         cid, newVersion, securityLevel }

/-- `StackedRatchetConstructor::stage0_alice`: the public keys of every layer and of the scramble
layer, the nonces, and the constructor's CID, version, parameters and level. -/
def stage0Alice (c : StackedRatchetConstructor) : ExceptT Unit Option AliceToBobTransfer := do
  let pks := c.message.filterMap fun inner =>
    (inner.pqc.generateAliceToBobTransfer prims.toKexPrimitives).toOption
  if pks.length ≠ c.message.length then throw ()
  let scrambleAlicePk ←
    ofOption (c.scramble.pqc.generateAliceToBobTransfer prims.toKexPrimitives).toOption ()
  pure { params := c.params, paramsTxs := pks, scrambleAliceParams := scrambleAlicePk
         msgNonce := c.nonceMessage, scrambleNonce := c.nonceScramble
         securityLevel := c.securityLevel, cid := c.cid, newVersion := c.newVersion }

/-! ## Bob's steps -/

/-- A layer of `new_bob`'s `filter_map`: a fresh drill, and Bob's container for Alice's public
keys, or `None` where it fails; a panic of the container panics. -/
def newBobLayer (cid : UInt64) (newDrillVers : UInt32) (draws : ConstructorDraws)
    (layer : (AliceToBobTransferParameters × ConstructorOpts) × Nat) :
    Option (Option MessageRatchetConstructorInner) :=
  (PostQuantumContainer.Full.newBob prims.toKexPrimitives layer.1.2 layer.1.1
      (draws.layer layer.2)).run.map fun result =>
    result.toOption.map fun pqc =>
      ⟨some (EntropyBank.new prims cid newDrillVers (draws.drill layer.2)), pqc⟩

/-- `StackedRatchetConstructor::new_bob`: a container and a drill for each of Alice's public
keys, as many as her security level has layers, and the same for the scramble layer under her
parameters. -/
def newBob (cid : UInt64) (newDrillVers : UInt32) (opts : List ConstructorOpts)
    (transfer : AliceToBobTransfer) (draws : ConstructorDraws) :
    ExceptT Unit Option StackedRatchetConstructor := do
  let count := transfer.securityLevel.value.toNat + 1
  let params := transfer.params
  let keys ← unwrap ((transfer.paramsTxs.zip opts).zipIdx.filterMapM
    (newBobLayer prims cid newDrillVers draws))
  if keys.length ≠ count then throw ()
  let scramble ← ofOption (← unwrap ((PostQuantumContainer.Full.newBob prims.toKexPrimitives
    (.newInit (some params)) transfer.scrambleAliceParams draws.scramble).run.map
      Except.toOption)) ()
  pure { params, message := keys
         scramble := ⟨some (EntropyBank.new prims cid newDrillVers draws.scrambleDrill), scramble⟩
         nonceMessage := transfer.msgNonce, nonceScramble := transfer.scrambleNonce
         cid, newVersion := newDrillVers, securityLevel := transfer.securityLevel }

/-- A layer's drill written by bincode and encrypted by its container, as `stage0_bob` does
inside its `filter_map`: `None` for a layer without a drill or a step that fails, a panic where
the container panics. -/
def encryptDrill (nonce : List UInt8) (tape : RandomTape) (inner : MessageRatchetConstructorInner) :
    Option (Option (List UInt8)) :=
  match inner.drill with
  | none => some none
  | some drill =>
      match prims.serializeDrill drill with
      | .error _ => some none
      | .ok bytes => (inner.pqc.encrypt tape bytes nonce).run.map Except.toOption

/-- `StackedRatchetConstructor::stage0_bob`: the ciphertexts of every layer and of the scramble
layer, and each layer's drill encrypted under the nonce of its kind. -/
def stage0Bob (c : StackedRatchetConstructor) (draws : ConstructorDraws) :
    ExceptT Unit Option BobToAliceTransfer := do
  let expectedCount := c.message.length
  let msgBobCts := c.message.filterMap fun inner =>
    (inner.pqc.generateBobToAliceTransfer prims.toKexPrimitives).toOption
  if msgBobCts.length ≠ expectedCount then throw ()
  let scrambleBobCt ←
    ofOption (c.scramble.pqc.generateBobToAliceTransfer prims.toKexPrimitives).toOption ()
  let encryptedMsgDrills ← unwrap (c.message.zipIdx.filterMapM fun layer =>
    encryptDrill prims c.nonceMessage (draws.encrypt layer.2) layer.1)
  if encryptedMsgDrills.length ≠ expectedCount then throw ()
  let encryptedScrambleDrill ←
    ofOption (← unwrap (encryptDrill prims c.nonceScramble draws.encryptScramble c.scramble)) ()
  pure { msgBobParamsTxs := msgBobCts, scrambleBobParamsTx := scrambleBobCt, encryptedMsgDrills
         encryptedScrambleDrill, securityLevel := c.securityLevel }

/-! ## Alice's second step -/

/-- `stage1_alice`'s first loop: each of Alice's containers takes Bob's ciphertext for it, as
far as the shorter of the two lists goes. -/
def receiveCiphertexts :
    List MessageRatchetConstructorInner → List BobToAliceTransferParameters →
      ExceptT ConstructorError Option (List MessageRatchetConstructorInner)
  | inner :: inners, bobParamTx :: bobParamTxs => do
      let pqc ← ExceptT.adapt .container
        (inner.pqc.aliceOnReceiveCiphertext prims.toKexPrimitives bobParamTx)
      let inners ← receiveCiphertexts inners bobParamTxs
      pure ({ inner with pqc } :: inners)
  | inners, _ => pure inners

/-- A turn of `stage1_alice`'s second loop: the layer's encrypted drill, opened by its container
and read by bincode. -/
def decryptDrill (nonce : List UInt8) (sealed : Option (List UInt8))
    (inner : MessageRatchetConstructorInner) :
    ExceptT ConstructorError Option MessageRatchetConstructorInner := do
  let sealed ← ofOption sealed (.drillUpdateError "Unable to get encrypted_msg_drills")
  let decrypted ← ExceptT.adapt .container (inner.pqc.decrypt sealed nonce)
  let drill ← ofResult ((prims.deserializeDrill decrypted).mapError .drillUpdateError)
  pure { inner with drill := some drill }

/-- `StackedRatchetConstructor::stage1_alice`: Bob's ciphertexts into Alice's containers, his
drills decrypted into her layers, the same for the scramble layer, and then the check that the
scramble drill and the first message drill have one version and one CID. A constructor with no
message layer panics at the check. -/
def stage1Alice (c : StackedRatchetConstructor) :
    BobToAliceTransferType → ExceptT ConstructorError Option StackedRatchetConstructor
  | .fcm _ => throw (.drillUpdateError "Incompatible Ratchet Type passed! [X-40]")
  | .default transfer => do
      let message ← receiveCiphertexts prims c.message transfer.msgBobParamsTxs
      let message ← message.zipIdx.mapM fun layer =>
        decryptDrill prims c.nonceMessage transfer.encryptedMsgDrills[layer.2]? layer.1
      let scramblePqc ← ExceptT.adapt .container
        (c.scramble.pqc.aliceOnReceiveCiphertext prims.toKexPrimitives transfer.scrambleBobParamsTx)
      let scramble ← decryptDrill prims c.nonceScramble (some transfer.encryptedScrambleDrill)
        { c.scramble with pqc := scramblePqc }
      let c := { c with message, scramble }
      -- the version check reads both drills, the first message layer by index; the CID check
      -- reads them again
      let missing := ConstructorError.drillUpdateError "Unable to get encrypted_msg_drills"
      let scrambleDrill ← ofOption c.scramble.drill missing
      let first ← unwrap c.message.head?
      let messageDrill ← ofOption first.drill missing
      if scrambleDrill.version ≠ messageDrill.version then
        throw (.drillUpdateError "Message drill version != scramble drill version")
      if scrambleDrill.cid ≠ messageDrill.cid then
        throw (.drillUpdateError "Message drill cid != scramble drill cid")
      pure c

/-! ## Finishing -/

/-- A turn of the loop of `TryFrom<StackedRatchetConstructor>`: the layer's secret must be
loaded, and its drill must be there, of the scramble drill's version and CID. -/
def finishLayer (scrambleDrill : EntropyBank) (inner : MessageRatchetConstructorInner) :
    Except Unit MessageRatchetInner.Full := do
  let _ ← inner.pqc.getSharedSecret.mapError fun _ => ()
  let messageDrill ← match inner.drill with
    | some drill => pure drill
    | none => throw ()
  if messageDrill.version ≠ scrambleDrill.version ∨ messageDrill.cid ≠ scrambleDrill.cid then
    throw ()
  pure ⟨messageDrill, inner.pqc⟩

/-- `impl TryFrom<StackedRatchetConstructor> for StackedRatchet`, through `finish`: the default
security level is the level of the index of the last message layer. On a constructor with no
message layer `len - 1` underflows: a debug build panics, and in a release build
`usize::MAX` has no level. -/
def finish (profile : BuildProfile) (c : StackedRatchetConstructor) :
    ExceptT Unit Option StackedRatchetInner := do
  let last ← match c.message.length, profile with
    | n + 1, _ => pure n
    | 0, .debug => abort
    | 0, .release => pure (2 ^ 64 - 1)
  let defaultSecurityLevel ← ofOption (SecurityLevel.forValue last) ()
  let _ ← ofResult (c.scramble.pqc.getSharedSecret.mapError fun _ => ())
  let scrambleDrill ← ofOption c.scramble.drill ()
  let message ← ofResult (c.message.mapM (finishLayer scrambleDrill))
  pure { message, scramble := ⟨scrambleDrill, c.scramble.pqc⟩, defaultSecurityLevel }

/-- `StackedRatchetConstructor::update_version`: every drill stamped with the version; a layer
without a drill makes it `None`. -/
def updateVersion (c : StackedRatchetConstructor) (proposedVersion : UInt32) :
    Option StackedRatchetConstructor := do
  let stamp (inner : MessageRatchetConstructorInner) : Option MessageRatchetConstructorInner :=
    inner.drill.map fun drill => { inner with drill := some { drill with version := proposedVersion } }
  let message ← c.message.mapM stamp
  let scramble ← stamp c.scramble
  pure { c with newVersion := proposedVersion, message, scramble }

/-- `StackedRatchetConstructor::finish_with_custom_cid`: every drill given the CID, then
`finish`. -/
def finishWithCustomCid (profile : BuildProfile) (c : StackedRatchetConstructor) (cid : UInt64) :
    ExceptT Unit Option StackedRatchetInner := do
  let stamp (inner : MessageRatchetConstructorInner) : Option MessageRatchetConstructorInner :=
    inner.drill.map fun drill => { inner with drill := some { drill with cid } }
  let message ← ofOption (c.message.mapM stamp) ()
  let scramble ← ofOption (stamp c.scramble) ()
  finish profile { c with message, scramble }

/-- The key exchange of the protocol's register, connect and rekey paths, as the crate's tests
run it: Alice's constructor and her transfer, Bob's constructor from his options and his
transfer, Alice's second step, and both ratchets. -/
def keyExchange (profile : BuildProfile) (optsAlice optsBob : List ConstructorOpts)
    (cidAlice cidBob : UInt64) (versionAlice versionBob : UInt32)
    (securityLevel : Option SecurityLevel) (drawsAlice drawsBob : ConstructorDraws) :
    ExceptT Unit Option (StackedRatchetInner × StackedRatchetInner) := do
  let alice ← newAlice prims optsAlice cidAlice versionAlice securityLevel drawsAlice
  let transfer ← stage0Alice prims alice
  let bob ← newBob prims cidBob versionBob optsBob transfer drawsBob
  let response ← stage0Bob prims bob drawsBob
  let alice ← ExceptT.adapt (fun _ => ()) (stage1Alice prims alice (.default response))
  let alice ← finish profile alice
  let bob ← finish profile bob
  pure (alice, bob)

end StackedRatchetConstructor

/-- What the constructor assumes of the primitives: those of the exchange, and bincode writes
every drill of `PORT_RANGE` port pairs, in fewer than `2 ^ 32` bytes, and reads it back. -/
structure RatchetPrimitives.Sound (prims : RatchetPrimitives) : Prop
    extends KexPrimitives.Sound prims.toKexPrimitives where
  serializeDrill_isOk : ∀ drill : EntropyBank, drill.scrambleMappings.length = portRange →
    ∃ bytes, prims.serializeDrill drill = .ok bytes
  length_serializeDrill : ∀ drill : EntropyBank, drill.scrambleMappings.length = portRange →
    ∀ bytes, prims.serializeDrill drill = .ok bytes → bytes.length < 2 ^ 32
  deserializeDrill_serializeDrill : ∀ drill : EntropyBank,
    drill.scrambleMappings.length = portRange →
    ∀ bytes, prims.serializeDrill drill = .ok bytes → prims.deserializeDrill bytes = .ok drill

/-- One layer's key exchange inside the constructors': Alice's container before and after Bob's
response, her public keys, Bob's container, drill and response, and the drill as bincode writes
it and as Bob's container seals it. -/
structure LayerRun where
  alice₀ : PostQuantumContainer.Full
  transfer : AliceToBobTransferParameters
  bob : PostQuantumContainer.Full
  response : BobToAliceTransferParameters
  alice : PostQuantumContainer.Full
  drill : EntropyBank
  written : List UInt8
  sealed : List UInt8

variable (prims : RatchetPrimitives)

/-- Two layers of one key exchange: one drill, and containers that agree. -/
structure LayerAgreed (alice bob : MessageRatchetInner.Full) : Prop where
  drill : alice.drill = bob.drill
  pqc : PostQuantumContainer.Full.Agreed prims.toKexPrimitives alice.pqc bob.pqc

/-- Alice's and Bob's ratchets of one key exchange: layer by layer, and in the scramble layer,
they hold one drill and containers that agree, and they have one default security level. -/
structure RatchetsAgreed (alice bob : StackedRatchetInner) : Prop where
  message : List.Forall₂ (LayerAgreed prims) alice.message bob.message
  scramble : LayerAgreed prims alice.scramble bob.scramble
  defaultSecurityLevel : alice.defaultSecurityLevel = bob.defaultSecurityLevel

/-- The steps of a layer's run, from its options, the draws of both sides, Bob's CID and version
and the nonce, and the agreement they end in. -/
structure LayerRun.Steps (opts : ConstructorOpts) (rngAlice rngBob drillRng : Nat → RandomTape)
    (encryptTape : RandomTape) (cid : UInt64) (version : UInt32) (nonce : List UInt8)
    (run : LayerRun) : Prop where
  newAlice : PostQuantumContainer.Full.newAlice prims.toKexPrimitives opts rngAlice = .ok run.alice₀
  transfer : run.alice₀.generateAliceToBobTransfer prims.toKexPrimitives = .ok run.transfer
  newBob : (PostQuantumContainer.Full.newBob prims.toKexPrimitives opts run.transfer rngBob).run =
    some (.ok run.bob)
  drill : run.drill = EntropyBank.new prims cid version drillRng
  response : run.bob.generateBobToAliceTransfer prims.toKexPrimitives = .ok run.response
  receive : (run.alice₀.aliceOnReceiveCiphertext prims.toKexPrimitives run.response).run =
    some (.ok run.alice)
  written : prims.serializeDrill run.drill = .ok run.written
  read : prims.deserializeDrill run.written = .ok run.drill
  sealed : (run.bob.encrypt encryptTape run.written nonce).run = some (.ok run.sealed)
  opened : (run.alice.decrypt run.sealed nonce).run = some (.ok run.written)
  agreed : PostQuantumContainer.Full.Agreed prims.toKexPrimitives run.alice run.bob

variable {prims}

/-- Every layer of valid options under a symmetric algorithm runs to its end, whatever either
side draws. -/
theorem LayerRun.exists_steps (hsound : prims.Sound) {opts : ConstructorOpts}
    (hvalid : validateCryptoParams (opts.cryptography.getD .default) = .ok ())
    (hsym : (opts.cryptography.getD .default).encryptionAlgorithm ≠ .kyber)
    (rngAlice rngBob drillRng : Nat → RandomTape) (encryptTape : RandomTape) (cid : UInt64)
    (version : UInt32) {nonce : List UInt8}
    (hnonce : nonce.length = (opts.cryptography.getD .default).encryptionAlgorithm.nonceLen) :
    ∃ run, LayerRun.Steps prims opts rngAlice rngBob drillRng encryptTape cid version nonce run := by
  -- the exchange of the layer's containers, signed or not
  obtain ⟨alice, bob, hrun, hagreed⟩ : ∃ alice bob,
      (PostQuantumContainer.Full.exchange prims.toKexPrimitives opts rngAlice rngBob).run =
        some (.ok (alice, bob)) ∧ PostQuantumContainer.Full.Agreed prims.toKexPrimitives alice bob := by
    cases hsig : (opts.cryptography.getD .default).sigAlgorithm with
    | none =>
        exact PostQuantumContainer.Full.exchange_of_none _ hsound.toSound hvalid hsig rngAlice rngBob
    | falcon1024 =>
        exact PostQuantumContainer.Full.exchange_of_falcon _ hsound.toSound hvalid hsig rngAlice
          rngBob
  obtain ⟨alice₀, transfer, response, hnew, htransfer, hbob, hresponse, hreceive⟩ :=
    PostQuantumContainer.Full.exchange_steps _ hrun
  -- Bob's drill, written by bincode, sealed by his container and opened by Alice's
  have hparams := PostQuantumContainer.Full.newBob_params _ hbob
  obtain ⟨-, hchannel, -, -, hseals⟩ := hagreed.symmetric (by rw [hagreed.params, hparams]; exact hsym)
  rw [hagreed.params, hparams] at hseals
  have hport := length_createPortMapping prims drillRng
  obtain ⟨written, hwritten⟩ :=
    hsound.serializeDrill_isOk (EntropyBank.new prims cid version drillRng) hport
  have hshort := hsound.length_serializeDrill _ hport _ hwritten
  obtain ⟨sealed, hsealed⟩ :=
    PostQuantumContainer.Full.encrypt_isOk_of_seals hseals encryptTape hnonce hshort
  exact ⟨⟨alice₀, transfer, bob, response, alice, _, written, sealed⟩,
    ⟨hnew, htransfer, hbob, rfl, hresponse, hreceive, hwritten,
      hsound.deserializeDrill_serializeDrill _ hport _ hwritten, hsealed,
      PostQuantumContainer.Full.decrypt_encrypt_of_channel hchannel hsealed,
      hagreed⟩⟩


namespace LayerRun.Steps

variable {opts : ConstructorOpts} {rngAlice rngBob drillRng : Nat → RandomTape}
  {encryptTape : RandomTape} {cid : UInt64} {version : UInt32} {nonce : List UInt8} {run : LayerRun}

/-- Alice's container of a run holds the parameters of its options. -/
theorem alice_params (hsteps : LayerRun.Steps prims opts rngAlice rngBob drillRng encryptTape cid
    version nonce run) : run.alice.params = opts.cryptography.getD .default :=
  hsteps.agreed.params.trans (PostQuantumContainer.Full.newBob_params _ hsteps.newBob)

/-- Under a symmetric algorithm a run's two layers are those of one key exchange. -/
theorem layerPair (hsteps : LayerRun.Steps prims opts rngAlice rngBob drillRng encryptTape cid
      version nonce run)
    (hsym : (opts.cryptography.getD .default).encryptionAlgorithm ≠ .kyber) :
    StackedRatchet.LayerPair ⟨run.drill, run.alice.view⟩ ⟨run.drill, run.bob.view⟩ :=
  ⟨rfl, (hsteps.agreed.symmetric (by rw [hsteps.alice_params]; exact hsym)).2.2.1⟩

/-- Bob's container of a run has received no PID yet. -/
theorem layerFresh (hsteps : LayerRun.Steps prims opts rngAlice rngBob drillRng encryptTape cid
    version nonce run) :
    StackedRatchet.LayerFresh ⟨run.drill, run.alice.view⟩ ⟨run.drill, run.bob.view⟩ := by
  obtain ⟨halice, hbob⟩ := hsteps.agreed.antiReplayAttack
  refine ⟨[], ?_, List.not_mem_nil⟩
  simp only [PostQuantumContainer.Full.view, hbob]
  rfl

end LayerRun.Steps

namespace StackedRatchetConstructor

/-- Alice's constructor, when her container of every layer and of the scramble layer is built. -/
theorem newAlice_eq {opts : List ConstructorOpts} {first : ConstructorOpts}
    (hfirst : opts.head? = some first) {cid : UInt64} {newVersion : UInt32}
    {securityLevel : Option SecurityLevel} {draws : ConstructorDraws}
    {pqcs : List PostQuantumContainer.Full} {scramble : PostQuantumContainer.Full}
    (hlayers : List.Forall₂ (fun layer pqc => PostQuantumContainer.Full.newAlice prims.toKexPrimitives
      layer.1 (draws.layer layer.2) = .ok pqc) opts.zipIdx pqcs)
    (hscramble : PostQuantumContainer.Full.newAlice prims.toKexPrimitives
      (.newInit (some (first.cryptography.getD .default))) draws.scramble = .ok scramble) :
    newAlice prims opts cid newVersion securityLevel draws = pure
      { params := first.cryptography.getD .default, message := pqcs.map fun pqc => ⟨none, pqc⟩
        scramble := ⟨none, scramble⟩
        nonceMessage := EntropyBank.generatePublicNonce
          (first.cryptography.getD .default).encryptionAlgorithm draws.nonceMessage
        nonceScramble := EntropyBank.generatePublicNonce
          (first.cryptography.getD .default).encryptionAlgorithm draws.nonceScramble
        cid, newVersion, securityLevel := securityLevel.getD .standard } := by
  have hkeys : opts.zipIdx.filterMap (newAliceLayer prims draws) =
      pqcs.map fun pqc => ⟨none, pqc⟩ :=
    Collect.filterMap_eq_map_of_forall₂
      (fun layer pqc h => by simp [newAliceLayer, h, Except.toOption]) hlayers
  have hlen : opts.length = pqcs.length := by simpa using hlayers.length_eq
  simp [newAlice, hfirst, hkeys, hlen, hscramble, Except.toOption]

/-- Alice's transfer, when every layer's container and the scramble layer's give their public
keys. -/
theorem stage0Alice_eq {c : StackedRatchetConstructor} {pks : List AliceToBobTransferParameters}
    {scrambleAlicePk : AliceToBobTransferParameters}
    (hpks : List.Forall₂ (fun inner pk => inner.pqc.generateAliceToBobTransfer prims.toKexPrimitives =
      .ok pk) c.message pks)
    (hscramble : c.scramble.pqc.generateAliceToBobTransfer prims.toKexPrimitives =
      .ok scrambleAlicePk) :
    stage0Alice prims c = pure
      { params := c.params, paramsTxs := pks, scrambleAliceParams := scrambleAlicePk
        msgNonce := c.nonceMessage, scrambleNonce := c.nonceScramble
        securityLevel := c.securityLevel, cid := c.cid, newVersion := c.newVersion } := by
  have htxs : c.message.filterMap (fun inner =>
      (inner.pqc.generateAliceToBobTransfer prims.toKexPrimitives).toOption) = pks.map id :=
    Collect.filterMap_eq_map_of_forall₂ (fun inner pk h => by simp [h, Except.toOption]) hpks
  simp only [stage0Alice, htxs, List.map_id, hpks.length_eq, ne_eq, not_true_eq_false, if_false,
    hscramble]
  rfl

/-- Bob's constructor, when his layer of every public key of Alice's is built, as many as her
level has, and his scramble layer too. -/
theorem newBob_eq {cid : UInt64} {newDrillVers : UInt32} {opts : List ConstructorOpts}
    {transfer : AliceToBobTransfer} {draws : ConstructorDraws}
    {keys : List MessageRatchetConstructorInner} {scramble : PostQuantumContainer.Full}
    (hkeys : List.Forall₂ (fun layer inner => newBobLayer prims cid newDrillVers draws layer =
      some (some inner)) ((transfer.paramsTxs.zip opts).zipIdx) keys)
    (hcount : keys.length = transfer.securityLevel.value.toNat + 1)
    (hscramble : (PostQuantumContainer.Full.newBob prims.toKexPrimitives
      (.newInit (some transfer.params)) transfer.scrambleAliceParams draws.scramble).run =
        some (.ok scramble)) :
    newBob prims cid newDrillVers opts transfer draws = pure
      { params := transfer.params, message := keys
        scramble := ⟨some (EntropyBank.new prims cid newDrillVers draws.scrambleDrill), scramble⟩
        nonceMessage := transfer.msgNonce, nonceScramble := transfer.scrambleNonce
        cid, newVersion := newDrillVers, securityLevel := transfer.securityLevel } := by
  have hlayers : (transfer.paramsTxs.zip opts).zipIdx.filterMapM
      (newBobLayer prims cid newDrillVers draws) = some (keys.map id) :=
    Collect.filterMapM_eq_map_of_forall₂ (fun _ _ h => h) hkeys
  simp only [newBob, hlayers, List.map_id, unwrap_some, pure_bind, hcount, ne_eq,
    not_true_eq_false, if_false, hscramble, Option.map_some]
  rfl

/-- Bob's transfer, when every layer's container and the scramble layer's give their
ciphertexts and seal their drills. -/
theorem stage0Bob_eq {c : StackedRatchetConstructor} {draws : ConstructorDraws}
    {cts : List BobToAliceTransferParameters} {scrambleBobCt : BobToAliceTransferParameters}
    {sealeds : List (List UInt8)} {scrambleSealed : List UInt8}
    (hcts : List.Forall₂ (fun inner ct => inner.pqc.generateBobToAliceTransfer prims.toKexPrimitives =
      .ok ct) c.message cts)
    (hscrambleCt : c.scramble.pqc.generateBobToAliceTransfer prims.toKexPrimitives = .ok scrambleBobCt)
    (hsealeds : List.Forall₂ (fun layer sealed => encryptDrill prims c.nonceMessage
      (draws.encrypt layer.2) layer.1 = some (some sealed)) c.message.zipIdx sealeds)
    (hscrambleSealed : encryptDrill prims c.nonceScramble draws.encryptScramble c.scramble =
      some (some scrambleSealed)) :
    stage0Bob prims c draws = pure
      { msgBobParamsTxs := cts, scrambleBobParamsTx := scrambleBobCt
        encryptedMsgDrills := sealeds, encryptedScrambleDrill := scrambleSealed
        securityLevel := c.securityLevel } := by
  have hcts' : c.message.filterMap (fun inner =>
      (inner.pqc.generateBobToAliceTransfer prims.toKexPrimitives).toOption) = cts.map id :=
    Collect.filterMap_eq_map_of_forall₂ (fun inner ct h => by simp [h, Except.toOption]) hcts
  have hsealeds' : c.message.zipIdx.filterMapM (fun layer =>
      encryptDrill prims c.nonceMessage (draws.encrypt layer.2) layer.1) = some (sealeds.map id) :=
    Collect.filterMapM_eq_map_of_forall₂ (fun _ _ h => h) hsealeds
  have hctsLen : cts.length = c.message.length := hcts.length_eq.symm
  have hsealedsLen : sealeds.length = c.message.length := by simpa using hsealeds.length_eq.symm
  simp only [stage0Bob, hcts', hsealeds', List.map_id, hctsLen, hsealedsLen, ne_eq,
    not_true_eq_false, if_false, hscrambleCt, hscrambleSealed, unwrap_some, pure_bind]
  rfl

/-- `stage1_alice`'s first loop, when each of Alice's containers takes Bob's ciphertext for it. -/
theorem receiveCiphertexts_eq : ∀ {runs : List LayerRun},
    (∀ run ∈ runs, (run.alice₀.aliceOnReceiveCiphertext prims.toKexPrimitives run.response).run =
      some (.ok run.alice)) →
    receiveCiphertexts prims (runs.map fun run => ⟨none, run.alice₀⟩) (runs.map (·.response)) =
      pure (runs.map fun run => ⟨none, run.alice⟩)
  | [], _ => rfl
  | run :: runs, hreceive => by
      have hrest := receiveCiphertexts_eq fun r hr => hreceive r (List.mem_cons_of_mem run hr)
      simp only [List.map_cons, receiveCiphertexts,
        adapt_eq_pure_of_run _ (hreceive run List.mem_cons_self), hrest, pure_bind]

/-- A turn of `stage1_alice`'s second loop, when the container opens the drill bincode wrote. -/
theorem decryptDrill_eq {nonce : List UInt8} {run : LayerRun}
    (hread : prims.deserializeDrill run.written = .ok run.drill)
    (hopened : (run.alice.decrypt run.sealed nonce).run = some (.ok run.written))
    (drill : Option EntropyBank) :
    decryptDrill prims nonce (some run.sealed) ⟨drill, run.alice⟩ = pure ⟨some run.drill, run.alice⟩ := by
  simp only [decryptDrill, ofOption_some, pure_bind, adapt_eq_pure_of_run _ hopened, hread]
  rfl

/-- Alice's second step, when each of her containers takes Bob's ciphertext for it and opens the
drill he sealed, the scramble layer's too, and the first message drill has the scramble drill's
version and CID. -/
theorem stage1Alice_eq {c : StackedRatchetConstructor}
    {runs : List LayerRun} {srun : LayerRun} {securityLevel : SecurityLevel}
    (hmessage : c.message = runs.map fun run => ⟨none, run.alice₀⟩)
    (hscramble : c.scramble = ⟨none, srun.alice₀⟩)
    (hreceive : ∀ run ∈ srun :: runs,
      (run.alice₀.aliceOnReceiveCiphertext prims.toKexPrimitives run.response).run =
        some (.ok run.alice))
    (hread : ∀ run ∈ srun :: runs, prims.deserializeDrill run.written = .ok run.drill)
    (hopened : ∀ run ∈ runs,
      (run.alice.decrypt run.sealed c.nonceMessage).run = some (.ok run.written))
    (hopenedScramble : (srun.alice.decrypt srun.sealed c.nonceScramble).run = some (.ok srun.written))
    {first : LayerRun} (hfirst : runs.head? = some first)
    (hversion : first.drill.version = srun.drill.version) (hcid : first.drill.cid = srun.drill.cid) :
    stage1Alice prims c (.default ⟨runs.map (·.response), srun.response, runs.map (·.sealed),
        srun.sealed, securityLevel⟩) =
      pure { c with message := runs.map fun run => ⟨some run.drill, run.alice⟩
                    scramble := ⟨some srun.drill, srun.alice⟩ } := by
  -- the second loop opens the drill at each layer's index
  have hloop : (runs.map fun run => (⟨none, run.alice⟩ : MessageRatchetConstructorInner)).zipIdx.mapM
      (fun layer => decryptDrill prims c.nonceMessage (runs.map (·.sealed))[layer.2]? layer.1) =
        pure (runs.map fun run => ⟨some run.drill, run.alice⟩) := by
    refine Collect.mapM_eq_pure_map_of_forall₂ (fun layer run h => ?_)
      (Collect.forall₂_zipIdx_map _ runs)
    obtain ⟨hlayer, hidx⟩ := h
    have hrun : run ∈ runs := List.mem_of_getElem? hidx
    rw [hlayer, List.getElem?_map, hidx, Option.map_some]
    exact decryptDrill_eq (hread run (List.mem_cons_of_mem _ hrun)) (hopened run hrun) none
  have hhead : (runs.map fun run => (⟨some run.drill, run.alice⟩ : MessageRatchetConstructorInner)).head? =
      some ⟨some first.drill, first.alice⟩ := by
    simp [hfirst]
  simp only [stage1Alice, hmessage,
    receiveCiphertexts_eq fun run hrun => hreceive run (List.mem_cons_of_mem _ hrun), pure_bind,
    hloop, hscramble, adapt_eq_pure_of_run _ (hreceive srun List.mem_cons_self)]
  rw [decryptDrill_eq (hread srun List.mem_cons_self) hopenedScramble none]
  simp [hhead, hversion, hcid]

/-- A turn of `finish`'s loop, on a layer with its secret and a drill of the scramble drill's
version and CID. -/
theorem finishLayer_eq {scrambleDrill : EntropyBank} {layer : MessageRatchetInner.Full}
    (hsecret : ∃ ss, layer.pqc.getSharedSecret = .ok ss)
    (hversion : layer.drill.version = scrambleDrill.version) (hcid : layer.drill.cid = scrambleDrill.cid) :
    finishLayer scrambleDrill ⟨some layer.drill, layer.pqc⟩ = pure layer := by
  obtain ⟨ss, hss⟩ := hsecret
  simp [finishLayer, hss, hversion, hcid, Except.mapError]
  rfl

/-- `finish`, when every layer and the scramble layer hold their secret and their drill, the
message drills carry the scramble drill's version and CID, and the level of the last layer's
index fits a byte. -/
theorem finish_eq (profile : BuildProfile) {c : StackedRatchetConstructor}
    {layers : List MessageRatchetInner.Full} {scramble : MessageRatchetInner.Full}
    (hmessage : c.message = layers.map fun layer => ⟨some layer.drill, layer.pqc⟩)
    (hscramble : c.scramble = ⟨some scramble.drill, scramble.pqc⟩)
    (hnonempty : layers ≠ []) (hlen : layers.length ≤ 256)
    (hsecret : ∀ layer ∈ scramble :: layers, ∃ ss, layer.pqc.getSharedSecret = .ok ss)
    (hdrills : ∀ layer ∈ layers,
      layer.drill.version = scramble.drill.version ∧ layer.drill.cid = scramble.drill.cid) :
    finish profile c = pure
      { message := layers, scramble
        defaultSecurityLevel := SecurityLevel.from (layers.length - 1).toUInt8 } := by
  obtain ⟨n, hn⟩ : ∃ n, layers.length = n + 1 :=
    Nat.exists_eq_add_one.mpr (List.length_pos_iff.mpr hnonempty)
  have hlevel : SecurityLevel.forValue n = some (SecurityLevel.from n.toUInt8) := by
    simp only [SecurityLevel.forValue]
    rw [if_pos (by omega)]
  obtain ⟨ss, hss⟩ := hsecret scramble List.mem_cons_self
  have hloop : (layers.map fun layer => (⟨some layer.drill, layer.pqc⟩ :
      MessageRatchetConstructorInner)).mapM (finishLayer scramble.drill) = pure (layers.map id) := by
    have hpairs : List.Forall₂ (fun inner layer =>
        inner = (⟨some layer.drill, layer.pqc⟩ : MessageRatchetConstructorInner) ∧ layer ∈ layers)
        (layers.map fun layer => ⟨some layer.drill, layer.pqc⟩) layers :=
      List.forall₂_map_left_iff.mpr (List.forall₂_same.mpr fun layer hlayer => ⟨rfl, hlayer⟩)
    refine Collect.mapM_eq_pure_map_of_forall₂ (fun inner layer h => ?_) hpairs
    obtain ⟨rfl, hlayer⟩ := h
    exact finishLayer_eq (hsecret layer (List.mem_cons_of_mem _ hlayer)) (hdrills layer hlayer).1
      (hdrills layer hlayer).2
  simp only [finish, hmessage, List.length_map, hn, pure_bind, hlevel, ofOption_some, hscramble,
    hss, hloop, List.map_id]
  rfl

/-- The version stamp leaves a constructor whose drills all hold the version as it is. -/
theorem updateVersion_of_version_eq {c : StackedRatchetConstructor} {version : UInt32}
    (hdrills : ∀ inner ∈ c.scramble :: c.message,
      ∃ drill, inner.drill = some drill ∧ drill.version = version)
    (hversion : c.newVersion = version) : updateVersion c version = some c := by
  subst hversion
  have hstamp : ∀ inner ∈ c.scramble :: c.message, inner.drill.map
      (fun drill => { inner with drill := some { drill with version := c.newVersion } }) = some inner := by
    intro inner hinner
    obtain ⟨drill, hdrill, hdrillVersion⟩ := hdrills inner hinner
    obtain ⟨_, pqc⟩ := inner
    cases hdrill
    simp [← hdrillVersion]
  have hmessage := Collect.mapM_eq_pure_self fun inner hinner =>
    hstamp inner (List.mem_cons_of_mem _ hinner)
  simp only [updateVersion, hmessage, hstamp c.scramble List.mem_cons_self]
  rfl

/-- The CID stamp leaves a constructor whose drills all hold the CID as it is: `finish` is left. -/
theorem finishWithCustomCid_of_cid_eq (profile : BuildProfile) {c : StackedRatchetConstructor}
    {cid : UInt64}
    (hdrills : ∀ inner ∈ c.scramble :: c.message, ∃ drill, inner.drill = some drill ∧ drill.cid = cid) :
    finishWithCustomCid profile c cid = finish profile c := by
  have hstamp : ∀ inner ∈ c.scramble :: c.message, inner.drill.map
      (fun drill => { inner with drill := some { drill with cid } }) = some inner := by
    intro inner hinner
    obtain ⟨drill, hdrill, rfl⟩ := hdrills inner hinner
    obtain ⟨_, pqc⟩ := inner
    cases hdrill
    rfl
  have hmessage := Collect.mapM_eq_pure_self fun inner hinner =>
    hstamp inner (List.mem_cons_of_mem _ hinner)
  simp only [finishWithCustomCid, hmessage, hstamp c.scramble List.mem_cons_self]
  rfl

end StackedRatchetConstructor

namespace LayerRun

/-- Alice's ratchet at the end of a run: her layers, each with Bob's drill. -/
def aliceRatchet (runs : List LayerRun) (srun : LayerRun) : StackedRatchetInner :=
  { message := runs.map fun run => ⟨run.drill, run.alice⟩, scramble := ⟨srun.drill, srun.alice⟩
    defaultSecurityLevel := SecurityLevel.from (runs.length - 1).toUInt8 }

/-- Bob's ratchet at the end of a run. -/
def bobRatchet (runs : List LayerRun) (srun : LayerRun) : StackedRatchetInner :=
  { message := runs.map fun run => ⟨run.drill, run.bob⟩, scramble := ⟨srun.drill, srun.bob⟩
    defaultSecurityLevel := SecurityLevel.from (runs.length - 1).toUInt8 }

/-- The ratchets of a run whose layers all end in agreement agree. -/
theorem ratchetsAgreed {runs : List LayerRun} {srun : LayerRun}
    (hagreed : ∀ run ∈ srun :: runs, PostQuantumContainer.Full.Agreed prims.toKexPrimitives run.alice run.bob) :
    RatchetsAgreed prims (aliceRatchet runs srun) (bobRatchet runs srun) where
  message := List.forall₂_map_left_iff.mpr <| List.forall₂_map_right_iff.mpr <|
    List.forall₂_same.mpr fun run hrun => ⟨rfl, hagreed run (List.mem_cons_of_mem _ hrun)⟩
  scramble := ⟨rfl, hagreed srun List.mem_cons_self⟩
  defaultSecurityLevel := rfl

end LayerRun

namespace StackedRatchetConstructor

/-- A run of the constructors' exchange: what the two sides are given beside their options (the
parameters, their draws, CIDs and versions, and the level), and the run of every message layer
and of the scramble layer. -/
structure ExchangeRun where
  params : CryptoParameters
  drawsAlice : ConstructorDraws
  drawsBob : ConstructorDraws
  cidAlice : UInt64
  cidBob : UInt64
  versionAlice : UInt32
  versionBob : UInt32
  securityLevel : SecurityLevel
  runs : List LayerRun
  srun : LayerRun

namespace ExchangeRun

/-- Alice's nonce of the message layers. -/
def nonceMessage (e : ExchangeRun) : List UInt8 :=
  EntropyBank.generatePublicNonce e.params.encryptionAlgorithm e.drawsAlice.nonceMessage

/-- Alice's nonce of the scramble layer. -/
def nonceScramble (e : ExchangeRun) : List UInt8 :=
  EntropyBank.generatePublicNonce e.params.encryptionAlgorithm e.drawsAlice.nonceScramble

/-- Alice's constructor before Bob's response. -/
def aliceStart (e : ExchangeRun) : StackedRatchetConstructor :=
  { params := e.params, message := e.runs.map fun run => ⟨none, run.alice₀⟩
    scramble := ⟨none, e.srun.alice₀⟩, nonceMessage := e.nonceMessage
    nonceScramble := e.nonceScramble, cid := e.cidAlice, newVersion := e.versionAlice
    securityLevel := e.securityLevel }

/-- Alice's transfer. -/
def transfer (e : ExchangeRun) : AliceToBobTransfer :=
  { params := e.params, paramsTxs := e.runs.map (·.transfer)
    scrambleAliceParams := e.srun.transfer, msgNonce := e.nonceMessage
    scrambleNonce := e.nonceScramble, securityLevel := e.securityLevel, cid := e.cidAlice
    newVersion := e.versionAlice }

/-- Bob's constructor, each layer with his drill. -/
def bobConstructor (e : ExchangeRun) : StackedRatchetConstructor :=
  { params := e.params, message := e.runs.map fun run => ⟨some run.drill, run.bob⟩
    scramble := ⟨some e.srun.drill, e.srun.bob⟩, nonceMessage := e.nonceMessage
    nonceScramble := e.nonceScramble, cid := e.cidBob, newVersion := e.versionBob
    securityLevel := e.securityLevel }

/-- Bob's transfer: his ciphertexts and sealed drills. -/
def response (e : ExchangeRun) : BobToAliceTransfer :=
  { msgBobParamsTxs := e.runs.map (·.response), scrambleBobParamsTx := e.srun.response
    encryptedMsgDrills := e.runs.map (·.sealed), encryptedScrambleDrill := e.srun.sealed
    securityLevel := e.securityLevel }

/-- Alice's constructor after Bob's response, each layer with Bob's drill. -/
def aliceEnd (e : ExchangeRun) : StackedRatchetConstructor :=
  { e.aliceStart with message := e.runs.map fun run => ⟨some run.drill, run.alice⟩
                      scramble := ⟨some e.srun.drill, e.srun.alice⟩ }

variable (prims) in
/-- The layers of a run take the steps of a key exchange: one layer for each option, as many as
the level has, under the parameters of the first, and the scramble layer under those too. -/
structure Steps (opts : List ConstructorOpts) (e : ExchangeRun) : Prop where
  first : ∃ first, opts.head? = some first ∧ first.cryptography.getD .default = e.params
  level : opts.length = e.securityLevel.value.toNat + 1
  message : List.Forall₂ (fun layer run => LayerRun.Steps prims layer.1
    (e.drawsAlice.layer layer.2) (e.drawsBob.layer layer.2) (e.drawsBob.drill layer.2)
    (e.drawsBob.encrypt layer.2) e.cidBob e.versionBob e.nonceMessage run) opts.zipIdx e.runs
  scramble : LayerRun.Steps prims (.newInit (some e.params)) e.drawsAlice.scramble
    e.drawsBob.scramble e.drawsBob.scrambleDrill e.drawsBob.encryptScramble e.cidBob e.versionBob
    e.nonceScramble e.srun

namespace Steps

variable {opts : List ConstructorOpts} {e : ExchangeRun}

/-! ### The layers of a run -/

/-- Every run of the exchange, the scramble layer's too, is a layer's key exchange under Bob's
CID and version. -/
theorem steps_of_mem (h : e.Steps prims opts) {run : LayerRun} (hrun : run ∈ e.srun :: e.runs) :
    ∃ o rngAlice rngBob drillRng encryptTape nonce,
      LayerRun.Steps prims o rngAlice rngBob drillRng encryptTape e.cidBob e.versionBob nonce run := by
  rcases List.mem_cons.mp hrun with rfl | hrun
  · exact ⟨_, _, _, _, _, _, h.scramble⟩
  · obtain ⟨_, _, hsteps⟩ := Collect.exists_of_forall₂_of_mem h.message hrun
    exact ⟨_, _, _, _, _, _, hsteps⟩

theorem agreed_of_mem (h : e.Steps prims opts) {run : LayerRun} (hrun : run ∈ e.srun :: e.runs) :
    PostQuantumContainer.Full.Agreed prims.toKexPrimitives run.alice run.bob := by
  obtain ⟨_, _, _, _, _, _, hsteps⟩ := h.steps_of_mem hrun
  exact hsteps.agreed

/-- Every drill of the exchange is one Bob made, of his version and CID. -/
theorem drill_of_mem (h : e.Steps prims opts) {run : LayerRun} (hrun : run ∈ e.srun :: e.runs) :
    run.drill.version = e.versionBob ∧ run.drill.cid = e.cidBob := by
  obtain ⟨_, _, _, _, _, _, hsteps⟩ := h.steps_of_mem hrun
  rw [hsteps.drill]
  exact ⟨rfl, rfl⟩

/-- Every message drill has the scramble drill's version and CID. -/
theorem drill_eq_scramble (h : e.Steps prims opts) {run : LayerRun} (hrun : run ∈ e.runs) :
    run.drill.version = e.srun.drill.version ∧ run.drill.cid = e.srun.drill.cid := by
  have hrunDrill := h.drill_of_mem (List.mem_cons_of_mem _ hrun)
  have hscrambleDrill := h.drill_of_mem List.mem_cons_self
  exact ⟨hrunDrill.1.trans hscrambleDrill.1.symm, hrunDrill.2.trans hscrambleDrill.2.symm⟩

theorem length_runs (h : e.Steps prims opts) : e.runs.length = e.securityLevel.value.toNat + 1 := by
  rw [← h.level, ← h.message.length_eq, List.length_zipIdx]

theorem runs_ne_nil (h : e.Steps prims opts) : e.runs ≠ [] :=
  List.ne_nil_of_length_pos (by rw [h.length_runs]; omega)

/-- A level's value is a byte, so a run has at most 256 layers. -/
theorem length_runs_le (h : e.Steps prims opts) : e.runs.length ≤ 256 := by
  have := e.securityLevel.value.toNat_lt
  rw [h.length_runs]
  omega

/-! ### The stages of a run -/

theorem newAlice_eq_aliceStart (h : e.Steps prims opts) :
    newAlice prims opts e.cidAlice e.versionAlice (some e.securityLevel) e.drawsAlice =
      pure e.aliceStart := by
  obtain ⟨first, hfirst, hfirstParams⟩ := h.first
  have hlayers : List.Forall₂ (fun layer pqc => PostQuantumContainer.Full.newAlice
      prims.toKexPrimitives layer.1 (e.drawsAlice.layer layer.2) = .ok pqc) opts.zipIdx
      (e.runs.map (·.alice₀)) :=
    List.forall₂_map_right_iff.mpr (h.message.imp fun _ _ hsteps => hsteps.newAlice)
  have hscramble : PostQuantumContainer.Full.newAlice prims.toKexPrimitives
      (.newInit (some (first.cryptography.getD .default))) e.drawsAlice.scramble =
        .ok e.srun.alice₀ := by
    rw [hfirstParams]
    exact h.scramble.newAlice
  rw [newAlice_eq hfirst hlayers hscramble, hfirstParams, List.map_map]
  rfl

theorem stage0Alice_eq_transfer (h : e.Steps prims opts) :
    stage0Alice prims e.aliceStart = pure e.transfer := by
  have hpks : List.Forall₂ (fun inner pk => inner.pqc.generateAliceToBobTransfer
      prims.toKexPrimitives = .ok pk) e.aliceStart.message (e.runs.map (·.transfer)) := by
    refine List.forall₂_map_left_iff.mpr <| List.forall₂_map_right_iff.mpr <|
      List.forall₂_same.mpr fun run hrun => ?_
    obtain ⟨_, _, _, _, _, _, hsteps⟩ := h.steps_of_mem (List.mem_cons_of_mem _ hrun)
    exact hsteps.transfer
  exact stage0Alice_eq hpks h.scramble.transfer

theorem newBob_eq_bobConstructor (h : e.Steps prims opts) :
    newBob prims e.cidBob e.versionBob opts e.transfer e.drawsBob = pure e.bobConstructor := by
  have hkeys : List.Forall₂ (fun layer inner =>
      newBobLayer prims e.cidBob e.versionBob e.drawsBob layer = some (some inner))
      (((e.runs.map (·.transfer)).zip opts).zipIdx)
      (e.runs.map fun run => ⟨some run.drill, run.bob⟩) := by
    refine List.forall₂_map_right_iff.mpr
      ((Collect.forall₂_zipIdx_zip (·.transfer) h.message).imp fun layer run hlayer => ?_)
    obtain ⟨htransfer, hsteps⟩ := hlayer
    dsimp only at hsteps
    simp only [newBobLayer, htransfer, hsteps.newBob, hsteps.drill, Option.map_some]
    rfl
  have hscramble : (PostQuantumContainer.Full.newBob prims.toKexPrimitives
      (.newInit (some e.transfer.params)) e.transfer.scrambleAliceParams e.drawsBob.scramble).run =
        some (.ok e.srun.bob) :=
    h.scramble.newBob
  rw [newBob_eq hkeys (by rw [List.length_map, h.length_runs]; rfl) hscramble, ← h.scramble.drill]
  rfl

theorem stage0Bob_eq_response (h : e.Steps prims opts) :
    stage0Bob prims e.bobConstructor e.drawsBob = pure e.response := by
  have hcts : List.Forall₂ (fun inner ct => inner.pqc.generateBobToAliceTransfer
      prims.toKexPrimitives = .ok ct) e.bobConstructor.message (e.runs.map (·.response)) := by
    refine List.forall₂_map_left_iff.mpr <| List.forall₂_map_right_iff.mpr <|
      List.forall₂_same.mpr fun run hrun => ?_
    obtain ⟨_, _, _, _, _, _, hsteps⟩ := h.steps_of_mem (List.mem_cons_of_mem _ hrun)
    exact hsteps.response
  -- each drill is sealed under the layer's own encryption draw
  have hsealeds : List.Forall₂ (fun layer sealed => encryptDrill prims e.nonceMessage
      (e.drawsBob.encrypt layer.2) layer.1 = some (some sealed))
      (e.runs.map fun run => (⟨some run.drill, run.bob⟩ : MessageRatchetConstructorInner)).zipIdx
      (e.runs.map (·.sealed)) := by
    refine List.forall₂_map_right_iff.mpr
      ((Collect.forall₂_zipIdx_map_of_forall₂ (fun run => (⟨some run.drill, run.bob⟩ :
        MessageRatchetConstructorInner)) h.message).imp fun layer run hlayer => ?_)
    obtain ⟨hlayer, _, hsteps⟩ := hlayer
    dsimp only at hsteps
    rw [hlayer]
    simp only [encryptDrill, hsteps.written, hsteps.sealed, Option.map_some]
    rfl
  have hscrambleSealed : encryptDrill prims e.nonceScramble e.drawsBob.encryptScramble
      ⟨some e.srun.drill, e.srun.bob⟩ = some (some e.srun.sealed) := by
    simp only [encryptDrill, h.scramble.written, h.scramble.sealed, Option.map_some]
    rfl
  exact stage0Bob_eq hcts h.scramble.response hsealeds hscrambleSealed

theorem stage1Alice_eq_aliceEnd (h : e.Steps prims opts) :
    ExceptT.adapt (fun _ => ()) (stage1Alice prims e.aliceStart (.default e.response)) =
      pure e.aliceEnd := by
  have hreceive : ∀ run ∈ e.srun :: e.runs,
      (run.alice₀.aliceOnReceiveCiphertext prims.toKexPrimitives run.response).run =
        some (.ok run.alice) := by
    intro run hrun
    obtain ⟨_, _, _, _, _, _, hsteps⟩ := h.steps_of_mem hrun
    exact hsteps.receive
  have hread : ∀ run ∈ e.srun :: e.runs, prims.deserializeDrill run.written = .ok run.drill := by
    intro run hrun
    obtain ⟨_, _, _, _, _, _, hsteps⟩ := h.steps_of_mem hrun
    exact hsteps.read
  have hopened : ∀ run ∈ e.runs,
      (run.alice.decrypt run.sealed e.nonceMessage).run = some (.ok run.written) := by
    intro run hrun
    obtain ⟨_, _, hsteps⟩ := Collect.exists_of_forall₂_of_mem h.message hrun
    exact hsteps.opened
  obtain ⟨first, hfirst⟩ : ∃ first, e.runs.head? = some first :=
    Option.isSome_iff_exists.mp (List.isSome_head?.mpr h.runs_ne_nil)
  have hfirstDrill := h.drill_eq_scramble (List.mem_of_mem_head? hfirst)
  have hresponse : e.response = ⟨e.runs.map (·.response), e.srun.response, e.runs.map (·.sealed),
      e.srun.sealed, e.securityLevel⟩ := rfl
  refine adapt_eq_pure_of_run _ ?_
  rw [hresponse, stage1Alice_eq rfl rfl hreceive hread hopened h.scramble.opened hfirst
    hfirstDrill.1 hfirstDrill.2]
  rfl

theorem finish_aliceEnd (h : e.Steps prims opts) (profile : BuildProfile) :
    finish profile e.aliceEnd = pure (LayerRun.aliceRatchet e.runs e.srun) := by
  have hmessage : e.aliceEnd.message = (e.runs.map fun run => (⟨run.drill, run.alice⟩ :
      MessageRatchetInner.Full)).map fun layer => ⟨some layer.drill, layer.pqc⟩ := by
    simp [aliceEnd]
  have hscramble : e.aliceEnd.scramble =
      ⟨some (⟨e.srun.drill, e.srun.alice⟩ : MessageRatchetInner.Full).drill,
        (⟨e.srun.drill, e.srun.alice⟩ : MessageRatchetInner.Full).pqc⟩ := rfl
  rw [finish_eq profile hmessage hscramble (by simpa using h.runs_ne_nil)
    (by simpa using h.length_runs_le) ?_ ?_]
  · simp [LayerRun.aliceRatchet]
  · simp only [List.mem_cons, List.mem_map]
    rintro _ (rfl | ⟨run, hrun, rfl⟩)
    · exact (h.agreed_of_mem List.mem_cons_self).sharedSecret.imp fun _ hss => hss.1
    · exact (h.agreed_of_mem (List.mem_cons_of_mem _ hrun)).sharedSecret.imp fun _ hss => hss.1
  · simpa using fun run hrun => h.drill_eq_scramble hrun

theorem finish_bobConstructor (h : e.Steps prims opts) (profile : BuildProfile) :
    finish profile e.bobConstructor = pure (LayerRun.bobRatchet e.runs e.srun) := by
  have hmessage : e.bobConstructor.message = (e.runs.map fun run => (⟨run.drill, run.bob⟩ :
      MessageRatchetInner.Full)).map fun layer => ⟨some layer.drill, layer.pqc⟩ := by
    simp [bobConstructor]
  have hscramble : e.bobConstructor.scramble =
      ⟨some (⟨e.srun.drill, e.srun.bob⟩ : MessageRatchetInner.Full).drill,
        (⟨e.srun.drill, e.srun.bob⟩ : MessageRatchetInner.Full).pqc⟩ := rfl
  rw [finish_eq profile hmessage hscramble (by simpa using h.runs_ne_nil)
    (by simpa using h.length_runs_le) ?_ ?_]
  · simp [LayerRun.bobRatchet]
  · simp only [List.mem_cons, List.mem_map]
    rintro _ (rfl | ⟨run, hrun, rfl⟩)
    · exact (h.agreed_of_mem List.mem_cons_self).sharedSecret.imp fun _ hss => hss.2
    · exact (h.agreed_of_mem (List.mem_cons_of_mem _ hrun)).sharedSecret.imp fun _ hss => hss.2
  · simpa using fun run hrun => h.drill_eq_scramble hrun

/-! ### A whole run -/

/-- The constructors' exchange, when every message layer and the scramble layer run to their end:
both ratchets of the run. -/
theorem keyExchange_eq (h : e.Steps prims opts) (profile : BuildProfile) :
    keyExchange prims profile opts opts e.cidAlice e.cidBob e.versionAlice e.versionBob
        (some e.securityLevel) e.drawsAlice e.drawsBob =
      pure (LayerRun.aliceRatchet e.runs e.srun, LayerRun.bobRatchet e.runs e.srun) := by
  simp only [keyExchange, h.newAlice_eq_aliceStart, h.stage0Alice_eq_transfer,
    h.newBob_eq_bobConstructor, h.stage0Bob_eq_response, h.stage1Alice_eq_aliceEnd,
    h.finish_aliceEnd, h.finish_bobConstructor, pure_bind]

theorem ratchetsAgreed (h : e.Steps prims opts) :
    RatchetsAgreed prims (LayerRun.aliceRatchet e.runs e.srun) (LayerRun.bobRatchet e.runs e.srun) :=
  LayerRun.ratchetsAgreed fun _ hrun => h.agreed_of_mem hrun

end Steps

/-- For options of one valid set of parameters under a symmetric algorithm, as many as the level
has, every message layer and the scramble layer run to their end, whatever the two sides draw and
whatever CIDs and versions they are given. -/
theorem exists_steps (hsound : prims.Sound) {opts : List ConstructorOpts}
    {params : CryptoParameters} (hparams : ∀ o ∈ opts, o.cryptography.getD .default = params)
    (hvalid : validateCryptoParams params = .ok ()) (hsym : params.encryptionAlgorithm ≠ .kyber)
    {securityLevel : SecurityLevel} (hlevel : opts.length = securityLevel.value.toNat + 1)
    (drawsAlice drawsBob : ConstructorDraws) (cidAlice cidBob : UInt64)
    (versionAlice versionBob : UInt32) :
    ∃ runs srun, Steps prims opts ⟨params, drawsAlice, drawsBob, cidAlice, cidBob, versionAlice,
      versionBob, securityLevel, runs, srun⟩ := by
  have hnonce (tape : RandomTape) :
      (EntropyBank.generatePublicNonce params.encryptionAlgorithm tape).length =
        params.encryptionAlgorithm.nonceLen :=
    RandomTape.length_take tape 0 _
  obtain ⟨first, hfirst⟩ : ∃ first, opts.head? = some first :=
    Option.isSome_iff_exists.mp (List.isSome_head?.mpr (List.ne_nil_of_length_pos (by omega)))
  -- each layer runs under its own draws
  obtain ⟨runs, hruns⟩ : ∃ runs, List.Forall₂ (fun layer run => LayerRun.Steps prims layer.1
      (drawsAlice.layer layer.2) (drawsBob.layer layer.2) (drawsBob.drill layer.2)
      (drawsBob.encrypt layer.2) cidBob versionBob
      (EntropyBank.generatePublicNonce params.encryptionAlgorithm drawsAlice.nonceMessage) run)
      opts.zipIdx runs := by
    refine Collect.exists_forall₂ fun layer hlayer => ?_
    have hmem : layer.1 ∈ opts.zipIdx.map Prod.fst := List.mem_map_of_mem hlayer
    rw [List.zipIdx_map_fst] at hmem
    have hlayerParams := hparams layer.1 hmem
    exact LayerRun.exists_steps hsound (by rw [hlayerParams]; exact hvalid)
      (by rw [hlayerParams]; exact hsym) _ _ _ _ _ _ (by rw [hlayerParams]; exact hnonce _)
  obtain ⟨srun, hsrun⟩ := @LayerRun.exists_steps prims hsound (.newInit (some params)) hvalid hsym
    drawsAlice.scramble drawsBob.scramble drawsBob.scrambleDrill drawsBob.encryptScramble cidBob
    versionBob _ (hnonce drawsAlice.nonceScramble)
  exact ⟨runs, srun, ⟨first, hfirst, hparams first (List.mem_of_mem_head? hfirst)⟩, hlevel, hruns,
    hsrun⟩

end ExchangeRun

end StackedRatchetConstructor

/-! ## Primitives for concrete runs -/

/-- A drill codec for concrete runs: the CID in 8 bytes, the version in 4 and each port pair in
2 and 2, most significant first. -/
def writeDrill (drill : EntropyBank) : List UInt8 :=
  toBytesBE 8 drill.cid.toNat ++ toBytesBE 4 drill.version.toNat ++
    drill.scrambleMappings.flatMap fun pair => toBytesBE 2 pair.1.toNat ++ toBytesBE 2 pair.2.toNat

/-- The port pairs of `writeDrill`, four bytes each. -/
def readPorts : List UInt8 → List (UInt16 × UInt16)
  | a :: b :: c :: d :: rest =>
      ((fromBytesBE [a, b]).toUInt16, (fromBytesBE [c, d]).toUInt16) :: readPorts rest
  | _ => []

/-- The drill of `writeDrill`'s bytes; bytes without a port pair are refused. -/
def readDrill (bytes : List UInt8) : Except String EntropyBank :=
  if h : readPorts (bytes.drop 12) = [] then .error "no ports"
  else .ok ⟨(fromBytesBE (bytes.take 8)).toUInt64, (fromBytesBE ((bytes.drop 8).take 4)).toUInt32,
    readPorts (bytes.drop 12), h⟩

theorem toBytesBE_two (n : Nat) :
    toBytesBE 2 n = [UInt8.ofNat (n / 256 % 256), UInt8.ofNat (n % 256)] := by
  simp [toBytesBE]

theorem readPorts_flatMap (ports : List (UInt16 × UInt16)) :
    readPorts (ports.flatMap fun pair => toBytesBE 2 pair.1.toNat ++ toBytesBE 2 pair.2.toNat) =
      ports := by
  induction ports with
  | nil => rfl
  | cons pair ports ih =>
      have hport (p : UInt16) : (fromBytesBE (toBytesBE 2 p.toNat)).toUInt16 = p := by
        rw [fromBytesBE_toBytesBE, Nat.mod_eq_of_lt (by simpa using p.toNat_lt)]
        exact UInt16.ofNat_toNat
      rw [List.flatMap_cons, toBytesBE_two, toBytesBE_two]
      simp only [List.cons_append, List.nil_append, readPorts, ih]
      rw [← toBytesBE_two, ← toBytesBE_two, hport, hport]

theorem readDrill_writeDrill (drill : EntropyBank) : readDrill (writeDrill drill) = .ok drill := by
  obtain ⟨cid, version, ports, hports⟩ := drill
  have hcid : (fromBytesBE (toBytesBE 8 cid.toNat)).toUInt64 = cid := by
    rw [fromBytesBE_toBytesBE, Nat.mod_eq_of_lt (by simpa using cid.toNat_lt)]
    exact UInt64.ofNat_toNat
  have hversion : (fromBytesBE (toBytesBE 4 version.toNat)).toUInt32 = version := by
    rw [fromBytesBE_toBytesBE, Nat.mod_eq_of_lt (by simpa using version.toNat_lt)]
    exact UInt32.ofNat_toNat
  have hdrop : (writeDrill ⟨cid, version, ports, hports⟩).drop 12 =
      ports.flatMap fun pair => toBytesBE 2 pair.1.toNat ++ toBytesBE 2 pair.2.toNat := by
    simp [writeDrill, List.drop_append]
  rw [readDrill, hdrop, readPorts_flatMap, dif_neg hports]
  simp [writeDrill, hcid, hversion]

/-- The exchange's pass-through primitives, with the port lists left in order and the drill codec
above in place of bincode. -/
def passThroughRatchetPrimitives : RatchetPrimitives :=
  { passThroughKexPrimitives with
    shuffle := fun _ ports => ports
    length_shuffle := fun _ _ => rfl
    serializeDrill := fun drill => .ok (writeDrill drill)
    deserializeDrill := readDrill }

theorem passThroughRatchetPrimitives_sound : passThroughRatchetPrimitives.Sound :=
  { passThroughKexPrimitives_sound with
    serializeDrill_isOk := fun _ _ => ⟨_, rfl⟩
    length_serializeDrill := by
      intro drill hport bytes hwrite
      cases hwrite
      simp [writeDrill, List.length_flatMap, hport, portRange]
    deserializeDrill_serializeDrill := by
      intro drill _ bytes hwrite
      cases hwrite
      exact readDrill_writeDrill drill }

/-- Every draw all zeros. -/
def ConstructorDraws.zeros : ConstructorDraws :=
  ⟨fun _ _ _ => 0, fun _ _ _ => 0, fun _ _ => 0, fun _ _ => 0, fun _ _ => 0, fun _ => 0, fun _ => 0,
    fun _ => 0⟩

namespace StackedRatchetConstructor

section Exchange

variable {opts : List ConstructorOpts} {params : CryptoParameters}

/-- Key agreement of the constructors. For options of one valid set of parameters under a
symmetric algorithm, as many as the security level has layers, the exchange succeeds whatever the
two sides draw and whatever CIDs and versions they are given, and the two ratchets agree: layer
by layer and in the scramble layer they hold Bob's drill and containers of one chain, one shared
secret and matching keys. -/
theorem keyExchange_agreed (hsound : prims.Sound) (profile : BuildProfile)
    (hparams : ∀ o ∈ opts, o.cryptography.getD .default = params)
    (hvalid : validateCryptoParams params = .ok ()) (hsym : params.encryptionAlgorithm ≠ .kyber)
    {securityLevel : SecurityLevel} (hlevel : opts.length = securityLevel.value.toNat + 1)
    (cidAlice cidBob : UInt64) (versionAlice versionBob : UInt32)
    (drawsAlice drawsBob : ConstructorDraws) :
    ∃ alice bob, (keyExchange prims profile opts opts cidAlice cidBob versionAlice versionBob
        (some securityLevel) drawsAlice drawsBob).run = some (.ok (alice, bob)) ∧
      RatchetsAgreed prims alice bob := by
  obtain ⟨runs, srun, h⟩ := ExchangeRun.exists_steps hsound hparams hvalid hsym hlevel drawsAlice
    drawsBob cidAlice cidBob versionAlice versionBob
  exact ⟨_, _, by rw [h.keyExchange_eq profile]; rfl, h.ratchetsAgreed⟩

/-- Three layers of XChaCha20-Poly1305 at the high level, from `new_vec_init`, every draw all
zeros. -/
theorem keyExchange_agreed_of_three_layers :
    validateCryptoParams ⟨.xchacha20Poly1305, .kyber, .none⟩ = .ok () ∧
      (⟨.xchacha20Poly1305, .kyber, .none⟩ : CryptoParameters).encryptionAlgorithm ≠ .kyber ∧
      ∃ alice bob, (keyExchange passThroughRatchetPrimitives .release
          (ConstructorOpts.newVecInit (some ⟨.xchacha20Poly1305, .kyber, .none⟩) 3)
          (ConstructorOpts.newVecInit (some ⟨.xchacha20Poly1305, .kyber, .none⟩) 3) 0 0 0 0
          (some .high) .zeros .zeros).run = some (.ok (alice, bob)) ∧
        RatchetsAgreed passThroughRatchetPrimitives alice bob :=
  ⟨rfl, by decide, keyExchange_agreed passThroughRatchetPrimitives_sound .release
    (by simp [ConstructorOpts.newVecInit, ConstructorOpts.newInit]) (by rfl)
    (show (⟨.xchacha20Poly1305, .kyber, .none⟩ : CryptoParameters).encryptionAlgorithm ≠ .kyber by
      decide) rfl 0 0 0 0 .zeros .zeros⟩

/-- Packets after a key exchange. For options of one valid set of parameters under a symmetric
algorithm, the exchange succeeds, and at every level Alice's ratchet has a layer for, Bob's
ratchet validates what Alice's protects: the header is the packet's own, and the payload comes
back. -/
theorem keyExchange_validate_protect (hsound : prims.Sound) (profile : BuildProfile)
    (hparams : ∀ o ∈ opts, o.cryptography.getD .default = params)
    (hvalid : validateCryptoParams params = .ok ()) (hsym : params.encryptionAlgorithm ≠ .kyber)
    {securityLevel : SecurityLevel} (hlevel : opts.length = securityLevel.value.toNat + 1)
    (cidAlice cidBob : UInt64) (versionAlice versionBob : UInt32)
    (drawsAlice drawsBob : ConstructorDraws) (getNonce : EntropyBank → Nat → List UInt8) :
    ∃ alice bob, (keyExchange prims profile opts opts cidAlice cidBob versionAlice versionBob
        (some securityLevel) drawsAlice drawsBob).run = some (.ok (alice, bob)) ∧
      ∀ {level : Option SecurityLevel} {idx : Nat}, alice.view.verifyLevel level = .ok idx →
        ∀ {tapes : Nat → RandomTape} {headerLen : Nat} {packet out : List UInt8},
          (alice.view.protectMessagePacket getNonce tapes level headerLen packet).2.run =
              some (.ok out) →
            out.take headerLen = packet.take headerLen ∧
              (bob.view.validateMessagePacketInPlaceSplit getNonce level (out.take headerLen)
                (out.drop headerLen)).2.run = some (.ok (packet.drop headerLen)) := by
  obtain ⟨runs, srun, h⟩ := ExchangeRun.exists_steps hsound hparams hvalid hsym hlevel drawsAlice
    drawsBob cidAlice cidBob versionAlice versionBob
  refine ⟨_, _, by rw [h.keyExchange_eq profile]; rfl, ?_⟩
  intro level idx hlevelAlice tapes headerLen packet out hprotect
  -- every layer is one of a key exchange, and Bob's side of it is fresh
  have hlayers : ∀ run ∈ runs,
      StackedRatchet.LayerPair ⟨run.drill, run.alice.view⟩ ⟨run.drill, run.bob.view⟩ ∧
        StackedRatchet.LayerFresh ⟨run.drill, run.alice.view⟩ ⟨run.drill, run.bob.view⟩ := by
    intro run hrun
    obtain ⟨layer, hlayer, hsteps⟩ := Collect.exists_of_forall₂_of_mem h.message hrun
    have hmem : layer.1 ∈ opts.zipIdx.map Prod.fst := List.mem_map_of_mem hlayer
    rw [List.zipIdx_map_fst] at hmem
    exact ⟨hsteps.layerPair (by rw [hparams layer.1 hmem]; exact hsym), hsteps.layerFresh⟩
  have hpairs : List.Forall₂ StackedRatchet.LayerPair (LayerRun.aliceRatchet runs srun).view.message
      (LayerRun.bobRatchet runs srun).view.message := by
    simp only [StackedRatchetInner.view, LayerRun.aliceRatchet, LayerRun.bobRatchet, List.map_map]
    exact List.forall₂_map_left_iff.mpr <| List.forall₂_map_right_iff.mpr <|
      List.forall₂_same.mpr fun run hrun => (hlayers run hrun).1
  have hfresh : List.Forall₂ StackedRatchet.LayerFresh (LayerRun.aliceRatchet runs srun).view.message
      (LayerRun.bobRatchet runs srun).view.message := by
    simp only [StackedRatchetInner.view, LayerRun.aliceRatchet, LayerRun.bobRatchet, List.map_map]
    exact List.forall₂_map_left_iff.mpr <| List.forall₂_map_right_iff.mpr <|
      List.forall₂_same.mpr fun run hrun => (hlayers run hrun).2
  have hlevelBob := (StackedRatchet.verifyLevel_of_length_eq hpairs.length_eq level).symm.trans
    hlevelAlice
  exact StackedRatchet.validateMessagePacketInPlaceSplit_of_levels hpairs hlevelAlice hlevelBob
    (List.forall₂_take (idx + 1) hfresh) hprotect

/-- Three layers of XChaCha20-Poly1305 at the high level, from `new_vec_init`, every draw all
zeros and every nonce empty. -/
theorem keyExchange_validate_protect_of_three_layers :
    validateCryptoParams ⟨.xchacha20Poly1305, .kyber, .none⟩ = .ok () ∧
      (⟨.xchacha20Poly1305, .kyber, .none⟩ : CryptoParameters).encryptionAlgorithm ≠ .kyber ∧
      ∃ alice bob, (keyExchange passThroughRatchetPrimitives .release
          (ConstructorOpts.newVecInit (some ⟨.xchacha20Poly1305, .kyber, .none⟩) 3)
          (ConstructorOpts.newVecInit (some ⟨.xchacha20Poly1305, .kyber, .none⟩) 3) 0 0 0 0
          (some .high) .zeros .zeros).run = some (.ok (alice, bob)) ∧
        ∀ {level : Option SecurityLevel} {idx : Nat}, alice.view.verifyLevel level = .ok idx →
          ∀ {tapes : Nat → RandomTape} {headerLen : Nat} {packet out : List UInt8},
            (alice.view.protectMessagePacket (fun _ _ => []) tapes level headerLen packet).2.run =
                some (.ok out) →
              out.take headerLen = packet.take headerLen ∧
                (bob.view.validateMessagePacketInPlaceSplit (fun _ _ => []) level
                  (out.take headerLen) (out.drop headerLen)).2.run =
                  some (.ok (packet.drop headerLen)) :=
  ⟨rfl, by decide, keyExchange_validate_protect passThroughRatchetPrimitives_sound .release
    (by simp [ConstructorOpts.newVecInit, ConstructorOpts.newInit]) (by rfl)
    (show (⟨.xchacha20Poly1305, .kyber, .none⟩ : CryptoParameters).encryptionAlgorithm ≠ .kyber by
      decide) rfl 0 0 0 0 .zeros .zeros fun _ _ => []⟩

end Exchange

end StackedRatchetConstructor

end CitadelProtocol.Crypt
