import CitadelProtocol.Crypt.RatchetConstructor

/-!
# The thin ratchet

`fcm_ratchet.rs`: the compact ratchet of FCM messages, one drill and one container, and its
constructor. Alice's constructor declares the CID and the version; Bob's builds his container
against her public key and a drill of her CID and version, and seals the drill under her nonce;
Alice opens it.

The exchange is one layer of the stacked ratchet's (`LayerRun.Steps`), so its run is taken from
there. It ends in ratchets that hold one drill and containers that agree, and under a symmetric
algorithm Bob's ratchet validates every packet Alice's protects.
-/

namespace CitadelProtocol.Crypt

open Bytes Outcome Pqcrypto

/-- The draws of the thread RNG while one side builds its thin ratchet, each a tape of its own:
the container, the drill, the drill's encryption and the nonce. -/
structure ThinDraws where
  pqc : Nat → RandomTape
  drill : Nat → RandomTape
  encrypt : RandomTape
  nonce : RandomTape

/-- Draws that are all zero. -/
def ThinDraws.zeros : ThinDraws := ⟨fun _ _ => 0, fun _ _ => 0, fun _ => 0, fun _ => 0⟩

/-- `ThinRatchetConstructor`. -/
structure ThinRatchetConstructor where
  params : CryptoParameters
  pqc : PostQuantumContainer.Full
  drill : Option EntropyBank
  nonce : List UInt8
  cid : UInt64
  version : UInt32

/-- `ThinRatchetInner`: the ratchet's one drill and container. -/
structure ThinRatchet where
  drill : EntropyBank
  pqc : PostQuantumContainer.Full

namespace ThinRatchetConstructor

variable (prims : RatchetPrimitives)

/-- `ThinRatchetConstructor::new_alice`: Alice's container for the options, no drill yet, and
her nonce. -/
def newAlice (cid : UInt64) (version : UInt32) (opts : ConstructorOpts) (draws : ThinDraws) :
    ExceptT Unit Option ThinRatchetConstructor := do
  let params := opts.cryptography.getD .default
  let pqc ←
    ofOption (PostQuantumContainer.Full.newAlice prims.toKexPrimitives opts draws.pqc).toOption ()
  pure { params, pqc, drill := none
         nonce := EntropyBank.generatePublicNonce params.encryptionAlgorithm draws.nonce, cid
         version }

/-- `ThinRatchetConstructor::new_bob`: Bob's container against Alice's public key, and a drill of
the CID and version she declares. -/
def newBob (opts : ConstructorOpts) (transfer : FcmAliceToBobTransfer) (draws : ThinDraws) :
    ExceptT Unit Option ThinRatchetConstructor := do
  let params := transfer.params
  let pqc ← ExceptT.adapt (fun _ => ())
    (PostQuantumContainer.Full.newBob prims.toKexPrimitives opts transfer.transferParams draws.pqc)
  let drill := EntropyBank.new prims transfer.cid transfer.version draws.drill
  pure { params, pqc, drill := some drill, nonce := transfer.nonce, cid := transfer.cid
         version := transfer.version }

/-- `ThinRatchetConstructor::stage0_alice`: Alice's public key, with her parameters, nonce, CID and
version. -/
def stage0Alice (c : ThinRatchetConstructor) : ExceptT Unit Option FcmAliceToBobTransfer := do
  let transferParams ← ofOption (c.pqc.generateAliceToBobTransfer prims.toKexPrimitives).toOption ()
  pure { transferParams, params := c.params, nonce := c.nonce, cid := c.cid, version := c.version }

/-- `ThinRatchetConstructor::stage0_bob`: Bob's ciphertext, and his drill as bincode writes it,
sealed by his container under Alice's nonce. -/
def stage0Bob (c : ThinRatchetConstructor) (tape : RandomTape) :
    ExceptT Unit Option FcmBobToAliceTransfer := do
  let paramsTx ← ofOption (c.pqc.generateBobToAliceTransfer prims.toKexPrimitives).toOption ()
  let drill ← ofOption c.drill ()
  let bytes ← ofOption (prims.serializeDrill drill).toOption ()
  let encryptedDrillBytes ← ExceptT.adapt (fun _ => ()) (c.pqc.encrypt tape bytes c.nonce)
  pure { paramsTx, encryptedDrillBytes }

/-- `ThinRatchetConstructor::stage1_alice`: Bob's ciphertext into Alice's container, and his
drill opened and read. -/
def stage1Alice (c : ThinRatchetConstructor) (transfer : FcmBobToAliceTransfer) :
    ExceptT ConstructorError Option ThinRatchetConstructor := do
  let pqc ← ExceptT.adapt .container
    (c.pqc.aliceOnReceiveCiphertext prims.toKexPrimitives transfer.paramsTx)
  let bytes ← ExceptT.adapt .container (pqc.decrypt transfer.encryptedDrillBytes c.nonce)
  let drill ← ofResult ((prims.deserializeDrill bytes).mapError .drillUpdateError)
  pure { c with pqc, drill := some drill }

/-- `ThinRatchetConstructor::update_version`: the version, on the constructor and its drill. -/
def updateVersion (c : ThinRatchetConstructor) (version : UInt32) :
    Option ThinRatchetConstructor := do
  let drill ← c.drill
  pure { c with version, drill := some { drill with version } }

/-- `impl TryFrom<ThinRatchetConstructor> for ThinRatchet`, through `finish`: the drill must be
there. -/
def finish (c : ThinRatchetConstructor) : Option ThinRatchet := do
  let drill ← c.drill
  pure ⟨drill, c.pqc⟩

/-- `ThinRatchetConstructor::finish_with_custom_cid`: the CID, on the constructor and its drill,
then `finish`. -/
def finishWithCustomCid (c : ThinRatchetConstructor) (cid : UInt64) : Option ThinRatchet := do
  let drill ← c.drill
  finish { c with cid, drill := some { drill with cid } }

/-- `EndpointRatchetConstructor::new_alice` for the thin ratchet: the first options; with none,
`remove(0)` panics. The level is not read. -/
def endpointNewAlice (opts : List ConstructorOpts) (cid : UInt64) (newVersion : UInt32)
    (draws : ThinDraws) : ExceptT Unit Option ThinRatchetConstructor := do
  let first ← unwrap opts.head?
  newAlice prims cid newVersion first draws

/-- `EndpointRatchetConstructor::new_bob` for the thin ratchet: an FCM transfer, with the first
options. Bob's own CID and version are not read, and a stacked transfer is refused. -/
def endpointNewBob (opts : List ConstructorOpts) (transfer : AliceToBobTransferType)
    (draws : ThinDraws) : ExceptT Unit Option ThinRatchetConstructor :=
  match transfer with
  | .fcm transfer => do
      let first ← unwrap opts.head?
      newBob prims first transfer draws
  | .default _ => throw ()

/-- `EndpointRatchetConstructor::stage1_alice` for the thin ratchet: a stacked transfer is
refused. -/
def endpointStage1Alice (c : ThinRatchetConstructor) :
    BobToAliceTransferType → ExceptT ConstructorError Option ThinRatchetConstructor
  | .fcm transfer => stage1Alice prims c transfer
  | .default _ => throw (.drillUpdateError "Incompatible Ratchet Type passed! [X-44]")

/-- The thin ratchets' key exchange, through the endpoint constructors: Alice's constructor and
her transfer, Bob's constructor from his options and his transfer, Alice's second step, and
both ratchets. -/
def keyExchange (optsAlice optsBob : List ConstructorOpts) (cid : UInt64) (version : UInt32)
    (drawsAlice drawsBob : ThinDraws) : ExceptT Unit Option (ThinRatchet × ThinRatchet) := do
  let alice ← endpointNewAlice prims optsAlice cid version drawsAlice
  let transfer ← stage0Alice prims alice
  let bob ← endpointNewBob prims optsBob (.fcm transfer) drawsBob
  let response ← stage0Bob prims bob drawsBob.encrypt
  let alice ← ExceptT.adapt (fun _ => ()) (endpointStage1Alice prims alice (.fcm response))
  let alice ← ofOption (finish alice) ()
  let bob ← ofOption (finish bob) ()
  pure (alice, bob)

end ThinRatchetConstructor

namespace ThinRatchet

/-- `get_cid`. -/
def getCid (r : ThinRatchet) : UInt64 := r.drill.cid

/-- `version`. -/
def version (r : ThinRatchet) : UInt32 := r.drill.version

/-- `get_next_constructor_opts`: the container's parameters and its chain; without a chain it
panics. -/
def getNextConstructorOpts (r : ThinRatchet) : Option (List ConstructorOpts) := do
  let chain ← r.pqc.getChain.toOption
  pure [.newFromPrevious (some r.pqc.params) chain]

-- `EntropyBank::get_nonce`, as a function of the drill
variable (getNonce : EntropyBank → Nat → List UInt8)

/-- `protect_message_packet`: the drill's `protect_packet` on the one container; the level is not
read. -/
def protectMessagePacket (r : ThinRatchet) (tape : RandomTape) (headerLenBytes : Nat)
    (packet : List UInt8) : PostQuantumContainer × ExceptT RatchetError Option (List UInt8) :=
  let protection := r.pqc.view.protectPacketInPlace tape headerLenBytes packet (getNonce r.drill 0)
  (protection.1, ExceptT.adapt .encrypt protection.2)

/-- `validate_message_packet`: the drill's `validate_packet_in_place_split` on the one container;
the level is not read. -/
def validateMessagePacket (r : ThinRatchet) (header packet : List UInt8) :
    ExceptT RatchetError Option (List UInt8 × PostQuantumContainer) :=
  ExceptT.adapt .encrypt (r.pqc.view.validatePacketInPlace header packet (getNonce r.drill 0))

end ThinRatchet

/-! ## The exchange -/

namespace ThinRatchetConstructor

variable {prims : RatchetPrimitives} {opts : List ConstructorOpts} {o : ConstructorOpts}
  {drawsAlice drawsBob : ThinDraws} {cid : UInt64} {version : UInt32} {run : LayerRun}

/-- The thin exchange, when its one layer runs to its end under the first options, Alice's draws
and nonce, and Bob's draws: the ratchets of the layer, each holding Bob's drill. -/
theorem keyExchange_eq_of_steps (hhead : opts.head? = some o)
    (hsteps : LayerRun.Steps prims o drawsAlice.pqc drawsBob.pqc drawsBob.drill drawsBob.encrypt cid
      version (EntropyBank.generatePublicNonce (o.cryptography.getD .default).encryptionAlgorithm
        drawsAlice.nonce) run) :
    keyExchange prims opts opts cid version drawsAlice drawsBob =
      pure (⟨run.drill, run.alice⟩, ⟨run.drill, run.bob⟩) := by
  -- Bob's constructor holds the drill of Alice's CID and version
  have hbob : newBob prims o
      ⟨run.transfer, o.cryptography.getD .default, EntropyBank.generatePublicNonce
        (o.cryptography.getD .default).encryptionAlgorithm drawsAlice.nonce, cid, version⟩
      drawsBob = pure ⟨o.cryptography.getD .default, run.bob, some run.drill,
        EntropyBank.generatePublicNonce (o.cryptography.getD .default).encryptionAlgorithm
          drawsAlice.nonce, cid, version⟩ := by
    simp only [newBob, adapt_eq_pure_of_run _ hsteps.newBob, pure_bind, hsteps.drill]
  -- Alice opens the drill Bob sealed under her nonce
  have hstage1 : stage1Alice prims ⟨o.cryptography.getD .default, run.alice₀, none,
        EntropyBank.generatePublicNonce (o.cryptography.getD .default).encryptionAlgorithm
          drawsAlice.nonce, cid, version⟩ ⟨run.response, run.sealed⟩ =
      pure ⟨o.cryptography.getD .default, run.alice, some run.drill,
        EntropyBank.generatePublicNonce (o.cryptography.getD .default).encryptionAlgorithm
          drawsAlice.nonce, cid, version⟩ := by
    simp only [stage1Alice, adapt_eq_pure_of_run _ hsteps.receive, adapt_eq_pure_of_run _ hsteps.opened,
      hsteps.read, pure_bind]
    rfl
  simp only [keyExchange, endpointNewAlice, hhead, unwrap_some, pure_bind, newAlice,
    hsteps.newAlice, Except.toOption, ofOption_some, stage0Alice, hsteps.transfer, endpointNewBob,
    hbob, stage0Bob, hsteps.response, hsteps.written, adapt_eq_pure_of_run _ hsteps.sealed,
    endpointStage1Alice, hstage1, finish]
  rfl

/-- Key agreement of the thin ratchets. For options whose first parameters are valid and
symmetric, the exchange succeeds whatever the two sides draw. Both ratchets hold one drill, of
the CID and version Alice declares, and their containers agree. Bob's ratchet validates every
packet Alice's protects: the header is kept and the payload comes back. -/
theorem thinExchange_agreed_validate (hsound : prims.Sound) (hhead : opts.head? = some o)
    (hvalid : validateCryptoParams (o.cryptography.getD .default) = .ok ())
    (hsym : (o.cryptography.getD .default).encryptionAlgorithm ≠ .kyber)
    (cid : UInt64) (version : UInt32) (drawsAlice drawsBob : ThinDraws)
    (getNonce : EntropyBank → Nat → List UInt8) :
    ∃ alice bob, (keyExchange prims opts opts cid version drawsAlice drawsBob).run =
        some (.ok (alice, bob)) ∧
      alice.drill = bob.drill ∧ alice.getCid = cid ∧ alice.version = version ∧
      PostQuantumContainer.Full.Agreed prims.toKexPrimitives alice.pqc bob.pqc ∧
      ∀ {tape : RandomTape} {headerLen : Nat} {packet out : List UInt8},
        (alice.protectMessagePacket getNonce tape headerLen packet).2.run = some (.ok out) →
          out.take headerLen = packet.take headerLen ∧
            ∃ pqc, (bob.validateMessagePacket getNonce (out.take headerLen)
              (out.drop headerLen)).run = some (.ok (packet.drop headerLen, pqc)) := by
  have hnonce : (EntropyBank.generatePublicNonce (o.cryptography.getD .default).encryptionAlgorithm
      drawsAlice.nonce).length = (o.cryptography.getD .default).encryptionAlgorithm.nonceLen :=
    RandomTape.length_take _ _ _
  obtain ⟨run, hsteps⟩ := LayerRun.exists_steps hsound hvalid hsym drawsAlice.pqc drawsBob.pqc
    drawsBob.drill drawsBob.encrypt cid version hnonce
  refine ⟨⟨run.drill, run.alice⟩, ⟨run.drill, run.bob⟩,
    by rw [keyExchange_eq_of_steps hhead hsteps]; rfl, rfl, ?_, ?_, hsteps.agreed, ?_⟩
  · rw [ThinRatchet.getCid, hsteps.drill]
    rfl
  · rw [ThinRatchet.version, hsteps.drill]
    rfl
  · -- the one layer is a layer of a key exchange, and Bob's side of it is fresh
    intro tape headerLen packet out hprotect
    obtain ⟨seen, hhistory, hfresh⟩ := hsteps.layerFresh
    rw [ThinRatchet.protectMessagePacket, run_adapt_eq_ok] at hprotect
    obtain ⟨hheader, pqc, hvalidate, -⟩ := PostQuantumContainer.validatePacketInPlace_protectPacketInPlace
      (hsteps.layerPair hsym).keys hhistory hfresh hprotect
    refine ⟨hheader, pqc, ?_⟩
    rw [ThinRatchet.validateMessagePacket, run_adapt_eq_ok]
    exact hvalidate

/-- XChaCha20-Poly1305 options from `new_vec_init` for three layers, of which the thin ratchet
reads the first, CID 7 and version 3, every draw all zeros and every nonce empty. -/
theorem thinExchange_agreed_validate_of_xchacha :
    validateCryptoParams ⟨.xchacha20Poly1305, .kyber, .none⟩ = .ok () ∧
      (⟨.xchacha20Poly1305, .kyber, .none⟩ : CryptoParameters).encryptionAlgorithm ≠ .kyber ∧
      ∃ alice bob, (keyExchange passThroughRatchetPrimitives
          (ConstructorOpts.newVecInit (some ⟨.xchacha20Poly1305, .kyber, .none⟩) 3)
          (ConstructorOpts.newVecInit (some ⟨.xchacha20Poly1305, .kyber, .none⟩) 3) 7 3
          ThinDraws.zeros ThinDraws.zeros).run = some (.ok (alice, bob)) ∧
        alice.drill = bob.drill ∧ alice.getCid = 7 ∧ alice.version = 3 ∧
        PostQuantumContainer.Full.Agreed passThroughRatchetPrimitives.toKexPrimitives alice.pqc bob.pqc ∧
        ∀ {tape : RandomTape} {headerLen : Nat} {packet out : List UInt8},
          (alice.protectMessagePacket (fun _ _ => []) tape headerLen packet).2.run =
              some (.ok out) →
            out.take headerLen = packet.take headerLen ∧
              ∃ pqc, (bob.validateMessagePacket (fun _ _ => []) (out.take headerLen)
                (out.drop headerLen)).run = some (.ok (packet.drop headerLen, pqc)) :=
  ⟨rfl, by decide, thinExchange_agreed_validate passThroughRatchetPrimitives_sound
    (show (ConstructorOpts.newVecInit (some ⟨.xchacha20Poly1305, .kyber, .none⟩) 3).head? =
      some (.newInit (some ⟨.xchacha20Poly1305, .kyber, .none⟩)) from rfl)
    (by rfl)
    (show (⟨.xchacha20Poly1305, .kyber, .none⟩ : CryptoParameters).encryptionAlgorithm ≠ .kyber by
      decide) 7 3 .zeros .zeros fun _ _ => []⟩

end ThinRatchetConstructor

end CitadelProtocol.Crypt
