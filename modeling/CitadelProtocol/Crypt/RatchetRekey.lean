import CitadelProtocol.Crypt.RatchetConstructor

/-!
# Rekeying a stacked ratchet

`Ratchet::get_next_constructor_opts` and `Ratchet::next_alice_constructor`: the options of the
next key exchange, derived from the chains of the ratchet's message layers, and Alice's
constructor of it. Bob builds his constructor from the options of his own ratchet
(`update_toolset_as_bob`), and each side commits its constructor under its toolset's next
version and its own CID (`commit_next_hyper_ratchet_version`).

Ratchets that agree derive the same options, so a rekey between them ends in ratchets that agree
again, one version on; by induction, so does every rekey of a session after its first key
exchange.
-/

namespace CitadelProtocol.Crypt

open Bytes Outcome Pqcrypto StackedRatchetConstructor

namespace StackedRatchetInner

variable (prims : RatchetPrimitives)

/-- A turn of the second loop of `get_next_constructor_opts`: the layer's parameters, with the
meta chain and the layer's keys as the chain. A layer without a chain panics. -/
def nextLayerOpts (metaChain : List UInt8) (layer : MessageRatchetInner.Full) :
    Option ConstructorOpts := do
  let prevChain ← layer.pqc.getChain.toOption
  let nextChain ← RecursiveChain.new metaChain prevChain.alice prevChain.bob false
  pure (.newFromPrevious (some layer.pqc.params) nextChain)

/-- `get_next_constructor_opts`: the meta chain is the SHA3-256 digest of the chains of every
message layer, and each layer's next options are those of `nextLayerOpts`. A layer without a
chain panics, as the source's `unwrap` does. -/
def getNextConstructorOpts (r : StackedRatchetInner) : Option (List ConstructorOpts) := do
  let chains ← r.message.mapM fun layer => layer.pqc.getChain.toOption
  let metaChain := prims.sha3256 (chains.flatMap (·.chain))
  r.message.mapM (nextLayerOpts metaChain)

/-- `next_alice_constructor`: Alice's constructor of the next exchange, under the ratchet's CID,
its version plus one, wrapping, and its default level. The CID and the version are the first
message layer's, and a ratchet without one panics. -/
def nextAliceConstructor (r : StackedRatchetInner) (draws : ConstructorDraws) :
    ExceptT Unit Option StackedRatchetConstructor := do
  let opts ← unwrap (getNextConstructorOpts prims r)
  let cid ← unwrap r.view.getCid
  let version ← unwrap r.view.version
  newAlice prims opts cid (version + 1) (some r.defaultSecurityLevel) draws

end StackedRatchetInner

open StackedRatchetInner

variable (prims : RatchetPrimitives)

/-- A rekey between two ratchets, as far as their key exchange goes. Alice builds her next
constructor and its transfer. Bob builds his from the options of his own ratchet, under his CID
and the version Alice declares (`update_toolset_as_bob`), and commits it: stamped with his
toolset's next version, his transfer, and his ratchet under his CID
(`commit_next_hyper_ratchet_version`). Alice takes his transfer and commits hers the same way.
Each toolset's newest ratchet is the one its side rekeys from. -/
def rekey (profile : BuildProfile) (alice bob : StackedRatchetInner) (cidAlice cidBob : UInt64)
    (drawsAlice drawsBob : ConstructorDraws) :
    ExceptT Unit Option (StackedRatchetInner × StackedRatchetInner) := do
  let aliceConstructor ← nextAliceConstructor prims alice drawsAlice
  let transfer ← stage0Alice prims aliceConstructor
  -- Bob's side
  let opts ← unwrap (getNextConstructorOpts prims bob)
  let bobConstructor ← newBob prims cidBob (AliceToBobTransferType.default transfer).getDeclaredNewVersion
    opts transfer drawsBob
  let bobVersion ← unwrap bob.view.version
  let bobConstructor ← ofOption (updateVersion bobConstructor (bobVersion + 1)) ()
  let response ← stage0Bob prims bobConstructor drawsBob
  let bob ← finishWithCustomCid profile bobConstructor cidBob
  -- Alice's side
  let aliceConstructor ←
    ExceptT.adapt (fun _ => ()) (stage1Alice prims aliceConstructor (.default response))
  let aliceVersion ← unwrap alice.view.version
  let aliceConstructor ← ofOption (updateVersion aliceConstructor (aliceVersion + 1)) ()
  let alice ← finishWithCustomCid profile aliceConstructor cidAlice
  pure (alice, bob)

/-- The rekeys of a session, one after another, each from the ratchets the one before ended in,
under the two sides' CIDs and draws of its own. -/
def rekeys (profile : BuildProfile) (cidAlice cidBob : UInt64) :
    List (ConstructorDraws × ConstructorDraws) → StackedRatchetInner × StackedRatchetInner →
      ExceptT Unit Option (StackedRatchetInner × StackedRatchetInner)
  | [], ratchets => pure ratchets
  | (drawsAlice, drawsBob) :: draws, (alice, bob) => do
      let ratchets ← rekey prims profile alice bob cidAlice cidBob drawsAlice drawsBob
      rekeys profile cidAlice cidBob draws ratchets

/-! ## Next options -/

namespace StackedRatchetInner

variable {prims}

/-- The next options of a layer with a chain, under a meta chain of 32 bytes: its parameters. -/
theorem nextLayerOpts_of_chain {metaChain : List UInt8} (hmeta : metaChain.length = 32)
    {layer : MessageRatchetInner.Full} {chain : RecursiveChain}
    (hchain : layer.pqc.chain = some chain) :
    ∃ opts, nextLayerOpts metaChain layer = some opts ∧ opts.cryptography = some layer.pqc.params := by
  simp [nextLayerOpts, PostQuantumContainer.Full.getChain, hchain, okOrInvalidLength,
    Except.toOption, RecursiveChain.new, hmeta, chain.length_alice, chain.length_bob,
    ConstructorOpts.newFromPrevious]

/-- A ratchet whose message layers all hold a chain has next options, one for each layer, with
the layer's parameters. -/
theorem getNextConstructorOpts_of_chains {r : StackedRatchetInner}
    (hchains : ∀ layer ∈ r.message, ∃ chain, layer.pqc.chain = some chain) :
    ∃ opts, getNextConstructorOpts prims r = some opts ∧
      List.Forall₂ (fun layer o => o.cryptography = some layer.pqc.params) r.message opts := by
  obtain ⟨chains, hchains⟩ := Collect.exists_forall₂ hchains
  have hread : r.message.mapM (fun layer => layer.pqc.getChain.toOption) = pure (chains.map id) :=
    Collect.mapM_eq_pure_map_of_forall₂ (fun _ _ hchain => by
      simp [PostQuantumContainer.Full.getChain, hchain, okOrInvalidLength, Except.toOption]) hchains
  -- every layer's next options, under the meta chain of all the chains
  obtain ⟨opts, hopts⟩ := Collect.exists_forall₂ fun layer hlayer =>
    (Collect.exists_of_forall₂_of_mem hchains.flip hlayer).elim fun _ hchain =>
      nextLayerOpts_of_chain (prims.length_sha3256 (chains.flatMap (·.chain))) hchain.2
  have hnext : r.message.mapM (nextLayerOpts (prims.sha3256 (chains.flatMap (·.chain)))) =
      pure (opts.map id) :=
    Collect.mapM_eq_pure_map_of_forall₂ (fun _ _ hopt => hopt.1) hopts
  refine ⟨opts, ?_, hopts.imp fun _ _ hopt => hopt.2⟩
  simp only [getNextConstructorOpts, hread, List.map_id, pure_bind, hnext]
  rfl

/-- Next options read only the chains and the parameters of the message layers. -/
theorem getNextConstructorOpts_congr {r r' : StackedRatchetInner}
    (h : List.Forall₂ (fun a b : MessageRatchetInner.Full =>
      a.pqc.chain = b.pqc.chain ∧ a.pqc.params = b.pqc.params) r.message r'.message) :
    getNextConstructorOpts prims r = getNextConstructorOpts prims r' := by
  have hread : r.message.mapM (fun layer => layer.pqc.getChain.toOption) =
      r'.message.mapM (fun layer => layer.pqc.getChain.toOption) :=
    Collect.mapM_congr_forall₂ (h.imp fun _ _ hab => by
      simp only [PostQuantumContainer.Full.getChain, hab.1])
  have hnext (metaChain : List UInt8) : r.message.mapM (nextLayerOpts metaChain) =
      r'.message.mapM (nextLayerOpts metaChain) :=
    Collect.mapM_congr_forall₂ (h.imp fun _ _ hab => by
      simp only [nextLayerOpts, PostQuantumContainer.Full.getChain, hab.1, hab.2])
  simp only [getNextConstructorOpts, hread, hnext]

end StackedRatchetInner

namespace RatchetsAgreed

variable {prims} {alice bob : StackedRatchetInner}

/-- Ratchets that agree derive the same next options. -/
theorem getNextConstructorOpts_eq (h : RatchetsAgreed prims alice bob) :
    getNextConstructorOpts prims alice = getNextConstructorOpts prims bob :=
  getNextConstructorOpts_congr <| h.message.imp fun _ _ hlayer =>
    ⟨hlayer.pqc.chain.elim fun _ hchain => hchain.1.trans hchain.2.symm, hlayer.pqc.params⟩

/-- Ratchets that agree have one version. -/
theorem version_eq (h : RatchetsAgreed prims alice bob) : alice.view.version = bob.view.version := by
  simp only [StackedRatchetInner.view, StackedRatchet.version, List.head?_map, Option.map_map]
  exact Collect.head?_map_eq_of_forall₂ (fun _ _ hlayer => by simp [hlayer.drill]) h.message

/-- Every message layer of agreeing ratchets holds a chain. -/
theorem chain_of_mem (h : RatchetsAgreed prims alice bob) {layer : MessageRatchetInner.Full}
    (hlayer : layer ∈ alice.message) : ∃ chain, layer.pqc.chain = some chain := by
  obtain ⟨_, _, hagreed⟩ := Collect.exists_of_forall₂_of_mem h.message.flip hlayer
  exact hagreed.pqc.chain.imp fun _ hchain => hchain.1

end RatchetsAgreed

/-! ## A rekey -/

namespace StackedRatchetConstructor.ExchangeRun.Steps

variable {prims} {opts : List ConstructorOpts} {e : ExchangeRun}

/-- Bob's constructor of a run holds his drills. -/
theorem drills_bobConstructor (h : e.Steps prims opts) :
    ∀ inner ∈ e.bobConstructor.scramble :: e.bobConstructor.message,
      ∃ drill, inner.drill = some drill ∧ drill.version = e.versionBob ∧ drill.cid = e.cidBob := by
  simp only [bobConstructor, List.mem_cons, List.mem_map]
  rintro _ (rfl | ⟨run, hrun, rfl⟩)
  · exact ⟨_, rfl, h.drill_of_mem List.mem_cons_self⟩
  · exact ⟨_, rfl, h.drill_of_mem (List.mem_cons_of_mem _ hrun)⟩

/-- Alice's constructor after Bob's response holds his drills. -/
theorem drills_aliceEnd (h : e.Steps prims opts) :
    ∀ inner ∈ e.aliceEnd.scramble :: e.aliceEnd.message,
      ∃ drill, inner.drill = some drill ∧ drill.version = e.versionBob ∧ drill.cid = e.cidBob := by
  simp only [aliceEnd, List.mem_cons, List.mem_map]
  rintro _ (rfl | ⟨run, hrun, rfl⟩)
  · exact ⟨_, rfl, h.drill_of_mem List.mem_cons_self⟩
  · exact ⟨_, rfl, h.drill_of_mem (List.mem_cons_of_mem _ hrun)⟩

theorem updateVersion_bobConstructor (h : e.Steps prims opts) :
    updateVersion e.bobConstructor e.versionBob = some e.bobConstructor :=
  updateVersion_of_version_eq (fun inner hinner =>
    (h.drills_bobConstructor inner hinner).imp fun _ hdrill => ⟨hdrill.1, hdrill.2.1⟩) rfl

theorem updateVersion_aliceEnd (h : e.Steps prims opts) (hversion : e.versionAlice = e.versionBob) :
    updateVersion e.aliceEnd e.versionBob = some e.aliceEnd :=
  updateVersion_of_version_eq (fun inner hinner =>
    (h.drills_aliceEnd inner hinner).imp fun _ hdrill => ⟨hdrill.1, hdrill.2.1⟩) hversion

theorem finishWithCustomCid_bobConstructor (h : e.Steps prims opts) (profile : BuildProfile) :
    finishWithCustomCid profile e.bobConstructor e.cidBob =
      pure (LayerRun.bobRatchet e.runs e.srun) := by
  rw [finishWithCustomCid_of_cid_eq profile fun inner hinner =>
    (h.drills_bobConstructor inner hinner).imp fun _ hdrill => ⟨hdrill.1, hdrill.2.2⟩]
  exact h.finish_bobConstructor profile

theorem finishWithCustomCid_aliceEnd (h : e.Steps prims opts) (profile : BuildProfile) :
    finishWithCustomCid profile e.aliceEnd e.cidBob = pure (LayerRun.aliceRatchet e.runs e.srun) := by
  rw [finishWithCustomCid_of_cid_eq profile fun inner hinner =>
    (h.drills_aliceEnd inner hinner).imp fun _ hdrill => ⟨hdrill.1, hdrill.2.2⟩]
  exact h.finish_aliceEnd profile

/-- A rekey under Bob's CID on both sides, from ratchets whose next options are those of a run,
Alice's under the run's CID, and whose version is one less than the run's, on both sides: the
ratchets of the run. -/
theorem rekey_eq (h : e.Steps prims opts) (profile : BuildProfile) {alice bob : StackedRatchetInner}
    (hoptsAlice : getNextConstructorOpts prims alice = some opts)
    (hoptsBob : getNextConstructorOpts prims bob = some opts)
    (hcid : alice.view.getCid = some e.cidAlice) {version : UInt32}
    (hversionAlice : alice.view.version = some version)
    (hversionBob : bob.view.version = some version)
    (hnextAlice : e.versionAlice = version + 1) (hnextBob : e.versionBob = version + 1)
    (hlevel : alice.defaultSecurityLevel = e.securityLevel) :
    rekey prims profile alice bob e.cidBob e.cidBob e.drawsAlice e.drawsBob =
      pure (LayerRun.aliceRatchet e.runs e.srun, LayerRun.bobRatchet e.runs e.srun) := by
  have hAlice : nextAliceConstructor prims alice e.drawsAlice = pure e.aliceStart := by
    simp only [nextAliceConstructor, hoptsAlice, hcid, hversionAlice, unwrap_some, pure_bind,
      ← hnextAlice, hlevel]
    exact h.newAlice_eq_aliceStart
  -- Bob takes Alice's declared version, and both commit at the version after theirs
  have hdeclared : (AliceToBobTransferType.default e.transfer).getDeclaredNewVersion = e.versionBob :=
    hnextAlice.trans hnextBob.symm
  simp only [rekey, hAlice, h.stage0Alice_eq_transfer, hoptsBob, hdeclared, unwrap_some, pure_bind,
    h.newBob_eq_bobConstructor, hversionBob, ← hnextBob, h.updateVersion_bobConstructor,
    ofOption_some, h.stage0Bob_eq_response, h.finishWithCustomCid_bobConstructor,
    h.stage1Alice_eq_aliceEnd, hversionAlice, h.updateVersion_aliceEnd (hnextAlice.trans hnextBob.symm),
    h.finishWithCustomCid_aliceEnd]

end StackedRatchetConstructor.ExchangeRun.Steps

/-! ## A session's rekeys -/

/-- Ratchets the two sides of a session can rekey from: they agree, every message layer holds
the parameters, and the default level is that of the last layer. -/
structure Synced (params : CryptoParameters) (alice bob : StackedRatchetInner) : Prop where
  agreed : RatchetsAgreed prims alice bob
  params : ∀ layer ∈ alice.message, layer.pqc.params = params
  level : alice.message.length = alice.defaultSecurityLevel.value.toNat + 1

namespace StackedRatchetConstructor.ExchangeRun.Steps

variable {prims} {opts : List ConstructorOpts} {e : ExchangeRun}

/-- The ratchets of a run, from options of its parameters, are in step. -/
theorem synced (h : e.Steps prims opts)
    (hparams : ∀ o ∈ opts, o.cryptography.getD .default = e.params) :
    Synced prims e.params (LayerRun.aliceRatchet e.runs e.srun) (LayerRun.bobRatchet e.runs e.srun) where
  agreed := h.ratchetsAgreed
  params := by
    simp only [LayerRun.aliceRatchet, List.mem_map]
    rintro _ ⟨run, hrun, rfl⟩
    obtain ⟨layer, hlayer, hsteps⟩ := Collect.exists_of_forall₂_of_mem h.message hrun
    exact hsteps.alice_params.trans (hparams layer.1 (List.fst_mem_of_mem_zipIdx hlayer))
  level := by
    have hpos := List.length_pos_iff.mpr h.runs_ne_nil
    have hle := h.length_runs_le
    simp only [LayerRun.aliceRatchet, List.length_map, SecurityLevel.value_from, Nat.toUInt8_eq,
      UInt8.toNat_ofNat']
    omega

/-- Alice's ratchet of a run has Bob's version. -/
theorem version_aliceRatchet (h : e.Steps prims opts) :
    (LayerRun.aliceRatchet e.runs e.srun).view.version = some e.versionBob := by
  obtain ⟨first, hfirst⟩ : ∃ first, e.runs.head? = some first :=
    Option.isSome_iff_exists.mp (List.isSome_head?.mpr h.runs_ne_nil)
  have hversion := (h.drill_of_mem (List.mem_cons_of_mem _ (List.mem_of_mem_head? hfirst))).1
  simp [LayerRun.aliceRatchet, StackedRatchetInner.view, StackedRatchet.version, hfirst, hversion]

end StackedRatchetConstructor.ExchangeRun.Steps

section Session

variable {prims} {params : CryptoParameters} (hsound : prims.Sound)
  (hvalid : validateCryptoParams params = .ok ()) (hsym : params.encryptionAlgorithm ≠ .kyber)
include hsound hvalid hsym

/-- A rekey under one CID on both sides, from ratchets in step, succeeds whatever the two sides
draw, and ends in ratchets in step, one version on. -/
theorem rekey_synced (profile : BuildProfile) {alice bob : StackedRatchetInner}
    (hsynced : Synced prims params alice bob) (cid : UInt64) (drawsAlice drawsBob : ConstructorDraws) :
    ∃ alice' bob', (rekey prims profile alice bob cid cid drawsAlice drawsBob).run =
        some (.ok (alice', bob')) ∧ Synced prims params alice' bob' ∧
      alice'.view.version = alice.view.version.map (· + 1) := by
  -- the next options, the same on both sides
  obtain ⟨opts, hopts, hcryptography⟩ :=
    getNextConstructorOpts_of_chains fun _ hlayer => hsynced.agreed.chain_of_mem hlayer
  have hoptsBob : getNextConstructorOpts prims bob = some opts :=
    hsynced.agreed.getNextConstructorOpts_eq ▸ hopts
  have hparams : ∀ o ∈ opts, o.cryptography.getD .default = params := by
    intro o ho
    obtain ⟨layer, hlayer, hlayerOpts⟩ := Collect.exists_of_forall₂_of_mem hcryptography ho
    rw [hlayerOpts, Option.getD_some, hsynced.params layer hlayer]
  have hlevel : opts.length = alice.defaultSecurityLevel.value.toNat + 1 := by
    rw [← hcryptography.length_eq, hsynced.level]
  -- the CID and version of Alice's first layer, and Bob's version, the same
  obtain ⟨first, hfirst⟩ : ∃ first, alice.message.head? = some first :=
    Option.isSome_iff_exists.mp
      (List.isSome_head?.mpr (List.ne_nil_of_length_pos (by rw [hsynced.level]; omega)))
  have hcid : alice.view.getCid = some first.drill.cid := by
    simp [StackedRatchetInner.view, StackedRatchet.getCid, hfirst]
  have hversionAlice : alice.view.version = some first.drill.version := by
    simp [StackedRatchetInner.view, StackedRatchet.version, hfirst]
  have hversionBob : bob.view.version = some first.drill.version :=
    hsynced.agreed.version_eq ▸ hversionAlice
  obtain ⟨runs, srun, h⟩ := ExchangeRun.exists_steps hsound hparams hvalid hsym hlevel drawsAlice
    drawsBob first.drill.cid cid (first.drill.version + 1) (first.drill.version + 1)
  refine ⟨_, _, ?_, h.synced hparams, ?_⟩
  · rw [h.rekey_eq profile hopts hoptsBob hcid hversionAlice hversionBob rfl rfl rfl]
    rfl
  · rw [h.version_aliceRatchet, hversionAlice]
    rfl

/-- Rekeys one after another under one CID on both sides, from ratchets in step, all succeed
whatever the two sides draw, and end in ratchets in step, as many versions on as there were
rekeys. -/
theorem rekeys_synced (profile : BuildProfile) (cid : UInt64)
    (draws : List (ConstructorDraws × ConstructorDraws)) {alice bob : StackedRatchetInner}
    (hsynced : Synced prims params alice bob) :
    ∃ alice' bob', (rekeys prims profile cid cid draws (alice, bob)).run =
        some (.ok (alice', bob')) ∧ Synced prims params alice' bob' ∧
      alice'.view.version = alice.view.version.map (· + draws.length.toUInt32) := by
  induction draws generalizing alice bob with
  | nil => exact ⟨alice, bob, rfl, hsynced, by simp⟩
  | cons step draws ih =>
      obtain ⟨drawsAlice, drawsBob⟩ := step
      obtain ⟨alice₁, bob₁, hrun₁, hsynced₁, hversion₁⟩ :=
        rekey_synced hsound hvalid hsym profile hsynced cid drawsAlice drawsBob
      obtain ⟨alice₂, bob₂, hrun₂, hsynced₂, hversion₂⟩ := ih hsynced₁
      have hrekey : rekey prims profile alice bob cid cid drawsAlice drawsBob = pure (alice₁, bob₁) :=
        ExceptT.ext (by rw [hrun₁]; rfl)
      refine ⟨alice₂, bob₂, ?_, hsynced₂, ?_⟩
      · simp only [rekeys, hrekey, pure_bind]
        exact hrun₂
      · rw [hversion₂, hversion₁, Option.map_map]
        congr 1
        funext version
        simp only [Function.comp_apply, List.length_cons, Nat.toUInt32_eq, UInt32.ofNat_add,
          UInt32.ofNat_one]
        rw [UInt32.add_assoc, UInt32.add_comm 1]

/-- Key agreement over a session. For options of one valid set of parameters under a symmetric
algorithm, as many as the level has layers, the key exchange and every rekey after it, under one
CID on both sides, succeed whatever the two sides draw; the ratchets the session ends in agree,
as many versions after Bob's first as there were rekeys. -/
theorem keyExchange_rekeys_agreed (profile : BuildProfile) {opts : List ConstructorOpts}
    (hparams : ∀ o ∈ opts, o.cryptography.getD .default = params) {securityLevel : SecurityLevel}
    (hlevel : opts.length = securityLevel.value.toNat + 1) (cidAlice cidBob : UInt64)
    (versionAlice versionBob : UInt32) (drawsAlice drawsBob : ConstructorDraws) (cid : UInt64)
    (draws : List (ConstructorDraws × ConstructorDraws)) :
    ∃ alice bob, (keyExchange prims profile opts opts cidAlice cidBob versionAlice versionBob
        (some securityLevel) drawsAlice drawsBob >>= rekeys prims profile cid cid draws).run =
        some (.ok (alice, bob)) ∧ RatchetsAgreed prims alice bob ∧
      alice.view.version = some (versionBob + draws.length.toUInt32) := by
  obtain ⟨runs, srun, h⟩ := ExchangeRun.exists_steps hsound hparams hvalid hsym hlevel drawsAlice
    drawsBob cidAlice cidBob versionAlice versionBob
  obtain ⟨alice, bob, hrun, hsynced, hversion⟩ :=
    rekeys_synced hsound hvalid hsym profile cid draws (h.synced hparams)
  refine ⟨alice, bob, ?_, hsynced.agreed, ?_⟩
  · rw [h.keyExchange_eq profile, pure_bind]
    exact hrun
  · rw [hversion, h.version_aliceRatchet]
    rfl

end Session

/-- Three layers of XChaCha20-Poly1305 at the high level, from `new_vec_init`, and two rekeys,
every draw all zeros. -/
theorem keyExchange_rekeys_agreed_of_three_layers :
    validateCryptoParams ⟨.xchacha20Poly1305, .kyber, .none⟩ = .ok () ∧
      (⟨.xchacha20Poly1305, .kyber, .none⟩ : CryptoParameters).encryptionAlgorithm ≠ .kyber ∧
      ∃ alice bob, (keyExchange passThroughRatchetPrimitives .release
          (ConstructorOpts.newVecInit (some ⟨.xchacha20Poly1305, .kyber, .none⟩) 3)
          (ConstructorOpts.newVecInit (some ⟨.xchacha20Poly1305, .kyber, .none⟩) 3) 0 0 0 0
          (some .high) .zeros .zeros >>=
          rekeys passThroughRatchetPrimitives .release 0 0 [(.zeros, .zeros), (.zeros, .zeros)]).run =
          some (.ok (alice, bob)) ∧ RatchetsAgreed passThroughRatchetPrimitives alice bob ∧
        alice.view.version = some 2 :=
  ⟨rfl, by decide, keyExchange_rekeys_agreed passThroughRatchetPrimitives_sound (by rfl)
    (show (⟨.xchacha20Poly1305, .kyber, .none⟩ : CryptoParameters).encryptionAlgorithm ≠ .kyber by
      decide) .release (by simp [ConstructorOpts.newVecInit, ConstructorOpts.newInit]) rfl 0 0 0 0
    .zeros .zeros 0 _⟩

end CitadelProtocol.Crypt
