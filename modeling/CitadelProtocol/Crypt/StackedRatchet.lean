import CitadelProtocol.Crypt.PacketVector
import CitadelProtocol.Pqcrypto.Container

/-! # Layered packet protection by a stacked ratchet

A `StackedRatchet` holds one message layer for each security level, a drill and a post-quantum
container. `protect_message_packet` at level `s` runs `protect_packet` of the layers `0, …, s`
in turn, each wrapping the payload its predecessor produced and leaving the header alone.
`validate_message_packet_in_place_split` runs `validate_packet_in_place_split` of the layers
`s, …, 0`, so each layer peels its own wrapping, with its own PID, off the payload.

Each layer takes its nonce from its drill. `EntropyBank::get_nonce` computes it in floating
point; here it is the function `getNonce` of the drill, so two sides holding one drill use one
nonce. Both loops end at the first error; every container reached by then keeps what it
recorded, Alice's counters and Bob's histories alike.
-/

namespace CitadelProtocol.Crypt

open Bytes Outcome Pqcrypto

/-- `MessageRatchetInner`: one message layer, a drill and its post-quantum container. -/
structure MessageRatchetInner where
  drill : EntropyBank
  pqc : PostQuantumContainer

/-- The message layers of a `StackedRatchet`, one for each security level. -/
structure StackedRatchet where
  message : List MessageRatchetInner

/-- `CryptError`, as the stacked ratchet raises it. A container's error is kept whole, where the
source keeps its debug text. -/
inductive RatchetError
  | encrypt (err : PqError)
  | outOfBoundsError
  deriving DecidableEq, Repr

namespace StackedRatchet

/-- `get_cid`: the CID of the first layer's drill; a ratchet with no layer panics. -/
def getCid (r : StackedRatchet) : Option UInt64 := r.message.head?.map (·.drill.cid)

/-- `version`: the version of the first layer's drill. -/
def version (r : StackedRatchet) : Option UInt32 := r.message.head?.map (·.drill.version)

section Loops

-- `EntropyBank::get_nonce`, as a function of the drill
variable (getNonce : EntropyBank → Nat → List UInt8)

/-- `verify_level`: the level's value, when there is a layer for it. The default level is
`Standard`. -/
def verifyLevel (r : StackedRatchet) (securityLevel : Option SecurityLevel) :
    Except RatchetError Nat :=
  let securityLevel := securityLevel.getD .standard
  if r.message.length ≤ securityLevel.value.toNat then .error .outOfBoundsError
  else .ok securityLevel.value.toNat

/-- `verify_level` reads only how many layers the ratchet has. -/
theorem verifyLevel_of_length_eq {r r' : StackedRatchet} (hlength : r.message.length = r'.message.length)
    (securityLevel : Option SecurityLevel) :
    r.verifyLevel securityLevel = r'.verifyLevel securityLevel := by
  simp [verifyLevel, hlength]

/-- `verify_level` reads only the level's value. -/
theorem verifyLevel_of_value_eq (r : StackedRatchet) {l l' : SecurityLevel}
    (hvalue : l.value = l'.value) : r.verifyLevel (some l) = r.verifyLevel (some l') := by
  simp [verifyLevel, hvalue]

/-- A level that verifies names one of the ratchet's layers. -/
theorem lt_length_of_verifyLevel {r : StackedRatchet} {securityLevel : Option SecurityLevel}
    {idx : Nat} (h : r.verifyLevel securityLevel = .ok idx) : idx < r.message.length := by
  simp only [verifyLevel] at h
  split at h
  · cases h
  · cases h
    omega

/-- The loop of `protect_message_packet`, the `n`-th layer drawing from `tapes n`: each layer's
`protect_packet` protects what the previous one produced, and the first error ends the loop.
Every layer reached has drawn a PID. -/
def protectLayers (tapes : Nat → RandomTape) (headerLenBytes : Nat) :
    Nat → List MessageRatchetInner → List UInt8 →
      List MessageRatchetInner × ExceptT RatchetError Option (List UInt8)
  | _, [], packet => ([], pure packet)
  | n, layer :: rest, packet =>
      let protection :=
        layer.pqc.protectPacketInPlace (tapes n) headerLenBytes packet (getNonce layer.drill 0)
      let layer := { layer with pqc := protection.1 }
      match protection.2.run with
      | some (.ok packet) =>
          let after := protectLayers tapes headerLenBytes (n + 1) rest packet
          (layer :: after.1, after.2)
      | some (.error err) => (layer :: rest, throw (.encrypt err))
      | none => (layer :: rest, abort)

/-- `protect_message_packet`: the layers `0, …, idx` protect the packet in turn. -/
def protectMessagePacket (r : StackedRatchet) (tapes : Nat → RandomTape)
    (securityLevel : Option SecurityLevel) (headerLenBytes : Nat) (packet : List UInt8) :
    StackedRatchet × ExceptT RatchetError Option (List UInt8) :=
  match r.verifyLevel securityLevel with
  | .error err => (r, throw err)
  | .ok idx =>
      let after := protectLayers getNonce tapes headerLenBytes 0 (r.message.take (idx + 1)) packet
      (⟨after.1 ++ r.message.drop (idx + 1)⟩, after.2)

/-- The loop of `validate_message_packet_in_place_split` over the layers in the order given:
each layer's `validate_packet_in_place_split` opens what the previous one left, and the first
error ends the loop. -/
def validateLayers (header : List UInt8) :
    List MessageRatchetInner → List UInt8 →
      List MessageRatchetInner × ExceptT RatchetError Option (List UInt8)
  | [], packet => ([], pure packet)
  | layer :: rest, packet =>
      match (layer.pqc.validatePacketInPlace header packet (getNonce layer.drill 0)).run with
      | some (.ok (packet, pqc)) =>
          let after := validateLayers header rest packet
          ({ layer with pqc } :: after.1, after.2)
      | some (.error err) => (layer :: rest, throw (.encrypt err))
      | none => (layer :: rest, abort)

/-- `validate_message_packet_in_place_split`: the layers `idx, …, 0` validate the payload in
turn, under the header split off before. -/
def validateMessagePacketInPlaceSplit (r : StackedRatchet) (securityLevel : Option SecurityLevel)
    (header packet : List UInt8) : StackedRatchet × ExceptT RatchetError Option (List UInt8) :=
  match r.verifyLevel securityLevel with
  | .error err => (r, throw err)
  | .ok idx =>
      let after := validateLayers getNonce header (r.message.take (idx + 1)).reverse packet
      (⟨after.1.reverse ++ r.message.drop (idx + 1)⟩, after.2)

/-! ## Runs of the loops -/

/-- A protection loop succeeds exactly when its first layer does and the rest succeeds from
there. -/
theorem protectLayers_cons_eq_ok {tapes : Nat → RandomTape} {headerLenBytes n : Nat}
    {layer : MessageRatchetInner} {rest : List MessageRatchetInner} {packet out : List UInt8} :
    (protectLayers getNonce tapes headerLenBytes n (layer :: rest) packet).2.run =
        some (.ok out) ↔
      ∃ protectedPacket, (layer.pqc.protectPacketInPlace (tapes n) headerLenBytes packet
          (getNonce layer.drill 0)).2.run = some (.ok protectedPacket) ∧
        (protectLayers getNonce tapes headerLenBytes (n + 1) rest protectedPacket).2.run =
          some (.ok out) := by
  simp only [protectLayers]
  cases hprotect : (layer.pqc.protectPacketInPlace (tapes n) headerLenBytes packet
      (getNonce layer.drill 0)).2.run with
  | none => simp
  | some result => cases result <;> simp

/-- Run lemma: validating the layers of `first` and then those of `second` is validating
`second` from what `first` left. -/
theorem validateLayers_append_of_ok {header : List UInt8} {second : List MessageRatchetInner} :
    ∀ {first : List MessageRatchetInner} {payload middle : List UInt8},
      (validateLayers getNonce header first payload).2.run = some (.ok middle) →
        (validateLayers getNonce header (first ++ second) payload).2 =
          (validateLayers getNonce header second middle).2
  | [], payload, middle, hfirst => by
      simp only [validateLayers, Outcome.run_pure, Option.some.injEq, Except.ok.injEq] at hfirst
      rw [List.nil_append, hfirst]
  | layer :: rest, payload, middle, hfirst => by
      simp only [List.cons_append, validateLayers] at hfirst ⊢
      cases hvalidate : (layer.pqc.validatePacketInPlace header payload
          (getNonce layer.drill 0)).run with
      | none => simp [hvalidate] at hfirst
      | some result =>
          cases result with
          | error err => simp [hvalidate] at hfirst
          | ok value =>
              obtain ⟨opened, pqc⟩ := value
              simp only [hvalidate] at hfirst ⊢
              exact validateLayers_append_of_ok hfirst

end Loops

/-! ## The round trip -/

/-- Two layers of one key exchange, as `alice` sends to `bob`: one drill, and containers whose
keys `KeyExchangePair` relates. -/
structure LayerPair (alice bob : MessageRatchetInner) : Prop where
  drill : alice.drill = bob.drill
  keys : PostQuantumContainer.KeyExchangePair alice.pqc bob.pqc

/-- Bob's container of a layer has not received, since it was created or reset, the PID that
Alice's container draws next. -/
def LayerFresh (alice bob : MessageRatchetInner) : Prop :=
  ∃ seen, bob.pqc.antiReplayAttack.history =
      (AntiReplayAttackContainer.default.onPidsReceived seen).2.history ∧
    alice.pqc.antiReplayAttack.counterOut ∉ seen

section RoundTrip

variable {getNonce : EntropyBank → Nat → List UInt8}

/-- The layers of one key exchange, Bob's fresh for Alice's PIDs, validate in reverse what
Alice's protect in order: the header is kept, and the payload comes back. -/
theorem validateLayers_protectLayers {tapes : Nat → RandomTape} {headerLen : Nat} :
    ∀ {alices bobs : List MessageRatchetInner},
      List.Forall₂ LayerPair alices bobs → List.Forall₂ LayerFresh alices bobs →
      ∀ {n : Nat} {packet out : List UInt8},
        (protectLayers getNonce tapes headerLen n alices packet).2.run = some (.ok out) →
          out.take headerLen = packet.take headerLen ∧
            (validateLayers getNonce (packet.take headerLen) bobs.reverse
              (out.drop headerLen)).2.run = some (.ok (packet.drop headerLen))
  | [], [], _, _, n, packet, out, hprotect => by
      simp only [protectLayers, Outcome.run_pure, Option.some.injEq, Except.ok.injEq] at hprotect
      subst hprotect
      exact ⟨rfl, rfl⟩
  | alice :: alices, bob :: bobs, .cons hpair hpairs, .cons hfresh hfreshs, n, packet, out,
      hprotect => by
      obtain ⟨protectedPacket, hlayer, hrest⟩ := (protectLayers_cons_eq_ok getNonce).mp hprotect
      obtain ⟨seen, hhistory, hpid⟩ := hfresh
      -- Bob's layer opens Alice's under the same nonce, since they share the drill
      rw [hpair.drill] at hlayer
      obtain ⟨hheader, bob', hvalidate, -⟩ :=
        PostQuantumContainer.validatePacketInPlace_protectPacketInPlace hpair.keys hhistory hpid
          hlayer
      -- the layers above this one peel down to this layer's output
      obtain ⟨hheader', hinner⟩ := validateLayers_protectLayers hpairs hfreshs hrest
      rw [hheader] at hheader' hinner hvalidate
      refine ⟨hheader', ?_⟩
      rw [List.reverse_cons, validateLayers_append_of_ok getNonce hinner]
      simp only [validateLayers, hvalidate, Outcome.run_pure]

/-- The round trip with Bob at a level of his own: whatever levels the two name, as long as both
verify to one layer count, Bob's validation opens Alice's protection. -/
theorem validateMessagePacketInPlaceSplit_of_levels {alice bob : StackedRatchet}
    (hpair : List.Forall₂ LayerPair alice.message bob.message)
    {aliceLevel bobLevel : Option SecurityLevel} {idx : Nat}
    (hlevel : alice.verifyLevel aliceLevel = .ok idx) (hbobLevel : bob.verifyLevel bobLevel = .ok idx)
    (hfresh : List.Forall₂ LayerFresh (alice.message.take (idx + 1)) (bob.message.take (idx + 1)))
    {tapes : Nat → RandomTape} {headerLen : Nat} {packet out : List UInt8}
    (hprotect : (alice.protectMessagePacket getNonce tapes aliceLevel headerLen packet).2.run =
      some (.ok out)) :
    out.take headerLen = packet.take headerLen ∧
      (bob.validateMessagePacketInPlaceSplit getNonce bobLevel (out.take headerLen)
        (out.drop headerLen)).2.run = some (.ok (packet.drop headerLen)) := by
  simp only [protectMessagePacket, hlevel] at hprotect
  obtain ⟨hheader, hvalidate⟩ :=
    validateLayers_protectLayers (List.forall₂_take (idx + 1) hpair) hfresh hprotect
  refine ⟨hheader, ?_⟩
  simp only [validateMessagePacketInPlaceSplit, hbobLevel, hheader]
  exact hvalidate

/-- Layered round trip. For ratchets of one key exchange, at a level Alice's ratchet has a layer
for, Bob's containers not having received Alice's PIDs: splitting off the header of Alice's
protected packet, Bob's validation of the rest succeeds and gives back the payload, and the
header is the packet's own. -/
theorem validateMessagePacketInPlaceSplit_protectMessagePacket {alice bob : StackedRatchet}
    (hpair : List.Forall₂ LayerPair alice.message bob.message)
    {securityLevel : Option SecurityLevel} {idx : Nat}
    (hlevel : alice.verifyLevel securityLevel = .ok idx)
    (hfresh : List.Forall₂ LayerFresh (alice.message.take (idx + 1)) (bob.message.take (idx + 1)))
    {tapes : Nat → RandomTape} {headerLen : Nat} {packet out : List UInt8}
    (hprotect : (alice.protectMessagePacket getNonce tapes securityLevel headerLen packet).2.run =
      some (.ok out)) :
    out.take headerLen = packet.take headerLen ∧
      (bob.validateMessagePacketInPlaceSplit getNonce securityLevel (out.take headerLen)
        (out.drop headerLen)).2.run = some (.ok (packet.drop headerLen)) := by
  -- Bob's ratchet has as many layers, so it verifies the level alike
  have hbobLevel : bob.verifyLevel securityLevel = .ok idx :=
    (verifyLevel_of_length_eq hpair.length_eq securityLevel).symm.trans hlevel
  exact validateMessagePacketInPlaceSplit_of_levels hpair hlevel hbobLevel hfresh hprotect

end RoundTrip

/-- A one-layer ratchet under AES-GCM-SIV whose keys append a zero tag, with a fresh container
for `node`. -/
def zeroTagRatchet (node : PQNode) : StackedRatchet :=
  ⟨[⟨⟨0, 0, [(0, 0)], List.cons_ne_nil _ _⟩,
    ⟨node, .aesGcm256Siv, some ⟨some zeroTagAead, some zeroTagAead⟩,
      AntiReplayAttackContainer.default⟩⟩]⟩

/-- Alice's and Bob's zero-tag ratchets hold the layer of one key exchange. -/
theorem zeroTagRatchet_layerPair :
    List.Forall₂ LayerPair (zeroTagRatchet .alice).message (zeroTagRatchet .bob).message := by
  have hkeys : PostQuantumContainer.KeyExchangePair (zeroTagRatchet .alice).message[0].pqc
      (zeroTagRatchet .bob).message[0].pqc :=
    { alice_node := rfl
      bob_node := rfl
      algorithm := rfl
      symmetric := fun _ => ⟨zeroTagAead, zeroTagAead, rfl, rfl, zeroTagAead_opens.decrypts⟩
      kyber := fun hkyber => absurd hkyber (by decide) }
  exact .cons ⟨rfl, hkeys⟩ .nil

/-- At the default level the one layer protects `[1, 2, 3]` under a one-byte header, and Bob's
ratchet gets `[2, 3]` back. -/
theorem validateMessagePacketInPlaceSplit_protectMessagePacket_of_zero_tags :
    List.Forall₂ LayerPair (zeroTagRatchet .alice).message (zeroTagRatchet .bob).message ∧
      (zeroTagRatchet .alice).verifyLevel none = .ok 0 ∧
      List.Forall₂ LayerFresh ((zeroTagRatchet .alice).message.take 1)
        ((zeroTagRatchet .bob).message.take 1) ∧
      ∃ out, ((zeroTagRatchet .alice).protectMessagePacket (fun _ _ => []) (fun _ _ => 0) none 1
          [1, 2, 3]).2.run = some (.ok out) ∧
        out.take 1 = [1] ∧
        ((zeroTagRatchet .bob).validateMessagePacketInPlaceSplit (fun _ _ => []) none (out.take 1)
          (out.drop 1)).2.run = some (.ok [2, 3]) := by
  have hpair := zeroTagRatchet_layerPair
  have hlevel : (zeroTagRatchet .alice).verifyLevel none = .ok 0 := rfl
  have hfresh : List.Forall₂ LayerFresh ((zeroTagRatchet .alice).message.take 1)
      ((zeroTagRatchet .bob).message.take 1) :=
    .cons ⟨[], rfl, List.not_mem_nil⟩ .nil
  obtain ⟨out, hprotect⟩ : ∃ out, ((zeroTagRatchet .alice).protectMessagePacket (fun _ _ => [])
      (fun _ _ => 0) none 1 [1, 2, 3]).2.run = some (.ok out) := ⟨_, rfl⟩
  exact ⟨hpair, hlevel, hfresh, out, hprotect,
    validateMessagePacketInPlaceSplit_protectMessagePacket hpair hlevel hfresh hprotect⟩

end StackedRatchet

end CitadelProtocol.Crypt
