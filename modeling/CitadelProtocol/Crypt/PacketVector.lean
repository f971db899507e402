import Mathlib.Tactic

/-! # Scramble drills and packet vectors

A drill's `scramble_mappings` list the `(in, out)` port pairs of a wave; its
length is the multiport width, the number of packets in a full wave. A packet's
true sequence number is split into a wave id and a position in the wave, and the
position is published as the port pair at that index. The receiver inverts this
by searching the mappings for the pair it read from the packet.

The pair is published through one byte per port, so the inversion recovers the
position whenever the mappings are pairwise distinct once reduced to bytes; the
mappings `create_port_mapping` builds use the ports `0 .. PORT_RANGE`.
-/

namespace CitadelProtocol.Crypt

/-- `PORT_RANGE`, the width of the mappings `create_port_mapping` builds. -/
def portRange : Nat := 14

/-- The part of an `EntropyBank` the splitter reads: its owner, its version, and its port
mappings, of which there is at least one. -/
structure EntropyBank where
  cid : UInt64
  version : UInt32
  scrambleMappings : List (UInt16 × UInt16)
  scrambleMappings_ne_nil : scrambleMappings ≠ []

namespace EntropyBank

/-- `get_multiport_width`. -/
def getMultiportWidth (drill : EntropyBank) : Nat := drill.scrambleMappings.length

theorem getMultiportWidth_pos (drill : EntropyBank) : 0 < drill.getMultiportWidth :=
  List.length_pos_iff.mpr drill.scrambleMappings_ne_nil

end EntropyBank

/-- The possible results of `create_port_mapping`: `PORT_RANGE` pairs whose in-ports and
out-ports are each a permutation of `0 .. PORT_RANGE`. -/
def IsPortMapping (mappings : List (UInt16 × UInt16)) : Prop :=
  (mappings.map Prod.fst).Perm ((List.range portRange).map Nat.toUInt16) ∧
    (mappings.map Prod.snd).Perm ((List.range portRange).map Nat.toUInt16)

/-- `PacketVector`: where a packet sits in its group. -/
structure PacketVector where
  groupId : UInt64
  waveId : UInt32
  localPort : UInt16
  remotePort : UInt16
  trueSequence : Nat
  deriving DecidableEq, Repr

/-- `generate_packet_vector`: the wave is the quotient by the multiport width, and the
remainder selects the port pair. -/
def generatePacketVector (trueSequence : Nat) (groupId : UInt64) (drill : EntropyBank) :
    PacketVector :=
  let portRange := drill.getMultiportWidth
  let trueWaveId := trueSequence / portRange
  let relativeSequence := trueSequence % portRange
  let ports := drill.scrambleMappings.get
    ⟨relativeSequence, Nat.mod_lt _ drill.getMultiportWidth_pos⟩
  { groupId := groupId
    waveId := trueWaveId.toUInt32
    localPort := ports.1
    remotePort := ports.2
    trueSequence := trueSequence }

/-- The loop of `generate_packet_coordinates_inv` from index `idx` on. -/
def findPortIndex (srcPort localPort : UInt16) : List (UInt16 × UInt16) → Nat → Option Nat
  | [], _ => none
  | (inPort, outPort) :: rest, idx =>
      if inPort = srcPort ∧ outPort = localPort then some idx
      else findPortIndex srcPort localPort rest (idx + 1)

/-- `generate_packet_coordinates_inv`: the true sequence of the first mapping that matches
the ports read from a packet. -/
def generatePacketCoordinatesInv (waveId : UInt32) (srcPort localPort : UInt16)
    (scrambleDrill : EntropyBank) : Option Nat :=
  (findPortIndex srcPort localPort scrambleDrill.scrambleMappings 0).map fun idx =>
    waveId.toNat * scrambleDrill.scrambleMappings.length + idx

/-- A port as `craft_wave_payload_packet_into` writes it (`as u8`) and the receiver reads it
back (`as u16`). -/
def portThroughByte (port : UInt16) : UInt16 := port.toUInt8.toUInt16

/-! ## Inverting a packet vector -/

/-- In a list of distinct pairs, the search finds each pair at its own index. -/
theorem findPortIndex_getElem {mappings : List (UInt16 × UInt16)} (hnodup : mappings.Nodup)
    {i : Nat} (hi : i < mappings.length) (start : Nat) :
    findPortIndex mappings[i].1 mappings[i].2 mappings start = some (start + i) := by
  induction mappings generalizing i start with
  | nil => simp at hi
  | cons head rest ih =>
      obtain ⟨hhead, hrest⟩ := List.nodup_cons.mp hnodup
      cases i with
      | zero => simp [findPortIndex]
      | succ i =>
          have hi' : i < rest.length := by simpa using hi
          have hne : head ≠ rest[i] := fun heq => hhead (heq ▸ List.getElem_mem hi')
          have hmiss : ¬ (head.1 = rest[i].1 ∧ head.2 = rest[i].2) := fun h =>
            hne (Prod.ext h.1 h.2)
          simp only [List.getElem_cons_succ, findPortIndex, hmiss, if_false]
          rw [ih hrest hi' (start + 1)]
          congr 1
          omega

theorem generatePacketVector_ports (trueSequence : Nat) (groupId : UInt64) (drill : EntropyBank)
    (hmod : trueSequence % drill.scrambleMappings.length < drill.scrambleMappings.length) :
    (generatePacketVector trueSequence groupId drill).localPort =
        drill.scrambleMappings[trueSequence % drill.scrambleMappings.length].1 ∧
      (generatePacketVector trueSequence groupId drill).remotePort =
        drill.scrambleMappings[trueSequence % drill.scrambleMappings.length].2 :=
  ⟨rfl, rfl⟩

theorem generatePacketVector_waveId (trueSequence : Nat) (groupId : UInt64) (drill : EntropyBank) :
    (generatePacketVector trueSequence groupId drill).waveId =
      (trueSequence / drill.scrambleMappings.length).toUInt32 :=
  rfl

theorem portThroughByte_of_lt {port : UInt16} (hport : port.toNat < 256) :
    portThroughByte port = port := by
  rw [← UInt16.toNat_inj]
  simp [portThroughByte, Nat.mod_eq_of_lt hport]

/-- Reading back the ports of a packet vector through their bytes recovers its true
sequence, when the mappings are distinct, their ports fit in a byte and the wave id fits
in `u32`. -/
theorem generatePacketCoordinatesInv_generatePacketVector {drill : EntropyBank}
    (hnodup : drill.scrambleMappings.Nodup)
    (hports : ∀ pair ∈ drill.scrambleMappings, pair.1.toNat < 256 ∧ pair.2.toNat < 256)
    {trueSequence : Nat} (hwave : trueSequence / drill.getMultiportWidth < 2 ^ 32)
    (groupId : UInt64) :
    let vector := generatePacketVector trueSequence groupId drill
    generatePacketCoordinatesInv vector.waveId (portThroughByte vector.localPort)
      (portThroughByte vector.remotePort) drill = some trueSequence := by
  intro vector
  have hpos := drill.getMultiportWidth_pos
  simp only [EntropyBank.getMultiportWidth] at hpos hwave
  have hmod : trueSequence % drill.scrambleMappings.length < drill.scrambleMappings.length :=
    Nat.mod_lt _ hpos
  have hpair := hports _ (List.getElem_mem hmod)
  obtain ⟨hlocal, hremote⟩ := generatePacketVector_ports trueSequence groupId drill hmod
  simp only [vector, hlocal, hremote, generatePacketVector_waveId, portThroughByte_of_lt hpair.1,
    portThroughByte_of_lt hpair.2, generatePacketCoordinatesInv]
  rw [findPortIndex_getElem hnodup hmod 0]
  have hwaveId : (trueSequence / drill.scrambleMappings.length).toUInt32.toNat =
      trueSequence / drill.scrambleMappings.length := by
    simpa [Nat.toUInt32] using hwave
  simp only [Option.map_some, Nat.zero_add, Option.some.injEq, hwaveId]
  exact Nat.div_add_mod' trueSequence drill.scrambleMappings.length

end CitadelProtocol.Crypt
