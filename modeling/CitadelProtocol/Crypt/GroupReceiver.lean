import CitadelProtocol.Lib.Reachability
import CitadelProtocol.Crypt.CryptSplitter

/-! # Reassembling a group

`GroupReceiver::new` allocates one ciphertext buffer per wave from a `GroupReceiverConfig`,
and `on_packet_received` writes each packet into its wave's buffer at the range
`get_ciphertext_insertion_range` computes. When a wave has received as many packets as its
store expects, its ciphertext is decrypted into the plaintext slab and the store is freed;
the group is complete once no store is left.

Panics of the source (a slice out of range, an arithmetic underflow) are `none`. The hash map
of wave stores, whose keys are the wave ids `0, …, wave_count - 1`, is a list indexed by wave id
in which a freed store is `none`.
-/

namespace CitadelProtocol.Crypt

open Bytes

/-- `GroupReceiverStatus`. -/
inductive GroupReceiverStatus
  | groupComplete (lastWaveId : UInt32)
  | invalidPacket
  | alreadyReceived
  | insertSuccess
  | corruptWave
  | waveComplete (waveId : UInt32)
  | needsRetransmission (waveId : UInt32)
  deriving DecidableEq, Repr

/-- `TempWaveStore`, without its receive time. -/
structure TempWaveStore where
  packetsReceived : Nat
  packetsInWave : Nat
  bytesWritten : Nat
  ciphertextBuffer : List UInt8
  deriving DecidableEq, Repr

/-- `GroupReceiver`, without its timers. -/
structure GroupReceiver where
  unifiedPlaintextSlab : List UInt8
  tempWaveStore : List (Option TempWaveStore)
  packetsReceivedOrder : List Bool
  wavesReceived : List Bool
  packetsNeeded : Nat
  maxPayloadSize : Nat
  lastPayloadSize : Nat
  maxPacketsPerWave : Nat
  maxPlaintextWaveLength : Nat
  lastPlaintextWaveLength : Nat
  waveCount : Nat
  lowestSequentialWaveCompleted : Int
  lastCompleteWave : Int
  deriving DecidableEq, Repr

namespace GroupReceiver

/-- The store of a wave, if it has one that is not yet freed. -/
def waveStore (r : GroupReceiver) (waveId : Nat) : Option TempWaveStore :=
  r.tempWaveStore[waveId]?.join

/-- The store `new` allocates for a wave: the last wave's buffer holds its full packets and the
last payload. -/
def newWaveStore (cfg : GroupReceiverConfig) (waveIdCur : Nat) : TempWaveStore :=
  let (ciphertextBufferAllocSizeForSingleWave, packetsInWave) :=
    if waveIdCur = cfg.waveCount - 1 then
      let packetsInLastWave := cfg.getPacketCountInWave waveIdCur
      let normalPacketCount := packetsInLastWave - 1
      (normalPacketCount * cfg.maxPayloadSize + cfg.lastPayloadSize, packetsInLastWave)
    else
      (cfg.maxPayloadSize * cfg.maxPacketsPerWave, cfg.maxPacketsPerWave)
  { bytesWritten := 0
    packetsReceived := 0
    packetsInWave := packetsInWave
    ciphertextBuffer := List.replicate ciphertextBufferAllocSizeForSingleWave 0 }

/-- `GroupReceiver::new`. -/
def new (cfg : GroupReceiverConfig) : GroupReceiver where
  unifiedPlaintextSlab := List.replicate cfg.plaintextLength 0
  tempWaveStore := (List.range cfg.waveCount).map fun waveIdCur => some (newWaveStore cfg waveIdCur)
  packetsReceivedOrder := List.replicate cfg.packetsNeeded false
  wavesReceived := List.replicate cfg.waveCount false
  packetsNeeded := cfg.packetsNeeded
  maxPayloadSize := cfg.maxPayloadSize
  lastPayloadSize := cfg.lastPayloadSize
  maxPacketsPerWave := cfg.maxPacketsPerWave
  maxPlaintextWaveLength := cfg.maxPlaintextWaveLength
  lastPlaintextWaveLength := cfg.lastPlaintextWaveLength
  waveCount := cfg.waveCount
  lowestSequentialWaveCompleted := -1
  lastCompleteWave := -1

/-- `get_ciphertext_insertion_range`. The very last packet of the group goes to the end of its
wave's buffer, any other at its index in the wave. A remainder by zero panics, and so does a
last payload longer than the buffer: the subtraction underflows in a debug build and the
wrapped start lies past the end in a release build. -/
def getCiphertextInsertionRange (trueSequence maxPacketsPerWave packetsNeeded lastPayloadSize
    maxPayloadSize : Nat) (store : TempWaveStore) : Option (Nat × Nat) :=
  if maxPacketsPerWave = 0 then none
  else
    let packetIdxRelativeToWave := trueSequence % maxPacketsPerWave
    -- reached only with `true_sequence < packets_needed`, so `packets_needed - 1` does not wrap
    if trueSequence = packetsNeeded - 1 then
      let len := store.ciphertextBuffer.length
      if lastPayloadSize ≤ len then some (len - lastPayloadSize, len) else none
    else
      let startIdx := maxPayloadSize * packetIdxRelativeToWave
      some (startIdx, maxPayloadSize + startIdx)

/-- The end of `on_packet_received` for a wave whose store has all its packets: decrypt the
bytes written, copy the plaintext into the slab at the wave's offset and free the store. -/
def onWaveComplete (cipher : WaveCipher) (r : GroupReceiver) (groupId : UInt64)
    (waveId : UInt32) (store : TempWaveStore) : Option (GroupReceiverStatus × GroupReceiver) :=
  if store.ciphertextBuffer.length < store.bytesWritten then none
  else
    let ciphertextBytesForThisWave := store.ciphertextBuffer.take store.bytesWritten
    match cipher.decrypt (calculateNonceVersion waveId.toNat groupId) ciphertextBytesForThisWave with
    | none => some (.corruptWave, r)
    | some plaintext =>
        let startIdx := waveId.toNat * r.maxPlaintextWaveLength
        match copyInto r.unifiedPlaintextSlab startIdx (startIdx + plaintext.length) plaintext with
        | none => none
        | some slab =>
            let tempWaveStore := r.tempWaveStore.set waveId.toNat none
            if tempWaveStore.all Option.isNone then
              some (.groupComplete waveId,
                { r with unifiedPlaintextSlab := slab, tempWaveStore := tempWaveStore })
            else
              let lowest : Int :=
                if (waveId.toNat : Int) - 1 = r.lowestSequentialWaveCompleted then waveId.toNat
                else r.lowestSequentialWaveCompleted
              some (.waveComplete waveId,
                { r with
                  unifiedPlaintextSlab := slab
                  tempWaveStore := tempWaveStore
                  lowestSequentialWaveCompleted := lowest
                  wavesReceived := r.wavesReceived.set waveId.toNat true
                  lastCompleteWave := waveId.toNat })

/-- The write of `on_packet_received`: copy the packet into its range of the wave's buffer and
count it. -/
def insertPacket (r : GroupReceiver) (store : TempWaveStore) (trueSequence : Nat)
    (packet : List UInt8) : Option TempWaveStore := do
  let (startIdx, endIdx) ← getCiphertextInsertionRange trueSequence r.maxPacketsPerWave
    r.packetsNeeded r.lastPayloadSize r.maxPayloadSize store
  let buffer ← copyInto store.ciphertextBuffer startIdx endIdx packet
  pure { store with
    ciphertextBuffer := buffer
    packetsReceived := store.packetsReceived + 1
    bytesWritten := store.bytesWritten + packet.length }

/-- `on_packet_received`. The packet's bit is set before its wave store is looked up. -/
def onPacketReceived (cipher : WaveCipher) (r : GroupReceiver) (groupId : UInt64)
    (trueSequence : Nat) (waveId : UInt32) (packet : List UInt8) :
    Option (GroupReceiverStatus × GroupReceiver) :=
  match r.packetsReceivedOrder[trueSequence]? with
  | none => some (.invalidPacket, r)
  | some true => some (.alreadyReceived, r)
  | some false =>
      let r := { r with packetsReceivedOrder := r.packetsReceivedOrder.set trueSequence true }
      match r.waveStore waveId.toNat with
      | none => some (.invalidPacket, r)
      | some store =>
          match insertPacket r store trueSequence packet with
          | none => none
          | some store =>
              let r := { r with tempWaveStore := r.tempWaveStore.set waveId.toNat (some store) }
              if store.packetsReceived = store.packetsInWave then
                onWaveComplete cipher r groupId waveId store
              else
                some (.insertSuccess, r)

/-- `finalize`. -/
def finalize (r : GroupReceiver) : List UInt8 := r.unifiedPlaintextSlab

/-! ## What one call does -/

theorem waveStore_set {r : GroupReceiver} {w : Nat} {store : TempWaveStore}
    (hw : r.waveStore w = some store) (newStore : Option TempWaveStore) (v : Nat) :
    ({ r with tempWaveStore := r.tempWaveStore.set w newStore } : GroupReceiver).waveStore v =
      if v = w then newStore else r.waveStore v := by
  have hlt : w < r.tempWaveStore.length := by
    by_contra hge
    simp [waveStore, List.getElem?_eq_none (Nat.le_of_not_lt hge)] at hw
  unfold waveStore
  by_cases hv : v = w
  · subst hv
    simp [hlt]
  · simp [hv, List.getElem?_set_ne (Ne.symm hv)]

theorem getCiphertextInsertionRange_of_ne_last {trueSequence maxPacketsPerWave packetsNeeded
      lastPayloadSize maxPayloadSize : Nat} {store : TempWaveStore} (hwave : 0 < maxPacketsPerWave)
    (hlast : trueSequence ≠ packetsNeeded - 1) :
    getCiphertextInsertionRange trueSequence maxPacketsPerWave packetsNeeded lastPayloadSize
        maxPayloadSize store =
      some (maxPayloadSize * (trueSequence % maxPacketsPerWave),
        maxPayloadSize + maxPayloadSize * (trueSequence % maxPacketsPerWave)) := by
  simp [getCiphertextInsertionRange, Nat.pos_iff_ne_zero.1 hwave, hlast]

theorem insertPacket_of_range {r : GroupReceiver} {store : TempWaveStore} {trueSequence : Nat}
    {packet : List UInt8} {startIdx endIdx : Nat}
    (hrange : getCiphertextInsertionRange trueSequence r.maxPacketsPerWave r.packetsNeeded
      r.lastPayloadSize r.maxPayloadSize store = some (startIdx, endIdx)) :
    r.insertPacket store trueSequence packet =
      (copyInto store.ciphertextBuffer startIdx endIdx packet).map fun buffer =>
        { store with
          ciphertextBuffer := buffer
          packetsReceived := store.packetsReceived + 1
          bytesWritten := store.bytesWritten + packet.length } := by
  simp only [insertPacket, hrange, Option.bind_eq_bind, Option.bind_some, Option.pure_def]
  cases copyInto store.ciphertextBuffer startIdx endIdx packet <;> rfl

/-- A packet other than the group's last goes to its index in the wave. -/
theorem insertPacket_of_ne_last {r : GroupReceiver} {store : TempWaveStore} {trueSequence : Nat}
    {packet : List UInt8} (hwave : 0 < r.maxPacketsPerWave)
    (hlast : trueSequence ≠ r.packetsNeeded - 1) :
    r.insertPacket store trueSequence packet =
      (copyInto store.ciphertextBuffer (r.maxPayloadSize * (trueSequence % r.maxPacketsPerWave))
          (r.maxPayloadSize + r.maxPayloadSize * (trueSequence % r.maxPacketsPerWave)) packet).map
        fun buffer =>
          { store with
            ciphertextBuffer := buffer
            packetsReceived := store.packetsReceived + 1
            bytesWritten := store.bytesWritten + packet.length } :=
  insertPacket_of_range (getCiphertextInsertionRange_of_ne_last hwave hlast)

theorem insertPacket_spec {r : GroupReceiver} {store store' : TempWaveStore} {trueSequence : Nat}
    {packet : List UInt8} (h : r.insertPacket store trueSequence packet = some store') :
    store'.packetsInWave = store.packetsInWave ∧
      store'.packetsReceived = store.packetsReceived + 1 ∧
      store'.bytesWritten = store.bytesWritten + packet.length ∧
      store'.ciphertextBuffer.length = store.ciphertextBuffer.length := by
  simp only [insertPacket, Option.bind_eq_bind, Option.bind_eq_some_iff, Option.pure_def,
    Option.some.injEq] at h
  obtain ⟨⟨startIdx, endIdx⟩, -, buffer, hbuffer, rfl⟩ := h
  exact ⟨rfl, rfl, rfl, length_of_copyInto hbuffer⟩

/-- What the end of a wave can do: report a corrupt wave and change nothing, or free the wave's
store and report the wave or, when no store is left, the group complete. -/
theorem onWaveComplete_cases {cipher : WaveCipher} {r r' : GroupReceiver} {groupId : UInt64}
    {waveId : UInt32} {store : TempWaveStore} {status : GroupReceiverStatus}
    (h : onWaveComplete cipher r groupId waveId store = some (status, r')) :
    (status = .corruptWave ∧ r' = r) ∨
      (r'.tempWaveStore = r.tempWaveStore.set waveId.toNat none ∧
        ((status = .groupComplete waveId ∧ r'.tempWaveStore.all Option.isNone) ∨
          status = .waveComplete waveId)) := by
  unfold onWaveComplete at h
  split at h
  · cases h
  dsimp only at h
  split at h
  case h_1 => cases h; exact .inl ⟨rfl, rfl⟩
  case h_2 plaintext _ =>
    split at h
    case h_1 => cases h
    case h_2 slab _ =>
      split at h
      · cases h
        exact .inr ⟨rfl, .inl ⟨rfl, ‹_›⟩⟩
      · cases h
        exact .inr ⟨rfl, .inr rfl⟩

/-- What one call of `on_packet_received` can do: reject the packet and leave the wave stores
alone, or write it into the store of its wave and then keep that store, or free it once its
packet count is reached. -/
theorem onPacketReceived_cases {cipher : WaveCipher} {r r' : GroupReceiver} {groupId : UInt64}
    {trueSequence : Nat} {waveId : UInt32} {packet : List UInt8} {status : GroupReceiverStatus}
    (h : onPacketReceived cipher r groupId trueSequence waveId packet = some (status, r')) :
    (r'.tempWaveStore = r.tempWaveStore ∧
        (status = .invalidPacket ∨ status = .alreadyReceived)) ∨
      ∃ store store', r.waveStore waveId.toNat = some store ∧
        r.insertPacket store trueSequence packet = some store' ∧
        ((status = .insertSuccess ∧ store'.packetsReceived ≠ store'.packetsInWave ∧
            r'.tempWaveStore = r.tempWaveStore.set waveId.toNat (some store')) ∨
          (status = .corruptWave ∧ store'.packetsReceived = store'.packetsInWave ∧
            r'.tempWaveStore = r.tempWaveStore.set waveId.toNat (some store')) ∨
          (store'.packetsReceived = store'.packetsInWave ∧
            r'.tempWaveStore = (r.tempWaveStore.set waveId.toNat (some store')).set
              waveId.toNat none ∧
            ((status = .groupComplete waveId ∧ r'.tempWaveStore.all Option.isNone) ∨
              status = .waveComplete waveId))) := by
  unfold onPacketReceived at h
  split at h
  case h_1 => cases h; exact .inl ⟨rfl, .inl rfl⟩
  case h_2 => cases h; exact .inl ⟨rfl, .inr rfl⟩
  case h_3 =>
    dsimp only at h
    split at h
    case h_1 => cases h; exact .inl ⟨rfl, .inl rfl⟩
    case h_2 store hstore =>
      split at h
      case h_1 => cases h
      case h_2 store' hinsert =>
        refine .inr ⟨store, store', hstore, hinsert, ?_⟩
        split at h
        case isTrue hfull =>
          rcases onWaveComplete_cases h with ⟨rfl, rfl⟩ | ⟨htemp, hdone⟩
          · exact .inr (.inl ⟨rfl, hfull, rfl⟩)
          · exact .inr (.inr ⟨hfull, htemp, hdone⟩)
        case isFalse hopen =>
          cases h
          exact .inl ⟨rfl, hopen, rfl⟩

/-- A call for a packet not yet received, of a wave with a store, is the write of the packet,
then the end of the wave or `INSERT_SUCCESS`. -/
theorem onPacketReceived_of_waveStore {cipher : WaveCipher} {r : GroupReceiver}
    {groupId : UInt64} {trueSequence : Nat} {waveId : UInt32} {packet : List UInt8}
    {store : TempWaveStore} (hbit : r.packetsReceivedOrder[trueSequence]? = some false)
    (hstore : r.waveStore waveId.toNat = some store) :
    onPacketReceived cipher r groupId trueSequence waveId packet =
      match r.insertPacket store trueSequence packet with
      | none => none
      | some store' =>
          let r' := { r with
            packetsReceivedOrder := r.packetsReceivedOrder.set trueSequence true
            tempWaveStore := r.tempWaveStore.set waveId.toNat (some store') }
          if store'.packetsReceived = store'.packetsInWave then
            onWaveComplete cipher r' groupId waveId store'
          else some (.insertSuccess, r') := by
  unfold onPacketReceived
  rw [hbit]
  dsimp only
  rw [show ({ r with packetsReceivedOrder := r.packetsReceivedOrder.set trueSequence true } :
    GroupReceiver).waveStore waveId.toNat = some store from hstore]
  rfl

theorem waveStore_eq_none_of_all_isNone {r : GroupReceiver}
    (h : r.tempWaveStore.all Option.isNone) (w : Nat) : r.waveStore w = none := by
  unfold waveStore
  cases hw : r.tempWaveStore[w]? with
  | none => rfl
  | some store =>
      have hmem : store ∈ r.tempWaveStore := List.mem_of_getElem? hw
      simp only [List.all_eq_true] at h
      simpa using h store hmem

/-! ## Runs -/

/-- A call of `on_packet_received`. -/
structure PacketArrival where
  groupId : UInt64
  trueSequence : Nat
  waveId : UInt32
  packet : List UInt8

/-- A receiver built by `new`, then handed any packets. A label is a call with the status it
returns; a call that panics takes no step. -/
def system (cipher : WaveCipher) (cfg : GroupReceiverConfig) :
    Transition.System GroupReceiver (PacketArrival × GroupReceiverStatus) where
  init r := r = new cfg
  step r label r' := onPacketReceived cipher r label.1.groupId label.1.trueSequence
    label.1.waveId label.1.packet = some (label.2, r')

theorem waveStore_new {cfg : GroupReceiverConfig} {w : Nat} (hw : w < cfg.waveCount) :
    (new cfg).waveStore w = some (newWaveStore cfg w) := by
  simp [waveStore, new, hw]

/-- The last wave's store expects the packets announced for it, and its buffer holds its full
packets and the last payload. -/
theorem newWaveStore_last (cfg : GroupReceiverConfig) :
    newWaveStore cfg (cfg.waveCount - 1) =
      { bytesWritten := 0
        packetsReceived := 0
        packetsInWave := cfg.packetsInLastWave
        ciphertextBuffer := List.replicate
          ((cfg.packetsInLastWave - 1) * cfg.maxPayloadSize + cfg.lastPayloadSize) 0 } := by
  simp [newWaveStore, GroupReceiverConfig.getPacketCountInWave]

theorem packetsInWave_newWaveStore_last (cfg : GroupReceiverConfig) :
    (newWaveStore cfg (cfg.waveCount - 1)).packetsInWave = cfg.packetsInLastWave := by
  rw [newWaveStore_last]

/-- The store of wave `w` is still allocated, and it expects no packet. -/
def ExpectsNoPacket (w : Nat) (r : GroupReceiver) : Prop :=
  ∃ store, r.waveStore w = some store ∧ store.packetsInWave = 0

/-- Step lemma: a store that expects no packet can never reach its packet count, so it is
never freed, and no call completes the group. -/
theorem expectsNoPacket_step {cipher : WaveCipher} {r r' : GroupReceiver} {groupId : UInt64}
    {trueSequence : Nat} {waveId : UInt32} {packet : List UInt8} {status : GroupReceiverStatus}
    {w : Nat} (h : onPacketReceived cipher r groupId trueSequence waveId packet = some (status, r'))
    (hinv : ExpectsNoPacket w r) : ExpectsNoPacket w r' ∧ ∀ v, status ≠ .groupComplete v := by
  obtain ⟨s, hs, hzero⟩ := hinv
  rcases onPacketReceived_cases h with ⟨htemp, hstatus⟩ | ⟨store, store', hstore, hinsert, hcase⟩
  · have hkept : r'.waveStore w = r.waveStore w := by simp only [waveStore, htemp]
    refine ⟨⟨s, hkept.trans hs, hzero⟩, fun v => ?_⟩
    rcases hstatus with rfl | rfl <;> simp
  obtain ⟨hpackets, hreceived, -, -⟩ := insertPacket_spec hinsert
  -- the store after a write for wave `v`, seen at wave `w`
  have hset : ∀ newStore : Option TempWaveStore,
      r'.tempWaveStore = r.tempWaveStore.set waveId.toNat newStore →
      r'.waveStore w = if w = waveId.toNat then newStore else r.waveStore w := by
    intro newStore htemp
    have := waveStore_set hstore newStore w
    simpa only [waveStore, htemp] using this
  by_cases hw : w = waveId.toNat
  · subst hw
    have hs' : store = s := Option.some.inj (hstore.symm.trans hs)
    subst hs'
    -- the write counts one packet against a count of zero
    have hopen : store'.packetsReceived ≠ store'.packetsInWave := by omega
    rcases hcase with ⟨rfl, -, htemp⟩ | ⟨-, hfull, -⟩ | ⟨hfull, -⟩
    · refine ⟨⟨store', by simpa using hset _ htemp, by omega⟩, fun v => by simp⟩
    · exact absurd hfull hopen
    · exact absurd hfull hopen
  · have hkept : ∀ newStore : Option TempWaveStore,
        r'.tempWaveStore = r.tempWaveStore.set waveId.toNat newStore → r'.waveStore w = some s := by
      intro newStore htemp
      rw [hset newStore htemp, if_neg hw, hs]
    rcases hcase with ⟨rfl, -, htemp⟩ | ⟨rfl, -, htemp⟩ | ⟨-, htemp, hdone⟩
    · exact ⟨⟨s, hkept _ htemp, hzero⟩, fun v => by simp⟩
    · exact ⟨⟨s, hkept _ htemp, hzero⟩, fun v => by simp⟩
    · rw [List.set_set] at htemp
      have hkeep := hkept _ htemp
      refine ⟨⟨s, hkeep, hzero⟩, fun v hv => ?_⟩
      rcases hdone with ⟨-, hall⟩ | hwave
      · simp [waveStore_eq_none_of_all_isNone hall w] at hkeep
      · rw [hwave] at hv
        cases hv

/-- A receiver whose configuration announces no packet in its last wave never completes its
group, whatever packets it is handed: the last wave's store is never freed. -/
theorem never_groupComplete_of_packetsInLastWave_eq_zero {cipher : WaveCipher}
    {cfg : GroupReceiverConfig} (hcount : 0 < cfg.waveCount) (hlast : cfg.packetsInLastWave = 0)
    {r r' : GroupReceiver} {arrival : PacketArrival} {status : GroupReceiverStatus}
    (hr : (system cipher cfg).Reachable r) (hstep : (system cipher cfg).step r (arrival, status) r') :
    ∀ w, status ≠ .groupComplete w := by
  have hinductive : (system cipher cfg).Inductive (ExpectsNoPacket (cfg.waveCount - 1)) :=
    { init := by
        rintro r rfl
        refine ⟨newWaveStore cfg (cfg.waveCount - 1), waveStore_new (by omega), ?_⟩
        rw [packetsInWave_newWaveStore_last, hlast]
      step := fun r label r' hinv hstep => (expectsNoPacket_step hstep hinv).1 }
  exact (expectsNoPacket_step hstep (hinductive.reachable hr)).2

end GroupReceiver

end CitadelProtocol.Crypt
