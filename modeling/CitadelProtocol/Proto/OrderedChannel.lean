import Mathlib.Data.List.AList
import CitadelProtocol.Lib.MachineInt

/-! # The ordered channel

`OrderedChannel` hands the messages of a session to the kernel in the order of their ids. A
message whose id is the one after the last released is sent on at once, followed by every
stored message whose id continues the run; a message with any other id is stored under it. Ids
are `u64` and the successor wraps.

A message is therefore released only once every id between the last released and its own has
arrived: an id that never arrives holds back every message stored behind it.

The sink is an unbounded channel that stays open, so it is the list of what was sent on; the
map is `AList`, where inserting under a present key replaces its value, as `HashMap::insert`.
-/

namespace CitadelProtocol.Proto

/-- `OrderedChannel`, without the timestamp of the last message, which nothing reads. -/
structure OrderedChannel (α : Type*) where
  sink : List α
  map : AList fun _ : UInt64 => α
  lastMessageReceived : Option UInt64

namespace OrderedChannel

variable {α : Type*}

/-- `OrderedChannel::new`. -/
def new : OrderedChannel α := ⟨[], ∅, none⟩

/-- `send_unconditional`. -/
def sendUnconditional (ch : OrderedChannel α) (newId : UInt64) (packet : α) : OrderedChannel α :=
  { ch with sink := ch.sink ++ [packet], lastMessageReceived := some newId }

/-- The loop of `scan_send` from `curScanId`: while the map holds the current id, remove it,
send its message and move to the next id. Each round removes an entry, so the size of the map
bounds the rounds and is the fuel `scan_send` passes. -/
def scanSendLoop : Nat → UInt64 → OrderedChannel α → OrderedChannel α
  | 0, _, ch => ch
  | fuel + 1, curScanId, ch =>
      match ch.map.lookup curScanId with
      | some next =>
          scanSendLoop fuel (curScanId + 1)
            (sendUnconditional { ch with map := ch.map.erase curScanId } curScanId next)
      | none => ch

/-- `scan_send`. -/
def scanSend (ch : OrderedChannel α) (lastArrivedId : UInt64) : OrderedChannel α :=
  scanSendLoop ch.map.entries.length (lastArrivedId + 1) ch

/-- `send_then_scan`. -/
def sendThenScan (ch : OrderedChannel α) (newId : UInt64) (packet : α) : OrderedChannel α :=
  let ch := ch.sendUnconditional newId packet
  if ch.map.entries.isEmpty then ch else ch.scanSend newId

/-- `store_received_packet`. -/
def storeReceivedPacket (ch : OrderedChannel α) (id : UInt64) (packet : α) : OrderedChannel α :=
  { ch with map := ch.map.insert id packet }

/-- The id `on_packet_received` waits for: the one after the last released, or 0. -/
def nextExpectedMessageId (ch : OrderedChannel α) : UInt64 :=
  (ch.lastMessageReceived.map (· + 1)).getD 0

/-- `on_packet_received`. -/
def onPacketReceived (ch : OrderedChannel α) (id : UInt64) (packet : α) : OrderedChannel α :=
  if ch.nextExpectedMessageId = id then ch.sendThenScan id packet
  else ch.storeReceivedPacket id packet

/-- A message whose id is not the awaited one is only stored: nothing is released and the
awaited id stays. -/
theorem onPacketReceived_of_ne {ch : OrderedChannel α} {id : UInt64} (packet : α)
    (hid : id ≠ ch.nextExpectedMessageId) :
    ch.onPacketReceived id packet = ch.storeReceivedPacket id packet :=
  if_neg (Ne.symm hid)

/-- With nothing stored, the awaited message is released on its own, and the id after it is
awaited next. -/
theorem onPacketReceived_of_eq_of_empty {ch : OrderedChannel α} {id : UInt64} (packet : α)
    (hid : id = ch.nextExpectedMessageId) (hempty : ch.map.entries = []) :
    (ch.onPacketReceived id packet).sink = ch.sink ++ [packet] ∧
      (ch.onPacketReceived id packet).nextExpectedMessageId = id + 1 := by
  subst hid
  simp [onPacketReceived, sendThenScan, sendUnconditional, hempty, nextExpectedMessageId]

@[simp] theorem sink_storeReceivedPacket (ch : OrderedChannel α) (id : UInt64) (packet : α) :
    (ch.storeReceivedPacket id packet).sink = ch.sink := rfl

@[simp] theorem nextExpectedMessageId_storeReceivedPacket (ch : OrderedChannel α) (id : UInt64)
    (packet : α) :
    (ch.storeReceivedPacket id packet).nextExpectedMessageId = ch.nextExpectedMessageId := rfl

@[simp] theorem nextExpectedMessageId_new : (new : OrderedChannel α).nextExpectedMessageId = 0 :=
  rfl

/-- The channel after the messages `msgs`, by id, in the order they arrive. -/
def receiveAll (ch : OrderedChannel α) (msgs : List (UInt64 × α)) : OrderedChannel α :=
  msgs.foldl (fun ch msg => ch.onPacketReceived msg.1 msg.2) ch

@[simp] theorem receiveAll_nil (ch : OrderedChannel α) : ch.receiveAll [] = ch := rfl

@[simp] theorem receiveAll_cons (ch : OrderedChannel α) (msg : UInt64 × α)
    (msgs : List (UInt64 × α)) :
    ch.receiveAll (msg :: msgs) = (ch.onPacketReceived msg.1 msg.2).receiveAll msgs := rfl

theorem receiveAll_append (ch : OrderedChannel α) (msgs msgs' : List (UInt64 × α)) :
    ch.receiveAll (msgs ++ msgs') = (ch.receiveAll msgs).receiveAll msgs' := by
  simp [receiveAll, List.foldl_append]

/-- While the awaited id does not arrive, the channel releases nothing more. The induction is
on the messages; each one is only stored, which keeps the awaited id. -/
theorem receiveAll_of_forall_ne {ch : OrderedChannel α} {msgs : List (UInt64 × α)}
    (hmsgs : ∀ msg ∈ msgs, msg.1 ≠ ch.nextExpectedMessageId) :
    (ch.receiveAll msgs).sink = ch.sink ∧
      (ch.receiveAll msgs).nextExpectedMessageId = ch.nextExpectedMessageId := by
  induction msgs generalizing ch with
  | nil => simp
  | cons msg msgs ih =>
      have hstore := onPacketReceived_of_ne msg.2 (hmsgs msg List.mem_cons_self)
      have hrest : ∀ msg' ∈ msgs,
          msg'.1 ≠ (ch.storeReceivedPacket msg.1 msg.2).nextExpectedMessageId := by
        intro msg' hmem
        simpa using hmsgs msg' (List.mem_cons_of_mem msg hmem)
      rw [receiveAll_cons, hstore]
      simpa using ih hrest

/-! ## Release in id order

Fed messages with distinct ids, in any order of arrival, the channel has released the messages
of ids `0, 1, …, r - 1` in that order for some `r`, stores every other message that arrived,
and does not store id `r`; so `r` is the least id that has not arrived. One arrival keeps this
(`Settled.onPacketReceived`), through the loop of `scan_send` (`Released.scanSendLoop`), and so
does every sequence of arrivals (`Settled.receiveAll`). -/

section Release

variable {ch : OrderedChannel α} {received : List (UInt64 × α)} {released : Nat}

theorem length_entries_erase {s : AList fun _ : UInt64 => α} {id : UInt64} (hid : id ∈ s) :
    (s.erase id).entries.length = s.entries.length - 1 := by
  have hkeys := congrArg List.length (AList.keys_erase id s)
  rw [List.length_erase_of_mem hid] at hkeys
  simpa [AList.keys, List.keys] using hkeys

/-- The channel has released the messages of the first `released` ids of those `received`, in
id order, and stores exactly the other messages that arrived. -/
structure Released (ch : OrderedChannel α) (received : List (UInt64 × α)) (released : Nat) :
    Prop where
  next : ch.nextExpectedMessageId = UInt64.ofNat released
  length_sink : ch.sink.length = released
  mem_sink : ∀ j (hj : j < ch.sink.length), (UInt64.ofNat j, ch.sink[j]) ∈ received
  lookup_map : ∀ id packet, ch.map.lookup id = some packet ↔
    (id, packet) ∈ received ∧ ∀ j < released, id ≠ UInt64.ofNat j

/-- Between arrivals, moreover, the awaited id is not stored: `scan_send` ran up to a gap. -/
structure Settled (ch : OrderedChannel α) (received : List (UInt64 × α)) (released : Nat) : Prop
    extends Released ch received released where
  awaited_notMem : ch.map.lookup (UInt64.ofNat released) = none

theorem settled_new : (new : OrderedChannel α).Settled [] 0 where
  next := rfl
  length_sink := rfl
  mem_sink _ hj := absurd hj (Nat.not_lt_zero _)
  lookup_map _ _ := by simp [new, AList.lookup_empty]
  awaited_notMem := AList.lookup_empty _

/-- The released ids are ids that arrived. -/
theorem Released.mem_of_lt (hrel : ch.Released received released) {j : Nat} (hj : j < released) :
    UInt64.ofNat j ∈ received.map Prod.fst :=
  List.mem_map.mpr ⟨_, hrel.mem_sink j (hrel.length_sink ▸ hj), rfl⟩

theorem Released.ne_of_notMem (hrel : ch.Released received released) {id : UInt64}
    (hid : id ∉ received.map Prod.fst) {j : Nat} (hj : j < released) : id ≠ UInt64.ofNat j :=
  fun heq => hid (heq ▸ hrel.mem_of_lt hj)

/-- A fresh message with another id than the awaited one is stored, and nothing is released. -/
theorem Settled.storeReceivedPacket (hset : ch.Settled received released) {id : UInt64}
    (packet : α) (hid : id ∉ received.map Prod.fst) (hne : id ≠ UInt64.ofNat released) :
    (ch.storeReceivedPacket id packet).Settled (received ++ [(id, packet)]) released where
  next := hset.next
  length_sink := hset.length_sink
  mem_sink j hj := List.mem_append_left _ (hset.mem_sink j hj)
  lookup_map id' packet' := by
    by_cases hid' : id' = id
    · subst hid'
      have hnew : (id', packet') ∉ received := fun hmem => hid (List.mem_map_of_mem hmem)
      have hfresh : ∀ j < released, id' ≠ UInt64.ofNat j := fun _ hj => hset.ne_of_notMem hid hj
      simp only [OrderedChannel.storeReceivedPacket, AList.lookup_insert, Option.some.injEq,
        List.mem_append, hnew, List.mem_singleton, Prod.mk.injEq, true_and, false_or]
      exact ⟨fun heq => ⟨heq.symm, hfresh⟩, fun h => h.1.symm⟩
    · simp [OrderedChannel.storeReceivedPacket, AList.lookup_insert_ne hid', hset.lookup_map, hid']
  awaited_notMem := by
    simp [OrderedChannel.storeReceivedPacket, AList.lookup_insert_ne hne.symm, hset.awaited_notMem]

/-- Sending the message of the awaited id `released` releases one id more, when the map holds
exactly the other messages that arrived and are not released by then. -/
theorem released_sendUnconditional {packet : α} (hlength : ch.sink.length = released)
    (hsink : ∀ j (hj : j < ch.sink.length), (UInt64.ofNat j, ch.sink[j]) ∈ received)
    (hmem : (UInt64.ofNat released, packet) ∈ received)
    (hmap : ∀ id packet', ch.map.lookup id = some packet' ↔
      (id, packet') ∈ received ∧ ∀ j < released + 1, id ≠ UInt64.ofNat j) :
    (ch.sendUnconditional (UInt64.ofNat released) packet).Released received (released + 1) where
  next := by simp [sendUnconditional, nextExpectedMessageId]
  length_sink := by simp [sendUnconditional, hlength]
  mem_sink j hj := by
    simp only [sendUnconditional, List.length_append, List.length_singleton] at hj ⊢
    rcases Nat.lt_succ_iff_lt_or_eq.mp hj with hlt | heq
    · rw [List.getElem_append_left hlt]
      exact hsink j hlt
    · -- the message just sent sits at the end of the sink, under the id `released`
      subst heq
      simpa [hlength] using hmem
  lookup_map := hmap

/-- The awaited message, when it arrives, is released at once. -/
theorem Settled.sendUnconditional (hset : ch.Settled received released) (packet : α) :
    (ch.sendUnconditional (UInt64.ofNat released) packet).Released
      (received ++ [(UInt64.ofNat released, packet)]) (released + 1) := by
  refine released_sendUnconditional hset.length_sink
    (fun j hj => List.mem_append_left _ (hset.mem_sink j hj)) (by simp) ?_
  intro id packet'
  by_cases hid : id = UInt64.ofNat released
  · subst hid
    simp only [Nat.forall_lt_succ_right]
    simp [hset.awaited_notMem]
  · simp only [Nat.forall_lt_succ_right]
    simp [hset.lookup_map, hid]

/-- One round of the loop of `scan_send`: the stored message of the awaited id is taken out of
the map and released. -/
theorem Released.scanStep (hrel : ch.Released received released) {next : α}
    (hlookup : ch.map.lookup (UInt64.ofNat released) = some next) :
    ({ ch with map := ch.map.erase (UInt64.ofNat released) }.sendUnconditional
      (UInt64.ofNat released) next).Released received (released + 1) := by
  refine released_sendUnconditional hrel.length_sink hrel.mem_sink
    ((hrel.lookup_map _ _).mp hlookup).1 ?_
  intro id packet
  by_cases hid : id = UInt64.ofNat released
  · subst hid
    simp only [Nat.forall_lt_succ_right]
    simp [AList.lookup_erase]
  · simp only [Nat.forall_lt_succ_right]
    simp [AList.lookup_erase_ne hid, hrel.lookup_map, hid]

/-- The loop of `scan_send`, with fuel for every stored message, releases the run of stored
messages from the awaited id and stops at the first gap. The induction is on the fuel: each
round takes one message out of the map. -/
theorem Released.scanSendLoop (hrel : ch.Released received released) {fuel : Nat}
    (hfuel : ch.map.entries.length ≤ fuel) :
    ∃ released', (OrderedChannel.scanSendLoop fuel (UInt64.ofNat released) ch).Settled
      received released' := by
  induction fuel generalizing ch released with
  | zero =>
      -- out of fuel only with an empty map, where no id is stored
      have hempty : ch.map.entries = [] := List.eq_nil_of_length_eq_zero (by omega)
      exact ⟨released, hrel, by simp [OrderedChannel.scanSendLoop, AList.lookup, hempty]⟩
  | succ fuel ih =>
      cases hlookup : ch.map.lookup (UInt64.ofNat released) with
      | none =>
          refine ⟨released, ?_⟩
          simp only [OrderedChannel.scanSendLoop, hlookup]
          exact ⟨hrel, hlookup⟩
      | some next =>
          have hmem : UInt64.ofNat released ∈ ch.map := AList.lookup_isSome.mp (by simp [hlookup])
          have hshrink : ({ ch with map := ch.map.erase (UInt64.ofNat released) }.sendUnconditional
              (UInt64.ofNat released) next).map.entries.length ≤ fuel := by
            simp only [OrderedChannel.sendUnconditional, length_entries_erase hmem]
            omega
          obtain ⟨released', hset⟩ := ih (hrel.scanStep hlookup) hshrink
          refine ⟨released', ?_⟩
          have hsucc : UInt64.ofNat released + 1 = UInt64.ofNat (released + 1) := by simp
          simp only [OrderedChannel.scanSendLoop, hlookup]
          rw [hsucc]
          exact hset

/-- Step lemma: a message with a fresh id keeps the channel settled. The cases are those of
`on_packet_received`: the awaited id is sent and scanned from, any other is stored. -/
theorem Settled.onPacketReceived (hset : ch.Settled received released) {id : UInt64}
    (packet : α) (hid : id ∉ received.map Prod.fst) :
    ∃ released', (ch.onPacketReceived id packet).Settled (received ++ [(id, packet)])
      released' := by
  by_cases hawaited : id = UInt64.ofNat released
  · subst hawaited
    have hsent := hset.sendUnconditional packet
    unfold OrderedChannel.onPacketReceived sendThenScan
    rw [if_pos hset.next]
    dsimp only
    split
    · -- nothing stored: the channel is settled on the id after the one sent
      rename_i hempty
      refine ⟨released + 1, hsent, ?_⟩
      simp [AList.lookup, List.isEmpty_iff.mp hempty]
    · obtain ⟨released', hscan⟩ := hsent.scanSendLoop (le_refl _)
      refine ⟨released', ?_⟩
      have hsucc : UInt64.ofNat released + 1 = UInt64.ofNat (released + 1) := by simp
      simp only [scanSend, OrderedChannel.sendUnconditional] at hscan ⊢
      rw [hsucc]
      exact hscan
  · refine ⟨released, ?_⟩
    rw [onPacketReceived_of_ne packet (hset.next ▸ hawaited)]
    exact hset.storeReceivedPacket packet hid hawaited

/-- Run lemma: messages with distinct fresh ids keep the channel settled. -/
theorem Settled.receiveAll (hset : ch.Settled received released) {msgs : List (UInt64 × α)}
    (hnodup : (msgs.map Prod.fst).Nodup) (hfresh : ∀ msg ∈ msgs, msg.1 ∉ received.map Prod.fst) :
    ∃ released', (ch.receiveAll msgs).Settled (received ++ msgs) released' := by
  induction msgs generalizing ch received released with
  | nil => exact ⟨released, by simpa using hset⟩
  | cons msg msgs ih =>
      obtain ⟨hmsg, hrest⟩ := List.nodup_cons.mp hnodup
      obtain ⟨released', hstep⟩ := hset.onPacketReceived msg.2 (hfresh msg List.mem_cons_self)
      -- the rest is fresh for the messages received so far, `msg` included
      have hfresh' : ∀ msg' ∈ msgs, msg'.1 ∉ (received ++ [(msg.1, msg.2)]).map Prod.fst := by
        intro msg' hmem
        simp only [List.map_append, List.map_cons, List.map_nil, List.mem_append,
          List.mem_singleton, not_or]
        exact ⟨hfresh msg' (List.mem_cons_of_mem _ hmem),
          fun heq => hmsg (heq ▸ List.mem_map_of_mem hmem)⟩
      obtain ⟨released'', hrun⟩ := ih hstep hrest hfresh'
      exact ⟨released'', by simpa using hrun⟩

/-- The number of ids a settled channel has released is the least id that has not arrived. -/
theorem Settled.released_eq (hset : ch.Settled received released) {k : Nat}
    (hbelow : ∀ j < k, UInt64.ofNat j ∈ received.map Prod.fst)
    (hgap : UInt64.ofNat k ∉ received.map Prod.fst) : released = k := by
  -- below `2 ^ 64` ids are distinct; past it `k` would name an id below it, which arrived
  have hk : k < 2 ^ 64 := by
    by_contra hge
    have hwrap : UInt64.ofNat k = UInt64.ofNat (k % 2 ^ 64) := by
      apply UInt64.toNat_inj.mp
      simp only [UInt64.toNat_ofNat', Nat.mod_mod]
    have hlt : k % 2 ^ 64 < k := Nat.lt_of_lt_of_le (Nat.mod_lt _ (by norm_num)) (by omega)
    exact hgap (hwrap ▸ hbelow _ hlt)
  rcases Nat.lt_trichotomy released k with hlt | heq | hgt
  · -- the id `released` arrived and is not released, so the map would store it
    obtain ⟨⟨id, packet⟩, hmem, hid⟩ := List.mem_map.mp (hbelow released hlt)
    subst hid
    have hstored := (hset.lookup_map _ packet).mpr ⟨hmem, fun j hj =>
      MachineInt.ofNat_ne_ofNat (by omega) (by omega) (by omega)⟩
    rw [hset.awaited_notMem] at hstored
    cases hstored
  · exact heq
  · exact absurd (hset.mem_of_lt hgt) hgap

end Release

/-- A fresh channel fed messages with distinct ids, in any order, has sent on exactly the
messages of ids `0, 1, …, k - 1`, in that order, where `k` is the least id that has not arrived;
it stores every other message that arrived, and nothing else. -/
theorem receiveAll_releases_in_order {msgs : List (UInt64 × α)}
    (hnodup : (msgs.map Prod.fst).Nodup) {k : Nat}
    (hbelow : ∀ j < k, UInt64.ofNat j ∈ msgs.map Prod.fst)
    (hgap : UInt64.ofNat k ∉ msgs.map Prod.fst) :
    (new.receiveAll msgs).sink.length = k ∧
      (∀ j (hj : j < (new.receiveAll msgs).sink.length),
        (UInt64.ofNat j, (new.receiveAll msgs).sink[j]) ∈ msgs) ∧
      ∀ id packet, (new.receiveAll msgs).map.lookup id = some packet ↔
        (id, packet) ∈ msgs ∧ ∀ j < k, id ≠ UInt64.ofNat j := by
  obtain ⟨released, hset⟩ := settled_new.receiveAll hnodup (by simp)
  rw [List.nil_append] at hset
  obtain rfl := hset.released_eq hbelow hgap
  exact ⟨hset.length_sink, hset.mem_sink, hset.lookup_map⟩

/-- Ids 2, 0, 1, 4 in that order: the messages of ids 0, 1, 2 are sent on, and that of id 4
stays stored. -/
theorem receiveAll_releases_in_order_of_shuffle :
    (([(2, 20), (0, 0), (1, 10), (4, 40)] : List (UInt64 × Nat)).map Prod.fst).Nodup ∧
      (∀ j < 3, UInt64.ofNat j ∈
        ([(2, 20), (0, 0), (1, 10), (4, 40)] : List (UInt64 × Nat)).map Prod.fst) ∧
      UInt64.ofNat 3 ∉ ([(2, 20), (0, 0), (1, 10), (4, 40)] : List (UInt64 × Nat)).map Prod.fst ∧
      (new.receiveAll ([(2, 20), (0, 0), (1, 10), (4, 40)] : List (UInt64 × Nat))).sink.length = 3 :=
  have hnodup : (([(2, 20), (0, 0), (1, 10), (4, 40)] : List (UInt64 × Nat)).map Prod.fst).Nodup :=
    by decide
  have hbelow : ∀ j < 3, UInt64.ofNat j ∈
      ([(2, 20), (0, 0), (1, 10), (4, 40)] : List (UInt64 × Nat)).map Prod.fst := by decide
  have hgap : UInt64.ofNat 3 ∉
      ([(2, 20), (0, 0), (1, 10), (4, 40)] : List (UInt64 × Nat)).map Prod.fst := by decide
  ⟨hnodup, hbelow, hgap, (receiveAll_releases_in_order hnodup hbelow hgap).1⟩

example : (new.receiveAll ([(2, 20), (0, 0), (1, 10), (4, 40)] : List (UInt64 × Nat))).sink =
    [0, 10, 20] := by decide

end OrderedChannel

end CitadelProtocol.Proto
