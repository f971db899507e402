import Mathlib.Data.List.AList
import Mathlib.Data.List.Perm.Basic
import CitadelProtocol.Lib.Reachability

/-! # The session's queue worker

`SessionQueueWorker` runs the session's timeouts. Each registration (`insert_reserved`) puts a
delay for its ticket into a `DelayQueue` and stores the queued function, the delay's key and
the timeout in the map `entries`, under the same ticket. When a delay expires, `poll_purge` looks
the ticket up in `entries` with an `unwrap`: a one-shot ticket's entry is removed and its
function called; a periodic ticket's function is called, and by its result the entry is
removed (`Complete`), the worker shuts down (`EndSession`) or a new delay is queued for the
ticket (`Incomplete`, `AdjustPeriodicity`).

A ticket registered again while its delay is pending overwrites its entry but leaves the old
delay in the queue. After the entry is removed as `Complete`, that stale delay still expires,
and the `unwrap` of `entries.get` finds nothing (`duplicate_periodic_ticket_panics`).

The model keeps what these calls read and write. The `DelayQueue` keeps its pending delays with
their keys and timeouts; its clock is not modelled, so any pending delay may expire next. The
queued functions are values of a type `F`, and what one returns when called is a label of the
run. A panic is `none`.
-/

namespace CitadelProtocol.Proto

/-- `QUEUE_WORKER_RESERVED_INDEX`: indices below it are reserved for the session. -/
def queueWorkerReservedIndex : Nat := 10

/-- `RESERVED_CID_IDX`. -/
def reservedCidIdx : UInt64 := 0

/-- `QueueWorkerTicket`. -/
inductive QueueWorkerTicket
  | oneshot (idx : Nat) (cid : UInt64)
  | periodic (idx : Nat) (cid : UInt64)
  deriving DecidableEq, Repr

/-- `QueueWorkerResult`; durations are in milliseconds. -/
inductive QueueWorkerResult
  | complete
  | incomplete
  | endSession
  | adjustPeriodicity (newPeriod : Nat)
  deriving DecidableEq, Repr

/-! ## The delay queue -/

/-- A pending delay: the key `DelayQueue::insert` returned for it, its value and its timeout. -/
structure Delay (α : Type) where
  key : Nat
  value : α
  timeout : Nat
  deriving DecidableEq, Repr

/-- `tokio_util`'s `DelayQueue`: the pending delays, in the order of insertion, and the key the
next insertion returns. -/
structure DelayQueue (α : Type) where
  pending : List (Delay α)
  nextKey : Nat
  deriving DecidableEq, Repr

namespace DelayQueue

variable {α : Type}

/-- The queue with nothing pending. -/
def empty : DelayQueue α := ⟨[], 0⟩

/-- `DelayQueue::insert`: a new delay, and the key it is stored under. -/
def insert (q : DelayQueue α) (value : α) (timeout : Nat) : Nat × DelayQueue α :=
  (q.nextKey, ⟨q.pending ++ [⟨q.nextKey, value, timeout⟩], q.nextKey + 1⟩)

/-- `poll_expired`, when the delay at position `i` expires: its value, and the queue without it.
Nothing expires when there is no such delay. -/
def expire (q : DelayQueue α) (i : Nat) : Option (α × DelayQueue α) :=
  q.pending[i]?.map fun delay => (delay.value, { q with pending := q.pending.eraseIdx i })

/-- The values pending, once for each delay. -/
def values (q : DelayQueue α) : List α :=
  q.pending.map Delay.value

@[simp] theorem values_insert (q : DelayQueue α) (value : α) (timeout : Nat) :
    (q.insert value timeout).2.values = q.values ++ [value] := by
  simp [insert, values]

@[simp] theorem length_pending_insert (q : DelayQueue α) (value : α) (timeout : Nat) :
    (q.insert value timeout).2.pending.length = q.pending.length + 1 := by
  simp [insert]

/-- The first of the delays inserted after `q` expires at the position just past `q`'s. -/
theorem expire_append {q : DelayQueue α} {delay : Delay α} {rest : List (Delay α)} {nextKey : Nat} :
    (⟨q.pending ++ delay :: rest, nextKey⟩ : DelayQueue α).expire q.pending.length =
      some (delay.value, ⟨q.pending ++ rest, nextKey⟩) := by
  simp [expire, List.eraseIdx_append_of_length_le]

end DelayQueue

/-! ## The worker -/

/-- The part of `SessionQueueWorker` that registrations and expirations read and write: the
stored entries (queued function, delay key, timeout) by ticket, the delay queue of tickets and
the count of registrations. -/
structure SessionQueueWorker (F : Type) where
  entries : AList fun _ : QueueWorkerTicket => F × Nat × Nat
  expirations : DelayQueue QueueWorkerTicket
  rollingIdx : Nat

namespace SessionQueueWorker

variable {F : Type}

/-- `SessionQueueWorker::new`. -/
def new : SessionQueueWorker F := ⟨∅, .empty, 0⟩

/-- The ticket `insert_reserved` stores a registration under: without one, a one-shot ticket
made from the count of registrations. -/
def ticketOf (w : SessionQueueWorker F) (key : Option QueueWorkerTicket) : QueueWorkerTicket :=
  key.getD (.oneshot (w.rollingIdx + queueWorkerReservedIndex + 1) reservedCidIdx)

/-- `insert_reserved`. A ticket already stored has its entry overwritten; its old delay stays
queued. -/
def insertReserved (w : SessionQueueWorker F) (key : Option QueueWorkerTicket) (timeout : Nat)
    (onTimeout : F) : SessionQueueWorker F :=
  let key := w.ticketOf key
  let (delay, expirations) := w.expirations.insert key timeout
  { entries := w.entries.insert key (onTimeout, delay, timeout)
    expirations := expirations
    rollingIdx := w.rollingIdx + 1 }

/-- `insert_ordinary`: a periodic ticket offset past the reserved indices. The inbound and the
outbound timeout of one group both register `Periodic(group_id + 10, cid)`. -/
def insertOrdinary (w : SessionQueueWorker F) (idx : Nat) (targetCid : UInt64) (timeout : Nat)
    (onTimeout : F) : SessionQueueWorker F :=
  w.insertReserved (some (.periodic (idx + queueWorkerReservedIndex) targetCid)) timeout onTimeout

/-- A periodic ticket queued again: a new delay, whose key the entry now holds. -/
def reschedule (w : SessionQueueWorker F) (entry : QueueWorkerTicket) (fx : F) (duration : Nat)
    (period : Nat) : SessionQueueWorker F :=
  let (nextKey, expirations) := w.expirations.insert entry period
  { w with entries := w.entries.insert entry (fx, nextKey, duration), expirations := expirations }

/-- The body of the loop of `poll_purge`, on a ticket whose delay has expired and whose queued
function returned `result`: `none` where an `unwrap` panics; otherwise whether the worker shuts
down, and the worker after. -/
def purgeEntry (w : SessionQueueWorker F) (entry : QueueWorkerTicket) (result : QueueWorkerResult) :
    Option (Bool × SessionQueueWorker F) :=
  match entry with
  | .oneshot _ _ =>
      -- the entry is removed before its function runs
      (w.entries.lookup entry).map fun _ =>
        (result == .endSession, { w with entries := w.entries.erase entry })
  | .periodic _ _ =>
      (w.entries.lookup entry).bind fun (fx, _, duration) =>
        match result with
        | .complete => some (false, { w with entries := w.entries.erase entry })
        | .endSession => some (true, w)
        | .adjustPeriodicity newPeriod => some (false, w.reschedule entry fx duration newPeriod)
        | .incomplete => some (false, w.reschedule entry fx duration duration)

/-- `poll_purge`, when the delay at position `i` expires and its function returns `result`. A
disconnected session shuts the worker down; with no such delay the poll is pending. -/
def pollPurge (w : SessionQueueWorker F) (disconnected : Bool) (i : Nat)
    (result : QueueWorkerResult) : Option (Bool × SessionQueueWorker F) :=
  if disconnected then some (true, w)
  else
    match w.expirations.expire i with
    | none => some (false, w)
    | some (entry, expirations) => purgeEntry { w with expirations := expirations } entry result

/-- What happens to the worker: a registration, or the expiry of the delay at a position with
what its function returns. -/
inductive Event (F : Type)
  | insertReserved (key : Option QueueWorkerTicket) (timeout : Nat) (onTimeout : F)
  | expire (i : Nat) (result : QueueWorkerResult)

/-- One event on a worker that keeps running; `none` when it panics or shuts down. -/
def step (w : SessionQueueWorker F) : Event F → Option (SessionQueueWorker F)
  | .insertReserved key timeout onTimeout => some (w.insertReserved key timeout onTimeout)
  | .expire i result =>
      match w.pollPurge false i result with
      | some (false, w') => some w'
      | _ => none

/-- The runs of a worker from `new`. -/
def system : Transition.System (SessionQueueWorker F) (Event F) :=
  Transition.ofStep (· = new) step

section Lemmas

variable (w : SessionQueueWorker F)

@[simp] theorem ticketOf_some (entry : QueueWorkerTicket) : w.ticketOf (some entry) = entry :=
  rfl

@[simp] theorem expirations_insertReserved (key : Option QueueWorkerTicket) (timeout : Nat)
    (onTimeout : F) :
    (w.insertReserved key timeout onTimeout).expirations =
      (w.expirations.insert (w.ticketOf key) timeout).2 :=
  rfl

@[simp] theorem entries_insertReserved (key : Option QueueWorkerTicket) (timeout : Nat)
    (onTimeout : F) :
    (w.insertReserved key timeout onTimeout).entries =
      w.entries.insert (w.ticketOf key) (onTimeout, w.expirations.nextKey, timeout) :=
  rfl

theorem lookup_insertReserved_some (entry : QueueWorkerTicket) (timeout : Nat) (onTimeout : F) :
    (w.insertReserved (some entry) timeout onTimeout).entries.lookup entry =
      some (onTimeout, w.expirations.nextKey, timeout) := by
  simp [AList.lookup_insert]

/-- A periodic ticket whose entry is there and whose function returns `Complete` leaves
`entries`. -/
theorem purgeEntry_periodic_complete {idx : Nat} {cid : UInt64} {stored : F × Nat × Nat}
    (hentry : w.entries.lookup (.periodic idx cid) = some stored) :
    w.purgeEntry (.periodic idx cid) .complete =
      some (false, { w with entries := w.entries.erase (.periodic idx cid) }) := by
  simp [purgeEntry, hentry]

/-- The `unwrap` of `poll_purge` panics on a ticket with no entry. -/
theorem purgeEntry_of_lookup_none {entry : QueueWorkerTicket} (result : QueueWorkerResult)
    (hentry : w.entries.lookup entry = none) : w.purgeEntry entry result = none := by
  cases entry <;> simp [purgeEntry, hentry]

end Lemmas

/-- A periodic ticket registered twice, for instance the inbound and the outbound timeout of one
group, leaves two delays and one entry. Once the first delay expires and the function returns
`Complete`, the ticket is still pending with no entry, and the next expiry panics, whatever the
function would return. -/
theorem duplicate_periodic_ticket_panics (w : SessionQueueWorker F) (idx : Nat) (cid : UInt64)
    (timeout timeout' : Nat) (onTimeout onTimeout' : F) (result : QueueWorkerResult) :
    ∃ w', Transition.run step w
        [.insertReserved (some (.periodic idx cid)) timeout onTimeout,
          .insertReserved (some (.periodic idx cid)) timeout' onTimeout',
          .expire w.expirations.pending.length .complete] = some w' ∧
      QueueWorkerTicket.periodic idx cid ∈ w'.expirations.values ∧
      w'.entries.lookup (.periodic idx cid) = none ∧
      w'.pollPurge false w.expirations.pending.length result = none := by
  set ticket := QueueWorkerTicket.periodic idx cid
  set once := w.insertReserved (some ticket) timeout onTimeout
  set twice := once.insertReserved (some ticket) timeout' onTimeout'
  -- the two delays of the ticket sit at the end of the queue, the older one first
  have hqueue : twice.expirations = ⟨w.expirations.pending ++
      [⟨w.expirations.nextKey, ticket, timeout⟩, ⟨w.expirations.nextKey + 1, ticket, timeout'⟩],
      w.expirations.nextKey + 2⟩ := by
    simp [twice, once, DelayQueue.insert]
  have hstored := lookup_insertReserved_some once ticket timeout' onTimeout'
  set w' : SessionQueueWorker F := { twice with
    entries := twice.entries.erase ticket
    expirations := ⟨w.expirations.pending ++ [⟨w.expirations.nextKey + 1, ticket, timeout'⟩],
      w.expirations.nextKey + 2⟩ }
  -- the older delay expires; the entry, written by the second registration, is removed
  have hfirst : twice.pollPurge false w.expirations.pending.length .complete = some (false, w') := by
    rw [pollPurge, if_neg Bool.false_ne_true, hqueue, DelayQueue.expire_append]
    exact purgeEntry_periodic_complete _ hstored
  have hgone : w'.entries.lookup ticket = none := AList.lookup_erase _ _
  refine ⟨w', ?_, ?_, hgone, ?_⟩
  · simp [Transition.run_cons, step, hfirst, once, twice]
  · simp [DelayQueue.values, w']
  · -- the newer delay now sits where the older one was
    rw [pollPurge, if_neg Bool.false_ne_true]
    have hsecond : w'.expirations.expire w.expirations.pending.length =
        some (ticket, ⟨w.expirations.pending, w.expirations.nextKey + 2⟩) := by
      simpa using @DelayQueue.expire_append _ w.expirations
        ⟨w.expirations.nextKey + 1, ticket, timeout'⟩ [] (w.expirations.nextKey + 2)
    rw [hsecond]
    exact purgeEntry_of_lookup_none _ result hgone

/-! ## Registrations under fresh tickets

When no registration reuses a ticket that is stored, the queue and the map stay in step: each
stored ticket has one pending delay and no other ticket has any, so every `unwrap` of
`poll_purge` finds its entry. -/

/-- Each stored ticket is pending once, and no other ticket is pending. -/
def Matched (w : SessionQueueWorker F) : Prop :=
  ∀ entry, w.expirations.values.count entry = if entry ∈ w.entries then 1 else 0

/-- An event that does not register a ticket already stored. -/
def FreshEvent (w : SessionQueueWorker F) : Event F → Prop
  | .insertReserved key _ _ => w.ticketOf key ∉ w.entries
  | .expire _ _ => True

instance (w : SessionQueueWorker F) : (event : Event F) → Decidable (w.FreshEvent event)
  | .insertReserved key _ _ => inferInstanceAs (Decidable (w.ticketOf key ∉ w.entries))
  | .expire _ _ => inferInstanceAs (Decidable True)

/-- The runs from `new` whose registrations all use fresh tickets. -/
def freshSystem : Transition.System (SessionQueueWorker F) (Event F) where
  init w := w = new
  step w event w' := w.FreshEvent event ∧ step w event = some w'

section Matched

variable {β : QueueWorkerTicket → Type} {pending : List QueueWorkerTicket}
  {stored : AList β}

/-- A delay that expires takes its ticket's only pending place, and the ticket is stored. -/
theorem matched_remove {rest : List QueueWorkerTicket} {entry : QueueWorkerTicket}
    (hmatched : ∀ t, pending.count t = if t ∈ stored then 1 else 0)
    (hperm : (entry :: rest).Perm pending) :
    entry ∈ stored ∧ ∀ t, rest.count t = if t ∈ stored.erase entry then 1 else 0 := by
  have hcount : ∀ t, rest.count t + (if entry = t then 1 else 0) = pending.count t := by
    intro t
    rw [← hperm.count_eq, List.count_cons]
    simp only [beq_iff_eq]
  have hstored : entry ∈ stored := by
    by_contra hnot
    have := hcount entry
    rw [hmatched, if_neg hnot] at this
    simp at this
  refine ⟨hstored, fun t => ?_⟩
  have := hcount t
  rw [hmatched] at this
  by_cases ht : t = entry
  · -- the ticket's one pending delay is the one that expired
    subst ht
    simp [hstored] at this
    simp [AList.mem_erase, this]
  · rw [if_neg (Ne.symm ht)] at this
    simp [AList.mem_erase, ht, ← this]

/-- A fresh ticket queued and stored keeps the match. -/
theorem matched_add {entry : QueueWorkerTicket} {stored' : AList β}
    (hmatched : ∀ t, pending.count t = if t ∈ stored then 1 else 0) (hfresh : entry ∉ stored)
    (hmem : ∀ t, t ∈ stored' ↔ t = entry ∨ t ∈ stored) :
    ∀ t, (pending ++ [entry]).count t = if t ∈ stored' then 1 else 0 := by
  intro t
  rw [List.count_append, hmatched]
  by_cases ht : t = entry
  · subst ht
    simp [hfresh, (hmem t).mpr (.inl rfl)]
  · have hsame : t ∈ stored' ↔ t ∈ stored := by simp [hmem, ht]
    simp [hsame, Ne.symm ht]

end Matched

theorem matched_new : (new : SessionQueueWorker F).Matched := by
  intro entry
  simp [new, DelayQueue.empty, DelayQueue.values]

theorem DelayQueue.perm_of_expire {α : Type} {q q' : DelayQueue α} {i : Nat} {value : α}
    (h : q.expire i = some (value, q')) : (value :: q'.values).Perm q.values := by
  simp only [DelayQueue.expire, Option.map_eq_some_iff, Prod.mk.injEq] at h
  obtain ⟨delay, hdelay, rfl, rfl⟩ := h
  obtain ⟨hi, rfl⟩ := List.getElem?_eq_some_iff.mp hdelay
  simpa [DelayQueue.values] using (List.getElem_cons_eraseIdx_perm hi).map Delay.value

@[simp] theorem expirations_reschedule (w : SessionQueueWorker F) (entry : QueueWorkerTicket)
    (fx : F) (duration period : Nat) :
    (w.reschedule entry fx duration period).expirations = (w.expirations.insert entry period).2 :=
  rfl

@[simp] theorem entries_reschedule (w : SessionQueueWorker F) (entry : QueueWorkerTicket)
    (fx : F) (duration period : Nat) :
    (w.reschedule entry fx duration period).entries =
      w.entries.insert entry (fx, w.expirations.nextKey, duration) :=
  rfl

section Expiry

variable {w : SessionQueueWorker F} {entry : QueueWorkerTicket}

/-- Queueing a ticket again, once its only delay has expired, restores the match. -/
theorem matched_reschedule
    (hrest : ∀ t, w.expirations.values.count t = if t ∈ w.entries.erase entry then 1 else 0)
    (fx : F) (duration period : Nat) : (w.reschedule entry fx duration period).Matched := by
  intro t
  simp only [expirations_reschedule, DelayQueue.values_insert, entries_reschedule]
  refine matched_add hrest (fun hmem => (AList.mem_erase.mp hmem).1 rfl) (fun t => ?_) t
  by_cases ht : t = entry <;> simp [AList.mem_insert, AList.mem_erase, ht]

/-- The body of `poll_purge` on a stored ticket whose only delay has expired: it finds the entry,
and a worker that goes on is matched. -/
theorem purgeEntry_matched
    (hrest : ∀ t, w.expirations.values.count t = if t ∈ w.entries.erase entry then 1 else 0)
    (hstored : entry ∈ w.entries) (result : QueueWorkerResult) :
    ∃ shutdown w', w.purgeEntry entry result = some (shutdown, w') ∧
      (shutdown = false → w'.Matched) := by
  obtain ⟨⟨fx, key, duration⟩, hlookup⟩ :=
    Option.isSome_iff_exists.mp (AList.lookup_isSome.mpr hstored)
  -- the removals leave exactly the state `hrest` describes; the new delays restore the match
  have herased : (⟨w.entries.erase entry, w.expirations, w.rollingIdx⟩ : SessionQueueWorker F).Matched :=
    hrest
  cases entry with
  | oneshot idx cid =>
      exact ⟨result == .endSession, _, by simp [purgeEntry, hlookup], fun _ => herased⟩
  | periodic idx cid =>
      cases result with
      | complete => exact ⟨false, _, by simp [purgeEntry, hlookup], fun _ => herased⟩
      | endSession => exact ⟨true, w, by simp [purgeEntry, hlookup], fun h => nomatch h⟩
      | adjustPeriodicity newPeriod =>
          exact ⟨false, w.reschedule _ fx duration newPeriod, by simp [purgeEntry, hlookup],
            fun _ => matched_reschedule hrest _ _ _⟩
      | incomplete =>
          exact ⟨false, w.reschedule _ fx duration duration, by simp [purgeEntry, hlookup],
            fun _ => matched_reschedule hrest _ _ _⟩

end Expiry

/-- A registration under a fresh ticket keeps the match. -/
theorem Matched.insertReserved {w : SessionQueueWorker F} (hmatched : w.Matched)
    {key : Option QueueWorkerTicket} (hfresh : w.ticketOf key ∉ w.entries) (timeout : Nat)
    (onTimeout : F) : (w.insertReserved key timeout onTimeout).Matched := by
  intro entry
  simp only [expirations_insertReserved, DelayQueue.values_insert, entries_insertReserved]
  exact matched_add hmatched hfresh (fun t => AList.mem_insert _) entry

/-- Every expiry from a matched worker finds its entry, and a worker that goes on is matched. -/
theorem Matched.pollPurge {w : SessionQueueWorker F} (hmatched : w.Matched) (disconnected : Bool)
    (i : Nat) (result : QueueWorkerResult) :
    ∃ shutdown w', w.pollPurge disconnected i result = some (shutdown, w') ∧
      (shutdown = false → w'.Matched) := by
  unfold SessionQueueWorker.pollPurge
  by_cases hdisconnected : disconnected
  · exact ⟨true, w, by simp [hdisconnected], fun h => nomatch h⟩
  rw [if_neg hdisconnected]
  cases hexpire : w.expirations.expire i with
  | none => exact ⟨false, w, rfl, fun _ => hmatched⟩
  | some popped =>
      obtain ⟨entry, expirations⟩ := popped
      obtain ⟨hstored, hrest⟩ := matched_remove hmatched (DelayQueue.perm_of_expire hexpire)
      exact purgeEntry_matched (w := { w with expirations := expirations }) hrest hstored result

/-- With fresh tickets, every reachable worker is matched and no expiry panics. -/
theorem fresh_registrations_never_panic {w : SessionQueueWorker F} (hw : freshSystem.Reachable w) :
    w.Matched ∧ ∀ disconnected i result, w.pollPurge disconnected i result ≠ none := by
  have hinv : (freshSystem (F := F)).Inductive Matched := by
    refine ⟨fun w hinit => hinit ▸ matched_new, ?_⟩
    rintro w (⟨key, timeout, onTimeout⟩ | ⟨i, result⟩) w' hmatched ⟨hfresh, hstep⟩
    · cases hstep
      exact hmatched.insertReserved hfresh _ _
    · -- only an expiry that neither panics nor shuts down is a step
      obtain ⟨shutdown, w'', hpoll, hgoes⟩ := hmatched.pollPurge false i result
      simp only [step, hpoll] at hstep
      cases shutdown
      · cases hstep
        exact hgoes rfl
      · cases hstep
  have hmatched := hinv.reachable hw
  refine ⟨hmatched, fun disconnected i result hnone => ?_⟩
  obtain ⟨_, _, hpoll, -⟩ := hmatched.pollPurge disconnected i result
  rw [hpoll] at hnone
  cases hnone

/-- A one-shot registration and then one group's timeout, from a new worker. -/
theorem fresh_registrations_never_panic_of_group_timeout :
    let w : SessionQueueWorker Unit := (new.insertReserved none 5 ()).insertOrdinary 2 7 30000 ()
    freshSystem.Reachable w ∧
      (w.Matched ∧ ∀ disconnected i result, w.pollPurge disconnected i result ≠ none) := by
  intro w
  have hone : (freshSystem (F := Unit)).Reachable (new.insertReserved none 5 ()) :=
    .step (.insertReserved none 5 ()) (.init rfl) ⟨by decide, rfl⟩
  have hw : freshSystem.Reachable w :=
    .step (.insertReserved (some (.periodic (2 + queueWorkerReservedIndex) 7)) 30000 ()) hone
      ⟨by decide, rfl⟩
  exact ⟨hw, fresh_registrations_never_panic hw⟩

end SessionQueueWorker

end CitadelProtocol.Proto
