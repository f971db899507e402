import CitadelProtocol.Lib.Network

/-!
# NetMutex

`net_mutex.rs`: a value shared by two nodes, and a lock over it. Each node keeps the value under
a local tokio mutex (`shared_state`). Three kinds of task take that mutex: the passive
background handler, which answers the other node's `TryAcquire`; the acquirer of `lock()`; and
the drop code of a guard. Each of them receives from the node's one subscription only while it
holds the local mutex, so a node's state is which task holds it and where that task is waiting.

A conflict is two `TryAcquire`s in flight at once; the earlier request time wins. The winner
takes the lock at once and sends only `LockAcquired`. The loser yields: it sends its value and
waits in `yield_lock` for the winner's release. Then its own acquirer goes on waiting.

Dropping a `NetMutex` stops the node's background handler and sends `Halt`, on which the other
node's acquirer returns an error.

Two results follow. A `lock()` that lost a conflict does not take the guard until the other node
calls `lock()` again: it waits, or fails once the other node drops its `NetMutex`
(`lock_waits_after_lost_conflict`). And after a second conflict, won this time by that waiting
node, its background handler receives the other node's `Released` and reaches `unreachable!`
(`background_panics_after_conflicts`).
-/

namespace CitadelProtocol.Netbeam

namespace NetMutex

open Duplex Network

/-- `UpdatePacket`. `Released` carries the value that bincode serializes; here it carries the
value itself. -/
inductive UpdatePacket (T : Type)
  | tryAcquire (time : Int)
  | released (value : T)
  | lockAcquired
  | halt
  | releasedVerified
  deriving DecidableEq, Repr

/-- Which task of a node holds its local mutex, and where that task waits for a packet. -/
inductive Holder
  /-- Nobody: the mutex is free. -/
  | none
  /-- `passive_background_handler`, in its `select!` over the subscription. -/
  | background
  /-- The handler, in `yield_lock` after a `TryAcquire`. -/
  | backgroundYield
  /-- `net_mutex_guard_acquirer`, in its loop, with its request time. -/
  | acquirer (localRequestTime : Int)
  /-- The acquirer, in `yield_lock` after losing a conflict. -/
  | acquirerYield (localRequestTime : Int)
  /-- The user, through a `NetMutexGuard`: no task receives. -/
  | guard
  /-- `net_mutex_drop_code`, waiting for `ReleasedVerified`. -/
  | dropCode (adjacentTryingToAcquire : Bool)
  /-- The drop code, in `yield_lock` after the release was verified. -/
  | dropCodeYield
  deriving DecidableEq, Repr

/-- Whether the passive background handler still runs. It stops with an error on `Halt`; it
panics at `unreachable!` on a packet that only `yield_lock` expects. Either way its task ends and
its guard of the local mutex is dropped. -/
inductive Background
  | running
  | stopped
  | panicked
  deriving DecidableEq, Repr

/-- The holder once the stop signal has ended the background handler: the guard of the mutex
that the handler's task held is dropped with it. -/
def Holder.stopBackground : Holder → Holder
  | .background | .backgroundYield => .none
  | holder => holder

/-- The handler after the stop signal: a running one stops, an ended one stays as it ended. -/
def Background.stop : Background → Background
  | .running => .stopped
  | background => background

/-- A node: the holder of its local mutex, the value under it, its background handler, and
whether its user has dropped the `NetMutex`. -/
structure Node (T : Type) where
  holder : Holder
  value : T
  background : Background
  dropped : Bool
  deriving DecidableEq, Repr

/-- What a task does with one packet: where the node's mutex goes, the value, the packets sent. -/
abbrev Reaction (T : Type) := Holder × T × List (UpdatePacket T)

variable {T : Type}

/-- `sync_establish_init`, once each node has sent `Syn` with its own value and received the
other's: the node that has no value takes the other's; otherwise both fail. -/
def syncEstablishInit (localValue remoteValue : Option T) : Except String T :=
  match remoteValue, localValue with
  | some remoteValue, none => .ok remoteValue
  | none, some localValue => .ok localValue
  | _, _ => .error "Only one node may set the initial Mutex value"

/-- The loop of `yield_lock` on one packet, the local value sent already. On `Released` it takes
the remote value, confirms, and hands the mutex back to its caller, which goes on as `resume`. On
`Halt` it hands the mutex back with the local value. On anything else it waits. -/
def yieldLock (resume waiting : Holder) (value : T) : UpdatePacket T → Reaction T
  | .released newValue => (resume, newValue, [.lockAcquired, .releasedVerified])
  | .halt => (resume, value, [])
  | .lockAcquired | .releasedVerified => (waiting, value, [])
  -- the warning on an invalid packet
  | .tryAcquire _ => (waiting, value, [])

/-- The loop of `net_mutex_guard_acquirer` on one packet. -/
def netMutexGuardAcquirer (localRequestTime : Int) (value : T) : UpdatePacket T → Reaction T
  | .released newData => (.guard, newData, [.lockAcquired, .releasedVerified])
  | .lockAcquired => (.acquirer localRequestTime, value, [])
  | .tryAcquire remoteRequestTime =>
      -- both are trying to acquire: the earlier request wins, the remote one on a tie
      if remoteRequestTime ≤ localRequestTime then
        (.acquirerYield localRequestTime, value, [.released value])
      else (.guard, value, [.lockAcquired])
  -- the error drops the local lock
  | .halt => (.none, value, [])
  | .releasedVerified => (.acquirer localRequestTime, value, [])

/-- The loop of `net_mutex_drop_code` on one packet, `Released` sent already. A `TryAcquire`
seen meanwhile makes it yield once the release is verified. -/
def netMutexDropCode (adjacentTryingToAcquire : Bool) (value : T) : UpdatePacket T → Reaction T
  | .releasedVerified =>
      if adjacentTryingToAcquire then (.dropCodeYield, value, [.released value])
      else (.none, value, [])
  | .tryAcquire _ => (.dropCode true, value, [])
  | _ => (.dropCode adjacentTryingToAcquire, value, [])

/-- `passive_background_handler` on the packet its `select!` receives, with the state of the
handler after it. -/
def passiveBackgroundHandler (value : T) : UpdatePacket T → Reaction T × Background
  | .tryAcquire _ => ((.backgroundYield, value, [.released value]), .running)
  -- `unreachable!`
  | .released _ | .releasedVerified | .lockAcquired => ((.none, value, []), .panicked)
  | .halt => ((.none, value, []), .stopped)

/-- What a node's user and its background handler do of their own accord. -/
inductive Input (T : Type)
  /-- The handler's `try_lock_owned` takes the free mutex, and it listens. -/
  | listen
  /-- The signal of a `lock()` reaches the listening handler, which lets the mutex go. -/
  | signal
  /-- `lock()` takes the free mutex and sends `TryAcquire` with its request time. -/
  | lock (localRequestTime : Int)
  /-- The user writes through the guard. -/
  | write (value : T)
  /-- The user drops the guard: its drop code sends `Released` with the value. -/
  | drop
  /-- The user drops the `NetMutex`: the stop signal ends the background handler, and `Halt` is
  sent. -/
  | dropMutex
  deriving DecidableEq, Repr

namespace Node

/-- The node after a task's reaction, the handler unchanged. -/
def react (node : Node T) (reaction : Reaction T) : Node T × List (UpdatePacket T) :=
  (⟨reaction.1, reaction.2.1, node.background, node.dropped⟩, reaction.2.2)

/-- A step of the node's own. `lock()` fails at its signal when the handler has ended, since the
handler's receiver is gone; then it takes nothing, and so once the `NetMutex` is dropped. The
`NetMutex` is dropped once, and not while an acquirer borrows it. -/
def act : Node T → Input T → Option (Node T × List (UpdatePacket T))
  | ⟨.none, value, .running, dropped⟩, .listen => some (⟨.background, value, .running, dropped⟩, [])
  | ⟨.background, value, background, dropped⟩, .signal =>
      some (⟨.none, value, background, dropped⟩, [])
  | ⟨.none, value, .running, dropped⟩, .lock time =>
      some (⟨.acquirer time, value, .running, dropped⟩, [.tryAcquire time])
  | ⟨.guard, _, background, dropped⟩, .write value => some (⟨.guard, value, background, dropped⟩, [])
  | ⟨.guard, value, background, dropped⟩, .drop =>
      some (⟨.dropCode false, value, background, dropped⟩, [.released value])
  | ⟨.acquirer _, _, _, _⟩, .dropMutex | ⟨.acquirerYield _, _, _, _⟩, .dropMutex => none
  | ⟨holder, value, background, false⟩, .dropMutex =>
      some (⟨holder.stopBackground, value, background.stop, true⟩, [.halt])
  | _, _ => none

/-- The node on the oldest packet towards it, taken by the task that holds its mutex. With the
mutex free or held by the user, no task receives. -/
def handle (node : Node T) (packet : UpdatePacket T) : Option (Node T × List (UpdatePacket T)) :=
  match node.holder with
  | .none | .guard => none
  | .background =>
      let (reaction, background) := passiveBackgroundHandler node.value packet
      some (⟨reaction.1, reaction.2.1, background, node.dropped⟩, reaction.2.2)
  | .backgroundYield => some (node.react (yieldLock .none .backgroundYield node.value packet))
  | .acquirer time => some (node.react (netMutexGuardAcquirer time node.value packet))
  | .acquirerYield time =>
      some (node.react (yieldLock (.acquirer time) (.acquirerYield time) node.value packet))
  | .dropCode adjacent => some (node.react (netMutexDropCode adjacent node.value packet))
  | .dropCodeYield => some (node.react (yieldLock .none .dropCodeYield node.value packet))

end Node

/-- The two nodes of a `NetMutex` over one subscription. -/
def protocol : Protocol (Node T) (UpdatePacket T) (Input T) where
  act := Node.act
  handle := Node.handle

/-- A node once `sync_establish_init` gave it `value`: the mutex free and the handler running. -/
def Node.start (value : T) : Node T := ⟨.none, value, .running, false⟩

/-- The runs of a `NetMutex` whose nodes were created with the value `value`. -/
def system (value : T) : Transition.System (Net (Node T) (UpdatePacket T)) (Label (Input T)) :=
  Network.system protocol (Node.start value) (Node.start value)

/-- Both nodes come out of `sync_establish_init` with one value, or both fail. -/
theorem syncEstablishInit_comm (a b : Option T) : syncEstablishInit a b = syncEstablishInit b a := by
  cases a <;> cases b <;> rfl

/-! ## A `lock()` that lost a conflict

The waiting acquirer receives only what the other node sends. While that node is idle and keeps
its `NetMutex`, it sends nothing; once it drops the `NetMutex` it sends `Halt`, on which the
acquirer fails, and then nothing more. Either way the guard is never taken. -/

namespace Node

/-- The mutex is free, or the background handler listens holding it. -/
def Idle (node : Node T) : Prop := node.holder = .none ∨ node.holder = .background

/-- The mutex is free or listened to, or an acquirer holds it. -/
def Unguarded (node : Node T) : Prop := node.Idle ∨ ∃ time, node.holder = .acquirer time

/-- The user dropped the `NetMutex`, and no task of the node holds its mutex or will run again. -/
structure Gone (node : Node T) : Prop where
  holder : node.holder = .none
  background : node.background ≠ .running
  dropped : node.dropped = true

/-- While an acquirer holds the mutex, the node takes no step of its own. -/
theorem act_of_acquirer {node : Node T} {time : Int} (hholder : node.holder = .acquirer time)
    (input : Input T) : act node input = none := by
  obtain ⟨holder, value, background, dropped⟩ := node
  subst hholder
  cases input <;> rfl

/-- A node that is gone takes no step of its own. -/
theorem act_of_gone {node : Node T} (hgone : node.Gone) (input : Input T) : act node input = none := by
  obtain ⟨holder, value, background, dropped⟩ := node
  obtain ⟨rfl, hbackground, rfl⟩ := hgone
  cases input <;> cases background <;> simp_all [act]

/-- A node that is gone takes no packet. -/
theorem handle_of_gone {node : Node T} (hgone : node.Gone) (packet : UpdatePacket T) :
    handle node packet = none := by
  simp [handle, hgone.holder]

/-- An idle node stays idle on every step of its own but `lock()` and dropping the `NetMutex`,
and sends nothing. -/
theorem act_of_idle {node next : Node T} {input : Input T} {messages : List (UpdatePacket T)}
    (hidle : node.Idle) (hinput : ∀ time, input ≠ .lock time) (hkept : input ≠ .dropMutex)
    (hact : act node input = some (next, messages)) : next.Idle ∧ messages = [] := by
  obtain ⟨holder, value, background, dropped⟩ := node
  rcases hidle with rfl | rfl <;> cases input <;> cases background <;>
    simp_all [act, Idle, eq_comm]

/-- An idle node that drops its `NetMutex` is gone, and sends `Halt`. -/
theorem act_dropMutex_of_idle {node next : Node T} {messages : List (UpdatePacket T)}
    (hidle : node.Idle) (hact : act node .dropMutex = some (next, messages)) :
    next.Gone ∧ messages = [.halt] := by
  obtain ⟨holder, value, background, dropped⟩ := node
  rcases hidle with rfl | rfl <;> cases dropped <;> simp only [act, Option.some.injEq,
    Prod.mk.injEq, reduceCtorEq] at hact <;> obtain ⟨rfl, rfl⟩ := hact <;>
    exact ⟨⟨rfl, by cases background <;> simp [Background.stop], rfl⟩, rfl⟩

/-- A node whose mutex is free, listened to or held by an acquirer stays so on every step of
its own. -/
theorem act_of_unguarded {node next : Node T} {input : Input T} {messages : List (UpdatePacket T)}
    (hunguarded : node.Unguarded) (hact : act node input = some (next, messages)) :
    next.Unguarded := by
  obtain ⟨holder, value, background, dropped⟩ := node
  rcases hunguarded with (rfl | rfl) | ⟨time, rfl⟩
  all_goals
    cases input <;> cases background <;> cases dropped <;>
      simp only [act, Option.some.injEq, Prod.mk.injEq, reduceCtorEq] at hact
  all_goals
    obtain ⟨rfl, rfl⟩ := hact
    simp [Unguarded, Idle, Holder.stopBackground]

end Node

/-- A node's `lock()` waits: its acquirer holds the node's mutex with request time `time`. The
other node is idle, and nothing is in flight, so no task of either node receives anything. -/
structure Waiting (side : Side) (time : Int) (net : Net (Node T) (UpdatePacket T)) : Prop where
  waiting : (net.node side).holder = .acquirer time
  idle : (net.node side.other).Idle
  inbox : ∀ side', net.inbox side' = []

/-- Where a waiting `lock()` can go while the other node does not call `lock()`: it waits; or
the other node has dropped its `NetMutex` and its `Halt` is on the way; or the `lock()` has
failed on that `Halt`, and the node goes on with its mutex free, listened to, or held by a new
acquirer, receiving nothing. -/
inductive Stranded (side : Side) (time : Int) (net : Net (Node T) (UpdatePacket T)) : Prop
  | waiting (h : Waiting side time net)
  | halting (hwaiting : (net.node side).holder = .acquirer time) (hgone : (net.node side.other).Gone)
      (hinbox : net.inbox side = [.halt])
  | failed (hunguarded : (net.node side).Unguarded) (hgone : (net.node side.other).Gone)
      (hinbox : net.inbox side = [])

section Stranded

variable {side : Side} {time : Int} {net net' : Net (Node T) (UpdatePacket T)}
  {label : Label (Input T)}

/-- The node of `side` after the other node's step of its own. -/
theorem node_post_other_self (state : Node T) (messages : List (UpdatePacket T)) :
    (net.post side.other state messages).node side = net.node side := by
  simpa using Net.node_post_other net side.other state messages

/-- The waiting phase: the other node's steps keep the `lock()` waiting, but dropping its
`NetMutex`, which sends `Halt`. -/
theorem Stranded.step_of_waiting (h : Waiting side time net)
    (hlabel : ∀ t, label ≠ .act side.other (.lock t))
    (hstep : Network.step protocol net label = some net') : Stranded side time net' := by
  cases label with
  | act side' input =>
      obtain ⟨state, messages, hact, rfl⟩ := step_act hstep
      by_cases hside : side' = side
      · -- the waiting node takes no step of its own
        subst hside
        simp [protocol, Node.act_of_acquirer h.waiting] at hact
      · obtain rfl := Side.eq_other_of_ne hside
        by_cases hdrop : input = .dropMutex
        · -- the other node drops its `NetMutex`: `Halt` is on the way
          subst hdrop
          obtain ⟨hgone, rfl⟩ := Node.act_dropMutex_of_idle h.idle hact
          refine .halting ?_ (by simpa using hgone) ?_
          · rw [node_post_other_self]
            exact h.waiting
          · simpa [h.inbox] using Net.inbox_post_other net side.other state [.halt]
        · -- any other step leaves it idle, sending nothing
          have hinput : ∀ t, input ≠ .lock t := fun t heq => hlabel t (by rw [heq])
          obtain ⟨hidle, rfl⟩ := Node.act_of_idle h.idle hinput hdrop hact
          refine .waiting ⟨?_, by simpa using hidle, ?_⟩
          · rw [node_post_other_self]
            exact h.waiting
          · intro side'
            simp [Net.post, Function.update_apply, h.inbox]
  | deliver side' =>
      -- nothing is in flight
      obtain ⟨message, rest, -, -, hinbox, -⟩ := step_deliver hstep
      simp [h.inbox side'] at hinbox

/-- A node that is gone takes no step of its own in a run. -/
theorem step_act_of_gone {side' : Side} (hgone : (net.node side').Gone) (input : Input T) :
    Network.step protocol net (.act side' input) = none := by
  simp [Network.step, protocol, Node.act_of_gone hgone]

/-- Nor does it take a packet. -/
theorem step_deliver_of_gone {side' : Side} (hgone : (net.node side').Gone) :
    Network.step protocol net (.deliver side') = none := by
  simp only [Network.step]
  split
  · rfl
  · simp [protocol, Node.handle_of_gone hgone]

/-- The halting phase: the one step left is the `Halt` reaching the acquirer, which fails and
lets the mutex go. -/
theorem Stranded.step_of_halting (hwaiting : (net.node side).holder = .acquirer time)
    (hgone : (net.node side.other).Gone) (hinbox : net.inbox side = [.halt])
    (hstep : Network.step protocol net label = some net') : Stranded side time net' := by
  cases label with
  | act side' input =>
      by_cases hside : side' = side
      · subst hside
        obtain ⟨state, messages, hact, -⟩ := step_act hstep
        simp [protocol, Node.act_of_acquirer hwaiting] at hact
      · obtain rfl := Side.eq_other_of_ne hside
        simp [step_act_of_gone hgone] at hstep
  | deliver side' =>
      by_cases hside : side' = side
      · subst hside
        obtain ⟨message, rest, state, messages, hinbox', hhandle, rfl⟩ := step_deliver hstep
        rw [hinbox, List.cons.injEq] at hinbox'
        obtain ⟨rfl, rfl⟩ := hinbox'
        -- the acquirer returns the error of `Halt`
        simp only [protocol, Node.handle, hwaiting, Node.react, netMutexGuardAcquirer,
          Option.some.injEq, Prod.mk.injEq] at hhandle
        obtain ⟨rfl, rfl⟩ := hhandle
        refine .failed (by simp [Node.Unguarded, Node.Idle]) ?_ (by simp)
        simpa using hgone
      · obtain rfl := Side.eq_other_of_ne hside
        simp [step_deliver_of_gone hgone] at hstep

/-- The failed phase: the node's own steps keep its mutex unguarded, and nothing reaches it. -/
theorem Stranded.step_of_failed (hunguarded : (net.node side).Unguarded)
    (hgone : (net.node side.other).Gone) (hinbox : net.inbox side = [])
    (hstep : Network.step protocol net label = some net') : Stranded side time net' := by
  cases label with
  | act side' input =>
      by_cases hside : side' = side
      · subst hside
        obtain ⟨state, messages, hact, rfl⟩ := step_act hstep
        refine .failed (by simpa using Node.act_of_unguarded hunguarded hact) (by simpa using hgone)
          (by simpa using hinbox)
      · obtain rfl := Side.eq_other_of_ne hside
        simp [step_act_of_gone hgone] at hstep
  | deliver side' =>
      by_cases hside : side' = side
      · subst hside
        obtain ⟨message, rest, -, -, hinbox', -⟩ := step_deliver hstep
        simp [hinbox] at hinbox'
      · obtain rfl := Side.eq_other_of_ne hside
        simp [step_deliver_of_gone hgone] at hstep

/-- Every step but a `lock()` of the other node keeps a waiting `lock()` stranded. -/
theorem Stranded.step (h : Stranded side time net) (hlabel : ∀ t, label ≠ .act side.other (.lock t))
    (hstep : Network.step protocol net label = some net') : Stranded side time net' := by
  cases h with
  | waiting h => exact Stranded.step_of_waiting h hlabel hstep
  | halting hwaiting hgone hinbox => exact Stranded.step_of_halting hwaiting hgone hinbox hstep
  | failed hunguarded hgone hinbox => exact Stranded.step_of_failed hunguarded hgone hinbox hstep

/-- Run lemma: through every run in which the other node does not call `lock()`, a waiting
`lock()` stays stranded. -/
theorem Stranded.run (h : Stranded side time net) {labels : List (Label (Input T))}
    (hlabels : ∀ t, .act side.other (.lock t) ∉ labels)
    (hrun : Transition.run (Network.step protocol) net labels = some net') :
    Stranded side time net' :=
  Transition.run_of_step (fun _ label _ hlabel hs hstep => hs.step hlabel hstep) h
    (fun label hmem t heq => hlabels t (by rw [← heq]; exact hmem)) hrun

/-- A stranded `lock()` has not taken the guard, and it still waits unless the other node has
dropped its `NetMutex`. -/
theorem Stranded.not_guard (h : Stranded side time net) :
    (net.node side).holder ≠ .guard ∧
      ((net.node side).holder = .acquirer time ∨ (net.node side.other).dropped = true) := by
  cases h with
  | waiting h => exact ⟨by simp [h.waiting], .inl h.waiting⟩
  | halting hwaiting hgone => exact ⟨by simp [hwaiting], .inl hwaiting⟩
  | failed hunguarded hgone =>
      refine ⟨?_, .inr hgone.dropped⟩
      rcases hunguarded with (hholder | hholder) | ⟨t, hholder⟩ <;> simp [hholder]

end Stranded

/-! ## Two conflicts -/


/-- Both nodes call `lock()`, the initiator earlier. Each `TryAcquire` reaches the other node's
acquirer. The initiator wins, takes the guard and drops it; the responder yields, takes the
initiator's release in `yield_lock` and returns to its acquirer's loop. -/
def firstConflict (t0 t1 : Int) : List (Label (Input T)) :=
  [.act .initiator (.lock t0), .act .responder (.lock t1), .deliver .initiator,
    .act .initiator .drop, .deliver .responder, .deliver .initiator, .deliver .responder,
    .deliver .responder, .deliver .initiator, .deliver .initiator]

/-- The initiator calls `lock()` again, later than the waiting responder's request. The responder
now wins, takes the guard and drops it; the initiator takes the release, then drops its own
guard. The responder's drop code ends on `ReleasedVerified`, its handler listens again, and the
initiator's `Released` reaches it. -/
def secondConflict (t2 : Int) : List (Label (Input T)) :=
  [.act .initiator (.lock t2), .deliver .responder, .deliver .initiator, .act .responder .drop,
    .deliver .initiator, .act .initiator .drop, .deliver .responder, .deliver .responder,
    .act .responder .listen, .deliver .responder]

/-- After the first conflict the responder's `lock()` waits, the initiator's mutex is free, and
both nodes keep the value. -/
theorem run_firstConflict (value : T) {t0 t1 : Int} (h : t0 < t1) :
    ∃ net, Transition.run (Network.step protocol) (Net.start (Node.start value) (Node.start value))
        (firstConflict t0 t1) = some net ∧ Waiting .responder t1 net ∧
      net.node .initiator = Node.start value ∧
      net.node .responder = ⟨.acquirer t1, value, .running, false⟩ := by
  -- the initiator's acquirer wins on the responder's request, the responder's loses
  have hwin : ¬ t1 ≤ t0 := by omega
  have hlose : t0 ≤ t1 := by omega
  simp [firstConflict, Transition.run_cons, Network.step, protocol, Node.act, Node.handle,
    Node.start, Net.start, Net.post, Net.setInbox, Node.react, netMutexGuardAcquirer, yieldLock,
    netMutexDropCode, hwin, hlose]
  exact ⟨rfl, .inl rfl, fun side => by cases side <;> rfl⟩

/-- From the state the first conflict leaves, a later request of the initiator ends in the
responder's handler at `unreachable!`. -/
theorem run_secondConflict {value : T} {t1 t2 : Int} (h : t1 < t2)
    {net : Net (Node T) (UpdatePacket T)} (hwaiting : Waiting .responder t1 net)
    (hinitiator : net.node .initiator = Node.start value)
    (hresponder : net.node .responder = ⟨.acquirer t1, value, .running, false⟩) :
    ∃ net', Transition.run (Network.step protocol) net (secondConflict t2) = some net' ∧
      (net'.node .responder).background = .panicked := by
  -- the waiting responder's acquirer wins on the initiator's new request
  have hwin : ¬ t2 ≤ t1 := by omega
  simp [secondConflict, Transition.run_cons, Network.step, protocol, Node.act, Node.handle,
    Node.start, Net.post, Net.setInbox, Node.react, netMutexGuardAcquirer, yieldLock,
    netMutexDropCode, passiveBackgroundHandler, hinitiator, hresponder, hwaiting.inbox, hwin]

/-- A waiting `lock()` whose other node drops its `NetMutex`: the `Halt` reaches the acquirer,
which returns its error and lets the mutex go. -/
theorem Waiting.run_dropMutex {side : Side} {time : Int} {net : Net (Node T) (UpdatePacket T)}
    (h : Waiting side time net) (hkept : (net.node side.other).dropped = false) :
    ∃ net', Transition.run (Network.step protocol) net [.act side.other .dropMutex, .deliver side] =
        some net' ∧ (net'.node side.other).Gone ∧ (net'.node side).holder = .none := by
  rcases hother : net.node side.other with ⟨holder, value, background, dropped⟩
  have hidle : holder = .none ∨ holder = .background := by
    simpa [Node.Idle, hother] using h.idle
  rw [hother] at hkept
  obtain rfl := hkept
  -- the other node's drop sends `Halt`, the only packet in flight
  have hdrop : Network.step protocol net (.act side.other .dropMutex) = some (net.post side.other
      ⟨.none, value, background.stop, true⟩ [.halt]) := by
    rcases hidle with rfl | rfl <;> simp [Network.step, protocol, hother, Node.act, Holder.stopBackground]
  have hinbox : (net.post side.other ⟨.none, value, background.stop, true⟩ [.halt]).inbox side =
      [.halt] := by
    simpa [h.inbox] using Net.inbox_post_other net side.other ⟨.none, value, background.stop, true⟩
      [.halt]
  have hgone : (⟨.none, value, background.stop, true⟩ : Node T).Gone :=
    ⟨rfl, by cases background <;> simp [Background.stop], rfl⟩
  -- the `Halt` reaches the waiting acquirer, which returns its error
  let gone : Net (Node T) (UpdatePacket T) :=
    net.post side.other ⟨.none, value, background.stop, true⟩ [.halt]
  have hdeliver : Network.step protocol gone (.deliver side) = some ((gone.setInbox side []).post side
      ⟨.none, (net.node side).value, (net.node side).background, (net.node side).dropped⟩ []) := by
    simp [gone, Network.step, hinbox, protocol, Node.handle, node_post_other_self, h.waiting,
      Node.react, netMutexGuardAcquirer]
  refine ⟨(gone.setInbox side []).post side
    ⟨.none, (net.node side).value, (net.node side).background, (net.node side).dropped⟩ [], ?_, ?_,
    by simp⟩
  · simp only [Transition.run_cons, hdrop, Option.bind_some, hdeliver, Transition.run_nil, gone]
  · simpa [gone] using hgone

/-- A `lock()` that lost a conflict does not take the guard until the other node calls `lock()`
again. When both nodes call `lock()` and the initiator's request is the earlier, a run reaches a
state where the responder's acquirer waits with nothing in flight. From there, in every run in
which the initiator does not call `lock()`, the responder holds no guard, and its `lock()` still
waits unless the initiator has dropped its `NetMutex`; dropping it ends the `lock()` with the
error of `Halt`. -/
theorem lock_waits_after_lost_conflict (value : T) {t0 t1 : Int} (h : t0 < t1) :
    ∃ net, (system value).Reachable net ∧ Waiting .responder t1 net ∧
      (∀ (labels : List (Label (Input T))) net', (∀ t, .act .initiator (.lock t) ∉ labels) →
        Transition.run (Network.step protocol) net labels = some net' →
          (net'.node .responder).holder ≠ .guard ∧
            ((net'.node .responder).holder = .acquirer t1 ∨ (net'.node .initiator).dropped = true)) ∧
      ∃ net', Transition.run (Network.step protocol) net
          [.act .initiator .dropMutex, .deliver .responder] = some net' ∧
        (net'.node .responder).holder = .none := by
  obtain ⟨net, hrun, hwaiting, hinitiator, -⟩ := run_firstConflict value h
  refine ⟨net, Transition.run_reachable (.init rfl) hrun, hwaiting,
    fun labels net' hlabels hrun' => ((Stranded.waiting hwaiting).run hlabels hrun').not_guard, ?_⟩
  obtain ⟨net', hrun', -, hfree⟩ := hwaiting.run_dropMutex (by rw [Side.other_responder, hinitiator]; rfl)
  exact ⟨net', hrun', hfree⟩

theorem lock_waits_after_lost_conflict_of_unit :
    (0 : Int) < 1 ∧ ∃ net, (system ()).Reachable net ∧ Waiting .responder 1 net ∧
      (∀ (labels : List (Label (Input Unit))) net', (∀ t, .act .initiator (.lock t) ∉ labels) →
        Transition.run (Network.step protocol) net labels = some net' →
          (net'.node .responder).holder ≠ .guard ∧
            ((net'.node .responder).holder = .acquirer 1 ∨ (net'.node .initiator).dropped = true)) ∧
      ∃ net', Transition.run (Network.step protocol) net
          [.act .initiator .dropMutex, .deliver .responder] = some net' ∧
        (net'.node .responder).holder = .none :=
  ⟨by decide, @lock_waits_after_lost_conflict Unit () 0 1 (by decide)⟩

/-- Code bug: the passive background handler can reach `unreachable!`. Let the initiator's
`lock()` be earlier than the responder's, and a later `lock()` of the initiator be later than it.
The responder loses the first conflict and its `lock()` waits. It wins the second one, with
`LockAcquired` only, so no task of its own is in `yield_lock` when the initiator, which took the
responder's release, drops its guard. The initiator's `Released` then reaches the responder's
handler, whatever the value. -/
theorem background_panics_after_conflicts (value : T) {t0 t1 t2 : Int} (h01 : t0 < t1)
    (h12 : t1 < t2) :
    ∃ net, (system value).Reachable net ∧ (net.node .responder).background = .panicked := by
  obtain ⟨net, hrun, hwaiting, hinitiator, hresponder⟩ := run_firstConflict value h01
  obtain ⟨net', hrun', hpanicked⟩ := run_secondConflict h12 hwaiting hinitiator hresponder
  have hreachable : (system value).Reachable net := Transition.run_reachable (.init rfl) hrun
  exact ⟨net', Transition.run_reachable hreachable hrun', hpanicked⟩

theorem background_panics_after_conflicts_of_unit :
    (0 : Int) < 1 ∧ (1 : Int) < 2 ∧
      ∃ net, (system ()).Reachable net ∧ (net.node .responder).background = .panicked :=
  ⟨by decide, by decide, @background_panics_after_conflicts Unit () 0 1 2 (by decide) (by decide)⟩

end NetMutex

end CitadelProtocol.Netbeam
