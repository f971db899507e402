import CitadelProtocol.Netbeam.NetMutex

/-!
# NetRwLock

`net_rwlock.rs`: the network mutex of `net_mutex.rs` with read and write locks. A node's local
tokio mutex is held by a `LocalLockHolder` of either form: a write holder owns the mutex guard,
a read holder shares it through an `Arc`. Clones of that `Arc` sit in the read guards of the
user and in `local_active_read_lock`, from which `read()` clones it again without asking the
other node. The mutex is free once every clone is gone.

When both nodes ask at once and the remote request is the earlier, `acquire_lock` turns its
holder into the remote's form, yields, and then means to turn it back. The `TryAcquire` arm binds
the remote's lock type under the name of the local one, so the test for turning back compares the
holder with the type it was just given: it never holds (`acquirer_holder_of_reachable`). A
`read()` that lost to a `write()` therefore ends with a read guard over a write holder, whose drop
unwraps the missing `Arc` count (`read_guard_panics_after_lost_conflict`).
-/

namespace CitadelProtocol.Netbeam

namespace NetRwLock

open Duplex Network NetMutex

/-- `LockType`. -/
inductive LockType
  | read
  | write
  deriving DecidableEq, Repr

/-- `UpdatePacket`. `ReleasedWrite` carries the value itself. -/
inductive UpdatePacket (T : Type)
  | tryAcquire (time : Int) (lockType : LockType)
  | releasedWrite (value : T)
  | releasedRead
  | lockAcquired (lockType : LockType)
  | halt
  | releasedVerified (lockType : LockType)
  deriving DecidableEq, Repr

/-- The task of a node that holds a `LocalLockHolder`, of the given form, and receives from the
subscription, or the handler holding the bare mutex guard. -/
inductive Task
  | none
  /-- `passive_background_handler`, in its `select!`. -/
  | background
  /-- The handler, in `yield_lock`. -/
  | backgroundYield (holder : LockType)
  /-- `acquire_lock` for `lockType`, in its loop. -/
  | acquirer (lockType : LockType) (localRequestTime : Int) (holder : LockType)
  /-- `acquire_lock`, in `yield_lock` after the remote's `TryAcquire` for `remoteLockType`. -/
  | acquirerYield (lockType : LockType) (localRequestTime : Int) (remoteLockType : LockType)
      (holder : LockType)
  /-- `net_rwlock_guard_drop_code`, in its loop. -/
  | dropCode (holder : LockType) (adjacentTryingToAcquire : Option LockType)
  /-- The drop code, in `yield_lock`. -/
  | dropCodeYield (holder : LockType)
  deriving DecidableEq, Repr

/-- Whether the task holds a read holder, one clone of the shared `Arc`. -/
def Task.holdsRead : Task → Bool
  | .backgroundYield .read | .acquirer _ _ .read | .acquirerYield _ _ _ .read | .dropCode .read _
  | .dropCodeYield .read => true
  | _ => false

/-- A guard of the user other than the read guards that share the read holder's `Arc`: a
`NetRwLockWriteGuard` with the form of its holder, or a `NetRwLockReadGuard` over a write
holder. -/
inductive Guard
  | write (holder : LockType)
  | readOverWrite
  deriving DecidableEq, Repr

/-- Whether the guard holds a read holder, one clone of the shared `Arc`. -/
def Guard.holdsRead : Guard → Bool
  | .write .read => true
  | _ => false

/-- The task once the stop signal has ended the background handler: the holder the handler's
task held is dropped with it. -/
def Task.stopBackground : Task → Task
  | .background | .backgroundYield _ => .none
  | task => task

/-- A node: its task, the user's guards, `local_active_read_lock`, the value, its handler,
whether one of its tasks panicked, and whether its user has dropped the `NetRwLock`. -/
structure Node (T : Type) where
  task : Task
  guard : Option Guard
  reads : Nat
  stored : Bool
  value : T
  background : Background
  panicked : Bool
  dropped : Bool
  deriving DecidableEq, Repr

variable {T : Type}

namespace Node

/-- `Arc::strong_count` of the read holder: the user's read guards, the stored clone, the task's
holder and a write guard's read holder. -/
def arcStrongCount (node : Node T) : Nat :=
  node.reads + (if node.stored then 1 else 0) + (if node.task.holdsRead then 1 else 0) +
    (if node.guard.any Guard.holdsRead then 1 else 0)

/-- Whether the local mutex is held. -/
def held (node : Node T) : Bool :=
  node.task != .none || node.guard.isSome || node.arcStrongCount != 0

/-- Whether the user holds a `NetRwLockWriteGuard`. -/
def holdsWriteGuard (node : Node T) : Bool :=
  match node.guard with
  | some (.write _) => true
  | _ => false

/-- Whether the user holds a guard of either kind. -/
def holdsGuard (node : Node T) : Bool := node.reads != 0 || node.guard.isSome

/-- `fx(owned_local_lock)` of `acquire_lock`: the guard of `lockType` over the holder, the read
holder also stored in `local_active_read_lock`. -/
def giveGuard (node : Node T) (lockType holder : LockType) : Node T :=
  let node := { node with task := .none, stored := node.stored || holder == LockType.read }
  match lockType, holder with
  | .read, .read => { node with reads := node.reads + 1 }
  | .read, .write => { node with guard := some .readOverWrite }
  | .write, holder => { node with guard := some (.write holder) }

/-- The task ends in a panic; what it held is dropped. -/
def panic (node : Node T) : Node T := { node with task := .none, panicked := true }

end Node

/-- The packet that releases a holder: `ReleasedRead`, or `ReleasedWrite` with the value. -/
def released (holder : LockType) (value : T) : UpdatePacket T :=
  match holder with
  | .read => .releasedRead
  | .write => .releasedWrite value

/-- Where the loop of `yield_lock` goes on one packet. -/
inductive Yield (T : Type)
  | wait
  /-- It returns the holder with this value, having sent these packets. -/
  | done (value : T) (sent : List (UpdatePacket T))
  /-- It returns the error of `Halt`. -/
  | halted

/-- The loop of `yield_lock` with a holder of the given form, its release sent already. -/
def yieldLock (holder : LockType) (value : T) : UpdatePacket T → Yield T
  | .releasedWrite newValue =>
      match holder with
      | .write => .done newValue [.releasedVerified .write]
      -- the warning: a write was expected
      | .read => .wait
  | .releasedRead =>
      match holder with
      | .read => .done value [.releasedVerified .read]
      | .write => .wait
  | .halt => .halted
  -- `LockAcquired`, and the invalid packets
  | _ => .wait

/-- The loop of `acquire_lock` for `lockType` on one packet. -/
def acquireLock (lockType : LockType) (localRequestTime : Int) (holder : LockType)
    (node : Node T) : UpdatePacket T → Node T × List (UpdatePacket T)
  | .releasedWrite newData =>
      let confirm := [.releasedVerified lockType, .lockAcquired lockType]
      match holder with
      | .write => ({ node with value := newData }.giveGuard lockType holder, confirm)
      | .read =>
          -- `Arc::try_unwrap` of the read holder; its error returns with the holder emptied, and
          -- the holder's destructor unwraps what is gone
          if node.arcStrongCount = 1 then
            ({ node with value := newData }.giveGuard lockType holder, confirm)
          else (node.panic, [])
  | .releasedRead => (node.giveGuard lockType holder, [.releasedVerified lockType, .lockAcquired lockType])
  | .lockAcquired _ => (node, [])
  | .tryAcquire remoteRequestTime remoteLockType =>
      if remoteLockType = .read ∧ holder = .read then
        -- both acquire reads: both win
        (node.giveGuard lockType holder, [.releasedRead])
      else if remoteRequestTime ≤ localRequestTime then
        -- the remote wins: the holder takes the remote's form, then yields
        if holder = remoteLockType then
          ({ node with task := .acquirerYield lockType localRequestTime remoteLockType holder },
            [released holder node.value])
        else
          match remoteLockType with
          | .write =>
              -- the store is cleared, then `assert_read_and_upgrade` unwraps the `Arc`
              let node := { node with stored := false }
              if node.arcStrongCount = 1 then
                ({ node with task := .acquirerYield lockType localRequestTime .write .write },
                  [released .write node.value])
              else (node.panic, [])
          | .read =>
              -- `assert_write_and_downgrade`
              ({ node with task := .acquirerYield lockType localRequestTime .read .read },
                [released .read node.value])
      else (node.giveGuard lockType holder, [.lockAcquired remoteLockType])
  -- the error drops the holder
  | .halt => ({ node with task := .none }, [])
  | .releasedVerified _ => (node, [])

/-- `acquire_lock` once its `yield_lock` returns. The holder is turned back where its form differs
from the remote's lock type; the assertions of that turn fail on such a holder. -/
def afterYield (lockType : LockType) (localRequestTime : Int) (remoteLockType holder : LockType)
    (node : Node T) : Node T :=
  if holder = remoteLockType then { node with task := .acquirer lockType localRequestTime holder }
  else node.panic

/-- The loop of `net_rwlock_guard_drop_code` on one packet, its release sent already. -/
def netRwlockGuardDropCode (holder : LockType) (adjacentTryingToAcquire : Option LockType)
    (node : Node T) : UpdatePacket T → Node T × List (UpdatePacket T)
  | .releasedWrite _ => (node, [])
  | .releasedRead =>
      match holder with
      | .read => (node, [.releasedVerified .read])
      | .write => (node, [])
  | .releasedVerified _ =>
      match adjacentTryingToAcquire with
      | some _ => ({ node with task := .dropCodeYield holder }, [released holder node.value])
      | none => ({ node with task := .none }, [])
  | .tryAcquire _ lockType => ({ node with task := .dropCode holder (some lockType) }, [])
  | _ => (node, [])

/-- `passive_background_handler` on the packet its `select!` receives. A read holder is stored
in `local_active_read_lock` while it yields, so local reads go on meanwhile. -/
def passiveBackgroundHandler (node : Node T) : UpdatePacket T → Node T × List (UpdatePacket T)
  | .tryAcquire _ .read => ({ node with task := .backgroundYield .read, stored := true }, [.releasedRead])
  | .tryAcquire _ .write => ({ node with task := .backgroundYield .write }, [.releasedWrite node.value])
  | .halt => ({ node with task := .none, background := .stopped }, [])
  -- the warning; the handler lets the mutex go and tries again
  | _ => ({ node with task := .none }, [])

/-- The handler once its `yield_lock` returns: a read holder whose only other clone is the
stored one clears the store. -/
def backgroundAfterYield (holder : LockType) (node : Node T) : Node T :=
  let stored := if holder = .read ∧ node.arcStrongCount = 2 then false else node.stored
  { node with task := .none, stored := stored }

/-- What a node's user and its background handler do of their own accord. -/
inductive Input (T : Type)
  | listen
  | signal
  /-- `read()`. -/
  | read (localRequestTime : Int)
  /-- `write()`. -/
  | write (localRequestTime : Int)
  /-- `DerefMut` of the write guard, and a write through it. -/
  | assign (value : T)
  /-- The drop of the guard that is not a shared read guard. -/
  | dropGuard
  /-- The drop of one of the shared read guards. -/
  | dropRead
  /-- The user drops the `NetRwLock`: the stop signal ends the background handler, and `Halt` is
  sent. -/
  | dropRwLock
  deriving DecidableEq, Repr

namespace Node

/-- `acquire_lock` starting: it signals the handler, takes the free mutex and sends
`TryAcquire`. The signal fails once the handler has ended. -/
def startAcquire (node : Node T) (lockType : LockType) (time : Int) :
    Option (Node T × List (UpdatePacket T)) :=
  if node.background = .running ∧ node.held = false then
    some ({ node with task := .acquirer lockType time lockType }, [.tryAcquire time lockType])
  else none

/-- `Drop for NetRwLockReadGuard` over the shared read holder: the last guard beside the stored
clone clears the store and spawns the drop code. -/
def dropSharedRead (node : Node T) : Option (Node T × List (UpdatePacket T)) :=
  if node.arcStrongCount = 2 then
    if node.task = .none then
      some ({ node with reads := node.reads - 1, stored := false, task := .dropCode .read none },
        [.releasedRead])
    else none
  else some ({ node with reads := node.reads - 1 }, [])

/-- A step of the node's own. `read()` and `write()` need the `NetRwLock`; the guards outlive
it. It is dropped once, and not while an acquirer borrows it. -/
def act (node : Node T) : Input T → Option (Node T × List (UpdatePacket T))
  | .listen =>
      if node.task = .none ∧ node.background = .running ∧ node.held = false then
        some ({ node with task := .background }, [])
      else none
  | .signal => if node.task = .background then some ({ node with task := .none }, []) else none
  | .read time =>
      if node.dropped then none
      -- `acquire_read` clones the stored holder while another clone exists
      else if node.stored ∧ 1 < node.arcStrongCount then
        some ({ node with reads := node.reads + 1 }, [])
      else node.startAcquire .read time
  | .write time => if node.dropped then none else node.startAcquire .write time
  | .assign value =>
      match node.guard, node.task with
      | some (.write .write), _ => some ({ node with value := value }, [])
      -- `assert_write_mut` panics; the guard drops while unwinding and its drop code runs
      | some (.write .read), .none =>
          some ({ node with guard := none, panicked := true, task := .dropCode .read none },
            [.releasedRead])
      | _, _ => none
  | .dropGuard =>
      match node.guard, node.task with
      | some (.write holder), .none =>
          some ({ node with guard := none, task := .dropCode holder none }, [released holder node.value])
      -- `arc_strong_count` of a write holder is `None`, and the drop unwraps it
      | some .readOverWrite, _ => some ({ node with guard := none, panicked := true }, [])
      | _, _ => none
  | .dropRead => if 0 < node.reads then node.dropSharedRead else none
  | .dropRwLock =>
      match node.task, node.dropped with
      | .acquirer .., _ | .acquirerYield .., _ => none
      | task, false =>
          some ({ node with
            task := task.stopBackground, background := node.background.stop, dropped := true },
            [.halt])
      | _, true => none

/-- The node on the oldest packet towards it, taken by the task that receives. -/
def handle (node : Node T) (packet : UpdatePacket T) : Option (Node T × List (UpdatePacket T)) :=
  match node.task with
  | .none => none
  | .background => some (passiveBackgroundHandler node packet)
  | .backgroundYield holder =>
      match yieldLock holder node.value packet with
      | .wait => some (node, [])
      | .done value sent => some (backgroundAfterYield holder { node with value := value }, sent)
      | .halted => some ({ node with task := .none, background := .stopped }, [])
  | .acquirer lockType time holder => some (acquireLock lockType time holder node packet)
  | .acquirerYield lockType time remoteLockType holder =>
      match yieldLock holder node.value packet with
      | .wait => some (node, [])
      | .done value sent =>
          some (afterYield lockType time remoteLockType holder { node with value := value }, sent)
      | .halted => some ({ node with task := .none }, [])
  | .dropCode holder adjacent => some (netRwlockGuardDropCode holder adjacent node packet)
  | .dropCodeYield holder =>
      match yieldLock holder node.value packet with
      | .wait => some (node, [])
      | .done value sent => some ({ node with value := value, task := .none }, sent)
      | .halted => some ({ node with task := .none }, [])

/-- A node once `sync_establish_init` gave it `value`. -/
def start (value : T) : Node T := ⟨.none, none, 0, false, value, .running, false, false⟩

end Node

/-- The two nodes of a `NetRwLock` over one subscription. -/
def protocol : Protocol (Node T) (UpdatePacket T) (Input T) where
  act := Node.act
  handle := Node.handle

/-- The runs of a `NetRwLock` whose nodes were created with the value `value`. -/
def system (value : T) : Transition.System (Net (Node T) (UpdatePacket T)) (Label (Input T)) :=
  Network.system protocol (Node.start value) (Node.start value)

/-- Reader/writer exclusion: no node holds a write guard while the other node holds a guard. -/
def Exclusive (net : Net (Node T) (UpdatePacket T)) : Prop :=
  ∀ side, (net.node side).holdsWriteGuard = true → (net.node side.other).holdsGuard = false

/-! ## The holder after a lost conflict -/

@[simp] theorem giveGuard_task (node : Node T) (lockType holder : LockType) :
    (node.giveGuard lockType holder).task = .none := by
  cases lockType <;> cases holder <;> rfl

@[simp] theorem panic_task (node : Node T) : node.panic.task = .none := rfl

namespace Node

end Node

/-- The initiator asks to write, then the responder to read. The initiator wins, writes and drops
its guard; the responder's acquirer yields with its holder made a write holder and takes the
initiator's value. The initiator asks to read: the waiting responder wins this time. -/
def readLosesToWrite (t0 t1 t2 : Int) : List (Label (Input T)) :=
  [.act .initiator (.write t0), .act .responder (.read t1), .deliver .initiator,
    .act .initiator .dropGuard, .deliver .responder, .deliver .initiator, .deliver .responder,
    .deliver .responder, .deliver .initiator, .act .initiator (.read t2), .deliver .responder]

/-- The initiator asks to read, then the responder to write. The initiator wins, reads and drops
its guard; the responder's acquirer yields with its holder made a read holder. The initiator asks
to read again, and both reads win. -/
def writeLosesToRead (t0 t1 t2 : Int) : List (Label (Input T)) :=
  [.act .initiator (.read t0), .act .responder (.write t1), .deliver .initiator,
    .act .initiator .dropRead, .deliver .responder, .deliver .initiator, .deliver .responder,
    .deliver .responder, .deliver .initiator, .deliver .responder, .act .initiator (.read t2),
    .deliver .responder]

/-- Code bug: a `read()` that lost a conflict to an earlier `write()` returns a read guard over a
write holder, and dropping that guard panics. The responder's `read()` at `t1` loses to the
initiator's `write()` at `t0`. It goes on with the write holder it yielded with, and wins against
the initiator's `read()` at `t2`. Its `NetRwLockReadGuard` then holds a `LocalLockHolder::Write`,
whose `arc_strong_count` is `None`, and the guard's drop unwraps it. -/
theorem read_guard_panics_after_lost_conflict (value : T) {t0 t1 t2 : Int} (h01 : t0 < t1)
    (h12 : t1 < t2) :
    ∃ net, (system value).Reachable net ∧ (net.node .responder).guard = some .readOverWrite ∧
      ∃ net', Network.step protocol net (.act .responder .dropGuard) = some net' ∧
        (net'.node .responder).panicked = true := by
  -- the initiator's write wins over the responder's read, which wins over its second request
  have hwin : ¬ t1 ≤ t0 := by omega
  have hlose : t0 ≤ t1 := by omega
  have hwin' : ¬ t2 ≤ t1 := by omega
  obtain ⟨net, hrun, hguard⟩ : ∃ net, Transition.run (Network.step protocol)
      (Net.start (Node.start value) (Node.start value)) (readLosesToWrite t0 t1 t2) = some net ∧
      (net.node .responder).guard = some .readOverWrite := by
    simp [readLosesToWrite, Transition.run_cons, Network.step, protocol, Node.act,
      Node.startAcquire, Node.held, Node.arcStrongCount, Task.holdsRead, Node.handle, acquireLock,
      yieldLock, afterYield, netRwlockGuardDropCode, Node.giveGuard, released, Node.start,
      Net.start, Net.post, Net.setInbox, hwin, hlose, hwin']
  refine ⟨net, Transition.run_reachable (.init rfl) hrun, hguard, ?_⟩
  simp [Network.step, protocol, Node.act, hguard]

theorem read_guard_panics_after_lost_conflict_of_unit :
    (0 : Int) < 1 ∧ (1 : Int) < 2 ∧
      ∃ net, (system ()).Reachable net ∧ (net.node .responder).guard = some .readOverWrite ∧
        ∃ net', Network.step protocol net (.act .responder .dropGuard) = some net' ∧
          (net'.node .responder).panicked = true :=
  ⟨by decide, by decide, @read_guard_panics_after_lost_conflict Unit () 0 1 2 (by decide) (by decide)⟩

/-- Where `writeLosesToRead` leaves the nodes: the responder holds a write guard over a read
holder, its task done, and the initiator's second `read()` has the responder's `ReleasedRead` on
the way. -/
theorem run_writeLosesToRead (value : T) {t0 t1 : Int} (h01 : t0 < t1) (t2 : Int) :
    ∃ net, Transition.run (Network.step protocol)
        (Net.start (Node.start value) (Node.start value)) (writeLosesToRead t0 t1 t2) = some net ∧
      (net.node .responder).guard = some (.write .read) ∧ (net.node .responder).task = .none ∧
      (net.node .initiator).task = .acquirer .read t2 .read ∧ (net.node .initiator).reads = 0 ∧
      net.inbox .initiator = [.releasedRead] := by
  -- the initiator's read wins over the responder's write
  have hwin : ¬ t1 ≤ t0 := by omega
  have hlose : t0 ≤ t1 := by omega
  simp [writeLosesToRead, Transition.run_cons, Network.step, protocol, Node.act,
    Node.startAcquire, Node.dropSharedRead, Node.held, Node.arcStrongCount, Task.holdsRead,
    Node.handle, acquireLock, yieldLock, afterYield, netRwlockGuardDropCode, Node.giveGuard,
    released, Node.start, Net.start, Net.post, Net.setInbox, hwin, hlose]

/-- Code bug: a `write()` that lost a conflict to an earlier `read()` returns a write guard over a
read holder, and writing through it panics. The responder's `write()` at `t1` loses to the
initiator's `read()` at `t0` and goes on with the read holder it yielded with. A second `read()` of
the initiator, at any time, meets that read holder, and both reads win. The responder's
`NetRwLockWriteGuard` then holds a `LocalLockHolder::Read`, and its `DerefMut` fails
`assert_write_mut`. -/
theorem write_guard_panics_after_lost_conflict (value : T) {t0 t1 : Int} (h01 : t0 < t1)
    (t2 : Int) :
    ∃ net, (system value).Reachable net ∧ (net.node .responder).guard = some (.write .read) ∧
      ∀ newValue, ∃ net', Network.step protocol net (.act .responder (.assign newValue)) = some net' ∧
        (net'.node .responder).panicked = true := by
  obtain ⟨net, hrun, hguard, htask, -⟩ := run_writeLosesToRead value h01 t2
  refine ⟨net, Transition.run_reachable (.init rfl) hrun, hguard, fun newValue => ?_⟩
  simp [Network.step, protocol, Node.act, hguard, htask]

theorem write_guard_panics_after_lost_conflict_of_unit :
    (0 : Int) < 1 ∧
      ∃ net, (system ()).Reachable net ∧ (net.node .responder).guard = some (.write .read) ∧
        ∀ newValue, ∃ net', Network.step protocol net (.act .responder (.assign newValue)) =
          some net' ∧ (net'.node .responder).panicked = true :=
  ⟨by decide, @write_guard_panics_after_lost_conflict Unit () 0 1 (by decide) 2⟩

/-- Code bug: reader/writer exclusion fails. In the run of `writeLosesToRead` the initiator then
takes the responder's `ReleasedRead`, and its second `read()` returns a `NetRwLockReadGuard` while
the responder holds the `NetRwLockWriteGuard` that its `write()` returned. -/
theorem write_guard_beside_remote_read_guard (value : T) {t0 t1 : Int} (h01 : t0 < t1) (t2 : Int) :
    ∃ net, (system value).Reachable net ∧ (net.node .responder).guard = some (.write .read) ∧
      (net.node .initiator).reads = 1 ∧ ¬ Exclusive net := by
  obtain ⟨net, hrun, hguard, -, htask, hreads, hinbox⟩ := run_writeLosesToRead value h01 t2
  have hreachable : (system value).Reachable net := Transition.run_reachable (.init rfl) hrun
  -- the initiator's `acquire_lock` takes `ReleasedRead` and gives its read guard
  obtain ⟨net', hstep, hguard', hreads'⟩ : ∃ net',
      Network.step protocol net (.deliver .initiator) = some net' ∧
        (net'.node .responder).guard = some (.write .read) ∧ (net'.node .initiator).reads = 1 := by
    simp [Network.step, hinbox, protocol, Node.handle, htask, acquireLock, Node.giveGuard, hreads,
      Net.post, Net.setInbox, hguard]
  refine ⟨net', .step _ hreachable hstep, hguard', hreads', fun hexclusive => ?_⟩
  have hinitiator := hexclusive .responder (by simp [Node.holdsWriteGuard, hguard'])
  simp [Node.holdsGuard, hreads'] at hinitiator

theorem write_guard_beside_remote_read_guard_of_unit :
    (0 : Int) < 1 ∧
      ∃ net, (system ()).Reachable net ∧ (net.node .responder).guard = some (.write .read) ∧
        (net.node .initiator).reads = 1 ∧ ¬ Exclusive net :=
  ⟨by decide, @write_guard_beside_remote_read_guard Unit () 0 1 (by decide) 2⟩

end NetRwLock

end CitadelProtocol.Netbeam
