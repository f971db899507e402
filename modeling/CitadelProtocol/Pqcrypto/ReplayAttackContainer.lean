import CitadelProtocol.Lib.MachineInt

/-! # The anti-replay window of a post-quantum container

`AntiReplayAttackContainer` numbers outbound packets with a counter and, on the
inbound side, keeps the PIDs that arrived in a set together with a `lowest`
counter. A PID is admitted when it is not in the set and is at least
`lowest - HISTORY_LEN`. Once the set holds `HISTORY_LEN` PIDs, each admission
first evicts the PID equal to `lowest`, if present, and then advances `lowest`.

The admission bound trails `lowest` by a whole window, so an evicted PID passes
both tests again: the first PID of a session is admitted a second time after
`HISTORY_LEN + 1` distinct PIDs.
-/

namespace CitadelProtocol.Pqcrypto

open MachineInt

/-- `HISTORY_LEN`: the number of past PIDs kept for out-of-order delivery. -/
def historyLen : UInt64 := 1024

/-- The container: `history` is the pair `(lowest, arrived PIDs)` behind the mutex,
`counterOut` the next outbound PID. -/
structure AntiReplayAttackContainer where
  history : UInt64 × Finset UInt64
  counterOut : UInt64

namespace AntiReplayAttackContainer

/-- `Default::default`, also the state `reset` returns to. -/
def default : AntiReplayAttackContainer where
  history := (0, ∅)
  counterOut := 0

/-- `get_next_pid`: hand out the outbound counter and advance it. -/
def getNextPid (c : AntiReplayAttackContainer) : UInt64 × AntiReplayAttackContainer :=
  (c.counterOut, { c with counterOut := c.counterOut + 1 })

/-- `reset`: both counters to zero and an empty history. -/
def reset (_ : AntiReplayAttackContainer) : AntiReplayAttackContainer := default

/-- `on_pid_received`: admit a PID (returning `true`) or reject it. -/
def onPidReceived (c : AntiReplayAttackContainer) (pidReceived : UInt64) :
    Bool × AntiReplayAttackContainer :=
  let queue := c.history
  if pidReceived ∈ queue.2 then
    (false, c)
  else
    let min := saturatingSub queue.1 historyLen
    if min ≤ pidReceived then
      -- a full window first drops `lowest`, advancing it only when it was present
      let queue :=
        if historyLen.toNat ≤ queue.2.card then
          if queue.1 ∈ queue.2 then (queue.1 + 1, queue.2.erase queue.1) else queue
        else queue
      (true, { c with history := (queue.1, insert pidReceived queue.2) })
    else
      (false, c)

/-- A sequence of `on_pid_received` calls: the verdicts in order and the final container. -/
def onPidsReceived : AntiReplayAttackContainer → List UInt64 → List Bool × AntiReplayAttackContainer
  | c, [] => ([], c)
  | c, pid :: rest =>
      let first := c.onPidReceived pid
      let after := first.2.onPidsReceived rest
      (first.1 :: after.1, after.2)

/-! ## One call -/

/-- A PID already in the history is rejected and nothing changes. -/
theorem onPidReceived_of_mem {c : AntiReplayAttackContainer} {pid : UInt64}
    (hmem : pid ∈ c.history.2) : c.onPidReceived pid = (false, c) := by
  simp [onPidReceived, hmem]

/-- A rejected PID leaves the container unchanged. -/
theorem onPidReceived_reject {c : AntiReplayAttackContainer} {pid : UInt64}
    (hreject : (c.onPidReceived pid).1 = false) : (c.onPidReceived pid).2 = c := by
  simp only [onPidReceived] at hreject ⊢
  split_ifs at hreject ⊢ <;> simp_all

/-- An admitted PID is in the history afterwards. -/
theorem mem_onPidReceived {c : AntiReplayAttackContainer} {pid : UInt64}
    (haccept : (c.onPidReceived pid).1 = true) : pid ∈ (c.onPidReceived pid).2.history.2 := by
  simp only [onPidReceived] at haccept ⊢
  split_ifs at haccept ⊢ <;> simp_all

/-- Below a full window nothing is evicted: a fresh PID at or above the bound is
simply added. -/
theorem onPidReceived_of_card_lt {c : AntiReplayAttackContainer} {pid : UInt64}
    (hfresh : pid ∉ c.history.2) (hmin : saturatingSub c.history.1 historyLen ≤ pid)
    (hcard : c.history.2.card < historyLen.toNat) :
    c.onPidReceived pid = (true, { c with history := (c.history.1, insert pid c.history.2) }) := by
  have hfull : ¬ historyLen.toNat ≤ c.history.2.card := by omega
  simp only [onPidReceived, hfresh, if_false, hmin, if_true, hfull]

/-- With a full window whose lowest PID is present, that PID is evicted and
`lowest` advances. -/
theorem onPidReceived_of_full {c : AntiReplayAttackContainer} {pid : UInt64}
    (hfresh : pid ∉ c.history.2) (hmin : saturatingSub c.history.1 historyLen ≤ pid)
    (hcard : historyLen.toNat ≤ c.history.2.card) (hlowest : c.history.1 ∈ c.history.2) :
    c.onPidReceived pid = (true, { c with history :=
      (c.history.1 + 1, insert pid (c.history.2.erase c.history.1)) }) := by
  simp only [onPidReceived, hfresh, if_false, hmin, if_true, hcard, hlowest]

/-! ## Runs -/

theorem onPidsReceived_append (c : AntiReplayAttackContainer) (first second : List UInt64) :
    c.onPidsReceived (first ++ second) =
      ((c.onPidsReceived first).1 ++ ((c.onPidsReceived first).2.onPidsReceived second).1,
        ((c.onPidsReceived first).2.onPidsReceived second).2) := by
  induction first generalizing c with
  | nil => rfl
  | cons pid rest ih => simp [onPidsReceived, ih]

/-- The PIDs `0, …, n - 1` as they arrive in order. -/
def inOrder (n : Nat) : List UInt64 := (List.range n).map UInt64.ofNat

theorem inOrder_succ (n : Nat) : inOrder (n + 1) = inOrder n ++ [UInt64.ofNat n] := by
  simp only [inOrder, List.range_succ, List.map_append, List.map_singleton]

theorem ofNat_not_mem_inOrder {n : Nat} (hn : n < 2 ^ 64) :
    UInt64.ofNat n ∉ (inOrder n).toFinset := by
  simp only [inOrder, List.mem_toFinset, List.mem_map, List.mem_range, not_exists, not_and]
  intro m hm heq
  have hval := congrArg UInt64.toNat heq
  simp only [UInt64.toNat_ofNat'] at hval
  rw [Nat.mod_eq_of_lt (by omega), Nat.mod_eq_of_lt hn] at hval
  omega

theorem card_inOrder {n : Nat} (hn : n ≤ 2 ^ 64) : (inOrder n).toFinset.card = n := by
  induction n with
  | zero => rfl
  | succ n ih =>
      have hfresh := ofNat_not_mem_inOrder (n := n) (by omega)
      simp only [inOrder, List.range_succ, List.map_append, List.map_singleton,
        List.toFinset_append, List.toFinset_cons, List.toFinset_nil, insert_empty_eq] at hfresh ⊢
      rw [Finset.union_singleton, Finset.card_insert_of_notMem hfresh]
      simp only [inOrder] at ih
      rw [ih (by omega)]

/-- The container after the in-order PIDs `0, …, n - 1`, while no eviction has happened. -/
def afterInOrder (n : Nat) : AntiReplayAttackContainer where
  history := (0, (inOrder n).toFinset)
  counterOut := 0

/-- Step lemma of the warm-up run: below a full window, the next in-order PID is admitted
and joins the history. -/
theorem onPidReceived_afterInOrder {n : Nat} (hn : n < historyLen.toNat) :
    (afterInOrder n).onPidReceived (UInt64.ofNat n) = (true, afterInOrder (n + 1)) := by
  have hlen : historyLen.toNat = 1024 := rfl
  have hfresh := ofNat_not_mem_inOrder (n := n) (by omega)
  have hcard : (inOrder n).toFinset.card < historyLen.toNat := by
    rw [card_inOrder (by omega)]
    exact hn
  rw [onPidReceived_of_card_lt hfresh (by simp [afterInOrder]) hcard]
  simp only [afterInOrder, inOrder, List.range_succ, List.map_append, List.map_singleton,
    List.toFinset_append, List.toFinset_cons, List.toFinset_nil, insert_empty_eq,
    Finset.union_singleton]

/-- Run lemma of the warm-up: from a fresh container the PIDs `0, …, n - 1`, with
`n ≤ HISTORY_LEN`, are all admitted and all kept. -/
theorem onPidsReceived_inOrder {n : Nat} (hn : n ≤ historyLen.toNat) :
    default.onPidsReceived (inOrder n) = (List.replicate n true, afterInOrder n) := by
  induction n with
  | zero => rfl
  | succ n ih =>
      have hstep := onPidReceived_afterInOrder (n := n) (by omega)
      rw [inOrder, List.range_succ, List.map_append, List.map_singleton, ← inOrder,
        onPidsReceived_append, ih (by omega)]
      simp [onPidsReceived, hstep, List.replicate_succ']

/-- The PIDs `0, 1, …, HISTORY_LEN` in order and then PID `0` again: every call,
the replay of PID `0` included, is admitted. -/
theorem onPidsReceived_replays_first_pid :
    default.onPidsReceived (inOrder 1025 ++ [0]) = (List.replicate 1026 true,
      ⟨(2, insert 0 ((insert 1024 ((inOrder 1024).toFinset.erase 0)).erase 1)), 0⟩) := by
  have hlen : historyLen.toNat = 1024 := rfl
  have hcard : (inOrder 1024).toFinset.card = 1024 := card_inOrder (by norm_num)
  have hmem : ∀ m < 1024, UInt64.ofNat m ∈ (inOrder 1024).toFinset := by
    intro m hm
    simp only [inOrder, List.mem_toFinset, List.mem_map, List.mem_range]
    exact ⟨m, hm, rfl⟩
  have hzero : (0 : UInt64) ∈ (inOrder 1024).toFinset := hmem 0 (by norm_num)
  -- PID 1024 meets a full window: PID 0 is evicted and `lowest` becomes 1
  have hevict : (afterInOrder 1024).onPidReceived 1024 = (true,
      ⟨(1, insert 1024 ((inOrder 1024).toFinset.erase 0)), 0⟩) := by
    have hmin : saturatingSub (0 : UInt64) historyLen ≤ 1024 := by
      rw [saturatingSub_eq_zero (by rw [hlen]; decide)]
      exact zero_le _
    rw [onPidReceived_of_full (ofNat_not_mem_inOrder (by norm_num)) hmin
      (by simp [afterInOrder, hcard, hlen]) hzero]
    rfl
  -- the replayed PID 0 is no longer in the set and passes the bound `1 - 1024 = 0`
  have hreplay : (⟨(1, insert 1024 ((inOrder 1024).toFinset.erase 0)), 0⟩ :
      AntiReplayAttackContainer).onPidReceived 0 = (true,
        ⟨(2, insert 0 ((insert 1024 ((inOrder 1024).toFinset.erase 0)).erase 1)), 0⟩) := by
    have hfresh : (0 : UInt64) ∉ insert 1024 ((inOrder 1024).toFinset.erase 0) := by
      simp
    have hnew : (1024 : UInt64) ∉ (inOrder 1024).toFinset.erase 0 := by
      have h := ofNat_not_mem_inOrder (n := 1024) (by norm_num)
      simp only [Finset.mem_erase, not_and]
      exact fun _ hin => h hin
    have hfull : historyLen.toNat ≤ (insert 1024 ((inOrder 1024).toFinset.erase 0)).card := by
      rw [Finset.card_insert_of_notMem hnew, Finset.card_erase_of_mem hzero, hcard, hlen]
    have hlowest : (1 : UInt64) ∈ insert 1024 ((inOrder 1024).toFinset.erase 0) := by
      simpa using hmem 1 (by norm_num)
    have hmin : saturatingSub (1 : UInt64) historyLen ≤ 0 := by
      rw [saturatingSub_eq_zero (by rw [hlen]; decide)]
      exact zero_le _
    rw [onPidReceived_of_full (c := ⟨(1, insert 1024 ((inOrder 1024).toFinset.erase 0)), 0⟩)
      hfresh hmin hfull hlowest]
    rfl
  have hpids : inOrder 1025 ++ [0] = inOrder 1024 ++ [1024, 0] := by
    rw [inOrder_succ 1024, List.append_assoc]
    rfl
  have htail : (afterInOrder 1024).onPidsReceived [1024, 0] = ([true, true],
      ⟨(2, insert 0 ((insert 1024 ((inOrder 1024).toFinset.erase 0)).erase 1)), 0⟩) := by
    simp only [onPidsReceived, hevict, hreplay]
  rw [hpids, onPidsReceived_append, onPidsReceived_inOrder (by rw [hlen]), htail]
  rw [show [true, true] = List.replicate 2 true from rfl, List.replicate_append_replicate]

/-! ## A lost PID

Eviction only removes the PID equal to `lowest`, and only `lowest` being present advances it.
While that PID is missing, a full window evicts nothing, and every admitted PID joins the set. -/

/-- A fresh PID at or above the bound is admitted, and when `lowest` is not in the history
nothing is evicted, however full the window is. -/
theorem onPidReceived_of_lowest_notMem {c : AntiReplayAttackContainer} {pid : UInt64}
    (hfresh : pid ∉ c.history.2) (hmin : saturatingSub c.history.1 historyLen ≤ pid)
    (hlowest : c.history.1 ∉ c.history.2) :
    c.onPidReceived pid = (true, { c with history := (c.history.1, insert pid c.history.2) }) := by
  simp only [onPidReceived, hfresh, if_false, hmin, if_true, hlowest, ite_self]

/-- Run lemma: while `lowest` is missing, distinct fresh PIDs at or above the bound, none of
them `lowest`, are all admitted and all kept. -/
theorem onPidsReceived_of_lowest_notMem {lowest counterOut : UInt64} {arrived : Finset UInt64}
    {pids : List UInt64} (hnodup : pids.Nodup) (hfresh : ∀ pid ∈ pids, pid ∉ arrived)
    (hmin : ∀ pid ∈ pids, saturatingSub lowest historyLen ≤ pid) (hne : lowest ∉ pids)
    (hlowest : lowest ∉ arrived) :
    (⟨(lowest, arrived), counterOut⟩ : AntiReplayAttackContainer).onPidsReceived pids =
      (List.replicate pids.length true, ⟨(lowest, arrived ∪ pids.toFinset), counterOut⟩) := by
  induction pids generalizing arrived with
  | nil => simp [onPidsReceived]
  | cons pid rest ih =>
      obtain ⟨hpid, hrest⟩ := List.nodup_cons.mp hnodup
      have hstep := onPidReceived_of_lowest_notMem (c := ⟨(lowest, arrived), counterOut⟩)
        (hfresh pid (by simp)) (hmin pid (by simp)) hlowest
      -- the rest meets the history with `pid` added, which still lacks `lowest`
      have htail := @ih (insert pid arrived) hrest
        (fun other hother => by
          simp only [Finset.mem_insert, not_or]
          exact ⟨fun heq => hpid (heq ▸ hother), hfresh other (by simp [hother])⟩)
        (fun other hother => hmin other (by simp [hother])) (fun hmem => hne (by simp [hmem]))
        (by
          simp only [Finset.mem_insert, not_or]
          exact ⟨fun heq => hne (by simp [heq]), hlowest⟩)
      simp only [onPidsReceived, hstep, htail, List.length_cons, List.replicate_succ,
        List.toFinset_cons, Finset.insert_union, Finset.union_insert]

/-- The PIDs `1, …, n` in order: every PID of a session but the first, which is lost. -/
def lostFirst (n : Nat) : List UInt64 := (List.range n).map fun i => UInt64.ofNat (i + 1)

theorem nodup_lostFirst {n : Nat} (hn : n < 2 ^ 64) : (lostFirst n).Nodup := by
  refine List.nodup_range.map_on ?_
  intro i hi j hj heq
  rw [List.mem_range] at hi hj
  by_contra hne
  exact ofNat_ne_ofNat (by omega) (by omega) (by omega) heq

theorem zero_notMem_lostFirst {n : Nat} (hn : n < 2 ^ 64) : (0 : UInt64) ∉ lostFirst n := by
  simp only [lostFirst, List.mem_map, List.mem_range, not_exists, not_and]
  intro i hi heq
  exact ofNat_ne_ofNat (a := i + 1) (b := 0) (by omega) (by norm_num) (by omega) heq

/-- When the first PID of a session never arrives, each of the next `n` PIDs is admitted and
kept: the history then holds `n` PIDs, with no bound. -/
theorem history_grows_after_lost_pid (n : Nat) (hn : n < 2 ^ 64) :
    (default.onPidsReceived (lostFirst n)).1 = List.replicate n true ∧
      (default.onPidsReceived (lostFirst n)).2.history.2.card = n := by
  have hnodup := nodup_lostFirst hn
  -- `lowest` stays at 0, so the bound `0 - HISTORY_LEN` saturates to 0
  have hrun : default.onPidsReceived (lostFirst n) = (List.replicate (lostFirst n).length true,
      ⟨(0, ∅ ∪ (lostFirst n).toFinset), 0⟩) := onPidsReceived_of_lowest_notMem hnodup
    (fun _ _ => Finset.notMem_empty _)
    (fun pid _ => by rw [saturatingSub_eq_zero (by simp)]; exact zero_le pid)
    (zero_notMem_lostFirst hn) (Finset.notMem_empty _)
  have hlength : (lostFirst n).length = n := by simp [lostFirst]
  refine ⟨?_, ?_⟩
  · rw [hrun, hlength]
  · rw [hrun, Finset.empty_union, List.toFinset_card_of_nodup hnodup, hlength]

/-- With PID 0 lost, `HISTORY_LEN + 2` later PIDs leave more than `HISTORY_LEN + 1` in the
history. -/
theorem history_exceeds_bound_after_lost_pid :
    (1026 : Nat) < 2 ^ 64 ∧
      historyLen.toNat + 1 < (default.onPidsReceived (lostFirst 1026)).2.history.2.card := by
  refine ⟨by norm_num, ?_⟩
  rw [(history_grows_after_lost_pid 1026 (by norm_num)).2]
  decide

/-! ## What the history remembers

Eviction removes only the PID equal to `lowest`, and only then advances `lowest`, so every PID
below `lowest` was received. Together with the set, this is what a container remembers of the
PIDs it received since it was created or reset: a PID it never received is neither in the set
nor below `lowest`, and passes both tests of `on_pid_received`.
-/

/-- The set holds only PIDs of `seen`, and every PID below `lowest` is one of them. -/
def Remembers (c : AntiReplayAttackContainer) (seen : List UInt64) : Prop :=
  (∀ pid ∈ c.history.2, pid ∈ seen) ∧ ∀ pid < c.history.1, pid ∈ seen

theorem remembers_default : default.Remembers [] := by
  refine ⟨fun pid hpid => ?_, fun pid hpid => ?_⟩
  · simp [default] at hpid
  · simp [default, UInt64.lt_iff_toNat_lt] at hpid

/-- A PID the container never received is admitted. -/
theorem onPidReceived_of_remembers {c : AntiReplayAttackContainer} {seen : List UInt64}
    {pid : UInt64} (hremembers : c.Remembers seen) (hpid : pid ∉ seen) :
    (c.onPidReceived pid).1 = true := by
  have hfresh : pid ∉ c.history.2 := fun hmem => hpid (hremembers.1 pid hmem)
  have hlowest : c.history.1 ≤ pid := by
    rw [UInt64.le_iff_toNat_le]
    by_contra hlt
    exact hpid (hremembers.2 pid (UInt64.lt_iff_toNat_lt.mpr (by omega)))
  have hmin : saturatingSub c.history.1 historyLen ≤ pid := by
    rw [UInt64.le_iff_toNat_le, saturatingSub_toNat]
    rw [UInt64.le_iff_toNat_le] at hlowest
    omega
  simp only [onPidReceived, hfresh, if_false, hmin, if_true]

/-- A PID added to the set, `lowest` kept, is remembered. -/
theorem remembers_insert {c : AntiReplayAttackContainer} {seen : List UInt64}
    (hremembers : c.Remembers seen) (pid : UInt64) :
    ({ c with history := (c.history.1, insert pid c.history.2) } : AntiReplayAttackContainer).Remembers
      (seen ++ [pid]) := by
  refine ⟨fun p hp => ?_, fun p hp => List.mem_append_left _ (hremembers.2 p hp)⟩
  rcases Finset.mem_insert.mp hp with rfl | hp
  · exact List.mem_append_right _ (List.mem_singleton_self p)
  · exact List.mem_append_left _ (hremembers.1 p hp)

/-- Step lemma: a container remembers every PID it is handed, admitted or not. -/
theorem remembers_onPidReceived {c : AntiReplayAttackContainer} {seen : List UInt64}
    (hremembers : c.Remembers seen) (pid : UInt64) :
    (c.onPidReceived pid).2.Remembers (seen ++ [pid]) := by
  have hgrow : c.Remembers (seen ++ [pid]) :=
    ⟨fun p hp => List.mem_append_left _ (hremembers.1 p hp),
      fun p hp => List.mem_append_left _ (hremembers.2 p hp)⟩
  by_cases hmem : pid ∈ c.history.2
  · rw [onPidReceived_of_mem hmem]
    exact hgrow
  by_cases hmin : saturatingSub c.history.1 historyLen ≤ pid
  · by_cases hlowest : c.history.1 ∈ c.history.2
    · by_cases hfull : historyLen.toNat ≤ c.history.2.card
      · -- the evicted PID is `lowest` itself, which was received
        rw [onPidReceived_of_full hmem hmin hfull hlowest]
        refine ⟨fun p hp => ?_, fun p hp => ?_⟩
        · rcases Finset.mem_insert.mp hp with rfl | hp
          · exact List.mem_append_right _ (List.mem_singleton_self p)
          · exact hgrow.1 p (Finset.mem_of_mem_erase hp)
        · rcases lt_add_one_cases hp with hp | heq
          · exact hgrow.2 p hp
          · rw [heq]
            exact hgrow.1 _ hlowest
      · rw [onPidReceived_of_card_lt hmem hmin (by omega)]
        exact remembers_insert hremembers pid
    · rw [onPidReceived_of_lowest_notMem hmem hmin hlowest]
      exact remembers_insert hremembers pid
  · have hreject : c.onPidReceived pid = (false, c) := by
      simp only [onPidReceived, hmem, if_false, hmin]
    rw [hreject]
    exact hgrow

/-- Run lemma: a container created by `default` remembers the PIDs it was handed. -/
theorem remembers_onPidsReceived (seen : List UInt64) :
    (default.onPidsReceived seen).2.Remembers seen := by
  induction seen using List.reverseRecOn with
  | nil => exact remembers_default
  | append_singleton seen pid ih =>
      rw [onPidsReceived_append]
      exact remembers_onPidReceived ih pid

/-- `on_pid_received` reads nothing of the container but its history. -/
theorem onPidReceived_congr {c c' : AntiReplayAttackContainer} (hhistory : c.history = c'.history)
    (pid : UInt64) :
    (c.onPidReceived pid).1 = (c'.onPidReceived pid).1 ∧
      (c.onPidReceived pid).2.history = (c'.onPidReceived pid).2.history := by
  simp only [onPidReceived, hhistory]
  split_ifs <;> simp [hhistory]

/-- A container whose history is that of a fresh container after the PIDs `seen` admits any
other PID, and its history is then that of the fresh container after `seen` and the PID. -/
theorem onPidReceived_of_history {c : AntiReplayAttackContainer} {seen : List UInt64}
    (hhistory : c.history = (default.onPidsReceived seen).2.history) {pid : UInt64}
    (hpid : pid ∉ seen) :
    (c.onPidReceived pid).1 = true ∧
      (c.onPidReceived pid).2.history = (default.onPidsReceived (seen ++ [pid])).2.history := by
  obtain ⟨haccepted, hafter⟩ := onPidReceived_congr hhistory pid
  rw [haccepted, hafter, onPidsReceived_append]
  exact ⟨onPidReceived_of_remembers (remembers_onPidsReceived seen) hpid, rfl⟩

end AntiReplayAttackContainer

end CitadelProtocol.Pqcrypto
