import CitadelProtocol.Crypt.Toolset

/-! # Toolset versions over any sequence of calls

A toolset starts from `Toolset::new` with a ratchet of version 0, or from the
`From` conversion, and then receives any sequence of `update_from` and
`deregister_oldest_hyper_ratchet` calls, each of which may succeed or fail.
Every state reached satisfies `Toolset.Wf`, from which the lookup facts follow.

The exact span equation `len = most_recent - oldest + 1` needs the deque to hold
at most `2^32` ratchets: nothing in the toolset bounds its length, and `2^32`
accepted updates with no deregistration wrap `most_recent` back onto `oldest`
while the deque holds `2^32 + 1` ratchets.
-/

namespace CitadelProtocol.Crypt

open MachineInt Ratchet

namespace Toolset

/-- A call a session makes on its toolset. -/
inductive Call (R : Type*)
  | updateFrom (newHyperRatchet : R)
  | deregisterOldestHyperRatchet (version : UInt32)

variable {R : Type*} [Ratchet R]

/-- The toolset after a call, whether the call succeeded or failed. -/
def Call.apply (profile : BuildProfile) (t : Toolset R) : Call R → Toolset R
  | .updateFrom newHyperRatchet => (t.updateFrom profile newHyperRatchet).2
  | .deregisterOldestHyperRatchet version => (t.deregisterOldestHyperRatchet profile version).2

/-- Toolsets built by `Toolset::new` at version 0 or by `From`, then driven by any calls. -/
def system (profile : BuildProfile) : Transition.System (Toolset R) (Call R) where
  init t := (∃ cid hyperRatchet, version hyperRatchet = 0 ∧ t = new cid hyperRatchet) ∨
    ∃ drill, t = ofStaticAux drill
  step t call t' := t' = Call.apply profile t call

/-- Apply a sequence of calls in order. -/
def runCalls (profile : BuildProfile) (t : Toolset R) (calls : List (Call R)) : Toolset R :=
  calls.foldl (Call.apply profile) t

theorem wf_inductive (profile : BuildProfile) : (system (R := R) profile).Inductive Wf where
  init t hinit := by
    rcases hinit with ⟨cid, hyperRatchet, hversion, rfl⟩ | ⟨drill, rfl⟩
    · exact wf_new hversion
    · exact wf_ofStaticAux drill
  step t call t' hwf hstep := by
    subst hstep
    cases call with
    | updateFrom newHyperRatchet => exact hwf.updateFrom newHyperRatchet
    | deregisterOldestHyperRatchet version => exact hwf.deregisterOldestHyperRatchet version

theorem runCalls_append (profile : BuildProfile) (t : Toolset R) (first second : List (Call R)) :
    runCalls profile t (first ++ second) = runCalls profile (runCalls profile t first) second :=
  List.foldl_append

theorem runCalls_reachable {profile : BuildProfile} {t : Toolset R}
    (ht : (system profile).Reachable t) (calls : List (Call R)) :
    (system profile).Reachable (runCalls profile t calls) := by
  induction calls generalizing t with
  | nil => exact ht
  | cons call rest ih => exact ih (.step call ht rfl)

/-- A ratchet reduced to what the toolset reads of it. -/
structure VersionStamp where
  version : UInt32
  cid : UInt64
  deriving DecidableEq, Repr

instance : Ratchet VersionStamp := ⟨VersionStamp.version, VersionStamp.cid⟩

/-- Every reachable toolset keeps consecutive versions, finds each version it holds at
its own index, and keeps failed calls without effect. -/
theorem toolset_versions_of_reachable (profile : BuildProfile) {t : Toolset R}
    (ht : (system profile).Reachable t) :
    0 < t.map.length ∧
      t.mostRecentHyperRatchetVersion - t.oldestHyperRatchetVersion + 1 =
        UInt32.ofNat t.map.length ∧
      (∀ i (hi : i < t.map.length),
        version t.map[i] = t.mostRecentHyperRatchetVersion - UInt32.ofNat i) ∧
      (∀ v, (t.getHyperRatchet v).isSome ↔
        (t.mostRecentHyperRatchetVersion - v).toNat < t.map.length) ∧
      (∀ v r, t.getHyperRatchet v = some r → version r = v) ∧
      (t.map.length ≤ 2 ^ 32 →
        t.map.length =
            (t.mostRecentHyperRatchetVersion - t.oldestHyperRatchetVersion).toNat + 1 ∧
          ∀ v, (t.getHyperRatchet v).isSome ↔
            InWrappingInterval t.oldestHyperRatchetVersion t.mostRecentHyperRatchetVersion v) ∧
      (∀ r, (t.updateFrom profile r).1 = none → (t.updateFrom profile r).2 = t) ∧
      (∀ v err, (t.deregisterOldestHyperRatchet profile v).1 = .error err →
        (t.deregisterOldestHyperRatchet profile v).2 = t) := by
  have hwf : t.Wf := (wf_inductive profile).reachable ht
  refine ⟨hwf.length_pos, hwf.span, hwf.version_getElem, fun v => ?_,
    fun v r hget => hwf.version_of_getHyperRatchet hget,
    fun hbound => ⟨hwf.length_eq hbound, hwf.getHyperRatchet_isSome_iff_inWrappingInterval hbound⟩,
    fun r hnone => updateFrom_of_none hnone,
    fun v err herror => deregisterOldestHyperRatchet_of_error herror⟩
  exact getHyperRatchet_isSome_iff v

/-- `Toolset::new` at version 0 in the debug build, then seven accepted updates, an update of a
version that does not follow, one of another CID, the deregistration of the oldest ratchet, and
one of a version that is not the oldest: seven ratchets, versions 1 to 7. -/
theorem toolset_versions_of_calls :
    let t := runCalls .debug (new 0 (⟨0, 0⟩ : VersionStamp))
      [.updateFrom ⟨1, 0⟩, .updateFrom ⟨2, 0⟩, .updateFrom ⟨3, 0⟩, .updateFrom ⟨4, 0⟩,
        .updateFrom ⟨5, 0⟩, .updateFrom ⟨6, 0⟩, .updateFrom ⟨7, 0⟩, .updateFrom ⟨9, 0⟩,
        .updateFrom ⟨8, 3⟩, .deregisterOldestHyperRatchet 0, .deregisterOldestHyperRatchet 5]
    (system .debug).Reachable t ∧ t.map.length = 7 ∧ t.oldestHyperRatchetVersion = 1 ∧
      t.mostRecentHyperRatchetVersion = 7 ∧
      (0 < t.map.length ∧
        t.mostRecentHyperRatchetVersion - t.oldestHyperRatchetVersion + 1 =
          UInt32.ofNat t.map.length ∧
        (∀ i (hi : i < t.map.length),
          version t.map[i] = t.mostRecentHyperRatchetVersion - UInt32.ofNat i) ∧
        (∀ v, (t.getHyperRatchet v).isSome ↔
          (t.mostRecentHyperRatchetVersion - v).toNat < t.map.length) ∧
        (∀ v r, t.getHyperRatchet v = some r → version r = v) ∧
        (t.map.length ≤ 2 ^ 32 →
          t.map.length =
              (t.mostRecentHyperRatchetVersion - t.oldestHyperRatchetVersion).toNat + 1 ∧
            ∀ v, (t.getHyperRatchet v).isSome ↔
              InWrappingInterval t.oldestHyperRatchetVersion t.mostRecentHyperRatchetVersion v) ∧
        (∀ r, (t.updateFrom .debug r).1 = none → (t.updateFrom .debug r).2 = t) ∧
        (∀ v err, (t.deregisterOldestHyperRatchet .debug v).1 = .error err →
          (t.deregisterOldestHyperRatchet .debug v).2 = t)) := by
  have hinit : (system .debug).Reachable (new 0 (⟨0, 0⟩ : VersionStamp)) :=
    .init (.inl ⟨0, ⟨0, 0⟩, rfl, rfl⟩)
  intro t
  have ht : (system .debug).Reachable t := runCalls_reachable hinit _
  exact ⟨ht, by decide, by decide, by decide, toolset_versions_of_reachable .debug ht⟩

/-! ## Past `2^32` ratchets -/

/-- `n` updates with the versions `1, 2, …, n` (wrapping), all of CID 0. -/
def successiveUpdates (n : Nat) : List (Call VersionStamp) :=
  (List.range n).map fun i => .updateFrom ⟨UInt32.ofNat (i + 1), 0⟩

theorem successiveUpdates_succ (n : Nat) :
    successiveUpdates (n + 1) = successiveUpdates n ++ [.updateFrom ⟨UInt32.ofNat (n + 1), 0⟩] := by
  simp only [successiveUpdates, List.range_succ, List.map_append, List.map_singleton]

/-- The toolset after `n` successive updates from `Toolset::new(0, v0)`. -/
def stampedToolset (n : Nat) : Toolset VersionStamp where
  cid := 0
  mostRecentHyperRatchetVersion := UInt32.ofNat n
  oldestHyperRatchetVersion := 0
  map := (List.range (n + 1)).reverse.map fun i => ⟨UInt32.ofNat i, 0⟩
  staticAuxiliaryHyperRatchet := ⟨0, 0⟩

theorem stampedToolset_length (n : Nat) : (stampedToolset n).map.length = n + 1 := by
  simp [stampedToolset]

/-- Run lemma: successive updates are all accepted and pushed, with no deregistration. -/
theorem runCalls_successiveUpdates (profile : BuildProfile) (n : Nat) :
    runCalls profile (new 0 ⟨0, 0⟩) (successiveUpdates n) = stampedToolset n := by
  induction n with
  | zero => rfl
  | succ n ih =>
      rw [successiveUpdates_succ, runCalls_append, ih]
      simp only [runCalls, List.foldl_cons, List.foldl_nil, Call.apply]
      rw [updateFrom_of_successor rfl (by simp [stampedToolset, version])]
      simp [stampedToolset, List.range_succ, version]

/-- After `2^32` accepted updates from `Toolset::new(0, v0)` the deque holds `2^32 + 1`
ratchets while `most_recent = oldest = 0`: the span equation fails, and version 1 is
found although it is outside the wrapping interval `[0, 0]`. -/
theorem toolset_span_fails_after_wraparound :
    let t := runCalls .release (new 0 ⟨0, 0⟩) (successiveUpdates (2 ^ 32))
    (system .release).Reachable t ∧
      t.map.length ≠
        (t.mostRecentHyperRatchetVersion - t.oldestHyperRatchetVersion + 1).toNat ∧
      (t.getHyperRatchet 1).isSome ∧
      ¬ InWrappingInterval t.oldestHyperRatchetVersion t.mostRecentHyperRatchetVersion 1 := by
  have hinit : (system .release).Reachable (new 0 (⟨0, 0⟩ : VersionStamp)) :=
    .init (.inl ⟨0, ⟨0, 0⟩, rfl, rfl⟩)
  have hreach : (system .release).Reachable
      (runCalls .release (new 0 ⟨0, 0⟩) (successiveUpdates (2 ^ 32))) :=
    runCalls_reachable hinit (successiveUpdates (2 ^ 32))
  have hlength : (stampedToolset (2 ^ 32)).map.length = 2 ^ 32 + 1 := stampedToolset_length _
  have hrecent : (stampedToolset (2 ^ 32)).mostRecentHyperRatchetVersion = 0 := by
    change UInt32.ofNat (2 ^ 32) = 0
    decide
  have holdest : (stampedToolset (2 ^ 32)).oldestHyperRatchetVersion = 0 := rfl
  intro t
  have ht : t = stampedToolset (2 ^ 32) := runCalls_successiveUpdates _ _
  refine ⟨hreach, ?_, ?_, ?_⟩
  · rw [ht, hlength, hrecent, holdest]
    decide
  · rw [ht, getHyperRatchet_isSome_iff, getAdjustedIndex, hlength, hrecent]
    decide
  · rw [ht, hrecent, holdest]
    decide

end Toolset

end CitadelProtocol.Crypt
