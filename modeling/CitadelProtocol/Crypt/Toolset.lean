import CitadelProtocol.Lib.MachineInt
import CitadelProtocol.Lib.Reachability

/-! # The toolset of hyper ratchets

A `Toolset` keeps the ratchets of a session in a deque, the most recent at the
front, together with the versions of its front and back. `update_from` pushes a
ratchet whose version succeeds the front one, and `deregister_oldest_hyper_ratchet`
pops the back once the deque is over capacity. Versions are `u32` and wrap; a
version is looked up at the index `most_recent - version`, computed with
wrapping subtraction.

The invariant is that the deque holds consecutive versions counting down from
`most_recent`, and spans `most_recent - oldest + 1` entries modulo `2^32`. While
the deque holds at most `2^32` ratchets this says that a version is found exactly
when it lies in the wrapping interval `[oldest, most_recent]`; past that bound the
versions repeat and the span equation only holds modulo `2^32`.
-/

namespace CitadelProtocol.Crypt

open MachineInt

/-- What the toolset reads of a ratchet (`trait Ratchet`): its version and the CID
it belongs to. -/
class Ratchet (R : Type*) where
  version : R → UInt32
  getCid : R → UInt64

/-- The two builds: `cfg(debug_assertions)` selects the smaller ratchet capacity. -/
inductive BuildProfile
  | debug
  | release
  deriving DecidableEq, Repr

/-- `MAX_HYPER_RATCHETS_IN_MEMORY` of each build. -/
def maxHyperRatchetsInMemory : BuildProfile → Nat
  | .debug => 6
  | .release => 128

theorem six_le_maxHyperRatchetsInMemory (profile : BuildProfile) :
    6 ≤ maxHyperRatchetsInMemory profile := by
  cases profile <;> decide

/-- `CryptError`, with the variants the toolset raises. -/
inductive CryptError
  | drillUpdateError (message : String)
  | outOfBoundsError
  deriving DecidableEq, Repr

/-- `UpdateStatus`: whether the deque went over capacity with the new ratchet. -/
inductive UpdateStatus
  | committed (newVersion : UInt32)
  | committedNeedsSynchronization (newVersion oldVersion : UInt32)
  deriving DecidableEq, Repr

/-- The version an update committed, read off either variant. -/
def UpdateStatus.newVersion : UpdateStatus → UInt32
  | .committed newVersion => newVersion
  | .committedNeedsSynchronization newVersion _ => newVersion

/-- The toolset; `map` is the deque, its front first. -/
structure Toolset (R : Type*) where
  cid : UInt64
  mostRecentHyperRatchetVersion : UInt32
  oldestHyperRatchetVersion : UInt32
  map : List R
  staticAuxiliaryHyperRatchet : R

namespace Toolset

open Ratchet

variable {R : Type*} [Ratchet R]

/-- `Toolset::new`: the given ratchet, expected at version 0, is both the only entry
and the static auxiliary ratchet. -/
def new (cid : UInt64) (hyperRatchet : R) : Toolset R where
  cid := cid
  mostRecentHyperRatchetVersion := 0
  oldestHyperRatchetVersion := 0
  map := [hyperRatchet]
  staticAuxiliaryHyperRatchet := hyperRatchet

/-- `From<(StaticAuxRatchet, StackedRatchet)>`: a toolset holding the second ratchet
at its own version, with the first as the static auxiliary one. -/
def ofStaticAux (drill : R × R) : Toolset R where
  cid := getCid drill.1
  mostRecentHyperRatchetVersion := version drill.2
  oldestHyperRatchetVersion := version drill.2
  map := [drill.2]
  staticAuxiliaryHyperRatchet := drill.1

/-- `append_hyper_ratchet`: push to the front, reporting when the capacity is exceeded. -/
def appendHyperRatchet (profile : BuildProfile) (t : Toolset R) (hyperRatchet : R) :
    UpdateStatus × Toolset R :=
  let newVersion := version hyperRatchet
  let t := { t with map := hyperRatchet :: t.map }
  if maxHyperRatchetsInMemory profile < t.map.length then
    (.committedNeedsSynchronization newVersion t.oldestHyperRatchetVersion, t)
  else
    (.committed newVersion, t)

/-- `update_from`: accept a ratchet of this CID whose version succeeds the most recent. -/
def updateFrom (profile : BuildProfile) (t : Toolset R) (newHyperRatchet : R) :
    Option UpdateStatus × Toolset R :=
  let latestHrVersion := t.mostRecentHyperRatchetVersion
  if getCid newHyperRatchet ≠ t.cid then
    (none, t)
  else if latestHrVersion ≠ version newHyperRatchet - 1 then
    (none, t)
  else
    let appended := t.appendHyperRatchet profile newHyperRatchet
    (some appended.1,
      { appended.2 with mostRecentHyperRatchetVersion := appended.1.newVersion })

/-- `deregister_oldest_hyper_ratchet`: pop the back of an over-capacity deque, given its
version. -/
def deregisterOldestHyperRatchet (profile : BuildProfile) (t : Toolset R) (version : UInt32) :
    Except CryptError Unit × Toolset R :=
  if t.map.length ≤ maxHyperRatchetsInMemory profile then
    (.error (.drillUpdateError
      "Cannot call for deregistration unless the map len is maxed out"), t)
  else
    let oldest := t.oldestHyperRatchetVersion
    if oldest ≠ version then
      (.error (.drillUpdateError ("Unable to deregister. Provided version: " ++ toString version ++
        ", expected version: " ++ toString oldest)), t)
    else
      -- `pop_back().ok_or(OutOfBoundsError)?`
      match t.map.getLast? with
      | none => (.error .outOfBoundsError, t)
      | some _ =>
          (.ok (), { t with
            map := t.map.dropLast
            oldestHyperRatchetVersion := t.oldestHyperRatchetVersion + 1 })

/-- `get_adjusted_index`: the deque index of a version, by wrapping subtraction. -/
def getAdjustedIndex (t : Toolset R) (version : UInt32) : Nat :=
  (t.mostRecentHyperRatchetVersion - version).toNat

/-- `get_hyper_ratchet`. -/
def getHyperRatchet (t : Toolset R) (version : UInt32) : Option R :=
  t.map[t.getAdjustedIndex version]?

/-! ## What each operation does -/

variable {profile : BuildProfile} {t : Toolset R}

@[simp] theorem appendHyperRatchet_toolset (hyperRatchet : R) :
    (t.appendHyperRatchet profile hyperRatchet).2 = { t with map := hyperRatchet :: t.map } := by
  simp only [appendHyperRatchet]
  split <;> rfl

@[simp] theorem appendHyperRatchet_newVersion (hyperRatchet : R) :
    (t.appendHyperRatchet profile hyperRatchet).1.newVersion = version hyperRatchet := by
  simp only [appendHyperRatchet]
  split <;> rfl

/-- A rejected update leaves the toolset unchanged. -/
theorem updateFrom_of_none {newHyperRatchet : R}
    (hnone : (t.updateFrom profile newHyperRatchet).1 = none) :
    (t.updateFrom profile newHyperRatchet).2 = t := by
  simp only [updateFrom, ne_eq] at hnone ⊢
  split_ifs at hnone ⊢ <;> simp_all

/-- An accepted update came from a ratchet of this CID at the next version, and pushed it. -/
theorem updateFrom_of_some {newHyperRatchet : R} {status : UpdateStatus}
    (hsome : (t.updateFrom profile newHyperRatchet).1 = some status) :
    getCid newHyperRatchet = t.cid ∧
      version newHyperRatchet = t.mostRecentHyperRatchetVersion + 1 ∧
      (t.updateFrom profile newHyperRatchet).2 = { t with
        map := newHyperRatchet :: t.map
        mostRecentHyperRatchetVersion := version newHyperRatchet } := by
  simp only [updateFrom, ne_eq] at hsome ⊢
  by_cases hcid : getCid newHyperRatchet = t.cid
  · by_cases hversion : t.mostRecentHyperRatchetVersion = version newHyperRatchet - 1
    · refine ⟨hcid, by grind, ?_⟩
      simp [hcid, hversion]
    · simp [hcid, hversion] at hsome
  · simp [hcid] at hsome

/-- An update from a ratchet of this CID at the next version is accepted and pushed. -/
theorem updateFrom_of_successor {newHyperRatchet : R} (hcid : getCid newHyperRatchet = t.cid)
    (hversion : version newHyperRatchet = t.mostRecentHyperRatchetVersion + 1) :
    (t.updateFrom profile newHyperRatchet).2 = { t with
      map := newHyperRatchet :: t.map
      mostRecentHyperRatchetVersion := version newHyperRatchet } := by
  have hprev : t.mostRecentHyperRatchetVersion = version newHyperRatchet - 1 := by
    grind
  simp [updateFrom, hcid, hprev]

omit [Ratchet R] in
/-- A deregistration that fails leaves the toolset unchanged. -/
theorem deregisterOldestHyperRatchet_of_error {version : UInt32} {err : CryptError}
    (herror : (t.deregisterOldestHyperRatchet profile version).1 = .error err) :
    (t.deregisterOldestHyperRatchet profile version).2 = t := by
  simp only [deregisterOldestHyperRatchet, ne_eq] at herror ⊢
  by_cases hcap : t.map.length ≤ maxHyperRatchetsInMemory profile
  · simp [hcap]
  · by_cases holdest : t.oldestHyperRatchetVersion = version
    · cases hlast : t.map.getLast? with
      | none => simp [hcap, holdest]
      | some back => simp [hcap, holdest, hlast] at herror
    · simp [hcap, holdest]

omit [Ratchet R] in
/-- A deregistration that succeeds was over capacity and named the oldest version; it
popped the back of the deque. -/
theorem deregisterOldestHyperRatchet_of_ok {version : UInt32}
    (hok : (t.deregisterOldestHyperRatchet profile version).1 = .ok ()) :
    maxHyperRatchetsInMemory profile < t.map.length ∧ version = t.oldestHyperRatchetVersion ∧
      (t.deregisterOldestHyperRatchet profile version).2 = { t with
        map := t.map.dropLast
        oldestHyperRatchetVersion := t.oldestHyperRatchetVersion + 1 } := by
  simp only [deregisterOldestHyperRatchet, ne_eq] at hok ⊢
  by_cases hcap : t.map.length ≤ maxHyperRatchetsInMemory profile
  · simp [hcap] at hok
  · by_cases holdest : t.oldestHyperRatchetVersion = version
    · cases hlast : t.map.getLast? with
      | none => simp [hcap, holdest, hlast] at hok
      | some back => exact ⟨by omega, holdest.symm, by simp [hcap, holdest]⟩
    · simp [hcap, holdest] at hok

/-! ## The invariant -/

/-- The deque holds consecutive versions counting down from the most recent one, and
spans `most_recent - oldest + 1` entries modulo `2^32`. -/
structure Wf (t : Toolset R) : Prop where
  length_pos : 0 < t.map.length
  span : t.mostRecentHyperRatchetVersion - t.oldestHyperRatchetVersion + 1 =
    UInt32.ofNat t.map.length
  version_getElem : ∀ i (hi : i < t.map.length),
    version t.map[i] = t.mostRecentHyperRatchetVersion - UInt32.ofNat i

theorem wf_new {cid : UInt64} {hyperRatchet : R} (hversion : version hyperRatchet = 0) :
    (new cid hyperRatchet).Wf where
  length_pos := by simp [new]
  span := by simp [new]
  version_getElem i hi := by
    simp only [new, List.length_singleton, Nat.lt_one_iff] at hi
    subst hi
    simp [new, hversion]

theorem wf_ofStaticAux (drill : R × R) : (ofStaticAux drill).Wf where
  length_pos := by simp [ofStaticAux]
  span := by simp [ofStaticAux]
  version_getElem i hi := by
    simp only [ofStaticAux, List.length_singleton, Nat.lt_one_iff] at hi
    subst hi
    simp [ofStaticAux]

/-- Pushing the ratchet of the next version keeps the invariant. -/
theorem Wf.push (hwf : t.Wf) {newHyperRatchet : R}
    (hversion : version newHyperRatchet = t.mostRecentHyperRatchetVersion + 1) :
    ({ t with
      map := newHyperRatchet :: t.map
      mostRecentHyperRatchetVersion := version newHyperRatchet } : Toolset R).Wf where
  length_pos := by simp
  span := by
    have hspan := hwf.span
    simp only [List.length_cons, UInt32.ofNat_add, hversion]
    grind
  version_getElem i hi := by
    cases i with
    | zero => simp
    | succ i =>
        have hold := hwf.version_getElem i (by simpa using hi)
        simp only [List.getElem_cons_succ, hold, hversion, UInt32.ofNat_add]
        grind

/-- Popping the back of an over-capacity deque, and advancing `oldest`, keeps the invariant. -/
theorem Wf.pop (hwf : t.Wf) (hcap : maxHyperRatchetsInMemory profile < t.map.length) :
    ({ t with
      map := t.map.dropLast
      oldestHyperRatchetVersion := t.oldestHyperRatchetVersion + 1 } : Toolset R).Wf where
  length_pos := by
    have := six_le_maxHyperRatchetsInMemory profile
    simp only [List.length_dropLast]
    omega
  span := by
    have hspan := hwf.span
    have hlen : 1 ≤ t.map.length := hwf.length_pos
    simp only [List.length_dropLast, UInt32.ofNat_sub hlen]
    grind
  version_getElem i hi := by
    simp only [List.getElem_dropLast]
    exact hwf.version_getElem i _

theorem Wf.updateFrom (hwf : t.Wf) (newHyperRatchet : R) :
    (t.updateFrom profile newHyperRatchet).2.Wf := by
  cases hstatus : (t.updateFrom profile newHyperRatchet).1 with
  | none => rwa [updateFrom_of_none hstatus]
  | some status =>
      obtain ⟨-, hversion, hupdate⟩ := updateFrom_of_some hstatus
      rw [hupdate]
      exact hwf.push hversion

theorem Wf.deregisterOldestHyperRatchet (hwf : t.Wf) (version : UInt32) :
    (t.deregisterOldestHyperRatchet profile version).2.Wf := by
  cases hresult : (t.deregisterOldestHyperRatchet profile version).1 with
  | error err => rwa [deregisterOldestHyperRatchet_of_error hresult]
  | ok u =>
      obtain ⟨hcap, -, hpop⟩ := deregisterOldestHyperRatchet_of_ok hresult
      rw [hpop]
      exact hwf.pop hcap

/-! ## Looking up a version -/

omit [Ratchet R] in
theorem getHyperRatchet_isSome_iff (version : UInt32) :
    (t.getHyperRatchet version).isSome ↔ t.getAdjustedIndex version < t.map.length := by
  simp [getHyperRatchet]

/-- A version found in a well-formed toolset is the version asked for. -/
theorem Wf.version_of_getHyperRatchet (hwf : t.Wf) {v : UInt32} {r : R}
    (hget : t.getHyperRatchet v = some r) : version r = v := by
  unfold getHyperRatchet at hget
  obtain ⟨hlt, hr⟩ := List.getElem?_eq_some_iff.mp hget
  rw [← hr, hwf.version_getElem _ hlt, getAdjustedIndex, UInt32.ofNat_toNat]
  grind

/-- While the deque holds at most `2^32` ratchets, the span equation holds exactly. -/
theorem Wf.length_eq (hwf : t.Wf) (hbound : t.map.length ≤ 2 ^ 32) :
    t.map.length = (t.mostRecentHyperRatchetVersion - t.oldestHyperRatchetVersion).toNat + 1 := by
  have hspan := congrArg UInt32.toNat hwf.span
  have hpos := hwf.length_pos
  have hlt := (t.mostRecentHyperRatchetVersion - t.oldestHyperRatchetVersion).toNat_lt
  rw [UInt32.toNat_add, UInt32.toNat_ofNat', UInt32.toNat_one] at hspan
  omega

/-- While the deque holds at most `2^32` ratchets, a version is found exactly when it lies
in the wrapping interval `[oldest, most_recent]`. -/
theorem Wf.getHyperRatchet_isSome_iff_inWrappingInterval (hwf : t.Wf)
    (hbound : t.map.length ≤ 2 ^ 32) (v : UInt32) :
    (t.getHyperRatchet v).isSome ↔
      InWrappingInterval t.oldestHyperRatchetVersion t.mostRecentHyperRatchetVersion v := by
  rw [getHyperRatchet_isSome_iff, getAdjustedIndex, hwf.length_eq hbound,
    ← sub_toNat_le_iff_inWrappingInterval]
  omega

end Toolset

end CitadelProtocol.Crypt
