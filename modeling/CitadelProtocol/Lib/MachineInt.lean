import Mathlib.Tactic

/-! # Fixed-width integer operations of the source language

The saturating and wrapping operations that the modelled code performs on
unsigned machine integers, with the facts about them that the proofs use: how
they read back as natural numbers, when counts stay apart as `u64` values, and
when a value lies in a wrapping interval of `u32` values.
-/

namespace MachineInt

/-- `u64::saturating_sub`: the difference, or zero when it would be negative. -/
def saturatingSub (a b : UInt64) : UInt64 := if b ≤ a then a - b else 0

theorem saturatingSub_toNat (a b : UInt64) : (saturatingSub a b).toNat = a.toNat - b.toNat := by
  unfold saturatingSub
  split
  next hle =>
    rw [UInt64.toNat_sub_of_le _ _ hle]
  next hlt =>
    have : a.toNat < b.toNat := by
      rw [UInt64.le_iff_toNat_le] at hlt
      omega
    simp only [UInt64.toNat_zero]
    omega

@[simp] theorem saturatingSub_eq_zero {a b : UInt64} (h : a.toNat ≤ b.toNat) :
    saturatingSub a b = 0 := by
  rw [← UInt64.toNat_inj, saturatingSub_toNat, UInt64.toNat_zero]
  omega

@[simp] theorem zero_le (a : UInt64) : (0 : UInt64) ≤ a := by
  rw [UInt64.le_iff_toNat_le, UInt64.toNat_zero]
  exact Nat.zero_le _

/-! ## Counting with `u64` values -/

/-- Below `2^64`, distinct numbers stay distinct as `u64` values. -/
theorem ofNat_ne_ofNat {a b : Nat} (ha : a < 2 ^ 64) (hb : b < 2 ^ 64) (hne : a ≠ b) :
    UInt64.ofNat a ≠ UInt64.ofNat b := by
  intro heq
  have htoNat := congrArg UInt64.toNat heq
  simp only [UInt64.toNat_ofNat'] at htoNat
  rw [Nat.mod_eq_of_lt ha, Nat.mod_eq_of_lt hb] at htoNat
  exact hne htoNat

/-- Below a wrapping successor lie the value and what lies below it; past the largest value the
successor wraps to 0, below which nothing lies. -/
theorem lt_add_one_cases {a b : UInt64} (h : a < b + 1) : a < b ∨ a = b := by
  rw [UInt64.lt_iff_toNat_lt, UInt64.toNat_add, UInt64.toNat_one] at h
  rw [UInt64.lt_iff_toNat_lt, ← UInt64.toNat_inj]
  have hb := b.toNat_lt
  omega

/-- A positive count less one is the count's predecessor. -/
theorem ofNat_sub_one {n : Nat} (hn : 0 < n) : UInt64.ofNat n - 1 = UInt64.ofNat (n - 1) := by
  have hsucc : n = (n - 1) + 1 := by omega
  rw [hsucc, UInt64.ofNat_add]
  simp

/-- Adding a positive count below `2^64` moves every value. -/
theorem add_ofNat_ne_self {x : UInt64} {m : Nat} (hm : 0 < m) (hlt : m < 2 ^ 64) :
    x + UInt64.ofNat m ≠ x := by
  intro heq
  have hzero : UInt64.ofNat m = UInt64.ofNat 0 := by grind
  exact ofNat_ne_ofNat hlt (by norm_num) (by omega) hzero

/-- Below `2^32`, distinct numbers stay distinct as `u32` values. -/
theorem ofNat32_ne_ofNat32 {a b : Nat} (ha : a < 2 ^ 32) (hb : b < 2 ^ 32) (hne : a ≠ b) :
    UInt32.ofNat a ≠ UInt32.ofNat b := by
  intro heq
  have htoNat := congrArg UInt32.toNat heq
  simp only [UInt32.toNat_ofNat'] at htoNat
  rw [Nat.mod_eq_of_lt ha, Nat.mod_eq_of_lt hb] at htoNat
  exact hne htoNat

/-! ## Wrapping intervals of `u32` values -/

/-- `v` lies in the wrapping interval that starts at `lo` and runs up, past
`u32::MAX` if need be, to `hi`. -/
def InWrappingInterval (lo hi v : UInt32) : Prop := (v - lo).toNat ≤ (hi - lo).toNat

instance (lo hi v : UInt32) : Decidable (InWrappingInterval lo hi v) :=
  inferInstanceAs (Decidable ((v - lo).toNat ≤ (hi - lo).toNat))

/-- Measuring from the top end instead of the bottom end decides membership the same way. -/
theorem sub_toNat_le_iff_inWrappingInterval (lo hi v : UInt32) :
    (hi - v).toNat ≤ (hi - lo).toNat ↔ InWrappingInterval lo hi v := by
  have hhi := hi.toNat_lt
  have hlo := lo.toNat_lt
  have hv := v.toNat_lt
  simp only [InWrappingInterval, UInt32.toNat_sub]
  omega

end MachineInt
