import Mathlib.Tactic

/-!
# Byte buffers

Four operations on buffers modelled as lists, with the facts the protocol proofs use:

* `divCeil a b`, division rounded up, and `chunks size xs`, the consecutive pieces of `size`
  elements of `xs` with a shorter last one, of which there are `divCeil xs.length size`;
* `copyInto dest start stop src`, writing `src` at `start` into the window `[start, stop)` of
  `dest`, which fails (`none`, a panic) unless the window lies in `dest` and `src` fits it;
* `toBytesBE width n`, the `width` bytes of `n`, most significant first, and `fromBytesBE`,
  which reads them back modulo `256 ^ width`;
* `xorBytes a b`, the bytewise XOR of two buffers as far as the shorter one goes.
-/

namespace Bytes

variable {α : Type*}

/-! ## Division rounded up and chunks -/

/-- Division rounded up, as an integer library computes it: the quotient, plus one for a
non-zero remainder. -/
def divCeil (a b : Nat) : Nat := a / b + if a % b = 0 then 0 else 1

theorem lt_divCeil_iff {a b k : Nat} (hb : 0 < b) : k < divCeil a b ↔ k * b < a := by
  have hdiv := Nat.div_add_mod a b
  have hmod := Nat.mod_lt a hb
  unfold divCeil
  constructor
  · intro hk
    split at hk
    · have hle : k + 1 ≤ a / b := by omega
      have := Nat.mul_le_mul_right b hle
      rw [Nat.add_mul] at this
      have := Nat.div_mul_le_self a b
      omega
    · have hle : k ≤ a / b := by omega
      have := Nat.mul_le_mul_right b hle
      rw [Nat.mul_comm (a / b)] at this
      omega
  · intro hk
    have hq : k ≤ a / b := (Nat.le_div_iff_mul_le hb).2 (by omega)
    split
    · rcases Nat.eq_or_lt_of_le hq with hq | hq
      · subst hq
        rw [Nat.mul_comm] at hk
        omega
      · omega
    · omega

theorem divCeil_mul {n b : Nat} (hb : 0 < b) : divCeil (n * b) b = n := by
  simp [divCeil, Nat.mul_div_cancel _ hb]

/-- The consecutive pieces of `size` elements of `xs`, the last one possibly shorter. A size
of 0, for which the slice function panics, is never passed by the callers modelled here. -/
def chunks (size : Nat) (xs : List α) : List (List α) :=
  (List.range (divCeil xs.length size)).map fun k => (xs.drop (k * size)).take size

@[simp] theorem length_chunks (size : Nat) (xs : List α) :
    (chunks size xs).length = divCeil xs.length size := by
  simp [chunks]

theorem getElem_chunks {size : Nat} {xs : List α} {k : Nat} (hk : k < (chunks size xs).length) :
    (chunks size xs)[k] = (xs.drop (k * size)).take size := by
  simp [chunks]

theorem length_getElem_chunks {size : Nat} {xs : List α} {k : Nat}
    (hk : k < (chunks size xs).length) :
    (chunks size xs)[k].length = min size (xs.length - k * size) := by
  simp [getElem_chunks hk]

/-- Every piece of a list of `n * size` elements is a full one. -/
theorem length_getElem_chunks_of_mul {size n : Nat} {xs : List α} (hsize : 0 < size)
    (hlen : xs.length = n * size) {k : Nat} (hk : k < (chunks size xs).length) :
    (chunks size xs)[k].length = size := by
  have hkn : k < n := by rwa [length_chunks, hlen, divCeil_mul hsize] at hk
  have hroom : size ≤ xs.length - k * size := by
    rw [hlen, ← Nat.sub_mul]
    exact Nat.le_mul_of_pos_left size (by omega)
  rw [length_getElem_chunks hk]
  exact Nat.min_eq_left hroom

/-- A non-empty list no longer than the size is its only piece. -/
theorem chunks_of_length_le {size : Nat} {xs : List α} (hpos : 0 < xs.length)
    (hle : xs.length ≤ size) : chunks size xs = [xs] := by
  have hcount : divCeil xs.length size = 1 := by
    have hlt : ∀ k, k < divCeil xs.length size ↔ k = 0 := by
      intro k
      rw [lt_divCeil_iff (by omega)]
      constructor
      · intro hk
        by_contra hne
        have := Nat.le_mul_of_pos_left size (Nat.pos_of_ne_zero hne)
        omega
      · rintro rfl
        simpa using hpos
    have h0 := (hlt 0).2 rfl
    have h1 : ¬ 1 < divCeil xs.length size := fun h => absurd ((hlt 1).1 h) (by decide)
    omega
  simp [chunks, hcount, List.take_of_length_le hle]

theorem divCeil_pos {a b : Nat} (hb : 0 < b) (ha : 0 < a) : 0 < divCeil a b :=
  (lt_divCeil_iff hb).mpr (by simpa using ha)

/-- There are no more pieces than elements. -/
theorem divCeil_le_self {a b : Nat} (hb : 0 < b) : divCeil a b ≤ a := by
  by_contra hlt
  have hmul := (lt_divCeil_iff hb).mp (Nat.lt_of_not_le hlt)
  have := Nat.le_mul_of_pos_right a hb
  omega

/-- One more piece than the list past the first `b` elements, for a non-empty list. -/
theorem divCeil_eq_divCeil_sub_add_one {a b : Nat} (hb : 0 < b) (ha : 0 < a) :
    divCeil a b = divCeil (a - b) b + 1 := by
  refine eq_of_forall_lt_iff fun k => ?_
  cases k with
  | zero =>
      rw [lt_divCeil_iff hb]
      simp [ha]
  | succ k =>
      rw [lt_divCeil_iff hb, Nat.add_lt_add_iff_right, lt_divCeil_iff hb, Nat.succ_mul]
      omega

/-- A non-empty list is cut into its first `size` elements and the pieces of the rest. -/
theorem chunks_of_ne_nil {size : Nat} {xs : List α} (hsize : 0 < size) (hne : xs ≠ []) :
    chunks size xs = xs.take size :: chunks size (xs.drop size) := by
  have hlen : 0 < xs.length := List.length_pos_iff.mpr hne
  rw [chunks, divCeil_eq_divCeil_sub_add_one hsize hlen, List.range_succ_eq_map]
  simp only [List.map_cons, List.map_map, Nat.zero_mul, List.drop_zero, chunks,
    List.length_drop]
  congr 1
  refine List.map_congr_left fun k _ => ?_
  simp [List.drop_drop, Nat.succ_mul, Nat.add_comm]

/-- The pieces, put back together, are the list. -/
theorem flatten_chunks {size : Nat} (hsize : 0 < size) (xs : List α) :
    (chunks size xs).flatten = xs := by
  induction hlen : xs.length using Nat.strong_induction_on generalizing xs with
  | _ n ih =>
      cases xs with
      | nil => simp [chunks, divCeil]
      | cons x rest =>
          have hshorter : ((x :: rest).drop size).length < n := by
            simp only [List.length_drop, ← hlen]
            simp only [List.length_cons]
            omega
          rw [chunks_of_ne_nil hsize (List.cons_ne_nil x rest), List.flatten_cons,
            ih _ hshorter _ rfl, List.take_append_drop]

/-! ## Numbering the pieces of pieces -/

/-- `dest[start..stop][..src.len()].copy_from_slice(src)`: `none` where the slicing panics. -/
def copyInto (dest : List α) (start stop : Nat) (src : List α) : Option (List α) :=
  if start ≤ stop ∧ stop ≤ dest.length ∧ src.length ≤ stop - start then
    some (dest.take start ++ src ++ dest.drop (start + src.length))
  else none

theorem copyInto_of_le {dest src : List α} {start stop : Nat} (hstart : start ≤ stop)
    (hstop : stop ≤ dest.length) (hfit : src.length ≤ stop - start) :
    copyInto dest start stop src = some (dest.take start ++ src ++ dest.drop (start + src.length)) :=
  if_pos ⟨hstart, hstop, hfit⟩

theorem copyInto_of_length_lt {dest src : List α} {start stop : Nat} (hstop : dest.length < stop) :
    copyInto dest start stop src = none :=
  if_neg fun h => Nat.lt_irrefl _ (Nat.lt_of_lt_of_le hstop h.2.1)

theorem copyInto_eq_none_iff {dest src : List α} {start stop : Nat} :
    copyInto dest start stop src = none ↔
      ¬ (start ≤ stop ∧ stop ≤ dest.length ∧ src.length ≤ stop - start) := by
  unfold copyInto
  split <;> simp_all

theorem length_of_copyInto {dest src out : List α} {start stop : Nat}
    (h : copyInto dest start stop src = some out) : out.length = dest.length := by
  unfold copyInto at h
  split at h
  · cases h
    simp only [List.length_append, List.length_take, List.length_drop]
    omega
  · cases h

/-- Bytes written over `dest ++ rest` from `start`, read back only as far as `dest` goes, are
`dest` written over from `start`: whatever follows `dest` is never reached. -/
theorem take_overwrite_append {dest rest src : List α} {start : Nat} (hstart : start ≤ dest.length) :
    ((dest ++ rest).take start ++ src ++ (dest ++ rest).drop (start + src.length)).take dest.length =
      (dest.take start ++ src ++ dest.drop (start + src.length)).take dest.length := by
  -- past the written bytes, the bytes kept all come from `dest`
  have hkept : ((dest ++ rest).drop (start + src.length)).take (dest.length - (start + src.length)) =
      (dest.drop (start + src.length)).take (dest.length - (start + src.length)) := by
    rw [List.drop_append, List.take_append, List.length_drop, Nat.sub_self, List.take_zero,
      List.append_nil]
  have hwritten : (dest.take start ++ src).length = start + src.length := by
    simp [hstart]
  rw [List.take_append_of_le_length hstart, List.take_append,
    @List.take_append _ (dest.take start ++ src), hwritten, hkept]

/-! ## Big-endian integers -/

/-- The `width` bytes of `n`, most significant first; bits above `8 * width` are dropped. -/
def toBytesBE : Nat → Nat → List UInt8
  | 0, _ => []
  | width + 1, n => toBytesBE width (n / 256) ++ [UInt8.ofNat (n % 256)]

@[simp] theorem length_toBytesBE (width n : Nat) : (toBytesBE width n).length = width := by
  induction width generalizing n with
  | zero => rfl
  | succ width ih => simp [toBytesBE, ih]

/-- The number whose bytes, most significant first, are `bytes`. -/
def fromBytesBE (bytes : List UInt8) : Nat :=
  bytes.foldl (fun acc byte => acc * 256 + byte.toNat) 0

theorem fromBytesBE_append_singleton (bytes : List UInt8) (byte : UInt8) :
    fromBytesBE (bytes ++ [byte]) = fromBytesBE bytes * 256 + byte.toNat := by
  simp [fromBytesBE, List.foldl_append]

/-- Reading back the bytes of `n` gives `n` modulo `256 ^ width`. -/
theorem fromBytesBE_toBytesBE (width n : Nat) : fromBytesBE (toBytesBE width n) = n % 256 ^ width := by
  induction width generalizing n with
  | zero => simp [toBytesBE, fromBytesBE, Nat.mod_one]
  | succ width ih =>
      have hbyte : (UInt8.ofNat (n % 256)).toNat = n % 256 := by
        simp
      rw [toBytesBE, fromBytesBE_append_singleton, ih, hbyte, pow_succ', Nat.mod_mul]
      ring

/-! ## Bytewise XOR -/

/-- The bytewise XOR of two buffers, as far as the shorter one goes, as zipping their bytes
does. -/
def xorBytes (a b : List UInt8) : List UInt8 := List.zipWith (· ^^^ ·) a b

@[simp] theorem length_xorBytes (a b : List UInt8) :
    (xorBytes a b).length = min a.length b.length :=
  List.length_zipWith

end Bytes
