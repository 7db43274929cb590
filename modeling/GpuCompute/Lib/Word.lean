import Mathlib.Data.Nat.Bitwise
import Mathlib.Data.UInt

/-!
# Machine words as natural numbers

Machine words wrap; specifications speak of exact integers.  This file has the bridge between
the two that page and field arithmetic needs.

* `roundUp m n` : `n` rounded up to a multiple of `m`.
* `saturatingSub` : subtraction of words that stops at `0`.
* `wordOfBits` : the word with the given bits.
* `toNat_and_not_mask` : clearing the low `k` bits rounds down to a multiple of `2^k`.
* `shiftLeft_or_eq_add` : packing two fields that do not overlap is addition, so that field
  extraction becomes division and remainder.
* `wordOfBits_eq_zero_iff`, `wordOfBits_and_single_ne_zero_iff` : what a mask of a word tells.
-/

namespace Systems

/-! ### Rounding -/

/-- `n` rounded up to a multiple of `m`. -/
def roundUp (m n : ℕ) : ℕ := (n + (m - 1)) / m * m

theorem dvd_roundUp (m n : ℕ) : m ∣ roundUp m n := Nat.dvd_mul_left _ _

theorem le_roundUp {m : ℕ} (hm : 0 < m) (n : ℕ) : n ≤ roundUp m n := by
  have h := Nat.div_add_mod (n + (m - 1)) m
  have hlt := Nat.mod_lt (n + (m - 1)) hm
  rw [roundUp, Nat.mul_comm]
  omega

theorem roundUp_le {m n k : ℕ} (hm : 0 < m) (hk : m ∣ k) (h : n ≤ k) : roundUp m n ≤ k := by
  obtain ⟨c, rfl⟩ := hk
  rw [roundUp, Nat.mul_comm m c]
  refine Nat.mul_le_mul_right m (Nat.lt_succ_iff.1 ((Nat.div_lt_iff_lt_mul hm).2 ?_))
  rw [Nat.succ_mul, Nat.mul_comm c m]
  omega

/-! ### Words -/

/-- Subtraction that stops at `0`. -/
def saturatingSub (a b : UInt64) : UInt64 := if a ≤ b then 0 else a - b

theorem toNat_saturatingSub (a b : UInt64) : (saturatingSub a b).toNat = a.toNat - b.toNat := by
  unfold saturatingSub
  split_ifs with h
  · rw [UInt64.le_iff_toNat_le] at h
    simp only [UInt64.toNat_ofNat]
    omega
  · rw [UInt64.le_iff_toNat_le] at h
    exact UInt64.toNat_sub_of_le _ _ (UInt64.le_iff_toNat_le.2 (by omega))

theorem bitVec_toNat_and_not_mask (w k : ℕ) (x : BitVec w) :
    (x &&& ~~~(BitVec.ofNat w (2 ^ k - 1))).toNat = x.toNat / 2 ^ k * 2 ^ k := by
  apply Nat.eq_of_testBit_eq
  intro i
  simp only [BitVec.testBit_toNat, BitVec.getLsbD_and, BitVec.getLsbD_not, BitVec.getLsbD_ofNat,
    Nat.testBit_two_pow_sub_one, Nat.testBit_mul_two_pow, Nat.testBit_div_two_pow]
  by_cases hk : k ≤ i
  · have hki : ¬ i < k := by omega
    simp only [hk, hki, Nat.sub_add_cancel hk, decide_true, decide_false, Bool.and_false,
      Bool.not_false, Bool.and_true, Bool.true_and, Bool.and_eq_left_iff_imp, decide_eq_true_eq]
    exact BitVec.lt_of_getLsbD
  · have hki : i < k := by omega
    by_cases hw : i < w <;> simp [hk, hki, hw]

theorem toNat_and_not_mask (k : ℕ) (x : UInt64) :
    (x &&& ~~~(UInt64.ofNat (2 ^ k - 1))).toNat = x.toNat / 2 ^ k * 2 ^ k := by
  simpa using bitVec_toNat_and_not_mask 64 k x.toBitVec

/-! ### Fields -/

theorem shiftLeft_mod_of_lt {a k w : ℕ} (h : a * 2 ^ k < 2 ^ w) : a <<< k % 2 ^ w = a <<< k := by
  rw [Nat.shiftLeft_eq, Nat.mod_eq_of_lt h]

theorem shiftLeft_or_eq_add {i b : ℕ} (hb : b < 2 ^ i) (a : ℕ) :
    a <<< i ||| b = a * 2 ^ i + b := by
  rw [← Nat.shiftLeft_add_eq_or_of_lt hb, Nat.shiftLeft_eq]

/-! ### Bits -/

/-- The word with the given bits. -/
def wordOfBits (f : Fin 32 → Bool) : UInt32 := UInt32.ofNat (Nat.ofBits f)

@[simp] theorem getLsbD_wordOfBits (f : Fin 32 → Bool) (i : Fin 32) :
    (wordOfBits f).toBitVec.getLsbD i = f i := by
  have hlt : Nat.ofBits f < 2 ^ 32 := Nat.ofBits_lt_two_pow f
  have hnat : (wordOfBits f).toNat = Nat.ofBits f := UInt32.toNat_ofNat_of_lt' hlt
  rw [← BitVec.testBit_toNat, UInt32.toNat_toBitVec, hnat, Nat.testBit_ofBits, dif_pos i.isLt]

theorem wordOfBits_eq_zero_iff (f : Fin 32 → Bool) : wordOfBits f = 0 ↔ ∀ i, f i = false := by
  constructor
  · intro h i
    rw [← getLsbD_wordOfBits f i, h]
    exact BitVec.getLsbD_zero
  · intro h
    have hzero : f = fun _ => false := funext h
    rw [hzero]
    rfl

theorem wordOfBits_and_single_ne_zero_iff (f : Fin 32 → Bool) (i : Fin 32) :
    wordOfBits f &&& wordOfBits (fun j => j == i) ≠ 0 ↔ f i = true := by
  have hand : wordOfBits f &&& wordOfBits (fun j => j == i) =
      wordOfBits fun j => f j && (j == i) := by
    apply UInt32.toBitVec_inj.1
    apply BitVec.eq_of_getLsbD_eq
    intro j hj
    rw [UInt32.toBitVec_and, BitVec.getLsbD_and]
    simp only [getLsbD_wordOfBits _ ⟨j, hj⟩]
  rw [hand, Ne, wordOfBits_eq_zero_iff]
  simp

end Systems
