import Mathlib.Algebra.BigOperators.Ring.List
import Mathlib.Algebra.Order.BigOperators.GroupWithZero.List
import Mathlib.Algebra.Order.Ring.Nat
import Mathlib.Data.List.TakeWhile
import Mathlib.Data.UInt

/-!
# Checked arithmetic

A build with overflow checks stops where another build wraps.  A checked operation returns nothing
when the exact result does not fit in the word.

* `MachineWord α` : words that stand for numbers below a power of two and whose arithmetic wraps.
* `checkedAdd`, `checkedSub`, `checkedMul`, `checkedCast` : the checked operations.
* `checkedShiftLeft`, `checkedShiftRight` : shifts, by fewer bits than the word has.
* `checkedProd` : a running product that is checked at every step.
* `checkedAdd_eq_some_iff`, `checkedMul_eq_some_iff` : a checked result is the wrapped one, and
  there is one exactly when the exact one fits.
* `checkedProd_eq_some_iff` : a product is computed exactly when all its prefixes fit.
* `eq_foldl_of_foldlM`, `map_foldlM` : folds that are checked at every step.
* `forall_prod_take_lt_iff` : only the factors before the first zero matter for this.
-/

namespace Systems

/-- Words that stand for numbers below a power of two, with arithmetic that wraps. -/
class MachineWord (α : Type*) [Add α] [Sub α] [Mul α] where
  /-- The number of bits. -/
  bits : ℕ
  /-- The number that a word stands for. -/
  toNat : α → ℕ
  toNat_lt : ∀ a, toNat a < 2 ^ bits
  toNat_add : ∀ a b, toNat (a + b) = (toNat a + toNat b) % 2 ^ bits
  toNat_sub : ∀ a b, toNat b ≤ toNat a → toNat (a - b) = toNat a - toNat b
  toNat_mul : ∀ a b, toNat (a * b) = toNat a * toNat b % 2 ^ bits

instance machineWordUInt8 : MachineWord UInt8 where
  bits := 8
  toNat := UInt8.toNat
  toNat_lt := UInt8.toNat_lt
  toNat_add := UInt8.toNat_add
  toNat_sub _ _ h := UInt8.toNat_sub_of_le _ _ (UInt8.le_iff_toNat_le.2 h)
  toNat_mul := UInt8.toNat_mul

instance machineWordUInt32 : MachineWord UInt32 where
  bits := 32
  toNat := UInt32.toNat
  toNat_lt := UInt32.toNat_lt
  toNat_add := UInt32.toNat_add
  toNat_sub _ _ h := UInt32.toNat_sub_of_le _ _ (UInt32.le_iff_toNat_le.2 h)
  toNat_mul := UInt32.toNat_mul

instance machineWordUInt64 : MachineWord UInt64 where
  bits := 64
  toNat := UInt64.toNat
  toNat_lt := UInt64.toNat_lt
  toNat_add := UInt64.toNat_add
  toNat_sub _ _ h := UInt64.toNat_sub_of_le _ _ (UInt64.le_iff_toNat_le.2 h)
  toNat_mul := UInt64.toNat_mul

@[simp] theorem machineWord_toNat_uint32 : (MachineWord.toNat : UInt32 → ℕ) = UInt32.toNat := rfl
@[simp] theorem machineWord_toNat_uint64 : (MachineWord.toNat : UInt64 → ℕ) = UInt64.toNat := rfl
@[simp] theorem machineWord_bits_uint32 : MachineWord.bits UInt32 = 32 := rfl
@[simp] theorem machineWord_bits_uint64 : MachineWord.bits UInt64 = 64 := rfl

open MachineWord

variable {α : Type*} [Add α] [Sub α] [Mul α] [MachineWord α]

/-- Addition, unless it overflows. -/
def checkedAdd (a b : α) : Option α := if toNat a + toNat b < 2 ^ bits α then some (a + b) else none

/-- Subtraction, unless it goes below zero. -/
def checkedSub (a b : α) : Option α := if toNat b ≤ toNat a then some (a - b) else none

/-- Multiplication, unless it overflows. -/
def checkedMul (a b : α) : Option α := if toNat a * toNat b < 2 ^ bits α then some (a * b) else none

/-- A shift to the left, unless it is by as many bits as there are. -/
def checkedShiftLeft [ShiftLeft α] (a n : α) : Option α :=
  if toNat n < bits α then some (a <<< n) else none

/-- A shift to the right, unless it is by as many bits as there are. -/
def checkedShiftRight [ShiftRight α] (a n : α) : Option α :=
  if toNat n < bits α then some (a >>> n) else none

/-- A 64-bit word as a 32-bit word, unless this truncates it. -/
def checkedCast (a : UInt64) : Option UInt32 := if a.toNat < 2 ^ 32 then some a.toUInt32 else none

/-- The product of a list, checked at every step. -/
def checkedProd (a : α) (l : List α) : Option α := l.foldlM checkedMul a

theorem checkedAdd_eq_some_iff {a b c : α} :
    checkedAdd a b = some c ↔ toNat a + toNat b < 2 ^ bits α ∧ c = a + b := by
  rw [checkedAdd, Option.ite_none_right_eq_some, Option.some.injEq, eq_comm (b := c)]

theorem checkedSub_eq_some_iff {a b c : α} :
    checkedSub a b = some c ↔ toNat b ≤ toNat a ∧ c = a - b := by
  rw [checkedSub, Option.ite_none_right_eq_some, Option.some.injEq, eq_comm (b := c)]

theorem checkedMul_eq_some_iff {a b c : α} :
    checkedMul a b = some c ↔ toNat a * toNat b < 2 ^ bits α ∧ c = a * b := by
  rw [checkedMul, Option.ite_none_right_eq_some, Option.some.injEq, eq_comm (b := c)]

theorem checkedCast_eq_some_iff {a : UInt64} {c : UInt32} :
    checkedCast a = some c ↔ a.toNat < 2 ^ 32 ∧ c = a.toUInt32 := by
  rw [checkedCast, Option.ite_none_right_eq_some, Option.some.injEq, eq_comm (b := c)]

theorem checkedAdd_of_lt {a b : α} (h : toNat a + toNat b < 2 ^ bits α) :
    checkedAdd a b = some (a + b) := checkedAdd_eq_some_iff.2 ⟨h, rfl⟩

theorem checkedMul_of_lt {a b : α} (h : toNat a * toNat b < 2 ^ bits α) :
    checkedMul a b = some (a * b) := checkedMul_eq_some_iff.2 ⟨h, rfl⟩

theorem checkedSub_of_le {a b : α} (h : toNat b ≤ toNat a) : checkedSub a b = some (a - b) :=
  checkedSub_eq_some_iff.2 ⟨h, rfl⟩

theorem checkedShiftLeft_of_lt [ShiftLeft α] {n : α} (h : toNat n < bits α) (a : α) :
    checkedShiftLeft a n = some (a <<< n) := if_pos h

theorem checkedShiftRight_of_lt [ShiftRight α] {n : α} (h : toNat n < bits α) (a : α) :
    checkedShiftRight a n = some (a >>> n) := if_pos h

theorem toNat_add_of_lt {a b : α} (h : toNat a + toNat b < 2 ^ bits α) :
    toNat (a + b) = toNat a + toNat b := by
  rw [toNat_add, Nat.mod_eq_of_lt h]

theorem toNat_mul_of_lt {a b : α} (h : toNat a * toNat b < 2 ^ bits α) :
    toNat (a * b) = toNat a * toNat b := by
  rw [toNat_mul, Nat.mod_eq_of_lt h]

theorem toNat_add_sub_of_le {a b c : α} (h : toNat a + toNat b < 2 ^ bits α)
    (hle : toNat c ≤ toNat b) : toNat (a + b - c) = toNat a + toNat b - toNat c := by
  have hsum := toNat_add_of_lt h
  rw [toNat_sub _ _ (by omega), hsum]

/-- **A product is computed exactly when all its prefixes fit**, and then it is the wrapped one. -/
theorem checkedProd_eq_some_iff {a c : α} {l : List α} :
    checkedProd a l = some c ↔
      (∀ k, toNat a * ((l.take k).map MachineWord.toNat).prod < 2 ^ bits α) ∧
        c = l.foldl (· * ·) a := by
  induction l generalizing a with
  | nil =>
    have hfits : ∀ k : ℕ,
        toNat a * ((([] : List α).take k).map MachineWord.toNat).prod < 2 ^ bits α := by
      simpa using toNat_lt a
    simp only [hfits, implies_true, true_and, List.foldl_nil]
    exact ⟨fun h => (Option.some.inj h).symm, fun h => by rw [h]; rfl⟩
  | cons d l ih =>
    have hbind : checkedProd a (d :: l) = (checkedMul a d).bind fun b => checkedProd b l :=
      List.foldlM_cons
    rw [hbind, List.foldl_cons]
    by_cases hfits : toNat a * toNat d < 2 ^ bits α
    · rw [checkedMul_of_lt hfits, Option.bind_some, ih, toNat_mul_of_lt hfits]
      refine and_congr_left fun _ => ⟨fun h k => ?_, fun h k => ?_⟩
      · cases k with
        | zero => simpa using toNat_lt a
        | succ k => simpa [Nat.mul_assoc] using h k
      · simpa [Nat.mul_assoc] using h (k + 1)
    -- the first product overflows
    · have hnone : checkedMul a d = none := if_neg hfits
      rw [hnone]
      refine iff_of_false (by simp) fun h => hfits ?_
      simpa using h.1 1

theorem isSome_checkedProd_iff {a : α} {l : List α} :
    (checkedProd a l).isSome ↔
      ∀ k, toNat a * ((l.take k).map MachineWord.toNat).prod < 2 ^ bits α := by
  rw [Option.isSome_iff_exists]
  simp only [checkedProd_eq_some_iff, exists_and_left, exists_eq, and_true]

/-! ### Folds -/

section Fold

variable {β γ ι : Type*}

/-- A fold that is checked at every step is the fold without checks, unless it stops. -/
theorem eq_foldl_of_foldlM {g : β → ι → Option β} {f : β → ι → β}
    (hstep : ∀ b i c, g b i = some c → c = f b i) {l : List ι} {b c : β}
    (h : l.foldlM g b = some c) : c = l.foldl f b := by
  induction l generalizing b with
  | nil => exact (Option.some.inj h).symm
  | cons i l ih =>
    rw [List.foldlM_cons] at h
    obtain ⟨b', hb', hrest⟩ := Option.bind_eq_some_iff.1 h
    rw [List.foldl_cons, ← hstep b i b' hb']
    exact ih hrest

theorem map_foldlM {g : β → ι → Option β} {k : γ → ι → Option γ} {p : β → γ}
    (hstep : ∀ b i, (g b i).map p = k (p b) i) (l : List ι) (b : β) :
    (l.foldlM g b).map p = l.foldlM k (p b) := by
  induction l generalizing b with
  | nil => rfl
  | cons i l ih =>
    rw [List.foldlM_cons, List.foldlM_cons, ← hstep]
    cases hg : g b i with
    | none => rfl
    | some b' => exact ih b'

end Fold

/-! ### Prefixes of products -/

theorem prod_take_le_prod {l : List ℕ} (h : ∀ n ∈ l, n ≠ 0) (k : ℕ) :
    (l.take k).prod ≤ l.prod := by
  rw [← List.prod_take_mul_prod_drop l k]
  exact Nat.le_mul_of_pos_right _
    (List.prod_pos fun n hn => Nat.pos_of_ne_zero (h n (List.mem_of_mem_drop hn)))

/-- **Only the factors before the first zero matter** for the size of the prefixes of a product. -/
theorem forall_prod_take_lt_iff {l : List ℕ} {b : ℕ} (hb : 0 < b) :
    (∀ k, (l.take k).prod < b) ↔ (l.takeWhile (· ≠ 0)).prod < b := by
  constructor
  · intro h
    rw [List.takeWhile_eq_take_findIdx_not]
    exact h _
  · intro h k
    by_cases hzero : 0 ∈ l.take k
    · rw [List.prod_eq_zero hzero]
      exact hb
    -- before the first zero the products grow
    · refine lt_of_le_of_lt ?_ h
      have hpre : l.take k = (l.takeWhile (· ≠ 0)).take k := by
        rw [List.take_takeWhile, eq_comm, List.takeWhile_eq_self_iff]
        intro n hn
        exact decide_eq_true fun h => hzero (h ▸ hn)
      rw [hpre]
      refine prod_take_le_prod (fun n hn => ?_) k
      simpa using List.mem_takeWhile_imp hn

end Systems
