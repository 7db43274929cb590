import Mathlib.Algebra.BigOperators.Group.List.Basic
import Mathlib.Algebra.Order.BigOperators.Group.List
import Mathlib.Algebra.Order.Ring.Nat
import Mathlib.Data.List.Lex
import Mathlib.Order.Interval.Set.Basic

/-!
# Mixed-radix numerals

A numeral with a radix of its own at every position: digit `k` is below radix `k` and counts for the
product of the later radices.  The numerals of given radices are in order-preserving bijection with
the numbers below the product of the radices.  Row-major indices of an array are such numerals.

* `MixedRadix.Digits ds idx` : the digits of `idx` are below the radices `ds`.
* `MixedRadix.weights ds` : what each position counts for.
* `MixedRadix.value ws idx` : the number that the digits stand for.
* `MixedRadix.value_strictMono` : the lexicographic order of numerals is the order of the numbers.
* `MixedRadix.bijOn_value` : every number below the product of the radices has one numeral.
-/

namespace Systems

namespace MixedRadix

/-- Every digit is below its radix. -/
def Digits (ds idx : List ℕ) : Prop := List.Forall₂ (fun i d => i < d) idx ds

/-- Every position counts for the product of the later radices. -/
def weights : List ℕ → List ℕ
  | [] => []
  | _ :: ds => ds.prod :: weights ds

/-- The sum of the digits, each times its weight. -/
def value (ws idx : List ℕ) : ℕ := ((idx.zip ws).map fun p => p.1 * p.2).sum

@[simp] theorem value_nil (ws : List ℕ) : value ws [] = 0 := rfl

@[simp] theorem value_cons (w i : ℕ) (ws idx : List ℕ) :
    value (w :: ws) (i :: idx) = i * w + value ws idx := by
  simp [value]

variable {ds idx idx' : List ℕ}

theorem value_lt (h : Digits ds idx) : value (weights ds) idx < ds.prod := by
  induction h with
  | nil => exact Nat.zero_lt_one
  | @cons i d idx ds hi _ ih =>
    rw [weights, value_cons, List.prod_cons]
    calc i * ds.prod + value (weights ds) idx < i * ds.prod + ds.prod := Nat.add_lt_add_left ih _
      _ = (i + 1) * ds.prod := (Nat.succ_mul i ds.prod).symm
      _ ≤ d * ds.prod := Nat.mul_le_mul_right _ hi

/-- **The lexicographic order of numerals is the order of the numbers.** -/
theorem value_strictMono (h : Digits ds idx) (h' : Digits ds idx') (hlt : idx < idx') :
    value (weights ds) idx < value (weights ds) idx' := by
  induction h generalizing idx' with
  | nil =>
    cases h'
    exact absurd hlt (lt_irrefl _)
  | @cons i d idx ds hi hidx ih =>
    obtain ⟨i', idx', hi', hidx', rfl⟩ := List.forall₂_cons_right_iff.1 h'
    rw [weights, value_cons, value_cons]
    rcases List.cons_lt_cons_iff.1 hlt with hhead | ⟨rfl, htail⟩
    -- one more in the first digit counts for more than all later digits together
    · calc i * ds.prod + value (weights ds) idx
          < i * ds.prod + ds.prod := Nat.add_lt_add_left (value_lt hidx) _
        _ = (i + 1) * ds.prod := (Nat.succ_mul i ds.prod).symm
        _ ≤ i' * ds.prod := Nat.mul_le_mul_right _ hhead
        _ ≤ i' * ds.prod + value (weights ds) idx' := Nat.le_add_right _ _
    · exact Nat.add_lt_add_left (ih hidx' htail) _

theorem exists_value_eq {n : ℕ} (hn : n < ds.prod) :
    ∃ idx, Digits ds idx ∧ value (weights ds) idx = n := by
  induction ds generalizing n with
  | nil => exact ⟨[], .nil, (Nat.lt_one_iff.1 hn).symm⟩
  | cons d ds ih =>
    rw [List.prod_cons] at hn
    have hpos : 0 < ds.prod := Nat.pos_of_lt_mul_left hn
    obtain ⟨idx, hidx, hvalue⟩ := ih (Nat.mod_lt n hpos)
    refine ⟨n / ds.prod :: idx, .cons ((Nat.div_lt_iff_lt_mul hpos).2 hn) hidx, ?_⟩
    rw [weights, value_cons, hvalue, Nat.mul_comm]
    exact Nat.div_add_mod n ds.prod

/-- **Every number below the product of the radices has exactly one numeral.** -/
theorem bijOn_value (ds : List ℕ) :
    Set.BijOn (value (weights ds)) {idx | Digits ds idx} (Set.Iio ds.prod) := by
  refine ⟨fun idx hidx => value_lt hidx, ?_, fun n hn => exists_value_eq hn⟩
  intro idx hidx idx' hidx' heq
  rcases lt_trichotomy idx idx' with hlt | hsame | hlt
  · exact absurd heq (value_strictMono hidx hidx' hlt).ne
  · exact hsame
  · exact absurd heq (value_strictMono hidx' hidx hlt).ne'

theorem mul_le_value {ws idx : List ℕ} {p : ℕ × ℕ} (hp : p ∈ idx.zip ws) :
    p.1 * p.2 ≤ value ws idx :=
  List.le_sum_of_mem (List.mem_map_of_mem hp)

theorem value_take_le (ws idx : List ℕ) (k : ℕ) :
    value (ws.take k) (idx.take k) ≤ value ws idx := by
  have hzip : (idx.take k).zip (ws.take k) = (idx.zip ws).take k := List.take_zipWith.symm
  rw [value, value, hzip, List.map_take, ← List.sum_take_add_sum_drop ((idx.zip ws).map _) k]
  exact Nat.le_add_right _ _

end MixedRadix

end Systems
