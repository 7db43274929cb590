import Mathlib.Data.BitVec
import Mathlib.Logic.Function.Basic

/-!
# Lenses

A *lens* is a place in a state that can be read and written.  What is put there is read back,
putting back what was read changes nothing, and of two writes the second one wins.  Two lenses on
one state are *independent* when the order of two writes does not matter, and then a write through
one is not seen through the other.

* `Lens σ α` : a place of type `α` in states of type `σ`.
* `Lens.Independent` : writes to two places commute.
* `Lens.comp` : a place inside of a place.
* `Lens.component`, `Lens.field` : a component of a function, and some adjacent bits of a word.
* `Lens.Independent.get_put` : what is put in one place is not seen in another.
* `Lens.Independent.comp`, `Lens.Independent.comp_left` : independence of nested places.
* `Lens.independent_component`, `Lens.independent_field` : components and fields apart.
-/

namespace Systems

/-- A place in a state. -/
structure Lens (σ α : Type*) where
  /-- Read the place. -/
  get : σ → α
  /-- Write the place. -/
  put : α → σ → σ
  get_put : ∀ a s, get (put a s) = a
  put_get : ∀ s, put (get s) s = s
  put_put : ∀ a b s, put b (put a s) = put b s

namespace Lens

variable {σ α β γ δ : Type*}

attribute [simp] get_put put_get put_put

/-- The order of two writes does not matter. -/
def Independent (l : Lens σ α) (m : Lens σ β) : Prop :=
  ∀ a b s, m.put b (l.put a s) = l.put a (m.put b s)

namespace Independent

variable {l : Lens σ α} {m : Lens σ β}

theorem symm (h : l.Independent m) : m.Independent l := fun b a s => (h a b s).symm

theorem get_put (h : l.Independent m) (a : α) (s : σ) : m.get (l.put a s) = m.get s := by
  calc m.get (l.put a s) = m.get (l.put a (m.put (m.get s) s)) := by rw [m.put_get]
    _ = m.get (m.put (m.get s) (l.put a s)) := by rw [h]
    _ = m.get s := m.get_put _ _

end Independent

/-! ### Places inside of places -/

/-- A place inside of a place. -/
def comp (l : Lens σ α) (m : Lens α β) : Lens σ β where
  get s := m.get (l.get s)
  put b s := l.put (m.put b (l.get s)) s
  get_put b s := by simp
  put_get s := by simp
  put_put a b s := by simp

theorem Independent.comp {l : Lens σ α} {l' : Lens σ β} (h : l.Independent l') (m : Lens α γ)
    (m' : Lens β δ) : (l.comp m).Independent (l'.comp m') := by
  intro c d s
  simp only [Lens.comp, h.get_put, h.symm.get_put]
  exact h _ _ _

theorem Independent.comp_left (l : Lens σ α) {m : Lens α β} {m' : Lens α γ}
    (h : m.Independent m') : (l.comp m).Independent (l.comp m') := by
  intro b c s
  simp only [Lens.comp, Lens.get_put, Lens.put_put, h b c]

/-! ### Components of functions -/

section Component

variable {ι : Type*} [DecidableEq ι]

/-- A component of a function. -/
def component (i : ι) : Lens (ι → α) α where
  get f := f i
  put a f := Function.update f i a
  get_put a f := Function.update_self i a f
  put_get f := Function.update_eq_self i f
  put_put a b f := Function.update_idem a b f

theorem independent_component {i j : ι} (h : i ≠ j) :
    (component i : Lens (ι → α) α).Independent (component j) := by
  intro a b f
  change Function.update (Function.update f i a) j b = Function.update (Function.update f j b) i a
  exact Function.update_comm h a b f

end Component

/-! ### Fields of words -/

section Field

variable {w : ℕ}

/-- A word with `n` bits from `start` on replaced. -/
def putField (start n : ℕ) (a : BitVec n) (v : BitVec w) : BitVec w :=
  (v &&& ~~~((BitVec.allOnes n).setWidth w <<< start)) ||| (a.setWidth w <<< start)

theorem getLsbD_putField (start n : ℕ) (a : BitVec n) (v : BitVec w) {i : ℕ} (hi : i < w) :
    (putField start n a v).getLsbD i =
      if start ≤ i ∧ i < start + n then a.getLsbD (i - start) else v.getLsbD i := by
  have hsub : i - start < w := by omega
  simp only [putField, BitVec.getLsbD_or, BitVec.getLsbD_and, BitVec.getLsbD_not,
    BitVec.getLsbD_shiftLeft, BitVec.getLsbD_setWidth, BitVec.getLsbD_allOnes, hi, hsub,
    decide_true, Bool.true_and]
  split_ifs with hfield
  · have hge : ¬ i < start := by omega
    have hlt : i - start < n := by omega
    simp [hge, hlt]
  · by_cases hge : start ≤ i
    · have hlt : n ≤ i - start := by omega
      simp [BitVec.getLsbD_of_ge a _ hlt, Nat.not_lt.2 hlt]
    · simp [Nat.lt_of_not_le hge]

/-- The field of `n` bits from `start` on. -/
def field (start n : ℕ) (h : start + n ≤ w) : Lens (BitVec w) (BitVec n) where
  get v := v.extractLsb' start n
  put := putField start n
  get_put a v := by
    refine BitVec.eq_of_getLsbD_eq fun i hi => ?_
    have hin : start ≤ start + i ∧ start + i < start + n := by omega
    rw [BitVec.getLsbD_extractLsb', getLsbD_putField _ _ _ _ (by omega), if_pos hin,
      Nat.add_sub_cancel_left, decide_eq_true hi, Bool.true_and]
  put_get v := by
    refine BitVec.eq_of_getLsbD_eq fun i hi => ?_
    rw [getLsbD_putField _ _ _ _ hi]
    split_ifs with hin
    · have hlt : i - start < n := by omega
      rw [BitVec.getLsbD_extractLsb', decide_eq_true hlt, Bool.true_and,
        Nat.add_sub_cancel' hin.1]
    · rfl
  put_put a b v := by
    refine BitVec.eq_of_getLsbD_eq fun i hi => ?_
    simp only [getLsbD_putField _ _ _ _ hi]
    split_ifs <;> rfl

theorem independent_field {start n start' n' : ℕ} {h : start + n ≤ w} {h' : start' + n' ≤ w}
    (hapart : start + n ≤ start' ∨ start' + n' ≤ start) :
    (field start n h).Independent (field start' n' h') := by
  intro a b v
  refine BitVec.eq_of_getLsbD_eq fun i hi => ?_
  simp only [field, getLsbD_putField _ _ _ _ hi]
  split_ifs with hin' hin
  -- no bit is in both
  · omega
  · rfl
  · rfl
  · rfl

end Field

end Lens

end Systems
