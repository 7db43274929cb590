import Mathlib.Data.UInt

/-!
# Hardware registers

A hardware register does not keep all that is written to it.  Some of its bits are read/write,
some are cleared by writing a one to them, and the others are hardwired.

* `Register` : a 32-bit register with its writable and its clearable bits.
* `Register.write` : what a write leaves in it.
* `Register.write_write_value` : a register without clearable bits is restored by writing back what
  it held.
* `Register.write_value_of_writable` : a register of read/write bits only holds what is written.
* `Register.write_or` : setting bits by read-modify-write clears every clearable bit that is set.
-/

namespace Systems

/-- A 32-bit register. -/
structure Register where
  /-- What a read returns. -/
  value : UInt32
  /-- The bits that a write sets and clears. -/
  writable : UInt32
  /-- The bits that a write of one clears. -/
  clearable : UInt32
  /-- No bit is both. -/
  disjoint : writable &&& clearable = 0
  deriving DecidableEq

namespace Register

/-- A register that no write changes. -/
def hardwired (value : UInt32) : Register := ⟨value, 0, 0, rfl⟩

/-- A register of which the given bits are read/write and the others hardwired. -/
def readWrite (value writable : UInt32) : Register := ⟨value, writable, 0, UInt32.and_zero⟩

/-- Write a value. -/
def write (r : Register) (v : UInt32) : Register :=
  { r with
    value := (r.value &&& ~~~(r.writable ||| r.clearable)) ||| (v &&& r.writable) |||
      (r.value &&& r.clearable &&& ~~~v) }

@[simp] theorem write_writable (r : Register) (v : UInt32) :
    (r.write v).writable = r.writable := rfl

@[simp] theorem write_clearable (r : Register) (v : UInt32) :
    (r.write v).clearable = r.clearable := rfl

theorem eq_of_getLsbD {a b : UInt32}
    (h : ∀ i < 32, a.toBitVec.getLsbD i = b.toBitVec.getLsbD i) : a = b :=
  UInt32.toBitVec_inj.1 (BitVec.eq_of_getLsbD_eq h)

theorem getLsbD_of_eq {a b : UInt32} (h : a = b) (i : ℕ) :
    a.toBitVec.getLsbD i = b.toBitVec.getLsbD i := by rw [h]

theorem or_eq_self_iff {v m : UInt32} : v ||| m = v ↔ v &&& m = m := by
  constructor
  · intro h
    apply eq_of_getLsbD
    intro i _
    have hbit := getLsbD_of_eq h i
    rw [UInt32.toBitVec_or, BitVec.getLsbD_or] at hbit
    rw [UInt32.toBitVec_and, BitVec.getLsbD_and, ← hbit]
    cases v.toBitVec.getLsbD i <;> cases m.toBitVec.getLsbD i <;> rfl
  · intro h
    apply eq_of_getLsbD
    intro i _
    have hbit := getLsbD_of_eq h i
    rw [UInt32.toBitVec_and, BitVec.getLsbD_and] at hbit
    rw [UInt32.toBitVec_or, BitVec.getLsbD_or, ← hbit]
    cases v.toBitVec.getLsbD i <;> cases m.toBitVec.getLsbD i <;> rfl

theorem or_and_of_and {v m : UInt32} (h : v &&& m = m) (w : UInt32) : (v ||| w) &&& m = m := by
  rw [← or_eq_self_iff] at h ⊢
  rw [UInt32.or_assoc, UInt32.or_comm w, ← UInt32.or_assoc, h]

theorem getLsbD_write (r : Register) (v : UInt32) {i : ℕ} (hi : i < 32) :
    (r.write v).value.toBitVec.getLsbD i =
      if r.writable.toBitVec.getLsbD i then v.toBitVec.getLsbD i
      else r.value.toBitVec.getLsbD i &&
        !(r.clearable.toBitVec.getLsbD i && v.toBitVec.getLsbD i) := by
  have hdisj := getLsbD_of_eq r.disjoint i
  simp only [UInt32.toBitVec_and, BitVec.getLsbD_and] at hdisj
  simp only [write, UInt32.toBitVec_or, UInt32.toBitVec_and, UInt32.toBitVec_not,
    BitVec.getLsbD_or, BitVec.getLsbD_and, BitVec.getLsbD_not, hi, decide_true, Bool.true_and]
  cases hw : r.writable.toBitVec.getLsbD i
  · cases r.clearable.toBitVec.getLsbD i <;> simp
  · rw [hw, Bool.true_and] at hdisj
    have hc : r.clearable.toBitVec.getLsbD i = false := by simpa using hdisj
    simp [hc]

theorem getLsbD_ones {i : ℕ} (hi : i < 32) : (0xFFFFFFFF : UInt32).toBitVec.getLsbD i = true := by
  have hones : (0xFFFFFFFF : UInt32).toBitVec = BitVec.allOnes 32 := rfl
  rw [hones, BitVec.getLsbD_allOnes, decide_eq_true hi]

theorem write_value_of_writable {r : Register} (h : r.writable = 0xFFFFFFFF) (v : UInt32) :
    (r.write v).value = v := by
  apply eq_of_getLsbD
  intro i hi
  rw [getLsbD_write _ _ hi, h, if_pos (getLsbD_ones hi)]

theorem eq_of_writable {r r' : Register} (h : r.writable = 0xFFFFFFFF)
    (h' : r'.writable = 0xFFFFFFFF) (hvalue : r.value = r'.value) : r = r' := by
  have hclear : ∀ {r : Register}, r.writable = 0xFFFFFFFF → r.clearable = 0 := by
    intro r h
    have hdisj := r.disjoint
    rw [h] at hdisj
    exact (UInt32.neg_one_and (a := r.clearable)).symm.trans hdisj
  have hc := (hclear h).trans (hclear h').symm
  have hw := h.trans h'.symm
  cases r
  cases r'
  rw [mk.injEq]
  exact ⟨hvalue, hw, hc⟩

/-- **A register without clearable bits is restored** by writing back what it held, whatever has
been written to it in between. -/
theorem write_write_value {r : Register} (h : r.clearable = 0) (v : UInt32) :
    (r.write v).write r.value = r := by
  have hclear : ∀ i, r.clearable.toBitVec.getLsbD i = false := by
    intro i
    rw [h]
    exact BitVec.getLsbD_zero
  have hvalue : ((r.write v).write r.value).value = r.value := by
    apply eq_of_getLsbD
    intro i hi
    rw [getLsbD_write _ _ hi, write_writable, write_clearable, getLsbD_write _ _ hi, hclear]
    split_ifs with hw
    · rfl
    · simp
  cases r
  simp only [write, mk.injEq, and_true] at hvalue ⊢
  exact hvalue

theorem write_or {r : Register} {m : UInt32} (hm : m &&& r.writable = m) :
    (r.write (r.value ||| m)).value = (r.value ||| m) &&& ~~~r.clearable := by
  apply eq_of_getLsbD
  intro i hi
  have hbit := getLsbD_of_eq hm i
  have hdisj := getLsbD_of_eq r.disjoint i
  simp only [UInt32.toBitVec_and, BitVec.getLsbD_and] at hbit hdisj
  rw [getLsbD_write _ _ hi]
  simp only [UInt32.toBitVec_or, UInt32.toBitVec_and, UInt32.toBitVec_not,
    BitVec.getLsbD_or, BitVec.getLsbD_and, BitVec.getLsbD_not, hi, decide_true, Bool.true_and]
  cases hw : r.writable.toBitVec.getLsbD i
  · rw [hw, Bool.and_false] at hbit
    rw [← hbit]
    cases r.value.toBitVec.getLsbD i <;> simp
  · rw [hw, Bool.true_and] at hdisj
    have hc : r.clearable.toBitVec.getLsbD i = false := by simpa using hdisj
    simp [hc]

theorem write_or_and {r : Register} {m : UInt32} (hm : m &&& r.writable = m) :
    (r.write (r.value ||| m)).value &&& m = m := by
  apply eq_of_getLsbD
  intro i hi
  have hbit := getLsbD_of_eq hm i
  rw [UInt32.toBitVec_and, BitVec.getLsbD_and] at hbit
  rw [UInt32.toBitVec_and, BitVec.getLsbD_and, getLsbD_write _ _ hi, UInt32.toBitVec_or,
    BitVec.getLsbD_or]
  cases hmi : m.toBitVec.getLsbD i
  · rw [Bool.and_false]
  · rw [hmi, Bool.true_and] at hbit
    rw [if_pos hbit, Bool.or_true, Bool.and_true]

/-- Setting writable bits by read-modify-write sets these bits and nothing else exactly when no
clearable bit is set. -/
theorem write_or_eq_iff {r : Register} {m : UInt32} (hm : m &&& r.writable = m) :
    (r.write (r.value ||| m)).value = r.value ||| m ↔ r.value &&& r.clearable = 0 := by
  have hm' : ∀ i, m.toBitVec.getLsbD i = true → r.clearable.toBitVec.getLsbD i = false := by
    intro i hi
    have hbit := getLsbD_of_eq hm i
    have hdisj := getLsbD_of_eq r.disjoint i
    simp only [UInt32.toBitVec_and, BitVec.getLsbD_and, hi, Bool.true_and] at hbit hdisj
    rw [hbit, Bool.true_and] at hdisj
    simpa using hdisj
  rw [write_or hm]
  constructor
  · intro heq
    apply eq_of_getLsbD
    intro i hi
    have hbit := getLsbD_of_eq heq i
    simp only [UInt32.toBitVec_or, UInt32.toBitVec_and, UInt32.toBitVec_not, BitVec.getLsbD_or,
      BitVec.getLsbD_and, BitVec.getLsbD_not, hi, decide_true, Bool.true_and] at hbit ⊢
    -- a clearable bit that is set would have been cleared
    cases hv : r.value.toBitVec.getLsbD i <;> cases hc : r.clearable.toBitVec.getLsbD i <;>
      simp_all
  · intro hzero
    apply eq_of_getLsbD
    intro i hi
    have hbit := getLsbD_of_eq hzero i
    simp only [UInt32.toBitVec_or, UInt32.toBitVec_and, UInt32.toBitVec_not, BitVec.getLsbD_or,
      BitVec.getLsbD_and, BitVec.getLsbD_not, hi, decide_true, Bool.true_and] at hbit ⊢
    cases hv : r.value.toBitVec.getLsbD i
    · cases hmi : m.toBitVec.getLsbD i
      · rfl
      · rw [hm' i hmi]; rfl
    · rw [hv, Bool.true_and] at hbit
      have hc : r.clearable.toBitVec.getLsbD i = false := by simpa using hbit
      rw [hc, Bool.true_or]; rfl

end Register

end Systems
