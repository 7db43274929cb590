import GpuCompute.Pci.Config

/-!
# Sizing a BAR

A memory BAR decodes a window of a power-of-two size: its address bits below the size are hardwired,
and so are the four bits that give its type.  The driver writes all ones, reads back which bits took
them, and computes the size from these.  A 64-bit BAR takes two registers, and the driver looks at
the lower one only.

* `MemoryBar` : a memory BAR as PCI defines it.
* `MemoryBar.At` : the registers that hold it.
* `probeBarSize_bar` : what the probe returns, and that every register is put back.
* `sized_iff` : the size is right exactly when it fits in the lower register.
-/

namespace GpuCompute

open Systems

/-! ### Memory BARs -/

/-- The address bits of a window of `2 ^ order` bytes. -/
def sizeMask (order : ℕ) : UInt64 := ⟨BitVec.allOnes 64 <<< order⟩

/-- A memory BAR: a window of `2 ^ order` bytes at a multiple of its size. -/
structure MemoryBar where
  /-- The four low bits, which give the type. -/
  type : UInt32
  order : ℕ
  base : UInt64
  type_lt : type.toNat < 16
  /-- Bit 0 tells a memory BAR from an I/O BAR. -/
  memory : type &&& 1 = 0
  four_le : 4 ≤ order
  /-- Bits 2 and 1 tell a 64-bit BAR from a 32-bit one. -/
  order_lt : order < if type &&& 6 = 4 then 64 else 32
  base_lt : base.toNat < if type &&& 6 = 4 then 2 ^ 64 else 2 ^ 32
  aligned : 2 ^ order ∣ base.toNat

namespace MemoryBar

/-- The size of the window. -/
def size (bar : MemoryBar) : ℕ := 2 ^ bar.order

/-- The BAR takes two registers. -/
def Wide (bar : MemoryBar) : Prop := bar.type &&& 6 = 4

/-- The lower register. -/
def low (bar : MemoryBar) : Register :=
  .readWrite (bar.base.toUInt32 ||| bar.type) (sizeMask bar.order).toUInt32

/-- The upper register of a 64-bit BAR. -/
def high (bar : MemoryBar) : Register :=
  .readWrite (bar.base >>> 32).toUInt32 (sizeMask bar.order >>> 32).toUInt32

/-- The BAR is in a configuration space, from the given register on. -/
def At (bar : MemoryBar) (c : ConfigSpace) (i : Fin 64) : Prop :=
  c i = bar.low ∧ (bar.Wide → c (i + 1) = bar.high)

end MemoryBar

/-- The probe has returned the size of the BAR, and has left every register as it was. -/
def Sized (bar : MemoryBar) (before : HostBridge) (probed : UInt64 × HostBridge) : Prop :=
  probed.1.toNat = bar.size ∧ probed.2.functions = before.functions

/-! ### Reading back -/

theorem getLsbD_sizeMask {order i : ℕ} (hi : i < 32) :
    (sizeMask order).toUInt32.toBitVec.getLsbD i = decide (order ≤ i) := by
  rw [UInt64.toBitVec_toUInt32, BitVec.getLsbD_setWidth, sizeMask, BitVec.getLsbD_shiftLeft,
    BitVec.getLsbD_allOnes]
  by_cases h : order ≤ i
  · have hlt : ¬ i < order := by omega
    have hsub : i - order < 64 := by omega
    have hi' : i < 64 := by omega
    simp [h, hlt, hi, hi', hsub]
  · have hlt : i < order := by omega
    simp [h, hlt]

theorem toNat_not_sizeMask_add_one {order : ℕ} (h : order < 32) :
    (~~~(sizeMask order).toUInt32 + 1).toNat = 2 ^ order := by
  have hlt : 2 ^ order ≤ 2 ^ 31 := Nat.pow_le_pow_right (by decide) (by omega)
  have hpos : 0 < 2 ^ order := Nat.two_pow_pos order
  have hnot : (~~~(sizeMask order).toUInt32).toNat = 2 ^ order - 1 := by
    apply Nat.eq_of_testBit_eq
    intro i
    rw [Nat.testBit_two_pow_sub_one, ← UInt32.toNat_toBitVec, BitVec.testBit_toNat,
      UInt32.toBitVec_not, BitVec.getLsbD_not]
    by_cases hi : i < 32
    · rw [getLsbD_sizeMask hi, decide_eq_true hi, Bool.true_and, ← decide_not]
      exact decide_eq_decide.2 Nat.not_le
    · have hge : ¬ i < order := by omega
      simp [hi, hge]
  rw [UInt32.toNat_add, hnot, UInt32.toNat_one]
  omega

theorem sizeMask_eq_zero_iff (order : ℕ) : (sizeMask order).toUInt32 = 0 ↔ 32 ≤ order := by
  constructor
  · intro h
    by_contra hlt
    have hle : order ≤ 31 := by omega
    have hbit : (sizeMask order).toUInt32.toBitVec.getLsbD 31 = decide (order ≤ 31) :=
      getLsbD_sizeMask (by decide)
    rw [h, decide_eq_true hle] at hbit
    exact absurd hbit (by decide)
  · intro h
    apply Register.eq_of_getLsbD
    intro i hi
    have hgt : ¬ order ≤ i := by omega
    rw [getLsbD_sizeMask hi]
    simp [hgt]

namespace MemoryBar

variable (bar : MemoryBar)

theorem getLsbD_type {i : ℕ} (hi : 4 ≤ i) : bar.type.toBitVec.getLsbD i = false := by
  rw [← BitVec.testBit_toNat, UInt32.toNat_toBitVec]
  have hle : 2 ^ 4 ≤ 2 ^ i := Nat.pow_le_pow_right Nat.two_pos hi
  exact Nat.testBit_lt_two_pow (lt_of_lt_of_le bar.type_lt hle)

theorem getLsbD_base {i : ℕ} (hi : i < bar.order) : bar.base.toBitVec.getLsbD i = false := by
  obtain ⟨k, hk⟩ := bar.aligned
  have hlt : ¬ bar.order ≤ i := by omega
  rw [← BitVec.testBit_toNat, UInt64.toNat_toBitVec, hk, Nat.testBit_two_pow_mul]
  simp [hlt]

theorem getLsbD_low_write {i : ℕ} (hi : i < 32) :
    (bar.low.write 0xFFFFFFFF).value.toBitVec.getLsbD i =
      (decide (bar.order ≤ i) || bar.type.toBitVec.getLsbD i) := by
  rw [Register.getLsbD_write _ _ hi, low, Register.readWrite, getLsbD_sizeMask hi,
    Register.getLsbD_ones hi]
  by_cases h : bar.order ≤ i
  · simp [h]
  · simp [h, bar.getLsbD_base (by omega : i < bar.order)]

theorem low_write_and : (bar.low.write 0xFFFFFFFF).value &&& ~~~0xF =
    (sizeMask bar.order).toUInt32 := by
  have hlow : (0xF : UInt32).toBitVec = BitVec.ofNat 32 (2 ^ 4 - 1) := rfl
  have hfour := bar.four_le
  apply Register.eq_of_getLsbD
  intro i hi
  rw [UInt32.toBitVec_and, BitVec.getLsbD_and, bar.getLsbD_low_write hi, getLsbD_sizeMask hi,
    UInt32.toBitVec_not, BitVec.getLsbD_not, hlow, BitVec.getLsbD_ofNat,
    Nat.testBit_two_pow_sub_one]
  by_cases h : i < 4
  · have hlt : ¬ bar.order ≤ i := by omega
    simp [h, hi, hlt]
  · rw [bar.getLsbD_type (by omega)]
    simp [h, hi]

/-- What is read back is never all ones, since bit 0 is clear. -/
theorem low_write_ne : (bar.low.write 0xFFFFFFFF).value ≠ 0xFFFFFFFF := by
  intro h
  have hmem := Register.getLsbD_of_eq bar.memory 0
  have hone : (1 : UInt32).toBitVec.getLsbD 0 = true := rfl
  have hbit := bar.getLsbD_low_write (i := 0) (by decide)
  have hfour := bar.four_le
  have hlt : ¬ bar.order ≤ 0 := by omega
  rw [UInt32.toBitVec_and, BitVec.getLsbD_and, hone, Bool.and_true] at hmem
  rw [h, hmem, decide_eq_false hlt] at hbit
  exact Bool.noConfusion hbit

end MemoryBar

/-! ### The probe -/

section

variable {device function : UInt8} (hd : device.toNat < 32) (hf : function.toNat < 8)
  {bus barOffset : UInt8} {hb : HostBridge} {bar : MemoryBar}
  (hbar : bar.At (hb.functions (Bdf.ofBytes bus device function)) (regIndex barOffset))

include hd hf hbar

theorem probeBarSize_fst :
    (probeBarSize bus device function barOffset hb).1.toNat =
      if bar.order < 32 then bar.size else 0 := by
  have hread : (probeBarSize bus device function barOffset hb).1 =
      let v := (bar.low.write 0xFFFFFFFF).value
      if v = 0 ∨ v = 0xFFFFFFFF then 0
      else if v &&& ~~~0xF = 0 then 0 else (~~~(v &&& ~~~0xF) + 1).toUInt64 := by
    unfold probeBarSize
    simp only [pciConfigRead32_eq hd hf, pciConfigWrite32_eq hd hf, HostBridge.store_self, hbar.1]
    split_ifs <;> rfl
  have hmask := bar.low_write_and
  have hne := bar.low_write_ne
  rw [hread]
  generalize (bar.low.write 0xFFFFFFFF).value = v at hmask hne
  simp only [hne, or_false, hmask, sizeMask_eq_zero_iff]
  by_cases horder : bar.order < 32
  -- a bit of the size is read back, so that neither test for zero fires
  · have hv : v ≠ 0 := by
      rintro rfl
      rw [UInt32.zero_and] at hmask
      have := (sizeMask_eq_zero_iff _).1 hmask.symm
      omega
    rw [if_neg hv, if_neg (by omega), if_pos horder, UInt32.toNat_toUInt64]
    exact toNat_not_sizeMask_add_one horder
  · rw [if_neg horder, if_pos (by omega : 32 ≤ bar.order), ite_self, UInt64.toNat_zero]

/-- **What the probe returns**: the size of a window that fits in the lower register, and `0` for
a larger one.  Every register is put back. -/
theorem probeBarSize_bar :
    (probeBarSize bus device function barOffset hb).1.toNat =
        (if bar.order < 32 then bar.size else 0) ∧
      (probeBarSize bus device function barOffset hb).2.functions = hb.functions := by
  refine ⟨probeBarSize_fst hd hf hbar, probeBarSize_functions hd hf ?_⟩
  rw [hbar.1]
  rfl

end

/-- **A BAR is sized rightly exactly when its size is below 4 GiB**, whatever its type and its base
address are. -/
theorem sized_iff {device function : UInt8} (hd : device.toNat < 32) (hf : function.toNat < 8)
    {bus barOffset : UInt8} {hb : HostBridge} {bar : MemoryBar}
    (hbar : bar.At (hb.functions (Bdf.ofBytes bus device function)) (regIndex barOffset)) :
    Sized bar hb (probeBarSize bus device function barOffset hb) ↔ bar.size < 2 ^ 32 := by
  obtain ⟨hsize, hrest⟩ := probeBarSize_bar hd hf hbar
  have hpos : 0 < bar.size := Nat.two_pow_pos bar.order
  have horder : bar.size < 2 ^ 32 ↔ bar.order < 32 := Nat.pow_lt_pow_iff_right (by decide)
  rw [Sized, hsize, hrest, horder]
  split_ifs with h
  · simp [h]
  · simp only [h, and_true, iff_false]
    omega

/-! ### An aperture -/

/-- Put a BAR into a GPU that is alone on the bus, from the given register on. -/
def MemoryBar.bridge (bar : MemoryBar) (i : Fin 64) : HostBridge :=
  .of [(⟨1, 0, 0⟩, fun j => if j = i then bar.low else bar.high)]

theorem MemoryBar.at_bridge (bar : MemoryBar) (i : Fin 64) :
    bar.At ((bar.bridge i).functions ⟨1, 0, 0⟩) i := by
  have hlookup : (bar.bridge i).functions ⟨1, 0, 0⟩ =
      fun j => if j = i then bar.low else bar.high := rfl
  have hne : i + 1 ≠ i := by simp
  rw [hlookup]
  exact ⟨if_pos rfl, fun _ => if_neg hne⟩

/-- A 64-bit prefetchable BAR at the first multiple of its size. -/
def MemoryBar.aperture (order : ℕ) (hfour : 4 ≤ order) (hlt : order < 64) : MemoryBar where
  type := 0xC
  order := order
  base := UInt64.ofNat (2 ^ order)
  type_lt := by decide
  memory := rfl
  four_le := hfour
  order_lt := hlt
  base_lt := UInt64.toNat_lt _
  aligned := by
    rw [UInt64.toNat_ofNat_of_lt' (Nat.pow_lt_pow_right (by decide) hlt)]

/-- The aperture of 256 MiB is sized rightly. -/
theorem sized_256_mib :
    let bar := MemoryBar.aperture 28 (by decide) (by decide)
    Sized bar (bar.bridge 6) (probeBarSize 1 0 0 0x18 (bar.bridge 6)) :=
  (sized_iff (by decide) (by decide) (MemoryBar.at_bridge _ 6)).2 (by decide)

/-- The aperture of 16 GiB is not: its size is taken to be `0`. -/
theorem not_sized_16_gib :
    let bar := MemoryBar.aperture 34 (by decide) (by decide)
    (probeBarSize 1 0 0 0x18 (bar.bridge 6)).1 = 0 ∧
      ¬ Sized bar (bar.bridge 6) (probeBarSize 1 0 0 0x18 (bar.bridge 6)) := by
  intro bar
  have hsize : (probeBarSize 1 0 0 0x18 (bar.bridge 6)).1.toNat =
      if bar.order < 32 then bar.size else 0 :=
    probeBarSize_fst (by decide) (by decide) (MemoryBar.at_bridge bar 6)
  have horder : ¬ bar.order < 32 := by decide
  rw [if_neg horder] at hsize
  refine ⟨UInt64.toNat_inj.1 hsize, fun h => ?_⟩
  have hpos : 0 < bar.size := Nat.two_pow_pos bar.order
  have := h.1
  omega

end GpuCompute
