import GpuCompute.Lib.Lens
import GpuCompute.Pci.Config

/-!
# The 16-bit halves of the configuration space

A 16-bit access is made of 32-bit accesses: a read shifts the half down, and a write reads the whole
register, replaces the half and writes the register back.  Where all registers are plain words, such
an access reads and writes the half and nothing else.

* `HostBridge.Plain` : all bits of all registers are read/write.
* `HostBridge.half` : 16 bits of a register.
* `Place16` : the arguments of a 16-bit access, as they have to be.
* `halfLens` : a half of a register, as a lens on the contents of the configuration space.
* `Place16.half_injective` : different places are different halves.
* `Place16.read_eq`, `Place16.words_write` : an access reads and writes its half.
* `access16_lens` : the laws of the accesses.
-/

namespace GpuCompute

open Systems

namespace HostBridge

/-- All registers are plain words: a write replaces all bits. -/
def Plain (hb : HostBridge) : Prop := ∀ p i, (hb.functions p i).writable = 0xFFFFFFFF

/-- The lower or the upper 16 bits of a register. -/
def half (hb : HostBridge) (p : Bdf) (i : Fin 64) (k : Fin 2) : UInt16 :=
  .ofBitVec ((hb.functions p i).value.toBitVec.extractLsb' (16 * k) 16)

/-- The contents of the configuration space. -/
def words (hb : HostBridge) : Bdf → Fin 64 → BitVec 32 :=
  fun p i => (hb.functions p i).value.toBitVec

end HostBridge

/-- A place in the configuration space that is read and written with 16 bits. -/
@[ext] structure Place16 where
  bus : UInt8
  device : UInt8
  function : UInt8
  offset : UInt8
  device_lt : device.toNat < 32
  function_lt : function.toNat < 8
  even : 2 ∣ offset.toNat

namespace Place16

/-- Read a place. -/
def read (x : Place16) (hb : HostBridge) : UInt16 × HostBridge :=
  pciConfigRead16 x.bus x.device x.function x.offset hb

/-- Write a place. -/
def write (x : Place16) (value : UInt16) (hb : HostBridge) : HostBridge :=
  pciConfigWrite16 x.bus x.device x.function x.offset value hb

/-- The function. -/
def bdf (x : Place16) : Bdf := .ofBytes x.bus x.device x.function

/-- The register. -/
def register (x : Place16) : Fin 64 := regIndex x.offset

/-- The half of the register. -/
def half (x : Place16) : Fin 2 := Fin.ofNat 2 (x.offset.toNat / 2)

end Place16

/-! ### Halves as lenses -/

theorem half_fits (k : Fin 2) : 16 * k.val + 16 ≤ 32 := by omega

/-- A half of a register, as a lens on the contents of the configuration space. -/
def halfLens (p : Bdf) (i : Fin 64) (k : Fin 2) : Lens (Bdf → Fin 64 → BitVec 32) (BitVec 16) :=
  (Lens.component p).comp ((Lens.component i).comp (Lens.field (16 * k) 16 (half_fits k)))

theorem half_eq_get (hb : HostBridge) (p : Bdf) (i : Fin 64) (k : Fin 2) :
    hb.half p i k = .ofBitVec ((halfLens p i k).get hb.words) := rfl

theorem independent_halfLens {p q : Bdf} {i j : Fin 64} {k l : Fin 2}
    (h : (p, i, k) ≠ (q, j, l)) : (halfLens p i k).Independent (halfLens q j l) := by
  by_cases hp : p = q
  · subst hp
    apply Lens.Independent.comp_left
    by_cases hi : i = j
    · subst hi
      apply Lens.Independent.comp_left
      apply Lens.independent_field
      have hk : k ≠ l := fun hk => h (by rw [hk])
      omega
    · exact (Lens.independent_component hi).comp _ _
  · exact (Lens.independent_component hp).comp _ _

/-! ### Shifts and masks -/

theorem and_two (n : ℕ) : n &&& 2 = 2 * (n / 2 % 2) := by
  have h := Nat.and_two_pow n 1
  rw [Nat.toNat_testBit, Nat.pow_one] at h
  omega

theorem toBitVec_shiftLeft_of_lt (v : UInt32) {s : UInt32} (hs : s.toNat < 32) :
    (v <<< s).toBitVec = v.toBitVec <<< s.toNat := by
  have hmod : (s.toBitVec % 32).toNat = s.toNat := Nat.mod_eq_of_lt hs
  rw [UInt32.toBitVec_shiftLeft, BitVec.shiftLeft_eq', hmod]

theorem toBitVec_half (v : UInt32) {s : UInt32} (hs : s.toNat < 32) :
    ((v >>> s) &&& 0xFFFF).toUInt16.toBitVec = v.toBitVec.extractLsb' s.toNat 16 := by
  have hmod : (s.toBitVec % 32).toNat = s.toNat := Nat.mod_eq_of_lt hs
  have hmask : (0xFFFF : UInt32).toUInt16 = -1 := rfl
  rw [UInt32.toUInt16_and, hmask, UInt16.and_neg_one, UInt32.toBitVec_toUInt16,
    UInt32.toBitVec_shiftRight, BitVec.ushiftRight_eq', hmod]
  refine BitVec.eq_of_getLsbD_eq fun i hi => ?_
  rw [BitVec.getLsbD_setWidth, BitVec.getLsbD_ushiftRight, BitVec.getLsbD_extractLsb']

theorem toBitVec_replaceHalf (v : UInt32) (a : UInt16) {s : UInt32} (hs : s.toNat < 32) :
    ((v &&& ~~~((0xFFFF : UInt32) <<< s)) ||| (a.toUInt32 <<< s)).toBitVec =
      Lens.putField s.toNat 16 a.toBitVec v.toBitVec := by
  rw [UInt32.toBitVec_or, UInt32.toBitVec_and, UInt32.toBitVec_not, toBitVec_shiftLeft_of_lt _ hs,
    toBitVec_shiftLeft_of_lt _ hs, UInt16.toBitVec_toUInt32]
  rfl

namespace Place16

variable (x : Place16)

theorem regIndex_aligned (offset : UInt8) : regIndex (offset &&& 0xFC) = regIndex offset := by
  have h := and_252 offset.toNat_lt
  have hmask : (0xFC : UInt8).toNat = 252 := rfl
  rw [regIndex, regIndex, UInt8.toNat_and, hmask, h, Nat.mul_div_cancel _ (by decide)]

theorem toNat_shift : ((x.offset &&& 2) * 8).toUInt32.toNat = 16 * x.half := by
  have hhalf : x.half.val = x.offset.toNat / 2 % 2 := rfl
  have htwo : (2 : UInt8).toNat = 2 := rfl
  have height : (8 : UInt8).toNat = 8 := rfl
  rw [UInt8.toNat_toUInt32, UInt8.toNat_mul, UInt8.toNat_and, htwo, height, and_two, hhalf]
  omega

theorem shift_lt : ((x.offset &&& 2) * 8).toUInt32.toNat < 32 := by
  rw [toNat_shift]
  omega

/-- **Different places are different halves.** -/
theorem half_injective {x y : Place16}
    (h : (x.bdf, x.register, x.half) = (y.bdf, y.register, y.half)) : x = y := by
  obtain ⟨hbdf, hreg, hhalf⟩ : x.bdf = y.bdf ∧ x.register = y.register ∧ x.half = y.half := by
    simpa using h
  have hd := x.device_lt
  have hf := x.function_lt
  have he := x.even
  have hd' := y.device_lt
  have hf' := y.function_lt
  have he' := y.even
  have hb := x.bus.toNat_lt
  have hb' := y.bus.toNat_lt
  have ho := x.offset.toNat_lt
  have ho' := y.offset.toNat_lt
  simp only [bdf, Bdf.ofBytes, register, regIndex, half, Bdf.mk.injEq, Fin.ext_iff, Fin.val_ofNat]
    at hbdf hreg hhalf
  obtain ⟨hbus, hdevice, hfunction⟩ := hbdf
  apply Place16.ext <;> apply UInt8.toNat_inj.1 <;> omega

end Place16

/-! ### What an access does -/

theorem HostBridge.words_store {hb hb' : HostBridge} {p : Bdf} {i : Fin 64} {r : Register}
    (h : hb'.functions = store hb.functions p i r) :
    hb'.words = ((Lens.component p).comp (Lens.component i)).put r.value.toBitVec hb.words := by
  funext q j
  simp only [words, h, Lens.comp, Lens.component, Function.update_apply]
  by_cases hqj : q = p ∧ j = i
  · obtain ⟨rfl, rfl⟩ := hqj
    rw [store_self, if_pos rfl, Function.update_self]
  · rw [store_of_ne hqj]
    split_ifs with hq
    · rw [Function.update_of_ne fun hj => hqj ⟨hq, hj⟩, hq]
      rfl
    · rfl

theorem HostBridge.Plain.functions_eq {hb hb' : HostBridge} (h : hb.Plain) (h' : hb'.Plain)
    (hwords : hb.words = hb'.words) : hb.functions = hb'.functions := by
  funext p i
  have hvalue := congrFun (congrFun hwords p) i
  exact Register.eq_of_writable (h p i) (h' p i) (UInt32.toBitVec_inj.1 hvalue)

namespace Place16

variable (x : Place16) (value : UInt16) {hb : HostBridge}

/-- **A read returns the half**, and changes the latched address only. -/
theorem read_eq (hb : HostBridge) :
    x.read hb = (hb.half x.bdf x.register x.half,
      { hb with address := configAddress x.bus x.device x.function (x.offset &&& 0xFC) }) := by
  unfold read pciConfigRead16
  rw [pciConfigRead32_eq x.device_lt x.function_lt]
  refine Prod.ext (UInt16.toBitVec_inj.1 ?_) rfl
  simp only [toBitVec_half _ x.shift_lt, x.toNat_shift, regIndex_aligned]
  rfl

theorem write_eq (hb : HostBridge) :
    ∃ v : UInt32, (x.write value hb).functions = HostBridge.store hb.functions x.bdf x.register
        ((hb.functions x.bdf x.register).write v) ∧
      v.toBitVec = Lens.putField (16 * x.half) 16 value.toBitVec (hb.words x.bdf x.register) := by
  unfold write pciConfigWrite16
  rw [pciConfigRead32_eq x.device_lt x.function_lt]
  simp only [pciConfigWrite32_eq x.device_lt x.function_lt, regIndex_aligned]
  exact ⟨_, rfl, by rw [toBitVec_replaceHalf _ _ x.shift_lt, x.toNat_shift]; rfl⟩

theorem plain_write (h : hb.Plain) : (x.write value hb).Plain := by
  obtain ⟨v, hfunctions, -⟩ := x.write_eq value hb
  intro q j
  rw [hfunctions]
  by_cases hqj : q = x.bdf ∧ j = x.register
  · obtain ⟨rfl, rfl⟩ := hqj
    rw [HostBridge.store_self]
    exact h _ _
  · rw [HostBridge.store_of_ne hqj]
    exact h q j

/-- **A write writes the half.** -/
theorem words_write (h : hb.Plain) :
    (x.write value hb).words = (halfLens x.bdf x.register x.half).put value.toBitVec hb.words := by
  obtain ⟨v, hfunctions, hv⟩ := x.write_eq value hb
  rw [HostBridge.words_store hfunctions, Register.write_value_of_writable (h _ _), hv]
  rfl

end Place16

/-! ### The laws -/

/-- **16-bit accesses are lenses**: what is written is read back, no other half is written, writing
back what was read changes no register, and the order of writes to two places does not matter to the
registers.  The bridge itself keeps the address of the last access. -/
theorem access16_lens {hb : HostBridge} (h : hb.Plain) (x : Place16) :
    (∀ value, (x.read (x.write value hb)).1 = value) ∧
    (∀ value p i k, (p, i, k) ≠ (x.bdf, x.register, x.half) →
      (x.write value hb).half p i k = hb.half p i k) ∧
    (∀ value y, y ≠ x → (y.read (x.write value hb)).1 = (y.read hb).1) ∧
    (x.write (x.read hb).1 (x.read hb).2).functions = hb.functions ∧
    ∀ y, y ≠ x → ∀ value value',
      (y.write value' (x.write value hb)).functions =
        (x.write value (y.write value' hb)).functions := by
  have hframe : ∀ value p i k, (p, i, k) ≠ (x.bdf, x.register, x.half) →
      (x.write value hb).half p i k = hb.half p i k := by
    intro value p i k hne
    rw [half_eq_get, half_eq_get, x.words_write value h, (independent_halfLens hne.symm).get_put]
  have hapart : ∀ {y : Place16}, y ≠ x →
      (y.bdf, y.register, y.half) ≠ (x.bdf, x.register, x.half) :=
    fun hne heq => hne (Place16.half_injective heq)
  refine ⟨fun value => ?_, hframe, fun value y hne => ?_, ?_, fun y hne value value' => ?_⟩
  · rw [x.read_eq, half_eq_get, x.words_write value h, Lens.get_put]
  · rw [y.read_eq, y.read_eq]
    exact hframe value _ _ _ (hapart hne)
  · -- reading has changed the latched address, which the write sets again
    rw [x.read_eq]
    have hplain : ∀ address, HostBridge.Plain { hb with address } := fun _ => h
    refine (x.plain_write _ (hplain _)).functions_eq h ?_
    rw [x.words_write _ (hplain _), half_eq_get]
    exact Lens.put_get _ _
  · refine (y.plain_write _ (x.plain_write _ h)).functions_eq
      (x.plain_write _ (y.plain_write _ h)) ?_
    rw [y.words_write _ (x.plain_write _ h), x.words_write _ h,
      x.words_write _ (y.plain_write _ h), y.words_write _ h]
    exact independent_halfLens (hapart hne).symm _ _ _

/-- The bridge in front of functions whose registers are plain words with the same contents. -/
def HostBridge.plain (word : UInt32) : HostBridge := ⟨0, fun _ _ => .readWrite word 0xFFFFFFFF⟩

/-- The upper half of the second register of the last function of a bus. -/
def Place16.lastStatus : Place16 where
  bus := 0
  device := 31
  function := 7
  offset := 6
  device_lt := Nat.le_refl 32
  function_lt := Nat.le_refl 8
  even := ⟨3, rfl⟩

/-- A write there is read back, and the lower half keeps its contents. -/
theorem access16_lens_lastStatus :
    let x := Place16.lastStatus
    let hb := HostBridge.plain 0x12345678
    hb.Plain ∧ (x.read (x.write 0xABCD hb)).1 = 0xABCD ∧
      (x.write 0xABCD hb).half ⟨0, 31, 7⟩ 1 0 = 0x5678 ∧
      (x.write (x.read hb).1 (x.read hb).2).functions = hb.functions := by
  intro x hb
  have hplain : hb.Plain := fun _ _ => rfl
  have hlow : ((⟨0, 31, 7⟩ : Bdf), (1 : Fin 64), (0 : Fin 2)) ≠ (x.bdf, x.register, x.half) := by
    decide
  have hbefore : hb.half ⟨0, 31, 7⟩ 1 0 = 0x5678 := by decide
  obtain ⟨hread, hframe, -, hback, -⟩ := access16_lens hplain x
  exact ⟨hplain, hread _, (hframe _ _ _ _ hlow).trans hbefore, hback⟩

end GpuCompute
