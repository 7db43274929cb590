import GpuCompute.Pci.Scan

/-!
# What the scan leaves behind

The scan overwrites BARs to learn their sizes and puts them back, and it sets two bits of the
command register.  The status register is in the upper half of the same 32 bits, and its bits are
cleared by writing a one: the write that sets the two bits also writes back the status it has read.

* `PciRules` : what the PCI specification says of the registers that the scan writes.
* `OnlyEnables` : the scan has set the two command bits of the GPU it returns and nothing else.
* `enableDevice_functions` : what enabling a device does.
* `onlyEnables_iff` : the scan does nothing else exactly when the two bits were set before or no
  status bit was latched.
-/

namespace GpuCompute

open Systems

/-- The rules for the registers that the scan writes: BARs have no bits that a write of one clears,
and the memory space and the bus master bit are read/write. -/
structure PciRules (c : ConfigSpace) : Prop where
  bars : ∀ i : Fin 64, 4 ≤ i → i ≤ 9 → (c i).clearable = 0
  command : 6 &&& (c 1).writable = 6

/-- The two bits of the command register of the GPU that was returned are set, and all other
registers hold what they held. -/
def OnlyEnables (before after : Bdf → ConfigSpace) (found : Option GpuPciDevice) : Prop :=
  ∀ p i, (after p i).value =
    if found.map GpuPciDevice.bdf = some p ∧ i = 1 then (before p i).value ||| 6
    else (before p i).value

/-! ### The write -/

theorem low_half (v : UInt32) : (v >>> 0 &&& 0xFFFF).toUInt16 = v.toUInt16 := by
  rw [UInt32.shiftRight_zero, UInt32.toUInt16_and]
  exact UInt16.and_neg_one

theorem join_low_half (v : UInt32) {m : UInt32} (hm : m.toNat < 2 ^ 16) :
    (v &&& ~~~((0xFFFF : UInt32) <<< 0)) ||| ((v ||| m).toUInt16.toUInt32 <<< 0) = v ||| m := by
  apply UInt32.toNat_inj.1
  have hhigh : (v &&& ~~~0xFFFF).toNat = v.toNat / 2 ^ 16 * 2 ^ 16 :=
    bitVec_toNat_and_not_mask 32 16 v.toBitVec
  have hsame : (v.toNat ||| m.toNat) / 2 ^ 16 = v.toNat / 2 ^ 16 := by
    rw [Nat.or_div_two_pow, Nat.div_eq_of_lt hm, Nat.or_zero]
  rw [UInt32.shiftLeft_zero, UInt32.shiftLeft_zero, UInt32.toUInt32_toUInt16, UInt32.toNat_or,
    hhigh, UInt32.toNat_mod, UInt32.toNat_or]
  simp only [UInt32.reduceToNat]
  rw [← Nat.shiftLeft_eq, shiftLeft_or_eq_add (by omega)]
  omega

theorem command_or (v : UInt32) :
    v.toUInt16 ||| PCI_CMD_MEMORY_SPACE ||| PCI_CMD_BUS_MASTER = (v ||| 6).toUInt16 := by
  rw [UInt16.or_assoc, UInt32.toUInt16_or]
  rfl

theorem command_eq_iff (v : UInt32) : v.toUInt16 = (v ||| 6).toUInt16 ↔ v ||| 6 = v := by
  constructor
  · intro h
    have hjoin := join_low_half v (m := 0) (by decide)
    rw [UInt32.or_zero, h, join_low_half v (by decide)] at hjoin
    exact hjoin
  · intro h
    rw [h]

/-- **What enabling a device does**: it writes the word with the command and the status register,
unless the two bits are set. -/
theorem enableDevice_functions {device : UInt8} (hd : device.toNat < 32) (bus : UInt8)
    (hb : HostBridge) :
    (enableDevice bus device hb).functions =
      let p := Bdf.ofBytes bus device 0
      let r := hb.functions p 1
      if r.value ||| 6 = r.value then hb.functions
      else HostBridge.store hb.functions p 1 (r.write (r.value ||| 6)) := by
  have hf : (0 : UInt8).toNat < 8 := by decide
  have hshift : ((PCI_COMMAND &&& 2) * 8).toUInt32 = 0 := by decide
  have hindex : regIndex (PCI_COMMAND &&& 0xFC) = 1 := by decide
  simp only [enableDevice, pciConfigRead16, pciConfigWrite16, pciConfigRead32_eq hd hf,
    pciConfigWrite32_eq hd hf, hshift, hindex, low_half, command_or, join_low_half _
    (show (6 : UInt32).toNat < 2 ^ 16 by decide), ne_eq, command_eq_iff, ite_not]
  split_ifs <;> rfl

/-! ### The frame -/

/-- Enabling a device sets the two bits and nothing else exactly when it need not write, or no
status bit is latched. -/
theorem onlyEnables_store_iff {functions : Bdf → ConfigSpace} {p : Bdf}
    {found : Option GpuPciDevice} (hfound : found.map GpuPciDevice.bdf = some p)
    (hcommand : 6 &&& (functions p 1).writable = 6) :
    let r := functions p 1
    OnlyEnables functions
        (if r.value ||| 6 = r.value then functions
          else HostBridge.store functions p 1 (r.write (r.value ||| 6))) found ↔
      r.value &&& 6 = 6 ∨ r.value &&& r.clearable = 0 := by
  intro r
  rw [← Register.or_eq_self_iff, ← Register.write_or_eq_iff hcommand]
  have hother : ∀ (q : Bdf) (i : Fin 64), ¬ (q = p ∧ i = 1) →
      ¬ (found.map GpuPciDevice.bdf = some q ∧ i = 1) := by
    rintro q i hne ⟨hq, rfl⟩
    rw [hfound, Option.some_inj] at hq
    exact hne ⟨hq.symm, rfl⟩
  split_ifs with hset
  · refine iff_of_true (fun q i => ?_) (.inl hset)
    split_ifs with hq
    · obtain ⟨hq, rfl⟩ := hq
      rw [hfound, Option.some_inj] at hq
      subst hq
      exact hset.symm
    · rfl
  · constructor
    · intro h
      have hp := h p 1
      rw [HostBridge.store_self, if_pos ⟨hfound, rfl⟩] at hp
      exact .inr hp
    · intro h q i
      by_cases hq : q = p ∧ i = 1
      · obtain ⟨rfl, rfl⟩ := hq
        rw [HostBridge.store_self, if_pos ⟨hfound, rfl⟩]
        exact h.resolve_left hset
      · rw [HostBridge.store_of_ne hq, if_neg (hother q i hq)]

/-- **The scan does nothing but enable the GPU it returns exactly when that GPU was enabled
before, or had no status bit latched.** -/
theorem onlyEnables_iff {hb : HostBridge}
    (hrules : ∀ p, ConfigSpace.IsGpu (hb.functions p) → PciRules (hb.functions p)) :
    OnlyEnables hb.functions (scanForNvidiaGpu hb).2.functions (scanForNvidiaGpu hb).1 ↔
      ∀ p, FirstOnZero hb.functions p →
        let command := hb.functions p 1
        command.value &&& 6 = 6 ∨ command.value &&& command.clearable = 0 := by
  obtain ⟨hb', heq, ⟨hnone, hscan⟩ | ⟨x, hx, hfirst, hscan⟩⟩ := scanForNvidiaGpu_spec hb
  · rw [hscan, heq]
    refine iff_of_true (fun p i => ?_) fun p hp => absurd hp.isGpu (hnone p hp.function)
    rw [if_neg fun h => by cases h.1]
  · obtain ⟨gpu, hfound, hat, -⟩ := foundGpu_spec hx hb'
    obtain ⟨-, -, hb'', hset, hprobes⟩ := setUpGpu_spec hx x.1
      (ConfigSpace.deviceId (hb'.functions (functionZero x)))
      (ConfigSpace.revision (hb'.functions (functionZero x))) hb'
    have hrule := hrules _ hfirst.isGpu
    -- the probes put everything back
    have hback : hb''.functions = hb.functions := by
      rw [← heq]
      refine hprobes ?_
      rw [heq]
      exact ⟨hrule.bars 4 (by decide) (by decide), hrule.bars 6 (by decide) (by decide),
        hrule.bars 8 (by decide) (by decide)⟩
    have hafter : (foundGpu x hb').2 = enableDevice x.1 x.2 hb'' := hset
    rw [hscan, hafter, enableDevice_functions hx, hback]
    have hgpu : (foundGpu x hb').1.map GpuPciDevice.bdf = some (functionZero x) := by
      rw [hfound, Option.map_some, hat.bdf_eq]
    refine (onlyEnables_store_iff hgpu hrule.command).trans (Iff.symm ?_)
    exact hfirst.forall_iff

theorem eq_of_isGpu_of {p q : Bdf} {c : ConfigSpace}
    (h : ConfigSpace.IsGpu ((HostBridge.of [(p, c)]).functions q)) : q = p := by
  simpa using mem_of_isGpu_of h

/-- An Ampere GPU that is not enabled and has no status bit latched. -/
theorem onlyEnables_ampere :
    OnlyEnables (HostBridge.of [(⟨0, 0, 0⟩, ampereSpace)]).functions
      (scanForNvidiaGpu (HostBridge.of [(⟨0, 0, 0⟩, ampereSpace)])).2.functions
      (scanForNvidiaGpu (HostBridge.of [(⟨0, 0, 0⟩, ampereSpace)])).1 := by
  refine (onlyEnables_iff fun p hp => ?_).2 fun p hp => ?_
  · obtain rfl := eq_of_isGpu_of hp
    exact ⟨by decide, by decide⟩
  · obtain rfl := eq_of_isGpu_of hp.isGpu
    exact .inr (by decide)

/-- A GPU that is not enabled and has latched an error in its status register. -/
def latchedBridge : HostBridge :=
  HostBridge.of [(⟨0, 0, 0⟩, fun
    | 0 => .hardwired 0x248410DE
    | 1 => commandStatus 0x20000000
    | 2 => .hardwired 0x030000A1
    | _ => .hardwired 0)]

/-- Enabling a GPU clears the error that it has latched. -/
theorem not_onlyEnables_latched :
    (∀ p, ConfigSpace.IsGpu (latchedBridge.functions p) → PciRules (latchedBridge.functions p)) ∧
      ((scanForNvidiaGpu latchedBridge).2.functions ⟨0, 0, 0⟩ 1).value = 6 ∧
      ¬ OnlyEnables latchedBridge.functions (scanForNvidiaGpu latchedBridge).2.functions
        (scanForNvidiaGpu latchedBridge).1 := by
  have hcleared : ((scanForNvidiaGpu latchedBridge).2.functions ⟨0, 0, 0⟩ 1).value = 6 := by
    decide
  refine ⟨fun p hp => ?_, hcleared, fun h => ?_⟩
  · obtain rfl := eq_of_isGpu_of hp
    exact ⟨by decide, by decide⟩
  · have herror : (latchedBridge.functions ⟨0, 0, 0⟩ 1).value = 0x20000000 := by decide
    have hafter := h ⟨0, 0, 0⟩ 1
    rw [hcleared, herror] at hafter
    split_ifs at hafter <;> exact absurd hafter (by decide)

end GpuCompute
