import GpuCompute.Lib.Register
import GpuCompute.Lib.Word
import Mathlib.Data.Fintype.Basic
import Mathlib.Logic.Function.Basic

/-!
# PCI configuration space

The driver reaches the configuration space of a PCI function through two I/O ports of the host
bridge: it writes the address of a register to `CONFIG_ADDRESS` and then reads or writes
`CONFIG_DATA`.  The host bridge decodes the address into a bus, a device, a function and a register.

* `Bdf` : the bus, device and function numbers of a PCI function.
* `ConfigSpace`, `HostBridge` : the registers of a function, and the bridge in front of them.
* `pciConfigRead32`, `pciConfigWrite32`, `pciConfigRead16`, `pciConfigWrite16` : the accesses.
* `decodeBar64`, `probeBarSize` : base address and size of a BAR.
* `selected_configAddress` : the address the driver writes selects the register it means.
* `pciConfigRead32_eq`, `pciConfigWrite32_eq` : what an access does.
* `probeBarSize_functions` : probing a size leaves a BAR as it was.
-/

namespace GpuCompute

open Systems

/-! ### The host bridge -/

-- the sizes of the numbers below, as facts with a name for their literals to refer to
instance neZero256 : NeZero 256 := ⟨by decide⟩
instance neZero64 : NeZero 64 := ⟨by decide⟩
instance neZero32 : NeZero 32 := ⟨by decide⟩
instance neZero8 : NeZero 8 := ⟨by decide⟩

/-- A PCI function: bus, device and function number. -/
structure Bdf where
  bus : Fin 256
  device : Fin 32
  function : Fin 8
  deriving DecidableEq

/-- The 64 registers of a function. -/
abbrev ConfigSpace := Fin 64 → Register

/-- The host bridge, and the configuration spaces of all functions behind it. -/
structure HostBridge where
  /-- The latched `CONFIG_ADDRESS`. -/
  address : UInt32
  /-- The functions; one that is absent has hardwired ones in its registers. -/
  functions : Bdf → ConfigSpace

namespace HostBridge

/-- The function and the register that an address with the enable bit selects. -/
def selected (address : UInt32) : Option (Bdf × Fin 64) :=
  if address >>> 31 = 1 then
    some (⟨Fin.ofNat 256 (address.toNat / 2 ^ 16), Fin.ofNat 32 (address.toNat / 2 ^ 11),
      Fin.ofNat 8 (address.toNat / 2 ^ 8)⟩, Fin.ofNat 64 (address.toNat / 4))
  else none

/-- The given functions, all others being absent. -/
def of (spaces : List (Bdf × ConfigSpace)) : HostBridge where
  address := 0
  functions q := (spaces.lookup q).getD fun _ => .hardwired 0xFFFFFFFF

/-- Put a register into the configuration space of a function. -/
def store (functions : Bdf → ConfigSpace) (p : Bdf) (i : Fin 64) (r : Register) :
    Bdf → ConfigSpace :=
  Function.update functions p (Function.update (functions p) i r)

/-- Write a 32-bit I/O port. -/
def outl (hb : HostBridge) (port : UInt16) (value : UInt32) : HostBridge :=
  if port = 0xCF8 then { hb with address := value }
  else if port = 0xCFC then
    match selected hb.address with
    | some (p, i) =>
      { hb with functions := store hb.functions p i ((hb.functions p i).write value) }
    | none => hb
  else hb

/-- Read a 32-bit I/O port. -/
def inl (hb : HostBridge) (port : UInt16) : UInt32 :=
  if port = 0xCF8 then hb.address
  else if port = 0xCFC then
    match selected hb.address with
    | some (p, i) => (hb.functions p i).value
    | none => 0xFFFFFFFF
  else 0xFFFFFFFF

end HostBridge

/-! ### Accesses -/

/-- The address of a register, with the enable bit. -/
def configAddress (bus device function offset : UInt8) : UInt32 :=
  (0x80000000 : UInt32) ||| (bus.toUInt32 <<< 16) ||| (device.toUInt32 <<< 11) |||
    (function.toUInt32 <<< 8) ||| (offset.toUInt32 &&& 0xFC)

/-- Read a 32-bit register. -/
def pciConfigRead32 (bus device function offset : UInt8) (hb : HostBridge) :
    UInt32 × HostBridge :=
  let hb := hb.outl 0xCF8 (configAddress bus device function offset)
  (hb.inl 0xCFC, hb)

/-- Write a 32-bit register. -/
def pciConfigWrite32 (bus device function offset : UInt8) (value : UInt32) (hb : HostBridge) :
    HostBridge :=
  let hb := hb.outl 0xCF8 (configAddress bus device function offset)
  hb.outl 0xCFC value

/-- Read a 16-bit register. -/
def pciConfigRead16 (bus device function offset : UInt8) (hb : HostBridge) :
    UInt16 × HostBridge :=
  let (val32, hb) := pciConfigRead32 bus device function (offset &&& 0xFC) hb
  (((val32 >>> ((offset &&& 2) * 8).toUInt32) &&& 0xFFFF).toUInt16, hb)

/-- Write a 16-bit register: read the 32-bit register around it and write it back. -/
def pciConfigWrite16 (bus device function offset : UInt8) (value : UInt16) (hb : HostBridge) :
    HostBridge :=
  let (val32, hb) := pciConfigRead32 bus device function (offset &&& 0xFC) hb
  let shift := ((offset &&& 2) * 8).toUInt32
  let mask := ~~~((0xFFFF : UInt32) <<< shift)
  let newVal := (val32 &&& mask) ||| (value.toUInt32 <<< shift)
  pciConfigWrite32 bus device function (offset &&& 0xFC) newVal hb

/-! ### BARs -/

/-- Decode a BAR from its register and the next one: the base address, and whether it is in memory
space. -/
def decodeBar64 (barLo barHi : UInt32) : UInt64 × Bool :=
  let is64bit := (barLo &&& 0x06) = 0x04
  let isMmio := (barLo &&& 0x01) = 0
  let base := if is64bit then (barHi.toUInt64 <<< 32) ||| (barLo.toUInt64 &&& ~~~0xF)
    else barLo.toUInt64 &&& ~~~0xF
  (base, isMmio)

/-- Determine the size of a BAR: write all ones and read back. -/
def probeBarSize (bus device function barOffset : UInt8) (hb : HostBridge) :
    UInt64 × HostBridge :=
  let (original, hb) := pciConfigRead32 bus device function barOffset hb
  let hb := pciConfigWrite32 bus device function barOffset 0xFFFFFFFF hb
  let (sizeMask, hb) := pciConfigRead32 bus device function barOffset hb
  let hb := pciConfigWrite32 bus device function barOffset original hb
  if sizeMask = 0 ∨ sizeMask = 0xFFFFFFFF then (0, hb)
  else
    let mask := sizeMask &&& ~~~0xF
    if mask = 0 then (0, hb) else ((~~~mask + 1).toUInt64, hb)

/-! ### Registers stored -/

namespace HostBridge

variable (functions : Bdf → ConfigSpace) (p : Bdf) (i : Fin 64) (r : Register)

@[simp] theorem store_self : store functions p i r p i = r := by
  rw [store, Function.update_self, Function.update_self]

variable {functions p i r}

theorem store_of_ne {q : Bdf} {j : Fin 64} (h : ¬ (q = p ∧ j = i)) :
    store functions p i r q j = functions q j := by
  unfold store
  by_cases hq : q = p
  · subst hq
    rw [Function.update_self, Function.update_of_ne fun hj => h ⟨rfl, hj⟩]
  · rw [Function.update_of_ne hq]

@[simp] theorem store_store (r' : Register) :
    store (store functions p i r) p i r' = store functions p i r' := by
  rw [store, store, Function.update_self, Function.update_idem, Function.update_idem, store]

theorem store_eq_self (h : r = functions p i) : store functions p i r = functions := by
  rw [store, h, Function.update_eq_self, Function.update_eq_self]

end HostBridge

/-! ### What an access does -/

/-- The function with the given numbers. -/
def Bdf.ofBytes (bus device function : UInt8) : Bdf :=
  ⟨Fin.ofNat 256 bus.toNat, Fin.ofNat 32 device.toNat, Fin.ofNat 8 function.toNat⟩

/-- The register at an offset. -/
def regIndex (offset : UInt8) : Fin 64 := Fin.ofNat 64 (offset.toNat / 4)

theorem and_252 {n : ℕ} (hn : n < 256) : n &&& 252 = n / 4 * 4 := by
  have h := bitVec_toNat_and_not_mask 8 2 (BitVec.ofNat 8 n)
  rw [BitVec.toNat_and, BitVec.toNat_ofNat, Nat.mod_eq_of_lt (by omega)] at h
  exact h

theorem toNat_configAddress {device function : UInt8} (hd : device.toNat < 32)
    (hf : function.toNat < 8) (bus offset : UInt8) :
    (configAddress bus device function offset).toNat =
      2 ^ 31 + (bus.toNat * 2 ^ 16 + (device.toNat * 2 ^ 11 + (function.toNat * 2 ^ 8 +
        offset.toNat / 4 * 4))) := by
  have hb := bus.toNat_lt
  have ho := offset.toNat_lt
  have hbase : (2147483648 : ℕ) = 1 <<< 31 := rfl
  simp only [configAddress, UInt32.toNat_or, UInt32.toNat_shiftLeft, UInt8.toNat_toUInt32,
    UInt32.toNat_and, UInt32.reduceToNat, Nat.reduceMod, and_252 ho]
  rw [shiftLeft_mod_of_lt (by omega), shiftLeft_mod_of_lt (by omega),
    shiftLeft_mod_of_lt (by omega), Nat.or_assoc, Nat.or_assoc, Nat.or_assoc,
    -- the fields are packed from the lowest on
    shiftLeft_or_eq_add (i := 8) (by omega), shiftLeft_or_eq_add (i := 11) (by omega),
    shiftLeft_or_eq_add (i := 16) (by omega), hbase, shiftLeft_or_eq_add (i := 31) (by omega)]
  omega

/-- **The address the driver writes selects the register it means.** -/
theorem selected_configAddress {device function : UInt8} (hd : device.toNat < 32)
    (hf : function.toNat < 8) (bus offset : UInt8) :
    HostBridge.selected (configAddress bus device function offset) =
      some (Bdf.ofBytes bus device function, regIndex offset) := by
  have hb := bus.toNat_lt
  have ho := offset.toNat_lt
  have haddr := toNat_configAddress hd hf bus offset
  have henable : configAddress bus device function offset >>> 31 = 1 := by
    apply UInt32.toNat_inj.1
    rw [UInt32.toNat_shiftRight, haddr]
    simp only [UInt32.reduceToNat, Nat.reduceMod, Nat.shiftRight_eq_div_pow]
    omega
  rw [HostBridge.selected, if_pos henable, haddr, Bdf.ofBytes, regIndex]
  simp only [Option.some.injEq, Prod.mk.injEq, Bdf.mk.injEq, Fin.ext_iff, Fin.val_ofNat]
  omega

theorem pciConfigRead32_eq {device function : UInt8} (hd : device.toNat < 32)
    (hf : function.toNat < 8) (bus offset : UInt8) (hb : HostBridge) :
    pciConfigRead32 bus device function offset hb =
      ((hb.functions (Bdf.ofBytes bus device function) (regIndex offset)).value,
        { hb with address := configAddress bus device function offset }) := by
  simp only [pciConfigRead32, HostBridge.outl, HostBridge.inl, selected_configAddress hd hf,
    if_true]
  rfl

theorem pciConfigWrite32_eq {device function : UInt8} (hd : device.toNat < 32)
    (hf : function.toNat < 8) (bus offset : UInt8) (value : UInt32) (hb : HostBridge) :
    pciConfigWrite32 bus device function offset value hb =
      let p := Bdf.ofBytes bus device function
      { address := configAddress bus device function offset
        functions := HostBridge.store hb.functions p (regIndex offset)
          ((hb.functions p (regIndex offset)).write value) } := by
  simp only [pciConfigWrite32, HostBridge.outl, selected_configAddress hd hf, if_true]
  rfl

theorem probeBarSize_eq {device function : UInt8} (hd : device.toNat < 32)
    (hf : function.toNat < 8) (bus barOffset : UInt8) (hb : HostBridge) :
    (probeBarSize bus device function barOffset hb).2.functions =
      let r := hb.functions (Bdf.ofBytes bus device function) (regIndex barOffset)
      HostBridge.store hb.functions (Bdf.ofBytes bus device function) (regIndex barOffset)
        ((r.write 0xFFFFFFFF).write r.value) := by
  unfold probeBarSize
  simp only [pciConfigRead32_eq hd hf, pciConfigWrite32_eq hd hf]
  split_ifs <;> simp

theorem probeBarSize_of_ne {device function : UInt8} (hd : device.toNat < 32)
    (hf : function.toNat < 8) {bus barOffset : UInt8} (hb : HostBridge) {q : Bdf} {j : Fin 64}
    (hj : j ≠ regIndex barOffset) :
    (probeBarSize bus device function barOffset hb).2.functions q j = hb.functions q j := by
  rw [probeBarSize_eq hd hf]
  exact HostBridge.store_of_ne fun h => hj h.2

/-- **Probing a size leaves a BAR as it was.** -/
theorem probeBarSize_functions {device function : UInt8} (hd : device.toNat < 32)
    (hf : function.toNat < 8) {bus barOffset : UInt8} {hb : HostBridge}
    (hbar : (hb.functions (Bdf.ofBytes bus device function)
      (regIndex barOffset)).clearable = 0) :
    (probeBarSize bus device function barOffset hb).2.functions = hb.functions := by
  rw [probeBarSize_eq hd hf]
  exact HostBridge.store_eq_self (Register.write_write_value hbar _)

end GpuCompute
