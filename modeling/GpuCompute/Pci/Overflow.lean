import GpuCompute.Lib.Checked
import GpuCompute.Pci.Scan

/-!
# Overflow in the PCI scan

A build with overflow checks stops when a product does not fit in its word, or when a word is
shifted by as many bits as it has.  In the scan the only amount that is computed is that of a 16-bit
access, and the size of a BAR is a sum that wraps in every build: whatever the configuration space
holds, the scan goes through.

`probeBarSizeChecked_eq` and `scanForNvidiaGpuChecked_eq` say that the checks change nothing.
-/

namespace GpuCompute

open Systems

/-! ### Accesses -/

/-- The address of a register, with the shifts checked. -/
def configAddressChecked (bus device function offset : UInt8) : Option UInt32 := do
  let bus ← checkedShiftLeft bus.toUInt32 16
  let device ← checkedShiftLeft device.toUInt32 11
  let function ← checkedShiftLeft function.toUInt32 8
  pure ((0x80000000 : UInt32) ||| bus ||| device ||| function ||| (offset.toUInt32 &&& 0xFC))

/-- Read a 32-bit register, checked. -/
def pciConfigRead32Checked (bus device function offset : UInt8) (hb : HostBridge) :
    Option (UInt32 × HostBridge) := do
  let address ← configAddressChecked bus device function offset
  let hb := hb.outl 0xCF8 address
  pure (hb.inl 0xCFC, hb)

/-- Write a 32-bit register, checked. -/
def pciConfigWrite32Checked (bus device function offset : UInt8) (value : UInt32)
    (hb : HostBridge) : Option HostBridge := do
  let address ← configAddressChecked bus device function offset
  let hb := hb.outl 0xCF8 address
  pure (hb.outl 0xCFC value)

/-- Read a 16-bit register, checked. -/
def pciConfigRead16Checked (bus device function offset : UInt8) (hb : HostBridge) :
    Option (UInt16 × HostBridge) := do
  let (val32, hb) ← pciConfigRead32Checked bus device function (offset &&& 0xFC) hb
  let shift ← checkedMul (offset &&& 2) 8
  let half ← checkedShiftRight val32 shift.toUInt32
  pure ((half &&& 0xFFFF).toUInt16, hb)

/-- Write a 16-bit register, checked. -/
def pciConfigWrite16Checked (bus device function offset : UInt8) (value : UInt16)
    (hb : HostBridge) : Option HostBridge := do
  let (val32, hb) ← pciConfigRead32Checked bus device function (offset &&& 0xFC) hb
  let shift ← checkedMul (offset &&& 2) 8
  let ones ← checkedShiftLeft (0xFFFF : UInt32) shift.toUInt32
  let bits ← checkedShiftLeft value.toUInt32 shift.toUInt32
  pciConfigWrite32Checked bus device function (offset &&& 0xFC) ((val32 &&& ~~~ones) ||| bits) hb

/-- Decode a BAR, checked. -/
def decodeBar64Checked (barLo barHi : UInt32) : Option (UInt64 × Bool) := do
  let is64bit := (barLo &&& 0x06) = 0x04
  let isMmio := (barLo &&& 0x01) = 0
  if is64bit then
    let high ← checkedShiftLeft barHi.toUInt64 32
    pure (high ||| (barLo.toUInt64 &&& ~~~0xF), isMmio)
  else pure (barLo.toUInt64 &&& ~~~0xF, isMmio)

/-- Determine the size of a BAR, checked. -/
def probeBarSizeChecked (bus device function barOffset : UInt8) (hb : HostBridge) :
    Option (UInt64 × HostBridge) := do
  let (original, hb) ← pciConfigRead32Checked bus device function barOffset hb
  let hb ← pciConfigWrite32Checked bus device function barOffset 0xFFFFFFFF hb
  let (sizeMask, hb) ← pciConfigRead32Checked bus device function barOffset hb
  let hb ← pciConfigWrite32Checked bus device function barOffset original hb
  if sizeMask = 0 ∨ sizeMask = 0xFFFFFFFF then pure (0, hb)
  else
    let mask := sizeMask &&& ~~~0xF
    -- `wrapping_add` wraps in every build
    if mask = 0 then pure (0, hb) else pure ((~~~mask + 1).toUInt64, hb)

/-! ### The scan -/

/-- Set the two bits of the command register, checked. -/
def enableDeviceChecked (bus device : UInt8) (hb : HostBridge) : Option HostBridge := do
  let (cmd, hb) ← pciConfigRead16Checked bus device 0 PCI_COMMAND hb
  let newCmd := cmd ||| PCI_CMD_MEMORY_SPACE ||| PCI_CMD_BUS_MASTER
  if cmd ≠ newCmd then pciConfigWrite16Checked bus device 0 PCI_COMMAND newCmd hb else pure hb

/-- Decode the BARs of a GPU and enable it, checked. -/
def setUpGpuChecked (bus device : UInt8) (devId : UInt16) (revision : UInt8) (hb : HostBridge) :
    Option (GpuPciDevice × HostBridge) := do
  let family := deviceIdToFamily devId
  let name := deviceIdToName devId
  let (bar0Raw, hb) ← pciConfigRead32Checked bus device 0 PCI_BAR0 hb
  let (bar1Raw, hb) ← pciConfigRead32Checked bus device 0 PCI_BAR1 hb
  let (bar2Raw, hb) ← pciConfigRead32Checked bus device 0 PCI_BAR2 hb
  let (bar3Raw, hb) ← pciConfigRead32Checked bus device 0 PCI_BAR3 hb
  let (bar0Base, _) ← decodeBar64Checked bar0Raw bar1Raw
  let (bar0Size, hb) ← probeBarSizeChecked bus device 0 PCI_BAR0 hb
  -- the sizes are logged in MiB
  let _ ← checkedMul (1024 : UInt64) 1024
  let isBar064bit := (bar0Raw &&& 0x06) = 0x04
  if isBar064bit then
    let (bar2Hi, hb) ← pciConfigRead32Checked bus device 0 PCI_BAR3 hb
    let (bar1Base, _) ← decodeBar64Checked bar2Raw bar2Hi
    let (bar1Size, hb) ← probeBarSizeChecked bus device 0 PCI_BAR2 hb
    let (bar4Raw, hb) ← pciConfigRead32Checked bus device 0 PCI_BAR4 hb
    let (bar5Raw, hb) ← pciConfigRead32Checked bus device 0 PCI_BAR5 hb
    let (bar2Base, _) ← decodeBar64Checked bar4Raw bar5Raw
    let (bar2Size, hb) ← probeBarSizeChecked bus device 0 PCI_BAR4 hb
    let hb ← enableDeviceChecked bus device hb
    pure ({ bus, device, function := 0, deviceId := devId, revision, family, bar0Base, bar0Size,
            bar1Base, bar1Size, bar2Base, bar2Size, name }, hb)
  else
    let (bar1Base, _) ← decodeBar64Checked bar2Raw bar3Raw
    let (bar1Size, hb) ← probeBarSizeChecked bus device 0 PCI_BAR2 hb
    let hb ← enableDeviceChecked bus device hb
    pure ({ bus, device, function := 0, deviceId := devId, revision, family, bar0Base, bar0Size,
            bar1Base, bar1Size, bar2Base := 0, bar2Size := 0, name }, hb)

/-- The loop over buses and devices, checked. -/
def scanFromChecked :
    List (UInt8 × UInt8) → HostBridge → Option (Option GpuPciDevice × HostBridge)
  | [], hb => some (none, hb)
  | (bus, device) :: rest, hb => do
    let (vendorDevice, hb) ← pciConfigRead32Checked bus device 0 PCI_VENDOR_ID hb
    let vendorId := (vendorDevice &&& 0xFFFF).toUInt16
    let upper ← checkedShiftRight vendorDevice 16
    let devId := (upper &&& 0xFFFF).toUInt16
    if vendorId ≠ NVIDIA_VENDOR_ID then scanFromChecked rest hb
    else
      let (classRev, hb) ← pciConfigRead32Checked bus device 0 PCI_CLASS_CODE hb
      let classBits ← checkedShiftRight classRev 24
      let classCode := (classBits &&& 0xFF).toUInt8
      -- the subclass is logged
      let _ ← checkedShiftRight classRev 16
      let revision := (classRev &&& 0xFF).toUInt8
      if classCode ≠ 0x03 ∧ classCode ≠ 0x12 then scanFromChecked rest hb
      else
        let (gpu, hb) ← setUpGpuChecked bus device devId revision hb
        pure (some gpu, hb)

/-- Scan the PCI bus for an NVIDIA GPU in a build that stops when the arithmetic overflows: `none`
says that it has stopped. -/
def scanForNvidiaGpuChecked (hb : HostBridge) : Option (Option GpuPciDevice × HostBridge) :=
  scanFromChecked scanOrder hb

/-! ### No overflow in an access -/

theorem configAddressChecked_eq (bus device function offset : UInt8) :
    configAddressChecked bus device function offset =
      some (configAddress bus device function offset) := by
  unfold configAddressChecked
  rw [checkedShiftLeft_of_lt (by decide), checkedShiftLeft_of_lt (by decide),
    checkedShiftLeft_of_lt (by decide)]
  rfl

theorem pciConfigRead32Checked_eq (bus device function offset : UInt8) (hb : HostBridge) :
    pciConfigRead32Checked bus device function offset hb =
      some (pciConfigRead32 bus device function offset hb) := by
  rw [pciConfigRead32Checked, configAddressChecked_eq]
  rfl

theorem pciConfigWrite32Checked_eq (bus device function offset : UInt8) (value : UInt32)
    (hb : HostBridge) :
    pciConfigWrite32Checked bus device function offset value hb =
      some (pciConfigWrite32 bus device function offset value hb) := by
  rw [pciConfigWrite32Checked, configAddressChecked_eq]
  rfl

/-- The amount of the shift of a 16-bit access is computed without an overflow, and it is less than
the bits of a word. -/
theorem checkedMul_half (offset : UInt8) :
    checkedMul (offset &&& 2) 8 = some ((offset &&& 2) * 8) ∧
      MachineWord.toNat ((offset &&& 2) * 8).toUInt32 < MachineWord.bits UInt32 := by
  have hle : (offset &&& 2).toNat ≤ 2 := by
    rw [UInt8.toNat_and]
    exact Nat.and_le_right
  have hmul : (offset &&& 2).toNat * (8 : UInt8).toNat ≤ 16 := Nat.mul_le_mul_right 8 hle
  have hfits : (offset &&& 2).toNat * (8 : UInt8).toNat < 2 ^ 8 := by omega
  refine ⟨checkedMul_of_lt hfits, ?_⟩
  rw [machineWord_toNat_uint32, machineWord_bits_uint32, UInt8.toNat_toUInt32, UInt8.toNat_mul]
  omega

theorem pciConfigRead16Checked_eq (bus device function offset : UInt8) (hb : HostBridge) :
    pciConfigRead16Checked bus device function offset hb =
      some (pciConfigRead16 bus device function offset hb) := by
  obtain ⟨hmul, hshift⟩ := checkedMul_half offset
  simp only [pciConfigRead16Checked, pciConfigRead32Checked_eq, hmul, Option.bind_eq_bind,
    Option.bind_some, checkedShiftRight_of_lt hshift]
  rfl

theorem pciConfigWrite16Checked_eq (bus device function offset : UInt8) (value : UInt16)
    (hb : HostBridge) :
    pciConfigWrite16Checked bus device function offset value hb =
      some (pciConfigWrite16 bus device function offset value hb) := by
  obtain ⟨hmul, hshift⟩ := checkedMul_half offset
  simp only [pciConfigWrite16Checked, pciConfigRead32Checked_eq, pciConfigWrite32Checked_eq, hmul,
    Option.bind_eq_bind, Option.bind_some, checkedShiftLeft_of_lt hshift]
  rfl

theorem decodeBar64Checked_eq (barLo barHi : UInt32) :
    decodeBar64Checked barLo barHi = some (decodeBar64 barLo barHi) := by
  simp only [decodeBar64Checked, decodeBar64]
  rw [checkedShiftLeft_of_lt (by decide)]
  split_ifs <;> rfl

/-- **No overflow when a BAR is sized**, whatever its registers hold. -/
theorem probeBarSizeChecked_eq (bus device function barOffset : UInt8) (hb : HostBridge) :
    probeBarSizeChecked bus device function barOffset hb =
      some (probeBarSize bus device function barOffset hb) := by
  simp only [probeBarSizeChecked, probeBarSize, pciConfigRead32Checked_eq,
    pciConfigWrite32Checked_eq, Option.bind_eq_bind, Option.bind_some]
  split_ifs <;> rfl

/-! ### No overflow in the scan -/

theorem enableDeviceChecked_eq (bus device : UInt8) (hb : HostBridge) :
    enableDeviceChecked bus device hb = some (enableDevice bus device hb) := by
  simp only [enableDeviceChecked, enableDevice, pciConfigRead16Checked_eq,
    pciConfigWrite16Checked_eq, Option.bind_eq_bind, Option.bind_some]
  split_ifs <;> rfl

theorem setUpGpuChecked_eq (bus device : UInt8) (devId : UInt16) (revision : UInt8)
    (hb : HostBridge) :
    setUpGpuChecked bus device devId revision hb =
      some (setUpGpu bus device devId revision hb) := by
  have hmib : checkedMul (1024 : UInt64) 1024 = some (1024 * 1024) := checkedMul_of_lt (by decide)
  simp only [setUpGpuChecked, setUpGpu, pciConfigRead32Checked_eq, decodeBar64Checked_eq,
    probeBarSizeChecked_eq, enableDeviceChecked_eq, hmib, Option.bind_eq_bind, Option.bind_some]
  split_ifs <;> rfl

theorem scanFromChecked_eq (l : List (UInt8 × UInt8)) (hb : HostBridge) :
    scanFromChecked l hb = some (scanFrom l hb) := by
  induction l generalizing hb with
  | nil => rfl
  | cons x l ih =>
    obtain ⟨bus, device⟩ := x
    have hshift : ∀ (v : UInt32), checkedShiftRight v 16 = some (v >>> 16) ∧
        checkedShiftRight v 24 = some (v >>> 24) := fun v =>
      ⟨checkedShiftRight_of_lt (by decide) v, checkedShiftRight_of_lt (by decide) v⟩
    simp only [scanFromChecked, scanFrom, pciConfigRead32Checked_eq, setUpGpuChecked_eq, ih, hshift,
      Option.bind_eq_bind, Option.bind_some]
    split_ifs <;> rfl

/-- **No overflow in the scan**, whatever the configuration space holds. -/
theorem scanForNvidiaGpuChecked_eq (hb : HostBridge) :
    scanForNvidiaGpuChecked hb = some (scanForNvidiaGpu hb) :=
  scanFromChecked_eq scanOrder hb

end GpuCompute
