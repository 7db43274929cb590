import Mathlib.Data.UInt
import Mathlib.Logic.Function.Basic

/-!
# Register access

`GpuRegs` is the accessor of the registers behind BAR0.  The device itself is a parameter: `δ`
is its state, a read returns a value and may change the state, and so may a write.  Every
function that takes `regs` in the driver takes the accessor and threads the device state here,
so a theorem about it holds whatever the hardware does.

`GpuRegs.plain` is the device whose registers are plain memory.  The registers of the memory
controller, of the master control and of the graphics engine are `NV_PFB_*`, `NV_PMC_*` and
`NV_PGRAPH_*`.
-/

namespace GpuCompute

/-- Register accessor for a device with states `δ`. -/
structure GpuRegs (δ : Type*) where
  /-- Read the 32-bit register at an offset from BAR0. -/
  read32 : δ → UInt32 → UInt32 × δ
  /-- Write the 32-bit register at an offset from BAR0. -/
  write32 : δ → UInt32 → UInt32 → δ

/-- Registers that hold what was last written to them. -/
def GpuRegs.plain : GpuRegs (UInt32 → UInt32) where
  read32 regs offset := (regs offset, regs)
  write32 regs offset value := Function.update regs offset value

/-! ### Memory controller -/

/-- Base of the memory controller block. -/
def NV_PFB : UInt32 := 0x100000

/-- Memory configuration: VRAM type. -/
def NV_PFB_CFG0 : UInt32 := NV_PFB + 0x200

/-- VRAM size. -/
def NV_PFB_VRAM_SIZE : UInt32 := NV_PFB + 0x20C

/-- Number of memory partitions. -/
def NV_PFB_NPARTS : UInt32 := NV_PFB + 0x22C

/-! ### Master control and graphics engine -/

/-- Boot identification: the chip ID in bits `[31:20]`. -/
def NV_PMC_BOOT_0 : UInt32 := 0x000000

/-- Master interrupt enable. -/
def NV_PMC_INTR_EN_0 : UInt32 := 0x000140

/-- Master engine enable: a bit for each engine. -/
def NV_PMC_ENABLE : UInt32 := 0x000200

/-- The interrupts of the engines. -/
def NV_PMC_INTR_PFIFO : UInt32 := (1 : UInt32) <<< 8
def NV_PMC_INTR_PGRAPH : UInt32 := (1 : UInt32) <<< 12
def NV_PMC_INTR_PTIMER : UInt32 := (1 : UInt32) <<< 20

/-- Base of the graphics engine block. -/
def NV_PGRAPH : UInt32 := 0x400000

/-- Number of GPCs, and of TPCs in a GPC. -/
def NV_PGRAPH_GPC_COUNT : UInt32 := NV_PGRAPH + 0x2608
def NV_PGRAPH_TPC_PER_GPC : UInt32 := NV_PGRAPH + 0x2614

namespace GpuRegs

variable {δ : Type*} (regs : GpuRegs δ)

/-- The chip ID. -/
def readChipId (dev : δ) : UInt32 × δ :=
  let (boot0, dev) := regs.read32 dev NV_PMC_BOOT_0
  ((boot0 >>> 20) &&& 0xFFF, dev)

/-- Disable all engines and enable those again that were. -/
def masterReset (dev : δ) : δ :=
  let (enable, dev) := regs.read32 dev NV_PMC_ENABLE
  let dev := regs.write32 dev NV_PMC_ENABLE 0
  let (_, dev) := regs.read32 dev NV_PMC_ENABLE
  let dev := regs.write32 dev NV_PMC_ENABLE enable
  (regs.read32 dev NV_PMC_ENABLE).2

/-- Disable all interrupts. -/
def disableInterrupts (dev : δ) : δ := regs.write32 dev NV_PMC_INTR_EN_0 0

/-- Enable the interrupts of three engines. -/
def enableInterrupts (dev : δ) : δ :=
  regs.write32 dev NV_PMC_INTR_EN_0
    (NV_PMC_INTR_PFIFO ||| NV_PMC_INTR_PGRAPH ||| NV_PMC_INTR_PTIMER)

/-- Number of GPCs. -/
def gpcCount (dev : δ) : UInt32 × δ := regs.read32 dev NV_PGRAPH_GPC_COUNT

/-- Number of TPCs in a GPC. -/
def tpcPerGpc (dev : δ) : UInt32 × δ := regs.read32 dev NV_PGRAPH_TPC_PER_GPC

end GpuRegs

end GpuCompute
