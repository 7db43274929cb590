import GpuCompute.Lib.Bytes
import GpuCompute.Mmio.Basic

/-!
# Falcon microcontrollers

A Falcon is a processor inside the GPU with its own instruction and data memory.  The driver
halts it, writes its memories word by word through two ports, starts it and polls a register in
which the firmware announces that it is ready.

The registers `FALCON_*` are relative to the base of the engine.  `Falcon.initWithFirmware` is the
whole sequence, and `Falcon.prepare` its part before the start.
-/

namespace GpuCompute

open Systems

/-! ### Registers -/

/-- Interrupt status. -/
def FALCON_IRQSRD : UInt32 := 0x020

/-- Interrupt clear: a write of `1` acknowledges. -/
def FALCON_IRQSCLR : UInt32 := 0x028

/-- The firmware writes a magic value here when it is ready. -/
def FALCON_OS : UInt32 := 0x080

/-- Instruction memory: configuration and data port. -/
def FALCON_IMEMC : UInt32 := 0x180
def FALCON_IMEMD : UInt32 := 0x184

/-- Data memory: configuration and data port. -/
def FALCON_DMEMC : UInt32 := 0x1C0
def FALCON_DMEMD : UInt32 := 0x1C4

/-- CPU control, with the bits that start and halt execution. -/
def FALCON_CPUCTL : UInt32 := 0x100
def FALCON_CPUCTL_START : UInt32 := (1 : UInt32) <<< 1
def FALCON_CPUCTL_HALT : UInt32 := (1 : UInt32) <<< 2

/-- Entry point. -/
def FALCON_BOOTVEC : UInt32 := 0x104

/-! ### Engines -/

/-- The Falcon engines of the driver. -/
inductive FalconEngine where
  | pmu
  | sec2
  | gsp
  deriving DecidableEq

/-- Offset of the registers of an engine from BAR0. -/
def FalconEngine.baseOffset : FalconEngine → UInt32
  | .pmu => 0x10a000
  | .sec2 => 0x840000
  | .gsp => 0x110000

/-- The accessor of a Falcon. -/
structure Falcon where
  /-- The engine. -/
  engine : FalconEngine
  /-- Offset of its registers from BAR0. -/
  base : UInt32
  deriving DecidableEq

namespace Falcon

/-- The accessor of an engine. -/
def new (engine : FalconEngine) : Falcon := ⟨engine, engine.baseOffset⟩

variable {δ : Type*} (f : Falcon) (regs : GpuRegs δ)

/-- Read a Falcon register. -/
def read (offset : UInt32) (dev : δ) : UInt32 × δ := regs.read32 dev (f.base + offset)

/-- Write a Falcon register. -/
def write (offset value : UInt32) (dev : δ) : δ := regs.write32 dev (f.base + offset) value

/-! ### The steps of an initialization -/

/-- Whether the processor is halted. -/
def isHalted (dev : δ) : Bool × δ :=
  let (cpuctl, dev) := f.read regs FALCON_CPUCTL dev
  ((cpuctl &&& FALCON_CPUCTL_HALT) != 0, dev)

/-- Halt the processor and read the control register back. -/
def halt (dev : δ) : δ :=
  let dev := f.write regs FALCON_CPUCTL FALCON_CPUCTL_HALT dev
  (f.read regs FALCON_CPUCTL dev).2

/-- Write an image to a memory of the Falcon, given the configuration register and the data port
of the memory.  An image that is not made of whole words is refused. -/
def upload (ctrl port : UInt32) (data : List UInt8) (memOffset : UInt32) (dev : δ) : δ :=
  if data.length % 4 ≠ 0 then dev
  else
    -- bit 25: auto-increment, bits 15..2: offset
    let dev := f.write regs ctrl (((1 : UInt32) <<< 25) ||| (memOffset &&& 0xFFFC)) dev
    (List.range (data.length / 4)).foldl (fun dev i => f.write regs port (leWord data i) dev) dev

/-- Write firmware to the instruction memory. -/
def uploadImem (firmware : List UInt8) (imemOffset : UInt32) (dev : δ) : δ :=
  f.upload regs FALCON_IMEMC FALCON_IMEMD firmware imemOffset dev

/-- Write data to the data memory. -/
def uploadDmem (data : List UInt8) (dmemOffset : UInt32) (dev : δ) : δ :=
  f.upload regs FALCON_DMEMC FALCON_DMEMD data dmemOffset dev

/-- Set the boot vector and start the processor. -/
def boot (entryPoint : UInt32) (dev : δ) : δ :=
  let dev := f.write regs FALCON_BOOTVEC entryPoint dev
  f.write regs FALCON_CPUCTL FALCON_CPUCTL_START dev

/-- Poll until the firmware has written a value: the value, or nothing after `timeoutIters`
polls. -/
def waitReady : ℕ → δ → Option UInt32 × δ
  | 0, dev => (none, dev)
  | timeoutIters + 1, dev =>
    let (osVal, dev) := f.read regs FALCON_OS dev
    if osVal ≠ 0 then (some osVal, dev) else waitReady timeoutIters dev

/-- Acknowledge the pending interrupts. -/
def clearInterrupts (dev : δ) : δ :=
  let (pending, dev) := f.read regs FALCON_IRQSRD dev
  if pending ≠ 0 then f.write regs FALCON_IRQSCLR pending dev else dev

/-- Halt, upload both images, start, and wait for the firmware: whether it got ready. -/
def initWithFirmware (imemFirmware dmemData : List UInt8) (dev : δ) : Bool × δ :=
  let dev := f.halt regs dev
  let dev := f.clearInterrupts regs dev
  let dev := f.uploadImem regs imemFirmware 0 dev
  let dev := if !dmemData.isEmpty then f.uploadDmem regs dmemData 0 dev else dev
  let dev := f.boot regs 0 dev
  match f.waitReady regs 1000000 dev with
  | (some _, dev) => (true, dev)
  | (none, dev) => (false, dev)

/-- The steps of `initWithFirmware` before the start. -/
def prepare (imemFirmware dmemData : List UInt8) (dev : δ) : δ :=
  let dev := f.clearInterrupts regs (f.halt regs dev)
  let dev := f.uploadImem regs imemFirmware 0 dev
  if !dmemData.isEmpty then f.uploadDmem regs dmemData 0 dev else dev

theorem addr_ne {a b : UInt32} (h : a ≠ b) : f.base + a ≠ f.base + b :=
  (add_right_injective f.base).ne h

theorem upload_of_dvd {data : List UInt8} (h : 4 ∣ data.length) (ctrl port memOffset : UInt32)
    (dev : δ) :
    f.upload regs ctrl port data memOffset dev =
      (leWords data).foldl (fun dev word => f.write regs port word dev)
        (f.write regs ctrl (((1 : UInt32) <<< 25) ||| (memOffset &&& 0xFFFC)) dev) := by
  have hmod : ¬ data.length % 4 ≠ 0 := by omega
  rw [upload, if_neg hmod, leWords, List.foldl_map]

theorem upload_of_not_dvd {data : List UInt8} (h : ¬ 4 ∣ data.length)
    (ctrl port memOffset : UInt32) (dev : δ) :
    f.upload regs ctrl port data memOffset dev = dev := by
  have hmod : data.length % 4 ≠ 0 := by omega
  rw [upload, if_pos hmod]

theorem initWithFirmware_eq (imemFirmware dmemData : List UInt8) (dev : δ) :
    f.initWithFirmware regs imemFirmware dmemData dev =
      let polled := f.waitReady regs 1000000
        (f.boot regs 0 (f.prepare regs imemFirmware dmemData dev))
      (polled.1.isSome, polled.2) := by
  change (match f.waitReady regs 1000000
    (f.boot regs 0 (f.prepare regs imemFirmware dmemData dev)) with
    | (some _, dev) => (true, dev)
    | (none, dev) => (false, dev)) = _
  rcases f.waitReady regs 1000000
    (f.boot regs 0 (f.prepare regs imemFirmware dmemData dev)) with ⟨_ | _, _⟩ <;> rfl

end Falcon

end GpuCompute
