import GpuCompute.Fifo.Channel
import GpuCompute.Fifo.Method
import GpuCompute.Pci.Family

/-!
# The compute engine

`ComputeEngine.dispatch` builds the command stream of a launch, submits it to a channel and, when
asked to wait, spins on a fence that it has allocated before.  What the fence reads from the GPU is
an oracle here: `isSignaled f i` is the answer of the `i`-th poll of the fence `f`.

The methods of the compute class are `NVC6C0_*`.  `ComputeEngine.bindToChannel` binds the class to a
channel, `ComputeEngine.loadShader` takes the block of a shader, and
`ComputeEngine.buildDispatchCommands` is the command stream of a launch.
-/

namespace GpuCompute

/-! ### Compute classes -/

def KEPLER_COMPUTE_A : UInt32 := 0xA0C0
def MAXWELL_COMPUTE_A : UInt32 := 0xB0C0
def PASCAL_COMPUTE_A : UInt32 := 0xC0C0
def VOLTA_COMPUTE_A : UInt32 := 0xC3C0
def TURING_COMPUTE_A : UInt32 := 0xC5C0
def AMPERE_COMPUTE_A : UInt32 := 0xC6C0
def ADA_COMPUTE_A : UInt32 := 0xC9C0

/-- The compute class of a GPU family. -/
def computeClassForFamily : GpuFamily → UInt32
  | .kepler => KEPLER_COMPUTE_A
  | .maxwell => MAXWELL_COMPUTE_A
  | .pascal => PASCAL_COMPUTE_A
  | .volta => VOLTA_COMPUTE_A
  | .turing => TURING_COMPUTE_A
  | .ampere => AMPERE_COMPUTE_A
  | .ada => ADA_COMPUTE_A
  | .unknown => AMPERE_COMPUTE_A

/-! ### Methods -/

/-- Bind the constant buffer of the selected slot. -/
def NVC6C0_SET_CONSTANT_BUFFER_BIND : UInt32 := 0x0AB0

/-- The constant buffer slot to configure. -/
def NVC6C0_CB_SELECTOR : UInt32 := 0x2380

/-- Program region address, high word. -/
def NVC6C0_SET_PROGRAM_REGION_A : UInt32 := 0x1608

/-- Program region address, low word. -/
def NVC6C0_SET_PROGRAM_REGION_B : UInt32 := 0x160C

/-- Offset of the shader program in the program region. -/
def NVC6C0_SET_SHADER_PROGRAM : UInt32 := 0x2000

/-- Grid dimensions. -/
def NVC6C0_LAUNCH_DIM_X : UInt32 := 0x2074
def NVC6C0_LAUNCH_DIM_Y : UInt32 := 0x2078
def NVC6C0_LAUNCH_DIM_Z : UInt32 := 0x207C

/-- Block dimensions. -/
def NVC6C0_SET_BLOCK_DIM_X : UInt32 := 0x2040
def NVC6C0_SET_BLOCK_DIM_Y : UInt32 := 0x2044
def NVC6C0_SET_BLOCK_DIM_Z : UInt32 := 0x2048

/-- Shared memory of a block. -/
def NVC6C0_SET_SHARED_MEMORY_SIZE : UInt32 := 0x204C

/-- Launch the kernel: any value triggers it. -/
def NVC6C0_LAUNCH : UInt32 := 0x2080

/-- Semaphore: address, high and low word, payload and operation. -/
def NVC6C0_SET_REPORT_SEMAPHORE_A : UInt32 := 0x1B00
def NVC6C0_SET_REPORT_SEMAPHORE_B : UInt32 := 0x1B04
def NVC6C0_SET_REPORT_SEMAPHORE_C : UInt32 := 0x1B08
def NVC6C0_SET_REPORT_SEMAPHORE_D : UInt32 := 0x1B0C

/-! ### The data of a launch -/

/-- A compiled shader in VRAM. -/
structure ShaderProgram where
  /-- The block that holds the binary. -/
  allocation : GpuAllocation
  /-- Size of the binary in bytes. -/
  size : UInt64
  /-- Entry point within the binary. -/
  entryOffset : UInt32
  /-- Shared memory the shader needs, in bytes. -/
  sharedMemSize : UInt32
  /-- Registers per thread. -/
  numRegisters : UInt32
  /-- Constant buffer slots used. -/
  numConstBuffers : UInt32
  deriving DecidableEq

/-- Number of thread blocks. -/
structure GridDim where
  x : UInt32
  y : UInt32
  z : UInt32
  deriving DecidableEq

/-- Number of threads per block. -/
structure BlockDim where
  x : UInt32
  y : UInt32
  z : UInt32
  deriving DecidableEq

/-- A constant buffer bound to a slot. -/
structure ConstantBufferBinding where
  /-- Slot index. -/
  slot : UInt32
  /-- GPU virtual address of the data. -/
  gpuVa : UInt64
  /-- Size in bytes. -/
  size : UInt32
  deriving DecidableEq

/-! ### Fences -/

/-- A fence: a semaphore in VRAM and the value that signals it. -/
structure GpuFence where
  /-- The block of the semaphore. -/
  allocation : GpuAllocation
  /-- The value written when the GPU is done. -/
  signalValue : UInt32
  deriving DecidableEq

namespace GpuFence

/-- Allocate a fence. -/
def new (allocator : VramAllocator) (signalValue : UInt32) : Option GpuFence × VramAllocator :=
  match allocator.allocate 64 with
  | (none, allocator) => (none, allocator)
  | (some allocation, allocator) => (some { allocation, signalValue }, allocator)

/-- Spin until a poll succeeds, from poll `i` on and for `iters` more polls: the result and the
number of polls made. -/
def spin (isSignaled : ℕ → Bool) (i : ℕ) : ℕ → Bool × ℕ
  | 0 => (false, i)
  | iters + 1 => if isSignaled i then (true, i + 1) else spin isSignaled (i + 1) iters

/-- Wait for the fence. -/
def wait (isSignaled : ℕ → Bool) (timeoutIters : ℕ) : Bool × ℕ := spin isSignaled 0 timeoutIters

end GpuFence

/-! ### The engine -/

/-- The compute engine. -/
structure ComputeEngine where
  /-- Compute class of the GPU. -/
  classId : UInt32
  /-- GPU family. -/
  family : GpuFamily
  /-- FIFO subchannel of the compute class. -/
  subchannel : UInt32
  /-- The value of the next fence. -/
  nextFenceValue : UInt32
  deriving DecidableEq

/-- What a call of `bindToChannel` did. -/
structure Bound where
  /-- The words it submitted. -/
  cmds : List UInt32
  /-- What `submit` returned, which is ignored. -/
  submission : Option Submission
  deriving DecidableEq

/-- What a call of `dispatch` did. -/
structure Dispatched where
  /-- What it returned. -/
  result : Bool
  /-- The fence it allocated. -/
  fence : Option GpuFence
  /-- The words it submitted. -/
  cmds : List UInt32
  /-- What `submit` returned. -/
  submission : Option Submission
  /-- How often it polled the fence. -/
  polls : ℕ
  deriving DecidableEq

namespace ComputeEngine

/-- The engine of a GPU family. -/
def new (family : GpuFamily) : ComputeEngine where
  classId := computeClassForFamily family
  family := family
  subchannel := 0
  nextFenceValue := 1

/-- Bind the compute class to the subchannel: method `0` of a subchannel is `SET_OBJECT`. -/
def bindToChannel {δ : Type*} (engine : ComputeEngine) (channel : Channel) (regs : GpuRegs δ)
    (dev : δ) : Bound × Channel × δ :=
  let cmds := [gpuMethod1 engine.subchannel 0x0000, engine.classId]
  let (submission, channel, dev) := channel.submit regs cmds dev
  ({ cmds, submission }, channel, dev)

/-- Load a compiled shader.  The binary is not copied to its block yet, which is only mapped. -/
def loadShader (_engine : ComputeEngine) (allocator : VramAllocator) (binary : List UInt8)
    (entryOffset sharedMemSize numRegisters : UInt32) : Option ShaderProgram × VramAllocator :=
  let size := UInt64.ofNat binary.length
  match allocator.allocate size with
  | (none, allocator) => (none, allocator)
  | (some allocation, allocator) =>
    -- whether the block can be mapped does not matter
    let (_, allocation) := allocator.mapToCpu allocation
    (some { allocation, size, entryOffset, sharedMemSize, numRegisters, numConstBuffers := 0 },
      allocator)

/-- The command stream of a launch. -/
def buildDispatchCommands (engine : ComputeEngine) (shader : ShaderProgram) (grid : GridDim)
    (block : BlockDim) (constBuffers : List ConstantBufferBinding) (fence : Option GpuFence) :
    List UInt32 :=
  let sc := engine.subchannel
  -- program region, shader program, shared memory
  [gpuMethod1 sc NVC6C0_SET_PROGRAM_REGION_A, (shader.allocation.gpuVa >>> 32).toUInt32,
    gpuMethod1 sc NVC6C0_SET_PROGRAM_REGION_B, shader.allocation.gpuVa.toUInt32,
    gpuMethod1 sc NVC6C0_SET_SHADER_PROGRAM, shader.entryOffset,
    gpuMethod1 sc NVC6C0_SET_SHARED_MEMORY_SIZE, shader.sharedMemSize] ++
  -- constant buffers
  (constBuffers.flatMap fun cb =>
    [gpuMethod1 sc NVC6C0_CB_SELECTOR, cb.slot,
      gpuMethod1 sc NVC6C0_SET_CONSTANT_BUFFER_BIND,
      (1 : UInt32) ||| ((cb.size &&& (0x1FFFF : UInt32)) <<< (4 : UInt32))]) ++
  -- block and grid dimensions, launch
  [gpuMethod1 sc NVC6C0_SET_BLOCK_DIM_X, block.x,
    gpuMethod1 sc NVC6C0_SET_BLOCK_DIM_Y, block.y,
    gpuMethod1 sc NVC6C0_SET_BLOCK_DIM_Z, block.z,
    gpuMethod1 sc NVC6C0_LAUNCH_DIM_X, grid.x,
    gpuMethod1 sc NVC6C0_LAUNCH_DIM_Y, grid.y,
    gpuMethod1 sc NVC6C0_LAUNCH_DIM_Z, grid.z,
    gpuMethod1 sc NVC6C0_LAUNCH, 0] ++
  -- semaphore release after the kernel
  match fence with
  | none => []
  | some fence =>
    [gpuMethod1 sc NVC6C0_SET_REPORT_SEMAPHORE_A, (fence.allocation.gpuVa >>> 32).toUInt32,
      gpuMethod1 sc NVC6C0_SET_REPORT_SEMAPHORE_B, fence.allocation.gpuVa.toUInt32,
      gpuMethod1 sc NVC6C0_SET_REPORT_SEMAPHORE_C, fence.signalValue,
      gpuMethod1 sc NVC6C0_SET_REPORT_SEMAPHORE_D, 0x10004]

/-- The fence of a dispatch, when it waits: the fence value is used up even if VRAM is not. -/
def dispatchFence (engine : ComputeEngine) (allocator : VramAllocator) (wait : Bool) :
    Option GpuFence × ComputeEngine × VramAllocator :=
  if wait then
    let (fence, allocator) := GpuFence.new allocator engine.nextFenceValue
    (fence, { engine with nextFenceValue := engine.nextFenceValue + 1 }, allocator)
  else (none, engine, allocator)

/-- Dispatch a kernel and optionally wait for its completion: what was done, and the engine, the
channel, the allocator and the device afterwards. -/
def dispatch {δ : Type*} (regs : GpuRegs δ) (isSignaled : GpuFence → ℕ → Bool)
    (engine : ComputeEngine) (channel : Channel) (shader : ShaderProgram) (grid : GridDim)
    (block : BlockDim) (constBuffers : List ConstantBufferBinding) (allocator : VramAllocator)
    (wait : Bool) (dev : δ) : Dispatched × ComputeEngine × Channel × VramAllocator × δ :=
  let (fence, engine, allocator) := engine.dispatchFence allocator wait
  let cmds := engine.buildDispatchCommands shader grid block constBuffers fence
  match channel.submit regs cmds dev with
  | (none, channel, dev) =>
    ({ result := false, fence, cmds, submission := none, polls := 0 },
      engine, channel, allocator, dev)
  | (some submission, channel, dev) =>
    match wait, fence with
    | true, some f =>
      let (result, polls) := GpuFence.wait (isSignaled f) 10000000
      ({ result, fence, cmds, submission := some submission, polls },
        engine, channel, allocator, dev)
    -- nothing to wait for
    | _, _ =>
      ({ result := true, fence, cmds, submission := some submission, polls := 0 },
        engine, channel, allocator, dev)

end ComputeEngine

end GpuCompute
