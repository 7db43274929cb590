import GpuCompute.Compute.Dispatch
import GpuCompute.Compute.Fences
import GpuCompute.Driver.Interrupt
import GpuCompute.Driver.Memory
import GpuCompute.Falcon.Engines
import GpuCompute.Fifo.Run
import GpuCompute.Fifo.Summary
import GpuCompute.Lib.Simulation
import GpuCompute.Tensor.Run

/-!
# The driver as a whole

All parts of the driver take their memory from one allocator: channels, shaders, fences, tensors,
runlists and the kernel itself.  A run may use them in any order.  To the allocator it is a run of
allocations and mappings, so that nothing that has been handed out for one purpose overlaps what has
been handed out for another one, and the GPU fetches commands from push buffers only.

* `Driver`, `DriverOp`, `Driver.perform` : the objects of the driver and all that is done with them.
* `driver` : the driver on a device as a machine.
* `Performs` : what operations of the allocator do and hand out.
* `Driver.vramOps` : the operations of the allocator that an operation of the driver performs.
* `MemorySafe` : what a run guarantees about memory.
* `Driver.performs` : what an operation does to the allocator and hands out.
* `memorySafe_run` : every run of a device that has been set up is `MemorySafe`.
-/

namespace GpuCompute

open Systems VramAllocator

/-! ### The objects of the driver -/

/-- The objects of the driver.  The operations name them by their position. -/
structure Driver where
  /-- The allocator. -/
  vram : VramAllocator
  /-- The compute engine. -/
  compute : ComputeEngine
  /-- The tensor engine. -/
  engine : TensorEngine
  /-- The channels. -/
  channels : List Channel
  /-- The shaders that have been loaded. -/
  shaders : List ShaderProgram
  /-- The tensors alive. -/
  tensors : List TensorDescriptor
  /-- The runlists. -/
  runlists : List Runlist
  deriving DecidableEq

/-- The driver of a device that has been set up. -/
def GpuDevice.driver {δ : Type*} (gpu : GpuDevice δ) : Driver where
  vram := gpu.vram
  compute := gpu.compute
  engine := gpu.tensors
  channels := gpu.computeChannel.toList
  shaders := []
  tensors := []
  runlists := []

/-- All that is done with the driver.  A dispatch comes with what the GPU answers to it. -/
inductive DriverOp where
  | allocate (size : UInt64)
  | free (alloc : GpuAllocation)
  | mapToCpu (alloc : GpuAllocation)
  | mapSystemMemory (systemPhysAddr size : UInt64)
  | allocateChannel (channelId engineId : UInt32)
  | submit (i : ℕ) (commands : List UInt32)
  | resetPushBuffer (i : ℕ)
  | bindToChannel (i : ℕ)
  | loadShader (binary : List UInt8) (entryOffset sharedMemSize numRegisters : UInt32)
  | dispatch (isSignaled : GpuFence → ℕ → Bool) (i j : ℕ) (grid : GridDim) (block : BlockDim)
      (constBuffers : List ConstantBufferBinding) (wait : Bool)
  | allocateTensor (name : String) (shape : List UInt64) (dtype : DType)
  | upload (k : ℕ) (data : List UInt8)
  | download (k : ℕ) (buffer : List UInt8)
  | freeTensor (k : ℕ)
  | newRunlist (id : UInt32)
  | addChannel (r : ℕ) (channelId : UInt32)
  | removeChannel (r : ℕ) (channelId : UInt32)
  | commit (r : ℕ)
  | handleInterrupt
  | status (fuel : ℕ)
  | masterReset
  | falcon (e : FalconEngine) (op : FalconOp)

/-- A slice of commands that a channel has accepted. -/
structure Accepted where
  /-- The channel before it. -/
  channel : Channel
  /-- The slice. -/
  commands : List UInt32
  /-- What has been computed for it. -/
  submission : Submission
  deriving DecidableEq

/-- The addresses that the GPU fetches the commands from. -/
def Accepted.segment (a : Accepted) : Block ℕ := GpuCompute.segment (a.commands, a.submission)

/-- What an operation does that can be seen outside. -/
structure DriverOut where
  /-- What it hands out, newest first. -/
  handed : List Handed
  /-- The slice that it submits. -/
  accepted : Option Accepted
  deriving DecidableEq

/-- Nothing. -/
def DriverOut.quiet : DriverOut := ⟨[], none⟩

/-- The blocks of a channel. -/
def Channel.handed (ch : Channel) : List Handed :=
  [ch.pushBuffer.handed DEFAULT_PUSH_BUFFER_SIZE,
    ch.gpfifo.handed (DEFAULT_GPFIFO_ENTRIES.toUInt64 * 8)]

/-- The operations of the allocator that allocate a channel. -/
def Channel.vramOps (a : VramAllocator) : List VramOp :=
  let ring := DEFAULT_GPFIFO_ENTRIES.toUInt64 * 8
  .allocate ring ::
    if (a.allocate ring).1.isSome then [.allocate DEFAULT_PUSH_BUFFER_SIZE] else []

namespace Driver

/-- Perform an operation. -/
def perform (d : Driver) : DriverOp → DriverFn (DriverOut × Driver)
  | .allocate size => fun _ _ dev =>
    let (g, vram) := d.vram.allocate size
    ((⟨g.toList.map (·.handed size), none⟩, { d with vram }), dev)
  | .free alloc => fun _ _ dev => ((.quiet, { d with vram := d.vram.free alloc }), dev)
  -- a mapping changes the allocation of the caller only
  | .mapToCpu _ => fun _ _ dev => ((.quiet, d), dev)
  | .mapSystemMemory systemPhysAddr size => fun _ _ dev =>
    let (va, vram) := d.vram.mapSystemMemory systemPhysAddr size
    ((⟨va.toList.map (.mapping · size), none⟩, { d with vram }), dev)
  | .allocateChannel channelId engineId => fun _ _ dev =>
    let (ch, vram) := Channel.allocate d.vram channelId engineId
    ((⟨ch.toList.flatMap Channel.handed, none⟩,
      { d with vram, channels := d.channels ++ ch.toList }), dev)
  | .submit i commands => fun _ regs dev =>
    match d.channels[i]? with
    | none => ((.quiet, d), dev)
    | some ch =>
      let (submission, ch', dev) := ch.submit regs commands dev
      ((⟨[], submission.map (⟨ch, commands, ·⟩)⟩,
        { d with channels := d.channels.set i ch' }), dev)
  | .resetPushBuffer i => fun _ _ dev =>
    match d.channels[i]? with
    | none => ((.quiet, d), dev)
    | some ch => ((.quiet, { d with channels := d.channels.set i ch.resetPushBuffer }), dev)
  | .bindToChannel i => fun _ regs dev =>
    match d.channels[i]? with
    | none => ((.quiet, d), dev)
    | some ch =>
      let (bound, ch', dev) := d.compute.bindToChannel ch regs dev
      ((⟨[], bound.submission.map (⟨ch, bound.cmds, ·⟩)⟩,
        { d with channels := d.channels.set i ch' }), dev)
  | .loadShader binary entryOffset sharedMemSize numRegisters => fun _ _ dev =>
    let (shader, vram) :=
      d.compute.loadShader d.vram binary entryOffset sharedMemSize numRegisters
    ((⟨shader.toList.map fun s => s.allocation.handed s.size, none⟩,
      { d with vram, shaders := d.shaders ++ shader.toList }), dev)
  | .dispatch isSignaled i j grid block constBuffers wait => fun _ regs dev =>
    match d.channels[i]?, d.shaders[j]? with
    | some ch, some shader =>
      let (r, compute, ch', vram, dev) := d.compute.dispatch regs isSignaled ch shader grid block
        constBuffers d.vram wait dev
      ((⟨r.fence.toList.map fun f => f.allocation.handed 64,
          r.submission.map (⟨ch, r.cmds, ·⟩)⟩,
        { d with compute, vram, channels := d.channels.set i ch' }), dev)
    | _, _ => ((.quiet, d), dev)
  | .allocateTensor name shape dtype => fun _ _ dev =>
    let (t, engine, vram) := d.engine.allocateTensor d.vram name shape dtype
    ((⟨t.toList.map fun t => t.allocation.handed t.sizeBytes, none⟩,
      { d with vram, engine, tensors := d.tensors ++ t.toList }), dev)
  | .upload k data => fun _ _ dev =>
    match d.tensors[k]? with
    | none => ((.quiet, d), dev)
    | some t =>
      let (_, t) := d.engine.upload d.vram t data
      ((.quiet, { d with tensors := d.tensors.set k t }), dev)
  | .download k buffer => fun _ _ dev =>
    match d.tensors[k]? with
    | none => ((.quiet, d), dev)
    | some t =>
      let (_, t) := d.engine.download d.vram t buffer
      ((.quiet, { d with tensors := d.tensors.set k t }), dev)
  | .freeTensor k => fun _ _ dev =>
    match d.tensors[k]? with
    | none => ((.quiet, d), dev)
    | some t =>
      let (engine, vram) := d.engine.freeTensor d.vram t
      ((.quiet, { d with vram, engine, tensors := d.tensors.eraseIdx k }), dev)
  | .newRunlist id => fun _ _ dev =>
    ((.quiet, { d with runlists := d.runlists ++ [.new id] }), dev)
  | .addChannel r channelId => fun _ _ dev =>
    ((.quiet, { d with runlists := d.runlists.modify r (·.addChannel channelId) }), dev)
  | .removeChannel r channelId => fun _ _ dev =>
    ((.quiet, { d with runlists := d.runlists.modify r (·.removeChannel channelId) }), dev)
  | .commit r => fun _ _ dev =>
    match d.runlists[r]? with
    | none => ((.quiet, d), dev)
    | some rl =>
      let (rl', vram) := rl.commit d.vram
      -- the block that the commit gets, if it asks for one
      let block := if rl.allocSize > 0 then (d.vram.allocate rl.allocSize).1 else none
      ((⟨block.toList.map (·.handed rl.allocSize), none⟩,
        { d with vram, runlists := d.runlists.set r rl' }), dev)
  | .handleInterrupt => fun _ regs dev => ((.quiet, d), GpuCompute.handleInterrupt regs dev)
  | .status fuel => fun _ regs dev => ((.quiet, d), GpuCompute.status regs fuel dev)
  | .masterReset => fun _ regs dev => ((.quiet, d), regs.masterReset dev)
  | .falcon e op => fun _ regs dev => ((.quiet, d), ((Falcon.new e).perform op regs dev).2)

/-- The bytes of a tensor that are asked for. -/
def tensorBytes (shape : List UInt64) (dtype : DType) : UInt64 :=
  if dtype = .int4 then (TensorDescriptor.totalElements shape + 1) / 2
  else TensorDescriptor.totalElements shape * dtype.elementSize

/-- The operations of the allocator that an operation performs, mappings to the CPU aside. -/
def vramOps (d : Driver) : DriverOp → List VramOp
  | .allocate size => [.allocate size]
  | .free alloc => [.free alloc]
  | .mapSystemMemory systemPhysAddr size => [.mapSystemMemory systemPhysAddr size]
  | .allocateChannel _ _ => Channel.vramOps d.vram
  | .loadShader binary _ _ _ => [.allocate (UInt64.ofNat binary.length)]
  | .dispatch _ i j _ _ _ wait =>
    if wait && d.channels[i]?.isSome && d.shaders[j]?.isSome then [.allocate 64] else []
  | .allocateTensor _ shape dtype => [.allocate (tensorBytes shape dtype)]
  | .commit r =>
    match d.runlists[r]? with
    | none => []
    | some rl => if rl.allocSize > 0 then [.allocate rl.allocSize] else []
  | _ => []

end Driver

/-- The driver on a device as a machine. -/
def driver {δ : Type} (regs : GpuRegs δ) : Machine (Driver × δ) DriverOp DriverOut where
  step s op :=
    let ((out, d), dev) := s.1.perform op regs s.2
    (out, d, dev)

/-! ### What an operation does to the allocator -/

/-- Operations of the allocator take it from `a` to `a'`, and what they hand out includes `hs`. -/
structure Performs (a : VramAllocator) (ops : List VramOp) (hs : List Handed) (a' : VramAllocator) :
    Prop where
  final : vram.final a ops = a'
  handed : hs.Sublist (handed (vram.trace a ops))

section Performs

variable {a a' a'' : VramAllocator} {ops ops' : List VramOp} {hs hs' : List Handed}

theorem performs_nil (a : VramAllocator) : Performs a [] [] a := ⟨rfl, .slnil⟩

theorem performs_allocate {size : UInt64} {g : Option GpuAllocation}
    (h : a.allocate size = (g, a')) :
    Performs a [.allocate size] (g.toList.map (·.handed size)) a' := by
  refine ⟨congrArg Prod.snd h, ?_⟩
  have htrace : vram.trace a [.allocate size] = [vram.event a (.allocate size)] := rfl
  rw [htrace]
  cases g <;> simp [GpuCompute.handed, VramEvent.handed, vram, h]

theorem Performs.append (h : Performs a ops hs a') (h' : Performs a' ops' hs' a'') :
    Performs a (ops ++ ops') (hs' ++ hs) a'' := by
  obtain ⟨rfl, hsub⟩ := h
  obtain ⟨rfl, hsub'⟩ := h'
  refine ⟨Machine.final_append a ops ops', ?_⟩
  rw [Machine.trace_append, GpuCompute.handed, List.filterMap_append]
  exact hsub'.append hsub

theorem Performs.lose (h : Performs a ops hs a') : Performs a ops [] a' :=
  ⟨h.final, List.nil_sublist _⟩

theorem Channel.performs_allocate (a : VramAllocator) (channelId engineId : UInt32) :
    Performs a (Channel.vramOps a)
      ((Channel.allocate a channelId engineId).1.toList.flatMap Channel.handed)
      (Channel.allocate a channelId engineId).2 := by
  unfold Channel.vramOps Channel.allocate
  dsimp only
  rcases hring : a.allocate (DEFAULT_GPFIFO_ENTRIES.toUInt64 * 8) with ⟨_ | gpfifo, b⟩
  · exact GpuCompute.performs_allocate hring
  · dsimp only
    rcases hpush : b.allocate DEFAULT_PUSH_BUFFER_SIZE with ⟨_ | pushBuffer, c⟩
    · exact ((GpuCompute.performs_allocate hring).append
        (GpuCompute.performs_allocate hpush)).lose
    · exact (GpuCompute.performs_allocate hring).append (GpuCompute.performs_allocate hpush)

theorem GpuAllocation.handed_mapToCpu (a : VramAllocator) (g : GpuAllocation) (size : UInt64) :
    (a.mapToCpu g).2.handed size = g.handed size := by
  unfold mapToCpu
  split_ifs <;> rfl

theorem ComputeEngine.performs_loadShader (engine : ComputeEngine) (a : VramAllocator)
    (binary : List UInt8) (entryOffset sharedMemSize numRegisters : UInt32) :
    let r := engine.loadShader a binary entryOffset sharedMemSize numRegisters
    Performs a [.allocate (UInt64.ofNat binary.length)]
      (r.1.toList.map fun s => s.allocation.handed s.size) r.2 := by
  unfold loadShader
  dsimp only
  rcases hblock : a.allocate (UInt64.ofNat binary.length) with ⟨_ | g, b⟩
  · exact performs_allocate hblock
  · have h := performs_allocate hblock
    rw [Option.toList_some, List.map_singleton, ← GpuAllocation.handed_mapToCpu b] at h
    exact h

theorem ComputeEngine.performs_dispatch {δ : Type*} (regs : GpuRegs δ)
    (isSignaled : GpuFence → ℕ → Bool) (engine : ComputeEngine) (channel : Channel)
    (shader : ShaderProgram) (grid : GridDim) (block : BlockDim)
    (constBuffers : List ConstantBufferBinding) (a : VramAllocator) (wait : Bool) (dev : δ) :
    let r := engine.dispatch regs isSignaled channel shader grid block constBuffers a wait dev
    Performs a (if wait then [.allocate 64] else [])
      (r.1.fence.toList.map fun f => f.allocation.handed 64) r.2.2.2.1 := by
  have heq := dispatch_eq_dispatchFence regs isSignaled engine channel shader grid block
    constBuffers a wait dev
  intro r
  have hfence : r.1.fence = (engine.dispatchFence a wait).1 := congrArg Prod.fst heq
  have hvram : r.2.2.2.1 = (engine.dispatchFence a wait).2.2 := congrArg (·.2.2) heq
  rw [hfence, hvram, dispatchFence]
  cases wait with
  | false => exact performs_nil a
  | true =>
    unfold GpuFence.new
    rcases hblock : a.allocate 64 with ⟨_ | g, b⟩ <;> exact performs_allocate hblock

theorem TensorEngine.performs_allocateTensor (engine : TensorEngine) (a : VramAllocator)
    (name : String) (shape : List UInt64) (dtype : DType) :
    let r := engine.allocateTensor a name shape dtype
    Performs a [.allocate (Driver.tensorBytes shape dtype)]
      (r.1.toList.map fun t => t.allocation.handed t.sizeBytes) r.2.2 := by
  unfold allocateTensor
  dsimp only
  rw [← Driver.tensorBytes]
  rcases hblock : a.allocate (Driver.tensorBytes shape dtype) with ⟨_ | g, b⟩ <;>
    exact performs_allocate hblock

theorem Runlist.performs_commit (rl : Runlist) (a : VramAllocator) :
    Performs a (if rl.allocSize > 0 then [.allocate rl.allocSize] else [])
      ((if rl.allocSize > 0 then (a.allocate rl.allocSize).1 else none).toList.map
        (·.handed rl.allocSize)) (rl.commit a).2 := by
  unfold commit
  split_ifs
  · rcases hblock : a.allocate rl.allocSize with ⟨_ | g, b⟩ <;> exact performs_allocate hblock
  · exact performs_nil a

end Performs

namespace Driver

/-- **What an operation does to the allocator and hands out.** -/
theorem performs (d : Driver) (op : DriverOp) {δ : Type} (regs : GpuRegs δ) (dev : δ) :
    let r := (d.perform op regs dev).1
    Performs d.vram (d.vramOps op) r.1.handed r.2.vram := by
  have hsame : Performs d.vram [] [] d.vram := performs_nil d.vram
  cases op with
  | allocate size => exact performs_allocate rfl
  | free alloc => exact ⟨rfl, List.nil_sublist _⟩
  | mapSystemMemory systemPhysAddr size => exact ⟨rfl, List.Sublist.refl _⟩
  | allocateChannel channelId engineId => exact Channel.performs_allocate _ _ _
  | loadShader binary entryOffset sharedMemSize numRegisters =>
    exact d.compute.performs_loadShader _ _ _ _ _
  | dispatch isSignaled i j grid block constBuffers wait =>
    simp only [perform, vramOps]
    rcases d.channels[i]? with _ | ch
    · rw [if_neg (by simp)]
      exact hsame
    rcases d.shaders[j]? with _ | shader
    · rw [if_neg (by simp)]
      exact hsame
    · have h := d.compute.performs_dispatch regs isSignaled ch shader grid block constBuffers
        d.vram wait dev
      simpa only [Option.isSome_some, Bool.and_true] using h
  | allocateTensor name shape dtype => exact d.engine.performs_allocateTensor _ _ _ _
  | commit r =>
    simp only [perform, vramOps]
    rcases d.runlists[r]? with _ | rl
    · exact hsame
    · exact rl.performs_commit d.vram
  -- nothing is taken from the allocator
  | submit _ _ | resetPushBuffer _ | bindToChannel _ | upload _ _ | download _ _ | freeTensor _ =>
    simp only [perform, vramOps]
    split <;> exact hsame
  | mapToCpu _ | newRunlist _ | addChannel _ _ | removeChannel _ _ | handleInterrupt | status _
  | masterReset | falcon _ _ => exact hsame

end Driver

/-! ### What an operation does to the channels -/

/-- The slices that an operation submits are short enough that their lengths in bytes do not
wrap. -/
def DriverOp.Short : DriverOp → Prop
  | .submit _ commands => ShortSlice commands
  | .dispatch _ _ _ _ _ constBuffers _ => constBuffers.length < 2 ^ 28 - 2 ^ 15
  | _ => True

/-- A slice that a channel accepts, and what is computed for it. -/
structure Accepted.Fits (a : Accepted) : Prop where
  accepts : a.channel.Accepts a.commands.length
  submission : a.submission = a.channel.submission a.commands.length

/-- What an operation does to the channels. -/
inductive ChannelStep (chs : List Channel) : DriverOp → DriverOut → List Channel → Prop where
  | same (op : DriverOp) (hs : List Handed) : ChannelStep chs op ⟨hs, none⟩ chs
  | allocate {channelId engineId : UInt32} {ch : Channel} (hid : ch.id = channelId)
    (hfresh : ch.Fresh) (hsize : ch.pushBuffer.size = 0x40000) :
    ChannelStep chs (.allocateChannel channelId engineId) ⟨ch.handed, none⟩ (chs ++ [ch])
  | reset (op : DriverOp) {i : ℕ} {ch : Channel} (hch : chs[i]? = some ch) :
    ChannelStep chs op ⟨[], none⟩ (chs.set i ch.resetPushBuffer)
  | submit {op : DriverOp} (hs : List Handed) {i : ℕ} {a : Accepted}
    (hch : chs[i]? = some a.channel) (hfits : a.Fits) (hshort : op.Short → ShortSlice a.commands) :
    ChannelStep chs op ⟨hs, some a⟩ (chs.set i { a.channel with
      pushOffset := a.channel.pushOffset + Channel.byteLen a.commands.length
      gpfifoPut := a.submission.newIdx })

theorem Channel.allocate_fresh {a : VramAllocator} {channelId engineId : UInt32} {ch : Channel}
    (h : (Channel.allocate a channelId engineId).1 = some ch) :
    ch.id = channelId ∧ ch.Fresh ∧ ch.pushBuffer.size = 0x40000 := by
  obtain ⟨hfresh, hid, -, hpush⟩ := Channel.allocate_spec (Prod.ext_iff.2 ⟨h, rfl⟩)
  refine ⟨hid, hfresh, ?_⟩
  rw [(allocate_some (congrArg Prod.fst hpush)).2.1]
  decide

section

variable {chs : List Channel} {i : ℕ} {ch : Channel} {δ : Type*} (regs : GpuRegs δ) (dev : δ)

theorem ChannelStep.of_submit (hch : chs[i]? = some ch) {op : DriverOp} (hs : List Handed)
    {commands : List UInt32} (hshort : op.Short → ShortSlice commands) :
    let r := ch.submit regs commands dev
    ChannelStep chs op ⟨hs, r.1.map (⟨ch, commands, ·⟩)⟩ (chs.set i r.2.1) := by
  intro r
  obtain ⟨hacc, heq⟩ | ⟨-, heq⟩ := ch.submit_cases regs commands dev
  · rw [show r = _ from heq]
    exact .submit hs hch ⟨hacc, rfl⟩ hshort
  · obtain ⟨hi, rfl⟩ := List.getElem?_eq_some_iff.1 hch
    rw [show r = _ from heq, List.set_getElem_self]
    exact .same op hs

theorem ComputeEngine.dispatch_submission (isSignaled : GpuFence → ℕ → Bool)
    (engine : ComputeEngine) (shader : ShaderProgram) (grid : GridDim) (block : BlockDim)
    (constBuffers : List ConstantBufferBinding) (a : VramAllocator) (wait : Bool) :
    let r := (engine.dispatch regs isSignaled ch shader grid block constBuffers a wait dev).1
    r.cmds = dispatchCmds engine shader grid block constBuffers a wait ∧
      r.submission = (ch.submit regs
        (dispatchCmds engine shader grid block constBuffers a wait) dev).1 := by
  intro r
  unfold r dispatch dispatchCmds
  dsimp only
  split
  case h_1 hsubmit => exact ⟨rfl, by rw [hsubmit]⟩
  case h_2 hsubmit =>
    rw [hsubmit]
    dsimp only
    split <;> exact ⟨rfl, rfl⟩

theorem shortSlice_dispatchCmds (engine : ComputeEngine) (shader : ShaderProgram) (grid : GridDim)
    (block : BlockDim) {constBuffers : List ConstantBufferBinding}
    (hlen : constBuffers.length < 2 ^ 28 - 2 ^ 15) (a : VramAllocator) (wait : Bool) :
    ShortSlice (dispatchCmds engine shader grid block constBuffers a wait) := by
  unfold ShortSlice dispatchCmds
  rw [length_buildDispatchCommands]
  split_ifs <;> omega

theorem ChannelStep.of_dispatch (hch : chs[i]? = some ch) (isSignaled : GpuFence → ℕ → Bool)
    (j : ℕ) (engine : ComputeEngine) (shader : ShaderProgram) (grid : GridDim) (block : BlockDim)
    (constBuffers : List ConstantBufferBinding) (a : VramAllocator) (wait : Bool) :
    let r := engine.dispatch regs isSignaled ch shader grid block constBuffers a wait dev
    ChannelStep chs (.dispatch isSignaled i j grid block constBuffers wait)
      ⟨r.1.fence.toList.map fun f => f.allocation.handed 64,
        r.1.submission.map (⟨ch, r.1.cmds, ·⟩)⟩ (chs.set i r.2.2.1) := by
  obtain ⟨hcmds, hsubmission⟩ := engine.dispatch_submission regs dev isSignaled
    shader grid block constBuffers a wait
  have hchannel := congrArg Prod.fst (dispatch_channel regs isSignaled engine ch shader grid block
    constBuffers a dev wait)
  intro r
  rw [hcmds, hsubmission, show r.2.2.1 = _ from hchannel]
  exact .of_submit regs dev hch _ fun hlen =>
    shortSlice_dispatchCmds engine shader grid block hlen a wait

end

theorem shortSlice_bind (engine : ComputeEngine) :
    ShortSlice [gpuMethod1 engine.subchannel 0x0000, engine.classId] := by
  simp [ShortSlice]

/-- **What an operation does to the channels.** -/
theorem Driver.channelStep (d : Driver) (op : DriverOp) {δ : Type} (regs : GpuRegs δ) (dev : δ) :
    let r := (d.perform op regs dev).1
    ChannelStep d.channels op r.1 r.2.channels := by
  cases op with
  | allocateChannel channelId engineId =>
    simp only [perform]
    rcases hch : Channel.allocate d.vram channelId engineId with ⟨_ | ch, a⟩
    · rw [Option.toList_none, List.append_nil]
      exact .same _ []
    · obtain ⟨hid, hfresh, hsize⟩ := Channel.allocate_fresh (congrArg Prod.fst hch)
      rw [Option.toList_some, List.flatMap_singleton]
      exact .allocate hid hfresh hsize
  | submit i commands =>
    simp only [perform]
    rcases hch : d.channels[i]? with _ | ch
    · exact .same _ []
    · exact .of_submit regs dev hch [] id
  | resetPushBuffer i =>
    simp only [perform]
    rcases hch : d.channels[i]? with _ | ch
    · exact .same _ []
    · exact .reset _ hch
  | bindToChannel i =>
    simp only [perform, ComputeEngine.bindToChannel]
    rcases hch : d.channels[i]? with _ | ch
    · exact .same _ []
    · exact .of_submit regs dev hch [] fun _ => shortSlice_bind d.compute
  | dispatch isSignaled i j grid block constBuffers wait =>
    simp only [perform]
    rcases hch : d.channels[i]? with _ | ch
    · exact .same _ []
    rcases d.shaders[j]? with _ | shader
    · exact .same _ []
    · exact .of_dispatch regs dev hch isSignaled j d.compute shader grid block constBuffers d.vram
        wait
  | upload _ _ | download _ _ | freeTensor _ | commit _ =>
    simp only [perform]
    split <;> exact .same _ _
  | allocate _ | free _ | mapToCpu _ | mapSystemMemory _ _ | loadShader _ _ _ _
  | allocateTensor _ _ _ | newRunlist _ | addChannel _ _ | removeChannel _ _ | handleInterrupt
  | status _ | masterReset | falcon _ _ => exact .same _ _

/-! ### What every run guarantees -/

/-- What a run guarantees about memory: of all that it has handed out nothing overlaps anything
else, and the GPU is made to fetch commands from push buffers only. -/
structure MemorySafe (total : ℕ) (hs : List Handed) (accepted : List Accepted) : Prop
    extends HandedSafe total hs where
  /-- A slice is accepted by a channel whose push buffer has been handed out. -/
  owned : ∀ a ∈ accepted, a.channel.pushBuffer.handed DEFAULT_PUSH_BUFFER_SIZE ∈ hs
  /-- The commands are fetched from this push buffer. -/
  fetched : ∀ a ∈ accepted, a.segment.Within a.channel.pushBuffer.vaBlock.start
    a.channel.pushBuffer.vaBlock.stop
  /-- They overlap nothing else that has been handed out. -/
  apart : ∀ a ∈ accepted, ∀ h ∈ hs,
    h ≠ a.channel.pushBuffer.handed DEFAULT_PUSH_BUFFER_SIZE → a.segment.Sep h.vaBlock

/-- The channel writes to a push buffer that has been handed out, and has not reached past its
end. -/
structure Channel.Owned (hs : List Handed) (ch : Channel) : Prop where
  pushSize : ch.pushSize = 0x40000
  pushOffset : ch.pushOffset.toNat ≤ 0x40000
  size : ch.pushBuffer.size = 0x40000
  handed : ch.pushBuffer.handed DEFAULT_PUSH_BUFFER_SIZE ∈ hs

namespace Channel.Owned

variable {hs hs' : List Handed} {ch : Channel}

theorem mono (h : ch.Owned hs) (hsub : hs ⊆ hs') : ch.Owned hs' :=
  ⟨h.pushSize, h.pushOffset, h.size, hsub h.handed⟩

theorem of_fresh (hfresh : ch.Fresh) (hsize : ch.pushBuffer.size = 0x40000) :
    ch.Owned ch.handed := by
  refine ⟨hfresh.pushSize, ?_, hsize, List.mem_cons_self⟩
  rw [hfresh.pushOffset]
  exact Nat.zero_le _

theorem submit (h : ch.Owned hs) {n : ℕ} (hacc : ch.Accepts n) (put : UInt32) :
    { ch with pushOffset := ch.pushOffset + byteLen n, gpfifoPut := put }.Owned hs := by
  refine ⟨h.pushSize, ?_, h.size, h.handed⟩
  rw [Accepts, h.pushSize] at hacc
  exact UInt32.le_iff_toNat_le.1 hacc

theorem segment_within (h : ch.Owned hs) (hva : ch.pushBuffer.vaBlock.stop ≤ 2 ^ 64 - 1)
    {commands : List UInt32} (hacc : ch.Accepts commands.length) (hshort : ShortSlice commands) :
    (segment (commands, ch.submission commands.length)).Within ch.pushBuffer.vaBlock.start
      ch.pushBuffer.vaBlock.stop := by
  have hoffset := h.pushOffset
  have hstop : ch.pushBuffer.vaBlock.stop = ch.pushBuffer.gpuVa.toNat + 0x40000 := by
    rw [Block.stop, GpuAllocation.vaBlock, h.size]
    rfl
  unfold ShortSlice at hshort
  obtain ⟨hle, -⟩ := offset_le_of_accepts hacc (by omega)
  have hsize : ch.pushSize.toNat = 0x40000 := by
    rw [h.pushSize]
    rfl
  rw [segment_submission (by omega), hstop]
  exact ⟨Nat.le_add_right _ _, by simp only [Block.stop]; omega⟩

end Channel.Owned

section Runs

variable {δ : Type}

/-- One performed operation of the driver. -/
abbrev DriverEvent (δ : Type) := Event (Driver × δ) DriverOp DriverOut

/-- What a run hands out, newest first. -/
def driverHanded (tr : List (DriverEvent δ)) : List Handed := tr.flatMap fun e => e.out.handed

/-- The slices that a run submits, newest first. -/
def driverAccepted (tr : List (DriverEvent δ)) : List Accepted :=
  tr.filterMap fun e => e.out.accepted

/-- All channels own their push buffers, and so did those that have accepted slices. -/
structure ChannelsOwned (hs : List Handed) (accepted : List Accepted) (chs : List Channel) :
    Prop where
  channels : ∀ ch ∈ chs, ch.Owned hs
  accepted : ∀ a ∈ accepted, a.channel.Owned hs ∧ a.Fits ∧ ShortSlice a.commands

/-- **Every operation keeps the push buffers owned.** -/
theorem ChannelsOwned.step {hs : List Handed} {accepted : List Accepted} {chs chs' : List Channel}
    {op : DriverOp} {out : DriverOut} (h : ChannelsOwned hs accepted chs)
    (hstep : ChannelStep chs op out chs') (hop : op.Short) :
    ChannelsOwned (out.handed ++ hs) (out.accepted.toList ++ accepted) chs' := by
  have hmono : ∀ hs', ChannelsOwned (hs' ++ hs) accepted chs := fun hs' =>
    have hsub : hs ⊆ hs' ++ hs := List.subset_append_right hs' hs
    ⟨fun ch hch => (h.channels ch hch).mono hsub,
      fun a ha => ⟨(h.accepted a ha).1.mono hsub, (h.accepted a ha).2⟩⟩
  cases hstep with
  | same _ hs' => exact hmono hs'
  | @allocate _ _ ch hid hfresh hsize =>
    have howned := Channel.Owned.of_fresh hfresh hsize
    refine ⟨fun c hc => ?_, (hmono ch.handed).accepted⟩
    rcases List.mem_append.1 hc with hc | hc
    · exact (hmono ch.handed).channels c hc
    · rw [List.mem_singleton.1 hc]
      exact howned.mono (List.subset_append_left _ _)
  | @reset _ i ch hch =>
    have howned := h.channels ch (List.mem_of_getElem? hch)
    refine ⟨fun c hc => ?_, h.accepted⟩
    rcases List.mem_or_eq_of_mem_set hc with hc | rfl
    · exact h.channels c hc
    · exact ⟨howned.pushSize, Nat.zero_le _, howned.size, howned.handed⟩
  | @submit _ hs' i a hch hfits hshort =>
    have howned := (hmono hs').channels a.channel (List.mem_of_getElem? hch)
    refine ⟨fun c hc => ?_,
      List.forall_mem_cons.2 ⟨⟨howned, hfits, hshort hop⟩, (hmono hs').accepted⟩⟩
    rcases List.mem_or_eq_of_mem_set hc with hc | rfl
    · exact (hmono hs').channels c hc
    · exact howned.submit hfits.accepts _

/-- Where nothing that has been handed out overlaps, owned push buffers make a run safe. -/
theorem ChannelsOwned.memorySafe {total : ℕ} {hs : List Handed} {accepted : List Accepted}
    {chs : List Channel} (h : ChannelsOwned hs accepted chs) (hsafe : HandedSafe total hs) :
    MemorySafe total hs accepted := by
  have hfetched : ∀ a ∈ accepted, a.segment.Within a.channel.pushBuffer.vaBlock.start
      a.channel.pushBuffer.vaBlock.stop := by
    intro a ha
    obtain ⟨howned, hfits, hshort⟩ := h.accepted a ha
    rw [Accepted.segment, hfits.submission]
    exact howned.segment_within (hsafe.within _ howned.handed).2 hfits.accepts hshort
  refine { toHandedSafe := hsafe
           owned := fun a ha => (h.accepted a ha).1.handed
           fetched := hfetched
           apart := fun a ha x hx hne => ?_ }
  have hsymm : Std.Symm fun x y : Handed => x.vaBlock.Sep y.vaBlock := ⟨fun _ _ => Block.Sep.symm⟩
  have hpush := (h.accepted a ha).1.handed
  exact ((List.pairwise_map.1 hsafe.disjoint).forall hpush hx hne.symm).of_within (hfetched a ha)

/-- The driver performs operations of its allocator. -/
def driverSimulation (regs : GpuRegs δ) : Simulation (driver regs) vram where
  rel s a := s.1.vram = a
  ops e := e.pre.1.vramOps e.op
  shows e part := e.out.handed.Sublist (handed part)
  step := by
    rintro s _ op rfl
    obtain ⟨hfinal, hhanded⟩ := s.1.performs op regs s.2
    exact ⟨hfinal.symm, hhanded⟩

/-- The bytes of system memory that an operation maps. -/
def DriverOp.mappedBytes : DriverOp → ℕ
  | .mapSystemMemory _ size => roundUp 4096 size.toNat
  | _ => 0

theorem Driver.mappedBytes_vramOps (d : Driver) (op : DriverOp) :
    mappedBytes (d.vramOps op) = op.mappedBytes := by
  cases op with
  | allocateChannel channelId engineId =>
    simp only [vramOps, Channel.vramOps]
    split <;> rfl
  | dispatch isSignaled i j grid block constBuffers wait =>
    simp only [vramOps]
    split <;> rfl
  | commit r =>
    simp only [vramOps]
    split
    · rfl
    · split <;> rfl
  | mapSystemMemory systemPhysAddr size => exact Nat.add_zero _
  | _ => rfl

theorem bindIfReady_channel (compute : ComputeEngine) (ready : Bool) (channel : Option Channel)
    (regs : GpuRegs δ) (dev : δ) :
    let r := (bindIfReady compute ready channel regs dev).2.1
    r = channel ∨ ∃ ch n put, channel = some ch ∧ ch.Accepts n ∧
      r = some { ch with pushOffset := ch.pushOffset + Channel.byteLen n, gpfifoPut := put } := by
  cases channel with
  | none => exact .inl rfl
  | some ch =>
    cases ready with
    | false => exact .inl rfl
    | true =>
      simp only [bindIfReady, if_true, ComputeEngine.bindToChannel]
      obtain ⟨hacc, heq⟩ | ⟨-, heq⟩ := ch.submit_cases regs
        [gpuMethod1 compute.subchannel 0x0000, compute.classId] dev
      · rw [heq]
        exact .inr ⟨ch, _, _, rfl, hacc, rfl⟩
      · rw [heq]
        exact .inl rfl

theorem bindIfReady_owned (compute : ComputeEngine) (ready : Bool) (channel : Option Channel)
    (regs : GpuRegs δ) (dev : δ) {hs : List Handed} (h : ∀ ch ∈ channel, ch.Owned hs) :
    let r := (bindIfReady compute ready channel regs dev).2.1
    r.toList.flatMap Channel.handed = channel.toList.flatMap Channel.handed ∧
      ∀ ch ∈ r, ch.Owned hs := by
  obtain heq | ⟨ch, n, put, rfl, hacc, heq⟩ := bindIfReady_channel compute ready channel regs dev
  · rw [heq]
    exact ⟨rfl, h⟩
  · rw [heq]
    refine ⟨rfl, ?_⟩
    rintro _ ⟨⟩
    exact (h ch rfl).submit hacc put

theorem VramAllocator.info_allocate (a : VramAllocator) (size : UInt64) :
    (a.allocate size).2.info = a.info := by
  obtain ⟨_, _, -, heq⟩ | ⟨-, heq⟩ := a.allocate_cases size <;> rw [heq]

theorem Channel.allocate_owned (a : VramAllocator) (channelId engineId : UInt32) :
    ∀ ch ∈ (Channel.allocate a channelId engineId).1,
      ch.Owned ((Channel.allocate a channelId engineId).1.toList.flatMap Channel.handed) := by
  intro ch hch
  obtain ⟨-, hfresh, hsize⟩ := Channel.allocate_fresh hch
  rw [Option.mem_def.1 hch, Option.toList_some, List.flatMap_singleton]
  exact .of_fresh hfresh hsize

theorem GpuDevice.setUp_channel (pci : GpuPciDevice) (regs : GpuRegs δ) (dev : δ) :
    let gpu := (GpuDevice.setUp pci regs dev).1.1
    ∃ (info : VramInfo) (ready : Bool) (dev' : δ), info.totalBytes.toNat ≤ 2 ^ 37 ∧
      let r := Channel.allocate (ofInfo info pci.bar1Base pci.bar1Size) 0 0
      gpu.vram = r.2 ∧
        gpu.computeChannel = (bindIfReady (.new pci.family) ready r.1 regs dev').2.1 :=
  ⟨decodeInfo _ _ _, _, _, (decodeVramSize_spec _).2, rfl, rfl⟩

/-- **What the initialization has taken from the allocator**: the blocks of its channel. -/
theorem GpuDevice.setUp_memory (pci : GpuPciDevice) (regs : GpuRegs δ) (dev : δ) :
    let d := (GpuDevice.setUp pci regs dev).1.1.driver
    let hs := d.channels.flatMap Channel.handed
    d.vram.info.totalBytes.toNat ≤ 2 ^ 37 ∧
      Performs (ofInfo d.vram.info pci.bar1Base pci.bar1Size)
        (Channel.vramOps (ofInfo d.vram.info pci.bar1Base pci.bar1Size)) hs d.vram ∧
      ∀ ch ∈ d.channels, ch.Owned hs := by
  obtain ⟨info, ready, dev', htotal, hvram, hchannel⟩ := GpuDevice.setUp_channel pci regs dev
  have hinfo : (GpuDevice.setUp pci regs dev).1.1.vram.info = info := by
    rw [hvram]
    exact Channel.allocate_preserves (P := fun b => b.info = info)
      (fun b size hb => (info_allocate b size).trans hb) rfl 0 0
  have howned := Channel.allocate_owned (ofInfo info pci.bar1Base pci.bar1Size) 0 0
  obtain ⟨hhanded, hch⟩ := bindIfReady_owned (.new pci.family) ready _ regs dev' howned
  rw [← hchannel] at hhanded hch
  have hperforms := Channel.performs_allocate (ofInfo info pci.bar1Base pci.bar1Size) 0 0
  rw [← hhanded, ← hvram, ← hinfo] at hperforms
  rw [← hhanded] at hch
  refine ⟨by rw [← hinfo] at htotal; exact htotal, hperforms, fun ch hmem => ?_⟩
  exact hch ch (Option.mem_toList.1 hmem)

theorem channelsOwned_run (regs : GpuRegs δ) {s : Driver × δ} {hs : List Handed}
    (howned : ∀ ch ∈ s.1.channels, ch.Owned hs) (ops : List DriverOp)
    (hshort : ∀ op ∈ ops, op.Short) :
    ChannelsOwned (driverHanded ((driver regs).trace s ops) ++ hs)
      (driverAccepted ((driver regs).trace s ops)) ((driver regs).final s ops).1.channels := by
  refine Machine.run_induction (M := driver regs) (Q := fun e => e.op.Short)
    (motive := fun tr s' => ChannelsOwned (driverHanded tr ++ hs) (driverAccepted tr)
      (Prod.fst s').channels) ⟨howned, by simp [driverAccepted]⟩ ?_ ops
    fun e he => hshort _ (Machine.op_mem_of_mem_trace he)
  intro tr s' op h hop
  have hstep := h.step (s'.1.channelStep op regs s'.2) hop
  rw [← List.append_assoc] at hstep
  have haccepted : driverAccepted ((driver regs).event s' op :: tr) =
      (s'.1.perform op regs s'.2).1.1.accepted.toList ++ driverAccepted tr := by
    have hout : ((driver regs).event s' op).out = (s'.1.perform op regs s'.2).1.1 := rfl
    rw [driverAccepted, List.filterMap_cons, hout]
    cases (s'.1.perform op regs s'.2).1.1.accepted <;> rfl
  rw [haccepted]
  exact hstep

/-- **Memory is safe in every run** of a device that has been set up, whatever its registers say and
whatever is done with the driver, in any order: as long as the address space has room for what is
mapped, and no slice of commands has a length that wraps. -/
theorem memorySafe_run (pci : GpuPciDevice) (regs : GpuRegs δ) (dev : δ) (ops : List DriverOp)
    (hshort : ∀ op ∈ ops, op.Short)
    (hroom : 2 ^ 32 + 2 ^ 37 + (ops.map DriverOp.mappedBytes).sum < 2 ^ 64) :
    let r := GpuDevice.setUp pci regs dev
    let d := r.1.1.driver
    let tr := (driver regs).trace (d, r.2) ops
    MemorySafe d.vram.info.totalBytes.toNat
      (driverHanded tr ++ d.channels.flatMap Channel.handed) (driverAccepted tr) := by
  intro r d tr
  obtain ⟨htotal, hperforms, howned⟩ := GpuDevice.setUp_memory pci regs dev
  refine (channelsOwned_run regs howned ops hshort).memorySafe ?_
  -- to the allocator, the run continues what the initialization has done
  have hrun : Performs d.vram ((driverSimulation regs).performed tr) (driverHanded tr)
      (vram.final d.vram ((driverSimulation regs).performed tr)) :=
    ⟨rfl, (driverSimulation regs).flatMap_sublist (fun _ _ h => h) rfl ops⟩
  have hchannel : mappedBytes
      (Channel.vramOps (ofInfo d.vram.info pci.bar1Base pci.bar1Size)) = 0 :=
    Driver.mappedBytes_vramOps ⟨_, d.compute, d.engine, [], [], [], []⟩ (.allocateChannel 0 0)
  have hmapped : mappedBytes (Channel.vramOps (ofInfo d.vram.info pci.bar1Base pci.bar1Size) ++
      (driverSimulation regs).performed tr) = (ops.map DriverOp.mappedBytes).sum := by
    rw [mappedBytes, List.map_append, List.sum_append, ← mappedBytes, hchannel, Nat.zero_add]
    exact (driverSimulation regs).sum_performed
      (fun e => Driver.mappedBytes_vramOps e.pre.1 e.op) (d, r.2) ops
  rw [← hmapped] at hroom
  exact ((handedInv_run htotal _ _ _ hroom).safe hroom).sublist (hperforms.append hrun).handed

end Runs

/-- A Pascal GPU on the first bus. -/
def pascalGpu : GpuPciDevice :=
  ⟨0, 0, 0, 0x1B80, 0xA1, .pascal, 0xF0000000, 0x1000000, 0xE0000000, 0x10000000, 0, 0, "Pascal"⟩

/-- A run that maps system memory, loads a shader and waits for a dispatch of it. -/
theorem memorySafe_run_dispatch :
    let ops := [.mapSystemMemory 0 1, .loadShader [1, 2, 3] 0 0 0,
      .dispatch (fun _ _ => true) 0 0 ⟨1, 1, 1⟩ ⟨32, 1, 1⟩ [⟨0, 0x100000000, 64⟩] true]
    let r := GpuDevice.setUp pascalGpu GpuRegs.plain fun _ => 3
    let d := r.1.1.driver
    let tr := (driver GpuRegs.plain).trace (d, r.2) ops
    MemorySafe d.vram.info.totalBytes.toNat
      (driverHanded tr ++ d.channels.flatMap Channel.handed) (driverAccepted tr) :=
  memorySafe_run pascalGpu GpuRegs.plain _ _ (by simp [DriverOp.Short])
    (by simp [DriverOp.mappedBytes, roundUp])

end GpuCompute
