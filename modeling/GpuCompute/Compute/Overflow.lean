import GpuCompute.Compute.Dispatch
import GpuCompute.Compute.Fences
import GpuCompute.Fifo.Overflow

/-!
# Overflow in a dispatch

A launch needs no arithmetic on its dimensions: they go to the GPU as they are.  The driver still
multiplies them, for the messages it logs, and it does so in 32 bits, where a grid that the hardware
admits has up to `2 ^ 63` blocks.  A build with overflow checks stops there.  The other arithmetic
of a dispatch stays in its bounds in every run, but for the fence counter, which comes to its end
after `2 ^ 32 - 2` dispatches that wait.

* `ComputeEngine.dispatchChecked` : a dispatch with overflow checks, all messages logged.
* `Launch` : the arguments of a dispatch.
* `DispatchSystem`, `dispatches` : an engine, its channels and its allocator, as a machine.
* `Launch.Legal` : what the hardware admits; `Launch.Fits` : what the messages admit.
* `dispatchChecked_eq_some_iff` : when there is no overflow, so that the checks change nothing.
* `noOverflow_run_iff` : when there is none in a run.
-/

namespace GpuCompute

open Systems

/-- The number of threads of a block, checked at every step. -/
def BlockDim.totalThreadsChecked (block : BlockDim) : Option UInt32 :=
  checkedProd block.x [block.y, block.z]

/-- The number of blocks that is logged, checked at every step. -/
def GridDim.blocksChecked (grid : GridDim) : Option UInt32 := checkedProd grid.x [grid.y, grid.z]

namespace ComputeEngine

/-- The command stream of a launch, when all messages about it are logged. -/
def buildDispatchCommandsChecked (engine : ComputeEngine) (shader : ShaderProgram) (grid : GridDim)
    (block : BlockDim) (constBuffers : List ConstantBufferBinding) (fence : Option GpuFence) :
    Option (List UInt32) :=
  -- the first message has the threads, the last one the blocks and the threads
  block.totalThreadsChecked.bind fun _ =>
  grid.blocksChecked.bind fun _ =>
  block.totalThreadsChecked.map fun _ =>
  engine.buildDispatchCommands shader grid block constBuffers fence

/-- The fence of a dispatch, with the counter checked. -/
def dispatchFenceChecked (engine : ComputeEngine) (allocator : VramAllocator) (wait : Bool) :
    Option (Option GpuFence × ComputeEngine × VramAllocator) :=
  if wait then
    (checkedAdd engine.nextFenceValue 1).map fun next =>
      let (fence, allocator) := GpuFence.new allocator engine.nextFenceValue
      (fence, { engine with nextFenceValue := next }, allocator)
  else some (none, engine, allocator)

/-- Dispatch a kernel in a build that stops when the arithmetic overflows: `none` says that it has
stopped. -/
def dispatchChecked {δ : Type*} (regs : GpuRegs δ) (isSignaled : GpuFence → ℕ → Bool)
    (engine : ComputeEngine) (channel : Channel) (shader : ShaderProgram) (grid : GridDim)
    (block : BlockDim) (constBuffers : List ConstantBufferBinding) (allocator : VramAllocator)
    (wait : Bool) (dev : δ) :
    Option (Dispatched × ComputeEngine × Channel × VramAllocator × δ) :=
  (engine.dispatchFenceChecked allocator wait).bind fun (fence, engine, allocator) =>
  (engine.buildDispatchCommandsChecked shader grid block constBuffers fence).bind fun cmds =>
  (channel.submitChecked regs cmds dev).map fun
    | (none, channel, dev) =>
      ({ result := false, fence, cmds, submission := none, polls := 0 },
        engine, channel, allocator, dev)
    | (some submission, channel, dev) =>
      match wait, fence with
      | true, some f =>
        let (result, polls) := GpuFence.wait (isSignaled f) 10000000
        ({ result, fence, cmds, submission := some submission, polls },
          engine, channel, allocator, dev)
      | _, _ =>
        ({ result := true, fence, cmds, submission := some submission, polls := 0 },
          engine, channel, allocator, dev)

end ComputeEngine

/-! ### One dispatch -/

/-- The product of three words fits at every step. -/
def ProductFits (x y z : UInt32) : Prop :=
  x.toNat * y.toNat < 2 ^ 32 ∧ x.toNat * y.toNat * z.toNat < 2 ^ 32

theorem checkedProd_three_eq_some_iff {x y z c : UInt32} :
    checkedProd x [y, z] = some c ↔ ProductFits x y z ∧ c = x * y * z := by
  rw [checkedProd_eq_some_iff]
  refine and_congr_left fun _ => ⟨fun h => ⟨?_, ?_⟩, fun h k => ?_⟩
  · simpa using h 1
  · simpa [Nat.mul_assoc] using h 2
  · match k with
    | 0 => simpa using x.toNat_lt
    | 1 => simpa using h.1
    | k + 2 => simpa [Nat.mul_assoc] using h.2

section Dispatch

variable {δ : Type*} {regs : GpuRegs δ} {isSignaled : GpuFence → ℕ → Bool}
  {engine : ComputeEngine} {channel : Channel} {shader : ShaderProgram} {grid : GridDim}
  {block : BlockDim} {constBuffers : List ConstantBufferBinding} {allocator : VramAllocator}
  {wait : Bool} {dev : δ}

theorem dispatchFenceChecked_eq_some_iff
    {r : Option GpuFence × ComputeEngine × VramAllocator} :
    engine.dispatchFenceChecked allocator wait = some r ↔
      (wait = true → engine.nextFenceValue.toNat + 1 < 2 ^ 32) ∧
        r = engine.dispatchFence allocator wait := by
  cases wait with
  | false =>
    have hsame : engine.dispatchFenceChecked allocator false = some (none, engine, allocator) := rfl
    rw [hsame, Option.some.injEq, eq_comm]
    exact ⟨fun h => ⟨nofun, h⟩, And.right⟩
  | true =>
    have hmap : engine.dispatchFenceChecked allocator true =
        (checkedAdd engine.nextFenceValue 1).map fun next =>
          ((GpuFence.new allocator engine.nextFenceValue).1,
            { engine with nextFenceValue := next },
            (GpuFence.new allocator engine.nextFenceValue).2) := rfl
    rw [hmap, Option.map_eq_some_iff]
    constructor
    · rintro ⟨next, hnext, rfl⟩
      obtain ⟨hfits, rfl⟩ := checkedAdd_eq_some_iff.1 hnext
      exact ⟨fun _ => hfits, rfl⟩
    · rintro ⟨hfits, rfl⟩
      exact ⟨_, checkedAdd_of_lt (hfits rfl), rfl⟩

theorem buildDispatchCommandsChecked_eq_some_iff {fence : Option GpuFence} {cmds : List UInt32} :
    engine.buildDispatchCommandsChecked shader grid block constBuffers fence = some cmds ↔
      (ProductFits block.x block.y block.z ∧ ProductFits grid.x grid.y grid.z) ∧
        cmds = engine.buildDispatchCommands shader grid block constBuffers fence := by
  simp only [ComputeEngine.buildDispatchCommandsChecked, BlockDim.totalThreadsChecked,
    GridDim.blocksChecked, Option.bind_eq_some_iff, Option.map_eq_some_iff,
    checkedProd_three_eq_some_iff]
  constructor
  · rintro ⟨_, ⟨hblock, -⟩, _, ⟨hgrid, -⟩, _, -, rfl⟩
    exact ⟨⟨hblock, hgrid⟩, rfl⟩
  · rintro ⟨⟨hblock, hgrid⟩, rfl⟩
    exact ⟨_, ⟨hblock, rfl⟩, _, ⟨hgrid, rfl⟩, _, ⟨hblock, rfl⟩, rfl⟩

theorem shortSlice_buildDispatchCommands (hlen : constBuffers.length < 2 ^ 20)
    (fence : Option GpuFence) :
    ShortSlice (engine.buildDispatchCommands shader grid block constBuffers fence) := by
  unfold ShortSlice
  rw [length_buildDispatchCommands]
  split_ifs <;> omega

/-- **When there is no overflow in a dispatch**: the products of the messages fit, and so does the
fence counter if the dispatch waits.  Then the checks change nothing. -/
theorem dispatchChecked_eq_some_iff (hc : channel.Bounded) (hlen : constBuffers.length < 2 ^ 20)
    {r : Dispatched × ComputeEngine × Channel × VramAllocator × δ} :
    engine.dispatchChecked regs isSignaled channel shader grid block constBuffers allocator wait
        dev = some r ↔
      ((wait = true → engine.nextFenceValue.toNat + 1 < 2 ^ 32) ∧
        ProductFits block.x block.y block.z ∧ ProductFits grid.x grid.y grid.z) ∧
      r = engine.dispatch regs isSignaled channel shader grid block constBuffers allocator wait
        dev := by
  simp only [ComputeEngine.dispatchChecked, Option.bind_eq_some_iff,
    dispatchFenceChecked_eq_some_iff, buildDispatchCommandsChecked_eq_some_iff]
  constructor
  · rintro ⟨_, ⟨hcount, rfl⟩, _, ⟨hfits, rfl⟩, h⟩
    rw [hc.submitChecked regs (shortSlice_buildDispatchCommands hlen _), Option.map_some,
      Option.some.injEq] at h
    exact ⟨⟨hcount, hfits⟩, h.symm⟩
  · rintro ⟨⟨hcount, hfits⟩, rfl⟩
    refine ⟨_, ⟨hcount, rfl⟩, _, ⟨hfits, rfl⟩, ?_⟩
    rw [hc.submitChecked regs (shortSlice_buildDispatchCommands hlen _), Option.map_some]
    rfl

end Dispatch

/-! ### Runs -/

/-- The arguments of a dispatch, with what the GPU answers while it waits. -/
structure Launch where
  isSignaled : GpuFence → ℕ → Bool
  shader : ShaderProgram
  grid : GridDim
  block : BlockDim
  constBuffers : List ConstantBufferBinding
  wait : Bool

/-- The hardware admits the launch, and its constant buffers are not too many. -/
structure Launch.Legal (l : Launch) : Prop where
  grid_x : l.grid.x.toNat < 2 ^ 31
  grid_y : l.grid.y.toNat < 2 ^ 16
  grid_z : l.grid.z.toNat < 2 ^ 16
  block : l.block.x.toNat * l.block.y.toNat * l.block.z.toNat ≤ 1024
  constBuffers : l.constBuffers.length < 2 ^ 20

/-- The dimensions can be multiplied in 32 bits. -/
structure Launch.Fits (l : Launch) : Prop where
  grid_xy : l.grid.x.toNat * l.grid.y.toNat < 2 ^ 32
  grid_xyz : l.grid.x.toNat * l.grid.y.toNat * l.grid.z.toNat < 2 ^ 32
  /-- A legal block fails this only if its `z` is zero. -/
  block_xy : l.block.x.toNat * l.block.y.toNat < 2 ^ 32

/-- An engine, and the allocator, the channels and the device that it works on. -/
structure DispatchSystem (δ : Type*) where
  /-- The engine. -/
  engine : ComputeEngine
  /-- Everything else. -/
  fifo : FifoSystem δ

/-- A dispatch on a channel, or anything else that is done with the channels and the allocator. -/
inductive DispatchOp where
  | dispatch (i : ℕ) (l : Launch)
  | fifo (op : FifoOp)

section Runs

variable {δ : Type*}

/-- Nothing dispatched, nothing allocated and no channel. -/
def DispatchSystem.init (regs : GpuRegs δ) (family : GpuFamily) (bar1CpuBase bar1Size : UInt64)
    (dev : δ) : DispatchSystem δ :=
  ⟨.new family, .init regs bar1CpuBase bar1Size dev⟩

/-- Dispatches among other operations on the channels, as a machine. -/
def dispatches (regs : GpuRegs δ) : Machine (DispatchSystem δ) DispatchOp (Option Dispatched) where
  step s
    | .dispatch i l =>
      match s.fifo.channels[i]? with
      -- there is no such channel: nothing is called
      | none => (none, s)
      | some c =>
        let (d, engine, c', allocator, dev) := s.engine.dispatch regs l.isSignaled c l.shader l.grid
          l.block l.constBuffers s.fifo.allocator l.wait s.fifo.dev
        (some d, ⟨engine, allocator, s.fifo.channels.set i c', dev⟩)
    | .fifo op => (none, { s with fifo := ((fifoSystem regs).step s.fifo op).2 })

/-- One performed operation. -/
abbrev DispatchEvent (δ : Type*) := Event (DispatchSystem δ) DispatchOp (Option Dispatched)

/-- The channel and the arguments of a dispatch. -/
def DispatchEvent.call (e : DispatchEvent δ) : Option (Channel × Launch) :=
  match e.op with
  | .dispatch i l => e.pre.fifo.channels[i]?.map fun c => (c, l)
  | .fifo _ => none

/-- The number of dispatches that wait. -/
def waits (tr : List (DispatchEvent δ)) : ℕ :=
  (tr.filterMap DispatchEvent.call).countP fun call => call.2.wait

/-- If the event is a dispatch, then nothing overflows in it. -/
def NoOverflow (regs : GpuRegs δ) (e : DispatchEvent δ) : Prop :=
  ∀ c l, e.call = some (c, l) →
    (e.pre.engine.dispatchChecked regs l.isSignaled c l.shader l.grid l.block l.constBuffers
      e.pre.fifo.allocator l.wait e.pre.fifo.dev).isSome

/-- If the event is a dispatch, then its dimensions can be multiplied, and there is a fence value
left if it waits. -/
def FitsAfter (e : DispatchEvent δ) (before : List (DispatchEvent δ)) : Prop :=
  ∀ c l, e.call = some (c, l) → l.Fits ∧ (l.wait = true → waits before + 2 < 2 ^ 32)

/-- The channels are in their bounds, and the fence counter counts the dispatches that wait. -/
structure DispatchInv (tr : List (DispatchEvent δ)) (s : DispatchSystem δ) : Prop where
  channels : ChannelsBounded s.fifo
  counter : s.engine.nextFenceValue.toNat = waits tr + 1

theorem Launch.Legal.fits_iff {l : Launch} (h : l.Legal) :
    l.Fits ↔
      ProductFits l.block.x l.block.y l.block.z ∧ ProductFits l.grid.x l.grid.y l.grid.z := by
  have hblock := h.block
  constructor
  · intro hfits
    exact ⟨⟨hfits.block_xy, by omega⟩, hfits.grid_xy, hfits.grid_xyz⟩
  · rintro ⟨⟨hblock, -⟩, hgrid⟩
    exact ⟨hgrid.1, hgrid.2, hblock⟩

@[simp] theorem call_event_dispatch (regs : GpuRegs δ) (s : DispatchSystem δ) (i : ℕ)
    (l : Launch) :
    DispatchEvent.call ((dispatches regs).event s (.dispatch i l)) =
      s.fifo.channels[i]?.map fun c => (c, l) := rfl

@[simp] theorem call_event_fifo (regs : GpuRegs δ) (s : DispatchSystem δ) (op : FifoOp) :
    DispatchEvent.call ((dispatches regs).event s (.fifo op)) = none := rfl

theorem step_dispatch_some (regs : GpuRegs δ) {s : DispatchSystem δ} {i : ℕ} {c : Channel}
    {l : Launch} (hc : s.fifo.channels[i]? = some c) :
    ((dispatches regs).step s (.dispatch i l)).2 =
      let r := s.engine.dispatch regs l.isSignaled c l.shader l.grid l.block l.constBuffers
        s.fifo.allocator l.wait s.fifo.dev
      ⟨r.2.1, r.2.2.2.1, s.fifo.channels.set i r.2.2.1, r.2.2.2.2⟩ := by
  simp only [dispatches, hc]

theorem waits_cons_of_none {e : DispatchEvent δ} (h : e.call = none) (tr : List (DispatchEvent δ)) :
    waits (e :: tr) = waits tr := by
  rw [waits, List.filterMap_cons_none h, waits]

theorem waits_cons_of_some {e : DispatchEvent δ} {c : Channel} {l : Launch}
    (h : e.call = some (c, l)) (tr : List (DispatchEvent δ)) :
    waits (e :: tr) = waits tr + if l.wait then 1 else 0 := by
  rw [waits, List.filterMap_cons_some h, List.countP_cons, waits]

namespace DispatchInv

variable {regs : GpuRegs δ} {tr : List (DispatchEvent δ)} {s : DispatchSystem δ}

theorem noOverflow_iff (h : DispatchInv tr s) {op : DispatchOp}
    (hop : ∀ i l, op = .dispatch i l → l.Legal) :
    NoOverflow regs ((dispatches regs).event s op) ↔
      FitsAfter ((dispatches regs).event s op) tr := by
  refine forall_congr' fun c => forall_congr' fun l => imp_congr_right fun hcall => ?_
  cases op with
  | fifo op => cases hcall
  | dispatch i l' =>
    rw [call_event_dispatch] at hcall
    obtain ⟨c, hc, hcl⟩ := Option.map_eq_some_iff.1 hcall
    cases hcl
    have hlegal := hop i l rfl
    have hbounded := h.channels.channels c (List.mem_of_getElem? hc)
    have hcounter := h.counter
    rw [Option.isSome_iff_exists]
    simp only [dispatchChecked_eq_some_iff hbounded hlegal.constBuffers, exists_and_left,
      exists_eq, and_true, ← hlegal.fits_iff, Machine.event_pre, hcounter]
    exact and_comm

theorem dispatchFence_counter (engine : ComputeEngine) {allocator : VramAllocator}
    (ha : allocator.VaWithinVram) {wait : Bool} {n : ℕ} (hn : engine.nextFenceValue.toNat = n + 1)
    (hfits : wait = true → n + 2 < 2 ^ 32) :
    (engine.dispatchFence allocator wait).2.2.VaWithinVram ∧
      (engine.dispatchFence allocator wait).2.1.nextFenceValue.toNat =
        n + (if wait then 1 else 0) + 1 := by
  cases wait with
  | false => exact ⟨ha, hn⟩
  | true =>
    rw [dispatchFence_true_snd]
    refine ⟨(ha.allocate 64).1, ?_⟩
    show (engine.nextFenceValue + 1).toNat = _
    have hlt := hfits rfl
    rw [UInt32.toNat_add, hn, UInt32.toNat_one, if_pos rfl, Nat.mod_eq_of_lt (by omega)]

/-- A dispatch on a channel keeps the invariant: its submit keeps the channel in its bounds. -/
theorem dispatch (h : DispatchInv tr s) {i : ℕ} {c : Channel} {l : Launch}
    (hc : s.fifo.channels[i]? = some c) (hfits : l.wait = true → waits tr + 2 < 2 ^ 32) :
    DispatchInv ((dispatches regs).event s (.dispatch i l) :: tr)
      ((dispatches regs).step s (.dispatch i l)).2 := by
  have hcall : DispatchEvent.call ((dispatches regs).event s (.dispatch i l)) = some (c, l) := by
    rw [call_event_dispatch, hc, Option.map_some]
  have hfence := dispatch_eq_dispatchFence regs l.isSignaled s.engine c l.shader l.grid l.block
    l.constBuffers s.fifo.allocator l.wait s.fifo.dev
  have hchannel := dispatch_channel regs l.isSignaled s.engine c l.shader l.grid l.block
    l.constBuffers s.fifo.allocator s.fifo.dev l.wait
  obtain ⟨ha, hcounter⟩ :=
    dispatchFence_counter s.engine h.channels.allocator h.counter hfits
  have hbounded := (h.channels.channels c (List.mem_of_getElem? hc)).submit regs
    (dispatchCmds s.engine l.shader l.grid l.block l.constBuffers s.fifo.allocator l.wait)
    s.fifo.dev
  rw [← hfence] at ha hcounter
  rw [← hchannel] at hbounded
  rw [step_dispatch_some regs hc]
  refine ⟨h.channels.set hbounded i ha _, ?_⟩
  rw [waits_cons_of_some hcall]
  exact hcounter

/-- **Every operation that fits keeps the invariant.** -/
theorem step (h : DispatchInv tr s) {op : DispatchOp}
    (hfits : FitsAfter ((dispatches regs).event s op) tr) :
    DispatchInv ((dispatches regs).event s op :: tr) ((dispatches regs).step s op).2 := by
  cases op with
  | fifo op =>
    refine ⟨h.channels.step regs op, ?_⟩
    rw [waits_cons_of_none (call_event_fifo regs s op)]
    exact h.counter
  | dispatch i l =>
    cases hc : s.fifo.channels[i]? with
    | none =>
      have hcall : DispatchEvent.call ((dispatches regs).event s (.dispatch i l)) = none := by
        rw [call_event_dispatch, hc, Option.map_none]
      have hsame : ((dispatches regs).step s (.dispatch i l)).2 = s := by
        simp only [dispatches, hc]
      rw [hsame]
      exact ⟨h.channels, by rw [waits_cons_of_none hcall]; exact h.counter⟩
    | some c =>
      refine h.dispatch hc (hfits c l ?_).2
      rw [call_event_dispatch, hc, Option.map_some]

end DispatchInv

/-- **When nothing overflows in a run** of legal dispatches among any other operations on the
channels: the dimensions of every launch can be multiplied in 32 bits, and before a dispatch that
waits there have been fewer than `2 ^ 32 - 2` others. -/
theorem noOverflow_run_iff (regs : GpuRegs δ) (family : GpuFamily) (bar1CpuBase bar1Size : UInt64)
    (dev : δ) {ops : List DispatchOp} (hops : ∀ i l, .dispatch i l ∈ ops → l.Legal) :
    let tr := (dispatches regs).trace (.init regs family bar1CpuBase bar1Size dev) ops
    Always (fun e _ => NoOverflow regs e) tr ↔ Always FitsAfter tr := by
  refine Machine.always_iff_of (R := fun op => ∀ i l, op = .dispatch i l → l.Legal)
    (I := DispatchInv) ?_ ?_ ?_ ?_
  · exact ⟨.init regs bar1CpuBase bar1Size dev, rfl⟩
  · exact fun tr s op _ h hfits => h.step hfits
  · exact fun tr s op hop h => h.noOverflow_iff hop
  · exact fun op hop i l hl => hops i l (hl ▸ hop)

end Runs

/-- A launch of an empty shader on the first channel of the smallest GPU. -/
def Launch.ofGrid (grid : GridDim) (wait : Bool) : Launch where
  isSignaled _ _ := true
  shader := ⟨⟨0, 0, 0, false, 0⟩, 0, 0, 0, 0, 0⟩
  grid := grid
  block := ⟨1024, 1, 1⟩
  constBuffers := []
  wait := wait

/-- A square grid that is nearly too large. -/
theorem noOverflow_run_square :
    Always (fun e _ => NoOverflow GpuRegs.plain e)
      ((dispatches GpuRegs.plain).trace (.init GpuRegs.plain .ampere 0 0 fun _ => 2)
        [.fifo (.allocateChannel 0 0), .dispatch 0 (.ofGrid ⟨0xFFFF, 0xFFFF, 1⟩ true)]) := by
  refine (noOverflow_run_iff GpuRegs.plain .ampere 0 0 _ ?_).2 (And.intro ?_ (And.intro ?_ trivial))
  · intro i l hl
    obtain ⟨-, rfl⟩ : i = 0 ∧ l = .ofGrid ⟨0xFFFF, 0xFFFF, 1⟩ true := by simpa using hl
    exact ⟨by decide, by decide, by decide, by decide, by decide⟩
  · intro c l hcall
    rw [call_event_dispatch] at hcall
    obtain ⟨_, -, hcl⟩ := Option.map_eq_some_iff.1 hcall
    cases hcl
    exact ⟨⟨by decide, by decide, by decide⟩, fun _ => by decide⟩
  · exact fun _ _ hcall => by cases hcall

/-- A grid of `2 ^ 32` blocks, which the hardware admits, stops the driver. -/
theorem not_noOverflow_two_pow_32 :
    (Launch.ofGrid ⟨0x100000, 0x1000, 1⟩ false).Legal ∧
      ¬ Always (fun e _ => NoOverflow GpuRegs.plain e)
        ((dispatches GpuRegs.plain).trace (.init GpuRegs.plain .ampere 0 0 fun _ => 2)
          [.fifo (.allocateChannel 0 0), .dispatch 0 (.ofGrid ⟨0x100000, 0x1000, 1⟩ false)]) := by
  refine ⟨⟨by decide, by decide, by decide, by decide, by decide⟩, fun h => ?_⟩
  have hstep := h.1 .first (.ofGrid ⟨0x100000, 0x1000, 1⟩ false) rfl
  revert hstep
  decide

end GpuCompute
