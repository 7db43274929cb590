import GpuCompute.Compute.Engine
import GpuCompute.Memory.Virtual
import Mathlib.Algebra.BigOperators.Group.List.Lemmas

/-!
# The fences of a run

Every dispatch that waits uses up a fence value, whether there is room for its fence or not, and the
values are 32-bit words that wrap.  Still no two fences have the same value.  A fence takes a page
of VRAM, and VRAM is never given back: as soon as one fence has failed all later ones fail, so that
the values of the fences that there are run from `1` on without a gap.

* `FenceOp`, `fences` : dispatches and other allocations, as a machine.
* `FencesSeparate` : no fence of a list can signal another one.
* `fences_step` : all that a step can do.
* `FencesInOrder.step` : every step keeps the fences in order.
* `fencesSeparate_run` : the fences of a run are separate.
-/

namespace GpuCompute

open Systems VramAllocator

/-! ### Dispatches and allocations -/

/-- The engine, the allocator and the device. -/
structure FenceState (δ : Type*) where
  /-- The engine. -/
  engine : ComputeEngine
  /-- The allocator. -/
  allocator : VramAllocator
  /-- The device. -/
  dev : δ

/-- A dispatch, with what the GPU answers while it waits, or an allocation for something else. -/
inductive FenceOp where
  | dispatch (isSignaled : GpuFence → ℕ → Bool) (channel : Channel) (shader : ShaderProgram)
      (grid : GridDim) (block : BlockDim) (constBuffers : List ConstantBufferBinding) (wait : Bool)
  | allocate (size : UInt64)

/-- Dispatches and allocations as a machine, which shows the fences that dispatches create. -/
def fences {δ : Type*} (regs : GpuRegs δ) : Machine (FenceState δ) FenceOp (Option GpuFence) where
  step s
    | .dispatch isSignaled channel shader grid block constBuffers wait =>
      let (d, engine, _, allocator, dev) := s.engine.dispatch regs isSignaled channel shader grid
        block constBuffers s.allocator wait s.dev
      (d.fence, { engine, allocator, dev })
    | .allocate size => (none, { s with allocator := (s.allocator.allocate size).2 })

/-- The fences of a run, newest first. -/
def createdFences {δ : Type*} (tr : List (Event (FenceState δ) FenceOp (Option GpuFence))) :
    List GpuFence := tr.filterMap Event.out

/-- The GPU virtual range of a fence. -/
def GpuFence.vaBlock (f : GpuFence) : Block ℕ :=
  ⟨f.allocation.gpuVa.toNat, f.allocation.size.toNat⟩

/-- No fence can signal another one. -/
structure FencesSeparate (fs : List GpuFence) : Prop where
  /-- No two fences have the same value. -/
  nodup : (fs.map GpuFence.signalValue).Nodup
  ne_zero : ∀ f ∈ fs, f.signalValue ≠ 0
  /-- A semaphore fits. -/
  le_size : ∀ f ∈ fs, 64 ≤ f.allocation.size
  /-- Every range lies in the address space, as exact integers. -/
  within : ∀ f ∈ fs, f.vaBlock.Within 0x100000000 (2 ^ 64)
  /-- No two ranges overlap. -/
  disjoint : (fs.map GpuFence.vaBlock).Pairwise Block.Sep

/-! ### What a step can do -/

section Step

variable {δ : Type*} (regs : GpuRegs δ)

theorem dispatch_eq_dispatchFence (isSignaled : GpuFence → ℕ → Bool) (engine : ComputeEngine)
    (channel : Channel) (shader : ShaderProgram) (grid : GridDim) (block : BlockDim)
    (constBuffers : List ConstantBufferBinding) (allocator : VramAllocator) (wait : Bool)
    (dev : δ) :
    let r := engine.dispatch regs isSignaled channel shader grid block constBuffers allocator wait
      dev
    (r.1.fence, r.2.1, r.2.2.2.1) = engine.dispatchFence allocator wait := by
  intro r
  unfold r ComputeEngine.dispatch
  rcases engine.dispatchFence allocator wait with ⟨fence, engine', allocator'⟩
  dsimp only
  split
  · rfl
  · split <;> rfl

/-- What a step does to the engine and the allocator, and the fence that it creates. -/
inductive FenceStep (engine : ComputeEngine) (allocator : VramAllocator) :
    Option GpuFence → ComputeEngine → VramAllocator → Prop where
  /-- A dispatch that does not wait. -/
  | same : FenceStep engine allocator none engine allocator
  /-- Another allocation. -/
  | allocate (size : UInt64) :
    FenceStep engine allocator none engine (allocator.allocate size).2
  /-- A dispatch that waits, with room for its fence. -/
  | created {g : GpuAllocation} (hg : (allocator.allocate 64).1 = some g) :
    FenceStep engine allocator (some ⟨g, engine.nextFenceValue⟩)
      { engine with nextFenceValue := engine.nextFenceValue + 1 } (allocator.allocate 64).2
  /-- A dispatch that waits, without. -/
  | exhausted (hnone : (allocator.allocate 64).1 = none) :
    FenceStep engine allocator none
      { engine with nextFenceValue := engine.nextFenceValue + 1 } allocator

theorem dispatchFence_step (engine : ComputeEngine) (allocator : VramAllocator) (wait : Bool) :
    let r := engine.dispatchFence allocator wait
    FenceStep engine allocator r.1 r.2.1 r.2.2 := by
  cases wait with
  | false => exact .same
  | true =>
    cases hg : (allocator.allocate 64).1 with
    | none =>
      have heq := allocate_none hg
      simp only [ComputeEngine.dispatchFence, GpuFence.new, heq]
      exact .exhausted hg
    | some g =>
      have heq : allocator.allocate 64 = (some g, (allocator.allocate 64).2) := Prod.ext hg rfl
      have hstep : FenceStep engine allocator _ _ _ := .created hg
      simp only [ComputeEngine.dispatchFence, GpuFence.new]
      rw [heq]
      exact hstep

/-- **All that a step can do.** -/
theorem fences_step (s : FenceState δ) (op : FenceOp) :
    let r := (fences regs).step s op
    FenceStep s.engine s.allocator r.1 r.2.engine r.2.allocator := by
  cases op with
  | dispatch isSignaled channel shader grid block constBuffers wait =>
    have hstep := dispatchFence_step s.engine s.allocator wait
    rw [← dispatch_eq_dispatchFence regs isSignaled s.engine channel shader grid block constBuffers
      s.allocator wait s.dev] at hstep
    simp only [fences]
    generalize s.engine.dispatch regs isSignaled channel shader grid block constBuffers s.allocator
      wait s.dev = r at hstep ⊢
    exact hstep
  | allocate size => exact .allocate size

end Step

/-! ### The invariant -/

/-- The fences created so far have the values from `1` on and pages below the address counter, and
the engine goes on with the next value unless there is no room for a fence any more. -/
structure FencesInOrder (fs : List GpuFence) (engine : ComputeEngine) (allocator : VramAllocator) :
    Prop where
  vaWithinVram : allocator.VaWithinVram
  stacked : Stacked 0x100000000 (fs.map GpuFence.vaBlock) allocator.nextGpuVa.toNat
  size : ∀ f ∈ fs, f.allocation.size = 4096
  /-- Newest first. -/
  values : fs.map (fun f => f.signalValue.toNat) = (List.range' 1 fs.length).reverse
  next : engine.nextFenceValue.toNat = fs.length + 1 ∨ allocator.freeBytes < 4096

namespace FencesInOrder

variable {fs : List GpuFence} {engine : ComputeEngine} {allocator : VramAllocator}

/-- There are at most `2 ^ 25` fences, a page of VRAM for each. -/
theorem length_le (h : FencesInOrder fs engine allocator) : fs.length ≤ 2 ^ 25 := by
  have hsum := h.stacked.sum_le
  have hbound := h.vaWithinVram.bound
  have hsizes : ((fs.map GpuFence.vaBlock).map Block.size).sum = fs.length * 4096 := by
    rw [List.map_map, List.sum_eq_card_nsmul _ 4096, List.length_map, nsmul_eq_mul, Nat.cast_id]
    intro n hn
    obtain ⟨f, hf, rfl⟩ := List.mem_map.1 hn
    show f.allocation.size.toNat = 4096
    rw [h.size f hf]
    rfl
  rw [hsizes] at hsum
  omega

theorem allocate (h : FencesInOrder fs engine allocator) (size : UInt64) :
    FencesInOrder fs engine (allocator.allocate size).2 := by
  cases hg : (allocator.allocate size).1 with
  | none =>
    rw [allocate_none hg]
    exact h
  | some g =>
    obtain ⟨A, hA⟩ := h.vaWithinVram.arena
    have hva := h.vaWithinVram.toNat_nextGpuVa hg
    have hfree := hA.freeBytes_allocate hg
    refine ⟨(h.vaWithinVram.allocate size).1, h.stacked.mono (by omega), h.size, h.values, ?_⟩
    exact h.next.imp_right fun hlt => by omega

theorem created (h : FencesInOrder fs engine allocator) {g : GpuAllocation}
    (hg : (allocator.allocate 64).1 = some g) :
    FencesInOrder (⟨g, engine.nextFenceValue⟩ :: fs)
      { engine with nextFenceValue := engine.nextFenceValue + 1 } (allocator.allocate 64).2 := by
  have hpage : alignedSize 64 = 4096 := by decide
  have hbytes : (alignedSize 64).toNat = 4096 := by decide
  obtain ⟨A, hA⟩ := h.vaWithinVram.arena
  have hfree := hA.freeBytes_allocate hg
  have hva := h.vaWithinVram.toNat_nextGpuVa hg
  obtain ⟨hgva, hsize, -⟩ := allocate_some hg
  rw [hpage] at hsize
  -- there was room, so that no fence has failed yet
  have hnext : engine.nextFenceValue.toNat = fs.length + 1 := by
    exact h.next.resolve_right fun hlt => by omega
  refine ⟨(h.vaWithinVram.allocate 64).1, ?_, ?_, ?_, .inl ?_⟩
  · have hblock : (⟨g, engine.nextFenceValue⟩ : GpuFence).vaBlock =
        ⟨allocator.nextGpuVa.toNat, g.size.toNat⟩ := by rw [GpuFence.vaBlock, hgva]
    rw [List.map_cons, hblock, hva]
    exact h.stacked.push g.size.toNat
  · exact List.forall_mem_cons.2 ⟨hsize, h.size⟩
  · rw [List.map_cons, h.values, List.length_cons, List.range'_1_concat, List.reverse_concat]
    simp only [hnext, Nat.add_comm]
  · have hle := h.length_le
    show (engine.nextFenceValue + 1).toNat = _
    rw [UInt32.toNat_add, hnext, UInt32.toNat_one, List.length_cons]
    omega

/-- Without room for a fence the value does not matter any more. -/
theorem exhausted (h : FencesInOrder fs engine allocator)
    (hnone : (allocator.allocate 64).1 = none) :
    FencesInOrder fs { engine with nextFenceValue := engine.nextFenceValue + 1 } allocator := by
  refine ⟨h.vaWithinVram, h.stacked, h.size, h.values, .inr ?_⟩
  obtain ⟨A, hA⟩ := h.vaWithinVram.arena
  obtain ⟨r, hr, -⟩ := hA.region
  have hlt := allocate_eq_none_iff.1 hnone r (by simp [hr])
  have hpage : alignedSize 64 = 4096 := by decide
  rw [hpage, UInt64.lt_iff_toNat_lt, UInt64.toNat_ofNat] at hlt
  simpa [VramAllocator.freeBytes, hr] using hlt

/-- **Every step keeps the fences in order.** -/
theorem step (h : FencesInOrder fs engine allocator) {out : Option GpuFence}
    {engine' : ComputeEngine} {allocator' : VramAllocator}
    (hstep : FenceStep engine allocator out engine' allocator') :
    FencesInOrder (out.toList ++ fs) engine' allocator' := by
  cases hstep with
  | same => exact h
  | allocate size => exact h.allocate size
  | created hg => exact h.created hg
  | exhausted hnone => exact h.exhausted hnone

theorem separate (h : FencesInOrder fs engine allocator) : FencesSeparate fs := by
  have hle := h.length_le
  constructor
  case nodup =>
    refine List.Nodup.of_map UInt32.toNat ?_
    rw [List.map_map]
    exact h.values ▸ List.nodup_reverse.2 (List.nodup_range' 1)
  case ne_zero =>
    intro f hf hzero
    have hmem : f.signalValue.toNat ∈ (List.range' 1 fs.length).reverse :=
      h.values ▸ List.mem_map_of_mem hf
    rw [hzero, List.mem_reverse, List.mem_range'_1, UInt32.toNat_zero] at hmem
    omega
  case le_size =>
    intro f hf
    rw [h.size f hf]
    decide
  case within =>
    intro f hf
    have hbound := h.vaWithinVram.bound
    obtain ⟨hlo, hhi⟩ := h.stacked.within _ (List.mem_map_of_mem hf)
    exact ⟨hlo, by omega⟩
  case disjoint => exact h.stacked.pairwise_sep

end FencesInOrder

/-! ### Runs -/

/-- **The fences of a run are separate**, whatever is dispatched and allocated, in any order. -/
theorem fencesSeparate_run {δ : Type*} (regs : GpuRegs δ) (dev : δ)
    (bar1CpuBase bar1Size : UInt64) (family : GpuFamily) (ops : List FenceOp) :
    let (allocator, dev) := detectAndInit regs bar1CpuBase bar1Size dev
    FencesSeparate (createdFences
      ((fences regs).trace { engine := .new family, allocator, dev } ops)) := by
  refine FencesInOrder.separate (Machine.run_induction'
    (motive := fun tr (s : FenceState δ) => FencesInOrder (createdFences tr) s.engine s.allocator)
    ?_ ?_ ops)
  · exact ⟨detectAndInit_vaWithinVram regs _ _ _, le_rfl, by simp [createdFences], rfl, .inl rfl⟩
  · intro tr s op h
    rw [createdFences, Machine.filterMap_out_cons]
    exact h.step (fences_step regs s op)

/-- With room for one fence only, two dispatches that wait use up two values and create one. -/
example :
    let a := (detectAndInit GpuRegs.plain 0 0 fun _ => 2).1
    let op := FenceOp.dispatch (fun _ _ => true) .first ⟨⟨0, 0, 0, false, 0⟩, 0, 0, 0, 0, 0⟩
      ⟨1, 1, 1⟩ ⟨1, 1, 1⟩ [] true
    let ops := [.allocate 0xFF000, op, op]
    let s : FenceState (UInt32 → UInt32) := ⟨.new .ampere, a, fun _ => 0⟩
    (createdFences ((fences GpuRegs.plain).trace s ops)).map GpuFence.signalValue = [1] ∧
      ((fences GpuRegs.plain).final s ops).engine.nextFenceValue = 3 := by
  decide

end GpuCompute
