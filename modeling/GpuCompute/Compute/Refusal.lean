import GpuCompute.Compute.Dispatch
import GpuCompute.Compute.Fences
import GpuCompute.Memory.Totals

/-!
# Refused dispatches

A dispatch that waits takes a fence value and a page of VRAM before it submits the launch.  When the
channel refuses the launch, neither of them is given back: a caller that tries again on a full push
buffer uses up a page with every attempt.

`launchLength` is the number of words of a launch, and `dispatch_eq_of_not_accepts` what a dispatch
does when there is no room for them.  It changes nothing exactly when it does not wait
(`leavesNoTrace_iff`), and `freeBytes_retry` adds up what the attempts cost.
-/

namespace GpuCompute

open Systems VramAllocator

/-- If the submission was refused, the fence counter, the free list, the address counter and the
channel are what they were before the call. -/
def LeavesNoTrace {δ : Type*} (engine : ComputeEngine) (channel : Channel)
    (allocator : VramAllocator)
    (r : Dispatched × ComputeEngine × Channel × VramAllocator × δ) : Prop :=
  let (d, engine', channel', allocator', _) := r
  d.result = false → d.submission = none →
    engine'.nextFenceValue = engine.nextFenceValue ∧
      allocator'.freeList = allocator.freeList ∧ allocator'.nextGpuVa = allocator.nextGpuVa ∧
      channel'.pushOffset = channel.pushOffset ∧ channel'.gpfifoPut = channel.gpfifoPut

section

variable {δ : Type*} (regs : GpuRegs δ) (isSignaled : GpuFence → ℕ → Bool)
  (engine : ComputeEngine) (channel : Channel) (shader : ShaderProgram) (grid : GridDim)
  (block : BlockDim) (constBuffers : List ConstantBufferBinding) (allocator : VramAllocator)
  (wait : Bool) (dev : δ)

/-- The number of words of a launch with `n` constant buffers. -/
def launchLength (allocator : VramAllocator) (wait : Bool) (n : ℕ) : ℕ :=
  22 + 4 * n + if wait = true ∧ ∃ r ∈ allocator.freeList, 4096 ≤ r.size then 8 else 0

theorem length_dispatchCmds :
    (dispatchCmds engine shader grid block constBuffers allocator wait).length =
      launchLength allocator wait constBuffers.length := by
  have hfence : (engine.dispatchFence allocator wait).1.isSome ↔
      wait = true ∧ ∃ r ∈ allocator.freeList, 4096 ≤ r.size := by
    cases wait with
    | false => simp [ComputeEngine.dispatchFence]
    | true =>
      rw [(dispatchFence_true engine allocator).1, Option.isSome_map, Option.isSome_iff_ne_none,
        allocate_fence_ne_none_iff]
      simp
  rw [dispatchCmds, length_buildDispatchCommands, launchLength]
  simp only [hfence]

/-- **What a refused dispatch does**: it has taken its fence, and nothing else has happened. -/
theorem dispatch_eq_of_not_accepts
    (hacc : ¬ channel.Accepts (launchLength allocator wait constBuffers.length)) :
    engine.dispatch regs isSignaled channel shader grid block constBuffers allocator wait dev =
      let (fence, engine', allocator') := engine.dispatchFence allocator wait
      let cmds := dispatchCmds engine shader grid block constBuffers allocator wait
      (⟨false, fence, cmds, none, 0⟩, engine', channel, allocator', dev) := by
  rw [← length_dispatchCmds engine shader grid block] at hacc
  have hsubmit := Channel.submit_of_not_accepts regs hacc dev
  unfold dispatchCmds at hsubmit
  unfold ComputeEngine.dispatch dispatchCmds
  dsimp only
  rw [hsubmit]

theorem dispatch_submission_of_accepts
    (hacc : channel.Accepts (launchLength allocator wait constBuffers.length)) :
    (engine.dispatch regs isSignaled channel shader grid block constBuffers allocator wait
      dev).1.submission ≠ none := by
  rw [← length_dispatchCmds engine shader grid block] at hacc
  have hsubmit := Channel.submit_of_accepts regs hacc dev
  unfold dispatchCmds at hsubmit
  unfold ComputeEngine.dispatch
  dsimp only
  rw [hsubmit]
  dsimp only
  split <;> exact Option.some_ne_none _

/-- A refused dispatch that waits has used up a fence value, whether there was room for its fence or
not. -/
theorem not_leavesNoTrace
    (hacc : ¬ channel.Accepts (launchLength allocator true constBuffers.length)) :
    ¬ LeavesNoTrace engine channel allocator
      (engine.dispatch regs isSignaled channel shader grid block constBuffers allocator true
        dev) := by
  rw [dispatch_eq_of_not_accepts regs isSignaled engine channel shader grid block constBuffers
    allocator true dev hacc]
  intro h
  have hsame : engine.nextFenceValue + 1 = engine.nextFenceValue := (h rfl rfl).1
  simp at hsame

/-- **A refused dispatch changes nothing exactly when it does not wait.** -/
theorem leavesNoTrace_iff :
    LeavesNoTrace engine channel allocator
        (engine.dispatch regs isSignaled channel shader grid block constBuffers allocator wait
          dev) ↔
      wait = false ∨ channel.Accepts (launchLength allocator wait constBuffers.length) := by
  by_cases hacc : channel.Accepts (launchLength allocator wait constBuffers.length)
  · have hsub := dispatch_submission_of_accepts regs isSignaled engine channel shader grid block
      constBuffers allocator wait dev hacc
    exact iff_of_true (fun _ hnone => absurd hnone hsub) (.inr hacc)
  · rw [or_iff_left hacc]
    cases wait with
    | false =>
      rw [dispatch_eq_of_not_accepts regs isSignaled engine channel shader grid block constBuffers
        allocator false dev hacc]
      exact iff_of_true (fun _ _ => ⟨rfl, rfl, rfl, rfl, rfl⟩) rfl
    | true =>
      exact iff_of_false (not_leavesNoTrace regs isSignaled engine channel shader grid block
        constBuffers allocator dev hacc) Bool.noConfusion

end

/-- The first channel after 65536 words have been submitted to it. -/
def Channel.full : Channel := { Channel.first with gpfifoPut := 1, pushOffset := 0x40000 }

theorem Channel.submit_first_full {δ : Type*} (regs : GpuRegs δ) {commands : List UInt32}
    (hlen : commands.length = 65536) (dev : δ) :
    (Channel.first.submit regs commands dev).2.1 = .full := by
  have hacc : Channel.first.Accepts commands.length := by rw [hlen]; decide
  rw [Channel.submit_of_accepts regs hacc, hlen]
  rfl

/-- On a push buffer that is used up, a dispatch that waits is refused and has taken a fence. -/
theorem not_leavesNoTrace_full :
    let allocator := (Channel.allocate .twoMiB 0 0).2
    (∃ commands, (Channel.first.submit GpuRegs.plain commands fun _ => 0).2.1 = .full) ∧
      ¬ LeavesNoTrace (.new .ampere) .full allocator
        ((ComputeEngine.new .ampere).dispatch GpuRegs.plain (fun _ _ => false) .full
          ⟨⟨0, 0, 0, false, 0⟩, 0, 0, 0, 0, 0⟩ ⟨1, 1, 1⟩ ⟨1, 1, 1⟩ [] allocator true
          fun _ => 0) := by
  intro allocator
  have hlength : 22 ≤ launchLength allocator true 0 ∧ launchLength allocator true 0 ≤ 30 := by
    unfold launchLength
    split_ifs <;> omega
  have hacc : ¬ Channel.full.Accepts (launchLength allocator true 0) := by
    rw [Channel.accepts_iff]
    simp only [Channel.full, UInt32.reduceToNat]
    change ¬ _ ≤ 262144
    omega
  have hlen : ∃ commands : List UInt32, commands.length = 65536 :=
    ⟨_, List.length_replicate (a := 0)⟩
  obtain ⟨commands, hcommands⟩ := hlen
  exact ⟨⟨commands, Channel.submit_first_full _ hcommands _⟩,
    not_leavesNoTrace _ _ _ _ _ _ _ _ _ _ hacc⟩

/-! ### Trying again -/

section

variable {δ : Type*} (regs : GpuRegs δ) (isSignaled : GpuFence → ℕ → Bool) (channel : Channel)
  (shader : ShaderProgram) (grid : GridDim) (block : BlockDim)
  (constBuffers : List ConstantBufferBinding)

theorem freeBytes_allocate_page {a : VramAllocator} {A : Arena ℕ} (h : a.RepresentsArena A) (n : ℕ)
    {free : ℕ} (hfree : a.freeBytes = free - 4096 * min n (free / 4096)) :
    (a.allocate 64).2.freeBytes = free - 4096 * min (n + 1) (free / 4096) := by
  have hpage : (alignedSize 64).toNat = 4096 := by decide
  by_cases hle : 4096 ≤ a.freeBytes
  · obtain ⟨physAddr, -, heq⟩ := h.allocate_of_le (hpage.trans_le hle)
    rw [heq, (h.freeBytes_bump (hpage.trans_le hle)).1, hpage]
    omega
  · rw [h.allocate_of_lt (by omega)]
    show a.freeBytes = _
    omega

theorem launchLength_cases (allocator : VramAllocator) (wait : Bool) (n : ℕ) :
    launchLength allocator wait n = 22 + 4 * n ∨
      launchLength allocator wait n = 22 + 4 * n + 8 := by
  unfold launchLength
  split_ifs
  · exact .inr rfl
  · exact .inl rfl

/-- What one attempt does: it takes a fence value, and a page if there is one. -/
theorem fences_step_of_not_accepts (s : FenceState δ)
    (hacc : ¬ channel.Accepts (22 + 4 * constBuffers.length))
    (hacc' : ¬ channel.Accepts (22 + 4 * constBuffers.length + 8)) :
    ((fences regs).step s (.dispatch isSignaled channel shader grid block constBuffers true)).2 =
      { engine := { s.engine with nextFenceValue := s.engine.nextFenceValue + 1 }
        allocator := (s.allocator.allocate 64).2
        dev := s.dev } := by
  have hrefused : ¬ channel.Accepts (launchLength s.allocator true constBuffers.length) := by
    rcases launchLength_cases s.allocator true constBuffers.length with hlen | hlen <;> rw [hlen]
    · exact hacc
    · exact hacc'
  have hfence := dispatchFence_true_snd s.engine s.allocator
  simp only [fences]
  rw [dispatch_eq_of_not_accepts regs isSignaled s.engine channel shader grid block constBuffers
    s.allocator true s.dev hrefused]
  exact congrArg (fun p : ComputeEngine × VramAllocator => FenceState.mk p.1 p.2 s.dev) hfence

/-- What `n` refused attempts have cost: a fence value each, and a page each as long as there was
one. -/
structure Drained (s : FenceState δ) (n : ℕ) (s' : FenceState δ) : Prop where
  nextFenceValue : s'.engine.nextFenceValue = s.engine.nextFenceValue + UInt32.ofNat n
  dev : s'.dev = s.dev
  freeBytes : s'.allocator.freeBytes =
    s.allocator.freeBytes - 4096 * min n (s.allocator.freeBytes / 4096)

/-- Attempts on an allocator whose free list is what is left of VRAM.  By induction on the attempts,
which keep it so. -/
theorem drained_of_representsArena {s : FenceState δ} {A : Arena ℕ}
    (h : s.allocator.RepresentsArena A)
    (hacc : ¬ channel.Accepts (22 + 4 * constBuffers.length))
    (hacc' : ¬ channel.Accepts (22 + 4 * constBuffers.length + 8)) (n : ℕ) :
    let op := FenceOp.dispatch isSignaled channel shader grid block constBuffers true
    let s' := (fences regs).final s (.replicate n op)
    (∃ A', s'.allocator.RepresentsArena A') ∧ Drained s n s' := by
  intro op
  induction n with
  | zero => exact ⟨⟨A, h⟩, ⟨(add_zero _).symm, rfl, by simp⟩⟩
  | succ n ih =>
    obtain ⟨⟨A', hA'⟩, hn⟩ := ih
    rw [List.replicate_succ', Machine.final_concat, fences_step_of_not_accepts regs isSignaled
      channel shader grid block constBuffers _ hacc hacc']
    refine ⟨⟨_, (hA'.allocate 64).2⟩, ⟨?_, hn.dev, freeBytes_allocate_page hA' n hn.freeBytes⟩⟩
    have hsucc : UInt32.ofNat (n + 1) = UInt32.ofNat n + 1 := by simp
    rw [hsucc, ← add_assoc, ← hn.nextFenceValue]

/-- **Every attempt costs a page.**  When a channel refuses a launch with and without a fence, a
caller that dispatches it `n` times has lost `n` pages, or all pages there were, whatever has been
allocated before. -/
theorem freeBytes_retry (vramDev : δ) (bar1CpuBase bar1Size : UInt64) (ops : List VramOp)
    (engine : ComputeEngine) (dev : δ) (hacc : ¬ channel.Accepts (22 + 4 * constBuffers.length))
    (hacc' : ¬ channel.Accepts (22 + 4 * constBuffers.length + 8)) (n : ℕ) :
    let allocator := vram.final (detectAndInit regs bar1CpuBase bar1Size vramDev).1 ops
    let op := FenceOp.dispatch isSignaled channel shader grid block constBuffers true
    Drained ⟨engine, allocator, dev⟩ n
      ((fences regs).final ⟨engine, allocator, dev⟩ (.replicate n op)) :=
  (drained_of_representsArena regs isSignaled channel shader grid block constBuffers
    (final_representsArena (ofInfo_representsArena _ _ _) ops) hacc hacc' n).2

end

/-- On a push buffer that is used up, a thousand attempts take all that the channel has left of the
smallest VRAM. -/
theorem freeBytes_retry_full :
    let allocator := vram.final (detectAndInit GpuRegs.plain 0 0 fun _ => 2).1
      [.allocate 0x2000, .allocate 0x40000]
    let op := FenceOp.dispatch (fun _ _ => false) .full ⟨⟨0, 0, 0, false, 0⟩, 0, 0, 0, 0, 0⟩
      ⟨1, 1, 1⟩ ⟨1, 1, 1⟩ [] true
    Drained ⟨.new .ampere, allocator, fun _ => 0⟩ 1000
      ((fences GpuRegs.plain).final ⟨.new .ampere, allocator, fun _ => 0⟩ (.replicate 1000 op)) :=
  freeBytes_retry GpuRegs.plain _ .full _ _ _ [] (fun _ => 2) 0 0 _ _ _ (by decide) (by decide) 1000

end GpuCompute
