import GpuCompute.Compute.Stream

/-!
# Completion of a dispatch

A dispatch that waits should return `true` only after it has seen its fence signaled.  It allocates
the fence first, and when VRAM is exhausted it goes on without one: the launch is submitted, there
is nothing to wait for, and `true` is returned.

`Observed` says that a dispatch which reports completion has seen it.  A wait succeeds exactly when
one of its polls does (`GpuFence.wait_eq_true_iff`), so that completion is observed with a fence;
`observed_iff` concludes that it is exactly when there is room for a fence or the channel refuses
the launch.
-/

namespace GpuCompute

open Systems VramAllocator

/-! ### Waiting -/

namespace GpuFence

/-- What a spin returns and how often it has polled. -/
theorem spin_spec (isSignaled : ℕ → Bool) (iters i : ℕ) :
    ((spin isSignaled i iters).1 = true ↔ ∃ j, i ≤ j ∧ j < i + iters ∧ isSignaled j = true) ∧
    ((spin isSignaled i iters).1 = true →
      ∃ j < (spin isSignaled i iters).2, isSignaled j = true) := by
  induction iters generalizing i with
  | zero =>
    refine ⟨iff_of_false Bool.false_ne_true ?_, fun h => absurd h Bool.false_ne_true⟩
    rintro ⟨j, hij, hji, -⟩
    omega
  | succ iters ih =>
    obtain ⟨hiff, hpoll⟩ := ih (i + 1)
    unfold spin
    split_ifs with hi
    · exact ⟨iff_of_true rfl ⟨i, le_rfl, by omega, hi⟩, fun _ => ⟨i, by simp, hi⟩⟩
    · refine ⟨hiff.trans ⟨?_, ?_⟩, hpoll⟩
      · rintro ⟨j, hij, hji, hj⟩
        exact ⟨j, by omega, by omega, hj⟩
      · rintro ⟨j, hij, hji, hj⟩
        have hne : j ≠ i := fun h => hi (h ▸ hj)
        exact ⟨j, by omega, by omega, hj⟩

/-- A wait succeeds exactly when one of its polls does. -/
theorem wait_eq_true_iff (isSignaled : ℕ → Bool) (timeoutIters : ℕ) :
    (wait isSignaled timeoutIters).1 = true ↔ ∃ i < timeoutIters, isSignaled i = true := by
  rw [wait, (spin_spec isSignaled timeoutIters 0).1]
  simp

theorem exists_poll_of_wait {isSignaled : ℕ → Bool} {timeoutIters : ℕ}
    (h : (wait isSignaled timeoutIters).1 = true) :
    ∃ i < (wait isSignaled timeoutIters).2, isSignaled i = true :=
  (spin_spec isSignaled timeoutIters 0).2 h

end GpuFence

/-! ### Dispatches that wait -/

/-- If the dispatch returned `true`, it has allocated a fence with the next fence value, the
release of this fence was submitted, and a poll of this fence has succeeded. -/
def Observed (isSignaled : GpuFence → ℕ → Bool) (engine : ComputeEngine)
    (allocator : VramAllocator) (d : Dispatched) : Prop :=
  d.result = true → ∃ f, d.fence = some f ∧
    (allocator.allocate 64).1 = some f.allocation ∧ f.signalValue = engine.nextFenceValue ∧
    d.submission.isSome ∧ encode engine.subchannel (releaseWrites f) <:+ d.cmds ∧
    ∃ i < d.polls, isSignaled f i = true

section Dispatch

variable {δ : Type*} (regs : GpuRegs δ) (isSignaled : GpuFence → ℕ → Bool)
  (engine : ComputeEngine) (channel : Channel) (shader : ShaderProgram) (grid : GridDim)
  (block : BlockDim) (constBuffers : List ConstantBufferBinding) (allocator : VramAllocator)
  (dev : δ)

theorem releaseWrites_suffix (f : GpuFence) :
    encode engine.subchannel (releaseWrites f) <:+
      engine.buildDispatchCommands shader grid block constBuffers (some f) := by
  rw [buildDispatchCommands_eq, launchWrites]
  refine ⟨encode engine.subchannel
    (configWrites shader grid block constBuffers ++ [(NVC6C0_LAUNCH, 0)]), ?_⟩
  rw [← encode_append, List.append_assoc]
  rfl

theorem dispatchFence_true :
    (engine.dispatchFence allocator true).1 =
        (allocator.allocate 64).1.map (fun g => ⟨g, engine.nextFenceValue⟩) ∧
      (engine.dispatchFence allocator true).2.1.subchannel = engine.subchannel := by
  unfold ComputeEngine.dispatchFence GpuFence.new
  rcases allocator.allocate 64 with ⟨g | g, a⟩ <;> exact ⟨rfl, rfl⟩

theorem dispatchFence_true_snd :
    (engine.dispatchFence allocator true).2 =
      ({ engine with nextFenceValue := engine.nextFenceValue + 1 },
        (allocator.allocate 64).2) := by
  unfold ComputeEngine.dispatchFence GpuFence.new
  rcases allocator.allocate 64 with ⟨g | g, a⟩ <;> rfl

/-- The words that a dispatch submits. -/
def dispatchCmds (wait : Bool) : List UInt32 :=
  (engine.dispatchFence allocator wait).2.1.buildDispatchCommands shader grid block constBuffers
    (engine.dispatchFence allocator wait).1

theorem dispatch_channel (wait : Bool) :
    let r := engine.dispatch regs isSignaled channel shader grid block constBuffers allocator wait
      dev
    (r.2.2.1, r.2.2.2.2) = (channel.submit regs
      (dispatchCmds engine shader grid block constBuffers allocator wait) dev).2 := by
  intro r
  unfold r ComputeEngine.dispatch dispatchCmds
  dsimp only
  split
  case h_1 hsubmit => rw [hsubmit]
  case h_2 hsubmit =>
    rw [hsubmit]
    dsimp only
    split <;> rfl

theorem dispatch_refused {wait : Bool}
    (hacc : ¬ channel.Accepts
      (dispatchCmds engine shader grid block constBuffers allocator wait).length) :
    (engine.dispatch regs isSignaled channel shader grid block constBuffers allocator wait
      dev).1.result = false := by
  have hsubmit := Channel.submit_of_not_accepts regs hacc dev
  unfold dispatchCmds at hsubmit
  unfold ComputeEngine.dispatch
  dsimp only
  rw [hsubmit]

theorem dispatch_accepted
    (hacc : channel.Accepts
      (dispatchCmds engine shader grid block constBuffers allocator true).length) :
    (engine.dispatch regs isSignaled channel shader grid block constBuffers allocator true
      dev).1 =
      let cmds := dispatchCmds engine shader grid block constBuffers allocator true
      match (engine.dispatchFence allocator true).1 with
      | none => ⟨true, none, cmds, some (channel.submission cmds.length), 0⟩
      | some f => ⟨(GpuFence.wait (isSignaled f) 10000000).1, some f, cmds,
          some (channel.submission cmds.length), (GpuFence.wait (isSignaled f) 10000000).2⟩ := by
  have hsubmit := Channel.submit_of_accepts regs hacc dev
  unfold dispatchCmds at hsubmit
  unfold ComputeEngine.dispatch dispatchCmds
  dsimp only
  rw [hsubmit]
  cases (engine.dispatchFence allocator true).1 <;> rfl

theorem observed_of_some {g : GpuAllocation} (hg : (allocator.allocate 64).1 = some g) :
    Observed isSignaled engine allocator
      (engine.dispatch regs isSignaled channel shader grid block constBuffers allocator true
        dev).1 := by
  obtain ⟨hfence, hsc⟩ := dispatchFence_true engine allocator
  rw [hg, Option.map_some] at hfence
  intro htrue
  by_cases hacc : channel.Accepts
      (dispatchCmds engine shader grid block constBuffers allocator true).length
  · rw [dispatch_accepted regs isSignaled engine channel shader grid block constBuffers allocator
      dev hacc] at htrue ⊢
    simp only [hfence] at htrue ⊢
    refine ⟨_, rfl, hg, rfl, rfl, ?_, GpuFence.exists_poll_of_wait htrue⟩
    rw [dispatchCmds, hfence, ← hsc]
    exact releaseWrites_suffix _ shader grid block constBuffers _
  · rw [dispatch_refused regs isSignaled engine channel shader grid block constBuffers allocator
      dev hacc] at htrue
    cases htrue

/-- Without a fence there is nothing to wait for, and `true` is returned as soon as the launch is
accepted. -/
theorem observed_iff_of_none (hnone : (allocator.allocate 64).1 = none) :
    Observed isSignaled engine allocator
        (engine.dispatch regs isSignaled channel shader grid block constBuffers allocator true
          dev).1 ↔
      ¬ channel.Accepts (22 + 4 * constBuffers.length) := by
  have hfence := (dispatchFence_true engine allocator).1
  rw [hnone, Option.map_none] at hfence
  have hlen : (dispatchCmds engine shader grid block constBuffers allocator true).length =
      22 + 4 * constBuffers.length := by
    rw [dispatchCmds, length_buildDispatchCommands, hfence]
    rfl
  rw [← hlen]
  constructor
  · intro hobs hacc
    rw [dispatch_accepted regs isSignaled engine channel shader grid block constBuffers allocator
      dev hacc] at hobs
    simp only [hfence] at hobs
    obtain ⟨f, hf, -⟩ := hobs rfl
    cases hf
  · intro hacc htrue
    rw [dispatch_refused regs isSignaled engine channel shader grid block constBuffers allocator
      dev hacc] at htrue
    cases htrue

theorem allocate_fence_ne_none_iff :
    (allocator.allocate 64).1 ≠ none ↔ ∃ r ∈ allocator.freeList, 4096 ≤ r.size := by
  have hsize : alignedSize 64 = 4096 := by decide
  simp only [ne_eq, allocate_eq_none_iff, hsize, not_forall, UInt64.not_lt, exists_prop]

/-- **Completion is observed exactly when there is room for a fence**, or the channel refuses the
launch. -/
theorem observed_iff :
    Observed isSignaled engine allocator
        (engine.dispatch regs isSignaled channel shader grid block constBuffers allocator true
          dev).1 ↔
      (∃ r ∈ allocator.freeList, 4096 ≤ r.size) ∨
        ¬ channel.Accepts (22 + 4 * constBuffers.length) := by
  rw [← allocate_fence_ne_none_iff]
  cases hg : (allocator.allocate 64).1 with
  | none =>
    rw [observed_iff_of_none regs isSignaled engine channel shader grid block constBuffers
      allocator dev hg]
    simp
  | some g =>
    exact iff_of_true (observed_of_some regs isSignaled engine channel shader grid block
      constBuffers allocator dev hg) (.inl nofun)

end Dispatch

/-- The allocator of the smallest GPU after one channel and one block have used up its VRAM. -/
def VramAllocator.exhausted : VramAllocator :=
  ((Channel.allocate .twoMiB 0 0).2.allocate 0xBE000).2

/-- With VRAM exhausted a dispatch that waits returns `true` without a fence, before the GPU has
done anything. -/
theorem not_observed_exhausted :
    let d := ((ComputeEngine.new .ampere).dispatch GpuRegs.plain (fun _ _ => false) .first
      ⟨⟨0, 0, 0, false, 0⟩, 0, 0, 0, 0, 0⟩ ⟨1, 1, 1⟩ ⟨1, 1, 1⟩ [] .exhausted true fun _ => 0).1
    (Channel.allocate .twoMiB 0 0).1 = some .first ∧ d.result = true ∧ d.fence = none ∧
      ¬ Observed (fun _ _ => false) (.new .ampere) .exhausted d := by
  intro d
  have hresult : d.result = true := by decide
  have hfence : d.fence = none := by decide
  refine ⟨Channel.allocate_twoMiB, hresult, hfence, fun hobs => ?_⟩
  obtain ⟨f, hf, -⟩ := hobs hresult
  rw [hfence] at hf
  cases hf

end GpuCompute
