import GpuCompute.Compute.History
import GpuCompute.Driver.System

/-!
# The launches of a run

The driver submits to a channel what its dispatches and the bindings of the compute class ask for,
between all else that is done with it.  The words of the slices that the channel accepts, one after
another, perform the launches of these dispatches and no others: a dispatch that fails, or that the
channel refuses, leaves no word behind, and no word of one launch is taken for one of another.

* `DriverEvent.wordsOn i`, `DriverEvent.submittedOn i` are the words that channel `i` accepts in an
  operation, and what they were built from.
* `DriverOp.Orderly i` says that only the compute engine submits to the channel, with constant
  buffers whose sizes fit in their field.
* `wordsOn_event` is the step, and `effects_run` follows for every run by `gpuPerforms_words`.
-/

namespace GpuCompute

open Systems

section

variable {δ : Type} (regs : GpuRegs δ)

/-! ### What a channel accepts -/

/-- The channel that an operation submits to. -/
def DriverOp.channel? : DriverOp → Option ℕ
  | .submit i _ | .bindToChannel i | .dispatch _ i _ _ _ _ _ => some i
  | _ => none

/-- The words that channel `i` accepts. -/
def DriverEvent.wordsOn (i : ℕ) (e : DriverEvent δ) : List UInt32 :=
  if e.op.channel? = some i then e.out.accepted.elim [] Accepted.commands else []

/-- What the compute engine submits in an operation. -/
def Driver.submission (d : Driver) : DriverOp → Option Submitted
  | .bindToChannel _ => some (.bind d.compute.classId)
  | .dispatch _ _ j grid block constBuffers wait =>
    let fence := (d.compute.dispatchFence d.vram wait).1
    d.shaders[j]?.map fun shader => .launch { shader, grid, block, constBuffers, fence }
  | _ => none

/-- What the compute engine submits to channel `i`, if the channel accepts it. -/
def DriverEvent.submittedOn (i : ℕ) (e : DriverEvent δ) : Option Submitted :=
  if e.op.channel? = some i ∧ e.out.accepted.isSome then e.pre.1.submission e.op else none

/-- Nothing but the compute engine submits to channel `i`, and the sizes of its constant buffers fit
in their field. -/
def DriverOp.Orderly (i : ℕ) : DriverOp → Prop
  | .submit k _ => k ≠ i
  | .dispatch _ k _ _ _ constBuffers _ => k = i → ∀ cb ∈ constBuffers, cb.size < 0x20000
  | _ => True

/-- All words that channel `i` has accepted, oldest first. -/
def wordsOn (i : ℕ) (tr : List (DriverEvent δ)) : List UInt32 :=
  tr.reverse.flatMap (DriverEvent.wordsOn i)

/-- All that the compute engine has submitted to channel `i`, oldest first. -/
def submissionsOn (i : ℕ) (tr : List (DriverEvent δ)) : List Submitted :=
  tr.reverse.filterMap (DriverEvent.submittedOn i)

/-- The launches among it. -/
def launchesOn (i : ℕ) (tr : List (DriverEvent δ)) : List KernelLaunch :=
  (submissionsOn i tr).filterMap Submitted.launch?

/-! ### What an operation submits -/

theorem subchannel_dispatchFence (engine : ComputeEngine) (allocator : VramAllocator)
    (wait : Bool) :
    (engine.dispatchFence allocator wait).2.1.subchannel = engine.subchannel := by
  cases wait with
  | false => rfl
  | true => exact (dispatchFence_true engine allocator).2

theorem Driver.subchannel_perform (d : Driver) (op : DriverOp) (dev : δ) :
    (d.perform op regs dev).1.2.compute.subchannel = d.compute.subchannel := by
  cases op with
  | dispatch isSignaled i j grid block constBuffers wait =>
    simp only [perform]
    rcases d.channels[i]? with _ | ch
    · rfl
    rcases d.shaders[j]? with _ | shader
    · rfl
    have heq := dispatch_eq_dispatchFence regs isSignaled d.compute ch shader grid block
      constBuffers d.vram wait dev
    exact (congrArg (·.2.1.subchannel) heq).trans (subchannel_dispatchFence d.compute d.vram wait)
  | submit _ _ | resetPushBuffer _ | bindToChannel _ | upload _ _ | download _ _ | freeTensor _
  | commit _ =>
    simp only [perform]
    split <;> rfl
  | _ => rfl

theorem dispatchCmds_eq_words (engine : ComputeEngine) (shader : ShaderProgram) (grid : GridDim)
    (block : BlockDim) (constBuffers : List ConstantBufferBinding) (a : VramAllocator)
    (wait : Bool) :
    dispatchCmds engine shader grid block constBuffers a wait =
      (Submitted.launch { shader, grid, block, constBuffers
                          fence := (engine.dispatchFence a wait).1 }).words engine.subchannel := by
  rw [dispatchCmds, buildDispatchCommands_eq, subchannel_dispatchFence]
  rfl

/-- What a channel accepts from the compute engine are the words of what it submits. -/
theorem Driver.commands_of_accepted {d : Driver} {op : DriverOp} {dev : δ} {a : Accepted}
    (hop : ∀ i commands, op ≠ .submit i commands)
    (hacc : (d.perform op regs dev).1.1.accepted = some a) :
    ∃ sub, d.submission op = some sub ∧ a.commands = sub.words d.compute.subchannel := by
  cases op with
  | submit i commands => exact absurd rfl (hop i commands)
  | bindToChannel i =>
    simp only [perform, ComputeEngine.bindToChannel] at hacc
    split at hacc
    · cases hacc
    · obtain ⟨_, -, rfl⟩ := Option.map_eq_some_iff.1 hacc
      exact ⟨_, rfl, rfl⟩
  | dispatch isSignaled i j grid block constBuffers wait =>
    simp only [perform] at hacc
    split at hacc
    case h_1 ch shader hch hshader =>
      obtain ⟨_, -, rfl⟩ := Option.map_eq_some_iff.1 hacc
      have hcmds : (d.compute.dispatch regs isSignaled ch shader grid block constBuffers d.vram
          wait dev).1.cmds = dispatchCmds d.compute shader grid block constBuffers d.vram wait :=
        (ComputeEngine.dispatch_submission regs dev isSignaled d.compute shader grid block
          constBuffers d.vram wait).1
      rw [dispatchCmds_eq_words] at hcmds
      exact ⟨_, congrArg (Option.map _) hshader, hcmds⟩
    case h_2 => cases hacc
  | resetPushBuffer _ | upload _ _ | download _ _ | freeTensor _ | commit _ =>
    simp only [perform] at hacc
    split at hacc <;> cases hacc
  | _ => cases hacc

theorem DriverEvent.quietOn {i : ℕ} {e : DriverEvent δ}
    (h : ¬ (e.op.channel? = some i ∧ e.out.accepted.isSome)) :
    wordsOn i e = [] ∧ submittedOn i e = none := by
  refine ⟨?_, if_neg h⟩
  unfold wordsOn
  split_ifs with hk
  · rw [Option.not_isSome_iff_eq_none.1 fun hacc => h ⟨hk, hacc⟩]
    rfl
  · rfl

theorem DriverEvent.acceptedOn {i : ℕ} {e : DriverEvent δ} {a : Accepted}
    (hk : e.op.channel? = some i) (hacc : e.out.accepted = some a) :
    wordsOn i e = a.commands ∧ submittedOn i e = e.pre.1.submission e.op := by
  rw [wordsOn, submittedOn, if_pos hk, hacc, if_pos ⟨hk, rfl⟩]
  exact ⟨rfl, rfl⟩

/-- **An operation adds the words of what the compute engine submits in it, and no others.** -/
theorem wordsOn_event {i : ℕ} (s : Driver × δ) {op : DriverOp} (hop : op.Orderly i) :
    DriverEvent.wordsOn i ((driver regs).event s op) =
      (DriverEvent.submittedOn i ((driver regs).event s op)).toList.flatMap
        (Submitted.words s.1.compute.subchannel) := by
  by_cases hacc : op.channel? = some i ∧ ((driver regs).event s op).out.accepted.isSome
  case neg =>
    obtain ⟨hwords, hsub⟩ := DriverEvent.quietOn (e := (driver regs).event s op) hacc
    rw [hwords, hsub]
    rfl
  obtain ⟨hk, hacc⟩ := hacc
  obtain ⟨a, hacc⟩ := Option.isSome_iff_exists.1 hacc
  obtain ⟨hwords, hsub⟩ := DriverEvent.acceptedOn hk hacc
  have hne : ∀ k commands, op ≠ .submit k commands := by
    rintro k commands rfl
    exact hop (Option.some.inj hk)
  obtain ⟨sub, hsome, hcommands⟩ := Driver.commands_of_accepted regs hne hacc
  have hsub : DriverEvent.submittedOn i ((driver regs).event s op) = some sub := hsub.trans hsome
  rw [hwords, hsub, hcommands, Option.toList_some, List.flatMap_singleton]

theorem sizesFit_submittedOn {i : ℕ} (s : Driver × δ) {op : DriverOp} (hop : op.Orderly i) :
    ∀ l ∈ (DriverEvent.submittedOn i ((driver regs).event s op)).toList.filterMap Submitted.launch?,
      l.SizesFit := by
  intro l hl
  obtain ⟨sub, hsub, hlaunch⟩ := List.mem_filterMap.1 hl
  rw [Option.mem_toList, DriverEvent.submittedOn] at hsub
  obtain ⟨⟨hk, -⟩, hsub⟩ := Option.ite_none_right_eq_some.1 hsub
  cases op with
  | dispatch isSignaled k j grid block constBuffers wait =>
    obtain ⟨shader, -, rfl⟩ := Option.map_eq_some_iff.1 hsub
    cases hlaunch
    exact hop (Option.some.inj hk)
  | bindToChannel k =>
    cases hsub
    cases hlaunch
  | _ => cases hsub

/-! ### Runs -/

/-- What a run has submitted, as words and as launches. -/
structure SubmittedRun (subchannel : UInt32) (i : ℕ) (tr : List (DriverEvent δ)) : Prop where
  words : wordsOn i tr = (submissionsOn i tr).flatMap (Submitted.words subchannel)
  sizes : ∀ l ∈ launchesOn i tr, l.SizesFit

/-- **Every operation keeps the words those of the launches.** -/
theorem SubmittedRun.step {i : ℕ} {s : Driver × δ} {tr : List (DriverEvent δ)} {op : DriverOp}
    (h : SubmittedRun s.1.compute.subchannel i tr) (hop : op.Orderly i) :
    SubmittedRun s.1.compute.subchannel i ((driver regs).event s op :: tr) := by
  have hsubmissions : submissionsOn i ((driver regs).event s op :: tr) =
      submissionsOn i tr ++ (DriverEvent.submittedOn i ((driver regs).event s op)).toList := by
    rw [submissionsOn, List.reverse_cons, List.filterMap_append]
    cases hsub : DriverEvent.submittedOn i ((driver regs).event s op) <;> simp [submissionsOn, hsub]
  refine ⟨?_, ?_⟩
  · rw [hsubmissions, List.flatMap_append, ← h.words, ← wordsOn_event regs s hop, wordsOn,
      List.reverse_cons, List.flatMap_append, List.flatMap_singleton]
    rfl
  · rw [launchesOn, hsubmissions, List.filterMap_append]
    exact fun l hl => (List.mem_append.1 hl).elim (h.sizes l) (sizesFit_submittedOn regs s hop l)

/-- **The words that a channel accepts perform the launches of the dispatches that it accepts**, in
every run of the driver and for whatever the registers of the compute engine hold before: in their
order, each with its own dimensions and with the constant buffers that it or an earlier one has
bound last, and with its fence released after it. -/
theorem effects_run (s : Driver × δ) (i : ℕ) (ops : List DriverOp)
    (hops : ∀ op ∈ ops, op.Orderly i) (file : MethodFile) :
    let tr := (driver regs).trace s ops
    GpuPerforms s.1.compute.subchannel file (launchesOn i tr) (wordsOn i tr) := by
  intro tr
  have hrun : ((driver regs).final s ops).1.compute.subchannel = s.1.compute.subchannel ∧
      SubmittedRun s.1.compute.subchannel i tr := by
    refine Machine.run_induction (M := driver regs) (Q := fun e => e.op.Orderly i)
      (motive := fun tr (t : Driver × δ) => t.1.compute.subchannel = s.1.compute.subchannel ∧
        SubmittedRun s.1.compute.subchannel i tr)
      ⟨rfl, rfl, fun l hl => by cases hl⟩ ?_ ops
      fun e he => hops _ (Machine.op_mem_of_mem_trace he)
    rintro tr t op ⟨hsc, h⟩ hop
    rw [← hsc] at h ⊢
    exact ⟨t.1.subchannel_perform regs op t.2, h.step regs hop⟩
  rw [hrun.2.words]
  exact gpuPerforms_words s.1.compute.subchannel file hrun.2.sizes

end

/-- A run that binds the class and launches a shader twice; the second launch binds nothing. -/
theorem effects_run_two_dispatches :
    let r := GpuDevice.setUp pascalGpu GpuRegs.plain fun _ => 3
    let ops : List DriverOp := [.bindToChannel 0, .loadShader [1, 2, 3] 0 0 0,
      .dispatch (fun _ _ => true) 0 0 ⟨1, 1, 1⟩ ⟨32, 1, 1⟩ [⟨0, 0x100000000, 64⟩] true,
      .mapSystemMemory 0 1, .dispatch (fun _ _ => true) 0 0 ⟨2, 1, 1⟩ ⟨32, 1, 1⟩ [] false]
    let tr := (driver GpuRegs.plain).trace (r.1.1.driver, r.2) ops
    GpuPerforms r.1.1.compute.subchannel ⟨fun _ => 0, fun _ => 0⟩ (launchesOn 0 tr)
      (wordsOn 0 tr) := by
  intro r ops tr
  have hops : ∀ op ∈ ops, op.Orderly 0 := by simp [ops, DriverOp.Orderly]
  exact effects_run GpuRegs.plain (r.1.1.driver, r.2) 0 ops hops _

end GpuCompute
