import GpuCompute.Compute.Stream

/-!
# What a list of launches does

The words of a launch configure the registers, launch, and release the semaphore of the fence.  The
registers and the constant buffer slots stay as they are between two launches, so that what a launch
is performed with depends on all launches before it: a slot holds what was last bound to it by any
of them (`History`).  The binding of the compute class, which is submitted to a channel in the same
way, writes a register that no launch looks at.

`effects` are the launches and semaphore releases that a list of writes has, and `history_effects`
says that those of a list of submissions are what its launches ask for.
-/

namespace GpuCompute

open Systems

/-! ### Effects -/

/-- What the GPU does outside of its registers. -/
inductive Effect where
  /-- A kernel is launched, with what the registers and the slots hold. -/
  | launch (file : MethodFile)
  /-- A semaphore is released: its address and its value. -/
  | release (address : UInt64) (value : UInt32)

/-- The effect of a write. -/
def MethodFile.effect (file : MethodFile) (w : MethodWrite) : Option Effect :=
  if w.1 = NVC6C0_LAUNCH then some (.launch file)
  else if w.1 = NVC6C0_SET_REPORT_SEMAPHORE_D then
    some (.release ((file.regs NVC6C0_SET_REPORT_SEMAPHORE_A).toUInt64 <<< 32 |||
      (file.regs NVC6C0_SET_REPORT_SEMAPHORE_B).toUInt64)
        (file.regs NVC6C0_SET_REPORT_SEMAPHORE_C))
  else none

/-- The effects of a list of writes. -/
def effects (file : MethodFile) : List MethodWrite → List Effect
  | [] => []
  | w :: ws => (file.effect w).toList ++ effects (file.write w) ws

/-- A launch of a kernel. -/
structure KernelLaunch where
  /-- The kernel. -/
  shader : ShaderProgram
  grid : GridDim
  block : BlockDim
  constBuffers : List ConstantBufferBinding
  /-- The fence that is released after it. -/
  fence : Option GpuFence

/-- The writes of a launch. -/
def KernelLaunch.writes (l : KernelLaunch) : List MethodWrite :=
  launchWrites l.shader l.grid l.block l.constBuffers l.fence

/-- The sizes of the constant buffers fit in their field. -/
def KernelLaunch.SizesFit (l : KernelLaunch) : Prop := ∀ cb ∈ l.constBuffers, cb.size < 0x20000

/-- What the compute engine submits to a channel. -/
inductive Submitted where
  /-- The compute class is bound. -/
  | bind (classId : UInt32)
  | launch (l : KernelLaunch)

namespace Submitted

/-- The launch, if it is one. -/
def launch? : Submitted → Option KernelLaunch
  | .bind _ => none
  | .launch l => some l

/-- The writes; method `0` binds a class. -/
def writes : Submitted → List MethodWrite
  | .bind classId => [(0x0000, classId)]
  | .launch l => l.writes

/-- The words. -/
def words (subchannel : UInt32) (s : Submitted) : List UInt32 := encode subchannel s.writes

end Submitted

/-- What launches do, in this order: each is performed with its own shader and dimensions, and with
the constant buffers that it or an earlier one has bound last, and then its fence is released. -/
inductive History (file : MethodFile) :
    List ConstantBufferBinding → List KernelLaunch → List Effect → Prop where
  | nil (bound : List ConstantBufferBinding) : History file bound [] []
  | cons {bound : List ConstantBufferBinding} {l : KernelLaunch} {ls : List KernelLaunch}
    {s : MethodFile} {es : List Effect}
    (hlaunch : LaunchedAs l.shader l.grid l.block (bound ++ l.constBuffers) file s)
    (hrest : History file (bound ++ l.constBuffers) ls es) :
    History file bound (l :: ls) (.launch s ::
      (l.fence.toList.map fun f => .release f.allocation.gpuVa f.signalValue) ++ es)

/-- The words do what the launches are. -/
def GpuPerforms (subchannel : UInt32) (file : MethodFile) (ls : List KernelLaunch)
    (words : List UInt32) : Prop :=
  ∃ ws, readPairs subchannel words = some ws ∧ History file [] ls (effects file ws)

/-! ### The effects of the writes of a launch -/

theorem effects_append (file : MethodFile) (ws ws' : List MethodWrite) :
    effects file (ws ++ ws') = effects file ws ++ effects (file.exec ws) ws' := by
  induction ws generalizing file with
  | nil => rfl
  | cons w ws ih =>
    rw [List.cons_append, effects, effects, ih, List.append_assoc]
    rfl

theorem effects_eq_nil {ws : List MethodWrite}
    (h : ∀ w ∈ ws, w.1 ≠ NVC6C0_LAUNCH ∧ w.1 ≠ NVC6C0_SET_REPORT_SEMAPHORE_D) (file : MethodFile) :
    effects file ws = [] := by
  induction ws generalizing file with
  | nil => rfl
  | cons w ws ih =>
    obtain ⟨hlaunch, hrelease⟩ := h w List.mem_cons_self
    rw [effects, ih fun v hv => h v (List.mem_cons_of_mem _ hv), MethodFile.effect, if_neg hlaunch,
      if_neg hrelease]
    rfl

theorem effects_configWrites (l : KernelLaunch) (file : MethodFile) :
    effects file (configWrites l.shader l.grid l.block l.constBuffers) = [] := by
  refine effects_eq_nil (fun w hw => ?_) file
  refine ⟨configWrites_ne_launch l.shader l.grid l.block l.constBuffers w hw, ?_⟩
  simp only [configWrites, List.mem_append] at hw
  rcases hw with (hw | hw) | hw
  · exact forall_fst (P := (· ≠ NVC6C0_SET_REPORT_SEMAPHORE_D))
      (map_fst_programWrites l.shader) (by decide) w hw
  · exact forall_fst_bindWrites (P := (· ≠ NVC6C0_SET_REPORT_SEMAPHORE_D)) (by decide)
      l.constBuffers w hw
  · exact forall_fst (P := (· ≠ NVC6C0_SET_REPORT_SEMAPHORE_D))
      (map_fst_dimWrites l.grid l.block) (by decide) w hw

theorem effects_fenceWrites (fence : Option GpuFence) (file : MethodFile) :
    effects file (fenceWrites fence) =
      fence.toList.map fun f => .release f.allocation.gpuVa f.signalValue := by
  cases fence with
  | none => rfl
  | some f =>
    have hrelease : effects file (releaseWrites f) =
        [.release ((f.allocation.gpuVa >>> 32).toUInt32.toUInt64 <<< 32 |||
          f.allocation.gpuVa.toUInt32.toUInt64) f.signalValue] := rfl
    exact hrelease.trans (by rw [halves_eq]; rfl)

/-- **A launch has one effect, and then its fence is released.** -/
theorem effects_launch (l : KernelLaunch) (file : MethodFile) :
    effects file l.writes =
      .launch (file.exec (configWrites l.shader l.grid l.block l.constBuffers)) ::
        l.fence.toList.map fun f => .release f.allocation.gpuVa f.signalValue := by
  rw [KernelLaunch.writes, launchWrites, effects_append, effects_configWrites, List.nil_append,
    effects, effects_fenceWrites]
  rfl

/-! ### The slots over all launches -/

theorem slots_exec_bindWrites_congr {file file' : MethodFile} (h : file.slots = file'.slots)
    (cbs : List ConstantBufferBinding) :
    (file.exec (bindWrites cbs)).slots = (file'.exec (bindWrites cbs)).slots := by
  induction cbs generalizing file file' with
  | nil => exact h
  | cons cb cbs ih =>
    obtain ⟨f, heq, hslots⟩ := file.slots_exec_bindWrites_cons cb cbs
    obtain ⟨f', heq', hslots'⟩ := file'.slots_exec_bindWrites_cons cb cbs
    rw [heq, heq']
    exact ih (by rw [hslots, hslots', h])

theorem slots_exec_configWrites (l : KernelLaunch) (file : MethodFile) :
    (file.exec (configWrites l.shader l.grid l.block l.constBuffers)).slots =
      (file.exec (bindWrites l.constBuffers)).slots := by
  rw [configWrites, MethodFile.exec_append, MethodFile.exec_append,
    MethodFile.slots_exec_of_ne (forall_fst (P := (· ≠ NVC6C0_SET_CONSTANT_BUFFER_BIND))
      (map_fst_dimWrites l.grid l.block) (by decide))]
  exact slots_exec_bindWrites_congr (MethodFile.slots_exec_of_ne (forall_fst
    (P := (· ≠ NVC6C0_SET_CONSTANT_BUFFER_BIND)) (map_fst_programWrites l.shader) (by decide)) _) _

/-- `LAUNCH` and the semaphore leave the slots alone. -/
theorem slots_exec_writes (l : KernelLaunch) (file : MethodFile) :
    (file.exec l.writes).slots = (file.exec (bindWrites l.constBuffers)).slots := by
  rw [← slots_exec_configWrites, KernelLaunch.writes, launchWrites, MethodFile.exec_append]
  have hlaunch : NVC6C0_LAUNCH ≠ NVC6C0_SET_CONSTANT_BUFFER_BIND := by decide
  refine MethodFile.slots_exec_of_ne (fun w hw => ?_) _
  rcases List.mem_cons.1 hw with rfl | hw
  · exact hlaunch
  · exact forall_fst_fenceWrites (P := (· ≠ NVC6C0_SET_CONSTANT_BUFFER_BIND)) (by decide) l.fence w
      hw

theorem bindWrites_append (cbs cbs' : List ConstantBufferBinding) :
    bindWrites (cbs ++ cbs') = bindWrites cbs ++ bindWrites cbs' := List.flatMap_append

/-- A launch in a state whose slots are those that earlier launches have bound. -/
theorem launchedAs_of_slots {file file' : MethodFile} {bound : List ConstantBufferBinding}
    (hslots : file'.slots = (file.exec (bindWrites bound)).slots) (l : KernelLaunch)
    (hbound : ∀ cb ∈ bound, cb.size < 0x20000) (hsizes : l.SizesFit) :
    LaunchedAs l.shader l.grid l.block (bound ++ l.constBuffers) file
      (file'.exec (configWrites l.shader l.grid l.block l.constBuffers)) := by
  have hown := launchedAs_exec_configWrites l.shader l.grid l.block hsizes file'
  have hall : (file'.exec (configWrites l.shader l.grid l.block l.constBuffers)).slots =
      (file.exec (bindWrites (bound ++ l.constBuffers))).slots := by
    rw [slots_exec_configWrites, bindWrites_append, MethodFile.exec_append]
    exact slots_exec_bindWrites_congr hslots _
  refine ⟨hown.programRegion, hown.shaderProgram, hown.sharedMemory, hown.block, hown.grid, ?_, ?_⟩
  · intro before cb after hsplit hlast
    have hsize : cb.size < 0x20000 := by
      have hmem : cb ∈ bound ++ l.constBuffers := by rw [hsplit]; simp
      rcases List.mem_append.1 hmem with hmem | hmem
      · exact hbound cb hmem
      · exact hsizes cb hmem
    rw [hall, hsplit, MethodFile.slots_exec_bindWrites_last hlast]
    exact ConstantBufferBinding.bindWord_spec hsize
  · intro slot hslot
    rw [hall, MethodFile.slots_exec_bindWrites_of_ne hslot]

theorem effects_bind (classId : UInt32) (file : MethodFile) :
    effects file (Submitted.bind classId).writes = [] ∧
      (file.exec (Submitted.bind classId).writes).slots = file.slots := by
  have hlaunch : (0x0000 : UInt32) ≠ NVC6C0_LAUNCH := by decide
  have hrelease : (0x0000 : UInt32) ≠ NVC6C0_SET_REPORT_SEMAPHORE_D := by decide
  have hbind : (0x0000 : UInt32) ≠ NVC6C0_SET_CONSTANT_BUFFER_BIND := by decide
  refine ⟨effects_eq_nil ?_ file, MethodFile.slots_exec_of_ne ?_ file⟩
  · exact List.forall_mem_singleton.2 ⟨hlaunch, hrelease⟩
  · exact List.forall_mem_singleton.2 hbind

/-- **The writes of a list of submissions do what its launches are.**  By induction on the list; the
slots are always those that the launches before have bound. -/
theorem history_effects {file file' : MethodFile} {bound : List ConstantBufferBinding}
    (hslots : file'.slots = (file.exec (bindWrites bound)).slots)
    (hbound : ∀ cb ∈ bound, cb.size < 0x20000) {subs : List Submitted}
    (hsizes : ∀ l ∈ subs.filterMap Submitted.launch?, l.SizesFit) :
    History file bound (subs.filterMap Submitted.launch?)
      (effects file' (subs.flatMap Submitted.writes)) := by
  induction subs generalizing file' bound with
  | nil => exact .nil bound
  | cons sub subs ih =>
    rw [List.flatMap_cons, effects_append]
    cases sub with
    | bind classId =>
      obtain ⟨heffects, hsame⟩ := effects_bind classId file'
      rw [heffects, List.nil_append]
      exact ih (hsame.trans hslots) hbound hsizes
    | launch l =>
      obtain ⟨hl, hrest⟩ := List.forall_mem_cons.1 hsizes
      rw [show (Submitted.launch l).writes = l.writes from rfl, effects_launch]
      refine .cons (launchedAs_of_slots hslots l hbound hl) (ih ?_ ?_ hrest)
      · rw [slots_exec_writes, bindWrites_append, MethodFile.exec_append]
        exact slots_exec_bindWrites_congr hslots _
      · exact fun cb hcb => (List.mem_append.1 hcb).elim (hbound cb) (hl cb)

theorem validMethod_writes (sub : Submitted) : ∀ w ∈ sub.writes, ValidMethod w.1 := by
  cases sub with
  | bind classId =>
    have hvalid : ValidMethod 0x0000 := by decide
    exact List.forall_mem_singleton.2 hvalid
  | launch l =>
    exact validMethod_launchWrites l.shader l.grid l.block l.constBuffers l.fence

/-- **The words of a list of submissions perform its launches.** -/
theorem gpuPerforms_words (subchannel : UInt32) (file : MethodFile) {subs : List Submitted}
    (hsizes : ∀ l ∈ subs.filterMap Submitted.launch?, l.SizesFit) :
    GpuPerforms subchannel file (subs.filterMap Submitted.launch?)
      (subs.flatMap (Submitted.words subchannel)) := by
  refine ⟨subs.flatMap Submitted.writes, ?_,
    history_effects rfl (fun cb hcb => by cases hcb) hsizes⟩
  have hencode : subs.flatMap (Submitted.words subchannel) =
      encode subchannel (subs.flatMap Submitted.writes) := List.flatMap_assoc.symm
  rw [hencode]
  refine readPairs_encode subchannel fun w hw => ?_
  obtain ⟨sub, -, hw⟩ := List.mem_flatMap.1 hw
  exact validMethod_writes sub w hw

end GpuCompute
