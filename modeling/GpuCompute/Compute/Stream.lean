import GpuCompute.Compute.Engine

/-!
# Executing the command stream of a launch

The GPU reads the stream of `ComputeEngine.buildDispatchCommands` as pairs of a one-word header and
a data word, and each pair writes a method register.  A write of `SET_CONSTANT_BUFFER_BIND` also
binds the constant buffer slot that was last written to `CB_SELECTOR`, and a write of `LAUNCH`
launches a kernel with what the registers hold at that moment.

* `encode`, `readPairs` : a list of method writes as words, and read back.
* `MethodFile`, `MethodFile.exec` : the registers and slots, and what writes do to them.
* `launches`, `afterLaunch` : the states in which `LAUNCH` is written, and the writes after it.
* `LaunchedAs` : the registers and slots hold what a launch was asked for.
* `readPairs_encode` : the stream splits into the writes it was built from.
* `buildDispatchCommands_launch` : the stream launches once, with the requested configuration.
-/

namespace GpuCompute

open Systems

/-- A write to a method: the method and the data. -/
abbrev MethodWrite := UInt32 × UInt32

/-- The words of a list of writes on a subchannel. -/
def encode (subchannel : UInt32) (ws : List MethodWrite) : List UInt32 :=
  ws.flatMap fun w => [gpuMethod1 subchannel w.1, w.2]

/-- Split a stream into pairs of a one-word header on a subchannel and a data word. -/
def readPairs (subchannel : UInt32) : List UInt32 → Option (List MethodWrite)
  | [] => some []
  | [_] => none
  | header :: data :: words =>
    let method := (header &&& 0x1FFF) <<< 2
    if header = gpuMethod1 subchannel method then
      (readPairs subchannel words).map fun ws => (method, data) :: ws
    else none

/-- The method registers and the constant buffer slots. -/
structure MethodFile where
  /-- What was last written to each method. -/
  regs : UInt32 → UInt32
  /-- What is bound to each constant buffer slot. -/
  slots : UInt32 → UInt32

namespace MethodFile

/-- Perform a write. -/
def write (file : MethodFile) (w : MethodWrite) : MethodFile where
  regs := Function.update file.regs w.1 w.2
  slots :=
    if w.1 = NVC6C0_SET_CONSTANT_BUFFER_BIND then
      Function.update file.slots (file.regs NVC6C0_CB_SELECTOR) w.2
    else file.slots

/-- Perform a list of writes. -/
def exec (file : MethodFile) (ws : List MethodWrite) : MethodFile := ws.foldl write file

end MethodFile

/-- The states in which `LAUNCH` is written. -/
def launches (file : MethodFile) : List MethodWrite → List MethodFile
  | [] => []
  | w :: ws =>
    if w.1 = NVC6C0_LAUNCH then file :: launches (file.write w) ws else launches (file.write w) ws

/-- The writes after the first write of `LAUNCH`. -/
def afterLaunch (ws : List MethodWrite) : List MethodWrite :=
  (ws.dropWhile fun w => w.1 ≠ NVC6C0_LAUNCH).tail

/-- A state that was reached from `file` holds what a launch was asked for. -/
structure LaunchedAs (shader : ShaderProgram) (grid : GridDim) (block : BlockDim)
    (constBuffers : List ConstantBufferBinding) (file s : MethodFile) : Prop where
  programRegion : (s.regs NVC6C0_SET_PROGRAM_REGION_A).toUInt64 <<< 32 |||
    (s.regs NVC6C0_SET_PROGRAM_REGION_B).toUInt64 = shader.allocation.gpuVa
  shaderProgram : s.regs NVC6C0_SET_SHADER_PROGRAM = shader.entryOffset
  sharedMemory : s.regs NVC6C0_SET_SHARED_MEMORY_SIZE = shader.sharedMemSize
  block : s.regs NVC6C0_SET_BLOCK_DIM_X = block.x ∧ s.regs NVC6C0_SET_BLOCK_DIM_Y = block.y ∧
    s.regs NVC6C0_SET_BLOCK_DIM_Z = block.z
  grid : s.regs NVC6C0_LAUNCH_DIM_X = grid.x ∧ s.regs NVC6C0_LAUNCH_DIM_Y = grid.y ∧
    s.regs NVC6C0_LAUNCH_DIM_Z = grid.z
  /-- A slot is valid and has the size of its last entry. -/
  bound : ∀ before cb after, constBuffers = before ++ cb :: after →
    (∀ d ∈ after, d.slot ≠ cb.slot) →
    s.slots cb.slot &&& 1 = 1 ∧ (s.slots cb.slot >>> 4) &&& 0x1FFFF = cb.size
  /-- A slot without an entry is left alone. -/
  unbound : ∀ slot, (∀ cb ∈ constBuffers, cb.slot ≠ slot) → s.slots slot = file.slots slot

/-! ### The writes of a launch -/

/-- Where the program is. -/
def programWrites (shader : ShaderProgram) : List MethodWrite :=
  [(NVC6C0_SET_PROGRAM_REGION_A, (shader.allocation.gpuVa >>> 32).toUInt32),
    (NVC6C0_SET_PROGRAM_REGION_B, shader.allocation.gpuVa.toUInt32),
    (NVC6C0_SET_SHADER_PROGRAM, shader.entryOffset),
    (NVC6C0_SET_SHARED_MEMORY_SIZE, shader.sharedMemSize)]

/-- What is bound to a slot: the valid bit and the size. -/
def ConstantBufferBinding.bindWord (cb : ConstantBufferBinding) : UInt32 :=
  1 ||| ((cb.size &&& (0x1FFFF : UInt32)) <<< (4 : UInt32))

/-- Select a slot and bind it. -/
def bindWrites (constBuffers : List ConstantBufferBinding) : List MethodWrite :=
  constBuffers.flatMap fun cb =>
    [(NVC6C0_CB_SELECTOR, cb.slot), (NVC6C0_SET_CONSTANT_BUFFER_BIND, cb.bindWord)]

/-- The block and grid dimensions. -/
def dimWrites (grid : GridDim) (block : BlockDim) : List MethodWrite :=
  [(NVC6C0_SET_BLOCK_DIM_X, block.x), (NVC6C0_SET_BLOCK_DIM_Y, block.y),
    (NVC6C0_SET_BLOCK_DIM_Z, block.z), (NVC6C0_LAUNCH_DIM_X, grid.x),
    (NVC6C0_LAUNCH_DIM_Y, grid.y), (NVC6C0_LAUNCH_DIM_Z, grid.z)]

/-- The semaphore release of a fence. -/
def releaseWrites (fence : GpuFence) : List MethodWrite :=
  [(NVC6C0_SET_REPORT_SEMAPHORE_A, (fence.allocation.gpuVa >>> 32).toUInt32),
    (NVC6C0_SET_REPORT_SEMAPHORE_B, fence.allocation.gpuVa.toUInt32),
    (NVC6C0_SET_REPORT_SEMAPHORE_C, fence.signalValue),
    (NVC6C0_SET_REPORT_SEMAPHORE_D, 0x10004)]

/-- The semaphore release of an optional fence. -/
def fenceWrites (fence : Option GpuFence) : List MethodWrite :=
  (fence.map releaseWrites).getD []

/-- The writes before `LAUNCH`. -/
def configWrites (shader : ShaderProgram) (grid : GridDim) (block : BlockDim)
    (constBuffers : List ConstantBufferBinding) : List MethodWrite :=
  programWrites shader ++ bindWrites constBuffers ++ dimWrites grid block

/-- All writes of a launch. -/
def launchWrites (shader : ShaderProgram) (grid : GridDim) (block : BlockDim)
    (constBuffers : List ConstantBufferBinding) (fence : Option GpuFence) : List MethodWrite :=
  configWrites shader grid block constBuffers ++ (NVC6C0_LAUNCH, 0) :: fenceWrites fence

@[simp] theorem encode_append (sc : UInt32) (ws ws' : List MethodWrite) :
    encode sc (ws ++ ws') = encode sc ws ++ encode sc ws' := List.flatMap_append

theorem encode_bindWrites (sc : UInt32) (constBuffers : List ConstantBufferBinding) :
    encode sc (bindWrites constBuffers) = constBuffers.flatMap fun cb =>
      [gpuMethod1 sc NVC6C0_CB_SELECTOR, cb.slot,
        gpuMethod1 sc NVC6C0_SET_CONSTANT_BUFFER_BIND, cb.bindWord] := by
  rw [encode, bindWrites, List.flatMap_assoc]
  rfl

theorem buildDispatchCommands_eq (engine : ComputeEngine) (shader : ShaderProgram)
    (grid : GridDim) (block : BlockDim) (constBuffers : List ConstantBufferBinding)
    (fence : Option GpuFence) :
    engine.buildDispatchCommands shader grid block constBuffers fence =
      encode engine.subchannel (launchWrites shader grid block constBuffers fence) := by
  rw [launchWrites, configWrites, encode_append, encode_append, encode_append, encode_bindWrites]
  cases fence <;> simp only [ComputeEngine.buildDispatchCommands, List.append_assoc] <;> rfl

/-! ### Reading the stream back -/

/-- A method that a header can express. -/
def ValidMethod (method : UInt32) : Prop := method < 0x8000 ∧ 4 ∣ method.toNat

instance (method : UInt32) : Decidable (ValidMethod method) :=
  inferInstanceAs (Decidable (_ ∧ _))

/-- **The stream splits into the writes it was built from.** -/
theorem readPairs_encode (sc : UInt32) {ws : List MethodWrite} (h : ∀ w ∈ ws, ValidMethod w.1) :
    readPairs sc (encode sc ws) = some ws := by
  induction ws with
  | nil => rfl
  | cons w ws ih =>
    obtain ⟨hlt, hdvd⟩ := h w List.mem_cons_self
    have hrest := ih fun v hv => h v (List.mem_cons_of_mem _ hv)
    rw [encode, List.flatMap_cons]
    change readPairs sc (gpuMethod1 sc w.1 :: w.2 :: encode sc ws) = _
    rw [readPairs, readMethod_gpuMethod1 sc hlt hdvd, hrest]
    exact if_pos rfl

theorem forall_fst {P : UInt32 → Prop} [DecidablePred P] {ws : List MethodWrite}
    {ms : List UInt32} (hms : ws.map Prod.fst = ms) (hP : ms.all P) : ∀ w ∈ ws, P w.1 :=
  fun _ hw => of_decide_eq_true (List.all_eq_true.1 hP _ (hms ▸ List.mem_map_of_mem hw))

theorem map_fst_programWrites (shader : ShaderProgram) : (programWrites shader).map Prod.fst =
    [NVC6C0_SET_PROGRAM_REGION_A, NVC6C0_SET_PROGRAM_REGION_B, NVC6C0_SET_SHADER_PROGRAM,
      NVC6C0_SET_SHARED_MEMORY_SIZE] := rfl

/-- The methods of the dimensions. -/
def dimMethods : List UInt32 :=
  [NVC6C0_SET_BLOCK_DIM_X, NVC6C0_SET_BLOCK_DIM_Y, NVC6C0_SET_BLOCK_DIM_Z,
    NVC6C0_LAUNCH_DIM_X, NVC6C0_LAUNCH_DIM_Y, NVC6C0_LAUNCH_DIM_Z]

theorem map_fst_dimWrites (grid : GridDim) (block : BlockDim) :
    (dimWrites grid block).map Prod.fst = dimMethods := rfl

theorem map_fst_releaseWrites (fence : GpuFence) : (releaseWrites fence).map Prod.fst =
    [NVC6C0_SET_REPORT_SEMAPHORE_A, NVC6C0_SET_REPORT_SEMAPHORE_B,
      NVC6C0_SET_REPORT_SEMAPHORE_C, NVC6C0_SET_REPORT_SEMAPHORE_D] := rfl

theorem forall_fst_bindWrites {P : UInt32 → Prop} [DecidablePred P]
    (hP : [NVC6C0_CB_SELECTOR, NVC6C0_SET_CONSTANT_BUFFER_BIND].all P)
    (constBuffers : List ConstantBufferBinding) : ∀ w ∈ bindWrites constBuffers, P w.1 := by
  intro w hw
  obtain ⟨cb, -, hw⟩ := List.mem_flatMap.1 hw
  have hms : [(NVC6C0_CB_SELECTOR, cb.slot), (NVC6C0_SET_CONSTANT_BUFFER_BIND, cb.bindWord)].map
      Prod.fst = [NVC6C0_CB_SELECTOR, NVC6C0_SET_CONSTANT_BUFFER_BIND] := rfl
  exact forall_fst hms hP w hw

theorem forall_fst_fenceWrites {P : UInt32 → Prop} [DecidablePred P]
    (hP : [NVC6C0_SET_REPORT_SEMAPHORE_A, NVC6C0_SET_REPORT_SEMAPHORE_B,
      NVC6C0_SET_REPORT_SEMAPHORE_C, NVC6C0_SET_REPORT_SEMAPHORE_D].all P)
    (fence : Option GpuFence) : ∀ w ∈ fenceWrites fence, P w.1 := by
  cases fence with
  | none => exact fun w hw => by cases hw
  | some f => exact forall_fst (map_fst_releaseWrites f) hP

theorem validMethod_launchWrites (shader : ShaderProgram) (grid : GridDim) (block : BlockDim)
    (constBuffers : List ConstantBufferBinding) (fence : Option GpuFence) :
    ∀ w ∈ launchWrites shader grid block constBuffers fence, ValidMethod w.1 := by
  have hlaunch : ValidMethod NVC6C0_LAUNCH := by decide
  simp only [launchWrites, configWrites, List.mem_append, List.mem_cons]
  rintro w (((hw | hw) | hw) | rfl | hw)
  · exact forall_fst (map_fst_programWrites shader) (by decide) w hw
  · exact forall_fst_bindWrites (by decide) constBuffers w hw
  · exact forall_fst (map_fst_dimWrites grid block) (by decide) w hw
  · exact hlaunch
  · exact forall_fst_fenceWrites (by decide) fence w hw

theorem configWrites_ne_launch (shader : ShaderProgram) (grid : GridDim) (block : BlockDim)
    (constBuffers : List ConstantBufferBinding) :
    ∀ w ∈ configWrites shader grid block constBuffers, w.1 ≠ NVC6C0_LAUNCH := by
  simp only [configWrites, List.mem_append]
  rintro w ((hw | hw) | hw)
  · exact forall_fst (P := (· ≠ NVC6C0_LAUNCH)) (map_fst_programWrites shader) (by decide) w hw
  · exact forall_fst_bindWrites (P := (· ≠ NVC6C0_LAUNCH)) (by decide) constBuffers w hw
  · exact forall_fst (P := (· ≠ NVC6C0_LAUNCH)) (map_fst_dimWrites grid block) (by decide) w hw

/-! ### What the writes do -/

namespace MethodFile

theorem exec_append (file : MethodFile) (ws ws' : List MethodWrite) :
    file.exec (ws ++ ws') = (file.exec ws).exec ws' := List.foldl_append

theorem regs_write_self (file : MethodFile) (m v : UInt32) : (file.write (m, v)).regs m = v :=
  Function.update_self _ _ _

theorem slots_write_of_ne {w : MethodWrite} (h : w.1 ≠ NVC6C0_SET_CONSTANT_BUFFER_BIND)
    (file : MethodFile) : (file.write w).slots = file.slots := by
  simp only [write, if_neg h]

theorem slots_write_bind (file : MethodFile) (v : UInt32) :
    (file.write (NVC6C0_SET_CONSTANT_BUFFER_BIND, v)).slots =
      Function.update file.slots (file.regs NVC6C0_CB_SELECTOR) v := by
  simp only [write, if_true]

theorem regs_exec_of_ne {ws : List MethodWrite} {m : UInt32} (h : ∀ w ∈ ws, w.1 ≠ m)
    (file : MethodFile) : (file.exec ws).regs m = file.regs m := by
  induction ws generalizing file with
  | nil => rfl
  | cons w ws ih =>
    have hrest := ih (fun v hv => h v (List.mem_cons_of_mem _ hv)) (file.write w)
    exact hrest.trans (Function.update_of_ne (h w List.mem_cons_self).symm _ _)

theorem slots_exec_of_ne {ws : List MethodWrite}
    (h : ∀ w ∈ ws, w.1 ≠ NVC6C0_SET_CONSTANT_BUFFER_BIND) (file : MethodFile) :
    (file.exec ws).slots = file.slots := by
  induction ws generalizing file with
  | nil => rfl
  | cons w ws ih =>
    have hrest := ih (fun v hv => h v (List.mem_cons_of_mem _ hv)) (file.write w)
    exact hrest.trans (slots_write_of_ne (h w List.mem_cons_self) file)

theorem slots_exec_bindWrites_cons (file : MethodFile) (cb : ConstantBufferBinding)
    (cbs : List ConstantBufferBinding) :
    ∃ file' : MethodFile, file.exec (bindWrites (cb :: cbs)) = file'.exec (bindWrites cbs) ∧
      file'.slots = Function.update file.slots cb.slot cb.bindWord := by
  refine ⟨_, exec_append file [_, _] (bindWrites cbs), ?_⟩
  change ((file.write (NVC6C0_CB_SELECTOR, cb.slot)).write
    (NVC6C0_SET_CONSTANT_BUFFER_BIND, cb.bindWord)).slots = _
  have hne : NVC6C0_CB_SELECTOR ≠ NVC6C0_SET_CONSTANT_BUFFER_BIND := by decide
  rw [slots_write_bind, regs_write_self, slots_write_of_ne (by exact hne)]

theorem slots_exec_bindWrites_of_ne {cbs : List ConstantBufferBinding} {slot : UInt32}
    (h : ∀ cb ∈ cbs, cb.slot ≠ slot) (file : MethodFile) :
    (file.exec (bindWrites cbs)).slots slot = file.slots slot := by
  induction cbs generalizing file with
  | nil => rfl
  | cons cb cbs ih =>
    obtain ⟨file', heq, hslots⟩ := file.slots_exec_bindWrites_cons cb cbs
    rw [heq, ih (fun d hd => h d (List.mem_cons_of_mem _ hd)), hslots,
      Function.update_of_ne (h cb List.mem_cons_self).symm]

/-- **The last entry of a slot wins.** -/
theorem slots_exec_bindWrites_last {before after : List ConstantBufferBinding}
    {cb : ConstantBufferBinding} (h : ∀ d ∈ after, d.slot ≠ cb.slot) (file : MethodFile) :
    (file.exec (bindWrites (before ++ cb :: after))).slots cb.slot = cb.bindWord := by
  have hsplit : bindWrites (before ++ cb :: after) =
      bindWrites before ++ bindWrites (cb :: after) := List.flatMap_append
  rw [hsplit, exec_append]
  obtain ⟨file', heq, hslots⟩ :=
    (file.exec (bindWrites before)).slots_exec_bindWrites_cons cb after
  rw [heq, slots_exec_bindWrites_of_ne h, hslots, Function.update_self]

end MethodFile

/-! ### The launch -/

theorem launches_eq_nil {ws : List MethodWrite} (h : ∀ w ∈ ws, w.1 ≠ NVC6C0_LAUNCH)
    (file : MethodFile) : launches file ws = [] := by
  induction ws generalizing file with
  | nil => rfl
  | cons w ws ih =>
    rw [launches, if_neg (h w List.mem_cons_self)]
    exact ih (fun v hv => h v (List.mem_cons_of_mem _ hv)) _

theorem launches_append (file : MethodFile) (ws ws' : List MethodWrite) :
    launches file (ws ++ ws') = launches file ws ++ launches (file.exec ws) ws' := by
  induction ws generalizing file with
  | nil => rfl
  | cons w ws ih =>
    simp only [List.cons_append, launches, ih]
    split_ifs <;> rfl

theorem afterLaunch_append_cons {ws ws' : List MethodWrite} {v : UInt32}
    (h : ∀ w ∈ ws, w.1 ≠ NVC6C0_LAUNCH) :
    afterLaunch (ws ++ (NVC6C0_LAUNCH, v) :: ws') = ws' := by
  rw [afterLaunch, List.dropWhile_append_of_pos (by simpa using h), List.dropWhile_cons_of_neg]
  · rfl
  · simp

theorem halves_eq (va : UInt64) :
    ((va >>> 32).toUInt32).toUInt64 <<< 32 ||| va.toUInt32.toUInt64 = va := by
  have hva := va.toNat_lt
  apply UInt64.toNat_inj.1
  simp only [UInt64.toNat_or, UInt64.toNat_shiftLeft, UInt32.toNat_toUInt64,
    UInt64.toNat_toUInt32, UInt64.toNat_shiftRight, UInt64.reduceToNat, Nat.reduceMod,
    Nat.shiftRight_eq_div_pow]
  have hshift : (va.toNat / 2 ^ 32 % 2 ^ 32) <<< 32 % 2 ^ 64 = (va.toNat / 2 ^ 32) <<< 32 := by
    rw [Nat.shiftLeft_eq, Nat.shiftLeft_eq]; omega
  rw [hshift, shiftLeft_or_eq_add (Nat.mod_lt _ (by decide))]
  omega

theorem ConstantBufferBinding.bindWord_spec {cb : ConstantBufferBinding}
    (hsize : cb.size < 0x20000) :
    cb.bindWord &&& 1 = 1 ∧ (cb.bindWord >>> 4) &&& 0x1FFFF = cb.size := by
  simp only [UInt32.lt_iff_toNat_lt, UInt32.reduceToNat] at hsize
  have hword : cb.bindWord.toNat = cb.size.toNat * 2 ^ 4 + 1 := by
    have hmask : cb.size.toNat &&& 131071 = cb.size.toNat :=
      Nat.and_two_pow_sub_one_of_lt_two_pow (n := 17) hsize
    have hshift : cb.size.toNat <<< 4 % 2 ^ 32 = cb.size.toNat <<< 4 :=
      shiftLeft_mod_of_lt (by omega)
    simp only [bindWord, UInt32.toNat_or, UInt32.toNat_shiftLeft, UInt32.toNat_and,
      UInt32.reduceToNat, Nat.reduceMod, hmask]
    rw [hshift, Nat.or_comm, shiftLeft_or_eq_add (by decide)]
  refine ⟨UInt32.toNat_inj.1 ?_, UInt32.toNat_inj.1 ?_⟩
  · simp only [UInt32.toNat_and, UInt32.reduceToNat, hword]
    rw [Nat.and_two_pow_sub_one_eq_mod _ 1]
    omega
  · simp only [UInt32.toNat_and, UInt32.toNat_shiftRight, UInt32.reduceToNat, Nat.reduceMod,
      Nat.shiftRight_eq_div_pow, hword]
    rw [Nat.and_two_pow_sub_one_eq_mod _ 17]
    omega

theorem launchedAs_exec_configWrites (shader : ShaderProgram) (grid : GridDim) (block : BlockDim)
    {constBuffers : List ConstantBufferBinding} (hsize : ∀ cb ∈ constBuffers, cb.size < 0x20000)
    (file : MethodFile) :
    LaunchedAs shader grid block constBuffers file
      (file.exec (configWrites shader grid block constBuffers)) := by
  have hexec : file.exec (configWrites shader grid block constBuffers) =
      (((file.exec (programWrites shader)).exec (bindWrites constBuffers)).exec
        (dimWrites grid block)) := by
    rw [configWrites, MethodFile.exec_append, MethodFile.exec_append]
  -- a register that neither the dimensions nor the bindings touch
  have hprogram : ∀ m, (dimMethods.all fun d => d ≠ m) →
      ([NVC6C0_CB_SELECTOR, NVC6C0_SET_CONSTANT_BUFFER_BIND].all fun d => d ≠ m) →
      (file.exec (configWrites shader grid block constBuffers)).regs m =
        (file.exec (programWrites shader)).regs m := by
    intro m hdim hbind
    rw [hexec, MethodFile.regs_exec_of_ne (forall_fst (map_fst_dimWrites grid block) hdim),
      MethodFile.regs_exec_of_ne (forall_fst_bindWrites hbind constBuffers)]
  have hslots : (file.exec (configWrites shader grid block constBuffers)).slots =
      ((file.exec (programWrites shader)).exec (bindWrites constBuffers)).slots := by
    rw [hexec]
    exact MethodFile.slots_exec_of_ne (forall_fst
      (P := (· ≠ NVC6C0_SET_CONSTANT_BUFFER_BIND)) (map_fst_dimWrites grid block) (by decide)) _
  have hslots' : (file.exec (programWrites shader)).slots = file.slots :=
    MethodFile.slots_exec_of_ne (forall_fst
      (P := (· ≠ NVC6C0_SET_CONSTANT_BUFFER_BIND)) (map_fst_programWrites shader) (by decide)) _
  refine ⟨?_, ?_, ?_, ?_, ?_, ?_, ?_⟩
  · rw [hprogram _ (by decide) (by decide), hprogram _ (by decide) (by decide)]
    exact halves_eq shader.allocation.gpuVa
  · rw [hprogram _ (by decide) (by decide)]; rfl
  · rw [hprogram _ (by decide) (by decide)]; rfl
  · rw [hexec]; exact ⟨rfl, rfl, rfl⟩
  · rw [hexec]; exact ⟨rfl, rfl, rfl⟩
  · rintro before cb after rfl hlast
    rw [hslots, MethodFile.slots_exec_bindWrites_last hlast]
    exact ConstantBufferBinding.bindWord_spec (hsize cb (by simp))
  · intro slot hslot
    rw [hslots, MethodFile.slots_exec_bindWrites_of_ne hslot, hslots']

theorem length_encode (sc : UInt32) (ws : List MethodWrite) :
    (encode sc ws).length = 2 * ws.length := by
  simp only [encode, List.length_flatMap, List.length_cons, List.length_nil]
  simp [Nat.mul_comm]

theorem length_launchWrites (shader : ShaderProgram) (grid : GridDim) (block : BlockDim)
    (constBuffers : List ConstantBufferBinding) (fence : Option GpuFence) :
    (launchWrites shader grid block constBuffers fence).length =
      11 + 2 * constBuffers.length + (if fence.isSome then 4 else 0) := by
  have hbind : (bindWrites constBuffers).length = 2 * constBuffers.length := by
    simp [bindWrites, List.length_flatMap, Nat.mul_comm]
  have hfence : (fenceWrites fence).length = if fence.isSome then 4 else 0 := by
    cases fence <;> rfl
  simp only [launchWrites, configWrites, List.length_append, List.length_cons, hbind, hfence,
    programWrites, dimWrites, List.length_nil]
  omega

theorem length_buildDispatchCommands (engine : ComputeEngine) (shader : ShaderProgram)
    (grid : GridDim) (block : BlockDim) (constBuffers : List ConstantBufferBinding)
    (fence : Option GpuFence) :
    (engine.buildDispatchCommands shader grid block constBuffers fence).length =
      22 + 4 * constBuffers.length + (if fence.isSome then 8 else 0) := by
  rw [buildDispatchCommands_eq, length_encode, length_launchWrites]
  split_ifs <;> omega

/-- **The stream of a launch programs exactly that launch**: it has the expected number of words
and splits into writes, of which exactly one is to `LAUNCH`, when all registers and slots hold what
was asked for; only the semaphore of the fence is written after it. -/
theorem buildDispatchCommands_launch (engine : ComputeEngine) (shader : ShaderProgram)
    (grid : GridDim) (block : BlockDim) {constBuffers : List ConstantBufferBinding}
    (hsize : ∀ cb ∈ constBuffers, cb.size < 0x20000) (fence : Option GpuFence)
    (file : MethodFile) :
    let cmds := engine.buildDispatchCommands shader grid block constBuffers fence
    cmds.length = 22 + 4 * constBuffers.length + (if fence.isSome then 8 else 0) ∧
    ∃ ws, readPairs engine.subchannel cmds = some ws ∧
      (∃ s, launches file ws = [s] ∧ LaunchedAs shader grid block constBuffers file s) ∧
      afterLaunch ws = fenceWrites fence := by
  intro cmds
  have hafter : ∀ w ∈ fenceWrites fence, w.1 ≠ NVC6C0_LAUNCH :=
    forall_fst_fenceWrites (P := (· ≠ NVC6C0_LAUNCH)) (by decide) fence
  have hbefore := configWrites_ne_launch shader grid block constBuffers
  refine ⟨length_buildDispatchCommands engine shader grid block constBuffers fence,
    launchWrites shader grid block constBuffers fence, ?_, ⟨_, ?_,
      launchedAs_exec_configWrites shader grid block hsize file⟩, ?_⟩
  · rw [show cmds = _ from buildDispatchCommands_eq engine shader grid block constBuffers fence]
    exact readPairs_encode _ (validMethod_launchWrites shader grid block constBuffers fence)
  · rw [launchWrites, launches_append, launches_eq_nil hbefore, launches, if_pos rfl,
      launches_eq_nil hafter, List.nil_append]
  · exact afterLaunch_append_cons hbefore

/-- A launch that binds slot `0` twice. -/
theorem buildDispatchCommands_launch_two_entries :
    let shader : ShaderProgram := ⟨⟨0x100042000, 0x142000, 0x1000, false, 0⟩, 64, 16, 128, 32, 0⟩
    let fence : GpuFence := ⟨⟨0x100043000, 0x143000, 0x1000, false, 0⟩, 1⟩
    let constBuffers : List ConstantBufferBinding :=
      [⟨0, 0x100044000, 256⟩, ⟨1, 0x100045000, 64⟩, ⟨0, 0x100046000, 512⟩]
    let file : MethodFile := ⟨fun _ => 0, fun _ => 0⟩
    let cmds := (ComputeEngine.new .ampere).buildDispatchCommands shader ⟨8, 1, 1⟩ ⟨256, 1, 1⟩
      constBuffers (some fence)
    cmds.length = 22 + 4 * constBuffers.length + (if (some fence).isSome then 8 else 0) ∧
    ∃ ws, readPairs (ComputeEngine.new .ampere).subchannel cmds = some ws ∧
      (∃ s, launches file ws = [s] ∧
        LaunchedAs shader ⟨8, 1, 1⟩ ⟨256, 1, 1⟩ constBuffers file s) ∧
      afterLaunch ws = fenceWrites (some fence) :=
  buildDispatchCommands_launch _ _ _ _ (by decide) _ _

end GpuCompute
