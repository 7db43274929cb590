import GpuCompute.Lib.Components
import GpuCompute.Memory.Run
import GpuCompute.Tensor.Basic

/-!
# Runs with allocations and tensors

An allocator, a tensor engine, and everything that has been allocated with them: the allocations,
the tensors alive and the tensors freed.  The operations name an allocation or a tensor by its
position in these lists.

`Holds` says that all allocations, of whatever kind, are blocks of the memory that the allocator has
handed out, and `TensorStep.holds` that every operation keeps that so.
-/

namespace GpuCompute

open Systems VramAllocator

/-! ### The machine -/

/-- An allocator, a tensor engine and what has been allocated. -/
structure TensorState where
  /-- The allocator. -/
  allocator : VramAllocator
  /-- The tensor engine. -/
  engine : TensorEngine
  /-- The allocations made outside of the tensor engine. -/
  blocks : List GpuAllocation
  /-- The tensors alive. -/
  tensors : List TensorDescriptor
  /-- The tensors that were freed. -/
  freed : List TensorDescriptor
  deriving DecidableEq

/-- The operations. -/
inductive TensorOp where
  | allocate (size : UInt64)
  | free (i : ℕ)
  | mapToCpu (i : ℕ)
  | allocateTensor (name : String) (shape : List UInt64) (dtype : DType)
  | mapTensor (j : ℕ)
  | upload (j : ℕ) (data : List UInt8)
  | download (j : ℕ) (buffer : List UInt8)
  | freeTensor (j : ℕ)
  deriving DecidableEq

/-- What an operation shows: what it was performed on, what it returned, and what it left. -/
inductive TensorOut where
  | allocated (alloc : Option GpuAllocation)
  | tensor (t : Option TensorDescriptor)
  | mapped (before : GpuAllocation) (cpuVa : Option UInt64) (after : GpuAllocation)
  | copied (before : TensorDescriptor) (len : ℕ) (ok : Bool) (after : TensorDescriptor)
  | done
  deriving DecidableEq

/-- Without anything allocated. -/
def TensorState.start (allocator : VramAllocator) : TensorState := ⟨allocator, .new, [], [], []⟩

/-- An allocator and a tensor engine as a machine. -/
def tensors : Machine TensorState TensorOp TensorOut where
  step s
    | .allocate size =>
      match s.allocator.allocate size with
      | (some g, allocator) =>
        (.allocated (some g), { s with allocator, blocks := g :: s.blocks })
      | (none, allocator) => (.allocated none, { s with allocator })
    | .free i =>
      match s.blocks[i]? with
      | some g => (.done, { s with allocator := s.allocator.free g })
      | none => (.done, s)
    | .mapToCpu i =>
      match s.blocks[i]? with
      | some g =>
        let (cpuVa, g') := s.allocator.mapToCpu g
        (.mapped g cpuVa g', { s with blocks := s.blocks.set i g' })
      | none => (.done, s)
    | .allocateTensor name shape dtype =>
      match s.engine.allocateTensor s.allocator name shape dtype with
      | (some t, engine, allocator) =>
        (.tensor (some t), { s with allocator, engine, tensors := t :: s.tensors })
      | (none, engine, allocator) => (.tensor none, { s with allocator, engine })
    | .mapTensor j =>
      match s.tensors[j]? with
      | some t =>
        let (cpuVa, g') := s.allocator.mapToCpu t.allocation
        (.mapped t.allocation cpuVa g',
          { s with tensors := s.tensors.set j { t with allocation := g' } })
      | none => (.done, s)
    | .upload j data =>
      match s.tensors[j]? with
      | some t =>
        let (ok, t') := s.engine.upload s.allocator t data
        (.copied t data.length ok t', { s with tensors := s.tensors.set j t' })
      | none => (.done, s)
    | .download j buffer =>
      match s.tensors[j]? with
      | some t =>
        let (ok, t') := s.engine.download s.allocator t buffer
        (.copied t buffer.length ok t', { s with tensors := s.tensors.set j t' })
      | none => (.done, s)
    | .freeTensor j =>
      match s.tensors[j]? with
      | some t =>
        let (engine, allocator) := s.engine.freeTensor s.allocator t
        (.done, { s with
          allocator, engine, tensors := s.tensors.eraseIdx j, freed := t :: s.freed })
      | none => (.done, s)

/-- One performed operation. -/
abbrev TensorEvent := Event TensorState TensorOp TensorOut

/-- All allocations, of whatever kind. -/
def TensorState.held (s : TensorState) : List GpuAllocation :=
  s.blocks ++ (s.tensors ++ s.freed).map TensorDescriptor.allocation

/-- The physical blocks of all allocations. -/
def TensorState.physBlocks (s : TensorState) : List (Block ℕ) := s.held.map GpuAllocation.physBlock

/-! ### What a step can do -/

/-- What an operation can do to the state. -/
inductive TensorStep (s : TensorState) : TensorOp → TensorState → Prop
  | same (op : TensorOp) : TensorStep s op s
  | allocate {size : UInt64} {g : GpuAllocation} {allocator : VramAllocator}
      (h : s.allocator.allocate size = (some g, allocator)) :
      TensorStep s (.allocate size) { s with allocator, blocks := g :: s.blocks }
  | mapBlock {i : ℕ} {g : GpuAllocation} (h : s.blocks[i]? = some g) :
      TensorStep s (.mapToCpu i)
        { s with blocks := s.blocks.set i (s.allocator.mapToCpu g).2 }
  | allocateTensor {name : String} {shape : List UInt64} {dtype : DType} {t : TensorDescriptor}
      {engine : TensorEngine} {allocator : VramAllocator}
      (h : s.engine.allocateTensor s.allocator name shape dtype = (some t, engine, allocator)) :
      TensorStep s (.allocateTensor name shape dtype)
        { s with allocator, engine, tensors := t :: s.tensors }
  | mapTensor (op : TensorOp) {j : ℕ} {t : TensorDescriptor} (h : s.tensors[j]? = some t) :
      TensorStep s op
        { s with
          tensors := s.tensors.set j
            { t with allocation := (s.allocator.mapToCpu t.allocation).2 } }
  | freeTensor {j : ℕ} {t : TensorDescriptor} (h : s.tensors[j]? = some t) :
      TensorStep s (.freeTensor j)
        { s with
          engine := (s.engine.freeTensor s.allocator t).1
          tensors := s.tensors.eraseIdx j
          freed := t :: s.freed }

theorem TensorEngine.allocateTensor_none {engine engine' : TensorEngine}
    {allocator allocator' : VramAllocator} {name : String} {shape : List UInt64} {dtype : DType}
    (h : engine.allocateTensor allocator name shape dtype = (none, engine', allocator')) :
    engine' = engine ∧ allocator' = allocator := by
  obtain ⟨t, e, a, heq, -⟩ | ⟨-, heq⟩ := engine.allocateTensor_cases allocator name shape dtype
  · rw [heq] at h
    cases h
  · rw [heq] at h
    cases h
    exact ⟨rfl, rfl⟩

theorem TensorEngine.transfer_snd (allocator : VramAllocator) (t : TensorDescriptor) (len : ℕ) :
    (transfer allocator t len).2 = t ∨
      (transfer allocator t len).2 =
        { t with allocation := (allocator.mapToCpu t.allocation).2 } := by
  unfold transfer
  split_ifs
  · exact .inl rfl
  · rcases allocator.mapToCpu t.allocation with ⟨_ | cpuVa, g⟩ <;> exact .inr rfl

theorem TensorStep.transfer {s : TensorState} {op : TensorOp} {j : ℕ} {t : TensorDescriptor}
    (h : s.tensors[j]? = some t) (len : ℕ) :
    TensorStep s op { s with
      tensors := s.tensors.set j (TensorEngine.transfer s.allocator t len).2 } := by
  obtain ⟨hj, rfl⟩ := List.getElem?_eq_some_iff.1 h
  obtain heq | heq := TensorEngine.transfer_snd s.allocator s.tensors[j] len
  · rw [heq, List.set_getElem_self]
    exact .same op
  · rw [heq]
    exact .mapTensor op h

/-- **What an operation can do to the state.** -/
theorem tensors_step (s : TensorState) (op : TensorOp) :
    TensorStep s op (tensors.step s op).2 := by
  cases op with
  | allocate size =>
    simp only [tensors]
    split
    case h_1 g a ha => exact .allocate ha
    case h_2 a ha =>
      rw [allocate_none (congrArg Prod.fst ha)] at ha
      cases ha
      exact .same _
  | free i =>
    simp only [tensors]
    split
    · exact .same _
    · exact .same _
  | mapToCpu i =>
    simp only [tensors]
    split
    case h_1 g hg => exact .mapBlock hg
    case h_2 => exact .same _
  | allocateTensor name shape dtype =>
    simp only [tensors]
    split
    case h_1 t e a ht => exact .allocateTensor ht
    case h_2 e a ht =>
      obtain ⟨rfl, rfl⟩ := TensorEngine.allocateTensor_none ht
      exact .same _
  | mapTensor j =>
    simp only [tensors]
    split
    case h_1 t ht => exact .mapTensor _ ht
    case h_2 => exact .same _
  | upload j data =>
    simp only [tensors]
    split
    case h_1 t ht => exact .transfer ht data.length
    case h_2 => exact .same _
  | download j buffer =>
    simp only [tensors]
    split
    case h_1 t ht => exact .transfer ht buffer.length
    case h_2 => exact .same _
  | freeTensor j =>
    simp only [tensors]
    split
    case h_1 t ht => exact .freeTensor ht
    case h_2 => exact .same _

/-! ### All allocations are blocks of the memory handed out -/

/-- The blocks lie without overlap in the part of VRAM that the allocator has handed out. -/
def Holds (info : VramInfo) (allocator : VramAllocator) (blocks : List (Block ℕ)) : Prop :=
  ∃ A : Arena ℕ, allocator.RepresentsArena A ∧ A.limit = (physicalMemory info).limit ∧
    Packed (2 ^ 20) blocks A.cursor

section Holds

variable {info : VramInfo} {allocator : VramAllocator} {blocks : List (Block ℕ)}

theorem holds_start (bar1CpuBase bar1Size : UInt64) :
    Holds info (ofInfo info bar1CpuBase bar1Size) [] :=
  ⟨physicalMemory info, ofInfo_representsArena info _ _, rfl, .nil le_rfl⟩

theorem Holds.perm (h : Holds info allocator blocks) {blocks' : List (Block ℕ)}
    (hp : blocks.Perm blocks') : Holds info allocator blocks' := by
  obtain ⟨A, hA, hlimit, hpacked⟩ := h
  exact ⟨A, hA, hlimit, hpacked.perm hp⟩

theorem Holds.allocate (h : Holds info allocator blocks) {size : UInt64} {g : GpuAllocation}
    {allocator' : VramAllocator} (ha : allocator.allocate size = (some g, allocator')) :
    Holds info allocator' (g.physBlock :: blocks) := by
  obtain ⟨A, hA, hlimit, hpacked⟩ := h
  obtain ⟨hout, hA'⟩ := hA.allocate size
  rw [ha] at hout hA'
  obtain ⟨hblock, hcursor⟩ := Arena.take_eq_some hout.symm
  refine ⟨_, hA', by rw [Arena.take_limit, hlimit], ?_⟩
  rw [hblock, hcursor]
  exact hpacked.push _

theorem Holds.pairwise_sep (h : Holds info allocator blocks) : blocks.Pairwise Block.Sep := by
  obtain ⟨A, -, -, hpacked⟩ := h
  exact hpacked.pairwise_sep

/-- The end of VRAM is a 64-bit address, and no block reaches past it. -/
theorem Holds.stop_lt (h : Holds info allocator blocks) : ∀ b ∈ blocks, b.stop < 2 ^ 64 := by
  obtain ⟨A, hA, -, hpacked⟩ := h
  intro b hb
  exact ((hpacked.within b hb).2.trans A.le).trans_lt hA.limit_lt

theorem Holds.sum_le (h : Holds info allocator blocks) :
    (blocks.map Block.size).sum ≤ info.totalBytes.toNat - 2 ^ 20 := by
  obtain ⟨A, -, hlimit, hpacked⟩ := h
  have hsum := hpacked.sum_le
  have hle := A.le
  rw [hlimit] at hle
  simp only [physicalMemory] at hle
  omega

end Holds

theorem physBlock_mapToCpu (a : VramAllocator) (g : GpuAllocation) :
    (a.mapToCpu g).2.physBlock = g.physBlock := by
  unfold mapToCpu
  split_ifs <;> rfl

/-- **Every operation keeps the allocations blocks of the memory handed out.** -/
theorem TensorStep.holds {s s' : TensorState} {op : TensorOp} {info : VramInfo}
    (hstep : TensorStep s op s') (h : Holds info s.allocator s.physBlocks) :
    Holds info s'.allocator s'.physBlocks := by
  cases hstep with
  | same => exact h
  | allocate ha => exact h.allocate ha
  | mapBlock hg =>
    have heq := map_set_eq GpuAllocation.physBlock hg (physBlock_mapToCpu s.allocator _)
    simpa [TensorState.physBlocks, TensorState.held, heq] using h
  | allocateTensor ht =>
    obtain ⟨-, ha, -⟩ := TensorEngine.allocateTensor_some ht
    refine (h.allocate ha).perm ?_
    simp only [TensorState.physBlocks, TensorState.held, List.map_append, List.cons_append,
      List.map_cons]
    exact List.perm_middle.symm
  | @mapTensor op j t ht =>
    have heq : (s.tensors.set j { t with
        allocation := (s.allocator.mapToCpu t.allocation).2 }).map
          (GpuAllocation.physBlock ∘ TensorDescriptor.allocation) =
        s.tensors.map (GpuAllocation.physBlock ∘ TensorDescriptor.allocation) :=
      map_set_eq _ ht (physBlock_mapToCpu s.allocator t.allocation)
    simp only [TensorState.physBlocks, TensorState.held, List.map_append, List.map_map] at h ⊢
    rw [heq]
    exact h
  | @freeTensor j t ht =>
    refine h.perm (List.Perm.map _ (List.Perm.append_left _ (List.Perm.map _ ?_)))
    obtain ⟨hj, rfl⟩ := List.getElem?_eq_some_iff.1 ht
    refine ((List.getElem_cons_eraseIdx_perm hj).symm.append_right s.freed).trans ?_
    exact List.perm_middle.symm

end GpuCompute
