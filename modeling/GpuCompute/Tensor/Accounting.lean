import GpuCompute.Tensor.Run
import Mathlib.Algebra.Order.BigOperators.Group.List

/-!
# Tensor accounting

The tensor engine counts the tensors alive and adds up their sizes, in words that wrap.  They never
do: the tensors alive have blocks of their own, and the allocator never hands out more than VRAM.

`Counts.step` keeps the totals those of the tensors alive, and by `accounted_run` they are so in
every run.
-/

namespace GpuCompute

open Systems VramAllocator

/-- The size of all tensors alive. -/
def TensorState.liveBytes (s : TensorState) : ℕ := (s.tensors.map fun t => t.sizeBytes.toNat).sum

/-- The totals of the engine are those of the tensors alive, which fit into VRAM. -/
structure Accounted (total : ℕ) (s : TensorState) : Prop where
  totalAllocated : s.engine.totalAllocated.toNat = s.liveBytes
  liveBytes_le : s.liveBytes ≤ total
  tensorCount : s.engine.tensorCount.toNat = s.tensors.length

/-- The totals of the engine are right, as far as 32 bits can count, and the tensors alive have
blocks that are large enough. -/
structure Counts (s : TensorState) : Prop where
  totalAllocated : s.engine.totalAllocated.toNat = s.liveBytes
  tensorCount : s.engine.tensorCount.toNat = s.tensors.length % 2 ^ 32
  sizeBytes_le : ∀ t ∈ s.tensors, t.sizeBytes.toNat ≤ t.allocation.size.toNat

/-! ### The tensors alive fit into VRAM -/

theorem sum_allocation_le (s : TensorState) :
    (s.tensors.map fun t => t.allocation.size.toNat).sum ≤ (s.physBlocks.map Block.size).sum := by
  simp only [TensorState.physBlocks, TensorState.held, List.map_append, List.map_map,
    List.sum_append]
  have heq : (s.tensors.map (Block.size ∘ GpuAllocation.physBlock ∘ TensorDescriptor.allocation)) =
      s.tensors.map fun t => t.allocation.size.toNat := rfl
  rw [heq]
  omega

theorem liveBytes_le {s : TensorState} {info : VramInfo}
    (hsize : ∀ t ∈ s.tensors, t.sizeBytes.toNat ≤ t.allocation.size.toNat)
    (h : Holds info s.allocator s.physBlocks) : s.liveBytes ≤ info.totalBytes.toNat - 2 ^ 20 :=
  calc s.liveBytes ≤ (s.tensors.map fun t => t.allocation.size.toNat).sum :=
        List.sum_le_sum hsize
    _ ≤ (s.physBlocks.map Block.size).sum := sum_allocation_le s
    _ ≤ info.totalBytes.toNat - 2 ^ 20 := h.sum_le

/-! ### Every operation keeps the totals right -/

theorem wrappedBytes_le (shape : List UInt64) (dtype : DType) :
    wrappedBytes shape dtype ≤ dtype.bytes (exactElements shape) := by
  unfold wrappedBytes DType.bytes
  split_ifs
  · exact Nat.div_le_div_right (Nat.mod_le _ _)
  · exact Nat.mod_le _ _

/-- The block of a new tensor is large enough, whatever its shape, if the exact size can be rounded
up. -/
theorem TensorEngine.sizeBytes_le {engine engine' : TensorEngine}
    {allocator allocator' : VramAllocator} {name : String} {shape : List UInt64} {dtype : DType}
    {t : TensorDescriptor} (hbytes : dtype.bytes (exactElements shape) + 0xFFF < 2 ^ 64)
    (h : engine.allocateTensor allocator name shape dtype = (some t, engine', allocator')) :
    t.sizeBytes.toNat ≤ t.allocation.size.toNat := by
  obtain ⟨_, _, _, heq, -, -, hsize, halloc⟩ | ⟨-, heq⟩ :=
    engine.allocateTensor_cases allocator name shape dtype
  · rw [heq] at h
    cases h
    have hle := wrappedBytes_le shape dtype
    rw [halloc]
    exact le_alignedSize_iff.2 (by omega)
  · rw [heq] at h
    cases h

section

variable {s : TensorState} {info : VramInfo} {t : TensorDescriptor}

/-- With a new tensor the total does not wrap, because all tensors fit into VRAM. -/
theorem Counts.push (h : Counts s) {allocator : VramAllocator}
    (ht : t.sizeBytes.toNat ≤ t.allocation.size.toNat) :
    let s' := { s with
      allocator
      engine := { totalAllocated := s.engine.totalAllocated + t.sizeBytes
                  tensorCount := s.engine.tensorCount + 1 }
      tensors := t :: s.tensors }
    Holds info s'.allocator s'.physBlocks → Counts s' := by
  intro s' hholds
  obtain ⟨htotal, hcount, hsize⟩ := h
  have hsize' : ∀ t' ∈ t :: s.tensors, t'.sizeBytes.toNat ≤ t'.allocation.size.toNat :=
    List.forall_mem_cons.2 ⟨ht, hsize⟩
  have hlive := liveBytes_le (s := s') hsize' hholds
  have hlt := info.totalBytes.toNat_lt
  simp only [TensorState.liveBytes, s', List.map_cons, List.sum_cons] at hlive htotal
  refine ⟨?_, ?_, hsize'⟩
  · simp only [TensorState.liveBytes, s', List.map_cons, List.sum_cons]
    rw [UInt64.toNat_add, htotal]
    omega
  · simp only [s', List.length_cons]
    rw [UInt32.toNat_add, hcount, UInt32.toNat_one]
    omega

theorem Counts.mapTensor (h : Counts s) {j : ℕ} (ht : s.tensors[j]? = some t) :
    Counts { s with
      tensors := s.tensors.set j
        { t with allocation := (s.allocator.mapToCpu t.allocation).2 } } := by
  obtain ⟨htotal, hcount, hsize⟩ := h
  refine ⟨?_, by simpa using hcount, fun t' ht' => ?_⟩
  · exact htotal.trans (congrArg List.sum
      (map_set_eq (fun t : TensorDescriptor => t.sizeBytes.toNat) ht (by rfl)).symm)
  · obtain hmem | rfl := List.mem_or_eq_of_mem_set ht'
    · exact hsize t' hmem
    · show t.sizeBytes.toNat ≤ ((s.allocator.mapToCpu t.allocation).2.physBlock).size
      rw [physBlock_mapToCpu]
      exact hsize t (List.mem_of_getElem? ht)

theorem Counts.freeTensor (h : Counts s) {j : ℕ} (ht : s.tensors[j]? = some t) :
    Counts { s with
      engine := (s.engine.freeTensor s.allocator t).1
      tensors := s.tensors.eraseIdx j
      freed := t :: s.freed } := by
  obtain ⟨htotal, hcount, hsize⟩ := h
  obtain ⟨hj, rfl⟩ := List.getElem?_eq_some_iff.1 ht
  have hperm := List.getElem_cons_eraseIdx_perm hj
  have hsum : (s.tensors[j]).sizeBytes.toNat +
      ((s.tensors.eraseIdx j).map fun t => t.sizeBytes.toNat).sum = s.liveBytes := by
    simpa [TensorState.liveBytes] using (hperm.map fun t => t.sizeBytes.toNat).sum_eq
  refine ⟨?_, ?_, fun t ht => hsize t (List.mem_of_mem_eraseIdx ht)⟩
  · show (s.engine.totalAllocated - s.tensors[j].sizeBytes).toNat = _
    rw [UInt64.toNat_sub_of_le, htotal, ← hsum]
    · simp [TensorState.liveBytes]
    · rw [UInt64.le_iff_toNat_le]
      omega
  · show (s.engine.tensorCount - 1).toNat = _
    rw [UInt32.toNat_sub, hcount, UInt32.toNat_one, List.length_eraseIdx_of_lt hj]
    omega

/-- **Every operation keeps the totals right.** -/
theorem Counts.step {s' : TensorState} {op : TensorOp} (h : Counts s)
    (hstep : TensorStep s op s')
    (hop : ∀ name shape dtype, op = .allocateTensor name shape dtype →
      dtype.bytes (exactElements shape) + 0xFFF < 2 ^ 64)
    (hholds : Holds info s'.allocator s'.physBlocks) : Counts s' := by
  cases hstep with
  | same => exact h
  | allocate => exact ⟨h.totalAllocated, h.tensorCount, h.sizeBytes_le⟩
  | mapBlock => exact ⟨h.totalAllocated, h.tensorCount, h.sizeBytes_le⟩
  | @allocateTensor name shape dtype t engine allocator ht =>
    have hle := TensorEngine.sizeBytes_le (hop name shape dtype rfl) ht
    obtain ⟨-, -, rfl⟩ := TensorEngine.allocateTensor_some ht
    exact h.push hle hholds
  | mapTensor op ht => exact h.mapTensor ht
  | freeTensor ht => exact h.freeTensor ht

end

/-! ### Runs -/

/-- The totals are right, as far as 32 bits can count, in every run. -/
theorem counts_run (info : VramInfo) (bar1CpuBase bar1Size : UInt64) {ops : List TensorOp}
    (hops : ∀ name shape dtype, .allocateTensor name shape dtype ∈ ops →
      dtype.bytes (exactElements shape) + 0xFFF < 2 ^ 64) :
    let s := tensors.final (.start (ofInfo info bar1CpuBase bar1Size)) ops
    Holds info s.allocator s.physBlocks ∧ Counts s := by
  have hstart : Counts (.start (ofInfo info bar1CpuBase bar1Size)) :=
    ⟨rfl, rfl, by simp [TensorState.start]⟩
  refine Machine.run_induction
    (Q := fun e => ∀ name shape dtype, e.op = .allocateTensor name shape dtype →
      dtype.bytes (exactElements shape) + 0xFFF < 2 ^ 64)
    (motive := fun _ s => Holds info s.allocator s.physBlocks ∧ Counts s)
    ⟨holds_start bar1CpuBase bar1Size, hstart⟩ ?_ ops ?_
  · rintro tr s op ⟨hholds, hcounts⟩ hop
    have hholds' := (tensors_step s op).holds hholds
    exact ⟨hholds', hcounts.step (tensors_step s op) hop hholds'⟩
  · intro e he name shape dtype hop
    exact hops name shape dtype (hop ▸ Machine.op_mem_of_mem_trace he)

theorem tensors_step_none {s : TensorState} {op : TensorOp}
    (h : (tensors.step s op).1 = .tensor none) : (tensors.step s op).2 = s := by
  cases op with
  | allocateTensor name shape dtype =>
    simp only [tensors] at h ⊢
    split at h
    case h_1 => cases h
    case h_2 e a ht =>
      obtain ⟨rfl, rfl⟩ := TensorEngine.allocateTensor_none ht
      rfl
  | allocate size =>
    simp only [tensors] at h
    split at h <;> cases h
  | _ =>
    simp only [tensors] at h
    split at h <;> cases h

/-- **The totals are right in every run**, and a tensor allocation that fails changes nothing. -/
theorem accounted_run {δ : Type*} (regs : GpuRegs δ) (dev : δ) (bar1CpuBase bar1Size : UInt64)
    (ops : List TensorOp)
    (hops : ∀ name shape dtype, .allocateTensor name shape dtype ∈ ops →
      dtype.bytes (exactElements shape) + 0xFFF < 2 ^ 64) :
    let a := (detectAndInit regs bar1CpuBase bar1Size dev).1
    let s := tensors.final (.start a) ops
    (s.tensors.length < 2 ^ 32 → Accounted a.info.totalBytes.toNat s) ∧
      ∀ e ∈ tensors.trace (.start a) ops, e.out = .tensor none →
        (tensors.step e.pre e.op).2 = e.pre := by
  intro a s
  refine ⟨fun hlive => ?_, fun e he hout => ?_⟩
  · obtain ⟨hholds, htotal, hcount, hsize⟩ := counts_run a.info bar1CpuBase bar1Size hops
    exact ⟨htotal, (liveBytes_le hsize hholds).trans (Nat.sub_le _ _),
      hcount.trans (Nat.mod_eq_of_lt hlive)⟩
  · rw [Machine.eq_event_of_mem_trace he] at hout
    exact tensors_step_none hout

/-- A run on 3 MiB of VRAM: two tensors, one of them freed, and one that does not fit. -/
def accountedOps : List TensorOp :=
  [.allocateTensor "a" [1024] .float32, .allocate 5000, .upload 0 [], .allocateTensor "b" [3] .int4,
    .freeTensor 1, .allocateTensor "c" [1024, 1024] .float32]

theorem accounted_run_three_mib :
    Accounted (3 * 2 ^ 20) (tensors.final
      (.start (detectAndInit GpuRegs.plain 0 0 fun _ => 3).1) accountedOps) := by
  refine (accounted_run GpuRegs.plain (fun _ => 3) 0 0 accountedOps ?_).1 (by decide)
  intro name shape dtype h
  simp only [accountedOps, List.mem_cons, TensorOp.allocateTensor.injEq, reduceCtorEq,
    List.not_mem_nil, false_or, or_false] at h
  obtain ⟨-, rfl, rfl⟩ | ⟨-, rfl, rfl⟩ | ⟨-, rfl, rfl⟩ := h <;> decide

end GpuCompute
