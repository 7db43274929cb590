import GpuCompute.Memory.Virtual
import Mathlib.Algebra.BigOperators.Group.List.Lemmas
import Mathlib.Data.UInt

/-!
# Allocations add up

VRAM is one region that is cut from the left and never given back, so that what matters of a list of
requests is the sum of their rounded sizes: they all succeed when the sum fits in what is free, and
the state after them is the same in every order.  When they do not all succeed, the order decides
which of them do.

* `AllSucceed` : every request of a list returns an allocation.
* `VramAllocator.bump` : the allocator after some bytes have been handed out.
* `OrderFree` : the outcome of a list of requests is a matter of their total.
* `RepresentsArena.isSome_allocate_iff` : a request succeeds exactly when it fits.
* `allSucceed_iff`, `allocateAll_of_allSucceed` : when all requests succeed, and what they leave.
* `freeBytes_final_le` : no run makes more room.
* `orderFree_run` : from every reachable state the outcome is a matter of the total.
-/

namespace GpuCompute

open Systems VramAllocator

/-! ### One request -/

namespace VramAllocator

/-- Hand out `n` bytes of every region, and as many addresses. -/
def bump (a : VramAllocator) (n : UInt64) : VramAllocator :=
  { a with
    freeList := a.freeList.map fun r => ⟨r.start + n, r.size - n⟩
    nextGpuVa := a.nextGpuVa + n }

theorem bump_zero (a : VramAllocator) : a.bump 0 = a := by
  simp [bump]

theorem bump_bump (a : VramAllocator) (m n : UInt64) : (a.bump m).bump n = a.bump (m + n) := by
  simp only [bump, List.map_map, Function.comp_def, add_assoc, sub_sub]

namespace RepresentsArena

variable {a : VramAllocator} {A : Arena ℕ} (h : a.RepresentsArena A)

include h

theorem isSome_allocate_iff (size : UInt64) :
    (a.allocate size).1.isSome ↔ (alignedSize size).toNat ≤ a.freeBytes := by
  obtain ⟨r, hr, -, -⟩ := h.region
  rw [Option.isSome_iff_ne_none, ne_eq, allocate_eq_none_iff, hr]
  simp [VramAllocator.freeBytes, hr, UInt64.le_iff_toNat_le]

theorem allocate_of_le {size : UInt64} (hle : (alignedSize size).toNat ≤ a.freeBytes) :
    ∃ physAddr, physAddr.toNat = A.cursor ∧
      a.allocate size = (some ⟨a.nextGpuVa, physAddr, alignedSize size, false, 0⟩,
        a.bump (alignedSize size)) := by
  obtain ⟨r, hr, hstart, -⟩ := h.region
  have hfits : alignedSize size ≤ r.size := by
    rw [UInt64.le_iff_toNat_le]
    simpa [VramAllocator.freeBytes, hr] using hle
  refine ⟨r.start, hstart, ?_⟩
  rw [VramAllocator.allocate, hr, firstFit_singleton hfits, bump, hr]
  rfl

theorem allocate_of_lt {size : UInt64} (hlt : a.freeBytes < (alignedSize size).toNat) :
    a.allocate size = (none, a) := by
  apply allocate_none
  rw [← Option.not_isSome_iff_eq_none, h.isSome_allocate_iff]
  omega

theorem freeBytes_bump {size : UInt64} (hle : (alignedSize size).toNat ≤ a.freeBytes) :
    (a.bump (alignedSize size)).freeBytes = a.freeBytes - (alignedSize size).toNat ∧
      (a.bump (alignedSize size)).RepresentsArena (A.take (alignedSize size).toNat).2 := by
  obtain ⟨physAddr, -, heq⟩ := h.allocate_of_le hle
  have hfree := h.freeBytes_allocate (congrArg Prod.fst heq)
  have hrep := (h.allocate size).2
  rw [heq] at hfree hrep
  exact ⟨Nat.eq_sub_of_add_eq hfree, hrep⟩

theorem freeBytes_final_le (ops : List VramOp) : (vram.final a ops).freeBytes ≤ a.freeBytes := by
  have hbefore := h.freeBytes
  have hafter := (final_representsArena h ops).freeBytes
  have hle := (Arena.stacked_run A (ops.filterMap physicalArena.op)).le
  rw [Arena.limit_run] at hafter
  omega

/-- A size that has failed fails ever after, and so do all larger ones. -/
theorem allocate_final_of_none {size : UInt64} (hnone : (a.allocate size).1 = none)
    (ops : List VramOp) {size' : UInt64} (hle : size ≤ size')
    (hsize' : size'.toNat + 0xFFF < 2 ^ 64) :
    ((vram.final a ops).allocate size').1 = none := by
  have hmono := h.freeBytes_final_le ops
  have hround : (alignedSize size).toNat ≤ (alignedSize size').toNat := by
    rw [UInt64.le_iff_toNat_le] at hle
    rw [toNat_alignedSize, toNat_alignedSize]
    omega
  rw [← Option.not_isSome_iff_eq_none, h.isSome_allocate_iff] at hnone
  rw [← Option.not_isSome_iff_eq_none, (final_representsArena h ops).isSome_allocate_iff]
  omega

end RepresentsArena

end VramAllocator

/-! ### Lists of requests -/

/-- The state after a list of requests. -/
def VramAllocator.allocateAll (a : VramAllocator) (sizes : List UInt64) : VramAllocator :=
  vram.final a (sizes.map .allocate)

/-- Every request of the list returns an allocation. -/
def AllSucceed (a : VramAllocator) (sizes : List UInt64) : Prop :=
  ∀ e ∈ vram.trace a (sizes.map .allocate), ∃ g, e.out = .allocated (some g)

theorem allSucceed_concat {a : VramAllocator} {sizes : List UInt64} {size : UInt64} :
    AllSucceed a (sizes ++ [size]) ↔
      AllSucceed a sizes ∧ ((a.allocateAll sizes).allocate size).1.isSome := by
  rw [AllSucceed, AllSucceed, List.map_append, List.map_singleton, Machine.trace_concat,
    List.forall_mem_cons, and_comm, allocateAll, Option.isSome_iff_exists]
  simp [vram]

theorem allocateAll_concat (a : VramAllocator) (sizes : List UInt64) (size : UInt64) :
    a.allocateAll (sizes ++ [size]) = ((a.allocateAll sizes).allocate size).2 := by
  rw [allocateAll, List.map_append, List.map_singleton, Machine.final_concat]
  rfl

/-- The bytes that a list of requests takes. -/
def totalAligned (sizes : List UInt64) : ℕ := (sizes.map fun size => (alignedSize size).toNat).sum

theorem totalAligned_concat (sizes : List UInt64) (size : UInt64) :
    totalAligned (sizes ++ [size]) = totalAligned sizes + (alignedSize size).toNat := by
  simp [totalAligned]

section

variable {a : VramAllocator} {A : Arena ℕ} (h : a.RepresentsArena A)

include h

theorem allocateAll_of_allSucceed {sizes : List UInt64} (hall : AllSucceed a sizes) :
    a.allocateAll sizes = a.bump (sizes.map alignedSize).sum ∧
      (a.allocateAll sizes).freeBytes + totalAligned sizes = a.freeBytes := by
  induction sizes using List.reverseRecOn with
  | nil => exact ⟨(bump_zero a).symm, rfl⟩
  | append_singleton sizes size ih =>
    obtain ⟨hall, hsome⟩ := allSucceed_concat.1 hall
    obtain ⟨hfinal, hfree⟩ := ih hall
    have hrep : (a.allocateAll sizes).RepresentsArena _ := final_representsArena h _
    obtain ⟨g, hg⟩ := Option.isSome_iff_exists.1 hsome
    rw [allocateAll_concat, totalAligned_concat]
    constructor
    · obtain ⟨physAddr, -, heq⟩ := hrep.allocate_of_le ((hrep.isSome_allocate_iff size).1 hsome)
      rw [heq, hfinal, bump_bump]
      simp
    · have := hrep.freeBytes_allocate hg
      omega

/-- **A list of requests succeeds exactly when its total is free.** -/
theorem allSucceed_iff (sizes : List UInt64) :
    AllSucceed a sizes ↔ totalAligned sizes ≤ a.freeBytes := by
  induction sizes using List.reverseRecOn with
  | nil => exact iff_of_true (fun e he => by cases he) (Nat.zero_le _)
  | append_singleton sizes size ih =>
    -- what the requests so far have left is known when they have succeeded, and only then needed
    have hrep : (a.allocateAll sizes).RepresentsArena _ := final_representsArena h _
    rw [allSucceed_concat, totalAligned_concat, hrep.isSome_allocate_iff, ih]
    constructor
    · rintro ⟨hle, hsize⟩
      have := (allocateAll_of_allSucceed h (ih.2 hle)).2
      omega
    · intro hle
      have := (allocateAll_of_allSucceed h (ih.2 (by omega))).2
      exact ⟨by omega, by omega⟩

theorem allocateAll_perm {sizes sizes' : List UInt64} (hperm : sizes.Perm sizes')
    (hall : AllSucceed a sizes) :
    AllSucceed a sizes' ∧ a.allocateAll sizes' = a.allocateAll sizes := by
  have hall' : AllSucceed a sizes' := by
    have htotal : totalAligned sizes' = totalAligned sizes :=
      (hperm.symm.map fun size => (alignedSize size).toNat).sum_eq
    rw [allSucceed_iff h, htotal]
    exact (allSucceed_iff h sizes).1 hall
  refine ⟨hall', ?_⟩
  rw [(allocateAll_of_allSucceed h hall).1, (allocateAll_of_allSucceed h hall').1,
    (hperm.symm.map alignedSize).sum_eq]

end

/-! ### Every reachable state -/

/-- The outcome of requests in a state is a matter of their total. -/
structure OrderFree (a : VramAllocator) : Prop where
  /-- Requests all succeed exactly when their rounded sizes fit together in what is free. -/
  total : ∀ sizes : List UInt64, (∀ size ∈ sizes, size.toNat + 0xFFF < 2 ^ 64) →
    (AllSucceed a sizes ↔ (sizes.map fun size => roundUp 4096 size.toNat).sum ≤ a.freeBytes)
  /-- If they all succeed, then they do so in every order and leave the same state. -/
  perm : ∀ sizes sizes' : List UInt64, sizes.Perm sizes' → AllSucceed a sizes →
    AllSucceed a sizes' ∧ a.allocateAll sizes' = a.allocateAll sizes
  /-- A request that fails changes nothing. -/
  failed : ∀ size, (a.allocate size).1 = none → (a.allocate size).2 = a
  /-- After it every request that is not smaller fails, whatever is done in between. -/
  later : ∀ size, (a.allocate size).1 = none → ∀ ops size', size ≤ size' →
    size'.toNat + 0xFFF < 2 ^ 64 → ((vram.final (a.allocate size).2 ops).allocate size').1 = none

/-- **The outcome of requests is a matter of their total** in every state that a detected allocator
can reach. -/
theorem orderFree_run {δ : Type*} (regs : GpuRegs δ) (dev : δ) (bar1CpuBase bar1Size : UInt64)
    (ops : List VramOp) :
    OrderFree (vram.final (detectAndInit regs bar1CpuBase bar1Size dev).1 ops) := by
  have h : (vram.final (detectAndInit regs bar1CpuBase bar1Size dev).1 ops).RepresentsArena _ :=
    final_representsArena (ofInfo_representsArena _ _ _) ops
  generalize vram.final (detectAndInit regs bar1CpuBase bar1Size dev).1 ops = a at h
  constructor
  case total =>
    intro sizes hsizes
    have htotal : totalAligned sizes = (sizes.map fun size => roundUp 4096 size.toNat).sum := by
      rw [totalAligned]
      congr 1
      exact List.map_congr_left fun size hmem => toNat_alignedSize_of_lt (hsizes size hmem)
    rw [allSucceed_iff h, htotal]
  case perm => exact fun sizes sizes' hperm hall => allocateAll_perm h hperm hall
  case failed => exact fun size hnone => by rw [allocate_none hnone]
  case later =>
    intro size hnone ops size' hle hsize'
    rw [allocate_none hnone]
    exact h.allocate_final_of_none hnone ops hle hsize'

/-- Requests that do not all succeed leave different states in different orders. -/
theorem allocateAll_ne_of_perm :
    let a := (detectAndInit GpuRegs.plain 0 0 fun _ => 2).1
    let sizes : List UInt64 := [0x100000, 0x1000]
    let sizes' : List UInt64 := [0x1000, 0x100000]
    sizes.Perm sizes' ∧ (a.allocateAll sizes).freeList ≠ (a.allocateAll sizes').freeList ∧
      (a.allocateAll sizes).nextGpuVa ≠ (a.allocateAll sizes').nextGpuVa := by
  refine ⟨.swap _ _ _, ?_, ?_⟩ <;> decide

end GpuCompute
