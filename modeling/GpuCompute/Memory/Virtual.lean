import GpuCompute.Memory.Run

/-!
# GPU virtual address ranges

Allocations and DMA mappings take their GPU virtual addresses from one counter.  Nothing bounds
the counter: it wraps when the addresses run out, and a request within a page of `2^64` is
rounded to nothing, so that the next request is given the same address again.  The ranges of a
run are safe exactly when no request that is granted reaches past the end of the address space
(`virtualSafe_run_iff`).

* `vaRanges` : the ranges a run handed out, with the requested sizes.
* `VirtualSafe` : they lie in the address space, are page aligned and do not overlap.
* `VramOp.FitsVa` : the operation stays inside the address space.
* `virtualSafe_run_iff` : a run is safe exactly when each of its operations `FitsVa`.
* `VramAllocator.detectAndInit_vaWithinVram`, `VramAllocator.VaWithinVram.allocate` : without DMA
  mappings every address stays below `2^40`.
-/

namespace GpuCompute

open Systems VramAllocator

/-- The virtual range an operation handed out, with the requested size. -/
def VramEvent.vaRange (e : VramEvent) : Option (Block ℕ) :=
  match e.op, e.out with
  | .allocate size, .allocated (some g) => some ⟨g.gpuVa.toNat, size.toNat⟩
  | .mapSystemMemory _ size, .dma (some va) => some ⟨va.toNat, size.toNat⟩
  | _, _ => none

/-- The virtual ranges a run handed out. -/
def vaRanges (tr : List VramEvent) : List (Block ℕ) := tr.filterMap VramEvent.vaRange

/-- GPU virtual addresses start at `0x1_0000_0000` and are 64-bit words. -/
structure VirtualSafe (tr : List VramEvent) : Prop where
  /-- Every range lies in the address space, as exact integers. -/
  within : ∀ b ∈ vaRanges tr, b.Within 0x100000000 (2 ^ 64)
  /-- Every range starts on a page. -/
  aligned : ∀ b ∈ vaRanges tr, 4096 ∣ b.start
  /-- No two ranges overlap. -/
  disjoint : (vaRanges tr).Pairwise Block.Sep

/-- The counter has not run out and `size` more bytes fit below `2^64`. -/
def VramAllocator.FitsVa (a : VramAllocator) (size : UInt64) : Prop :=
  0 < a.nextGpuVa ∧ a.nextGpuVa.toNat + size.toNat ≤ 2 ^ 64

/-- The operation stays inside the address space: a request that is granted fits there. -/
def VramOp.FitsVa (a : VramAllocator) : VramOp → Prop
  | .allocate size => (∀ r ∈ a.freeList, r.size < alignedSize size) ∨ a.FitsVa size
  | .mapSystemMemory _ size => a.FitsVa size
  | .free _ | .mapToCpu _ => True

theorem vaRange_event_allocate (a : VramAllocator) (size : UInt64) :
    VramEvent.vaRange (vram.event a (.allocate size)) =
      (a.allocate size).1.map fun _ => ⟨a.nextGpuVa.toNat, size.toNat⟩ := by
  cases h : (a.allocate size).1 with
  | none => simp [VramEvent.vaRange, vram, h]
  | some g => simp [VramEvent.vaRange, vram, h, (allocate_some h).1]

theorem vaRange_event_mapSystemMemory (a : VramAllocator) (addr size : UInt64) :
    VramEvent.vaRange (vram.event a (.mapSystemMemory addr size)) =
      some ⟨a.nextGpuVa.toNat, size.toNat⟩ := rfl

/-! ### Requests that fit -/

/-- The ranges handed out so far are stacked below the counter, `top` being its exact value. -/
structure VaInv (ranges : List (Block ℕ)) (va : UInt64) (top : ℕ) : Prop where
  /-- The counter wraps only when the address space is used up to its last page. -/
  value : va.toNat = top % 2 ^ 64
  top_le : top ≤ 2 ^ 64
  top_dvd : 4096 ∣ top
  stacked : Stacked 0x100000000 ranges top
  aligned : ∀ b ∈ ranges, 4096 ∣ b.start

theorem VaInv.reserve {ranges : List (Block ℕ)} {a : VramAllocator} {top : ℕ} {size : UInt64}
    (h : VaInv ranges a.nextGpuVa top) (hfit : a.FitsVa size) :
    VaInv (⟨a.nextGpuVa.toNat, size.toNat⟩ :: ranges) (a.nextGpuVa + alignedSize size)
      (top + roundUp 4096 size.toNat) := by
  obtain ⟨hpos, hend⟩ := hfit
  have hlo : 0x100000000 ≤ top := h.stacked.le
  have hvalue := h.value
  have hle := h.top_le
  rw [UInt64.lt_iff_toNat_lt, UInt64.toNat_ofNat] at hpos
  have htop : a.nextGpuVa.toNat = top := by omega
  have hround : (alignedSize size).toNat = roundUp 4096 size.toNat :=
    toNat_alignedSize_of_lt (by omega)
  have hroom : roundUp 4096 size.toNat ≤ 2 ^ 64 - top :=
    roundUp_le (by decide) (Nat.dvd_sub ⟨2 ^ 52, rfl⟩ h.top_dvd) (by omega)
  refine ⟨?_, by omega, Nat.dvd_add h.top_dvd (dvd_roundUp _ _), ?_, ?_⟩
  · rw [UInt64.toNat_add, hround, htop]
  · rw [htop]
    exact (h.stacked.push size.toNat).mono (Nat.add_le_add_left (le_roundUp (by decide) _) _)
  · rintro b (_ | ⟨_, hb⟩)
    · rw [htop]; exact h.top_dvd
    · exact h.aligned b hb

/-- One operation that fits keeps the invariant. -/
theorem VaInv.step {tr : List VramEvent} {a : VramAllocator} {top : ℕ} {op : VramOp}
    (h : VaInv (vaRanges tr) a.nextGpuVa top) (hfit : op.FitsVa a) :
    ∃ top', VaInv (vaRanges (vram.event a op :: tr)) (vram.step a op).2.nextGpuVa top' := by
  cases op with
  | allocate size =>
    have hrange := vaRange_event_allocate a size
    cases hg : (a.allocate size).1 with
    | none =>
      rw [hg] at hrange
      rw [vaRanges, List.filterMap_cons_none hrange]
      simp only [vram, allocate_none hg]
      exact ⟨top, h⟩
    | some g =>
      rw [hg] at hrange
      rw [vaRanges, List.filterMap_cons_some hrange]
      have hfit' : a.FitsVa size := by
        refine hfit.resolve_left fun hsmall => ?_
        rw [allocate_eq_none_iff.2 hsmall] at hg
        cases hg
      obtain ⟨-, -, -, -, hnext⟩ := allocate_some hg
      simp only [vram, hnext]
      exact ⟨_, h.reserve hfit'⟩
  | free _ => exact ⟨top, h⟩
  | mapToCpu _ => exact ⟨top, h⟩
  | mapSystemMemory _ size => exact ⟨_, h.reserve hfit⟩

theorem virtualSafe_of_fitsVa {a : VramAllocator} (ha : a.nextGpuVa = 0x100000000)
    {ops : List VramOp} (hfit : ∀ e ∈ vram.trace a ops, e.op.FitsVa e.pre) :
    VirtualSafe (vram.trace a ops) := by
  have hinv : ∃ top, VaInv (vaRanges (vram.trace a ops)) (vram.final a ops).nextGpuVa top := by
    refine Machine.run_induction (Q := fun e => e.op.FitsVa e.pre)
      (motive := fun tr b => ∃ top, VaInv (vaRanges tr) b.nextGpuVa top) ?_ ?_ ops hfit
    · exact ⟨0x100000000, by rw [ha]; rfl, by decide, by decide, le_rfl, by simp [vaRanges]⟩
    · rintro tr b op ⟨top, h⟩ hop
      exact h.step hop
  obtain ⟨top, h⟩ := hinv
  refine ⟨fun b hb => ?_, h.aligned, h.stacked.pairwise_sep⟩
  obtain ⟨hlo, hhi⟩ := h.stacked.within b hb
  exact ⟨hlo, hhi.trans h.top_le⟩

/-! ### Requests that do not fit -/

/-- A request that is granted although it does not fit gets a range outside the address space. -/
theorem not_within_of_not_fitsVa {a : VramAllocator} {size : UInt64} (h : ¬ a.FitsVa size) :
    ¬ (⟨a.nextGpuVa.toNat, size.toNat⟩ : Block ℕ).Within 0x100000000 (2 ^ 64) := by
  rintro ⟨hlo, hhi⟩
  refine h ⟨?_, hhi⟩
  rw [UInt64.lt_iff_toNat_lt, UInt64.toNat_ofNat]
  exact lt_of_lt_of_le (by decide) hlo

theorem fitsVa_of_virtualSafe {a : VramAllocator} {ops : List VramOp}
    (hsafe : VirtualSafe (vram.trace a ops)) {e : VramEvent} (he : e ∈ vram.trace a ops) :
    e.op.FitsVa e.pre := by
  have hrange : ∀ b, e.vaRange = some b → b.Within 0x100000000 (2 ^ 64) := fun b hb =>
    hsafe.within b (List.mem_filterMap.2 ⟨e, he, hb⟩)
  rw [Machine.eq_event_of_mem_trace he] at hrange
  cases hop : e.op with
  | allocate size =>
    rw [hop, vaRange_event_allocate] at hrange
    cases hg : (e.pre.allocate size).1 with
    | none => exact .inl (allocate_eq_none_iff.1 hg)
    | some g =>
      by_contra hfit
      exact not_within_of_not_fitsVa (fun h => hfit (.inr h)) (hrange _ (by rw [hg]; rfl))
  | free _ => trivial
  | mapToCpu _ => trivial
  | mapSystemMemory _ size =>
    rw [hop, vaRange_event_mapSystemMemory] at hrange
    by_contra hfit
    exact not_within_of_not_fitsVa hfit (hrange _ rfl)

/-- **The virtual ranges of a run are safe exactly when every granted request fits** in what is
left of the address space. -/
theorem virtualSafe_run_iff {δ : Type*} (regs : GpuRegs δ) (dev : δ)
    (bar1CpuBase bar1Size : UInt64) (ops : List VramOp) :
    let a := (detectAndInit regs bar1CpuBase bar1Size dev).1
    VirtualSafe (vram.trace a ops) ↔ ∀ e ∈ vram.trace a ops, e.op.FitsVa e.pre :=
  ⟨fun h _ he => fitsVa_of_virtualSafe h he, virtualSafe_of_fitsVa rfl⟩

/-- A request of `2^64 - 1` bytes is rounded to nothing and granted; the page requested next
lies inside its range. -/
theorem not_virtualSafe_huge_request :
    ¬ VirtualSafe (vram.trace (detectAndInit GpuRegs.plain 0 0 fun _ => 2).1
      [.allocate 0xFFFFFFFFFFFFFFFF, .allocate 4096]) := by
  intro h
  have hmem : (⟨0x100000000, 2 ^ 64 - 1⟩ : Block ℕ) ∈
      vaRanges (vram.trace (detectAndInit GpuRegs.plain 0 0 fun _ => 2).1
        [.allocate 0xFFFFFFFFFFFFFFFF, .allocate 4096]) := by decide
  exact absurd (h.within _ hmem).2 (by decide)

/-! ### Addresses without DMA mappings -/

namespace VramAllocator

/-- Without DMA mappings the counter moves only as VRAM is used up, so that it stays within
128 GiB of where it started, whatever sizes are requested. -/
structure VaWithinVram (a : VramAllocator) : Prop where
  arena : ∃ A, a.RepresentsArena A
  bound : a.nextGpuVa.toNat + a.freeBytes ≤ 2 ^ 32 + 2 ^ 37
  aligned : 4096 ∣ a.nextGpuVa.toNat

theorem ofInfo_vaWithinVram {info : VramInfo} (h : info.totalBytes.toNat ≤ 2 ^ 37) (b s : UInt64) :
    (ofInfo info b s).VaWithinVram := by
  refine ⟨⟨_, ofInfo_representsArena info b s⟩, ?_, ⟨2 ^ 20, rfl⟩⟩
  have hfree := (ofInfo_representsArena info b s).freeBytes
  change 2 ^ 32 + _ ≤ _
  simp only [physicalMemory] at hfree
  omega

theorem detectAndInit_vaWithinVram {δ : Type*} (regs : GpuRegs δ) (bar1CpuBase bar1Size : UInt64)
    (dev : δ) : (detectAndInit regs bar1CpuBase bar1Size dev).1.VaWithinVram :=
  ofInfo_vaWithinVram (decodeVramSize_spec _).2 _ _

theorem RepresentsArena.freeBytes_allocate {a : VramAllocator} {A : Arena ℕ}
    (h : a.RepresentsArena A) {size : UInt64} {g : GpuAllocation}
    (hg : (a.allocate size).1 = some g) :
    (a.allocate size).2.freeBytes + (alignedSize size).toNat = a.freeBytes := by
  obtain ⟨htake, hrep⟩ := h.allocate size
  have hbefore := h.freeBytes
  have hafter := hrep.freeBytes
  rw [Arena.take_limit] at hafter
  rw [hg] at htake
  by_cases hfit : A.cursor + (alignedSize size).toNat ≤ A.limit
  · rw [Arena.take_of_le hfit] at hafter
    simp only at hafter
    omega
  · rw [Arena.take_of_lt (not_le.1 hfit)] at htake
    cases htake

theorem VaWithinVram.toNat_nextGpuVa {a : VramAllocator} (h : a.VaWithinVram) {size : UInt64}
    {g : GpuAllocation} (hg : (a.allocate size).1 = some g) :
    (a.allocate size).2.nextGpuVa.toNat = a.nextGpuVa.toNat + g.size.toNat := by
  obtain ⟨A, hA⟩ := h.arena
  have hbound := h.bound
  have hfree := hA.freeBytes_allocate hg
  obtain ⟨-, hsize, -, -, hnext⟩ := allocate_some hg
  rw [hnext, hsize, UInt64.toNat_add, Nat.mod_eq_of_lt (by omega)]

theorem VaWithinVram.allocate {a : VramAllocator} (h : a.VaWithinVram) (size : UInt64) :
    (a.allocate size).2.VaWithinVram ∧
      ∀ g, (a.allocate size).1 = some g →
        g.gpuVa.toNat + g.size.toNat ≤ 2 ^ 32 + 2 ^ 37 ∧ 4096 ∣ g.gpuVa.toNat := by
  obtain ⟨A, hA⟩ := h.arena
  have hbound := h.bound
  cases hg : (a.allocate size).1 with
  | none =>
    rw [allocate_none hg]
    exact ⟨h, fun g hg => by cases hg⟩
  | some g =>
    have hfree := hA.freeBytes_allocate hg
    have hnat := h.toNat_nextGpuVa hg
    obtain ⟨hva, hsize, -⟩ := allocate_some hg
    rw [hsize] at hnat
    refine ⟨⟨⟨_, (hA.allocate size).2⟩, by omega, ?_⟩, ?_⟩
    · rw [hnat]; exact Nat.dvd_add h.aligned (dvd_alignedSize size)
    · rintro _ ⟨⟩
      rw [hva, hsize]
      exact ⟨by omega, h.aligned⟩

end VramAllocator

end GpuCompute
