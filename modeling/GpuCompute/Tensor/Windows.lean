import GpuCompute.Tensor.Run

/-!
# Windows through BAR1

`VramAllocator.mapToCpu` shows an allocation through BAR1, which is a window on the first bytes of
VRAM.  It keeps the address in the allocation and returns that the next time.

* `GpuAllocation.window`, `GpuAllocation.Mappable` : where an allocation appears, and whether it
  does.
* `MapsExactly` : what mapping an allocation has to return and to leave.
* `WindowsExact` : what a run guarantees.
* `mapToCpu_exact` : mapping an allocation is exact if the address it may have kept is.
* `windowsExact_run` : every run is `WindowsExact`.
-/

namespace GpuCompute

open Systems VramAllocator

/-- Where an allocation appears in an aperture at `base`. -/
def GpuAllocation.window (base : UInt64) (g : GpuAllocation) : Block ℕ :=
  ⟨base.toNat + g.physAddr.toNat, g.size.toNat⟩

/-- An aperture of the given size shows the whole allocation. -/
def GpuAllocation.Mappable (size : UInt64) (g : GpuAllocation) : Prop :=
  g.physAddr.toNat + g.size.toNat ≤ size.toNat

/-- The result of mapping an allocation and the allocation afterwards: the address of its window,
which lies in the aperture, or nothing if the aperture does not show it. -/
def MapsExactly (base size : UInt64) (g : GpuAllocation) (r : Option UInt64 × GpuAllocation) :
    Prop :=
  (g.Mappable size ∧ ∃ va : UInt64, va.toNat = (g.window base).start ∧
    (g.window base).Within base.toNat (base.toNat + size.toNat) ∧
    r = (some va, { g with cpuMapped := true, cpuVa := va })) ∨
  (¬ g.Mappable size ∧ r = (none, g))

/-- What an operation has to show: a mapping is exact; a transfer succeeds exactly when the length
is that of the tensor and the aperture shows it, and it changes nothing but the mapping. -/
def TensorOut.Exact (base size : UInt64) : TensorOut → Prop
  | .mapped before cpuVa after => MapsExactly base size before (cpuVa, after)
  | .copied before len ok after =>
    (ok = true ↔ len = before.sizeBytes.toNat ∧ before.allocation.Mappable size) ∧
      ∃ cpuMapped cpuVa,
        after = { before with allocation := { before.allocation with cpuMapped, cpuVa } }
  | _ => True

/-- What a run guarantees: all that it shows is exact, and no windows overlap. -/
structure WindowsExact (base size : UInt64) (tr : List TensorEvent) (s : TensorState) : Prop where
  exact : ∀ e ∈ tr, TensorOut.Exact base size e.out
  disjoint : (s.held.map (GpuAllocation.window base)).Pairwise Block.Sep

/-! ### Mapping an allocation -/

/-- An address that is kept is the one of the window. -/
def GpuAllocation.KeepsWindow (base size : UInt64) (g : GpuAllocation) : Prop :=
  g.cpuMapped = true → g.Mappable size ∧ g.cpuVa.toNat = (g.window base).start

section Mapping

variable {base size : UInt64} (hfits : base.toNat + size.toNat < 2 ^ 64)
include hfits

/-- **Mapping an allocation is exact** if the address it may have kept is. -/
theorem mapToCpu_exact {a : VramAllocator} (hbase : a.bar1CpuBase = base)
    (hsize : a.bar1Size = size) {g : GpuAllocation} (hg : g.KeepsWindow base size)
    (hstop : g.physBlock.stop < 2 ^ 64) :
    MapsExactly base size g (a.mapToCpu g) := by
  have hwindow : g.Mappable size →
      (g.window base).Within base.toNat (base.toNat + size.toNat) := by
    intro h
    simp only [GpuAllocation.Mappable] at h
    simp only [Block.Within, Block.stop, GpuAllocation.window]
    omega
  have hsum : (g.physAddr + g.size).toNat = g.physAddr.toNat + g.size.toNat := by
    rw [UInt64.toNat_add]
    exact Nat.mod_eq_of_lt hstop
  unfold mapToCpu
  rw [hbase, hsize]
  split_ifs with hmapped hlarge hfit
  · -- the address was kept from an earlier call
    obtain ⟨hmap, hva⟩ := hg hmapped
    refine .inl ⟨hmap, g.cpuVa, hva, hwindow hmap, ?_⟩
    rw [← hmapped]
  · rw [gt_iff_lt, UInt64.lt_iff_toNat_lt] at hlarge
    refine .inr ⟨fun hmap => ?_, rfl⟩
    simp only [GpuAllocation.Mappable] at hmap
    omega
  · rw [UInt64.le_iff_toNat_le, hsum] at hfit
    refine .inl ⟨hfit, base + g.physAddr, ?_, hwindow hfit, rfl⟩
    rw [UInt64.toNat_add]
    exact Nat.mod_eq_of_lt (by omega)
  · rw [UInt64.le_iff_toNat_le, hsum] at hfit
    exact .inr ⟨hfit, rfl⟩

end Mapping

section MapsExactly

variable {base size : UInt64} {g : GpuAllocation} {r : Option UInt64 × GpuAllocation}

/-- An address that is kept is the one of the window. -/
theorem MapsExactly.keepsWindow (h : MapsExactly base size g r) (hg : g.KeepsWindow base size) :
    r.2.KeepsWindow base size := by
  obtain ⟨hmap, va, hva, -, rfl⟩ | ⟨-, rfl⟩ := h
  · exact fun _ => ⟨hmap, hva⟩
  · exact hg

/-- **A transfer succeeds exactly when the length is that of the tensor and the aperture shows
it.** -/
theorem transfer_exact {a : VramAllocator} {t : TensorDescriptor} (len : ℕ)
    (h : MapsExactly base size t.allocation (a.mapToCpu t.allocation)) :
    TensorOut.Exact base size (.copied t len (TensorEngine.transfer a t len).1
      (TensorEngine.transfer a t len).2) := by
  unfold TensorEngine.transfer
  split_ifs with hlen
  · exact ⟨iff_of_false Bool.false_ne_true fun hok => hlen hok.1,
      t.allocation.cpuMapped, t.allocation.cpuVa, rfl⟩
  · rw [not_not] at hlen
    obtain ⟨hmap, va, -, -, heq⟩ | ⟨hmap, heq⟩ := h
    · rw [heq]
      exact ⟨iff_of_true rfl ⟨hlen, hmap⟩, true, va, rfl⟩
    · rw [heq]
      exact ⟨iff_of_false Bool.false_ne_true fun hok => hmap hok.2,
        t.allocation.cpuMapped, t.allocation.cpuVa, rfl⟩

end MapsExactly

/-! ### Every operation keeps the addresses right -/

theorem TensorState.forall_held {s : TensorState} {P : GpuAllocation → Prop} :
    (∀ g ∈ s.held, P g) ↔ (∀ g ∈ s.blocks, P g) ∧ (∀ t ∈ s.tensors, P t.allocation) ∧
      ∀ t ∈ s.freed, P t.allocation := by
  simp only [TensorState.held, List.mem_append, List.mem_map, or_imp, forall_and,
    forall_exists_index, and_imp, forall_apply_eq_imp_iff₂]

theorem TensorState.mem_held_of_block {s : TensorState} {i : ℕ} {g : GpuAllocation}
    (h : s.blocks[i]? = some g) : g ∈ s.held :=
  (TensorState.forall_held.1 fun _ hg => hg).1 g (List.mem_of_getElem? h)

theorem TensorState.mem_held_of_tensor {s : TensorState} {j : ℕ} {t : TensorDescriptor}
    (h : s.tensors[j]? = some t) : t.allocation ∈ s.held :=
  (TensorState.forall_held.1 fun _ hg => hg).2.1 t (List.mem_of_getElem? h)

theorem Holds.windows {info : VramInfo} {s : TensorState}
    (h : Holds info s.allocator s.physBlocks) (base : UInt64) :
    (s.held.map (GpuAllocation.window base)).Pairwise Block.Sep := by
  have hsep := h.pairwise_sep
  rw [TensorState.physBlocks, List.pairwise_map] at hsep
  refine List.pairwise_map.2 (hsep.imp fun hgs => ?_)
  simp only [Block.Sep, Block.stop, GpuAllocation.window, GpuAllocation.physBlock] at hgs ⊢
  omega

/-- The aperture is the one of the start, and all addresses that are kept are right. -/
structure KeepsWindows (base size : UInt64) (info : VramInfo) (s : TensorState) : Prop where
  bar1CpuBase : s.allocator.bar1CpuBase = base
  bar1Size : s.allocator.bar1Size = size
  holds : Holds info s.allocator s.physBlocks
  keeps : ∀ g ∈ s.held, g.KeepsWindow base size

theorem allocate_aperture {a a' : VramAllocator} {n : UInt64} {g : GpuAllocation}
    (h : a.allocate n = (some g, a')) :
    a'.bar1CpuBase = a.bar1CpuBase ∧ a'.bar1Size = a.bar1Size ∧ g.cpuMapped = false := by
  obtain ⟨_, _, -, heq⟩ | ⟨-, heq⟩ := a.allocate_cases n
  · rw [heq] at h
    cases h
    exact ⟨rfl, rfl, rfl⟩
  · rw [heq] at h
    cases h

section Runs

variable {base size : UInt64} (hfits : base.toNat + size.toNat < 2 ^ 64)
include hfits

theorem KeepsWindows.mapsExactly {info : VramInfo} {s : TensorState}
    (h : KeepsWindows base size info s) {g : GpuAllocation} (hg : g ∈ s.held) :
    MapsExactly base size g (s.allocator.mapToCpu g) :=
  mapToCpu_exact hfits h.bar1CpuBase h.bar1Size (h.keeps g hg)
    (h.holds.stop_lt _ (List.mem_map_of_mem hg))

/-- **Every operation keeps the addresses right.** -/
theorem KeepsWindows.step {info : VramInfo} {s s' : TensorState} {op : TensorOp}
    (h : KeepsWindows base size info s) (hstep : TensorStep s op s') :
    KeepsWindows base size info s' := by
  have hholds := hstep.holds h.holds
  have hmaps : ∀ g ∈ s.held, (s.allocator.mapToCpu g).2.KeepsWindow base size :=
    fun g hg => (h.mapsExactly hfits hg).keepsWindow (h.keeps g hg)
  obtain ⟨hbase, hsize, -, hkeeps⟩ := h
  rw [TensorState.forall_held] at hkeeps
  obtain ⟨hblocks, htensors, hfreed⟩ := hkeeps
  cases hstep with
  | same => exact ⟨hbase, hsize, hholds, TensorState.forall_held.2 ⟨hblocks, htensors, hfreed⟩⟩
  | @allocate n g a ha =>
    obtain ⟨hbase', hsize', hfresh⟩ := allocate_aperture ha
    refine ⟨hbase'.trans hbase, hsize'.trans hsize, hholds, TensorState.forall_held.2
      ⟨List.forall_mem_cons.2 ⟨fun hmapped => ?_, hblocks⟩, htensors, hfreed⟩⟩
    rw [hfresh] at hmapped
    cases hmapped
  | @mapBlock i g hg =>
    refine ⟨hbase, hsize, hholds, TensorState.forall_held.2 ⟨fun g' hg' => ?_, htensors, hfreed⟩⟩
    obtain hmem | rfl := List.mem_or_eq_of_mem_set hg'
    · exact hblocks g' hmem
    · exact hmaps g (TensorState.mem_held_of_block hg)
  | @allocateTensor name shape dtype t engine a ht =>
    obtain ⟨hbase', hsize', hfresh⟩ := allocate_aperture (TensorEngine.allocateTensor_some ht).2.1
    refine ⟨hbase'.trans hbase, hsize'.trans hsize, hholds, TensorState.forall_held.2
      ⟨hblocks, List.forall_mem_cons.2 ⟨fun hmapped => ?_, htensors⟩, hfreed⟩⟩
    rw [hfresh] at hmapped
    cases hmapped
  | @mapTensor op j t ht =>
    refine ⟨hbase, hsize, hholds, TensorState.forall_held.2 ⟨hblocks, fun t' ht' => ?_, hfreed⟩⟩
    obtain hmem | rfl := List.mem_or_eq_of_mem_set ht'
    · exact htensors t' hmem
    · exact hmaps t.allocation (TensorState.mem_held_of_tensor ht)
  | @freeTensor j t ht =>
    have hmem := List.mem_of_getElem? ht
    exact ⟨hbase, hsize, hholds, TensorState.forall_held.2 ⟨hblocks,
      fun t ht => htensors t (List.mem_of_mem_eraseIdx ht),
      List.forall_mem_cons.2 ⟨htensors t hmem, hfreed⟩⟩⟩

/-- **What an operation shows is exact.** -/
theorem KeepsWindows.exact {info : VramInfo} {s : TensorState} (h : KeepsWindows base size info s)
    (op : TensorOp) : TensorOut.Exact base size (tensors.step s op).1 := by
  cases op with
  | mapToCpu i =>
    simp only [tensors]
    split
    case h_1 g hg => exact h.mapsExactly hfits (TensorState.mem_held_of_block hg)
    case h_2 => trivial
  | mapTensor j =>
    simp only [tensors]
    split
    case h_1 t ht => exact h.mapsExactly hfits (TensorState.mem_held_of_tensor ht)
    case h_2 => trivial
  | upload j data =>
    simp only [tensors]
    split
    case h_1 t ht =>
      exact transfer_exact data.length (h.mapsExactly hfits (TensorState.mem_held_of_tensor ht))
    case h_2 => trivial
  | download j buffer =>
    simp only [tensors]
    split
    case h_1 t ht =>
      exact transfer_exact buffer.length (h.mapsExactly hfits (TensorState.mem_held_of_tensor ht))
    case h_2 => trivial
  | _ =>
    simp only [tensors]
    split <;> trivial

end Runs

/-- **Windows through BAR1 are exact and disjoint in every run**, whatever is allocated, freed,
mapped and transferred, in any order. -/
theorem windowsExact_run {δ : Type*} (regs : GpuRegs δ) (dev : δ) {bar1CpuBase bar1Size : UInt64}
    (hfits : bar1CpuBase.toNat + bar1Size.toNat < 2 ^ 64) (ops : List TensorOp) :
    let a := (detectAndInit regs bar1CpuBase bar1Size dev).1
    WindowsExact bar1CpuBase bar1Size (tensors.trace (.start a) ops)
      (tensors.final (.start a) ops) := by
  intro a
  have hstart : KeepsWindows bar1CpuBase bar1Size a.info (.start a) :=
    ⟨rfl, rfl, holds_start bar1CpuBase bar1Size, by simp [TensorState.start, TensorState.held]⟩
  have hrun := Machine.run_induction' (M := tensors) (s := .start a)
    (motive := fun tr s => KeepsWindows bar1CpuBase bar1Size a.info s ∧
      ∀ e ∈ tr, TensorOut.Exact bar1CpuBase bar1Size e.out) ⟨hstart, by simp⟩ ?_ ops
  · exact ⟨hrun.2, hrun.1.holds.windows bar1CpuBase⟩
  · rintro tr s op ⟨hkeeps, hexact⟩
    exact ⟨hkeeps.step hfits (tensors_step s op),
      List.forall_mem_cons.2 ⟨hkeeps.exact hfits op, hexact⟩⟩

/-- A tensor is mapped twice and uploaded, an allocation past the aperture is not mapped. -/
theorem windowsExact_run_two_windows :
    let a := (detectAndInit GpuRegs.plain 0xE0000000 0x101000 fun _ => 3).1
    let ops := [.allocateTensor "a" [16] .int8, .allocate 4096, .mapToCpu 0, .mapTensor 0,
      .upload 0 [1, 2, 3], .mapTensor 0]
    WindowsExact 0xE0000000 0x101000 (tensors.trace (.start a) ops)
      (tensors.final (.start a) ops) :=
  windowsExact_run GpuRegs.plain (fun _ => 3) (by decide) _

end GpuCompute
