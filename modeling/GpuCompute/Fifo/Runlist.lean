import GpuCompute.Fifo.Channel
import GpuCompute.Lib.Machine

/-!
# Runlists

A runlist is the set of channels that the scheduler cycles through.  `Runlist.commit` publishes it:
it allocates a block for the entries and keeps it.  An empty runlist needs no block, and a commit of
one does nothing, so that the block of an earlier commit stays published.

* `runlist` is a runlist as a machine; every commit may use another allocator.
* `Describes` says that the block that is published describes the channels.
* `Runlist.commit_cases` says all that a commit can do.
* `describes_run_iff` : a run keeps the published block up to date exactly when no empty runlist is
  committed after a block has been published.
-/

namespace GpuCompute

open Systems VramAllocator

/-- The channels of a runlist, in the order of their priority, and the block with its entries. -/
structure Runlist where
  /-- Runlist ID. -/
  id : UInt32
  /-- The channels. -/
  channels : List UInt32
  /-- The block of the last commit that got one. -/
  allocation : Option GpuAllocation
  deriving DecidableEq

namespace Runlist

/-- An empty runlist. -/
def new (id : UInt32) : Runlist := ⟨id, [], none⟩

/-- Add a channel at the end. -/
def addChannel (r : Runlist) (channelId : UInt32) : Runlist :=
  { r with channels := r.channels ++ [channelId] }

/-- Remove all occurrences of a channel. -/
def removeChannel (r : Runlist) (channelId : UInt32) : Runlist :=
  { r with channels := r.channels.filter (· != channelId) }

/-- The size of the entries of a runlist, eight bytes each. -/
def allocSize (r : Runlist) : UInt64 := UInt64.ofNat r.channels.length * 8

/-- Allocate a block for the entries and keep it. -/
def commit (r : Runlist) (allocator : VramAllocator) : Runlist × VramAllocator :=
  if r.allocSize > 0 then
    match allocator.allocate r.allocSize with
    | (some alloc, allocator) => ({ r with allocation := some alloc }, allocator)
    | (none, allocator) => (r, allocator)
  else (r, allocator)

end Runlist

/-! ### The FIFO engine -/

/-- Base of the FIFO block. -/
def NV_PFIFO : UInt32 := 0x002000

/-- Interrupt status and interrupt enable of the FIFO. -/
def NV_PFIFO_INTR_0 : UInt32 := NV_PFIFO + 0x100
def NV_PFIFO_INTR_EN_0 : UInt32 := NV_PFIFO + 0x140

/-- Clear and enable the interrupts of the FIFO. -/
def initFifo {δ : Type*} (regs : GpuRegs δ) (dev : δ) : δ :=
  let (_, dev) := regs.read32 dev NV_PFIFO_INTR_0
  let dev := regs.write32 dev NV_PFIFO_INTR_0 0xFFFFFFFF
  regs.write32 dev NV_PFIFO_INTR_EN_0 0xFFFFFFFF

/-! ### Runs -/

/-- The operations on a runlist. -/
inductive RunlistOp where
  | addChannel (channelId : UInt32)
  | removeChannel (channelId : UInt32)
  | commit (allocator : VramAllocator)
  deriving DecidableEq

/-- A runlist as a machine that shows the block published after each operation. -/
def runlist : Machine Runlist RunlistOp (Option GpuAllocation) where
  step r op :=
    let r' := match op with
      | .addChannel channelId => r.addChannel channelId
      | .removeChannel channelId => r.removeChannel channelId
      | .commit allocator => (r.commit allocator).1
    (r'.allocation, r')

/-- One performed operation of a runlist. -/
abbrev RunlistEvent := Event Runlist RunlistOp (Option GpuAllocation)

/-- VRAM has room for the entries of the channels. -/
def Sufficient (allocator : VramAllocator) (channels : List UInt32) : Prop :=
  channels = [] ∨ ∃ r ∈ allocator.freeList, roundUp 4096 (8 * channels.length) ≤ r.size.toNat

/-- The block is one that the commit of these channels has allocated, of the size of their entries
in pages; for no channels there is none. -/
def Describes (allocator : VramAllocator) (channels : List UInt32) :
    Option GpuAllocation → Prop
  | none => channels = []
  | some g => channels ≠ [] ∧ g.size.toNat = roundUp 4096 (8 * channels.length) ∧
      (allocator.allocate (UInt64.ofNat (8 * channels.length))).1 = some g

/-- After every commit for which VRAM is sufficient, the published block describes the channels. -/
def DescribesAlways (tr : List RunlistEvent) : Prop :=
  Always (fun e _ => ∀ allocator, e.op = .commit allocator →
    Sufficient allocator e.pre.channels → Describes allocator e.pre.channels e.out) tr

/-- The runlist has entries and the allocator has a block for them. -/
def Runlist.Gets (r : Runlist) (allocator : VramAllocator) : Prop :=
  r.allocSize > 0 ∧ ∃ f ∈ allocator.freeList, alignedSize r.allocSize ≤ f.size

/-- The operation is a commit that gets a block. -/
def RunlistEvent.Publishes (e : RunlistEvent) : Prop :=
  ∃ allocator, e.op = .commit allocator ∧ e.pre.Gets allocator

/-- The operation commits an empty runlist. -/
def RunlistEvent.CommitsEmpty (e : RunlistEvent) : Prop :=
  e.pre.channels = [] ∧ ∃ allocator, e.op = .commit allocator

/-! ### What a commit does -/

theorem describes_nil_iff {allocator : VramAllocator} {block : Option GpuAllocation} :
    Describes allocator [] block ↔ block = none := by
  cases block with
  | none => exact iff_of_true rfl rfl
  | some g => exact iff_of_false (fun h => h.1 rfl) (Option.some_ne_none g)

namespace Runlist

/-- **All that a commit can do**: get a block and publish it, or leave the runlist as it is. -/
theorem commit_cases (r : Runlist) (allocator : VramAllocator) :
    (r.Gets allocator ∧ ∃ g, (allocator.allocate r.allocSize).1 = some g ∧
      (r.commit allocator).1 = { r with allocation := some g }) ∨
    (¬ r.Gets allocator ∧ (r.commit allocator).1 = r) := by
  unfold commit
  split_ifs with hpos
  · cases hg : (allocator.allocate r.allocSize).1 with
    | some g =>
      have hroom : ∃ f ∈ allocator.freeList, alignedSize r.allocSize ≤ f.size := by
        by_contra hnone
        simp only [not_exists, not_and, UInt64.not_le] at hnone
        rw [allocate_eq_none_iff.2 hnone] at hg
        cases hg
      refine .inl ⟨⟨hpos, hroom⟩, g, rfl, ?_⟩
      split
      case h_1 alloc a ha =>
        rw [ha] at hg
        cases hg
        rfl
      case h_2 a ha =>
        rw [ha] at hg
        cases hg
    | none =>
      refine .inr ⟨?_, by rw [allocate_none hg]⟩
      rintro ⟨-, f, hf, hle⟩
      exact absurd (allocate_eq_none_iff.1 hg f hf) (UInt64.not_lt.2 hle)
  · exact .inr ⟨fun h => hpos h.1, rfl⟩

theorem allocSize_eq (r : Runlist) : r.allocSize = UInt64.ofNat (8 * r.channels.length) := by
  rw [allocSize, Nat.mul_comm, UInt64.ofNat_mul]
  rfl

theorem not_gets_of_nil {r : Runlist} (h : r.channels = []) (allocator : VramAllocator) :
    ¬ r.Gets allocator := by
  rintro ⟨hpos, -⟩
  rw [allocSize, h] at hpos
  exact absurd hpos (by decide)

theorem gets_of_sufficient {r : Runlist} {allocator : VramAllocator} (hne : r.channels ≠ [])
    (h : Sufficient allocator r.channels) :
    r.Gets allocator ∧
      (alignedSize r.allocSize).toNat = roundUp 4096 (8 * r.channels.length) := by
  obtain ⟨f, hf, hle⟩ := h.resolve_left hne
  have hpos : 0 < r.channels.length := List.length_pos_iff.2 hne
  have hflt := f.size.toNat_lt
  have hsize : r.allocSize.toNat = 8 * r.channels.length := by
    rw [allocSize_eq, UInt64.toNat_ofNat']
    exact Nat.mod_eq_of_lt (((le_roundUp (by decide) _).trans hle).trans_lt hflt)
  have hround : (alignedSize r.allocSize).toNat = roundUp 4096 (8 * r.channels.length) := by
    rw [toNat_alignedSize_of_lt, hsize]
    rw [hsize]
    unfold roundUp at hle
    omega
  refine ⟨⟨?_, f, hf, ?_⟩, hround⟩
  · rw [gt_iff_lt, UInt64.lt_iff_toNat_lt, hsize]
    exact Nat.mul_pos (by decide) hpos
  · rw [UInt64.le_iff_toNat_le, hround]
    exact hle

/-- **A commit describes its channels** if there are any and VRAM is sufficient. -/
theorem commit_describes {r : Runlist} {allocator : VramAllocator} (hne : r.channels ≠ [])
    (h : Sufficient allocator r.channels) :
    Describes allocator r.channels (r.commit allocator).1.allocation := by
  obtain ⟨hgets, hround⟩ := gets_of_sufficient hne h
  obtain ⟨-, g, hg, heq⟩ | ⟨hnot, -⟩ := r.commit_cases allocator
  · rw [heq]
    refine ⟨hne, ?_, ?_⟩
    · rw [(allocate_some hg).2.1, hround]
    · rw [← allocSize_eq]
      exact hg
  · exact absurd hgets hnot

theorem commit_describes_iff_of_nil {r : Runlist} (hnil : r.channels = [])
    (allocator : VramAllocator) :
    Describes allocator r.channels (r.commit allocator).1.allocation ↔ r.allocation = none := by
  obtain ⟨hgets, -⟩ | ⟨-, heq⟩ := r.commit_cases allocator
  · exact absurd hgets (not_gets_of_nil hnil allocator)
  · rw [heq, hnil]
    exact describes_nil_iff

end Runlist

/-! ### Runs keep the block up to date -/

theorem allocation_eq_none_step {tr : List RunlistEvent} {r : Runlist} (op : RunlistOp)
    (h : r.allocation = none ↔ ∀ e ∈ tr, ¬ RunlistEvent.Publishes e) :
    (runlist.step r op).2.allocation = none ↔
      ∀ e ∈ runlist.event r op :: tr, ¬ RunlistEvent.Publishes e := by
  rw [List.forall_mem_cons, ← h]
  cases op with
  | addChannel channelId =>
    refine (and_iff_right ?_).symm
    rintro ⟨_, hop, -⟩
    cases hop
  | removeChannel channelId =>
    refine (and_iff_right ?_).symm
    rintro ⟨_, hop, -⟩
    cases hop
  | commit allocator =>
    have hpub : RunlistEvent.Publishes (runlist.event r (.commit allocator)) ↔
        r.Gets allocator := by
      constructor
      · rintro ⟨_, ⟨⟩, hgets⟩
        exact hgets
      · exact fun hgets => ⟨allocator, rfl, hgets⟩
    rw [hpub]
    show (r.commit allocator).1.allocation = none ↔ _
    obtain ⟨hgets, g, -, heq⟩ | ⟨hnot, heq⟩ := r.commit_cases allocator
    · rw [heq]
      exact iff_of_false (Option.some_ne_none g) fun h => h.1 hgets
    · rw [heq]
      exact (and_iff_right hnot).symm

/-- **A run keeps the published block up to date exactly when no empty runlist is committed after
a commit that got a block.** -/
theorem describes_run_iff (id : UInt32) (ops : List RunlistOp) :
    DescribesAlways (runlist.trace (.new id) ops) ↔
      Always (fun e before => e.CommitsEmpty → ∀ e' ∈ before, ¬ RunlistEvent.Publishes e')
        (runlist.trace (.new id) ops) := by
  refine Machine.always_iff (I := fun tr r => r.allocation = none ↔ ∀ e ∈ tr,
    ¬ RunlistEvent.Publishes e) (by simp [Runlist.new]) ?_ ?_ ops
  · exact fun tr r op h _ => allocation_eq_none_step op h
  · intro tr r op h
    cases op with
    | addChannel channelId =>
      refine iff_of_true (fun _ hop => by cases hop) ?_
      rintro ⟨-, _, hop⟩
      cases hop
    | removeChannel channelId =>
      refine iff_of_true (fun _ hop => by cases hop) ?_
      rintro ⟨-, _, hop⟩
      cases hop
    | commit allocator =>
      by_cases hnil : r.channels = []
      · have hempty : RunlistEvent.CommitsEmpty (runlist.event r (.commit allocator)) :=
          ⟨hnil, allocator, rfl⟩
        rw [forall_prop_of_true hempty, ← h, ← Runlist.commit_describes_iff_of_nil hnil allocator]
        constructor
        · intro hdescribes
          exact hdescribes allocator rfl (.inl hnil)
        · rintro hdescribes _ ⟨⟩ -
          exact hdescribes
      · refine iff_of_true ?_ fun hempty => absurd hempty.1 hnil
        rintro _ ⟨⟩ hsufficient
        exact Runlist.commit_describes hnil hsufficient

/-- A channel that has been removed stays published. -/
theorem not_describes_removed :
    ¬ DescribesAlways (runlist.trace (.new 0)
      [.addChannel 7, .commit .twoMiB, .removeChannel 7, .commit .twoMiB]) := by
  intro h
  have hnone := describes_nil_iff.1 (h.1 _ rfl (.inl (by decide)))
  exact absurd hnone (by decide)

end GpuCompute
