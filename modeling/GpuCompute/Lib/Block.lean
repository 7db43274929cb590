import Mathlib.Algebra.Order.Monoid.Canonical.Defs
import Mathlib.Algebra.BigOperators.Group.List.Basic

/-!
# Blocks

Half-open blocks `[start, start + size)` of an ordered additive monoid, and lists of blocks
that were cut one after the other from the same range.

* `Block α`, `Block.stop`, `Block.Within lo hi`.
* `Block.Sep b c` : one of the two blocks ends before the other starts.
* `Stacked lo bs hi` : the blocks `bs`, newest first, lie in order between `lo` and `hi`.
* `Packed lo bs hi` : they do so in some order.
* `Stacked.within`, `Stacked.pairwise_sep` : stacked blocks lie in the range and are pairwise
  separated; `Packed.within` and `Packed.pairwise_sep` say the same of packed blocks.
* `Packed.sum_le` : packed blocks are no larger than the range.
-/

namespace Systems

/-- The half-open block `[start, start + size)`. -/
structure Block (α : Type*) where
  /-- The first element. -/
  start : α
  /-- The number of elements. -/
  size : α
  deriving DecidableEq

namespace Block

variable {α : Type*}

/-- The end of the block, which it does not contain. -/
def stop [Add α] (b : Block α) : α := b.start + b.size

/-- The block lies in `[lo, hi)`. -/
def Within [Add α] [LE α] (lo hi : α) (b : Block α) : Prop := lo ≤ b.start ∧ b.stop ≤ hi

/-- One of the two blocks ends before the other starts. -/
def Sep [Add α] [LE α] (b c : Block α) : Prop := b.stop ≤ c.start ∨ c.stop ≤ b.start

instance [Add α] [LE α] [DecidableLE α] (lo hi : α) (b : Block α) : Decidable (b.Within lo hi) :=
  inferInstanceAs (Decidable (_ ∧ _))

instance [Add α] [LE α] [DecidableLE α] (b c : Block α) : Decidable (b.Sep c) :=
  inferInstanceAs (Decidable (_ ∨ _))

theorem Sep.symm [Add α] [LE α] {b c : Block α} (h : b.Sep c) : c.Sep b := Or.symm h

theorem Sep.of_within [Add α] [Preorder α] {b c d : Block α} (h : c.Sep d)
    (hb : b.Within c.start c.stop) : b.Sep d :=
  h.imp hb.2.trans fun hle => le_trans hle hb.1

end Block

/-- The blocks, newest first, lie in order and without overlap between `lo` and `hi`. -/
def Stacked {α : Type*} [Add α] [LE α] (lo : α) : List (Block α) → α → Prop
  | [], hi => lo ≤ hi
  | b :: bs, hi => Stacked lo bs b.start ∧ b.stop ≤ hi

namespace Stacked

variable {α : Type*} [AddCommMonoid α] [PartialOrder α]
  {lo hi hi' : α} {bs : List (Block α)} {b : Block α}

theorem mono (h : Stacked lo bs hi) (hle : hi ≤ hi') : Stacked lo bs hi' := by
  cases bs with
  | nil => exact le_trans (α := α) h hle
  | cons b bs => exact ⟨h.1, h.2.trans hle⟩

/-- Cutting the next block off the top. -/
theorem push (h : Stacked lo bs hi) (n : α) : Stacked lo (⟨hi, n⟩ :: bs) (hi + n) :=
  ⟨h, le_rfl⟩

theorem sum_le [IsOrderedAddMonoid α] (h : Stacked lo bs hi) :
    lo + (bs.map Block.size).sum ≤ hi := by
  induction bs generalizing hi with
  | nil =>
    rw [List.map_nil, List.sum_nil, add_zero]
    exact h
  | cons b bs ih =>
    rw [List.map_cons, List.sum_cons, add_comm b.size, ← add_assoc]
    exact (add_le_add_left (ih h.1) b.size).trans h.2

variable [CanonicallyOrderedAdd α]

theorem le (h : Stacked lo bs hi) : lo ≤ hi := by
  induction bs generalizing hi with
  | nil => exact h
  | cons b bs ih => exact (ih h.1).trans (le_self_add.trans h.2)

theorem within (h : Stacked lo bs hi) : ∀ b ∈ bs, b.Within lo hi := by
  induction bs generalizing hi with
  | nil => simp
  | cons c bs ih =>
    intro b hb
    rcases List.mem_cons.1 hb with rfl | hb
    · exact ⟨h.1.le, h.2⟩
    · exact ⟨(ih h.1 b hb).1, (ih h.1 b hb).2.trans (le_self_add.trans h.2)⟩

theorem pairwise_sep (h : Stacked lo bs hi) : bs.Pairwise Block.Sep := by
  induction bs generalizing hi with
  | nil => exact .nil
  | cons c bs ih => exact .cons (fun b hb => .inr (h.1.within b hb).2) (ih h.1)

end Stacked

/-- The blocks lie without overlap between `lo` and `hi`, in whatever order they are listed. -/
def Packed {α : Type*} [Add α] [LE α] (lo : α) (bs : List (Block α)) (hi : α) : Prop :=
  ∃ cs : List (Block α), cs.Perm bs ∧ Stacked lo cs hi

namespace Packed

variable {α : Type*} [AddCommMonoid α] [PartialOrder α] {lo hi : α} {bs cs : List (Block α)}

theorem nil (h : lo ≤ hi) : Packed lo [] hi := ⟨[], .nil, h⟩

theorem perm (h : Packed lo bs hi) (hp : bs.Perm cs) : Packed lo cs hi := by
  obtain ⟨ds, hds, hstack⟩ := h
  exact ⟨ds, hds.trans hp, hstack⟩

/-- Cutting the next block off the top. -/
theorem push (h : Packed lo bs hi) (n : α) : Packed lo (⟨hi, n⟩ :: bs) (hi + n) := by
  obtain ⟨ds, hds, hstack⟩ := h
  exact ⟨⟨hi, n⟩ :: ds, hds.cons _, hstack.push n⟩

theorem sum_le [IsOrderedAddMonoid α] (h : Packed lo bs hi) :
    lo + (bs.map Block.size).sum ≤ hi := by
  obtain ⟨ds, hds, hstack⟩ := h
  rw [← (hds.map Block.size).sum_eq]
  exact hstack.sum_le

variable [CanonicallyOrderedAdd α]

theorem within (h : Packed lo bs hi) : ∀ b ∈ bs, b.Within lo hi := by
  obtain ⟨ds, hds, hstack⟩ := h
  exact fun b hb => hstack.within b (hds.mem_iff.2 hb)

theorem pairwise_sep (h : Packed lo bs hi) : bs.Pairwise Block.Sep := by
  obtain ⟨ds, hds, hstack⟩ := h
  exact hds.pairwise hstack.pairwise_sep Block.Sep.symm

end Packed

end Systems
