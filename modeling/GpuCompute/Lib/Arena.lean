import GpuCompute.Lib.Block
import GpuCompute.Lib.Machine

/-!
# Bump arenas

An *arena* hands out consecutive blocks of a range and never takes one back.  It is what a bump
allocator, a virtual-address counter and a push buffer between two resets have in common.

* `Arena α` : a range with a cursor; the cursor cannot be past the limit.
* `Arena.take n` : hand out the next `n` elements, or nothing when they do not fit.
* `Arena.machine` : an arena as a machine whose operations are the requested sizes.
* `Arena.stacked_run` : the blocks handed out in a run are stacked from the initial cursor to
  the current one; with `Stacked.within` and `Stacked.pairwise_sep` they lie in the range and
  are pairwise separated.
* `Arena.forall_blocks` : alignment of the cursor and of the requests carries over to the blocks.
* `Arena.sum_run` : the sizes of the blocks add up to what the cursor moved.
-/

namespace Systems

/-- A range `[cursor, limit)` still to be handed out. -/
structure Arena (α : Type*) [LE α] where
  /-- Where the next block starts. -/
  cursor : α
  /-- The end of the range. -/
  limit : α
  /-- The cursor is never past the end. -/
  le : cursor ≤ limit

namespace Arena

variable {α : Type*} [AddCommMonoid α] [LinearOrder α]

/-- Hand out the next `n` elements, or nothing when they do not fit. -/
def take (A : Arena α) (n : α) : Option (Block α) × Arena α :=
  if h : A.cursor + n ≤ A.limit then (some ⟨A.cursor, n⟩, ⟨A.cursor + n, A.limit, h⟩)
  else (none, A)

/-- An arena as a machine. -/
def machine : Machine (Arena α) α (Option (Block α)) := ⟨take⟩

theorem take_of_le {A : Arena α} {n : α} (h : A.cursor + n ≤ A.limit) :
    A.take n = (some ⟨A.cursor, n⟩, ⟨A.cursor + n, A.limit, h⟩) := dif_pos h

theorem take_of_lt {A : Arena α} {n : α} (h : A.limit < A.cursor + n) : A.take n = (none, A) :=
  dif_neg h.not_ge

theorem take_eq_some {A : Arena α} {n : α} {b : Block α} (h : (A.take n).1 = some b) :
    b = ⟨A.cursor, n⟩ ∧ (A.take n).2.cursor = A.cursor + n := by
  by_cases hle : A.cursor + n ≤ A.limit
  · rw [take_of_le hle] at h ⊢
    exact ⟨(Option.some.inj h).symm, rfl⟩
  · rw [take_of_lt (not_le.1 hle)] at h
    cases h

@[simp] theorem take_limit (A : Arena α) (n : α) : (A.take n).2.limit = A.limit := by
  unfold take; split_ifs <;> rfl

theorem limit_run (A : Arena α) (ns : List α) : (machine.final A ns).limit = A.limit := by
  refine Machine.run_induction' (motive := fun _ (B : Arena α) => B.limit = A.limit) rfl ?_ ns
  intro _ B n hB
  exact (take_limit B n).trans hB

/-- The blocks handed out in a run. -/
def blocks (A : Arena α) (ns : List α) : List (Block α) :=
  (machine.trace A ns).filterMap Event.out

theorem blocks_concat (A : Arena α) (ns : List α) (n : α) :
    A.blocks (ns ++ [n]) = ((machine.final A ns).take n).1.toList ++ A.blocks ns := by
  rw [blocks, Machine.trace_concat, Machine.filterMap_out_cons]
  rfl

theorem final_concat (A : Arena α) (ns : List α) (n : α) :
    machine.final A (ns ++ [n]) = ((machine.final A ns).take n).2 :=
  Machine.final_concat A ns n

/-- **The blocks handed out in a run are stacked** from the initial cursor to the current one. -/
theorem stacked_run (A : Arena α) (ns : List α) :
    Stacked A.cursor (A.blocks ns) (machine.final A ns).cursor := by
  induction ns using List.reverseRecOn with
  | nil => exact le_refl (α := α) _
  | append_singleton ns n ih =>
    rw [blocks_concat, final_concat]
    by_cases h : (machine.final A ns).cursor + n ≤ (machine.final A ns).limit
    · rw [take_of_le h]; exact ih.push n
    · rw [take_of_lt (not_le.1 h)]; exact ih

/-- A property closed under addition that holds of the initial cursor and of every request holds
of every block handed out. -/
theorem forall_blocks {P : α → Prop} (hadd : ∀ a b, P a → P b → P (a + b)) {A : Arena α}
    (hA : P A.cursor) {ns : List α} (hns : ∀ n ∈ ns, P n) :
    (∀ b ∈ A.blocks ns, P b.start ∧ P b.size) ∧ P (machine.final A ns).cursor := by
  induction ns using List.reverseRecOn with
  | nil => exact ⟨by simp [blocks], hA⟩
  | append_singleton ns n ih =>
    obtain ⟨hb, hc⟩ := ih fun m hm => hns m (List.mem_append_left _ hm)
    have hn := hns n (by simp)
    rw [blocks_concat, final_concat]
    by_cases h : (machine.final A ns).cursor + n ≤ (machine.final A ns).limit
    · rw [take_of_le h]
      refine ⟨?_, hadd _ _ hc hn⟩
      simp only [Option.toList_some, List.singleton_append, List.mem_cons, forall_eq_or_imp]
      exact ⟨⟨hc, hn⟩, hb⟩
    · rw [take_of_lt (not_le.1 h)]; exact ⟨hb, hc⟩

theorem sum_run (A : Arena α) (ns : List α) :
    A.cursor + ((A.blocks ns).map Block.size).sum = (machine.final A ns).cursor := by
  induction ns using List.reverseRecOn with
  | nil => simp [blocks]
  | append_singleton ns n ih =>
    rw [blocks_concat, final_concat]
    by_cases h : (machine.final A ns).cursor + n ≤ (machine.final A ns).limit
    · rw [take_of_le h]
      simp only [Option.toList_some, List.singleton_append, List.map_cons, List.sum_cons]
      rw [add_comm n, ← add_assoc, ih]
    · rw [take_of_lt (not_le.1 h)]; exact ih

end Arena

end Systems
