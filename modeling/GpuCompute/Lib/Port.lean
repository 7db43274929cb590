import Mathlib.Data.BitVec
import Mathlib.Order.Interval.Set.Defs

/-!
# Memories behind an auto-increment port

A memory that is not mapped is often reached through a port: a position is set once, and every
transfer to the port stores some cells there and advances the position past them.  Addresses are
`BitVec w`, so a memory has `2 ^ w` cells and the position goes round.

* `storeAt mem p cells` : a memory with cells written from `p` on.
* `PlacedAt before after offset cells` : `after` is `before` with the cells at `offset`.
* `Port`, `Port.transfer` : a memory with a position, and one transfer.
* `storeAt_append` : two stores that follow each other are one.
* `placedAt_storeAt` : a store that does not go round places its cells.
* `Port.foldl_transfer` : transfers with auto-increment store their cells one after the other.
-/

namespace Systems

variable {w : ℕ} {β : Type*}

/-- A memory with cells written from an address on, around the end if there are many. -/
def storeAt (mem : BitVec w → β) (p : BitVec w) (cells : List β) : BitVec w → β :=
  fun a => cells[(a - p).toNat]?.getD (mem a)

/-- One memory is another with cells placed at an offset. -/
structure PlacedAt (before after : BitVec w → β) (offset : ℕ) (cells : List β) : Prop where
  /-- The cells are there. -/
  image : ∀ i (h : i < cells.length), after (BitVec.ofNat w (offset + i)) = cells[i]
  /-- Nothing else has changed. -/
  frame : ∀ a : BitVec w, a.toNat ∉ Set.Ico offset (offset + cells.length) → after a = before a

theorem storeAt_of_lt {mem : BitVec w → β} {p : BitVec w} {cells : List β} {a : BitVec w}
    (h : (a - p).toNat < cells.length) : storeAt mem p cells a = cells[(a - p).toNat] := by
  rw [storeAt, List.getElem?_eq_getElem h, Option.getD_some]

theorem storeAt_of_le {mem : BitVec w → β} {p : BitVec w} {cells : List β} {a : BitVec w}
    (h : cells.length ≤ (a - p).toNat) : storeAt mem p cells a = mem a := by
  rw [storeAt, List.getElem?_eq_none h, Option.getD_none]

theorem toNat_sub_add_ofNat (a p : BitVec w) (n : ℕ) :
    (a - (p + BitVec.ofNat w n)).toNat =
      (2 ^ w - n % 2 ^ w + (a - p).toNat) % 2 ^ w := by
  rw [← BitVec.sub_sub, BitVec.toNat_sub, BitVec.toNat_ofNat]

/-- **Two stores that follow each other are one**, unless they overwrite their own cells. -/
theorem storeAt_append (mem : BitVec w → β) (p : BitVec w) {xs ys : List β}
    (h : xs.length + ys.length ≤ 2 ^ w) :
    storeAt (storeAt mem p xs) (p + BitVec.ofNat w xs.length) ys = storeAt mem p (xs ++ ys) := by
  funext a
  have hdist := toNat_sub_add_ofNat a p xs.length
  have hlt := (a - p).isLt
  rcases Nat.lt_or_ge (a - p).toNat xs.length with hx | hx
  · -- the address is before the second store, which does not reach around to it
    have hy : ys.length ≤ (a - (p + BitVec.ofNat w xs.length)).toNat := by
      rcases Nat.eq_zero_or_pos ys.length with hy | hy
      · omega
      · rw [hdist, Nat.mod_eq_of_lt (a := xs.length) (by omega),
          Nat.mod_eq_of_lt (by omega)]
        omega
    rw [storeAt_of_le hy]
    simp only [storeAt, List.getElem?_append_left hx]
  · have hy : (a - (p + BitVec.ofNat w xs.length)).toNat = (a - p).toNat - xs.length := by
      rw [hdist, Nat.mod_eq_of_lt (a := xs.length) (by omega),
        show 2 ^ w - xs.length + (a - p).toNat = 2 ^ w + ((a - p).toNat - xs.length) by omega,
        Nat.add_mod_left, Nat.mod_eq_of_lt (by omega)]
    rw [storeAt, hy, storeAt_of_le hx]
    simp only [storeAt, List.getElem?_append_right hx]

/-- **A store that does not go round places its cells.** -/
theorem placedAt_storeAt (mem : BitVec w → β) {offset : ℕ} {cells : List β}
    (h : offset + cells.length ≤ 2 ^ w) :
    PlacedAt mem (storeAt mem (BitVec.ofNat w offset) cells) offset cells := by
  constructor
  · intro i hi
    have hdist : (BitVec.ofNat w (offset + i) - BitVec.ofNat w offset).toNat = i := by
      rw [BitVec.toNat_sub, BitVec.toNat_ofNat, BitVec.toNat_ofNat,
        Nat.mod_eq_of_lt (a := offset) (by omega), Nat.mod_eq_of_lt (a := offset + i) (by omega),
        show 2 ^ w - offset + (offset + i) = 2 ^ w + i by omega, Nat.add_mod_left,
        Nat.mod_eq_of_lt (by omega)]
    rw [storeAt_of_lt (by omega)]
    simp only [hdist]
  · intro a ha
    rw [Set.mem_Ico, not_and_or, not_le, not_lt] at ha
    rcases Nat.eq_zero_or_pos cells.length with hlen | hlen
    · exact storeAt_of_le (by omega)
    have ha' := a.isLt
    have hoffset : offset % 2 ^ w = offset := Nat.mod_eq_of_lt (by omega)
    apply storeAt_of_le
    rw [BitVec.toNat_sub, BitVec.toNat_ofNat, hoffset]
    rcases ha with ha | ha
    · rw [Nat.mod_eq_of_lt (by omega)]
      omega
    · rw [show 2 ^ w - offset + a.toNat = 2 ^ w + (a.toNat - offset) by omega,
        Nat.add_mod_left, Nat.mod_eq_of_lt (by omega)]
      omega

/-! ### Ports -/

/-- A memory behind a port. -/
structure Port (w : ℕ) (β : Type*) where
  /-- The memory. -/
  cells : BitVec w → β
  /-- The address of the next transfer. -/
  position : BitVec w
  /-- Whether a transfer advances the position. -/
  autoIncrement : Bool

namespace Port

/-- A transfer to the port. -/
def transfer (port : Port w β) (cells : List β) : Port w β :=
  { port with
    cells := storeAt port.cells port.position cells
    position := if port.autoIncrement then port.position + BitVec.ofNat w cells.length
      else port.position }

/-- **Transfers with auto-increment store their cells one after the other.**  By induction on the
transfers: the position is past the cells of the earlier ones. -/
theorem foldl_transfer (chunks : List (List β)) (mem : BitVec w → β) (p : BitVec w)
    (h : chunks.flatten.length ≤ 2 ^ w) :
    chunks.foldl transfer ⟨mem, p, true⟩ =
      ⟨storeAt mem p chunks.flatten, p + BitVec.ofNat w chunks.flatten.length, true⟩ := by
  induction chunks generalizing mem p with
  | nil =>
    rw [List.flatten_nil, List.length_nil, BitVec.add_zero]
    rfl
  | cons chunk chunks ih =>
    rw [List.flatten_cons, List.length_append] at h
    have hstep : transfer ⟨mem, p, true⟩ chunk =
        ⟨storeAt mem p chunk, p + BitVec.ofNat w chunk.length, true⟩ := rfl
    rw [List.foldl_cons, hstep, ih _ _ (by omega), storeAt_append _ _ h, List.flatten_cons,
      List.length_append, BitVec.ofNat_add, BitVec.add_assoc]

end Port

end Systems
