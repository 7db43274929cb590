import GpuCompute.Lib.Word
import Mathlib.Data.List.Basic

/-!
# Little-endian words

A byte image is written to a 32-bit port word by word.  This file relates the bytes of an image to
the words that are read off it by index, as a loop over the words does.

`leWord data i` and `leWords data` are the words of an image; a rest of fewer than four bytes is
left out.  The bytes of a word are the bytes it was built from (`leBytes_fromLeBytes`), and the
words of an image of whole words are its bytes (`flatMap_leBytes_leWords`).
-/

namespace Systems

/-- The word with the given bytes, lowest first. -/
def fromLeBytes (b₀ b₁ b₂ b₃ : UInt8) : UInt32 :=
  b₀.toUInt32 ||| b₁.toUInt32 <<< 8 ||| b₂.toUInt32 <<< 16 ||| b₃.toUInt32 <<< 24

/-- The bytes of a word, lowest first. -/
def leBytes (w : UInt32) : List UInt8 :=
  [w.toUInt8, (w >>> 8).toUInt8, (w >>> 16).toUInt8, (w >>> 24).toUInt8]

/-- The `i`-th word of an image. -/
def leWord (data : List UInt8) (i : ℕ) : UInt32 :=
  fromLeBytes (data.getD (i * 4) 0) (data.getD (i * 4 + 1) 0) (data.getD (i * 4 + 2) 0)
    (data.getD (i * 4 + 3) 0)

/-- The words of an image. -/
def leWords (data : List UInt8) : List UInt32 := (List.range (data.length / 4)).map (leWord data)

theorem toNat_fromLeBytes (b₀ b₁ b₂ b₃ : UInt8) :
    (fromLeBytes b₀ b₁ b₂ b₃).toNat =
      b₃.toNat * 2 ^ 24 + (b₂.toNat * 2 ^ 16 + (b₁.toNat * 2 ^ 8 + b₀.toNat)) := by
  have h₀ := b₀.toNat_lt
  have h₁ := b₁.toNat_lt
  have h₂ := b₂.toNat_lt
  have h₃ := b₃.toNat_lt
  simp only [fromLeBytes, UInt32.toNat_or, UInt32.toNat_shiftLeft, UInt8.toNat_toUInt32,
    UInt32.reduceToNat, Nat.reduceMod]
  rw [shiftLeft_mod_of_lt (by omega), shiftLeft_mod_of_lt (by omega),
    shiftLeft_mod_of_lt (by omega), Nat.or_comm b₀.toNat, shiftLeft_or_eq_add (by omega),
    Nat.or_comm _ (b₂.toNat <<< 16), shiftLeft_or_eq_add (by omega),
    Nat.or_comm _ (b₃.toNat <<< 24), shiftLeft_or_eq_add (by omega)]

theorem leBytes_fromLeBytes (b₀ b₁ b₂ b₃ : UInt8) :
    leBytes (fromLeBytes b₀ b₁ b₂ b₃) = [b₀, b₁, b₂, b₃] := by
  have h₀ := b₀.toNat_lt
  have h₁ := b₁.toNat_lt
  have h₂ := b₂.toNat_lt
  have h₃ := b₃.toNat_lt
  simp only [leBytes, List.cons.injEq, and_true, ← UInt8.toNat_inj, UInt32.toNat_toUInt8,
    UInt32.toNat_shiftRight, toNat_fromLeBytes, UInt32.reduceToNat, Nat.reduceMod,
    Nat.shiftRight_eq_div_pow]
  omega

theorem leWord_add_one (b₀ b₁ b₂ b₃ : UInt8) (data : List UInt8) (i : ℕ) :
    leWord (b₀ :: b₁ :: b₂ :: b₃ :: data) (i + 1) = leWord data i := by
  simp only [leWord, show (i + 1) * 4 = i * 4 + 1 + 1 + 1 + 1 by omega, List.getD_cons_succ]

theorem leWords_cons (b₀ b₁ b₂ b₃ : UInt8) (data : List UInt8) :
    leWords (b₀ :: b₁ :: b₂ :: b₃ :: data) = fromLeBytes b₀ b₁ b₂ b₃ :: leWords data := by
  have hlen : (b₀ :: b₁ :: b₂ :: b₃ :: data).length / 4 = data.length / 4 + 1 := by
    simp only [List.length_cons]; omega
  rw [leWords, hlen, List.range_succ_eq_map, List.map_cons, List.map_map, leWords]
  congr 1
  exact List.map_congr_left fun i _ => leWord_add_one b₀ b₁ b₂ b₃ data i

/-- **The words of an image of whole words are its bytes.** -/
theorem flatMap_leBytes_leWords : ∀ (data : List UInt8), 4 ∣ data.length →
    (leWords data).flatMap leBytes = data
  | [], _ => rfl
  | [_], h | [_, _], h | [_, _, _], h => by simp at h
  | b₀ :: b₁ :: b₂ :: b₃ :: data, h => by
    have hdata : 4 ∣ data.length := by simp only [List.length_cons] at h; omega
    rw [leWords_cons, List.flatMap_cons, leBytes_fromLeBytes, flatMap_leBytes_leWords data hdata]
    rfl

end Systems
