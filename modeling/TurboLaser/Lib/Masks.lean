import Mathlib.Data.Nat.Bitwise
import Mathlib.Tactic.IntervalCases
import Mathlib.Tactic.Ring

/-!
# Prefix masks on 32-bit words

A prefix mask keeps the leading `p` bits of a word. Every fact an address computation needs about
one is arithmetic: masking is rounding down to a multiple of `2 ^ (32 - p)`, masking with the
complement is the remainder, and `|||` of a rounded word with a remainder is their sum. Nothing here
knows what the words are used for.

The point of the module is to leave the bits behind. Programs on addresses shift and mask; proofs
about them want ranges, multiples and inequalities, which linear arithmetic decides. One lemma,
`toNat_and_maskFor`, is proved bit by bit, and the others are consequences of it and of division
with remainder:

- `toNat_and_maskFor`, `toNat_and_not_maskFor`: the two halves of a word, as numbers;
- `toNat_mask_add_offset`: **together they are the word**;
- `toNat_or_offset`: the way back, from a block and an offset in it;
- `or_offset_and_maskFor`, `or_offset_and_not_maskFor`: **what was put together comes apart again**,
  so that an address that is moved to another block of the same size keeps its offset, and one can
  tell which block it was moved to.
-/

namespace TurboLaser.Lib

/-- The word whose leading `p` bits are set. The shift of a 32-bit word by 32
is not defined, so `p = 0` is a case of its own. -/
def maskFor (p : Nat) : UInt32 :=
  if p = 0 then 0 else (0xFFFFFFFF : UInt32) <<< UInt32.ofNat (32 - p)

/-- The mask as a number: all blocks but the last one. -/
theorem toNat_maskFor {p : Nat} (hp : p ≤ 32) :
    (maskFor p).toNat = 2 ^ 32 - 2 ^ (32 - p) := by
  unfold maskFor
  split
  · subst_vars
    rfl
  -- thirty-two masks; the shift is computed for each
  · interval_cases p <;> first | contradiction | decide

/-- Its complement as a number: the largest offset in a block. -/
theorem toNat_not_maskFor {p : Nat} (hp : p ≤ 32) :
    (~~~ maskFor p).toNat = 2 ^ (32 - p) - 1 := by
  have hle : 2 ^ (32 - p) ≤ 2 ^ 32 := Nat.pow_le_pow_right (by decide) (by omega)
  have hpos : 0 < 2 ^ (32 - p) := Nat.pow_pos (by decide)
  rw [UInt32.toNat_not, toNat_maskFor hp]
  show 4294967296 - 1 - (4294967296 - _) = _
  omega

/-- Masking with the complement is the remainder. -/
theorem toNat_and_not_maskFor (a : UInt32) {p : Nat} (hp : p ≤ 32) :
    (a &&& ~~~ maskFor p).toNat = a.toNat % 2 ^ (32 - p) := by
  rw [UInt32.toNat_and, toNat_not_maskFor hp, Nat.and_two_pow_sub_one_eq_mod]

/-- Masking rounds down to a multiple of the block size. -/
theorem toNat_and_maskFor (a : UInt32) {p : Nat} (hp : p ≤ 32) :
    (a &&& maskFor p).toNat = a.toNat / 2 ^ (32 - p) * 2 ^ (32 - p) := by
  have ha : a.toNat < 2 ^ 32 := a.toNat_lt
  have hpos : 0 < 2 ^ (32 - p) := Nat.pow_pos (by decide)
  have hle : 2 ^ (32 - p) ≤ 2 ^ 32 := Nat.pow_le_pow_right (by decide) (by omega)
  have hmask : (maskFor p).toNat = 2 ^ 32 - (2 ^ (32 - p) - 1 + 1) := by
    rw [toNat_maskFor hp, Nat.sub_add_cancel hpos]
  rw [UInt32.toNat_and, hmask]
  -- bit by bit: at and above `32 - p` both sides have the bit of `a`, below it neither has one
  apply Nat.eq_of_testBit_eq
  intro i
  rw [Nat.testBit_and, Nat.testBit_two_pow_sub_succ (by omega), Nat.testBit_mul_two_pow,
    Nat.testBit_div_two_pow, Nat.testBit_two_pow_sub_one]
  by_cases hi : 32 - p ≤ i
  · by_cases hi32 : i < 32
    · have hnot : ¬ i < 32 - p := by omega
      simp [hi, hi32, Nat.sub_add_cancel hi]
    · have hbit : a.toNat.testBit i = false :=
        Nat.testBit_lt_two_pow (lt_of_lt_of_le ha (Nat.pow_le_pow_right (by decide) (by omega)))
      simp [hi, Nat.sub_add_cancel hi, hbit]
  · have hlt : i < 32 - p := by omega
    simp [hi, hlt]

/-- A word is its block plus its offset in the block. -/
theorem toNat_mask_add_offset (a : UInt32) {p : Nat} (hp : p ≤ 32) :
    (a &&& maskFor p).toNat + (a &&& ~~~ maskFor p).toNat = a.toNat := by
  rw [toNat_and_maskFor a hp, toNat_and_not_maskFor a hp]
  exact Nat.div_add_mod' _ _

/-- Setting an offset into a word with no low bits adds it. -/
theorem toNat_or_offset {n h : UInt32} {k : Nat} (hn : 2 ^ k ∣ n.toNat) (hh : h.toNat < 2 ^ k) :
    (n ||| h).toNat = n.toNat + h.toNat := by
  obtain ⟨c, hc⟩ := hn
  rw [UInt32.toNat_or, hc, Nat.two_pow_add_eq_or_of_lt hh]

/-- Masking a word built from an aligned base and a small offset recovers the base. -/
theorem or_offset_and_maskFor {n h : UInt32} {p : Nat} (hp : p ≤ 32)
    (hn : 2 ^ (32 - p) ∣ n.toNat) (hh : h.toNat < 2 ^ (32 - p)) :
    (n ||| h) &&& maskFor p = n := by
  have hpos : 0 < 2 ^ (32 - p) := Nat.pow_pos (by decide)
  apply UInt32.toNat_inj.mp
  obtain ⟨c, hc⟩ := hn
  rw [toNat_and_maskFor _ hp, toNat_or_offset ⟨c, hc⟩ hh, hc, Nat.mul_add_div hpos,
    Nat.div_eq_of_lt hh, Nat.add_zero, Nat.mul_comm]

/-- Masking with the complement recovers the offset. -/
theorem or_offset_and_not_maskFor {n h : UInt32} {p : Nat} (hp : p ≤ 32)
    (hn : 2 ^ (32 - p) ∣ n.toNat) (hh : h.toNat < 2 ^ (32 - p)) :
    (n ||| h) &&& ~~~ maskFor p = h := by
  apply UInt32.toNat_inj.mp
  obtain ⟨c, hc⟩ := hn
  rw [toNat_and_not_maskFor _ hp, toNat_or_offset ⟨c, hc⟩ hh, hc, Nat.mul_add_mod,
    Nat.mod_eq_of_lt hh]

/-- A masked word is a multiple of the block size. -/
theorem dvd_and_maskFor (a : UInt32) {p : Nat} (hp : p ≤ 32) :
    2 ^ (32 - p) ∣ (a &&& maskFor p).toNat :=
  ⟨a.toNat / 2 ^ (32 - p), by rw [toNat_and_maskFor a hp, Nat.mul_comm]⟩

/-- The offset of a word is smaller than the block. -/
theorem and_not_maskFor_lt (a : UInt32) {p : Nat} (hp : p ≤ 32) :
    (a &&& ~~~ maskFor p).toNat < 2 ^ (32 - p) := by
  rw [toNat_and_not_maskFor a hp]
  exact Nat.mod_lt _ (Nat.pow_pos (by decide))

end TurboLaser.Lib
