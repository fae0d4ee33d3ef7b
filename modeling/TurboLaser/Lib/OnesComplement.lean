import Mathlib.Data.List.Basic
import TurboLaser.Lib.Fields

/-!
# One's complement sums

The Internet checksum adds the 16-bit words of a buffer with end-around carry and stores the
complement, so that a buffer with its checksum in place sums to all ones.

A program keeps a running sum in a wide register and folds the carries back in at the end, in a
loop. Here the two are kept apart: the sum of the words is a plain natural number, and `endAround`
is what the loop makes of it, in closed form. It is not the remainder modulo 65535: zero and all
ones are both congruent to zero there, and end-around carry tells them apart. Only a buffer of zeros
sums to zero; every other multiple of 65535 folds to all ones. That is the second representation of
zero, and it is why a checksum is not quite unique.

- `wordSum` is the plain sum of the words, `endAround` what is left of it when the carries are added
  back in; `endAround_carry` is one turn of the loop;
- `endAround_add_complement`: **the complement makes the sum all ones**, which is what a receiver
  tests;
- `complement_unique`: **nothing else does, but for the second representation of zero**;
- `endAround_ne_of_near`: sums that differ by less than 65535 are told apart, so a receiver notices
  any change of one word that is not the change between the two zeros;
- `wordSum_write`: writing one aligned word changes the sum by that word, so that a checksum may be
  computed with a zero in its field and stored there afterwards.
-/

namespace TurboLaser.Lib

/-! ## End-around carry -/

/-- A sum with its carries added back in until 16 bits are left. Zero stays zero; any other sum
lands in 1, …, 65535. -/
def endAround (n : Nat) : Nat := if n = 0 then 0 else (n - 1) % 65535 + 1

/-- The closed form of a positive sum. -/
theorem endAround_of_pos {n : Nat} (h : 0 < n) : endAround n = (n - 1) % 65535 + 1 :=
  if_neg (by omega)

/-- What is left has 16 bits. -/
theorem endAround_le (n : Nat) : endAround n ≤ 65535 := by
  unfold endAround
  split <;> omega

/-- A sum of 16 bits has no carries. -/
theorem endAround_of_lt {n : Nat} (h : n < 65536) : endAround n = n := by
  unfold endAround
  split <;> omega

/-- One step of the carry loop. -/
theorem endAround_carry (n : Nat) : endAround (n % 65536 + n / 65536) = endAround n := by
  unfold endAround
  split <;> split <;> omega

/-- **The complement makes the sum all ones.** -/
theorem endAround_add_complement (n : Nat) : endAround (n + (65535 - endAround n)) = 65535 := by
  by_cases hn : n = 0
  · subst hn
    rfl
  · rw [endAround_of_pos (n := n) (by omega), endAround_of_pos (by omega)]
    omega

/-- So do all ones, where the sum is all ones by itself. -/
theorem endAround_add_ones {n : Nat} (h : endAround n = 65535) : endAround (n + 65535) = 65535 := by
  have hn : n ≠ 0 := by
    rintro rfl
    cases h
  rw [endAround_of_pos (by omega)] at h ⊢
  omega

/-- **Nothing else makes the sum all ones**, but for the second representation of zero. -/
theorem complement_unique {n c : Nat} (hc : c ≤ 65535) (h : endAround (n + c) = 65535) :
    c = 65535 - endAround n ∨ (c = 65535 ∧ endAround n = 65535) := by
  by_cases hn : n = 0
  · subst hn
    rw [Nat.zero_add, endAround_of_lt (by omega)] at h
    exact .inl h
  · rw [endAround_of_pos (by omega)] at h
    rw [endAround_of_pos (by omega)]
    omega

/-- A sum is all ones exactly when it is a positive multiple of all ones. -/
theorem endAround_eq_ones_iff {n : Nat} : endAround n = 65535 ↔ 0 < n ∧ n % 65535 = 0 := by
  by_cases hn : n = 0
  · subst hn
    exact iff_of_false nofun fun h => absurd h.1 (Nat.lt_irrefl 0)
  · rw [endAround_of_pos (by omega)]
    omega

/-- Sums that differ by less than all ones are told apart. -/
theorem endAround_ne_of_near {n k : Nat} (hn : 0 < n) (hk : 0 < k) (hk' : k < 65535) :
    endAround (n + k) ≠ endAround n := by
  rw [endAround_of_pos (by omega), endAround_of_pos hn]
  omega

/-! ## Sums of words -/

/-- The sum of the big-endian words of a buffer; an odd last byte is a high byte. -/
def wordSum : List UInt8 → Nat
  | hi :: lo :: rest => hi.toNat * 256 + lo.toNat + wordSum rest
  | [hi] => hi.toNat * 256
  | [] => 0

/-- A bound on the sum, by the number of words: with it one shows that the register of a program
does not overflow. -/
theorem wordSum_le (xs : List UInt8) : wordSum xs ≤ 65535 * ((xs.length + 1) / 2) := by
  induction xs using wordSum.induct with
  | case1 hi lo rest ih =>
    have hhi := hi.toNat_lt
    have hlo := lo.toNat_lt
    rw [wordSum, List.length_cons, List.length_cons]
    omega
  | case2 hi =>
    have hhi := hi.toNat_lt
    rw [wordSum, List.length_singleton]
    omega
  | case3 => exact Nat.zero_le _

/-- The first byte alone is a high byte. -/
theorem wordSum_pos {xs : List UInt8} (h : 0 < (byte xs 0).toNat) : 0 < wordSum xs := by
  match xs with
  | [] => exact absurd h (Nat.lt_irrefl 0)
  | [hi] =>
    rw [byte_cons_zero] at h
    rw [wordSum]
    omega
  | hi :: lo :: rest =>
    rw [byte_cons_zero] at h
    rw [wordSum]
    omega

/-- Behind an even number of bytes the words go on. -/
theorem wordSum_append {pre : List UInt8} (rest : List UInt8) (h : pre.length % 2 = 0) :
    wordSum (pre ++ rest) = wordSum pre + wordSum rest := by
  induction pre using wordSum.induct with
  | case1 hi lo pre ih =>
    rw [List.length_cons, List.length_cons] at h
    rw [List.cons_append, List.cons_append, wordSum, wordSum, ih (by omega)]
    omega
  | case2 hi => cases h
  | case3 => rw [List.nil_append, wordSum, Nat.zero_add]

/-- A word in front of a buffer adds its value. -/
theorem wordSum_toBeBytes16 (x : UInt16) (rest : List UInt8) :
    wordSum (toBeBytes16 x ++ rest) = x.toNat + wordSum rest := by
  have hx := x.toNat_lt
  show (UInt8.ofNat _).toNat * 256 + (UInt8.ofNat _).toNat + wordSum rest = _
  rw [UInt8.toNat_ofNat', UInt8.toNat_ofNat']
  omega

/-- **Writing one aligned word.** -/
theorem wordSum_write {xs : List UInt8} {k : Nat} (hk : k % 2 = 0) (hfits : k + 2 ≤ xs.length)
    (x : UInt16) :
    wordSum (be16Field.write xs k x) = wordSum (be16Field.write xs k 0) + x.toNat := by
  obtain ⟨pre, old, rest, rfl, rfl⟩ : ∃ pre old rest,
      xs = pre ++ (be16Field.bytes old ++ rest) ∧ k = pre.length := by
    refine ⟨xs.take k, be16Field.read xs k, xs.drop (k + 2), ?_, ?_⟩
    · have hbytes : be16Field.bytes (be16Field.read xs k) = (xs.drop k).take 2 :=
        be16Field.bytes_decode (by rw [List.length_drop]; show 2 ≤ _; omega)
      rw [hbytes, ← List.drop_drop, List.take_append_drop, List.take_append_drop]
    · rw [List.length_take]
      omega
  rw [be16Field.write_append, be16Field.write_append, wordSum_append _ hk, wordSum_append _ hk]
  show _ + wordSum (toBeBytes16 x ++ rest) = _ + wordSum (toBeBytes16 0 ++ rest) + _
  rw [wordSum_toBeBytes16, wordSum_toBeBytes16]
  show _ = _ + (0 + _) + _
  omega

/-- A buffer sums to what it does without one of its aligned words, and that word. -/
theorem wordSum_eq_add_word {xs : List UInt8} {k : Nat} (hk : k % 2 = 0)
    (hfits : k + 2 ≤ xs.length) :
    wordSum xs = wordSum (be16Field.write xs k 0) + (be16Field.read xs k).toNat := by
  rw [← wordSum_write hk hfits, be16Field.write_read hfits]

end TurboLaser.Lib
