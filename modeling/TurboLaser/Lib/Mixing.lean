import Mathlib.Algebra.Ring.Nat
import Mathlib.Logic.Function.Basic

/-!
# Mixing functions on words

Hash finalizers alternate xor-shifts with multiplications by odd constants. Both are injective, so a
finalizer made of them loses nothing: it is a permutation of the words. Whoever needs that two
inputs hash to different words, and not only that they probably do, composes the two facts.

- `xorShift_injective`: a shift by a third of the word or more. Two more shifts of the result undo
  it, since after three shifts nothing is left of the word; `xorShift_undo` is that computation over
  the natural numbers;
- `mul_injective`: a multiplication by a constant that has an inverse, which is given as a second
  constant and checked by evaluation;
- `mul_mod_injective`: of the low bits of a word a multiplication by an odd constant loses nothing
  either, so the low bits of a product are all different over any stretch of that many inputs. The
  high bits have no such property, and a hash that keeps only them may well collide.
-/

namespace TurboLaser.Lib

/-- Three times the shift is the whole word: then two more shifts undo the first. -/
theorem xorShift_undo {x k w : Nat} (hx : x < 2 ^ w) (hk : w ≤ k + k + k) :
    let z := x ^^^ (x >>> k)
    z ^^^ (z >>> k) ^^^ (z >>> (k + k)) = x := by
  have hzero : x >>> (k + k + k) = 0 := by
    rw [Nat.shiftRight_eq_div_pow]
    exact Nat.div_eq_of_lt (Nat.lt_of_lt_of_le hx (Nat.pow_le_pow_right (by decide) hk))
  simp only [Nat.shiftRight_xor_distrib, ← Nat.shiftRight_add]
  rw [← Nat.add_assoc, hzero, Nat.xor_zero]
  calc x ^^^ x >>> k ^^^ (x >>> k ^^^ x >>> (k + k)) ^^^ x >>> (k + k)
      = x ^^^ (x >>> k ^^^ x >>> k) ^^^ (x >>> (k + k) ^^^ x >>> (k + k)) := by
        simp only [Nat.xor_assoc]
    _ = x := by rw [Nat.xor_self, Nat.xor_self, Nat.xor_zero, Nat.xor_zero]

/-- An xor-shift by a third of the word or more is injective. -/
theorem xorShift_injective {k : UInt64} (hlow : 22 ≤ k.toNat) (hhigh : k.toNat < 64) :
    Function.Injective fun x : UInt64 => x ^^^ (x >>> k) := by
  intro x y h
  have hnat := congrArg UInt64.toNat h
  simp only [UInt64.toNat_xor, UInt64.toNat_shiftRight, Nat.mod_eq_of_lt hhigh] at hnat
  have hx := xorShift_undo x.toNat_lt (k := k.toNat) (by omega)
  have hy := xorShift_undo y.toNat_lt (k := k.toNat) (by omega)
  rw [hnat] at hx
  exact UInt64.toNat_inj.mp (hx.symm.trans hy)

/-- Multiplication by a unit is injective. -/
theorem mul_injective {c d : UInt64} (h : c * d = 1) :
    Function.Injective fun x : UInt64 => x * c := by
  intro x y hxy
  have hd := congrArg (· * d) hxy
  simpa only [UInt64.mul_assoc, h, UInt64.mul_one] using hd

/-- Multiplication by a unit keeps residues apart. -/
theorem mul_mod_injective {m c d : Nat} (h : c * d % m = 1 % m) {a b : Nat}
    (hab : a * c % m = b * c % m) : a % m = b % m := by
  have hundo : ∀ x, x * c % m * d % m = x % m := by
    intro x
    rw [Nat.mod_mul_mod, Nat.mul_assoc, Nat.mul_mod, h, ← Nat.mul_mod, Nat.mul_one]
  rw [← hundo a, hab, hundo b]

end TurboLaser.Lib
