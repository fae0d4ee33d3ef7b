import Mathlib.Data.List.Basic

/-!
# Numerals

A numeral is a run of digits in some base; what counts as a digit is a parameter, so that a reader
that takes upper and lower case is one of them.

Writers print with `Nat.toDigits`; readers fold over the characters with a table of digits. The
hypothesis that joins them is that the table knows every digit the writer uses, `∀ d < b, digit
(Nat.digitChar d) = some d`, and it is decided by evaluation for a concrete base. Readers that stop
at an overflow are built on `readFrom` by their users.

- `readNumeral_toDigits`: **a number that was written is read back**, by induction on the number,
  one digit from its end;
- `readFrom_append`: a numeral may be read in two pieces, which is the step of that induction;
- `pad`, `readFrom_pad`: zeros in front, up to a width, are worth nothing;
- `pad_toDigits_inj`: zeros in front do not confuse numbers, so names with padded numerals differ
  when the numbers do, also where one of them is wider than the padding.
-/

namespace TurboLaser.Lib

variable {digit : Char → Option Nat} {b : Nat}

/-- The value of some digits behind those that gave `acc`. -/
def readFrom (digit : Char → Option Nat) (b : Nat) : Nat → List Char → Option Nat
  | acc, [] => some acc
  | acc, c :: cs => (digit c).bind fun d => readFrom digit b (acc * b + d) cs

/-- A numeral has a digit at least. -/
def readNumeral (digit : Char → Option Nat) (b : Nat) (cs : List Char) : Option Nat :=
  if cs = [] then none else readFrom digit b 0 cs

/-- Reading goes on where it stopped. -/
theorem readFrom_append (acc : Nat) (cs ds : List Char) :
    readFrom digit b acc (cs ++ ds) =
      (readFrom digit b acc cs).bind fun acc => readFrom digit b acc ds := by
  induction cs generalizing acc with
  | nil => rfl
  | cons c cs ih =>
    rw [List.cons_append, readFrom, readFrom]
    cases digit c with
    | none => rfl
    | some d => exact ih _

/-- A number that was written is read back, as what its digits add up to. -/
theorem readFrom_toDigits (hb : 1 < b) (hdigit : ∀ d < b, digit (Nat.digitChar d) = some d)
    (n : Nat) : readFrom digit b 0 (Nat.toDigits b n) = some n := by
  induction n using Nat.strongRecOn with
  | ind n ih =>
    rw [Nat.toDigits_eq_if hb]
    split
    · next hlt =>
      rw [readFrom, hdigit n hlt, Option.bind_some, Nat.zero_mul, Nat.zero_add]
      rfl
    · next hge =>
      -- the last digit is the remainder, and the others write the quotient
      have hsmall : n / b < n := Nat.div_lt_self (by omega) hb
      rw [readFrom_append, ih (n / b) hsmall, Option.bind_some, readFrom,
        hdigit (n % b) (Nat.mod_lt n (by omega)), Option.bind_some, Nat.div_add_mod']
      rfl

/-- **A number that was written is read back.** -/
theorem readNumeral_toDigits (hb : 1 < b) (hdigit : ∀ d < b, digit (Nat.digitChar d) = some d)
    (n : Nat) : readNumeral digit b (Nat.toDigits b n) = some n := by
  rw [readNumeral, if_neg Nat.toDigits_ne_nil, readFrom_toDigits hb hdigit]

/-- Zeros in front, up to a width. -/
def pad (width : Nat) (cs : List Char) : List Char :=
  List.replicate (width - cs.length) '0' ++ cs

/-- Padding brings no letters but zeros. -/
theorem mem_pad {width : Nat} {cs : List Char} {c : Char} (h : c ∈ pad width cs) :
    c = '0' ∨ c ∈ cs := by
  rcases List.mem_append.mp h with hzero | hdigit
  · exact .inl (List.eq_of_mem_replicate hzero)
  · exact .inr hdigit

/-- Zeros in front are worth nothing. -/
theorem readFrom_pad (hzero : digit '0' = some 0) (width : Nat) (cs : List Char) :
    readFrom digit b 0 (pad width cs) = readFrom digit b 0 cs := by
  unfold pad
  induction width - cs.length with
  | zero => rfl
  | succ n ih =>
    rw [List.replicate_succ, List.cons_append, readFrom, hzero, Option.bind_some, Nat.zero_mul]
    exact ih

/-- **Zeros in front do not confuse numbers.** -/
theorem pad_toDigits_inj (hb : 1 < b) (hdigit : ∀ d < b, digit (Nat.digitChar d) = some d)
    {width m n : Nat} (h : pad width (Nat.toDigits b m) = pad width (Nat.toDigits b n)) : m = n := by
  have hzero : digit '0' = some 0 := hdigit 0 (by omega)
  have hread := congrArg (readFrom digit b 0) h
  rw [readFrom_pad hzero, readFrom_pad hzero, readFrom_toDigits hb hdigit,
    readFrom_toDigits hb hdigit] at hread
  exact Option.some.inj hread

end TurboLaser.Lib
