import TurboLaser.Lib.Fields
import TurboLaser.Lib.Scan

/-!
# Buffer programs that panic

The same programs as over `byte` and `write`, in a language that faults: an index outside the
buffer, a range that is reversed or too long, a copy of another length, a subtraction below zero, a
division by zero, a draw from nothing, an expectation that fails and a loop that does not end each
stop the program. A `Run` is a value or the panic.

Total models of buffer programs are convenient, and they hide exactly the question whether the
program stays inside its buffer: a read outside is zero there, where the program would stop. So a
program for which that question is asked is written down twice, once with the total operations and
once with these, line by line as in its source; and the two are compared. Every operation comes with
the condition under which it does not panic, and with the value of the total operation there. A
program is then followed step by step, each condition being a fact that its own tests provide, and
what is left of it is the total program:

- `bind_ok`, `ite_ok`, `ite_ok_of_iff`: a step and a branch;
- `byteAt_ok`, `sliceAt_ok`, `setAt_ok`, `copyAt_ok`, `minus_ok`, `remainder_ok`, `entryAt_ok`: the
  operations;
- `andAlso_ok`, `orElse_ok`, `onlyIf_ok`: what is evaluated only behind a test, so that the test may
  provide the condition;
- `eachAt_ok`, `retainAt_ok`: iterators;
- `scanLoop_ok`: **a loop that moves forward ends**, after one turn for each byte at most, and is
  the total loop.

Overflow of fixed-width arithmetic is not a panic here: it is modelled by the operations on words,
where it matters.
-/

namespace TurboLaser.Lib

/-- Why a program stopped; the cases are those of the language, not of one program. -/
inductive Panic where
  | index
  | range
  | copyLength
  | underflow
  | divideByZero
  | emptyDraw
  | expect
  | endless
deriving DecidableEq

/-- A result, or a panic. -/
abbrev Run (α : Type) := Except Panic α

variable {α β : Type}

/-- The program does not panic. -/
def NoPanic (p : Run α) : Prop := ∃ a, p = .ok a

@[simp] theorem ok_bind (a : α) (f : α → Run β) : (Except.ok a >>= f) = f a := rfl

/-- **One step, and the rest.** -/
theorem bind_ok {p : Run α} {f : α → Run β} {a : α} {b : β} (h : p = .ok a) (hf : f a = .ok b) :
    (p >>= f) = .ok b := by
  rw [h]
  exact hf

/-- **A branch**: each side panics on its own. -/
theorem ite_ok {c : Prop} [Decidable c] {p q : Run α} {a b : α} (hp : c → p = .ok a)
    (hq : ¬ c → q = .ok b) : (if c then p else q) = .ok (if c then a else b) := by
  by_cases hc : c
  · rw [if_pos hc, if_pos hc, hp hc]
  · rw [if_neg hc, if_neg hc, hq hc]

/-- A branch whose tests in the two programs are written differently. -/
theorem ite_ok_of_iff {c d : Prop} [Decidable c] [Decidable d] {p q : Run α} {a b : α} (h : c ↔ d)
    (hp : d → p = .ok a) (hq : ¬ d → q = .ok b) :
    (if c then p else q) = .ok (if d then a else b) := by
  rw [if_congr h rfl rfl]
  exact ite_ok hp hq

/-! ## Reading and writing

One checked operation for each way a slice is used: an index, a range, a copy, a subtraction, a
remainder. Each has one lemma that says when it succeeds and what it gives. A checked function is
proved by going through its operations with these, one hypothesis on the length for each.
-/

/-- `buf[i]`. -/
def byteAt (buf : List UInt8) (i : Nat) : Run UInt8 :=
  if i < buf.length then .ok (byte buf i) else .error .index

/-- `&buf[a..b]`. -/
def sliceAt (buf : List UInt8) (a b : Nat) : Run (List UInt8) :=
  if a ≤ b ∧ b ≤ buf.length then .ok ((buf.take b).drop a) else .error .range

/-- `buf[i] = x`. -/
def setAt (buf : List UInt8) (i : Nat) (x : UInt8) : Run (List UInt8) :=
  if i < buf.length then .ok (buf.set i x) else .error .index

/-- `buf[a..b].copy_from_slice(xs)`. -/
def copyAt (buf : List UInt8) (a b : Nat) (xs : List UInt8) : Run (List UInt8) :=
  if a ≤ b ∧ b ≤ buf.length then
    if xs.length = b - a then .ok (write buf a xs) else .error .copyLength
  else .error .range

/-- `a - b`. -/
def minus (a b : Nat) : Run Nat := if b ≤ a then .ok (a - b) else .error .underflow

/-- `a % b`. -/
def remainder (a b : Nat) : Run Nat := if b = 0 then .error .divideByZero else .ok (a % b)

/-- `xs[i]`, of a table. -/
def entryAt (xs : List α) (i : Nat) : Run α :=
  match xs[i]? with
  | none => .error .index
  | some x => .ok x

/-- `[buf[i], buf[i + 1], …]`, with `n` bytes. -/
def bytesAt (buf : List UInt8) : Nat → Nat → Run (List UInt8)
  | _, 0 => .ok []
  | i, n + 1 => do
    let x ← byteAt buf i
    let xs ← bytesAt buf (i + 1) n
    return x :: xs

/-- `u16::from_be_bytes([buf[i], buf[i + 1]])`. -/
def be16At (buf : List UInt8) (i : Nat) : Run Nat := do
  let hi ← byteAt buf i
  let lo ← byteAt buf (i + 1)
  return hi.toNat * 256 + lo.toNat

/-- `u32::from_be_bytes([buf[i], …, buf[i + 3]])`. -/
def be32At (buf : List UInt8) (i : Nat) : Run UInt32 := do
  let b0 ← byteAt buf i
  let b1 ← byteAt buf (i + 1)
  let b2 ← byteAt buf (i + 2)
  let b3 ← byteAt buf (i + 3)
  return UInt32.ofNat (b0.toNat * 16777216 + b1.toNat * 65536 + b2.toNat * 256 + b3.toNat)

/-- A field, from its bytes. -/
def fieldAt {ω : Type} (field : FixedField ω) (buf : List UInt8) (i : Nat) : Run ω := do
  let bytes ← bytesAt buf i field.width
  return field.decode bytes

section

variable {buf xs : List UInt8} {a b i n : Nat}

/-- An index inside the buffer. -/
theorem byteAt_ok (h : i < buf.length) : byteAt buf i = .ok (byte buf i) := if_pos h

/-- A range that is neither reversed nor too long. -/
theorem sliceAt_ok (hle : a ≤ b) (hb : b ≤ buf.length) :
    sliceAt buf a b = .ok ((buf.take b).drop a) :=
  if_pos ⟨hle, hb⟩

/-- An index inside the buffer may be written. -/
theorem setAt_ok (x : UInt8) (h : i < buf.length) : setAt buf i x = .ok (buf.set i x) := if_pos h

/-- A range of the buffer is overwritten by as many bytes. -/
theorem copyAt_ok (hb : b ≤ buf.length) (hlen : a + xs.length = b) :
    copyAt buf a b xs = .ok (write buf a xs) := by
  rw [copyAt, if_pos ⟨by omega, hb⟩, if_pos (by omega)]

/-- A subtraction that stays at zero or above. -/
theorem minus_ok (h : b ≤ a) : minus a b = .ok (a - b) := if_pos h

/-- A divisor that is not zero. -/
theorem remainder_ok (h : b ≠ 0) : remainder a b = .ok (a % b) := if_neg h

/-- An index inside the table. -/
theorem entryAt_ok {xs : List α} {x : α} (h : xs[i]? = some x) : entryAt xs i = .ok x := by
  rw [entryAt, h]

/-- So many bytes, all inside the buffer. -/
theorem bytesAt_ok (h : i + n ≤ buf.length) :
    bytesAt buf i n = .ok ((buf.take (i + n)).drop i) := by
  induction n generalizing i with
  | zero =>
    rw [Nat.add_zero, List.drop_of_length_le (List.length_take_le i buf)]
    rfl
  | succ n ih =>
    have hi : i < (buf.take (i + (n + 1))).length := by
      rw [List.length_take]
      omega
    rw [bytesAt, byteAt_ok (by omega), ok_bind, ih (by omega), ok_bind,
      List.drop_eq_getElem_cons hi, List.getElem_take, byte, List.getD_eq_getElem _ _ (by omega),
      Nat.add_assoc, Nat.add_comm 1 n]
    rfl

/-- A word of two bytes inside the buffer. -/
theorem be16At_ok (h : i + 2 ≤ buf.length) : be16At buf i = .ok (be16 buf i) := by
  rw [be16At, byteAt_ok (by omega), ok_bind, byteAt_ok (by omega)]
  rfl

/-- A word of four bytes inside the buffer. -/
theorem be32At_ok (h : i + 4 ≤ buf.length) : be32At buf i = .ok (be32 buf i) := by
  rw [be32At, byteAt_ok (by omega), ok_bind, byteAt_ok (by omega), ok_bind, byteAt_ok (by omega),
    ok_bind, byteAt_ok (by omega)]
  rfl

/-- A field needs its own bytes only. -/
theorem decode_take {ω : Type} (field : FixedField ω) (h : field.width ≤ buf.length) :
    field.decode (buf.take field.width) = field.decode buf := by
  have hdecode := field.decode_bytes (field.decode buf) []
  rwa [List.append_nil, field.bytes_decode h] at hdecode

/-- A field inside the buffer. -/
theorem fieldAt_ok {ω : Type} {field : FixedField ω} (h : i + field.width ≤ buf.length) :
    fieldAt field buf i = .ok (field.read buf i) := by
  have hfits : field.width ≤ (buf.drop i).length := by
    rw [List.length_drop]
    omega
  rw [fieldAt, bytesAt_ok h, ok_bind, ← List.take_drop, decode_take field hfits]
  rfl

end

/-! ## Control -/

/-- `b && p`: the second half is evaluated behind the first. -/
def andAlso (b : Bool) (p : Run Bool) : Run Bool := if b = true then p else .ok false

/-- The second half may rely on the first. -/
theorem andAlso_ok {b c : Bool} {p : Run Bool} (h : b = true → p = .ok c) :
    andAlso b p = .ok (b && c) := by
  cases b with
  | true => exact h rfl
  | false => rfl

/-- `b || p`: the second half is evaluated behind the first. -/
def orElse (b : Bool) (p : Run Bool) : Run Bool := if b = true then .ok true else p

/-- The second half may rely on the first having failed. -/
theorem orElse_ok {b c : Bool} {p : Run Bool} (h : b = false → p = .ok c) :
    orElse b p = .ok (b || c) := by
  cases b with
  | true => rfl
  | false => exact h rfl

/-- `if b { … }`. -/
def onlyIf (b : Bool) (s : α) (p : Run α) : Run α := if b = true then p else .ok s

/-- The body may rely on the test. -/
theorem onlyIf_ok {b : Bool} {s t : α} {p : Run α} (h : b = true → p = .ok t) :
    onlyIf b s p = .ok (if b = true then t else s) :=
  ite_ok h fun _ => rfl

/-- `if let Some(a) = o { … }`. -/
def ifSome (o : Option α) (s : β) (f : α → Run β) : Run β :=
  match o with
  | none => .ok s
  | some a => f a

/-- The elements of a list, one after the other. -/
def eachAt (f : α → Run β) : List α → Run (List β)
  | [] => .ok []
  | x :: xs => do
    let y ← f x
    let ys ← eachAt f xs
    return y :: ys

/-- An iterator panics only if an element does. -/
theorem eachAt_ok {f : α → Run β} {g : α → β} {xs : List α} (h : ∀ x ∈ xs, f x = .ok (g x)) :
    eachAt f xs = .ok (xs.map g) := by
  induction xs with
  | nil => rfl
  | cons x xs ih =>
    rw [eachAt, h x List.mem_cons_self, ok_bind, ih fun y hy => h y (List.mem_cons_of_mem x hy)]
    rfl

/-- `Vec::retain`. -/
def retainAt (f : α → Run Bool) : List α → Run (List α)
  | [] => .ok []
  | x :: xs => do
    let keep ← f x
    let xs ← retainAt f xs
    return if keep then x :: xs else xs

/-- A filter panics only if an element does. -/
theorem retainAt_ok {f : α → Run Bool} {g : α → Bool} {xs : List α}
    (h : ∀ x ∈ xs, f x = .ok (g x)) : retainAt f xs = .ok (xs.filter g) := by
  induction xs with
  | nil => rfl
  | cons x xs ih =>
    rw [retainAt, h x List.mem_cons_self, ok_bind, ih fun y hy => h y (List.mem_cons_of_mem x hy),
      ok_bind, List.filter_cons]
    rfl

/-! ## Loops -/

variable {σ : Type}

/-- A scanning loop that may take `fuel` turns. -/
def scanLoop (step : σ → Nat → Run (Option (σ × Nat))) : Nat → σ → Nat → Run σ
  | 0, _, _ => .error .endless
  | fuel + 1, s, o => do
    match ← step s o with
    | none => return s
    | some (s', o') => scanLoop step fuel s' o'

/-- **A loop that moves forward ends**, and is the total loop, when no turn panics. -/
theorem scanLoop_ok {scan : Scan σ} {step : σ → Nat → Run (Option (σ × Nat))} {P : σ → Prop}
    (hstep : ∀ s o, P s → step s o = .ok (scan.step s o))
    (hkeep : ∀ s o s' o', P s → scan.step s o = some (s', o') → P s') {fuel : Nat} {s : σ} {o : Nat}
    (hs : P s) (hfuel : scan.size s ≤ o + fuel) :
    scanLoop step (fuel + 1) s o = .ok (scan.run s o) := by
  induction fuel generalizing s o with
  | zero =>
    rw [scanLoop, hstep s o hs, ok_bind]
    cases hnext : scan.step s o with
    | none =>
      rw [Scan.run_of_none hnext]
      rfl
    | some next =>
      -- no fuel is left for a turn behind this one, and none is needed: it would begin outside
      have hinside := @Scan.inside σ scan s o next.1 next.2 hnext
      omega
  | succ fuel ih =>
    rw [scanLoop, hstep s o hs, ok_bind]
    cases hnext : scan.step s o with
    | none =>
      rw [Scan.run_of_none hnext]
      rfl
    | some next =>
      obtain ⟨s', o'⟩ := next
      -- the distance to the end shrinks, so the fuel that is left is enough for the rest
      have hforward := scan.forward hnext
      have hsize := scan.size_eq hnext
      rw [Scan.run_of_some hnext]
      exact ih (hkeep s o s' o' hs hnext) (by omega)

end TurboLaser.Lib
