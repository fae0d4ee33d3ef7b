import Mathlib.Data.List.Basic

/-!
# Readers

A `Reader` takes a value off the front of a buffer, or refuses it. `Reads r bytes a` says that `r`
takes exactly `bytes` and finds `a`, whatever stands behind them, so that facts about parts of a
format add up to facts about the whole of it.

Readers are the other end of the wire. A builder of messages is checked against a decoder that was
written from the format and not from the builder: if a strict decoder takes the built bytes, all of
them, and finds the values that went in, then the lengths, the offsets and the byte orders are
right. So readers refuse whatever the format forbids, and `whole` refuses trailing bytes.

They are a monad, which makes a decoder read as the grammar does, one field after the other, each of
which may depend on the earlier ones (a length, a tag, a count). The rules follow the same shape:

- `Reads.bind`, `Reads.pure`, `Reads.bind_pure`: a format made of parts, one behind the other;
- `Reads.guard`, `Reads.ofOption`: a condition on what was read, which takes no bytes;
- `Reads.many`: a run of values up to the end of the buffer, as long as each takes a byte;
- `Reads.whole`: **a buffer that is one value is read, and nothing is left of it.**
-/

namespace TurboLaser.Lib

/-- A value and what is left of the buffer, or nothing when the buffer is refused. -/
def Reader (α : Type) : Type := List UInt8 → Option (α × List UInt8)

namespace Reader

variable {α β : Type}

/-- Nothing is read. -/
def pure (a : α) : Reader α := fun bytes => some (a, bytes)

/-- One value, and another that may depend on it. -/
def bind (r : Reader α) (f : α → Reader β) : Reader β := fun bytes =>
  match r bytes with
  | none => none
  | some found => f found.1 found.2

instance : Monad Reader where
  pure := Reader.pure
  bind := Reader.bind

/-- The buffer is refused. -/
def refuse : Reader α := fun _ => none

/-- A condition on what was read. -/
def guard (c : Prop) [Decidable c] : Reader Unit := if c then pure () else refuse

/-- A value that is there already. -/
def ofOption : Option α → Reader α
  | none => refuse
  | some a => pure a

/-- One byte. -/
def anyByte : Reader UInt8
  | [] => none
  | b :: rest => some (b, rest)

/-- The next `n` bytes. -/
def bytes (n : Nat) : Reader (List UInt8) := fun buf =>
  if buf.length < n then none else some (buf.take n, buf.drop n)

/-- A number, most significant byte first. -/
def number (n : Nat) : Reader Nat := do
  let digits ← bytes n
  return digits.foldl (fun acc b => acc * 256 + b.toNat) 0

/-- The whole buffer as one value. -/
def whole (r : Reader α) (buf : List UInt8) : Option α :=
  match r buf with
  | some (a, []) => some a
  | _ => none

/-- At most `fuel` values, up to the end of the buffer. -/
def manyUpTo (r : Reader α) : Nat → List UInt8 → Option (List α)
  | _, [] => some []
  | 0, _ :: _ => none
  | fuel + 1, b :: rest =>
    match r (b :: rest) with
    | none => none
    | some found => (manyUpTo r fuel found.2).map (found.1 :: ·)

/-- Values up to the end of the buffer; each takes a byte at least. -/
def many (r : Reader α) (buf : List UInt8) : Option (List α) := manyUpTo r buf.length buf

/-- `n` values. -/
def times (r : Reader α) : Nat → Reader (List α)
  | 0 => pure []
  | n + 1 => do
    let a ← r
    let as ← times r n
    return a :: as

end Reader

open Reader

variable {α β : Type}

/-- The reader takes these bytes, whatever stands behind them, and finds `a`. -/
def Reads (r : Reader α) (bytes : List UInt8) (a : α) : Prop :=
  ∀ rest, r (bytes ++ rest) = some (a, rest)

namespace Reads

theorem pure (a : α) : Reads (Pure.pure a : Reader α) [] a := fun _ => rfl

/-- **One part, and the next.** -/
theorem bind {r : Reader α} {f : α → Reader β} {x y : List UInt8} {a : α} {b : β}
    (h : Reads r x a) (hf : Reads (f a) y b) : Reads (r >>= f) (x ++ y) b := by
  intro rest
  rw [List.append_assoc]
  show Reader.bind r f (x ++ (y ++ rest)) = some (b, rest)
  unfold Reader.bind
  rw [h (y ++ rest)]
  exact hf rest

/-- A condition that holds takes nothing. -/
theorem guard {c : Prop} [Decidable c] (hc : c) : Reads (Reader.guard c) [] () := by
  intro rest
  rw [Reader.guard, if_pos hc]
  rfl

/-- A value that is there takes nothing. -/
theorem ofOption {o : Option α} {a : α} (h : o = some a) : Reads (Reader.ofOption o) [] a := by
  rw [h]
  exact fun _ => rfl

/-- A last step that only makes a value of what was read. -/
theorem bind_pure {r : Reader α} {f : α → β} {xs : List UInt8} {a : α} (h : Reads r xs a) :
    Reads (do let x ← r; return f x) xs (f a) := by
  have hboth : Reads (r >>= fun x => Pure.pure (f x)) (xs ++ []) (f a) :=
    bind (f := fun x => Pure.pure (f x)) h (Reads.pure (f a))
  rwa [List.append_nil] at hboth

theorem anyByte (b : UInt8) : Reads Reader.anyByte [b] b := fun _ => rfl

/-- So many bytes are read, when there are so many. -/
theorem bytes {n : Nat} {xs : List UInt8} (h : xs.length = n) : Reads (Reader.bytes n) xs xs := by
  intro rest
  unfold Reader.bytes
  rw [if_neg (by rw [List.length_append]; omega), ← h, List.take_left, List.drop_left]

/-- A number is read from its bytes. -/
theorem number {n : Nat} {xs : List UInt8} (h : xs.length = n) :
    Reads (Reader.number n) xs (xs.foldl (fun acc b => acc * 256 + b.toNat) 0) :=
  (Reads.bytes h).bind_pure

/-- **A buffer that is one value.** -/
theorem whole {r : Reader α} {xs : List UInt8} {a : α} (h : Reads r xs a) :
    r.whole xs = some a := by
  have hall := h []
  rw [List.append_nil] at hall
  rw [Reader.whole, hall]

/-- The run of values, with a bound on the number of bytes: each value takes one at least. -/
theorem manyUpTo {r : Reader α} {chunks : List (List UInt8 × α)} {fuel : Nat}
    (h : ∀ c ∈ chunks, c.1 ≠ [] ∧ Reads r c.1 c.2)
    (hfuel : (chunks.flatMap Prod.fst).length ≤ fuel) :
    Reader.manyUpTo r fuel (chunks.flatMap Prod.fst) = some (chunks.map Prod.snd) := by
  induction chunks generalizing fuel with
  | nil =>
    cases fuel with
    | zero => rfl
    | succ fuel => rfl
  | cons c chunks ih =>
    obtain ⟨hne, hreads⟩ := h c List.mem_cons_self
    -- the chunk is not empty, so the buffer is not at its end and the bound is not used up
    obtain ⟨b, xs, hc⟩ := List.exists_cons_of_ne_nil hne
    rw [List.flatMap_cons, List.length_append, hc, List.length_cons] at hfuel
    obtain ⟨fuel, rfl⟩ : ∃ k, fuel = k + 1 := ⟨fuel - 1, by omega⟩
    have hhead := hreads (chunks.flatMap Prod.fst)
    rw [hc, List.cons_append] at hhead
    rw [List.flatMap_cons, hc, List.cons_append, Reader.manyUpTo, hhead]
    show (Reader.manyUpTo r fuel (chunks.flatMap Prod.fst)).map _ = _
    rw [ih (fun c' hc' => h c' (List.mem_cons_of_mem _ hc')) (by omega)]
    rfl

/-- **A run of values** up to the end of the buffer. -/
theorem many {r : Reader α} {chunks : List (List UInt8 × α)}
    (h : ∀ c ∈ chunks, c.1 ≠ [] ∧ Reads r c.1 c.2) :
    r.many (chunks.flatMap Prod.fst) = some (chunks.map Prod.snd) :=
  manyUpTo h (Nat.le_refl _)

theorem times_zero (r : Reader α) : Reads (r.times 0) [] [] := fun _ => rfl

theorem times_one {r : Reader α} {xs : List UInt8} {a : α} (h : Reads r xs a) :
    Reads (r.times 1) xs [a] := by
  have htwo := h.bind (f := fun a => (do let as ← r.times 0; return a :: as : Reader (List α)))
    (bind_pure (times_zero r))
  rwa [List.append_nil] at htwo

end Reads

end TurboLaser.Lib
