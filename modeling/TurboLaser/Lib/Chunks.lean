import Mathlib.Data.List.Basic

/-!
# Cutting a list into chunks

`chunks n xs` cuts a list into runs of `n` elements, the last one possibly shorter, as
`slice::chunks` does. The recursion runs on a bound, the length of the list, which is always enough:
a chunk takes an element at least. That keeps the definition structural, so it computes in the
kernel.

- `length_le_of_mem_chunks`: **no chunk is longer than the first**, which has `min xs.length n`
  elements, so a bound on one chunk is a bound on all of them;
- `flatten_chunks`: **together they are the list**, so a transfer that is cut and put together again
  is the transfer;
- `length_chunks`, `length_chunks_le_iff`: how many there are, and the exact condition under which a
  counter of them does not overflow;
- `length_flatMap_chunks`: the length of a message that has a header of `k` bytes in front of every
  chunk.
-/

namespace TurboLaser.Lib

variable {α : Type}

/-- At most `fuel` chunks of `n` elements. -/
def chunksUpTo (n : Nat) : Nat → List α → List (List α)
  | 0, _ => []
  | _, [] => []
  | fuel + 1, x :: xs => (x :: xs).take n :: chunksUpTo n fuel ((x :: xs).drop n)

/-- The chunks of a list. -/
def chunks (n : Nat) (xs : List α) : List (List α) := chunksUpTo n xs.length xs

/-- A chunk is no longer than `n`, nor than the whole list. -/
theorem length_le_of_mem_chunksUpTo {n fuel : Nat} {xs c : List α}
    (h : c ∈ chunksUpTo n fuel xs) : c.length ≤ min xs.length n := by
  induction fuel generalizing xs with
  | zero => cases h
  | succ fuel ih =>
    cases xs with
    | nil => cases h
    | cons x xs =>
      rcases List.mem_cons.mp h with rfl | hmem
      · rw [List.length_take]
        omega
      · have := ih hmem
        rw [List.length_drop] at this
        omega

/-- **No chunk is longer than the first.** -/
theorem length_le_of_mem_chunks {n : Nat} {xs c : List α} (h : c ∈ chunks n xs) :
    c.length ≤ min xs.length n :=
  length_le_of_mem_chunksUpTo h

/-- The first chunk of a list that is not empty. -/
theorem take_mem_chunks {n : Nat} {xs : List α} (h : xs ≠ []) : xs.take n ∈ chunks n xs := by
  cases xs with
  | nil => exact absurd rfl h
  | cons x xs => exact List.mem_cons_self

/-- **The chunks are the list**, cut. -/
theorem flatten_chunksUpTo {n fuel : Nat} (hn : 0 < n) {xs : List α} (hfuel : xs.length ≤ fuel) :
    (chunksUpTo n fuel xs).flatten = xs := by
  induction fuel generalizing xs with
  | zero =>
    obtain rfl := List.eq_nil_of_length_eq_zero (Nat.le_zero.mp hfuel)
    rfl
  | succ fuel ih =>
    cases xs with
    | nil => rfl
    | cons x xs =>
      rw [List.length_cons] at hfuel
      have hrest : ((x :: xs).drop n).length ≤ fuel := by
        rw [List.length_drop, List.length_cons]
        omega
      rw [chunksUpTo, List.flatten_cons, ih hrest, List.take_append_drop]

/-- How many chunks there are. -/
theorem length_chunksUpTo {n fuel : Nat} (hn : 0 < n) {xs : List α} (hfuel : xs.length ≤ fuel) :
    (chunksUpTo n fuel xs).length = (xs.length + (n - 1)) / n := by
  induction fuel generalizing xs with
  | zero =>
    obtain rfl := List.eq_nil_of_length_eq_zero (Nat.le_zero.mp hfuel)
    rw [List.length_nil, Nat.zero_add, Nat.div_eq_of_lt (by omega)]
    rfl
  | succ fuel ih =>
    cases xs with
    | nil =>
      rw [List.length_nil, Nat.zero_add, Nat.div_eq_of_lt (by omega)]
      rfl
    | cons x xs =>
      rw [List.length_cons] at hfuel
      have hrest : ((x :: xs).drop n).length ≤ fuel := by
        rw [List.length_drop, List.length_cons]
        omega
      rw [chunksUpTo, List.length_cons, ih hrest, List.length_drop, List.length_cons]
      -- one chunk for the head, the others for what is behind it
      by_cases hle : xs.length + 1 ≤ n
      · rw [Nat.sub_eq_zero_of_le hle, Nat.zero_add, Nat.div_eq_of_lt (a := n - 1) (by omega)]
        exact (Nat.div_eq_of_lt_le (by omega) (by omega)).symm
      · rw [← Nat.add_div_right _ hn]
        congr 1
        omega

theorem flatten_chunks {n : Nat} (hn : 0 < n) (xs : List α) : (chunks n xs).flatten = xs :=
  flatten_chunksUpTo hn (Nat.le_refl _)

theorem length_chunks {n : Nat} (hn : 0 < n) (xs : List α) :
    (chunks n xs).length = (xs.length + (n - 1)) / n :=
  length_chunksUpTo hn (Nat.le_refl _)

/-- There are at most `k` chunks of a list of at most `k * n` elements, and of no other. -/
theorem length_chunks_le_iff {n k : Nat} (hn : 0 < n) {xs : List α} :
    (chunks n xs).length ≤ k ↔ xs.length ≤ k * n := by
  rw [length_chunks hn, ← Nat.lt_succ_iff, Nat.div_lt_iff_lt_mul hn, Nat.succ_mul]
  omega

/-- Every chunk grows by `k`: the length of all of them together. -/
theorem length_flatMap_chunks {β : Type} {n k : Nat} (hn : 0 < n) {g : List α → List β}
    (hg : ∀ c, (g c).length = c.length + k) (xs : List α) :
    ((chunks n xs).flatMap g).length = xs.length + k * ((xs.length + (n - 1)) / n) := by
  have hsum : ∀ cs : List (List α),
      (cs.flatMap g).length = cs.flatten.length + k * cs.length := by
    intro cs
    induction cs with
    | nil => rfl
    | cons c cs ih =>
      rw [List.flatMap_cons, List.flatten_cons, List.length_append, List.length_append, hg, ih,
        List.length_cons, Nat.mul_succ]
      omega
  rw [hsum, flatten_chunks hn, length_chunks hn]

end TurboLaser.Lib
