import Mathlib.Algebra.BigOperators.Group.List.Basic
import Mathlib.Algebra.Ring.Nat

/-!
# Dropping items until the rest fits

Items are dropped in an order, each with its weight, until what is left is within a budget.
`evictUntil` is the plan: it is made before anything is dropped, from the weights alone.

Three facts say all there is to say of such a plan, and together they determine it:

- `evictUntil_prefix`: it drops a prefix of the order, so nothing is dropped while something earlier
  in the order is kept;
- `evictUntil_fits`: after it the rest fits, or nothing is left to drop;
- `evictUntil_needed`: without the last item it drops the rest did not fit, so it drops no more than
  it has to.

The subtraction is the truncating one of the natural numbers, as `saturating_sub` has it: a total
that is smaller than the weights, because the two were taken at different times, ends at zero and
never wraps.
-/

namespace TurboLaser.Lib

variable {ι : Type} {weight : ι → Nat} {budget : Nat}

/-- The items to drop, with `left` in all before. The test comes before every item, so an order that
fits from the start is left whole. -/
def evictUntil (weight : ι → Nat) (budget : Nat) : List ι → Nat → List ι
  | [], _ => []
  | i :: order, left =>
    if left ≤ budget then [] else i :: evictUntil weight budget order (left - weight i)

/-- What fits is left whole. -/
theorem evictUntil_of_le {order : List ι} {left : Nat} (h : left ≤ budget) :
    evictUntil weight budget order left = [] := by
  cases order with
  | nil => rfl
  | cons i order => exact if_pos h

/-- What does not fit loses its first item. -/
theorem evictUntil_of_lt {i : ι} {order : List ι} {left : Nat} (h : budget < left) :
    evictUntil weight budget (i :: order) left =
      i :: evictUntil weight budget order (left - weight i) :=
  if_neg (Nat.not_le.mpr h)

/-- **What is dropped is a prefix of the order.** -/
theorem evictUntil_prefix (order : List ι) (left : Nat) :
    evictUntil weight budget order left <+: order := by
  induction order generalizing left with
  | nil => exact List.nil_prefix
  | cons i order ih =>
    by_cases h : left ≤ budget
    · rw [evictUntil_of_le h]
      exact List.nil_prefix
    · rw [evictUntil_of_lt (Nat.not_le.mp h), List.prefix_cons_inj]
      exact ih _

/-- **The rest fits, or everything was dropped.** -/
theorem evictUntil_fits (order : List ι) (left : Nat) :
    left - ((evictUntil weight budget order left).map weight).sum ≤ budget ∨
      evictUntil weight budget order left = order := by
  induction order generalizing left with
  | nil => exact .inr rfl
  | cons i order ih =>
    by_cases h : left ≤ budget
    · rw [evictUntil_of_le h]
      exact .inl h
    · rw [evictUntil_of_lt (Nat.not_le.mp h), List.map_cons, List.sum_cons, ← Nat.sub_sub]
      exact (ih _).imp_right (congrArg (List.cons i))

/-- **Without the last item dropped the rest did not fit.** -/
theorem evictUntil_needed {order dropped : List ι} {left : Nat} {last : ι}
    (h : evictUntil weight budget order left = dropped ++ [last]) :
    budget < left - (dropped.map weight).sum := by
  induction order generalizing left dropped with
  | nil => exact absurd h.symm (List.append_ne_nil_of_right_ne_nil _ (List.cons_ne_nil _ _))
  | cons i order ih =>
    by_cases hle : left ≤ budget
    · rw [evictUntil_of_le hle] at h
      exact absurd h.symm (List.append_ne_nil_of_right_ne_nil _ (List.cons_ne_nil _ _))
    · rw [evictUntil_of_lt (Nat.not_le.mp hle)] at h
      cases dropped with
      | nil => exact Nat.not_le.mp hle
      | cons j dropped =>
        obtain ⟨rfl, hrest⟩ := List.cons.inj h
        rw [List.map_cons, List.sum_cons, ← Nat.sub_sub]
        exact ih hrest

end TurboLaser.Lib
