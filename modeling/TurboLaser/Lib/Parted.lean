import Mathlib.Data.List.Basic

/-!
# Texts made of parts

A text that is written with separators between its parts, or after its first part, gives the parts
back as long as none of them contains the separator.

Names are often made so: a stem, a dash, a few numbers, an extension. Two such names are the same
only if their parts are, provided that the separator is not a letter of a part. That is the only
hypothesis here, and it is asked of the parts and not of the text, since the caller knows what its
parts are made of (digits, hexadecimal digits, a word of a fixed list).

- `intercalate_inj`: parts between separators, any number of them on both sides;
- `not_mem_intercalate`: another letter stands in the text only if it stands in a part, so that
  texts made of texts may be taken apart in two steps;
- `append_inj_of_sep`: a part without the separator, and what follows from the separator on. What
  follows may contain further separators, or be empty: only its first letter is constrained.
-/

namespace TurboLaser.Lib

variable {α : Type} {sep : α}

/-- **Parts between separators are given back.** -/
theorem intercalate_inj [DecidableEq α] {ps qs : List (List α)} (hps : ps ≠ []) (hqs : qs ≠ [])
    (hp : ∀ p ∈ ps, sep ∉ p) (hq : ∀ q ∈ qs, sep ∉ q) :
    [sep].intercalate ps = [sep].intercalate qs ↔ ps = qs := by
  constructor
  · intro h
    rw [← List.splitOn_intercalate sep hp hps, ← List.splitOn_intercalate sep hq hqs, h]
  · rintro rfl
    rfl

/-- Another letter is between the parts only if it is in one of them. -/
theorem not_mem_intercalate {x : α} {ps : List (List α)} (hsep : x ≠ sep)
    (hp : ∀ p ∈ ps, x ∉ p) : x ∉ [sep].intercalate ps := by
  induction ps with
  | nil => exact List.not_mem_nil
  | cons p ps ih =>
    have hfirst := hp p List.mem_cons_self
    have hrest := ih fun q hq => hp q (List.mem_cons_of_mem _ hq)
    cases ps with
    | nil => rwa [List.intercalate_singleton]
    | cons q ps =>
      rw [List.intercalate_cons_cons]
      simp [hsep, hfirst, hrest]

/-- **What stands before the first separator, and what follows, are given back.** -/
theorem append_inj_of_sep {xs ys s t : List α} (hx : sep ∉ xs) (hy : sep ∉ ys)
    (hs : ∀ a ∈ s.head?, a = sep) (ht : ∀ a ∈ t.head?, a = sep) :
    xs ++ s = ys ++ t ↔ xs = ys ∧ s = t := by
  constructor
  · intro h
    induction xs generalizing ys with
    | nil =>
      cases ys with
      | nil => exact ⟨rfl, h⟩
      | cons y ys =>
        -- the separator in front of `s` would be in `ys`
        rw [List.nil_append] at h
        have := hs y (by rw [h]; rfl)
        exact absurd List.mem_cons_self (this ▸ hy)
    | cons x xs ih =>
      cases ys with
      | nil =>
        rw [List.nil_append] at h
        have := ht x (by rw [← h]; rfl)
        exact absurd List.mem_cons_self (this ▸ hx)
      | cons y ys =>
        obtain ⟨rfl, hrest⟩ := List.cons.inj h
        obtain ⟨rfl, rfl⟩ := ih (fun h => hx (List.mem_cons_of_mem _ h))
          (fun h => hy (List.mem_cons_of_mem _ h)) hrest
        exact ⟨rfl, rfl⟩
  · rintro ⟨rfl, rfl⟩
    rfl

end TurboLaser.Lib
