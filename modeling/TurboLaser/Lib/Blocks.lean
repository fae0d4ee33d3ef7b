import Mathlib.Algebra.BigOperators.Group.List.Basic
import Mathlib.Algebra.Order.BigOperators.Group.Finset
import Mathlib.Data.Finset.Card
import Mathlib.Order.Interval.Finset.Nat
import Mathlib.Tactic.Ring

/-!
# Packing runs of consecutive numbers

A *run* is a pair `(start, size)` standing for the numbers `start`, …, `start + size - 1`. Two
counting facts decide when an allocator of runs can succeed: runs of total size below `count` leave
a number under `count` uncovered (`exists_uncovered`), and runs that lie below `cap` and are
pairwise apart have total size at most `cap` (`sum_sizes_le`). The first is a pigeonhole argument
and needs nothing of the runs; the second is exact for runs that are apart, since then their union
has as many numbers as their sizes add up to.

Alignment enters through `overlap_iff_mem_run`: an aligned candidate block meets an aligned assigned
block exactly when its index lies in a run of indices. So a question about blocks of addresses of
various sizes becomes one about runs of indices at the size of the candidate, and a smaller block
counts as one index. That rounding up is the only loss, and it is why packing blocks of mixed sizes
is not decided by their total size alone.
-/

namespace TurboLaser.Lib

/-- The numbers of a run. -/
def runSet (r : Nat × Nat) : Finset Nat := Finset.Ico r.1 (r.1 + r.2)

/-- Two runs share no number. -/
def Apart (r r' : Nat × Nat) : Prop := r.1 + r.2 ≤ r'.1 ∨ r'.1 + r'.2 ≤ r.1

theorem Apart.symm {r r' : Nat × Nat} (h : Apart r r') : Apart r' r := Or.symm h

@[simp] theorem card_runSet (r : Nat × Nat) : (runSet r).card = r.2 := by
  rw [runSet, Nat.card_Ico, Nat.add_sub_cancel_left]

theorem mem_runSet {r : Nat × Nat} {i : Nat} : i ∈ runSet r ↔ r.1 ≤ i ∧ i < r.1 + r.2 :=
  Finset.mem_Ico

theorem Apart.disjoint {r r' : Nat × Nat} (h : Apart r r') : Disjoint (runSet r) (runSet r') := by
  rw [Finset.disjoint_left]
  intro i hi hi'
  rw [mem_runSet] at hi hi'
  rcases h with h | h <;> omega

/-- The union of the runs of a list. -/
def unionRuns : List (Nat × Nat) → Finset Nat
  | [] => ∅
  | r :: rs => runSet r ∪ unionRuns rs

theorem mem_unionRuns {rs : List (Nat × Nat)} {i : Nat} :
    i ∈ unionRuns rs ↔ ∃ r ∈ rs, i ∈ runSet r := by
  induction rs with
  | nil => simp [unionRuns]
  | cons r rs ih => simp [unionRuns, ih]

/-- The union is no larger than the sizes add up to. -/
theorem card_unionRuns_le (rs : List (Nat × Nat)) :
    (unionRuns rs).card ≤ (rs.map Prod.snd).sum := by
  induction rs with
  | nil => simp [unionRuns]
  | cons r rs ih =>
    calc (unionRuns (r :: rs)).card
        ≤ (runSet r).card + (unionRuns rs).card := Finset.card_union_le _ _
      _ ≤ r.2 + (rs.map Prod.snd).sum := by rw [card_runSet]; omega
      _ = ((r :: rs).map Prod.snd).sum := by rw [List.map_cons, List.sum_cons]

/-- Runs that are pairwise apart fill exactly the sum of their sizes. -/
theorem card_unionRuns_of_apart {rs : List (Nat × Nat)} (h : rs.Pairwise Apart) :
    (unionRuns rs).card = (rs.map Prod.snd).sum := by
  induction rs with
  | nil => simp [unionRuns]
  | cons r rs ih =>
    obtain ⟨hr, hrs⟩ := List.pairwise_cons.mp h
    have hdisj : Disjoint (runSet r) (unionRuns rs) := by
      rw [Finset.disjoint_left]
      intro i hi hi'
      obtain ⟨r', hr', hmem⟩ := mem_unionRuns.mp hi'
      exact Finset.disjoint_left.mp (hr r' hr').disjoint hi hmem
    rw [unionRuns, Finset.card_union_of_disjoint hdisj, card_runSet, ih hrs, List.map_cons,
      List.sum_cons]

/-- Runs of total size below `count` leave a number below `count` uncovered. -/
theorem exists_uncovered {rs : List (Nat × Nat)} {count : Nat}
    (h : (rs.map Prod.snd).sum < count) : ∃ i < count, ∀ r ∈ rs, i ∉ runSet r := by
  have hcard : (unionRuns rs).card < (Finset.range count).card := by
    rw [Finset.card_range]
    exact lt_of_le_of_lt (card_unionRuns_le rs) h
  obtain ⟨i, hi, hnot⟩ := Finset.exists_mem_notMem_of_card_lt_card hcard
  exact ⟨i, Finset.mem_range.mp hi, fun r hr hmem => hnot (mem_unionRuns.mpr ⟨r, hr, hmem⟩)⟩

/-- Pairwise apart runs below `cap` have total size at most `cap`. -/
theorem sum_sizes_le {rs : List (Nat × Nat)} {cap : Nat} (hcap : ∀ r ∈ rs, r.1 + r.2 ≤ cap)
    (h : rs.Pairwise Apart) : (rs.map Prod.snd).sum ≤ cap := by
  have hsub : unionRuns rs ⊆ Finset.range cap := by
    intro i hi
    obtain ⟨r, hr, hmem⟩ := mem_unionRuns.mp hi
    have hle := hcap r hr
    rw [mem_runSet] at hmem
    exact Finset.mem_range.mpr (by omega)
  calc (rs.map Prod.snd).sum
      = (unionRuns rs).card := (card_unionRuns_of_apart h).symm
    _ ≤ (Finset.range cap).card := Finset.card_le_card hsub
    _ = cap := Finset.card_range cap

/-! ## Aligned blocks -/

/-- The candidate block `i` of size `m` above `base` meets the block of size `l`
that starts `q` candidates above `base` exactly when `i` lies in the run of
`l / m` (rounded up) indices from `q` on. -/
theorem overlap_iff_mem_run {base m l q i : Nat} (hm : 0 < m) :
    (base + i * m < base + q * m + l ∧ base + q * m < base + i * m + m) ↔
      q ≤ i ∧ i < q + (l + (m - 1)) / m := by
  -- `k` candidates of size `m` begin inside a block of size `l` for exactly the `k` below `l / m`,
  -- rounded up
  have hdiv : ∀ k : Nat, k * m < l ↔ k < (l + (m - 1)) / m := by
    intro k
    rw [← Nat.succ_le_iff, ← Nat.succ_le_iff, Nat.le_div_iff_mul_le hm, Nat.succ_mul]
    omega
  -- both begin at multiples of `m`, so the later one is not in front of the earlier
  have hleft : base + q * m < base + i * m + m ↔ q ≤ i := by
    have : base + q * m < base + i * m + m ↔ q * m < (i + 1) * m := by
      rw [Nat.add_mul, Nat.one_mul]
      omega
    rw [this, Nat.mul_lt_mul_right hm, Nat.lt_succ_iff]
  rw [hleft]
  constructor
  · rintro ⟨h, hq⟩
    refine ⟨hq, ?_⟩
    have hsub : (i - q) * m < l := by
      rw [Nat.sub_mul]
      have := Nat.mul_le_mul_right m hq
      omega
    have := (hdiv (i - q)).mp hsub
    omega
  · rintro ⟨hq, h⟩
    refine ⟨?_, hq⟩
    have hsub := (hdiv (i - q)).mpr (by omega)
    rw [Nat.sub_mul] at hsub
    have := Nat.mul_le_mul_right m hq
    omega

end TurboLaser.Lib
