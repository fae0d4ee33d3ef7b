import Mathlib

/-!
# Which capture is sent (run/selection.rs)

A capture is drawn by weight: an exact entry for its name or its path, else the first glob that
matches, else the default. Weight zero excludes it.

The draw subtracts the weights from a random point one after the other. With the numbers of a
machine the last difference may be left at or above the last weight, and then the last capture is
taken, whatever its weight is. So "excluded" is true up to that last resort, and the statement names
it. With exact numbers it does not happen, and more can be said: every capture has a stretch of the
line as long as its weight.

- `weightedPick_eq_none`: **nothing is picked exactly if everything is excluded**;
- `weightedPick_spec`: **an excluded capture is never picked**, unless it is the last one;
- `weightedPick_share`: with exact numbers, **a capture is picked for its share of the weights.**

`F` stands for `f64`. What the results need of its rounding is in `RoundsMonotonically`: signs come
out right, and a sum of numbers that are not negative is not below either of them. Floating-point
numbers other than NaN have these properties, since rounding is monotone, and exact ones do so too.
The last result is over an ordered group.
-/

namespace TurboLaser

/-- `Weights`; what a glob pattern matches is decided by a library. -/
structure Weights (F : Type) where
  default : F
  globs : List (String × F)
  files : List (String × F)

/-- What `glob::Pattern` does: it refuses a pattern, or says which texts it matches. -/
abbrev GlobMatcher := String → Option (String → Bool)

section

variable {F : Type}

/-- `weight_for`: of a file by its name and its full path. -/
def weightFor (glob : GlobMatcher) (w : Weights F) (name path : String) : F :=
  match w.files.lookup name with
  | some x => x
  | none =>
    match w.files.lookup path with
    | some x => x
    | none =>
      match w.globs.find? fun g => (glob g.1).elim false fun hits => hits name || hits path with
      | some g => g.2
      | none => w.default

variable {α : Type} [LinearOrder F]

section

variable [Sub F]

/-- The loop of `weighted_pick`: each weight is taken off the point until it lies below one. -/
def spin : List (α × F) → F → Option α
  | [], _ => none
  | (a, w) :: rest, pick => if pick < w then some a else spin rest (pick - w)

theorem mem_of_spin {xs : List (α × F)} {pick : F} {a : α} (h : spin xs pick = some a) :
    ∃ w, (a, w) ∈ xs := by
  induction xs generalizing pick with
  | nil => cases h
  | cons x rest ih =>
    rw [spin] at h
    split at h
    · obtain rfl := Option.some.inj h
      exact ⟨x.2, List.mem_cons_self⟩
    · obtain ⟨w, hw⟩ := ih h
      exact ⟨w, List.mem_cons_of_mem _ hw⟩

end

variable [Zero F]

/-- The weights, a negative one counting as zero. -/
def pickWeights (weight : α → F) (files : List α) : List F := files.map fun f => max (weight f) 0

theorem mem_pickWeights {weight : α → F} {files : List α} {w : F} :
    w ∈ pickWeights weight files ↔ ∃ f ∈ files, max (weight f) 0 = w :=
  List.mem_map

theorem zip_pickWeights (weight : α → F) (files : List α) :
    files.zip (pickWeights weight files) = files.map fun f => (f, max (weight f) 0) := by
  induction files with
  | nil => rfl
  | cons f files ih => exact congrArg ((f, max (weight f) 0) :: ·) ih

variable [Add F] [Sub F]

/-- `weighted_pick`; `draw total` is the random point between 0 and `total`. -/
def weightedPick (weight : α → F) (files : List α) (draw : F → F) : Option α :=
  if files = [] then none
  else
    let weights := pickWeights weight files
    let total := weights.foldl (· + ·) 0
    if total ≤ 0 then none
    else (spin (files.zip weights) (draw total)).or files.getLast?

/-- Sums and differences are rounded to a number on the right side of zero and of each part. -/
structure RoundsMonotonically (F : Type) [Zero F] [Add F] [Sub F] [LinearOrder F] : Prop where
  sub_nonneg : ∀ a b : F, b ≤ a → 0 ≤ a - b
  le_add_left : ∀ a b : F, 0 ≤ a → 0 ≤ b → a ≤ a + b
  le_add_right : ∀ a b : F, 0 ≤ a → 0 ≤ b → b ≤ a + b
  zero_add_le : ∀ a b : F, a ≤ 0 → b ≤ 0 → a + b ≤ 0

/-! ## The loop -/

/-- **What the loop picks has a positive weight.** -/
theorem spin_pos (hround : RoundsMonotonically F) {xs : List (α × F)} {pick : F} {a : α}
    (hpick : 0 ≤ pick) (h : spin xs pick = some a) : ∃ w, (a, w) ∈ xs ∧ 0 < w := by
  induction xs generalizing pick with
  | nil => cases h
  | cons x rest ih =>
    obtain ⟨b, w⟩ := x
    rw [spin] at h
    split at h
    · next hlt =>
      obtain rfl := Option.some.inj h
      exact ⟨w, List.mem_cons_self, lt_of_le_of_lt hpick hlt⟩
    · next hge =>
      obtain ⟨v, hv, hpos⟩ := ih (hround.sub_nonneg _ _ (not_lt.mp hge)) h
      exact ⟨v, List.mem_cons_of_mem _ hv, hpos⟩

/-- The running total never falls, and takes in every weight. -/
theorem le_foldl_add (hround : RoundsMonotonically F) {ws : List F} {acc : F} (hacc : 0 ≤ acc)
    (hws : ∀ w ∈ ws, 0 ≤ w) :
    acc ≤ ws.foldl (· + ·) acc ∧ ∀ w ∈ ws, w ≤ ws.foldl (· + ·) acc := by
  induction ws generalizing acc with
  | nil => exact ⟨le_refl acc, nofun⟩
  | cons v ws ih =>
    have hv := hws v List.mem_cons_self
    have hmore := hround.le_add_left acc v hacc hv
    obtain ⟨hle, hall⟩ := ih (le_trans hacc hmore) fun w hw => hws w (List.mem_cons_of_mem _ hw)
    refine ⟨le_trans hmore hle, fun w hw => ?_⟩
    rcases List.mem_cons.mp hw with rfl | hw
    · exact le_trans (hround.le_add_right acc w hacc hv) hle
    · exact hall w hw

theorem foldl_add_nonpos (hround : RoundsMonotonically F) {ws : List F} {acc : F} (hacc : acc ≤ 0)
    (hws : ∀ w ∈ ws, w ≤ 0) : ws.foldl (· + ·) acc ≤ 0 := by
  induction ws generalizing acc with
  | nil => exact hacc
  | cons v ws ih =>
    exact ih (hround.zero_add_le acc v hacc (hws v List.mem_cons_self))
      fun w hw => hws w (List.mem_cons_of_mem _ hw)

/-! ## The pick -/

/-- The total is positive as soon as one weight is. -/
theorem total_le_iff (hround : RoundsMonotonically F) (weight : α → F) (files : List α) :
    (pickWeights weight files).foldl (· + ·) 0 ≤ 0 ↔ ∀ f ∈ files, weight f ≤ 0 := by
  constructor
  · intro htotal f hf
    have hnonneg : ∀ w ∈ pickWeights weight files, (0 : F) ≤ w := by
      rintro w hw
      obtain ⟨g, -, rfl⟩ := mem_pickWeights.mp hw
      exact le_max_right _ _
    have hle := (le_foldl_add hround (le_refl (0 : F)) hnonneg).2 _
      (mem_pickWeights.mpr ⟨f, hf, rfl⟩)
    exact le_trans (le_max_left _ _) (le_trans hle htotal)
  · intro hexcluded
    refine foldl_add_nonpos hround (le_refl (0 : F)) fun w hw => ?_
    obtain ⟨g, hg, rfl⟩ := mem_pickWeights.mp hw
    exact max_le (hexcluded g hg) (le_refl 0)

/-- **Nothing is picked exactly if every capture is excluded**, as when there is none. -/
theorem weightedPick_eq_none (hround : RoundsMonotonically F) (weight : α → F) (files : List α)
    (draw : F → F) : weightedPick weight files draw = none ↔ ∀ f ∈ files, weight f ≤ 0 := by
  rw [← total_le_iff hround weight files, weightedPick]
  split
  · next hnil =>
    rw [hnil]
    exact iff_of_true rfl (le_refl (0 : F))
  · next hne =>
    dsimp only
    split
    · next htotal => exact iff_of_true rfl htotal
    · next htotal =>
      refine iff_of_false (fun hnone => hne ?_) htotal
      rw [Option.or_eq_none_iff] at hnone
      exact List.getLast?_eq_none_iff.mp hnone.2

/-- What is picked is one of the captures. -/
theorem mem_of_weightedPick {weight : α → F} {files : List α} {draw : F → F} {f : α}
    (h : weightedPick weight files draw = some f) : f ∈ files := by
  rw [weightedPick] at h
  split at h
  · cases h
  · dsimp only at h
    split at h
    · cases h
    · rcases Option.or_eq_some_iff.mp h with hspin | ⟨-, hlast⟩
      · obtain ⟨w, hw⟩ := mem_of_spin hspin
        exact (List.of_mem_zip hw).1
      · exact List.mem_of_getLast? hlast

/-- **An excluded capture is not picked**, unless it is the last one and the draw was left over: a
rounding error at the very end of the range goes to the last capture, whatever its weight. -/
theorem weightedPick_spec (hround : RoundsMonotonically F) (weight : α → F) (files : List α)
    (draw : F → F) (hdraw : ∀ total, 0 < total → 0 ≤ draw total) (f : α)
    (hpick : weightedPick weight files draw = some f) :
    0 < weight f ∨
      spin (files.zip (pickWeights weight files))
        (draw ((pickWeights weight files).foldl (· + ·) 0)) = none ∧ files.getLast? = some f := by
  rw [weightedPick] at hpick
  split at hpick
  · cases hpick
  · dsimp only at hpick
    split at hpick
    · cases hpick
    · next htotal =>
      refine (Option.or_eq_some_iff.mp hpick).imp_left fun hspin => ?_
      obtain ⟨w, hmem, hpos⟩ := spin_pos hround (hdraw _ (not_le.mp htotal)) hspin
      rw [zip_pickWeights, List.mem_map] at hmem
      obtain ⟨f', -, heq⟩ := hmem
      cases heq
      exact (lt_max_iff.mp hpos).resolve_right (lt_irrefl 0)

end

/-! ## Exact numbers

Without rounding the weights cut the range of the draw into stretches, and the point lies in exactly
one of them. The loop finds it by taking the weights off one by one. The law of shares says which
points lead to a capture; how often they are drawn is the generator's part.
-/

section Exact

variable {F : Type} [AddCommGroup F] [LinearOrder F] [IsOrderedAddMonoid F] {α : Type}

/-- The loop picks the capture whose stretch of the weights the point is in. -/
theorem spin_iff {files : List α} {ws : List F} (hlength : files.length = ws.length)
    (hws : ∀ w ∈ ws, 0 ≤ w) {pick : F} (hpick : 0 ≤ pick) (f : α) :
    spin (files.zip ws) pick = some f ↔
      ∃ i, files[i]? = some f ∧ (ws.take i).sum ≤ pick ∧ pick < (ws.take (i + 1)).sum := by
  induction files generalizing ws pick with
  | nil => simp [spin]
  | cons g files ih =>
    cases ws with
    | nil => cases hlength
    | cons w ws =>
      have hrest : ∀ v ∈ ws, 0 ≤ v := fun v hv => hws v (List.mem_cons_of_mem w hv)
      rw [List.zip_cons_cons, spin]
      split
      · next hlt =>
        constructor
        · intro h
          obtain rfl := Option.some.inj h
          exact ⟨0, rfl, hpick, by simpa using hlt⟩
        · rintro ⟨i, hf, hle, -⟩
          cases i with
          | zero => exact hf
          | succ i =>
            -- the stretches of the others begin behind the first weight
            rw [List.take_succ_cons, List.sum_cons] at hle
            have hsum : 0 ≤ (ws.take i).sum :=
              List.sum_nonneg fun v hv => hrest v (List.mem_of_mem_take hv)
            exact absurd (lt_of_lt_of_le hlt (le_add_of_nonneg_right hsum)) (not_lt.mpr hle)
      · next hge =>
        rw [ih (Nat.succ.inj hlength) hrest (sub_nonneg.mpr (not_lt.mp hge))]
        constructor
        · rintro ⟨i, hf, hle, hlt⟩
          refine ⟨i + 1, hf, ?_, ?_⟩
          · rw [List.take_succ_cons, List.sum_cons]
            exact le_sub_iff_add_le'.mp hle
          · rw [List.take_succ_cons, List.sum_cons]
            exact sub_lt_iff_lt_add'.mp hlt
        · rintro ⟨i, hf, hle, hlt⟩
          cases i with
          | zero => exact absurd (by simpa using hlt) hge
          | succ i =>
            rw [List.take_succ_cons, List.sum_cons] at hle hlt
            exact ⟨i, hf, le_sub_iff_add_le'.mpr hle, sub_lt_iff_lt_add'.mpr hlt⟩

/-- Only a point behind all weights is left over. -/
theorem sum_le_of_spin {files : List α} {ws : List F} (hlength : files.length = ws.length)
    {pick : F} (hpick : 0 ≤ pick) (h : spin (files.zip ws) pick = none) : ws.sum ≤ pick := by
  induction files generalizing ws pick with
  | nil =>
    cases ws with
    | nil => exact hpick
    | cons w ws => cases hlength
  | cons g files ih =>
    cases ws with
    | nil => cases hlength
    | cons w ws =>
      rw [List.zip_cons_cons, spin] at h
      split at h
      · cases h
      · next hge =>
        have hrest := ih (Nat.succ.inj hlength) (sub_nonneg.mpr (not_lt.mp hge)) h
        rw [List.sum_cons]
        exact le_sub_iff_add_le'.mp hrest

/-- **A capture is picked for its share of the weights**: for the points of a stretch as long as its
weight, and of no other. Weights are of an ordered group here, so the stretches add up without
rounding. -/
theorem weightedPick_share (weight : α → F) (files : List α) (draw : F → F)
    (hdraw : ∀ total, 0 < total → 0 ≤ draw total ∧ draw total < total)
    (hsome : ∃ f ∈ files, 0 < weight f) (f : α) :
    weightedPick weight files draw = some f ↔ ∃ i, files[i]? = some f ∧
      ((pickWeights weight files).take i).sum ≤ draw (pickWeights weight files).sum ∧
      draw (pickWeights weight files).sum <
        ((pickWeights weight files).take i).sum + max (weight f) 0 := by
  have hws : ∀ w ∈ pickWeights weight files, (0 : F) ≤ w := by
    intro w hw
    obtain ⟨g, -, rfl⟩ := mem_pickWeights.mp hw
    exact le_max_right _ _
  have hlength : files.length = (pickWeights weight files).length := (List.length_map _).symm
  have htotal : (pickWeights weight files).foldl (· + ·) 0 = (pickWeights weight files).sum :=
    List.sum_eq_foldl.symm
  have hpos : 0 < (pickWeights weight files).sum := by
    obtain ⟨g, hg, hweight⟩ := hsome
    exact lt_of_lt_of_le (lt_max_of_lt_left hweight)
      (List.single_le_sum hws _ (mem_pickWeights.mpr ⟨g, hg, rfl⟩))
  obtain ⟨hlo, hhi⟩ := hdraw _ hpos
  have hstretch : ∀ i, files[i]? = some f → ((pickWeights weight files).take (i + 1)).sum =
      ((pickWeights weight files).take i).sum + max (weight f) 0 := by
    intro i hf
    obtain ⟨hi, hget⟩ := List.getElem?_eq_some_iff.mp hf
    rw [List.take_succ_eq_append_getElem (hlength ▸ hi), List.sum_append, List.sum_singleton]
    simp only [pickWeights, List.getElem_map, hget]
  have hpick : weightedPick weight files draw = some f ↔
      spin (files.zip (pickWeights weight files)) (draw (pickWeights weight files).sum) =
        some f := by
    have hne : files ≠ [] := by
      rintro rfl
      obtain ⟨g, hg, -⟩ := hsome
      cases hg
    rw [weightedPick, if_neg hne]
    dsimp only
    rw [htotal, if_neg (not_le.mpr hpos)]
    -- the point lies within the weights, so the loop picks
    cases hspin : spin (files.zip (pickWeights weight files))
        (draw (pickWeights weight files).sum) with
    | none => exact absurd (sum_le_of_spin hlength hlo hspin) (not_le.mpr hhi)
    | some g => rw [Option.some_or]
  rw [hpick, spin_iff hlength hws hlo]
  refine exists_congr fun i => and_congr_right fun hf => ?_
  rw [hstretch i hf]

end Exact

/-- Whole numbers round nowhere. -/
theorem roundsMonotonically_int : RoundsMonotonically Int where
  sub_nonneg _ _ h := Int.sub_nonneg_of_le h
  le_add_left a b _ hb := by omega
  le_add_right a b ha _ := by omega
  zero_add_le a b ha hb := by omega

/-- The weights of three captures, the middle one excluded. -/
def threeWeights (name : String) : Int := if name = "b.pcap" then 0 else 3

theorem weightedPick_spec_three : weightedPick threeWeights ["a.pcap", "b.pcap", "c.pcap"]
      (fun total => total / 2) = some "c.pcap" ∧
    (0 < threeWeights "c.pcap" ∨
      spin (["a.pcap", "b.pcap", "c.pcap"].zip
        (pickWeights threeWeights ["a.pcap", "b.pcap", "c.pcap"]))
        ((pickWeights threeWeights ["a.pcap", "b.pcap", "c.pcap"]).foldl (· + ·) 0 / 2) = none ∧
          ["a.pcap", "b.pcap", "c.pcap"].getLast? = some "c.pcap") :=
  ⟨by decide, weightedPick_spec roundsMonotonically_int threeWeights _ (fun total => total / 2)
    (fun _ h => by omega) _ (by decide)⟩

theorem weightedPick_share_three :
    weightedPick threeWeights ["a.pcap", "b.pcap", "c.pcap"] (fun total => total / 2) =
      some "c.pcap" ↔ ∃ i, ["a.pcap", "b.pcap", "c.pcap"][i]? = some "c.pcap" ∧
        ((pickWeights threeWeights ["a.pcap", "b.pcap", "c.pcap"]).take i).sum ≤
          (pickWeights threeWeights ["a.pcap", "b.pcap", "c.pcap"]).sum / 2 ∧
        (pickWeights threeWeights ["a.pcap", "b.pcap", "c.pcap"]).sum / 2 <
          ((pickWeights threeWeights ["a.pcap", "b.pcap", "c.pcap"]).take i).sum +
            max (threeWeights "c.pcap") 0 :=
  weightedPick_share threeWeights _ (fun total => total / 2) (fun _ h => ⟨by omega, by omega⟩)
    ⟨"a.pcap", by decide, by decide⟩ _

end TurboLaser
