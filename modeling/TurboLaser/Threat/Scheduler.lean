import TurboLaser.Proto.Remap

/-!
# The promotion scheduler (threat/mod.rs)

At most one promotion a day: a due time is an anchor plus an interval, and no interval is below the
floor, whatever is configured. The arithmetic is on 64-bit words; `none` stands for a sum or a
difference that does not fit.

The source clamps the configured bounds when it makes a scheduler and draws between them; sums
saturate. So the two things that could go wrong are a configuration that makes the range of the draw
empty, and a sum near the end of the clock's range. Neither does: the structure carries the floor
and the order of its bounds as fields, so a scheduler with other bounds cannot be built, and
saturation is shown to fall on the safe side.

- `ThreatScheduler`: the bounds it draws between, which carry the floor;
- `schedule_spec`: **drawing a due time never overflows**, and the time is an interval away;
- `floor_le_of_due`: **who is due is past the anchor and the floor.** It is all that the daemon's
  floor needs to know of the scheduler.
-/

namespace TurboLaser

open Lib

/-- `THREAT_FLOOR_SECS`. -/
def threatFloorSecs : UInt64 := 86400

/-! ## Words -/

/-- Addition; `none` when the sum does not fit. -/
def checkedAdd (a b : UInt64) : Option UInt64 :=
  if a.toNat + b.toNat < 2 ^ 64 then some (a + b) else none

/-- Subtraction; `none` below zero. -/
def checkedSub (a b : UInt64) : Option UInt64 := if b ≤ a then some (a - b) else none

/-- `u64::MAX`. -/
def u64Max : UInt64 := 0xFFFFFFFFFFFFFFFF

/-- `saturating_add`. -/
def saturatingAdd (a b : UInt64) : UInt64 := (checkedAdd a b).getD u64Max

theorem toNat_checkedAdd {a b c : UInt64} (h : checkedAdd a b = some c) :
    c.toNat = a.toNat + b.toNat := by
  unfold checkedAdd at h
  split at h
  · next hfits =>
    cases h
    rw [UInt64.toNat_add, Nat.mod_eq_of_lt hfits]
  · cases h

/-- A saturating sum is the sum, or the last word. -/
theorem saturatingAdd_cases (a b : UInt64) :
    (saturatingAdd a b).toNat = a.toNat + b.toNat ∨ saturatingAdd a b = u64Max := by
  unfold saturatingAdd
  cases h : checkedAdd a b with
  | some c => exact Or.inl (toNat_checkedAdd h)
  | none => exact Or.inr rfl

/-! ## The scheduler -/

/-- `ThreatScheduler`. The bounds are set once, when it is built, and the floor is below
them. -/
structure ThreatScheduler where
  min : UInt64
  max : UInt64
  nextDue : UInt64
  floor_le : threatFloorSecs ≤ min
  min_le : min ≤ max
deriving DecidableEq

namespace ThreatScheduler

/-- A draw from `0..=span`; no draw is made for a span of zero. -/
def drawInterval (span : UInt64) (rng : Rng) : UInt64 × Rng :=
  if span = 0 then (0, rng)
  else
    let (draw, rng) := rng.genRange (span.toNat + 1)
    (UInt64.ofNat draw, rng)

/-- `schedule`. -/
def schedule (s : ThreatScheduler) (anchor : UInt64) (rng : Rng) :
    Option (ThreatScheduler × Rng) :=
  match checkedSub s.max s.min with
  | none => none
  | some span =>
    let (draw, rng) := drawInterval span rng
    match checkedAdd s.min draw with
    | none => none
    | some interval => some ({ s with nextDue := saturatingAdd anchor interval }, rng)

/-- The bounds of `ThreatScheduler::new`: an interval below the floor is raised to it. -/
def bounds (minInterval maxInterval : UInt64) : ThreatScheduler :=
  let min := if threatFloorSecs ≤ minInterval then minInterval else threatFloorSecs
  { min
    max := if min ≤ maxInterval then maxInterval else min
    nextDue := 0
    floor_le := by
      dsimp only [min]
      split
      · assumption
      · exact UInt64.le_refl _
    min_le := by
      split
      · assumption
      · exact UInt64.le_refl _ }

/-- `ThreatScheduler::new`: the first due time is an interval after the last promotion, or
after now. -/
def new (minInterval maxInterval : UInt64) (lastThreat : Option UInt64) (now : UInt64)
    (rng : Rng) : Option (ThreatScheduler × Rng) :=
  (bounds minInterval maxInterval).schedule (lastThreat.getD now) rng

/-- `due`. -/
def due (s : ThreatScheduler) (now : UInt64) : Bool := decide (s.nextDue ≤ now)

/-- `reschedule`. -/
def reschedule (s : ThreatScheduler) (now : UInt64) (rng : Rng) : Option (ThreatScheduler × Rng) :=
  s.schedule now rng

/-! ## What a schedule is -/

/-- The scheduler is not due before a day has passed since `anchor`, or the clock is at its
last value. -/
def Waits (s : ThreatScheduler) (anchor : UInt64) : Prop :=
  anchor.toNat + threatFloorSecs.toNat ≤ s.nextDue.toNat ∨ s.nextDue = u64Max

theorem toNat_drawInterval_le (span : UInt64) (rng : Rng) :
    (drawInterval span rng).1.toNat ≤ span.toNat := by
  unfold drawInterval
  split
  · exact Nat.zero_le _
  · show (UInt64.ofNat (rng.draw rng.pos % (span.toNat + 1))).toNat ≤ span.toNat
    have hdraw : rng.draw rng.pos % (span.toNat + 1) < span.toNat + 1 :=
      Nat.mod_lt _ (Nat.succ_pos _)
    rw [UInt64.toNat_ofNat']
    exact (Nat.mod_le _ _).trans (Nat.le_of_lt_succ hdraw)

/-- **Scheduling never overflows**, and leaves a scheduler that waits. -/
theorem schedule_spec (s : ThreatScheduler) (anchor : UInt64) (rng : Rng) :
    ∃ s' rng', s.schedule anchor rng = some (s', rng') ∧ s'.Waits anchor := by
  have hfloor := UInt64.le_iff_toNat_le.mp s.floor_le
  have hmin := UInt64.le_iff_toNat_le.mp s.min_le
  have hmax := s.max.toNat_lt
  -- the interval is between the bounds, so it is a word
  have hspan : (s.max - s.min).toNat = s.max.toNat - s.min.toNat :=
    UInt64.toNat_sub_of_le _ _ s.min_le
  have hdraw := toNat_drawInterval_le (s.max - s.min) rng
  have hfits : s.min.toNat + (drawInterval (s.max - s.min) rng).1.toNat < 2 ^ 64 := by omega
  have hadd : checkedAdd s.min (drawInterval (s.max - s.min) rng).1 =
      some (s.min + (drawInterval (s.max - s.min) rng).1) := if_pos hfits
  have hinterval := toNat_checkedAdd hadd
  unfold schedule
  rw [show checkedSub s.max s.min = some (s.max - s.min) from if_pos s.min_le]
  dsimp only
  rw [hadd]
  refine ⟨_, _, rfl, ?_⟩
  rcases saturatingAdd_cases anchor (s.min + (drawInterval (s.max - s.min) rng).1) with hsum | hlast
  · refine Or.inl ?_
    show _ ≤ (saturatingAdd anchor _).toNat
    rw [hsum, hinterval]
    omega
  · exact Or.inr hlast

/-- What is scheduled waits. -/
theorem waits_of_schedule {s s' : ThreatScheduler} {anchor : UInt64} {rng rng' : Rng}
    (h : s.schedule anchor rng = some (s', rng')) : s'.Waits anchor := by
  obtain ⟨s₁, rng₁, hsome, hwaits⟩ := schedule_spec s anchor rng
  obtain ⟨rfl, -⟩ := Prod.mk.inj (Option.some.inj (h.symm.trans hsome))
  exact hwaits

/-- A schedule takes a draw, unless the bounds leave no choice. -/
theorem rng_of_schedule {s s' : ThreatScheduler} {anchor : UInt64} {rng rng' : Rng}
    (h : s.schedule anchor rng = some (s', rng')) :
    rng' = if s.max = s.min then rng else rng.advance := by
  have hspan : s.max - s.min = 0 ↔ s.max = s.min := by
    have hmin := UInt64.le_iff_toNat_le.mp s.min_le
    rw [← UInt64.toNat_inj, ← UInt64.toNat_inj, UInt64.toNat_sub_of_le _ _ s.min_le]
    show s.max.toNat - s.min.toNat = 0 ↔ _
    omega
  unfold schedule at h
  rw [show checkedSub s.max s.min = some (s.max - s.min) from if_pos s.min_le] at h
  dsimp only at h
  split at h
  · cases h
  · cases h
    unfold drawInterval
    by_cases hsame : s.max = s.min
    · rw [if_pos (hspan.mpr hsame), if_pos hsame]
    · rw [if_neg (mt hspan.mp hsame), if_neg hsame]
      rfl

/-- Waiting since later is waiting since earlier. -/
theorem Waits.mono {s : ThreatScheduler} {anchor anchor' : UInt64} (h : s.Waits anchor')
    (hle : anchor ≤ anchor') : s.Waits anchor := by
  have hle := UInt64.le_iff_toNat_le.mp hle
  exact h.imp_left fun hday => by omega

/-- **A scheduler that waits is due a day later at the earliest**, as long as the clock is below
its last value. -/
theorem Waits.floor_le_of_due {s : ThreatScheduler} {anchor now : UInt64} (h : s.Waits anchor)
    (hdue : s.due now = true) (hclock : now.toNat < 2 ^ 63) :
    anchor.toNat + threatFloorSecs.toNat ≤ now.toNat := by
  have hnext : s.nextDue.toNat ≤ now.toNat := UInt64.le_iff_toNat_le.mp (of_decide_eq_true hdue)
  rcases h with hday | hlast
  · omega
  · have hnat : s.nextDue.toNat = 2 ^ 64 - 1 := by
      rw [hlast]
      rfl
    omega

end ThreatScheduler

end TurboLaser
