import Mathlib.Tactic.TypeStar

/-!
# Runs of a partial step function

A component takes inputs one after the other; `step s a` is its state after `a`, or `none` when it
does not come back. `runAll` is a whole run, and `EveryStep` says that a guard is met at every state
the run passes through.

The guard is a relation between the state and the next input, and not a predicate of inputs alone:
what a caller promises usually depends on what has happened so far. It is decidable when the guard
is, so a witness of a guarded run is found by evaluation. A run that does not come back meets any
guard from there on, which is right: nothing is claimed of it. The beginning of a run is a run, so
what holds at the end of every guarded run holds in every state of one.

- `runAll_induct`: **what every guarded step keeps holds at the end of a guarded run.** The
  invariant sees the inputs taken so far, so it may speak of them;
- `runAll_invariant`, `runAll_preserves`: the same for an invariant of the state, with and without a
  guard;
- `EveryStep.imp`, `EveryStep.and`: guards may be weakened and collected.
-/

namespace TurboLaser.Lib

variable {σ α : Type*}

/-- The inputs one after the other; `none` when a step does not come back. -/
def runAll (step : σ → α → Option σ) : σ → List α → Option σ
  | s, [] => some s
  | s, a :: as =>
    match step s a with
    | none => none
    | some s' => runAll step s' as

/-- The guard is met by every input at the state it is taken in. -/
def EveryStep (step : σ → α → Option σ) (guard : σ → α → Prop) : σ → List α → Prop
  | _, [] => True
  | s, a :: as => guard s a ∧ ∀ s', step s a = some s' → EveryStep step guard s' as

instance EveryStep.decidable (step : σ → α → Option σ) (guard : σ → α → Prop)
    [∀ s a, Decidable (guard s a)] : ∀ s as, Decidable (EveryStep step guard s as)
  | _, [] => .isTrue trivial
  | s, a :: as =>
    haveI : Decidable (∀ s', step s a = some s' → EveryStep step guard s' as) :=
      match step s a with
      | none => .isTrue nofun
      | some s' =>
        haveI := EveryStep.decidable step guard s' as
        decidable_of_iff (EveryStep step guard s' as)
          ⟨fun hrest _ hs => Option.some.inj hs ▸ hrest, fun hrest => hrest s' rfl⟩
    inferInstanceAs (Decidable (_ ∧ _))

variable {step : σ → α → Option σ} {guard guard' : σ → α → Prop}

/-- One step, and the run from there. -/
theorem runAll_cons {s s' : σ} {a : α} (as : List α) (h : step s a = some s') :
    runAll step s (a :: as) = runAll step s' as := by
  rw [runAll, h]

/-- A run may be followed in two pieces. -/
theorem runAll_append (s : σ) (as as' : List α) :
    runAll step s (as ++ as') = (runAll step s as).bind fun s' => runAll step s' as' := by
  induction as generalizing s with
  | nil => rfl
  | cons a as ih =>
    rw [List.cons_append, runAll, runAll]
    cases step s a with
    | none => rfl
    | some s' => exact ih s'

/-- **The run rule.** The invariant sees the inputs taken so far. -/
theorem runAll_induct {P : List α → σ → Prop}
    (hstep : ∀ done s a s', P done s → guard s a → step s a = some s' → P (done ++ [a]) s')
    {done as : List α} {s s' : σ} (hinit : P done s) (hguard : EveryStep step guard s as)
    (hrun : runAll step s as = some s') : P (done ++ as) s' := by
  induction as generalizing s done with
  | nil =>
    cases hrun
    rwa [List.append_nil]
  | cons a as ih =>
    obtain ⟨ha, hrest⟩ := hguard
    rw [runAll] at hrun
    split at hrun
    · cases hrun
    · next s₁ hs₁ =>
      have := ih (hstep done s a s₁ hinit ha hs₁) (hrest s₁ hs₁) hrun
      rwa [List.append_assoc] at this

/-- The run rule for an invariant of the state alone. -/
theorem runAll_invariant {P : σ → Prop}
    (hstep : ∀ s a s', P s → guard s a → step s a = some s' → P s') {as : List α} {s s' : σ}
    (hinit : P s) (hguard : EveryStep step guard s as) (hrun : runAll step s as = some s') :
    P s' :=
  @runAll_induct _ _ step guard (fun _ => P) (fun _ s a s' => hstep s a s') [] as s s' hinit
    hguard hrun

/-- The run rule for what every step keeps, guarded or not. -/
theorem runAll_preserves {P : σ → Prop} (hstep : ∀ s a s', P s → step s a = some s' → P s')
    {as : List α} {s s' : σ} (hinit : P s) (hrun : runAll step s as = some s') : P s' := by
  induction as generalizing s with
  | nil => exact Option.some.inj hrun ▸ hinit
  | cons a as ih =>
    rw [runAll] at hrun
    split at hrun
    · cases hrun
    · next s₁ hs₁ => exact ih (hstep s a s₁ hinit hs₁) hrun

/-- A guard that every input meets in every state is met by every run. -/
theorem everyStep_of_forall {as : List α} (h : ∀ s, ∀ a ∈ as, guard s a) (s : σ) :
    EveryStep step guard s as := by
  induction as generalizing s with
  | nil => exact trivial
  | cons a as ih =>
    exact ⟨h s a List.mem_cons_self,
      fun _ _ => ih (fun s a' ha' => h s a' (List.mem_cons_of_mem _ ha')) _⟩

/-- A guard may be weakened. -/
theorem EveryStep.imp (h : ∀ s a, guard s a → guard' s a) {as : List α} {s : σ}
    (has : EveryStep step guard s as) : EveryStep step guard' s as := by
  induction as generalizing s with
  | nil => exact trivial
  | cons a as ih => exact ⟨h s a has.1, fun s' hs' => ih (has.2 s' hs')⟩

/-- Two guards met by a run are met together. -/
theorem EveryStep.and {as : List α} {s : σ} (h : EveryStep step guard s as)
    (h' : EveryStep step guard' s as) :
    EveryStep step (fun s a => guard s a ∧ guard' s a) s as := by
  induction as generalizing s with
  | nil => exact trivial
  | cons a as ih => exact ⟨⟨h.1, h'.1⟩, fun s' hs' => ih (h.2 s' hs') (h'.2 s' hs')⟩

end TurboLaser.Lib
