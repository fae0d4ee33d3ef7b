import Mathlib.Tactic.TypeStar

/-!
# Traces of a labelled transition relation

`step s a s'` says that from `s` the label `a` may be shown, and `s'` is then reached. A trace is
what is shown on the way.

Where `Lib.Runs` has a program that is fed inputs and may fail, a trace belongs to a program that
produces something: the labels are its outputs, and the statements are about the outputs, in their
order. A trace is extended at its end, so that an induction over it meets the last label with
everything before it, which is what a statement about the past of a label needs.

- `Trace.append`, `Trace.split`: traces compose, and come apart anywhere;
- `Trace.last`, `Trace.of_mem`: the step that showed a label, with the state it was shown in;
- `Trace.invariant`: what every step keeps is kept;
- `Trace.pairwise`: **the rule of the labels**: what is remembered of every label relates it to
  every later one. `Q a s` is the memory at `s` of a label `a` that was shown. It has to hold when
  the label is shown, to be kept by every later step, and to relate the label to the next one; then
  all labels are related in their order. A clock that never goes back, a counter that grows, or a
  name that is used up are such memories.
-/

namespace TurboLaser.Lib

variable {σ α : Type*}

/-- The labels shown between two states. -/
inductive Trace (step : σ → α → σ → Prop) (s : σ) : List α → σ → Prop
  | nil : Trace step s [] s
  | snoc {as a s' s''} (h : Trace step s as s') (hstep : step s' a s'') :
      Trace step s (as ++ [a]) s''

namespace Trace

variable {step : σ → α → σ → Prop} {s s' s'' : σ} {as bs : List α} {a : α}

/-- One step is a trace. -/
theorem single (h : step s a s') : Trace step s [a] s' := snoc nil h

/-- Traces compose. -/
theorem append (h : Trace step s as s') (h' : Trace step s' bs s'') :
    Trace step s (as ++ bs) s'' := by
  induction h' with
  | nil => rwa [List.append_nil]
  | snoc _ hstep ih =>
    rw [← List.append_assoc]
    exact ih.snoc hstep

/-- A trace comes apart after any of its labels. -/
theorem split (h : Trace step s (as ++ bs) s'') :
    ∃ s', Trace step s as s' ∧ Trace step s' bs s'' := by
  generalize hcs : as ++ bs = cs at h
  induction h generalizing bs with
  | nil =>
    obtain ⟨rfl, rfl⟩ := List.append_eq_nil_iff.mp hcs
    exact ⟨s, nil, nil⟩
  | @snoc cs c s₁ s₂ h hstep ih =>
    rcases List.eq_nil_or_concat bs with rfl | ⟨bs, b, rfl⟩
    · rw [List.append_nil] at hcs
      subst hcs
      exact ⟨s₂, h.snoc hstep, nil⟩
    · rw [List.concat_eq_append, ← List.append_assoc] at hcs
      obtain ⟨hcs, hb⟩ := List.append_inj' hcs rfl
      obtain ⟨s', hleft, hright⟩ := ih hcs
      obtain rfl := List.head_eq_of_cons_eq hb
      refine ⟨s', hleft, ?_⟩
      rw [List.concat_eq_append]
      exact hright.snoc hstep

/-- The last label of a trace, with the step that shows it. -/
theorem last (h : Trace step s (as ++ [a]) s'') : ∃ s', Trace step s as s' ∧ step s' a s'' := by
  generalize hcs : as ++ [a] = cs at h
  cases h with
  | nil => exact absurd hcs (List.append_ne_nil_of_right_ne_nil _ (List.cons_ne_nil _ _))
  | @snoc cs c s₁ _ h hstep =>
    obtain ⟨rfl, hb⟩ := List.append_inj' hcs rfl
    obtain rfl := List.head_eq_of_cons_eq hb
    exact ⟨s₁, h, hstep⟩

/-- Where nothing is shown nothing happened. -/
theorem eq_of_nil (h : Trace step s [] s') : s' = s := by
  generalize hcs : ([] : List α) = cs at h
  cases h with
  | nil => rfl
  | snoc h hstep => exact absurd hcs.symm (List.append_ne_nil_of_right_ne_nil _ (List.cons_ne_nil _ _))

/-- Every label is shown by a step. -/
theorem of_mem (h : Trace step s as s') (ha : a ∈ as) :
    ∃ before s₁ s₂, Trace step s before s₁ ∧ step s₁ a s₂ := by
  obtain ⟨before, behind, rfl⟩ := List.append_of_mem ha
  rw [← List.singleton_append, ← List.append_assoc] at h
  obtain ⟨s₂, hleft, -⟩ := h.split
  obtain ⟨s₁, hbefore, hstep⟩ := hleft.last
  exact ⟨before, s₁, s₂, hbefore, hstep⟩

/-- From a state without a step nothing is shown. -/
theorem eq_nil (hstuck : ∀ a s', ¬ step s a s') (h : Trace step s as s') : as = [] ∧ s' = s := by
  induction h with
  | nil => exact ⟨rfl, rfl⟩
  | snoc _ hstep ih =>
    rw [ih.2] at hstep
    exact absurd hstep (hstuck _ _)

/-- What every step keeps is kept. -/
theorem invariant {P : σ → Prop} (hkeep : ∀ s a s', P s → step s a s' → P s')
    (hstart : P s) (h : Trace step s as s') : P s' := by
  induction h with
  | nil => exact hstart
  | snoc _ hstep ih => exact hkeep _ _ _ ih hstep

/-- **The rule of the labels.** `Q a s` is what is remembered at `s` of a label that was shown: it
holds when the label is shown, every later step keeps it, and it relates the label to the next. -/
theorem pairwise {Q : α → σ → Prop} {R : α → α → Prop}
    (hshow : ∀ s a s', step s a s' → Q a s')
    (hkeep : ∀ a s b s', Q a s → step s b s' → Q a s')
    (hrel : ∀ a s b s', Q a s → step s b s' → R a b) (h : Trace step s as s') :
    as.Pairwise R ∧ ∀ a ∈ as, Q a s' := by
  induction h with
  | nil => exact ⟨List.Pairwise.nil, fun a ha => absurd ha List.not_mem_nil⟩
  | @snoc as b s₁ s₂ h hstep ih =>
    constructor
    · refine List.pairwise_append.mpr ⟨ih.1, List.pairwise_singleton _ _, fun a ha c hc => ?_⟩
      obtain rfl := List.mem_singleton.mp hc
      exact hrel a s₁ c s₂ (ih.2 a ha) hstep
    · intro a ha
      rcases List.mem_append.mp ha with ha | ha
      · exact hkeep a s₁ b s₂ (ih.2 a ha) hstep
      · obtain rfl := List.mem_singleton.mp ha
        exact hshow s₁ a s₂ hstep

end Trace

end TurboLaser.Lib
