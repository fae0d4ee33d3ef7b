import Mathlib.Tactic.TypeStar

/-!
# Loops that scan a buffer

`while offset + k <= buffer.len() { …; offset += … }`: each turn may edit the state but not its
size, and moves the offset forward. That such a loop ends is not a property of one run of it but of
its turn, and it is the same argument every time: the distance to the end shrinks.

A `Scan` is the turn of a loop together with the proofs that it moves forward, that it starts inside
the buffer and that it keeps the size. So `Scan.run` is a total function, by recursion on the
distance, without fuel and without a bound that somebody has to choose; and a caller who builds a
`Scan` has proved termination by building it. Two rules are all that is needed of it:

- `Scan.run_of_some` / `Scan.run_of_none`: one turn, or the end. A loop over a buffer whose contents
  are known is followed with these;
- `Scan.run_invariant`: what a turn keeps holds at the end. A loop over an unknown buffer is handled
  with this.
-/

namespace TurboLaser.Lib

/-- One turn of a scanning loop; `none` leaves it. -/
structure Scan (σ : Type*) where
  step : σ → Nat → Option (σ × Nat)
  size : σ → Nat
  forward : ∀ {s o s' o'}, step s o = some (s', o') → o < o'
  inside : ∀ {s o s' o'}, step s o = some (s', o') → o < size s
  size_eq : ∀ {s o s' o'}, step s o = some (s', o') → size s' = size s

variable {σ : Type*}

/-- The loop from offset `o` on. -/
def Scan.run (scan : Scan σ) (s : σ) (o : Nat) : σ :=
  match _h : scan.step s o with
  | none => s
  | some (s', o') => scan.run s' o'
termination_by scan.size s - o
decreasing_by
  have hforward := scan.forward _h
  have hinside := scan.inside _h
  have hsize := scan.size_eq _h
  omega

variable {scan : Scan σ} {s s' : σ} {o o' : Nat}

/-- The loop is left. -/
theorem Scan.run_of_none (h : scan.step s o = none) : scan.run s o = s := by
  rw [Scan.run]
  split
  · rfl
  · next h' => cases h.symm.trans h'

/-- One turn is taken. -/
theorem Scan.run_of_some (h : scan.step s o = some (s', o')) :
    scan.run s o = scan.run s' o' := by
  rw [Scan.run]
  split
  · next h' => cases h.symm.trans h'
  · next h' =>
    cases h.symm.trans h'
    rfl

/-- **The rule of the loop.** -/
theorem Scan.run_invariant (scan : Scan σ) {s : σ} {o : Nat} {P : σ → Nat → Prop}
    (hstep : ∀ s o s' o', P s o → scan.step s o = some (s', o') → P s' o') (h : P s o) :
    ∃ o', P (scan.run s o) o' := by
  induction s, o using Scan.run.induct scan with
  | case1 s o hnone =>
    rw [run_of_none hnone]
    exact ⟨o, h⟩
  | case2 s o s' o' hsome ih =>
    rw [run_of_some hsome]
    exact ih (hstep s o s' o' h hsome)

end TurboLaser.Lib
