import Mathlib.Tactic.TypeStar

/-!
# Functions that remember their answers

`ask s k` answers a question `k` in state `s` and moves to a next state; `known s k` is the answer
the state has on record. `Remembers` says that an answer is put on record and that the record is
never changed. Then a whole run of questions is answered by one function, the one that its last
state has on record.

This is how consistency of a mapper is stated without talking about its state: there is a function
such that every rewrite along a run is that function, applied where the rewrite is made. The
function is found at the end of the run and is good for all of it, since records are only added:

- `Agrees known s f`: `f` gives every answer on record in `s`;
- `Agrees.answer`: an `f` that agrees with the state behind a question gives its answer;
- `Agrees.mono`: an `f` that agrees with a later state agrees with an earlier one;
- `exists_agrees`: there always is such an `f`, whatever it says of questions never asked.
-/

namespace TurboLaser.Lib

variable {σ κ ν : Type*}

/-- Answers go on record, and stay. -/
structure Remembers (ask : σ → κ → ν × σ) (known : σ → κ → Option ν) : Prop where
  told : ∀ s k, known (ask s k).2 k = some (ask s k).1
  kept : ∀ s k k' v, known s k' = some v → known (ask s k).2 k' = some v

/-- All that `s` has on record, `s'` has on record. -/
def Extends (known : σ → κ → Option ν) (s s' : σ) : Prop :=
  ∀ k v, known s k = some v → known s' k = some v

/-- `f` gives every answer on record. -/
def Agrees (known : σ → κ → Option ν) (s : σ) (f : κ → ν) : Prop :=
  ∀ k v, known s k = some v → f k = v

variable {ask : σ → κ → ν × σ} {known : σ → κ → Option ν} {s s' s'' : σ} {f : κ → ν}

theorem Extends.refl (known : σ → κ → Option ν) (s : σ) : Extends known s s := fun _ _ h => h

theorem Extends.trans (h : Extends known s s') (h' : Extends known s' s'') :
    Extends known s s'' :=
  fun k v hk => h' k v (h k v hk)

theorem Remembers.extends (h : Remembers ask known) (s : σ) (k : κ) :
    Extends known s (ask s k).2 :=
  h.kept s k

/-- A function that gives all later answers gives all earlier ones. -/
theorem Agrees.mono (hf : Agrees known s' f) (h : Extends known s s') : Agrees known s f :=
  fun k v hk => hf k v (h k v hk)

/-- **One function answers.** -/
theorem Agrees.answer (h : Remembers ask known) {k : κ} (hf : Agrees known (ask s k).2 f) :
    (ask s k).1 = f k :=
  (hf k _ (h.told s k)).symm

/-- Every record can be extended to a function. -/
theorem exists_agrees [Inhabited ν] (known : σ → κ → Option ν) (s : σ) :
    ∃ f, Agrees known s f :=
  ⟨fun k => (known s k).getD default, fun _ _ hk => congrArg (fun o => Option.getD o default) hk⟩

end TurboLaser.Lib
