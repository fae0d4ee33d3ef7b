import Mathlib.Data.List.AList

/-!
# Tables of remembered results

A table remembers results under keys, and every key is stamped with the age of the world its result
was computed in. The world moves on to later ages; a key of an earlier age is never looked up again,
so only the entries of the present age need to be right.

This is the discipline of a cache whose keys carry a generation counter. It is sound when whatever a
result depends on is part of the key, or moves the counter. The library does not say what a right
result is: `right` is a relation between keys and values that the user gives, and that changes as
the world does.

- `Coherent now right table`: no entry is from the future, and those of the present age are right;
- `lookup_of_eraseAll`, `mem_eraseAll`: dropping keys drops nothing else;
- one rule for each thing that happens to a table: an entry is added (`Coherent.insert`) or dropped
  (`Coherent.erase`), the world changes within an age (`Coherent.congr`), or moves on to the next
  (`Coherent.advance`).

`Coherent.congr` is the rule with a condition: a change of the world that does not move the counter
must leave right what the table holds. A cache is unsound exactly where that is forgotten.
-/

namespace TurboLaser.Lib

variable {κ ν : Type*} [DecidableEq κ]

/-- A table of results. -/
abbrev Memo (κ ν : Type*) := AList fun _ : κ => ν

/-- Drop the listed keys. -/
def eraseAll (table : Memo κ ν) (keys : List κ) : Memo κ ν := keys.foldl (fun t k => t.erase k) table

/-- What is left was there. -/
theorem lookup_of_eraseAll {table : Memo κ ν} {keys : List κ} {k : κ} {v : ν}
    (h : (eraseAll table keys).lookup k = some v) : table.lookup k = some v := by
  induction keys generalizing table with
  | nil => exact h
  | cons k' keys ih =>
    have hrest : (table.erase k').lookup k = some v := ih h
    by_cases hk : k = k'
    · rw [hk, AList.lookup_erase] at hrest
      cases hrest
    · rwa [AList.lookup_erase_ne hk] at hrest

/-- What is not dropped is left. -/
theorem mem_eraseAll {table : Memo κ ν} {keys : List κ} {k : κ} (hk : k ∈ table)
    (hkept : k ∉ keys) : k ∈ eraseAll table keys := by
  induction keys generalizing table with
  | nil => exact hk
  | cons k' keys ih =>
    rw [List.mem_cons, not_or] at hkept
    exact ih (AList.mem_erase.mpr ⟨hkept.1, hk⟩) hkept.2

/-- **The entries of the present age are right.** -/
structure Coherent (stamp : κ → Nat) (now : Nat) (right : κ → ν → Prop) (table : Memo κ ν) :
    Prop where
  bounded : ∀ k ∈ table, stamp k ≤ now
  current : ∀ k v, table.lookup k = some v → stamp k = now → right k v

variable {stamp : κ → Nat} {now : Nat} {right right' : κ → ν → Prop} {table : Memo κ ν}

/-- An empty table owes nothing. -/
theorem Coherent.empty : Coherent stamp now right (∅ : Memo κ ν) :=
  ⟨fun k hk => absurd hk (AList.notMem_empty k), fun _ _ hlookup => (nomatch hlookup)⟩

/-- A right entry of the present age may be added. -/
theorem Coherent.insert (h : Coherent stamp now right table) {k : κ} {v : ν}
    (hstamp : stamp k ≤ now) (hright : stamp k = now → right k v) :
    Coherent stamp now right (table.insert k v) := by
  refine ⟨fun k' hk' => ?_, fun k' v' hlookup hnow => ?_⟩
  · obtain rfl | hold := AList.mem_insert table |>.mp hk'
    · exact hstamp
    · exact h.bounded k' hold
  · by_cases hk : k' = k
    · subst hk
      rw [AList.lookup_insert, Option.some_inj] at hlookup
      exact hlookup ▸ hright hnow
    · rw [AList.lookup_insert_ne hk] at hlookup
      exact h.current k' v' hlookup hnow

/-- Any entry may be dropped. -/
theorem Coherent.erase (h : Coherent stamp now right table) (k : κ) :
    Coherent stamp now right (table.erase k) := by
  refine ⟨fun k' hk' => h.bounded k' (AList.mem_erase.mp hk').2, fun k' v hlookup hnow => ?_⟩
  by_cases hk : k' = k
  · rw [hk, AList.lookup_erase] at hlookup
    cases hlookup
  · rw [AList.lookup_erase_ne hk] at hlookup
    exact h.current k' v hlookup hnow

/-- Any entries may be dropped. -/
theorem Coherent.eraseAll (h : Coherent stamp now right table) (keys : List κ) :
    Coherent stamp now right (eraseAll table keys) := by
  induction keys generalizing table with
  | nil => exact h
  | cons k keys ih => exact ih (h.erase k)

/-- The world may change so that what the table holds stays right. -/
theorem Coherent.congr (h : Coherent stamp now right table)
    (hright : ∀ k v, table.lookup k = some v → stamp k = now → right k v → right' k v) :
    Coherent stamp now right' table :=
  ⟨h.bounded, fun k v hlookup hnow => hright k v hlookup hnow (h.current k v hlookup hnow)⟩

/-- **A new age owes nothing to the old entries.** -/
theorem Coherent.advance (h : Coherent stamp now right table) {now' : Nat} (hlater : now < now') :
    Coherent stamp now' right' table :=
  ⟨fun k hk => Nat.le_trans (h.bounded k hk) (Nat.le_of_lt hlater), fun k _ hlookup hnow =>
    absurd hnow (Nat.ne_of_lt (Nat.lt_of_le_of_lt
      (h.bounded k (AList.lookup_isSome.mp (Option.isSome_of_mem hlookup))) hlater))⟩

end TurboLaser.Lib
