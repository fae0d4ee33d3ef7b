import Mathlib.Data.List.Basic

/-!
# Entries under keys

A map kept as the list of its entries, in the order they came in. Keys are compared by an
equivalence, which need not be equality: keys of a document format may be equal as values and
different as texts.

That is how ordered maps of serialization libraries behave, and the order is part of what they hold:
it is the order in which a document is written out again. So the list itself is the model, not the
function it stands for, and equality of two maps is equality of their lists. Lookups find the first
entry; `DistinctKeys` says that there is no other.

- `upsert`: change the entry under a key where it stands, or add one at the end;
- `lookup_upsert`: **only that key is touched**, and the keys that are the same as it;
- `mem_upsert`: where an entry of the result comes from, so that what holds of all entries before
  holds of all entries after;
- `DistinctKeys.upsert`: every key still stands once;
- `upsert_self`: **to change an entry to itself changes nothing**, not even the order, on which
  idempotence of a merge rests.
-/

namespace TurboLaser.Lib

variable {κ α : Type} [BEq κ]

/-- Every key once. -/
def DistinctKeys (entries : List (κ × α)) : Prop :=
  entries.Pairwise fun a b => (a.1 == b.1) = false

/-- What is found is in an entry. -/
theorem mem_of_lookup {k : κ} {entries : List (κ × α)} {v : α} (h : entries.lookup k = some v) :
    ∃ e ∈ entries, e.2 = v := by
  induction entries with
  | nil => cases h
  | cons e entries ih =>
    rw [List.lookup_cons] at h
    cases hk : k == e.1 with
    | true =>
      rw [hk] at h
      exact ⟨e, List.mem_cons_self, Option.some_inj.mp h⟩
    | false =>
      rw [hk] at h
      obtain ⟨e', he', hv⟩ := ih h
      exact ⟨e', List.mem_cons_of_mem _ he', hv⟩

/-- Change the value under a key where it stands, or add an entry with a fresh value at the end. -/
def upsert (change : α → α) (fresh : α) (k : κ) : List (κ × α) → List (κ × α)
  | [] => [(k, fresh)]
  | (k', v) :: entries =>
    if k == k' then (k', change v) :: entries else (k', v) :: upsert change fresh k entries

/-- **To change an entry to itself changes nothing.** -/
theorem upsert_self {change : α → α} {fresh : α} {k : κ} {entries : List (κ × α)} {v : α}
    (hv : entries.lookup k = some v) (hself : change v = v) :
    upsert change fresh k entries = entries := by
  induction entries with
  | nil => cases hv
  | cons e entries ih =>
    rw [List.lookup_cons] at hv
    rw [upsert]
    cases hk : k == e.1 with
    | true =>
      rw [hk] at hv
      obtain rfl := Option.some_inj.mp hv
      rw [if_pos rfl, hself]
    | false =>
      rw [hk] at hv
      rw [if_neg (by decide), ih hv]

/-- An entry stood there before, was changed, or is the new one. -/
theorem mem_upsert {change : α → α} {fresh : α} {k : κ} {entries : List (κ × α)} {e : κ × α}
    (h : e ∈ upsert change fresh k entries) :
    e ∈ entries ∨ (∃ e' ∈ entries, e = (e'.1, change e'.2)) ∨
      (e = (k, fresh) ∧ ∀ e' ∈ entries, (k == e'.1) = false) := by
  induction entries with
  | nil => exact .inr (.inr ⟨List.mem_singleton.mp h, nofun⟩)
  | cons e' entries ih =>
    rw [upsert] at h
    cases hk : k == e'.1 with
    | true =>
      rw [hk, if_pos rfl] at h
      rcases List.mem_cons.mp h with rfl | h
      · exact .inr (.inl ⟨e', List.mem_cons_self, rfl⟩)
      · exact .inl (List.mem_cons_of_mem _ h)
    | false =>
      rw [hk, if_neg (by decide)] at h
      rcases List.mem_cons.mp h with rfl | h
      · exact .inl List.mem_cons_self
      · rcases ih h with hold | ⟨e'', he'', rfl⟩ | ⟨rfl, hnew⟩
        · exact .inl (List.mem_cons_of_mem _ hold)
        · exact .inr (.inl ⟨e'', List.mem_cons_of_mem _ he'', rfl⟩)
        · exact .inr (.inr ⟨rfl, List.forall_mem_cons.mpr ⟨hk, hnew⟩⟩)

variable [EquivBEq κ]

/-- The same is found under keys that are the same. -/
theorem lookup_congr {k k' : κ} (hk : (k == k') = true) (entries : List (κ × α)) :
    entries.lookup k = entries.lookup k' := by
  induction entries with
  | nil => rfl
  | cons e entries ih => rw [List.lookup_cons, List.lookup_cons, BEq.congr_left hk, ih]

/-- **Only the key is touched.** -/
theorem lookup_upsert (change : α → α) (fresh : α) (k k' : κ) (entries : List (κ × α)) :
    (upsert change fresh k entries).lookup k' =
      if k' == k then some (((entries.lookup k).map change).getD fresh)
      else entries.lookup k' := by
  induction entries with
  | nil =>
    rw [upsert, List.lookup_cons]
    cases k' == k with
    | true => rfl
    | false => rfl
  | cons e entries ih =>
    rw [upsert, List.lookup_cons, List.lookup_cons]
    -- the first entry with the key is the one that is changed, and the one that is found
    cases hk : k == e.1 with
    | true =>
      rw [if_pos rfl, List.lookup_cons, BEq.congr_right hk]
      cases k' == e.1 with
      | true => rfl
      | false => rfl
    | false =>
      rw [if_neg (by decide), List.lookup_cons, ih]
      cases hk' : k' == e.1 with
      | true =>
        have hne : (k' == k) = false := by
          rw [BEq.congr_left hk', BEq.comm]
          exact hk
        rw [hne]
        rfl
      | false => rfl

/-- A key that an entry stands under is not found before it. -/
theorem lookup_of_distinctKeys {entries : List (κ × α)} (h : DistinctKeys entries) {e : κ × α}
    (he : e ∈ entries) : entries.lookup e.1 = some e.2 := by
  induction entries with
  | nil => cases he
  | cons e' entries ih =>
    obtain ⟨hfirst, hrest⟩ := List.pairwise_cons.mp h
    rw [List.lookup_cons]
    rcases List.mem_cons.mp he with rfl | he
    · rw [BEq.rfl]
    · rw [BEq.comm, hfirst e he]
      exact ih hrest he

/-- What the first of the entries stands under, the others do not. -/
theorem lookup_tail_of_distinctKeys {entries : List (κ × α)} {e : κ × α}
    (h : DistinctKeys (e :: entries)) {k : κ} (hk : (k == e.1) = true) :
    entries.lookup k = none := by
  rw [List.lookup_eq_none_iff]
  intro p hp
  have hne : (k == p.1) = false := by
    rw [BEq.congr_left hk]
    exact (List.pairwise_cons.mp h).1 p hp
  rw [bne, hne]
  rfl

/-- **Every key still stands once.** -/
theorem DistinctKeys.upsert {entries : List (κ × α)} (h : DistinctKeys entries)
    (change : α → α) (fresh : α) (k : κ) : DistinctKeys (upsert change fresh k entries) := by
  induction entries with
  | nil => exact List.pairwise_singleton _ _
  | cons e entries ih =>
    obtain ⟨hfirst, hrest⟩ := List.pairwise_cons.mp h
    rw [Lib.upsert]
    cases hk : k == e.1 with
    | true =>
      rw [if_pos rfl]
      exact List.pairwise_cons.mpr ⟨hfirst, hrest⟩
    | false =>
      rw [if_neg (by decide)]
      refine List.pairwise_cons.mpr ⟨fun e' he' => ?_, ih hrest⟩
      rcases mem_upsert he' with hold | ⟨e'', he'', rfl⟩ | ⟨rfl, -⟩
      · exact hfirst e' hold
      · exact hfirst e'' he''
      · rw [BEq.comm]
        exact hk

end TurboLaser.Lib
