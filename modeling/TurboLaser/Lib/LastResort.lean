import Mathlib.Data.Finset.Card
import Mathlib.Data.List.Basic
import Mathlib.Logic.Relation

/-!
# Handing out slots, with a last resort

An allocator lists items. It hands out the slots of a finite family, which are apart from one
another, and tests a slot for being apart from everything listed. When no slot is free it falls back
on slot 0, and then only a check for duplicates stands in the way.

That last resort is a fault only if it is ever taken: slot 0 is handed out although something listed
overlaps it. Whether a run can come to that is decided by the list it starts from. If slot 0 is free
it will be handed out like the others and is a duplicate from then on; if it is listed, it is a
duplicate already; and otherwise every slot that is handed out takes one of the free ones away, so
it is a question of numbers whether the cap stops the allocator first. Both directions are proved,
so that the condition is exact:

- `Hands`: one allocation, below a cap; `Stuck`: no allocation is possible;
- `Safe`: slot 0 is free or listed, or the cap comes before the free slots run out;
- `apart_of_safe`: **from a safe list every run keeps the items pairwise apart**;
- `not_apart_of_stuck`: **from a list that is not safe no run that gets stuck does**;
- `length_add_card_freeSlots`: from nothing, what is listed and what is free add up to the family,
  which is how far an allocator gets before it is stuck.
-/

namespace TurboLaser.Lib

open Relation

/-- A finite family of slots, apart from one another. -/
structure SlotFamily (β : Type*) where
  Apart : β → β → Prop
  symm : ∀ {a b}, Apart a b → Apart b a
  count : Nat
  slot : Nat → β
  count_pos : 0 < count
  apart_iff : ∀ {i j}, i < count → j < count → (Apart (slot i) (slot j) ↔ i ≠ j)

namespace SlotFamily

variable {β : Type*} (F : SlotFamily β) (cap : Nat)

/-- Slot `i` is apart from everything listed. -/
def Free (l : List β) (i : Nat) : Prop := ∀ b ∈ l, F.Apart (F.slot i) b

/-- **One allocation.** -/
inductive Hands : List β → List β → Prop
  | free {l i} (hroom : l.length < cap) (hi : i < F.count) (hfree : F.Free l i) :
      Hands l (l ++ [F.slot i])
  | lastResort {l} (hroom : l.length < cap) (hnone : ∀ i < F.count, ¬ F.Free l i)
      (hnew : F.slot 0 ∉ l) : Hands l (l ++ [F.slot 0])

/-- Nothing more can be handed out. -/
def Stuck (l : List β) : Prop :=
  cap ≤ l.length ∨ (∀ i < F.count, ¬ F.Free l i) ∧ F.slot 0 ∈ l

open Classical in
/-- The free slots. -/
noncomputable def freeSlots (l : List β) : Finset Nat := (Finset.range F.count).filter (F.Free l)

/-- The last resort is never taken for an item that meets another. -/
def Safe (l : List β) : Prop :=
  F.Free l 0 ∨ F.slot 0 ∈ l ∨ cap ≤ l.length + (F.freeSlots l).card

variable {F cap} {l l' : List β} {i : Nat}

theorem mem_freeSlots : i ∈ F.freeSlots l ↔ i < F.count ∧ F.Free l i := by
  classical
  rw [freeSlots, Finset.mem_filter, Finset.mem_range]

/-- A slot is free after an addition if it was free and is apart from what was added. -/
theorem free_append {b : β} :
    F.Free (l ++ [b]) i ↔ F.Free l i ∧ F.Apart (F.slot i) b := by
  constructor
  · intro h
    exact ⟨fun a ha => h a (List.mem_append_left _ ha),
      h b (List.mem_append_right _ (List.mem_singleton_self b))⟩
  · rintro ⟨h, hb⟩ a ha
    rcases List.mem_append.mp ha with ha | ha
    · exact h a ha
    · exact List.mem_singleton.mp ha ▸ hb

/-- A slot that is listed is not free. -/
theorem not_free_of_mem (hi : i < F.count) (h : F.slot i ∈ l) : ¬ F.Free l i :=
  fun hfree => (F.apart_iff hi hi).mp (hfree _ h) rfl

/-- Handing out a free slot takes it, and no other. -/
theorem card_freeSlots_append (hi : i < F.count) (hfree : F.Free l i) :
    (F.freeSlots (l ++ [F.slot i])).card + 1 = (F.freeSlots l).card := by
  have herase : F.freeSlots (l ++ [F.slot i]) = (F.freeSlots l).erase i := by
    ext j
    rw [Finset.mem_erase, mem_freeSlots, mem_freeSlots, free_append]
    constructor
    · rintro ⟨hj, hfree, hapart⟩
      exact ⟨(F.apart_iff hj hi).mp hapart, hj, hfree⟩
    · rintro ⟨hne, hj, hfree⟩
      exact ⟨hj, hfree, (F.apart_iff hj hi).mpr hne⟩
  rw [herase]
  exact Finset.card_erase_add_one (mem_freeSlots.mpr ⟨hi, hfree⟩)

/-- A free slot may be listed. -/
theorem pairwise_append_free (hl : l.Pairwise F.Apart) (hfree : F.Free l i) :
    (l ++ [F.slot i]).Pairwise F.Apart := by
  rw [List.pairwise_append]
  refine ⟨hl, List.pairwise_singleton _ _, fun a ha b hb => ?_⟩
  rw [List.mem_singleton.mp hb]
  exact F.symm (hfree a ha)

/-- A list that is stuck is the end of every run. -/
theorem Stuck.eq_of_run (hstuck : F.Stuck cap l) (h : ReflTransGen (F.Hands cap) l l') :
    l' = l := by
  induction h with
  | refl => rfl
  | tail _ hstep ih =>
    subst ih
    cases hstep with
    | free hroom hi hfree =>
      rcases hstuck with hfull | ⟨hnone, -⟩
      · exact absurd hroom (Nat.not_lt.mpr hfull)
      · exact absurd hfree (hnone _ hi)
    | lastResort hroom hnone hnew =>
      rcases hstuck with hfull | ⟨-, hlisted⟩
      · exact absurd hroom (Nat.not_lt.mpr hfull)
      · exact absurd hlisted hnew

/-! ## Safe lists -/

/-- **An allocation from a safe list hands out a free slot, and stays safe.** -/
theorem Hands.of_safe (h : F.Hands cap l l') (hsafe : F.Safe cap l) :
    F.Safe cap l' ∧ ∃ i < F.count, F.Free l i ∧ l' = l ++ [F.slot i] := by
  cases h with
  | free hroom hi hfree =>
    refine ⟨?_, _, hi, hfree, rfl⟩
    rcases hsafe with hzero | hlisted | hcap
    -- slot 0 was free: it is the one handed out, or it is apart from the one handed out
    · rename_i i
      rcases Nat.eq_zero_or_pos i with rfl | hpos
      · exact .inr (.inl (List.mem_append_right _ (List.mem_singleton_self _)))
      · exact .inl (free_append.mpr
          ⟨hzero, (F.apart_iff F.count_pos hi).mpr (Nat.ne_of_lt hpos)⟩)
    · exact .inr (.inl (List.mem_append_left _ hlisted))
    · right; right
      have hcard := card_freeSlots_append hi hfree
      rw [List.length_append, List.length_singleton]
      omega
  | lastResort hroom hnone hnew =>
    exfalso
    rcases hsafe with hzero | hlisted | hcap
    · exact hnone 0 F.count_pos hzero
    · exact hnew hlisted
    -- the cap would have come first: no slot is free, yet there is room
    · have hempty : F.freeSlots l = ∅ :=
        Finset.eq_empty_of_forall_notMem fun i hi =>
          hnone i (mem_freeSlots.mp hi).1 (mem_freeSlots.mp hi).2
      rw [hempty, Finset.card_empty] at hcap
      omega

/-- **From a safe list every run keeps the items pairwise apart.** -/
theorem apart_of_safe (h : ReflTransGen (F.Hands cap) l l') (hsafe : F.Safe cap l)
    (hl : l.Pairwise F.Apart) : l'.Pairwise F.Apart := by
  have hboth : F.Safe cap l' ∧ l'.Pairwise F.Apart := by
    induction h with
    | refl => exact ⟨hsafe, hl⟩
    | tail _ hstep ih =>
      obtain ⟨hsafe', i, -, hfree, rfl⟩ := hstep.of_safe ih.1
      exact ⟨hsafe', pairwise_append_free ih.2 hfree⟩
  exact hboth.2

/-! ## Lists handed out from nothing -/

/-- Nothing is listed, so slot 0 is free. -/
theorem safe_nil : F.Safe cap [] := .inl nofun

/-- A run adds slots only. -/
theorem slot_of_run (h : ReflTransGen (F.Hands cap) l l') {b : β} (hb : b ∈ l') :
    b ∈ l ∨ ∃ i < F.count, b = F.slot i := by
  induction h with
  | refl => exact .inl hb
  | tail _ hstep ih =>
    cases hstep with
    | free hroom hi hfree =>
      rcases List.mem_append.mp hb with hb | hb
      · exact ih hb
      · exact .inr ⟨_, hi, List.mem_singleton.mp hb⟩
    | lastResort hroom hnone hnew =>
      rcases List.mem_append.mp hb with hb | hb
      · exact ih hb
      · exact .inr ⟨0, F.count_pos, List.mem_singleton.mp hb⟩

/-- A run keeps to the cap. -/
theorem length_le_cap (h : ReflTransGen (F.Hands cap) l l') (hl : l.length ≤ cap) :
    l'.length ≤ cap := by
  induction h with
  | refl => exact hl
  | tail _ hstep ih =>
    cases hstep <;> (rw [List.length_append, List.length_singleton]; omega)

/-- Of a list handed out from nothing, every item has taken a slot. -/
theorem length_add_card_freeSlots (h : ReflTransGen (F.Hands cap) [] l) :
    l.length + (F.freeSlots l).card = F.count := by
  have hboth : F.Safe cap l ∧ l.length + (F.freeSlots l).card = F.count := by
    induction h with
    | refl =>
      have hall : F.freeSlots [] = Finset.range F.count := by
        ext i
        rw [mem_freeSlots, Finset.mem_range]
        exact and_iff_left nofun
      refine ⟨safe_nil, ?_⟩
      rw [hall, Finset.card_range, List.length_nil, Nat.zero_add]
    | tail _ hstep ih =>
      obtain ⟨hsafe, i, hi, hfree, rfl⟩ := hstep.of_safe ih.1
      have hcard := card_freeSlots_append hi hfree
      refine ⟨hsafe, ?_⟩
      rw [List.length_append, List.length_singleton]
      omega
  exact hboth.2

/-- It gets stuck at the cap, or when every slot is taken. -/
theorem Stuck.length_ge (hstuck : F.Stuck cap l) (h : ReflTransGen (F.Hands cap) [] l) :
    cap ≤ l.length ∨ F.count ≤ l.length := by
  rcases hstuck with hfull | ⟨hnone, -⟩
  · exact .inl hfull
  · have hempty : F.freeSlots l = ∅ :=
      Finset.eq_empty_of_forall_notMem fun i hi =>
        hnone i (mem_freeSlots.mp hi).1 (mem_freeSlots.mp hi).2
    have hcount := length_add_card_freeSlots h
    rw [hempty, Finset.card_empty] at hcount
    exact .inr (by omega)

/-- The items of a list handed out from nothing are apart. -/
theorem apart_from_nil (h : ReflTransGen (F.Hands cap) [] l) : l.Pairwise F.Apart :=
  apart_of_safe h safe_nil .nil

/-! ## Lists that are not safe -/

/-- Where slot 0 meets what is listed, a run whose items stay apart has taken a free slot for
every item, and never slot 0. -/
theorem length_add_card_of_apart (h : ReflTransGen (F.Hands cap) l l') (hzero : ¬ F.Free l 0)
    (hnew : F.slot 0 ∉ l) (hapart : l'.Pairwise F.Apart) :
    ¬ F.Free l' 0 ∧ F.slot 0 ∉ l' ∧
      l'.length + (F.freeSlots l').card = l.length + (F.freeSlots l).card := by
  induction h with
  | refl => exact ⟨hzero, hnew, rfl⟩
  | @tail m _ _ hstep ih =>
    cases hstep with
    | @free i hroom hi hfree =>
      obtain ⟨hzero', hnew', hcount⟩ := ih (List.pairwise_append.mp hapart).1
      refine ⟨fun h => hzero' (free_append.mp h).1, fun hin => ?_, ?_⟩
      · rcases List.mem_append.mp hin with hin | hin
        · exact hnew' hin
        · -- slot `i` was free, and slot 0 was not
          have hsame : F.slot 0 = F.slot i := List.mem_singleton.mp hin
          refine hzero' fun b hb => ?_
          rw [hsame]
          exact hfree b hb
      · have hcard := card_freeSlots_append hi hfree
        rw [List.length_append, List.length_singleton]
        omega
    | lastResort hroom hnone hnew' =>
      -- slot 0 meets an item that is listed
      exact absurd (fun b hb => F.symm ((List.pairwise_append.mp hapart).2.2 b hb _
        (List.mem_singleton_self _))) (hnone 0 F.count_pos)

/-- **A run that gets stuck from a list that is not safe has listed two items that meet.** -/
theorem not_apart_of_stuck (h : ReflTransGen (F.Hands cap) l l') (hstuck : F.Stuck cap l')
    (hsafe : ¬ F.Safe cap l) : ¬ l'.Pairwise F.Apart := by
  intro hapart
  unfold Safe at hsafe
  push Not at hsafe
  obtain ⟨hzero, hnew, hcap⟩ := hsafe
  obtain ⟨-, hnew', hcount⟩ := length_add_card_of_apart h hzero hnew hapart
  rcases hstuck with hfull | ⟨-, hlisted⟩
  · omega
  · exact hnew' hlisted

end SlotFamily

end TurboLaser.Lib
