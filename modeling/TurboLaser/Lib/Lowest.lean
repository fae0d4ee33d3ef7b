import Mathlib.Data.List.Sort

/-!
# The lowest few

A list sorted by a key, cut after its first `k` entries, or numbered in its order.

Programs sort to be independent of the order in which entries come out of a hash map, and then take
the first few, or give them numbers. What they take is determined by the keys when the keys are
distinct, and it is easier to say without the sort: an entry is taken if few enough others have a
smaller key. The sort is the insertion sort of Mathlib, which is stable, as the library sort is.

- `mem_take_sorted_iff`: **an entry is among the first `k` exactly when fewer than `k` entries have
  a smaller key**, so what is picked does not depend on the order the entries came in;
- `modifyEach_sorted`: **its number is the number of entries with a smaller key**, so each entry
  that is changed in this order is changed by itself, as if there were no loop;
- `pairwise_insertionSort_stable`: what compares both ways keeps the order it came in. It is what
  decides ties, and where the order of arrival is that of a hash map, ties are decided by chance.
-/

namespace TurboLaser.Lib

variable {α : Type}

/-- Sorted by a key, the first come first among equals. -/
def sortByKey (key : α → Nat) (xs : List α) : List α :=
  xs.insertionSort fun a b => key a ≤ key b

/-- Sorting only rearranges. -/
theorem perm_sortByKey (key : α → Nat) (xs : List α) : (sortByKey key xs).Perm xs :=
  List.perm_insertionSort _ _

/-- The keys come in order. -/
theorem pairwise_sortByKey (key : α → Nat) (xs : List α) :
    (sortByKey key xs).Pairwise fun a b => key a ≤ key b := by
  have : Std.Total fun a b : α => key a ≤ key b := ⟨fun a b => Nat.le_total _ _⟩
  have : IsTrans α fun a b => key a ≤ key b := ⟨fun _ _ _ => Nat.le_trans⟩
  exact List.pairwise_insertionSort _ xs

/-- An entry is put in front of those it is not above, so a tie keeps the newcomer in front: `s`
relates it to all that were there. -/
theorem pairwise_orderedInsert {r s : α → α → Prop} [DecidableRel r] [Std.Total r] [IsTrans α r]
    {x : α} {ys : List α} (hys : ys.Pairwise fun a b => r a b ∧ (r b a → s a b))
    (hx : ∀ y ∈ ys, s x y) :
    (ys.orderedInsert r x).Pairwise fun a b => r a b ∧ (r b a → s a b) := by
  induction ys with
  | nil => exact List.pairwise_singleton _ _
  | cons y ys ih =>
    obtain ⟨hy, htail⟩ := List.pairwise_cons.mp hys
    rw [List.orderedInsert_cons]
    split
    · next hxy =>
      refine List.pairwise_cons.mpr ⟨fun z hz => ⟨?_, fun _ => hx z hz⟩, hys⟩
      rcases List.mem_cons.mp hz with rfl | hz
      · exact hxy
      · exact IsTrans.trans _ _ _ hxy (hy z hz).1
    · next hxy =>
      refine List.pairwise_cons.mpr ⟨fun z hz => ?_, ih htail fun z hz => hx z (.tail _ hz)⟩
      rcases List.mem_orderedInsert r |>.mp hz with rfl | hz
      · exact ⟨(total_of r y z).resolve_right hxy, fun h => absurd h hxy⟩
      · exact hy z hz

/-- **Sorting is stable**: what compares both ways keeps the order it came in. -/
theorem pairwise_insertionSort_stable {r s : α → α → Prop} [DecidableRel r] [Std.Total r]
    [IsTrans α r] {xs : List α} (hxs : xs.Pairwise s) :
    (xs.insertionSort r).Pairwise fun a b => r a b ∧ (r b a → s a b) := by
  induction xs with
  | nil => exact List.Pairwise.nil
  | cons x xs ih =>
    obtain ⟨hx, htail⟩ := List.pairwise_cons.mp hxs
    exact pairwise_orderedInsert (ih htail) fun y hy =>
      hx y ((List.mem_insertionSort r).mp hy)

/-- An entry of the sorted list stands behind the entries with a smaller key. -/
theorem sortByKey_split {key : α → Nat} {xs : List α} (h : (xs.map key).Nodup) {x : α}
    (hx : x ∈ xs) :
    ∃ pre post, sortByKey key xs = pre ++ x :: post ∧ (∀ y ∈ pre, key y < key x) ∧
      pre.length = xs.countP fun y => decide (key y < key x) := by
  have hperm := perm_sortByKey key xs
  have hsorted := pairwise_sortByKey key xs
  have hnodup : ((sortByKey key xs).map key).Nodup := (hperm.map key).nodup_iff.mpr h
  rw [← hperm.countP_eq]
  -- the sorted list around `x`: the entries of smaller key are those in front of it
  obtain ⟨pre, post, hsplit⟩ := List.append_of_mem (hperm.mem_iff.mpr hx)
  rw [hsplit] at hsorted hnodup ⊢
  rw [List.map_append, List.map_cons, List.nodup_append] at hnodup
  obtain ⟨-, hpost, hapart⟩ := hnodup
  rw [List.pairwise_append] at hsorted
  obtain ⟨-, htail, hcross⟩ := hsorted
  -- what is in front has a smaller key, and what is behind has not
  have hpre : ∀ y ∈ pre, key y < key x := fun y hy =>
    Nat.lt_of_le_of_ne (hcross y hy x List.mem_cons_self)
      (hapart _ (List.mem_map_of_mem hy) _ List.mem_cons_self)
  have hrest : ∀ y ∈ x :: post, ¬ key y < key x := by
    intro y hy
    rcases List.mem_cons.mp hy with rfl | hy
    · exact Nat.lt_irrefl _
    · exact Nat.not_lt.mpr ((List.pairwise_cons.mp htail).1 y hy)
  refine ⟨pre, post, rfl, hpre, ?_⟩
  rw [List.countP_append, List.countP_eq_length.mpr fun y hy => decide_eq_true (hpre y hy),
    List.countP_eq_zero.mpr fun y hy hlt => hrest y hy (of_decide_eq_true hlt), Nat.add_zero]

/-- **An entry is among the first `k` exactly when fewer than `k` have a smaller key**, where the
keys are distinct. -/
theorem mem_take_sorted_iff {key : α → Nat} {xs : List α} (h : (xs.map key).Nodup) {x : α}
    (hx : x ∈ xs) {k : Nat} :
    x ∈ (sortByKey key xs).take k ↔ xs.countP (fun y => decide (key y < key x)) < k := by
  obtain ⟨pre, post, hsplit, hpre, hcount⟩ := sortByKey_split h hx
  rw [hsplit, ← hcount]
  constructor
  · intro hmem
    by_contra hge
    rw [List.take_append_of_le_length (by omega)] at hmem
    exact Nat.lt_irrefl _ (hpre x (List.mem_of_mem_take hmem))
  · intro hlt
    obtain ⟨m, rfl⟩ : ∃ m, k = pre.length + (m + 1) := ⟨k - pre.length - 1, by omega⟩
    rw [List.take_length_add_append, List.take_succ_cons]
    exact List.mem_append_right _ List.mem_cons_self

/-! ## Numbered in order

A list is sorted by a key and its entries are changed in that order, each with the number of its
turn. The number of an entry is then the number of entries with a smaller key, which can be said
without sorting. Entries that are of another kind have no turn.
-/

/-- The number of an entry in the sorted list is the number of entries with a smaller key. -/
theorem getElem?_sortByKey {key : α → Nat} {xs : List α} (h : (xs.map key).Nodup) {x : α}
    (hx : x ∈ xs) :
    (sortByKey key xs)[xs.countP fun y => decide (key y < key x)]? = some x := by
  obtain ⟨pre, post, hsplit, -, hcount⟩ := sortByKey_split h hx
  rw [hsplit, ← hcount, List.getElem?_append_right (Nat.le_refl _), Nat.sub_self]
  rfl

/-- The entries at some positions, changed one after the other, each with the number of its turn. -/
def modifyEach (f : Nat → α → α) (turns : List (Nat × Nat)) (xs : List α) : List α :=
  turns.foldl (fun xs e => xs.modify e.1 (f e.2)) xs

/-- An entry without a turn is left alone. -/
theorem getElem?_modifyEach_of_notMem {f : Nat → α → α} {order : List Nat} {k : Nat}
    (h : k ∉ order) (i : Nat) (xs : List α) :
    (modifyEach f (order.zipIdx i) xs)[k]? = xs[k]? := by
  induction order generalizing i xs with
  | nil => rfl
  | cons p order ih =>
    rw [List.mem_cons, not_or] at h
    show (modifyEach f (order.zipIdx (i + 1)) (xs.modify p (f i)))[k]? = _
    rw [ih h.2, List.getElem?_modify_ne (f i) xs (Ne.symm h.1)]

/-- An entry is changed at its turn, with the number of the turn. -/
theorem getElem?_modifyEach {f : Nat → α → α} {order : List Nat} (hnodup : order.Nodup) {k j : Nat}
    (h : order[j]? = some k) (i : Nat) (xs : List α) :
    (modifyEach f (order.zipIdx i) xs)[k]? = xs[k]?.map (f (i + j)) := by
  induction order generalizing i j xs with
  | nil => cases h
  | cons p order ih =>
    obtain ⟨hfirst, hrest⟩ := List.nodup_cons.mp hnodup
    show (modifyEach f (order.zipIdx (i + 1)) (xs.modify p (f i)))[k]? = _
    cases j with
    | zero =>
      obtain rfl : p = k := Option.some.inj h
      rw [getElem?_modifyEach_of_notMem hfirst, List.getElem?_modify_eq]
      rfl
    | succ j =>
      rw [List.getElem?_cons_succ] at h
      have hne : p ≠ k := by
        rintro rfl
        exact hfirst (List.mem_of_getElem? h)
      rw [ih hrest h, List.getElem?_modify_ne (f i) xs hne, Nat.add_right_comm, Nat.add_assoc]

/-- **The entries of a kind, changed in the order of their keys, each with its number in it**: each
is changed with the number of its kind that have a smaller key. -/
theorem modifyEach_sorted {key : α → Nat} {p : α → Bool} {xs : List α}
    (h : ((xs.filter p).map key).Nodup) (f : Nat → α → α) :
    modifyEach f ((sortByKey (fun e => key e.1) (xs.zipIdx.filter fun e => p e.1)).map
        Prod.snd).zipIdx xs =
      xs.map fun x => if p x then f ((xs.filter p).countP fun y => decide (key y < key x)) x
        else x := by
  have hfst : (xs.zipIdx.filter fun e => p e.1).map Prod.fst = xs.filter p := by
    conv_rhs => rw [← List.zipIdx_map_fst 0 xs, List.filter_map]
    rfl
  have hperm := perm_sortByKey (fun e : α × Nat => key e.1) (xs.zipIdx.filter fun e => p e.1)
  have horder : ((sortByKey (fun e : α × Nat => key e.1)
      (xs.zipIdx.filter fun e => p e.1)).map Prod.snd).Nodup := by
    rw [(hperm.map Prod.snd).nodup_iff]
    refine (List.filter_sublist.map Prod.snd).nodup ?_
    rw [List.zipIdx_map_snd]
    exact List.nodup_range'
  -- position by position; one has a turn exactly when its entry is of the kind
  refine List.ext_getElem? fun k => ?_
  rw [List.getElem?_map]
  cases hx : xs[k]? with
  | none =>
    by_cases hk : k ∈ (sortByKey (fun e : α × Nat => key e.1)
        (xs.zipIdx.filter fun e => p e.1)).map Prod.snd
    · obtain ⟨j, hj⟩ := List.mem_iff_getElem?.mp hk
      rw [getElem?_modifyEach horder hj, hx]
      rfl
    · rw [getElem?_modifyEach_of_notMem hk, hx]
      rfl
  | some x =>
    have hmem : (x, k) ∈ xs.zipIdx := List.mk_mem_zipIdx_iff_getElem?.mpr hx
    by_cases hp : p x = true
    · have hsel : (x, k) ∈ xs.zipIdx.filter fun e => p e.1 := List.mem_filter.mpr ⟨hmem, hp⟩
      have hnodup : ((xs.zipIdx.filter fun e => p e.1).map fun e => key e.1).Nodup := by
        rwa [← hfst, List.map_map] at h
      -- an entry of the kind stands behind those with a smaller key
      have hplace := @getElem?_sortByKey _ (fun e : α × Nat => key e.1) _ hnodup _ hsel
      have hcount : (xs.zipIdx.filter fun e => p e.1).countP
          (fun e => decide (key e.1 < key x)) =
            (xs.filter p).countP fun y => decide (key y < key x) := by
        rw [← hfst, List.countP_map]
        rfl
      rw [hcount] at hplace
      have hnumber := congrArg (Option.map Prod.snd) hplace
      rw [← List.getElem?_map] at hnumber
      rw [getElem?_modifyEach horder hnumber, hx, Nat.zero_add]
      simp [hp]
    · have hk : k ∉ (sortByKey (fun e : α × Nat => key e.1)
          (xs.zipIdx.filter fun e => p e.1)).map Prod.snd := by
        intro hk
        obtain ⟨⟨y, j⟩, hy, rfl⟩ := List.mem_map.mp hk
        obtain ⟨hyx, hyp⟩ := List.mem_filter.mp (hperm.mem_iff.mp hy)
        rw [List.mk_mem_zipIdx_iff_getElem?.mp hyx] at hx
        exact hp (Option.some.inj hx ▸ hyp)
      rw [getElem?_modifyEach_of_notMem hk, hx]
      simp [hp]

end TurboLaser.Lib
