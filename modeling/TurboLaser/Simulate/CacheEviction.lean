import Mathlib.Algebra.Order.BigOperators.Group.List
import Mathlib.Data.List.FinRange
import TurboLaser.Lib.Eviction
import TurboLaser.Lib.Lowest
import TurboLaser.Threat.Scheduler

/-!
# Eviction from the remap cache (simulate/engine.rs)

When the cache outgrows its budget its oldest files are removed, but never the one just written.
`plan_evictions` decides which; `evict_remap_cache` lists the directory, removes them and returns
the size of the rest. Arithmetic on sizes is checked: `none` is where the source panics.

The loop subtracts what it evicts from a running total. To say that it evicts no more than needed,
one compares it with a plan: a front part of the candidates, oldest first, cut where the rest first
fits (`evictLoop_eq`). The kept file may be anywhere in that order, also in front, and alone it may
be over the budget.

Removals on disk can fail, and a file whose size cannot be read is in no plan. Both are arguments:
`EvictScan` follows the directory entry by entry, and a removal that fails leaves the total as it
was.

- `exists_evictionPlan`: **the plan** is a prefix of the oldest-first order without the kept entry,
  after it the rest fits or is the kept entry alone, and no eviction in it was unnecessary;
- `evictRemapCache_spec`: what is returned is what the directory holds afterwards, whichever
  removals fail;
- `evictions_policy`: both, for every cache.
-/

namespace TurboLaser

open Lib

/-! ## The plan -/

section Plan

variable {τ : Type} [LinearOrder τ]

/-- `order`: the indices of the entries, by their times; a stable sort. -/
def oldestFirst (entries : List (UInt64 × τ)) : List (Fin entries.length) :=
  (List.finRange entries.length).insertionSort fun i j => (entries.get i).2 ≤ (entries.get j).2

/-- The loop of `plan_evictions`. -/
def evictLoop (entries : List (UInt64 × τ)) (budget : UInt64) (keepIdx : Nat) :
    List (Fin entries.length) → UInt64 → Option (List (Fin entries.length))
  | [], _ => some []
  | i :: order, remaining =>
    if remaining ≤ budget then some []
    else if i.val = keepIdx then evictLoop entries budget keepIdx order remaining
    else
      (checkedSub remaining (entries.get i).1).bind fun remaining =>
        (evictLoop entries budget keepIdx order remaining).map fun evict => i :: evict

/-- `plan_evictions`. -/
def planEvictions (entries : List (UInt64 × τ)) (total budget : UInt64) (keepIdx : Nat) :
    Option (List Nat) :=
  if total ≤ budget then some []
  else
    (evictLoop entries budget keepIdx (oldestFirst entries) total).map fun evict =>
      evict.map Fin.val

/-! ## What a plan is for -/

/-- The order of all indices by time, and by index where times are equal. -/
structure OldestFirst (entries : List (UInt64 × τ)) (order : List Nat) : Prop where
  all : order.Perm (List.range entries.length)
  sorted : order.Pairwise fun i j => ∃ a ∈ entries[i]?, ∃ b ∈ entries[j]?,
    a.2 < b.2 ∨ (a.2 = b.2 ∧ i < j)

/-- The size of an entry. -/
def sizeAt (entries : List (UInt64 × τ)) (i : Nat) : Nat :=
  ((entries[i]?).map fun e => e.1.toNat).getD 0

/-- The size of the entries that are left when some are evicted. -/
def leftSize (entries : List (UInt64 × τ)) (evicted : List Nat) : Nat :=
  (((List.range entries.length).filter fun i => decide (i ∉ evicted)).map (sizeAt entries)).sum

/-- **A plan that evicts the oldest entries, none too many, and not the kept one.** -/
structure EvictionPlan (entries : List (UInt64 × τ)) (budget : UInt64) (keepIdx : Nat)
    (evicted : List Nat) : Prop where
  keeps : keepIdx ∉ evicted
  valid : ∀ i ∈ evicted, i < entries.length
  nodup : evicted.Nodup
  oldest : ∃ order, OldestFirst entries order ∧
    evicted <+: order.filter fun i => decide (i ≠ keepIdx)
  fits : leftSize entries evicted ≤ budget.toNat ∨
    ∀ i < entries.length, i ∉ evicted → i = keepIdx
  needed : ∀ before last, evicted = before ++ [last] → budget.toNat < leftSize entries before

/-! ## The order -/

variable {entries : List (UInt64 × τ)}

theorem perm_oldestFirst (entries : List (UInt64 × τ)) :
    ((oldestFirst entries).map Fin.val).Perm (List.range entries.length) := by
  rw [← List.map_coe_finRange_eq_range]
  exact (List.perm_insertionSort _ _).map _

theorem oldestFirst_spec (entries : List (UInt64 × τ)) :
    OldestFirst entries ((oldestFirst entries).map Fin.val) := by
  refine ⟨perm_oldestFirst entries, List.pairwise_map.mpr ?_⟩
  have : Std.Total fun i j : Fin entries.length => (entries.get i).2 ≤ (entries.get j).2 :=
    ⟨fun i j => le_total _ _⟩
  have : IsTrans (Fin entries.length) fun i j => (entries.get i).2 ≤ (entries.get j).2 :=
    ⟨fun _ _ _ => le_trans⟩
  have hstable := pairwise_insertionSort_stable
    (r := fun i j : Fin entries.length => (entries.get i).2 ≤ (entries.get j).2)
    (List.pairwise_lt_finRange entries.length)
  refine hstable.imp ?_
  rintro i j ⟨hle, htie⟩
  refine ⟨entries.get i, List.getElem?_eq_getElem i.isLt, entries.get j,
    List.getElem?_eq_getElem j.isLt, ?_⟩
  rcases lt_or_eq_of_le hle with hlt | heq
  · exact .inl hlt
  · exact .inr ⟨heq, htie heq.ge⟩

/-! ## Sizes -/

omit [LinearOrder τ] in
theorem sizeAt_val (i : Fin entries.length) : sizeAt entries i.val = (entries.get i).1.toNat := by
  rw [sizeAt, List.getElem?_eq_getElem i.isLt]
  rfl

omit [LinearOrder τ] in
theorem map_sizeAt_range (entries : List (UInt64 × τ)) :
    (List.range entries.length).map (sizeAt entries) = entries.map fun e => e.1.toNat := by
  refine List.ext_getElem (by simp) fun i h₁ h₂ => ?_
  rw [List.length_map, List.length_range] at h₁
  rw [List.getElem_map, List.getElem_map, List.getElem_range, sizeAt, List.getElem?_eq_getElem h₁]
  rfl

omit [LinearOrder τ] in
/-- What is evicted and what is left is everything. -/
theorem sum_add_leftSize {evicted : List Nat} (hnodup : evicted.Nodup)
    (hvalid : ∀ i ∈ evicted, i < entries.length) :
    (evicted.map (sizeAt entries)).sum + leftSize entries evicted =
      (entries.map fun e => e.1.toNat).sum := by
  have hevicted : evicted.Perm ((List.range entries.length).filter fun i => decide (i ∈ evicted)) :=
    (List.perm_ext_iff_of_nodup hnodup (List.nodup_range.filter _)).mpr fun i => by
      rw [List.mem_filter, List.mem_range, decide_eq_true_iff]
      exact ⟨fun hi => ⟨hvalid i hi, hi⟩, And.right⟩
  have hleft : (fun i => !decide (i ∈ evicted)) = fun i => decide (i ∉ evicted) :=
    funext fun i => decide_not.symm
  have hsplit := List.filter_append_perm (fun i => decide (i ∈ evicted))
    (List.range entries.length)
  rw [hleft] at hsplit
  rw [leftSize, (hevicted.map _).sum_eq, ← List.sum_append, ← List.map_append,
    (hsplit.map _).sum_eq, map_sizeAt_range]

/-! ## The loop

The policy is stated without a loop: a beginning of the candidates, the shortest after which the
rest fits the budget. The loop subtracts sizes as it goes, and never below zero, since the sizes add
up to the total. The entry that is kept is passed over wherever it stands in the order.
-/

omit [LinearOrder τ] in
/-- **The loop is the plan over the order without the kept entry**, and never goes below zero. -/
theorem evictLoop_eq {budget : UInt64} {keepIdx : Nat} {order : List (Fin entries.length)}
    {remaining : UInt64}
    (henough : ((order.filter fun i => decide (i.val ≠ keepIdx)).map fun i =>
      (entries.get i).1.toNat).sum ≤ remaining.toNat) :
    evictLoop entries budget keepIdx order remaining =
      some (evictUntil (fun i => (entries.get i).1.toNat) budget.toNat
        (order.filter fun i => decide (i.val ≠ keepIdx)) remaining.toNat) := by
  induction order generalizing remaining with
  | nil => rfl
  | cons i order ih =>
    rw [evictLoop]
    by_cases hfits : remaining ≤ budget
    · rw [if_pos hfits, evictUntil_of_le (UInt64.le_iff_toNat_le.mp hfits)]
    · rw [if_neg hfits]
      by_cases hkeep : i.val = keepIdx
      · have hskip : ((i :: order).filter fun i => decide (i.val ≠ keepIdx)) =
            order.filter fun i => decide (i.val ≠ keepIdx) :=
          List.filter_cons_of_neg (by simpa using hkeep)
        rw [hskip] at henough ⊢
        rw [if_pos hkeep]
        exact ih henough
      · have hdrop : ((i :: order).filter fun i => decide (i.val ≠ keepIdx)) =
            i :: order.filter fun i => decide (i.val ≠ keepIdx) :=
          List.filter_cons_of_pos (by simpa using hkeep)
        rw [hdrop, List.map_cons, List.sum_cons] at henough
        -- what remains is at least the sum of what can still be evicted, so the check never fails
        have hle : (entries.get i).1 ≤ remaining := UInt64.le_iff_toNat_le.mpr (by omega)
        have hsub := UInt64.toNat_sub_of_le remaining _ hle
        have hlt : budget.toNat < remaining.toNat :=
          Nat.not_le.mp fun h => hfits (UInt64.le_iff_toNat_le.mpr h)
        rw [if_neg hkeep, checkedSub, if_pos hle, Option.bind_some, ih (by omega), hdrop,
          evictUntil_of_lt hlt, hsub]
        rfl

section Policy

variable {budget : UInt64} {keepIdx total : Nat} {order : List (Fin entries.length)}
  (horder : OldestFirst entries (order.map Fin.val))
  (htotal : (entries.map fun e => e.1.toNat).sum = total)

include horder

theorem OldestFirst.nodup_candidates :
    ((order.filter fun i => decide (i.val ≠ keepIdx)).map Fin.val).Nodup :=
  (List.filter_sublist.map Fin.val).nodup (horder.all.nodup_iff.mpr List.nodup_range)

theorem OldestFirst.sum_candidates_le :
    ((order.filter fun i => decide (i.val ≠ keepIdx)).map fun i =>
      (entries.get i).1.toNat).sum ≤ (entries.map fun e => e.1.toNat).sum := by
  have hperm := horder.all.map (sizeAt entries)
  rw [List.map_map, map_sizeAt_range] at hperm
  have hsizes : order.map (sizeAt entries ∘ Fin.val) =
      order.map fun i => (entries.get i).1.toNat :=
    List.map_congr_left fun i _ => sizeAt_val i
  rw [← hperm.sum_eq, hsizes]
  exact (List.filter_sublist.map _).sum_le_sum fun _ _ => Nat.zero_le _

include htotal

/-- What is left when the first candidates are evicted. -/
theorem OldestFirst.leftSize_eq {part : List (Fin entries.length)}
    (hpart : part <+: order.filter fun i => decide (i.val ≠ keepIdx)) :
    leftSize entries (part.map Fin.val) =
      total - (part.map fun i => (entries.get i).1.toNat).sum := by
  have hvalid : ∀ i ∈ part.map Fin.val, i < entries.length := by
    intro i hi
    obtain ⟨j, -, rfl⟩ := List.mem_map.mp hi
    exact j.isLt
  have hsum := sum_add_leftSize ((hpart.map Fin.val).sublist.nodup horder.nodup_candidates) hvalid
  have hpointwise : part.map (sizeAt entries ∘ Fin.val) =
      part.map fun i => (entries.get i).1.toNat :=
    List.map_congr_left fun i _ => sizeAt_val i
  rw [List.map_map, hpointwise, htotal] at hsum
  omega

/-- **To evict the candidates in order, until the rest fits, is the policy.** -/
theorem OldestFirst.evictionPlan :
    EvictionPlan entries budget keepIdx
      ((evictUntil (fun i => (entries.get i).1.toNat) budget.toNat
        (order.filter fun i => decide (i.val ≠ keepIdx)) total).map Fin.val) := by
  have hcandidates : (order.filter fun i => decide (i.val ≠ keepIdx)).map Fin.val =
      (order.map Fin.val).filter fun i => decide (i ≠ keepIdx) := by
    rw [List.filter_map]
    rfl
  have hprefix : evictUntil (fun i => (entries.get i).1.toNat) budget.toNat
      (order.filter fun i => decide (i.val ≠ keepIdx)) total <+:
        order.filter fun i => decide (i.val ≠ keepIdx) :=
    evictUntil_prefix _ _
  have hevicted := hprefix.map Fin.val
  refine ⟨?_, ?_, hevicted.sublist.nodup horder.nodup_candidates, ⟨_, horder, ?_⟩, ?_, ?_⟩
  · intro hkeep
    rw [hcandidates] at hevicted
    exact of_decide_eq_true (List.mem_filter.mp (hevicted.subset hkeep)).2 rfl
  · intro i hi
    obtain ⟨j, -, rfl⟩ := List.mem_map.mp hi
    exact j.isLt
  · rwa [hcandidates] at hevicted
  · rcases @evictUntil_fits _ (fun i : Fin entries.length => (entries.get i).1.toNat)
      budget.toNat (order.filter fun i => decide (i.val ≠ keepIdx)) total with hfits | hall
    · rw [horder.leftSize_eq htotal hprefix]
      exact .inl hfits
    · -- every candidate is evicted, so nothing is left but the kept entry
      refine .inr fun i hi hleft => ?_
      by_contra hne
      refine hleft ?_
      rw [hall, hcandidates]
      exact List.mem_filter.mpr ⟨horder.all.mem_iff.mpr (List.mem_range.mpr hi),
        decide_eq_true hne⟩
  · intro before last hlast
    -- the indices are those of the candidates that `evictUntil` drops
    obtain ⟨dropped, rest, hplan, rfl, hone⟩ := List.map_eq_append_iff.mp hlast
    obtain ⟨last', rfl, -⟩ := List.map_eq_singleton_iff.mp hone
    rw [horder.leftSize_eq htotal ((hplan ▸ List.prefix_append _ _ : dropped <+: _).trans hprefix)]
    exact evictUntil_needed hplan

end Policy

/-- **The policy**: for entries that add up to the total, the plan exists and is as it should
be. -/
theorem exists_evictionPlan (entries : List (UInt64 × τ)) (total budget : UInt64) (keepIdx : Nat)
    (htotal : (entries.map fun e => e.1.toNat).sum = total.toNat) :
    ∃ evicted, planEvictions entries total budget keepIdx = some evicted ∧
      EvictionPlan entries budget keepIdx evicted := by
  have horder := oldestFirst_spec entries
  have hplan := @OldestFirst.evictionPlan _ _ _ budget keepIdx _ _ horder htotal
  unfold planEvictions
  by_cases hfits : total ≤ budget
  · rw [if_pos hfits]
    rw [evictUntil_of_le (UInt64.le_iff_toNat_le.mp hfits)] at hplan
    exact ⟨_, rfl, hplan⟩
  · rw [if_neg hfits, evictLoop_eq (htotal ▸ horder.sum_candidates_le)]
    exact ⟨_, rfl, hplan⟩

end Plan

/-! ## The directory -/

section Directory

variable {π τ : Type} [DecidableEq π]

/-- What `metadata` tells of a file. -/
structure Metadata (τ : Type) where
  isFile : Bool
  len : UInt64
  modified : Option τ

/-- An entry of a listed directory; its metadata may be unreadable. -/
structure DirEntry (π τ : Type) where
  path : π
  metadata : Option (Metadata τ)

/-- The metadata of a regular file. -/
def DirEntry.file (e : DirEntry π τ) : Option (Metadata τ) := e.metadata.filter Metadata.isFile

/-- `dir_total_bytes`: the size of the regular files, 0 if the directory is unreadable. -/
def dirTotalBytes (dir : Option (List (DirEntry π τ))) : Option UInt64 :=
  match dir with
  | none => some 0
  | some listing =>
    (listing.filterMap DirEntry.file).foldlM (fun total m => checkedAdd total m.len) 0

/-- What `evict_remap_cache` notes of a listed directory. -/
structure EvictScan (π τ : Type) where
  paths : List π
  sizes : List (UInt64 × τ)
  total : UInt64
  keepIdx : Nat

/-- One entry of the listing; anything but a regular file is passed over. -/
def EvictScan.note (epoch : τ) (keep : π) (scan : EvictScan π τ) (e : DirEntry π τ) :
    Option (EvictScan π τ) :=
  match e.file with
  | none => some scan
  | some m =>
    (checkedAdd scan.total m.len).map fun total =>
      { paths := scan.paths ++ [e.path]
        sizes := scan.sizes ++ [(m.len, m.modified.getD epoch)]
        total
        keepIdx := if e.path = keep then scan.paths.length else scan.keepIdx }

/-- The listing, read to its end; the index of a file that is not listed is `usize::MAX`. -/
def scanDir (epoch : τ) (keep : π) (listing : List (DirEntry π τ)) : Option (EvictScan π τ) :=
  listing.foldlM (EvictScan.note epoch keep) ⟨[], [], 0, 2 ^ 64 - 1⟩

/-- One removal, which may fail: the total, and the directory. -/
def EvictScan.remove (scan : EvictScan π τ) (removes : π → Bool)
    (st : UInt64 × List (DirEntry π τ)) (i : Nat) : Option (UInt64 × List (DirEntry π τ)) :=
  scan.paths[i]?.bind fun path =>
    if removes path then
      scan.sizes[i]?.bind fun size =>
        (checkedSub st.1 size.1).map fun total =>
          (total, st.2.filter fun e => decide (e.path ≠ path))
    else some st

/-- `evict_remap_cache`: the resulting total, and the directory. `removes` says which removals
succeed. -/
def evictRemapCache [LinearOrder τ] (epoch : τ) (removes : π → Bool)
    (dir : Option (List (DirEntry π τ))) (keep : π) (budget : UInt64) :
    Option (UInt64 × Option (List (DirEntry π τ))) :=
  match dir with
  | none => some (0, none)
  | some listing =>
    (scanDir epoch keep listing).bind fun scan =>
      (planEvictions scan.sizes scan.total budget scan.keepIdx).bind fun evict =>
        (evict.foldlM (scan.remove removes) (scan.total, listing)).map fun st => (st.1, some st.2)

/-! ## What a directory holds -/

/-- The size of the regular files of a listing. -/
def fileBytes (listing : List (DirEntry π τ)) : Nat :=
  ((listing.filterMap DirEntry.file).map fun m => m.len.toNat).sum

omit [DecidableEq π] in
theorem fileBytes_cons (e : DirEntry π τ) (listing : List (DirEntry π τ)) :
    fileBytes (e :: listing) = ((e.file.map fun m => m.len.toNat).getD 0) + fileBytes listing := by
  unfold fileBytes
  cases h : e.file with
  | none => rw [List.filterMap_cons_none h]; exact (Nat.zero_add _).symm
  | some m => rw [List.filterMap_cons_some h]; rfl

theorem checkedAdd_eq_some {a b c : UInt64} :
    checkedAdd a b = some c ↔ a.toNat + b.toNat = c.toNat := by
  constructor
  · exact fun h => (toNat_checkedAdd h).symm
  · intro h
    have hfits : a.toNat + b.toNat < 2 ^ 64 := h ▸ c.toNat_lt
    rw [checkedAdd, if_pos hfits]
    refine congrArg some (UInt64.toNat_inj.mp ?_)
    rw [UInt64.toNat_add, Nat.mod_eq_of_lt hfits, h]

/-- A checked sum is the sum, if that fits. -/
theorem foldlM_checkedAdd {α : Type} {size : α → UInt64} {xs : List α} {acc total : UInt64} :
    xs.foldlM (fun total x => checkedAdd total (size x)) acc = some total ↔
      acc.toNat + (xs.map fun x => (size x).toNat).sum = total.toNat := by
  induction xs generalizing acc with
  | nil =>
    rw [List.foldlM_nil, List.map_nil, List.sum_nil, Nat.add_zero]
    exact Option.some_inj.trans UInt64.toNat_inj.symm
  | cons x xs ih =>
    rw [List.foldlM_cons, List.map_cons, List.sum_cons]
    show Option.bind _ _ = _ ↔ _
    rw [Option.bind_eq_some_iff]
    constructor
    · rintro ⟨mid, hmid, hrest⟩
      have := checkedAdd_eq_some.mp hmid
      have := ih.mp hrest
      omega
    · intro h
      have hlt := total.toNat_lt
      have hmid : (UInt64.ofNat (acc.toNat + (size x).toNat)).toNat =
          acc.toNat + (size x).toNat := by
        rw [UInt64.toNat_ofNat', Nat.mod_eq_of_lt (by omega)]
      exact ⟨_, checkedAdd_eq_some.mpr hmid.symm, ih.mpr (by omega)⟩

omit [DecidableEq π] in
/-- The source's own measure of a directory. -/
theorem dirTotalBytes_eq_some {listing : List (DirEntry π τ)} {total : UInt64} :
    dirTotalBytes (some listing) = some total ↔ fileBytes listing = total.toNat := by
  unfold dirTotalBytes
  dsimp only
  rw [foldlM_checkedAdd, fileBytes, show (0 : UInt64).toNat = 0 from rfl, Nat.zero_add]

/-- A regular file that is removed takes its size along. -/
theorem fileBytes_remove {listing : List (DirEntry π τ)}
    (hpaths : (listing.map DirEntry.path).Nodup) {e : DirEntry π τ} (he : e ∈ listing)
    {m : Metadata τ} (hm : e.file = some m) :
    fileBytes (listing.filter fun e' => decide (e'.path ≠ e.path)) + m.len.toNat =
      fileBytes listing := by
  induction listing with
  | nil => cases he
  | cons e' listing ih =>
    obtain ⟨hfirst, hrest⟩ := List.nodup_cons.mp hpaths
    rcases List.mem_cons.mp he with rfl | he
    · have hsame : (listing.filter fun e' => decide (e'.path ≠ e.path)) = listing := by
        refine List.filter_eq_self.mpr fun e' he' => decide_eq_true fun heq => ?_
        exact hfirst (heq ▸ List.mem_map_of_mem he')
      rw [List.filter_cons_of_neg (by simp), hsame, fileBytes_cons, hm]
      exact Nat.add_comm _ _
    · have hne : e'.path ≠ e.path := fun heq => hfirst (heq ▸ List.mem_map_of_mem he)
      rw [List.filter_cons_of_pos (by simpa using hne), fileBytes_cons, fileBytes_cons,
        Nat.add_assoc, ih hrest he]

/-! ## The listing -/

/-- The regular files of a listing, with their metadata. -/
def regularFiles (listing : List (DirEntry π τ)) : List (DirEntry π τ × Metadata τ) :=
  listing.filterMap fun e => e.file.map fun m => (e, m)

omit [DecidableEq π] in
theorem mem_regularFiles {listing : List (DirEntry π τ)} {f : DirEntry π τ × Metadata τ} :
    f ∈ regularFiles listing ↔ f.1 ∈ listing ∧ f.1.file = some f.2 := by
  rw [regularFiles, List.mem_filterMap]
  constructor
  · rintro ⟨e, he, hf⟩
    obtain ⟨m, hm, rfl⟩ := Option.map_eq_some_iff.mp hf
    exact ⟨he, hm⟩
  · rintro ⟨he, hm⟩
    exact ⟨f.1, he, by rw [hm]; rfl⟩

omit [DecidableEq π] in
theorem fileBytes_eq (listing : List (DirEntry π τ)) :
    ((regularFiles listing).map fun f => f.2.len.toNat).sum = fileBytes listing := by
  rw [regularFiles, fileBytes, List.map_filterMap, List.map_filterMap]
  refine congrArg List.sum (List.filterMap_congr fun e _ => ?_)
  cases e.file <;> rfl

omit [DecidableEq π] in
/-- Distinct paths stay distinct among the regular files. -/
theorem nodup_regularFiles {listing : List (DirEntry π τ)}
    (hpaths : (listing.map DirEntry.path).Nodup) :
    ((regularFiles listing).map fun f => f.1.path).Nodup := by
  refine (List.Sublist.nodup ?_ hpaths)
  induction listing with
  | nil => exact List.Sublist.slnil
  | cons e listing ih =>
    have hrest := ih (List.nodup_cons.mp hpaths).2
    unfold regularFiles at hrest ⊢
    cases h : e.file with
    | none =>
      rw [List.filterMap_cons_none (by rw [h]; rfl)]
      exact hrest.trans (List.sublist_cons_self _ _)
    | some m =>
      rw [List.filterMap_cons_some (by rw [h]; rfl)]
      exact hrest.cons_cons e.path

/-- What the listing is read into. -/
structure Scanned (epoch : τ) (scan scan' : EvictScan π τ) (listing : List (DirEntry π τ)) :
    Prop where
  paths : scan'.paths = scan.paths ++ (regularFiles listing).map fun f => f.1.path
  sizes : scan'.sizes =
    scan.sizes ++ (regularFiles listing).map fun f => (f.2.len, f.2.modified.getD epoch)
  total : scan'.total.toNat = scan.total.toNat + fileBytes listing

/-- **The listing is read to its end if the sizes add up to a word.** -/
theorem foldlM_note {epoch : τ} {keep : π} {listing : List (DirEntry π τ)} {scan : EvictScan π τ}
    (hfits : scan.total.toNat + fileBytes listing < 2 ^ 64) :
    ∃ scan', listing.foldlM (EvictScan.note epoch keep) scan = some scan' ∧
      Scanned epoch scan scan' listing := by
  induction listing generalizing scan with
  | nil =>
    exact ⟨scan, rfl, (List.append_nil _).symm, (List.append_nil _).symm, rfl⟩
  | cons e listing ih =>
    rw [fileBytes_cons] at hfits
    rw [List.foldlM_cons]
    cases hfile : e.file with
    | none =>
      rw [hfile] at hfits
      -- anything but a regular file leaves no trace
      have hfiles : regularFiles (e :: listing) = regularFiles listing :=
        List.filterMap_cons_none (by rw [hfile]; rfl)
      obtain ⟨scan', hscan', hspec⟩ := @ih scan (by simpa using hfits)
      refine ⟨scan', ?_, ?_, ?_, ?_⟩
      · rw [EvictScan.note, hfile]
        exact hscan'
      · rw [hfiles]
        exact hspec.paths
      · rw [hfiles]
        exact hspec.sizes
      · rw [fileBytes_cons, hfile, hspec.total]
        simp
    | some m =>
      rw [hfile, Option.map_some, Option.getD_some] at hfits
      have hfiles : regularFiles (e :: listing) = (e, m) :: regularFiles listing :=
        List.filterMap_cons_some (by rw [hfile]; rfl)
      have hadd : checkedAdd scan.total m.len = some (scan.total + m.len) :=
        if_pos (by omega)
      have htotal := toNat_checkedAdd hadd
      obtain ⟨scan', hscan', hspec⟩ := @ih
        { paths := scan.paths ++ [e.path]
          sizes := scan.sizes ++ [(m.len, m.modified.getD epoch)]
          total := scan.total + m.len
          keepIdx := if e.path = keep then scan.paths.length else scan.keepIdx }
        (by dsimp only; omega)
      refine ⟨scan', ?_, ?_, ?_, ?_⟩
      · rw [EvictScan.note, hfile]
        dsimp only
        rw [hadd]
        exact hscan'
      · rw [hspec.paths, hfiles, List.map_cons, List.append_assoc]
        rfl
      · rw [hspec.sizes, hfiles, List.map_cons, List.append_assoc]
        rfl
      · rw [hspec.total, fileBytes_cons, hfile, htotal, Option.map_some, Option.getD_some,
          Nat.add_assoc]

/-! ## The removals

A removal may fail, and the total goes down only if it does not. So what is returned is what the
directory holds, whichever removals succeed. The sizes are added up before anything is removed,
hence the condition that their sum is a word.
-/

/-- A file that is listed under an index, and still in the directory. -/
def Listed (scan : EvictScan π τ) (dir : List (DirEntry π τ)) (i : Nat) : Prop :=
  ∃ e ∈ dir, ∃ m, e.file = some m ∧ scan.paths[i]? = some e.path ∧
    ∃ t, scan.sizes[i]? = some (m.len, t)

/-- **Every removal keeps the total the size of the directory**, whether it succeeds or not. -/
theorem foldlM_remove {scan : EvictScan π τ} (hscan : scan.paths.Nodup) (removes : π → Bool)
    {evict : List Nat} (hevict : evict.Nodup) {total : UInt64} {dir : List (DirEntry π τ)}
    (hdir : (dir.map DirEntry.path).Nodup) (hlisted : ∀ i ∈ evict, Listed scan dir i)
    (htotal : fileBytes dir = total.toNat) :
    ∃ total' dir', evict.foldlM (scan.remove removes) (total, dir) = some (total', dir') ∧
      fileBytes dir' = total'.toNat := by
  induction evict generalizing total dir with
  | nil => exact ⟨total, dir, rfl, htotal⟩
  | cons i evict ih =>
    obtain ⟨hfirst, hrest⟩ := List.nodup_cons.mp hevict
    obtain ⟨e, he, m, hm, hpath, t, hsize⟩ := hlisted i List.mem_cons_self
    rw [List.foldlM_cons, EvictScan.remove, hpath, Option.bind_some]
    by_cases hremoves : removes e.path = true
    · have hbytes := fileBytes_remove hdir he hm
      -- the file is still there, so its size is part of the total
      have hle : m.len ≤ total := UInt64.le_iff_toNat_le.mpr (by omega)
      have hsub := UInt64.toNat_sub_of_le total m.len hle
      rw [if_pos hremoves, hsize, Option.bind_some, checkedSub, if_pos hle]
      refine ih hrest ((List.filter_sublist.map _).nodup hdir) ?_ (by dsimp only; omega)
      -- the other files have other paths
      intro j hj
      obtain ⟨e', he', m', hm', hpath', hsize'⟩ := hlisted j (List.mem_cons_of_mem _ hj)
      refine ⟨e', List.mem_filter.mpr ⟨he', decide_eq_true fun heq => ?_⟩, m', hm', hpath', hsize'⟩
      obtain ⟨hi, heqi⟩ := List.getElem?_eq_some_iff.mp hpath
      obtain ⟨hj', heqj⟩ := List.getElem?_eq_some_iff.mp hpath'
      have hsame : j = i := (hscan.getElem_inj_iff).mp (by rw [heqi, heqj, heq])
      exact hfirst (hsame ▸ hj)
    · rw [if_neg hremoves]
      exact ih hrest hdir (fun j hj => hlisted j (List.mem_cons_of_mem _ hj)) htotal

/-- **What is returned is what the directory holds afterwards**, whichever removals succeed; and
something is returned if the sizes add up to a word. -/
theorem evictRemapCache_spec [LinearOrder τ] (epoch : τ) (removes : π → Bool)
    {listing : List (DirEntry π τ)} (hpaths : (listing.map DirEntry.path).Nodup) (keep : π)
    (budget : UInt64) (hfits : fileBytes listing < 2 ^ 64) :
    ∃ total left, evictRemapCache epoch removes (some listing) keep budget =
        some (total, some left) ∧ dirTotalBytes (some left) = some total := by
  obtain ⟨scan, hscan, hspec⟩ := @foldlM_note _ _ _ epoch keep listing
    ⟨[], [], 0, 2 ^ 64 - 1⟩ (by simpa using hfits)
  have hpathsEq : scan.paths = (regularFiles listing).map fun f => f.1.path := by
    simpa using hspec.paths
  have hsizesEq : scan.sizes =
      (regularFiles listing).map fun f => (f.2.len, f.2.modified.getD epoch) := by
    simpa using hspec.sizes
  have htotal : scan.total.toNat = fileBytes listing := by simpa using hspec.total
  have hsum : (scan.sizes.map fun e => e.1.toNat).sum = scan.total.toNat := by
    rw [htotal, ← fileBytes_eq, hsizesEq, List.map_map]
    rfl
  obtain ⟨evict, hplan, hpolicy⟩ := exists_evictionPlan scan.sizes scan.total budget
    scan.keepIdx hsum
  -- an index of the plan is one of a regular file, and so of a path and of a size
  have hlisted : ∀ i ∈ evict, Listed scan listing i := by
    intro i hi
    have hlt : i < (regularFiles listing).length := by
      have := hpolicy.valid i hi
      rwa [hsizesEq, List.length_map] at this
    obtain ⟨hmem, hfile⟩ := mem_regularFiles.mp (List.getElem_mem hlt)
    refine ⟨_, hmem, _, hfile, ?_, (regularFiles listing)[i].2.modified.getD epoch, ?_⟩
    · rw [hpathsEq, List.getElem?_map, List.getElem?_eq_getElem hlt]
      rfl
    · rw [hsizesEq, List.getElem?_map, List.getElem?_eq_getElem hlt]
      rfl
  obtain ⟨total, left, hloop, hleft⟩ := foldlM_remove
    (by rw [hpathsEq]; exact nodup_regularFiles hpaths) removes hpolicy.nodup hpaths hlisted
    htotal.symm
  refine ⟨total, left, ?_, dirTotalBytes_eq_some.mpr hleft⟩
  unfold evictRemapCache scanDir
  dsimp only
  rw [hscan, Option.bind_some, hplan, Option.bind_some, hloop]
  rfl

end Directory

/-- **The eviction policy**: a plan exists for entries that add up to the total, and is as it should
be; and a directory whose sizes add up to a word is left holding what is returned, whichever
removals succeed. -/
theorem evictions_policy {π τ : Type} [DecidableEq π] [LinearOrder τ] :
    (∀ (entries : List (UInt64 × τ)) (total budget : UInt64) (keepIdx : Nat),
      (entries.map fun e => e.1.toNat).sum = total.toNat →
      ∃ evicted, planEvictions entries total budget keepIdx = some evicted ∧
        EvictionPlan entries budget keepIdx evicted) ∧
    ∀ (epoch : τ) (removes : π → Bool) (listing : List (DirEntry π τ)) (keep : π)
      (budget : UInt64), (listing.map DirEntry.path).Nodup → fileBytes listing < 2 ^ 64 →
      ∃ total left, evictRemapCache epoch removes (some listing) keep budget =
        some (total, some left) ∧ dirTotalBytes (some left) = some total :=
  ⟨exists_evictionPlan, fun epoch removes _ keep budget hpaths hfits =>
    evictRemapCache_spec epoch removes hpaths keep budget hfits⟩

/-- Four entries of which the oldest is kept, and a directory with them and a subdirectory. -/
theorem evictions_policy_four :
    (∃ evicted, planEvictions [(10, 1), (10, 2), (10, 3), (10, 4)] 40 25 0 = some evicted ∧
      @EvictionPlan Nat _ [(10, 1), (10, 2), (10, 3), (10, 4)] 25 0 evicted) ∧
    ∃ total left, evictRemapCache 0 (fun _ => true)
      (some [⟨1, some ⟨true, 10, some 1⟩⟩, ⟨2, some ⟨true, 10, none⟩⟩, ⟨3, none⟩,
        ⟨4, some ⟨false, 96, some 0⟩⟩]) 2 15 = some (total, some left) ∧
      @dirTotalBytes Nat Nat (some left) = some total :=
  ⟨(@evictions_policy Nat _ _ _).1 _ _ _ _ (by decide),
    evictions_policy.2 _ _ _ _ _ (by decide) (by decide)⟩

end TurboLaser
