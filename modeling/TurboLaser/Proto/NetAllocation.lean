import TurboLaser.Lib.Blocks
import TurboLaser.Proto.Remap

/-!
# Allocating networks out of 10/8 (proto/l3.rs)

Every candidate of `pickNewNet` is a block of 10/8 aligned to its own size, so an allocation is a
packing of aligned blocks (`Lib.Blocks`). Groups are served from the shortest prefix on, hence every
block already assigned covers whole candidates of the next group, and a candidate is left as long as
the blocks fit into 10/8 together. When they do not, the last resort of `pickNewNet` hands out
10.0.0.0 a second time.

The order of service is what makes the condition a sum. Blocks that are served from the largest on
leave no gaps that a later one could not use: the next size divides every size before it. In another
order a small block could sit in the middle of the only large one left, and no count would tell.
`Allocated` is the invariant that says so of one network, `Allocating` the invariant of the loop,
and `Allocating.step` the step that keeps it.

- `pickNewNet_spec`: the picked block is free, or 10.0.0.0 when every candidate is taken; it holds
  for every draw, since the random tries only come before a scan of everything;
- `apart_iff_demand_le`: **the assigned networks are pairwise apart exactly when the groups fit.** A
  group of prefix 31 or 32 is counted as the /30 that it is placed in.
-/

namespace TurboLaser

open Lib

/-! ## Candidates -/

/-- A candidate's address, as a number. -/
theorem toNat_candidateNet {p idx : Nat} (hlo : 8 ≤ p) (hhi : p ≤ 30) (hidx : idx < 2 ^ (p - 8)) :
    (candidateNet p idx).toNat = 167772160 + idx * 2 ^ (32 - p) := by
  have hfit : idx * 2 ^ (32 - p) < 2 ^ 24 := by
    have hsplit : 2 ^ 24 = 2 ^ (p - 8) * 2 ^ (32 - p) := by
      rw [← Nat.pow_add]
      congr 1
      omega
    rw [hsplit]
    exact Nat.mul_lt_mul_of_pos_right hidx (Nat.pow_pos (by decide))
  have hsmall : idx < 2 ^ 32 :=
    lt_of_lt_of_le hidx (Nat.pow_le_pow_right (by decide) (by omega))
  have hshift : (UInt32.ofNat idx <<< UInt32.ofNat (32 - p)).toNat = idx * 2 ^ (32 - p) := by
    have hbits : (UInt32.ofNat (32 - p)).toNat % 32 = 32 - p := by
      rw [UInt32.toNat_ofNat', Nat.mod_eq_of_lt (by omega), Nat.mod_eq_of_lt (by omega)]
    rw [UInt32.toNat_shiftLeft, hbits, UInt32.toNat_ofNat', Nat.mod_eq_of_lt hsmall,
      Nat.shiftLeft_eq, Nat.mod_eq_of_lt (by omega)]
  rw [candidateNet, toNat_or_offset (k := 24) ⟨10, rfl⟩ (by rw [hshift]; exact hfit), hshift]
  rfl

/-- The last resort is a candidate too: number 0. -/
theorem candidateNet_zero (p : Nat) : candidateNet p 0 = rfc1918Base := by
  have hz : (UInt32.ofNat 0 <<< UInt32.ofNat (32 - p)) = 0 := by
    apply UInt32.toNat_inj.mp
    rw [UInt32.toNat_shiftLeft]
    show 0 <<< _ % _ = 0
    rw [Nat.zero_shiftLeft, Nat.zero_mod]
  rw [candidateNet, hz]
  rfl

theorem drawNet_spec {p : Nat} {assigned : List Ipv4Net} {tries : Nat} {rng rng' : Rng}
    {net : Ipv4Addr} (h : drawNet p assigned tries rng = (some net, rng')) :
    (∃ idx < 2 ^ (p - 8), net = candidateNet p idx) ∧ overlaps net p assigned = false := by
  induction tries generalizing rng with
  | zero => cases h
  | succ tries ih =>
    rw [drawNet] at h
    dsimp only at h
    split at h
    · exact ih h
    · next hfree =>
      cases h
      exact ⟨⟨_, Nat.mod_lt _ (Nat.pow_pos (by decide)), rfl⟩, Bool.eq_false_of_not_eq_true hfree⟩

/-- **What `pickNewNet` returns**: a free candidate, or 10.0.0.0 when none is free. -/
theorem pickNewNet_spec (prefixLen : Nat) (rng : Rng) (assigned : List Ipv4Net) :
    (∃ idx < 2 ^ (clampPrefix prefixLen - 8),
        (pickNewNet prefixLen rng assigned).1 = candidateNet (clampPrefix prefixLen) idx) ∧
      (overlaps (pickNewNet prefixLen rng assigned).1 (clampPrefix prefixLen) assigned = false ∨
        (pickNewNet prefixLen rng assigned).1 = rfc1918Base ∧
          ∀ idx < 2 ^ (clampPrefix prefixLen - 8),
            overlaps (candidateNet (clampPrefix prefixLen) idx) (clampPrefix prefixLen)
              assigned = true) := by
  unfold pickNewNet
  generalize clampPrefix prefixLen = p
  dsimp only
  split
  -- a draw is returned only if it is free; if no draw was, the scan takes the first free candidate
  · next net rng' hdraw =>
    obtain ⟨hcand, hfree⟩ := drawNet_spec hdraw
    exact ⟨hcand, Or.inl hfree⟩
  · next rng' hdraw =>
    unfold scanNet
    cases hfind : (List.range' 0 (2 ^ (p - 8))).find? fun idx =>
        !overlaps (candidateNet p idx) p assigned with
    | some idx =>
      have hin : idx < 2 ^ (p - 8) := by
        have := List.mem_of_find?_eq_some hfind
        rw [List.mem_range'_1] at this
        omega
      have hfree := List.find?_some hfind
      rw [Bool.not_eq_true'] at hfree
      exact ⟨⟨idx, hin, rfl⟩, Or.inl hfree⟩
    | none =>
      refine ⟨⟨0, Nat.pow_pos (by decide), (candidateNet_zero p).symm⟩, Or.inr ⟨rfl, ?_⟩⟩
      intro idx hidx
      have := List.find?_eq_none.mp hfind idx (List.mem_range'_1.mpr (by omega))
      rwa [Bool.not_eq_true', Bool.not_eq_false] at this

/-! ## Slots -/

/-- The prefix an allocation works at: a /31 or /32 takes a whole /30. -/
def slotPrefix (n : Ipv4Net) : Nat := min n.prefixLen 30

/-- The numbers a network takes out of 10/8 when it is allocated. -/
def slotSize (n : Ipv4Net) : Nat := 2 ^ (32 - slotPrefix n)

/-- The numbers a network reserves. -/
def slotRun (n : Ipv4Net) : Nat × Nat := (n.addr.toNat, slotSize n)

/-- The numbers of a network itself. -/
def netRun (n : Ipv4Net) : Nat × Nat := (n.addr.toNat, n.size)

/-- A network allocated out of 10/8: a candidate at its slot prefix. -/
structure Allocated (n : Ipv4Net) : Prop where
  prefix_ge : 8 ≤ n.prefixLen
  candidate : ∃ idx < 2 ^ (slotPrefix n - 8), n.addr.toNat = 167772160 + idx * slotSize n

theorem size_le_slotSize (n : Ipv4Net) : n.size ≤ slotSize n :=
  Nat.pow_le_pow_right (by decide) (by unfold slotPrefix; omega)

theorem slotSize_pos (n : Ipv4Net) : 0 < slotSize n := Nat.pow_pos (by decide)

theorem clampPrefix_eq {n : Ipv4Net} (h : 8 ≤ n.prefixLen) :
    clampPrefix n.prefixLen = slotPrefix n := by
  unfold clampPrefix slotPrefix
  omega

/-- A shorter prefix reserves a multiple of what a longer one reserves. -/
theorem slotSize_dvd {n g : Ipv4Net} (h : n.prefixLen ≤ g.prefixLen) : slotSize g ∣ slotSize n :=
  Nat.pow_dvd_pow 2 (by unfold slotPrefix; omega)

theorem Allocated.slot_le {n : Ipv4Net} (h : Allocated n) :
    167772160 ≤ n.addr.toNat ∧ n.addr.toNat + slotSize n ≤ 167772160 + 16777216 := by
  obtain ⟨idx, hidx, haddr⟩ := h.candidate
  have hge := h.prefix_ge
  have hsplit : 16777216 = 2 ^ (slotPrefix n - 8) * slotSize n := by
    unfold slotSize
    rw [← Nat.pow_add, show slotPrefix n - 8 + (32 - slotPrefix n) = 24 by
      unfold slotPrefix; omega]
  have hle : (idx + 1) * slotSize n ≤ 2 ^ (slotPrefix n - 8) * slotSize n :=
    Nat.mul_le_mul_right _ hidx
  rw [Nat.succ_mul] at hle
  omega

/-- An allocated network starts a whole number of smaller slots above 10.0.0.0. -/
theorem Allocated.addr_eq {n g : Ipv4Net} (h : Allocated n) (hle : n.prefixLen ≤ g.prefixLen) :
    ∃ q, n.addr.toNat = 167772160 + q * slotSize g := by
  obtain ⟨idx, -, haddr⟩ := h.candidate
  obtain ⟨c, hc⟩ := slotSize_dvd hle
  exact ⟨idx * c, by rw [haddr, hc, Nat.mul_assoc, Nat.mul_comm c]⟩

/-- The reserved slots being apart keeps the networks apart. -/
theorem apart_of_slots {n n' : Ipv4Net} (h : Apart (slotRun n) (slotRun n')) :
    Apart (netRun n) (netRun n') := by
  have hn := size_le_slotSize n
  have hn' := size_le_slotSize n'
  unfold Apart slotRun netRun at *
  dsimp only at *
  omega

/-! ## One allocation

Networks are compared in slots of the smallest size. The allocator scans candidates from a drawn
index on and takes the first that overlaps nothing; when all are taken it gives 10.0.0.0. So either
the pick is apart from everything that is assigned, or it is that network, and counting slots tells
the two apart.
-/

section Step

variable {assigned : List Ipv4Net} {g : Ipv4Net}
  (hassigned : ∀ n ∈ assigned, Allocated n) (hsorted : ∀ n ∈ assigned, n.prefixLen ≤ g.prefixLen)
  (hg : 8 ≤ g.prefixLen)
include hassigned hsorted hg

omit hassigned hsorted in
/-- The network a group gets is allocated. -/
theorem allocated_pick (rng : Rng) :
    Allocated { g with addr := (pickNewNet g.prefixLen rng assigned).1 } := by
  obtain ⟨⟨idx, hidx, hnet⟩, -⟩ := pickNewNet_spec g.prefixLen rng assigned
  rw [clampPrefix_eq hg] at hidx hnet
  refine ⟨hg, idx, hidx, ?_⟩
  show (pickNewNet g.prefixLen rng assigned).1.toNat = _
  rw [hnet, toNat_candidateNet (by unfold slotPrefix; omega) (by unfold slotPrefix; omega) hidx]
  rfl

/-- A candidate that tests free is apart, slot from slot, from everything assigned:
both start at whole slots of the smaller size. -/
theorem apart_of_not_overlaps {idx : Nat} (hidx : idx < 2 ^ (slotPrefix g - 8))
    (hfree : overlaps (candidateNet (slotPrefix g) idx) (slotPrefix g) assigned = false) :
    ∀ n ∈ assigned, Apart (slotRun n)
      (slotRun { g with addr := candidateNet (slotPrefix g) idx }) := by
  intro n hn
  have haddr := toNat_candidateNet (p := slotPrefix g) (by unfold slotPrefix; omega)
    (by unfold slotPrefix; omega) hidx
  obtain ⟨q, hq⟩ := (hassigned n hn).addr_eq (hsorted n hn)
  obtain ⟨c, hc⟩ := slotSize_dvd (hsorted n hn)
  have hnot : ¬ ((candidateNet (slotPrefix g) idx).toNat < n.addr.toNat + n.size ∧
      n.addr.toNat < (candidateNet (slotPrefix g) idx).toNat + 2 ^ (32 - slotPrefix g)) := by
    intro hboth
    have hany : overlaps (candidateNet (slotPrefix g) idx) (slotPrefix g) assigned = true := by
      refine List.any_eq_true.mpr ⟨n, hn, ?_⟩
      rw [Bool.and_eq_true, decide_eq_true_iff, decide_eq_true_iff]
      exact hboth
    rw [hfree] at hany
    cases hany
  have hsize := n.size_pos
  have hslot := size_le_slotSize n
  rw [haddr, hq] at hnot
  change ¬ (167772160 + idx * slotSize g < _ ∧ _ < 167772160 + idx * slotSize g + slotSize g)
    at hnot
  unfold Apart slotRun
  dsimp only
  rw [show slotSize { g with addr := candidateNet (slotPrefix g) idx } = slotSize g from rfl,
    haddr, hq]
  show 167772160 + q * slotSize g + slotSize n ≤ 167772160 + idx * slotSize g ∨
    167772160 + idx * slotSize g + slotSize g ≤ 167772160 + q * slotSize g
  rcases lt_or_ge idx q with hlt | hge
  · right
    have := Nat.mul_le_mul_right (slotSize g) (Nat.succ_le_of_lt hlt)
    rw [Nat.succ_mul] at this
    omega
  · left
    -- the network covers all of its slot, or it is a /31 or /32 in a slot of one candidate
    by_cases hexact : n.prefixLen ≤ 30
    · have hfull : n.size = slotSize n := by
        unfold slotSize slotPrefix Ipv4Net.size
        rw [Nat.min_eq_left hexact]
      have hle := Nat.mul_le_mul_right (slotSize g) hge
      rw [← hfull]
      by_contra hcon
      exact hnot ⟨by omega, by have := slotSize_pos g; omega⟩
    · have hgn := hsorted n hn
      have hsame : slotSize n = slotSize g := by
        unfold slotSize slotPrefix
        rw [Nat.min_eq_right (by omega), Nat.min_eq_right (by omega)]
      rcases Nat.lt_or_eq_of_le hge with hlt | heq
      · have := Nat.mul_le_mul_right (slotSize g) (Nat.succ_le_of_lt hlt)
        rw [Nat.succ_mul] at this
        omega
      · subst heq
        exact absurd ⟨by omega, by have := slotSize_pos g; omega⟩ hnot

/-- The picked slot is apart from everything assigned, or two networks start at 10.0.0.0. -/
theorem apart_or_collide (rng : Rng) :
    (∀ n ∈ assigned, Apart (slotRun n)
        (slotRun { g with addr := (pickNewNet g.prefixLen rng assigned).1 })) ∨
      ∃ n ∈ assigned, n.addr = (pickNewNet g.prefixLen rng assigned).1 := by
  obtain ⟨⟨idx, hidx, hnet⟩, hfree | ⟨hbase, hfull⟩⟩ := pickNewNet_spec g.prefixLen rng assigned
  · left
    rw [clampPrefix_eq hg] at hidx hnet hfree
    rw [hnet] at hfree ⊢
    exact apart_of_not_overlaps hassigned hsorted hg hidx hfree
  · right
    -- nothing is free, so something overlaps 10.0.0.0; it starts at a multiple of its slot, that is
    -- there
    have h0 := hfull 0 (Nat.pow_pos (by decide))
    rw [clampPrefix_eq hg] at h0
    have hzero := @toNat_candidateNet (slotPrefix g) 0 (by unfold slotPrefix; omega)
      (by unfold slotPrefix; omega) (Nat.pow_pos (by decide))
    obtain ⟨n, hn, hmeet⟩ := List.any_eq_true.mp h0
    rw [Bool.and_eq_true, decide_eq_true_iff, decide_eq_true_iff, hzero] at hmeet
    refine ⟨n, hn, ?_⟩
    obtain ⟨q, hq⟩ := (hassigned n hn).addr_eq (hsorted n hn)
    have hq0 : q = 0 := by
      rcases Nat.eq_zero_or_pos q with hz | hpos
      · exact hz
      · have := Nat.mul_le_mul_right (slotSize g) hpos
        have hslot : 2 ^ (32 - slotPrefix g) = slotSize g := rfl
        omega
    rw [hbase]
    apply UInt32.toNat_inj.mp
    rw [hq, hq0]
    show 167772160 + 0 * _ = 167772160
    rw [Nat.zero_mul]

/-- While the slots fit into 10/8 together, a candidate is free. -/
theorem exists_free
    (hfits : (assigned.map slotSize).sum + slotSize g ≤ 16777216) :
    ∃ idx < 2 ^ (slotPrefix g - 8),
      overlaps (candidateNet (slotPrefix g) idx) (slotPrefix g) assigned = false := by
  have hpos := slotSize_pos g
  -- the candidates an assigned network covers are a run of indices
  let run : Ipv4Net → Nat × Nat := fun n =>
    ((n.addr.toNat - 167772160) / slotSize g, (n.size + (slotSize g - 1)) / slotSize g)
  have hrun : ∀ n ∈ assigned, (run n).2 * slotSize g ≤ slotSize n := by
    intro n hn
    obtain ⟨c, hc⟩ := slotSize_dvd (hsorted n hn)
    have hsize := size_le_slotSize n
    have hle : (n.size + (slotSize g - 1)) / slotSize g ≤ c := by
      rw [← Nat.lt_succ_iff, Nat.div_lt_iff_lt_mul hpos, Nat.succ_mul, Nat.mul_comm c, ← hc]
      omega
    calc (run n).2 * slotSize g ≤ c * slotSize g := Nat.mul_le_mul_right _ hle
      _ = slotSize n := by rw [hc, Nat.mul_comm]
  have hsum : ((assigned.map run).map Prod.snd).sum * slotSize g ≤
      (assigned.map slotSize).sum := by
    clear hfits hassigned hsorted
    induction assigned with
    | nil => simp
    | cons n ns ih =>
      have hn := hrun n List.mem_cons_self
      have hns := ih fun m hm => hrun m (List.mem_cons_of_mem _ hm)
      simp only [List.map_cons, List.sum_cons, Nat.add_mul] at hns ⊢
      omega
  have hsplit : 16777216 = 2 ^ (slotPrefix g - 8) * slotSize g := by
    unfold slotSize
    rw [← Nat.pow_add, show slotPrefix g - 8 + (32 - slotPrefix g) = 24 by
      unfold slotPrefix; omega]
  have hroom : ((assigned.map run).map Prod.snd).sum < 2 ^ (slotPrefix g - 8) := by
    refine lt_of_mul_lt_mul_right (a := slotSize g) ?_ (Nat.zero_le _)
    rw [← hsplit]
    omega
  obtain ⟨idx, hidx, hout⟩ := exists_uncovered hroom
  refine ⟨idx, hidx, ?_⟩
  rw [overlaps, List.any_eq_false]
  intro n hn hmeet
  rw [Bool.and_eq_true, decide_eq_true_iff, decide_eq_true_iff,
    toNat_candidateNet (by unfold slotPrefix; omega) (by unfold slotPrefix; omega) hidx] at hmeet
  obtain ⟨q, hq⟩ := (hassigned n hn).addr_eq (hsorted n hn)
  rw [hq] at hmeet
  refine hout (run n) (List.mem_map.mpr ⟨n, hn, rfl⟩) ?_
  rw [mem_runSet]
  show (n.addr.toNat - 167772160) / slotSize g ≤ idx ∧
    idx < (n.addr.toNat - 167772160) / slotSize g + _
  rw [hq, Nat.add_sub_cancel_left, Nat.mul_div_cancel _ hpos]
  exact (overlap_iff_mem_run hpos).mp hmeet

end Step

/-! ## A whole allocation

Groups are served from the shortest prefix on, so that everything assigned so far is a whole number
of slots of the size that is asked for. As long as the groups fit into 10/8 a slot is free, and they
are apart. When they do not fit, some pick is the last resort, which collides, so being apart is as
strong as fitting.
-/

/-- Two networks reserve disjoint slots. -/
def SlotsApart (n n' : Ipv4Net) : Prop := Apart (slotRun n) (slotRun n')

/-- Two networks share no address. -/
def NetsApart (n n' : Ipv4Net) : Prop := Apart (netRun n) (netRun n')

/-- An allocation in progress: what is assigned, and the groups still to serve, from
the shortest prefix on. -/
structure Allocating (assigned groups : List Ipv4Net) : Prop where
  allocated : ∀ n ∈ assigned, Allocated n
  sorted : ∀ n ∈ assigned, ∀ g ∈ groups, n.prefixLen ≤ g.prefixLen
  ascending : groups.Pairwise fun g g' => g.prefixLen ≤ g'.prefixLen
  prefix_ge : ∀ g ∈ groups, 8 ≤ g.prefixLen

/-- The state of an allocation after serving one group. -/
theorem Allocating.step {assigned groups : List Ipv4Net} {g : Ipv4Net}
    (h : Allocating assigned (g :: groups)) (rng : Rng) :
    Allocating (assigned ++ [{ g with addr := (pickNewNet g.prefixLen rng assigned).1 }])
      groups := by
  obtain ⟨hhead, htail⟩ := List.pairwise_cons.mp h.ascending
  refine ⟨?_, ?_, htail, fun g' hg' => h.prefix_ge g' (List.mem_cons_of_mem _ hg')⟩
  · intro n hn
    rcases List.mem_append.mp hn with hold | hnew
    · exact h.allocated n hold
    · rw [List.mem_singleton.mp hnew]
      exact allocated_pick (h.prefix_ge g List.mem_cons_self) rng
  · intro n hn g' hg'
    rcases List.mem_append.mp hn with hold | hnew
    · exact h.sorted n hold g' (List.mem_cons_of_mem _ hg')
    · rw [List.mem_singleton.mp hnew]
      exact hhead g' hg'

/-- Every network that is handed out is allocated. -/
theorem allocated_assignNets {assigned groups : List Ipv4Net} (h : Allocating assigned groups)
    (rng : Rng) : ∀ n ∈ (assignNets groups rng assigned).map Prod.snd, Allocated n := by
  induction groups generalizing assigned rng with
  | nil => nofun
  | cons g groups ih =>
    intro n hn
    rw [assignNets, List.map_cons] at hn
    rcases List.mem_cons.mp hn with rfl | hrest
    · exact allocated_pick (h.prefix_ge g List.mem_cons_self) rng
    · exact ih (h.step rng) _ n hrest

/-- The networks reserve as much as the groups ask for. -/
theorem map_slotSize_assignNets (groups : List Ipv4Net) (rng : Rng) (assigned : List Ipv4Net) :
    ((assignNets groups rng assigned).map Prod.snd).map slotSize = groups.map slotSize := by
  induction groups generalizing assigned rng with
  | nil => rfl
  | cons g groups ih =>
    rw [assignNets, List.map_cons, List.map_cons, List.map_cons, ih]
    rfl

theorem pairwise_snoc {R : Ipv4Net → Ipv4Net → Prop} {ns : List Ipv4Net} {n : Ipv4Net}
    (h : ns.Pairwise R) (hn : ∀ m ∈ ns, R m n) : (ns ++ [n]).Pairwise R := by
  refine List.pairwise_append.mpr ⟨h, List.pairwise_singleton _ _, fun m hm m' hm' => ?_⟩
  rw [List.mem_singleton.mp hm']
  exact hn m hm

/-- While the groups fit, every network is given a slot of its own. -/
theorem slotsApart_of_fits {assigned groups : List Ipv4Net} (h : Allocating assigned groups)
    (hslots : assigned.Pairwise SlotsApart)
    (hfits : (assigned.map slotSize).sum + (groups.map slotSize).sum ≤ 16777216) (rng : Rng) :
    (assigned ++ (assignNets groups rng assigned).map Prod.snd).Pairwise SlotsApart := by
  induction groups generalizing assigned rng with
  | nil => rwa [assignNets, List.map_nil, List.append_nil]
  | cons g groups ih =>
    have hg := h.prefix_ge g List.mem_cons_self
    have hsorted : ∀ n ∈ assigned, n.prefixLen ≤ g.prefixLen :=
      fun n hn => h.sorted n hn g List.mem_cons_self
    rw [List.map_cons, List.sum_cons] at hfits
    have hapart : ∀ n ∈ assigned,
        SlotsApart n { g with addr := (pickNewNet g.prefixLen rng assigned).1 } := by
      -- while the groups fit there is a free candidate, so the case without one does not arise
      obtain ⟨⟨idx, hidx, hnet⟩, hfree | ⟨-, hfull⟩⟩ :=
        pickNewNet_spec g.prefixLen rng assigned
      · rw [clampPrefix_eq hg] at hidx hnet hfree
        rw [hnet] at hfree ⊢
        exact apart_of_not_overlaps h.allocated hsorted hg hidx hfree
      · obtain ⟨idx', hidx', hfree'⟩ := exists_free h.allocated hsorted hg (by omega)
        rw [clampPrefix_eq hg] at hfull
        rw [hfull idx' hidx'] at hfree'
        cases hfree'
    have hrest := ih (h.step rng) (pairwise_snoc hslots hapart) (by
      rw [List.map_append, List.sum_append, List.map_singleton, List.sum_singleton]
      show _ + slotSize g + _ ≤ _
      omega) (pickNewNet g.prefixLen rng assigned).2
    rwa [List.append_assoc] at hrest

/-- Networks that share no address were each given a slot of their own: the last
resort of the allocator always collides. -/
theorem slotsApart_of_netsApart {assigned groups : List Ipv4Net} (h : Allocating assigned groups)
    (hslots : assigned.Pairwise SlotsApart) (rng : Rng)
    (hnets : (assigned ++ (assignNets groups rng assigned).map Prod.snd).Pairwise NetsApart) :
    (assigned ++ (assignNets groups rng assigned).map Prod.snd).Pairwise SlotsApart := by
  induction groups generalizing assigned rng with
  | nil => rwa [assignNets, List.map_nil, List.append_nil]
  | cons g groups ih =>
    have hg := h.prefix_ge g List.mem_cons_self
    have hsorted : ∀ n ∈ assigned, n.prefixLen ≤ g.prefixLen :=
      fun n hn => h.sorted n hn g List.mem_cons_self
    rw [assignNets, List.map_cons, List.append_cons] at hnets
    have hapart : ∀ n ∈ assigned,
        SlotsApart n { g with addr := (pickNewNet g.prefixLen rng assigned).1 } := by
      -- two networks that start at the same address share it, and these do not
      rcases apart_or_collide h.allocated hsorted hg rng with hapart | ⟨n, hn, hsame⟩
      · exact hapart
      · have hpair : NetsApart n { g with addr := (pickNewNet g.prefixLen rng assigned).1 } :=
          (List.pairwise_append.mp (List.pairwise_append.mp hnets).1).2.2 n hn _
            (List.mem_singleton.mpr rfl)
        have hpos := n.size_pos
        have hpos' := Ipv4Net.size_pos { g with addr := (pickNewNet g.prefixLen rng assigned).1 }
        unfold NetsApart Apart netRun at hpair
        dsimp only at hpair
        rw [hsame] at hpair
        omega
    have hrest := ih (h.step rng) (pairwise_snoc hslots hapart) _ hnets
    rw [assignNets, List.map_cons, List.append_cons]
    exact hrest

/-- Slots of their own fit into 10/8 together. -/
theorem sum_slotSize_le {ns : List Ipv4Net} (halloc : ∀ n ∈ ns, Allocated n)
    (h : ns.Pairwise SlotsApart) : (ns.map slotSize).sum ≤ 16777216 := by
  let run : Ipv4Net → Nat × Nat := fun n => (n.addr.toNat - 167772160, slotSize n)
  have hsizes : ns.map slotSize = (ns.map run).map Prod.snd := by
    rw [List.map_map]
    rfl
  rw [hsizes]
  refine sum_sizes_le (fun r hr => ?_) (List.pairwise_map.mpr (h.imp_of_mem ?_))
  · obtain ⟨n, hn, rfl⟩ := List.mem_map.mp hr
    have := (halloc n hn).slot_le
    show n.addr.toNat - 167772160 + slotSize n ≤ 16777216
    omega
  · intro n n' hn hn' hapart
    have hle := (halloc n hn).slot_le
    have hle' := (halloc n' hn').slot_le
    unfold SlotsApart Apart slotRun at hapart
    unfold Apart
    show n.addr.toNat - 167772160 + slotSize n ≤ n'.addr.toNat - 167772160 ∨
      n'.addr.toNat - 167772160 + slotSize n' ≤ n.addr.toNat - 167772160
    dsimp only at hapart
    omega

/-- **The networks are pairwise apart exactly when the groups fit into 10/8.** -/
theorem apart_iff_demand_le {groups : List Ipv4Net} (h : Allocating [] groups) (rng : Rng) :
    ((assignNets groups rng []).map Prod.snd).Pairwise NetsApart ↔
      (groups.map slotSize).sum ≤ 16777216 := by
  constructor
  · intro hnets
    have hslots := slotsApart_of_netsApart h List.Pairwise.nil rng hnets
    rw [← map_slotSize_assignNets groups rng []]
    exact sum_slotSize_le (allocated_assignNets h rng) hslots
  · intro hfits
    have hslots := slotsApart_of_fits h List.Pairwise.nil (by simpa using hfits) rng
    exact hslots.imp apart_of_slots

end TurboLaser
