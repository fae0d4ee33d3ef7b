import TurboLaser.Proto.RemapTopology

/-!
# The allocator packs 10/8 completely (proto/l3.rs)

`pick_new_net` tries random candidates and then scans all of them, so it misses no free network.
Within `remap_capture` one is free at every step, as long as the groups fit into 10/8 together: they
are served from the largest on, and a /31 or /32 is counted as the /30 it is placed in.

`Proto.NetAllocation` says what the result of a whole allocation is. This module says the same of
the allocator at each step, in its own terms: given any list of assigned networks, of any sizes and
however it came about, it returns a network that overlaps none of them whenever there is one at all.
A candidate is given by its index in 10/8, and freedom from an assigned network is a statement about
ranges of addresses, which `overlaps_eq_false_iff` gets from the two containment tests of the
source.

- `FreeNet`: an aligned network of 10/8 that shares no address with the assigned ones;
- `freeNet_pickNewNet`: **the allocator finds a free network whenever there is one**;
- `assignNets_step`: one is left for every group, and the group gets it.
-/

namespace TurboLaser

open Lib

/-- A network of 10/8, aligned to its own size, that shares no address with the assigned ones. -/
structure FreeNet (prefixLen : Nat) (assigned : List Ipv4Net) (base : Nat) : Prop where
  aligned : 2 ^ (32 - prefixLen) ∣ base
  inTen : 167772160 ≤ base ∧ base + 2 ^ (32 - prefixLen) ≤ 167772160 + 16777216
  apart : ∀ n ∈ assigned, Apart (base, 2 ^ (32 - prefixLen)) (netRun n)

/-! ## Free networks are the candidates -/

theorem overlaps_eq_false_iff {net : Ipv4Addr} {p : Nat} {assigned : List Ipv4Net} :
    overlaps net p assigned = false ↔
      ∀ n ∈ assigned, Apart (net.toNat, 2 ^ (32 - p)) (netRun n) := by
  rw [overlaps, List.any_eq_false]
  refine forall₂_congr fun n _ => ?_
  rw [Bool.and_eq_true, decide_eq_true_iff, decide_eq_true_iff]
  unfold Apart netRun
  dsimp only
  omega

/-- The free networks are those candidates that test free. -/
theorem freeNet_iff {p : Nat} {assigned : List Ipv4Net} {base : Nat} (hlo : 8 ≤ p) (hhi : p ≤ 30) :
    FreeNet p assigned base ↔ ∃ idx < 2 ^ (p - 8), base = (candidateNet p idx).toNat ∧
      overlaps (candidateNet p idx) p assigned = false := by
  have hpos : 0 < 2 ^ (32 - p) := Nat.pow_pos (by decide)
  have hsplit : 16777216 = 2 ^ (p - 8) * 2 ^ (32 - p) := by
    rw [← Nat.pow_add, show p - 8 + (32 - p) = 24 by omega]
  have hten : 2 ^ (32 - p) ∣ 167772160 :=
    Nat.dvd_trans ⟨2 ^ (p - 8), hsplit.trans (Nat.mul_comm _ _)⟩ ⟨10, rfl⟩
  constructor
  · rintro ⟨haligned, ⟨hge, hle⟩, hapart⟩
    obtain ⟨idx, hidx⟩ := (Nat.dvd_sub haligned hten : 2 ^ (32 - p) ∣ base - 167772160)
    have hbase : base = 167772160 + idx * 2 ^ (32 - p) := by
      rw [Nat.mul_comm] at hidx
      omega
    -- the network ends within 10/8, so its number is that of a candidate
    have hsmall : idx < 2 ^ (p - 8) := by
      refine Nat.lt_of_succ_le (Nat.le_of_mul_le_mul_right ?_ hpos)
      rw [← hsplit, Nat.succ_mul]
      omega
    have hnat : base = (candidateNet p idx).toNat :=
      hbase.trans (toNat_candidateNet hlo hhi hsmall).symm
    exact ⟨idx, hsmall, hnat, overlaps_eq_false_iff.mpr (hnat ▸ hapart)⟩
  · rintro ⟨idx, hidx, rfl, hfree⟩
    have hnat := toNat_candidateNet hlo hhi hidx
    have hle : (idx + 1) * 2 ^ (32 - p) ≤ 2 ^ (p - 8) * 2 ^ (32 - p) :=
      Nat.mul_le_mul_right _ hidx
    rw [Nat.succ_mul, ← hsplit] at hle
    refine ⟨?_, ⟨by omega, by omega⟩, overlaps_eq_false_iff.mp hfree⟩
    rw [hnat]
    exact Nat.dvd_add hten (Nat.dvd_mul_left _ _)

/-- **The allocator finds a free network whenever there is one.** -/
theorem freeNet_pickNewNet {prefixLen : Nat} (hlo : 8 ≤ prefixLen) {assigned : List Ipv4Net}
    (hfree : ∃ base, FreeNet (min prefixLen 30) assigned base) (rng : Rng) :
    FreeNet (min prefixLen 30) assigned (pickNewNet prefixLen rng assigned).1.toNat := by
  have hclamp : clampPrefix prefixLen = min prefixLen 30 := by
    unfold clampPrefix
    omega
  obtain ⟨⟨idx, hidx, hnet⟩, hspec⟩ := pickNewNet_spec prefixLen rng assigned
  rw [hclamp] at hidx hnet hspec
  refine (freeNet_iff (by omega) (by omega)).mpr ⟨idx, hidx, by rw [hnet], ?_⟩
  rcases hspec with hspec | ⟨-, hfull⟩
  · rwa [hnet] at hspec
  · -- the scan saw every candidate taken, the free one as well
    obtain ⟨base, hbase⟩ := hfree
    obtain ⟨idx', hidx', -, hfree'⟩ := (freeNet_iff (by omega) (by omega)).mp hbase
    rw [hfull idx' hidx'] at hfree'
    cases hfree'

/-! ## The loop over the groups -/

/-- The loop serves its first groups as if there were no others. -/
theorem assignNets_append (done rest : List Ipv4Net) (rng : Rng) (assigned : List Ipv4Net) :
    ∃ rng', assignNets (done ++ rest) rng assigned = assignNets done rng assigned ++
      assignNets rest rng' (assigned ++ (assignNets done rng assigned).map Prod.snd) := by
  induction done generalizing rng assigned with
  | nil => exact ⟨rng, by rw [assignNets, List.map_nil, List.append_nil, List.nil_append]; rfl⟩
  | cons g done ih =>
    obtain ⟨rng', hrest⟩ := ih (pickNewNet g.prefixLen rng assigned).2
      (assigned ++ [{ g with addr := (pickNewNet g.prefixLen rng assigned).1 }])
    refine ⟨rng', ?_⟩
    rw [List.append_assoc] at hrest
    exact congrArg (List.cons _) hrest

/-- What the loop has assigned, and the groups still to serve. -/
theorem Allocating.after {done rest assigned : List Ipv4Net}
    (h : Allocating assigned (done ++ rest)) (rng : Rng) :
    Allocating (assigned ++ (assignNets done rng assigned).map Prod.snd) rest := by
  induction done generalizing rng assigned with
  | nil =>
    rw [assignNets, List.map_nil, List.append_nil]
    exact h
  | cons g done ih =>
    have hrest := ih (h.step rng) (pickNewNet g.prefixLen rng assigned).2
    rwa [List.append_assoc] at hrest

/-- **While the groups fit, a network is free for each of them, and it gets a free one.** -/
theorem assignNets_step {done rest : List Ipv4Net} {g : Ipv4Net}
    (h : Allocating [] (done ++ g :: rest))
    (hfits : ((done ++ g :: rest).map slotSize).sum ≤ 16777216) (rng : Rng) :
    (∃ base, FreeNet (slotPrefix g) ((assignNets done rng []).map Prod.snd) base) ∧
      ∃ net, (assignNets (done ++ g :: rest) rng [])[done.length]? = some (g, net) ∧
        FreeNet (slotPrefix g) ((assignNets done rng []).map Prod.snd) net.addr.toNat := by
  have hafter := h.after rng
  rw [List.nil_append] at hafter
  have hg : 8 ≤ g.prefixLen := hafter.prefix_ge g List.mem_cons_self
  -- a /31 or a /32 takes the place of a /30
  have hslot : 8 ≤ slotPrefix g ∧ slotPrefix g ≤ 30 := by
    unfold slotPrefix
    omega
  rw [List.map_append, List.sum_append, List.map_cons, List.sum_cons] at hfits
  obtain ⟨idx, hidx, hidle⟩ := exists_free hafter.allocated
    (fun n hn => hafter.sorted n hn g List.mem_cons_self) hg (by
      rw [map_slotSize_assignNets]
      omega)
  have hfree : ∃ base, FreeNet (slotPrefix g) ((assignNets done rng []).map Prod.snd) base :=
    ⟨_, (freeNet_iff hslot.1 hslot.2).mpr ⟨idx, hidx, rfl, hidle⟩⟩
  obtain ⟨rng', hloop⟩ := assignNets_append done (g :: rest) rng []
  rw [List.nil_append] at hloop
  have hlen : (assignNets done rng []).length = done.length := by
    rw [← List.length_map (f := Prod.fst), map_fst_assignNets]
  refine ⟨hfree, { g with addr := (pickNewNet g.prefixLen rng'
    ((assignNets done rng []).map Prod.snd)).1 }, ?_, freeNet_pickNewNet hg hfree rng'⟩
  rw [hloop, List.getElem?_append_right (by rw [hlen]), hlen, Nat.sub_self]
  rfl

/-- **10/8 is packed completely**: the allocator finds a free network whenever there is one, and
in a remap whose groups fit into 10/8 there is one for every group, so that the new networks
share no address. -/
theorem allocator_packs (prefixLen : Nat) (hlo : 8 ≤ prefixLen) :
    (∀ (assigned : List Ipv4Net) (rng : Rng),
      (∃ base, FreeNet (min prefixLen 30) assigned base) →
        FreeNet (min prefixLen 30) assigned (pickNewNet prefixLen rng assigned).1.toNat) ∧
    ∀ (cap : Capture) (hints : List Ipv4Net) (rng : Rng), groupDemand cap hints ≤ 2 ^ 24 →
      (∀ done g rest, sortedGroups (groupByHost cap hints) = done ++ g :: rest →
        (∃ base, FreeNet (slotPrefix g) ((assignNets done rng []).map Prod.snd) base) ∧
          ∃ net, (assignNets (sortedGroups (groupByHost cap hints)) rng [])[done.length]? =
              some (g, net) ∧
            FreeNet (slotPrefix g) ((assignNets done rng []).map Prod.snd) net.addr.toNat) ∧
      ((assignNets (sortedGroups (groupByHost cap hints)) rng []).map Prod.snd).Pairwise
        NetsApart := by
  refine ⟨fun assigned rng hfree => freeNet_pickNewNet hlo hfree rng, fun cap hints rng hfits =>
    ⟨fun done g rest hgroups => ?_, ?_⟩⟩
  · have hallocating := allocating_sortedGroups cap hints
    rw [groupDemand, hgroups] at hfits
    rw [hgroups] at hallocating ⊢
    exact assignNets_step hallocating hfits rng
  · exact (apart_iff_demand_le (allocating_sortedGroups cap hints) rng).mpr hfits

/-- Half of 10/8 is left for a /9; and of two hosts in different /24 both get a network. -/
theorem allocator_packs_two :
    FreeNet 9 [⟨ipv4 10 0 0 0, 9, by decide⟩]
        (pickNewNet 9 ⟨fun _ => 0, 0⟩ [⟨ipv4 10 0 0 0, 9, by decide⟩]).1.toNat ∧
      ((assignNets (sortedGroups (groupByHost ⟨[⟨1, 34, twoNetsFrame⟩]⟩ [])) ⟨fun _ => 0, 0⟩
        []).map Prod.snd).Pairwise NetsApart := by
  have hhalf : FreeNet 9 [⟨ipv4 10 0 0 0, 9, by decide⟩] (ipv4 10 128 0 0).toNat := by
    refine ⟨⟨21, by decide⟩, by decide, ?_⟩
    intro n hn
    rw [List.mem_singleton.mp hn]
    exact .inr (by decide)
  exact ⟨(allocator_packs 9 (by decide)).1 _ _ ⟨_, hhalf⟩,
    ((allocator_packs 9 (by decide)).2 ⟨[⟨1, 34, twoNetsFrame⟩]⟩ [] ⟨fun _ => 0, 0⟩
      (by decide +kernel)).2⟩

end TurboLaser
