import TurboLaser.Proto.NetAllocation
import TurboLaser.Proto.RewriteFacts

/-!
# The per-run remap keeps the topology

The host map of `remapCapture` sends a host to the network its group was assigned, at the offset it
had in its group. Offsets and 10/8 hold for every capture; that groups stay apart, and with it
injectivity, holds exactly when the groups of the capture fit into 10/8 (`topologyPreserving_iff`).

That the topology is kept means four things (`TopologyPreserving`): hosts of one group stay in one
network, hosts of different groups come into different ones that share no address, no two hosts
become one, and everything is in 10/8. The first is how the map is made. The others are about the
list of assigned networks, and `Proto.NetAllocation` has decided when these are apart; what is left
to show here is that the list is the one that the map was made from, in spite of the two maps and
the sort in between, and that a group whose offset does not fit the assigned network does not occur
(`prefix_groupOf_ge`).

A capture that does not fit needs more than sixteen million addresses in its groups' networks, which
takes hints with very short prefixes; `topologyPreserving_fails` is one.
-/

namespace TurboLaser

open Lib

/-- The network a host was moved to: its new address without its offset. -/
def newNetOf (hints : List Ipv4Net) (map : HostMap) (a : Ipv4Addr) : Ipv4Net :=
  { groupOf a hints with addr := image map a &&& maskFor (groupOf a hints).prefixLen }

/-- A host map that only moves groups around: it is injective, hosts of one group
share their new network, hosts of different groups get networks that share no
address, every host keeps its offset in its group, and everything is in 10/8. -/
structure TopologyPreserving (hints : List Ipv4Net) (map : HostMap) : Prop where
  injective : ∀ a ∈ map, ∀ b ∈ map, image map a = image map b → a = b
  sameNet : ∀ a ∈ map, ∀ b ∈ map, groupOf a hints = groupOf b hints →
    newNetOf hints map a = newNetOf hints map b
  apart : ∀ a ∈ map, ∀ b ∈ map, groupOf a hints ≠ groupOf b hints →
    NetsApart (newNetOf hints map a) (newNetOf hints map b)
  offset : ∀ a ∈ map, image map a &&& ~~~ maskFor (groupOf a hints).prefixLen =
    a &&& ~~~ maskFor (groupOf a hints).prefixLen
  inTen : ∀ a ∈ map, image map a >>> 24 = 10

/-- The addresses the groups of a capture take out of 10/8. -/
def groupDemand (cap : Capture) (hints : List Ipv4Net) : Nat :=
  ((sortedGroups (groupByHost cap hints)).map slotSize).sum

/-! ## Groups -/

theorem prefix_groupOf_ge (a : Ipv4Addr) (hints : List Ipv4Net) :
    8 ≤ (groupOf a hints).prefixLen := by
  unfold groupOf
  split
  · next h hfind =>
    have := List.find?_some hfind
    rw [Bool.and_eq_true, decide_eq_true_iff] at this
    exact this.1
  · show 8 ≤ 24
    decide

theorem addr_groupOf (a : Ipv4Addr) (hints : List Ipv4Net) :
    (groupOf a hints).addr = a &&& maskFor (groupOf a hints).prefixLen := by
  unfold groupOf
  split <;> rfl

theorem lookup_foldl_noteHost {hints : List Ipv4Net} (hosts : List Ipv4Addr)
    {m : AList fun _ : Ipv4Addr => Ipv4Net}
    (hm : ∀ b g, m.lookup b = some g → g = groupOf b hints) (a : Ipv4Addr) :
    (hosts.foldl (noteHost hints) m).lookup a =
      if a ∈ m ∨ a ∈ hosts then some (groupOf a hints) else none := by
  induction hosts generalizing m with
  | nil =>
    by_cases ha : a ∈ m
    · obtain ⟨g, hg⟩ := Option.isSome_iff_exists.mp (AList.lookup_isSome.mpr ha)
      rw [if_pos (Or.inl ha), ← hm a g hg]
      exact hg
    · rw [if_neg (by simpa using ha)]
      exact AList.lookup_eq_none.mpr ha
  | cons addr hosts ih =>
    rw [List.foldl_cons]
    -- a host that is noted already is passed over, and its note was right
    by_cases hin : addr ∈ m
    · rw [noteHost, if_pos hin, ih hm]
      refine if_congr ?_ rfl rfl
      rw [List.mem_cons]
      constructor
      · exact Or.imp_right Or.inr
      · rintro (h | rfl | h)
        exacts [Or.inl h, Or.inl hin, Or.inr h]
    · rw [noteHost, if_neg hin, ih]
      · refine if_congr ?_ rfl rfl
        rw [AList.mem_insert, List.mem_cons]
        tauto
      · intro b g hb
        by_cases hba : b = addr
        · subst hba
          rw [AList.lookup_insert] at hb
          exact (Option.some.inj hb).symm
        · rw [AList.lookup_insert_ne hba] at hb
          exact hm b g hb

/-- Exactly the remappable addresses of the capture are grouped, each with its own group. -/
theorem lookup_groupByHost (cap : Capture) (hints : List Ipv4Net) (a : Ipv4Addr) :
    (groupByHost cap hints).lookup a =
      if a ∈ captureHosts cap then some (groupOf a hints) else none := by
  rw [groupByHost, lookup_foldl_noteHost _ (fun b g hb => by rw [AList.lookup_empty] at hb; cases hb)]
  exact if_congr (or_iff_right (AList.notMem_empty a)) rfl rfl

theorem mem_sortedGroups {cap : Capture} {hints : List Ipv4Net} {g : Ipv4Net} :
    g ∈ sortedGroups (groupByHost cap hints) ↔ ∃ a ∈ captureHosts cap, groupOf a hints = g := by
  rw [sortedGroups, List.mem_insertionSort, List.mem_dedup, List.mem_map]
  constructor
  · rintro ⟨⟨a, g⟩, he, rfl⟩
    have hl := AList.mem_lookup_iff.mpr he
    rw [lookup_groupByHost] at hl
    split at hl
    · next ha => exact ⟨a, ha, Option.some.inj hl⟩
    · cases hl
  · rintro ⟨a, ha, rfl⟩
    refine ⟨⟨a, groupOf a hints⟩, AList.mem_lookup_iff.mp ?_, rfl⟩
    rw [lookup_groupByHost, if_pos ha]
    rfl

instance : Std.Total groupLe where
  total g g' := by
    unfold groupLe
    omega

instance : IsTrans Ipv4Net groupLe where
  trans g g' g'' h h' := by
    unfold groupLe at *
    omega

/-- The groups are served from the shortest prefix on. -/
theorem allocating_sortedGroups (cap : Capture) (hints : List Ipv4Net) :
    Allocating [] (sortedGroups (groupByHost cap hints)) := by
  refine ⟨nofun, nofun, ?_, fun g hg => ?_⟩
  · refine (List.pairwise_insertionSort groupLe _).imp fun h => ?_
    unfold groupLe at h
    omega
  · obtain ⟨a, -, rfl⟩ := mem_sortedGroups.mp hg
    exact prefix_groupOf_ge a hints

/-! ## Where a host goes -/

/-- A group that is served has a network, of its own prefix length. -/
theorem lookup_assignNets {groups : List Ipv4Net} {g : Ipv4Net} (hg : g ∈ groups) (rng : Rng)
    (assigned : List Ipv4Net) :
    ∃ n, (assignNets groups rng assigned).lookup g = some n ∧
      (g, n) ∈ assignNets groups rng assigned ∧ n = { g with addr := n.addr } := by
  induction groups generalizing rng assigned with
  | nil => cases hg
  | cons g' groups ih =>
    rw [assignNets]
    by_cases hsame : g = g'
    · subst hsame
      exact ⟨_, List.lookup_cons_self, List.mem_cons_self, rfl⟩
    · obtain ⟨n, hn, hmem, heq⟩ := ih ((List.mem_cons.mp hg).resolve_left hsame) _ _
      refine ⟨n, ?_, List.mem_cons_of_mem _ hmem, heq⟩
      rw [List.lookup_cons, beq_false_of_ne hsame]
      exact hn

theorem lookup_remapMap (cap : Capture) (hints : List Ipv4Net) (rng : Rng) (a : Ipv4Addr) :
    (remapMap cap hints rng).lookup a =
      ((groupByHost cap hints).lookup a).map
        (relocate (assignNets (sortedGroups (groupByHost cap hints)) rng []) a) := by
  unfold remapMap
  rw [AList.lookup_to_alist]
  exact List.dlookup_map₂ (f := relocate (assignNets (sortedGroups (groupByHost cap hints)) rng []))
    a

/-- The hosts of the map are the remappable addresses of the capture. -/
theorem mem_remapMap {cap : Capture} {hints : List Ipv4Net} {rng : Rng} {a : Ipv4Addr} :
    a ∈ remapMap cap hints rng ↔ a ∈ captureHosts cap := by
  rw [← AList.lookup_isSome, lookup_remapMap, lookup_groupByHost]
  by_cases ha : a ∈ captureHosts cap
  · simp [ha]
  · simp [ha]

/-- Where the map sends a host: its offset, set into the network of its group. -/
structure Moved (hints : List Ipv4Net) (map : HostMap) (nets : List (Ipv4Net × Ipv4Net))
    (a : Ipv4Addr) (n : Ipv4Net) : Prop where
  lookup : nets.lookup (groupOf a hints) = some n
  mem : (groupOf a hints, n) ∈ nets
  alloc : Allocated n
  prefixLen : n.prefixLen = (groupOf a hints).prefixLen
  net : newNetOf hints map a = n
  offset : image map a &&& ~~~ maskFor (groupOf a hints).prefixLen =
    a &&& ~~~ maskFor (groupOf a hints).prefixLen
  toNat : (image map a).toNat =
    n.addr.toNat + (a &&& ~~~ maskFor (groupOf a hints).prefixLen).toNat

theorem Allocated.size_dvd {n : Ipv4Net} (h : Allocated n) : n.size ∣ n.addr.toNat := by
  obtain ⟨idx, -, haddr⟩ := h.candidate
  have hslot : n.size ∣ slotSize n :=
    Nat.pow_dvd_pow 2 (by have := n.prefixLen_le; unfold slotPrefix; omega)
  have hbase : slotSize n ∣ 167772160 := by
    have h24 : slotSize n ∣ 2 ^ 24 :=
      Nat.pow_dvd_pow 2 (by have := h.prefix_ge; unfold slotPrefix; omega)
    exact h24.trans ⟨10, rfl⟩
  rw [haddr]
  exact Nat.dvd_add (hslot.trans hbase) (hslot.trans (Nat.dvd_mul_left _ _))

theorem moved_remapMap {cap : Capture} (hints : List Ipv4Net) (rng : Rng) {a : Ipv4Addr}
    (ha : a ∈ captureHosts cap) :
    ∃ n, Moved hints (remapMap cap hints rng)
      (assignNets (sortedGroups (groupByHost cap hints)) rng []) a n := by
  obtain ⟨n, hlookup, hmem, heq⟩ :=
    lookup_assignNets (mem_sortedGroups.mpr ⟨a, ha, rfl⟩) rng []
  have halloc := allocated_assignNets (allocating_sortedGroups cap hints) rng n
    (List.mem_map.mpr ⟨_, hmem, rfl⟩)
  have himage : image (remapMap cap hints rng) a =
      n.addr ||| (a &&& ~~~ maskFor (groupOf a hints).prefixLen) := by
    rw [image, lookup_remapMap, lookup_groupByHost, if_pos ha]
    show relocate _ a (groupOf a hints) = _
    rw [relocate, hlookup]
  have hp := (groupOf a hints).prefixLen_le
  have hlen : n.prefixLen = (groupOf a hints).prefixLen := by rw [heq]
  have hdvd : 2 ^ (32 - (groupOf a hints).prefixLen) ∣ n.addr.toNat := by
    rw [← hlen]
    exact halloc.size_dvd
  have hoff := and_not_maskFor_lt a hp
  refine ⟨n, hlookup, hmem, halloc, hlen, ?_, ?_, ?_⟩
  · rw [newNetOf, himage, or_offset_and_maskFor hp hdvd hoff, heq]
  · rw [himage, or_offset_and_not_maskFor hp hdvd hoff]
  · rw [himage, toNat_or_offset hdvd hoff]

/-! ## The topology

A host is its group's network and an offset in it, and the remap replaces the network. So the map is
injective and keeps groups apart as soon as the new networks share no address, which is a matter of
room in 10/8. When there is no room two groups are given networks that overlap, and the topology is
lost.
-/

/-- A moved host stays inside its new network. -/
theorem Moved.range {hints : List Ipv4Net} {map : HostMap} {nets : List (Ipv4Net × Ipv4Net)}
    {a : Ipv4Addr} {n : Ipv4Net} (h : Moved hints map nets a n) :
    n.addr.toNat ≤ (image map a).toNat ∧ (image map a).toNat < n.addr.toNat + n.size := by
  have hoff := and_not_maskFor_lt a (groupOf a hints).prefixLen_le
  rw [← h.prefixLen] at hoff
  have htoNat := h.toNat
  rw [← h.prefixLen] at htoNat
  have hsize : n.size = 2 ^ (32 - n.prefixLen) := rfl
  omega

/-- A host is its group's network and its offset. -/
theorem eq_of_group_offset {hints : List Ipv4Net} {a b : Ipv4Addr}
    (hg : groupOf a hints = groupOf b hints)
    (hoff : a &&& ~~~ maskFor (groupOf a hints).prefixLen =
      b &&& ~~~ maskFor (groupOf a hints).prefixLen) : a = b := by
  have hp := (groupOf a hints).prefixLen_le
  have hnet : a &&& maskFor (groupOf a hints).prefixLen =
      b &&& maskFor (groupOf a hints).prefixLen := by
    rw [← addr_groupOf a hints, hg, addr_groupOf b hints]
  apply UInt32.toNat_inj.mp
  calc a.toNat
      = (a &&& maskFor (groupOf a hints).prefixLen).toNat +
          (a &&& ~~~ maskFor (groupOf a hints).prefixLen).toNat := (toNat_mask_add_offset a hp).symm
    _ = (b &&& maskFor (groupOf a hints).prefixLen).toNat +
          (b &&& ~~~ maskFor (groupOf a hints).prefixLen).toNat := by rw [hnet, hoff]
    _ = b.toNat := toNat_mask_add_offset b hp

theorem map_fst_assignNets (groups : List Ipv4Net) (rng : Rng) (assigned : List Ipv4Net) :
    (assignNets groups rng assigned).map Prod.fst = groups := by
  induction groups generalizing assigned rng with
  | nil => rfl
  | cons g groups ih => rw [assignNets, List.map_cons, ih]

theorem nodup_sortedGroups (byHost : AList fun _ : Ipv4Addr => Ipv4Net) :
    (sortedGroups byHost).Nodup :=
  (List.perm_insertionSort groupLe _).nodup_iff.mpr (List.nodup_dedup _)

/-- When the groups fit, the map keeps the topology. -/
theorem topologyPreserving_of_fits {cap : Capture} {hints : List Ipv4Net}
    (hfits : groupDemand cap hints ≤ 16777216) (rng : Rng) :
    TopologyPreserving hints (remapMap cap hints rng) := by
  have hpair := (apart_iff_demand_le (allocating_sortedGroups cap hints) rng).mpr hfits
  have happart : ∀ a ∈ remapMap cap hints rng, ∀ b ∈ remapMap cap hints rng,
      groupOf a hints ≠ groupOf b hints →
      NetsApart (newNetOf hints (remapMap cap hints rng) a)
        (newNetOf hints (remapMap cap hints rng) b) := by
    intro a ha b hb hne
    obtain ⟨n, hn⟩ := moved_remapMap hints rng (mem_remapMap.mp ha)
    obtain ⟨m, hm⟩ := moved_remapMap hints rng (mem_remapMap.mp hb)
    rw [hn.net, hm.net]
    have hentries := List.pairwise_map.mp hpair
    have : Std.Symm fun e e' : Ipv4Net × Ipv4Net => NetsApart e.2 e'.2 :=
      ⟨fun _ _ h => Apart.symm h⟩
    exact hentries.forall hn.mem hm.mem fun h => hne (congrArg Prod.fst h)
  refine ⟨?_, ?_, happart, ?_, ?_⟩
  · intro a ha b hb himage
    obtain ⟨n, hn⟩ := moved_remapMap hints rng (mem_remapMap.mp ha)
    obtain ⟨m, hm⟩ := moved_remapMap hints rng (mem_remapMap.mp hb)
    -- in one network the offsets tell hosts apart, in two the networks do
    by_cases hg : groupOf a hints = groupOf b hints
    · apply eq_of_group_offset hg
      rw [← hn.offset, himage, hg, hm.offset]
    · have hdisj := happart a ha b hb hg
      rw [hn.net, hm.net] at hdisj
      have hra := hn.range
      have hrb := hm.range
      rw [himage] at hra
      unfold NetsApart Apart netRun at hdisj
      dsimp only at hdisj
      omega
  · intro a ha b hb hg
    obtain ⟨n, hn⟩ := moved_remapMap hints rng (mem_remapMap.mp ha)
    obtain ⟨m, hm⟩ := moved_remapMap hints rng (mem_remapMap.mp hb)
    have hlookup := hn.lookup
    rw [hg, hm.lookup] at hlookup
    rw [hn.net, hm.net, Option.some.inj hlookup]
  · intro a ha
    obtain ⟨n, hn⟩ := moved_remapMap hints rng (mem_remapMap.mp ha)
    exact hn.offset
  · intro a ha
    obtain ⟨n, hn⟩ := moved_remapMap hints rng (mem_remapMap.mp ha)
    have hrange := hn.range
    have hslot := hn.alloc.slot_le
    have hsize := size_le_slotSize n
    exact shiftRight_eq_ten_iff.mpr ⟨by omega, by omega⟩

/-- When the map keeps groups apart, they fit. -/
theorem fits_of_topologyPreserving {cap : Capture} {hints : List Ipv4Net} {rng : Rng}
    (h : TopologyPreserving hints (remapMap cap hints rng)) :
    groupDemand cap hints ≤ 16777216 := by
  refine (apart_iff_demand_le (allocating_sortedGroups cap hints) rng).mp ?_
  -- the groups are distinct, so two entries with one group are one entry
  have hfst : ((assignNets (sortedGroups (groupByHost cap hints)) rng []).map Prod.fst).Nodup := by
    rw [map_fst_assignNets]
    exact nodup_sortedGroups _
  have hinj := List.inj_on_of_nodup_map hfst
  have hmoved : ∀ e ∈ assignNets (sortedGroups (groupByHost cap hints)) rng [],
      ∃ a ∈ remapMap cap hints rng, groupOf a hints = e.1 ∧
        newNetOf hints (remapMap cap hints rng) a = e.2 := by
    intro e he
    have hg : e.1 ∈ sortedGroups (groupByHost cap hints) := by
      rw [← map_fst_assignNets (sortedGroups (groupByHost cap hints)) rng []]
      exact List.mem_map.mpr ⟨e, he, rfl⟩
    obtain ⟨a, ha, hga⟩ := mem_sortedGroups.mp hg
    obtain ⟨n, hn⟩ := moved_remapMap hints rng ha
    have hsame := hinj hn.mem he hga
    exact ⟨a, mem_remapMap.mpr ha, hga, by rw [hn.net, ← hsame]⟩
  rw [List.pairwise_map]
  refine (List.Nodup.of_map _ hfst).pairwise_of_forall_ne fun e he e' he' hne => ?_
  obtain ⟨a, ha, hga, hna⟩ := hmoved e he
  obtain ⟨b, hb, hgb, hnb⟩ := hmoved e' he'
  rw [← hna, ← hnb]
  refine h.apart a ha b hb fun hg => hne (hinj he he' ?_)
  rw [← hga, hg, hgb]

/-- **When the per-run remap keeps the topology**: exactly when the groups of the capture, a /31 or
/32 counted as a /30, fit into 10/8 together. The draws do not matter: allocation scans on from
where a draw lands, so it finds a network for every group as long as there is one. -/
theorem topologyPreserving_iff (cap : Capture) (hints : List Ipv4Net) (rng : Rng) :
    TopologyPreserving hints (remapMap cap hints rng) ↔ groupDemand cap hints ≤ 16777216 :=
  ⟨fits_of_topologyPreserving, fun h => topologyPreserving_of_fits h rng⟩

/-- A bare IPv4 header from 1.0.0.1 to 2.0.0.1 in an Ethernet frame. -/
def twoNetsFrame : List UInt8 :=
  [0x52, 0x54, 0, 0, 0, 1, 0x52, 0x54, 0, 0, 0, 2, 0x08, 0x00,
    0x45, 0, 0, 20, 0, 0, 0x40, 0, 0x40, 253, 0, 0, 1, 0, 0, 1, 2, 0, 0, 1]

/-- Two hosts in two /8 networks, both given as hints, land on one address. -/
theorem topologyPreserving_fails :
    ¬ ∀ (cap : Capture) (hints : List Ipv4Net) (rng : Rng),
      TopologyPreserving hints (remapMap cap hints rng) := by
  intro h
  have hfits := fits_of_topologyPreserving
    (h ⟨[⟨1, 34, twoNetsFrame⟩]⟩ [⟨ipv4 1 0 0 0, 8, by decide⟩, ⟨ipv4 2 0 0 0, 8, by decide⟩]
      ⟨fun _ => 0, 0⟩)
  exact absurd hfits (by decide +kernel)

end TurboLaser
