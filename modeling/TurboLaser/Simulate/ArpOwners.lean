import TurboLaser.Simulate.ArpGraph

/-!
# Every asset answers, and nobody scans

Assets that are well placed, with different addresses in disjoint zones, make a graph whose nodes
all have different addresses: the station and the requester of a zone lie in the zone, and no asset
has their addresses. Every zone has two nodes at least, so its cells are a partition into cells of
two to six.

The graph is made from the texts of the ledger, and the zone of an asset is a text as well. So
`WellPlaced` asks for what the ledger's invariant gives for values: texts that are read, and zones
that share no address. What it does not ask for is that the synthetic nodes differ from assets,
since `zoneNodes` looks for that itself.

- `WellPlaced`: what is asked of the assets;
- `zoneNodes_spec`, `graphNodes_nodup`: the nodes of a zone, and of all zones;
- `exists_edge_of_asset`: **every asset is the owner of an edge**, under its stored MAC;
- `card_owners_le`: **no requester asks for more than five owners**, told apart by any key that
  differs on the nodes;
- `nodup_macs`: when the nodes differ in their MACs, too. MACs of synthetic nodes are hashed, so
  this takes a hypothesis.
-/

namespace TurboLaser

open Scenario

/-- The addresses of the assets parse and differ; the zones are disjoint networks of prefix
8 to 30, each with its assets in it. -/
structure WellPlaced (assets : List AssetText) : Prop where
  parses : ∀ a ∈ assets, (parseIpv4Addr a.ip).isSome = true
  distinct : (assets.map fun a => parseIpv4Addr a.ip).Nodup
  zone : ∀ a ∈ assets, ∃ net, parseIpv4Net a.subnetCidr = some net ∧ 8 ≤ net.prefixLen ∧
    net.prefixLen ≤ 30 ∧ ∀ ip ∈ parseIpv4Addr a.ip, net.contains ip = true
  apart : ∀ a ∈ assets, ∀ b ∈ assets, a.subnetCidr ≠ b.subnetCidr →
    ∀ net ∈ parseIpv4Net a.subnetCidr, ∀ net' ∈ parseIpv4Net b.subnetCidr, ∀ ip,
      ¬ (net.contains ip = true ∧ net'.contains ip = true)

/-- The nodes of the assets of a zone, in ledger order. -/
def nodesIn (assets : List AssetText) (cidr : String) : List Node :=
  ((placedNodes assets).filter fun x => decide (x.1 = cidr)).map Prod.snd

/-- All nodes of the graph. -/
def graphNodes (assets : List AssetText) (seed : UInt64) : List Node :=
  (zonesOf assets).flatMap fun z => zoneNodes seed z.1 z.2

/-- All cells of the graph. -/
def graphCells (assets : List AssetText) (seed : UInt64) : List (List Node) :=
  (zonesOf assets).flatMap fun z => cellsNoOrphan (zoneNodes seed z.1 z.2) cellSize

theorem arpEdges_eq (assets : List AssetText) (seed : UInt64) :
    arpEdges assets seed = (graphCells assets seed).flatMap cellEdges := by
  rw [arpEdges, graphCells, List.flatMap_assoc]

/-! ## Zones

The nodes of a zone are its assets, with the station in front unless an asset has its address. An
asset that stands there alone gets a requester one address below. So the addresses of a zone are
different, there are two at least, and one of them at most is synthetic.
-/

section Zones

variable {assets : List AssetText}

theorem mem_placedNodes {x : String × Node} :
    x ∈ placedNodes assets ↔ ∃ a ∈ assets, a.subnetCidr = x.1 ∧ a.node = some x.2 := by
  obtain ⟨cidr, n⟩ := x
  rw [placedNodes, List.mem_filterMap]
  refine exists_congr fun a => and_congr_right fun _ => ?_
  rw [Option.map_eq_some_iff]
  constructor
  · rintro ⟨m, hm, heq⟩
    obtain ⟨rfl, rfl⟩ := Prod.mk.inj heq
    exact ⟨rfl, hm⟩
  · rintro ⟨rfl, hn⟩
    exact ⟨n, hn, rfl⟩

theorem mem_nodesIn {cidr : String} {n : Node} :
    n ∈ nodesIn assets cidr ↔ ∃ a ∈ assets, a.subnetCidr = cidr ∧ a.node = some n := by
  rw [nodesIn, List.mem_map]
  constructor
  · rintro ⟨x, hx, rfl⟩
    obtain ⟨hx, hcidr⟩ := List.mem_filter.mp hx
    obtain ⟨a, ha, hzone, hnode⟩ := mem_placedNodes.mp hx
    exact ⟨a, ha, hzone.trans (by simpa using hcidr), hnode⟩
  · rintro ⟨a, ha, rfl, hnode⟩
    refine ⟨(a.subnetCidr, n), List.mem_filter.mpr ⟨mem_placedNodes.mpr ⟨a, ha, rfl, hnode⟩, ?_⟩, rfl⟩
    exact decide_eq_true rfl

/-- The zones: those of the assets, each with its nodes. -/
theorem mem_zonesOf {z : String × List Node} :
    z ∈ zonesOf assets ↔ (∃ n, n ∈ nodesIn assets z.1) ∧ z.2 = nodesIn assets z.1 := by
  obtain ⟨cidr, reals⟩ := z
  rw [zonesOf, List.mem_map]
  constructor
  · rintro ⟨c, hc, heq⟩
    obtain ⟨rfl, rfl⟩ := Prod.mk.inj heq
    refine ⟨?_, rfl⟩
    rw [List.mem_insertionSort, List.mem_dedup] at hc
    obtain ⟨x, hx, rfl⟩ := List.mem_map.mp hc
    obtain ⟨a, ha, hzone, hnode⟩ := mem_placedNodes.mp hx
    exact ⟨x.2, mem_nodesIn.mpr ⟨a, ha, hzone, hnode⟩⟩
  · rintro ⟨⟨n, hn⟩, hreals⟩
    obtain ⟨a, ha, rfl, hnode⟩ := mem_nodesIn.mp hn
    refine ⟨a.subnetCidr, ?_, congrArg (Prod.mk a.subnetCidr) hreals.symm⟩
    rw [List.mem_insertionSort, List.mem_dedup]
    exact List.mem_map.mpr ⟨(a.subnetCidr, n), mem_placedNodes.mpr ⟨a, ha, rfl, hnode⟩, rfl⟩

/-- No zone is listed twice. -/
theorem zonesOf_nodup (assets : List AssetText) : ((zonesOf assets).map Prod.fst).Nodup := by
  rw [zonesOf, List.map_map]
  refine List.Nodup.map (fun _ _ h => h) ?_
  exact (List.perm_insertionSort _ _).nodup_iff.mpr (List.nodup_dedup _)

/-- What is needed of the nodes of a zone. -/
structure ZoneSound (net : Ipv4Net) (reals nodes : List Node) : Prop where
  two_le : 2 ≤ nodes.length
  nodup : (nodes.map Node.ip).Nodup
  inside : ∀ n ∈ nodes, net.contains n.ip = true
  reals_subset : ∀ n ∈ reals, n ∈ nodes

/-- The station of a zone and the address below it lie in the zone. -/
theorem contains_station {net : Ipv4Net} (hlo : 1 ≤ net.prefixLen) (hhi : net.prefixLen ≤ 30) :
    net.contains (stationAddrNet net) = true ∧ net.contains (prevAddr (stationAddrNet net)) = true ∧
      prevAddr (stationAddrNet net) ≠ stationAddrNet net := by
  have hstation := (mem_hosts_slots hlo hhi).2.1
  rw [Ipv4Net.mem_hosts hhi] at hstation
  have hne : stationAddrNet net ≠ 0 := by
    intro hzero
    rw [hzero] at hstation
    exact absurd hstation.1 (Nat.not_lt_zero _)
  have hprev : (prevAddr (stationAddrNet net)).toNat = (stationAddrNet net).toNat - 1 := by
    rw [prevAddr, if_neg hne, UInt32.toNat_sub_of_le]
    · rfl
    · rw [UInt32.le_iff_toNat_le]
      show 1 ≤ (stationAddrNet net).toNat
      omega
  refine ⟨Ipv4Net.contains_iff.mpr (by omega), Ipv4Net.contains_iff.mpr (by omega), ?_⟩
  intro heq
  rw [heq] at hprev
  omega

/-- **The nodes of a zone**: two at least, with different addresses of the zone, all assets
among them. -/
theorem zoneNodes_spec (seed : UInt64) {cidr : String} {net : Ipv4Net}
    (hnet : parseIpv4Net cidr = some net) (hlo : 1 ≤ net.prefixLen) (hhi : net.prefixLen ≤ 30)
    {reals : List Node} (hne : reals ≠ []) (hnodup : (reals.map Node.ip).Nodup)
    (hinside : ∀ n ∈ reals, net.contains n.ip = true) :
    ZoneSound net reals (zoneNodes seed cidr reals) := by
  obtain ⟨hin, hin', hdiffer⟩ := contains_station hlo hhi
  have hstation : stationAddr cidr = stationAddrNet net := by
    rw [stationAddr, hnet]
    rfl
  have hperm : (reals.insertionSort fun m n => m.ip ≤ n.ip).Perm reals := List.perm_insertionSort _ _
  have hsorted : ((reals.insertionSort fun m n => m.ip ≤ n.ip).map Node.ip).Nodup :=
    (hperm.map _).nodup_iff.mpr hnodup
  have hsome : (reals.insertionSort fun m n => m.ip ≤ n.ip) ≠ [] := fun h =>
    hne (h ▸ hperm).nil_eq.symm
  have hmem : ∀ n, n ∈ (reals.insertionSort fun m n => m.ip ≤ n.ip) ↔ n ∈ reals :=
    fun n => hperm.mem_iff
  unfold zoneNodes
  rw [hstation]
  generalize (reals.insertionSort fun m n => m.ip ≤ n.ip) = sorted at *
  dsimp only
  by_cases htaken : ∃ n ∈ sorted, n.ip = stationAddrNet net
  · rw [if_pos htaken]
    match sorted, hsome, hsorted, hmem, htaken with
    | [only], _, _, hmem, htaken =>
      -- an asset alone on the station's address
      obtain ⟨n, hn, hip⟩ := htaken
      obtain rfl := List.mem_singleton.mp hn
      dsimp only
      rw [if_neg (hip ▸ hdiffer)]
      refine ⟨Nat.le_refl _, ?_, ?_, fun m hm => List.mem_cons_of_mem _ ((hmem m).mpr hm)⟩
      · simpa [syntheticNode, hip] using hdiffer
      · intro m hm
        rcases List.mem_cons.mp hm with rfl | hm
        · exact hin'
        · exact hinside m ((hmem m).mp hm)
    | n :: m :: rest, _, hsorted, hmem, _ =>
      exact ⟨by simp, hsorted, fun k hk => hinside k ((hmem k).mp hk), fun k hk => (hmem k).mpr hk⟩
  · rw [if_neg htaken]
    match sorted, hsome, hsorted, hmem, htaken with
    | n :: rest, _, hsorted, hmem, htaken =>
      dsimp only
      refine ⟨by simp, ?_, ?_, fun k hk => List.mem_cons_of_mem _ ((hmem k).mpr hk)⟩
      · rw [List.map_cons, List.nodup_cons]
        refine ⟨fun h => ?_, hsorted⟩
        obtain ⟨k, hk, hip⟩ := List.mem_map.mp h
        exact htaken ⟨k, hk, hip⟩
      · intro k hk
        rcases List.mem_cons.mp hk with rfl | hk
        · exact hin
        · exact hinside k ((hmem k).mp hk)

/-- A node of a zone is an asset of it, or carries the natural MAC of its address. -/
theorem mem_zoneNodes {seed : UInt64} {cidr : String} {reals : List Node} {n : Node}
    (hn : n ∈ zoneNodes seed cidr reals) : n ∈ reals ∨ n = syntheticNode seed n.ip := by
  have hsort : ∀ m ∈ reals.insertionSort (fun m n => m.ip ≤ n.ip), m ∈ reals :=
    fun m hm => (List.mem_insertionSort _).mp hm
  unfold zoneNodes at hn
  -- two nodes can be synthetic: the station in front, and the requester of an asset that is alone
  generalize reals.insertionSort (fun m n => m.ip ≤ n.ip) = sorted at hn hsort
  dsimp only at hn
  generalize hnodes : (if ∃ n ∈ sorted, n.ip = stationAddr cidr then sorted
    else syntheticNode seed (stationAddr cidr) :: sorted) = nodes at hn
  have hfront : ∀ m ∈ nodes, m ∈ reals ∨ m = syntheticNode seed m.ip := by
    intro m hm
    rw [← hnodes] at hm
    split at hm
    · exact Or.inl (hsort m hm)
    · rcases List.mem_cons.mp hm with rfl | hm
      · exact Or.inr rfl
      · exact Or.inl (hsort m hm)
  split at hn
  · split at hn
    · exact hfront n hn
    · rcases List.mem_cons.mp hn with rfl | hn
      · exact Or.inr rfl
      · exact hfront n hn
  · exact hfront n hn

end Zones

/-! ## The graph of well placed assets

Assets are well placed when each has an address of its own in its zone, and the zones share none.
Then the nodes of the graph, the assets and at most one synthetic node of each zone, have different
addresses, over all zones. Cells have two nodes at least; so every asset is asked for.
-/

section Graph

variable {assets : List AssetText} (h : WellPlaced assets) (seed : UInt64)

include h

/-- The nodes of a zone have different addresses. -/
theorem WellPlaced.nodesIn_nodup (cidr : String) : ((nodesIn assets cidr).map Node.ip).Nodup := by
  have hall : (placedNodes assets).map (fun x => x.2.ip) =
      (assets.map fun a => parseIpv4Addr a.ip).filterMap id := by
    rw [placedNodes, List.map_filterMap, List.filterMap_map]
    congr 1
    funext a
    simp [AssetText.node, Option.map_map, Function.comp_def]
  have hnodup : ((placedNodes assets).map fun x => x.2.ip).Nodup := by
    rw [hall]
    refine List.Nodup.filterMap ?_ h.distinct
    intro o o' ip hip hip'
    exact hip.trans hip'.symm
  rw [nodesIn, List.map_map]
  exact hnodup.sublist (List.filter_sublist.map _)

/-- The nodes of a zone of well placed assets. -/
theorem WellPlaced.zoneSound {z : String × List Node} (hz : z ∈ zonesOf assets) :
    ∃ net a, a ∈ assets ∧ a.subnetCidr = z.1 ∧ parseIpv4Net z.1 = some net ∧
      ZoneSound net z.2 (zoneNodes seed z.1 z.2) := by
  obtain ⟨⟨n, hn⟩, hreals⟩ := mem_zonesOf.mp hz
  obtain ⟨a, ha, hzone, -⟩ := mem_nodesIn.mp hn
  obtain ⟨net, hnet, hlo, hhi, -⟩ := h.zone a ha
  rw [hzone] at hnet
  refine ⟨net, a, ha, hzone, hnet, ?_⟩
  rw [hreals]
  refine zoneNodes_spec seed hnet (by omega) hhi (List.ne_nil_of_mem hn)
    (h.nodesIn_nodup z.1) ?_
  · intro m hm
    obtain ⟨b, hb, hbzone, hnode⟩ := mem_nodesIn.mp hm
    obtain ⟨net', hnet', -, -, hinside⟩ := h.zone b hb
    obtain rfl : net' = net := Option.some.inj ((hbzone ▸ hnet').symm.trans hnet)
    obtain ⟨ip, hip, rfl⟩ := Option.map_eq_some_iff.mp hnode
    exact hinside ip hip

/-- **All nodes of the graph have different addresses.** -/
theorem WellPlaced.graphNodes_nodup : ((graphNodes assets seed).map Node.ip).Nodup := by
  rw [graphNodes, List.map_flatMap, List.nodup_flatMap]
  constructor
  · intro z hz
    obtain ⟨net, -, -, -, -, hsound⟩ := h.zoneSound seed hz
    exact hsound.nodup
  · refine List.Pairwise.imp_of_mem ?_ (List.pairwise_map.mp (zonesOf_nodup assets))
    intro z z' hz hz' hne
    obtain ⟨net, a, ha, hzone, hnet, hsound⟩ := h.zoneSound seed hz
    obtain ⟨net', a', ha', hzone', hnet', hsound'⟩ := h.zoneSound seed hz'
    intro ip hip hip'
    obtain ⟨n, hn, rfl⟩ := List.mem_map.mp hip
    obtain ⟨n', hn', hsame⟩ := List.mem_map.mp hip'
    refine h.apart a ha a' ha' (by rwa [hzone, hzone']) net (hzone ▸ hnet) net' (hzone' ▸ hnet')
      n.ip ⟨hsound.inside n hn, ?_⟩
    rw [← hsame]
    exact hsound'.inside n' hn'

/-- The cells of the graph: its nodes in order, in cells of two to six. -/
theorem WellPlaced.cellsOf : CellsOf (graphNodes assets seed) (graphCells assets seed) := by
  have hzone : ∀ z ∈ zonesOf assets,
      CellsOf (zoneNodes seed z.1 z.2) (cellsNoOrphan (zoneNodes seed z.1 z.2) cellSize) := by
    intro z hz
    obtain ⟨net, -, -, -, -, hsound⟩ := h.zoneSound seed hz
    exact cellsNoOrphan_spec hsound.two_le
  refine ⟨?_, ?_, ?_⟩
  · rw [graphCells, graphNodes, List.flatten_eq_flatMap, List.flatMap_assoc]
    refine List.flatMap_congr fun z hz => ?_
    rw [← List.flatten_eq_flatMap]
    exact (hzone z hz).flatten_eq
  · intro cell hcell
    obtain ⟨z, hz, hcell⟩ := List.mem_flatMap.mp hcell
    exact (hzone z hz).two_le cell hcell
  · intro cell hcell
    obtain ⟨z, hz, hcell⟩ := List.mem_flatMap.mp hcell
    exact (hzone z hz).length_le cell hcell

/-- Every asset is a node, under its stored MAC. -/
theorem WellPlaced.mem_graphNodes {a : AssetText} (ha : a ∈ assets) {ip : Ipv4Addr}
    (hip : parseIpv4Addr a.ip = some ip) : ⟨ip, parseMac a.mac⟩ ∈ graphNodes assets seed := by
  have hnode : a.node = some ⟨ip, parseMac a.mac⟩ := by
    rw [AssetText.node, hip]
    rfl
  have hreal : ⟨ip, parseMac a.mac⟩ ∈ nodesIn assets a.subnetCidr :=
    mem_nodesIn.mpr ⟨a, ha, rfl, hnode⟩
  have hz : (a.subnetCidr, nodesIn assets a.subnetCidr) ∈ zonesOf assets :=
    mem_zonesOf.mpr ⟨⟨_, hreal⟩, rfl⟩
  obtain ⟨net, -, -, -, -, hsound⟩ := h.zoneSound seed hz
  exact List.mem_flatMap.mpr ⟨_, hz, hsound.reals_subset _ hreal⟩

/-- A node is an asset under its stored MAC, or a synthetic one that no asset has the address
of. -/
theorem WellPlaced.graphNodes_cases {n : Node} (hn : n ∈ graphNodes assets seed) :
    (∃ a ∈ assets, parseIpv4Addr a.ip = some n.ip ∧ n.mac = parseMac a.mac) ∨
      (∀ a ∈ assets, parseIpv4Addr a.ip ≠ some n.ip) ∧ n = syntheticNode seed n.ip := by
  by_cases hasset : ∃ a ∈ assets, parseIpv4Addr a.ip = some n.ip
  · obtain ⟨a, ha, hip⟩ := hasset
    have hsame := List.inj_on_of_nodup_map (h.graphNodes_nodup seed) hn
      (h.mem_graphNodes seed ha hip) rfl
    exact Or.inl ⟨a, ha, hip, congrArg Node.mac hsame⟩
  · have hnone : ∀ a ∈ assets, parseIpv4Addr a.ip ≠ some n.ip :=
      fun a ha hip => hasset ⟨a, ha, hip⟩
    refine Or.inr ⟨hnone, ?_⟩
    obtain ⟨z, hz, hn⟩ := List.mem_flatMap.mp hn
    rcases mem_zoneNodes hn with hreal | hsynthetic
    · rw [(mem_zonesOf.mp hz).2] at hreal
      obtain ⟨a, ha, -, hnode⟩ := mem_nodesIn.mp hreal
      obtain ⟨ip, hip, rfl⟩ := Option.map_eq_some_iff.mp hnode
      exact absurd hip (hnone a ha)
    · exact hsynthetic

/-- **Every asset is the owner of an edge**, under its stored MAC. -/
theorem WellPlaced.exists_edge_of_asset {a : AssetText} (ha : a ∈ assets) :
    ∃ e ∈ arpEdges assets seed, parseIpv4Addr a.ip = some e.owner.ip ∧
      e.owner.mac = parseMac a.mac := by
  obtain ⟨ip, hip⟩ := Option.isSome_iff_exists.mp (h.parses a ha)
  have hmem := h.mem_graphNodes seed ha hip
  rw [← (h.cellsOf seed).flatten_eq] at hmem
  obtain ⟨cell, hcell, hn⟩ := List.mem_flatten.mp hmem
  obtain ⟨e, he, howner⟩ := exists_cellEdge_owner ((h.cellsOf seed).two_le cell hcell) hn
  refine ⟨e, ?_, ?_, ?_⟩
  · rw [arpEdges_eq]
    exact List.mem_flatMap.mpr ⟨cell, hcell, he⟩
  · rw [howner, hip]
  · rw [howner]

/-- An edge joins two nodes of the graph, with different addresses. -/
theorem WellPlaced.of_mem_arpEdges {e : Edge} (he : e ∈ arpEdges assets seed) :
    e.owner ∈ graphNodes assets seed ∧ e.requester.ip ≠ e.owner.ip := by
  rw [arpEdges_eq] at he
  obtain ⟨cell, hcell, he⟩ := List.mem_flatMap.mp he
  have hflat := (h.cellsOf seed).flatten_eq
  have hsub : cell.Sublist (graphNodes assets seed) :=
    hflat ▸ List.sublist_flatten_of_mem hcell
  refine ⟨hsub.subset (mem_of_mem_cellEdges he).2, ?_⟩
  exact cellEdges_ne Node.ip ((h.graphNodes_nodup seed).sublist (hsub.map _)) he

/-- **No requester asks for more than five owners**, told apart by a key that all nodes of the
graph differ in. -/
theorem WellPlaced.card_owners_le {κ : Type} [DecidableEq κ] (key : Node → κ)
    (hkey : ((graphNodes assets seed).map key).Nodup) (k : κ) :
    (((arpEdges assets seed).filter fun e => decide (key e.requester = k)).map
      fun e => e.owner.ip).toFinset.card ≤ cellSize - 1 := by
  have hcells := h.cellsOf seed
  have hle := length_filter_edges_le key hcells.length_le (hcells.flatten_eq ▸ hkey) k
  rw [← arpEdges_eq] at hle
  refine (List.toFinset_card_le _).trans ?_
  rwa [List.length_map]

/-- The nodes that no asset stands behind. -/
def syntheticNodes (assets : List AssetText) (seed : UInt64) : List Node :=
  (graphNodes assets seed).filter fun n =>
    decide (∀ a ∈ assets, parseIpv4Addr a.ip ≠ some n.ip)

/-- When the MACs of the assets and of the synthetic nodes differ, all nodes have different
MACs. -/
theorem WellPlaced.nodup_macs
    (hmacs : ((assets.map fun a => parseMac a.mac) ++
      (syntheticNodes assets seed).map Node.mac).Nodup) :
    ((graphNodes assets seed).map Node.mac).Nodup := by
  obtain ⟨hassets, hsynthetic, hapart⟩ := List.nodup_append.mp hmacs
  have hnodup : (graphNodes assets seed).Nodup := (h.graphNodes_nodup seed).of_map
  refine hnodup.map_on fun n hn m hm hmac => ?_
  have hmem : ∀ n ∈ graphNodes assets seed, (∀ a ∈ assets, parseIpv4Addr a.ip ≠ some n.ip) →
      n ∈ syntheticNodes assets seed :=
    fun n hn hnone => List.mem_filter.mpr ⟨hn, decide_eq_true hnone⟩
  rcases h.graphNodes_cases seed hn with ⟨a, ha, hip, hown⟩ | ⟨hnone, -⟩
  · rcases h.graphNodes_cases seed hm with ⟨b, hb, hip', hown'⟩ | ⟨hnone', -⟩
    · -- two assets
      have hab : a = b := List.inj_on_of_nodup_map hassets ha hb (by rw [← hown, hmac, hown'])
      subst hab
      exact List.inj_on_of_nodup_map (h.graphNodes_nodup seed) hn hm
        (Option.some.inj (hip.symm.trans hip'))
    · refine absurd ?_ (hapart _ (List.mem_map_of_mem ha) _ (List.mem_map_of_mem (hmem m hm hnone')))
      rw [← hown, hmac]
  · rcases h.graphNodes_cases seed hm with ⟨b, hb, -, hown'⟩ | ⟨hnone', -⟩
    · refine absurd ?_ (hapart _ (List.mem_map_of_mem hb) _ (List.mem_map_of_mem (hmem n hn hnone)))
      rw [← hown', hmac]
    · -- two synthetic nodes
      exact List.inj_on_of_nodup_map hsynthetic (hmem n hn hnone) (hmem m hm hnone') hmac

end Graph

end TurboLaser
