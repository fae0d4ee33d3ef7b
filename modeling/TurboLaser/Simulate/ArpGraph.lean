import Mathlib.Data.List.Dedup
import Mathlib.Data.List.Sort
import TurboLaser.Ledger
import TurboLaser.Scenario.Render
import TurboLaser.Simulate.ReservedSlots

/-!
# Who resolves whom by ARP (simulate/roles.rs)

Every zone is cut into small control cells. The master of a cell asks for each member, and the first
member asks for the master, so that every asset answers an ARP request and no host asks for many.
The zone's engineering station leads the first cell.

The cutting is where it can go wrong. A cell of one node would have nobody to ask for it, so a cell
is cut one smaller when a full one would leave a single node behind. With cells of two that cannot
work: an odd number of nodes has no partition into pairs. The source cuts into cells of six, and the
loop is modelled for every size.

- `zonesOf`: the assets by the text of their zone;
- `zoneNodes`: the nodes of a zone, the synthetic one in front;
- `cellLoop`: the loop that cuts, with the number of turns it may take, and `cellLoop_fuel`: these
  are enough;
- `cellsNoOrphan`: the cells; `cellsNoOrphan_upTo_iff`: **when none of them has a single node**;
- `arpEdges`: the resolutions; `length_filter_edges_le`: **no requester asks for more than the
  others of its cell**, as long as the cells' nodes are told apart.
-/

namespace TurboLaser

open Scenario

/-- `CELL_SIZE`. -/
def cellSize : Nat := 6

/-- `Node`. -/
structure Node where
  ip : Ipv4Addr
  mac : Mac
deriving DecidableEq

/-- `Edge`: the requester asks who has the owner's address, and the owner answers. -/
structure Edge where
  requester : Node
  owner : Node
deriving DecidableEq

/-- What the graph reads of an asset, as the ledger file stores it. -/
structure AssetText where
  ip : String
  mac : String
  subnetCidr : String
deriving DecidableEq

/-- The assets of a session as its file stores them: the devices, then the capture hosts. -/
def assetTexts (s : Session) : List AssetText :=
  s.assets.map fun a => ⟨showIpv4Addr a.ip, fmtMac a.mac, showIpv4Net a.subnet⟩

/-- The node of an asset, if its address parses. -/
def AssetText.node (a : AssetText) : Option Node :=
  (parseIpv4Addr a.ip).map fun ip => ⟨ip, parseMac a.mac⟩

/-- The assets whose addresses parse, each with its zone. -/
def placedNodes (assets : List AssetText) : List (String × Node) :=
  assets.filterMap fun a => a.node.map (Prod.mk a.subnetCidr)

/-- The zones of the assets in the order of their texts, each with its nodes in ledger order. -/
def zonesOf (assets : List AssetText) : List (String × List Node) :=
  (((placedNodes assets).map Prod.fst).dedup.insertionSort (· ≤ ·)).map fun cidr =>
    (cidr, ((placedNodes assets).filter fun x => decide (x.1 = cidr)).map Prod.snd)

/-- `saturating_sub(1)` on an address. -/
def prevAddr (a : Ipv4Addr) : Ipv4Addr := if a = 0 then 0 else a - 1

/-- A node that no asset stands behind; its MAC is the natural one of its address. -/
def syntheticNode (seed : UInt64) (ip : Ipv4Addr) : Node := ⟨ip, stableMac seed ip⟩

/-- The nodes of a zone: its assets by address, behind the station unless an asset has the
station's address. An asset that would be alone gets a requester one address below. -/
def zoneNodes (seed : UInt64) (cidr : String) (reals : List Node) : List Node :=
  let reals := reals.insertionSort fun m n => m.ip ≤ n.ip
  let stationIp := stationAddr cidr
  let nodes :=
    if ∃ n ∈ reals, n.ip = stationIp then reals else syntheticNode seed stationIp :: reals
  match nodes with
  | [only] =>
    if prevAddr stationIp = only.ip then [only]
    else [syntheticNode seed (prevAddr stationIp), only]
  | nodes => nodes

/-- The loop of `cells_no_orphan`; every round takes a node, so their number bounds it. -/
def cellLoop {α : Type} (size : Nat) : Nat → List α → List (List α)
  | 0, _ => []
  | _, [] => []
  | fuel + 1, node :: rest =>
    let nodes := node :: rest
    let remaining := nodes.length
    -- one fewer, if a full cell would leave a single node behind
    let take := if size < remaining ∧ remaining - size = 1 then size - 1 else min size remaining
    nodes.take take :: cellLoop size fuel (nodes.drop take)

/-- `cells_no_orphan`. -/
def cellsNoOrphan {α : Type} (nodes : List α) (size : Nat) : List (List α) :=
  if nodes.length = 0 then []
  else if nodes.length ≤ size then [nodes]
  else cellLoop size nodes.length nodes

/-- The edges of a cell: the master asks for each member, and the first member for the master.
A cell is never empty. -/
def cellEdges : List Node → List Edge
  | [] => []
  | [_] => []
  | master :: first :: rest =>
    (first :: rest).map (Edge.mk master) ++ [⟨first, master⟩]

/-- `arp_edges`. -/
def arpEdges (assets : List AssetText) (seed : UInt64) : List Edge :=
  (zonesOf assets).flatMap fun (cidr, reals) =>
    (cellsNoOrphan (zoneNodes seed cidr reals) cellSize).flatMap cellEdges

/-! ## Cells

The source cuts a list into cells and takes care that the last is not a single node, by making the
one before it smaller. In cells of two there is nothing to take from, and an odd node is left over.
For larger cells the partition is sound at every length.
-/

section Cells

variable {α : Type}

/-- What the cells of some nodes are: the nodes in order, in pairs or more and at most six. -/
structure CellsOf (nodes : List α) (cells : List (List α)) : Prop where
  flatten_eq : cells.flatten = nodes
  two_le : ∀ cell ∈ cells, 2 ≤ cell.length
  length_le : ∀ cell ∈ cells, cell.length ≤ cellSize

/-- The same for any size of a cell. -/
structure CellsUpTo (size : Nat) (nodes : List α) (cells : List (List α)) : Prop where
  flatten_eq : cells.flatten = nodes
  two_le : ∀ cell ∈ cells, 2 ≤ cell.length
  length_le : ∀ cell ∈ cells, cell.length ≤ size

/-- The loop stops by itself: every round takes a node, so rounds beyond their number change
nothing. -/
theorem cellLoop_fuel {size fuel : Nat} {nodes : List α} (hsize : 2 ≤ size)
    (hfuel : nodes.length ≤ fuel) : cellLoop size fuel nodes = cellLoop size nodes.length nodes := by
  induction fuel using Nat.strong_induction_on generalizing nodes with
  | _ fuel ih =>
    cases nodes with
    | nil => cases fuel <;> rfl
    | cons node rest =>
      rw [List.length_cons] at hfuel ⊢
      obtain ⟨fuel, rfl⟩ := Nat.exists_eq_add_of_le' (Nat.le_trans (Nat.le_add_left 1 _) hfuel)
      simp only [cellLoop]
      generalize htake : (if size < (node :: rest).length ∧ (node :: rest).length - size = 1 then
        size - 1 else min size (node :: rest).length) = take
      have hlen : ((node :: rest).drop take).length = rest.length + 1 - take := List.length_drop
      have hpos : 1 ≤ take := by
        rw [← htake, List.length_cons]
        split
        · omega
        · omega
      -- what is left is shorter, so both counts of rounds are enough for it
      rw [ih fuel (by omega) (by omega), ← ih rest.length (by omega) (by omega)]

/-- Cells of two leave a single node behind exactly when the nodes are odd in number; larger cells
never do. -/
theorem cellLoop_upTo {size fuel : Nat} {nodes : List α} (hsize : 2 ≤ size)
    (hsound : size ≠ 2 ∨ nodes.length % 2 = 0) (hfuel : nodes.length ≤ fuel)
    (hmany : nodes.length ≠ 1) : CellsUpTo size nodes (cellLoop size fuel nodes) := by
  induction fuel generalizing nodes with
  | zero =>
    obtain rfl := List.eq_nil_of_length_eq_zero (Nat.le_zero.mp hfuel)
    exact ⟨rfl, nofun, nofun⟩
  | succ fuel ih =>
    cases nodes with
    | nil => exact ⟨rfl, nofun, nofun⟩
    | cons node rest =>
      rw [cellLoop]
      have hpos : (node :: rest).length ≠ 0 := Nat.succ_ne_zero _
      generalize node :: rest = nodes at hfuel hmany hpos hsound
      generalize htake : (if size < nodes.length ∧ nodes.length - size = 1 then
        size - 1 else min size nodes.length) = take
      -- a cell takes two nodes or more, and leaves none or two at least
      have hcell : 2 ≤ take ∧ take ≤ size ∧ take ≤ nodes.length ∧ nodes.length - take ≠ 1 ∧
          (size = 2 → take = 2) := by
        rw [← htake]
        split
        · omega
        · omega
      obtain ⟨hlo, hhi, hle, hrest, hpair⟩ := hcell
      have hlen : (nodes.drop take).length = nodes.length - take := List.length_drop
      obtain ⟨hflat, htwo, hupper⟩ := @ih (nodes.drop take) (by omega) (by omega) (by omega)
      refine ⟨?_, ?_, ?_⟩
      · rw [List.flatten_cons, hflat, List.take_append_drop]
      · intro cell hcell
        rcases List.mem_cons.mp hcell with rfl | hcell
        · rw [List.length_take]
          omega
        · exact htwo cell hcell
      · intro cell hcell
        rcases List.mem_cons.mp hcell with rfl | hcell
        · rw [List.length_take]
          exact (Nat.min_le_left _ _).trans hhi
        · exact hupper cell hcell

/-- A partition into cells, where no cell is an orphan. -/
theorem cellsNoOrphan_upTo {size : Nat} {nodes : List α} (hsize : 2 ≤ size)
    (hsound : size ≠ 2 ∨ nodes.length % 2 = 0) (hmany : 2 ≤ nodes.length) :
    CellsUpTo size nodes (cellsNoOrphan nodes size) := by
  unfold cellsNoOrphan
  rw [if_neg (by omega)]
  split
  · next hle =>
    refine ⟨List.flatten_singleton, ?_, ?_⟩
    · intro cell hcell
      rwa [List.mem_singleton.mp hcell]
    · intro cell hcell
      rwa [List.mem_singleton.mp hcell]
  · exact cellLoop_upTo hsize hsound (Nat.le_refl _) (by omega)

/-- **No cell is an orphan, and none is large.** -/
theorem cellsNoOrphan_spec {nodes : List α} (hmany : 2 ≤ nodes.length) :
    CellsOf nodes (cellsNoOrphan nodes cellSize) := by
  have hsize : 2 ≤ cellSize := by decide
  obtain ⟨hflat, htwo, hsix⟩ := cellsNoOrphan_upTo hsize (.inl (by decide)) hmany
  exact ⟨hflat, htwo, hsix⟩

/-- Nodes in cells of two are even in number. -/
theorem CellsUpTo.even {nodes : List α} {cells : List (List α)} (h : CellsUpTo 2 nodes cells) :
    nodes.length % 2 = 0 := by
  have hpairs : ∀ cell ∈ cells, cell.length = 2 := fun cell hcell =>
    Nat.le_antisymm (h.length_le cell hcell) (h.two_le cell hcell)
  have hcount : nodes.length = cells.length * 2 := by
    rw [← h.flatten_eq, List.length_flatten, List.map_congr_left hpairs, List.map_const',
      List.sum_replicate_nat]
  omega

/-- **The cells are a partition without orphans exactly if** they are larger than pairs, or the
nodes are even in number: three nodes in pairs leave the first one alone. -/
theorem cellsNoOrphan_upTo_iff (nodes : List α) (size : Nat) (hmany : 2 ≤ nodes.length)
    (hsize : 2 ≤ size) :
    (∀ fuel, nodes.length ≤ fuel → cellLoop size fuel nodes = cellLoop size nodes.length nodes) ∧
      (CellsUpTo size nodes (cellsNoOrphan nodes size) ↔ size ≠ 2 ∨ nodes.length % 2 = 0) := by
  refine ⟨fun fuel hfuel => cellLoop_fuel hsize hfuel, fun hcells => ?_, fun hsound =>
    cellsNoOrphan_upTo hsize hsound hmany⟩
  by_cases hpairs : size = 2
  · subst hpairs
    exact .inr hcells.even
  · exact .inl hpairs

/-- Thirteen nodes in cells of six. -/
theorem cellsNoOrphan_thirteen :
    CellsUpTo 6 (List.range 13) (cellsNoOrphan (List.range 13) 6) :=
  ((cellsNoOrphan_upTo_iff (List.range 13) 6 (by decide) (by decide)).2).mpr (.inl (by decide))

/-- **Three nodes in pairs: the first is an orphan.** -/
theorem cellsNoOrphan_three :
    cellsNoOrphan [0, 1, 2] 2 = [[0], [1, 2]] ∧
      ¬ ∀ (nodes : List Nat) (size : Nat), 2 ≤ nodes.length → 2 ≤ size →
        CellsUpTo size nodes (cellsNoOrphan nodes size) := by
  refine ⟨by decide, fun h => ?_⟩
  have hcell : [0] ∈ cellsNoOrphan [0, 1, 2] 2 := by decide
  exact absurd ((h [0, 1, 2] 2 (by decide) (by decide)).two_le [0] hcell) (by decide)

end Cells

/-! ## The edges of a cell

The first node of a cell asks for every other, and one of them asks for the first. So every node
answers once, nobody asks for itself, and no one asks for more than the cell has others. Over
several cells the bound holds where nodes are told apart by a key that they differ in.
-/

theorem mem_of_mem_cellEdges {cell : List Node} {e : Edge} (he : e ∈ cellEdges cell) :
    e.requester ∈ cell ∧ e.owner ∈ cell := by
  unfold cellEdges at he
  split at he
  · cases he
  · cases he
  · next master first rest =>
    rcases List.mem_append.mp he with he | he
    · obtain ⟨member, hmember, rfl⟩ := List.mem_map.mp he
      exact ⟨List.mem_cons_self, List.mem_cons_of_mem _ hmember⟩
    · obtain rfl := List.mem_singleton.mp he
      exact ⟨List.mem_cons_of_mem _ List.mem_cons_self, List.mem_cons_self⟩

/-- **Every node of a cell answers.** -/
theorem exists_cellEdge_owner {cell : List Node} (htwo : 2 ≤ cell.length) {n : Node}
    (hn : n ∈ cell) : ∃ e ∈ cellEdges cell, e.owner = n := by
  match cell, htwo with
  | master :: first :: rest, _ =>
    rcases List.mem_cons.mp hn with rfl | hn
    · exact ⟨⟨first, n⟩, List.mem_append_right _ (List.mem_singleton.mpr rfl), rfl⟩
    · exact ⟨⟨master, n⟩, List.mem_append_left _ (List.mem_map_of_mem hn), rfl⟩

/-- No node asks for itself. -/
theorem cellEdges_ne {κ : Type} (key : Node → κ) {cell : List Node}
    (hnodup : (cell.map key).Nodup) {e : Edge} (he : e ∈ cellEdges cell) :
    key e.requester ≠ key e.owner := by
  unfold cellEdges at he
  split at he
  · cases he
  · cases he
  · next master first rest =>
    have hmaster : ∀ member ∈ first :: rest, key master ≠ key member := by
      intro member hmember heq
      exact (List.nodup_cons.mp hnodup).1 (heq ▸ List.mem_map_of_mem hmember)
    rcases List.mem_append.mp he with he | he
    · obtain ⟨member, hmember, rfl⟩ := List.mem_map.mp he
      exact hmaster member hmember
    · obtain rfl := List.mem_singleton.mp he
      exact (hmaster first List.mem_cons_self).symm

/-- **No node asks for more than the others of its cell**, told apart by a key. -/
theorem length_filter_cellEdges_le {κ : Type} [DecidableEq κ] (key : Node → κ) {cell : List Node}
    (hnodup : (cell.map key).Nodup) (k : κ) :
    ((cellEdges cell).filter fun e => decide (key e.requester = k)).length ≤ cell.length - 1 := by
  unfold cellEdges
  split
  · exact Nat.zero_le _
  · exact Nat.zero_le _
  · next master first rest =>
    have hne : key first ≠ key master := fun heq =>
      (List.nodup_cons.mp hnodup).1 (heq ▸ List.mem_map_of_mem List.mem_cons_self)
    rw [List.filter_append, List.length_append]
    by_cases hk : key master = k
    · -- the master asks for the members, and nobody else does
      have hnone : ([⟨first, master⟩] : List Edge).filter
          (fun e => decide (key e.requester = k)) = [] := by
        subst hk
        simpa using hne
      have hsome := List.length_filter_le (fun e : Edge => decide (key e.requester = k))
        ((first :: rest).map (Edge.mk master))
      rw [List.length_map] at hsome
      rw [hnone]
      simpa using hsome
    · have hnone : ((first :: rest).map (Edge.mk master)).filter
          (fun e => decide (key e.requester = k)) = [] := by
        refine List.filter_eq_nil_iff.mpr fun e he => ?_
        obtain ⟨member, -, rfl⟩ := List.mem_map.mp he
        simpa using hk
      have hone := List.length_filter_le (fun e : Edge => decide (key e.requester = k))
        [⟨first, master⟩]
      rw [hnone]
      simp only [List.length_nil, List.length_cons] at hone ⊢
      omega

/-- **No requester scans.** Over cells whose nodes have different keys, nobody asks for more than
five owners. -/
theorem length_filter_edges_le {κ : Type} [DecidableEq κ] (key : Node → κ)
    {cells : List (List Node)} (hsize : ∀ cell ∈ cells, cell.length ≤ cellSize)
    (hnodup : (cells.flatten.map key).Nodup) (k : κ) :
    ((cells.flatMap cellEdges).filter fun e => decide (key e.requester = k)).length ≤
      cellSize - 1 := by
  induction cells with
  | nil => exact Nat.zero_le _
  | cons cell cells ih =>
    rw [List.flatten_cons, List.map_append, List.nodup_append] at hnodup
    obtain ⟨hcell, hrest, hapart⟩ := hnodup
    rw [List.flatMap_cons, List.filter_append, List.length_append]
    have hthis := length_filter_cellEdges_le key hcell k
    have hothers := ih (fun c hc => hsize c (List.mem_cons_of_mem _ hc)) hrest
    have hle := hsize cell List.mem_cons_self
    -- a key is in one cell at most, and nobody asks outside its cell
    by_cases hk : k ∈ cell.map key
    · have hnone : (cells.flatMap cellEdges).filter
          (fun e => decide (key e.requester = k)) = [] := by
        refine List.filter_eq_nil_iff.mpr fun e he => ?_
        obtain ⟨c, hc, hec⟩ := List.mem_flatMap.mp he
        have hmem : e.requester ∈ cells.flatten :=
          List.mem_flatten.mpr ⟨c, hc, (mem_of_mem_cellEdges hec).1⟩
        simp only [decide_eq_true_eq]
        exact fun heq => hapart k hk _ (List.mem_map_of_mem hmem) heq.symm
      rw [hnone, List.length_nil]
      omega
    · have hnone : (cellEdges cell).filter (fun e => decide (key e.requester = k)) = [] := by
        refine List.filter_eq_nil_iff.mpr fun e he => ?_
        simp only [decide_eq_true_eq]
        exact fun heq => hk (heq ▸ List.mem_map_of_mem (mem_of_mem_cellEdges he).1)
      rw [hnone, List.length_nil]
      omega

end TurboLaser
