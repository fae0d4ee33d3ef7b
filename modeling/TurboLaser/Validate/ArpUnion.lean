import TurboLaser.Simulate.ArpOwners
import TurboLaser.Validate.ArpProfile

/-!
# The ARP graph passes its oracle

The graph names every asset as an owner and spreads the questions over small cells. The oracle
counts the questions of a MAC, not of a host, so a fan-out within the limit needs the nodes to
differ in their MACs: the assets, the stations, and the requester beside an asset that is alone on
the address of its station.

That the assets and the stations differ is part of being well placed, and the ledger sees to it. The
requester beside a lone asset has a MAC that is hashed from its address, like a station's, and
nobody compares it with the others. So the last condition is a hypothesis of the theorem, and it is
needed.

- `arp_union`: **well placed assets all answer, nobody scans, and the oracle agrees**;
- `requester_shares_mac`: the MAC of a lone asset's requester can be that of a cell's master, who
  then seems to scan.
-/

namespace TurboLaser

open Scenario Synth

/-- The addresses of the assets. -/
def assetAddrs (assets : List AssetText) : Finset Ipv4Addr :=
  (assets.filterMap fun a => parseIpv4Addr a.ip).toFinset

/-- A natural MAC is globally administered. -/
theorem local_stableMac (seed : UInt64) (ip : Ipv4Addr) : (stableMac seed ip).local = false := by
  have hmask : ∀ b : UInt8, b &&& 0xFC &&& 0x02 = 0 := by
    intro b
    rw [UInt8.and_assoc]
    exact UInt8.and_zero
  simp [Mac.local, stableMac, hmask]

/-- **Union.** Well placed assets each own an edge under their stored MAC, and no requester asks
for more than five owners. With different MACs throughout, and those of the assets globally
administered, the oracle has nothing to say about the frames. -/
theorem arp_union {assets : List AssetText} (h : WellPlaced assets) (seed : UInt64) :
    (∀ a ∈ assets, ∃ e ∈ arpEdges assets seed, parseIpv4Addr a.ip = some e.owner.ip ∧
      e.owner.mac = parseMac a.mac) ∧
    (∀ ip, (((arpEdges assets seed).filter fun e => decide (e.requester.ip = ip)).map
      fun e => e.owner.ip).toFinset.card ≤ cellSize - 1) ∧
    (((assets.map fun a => parseMac a.mac) ++ (syntheticNodes assets seed).map Node.mac).Nodup →
      (∀ a ∈ assets, (parseMac a.mac).local = false) →
      (analyze (renderEdges (arpEdges assets seed))).check (assetAddrs assets) (cellSize - 1) =
        []) := by
  refine ⟨fun a ha => h.exists_edge_of_asset seed ha, fun ip => ?_, fun hmacs hglobal => ?_⟩
  · exact h.card_owners_le seed Node.ip (h.graphNodes_nodup seed) ip
  · refine check_renderEdges ?_ ?_ ?_ ?_
    · intro e he
      exact (h.of_mem_arpEdges seed he).2
    · intro e he
      rcases h.graphNodes_cases seed (h.of_mem_arpEdges seed he).1 with
        ⟨a, ha, -, hmac⟩ | ⟨-, hsynthetic⟩
      · rw [hmac]
        exact hglobal a ha
      · rw [hsynthetic]
        exact local_stableMac seed _
    · intro ip hip
      obtain ⟨a, ha, hip⟩ := List.mem_filterMap.mp (List.mem_toFinset.mp hip)
      obtain ⟨e, he, howner, -⟩ := h.exists_edge_of_asset seed ha
      exact ⟨e, he, Option.some.inj (howner.symm.trans hip)⟩
    · intro src
      exact h.card_owners_le seed Node.mac (h.nodup_macs seed hmacs) src

/-! ## A requester under the MAC of a master -/

/-- An asset alone on the station address of its zone, and a zone that is one full cell, whose
master has the given MAC. -/
def loneAndCell (mac : String) : List AssetText :=
  [⟨"10.0.0.250", "00:1c:06:00:00:fa", "10.0.0.0/24"⟩,
    ⟨"10.0.1.245", mac, "10.0.1.0/24"⟩,
    ⟨"10.0.1.246", "00:1c:06:00:01:f6", "10.0.1.0/24"⟩,
    ⟨"10.0.1.247", "00:1c:06:00:01:f7", "10.0.1.0/24"⟩,
    ⟨"10.0.1.248", "00:1c:06:00:01:f8", "10.0.1.0/24"⟩,
    ⟨"10.0.1.249", "00:1c:06:00:01:f9", "10.0.1.0/24"⟩,
    ⟨"10.0.1.250", "00:1c:06:00:01:fa", "10.0.1.0/24"⟩]

theorem wellPlaced_loneAndCell (mac : String) : WellPlaced (loneAndCell mac) := by
  -- nothing here depends on the MACs
  let view := fun a : AssetText => (a.ip, a.subnetCidr)
  have hview : (loneAndCell mac).map view = (loneAndCell "").map view := rfl
  have hall : ∀ {P : String × String → Prop}, (∀ x ∈ (loneAndCell "").map view, P x) →
      ∀ a ∈ loneAndCell mac, P (view a) :=
    fun hP a ha => hP (view a) (hview ▸ List.mem_map_of_mem ha)
  have hzones : ∀ x ∈ (loneAndCell "").map view, ∃ net, net ∈ parseIpv4Net x.2 ∧
      8 ≤ net.prefixLen ∧ net.prefixLen ≤ 30 ∧
      ∀ ip, ip ∈ parseIpv4Addr x.1 → net.contains ip = true := by
    decide +kernel
  have hapart : ∀ x ∈ (loneAndCell "").map view, ∀ y ∈ (loneAndCell "").map view, x.2 ≠ y.2 →
      ∀ net, net ∈ parseIpv4Net x.2 → ∀ net', net' ∈ parseIpv4Net y.2 →
        net.network.toNat + net.size ≤ net'.network.toNat ∨
          net'.network.toNat + net'.size ≤ net.network.toNat := by
    decide +kernel
  refine ⟨?_, ?_, ?_, ?_⟩
  · exact hall (P := fun x => (parseIpv4Addr x.1).isSome = true) (by decide +kernel)
  · show (((loneAndCell mac).map view).map fun x => parseIpv4Addr x.1).Nodup
    rw [hview]
    decide +kernel
  · exact hall hzones
  · intro a ha b hb hne net hnet net' hnet' ip ⟨hin, hin'⟩
    have hdisjoint := hall (P := fun x => ∀ y ∈ (loneAndCell "").map view, x.2 ≠ y.2 → _)
      hapart a ha (view b) (hview ▸ List.mem_map_of_mem hb) hne net hnet net' hnet'
    rw [Ipv4Net.contains_iff] at hin hin'
    omega

/-- The union of such assets, when no MAC is shared. -/
theorem arp_union_loneAndCell :
    (analyze (renderEdges (arpEdges (loneAndCell "00:1c:06:00:01:f5") 0))).check
      (assetAddrs (loneAndCell "00:1c:06:00:01:f5")) 5 = [] :=
  (arp_union (wellPlaced_loneAndCell "00:1c:06:00:01:f5") 0).2.2 (by decide +kernel)
    (by decide +kernel)

/-- **The requester of a lone asset can share the MAC of a master**, although the assets and the
stations all differ; the oracle then sees a scan. -/
theorem requester_shares_mac :
    let assets := loneAndCell "b8:81:fe:a9:55:f4"
    WellPlaced assets ∧
      ((assets.map fun a => parseMac a.mac) ++
        (zonesOf assets).map fun z => stableMac 0 (stationAddr z.1)).Nodup ∧
      (∀ a ∈ assets, (parseMac a.mac).local = false) ∧
      (analyze (renderEdges (arpEdges assets 0))).check (assetAddrs assets) (cellSize - 1) =
        [.scan 6 5] := by
  refine ⟨wellPlaced_loneAndCell _, ?_, ?_, ?_⟩
  · decide +kernel
  · decide +kernel
  · decide +kernel

end TurboLaser
