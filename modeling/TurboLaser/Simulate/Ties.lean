import TurboLaser.Simulate.Register
import TurboLaser.Synth.Eth

/-!
# Tied votes (simulate/zones.rs, simulate/engine.rs)

The vendor and the protocol of a group are the winners of votes that are counted in hash maps.
`max_by_key` takes the last entry with the highest count, so an entry that is tied for the highest
count wins in some iteration order.

A hash map of the source iterates in an order that differs from process to process. The order is an
argument here (`HashOrder`), an arbitrary rearrangement for every map, and to be independent of it
means to be the same for all of them.

- `maxByCount_visitedLast`: every top entry wins, when the map visits it last;
- `VotesDecided`: in no group are two entries tied for the highest count;
- `uniqueTop_of_same`: groups that are the same in two orders, one for each of two entries, were not
  tied between them;
- `placement_iff_decided`: **groups, host map and new assets are the same for every iteration order
  of the votes exactly when the votes are decided**;
- `tied_vendors_move_host`: two hosts of two vendors. The order decides which zone they go to.
-/

namespace TurboLaser

open Lib

/-! ## Orders that favour an entry -/

/-- The map visits `e` last. -/
def visitedLast (e : String × Nat) (entries : List (String × Nat)) : List (String × Nat) :=
  if e ∈ entries then entries.erase e ++ [e] else entries

theorem visitedLast_perm (e : String × Nat) (entries : List (String × Nat)) :
    (visitedLast e entries).Perm entries := by
  unfold visitedLast
  split
  · next hin => exact (List.perm_append_singleton e _).trans (List.perm_cons_erase hin).symm
  · exact .refl _

/-- **A top entry wins when it is visited last.** -/
theorem maxByCount_visitedLast {entries : List (String × Nat)} {e : String × Nat}
    (hin : e ∈ entries) (htop : ∀ x ∈ entries, x.2 ≤ e.2) :
    maxByCount (visitedLast e entries) = some e.1 := by
  unfold visitedLast maxByCount
  rw [if_pos hin, List.foldl_append]
  cases hrest : entries.erase e with
  | nil => rfl
  | cons b rest =>
    obtain ⟨best, hbest, -, hfold⟩ := foldl_maxByCount rest b
    have hle : best.2 ≤ e.2 := htop best (List.mem_of_mem_erase (hrest ▸ hbest))
    simp only [List.foldl_cons, List.foldl_nil]
    rw [hfold]
    exact congrArg (Option.map Prod.fst) (if_pos hle)

/-- The order that visits one vendor entry and one protocol entry last, and leaves everything
else as it is. -/
def HashOrder.favouring (vendor protocol : String × Nat) : HashOrder where
  nets := id
  vendor _ := visitedLast vendor
  protocol _ := visitedLast protocol
  nets_perm := List.Perm.refl
  vendor_perm _ := visitedLast_perm vendor
  protocol_perm _ := visitedLast_perm protocol

/-! ## Groups and their votes -/

section Groups

variable {cap : Capture} {hints : List Ipv4Net} {oui : OuiDb} {order : HashOrder}

/-- The vendor and the protocol of a group are winners of its votes. -/
theorem winners_of_mem {g : CaptureGroup} (h : g ∈ captureGroups cap hints oui order) :
    g.vendor = maxByCount (order.vendor g.net (tally (vendorVotes cap hints oui g.net))) ∧
      g.protocol =
        maxByCount (order.protocol g.net (tally (groupProtocols cap hints g.net))) := by
  obtain ⟨z, hz, rfl⟩ := List.mem_map.mp h
  unfold deriveZones at hz
  obtain ⟨i, hi, rfl⟩ := List.mem_mapIdx.mp hz
  exact ⟨rfl, rfl⟩

/-- Every subnet of the capture has a group. -/
theorem exists_group {a : Ipv4Addr} (ha : a ∈ captureHosts cap) (hints : List Ipv4Net)
    (oui : OuiDb) (order : HashOrder) :
    ∃ g ∈ captureGroups cap hints oui order, g.net = groupOf a hints := by
  have hsubnet : groupOf a hints ∈ subnetsOf cap hints order := mem_subnetsOf.mpr ⟨a, ha, rfl⟩
  obtain ⟨i, hi, hnet⟩ := List.mem_iff_getElem.mp hsubnet
  refine ⟨_, List.mem_map_of_mem (List.mem_mapIdx.mpr ⟨i, hi, rfl⟩), ?_⟩
  exact hnet

/-- In no group are two entries tied for the highest count. -/
structure VotesDecided (cap : Capture) (hints : List Ipv4Net) (oui : OuiDb) : Prop where
  vendors : ∀ a ∈ captureHosts cap, UniqueTop (tally (vendorVotes cap hints oui (groupOf a hints)))
  protocols : ∀ a ∈ captureHosts cap,
    UniqueTop (tally (groupProtocols cap hints (groupOf a hints)))

/-- Orders that agree on the groups agree on the winners of every vote. -/
theorem winners_eq {order' : HashOrder} {a : Ipv4Addr} (ha : a ∈ captureHosts cap)
    (h : captureGroups cap hints oui order = captureGroups cap hints oui order') :
    maxByCount (order.vendor (groupOf a hints)
        (tally (vendorVotes cap hints oui (groupOf a hints)))) =
      maxByCount (order'.vendor (groupOf a hints)
        (tally (vendorVotes cap hints oui (groupOf a hints)))) ∧
    maxByCount (order.protocol (groupOf a hints)
        (tally (groupProtocols cap hints (groupOf a hints)))) =
      maxByCount (order'.protocol (groupOf a hints)
        (tally (groupProtocols cap hints (groupOf a hints)))) := by
  obtain ⟨g, hg, hnet⟩ := exists_group ha hints oui order
  obtain ⟨hvendor, hprotocol⟩ := winners_of_mem hg
  obtain ⟨hvendor', hprotocol'⟩ := winners_of_mem (h ▸ hg)
  rw [hnet] at hvendor hprotocol hvendor' hprotocol'
  exact ⟨hvendor.symm.trans hvendor', hprotocol.symm.trans hprotocol'⟩

end Groups

/-- A vote that no order sways is decided. -/
theorem uniqueTop_of_same {entries : List (String × Nat)}
    (h : ∀ e e', maxByCount (visitedLast e entries) = maxByCount (visitedLast e' entries)) :
    UniqueTop entries := by
  intro e he e' he' htop htop'
  have hname := h e e'
  rw [maxByCount_visitedLast he htop, maxByCount_visitedLast he' htop'] at hname
  exact Prod.ext (Option.some.inj hname) (Nat.le_antisymm (htop' e he) (htop e' he'))

/-! ## Exactly when the placement is the same -/

/-- The host map and the new assets of a reconcile. -/
def hostPlan (ctx : ReconcileCtx) (groups : List CaptureGroup) :
    Option (HostMap × List NewCaptureAsset) :=
  (placeGroups ctx (sortGroups groups) (initState ctx)).map fun r => (r.1.map, r.1.newAssets)

/-- Under two orders the groups are the same, and for every ledger the host map and the new
assets. -/
def SamePlacement (cap : Capture) (hints : List Ipv4Net) (oui : OuiDb)
    (order order' : HashOrder) : Prop :=
  captureGroups cap hints oui order = captureGroups cap hints oui order' ∧
    ∀ (s : Session) (affinity : ZoneAffinity) (remapMac : Bool) (capAssets : Nat),
      hostPlan (s.reconcileCtx affinity remapMac capAssets)
          (captureGroups cap hints oui order) =
        hostPlan (s.reconcileCtx affinity remapMac capAssets)
          (captureGroups cap hints oui order')

/-- **Exactly when placement does not depend on the order votes are iterated in**: when no group has
two entries tied for the highest count. The groups are compared as well as the placements, and these
for every ledger: a tie that moves no host of one ledger counts all the same. -/
theorem placement_iff_decided (cap : Capture) (hints : List Ipv4Net) (oui : OuiDb) :
    (∀ order order' : HashOrder, order.nets = order'.nets →
        SamePlacement cap hints oui order order') ↔
      VotesDecided cap hints oui := by
  constructor
  · intro h
    have hwinners : ∀ v v' p p' a, a ∈ captureHosts cap →
        maxByCount (visitedLast v (tally (vendorVotes cap hints oui (groupOf a hints)))) =
            maxByCount (visitedLast v' (tally (vendorVotes cap hints oui (groupOf a hints)))) ∧
          maxByCount (visitedLast p (tally (groupProtocols cap hints (groupOf a hints)))) =
            maxByCount (visitedLast p' (tally (groupProtocols cap hints (groupOf a hints)))) :=
      fun v v' p p' a ha => winners_eq ha (h (.favouring v p) (.favouring v' p') rfl).1
    constructor
    · intro a ha
      exact uniqueTop_of_same fun e e' => (hwinners e e' e e' a ha).1
    · intro a ha
      exact uniqueTop_of_same fun e e' => (hwinners e e' e e' a ha).2
  · rintro ⟨hvendors, hprotocols⟩ order order' hnets
    have hgroups : captureGroups cap hints oui order = captureGroups cap hints oui order' :=
      captureGroups_congr (by rw [subnetsOf, subnetsOf, hnets]) hvendors hprotocols
    exact ⟨hgroups, fun s affinity remapMac capAssets => by rw [hgroups]⟩

/-! ## A tie -/

/-- Two vendors of controllers. -/
def twoVendors : OuiDb :=
  ⟨((∅ : AList fun _ : Oui => String).insert ⟨0x00, 0x1B, 0x1B⟩ "Siemens AG").insert
    ⟨0x00, 0x00, 0xBC⟩ "Rockwell Automation", ∅⟩

/-- A request and its response, between hosts of the two vendors in 192.168.1.0/24. -/
def tiedCapture : Capture :=
  let siemens : Mac := ⟨0x00, 0x1B, 0x1B, 0, 0, 1⟩
  let rockwell : Mac := ⟨0x00, 0x00, 0xBC, 0, 0, 2⟩
  ⟨[⟨0, 42, Synth.udpFrame siemens rockwell 0xC0A8010A 0xC0A8010B 5000 5001 []⟩,
    ⟨1, 42, Synth.udpFrame rockwell siemens 0xC0A8010B 0xC0A8010A 5001 5000 []⟩]⟩

/-- A ledger with a zone for each of the two vendors. -/
def twoVendorZones : Session :=
  { Session.new 7 with
    subnets := [
      ⟨.slash24 0x0A000000, "Siemens AG Basic Control Area 1", 1, some "Siemens AG", none⟩,
      ⟨.slash24 0x0A000100, "Rockwell Automation Basic Control Area 2", 1,
        some "Rockwell Automation", none⟩] }

/-- **The order decides the zone**: 192.168.1.10 goes to 10.0.0.10 when the map visits one
vendor last, and to 10.0.1.10 when it visits the other last. -/
theorem tied_vendors_move_host :
    (hostPlan (twoVendorZones.reconcileCtx .both true 512)
        (captureGroups tiedCapture [] twoVendors (.favouring ("Siemens AG", 1) ("", 0)))).map
          (fun plan => plan.1.lookup 0xC0A8010A) = some (some 0x0A00000A) ∧
      (hostPlan (twoVendorZones.reconcileCtx .both true 512)
        (captureGroups tiedCapture [] twoVendors
          (.favouring ("Rockwell Automation", 1) ("", 0)))).map
            (fun plan => plan.1.lookup 0xC0A8010A) = some (some 0x0A00010A) ∧
      ¬ ∀ order order' : HashOrder, order.nets = order'.nets →
        SamePlacement tiedCapture [] twoVendors order order' := by
  have hsiemens : (hostPlan (twoVendorZones.reconcileCtx .both true 512)
      (captureGroups tiedCapture [] twoVendors (.favouring ("Siemens AG", 1) ("", 0)))).map
        (fun plan => plan.1.lookup 0xC0A8010A) = some (some 0x0A00000A) := by
    decide +kernel
  have hrockwell : (hostPlan (twoVendorZones.reconcileCtx .both true 512)
      (captureGroups tiedCapture [] twoVendors
        (.favouring ("Rockwell Automation", 1) ("", 0)))).map
          (fun plan => plan.1.lookup 0xC0A8010A) = some (some 0x0A00010A) := by
    decide +kernel
  refine ⟨hsiemens, hrockwell, fun h => ?_⟩
  rw [(h (.favouring ("Siemens AG", 1) ("", 0)) (.favouring ("Rockwell Automation", 1) ("", 0))
    rfl).2, hrockwell] at hsiemens
  cases hsiemens

end TurboLaser
