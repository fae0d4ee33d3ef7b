import Mathlib.Data.List.Dedup
import TurboLaser.Ledger
import TurboLaser.Lib.Lowest
import TurboLaser.Simulate.Roles
import TurboLaser.Text

/-!
# North-south crossings (simulate/roles.rs)

A supervisory client of a higher zone polls servers of a zone one level below it, forwarded by a
conduit: the zone-edge router or firewall of either zone, else a switch, else the station of the
north zone. Which zone is polled is hashed from the seed; the servers are the lowest few by address.

The frames of a crossing carry the address of the client and the MAC of the conduit, as behind a
router. That is a real crossing only if the conduit is not the polled server itself, for then a host
would forward to itself.

- `mem_northSouthCrossings`: what a crossing is made of;
- `adjacent_northSouthCrossings`, `bounded_northSouthCrossings`: one level down, and few servers:
  these hold of every plant;
- `crossings_from`: **the crossings of one north zone**, when no two zones share a station;
- `conduit_eq_server_iff`: the conduit is the polled server exactly when it is a switch that is
  polled: servers leave out firewalls and routers, but not switches;
- `crossingsSound_iff`: **the crossings are adjacent, bounded and really forwarded exactly when no
  pair of zones polls the switch that forwards it.**
-/

namespace TurboLaser

open Lib

/-- `Crossing`. -/
structure Crossing where
  northIp : Ipv4Addr
  southIp : Ipv4Addr
  southMac : Mac
  conduitMac : Mac
deriving DecidableEq

/-- `det_index`: a zone of a list, hashed from the seed and a text. -/
def detIndex (seed : UInt64) (key : String) (len : Nat) : Nat :=
  if len ≤ 1 then 0
  else
    let h := (utf8 key).foldl (fun h b => (h ^^^ UInt64.ofNat b.toNat) * 0x00000100000001B3)
      (seed ^^^ 0xCBF29CE484222325)
    h.toNat % len

/-- The conduit MAC for a zone pair, `pick_conduit_mac`: a router, else a firewall, else a
switch of either zone, else the station. -/
def pickConduitMac (ledger : Session) (north south : Ipv4Net) (station : Mac) : Mac :=
  let inPair := ledger.devices.filter fun d => d.subnetCidr = north ∨ d.subnetCidr = south
  let conduit := ["Router", "Firewall", "Switch"].findSome? fun cls =>
    inPair.find? fun d => d.assetType = some cls
  match conduit with
  | some d => d.mac
  | none => station

/-- A device that is polled: it bears a CVE, and is no firewall and no router. -/
def IsServer (d : DeviceRecord) : Prop :=
  d.cves ≠ [] ∧ d.assetType ≠ some "Firewall" ∧ d.assetType ≠ some "Router"

instance (d : DeviceRecord) : Decidable (IsServer d) := inferInstanceAs (Decidable (_ ∧ _))

/-- `servers_by_zone`: the servers of a zone, by address. -/
def serversOf (ledger : Session) (zone : Ipv4Net) : List (Ipv4Addr × Mac) :=
  sortByKey (fun server => server.1.toNat)
    ((ledger.devices.filter fun d => IsServer d ∧ d.subnetCidr = zone).map fun d => (d.ip, d.mac))

/-- Texts in the order of their characters. -/
def textLe : List Char → List Char → Bool
  | [], _ => true
  | _ :: _, [] => false
  | a :: as, b :: bs =>
    if a.toNat < b.toNat then true else if b.toNat < a.toNat then false else textLe as bs

/-- `by_level`: the zones of a level, by the text of their network. -/
def zonesAt (ledger : Session) (level : Nat) : List SubnetRecord :=
  (ledger.subnets.filter fun s => s.purdueLevel = level).insertionSort fun a b =>
    textLe (showIpv4Net a.cidr).toList (showIpv4Net b.cidr).toList = true

/-- The levels there are zones at, lowest first. -/
def levels (ledger : Session) : List Nat :=
  (ledger.subnets.map SubnetRecord.purdueLevel).dedup.insertionSort fun a b => a ≤ b

/-- The zone below a zone that it polls. -/
def southOf (ledger : Session) (seed : UInt64) (level : Nat) (north : SubnetRecord) :
    Option SubnetRecord :=
  match level with
  | 0 => none
  | south + 1 =>
    let southZones := zonesAt ledger south
    southZones[detIndex seed (showIpv4Net north.cidr) southZones.length]?

/-- The crossings of a pair of zones. -/
def crossingsOf (ledger : Session) (seed : UInt64) (maxPerPair : Nat) (north south : Ipv4Net) :
    List Crossing :=
  let northIp := stationAddrNet north
  let conduitMac := pickConduitMac ledger north south (stableMac seed northIp)
  ((serversOf ledger south).take maxPerPair).map fun server =>
    ⟨northIp, server.1, server.2, conduitMac⟩

/-- `north_south_crossings`. -/
def northSouthCrossings (ledger : Session) (seed : UInt64) (maxPerPair : Nat) : List Crossing :=
  if maxPerPair = 0 then []
  else
    (levels ledger).flatMap fun level =>
      (zonesAt ledger level).flatMap fun north =>
        match southOf ledger seed level north with
        | some south => crossingsOf ledger seed maxPerPair north.cidr south.cidr
        | none => []

/-! ## What a crossing is made of

The source collects crossings in a loop over levels, and in each over the zones of the level. Here
they are listed zone by zone instead, with the zone that each polls, so that membership can be read
off: a station, a conduit, and a server of the south zone that is polled. That the list is the same
is the first equation.
-/

section

variable {ledger : Session} {seed : UInt64} {maxPerPair : Nat}

theorem mem_zonesAt {level : Nat} {s : SubnetRecord} :
    s ∈ zonesAt ledger level ↔ s ∈ ledger.subnets ∧ s.purdueLevel = level := by
  rw [zonesAt, List.mem_insertionSort, List.mem_filter, decide_eq_true_iff]

theorem mem_levels {level : Nat} :
    level ∈ levels ledger ↔ ∃ s ∈ ledger.subnets, s.purdueLevel = level := by
  rw [levels, List.mem_insertionSort, List.mem_dedup, List.mem_map]

/-- The zone that is polled is a zone one level down. -/
theorem southOf_spec {level : Nat} {north south : SubnetRecord}
    (h : southOf ledger seed level north = some south) :
    south ∈ ledger.subnets ∧ level = south.purdueLevel + 1 := by
  cases level with
  | zero => cases h
  | succ level =>
    obtain ⟨hmem, hlevel⟩ := mem_zonesAt.mp (List.mem_of_getElem? h)
    exact ⟨hmem, by rw [hlevel]⟩

/-- The crossings of a north zone, wherever it stands. -/
def crossingsFrom (ledger : Session) (seed : UInt64) (maxPerPair : Nat) (north : SubnetRecord) :
    List Crossing :=
  match southOf ledger seed north.purdueLevel north with
  | some south => crossingsOf ledger seed maxPerPair north.cidr south.cidr
  | none => []

/-- The zones in the order they poll. -/
def norths (ledger : Session) : List SubnetRecord :=
  (levels ledger).flatMap (zonesAt ledger)

theorem mem_norths {s : SubnetRecord} : s ∈ norths ledger ↔ s ∈ ledger.subnets := by
  rw [norths, List.mem_flatMap]
  constructor
  · rintro ⟨level, -, hs⟩
    exact (mem_zonesAt.mp hs).1
  · intro hs
    exact ⟨s.purdueLevel, mem_levels.mpr ⟨s, hs, rfl⟩, mem_zonesAt.mpr ⟨hs, rfl⟩⟩

/-- Each zone polls once. -/
theorem nodup_norths (h : ledger.subnets.Nodup) : (norths ledger).Nodup := by
  rw [norths, List.nodup_flatMap]
  constructor
  · intro level _
    exact ((List.perm_insertionSort _ _).nodup_iff).mpr (h.filter _)
  · have hlevels : (levels ledger).Nodup :=
      ((List.perm_insertionSort _ _).nodup_iff).mpr (List.nodup_dedup _)
    refine hlevels.imp fun hne s hs hs' => hne ?_
    rw [← (mem_zonesAt.mp hs).2, ← (mem_zonesAt.mp hs').2]

/-- The crossings, zone by zone. -/
theorem northSouthCrossings_eq :
    northSouthCrossings ledger seed maxPerPair =
      (norths ledger).flatMap (crossingsFrom ledger seed maxPerPair) := by
  by_cases hzero : maxPerPair = 0
  · -- nothing is taken of any zone
    subst hzero
    rw [northSouthCrossings, if_pos rfl]
    symm
    refine List.flatMap_eq_nil_iff.mpr fun north _ => ?_
    unfold crossingsFrom
    split
    · rfl
    · rfl
  · rw [northSouthCrossings, if_neg hzero, norths, List.flatMap_assoc]
    refine List.flatMap_congr fun level _ => List.flatMap_congr fun north hnorth => ?_
    rw [crossingsFrom, (mem_zonesAt.mp hnorth).2]

theorem crossingsFrom_of_south {north south : SubnetRecord}
    (h : southOf ledger seed north.purdueLevel north = some south) :
    crossingsFrom ledger seed maxPerPair north =
      crossingsOf ledger seed maxPerPair north.cidr south.cidr := by
  rw [crossingsFrom, h]

theorem mem_crossingsFrom {north : SubnetRecord} {c : Crossing} :
    c ∈ crossingsFrom ledger seed maxPerPair north ↔
      ∃ south, southOf ledger seed north.purdueLevel north = some south ∧
        c ∈ crossingsOf ledger seed maxPerPair north.cidr south.cidr := by
  unfold crossingsFrom
  cases southOf ledger seed north.purdueLevel north with
  | none =>
    constructor
    · nofun
    · rintro ⟨south, ⟨⟩, -⟩
  | some south =>
    constructor
    · exact fun h => ⟨south, rfl, h⟩
    · rintro ⟨south', hsouth, h⟩
      cases hsouth
      exact h

/-- The servers of a zone are its devices that are polled. -/
theorem mem_serversOf {zone : Ipv4Net} {server : Ipv4Addr × Mac} :
    server ∈ serversOf ledger zone ↔
      ∃ d ∈ ledger.devices, IsServer d ∧ d.subnetCidr = zone ∧ (d.ip, d.mac) = server := by
  rw [serversOf, (perm_sortByKey _ _).mem_iff, List.mem_map]
  constructor
  · rintro ⟨d, hd, rfl⟩
    obtain ⟨hmem, hserver⟩ := List.mem_filter.mp hd
    exact ⟨d, hmem, (of_decide_eq_true hserver).1, (of_decide_eq_true hserver).2, rfl⟩
  · rintro ⟨d, hmem, hserver, hzone, rfl⟩
    exact ⟨d, List.mem_filter.mpr ⟨hmem, decide_eq_true ⟨hserver, hzone⟩⟩, rfl⟩

/-- The addresses of the servers of a zone are distinct, as those of the devices are. -/
theorem nodup_serversOf (h : (ledger.devices.map DeviceRecord.ip).Nodup) (zone : Ipv4Net) :
    ((serversOf ledger zone).map Prod.fst).Nodup := by
  have hperm := (perm_sortByKey (fun server : Ipv4Addr × Mac => server.1.toNat)
    ((ledger.devices.filter fun d => IsServer d ∧ d.subnetCidr = zone).map
      fun d => (d.ip, d.mac))).map Prod.fst
  rw [serversOf, hperm.nodup_iff, List.map_map]
  exact (List.Sublist.map _ List.filter_sublist).nodup h

/-- A crossing of a pair polls a server of the south zone, and knows the station and the conduit
of the pair. -/
theorem mem_crossingsOf {north south : Ipv4Net} {c : Crossing} :
    c ∈ crossingsOf ledger seed maxPerPair north south ↔
      (c.southIp, c.southMac) ∈ (serversOf ledger south).take maxPerPair ∧
        c.northIp = stationAddrNet north ∧
        c.conduitMac =
          pickConduitMac ledger north south (stableMac seed (stationAddrNet north)) := by
  unfold crossingsOf
  constructor
  · intro h
    obtain ⟨server, hserver, rfl⟩ := List.mem_map.mp h
    exact ⟨hserver, rfl, rfl⟩
  · rintro ⟨hserver, hnorth, hconduit⟩
    refine List.mem_map.mpr ⟨(c.southIp, c.southMac), hserver, ?_⟩
    obtain ⟨northIp, southIp, southMac, conduitMac⟩ := c
    cases hnorth
    cases hconduit
    rfl

/-- **What a crossing is made of.** -/
theorem mem_northSouthCrossings {c : Crossing} :
    c ∈ northSouthCrossings ledger seed maxPerPair ↔
      ∃ north ∈ ledger.subnets, ∃ south,
        southOf ledger seed north.purdueLevel north = some south ∧
          c ∈ crossingsOf ledger seed maxPerPair north.cidr south.cidr := by
  rw [northSouthCrossings_eq, List.mem_flatMap]
  constructor
  · rintro ⟨north, hnorth, hc⟩
    exact ⟨north, mem_norths.mp hnorth, mem_crossingsFrom.mp hc⟩
  · rintro ⟨north, hnorth, hc⟩
    exact ⟨north, mem_norths.mpr hnorth, mem_crossingsFrom.mpr hc⟩

end

/-! ## Crossings of one zone -/

/-- The MAC of a zone's station. -/
def stationMac (seed : UInt64) (zone : Ipv4Net) : Mac := stableMac seed (stationAddrNet zone)

/-- The zones, the addresses of the devices, and the MACs of devices and stations are distinct. -/
structure WireDistinct (ledger : Session) (seed : UInt64) : Prop where
  cidrs : ledger.cidrs.Nodup
  ips : (ledger.devices.map DeviceRecord.ip).Nodup
  macs : (ledger.devices.map DeviceRecord.mac ++ ledger.cidrs.map (stationMac seed)).Nodup

/-- One entry of a list is the only one that gives anything. -/
theorem flatMap_eq_of_only {α β : Type} {xs : List α} {g : α → List β} {a : α} (h : xs.Nodup)
    (ha : a ∈ xs) (honly : ∀ b ∈ xs, b ≠ a → g b = []) : xs.flatMap g = g a := by
  obtain ⟨pre, post, rfl⟩ := List.append_of_mem ha
  rw [List.nodup_append] at h
  obtain ⟨-, hpost, hapart⟩ := h
  have hpre : pre.flatMap g = [] := List.flatMap_eq_nil_iff.mpr fun b hb =>
    honly b (List.mem_append_left _ hb) fun heq => hapart b hb a List.mem_cons_self heq
  have hrest : post.flatMap g = [] := List.flatMap_eq_nil_iff.mpr fun b hb =>
    honly b (List.mem_append_right _ (List.mem_cons_of_mem _ hb)) fun heq =>
      (List.nodup_cons.mp hpost).1 (heq ▸ hb)
  rw [List.flatMap_append, List.flatMap_cons, hpre, hrest, List.nil_append, List.append_nil]

section

variable {ledger : Session} {seed : UInt64} (h : WireDistinct ledger seed)

include h

theorem WireDistinct.subnets : ledger.subnets.Nodup := h.cidrs.of_map _

/-- Zones with one station are one zone. -/
theorem WireDistinct.station_inj {a b : SubnetRecord} (ha : a ∈ ledger.subnets)
    (hb : b ∈ ledger.subnets) (heq : stationAddrNet a.cidr = stationAddrNet b.cidr) : a = b := by
  have hstations := (List.nodup_append.mp h.macs).2.1
  rw [Session.cidrs, List.map_map] at hstations
  refine List.inj_on_of_nodup_map hstations ha hb ?_
  show stationMac seed a.cidr = stationMac seed b.cidr
  rw [stationMac, stationMac, heq]

/-- Devices with one MAC are one device. -/
theorem WireDistinct.mac_inj {a b : DeviceRecord} (ha : a ∈ ledger.devices)
    (hb : b ∈ ledger.devices) (heq : a.mac = b.mac) : a = b :=
  List.inj_on_of_nodup_map (List.nodup_append.mp h.macs).1 ha hb heq

/-- A device has not the MAC of a station. -/
theorem WireDistinct.mac_ne_station {d : DeviceRecord} (hd : d ∈ ledger.devices)
    {north : SubnetRecord} (hnorth : north ∈ ledger.subnets) :
    d.mac ≠ stationMac seed north.cidr :=
  (List.nodup_append.mp h.macs).2.2 _ (List.mem_map_of_mem hd) _
    (List.mem_map_of_mem (List.mem_map_of_mem hnorth))

/-- **The crossings of one north zone** are those it polls itself. -/
theorem crossings_from {maxPerPair : Nat} {north : SubnetRecord} (hnorth : north ∈ ledger.subnets) :
    (northSouthCrossings ledger seed maxPerPair).filter
        (fun c => decide (c.northIp = stationAddrNet north.cidr)) =
      crossingsFrom ledger seed maxPerPair north := by
  have hip : ∀ s ∈ ledger.subnets, ∀ c ∈ crossingsFrom ledger seed maxPerPair s,
      c.northIp = stationAddrNet s.cidr := by
    intro s _ c hc
    obtain ⟨south, -, hc⟩ := mem_crossingsFrom.mp hc
    exact (mem_crossingsOf.mp hc).2.1
  rw [northSouthCrossings_eq, List.filter_flatMap,
    flatMap_eq_of_only (nodup_norths h.subnets) (mem_norths.mpr hnorth)]
  · exact List.filter_eq_self.mpr fun c hc => decide_eq_true (hip north hnorth c hc)
  · intro s hs hne
    have hmem := mem_norths.mp hs
    refine List.filter_eq_nil_iff.mpr fun c hc hsame => hne ?_
    refine h.station_inj hmem hnorth ?_
    rw [← hip s hmem c hc]
    exact of_decide_eq_true hsame

/-- A server is among the lowest few exactly when few servers of its zone are below it. -/
theorem mem_take_serversOf {zone : Ipv4Net} {maxPerPair : Nat} {d : DeviceRecord}
    (hd : d ∈ ledger.devices) (hserver : IsServer d) (hzone : d.subnetCidr = zone) :
    (d.ip, d.mac) ∈ (serversOf ledger zone).take maxPerPair ↔
      ledger.devices.countP
        (fun o => decide (IsServer o ∧ o.subnetCidr = zone ∧ o.ip.toNat < d.ip.toNat)) <
          maxPerPair := by
  have hkeys : ((((ledger.devices.filter fun d => IsServer d ∧ d.subnetCidr = zone).map
      fun d => (d.ip, d.mac))).map fun server => server.1.toNat).Nodup := by
    rw [List.map_map]
    refine List.Nodup.map_on (fun a ha b hb heq => ?_) (h.ips.of_map _ |>.filter _)
    exact List.inj_on_of_nodup_map h.ips (List.mem_of_mem_filter ha) (List.mem_of_mem_filter hb)
      (UInt32.toNat_inj.mp heq)
  have hmem : (d.ip, d.mac) ∈ (ledger.devices.filter fun d => IsServer d ∧ d.subnetCidr = zone).map
      fun d => (d.ip, d.mac) :=
    List.mem_map.mpr ⟨d, List.mem_filter.mpr ⟨hd, decide_eq_true ⟨hserver, hzone⟩⟩, rfl⟩
  rw [serversOf, mem_take_sorted_iff hkeys hmem, List.countP_map, List.countP_filter]
  have hcount : ∀ o : DeviceRecord,
      (((fun y : Ipv4Addr × Mac => decide (y.1.toNat < d.ip.toNat)) ∘
          fun o : DeviceRecord => (o.ip, o.mac)) o && decide (IsServer o ∧ o.subnetCidr = zone)) =
        decide (IsServer o ∧ o.subnetCidr = zone ∧ o.ip.toNat < d.ip.toNat) := by
    intro o
    rw [Function.comp_apply, ← Bool.decide_and]
    exact decide_eq_decide.mpr
      ⟨fun hc => ⟨hc.2.1, hc.2.2, hc.1⟩, fun hc => ⟨hc.2.2, hc.1, hc.2.1⟩⟩
  rw [funext hcount]

end

/-! ## The conduit -/

/-- The devices of a pair of zones. -/
def InPair (north south : Ipv4Net) (d : DeviceRecord) : Prop :=
  d.subnetCidr = north ∨ d.subnetCidr = south

instance (north south : Ipv4Net) (d : DeviceRecord) : Decidable (InPair north south d) :=
  inferInstanceAs (Decidable (_ ∨ _))

/-- The first device of a class in a pair of zones, in the order of the ledger. -/
def firstOf (ledger : Session) (north south : Ipv4Net) (cls : String) : Option DeviceRecord :=
  ledger.devices.find? fun d => decide (InPair north south d ∧ d.assetType = some cls)

/-- **The switch that forwards a pair is polled itself**: there is no router and no firewall in
the pair, and its first switch bears a CVE and is among the lowest few servers of the south
zone. -/
def SwitchPolled (ledger : Session) (maxPerPair : Nat) (north south : Ipv4Net) : Prop :=
  firstOf ledger north south "Router" = none ∧ firstOf ledger north south "Firewall" = none ∧
    ∃ d, firstOf ledger north south "Switch" = some d ∧ d.subnetCidr = south ∧ d.cves ≠ [] ∧
      ledger.devices.countP
        (fun o => decide (IsServer o ∧ o.subnetCidr = south ∧ o.ip.toNat < d.ip.toNat)) <
          maxPerPair

theorem pickConduitMac_eq (ledger : Session) (north south : Ipv4Net) (station : Mac) :
    pickConduitMac ledger north south station =
      (((firstOf ledger north south "Router").or ((firstOf ledger north south "Firewall").or
        (firstOf ledger north south "Switch"))).map DeviceRecord.mac).getD station := by
  have hfind : ∀ cls, (ledger.devices.filter fun d =>
      decide (d.subnetCidr = north ∨ d.subnetCidr = south)).find?
        (fun d => decide (d.assetType = some cls)) = firstOf ledger north south cls := by
    intro cls
    rw [List.find?_filter, firstOf]
    congr 1
    funext d
    refine decide_eq_decide.mpr ?_
    rw [decide_eq_true_iff, decide_eq_true_iff, InPair]
  unfold pickConduitMac
  simp only [List.findSome?_cons, List.findSome?_nil, hfind]
  cases firstOf ledger north south "Router" with
  | some d => rfl
  | none =>
    cases firstOf ledger north south "Firewall" with
    | some d => rfl
    | none =>
      cases firstOf ledger north south "Switch" with
      | some d => rfl
      | none => rfl

theorem firstOf_spec {ledger : Session} {north south : Ipv4Net} {cls : String} {d : DeviceRecord}
    (h : firstOf ledger north south cls = some d) :
    d ∈ ledger.devices ∧ InPair north south d ∧ d.assetType = some cls := by
  have htrue : decide (InPair north south d ∧ d.assetType = some cls) = true :=
    List.find?_some (p := fun d => decide (InPair north south d ∧ d.assetType = some cls)) h
  exact ⟨List.mem_of_find?_eq_some h, of_decide_eq_true htrue⟩

/-- **The conduit is a server only as the first switch** of a pair without router and firewall. -/
theorem conduit_eq_server_iff {ledger : Session} {seed : UInt64} (h : WireDistinct ledger seed)
    {north : SubnetRecord} (hnorth : north ∈ ledger.subnets) (south : Ipv4Net) {d : DeviceRecord}
    (hd : d ∈ ledger.devices) (hserver : IsServer d) :
    pickConduitMac ledger north.cidr south (stationMac seed north.cidr) = d.mac ↔
      firstOf ledger north.cidr south "Router" = none ∧
        firstOf ledger north.cidr south "Firewall" = none ∧
          firstOf ledger north.cidr south "Switch" = some d := by
  rw [pickConduitMac_eq]
  -- MACs tell devices apart, so the conduit is the server as a device, and no router or firewall is
  -- one
  cases hrouter : firstOf ledger north.cidr south "Router" with
  | some r =>
    obtain ⟨hr, -, hclass⟩ := firstOf_spec hrouter
    refine iff_of_false (fun heq => ?_) (by rintro ⟨⟨⟩, -⟩)
    cases h.mac_inj hr hd heq
    exact hserver.2.2 hclass
  | none =>
    cases hfirewall : firstOf ledger north.cidr south "Firewall" with
    | some f =>
      obtain ⟨hf, -, hclass⟩ := firstOf_spec hfirewall
      refine iff_of_false (fun heq => ?_) (by rintro ⟨-, ⟨⟩, -⟩)
      cases h.mac_inj hf hd heq
      exact hserver.2.1 hclass
    | none =>
      cases hswitch : firstOf ledger north.cidr south "Switch" with
      | some sw =>
        obtain ⟨hsw, -, -⟩ := firstOf_spec hswitch
        constructor
        · intro heq
          cases h.mac_inj hsw hd heq
          exact ⟨rfl, rfl, rfl⟩
        · rintro ⟨-, -, ⟨⟩⟩
          rfl
      | none =>
        refine iff_of_false (fun heq => ?_) (by rintro ⟨-, -, ⟨⟩⟩)
        exact h.mac_ne_station hd hnorth heq.symm

/-! ## Adjacent, bounded and forwarded -/

/-- What is expected of the crossings of a ledger. -/
structure CrossingsSound (ledger : Session) (seed : UInt64) (maxPerPair : Nat) : Prop where
  adjacent : ∀ c ∈ northSouthCrossings ledger seed maxPerPair,
    ∃ north ∈ ledger.subnets, ∃ south ∈ ledger.subnets, ∃ d ∈ ledger.devices,
      north.purdueLevel = south.purdueLevel + 1 ∧ c.northIp = stationAddrNet north.cidr ∧
        d.subnetCidr = south.cidr ∧ d.cves ≠ [] ∧ d.assetType ≠ some "Firewall" ∧
        d.assetType ≠ some "Router" ∧ c.southIp = d.ip ∧ c.southMac = d.mac
  bounded : ∀ north ∈ ledger.subnets,
    let own := (northSouthCrossings ledger seed maxPerPair).filter
      fun c => decide (c.northIp = stationAddrNet north.cidr)
    own.length ≤ maxPerPair ∧ (own.map Crossing.southIp).Nodup ∧
      ∃ zone, ∀ c ∈ own, ∃ d ∈ ledger.devices, d.subnetCidr = zone ∧ c.southIp = d.ip
  forwarded : ∀ c ∈ northSouthCrossings ledger seed maxPerPair, c.conduitMac ≠ c.southMac

section

variable {ledger : Session} {seed : UInt64} {maxPerPair : Nat}

/-- Crossings join adjacent zones. -/
theorem adjacent_northSouthCrossings :
    ∀ c ∈ northSouthCrossings ledger seed maxPerPair,
      ∃ north ∈ ledger.subnets, ∃ south ∈ ledger.subnets, ∃ d ∈ ledger.devices,
        north.purdueLevel = south.purdueLevel + 1 ∧ c.northIp = stationAddrNet north.cidr ∧
          d.subnetCidr = south.cidr ∧ d.cves ≠ [] ∧ d.assetType ≠ some "Firewall" ∧
          d.assetType ≠ some "Router" ∧ c.southIp = d.ip ∧ c.southMac = d.mac := by
  intro c hc
  obtain ⟨north, hnorth, south, hsouth, hc⟩ := mem_northSouthCrossings.mp hc
  obtain ⟨hserver, hip, -⟩ := mem_crossingsOf.mp hc
  obtain ⟨d, hd, ⟨hcves, hfirewall, hrouter⟩, hzone, hsame⟩ :=
    mem_serversOf.mp (List.mem_of_mem_take hserver)
  obtain ⟨hmem, hlevel⟩ := southOf_spec hsouth
  exact ⟨north, hnorth, south, hmem, d, hd, hlevel, hip, hzone, hcves, hfirewall, hrouter,
    (congrArg Prod.fst hsame).symm, (congrArg Prod.snd hsame).symm⟩

/-- The crossings of one zone are few, and go to distinct servers of one zone. -/
theorem bounded_northSouthCrossings (h : WireDistinct ledger seed) {north : SubnetRecord}
    (hnorth : north ∈ ledger.subnets) :
    let own := (northSouthCrossings ledger seed maxPerPair).filter
      fun c => decide (c.northIp = stationAddrNet north.cidr)
    own.length ≤ maxPerPair ∧ (own.map Crossing.southIp).Nodup ∧
      ∃ zone, ∀ c ∈ own, ∃ d ∈ ledger.devices, d.subnetCidr = zone ∧ c.southIp = d.ip := by
  intro own
  -- what the station of a zone sends is what that zone polls
  have hown : own = crossingsFrom ledger seed maxPerPair north := crossings_from h hnorth
  rw [hown]
  cases hsouth : southOf ledger seed north.purdueLevel north with
  | none =>
    have hnil : crossingsFrom ledger seed maxPerPair north = [] := by
      rw [crossingsFrom, hsouth]
    rw [hnil]
    exact ⟨Nat.zero_le _, List.nodup_nil, north.cidr, nofun⟩
  | some south =>
    rw [crossingsFrom_of_south hsouth]
    refine ⟨?_, ?_, south.cidr, ?_⟩
    · rw [crossingsOf, List.length_map]
      exact List.length_take_le _ _
    · rw [crossingsOf, List.map_map]
      exact (List.Sublist.map Prod.fst (List.take_sublist _ _)).nodup (nodup_serversOf h.ips _)
    · intro c hc
      obtain ⟨d, hd, -, hzone, hsame⟩ :=
        mem_serversOf.mp (List.mem_of_mem_take (mem_crossingsOf.mp hc).1)
      exact ⟨d, hd, hzone, (congrArg Prod.fst hsame).symm⟩

/-- **The crossings are adjacent, bounded and really forwarded exactly when no pair of zones polls
the switch that forwards it.** The first two hold of every plant on the wire; so the condition is
about the conduit alone. -/
theorem crossingsSound_iff (h : WireDistinct ledger seed) :
    CrossingsSound ledger seed maxPerPair ↔
      ∀ north ∈ ledger.subnets, ∀ south,
        southOf ledger seed north.purdueLevel north = some south →
          ¬ SwitchPolled ledger maxPerPair north.cidr south.cidr := by
  constructor
  · rintro ⟨-, -, hforwarded⟩ north hnorth south hsouth ⟨hrouter, hfirewall, d, hswitch, hzone,
      hcves, hfew⟩
    obtain ⟨hd, -, hclass⟩ := firstOf_spec hswitch
    -- a switch with CVEs counts as a server: its class is neither of the two that are left out
    have hserver : IsServer d := by
      refine ⟨hcves, ?_, ?_⟩
      · rw [hclass]
        decide
      · rw [hclass]
        decide
    refine hforwarded ⟨stationAddrNet north.cidr, d.ip, d.mac,
      pickConduitMac ledger north.cidr south.cidr (stationMac seed north.cidr)⟩ ?_
      ((conduit_eq_server_iff h hnorth south.cidr hd hserver).mpr ⟨hrouter, hfirewall, hswitch⟩)
    exact mem_northSouthCrossings.mpr ⟨north, hnorth, south, hsouth,
      mem_crossingsOf.mpr ⟨(mem_take_serversOf h hd hserver hzone).mpr hfew, rfl, rfl⟩⟩
  · intro hnone
    refine ⟨adjacent_northSouthCrossings, fun north hnorth => bounded_northSouthCrossings h hnorth,
      fun c hc heq => ?_⟩
    obtain ⟨north, hnorth, south, hsouth, hc⟩ := mem_northSouthCrossings.mp hc
    obtain ⟨hpolled, -, hconduit⟩ := mem_crossingsOf.mp hc
    -- a crossing through the polled server itself: then the server is the switch of the pair
    obtain ⟨d, hd, hserver, hzone, hsame⟩ := mem_serversOf.mp (List.mem_of_mem_take hpolled)
    have hmac : c.southMac = d.mac := (congrArg Prod.snd hsame).symm
    rw [← hsame] at hpolled
    rw [hconduit, hmac] at heq
    obtain ⟨hrouter, hfirewall, hswitch⟩ :=
      (conduit_eq_server_iff h hnorth south.cidr hd hserver).mp heq
    exact hnone north hnorth south hsouth ⟨hrouter, hfirewall, d, hswitch, hzone, hserver.1,
      (mem_take_serversOf h hd hserver hzone).mp hpolled⟩

end

/-! ## Two plants -/

/-- A supervisory zone, and a control zone below it with some devices. -/
def twoLevelPlant (devices : List DeviceRecord) : Session :=
  { Session.new 1 with
    subnets :=
      [⟨.slash24 0x0A000200, "Supervisory", 2, none, none⟩,
        ⟨.slash24 0x0A000100, "Control", 1, none, none⟩]
    devices }

/-- A device of the control zone. -/
def controlDevice (ip : Ipv4Addr) (mac : Mac) (cves : List String) (assetType : String) :
    DeviceRecord :=
  { ip
    mac
    vendor := "Moxa"
    model := "EDS-408A"
    firmware := "3.8"
    protocol := "snmp"
    cves
    subnetCidr := .slash24 0x0A000100
    hostname := none
    assetType := some assetType }

/-- A plant with one switch, which bears a CVE: the switch is polled, through itself. -/
theorem crossing_through_polled_switch :
    WireDistinct (twoLevelPlant [controlDevice 0x0A000102 ⟨0, 0x90, 0xE8, 1, 2, 3⟩
        ["CVE-2024-9137"] "Switch"]) 1 ∧
      ¬ CrossingsSound (twoLevelPlant [controlDevice 0x0A000102 ⟨0, 0x90, 0xE8, 1, 2, 3⟩
        ["CVE-2024-9137"] "Switch"]) 1 1 := by
  refine ⟨⟨by decide, by decide, by decide +kernel⟩, fun hsound => ?_⟩
  exact hsound.forwarded ⟨0x0A0002FA, 0x0A000102, ⟨0, 0x90, 0xE8, 1, 2, 3⟩,
    ⟨0, 0x90, 0xE8, 1, 2, 3⟩⟩ (by decide +kernel) rfl

/-- A plant whose switch bears none: the controllers are polled, through the switch. -/
theorem crossingsSound_clean_switch :
    CrossingsSound (twoLevelPlant
      [controlDevice 0x0A000102 ⟨0, 0x90, 0xE8, 1, 2, 3⟩ [] "Switch",
        controlDevice 0x0A000103 ⟨0, 0x1D, 0x9C, 1, 2, 4⟩ ["CVE-2022-1161"] "PLC"]) 1 2 := by
  refine (crossingsSound_iff ⟨by decide, by decide, by decide +kernel⟩).mpr ?_
  rintro north - south - ⟨-, -, d, hswitch, -, hcves, -⟩
  obtain ⟨hd, -, hclass⟩ := firstOf_spec hswitch
  rcases List.mem_cons.mp hd with rfl | hd
  · exact hcves rfl
  · obtain rfl := List.mem_singleton.mp hd
    exact absurd hclass (by decide)

end TurboLaser
