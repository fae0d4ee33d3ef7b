import TurboLaser.Scenario.Sites
import TurboLaser.Simulate.ZonesApart

/-!
# The coherence of a sealed plant (scenario/plant.rs)

A sealed plant is coherent when its zones share no address, every device lies in the zone it
records, and no two devices share an address or a MAC. `buildSealedSession` reads its zones from
texts and puts devices into them on three paths, with checks of their own:

- a zone is refused when its text is listed, so two zones may still overlap;
- a declared address is not compared with its zone;
- a pinned MAC is not salted, so two of them may agree;
- the gateway of a `/32` lies behind it;
- `station_addr_net` shifts by all 32 bits for a `/0`.

Each of these is a condition on the spec, and together they are all there is: `PlantFits` collects
them, and the build is coherent exactly for the specs that meet it. The rest is kept apart by the
code: addresses on every path, and the MACs of the supporting cast from all others. The last point
is a panic in a build with overflow checks and a wrong address in one without; the model computes
the checked shift (`checkedStation`), so that "built without overflow" can be said.

`buildSealedSession_coherent_iff`: **a plant is coherent, and is built without overflow, exactly
when its spec fits**, in both directions and without a hypothesis. `sealed_plants_incoherent` shows
one spec for each way in which it fails.
-/

namespace TurboLaser.Scenario

open Lib

/-! ## Engineering stations, checked -/

/-- `station_addr_net` with its arithmetic checked: `none` where the shift `1u32 << host_bits` or
the sum overflows. -/
def checkedStation (net : Ipv4Net) : Option Ipv4Addr :=
  let hostBits := 32 - net.prefixLen
  if 32 ≤ hostBits then none
  else
    let lastUsable := if 1 ≤ hostBits then 2 ^ hostBits - 2 else 0
    let station := net.network.toNat + min 250 lastUsable
    if 2 ^ 32 ≤ station then none else some (UInt32.ofNat station)

/-- **The only overflow is that of the shift**, and where there is none this is the station of the
zone. -/
theorem checkedStation_eq (net : Ipv4Net) :
    checkedStation net = if net.prefixLen = 0 then none else some (stationAddrNet net) := by
  unfold checkedStation
  dsimp only
  by_cases hzero : net.prefixLen = 0
  · rw [if_pos (by omega), if_pos hzero]
  · rw [if_neg (by omega), if_neg hzero]
    have htop := net.network_add_size_le
    have hpos := net.size_pos
    have hroom : net.network.toNat +
        min 250 (if 1 ≤ 32 - net.prefixLen then 2 ^ (32 - net.prefixLen) - 2 else 0) < 2 ^ 32 := by
      change net.network.toNat +
        min 250 (if 1 ≤ 32 - net.prefixLen then net.size - 2 else 0) < 2 ^ 32
      split <;> omega
    rw [if_neg (Nat.not_le.mpr hroom)]
    refine congrArg some (UInt32.toNat_inj.mp ?_)
    rw [UInt32.toNat_ofNat', Nat.mod_eq_of_lt hroom]
    by_cases hhost : net.prefixLen ≤ 31
    · rw [toNat_stationAddrNet (by omega) hhost, if_pos (by omega)]
      rfl
    · rw [stationAddrNet, if_neg (by omega), if_neg (by omega)]
      simp

theorem checkedStation_isSome {net : Ipv4Net} :
    (checkedStation net).isSome ↔ net.prefixLen ≠ 0 := by
  rw [checkedStation_eq]
  split
  · next hzero => exact ⟨fun h => absurd h Bool.false_ne_true, fun h => absurd hzero h⟩
  · next hzero => exact ⟨fun _ => hzero, fun _ => rfl⟩

/-- The zone whose station pinning a device asks for: `next_free_in` does, and so does
`reserved_slot_warning`, which comes after the collision check. -/
def pinStation (table : ZoneTable) (d : DeviceSpec) (slots : List Slot) : List Ipv4Net :=
  match table.lookup d.zone with
  | none => []
  | some net =>
    match d.ip with
    | none => [net]
    | some text =>
      match parseIpv4Addr text with
      | none => []
      | some ip => if ip ∈ slotIps slots then [] else [net]

/-- Those of all devices, up to the first that is refused. -/
def pinStations (vuln : VulnDb) (table : ZoneTable) : List DeviceSpec → List Slot → List Ipv4Net
  | [], _ => []
  | d :: ds, slots =>
    pinStation table d slots ++
      match pinSlot vuln table d slots with
      | .error _ => []
      | .ok slots => pinStations vuln table ds slots

/-- The zones whose station `enrich_plant` asks for: those with an asset behind the firewall. -/
def castStations (zones : List (Ipv4Net × Nat)) : List Ipv4Net :=
  (zones.filter fun z => (bomFor z.2).any fun c => decide (c.1 ≠ .firewall)).map Prod.fst

/-- The slots of the pinned devices. -/
def pinnedSlots (spec : PlantSpec) (vuln : VulnDb) : Except PlantError (List Slot) :=
  match addZones spec.zones [] (Session.new 0) with
  | .error e => .error e
  | .ok (table, _) => pinSlots vuln table spec.devices []

/-- Every zone whose station `build_sealed_session` asks for. -/
def buildStations (spec : PlantSpec) (vuln : VulnDb) : List Ipv4Net :=
  match addZones spec.zones [] (Session.new 0) with
  | .error _ => []
  | .ok (table, _) =>
    pinStations vuln table spec.devices [] ++
      match pinSlots vuln table spec.devices [] with
      | .error _ => []
      | .ok _ => if spec.enrich then castStations spec.zoneNets else []

/-! ## Coherence -/

/-- A plant is coherent. -/
structure PlantCoherent (s : Session) : Prop where
  zones : s.cidrs.Pairwise ZonesApart
  inside : ∀ d ∈ s.devices, InZone d.asset
  ips : (s.devices.map DeviceRecord.ip).Nodup
  macs : (s.devices.map DeviceRecord.mac).Nodup

/-- The build overflows nowhere, returns, and what it accepts is coherent. -/
structure BuildsCoherent (spec : PlantSpec) (vuln : VulnDb) (oui : OuiDb) (seed : UInt64)
    (domains : List String) : Prop where
  checked : ∀ net ∈ buildStations spec vuln, (checkedStation net).isSome
  returns : ∃ r, buildSealedSession spec vuln oui seed domains = some r
  coherent : ∀ s, buildSealedSession spec vuln oui seed domains = some (.ok s) → PlantCoherent s

/-- The address a device declares lies in the zone it names. -/
def DeviceSpec.declaredInside (d : DeviceSpec) : Bool :=
  match d.ip.bind parseIpv4Addr, parseIpv4Net d.zone with
  | some ip, some net => net.contains ip
  | _, _ => true

/-- `pinned_mac` of every device, at the address it is pinned to. -/
def pinnedMacs (vuln : VulnDb) (oui : OuiDb) (seed : UInt64) :
    List DeviceSpec → List Slot → List Mac :=
  List.zipWith fun d slot =>
    pinnedMac oui (pinnedIdentity vuln d).vendor (pinnedIdentity vuln d).oui seed slot.ip

/-- What a spec has to meet by itself, its devices being pinned to the slots. -/
structure PlanFits (spec : PlantSpec) (vuln : VulnDb) (oui : OuiDb) (seed : UInt64)
    (slots : List Slot) : Prop where
  apart : (spec.zoneNets.map Prod.fst).Pairwise ZonesApart
  declared : ∀ d ∈ spec.devices, d.declaredInside = true
  gateways : spec.enrich = true → GatewaysFit spec.zoneNets slots
  macs : (pinnedMacs vuln oui seed spec.devices slots).Nodup

/-- No `/0` is asked for its station, and a spec that is accepted fits. -/
structure PlantFits (spec : PlantSpec) (vuln : VulnDb) (oui : OuiDb) (seed : UInt64) : Prop where
  stations : ∀ net ∈ buildStations spec vuln, net.prefixLen ≠ 0
  plan : ∀ slots, pinnedSlots spec vuln = .ok slots → PlanFits spec vuln oui seed slots

/-! ## Pinned devices -/

section Pinned

variable {vuln : VulnDb} {oui : OuiDb} {seed : UInt64} {table : ZoneTable}

/-- A pinned device lies in its zone unless it declares an address outside. -/
theorem Sited.inZone_iff {d : DeviceSpec} {rec : DeviceRecord}
    (hreads : ∀ text net, table.lookup text = some net → parseIpv4Net text = some net)
    (h : Sited vuln oui seed table d rec) : InZone rec.asset ↔ d.declaredInside = true := by
  obtain ⟨net, hnet, hrec⟩ := h.record
  have hzone : rec.subnetCidr = net := by rw [hrec]; rfl
  cases hip : d.ip with
  | none =>
    refine iff_of_true (h.assigned hip) ?_
    rw [DeviceSpec.declaredInside, hip]
    rfl
  | some text =>
    rw [DeviceSpec.declaredInside, hip, Option.bind_some, h.declared text hip, hreads _ _ hnet]
    show rec.subnetCidr.contains rec.ip = true ↔ net.contains rec.ip = true
    rw [hzone]

theorem Sited.mac_eq {d : DeviceSpec} {rec : DeviceRecord}
    (h : Sited vuln oui seed table d rec) :
    rec.mac = pinnedMac oui (pinnedIdentity vuln d).vendor (pinnedIdentity vuln d).oui seed
      rec.ip := by
  obtain ⟨net, -, hrec⟩ := h.record
  exact congrArg DeviceRecord.mac hrec

/-- All of them do, exactly when every declared address is inside. -/
theorem inside_iff_declared
    (hreads : ∀ text net, table.lookup text = some net → parseIpv4Net text = some net)
    {ds : List DeviceSpec} {recs : List DeviceRecord}
    (h : List.Forall₂ (Sited vuln oui seed table) ds recs) :
    (∀ a ∈ recs.map DeviceRecord.asset, InZone a) ↔ ∀ d ∈ ds, d.declaredInside = true := by
  induction h with
  | nil => exact iff_of_true nofun nofun
  | cons hsited _ ih =>
    rw [List.map_cons, List.forall_mem_cons, List.forall_mem_cons, hsited.inZone_iff hreads, ih]

/-- Their MACs, from the addresses they have. -/
theorem macs_eq_pinnedMacs {ds : List DeviceSpec} {recs : List DeviceRecord} {slots : List Slot}
    (h : List.Forall₂ (Sited vuln oui seed table) ds recs)
    (hips : recs.map DeviceRecord.ip = slots.map Slot.ip) :
    recs.map DeviceRecord.mac = pinnedMacs vuln oui seed ds slots := by
  induction h generalizing slots with
  | nil => rfl
  | cons hsited _ ih =>
    cases slots with
    | nil => cases hips
    | cons slot slots =>
      obtain ⟨hip, hrest⟩ := List.cons.inj hips
      rw [List.map_cons, hsited.mac_eq, hip, ih hrest]
      rfl

end Pinned

/-! ## Sealing -/

section Seal

variable {vuln : VulnDb} {seed : UInt64} (oui : OuiDb)

theorem ZonePlaces.refl {fits : Prop} (hfits : fits) (l : List Asset) : ZonePlaces fits l l :=
  ⟨.refl, fun _ => .refl, fun hnot => absurd hfits hnot⟩

/-- Everything is inside exactly when it was before and the gateways fit. -/
theorem ZonePlaces.inside_iff {fits : Prop} {l l' : List Asset} (h : ZonePlaces fits l l') :
    (∀ a ∈ l', InZone a) ↔ (∀ a ∈ l, InZone a) ∧ fits := by
  by_cases hfits : fits
  · rw [(h.inside hfits).forall_iff]
    exact ⟨fun hall => ⟨hall, hfits⟩, And.left⟩
  · obtain ⟨a, ha, hout⟩ := h.outside hfits
    exact iff_of_false (fun hall => hout (hall a ha)) fun hboth => hfits hboth.2

/-- **`enrich_plant`**: the zones stay, and the cast is put where the gateways allow. -/
theorem enrichPlant_places {s : Session} {slots : List Slot} (h : Shows vuln seed s slots)
    (hlen : slots.length ≤ maxDevices) (hzones : s.subnets.length ≤ maxSubnets) :
    ∃ s', enrichPlant s vuln oui seed = some s' ∧ s'.subnets = s.subnets ∧
      ZonePlaces (GatewaysFit (s.subnets.map fun z => (z.cidr, z.purdueLevel)) slots)
        (deviceAssets s) (deviceAssets s') := by
  have hstart := Casting.start h hlen
  obtain ⟨st', hadd, -⟩ := hstart.addBom oui s.subnets.zipIdx (cast_le hzones)
  -- naming the core devices moves no asset
  have hrelabel : Relabelled s (namedPlant seed s) := ⟨rfl, unnamed_namePlant _ _ _, rfl, rfl⟩
  have hassets : deviceAssets (namedPlant seed s) = deviceAssets s := by
    rw [← assets_of_noHosts h.hosts, ← hrelabel.assets_eq, assets_of_noHosts]
    exact h.hosts
  have hmacs : (namedPlant seed s).usedMacs ⊆ s.usedMacs := by
    rw [Session.usedMacs, hrelabel.assets_eq]
    exact Finset.Subset.refl _
  have hplaces := addBom_places oui s.subnets.zipIdx hstart (cast_le hzones) hmacs hadd
  refine ⟨st'.session, ?_, addBom_subnets hadd, ?_⟩
  · rw [enrichPlant, hadd]
    rfl
  · rw [← hassets]
    convert hplaces using 2
    conv_lhs => rw [← List.zipIdx_map_fst 0 s.subnets, List.map_map]
    rfl

theorem assets_modifyAt (ip : Ipv4Addr) {f : DeviceRecord → DeviceRecord}
    (hf : ∀ d, (f d).asset = d.asset) (ds : List DeviceRecord) :
    (modifyAt ip f ds).map DeviceRecord.asset = ds.map DeviceRecord.asset := by
  induction ds with
  | nil => rfl
  | cons d ds ih =>
    rw [modifyAt]
    split
    · rw [List.map_cons, List.map_cons, hf]
    · rw [List.map_cons, List.map_cons, ih]

/-- Re-asserted names move no asset. -/
theorem assets_reassertNames (s : Session) (names : List (Ipv4Addr × String)) :
    deviceAssets (reassertNames s names) = deviceAssets s := by
  unfold deviceAssets reassertNames
  dsimp only
  generalize s.devices = ds
  induction names generalizing ds with
  | nil => rfl
  | cons e names ih =>
    rw [List.foldl_cons, ih]
    exact assets_modifyAt e.1 (f := sealedName s e.2) (fun _ => rfl) ds

/-- **Sealing**: the zones stay, and the cast, if there is one, is put where the gateways allow. -/
theorem sealPlant_places (spec : PlantSpec) (domains : List String) {s : Session}
    {slots : List Slot} (h : Shows vuln seed s slots) (hlen : slots.length ≤ maxDevices)
    (hcount : s.subnets.length ≤ maxSubnets)
    (hzones : s.subnets.map (fun z => (z.cidr, z.purdueLevel)) = spec.zoneNets) :
    ∃ s', sealPlant spec vuln oui seed domains s = some s' ∧
      s'.cidrs = spec.zoneNets.map Prod.fst ∧
      ZonePlaces (spec.enrich = true → GatewaysFit spec.zoneNets slots) (deviceAssets s)
        (deviceAssets s') := by
  unfold sealPlant
  dsimp only
  generalize (if spec.domains = [] then domains else spec.domains) = domains
  obtain ⟨hdev, hhosts⟩ := assignDomains_devices s domains seed
  have hdomains := (assignDomains_zones s domains seed).trans hzones
  -- domains are names: neither devices nor networks change with them
  generalize assignDomains s domains seed = s₁ at hdev hhosts hdomains
  have hassets : deviceAssets s₁ = deviceAssets s := congrArg (List.map DeviceRecord.asset) hdev
  have hcidrs : s₁.cidrs = spec.zoneNets.map Prod.fst := by
    rw [← hdomains, List.map_map]
    rfl
  by_cases henrich : spec.enrich = true
  · have hshows : Shows vuln seed s₁ slots := ⟨by rw [hdev, h.shapes], by rw [hhosts, h.hosts]⟩
    have hcount₁ : s₁.subnets.length ≤ maxSubnets := by
      have hl := congrArg List.length (hdomains.trans hzones.symm)
      rw [List.length_map, List.length_map] at hl
      omega
    obtain ⟨s₂, hrun, hsub, hplaces⟩ := enrichPlant_places oui hshows hlen hcount₁
    rw [if_pos henrich, hrun]
    refine ⟨_, rfl, ?_, ?_⟩
    · rw [← hcidrs]
      exact congrArg (List.map SubnetRecord.cidr) hsub
    · change ZonePlaces _ _ (deviceAssets (reassertNames s₂ _))
      rw [assets_reassertNames, ← hassets, forall_prop_of_true henrich, ← hdomains]
      exact hplaces
  · rw [if_neg henrich]
    refine ⟨_, rfl, hcidrs, ?_⟩
    change ZonePlaces _ _ (deviceAssets (reassertNames s₁ _))
    rw [assets_reassertNames, hassets]
    exact .refl (fun h => absurd h henrich) _

end Seal

/-! ## The whole build

What can go wrong with a plant is decided while it is built, at three places: the shift of a `/0`,
the zones and pins as they are declared, and the gateways of the cast. Each has a condition on the
spec, and where one fails an asset or a pair of them shows the plant incoherent. So the conditions
together are exact.
-/

/-- **A spec is refused, or built into a plant that is coherent exactly when the spec fits.** -/
theorem buildSealedSession_places (spec : PlantSpec) (vuln : VulnDb) (oui : OuiDb) (seed : UInt64)
    (domains : List String) :
    match pinnedSlots spec vuln with
    | .error e => buildSealedSession spec vuln oui seed domains = some (.error e)
    | .ok slots => ∃ s, buildSealedSession spec vuln oui seed domains = some (.ok s) ∧
        (PlantCoherent s ↔ PlanFits spec vuln oui seed slots) := by
  have hseed := addZones_seed spec.zones [] (Session.new 0) seed
  rw [show { Session.new 0 with seed } = Session.new seed from rfl] at hseed
  unfold pinnedSlots buildSealedSession
  rw [hseed]
  cases hadd : addZones spec.zones [] (Session.new 0) with
  | error e => rfl
  | ok r =>
    obtain ⟨table, s₀⟩ := r
    obtain ⟨hdev, hhosts, -, hcount⟩ := addZones_spec (by decide) hadd
    obtain ⟨hreads, hzones⟩ := addZones_zones hadd nofun
    have hempty : Shows vuln seed { s₀ with seed } [] := ⟨by rw [hdev]; rfl, hhosts⟩
    have hpin := pinDevices_shows oui table spec.devices hempty (Nat.zero_le _)
    dsimp only [Except.map]
    cases hslots : pinSlots vuln table spec.devices [] with
    | error e =>
      rw [hslots] at hpin
      rw [hpin]
    | ok slots =>
      rw [hslots] at hpin
      obtain ⟨s₁, hrun, h₁, hlen, hsub⟩ := hpin
      have hnodev : ({ s₀ with seed } : Session).devices = [] := hdev
      obtain ⟨recs, hrecs, hsites, hips⟩ :=
        pinDevices_sited (s := { s₀ with seed }) hhosts (by rw [hnodev]; exact List.nodup_nil) hrun
      rw [hnodev, List.nil_append] at hrecs
      obtain ⟨s₂, hseal, hcidrs, hplaces⟩ := sealPlant_places oui spec domains h₁ hlen
        (by rw [hsub]; exact hcount) (by rw [hsub]; exact hzones)
      rw [hrun]
      dsimp only
      rw [hseal]
      refine ⟨s₂, rfl, ?_⟩
      subst hrecs
      -- the devices of the plant are those of the spec, where their slots put them
      have hinside : (∀ d ∈ s₂.devices, InZone d.asset) ↔
          (∀ d ∈ spec.devices, d.declaredInside = true) ∧
            (spec.enrich = true → GatewaysFit spec.zoneNets slots) := by
        rw [← inside_iff_declared hreads hsites]
        exact List.forall_mem_map.symm.trans hplaces.inside_iff
      have hmacs : (s₂.devices.map DeviceRecord.mac).Nodup ↔
          (pinnedMacs vuln oui seed spec.devices slots).Nodup := by
        rw [← macs_eq_pinnedMacs hsites h₁.ips, ← map_mac_deviceAssets, ← map_mac_deviceAssets]
        exact hplaces.places.nodup_macs
      constructor
      · intro h
        obtain ⟨hdeclared, hgateways⟩ := hinside.mp h.inside
        exact ⟨hcidrs ▸ h.zones, hdeclared, hgateways, hmacs.mp h.macs⟩
      · intro h
        refine ⟨hcidrs.symm ▸ h.apart, hinside.mpr ⟨h.declared, h.gateways⟩, ?_, hmacs.mpr h.macs⟩
        rw [← map_ip_deviceAssets]
        exact hplaces.places.nodup_ips (by rwa [map_ip_deviceAssets])

/-- **A plant is built without overflow and coherent exactly when its spec fits**: no `/0` is asked
for its engineering station; and, once the devices are pinned, the zones share no address, every
declared address is in its zone, no firewall is put behind a `/32`, and the pinned MACs differ. -/
theorem buildSealedSession_coherent_iff (spec : PlantSpec) (vuln : VulnDb) (oui : OuiDb)
    (seed : UInt64) (domains : List String) :
    BuildsCoherent spec vuln oui seed domains ↔ PlantFits spec vuln oui seed := by
  have hstations : (∀ net ∈ buildStations spec vuln, (checkedStation net).isSome) ↔
      ∀ net ∈ buildStations spec vuln, net.prefixLen ≠ 0 :=
    forall₂_congr fun net _ => checkedStation_isSome
  have hbuild := buildSealedSession_places spec vuln oui seed domains
  cases hpinned : pinnedSlots spec vuln with
  -- nothing is built: there is no plant to be coherent, and what was computed until then still
  -- counts
  | error e =>
    rw [hpinned] at hbuild
    constructor
    · intro h
      exact ⟨hstations.mp h.checked, fun slots hslots => by rw [hpinned] at hslots; cases hslots⟩
    · intro h
      refine ⟨hstations.mpr h.stations, ⟨_, hbuild⟩, fun s hs => ?_⟩
      rw [hbuild] at hs
      cases hs
  | ok slots =>
    rw [hpinned] at hbuild
    obtain ⟨s, hrun, hiff⟩ := hbuild
    constructor
    · intro h
      refine ⟨hstations.mp h.checked, fun slots' hslots => ?_⟩
      rw [hpinned] at hslots
      cases hslots
      exact hiff.mp (h.coherent s hrun)
    · intro h
      refine ⟨hstations.mpr h.stations, ⟨_, hrun⟩, fun s' hs => ?_⟩
      rw [hrun] at hs
      cases hs
      exact hiff.mpr (h.plan slots hpinned)

/-- A plant that does not fit is not coherent. -/
theorem not_buildsCoherent {spec : PlantSpec} {vuln : VulnDb} {oui : OuiDb} {seed : UInt64}
    {domains : List String} {slots : List Slot} (hpinned : pinnedSlots spec vuln = .ok slots)
    (hnot : ¬ PlanFits spec vuln oui seed slots) : ¬ BuildsCoherent spec vuln oui seed domains := by
  intro h
  have hbuild := buildSealedSession_places spec vuln oui seed domains
  rw [hpinned] at hbuild
  obtain ⟨s, hrun, hiff⟩ := hbuild
  exact hnot (hiff.mp (h.coherent s hrun))

/-- A plant of one zone that is all of IPv4. -/
def widePlant : PlantSpec := { zones := [⟨"0.0.0.0/0", "Plant", 1, none⟩] }

/-- A plant of two pinned devices, and nothing else. -/
def twinPlant : PlantSpec where
  zones := [⟨"10.20.10.0/24", "Cell", 1, none⟩]
  devices := [{ zone := "10.20.10.0/24", ip := some "10.20.10.5" },
    { zone := "10.20.10.0/24", ip := some "10.20.10.180" }]
  enrich := false

/-- A plant of one zone that is a single host. -/
def hostPlant : PlantSpec := { zones := [⟨"10.20.10.5/32", "Cell", 1, none⟩] }

/-- Shifting by all bits, two pinned devices with one MAC, and a firewall outside its zone. -/
theorem sealed_plants_incoherent :
    ¬ BuildsCoherent widePlant [] ⟨∅, ∅⟩ 1 [] ∧
      ¬ BuildsCoherent twinPlant [] ⟨∅, ∅⟩ 355 [] ∧
      ¬ BuildsCoherent hostPlant [] ⟨∅, ∅⟩ 1 [] := by
  refine ⟨fun h => ?_, not_buildsCoherent rfl fun h => ?_,
    not_buildsCoherent rfl fun h => ?_⟩
  · have hchecked := h.checked
    revert hchecked
    decide +kernel
  · have hmacs := h.macs
    revert hmacs
    decide +kernel
  · have hgateways := h.gateways rfl
    revert hgateways
    decide +kernel

end TurboLaser.Scenario
