import TurboLaser.Ledger
import TurboLaser.Proto.Remap
import TurboLaser.Simulate.Roles
import TurboLaser.Simulate.Zones

/-!
# Fabrication (simulate/devices.rs)

`fabricate` fills zones with devices until the ledger holds `target` of them, creating zones as it
goes; `createL3Zones` adds the operations zones above; `enrichPlant` names devices and adds every
zone's bill of materials.

Each allocator keeps its own copy of what is taken (`used`, `usedMacs`), built from the ledger when
it starts. `none` stands for a panic (a draw from an empty slice) or for a loop that never ends.

The loop of `fabricate` has no counter in the source: it ends when the target is reached, when no
zone can be had, or when the ledger refuses a device. Here it is given turns (`fabricateFuel`),
enough of them for any ledger, which `fabricateLoop_fuel` shows. A turn is a function of its own
(`fabricateTurn`) and says whether another one follows (`FabTurn`); the relation that later modules
argue about is made from turns, and mentions no fuel.

Draws are consumed in the order of the source: whether to open another zone, which zone, which
profile.
-/

namespace TurboLaser

open Lib

/-- `AllocParams`. -/
structure AllocParams where
  maxSubnets : Nat
  maxDevices : Nat
  defaultPrefix : Nat

/-- `next_free_in`: the first free host that is not a reserved slot. -/
def nextFreeIn (net : Ipv4Net) (used : Finset Ipv4Addr) : Option Ipv4Addr :=
  net.hosts.find? fun ip =>
    decide (ip ≠ firewallAddr net) && decide (ip ≠ stationAddrNet net) && decide (ip ∉ used)

/-! ## Zones -/

/-- `protocols_present`: the carrier protocols of the core profiles, in a fixed order. -/
def protocolsPresent (vuln : VulnDb) : List ProfileProto :=
  [ProfileProto.enip, .modbus, .s7, .switchSnmp].filter fun p =>
    (vuln.byProtocol p).any DeviceProfile.isCore

/-- `create_zone`: the network of the new zone, if one was created. -/
def createZone (s : Session) (vuln : VulnDb) (params : AllocParams) (rng : Rng) :
    Option (Option Ipv4Net × Session × Rng) :=
  let (net, rng) := freshSubnet params.defaultPrefix s.cidrs rng
  let protos := protocolsPresent vuln
  match protos[s.subnets.length % protos.length]? with
  | none => some (none, s, rng)
  | some proto =>
    let candidates := (vuln.byProtocol proto).filter DeviceProfile.isCore
    if candidates = [] then some (none, s, rng)
    else
      match rng.pick candidates with
      | none => none
      | some (profile, rng) =>
        match s.addSubnet
          { cidr := net
            zoneName := nameZone (some profile.vendor) (some (familyOf profile.model))
              profile.purdueLevel s.subnets.length
            purdueLevel := profile.purdueLevel
            vendor := some profile.vendor
            domain := none } with
        | none => some (none, s, rng)
        | some s' => some (some net, s', rng)

/-- The zones `next_free_in` still finds a host in. -/
def zonesWithRoom (s : Session) (used : Finset Ipv4Addr) : List Ipv4Net :=
  s.cidrs.filter fun net => (nextFreeIn net used).isSome

/-- Whether `choose_or_create_subnet` creates a zone. The coin is only flipped when
nothing else decides. -/
def wantsZone (s : Session) (vuln : VulnDb) (params : AllocParams) (withRoom : List Ipv4Net)
    (rng : Rng) : Bool × Rng :=
  if params.maxSubnets ≤ s.subnets.length then (false, rng)
  else if s.subnets.length < min (protocolsPresent vuln).length params.maxSubnets ∨ withRoom = []
    then (true, rng)
    else rng.genBool

/-- A random zone with room, if there is one. -/
def pickZone (withRoom : List Ipv4Net) (s : Session) (rng : Rng) :
    Option (Option Ipv4Net × Session × Rng) :=
  if withRoom = [] then some (none, s, rng)
  else (rng.pick withRoom).map fun (net, rng) => (some net, s, rng)

/-- `choose_or_create_subnet`. -/
def chooseOrCreateSubnet (s : Session) (vuln : VulnDb) (params : AllocParams)
    (used : Finset Ipv4Addr) (rng : Rng) : Option (Option Ipv4Net × Session × Rng) :=
  let withRoom := zonesWithRoom s used
  let (create, rng) := wantsZone s vuln params withRoom rng
  if create then
    match createZone s vuln params rng with
    | none => none
    | some (some net, s', rng) => some (some net, s', rng)
    | some (none, s', rng) => pickZone withRoom s' rng
  else pickZone withRoom s rng

/-- `L3_VENDORS`. -/
def l3Vendors : List String := ["VMware", "Dell", "Hewlett Packard"]

/-- One zone of `create_l3_zones`; a network that is listed already is refused. -/
def createL3Zone (s : Session) (params : AllocParams) (rng : Rng) : Session × Rng :=
  let (net, rng) := freshSubnet params.defaultPrefix s.cidrs rng
  let vendor := l3Vendors.getD (s.subnets.length % l3Vendors.length) ""
  ((s.addSubnet
    { cidr := net
      zoneName := nameZone (some vendor) none 3 s.subnets.length
      purdueLevel := 3
      vendor := some vendor
      domain := none }).getD s, rng)

/-- `create_l3_zones`. -/
def createL3Zones (s : Session) (params : AllocParams) (rng : Rng) : Nat → Session × Rng
  | 0 => (s, rng)
  | count + 1 =>
    if params.maxSubnets ≤ s.subnets.length then (s, rng)
    else
      let (s, rng) := createL3Zone s params rng
      createL3Zones s params rng count

/-! ## Devices -/

/-- `pick_profile`: a core profile of the zone's vendor, else any core profile. -/
def pickProfile (vuln : VulnDb) (vendor : Option String) (rng : Rng) :
    Option (DeviceProfile × Rng) :=
  let core := vuln.filter DeviceProfile.isCore
  let matching := core.filter fun p => decide (vendor = some p.vendor)
  if matching = [] then rng.pick core else rng.pick matching

/-- `make_mac`: the vendor's prefix with low bytes derived from the address. -/
def makeMac (profile : DeviceProfile) (seed : UInt64) (ip : Ipv4Addr) (salt : UInt64) : Mac :=
  let low := stableMac (seed + salt) ip
  match profile.ouiPrefix with
  | some oui => withOui oui low
  | none => low

/-- `asset_label_for_proto`. -/
def assetLabelForProto (proto : ProfileProto) : String :=
  if proto = .switchSnmp then AssetType.label .switch else AssetType.label .controller

/-- The device a profile becomes at an address. -/
def DeviceProfile.record (p : DeviceProfile) (ip : Ipv4Addr) (mac : Mac) (net : Ipv4Net) :
    DeviceRecord :=
  { ip, mac, vendor := p.vendor, model := p.model, firmware := p.firmware,
    protocol := p.protocol.asStr, cves := p.cves, subnetCidr := net, hostname := none,
    assetType := some (assetLabelForProto p.protocol) }

/-- The local variables of `fabricate`. -/
structure FabState where
  session : Session
  used : Finset Ipv4Addr
  usedMacs : Finset Mac
  rng : Rng
  added : Nat

/-- What a turn of the fabrication loop leads to: another turn, or the end. -/
inductive FabTurn where
  | next (st : FabState)
  | stop (st : FabState)

/-- One turn: choose a zone, a free host of it and a profile, and add the device. -/
def fabricateTurn (vuln : VulnDb) (params : AllocParams) (st : FabState) : Option FabTurn :=
  match chooseOrCreateSubnet st.session vuln params st.used st.rng with
  | none => none
  | some (none, s, rng) => some (.stop { st with session := s, rng })
  | some (some net, s, rng) =>
    match nextFreeIn net st.used with
    -- a zone just created may have no host to give
    | none => some (.next { st with session := s, rng })
    | some ip =>
      let zoneVendor := (s.subnets.find? fun z => decide (z.cidr = net)).bind SubnetRecord.vendor
      match pickProfile vuln zoneVendor rng with
      | none => none
      | some (profile, rng) =>
        match freshMac (makeMac profile s.seed ip) st.usedMacs with
        | none => none
        | some (mac, _) =>
          match s.addDevice (profile.record ip mac net) with
          | none => some (.stop { st with session := s, usedMacs := insert mac st.usedMacs, rng })
          | some s' =>
            some (.next
              { session := s'
                used := insert ip st.used
                usedMacs := insert mac st.usedMacs
                rng
                added := st.added + 1 })

/-- The fabrication loop, for at most `fuel` turns. -/
def fabricateLoop (vuln : VulnDb) (params : AllocParams) (target : Nat) :
    Nat → FabState → Option FabState
  | 0, _ => none
  | fuel + 1, st =>
    if target ≤ st.session.devices.length then some st
    else
      match fabricateTurn vuln params st with
      | none => none
      | some (.stop st') => some st'
      | some (.next st') => fabricateLoop vuln params target fuel st'

/-- A turn adds a device or a zone, or is the last: so many turns are enough. -/
def fabricateFuel (target : Nat) (s : Session) : Nat :=
  (target - s.devices.length) + (maxSubnets - s.subnets.length) + 1

/-- The state `fabricate` starts from. -/
def fabricateInit (s : Session) (rng : Rng) : FabState :=
  { session := s, used := s.usedIps, usedMacs := s.usedMacs, rng, added := 0 }

/-- `fabricate`: the ledger it leaves, how many devices it added, and the generator. -/
def fabricate (s : Session) (vuln : VulnDb) (params : AllocParams) (target : Nat) (rng : Rng) :
    Option (Session × Nat × Rng) :=
  if vuln = [] then some (s, 0, rng)
  else
    let target := min target params.maxDevices
    (fabricateLoop vuln params target (fabricateFuel target s) (fabricateInit s rng)).map
      fun st => (st.session, st.added, st.rng)

/-! ## The bill of materials

The second half of `enrich_plant` is a loop in a loop in a loop, over zones, classes and numbers,
and each level is a function here. What is local to the source function is a record, `BomState`. A
salt loop may fail to end as far as the model is concerned, and then the whole has no result.
-/

/-- `rotate_left` on a 64-bit word. -/
def rotateLeft (x : UInt64) (n : UInt64) : UInt64 := (x <<< n) ||| (x >>> (64 - n))

/-- `is_named`: about 85 of 100 assets, by seed and address. -/
def isNamed (seed : UInt64) (ip : Ipv4Addr) : Bool :=
  let h := rotateLeft (seed ^^^ (UInt64.ofNat ip.toNat * 0x9E3779B97F4A7C15)) 31
  decide (h % 100 < 85)

/-- `infra_profile`: a profile of the infrastructure class, by seed and address. -/
def infraProfile (vuln : VulnDb) (assetClass : String) (seed : UInt64) (ip : Ipv4Addr) :
    Option DeviceProfile :=
  let matching := vuln.filter fun p => decide (p.assetClass = some assetClass)
  let h := rotateLeft (seed ^^^ (UInt64.ofNat ip.toNat * 0x0100000001B3)) 17
  matching[h.toNat % matching.length]?

/-- `bom_mac_salted`. -/
def bomMacSalted (oui : OuiDb) (vendor : String) (seed : UInt64) (ip : Ipv4Addr)
    (bump : UInt64) : Mac :=
  withOui ((oui.ouiForVendor vendor ip.toNat).getD (itPoolOui ip.toNat))
    (stableMac (seed + bump) ip)

/-- The domain of the zone at an index: most zones share the first. -/
def zoneDomain (domains : List String) (seed : UInt64) (i : Nat) : Option String :=
  let h := rotateLeft (seed ^^^ (UInt64.ofNat i * 0x9E3779B97F4A7C15)) 29
  if domains.length = 1 ∨ h % 100 < 75 then domains[0]?
  else domains[1 + i % (domains.length - 1)]?

/-- `assign_domains`. -/
def assignDomains (s : Session) (domains : List String) (seed : UInt64) : Session :=
  if domains = [] then s
  else
    { s with
      subnets := s.subnets.mapIdx fun i z => { z with domain := zoneDomain domains seed i } }

/-- Name one device, if it is one of those with a name. -/
def nameDevice (seed : UInt64) (zi : Nat) (domain : Option String) (n : Nat) (d : DeviceRecord) :
    DeviceRecord :=
  let name := hostnameFor (some d.vendor) (AssetType.ofLabel d.assetType) zi n domain
  if isNamed seed d.ip then { d with hostname := some name } else d

/-- Name the devices of a zone, numbered in address order. -/
def nameZoneDevices (seed : UInt64) (devices : List DeviceRecord) (z : SubnetRecord × Nat) :
    List DeviceRecord :=
  let inZone := (devices.zipIdx.filter fun e => decide (e.1.subnetCidr = z.1.cidr)).insertionSort
    fun a b => a.1.ip.toNat ≤ b.1.ip.toNat
  (inZone.map Prod.snd).zipIdx.foldl
    (fun ds e => ds.modify e.1 (nameDevice seed z.2 z.1.domain e.2)) devices

/-- The local variables of the second half of `enrich_plant`. -/
structure BomState where
  session : Session
  used : Finset Ipv4Addr
  usedMacs : Finset Mac

/-- The address the next asset of a class takes: the firewall the gateway slot, any
other class the next free host. -/
def bomAddr (net : Ipv4Net) (atype : AssetType) (used : Finset Ipv4Addr) : Option Ipv4Addr :=
  if atype = .firewall then some (firewallAddr net) else nextFreeIn net used

/-- A bill-of-materials asset: an infrastructure profile's identity where the class
bears CVEs and the database has one, else a generic identity. -/
def bomRecord (vuln : VulnDb) (seed : UInt64) (z : SubnetRecord × Nat) (atype : AssetType)
    (n : Nat) (ip : Ipv4Addr) (mac : Mac) : DeviceRecord :=
  let profile := if atype.cveBearing then infraProfile vuln atype.label seed ip else none
  let vendor := profile.elim atype.bomVendor DeviceProfile.vendor
  { ip, mac, vendor
    model := profile.elim atype.bomModel DeviceProfile.model
    firmware := profile.elim "1.0" DeviceProfile.firmware
    protocol := profile.elim "none" fun p => p.protocol.asStr
    cves := profile.elim [] DeviceProfile.cves
    subnetCidr := z.1.cidr
    hostname :=
      if isNamed seed ip then some (hostnameFor (some vendor) atype z.2 n z.1.domain) else none
    assetType := some atype.label }

/-- The vendor a bill-of-materials asset is branded with. -/
def bomBrand (vuln : VulnDb) (seed : UInt64) (atype : AssetType) (ip : Ipv4Addr) : String :=
  (if atype.cveBearing then infraProfile vuln atype.label seed ip else none).elim
    atype.bomVendor DeviceProfile.vendor

/-- Add one asset at an address; an address in use is left alone. -/
def addBomAsset (vuln : VulnDb) (oui : OuiDb) (seed : UInt64) (z : SubnetRecord × Nat)
    (atype : AssetType) (n : Nat) (ip : Ipv4Addr) (st : BomState) : Option BomState :=
  if ip ∈ st.used then some st
  else
    match freshMac (bomMacSalted oui (bomBrand vuln seed atype ip) seed ip) st.usedMacs with
    | none => none
    | some (mac, _) =>
      match st.session.addDevice (bomRecord vuln seed z atype n ip mac) with
      | none => some { st with usedMacs := insert mac st.usedMacs }
      | some s' =>
        some { session := s', used := insert ip st.used, usedMacs := insert mac st.usedMacs }

/-- The assets of one class, numbered from `n`, until the zone has no free host. -/
def addBomClass (vuln : VulnDb) (oui : OuiDb) (seed : UInt64) (z : SubnetRecord × Nat)
    (atype : AssetType) : Nat → Nat → BomState → Option BomState
  | 0, _, st => some st
  | count + 1, n, st =>
    match bomAddr z.1.cidr atype st.used with
    | none => some st
    | some ip =>
      match addBomAsset vuln oui seed z atype n ip st with
      | none => none
      | some st' => addBomClass vuln oui seed z atype count (n + 1) st'

/-- The classes of one zone. -/
def addBomZone (vuln : VulnDb) (oui : OuiDb) (seed : UInt64) (z : SubnetRecord × Nat) :
    List (AssetType × Nat) → BomState → Option BomState
  | [], st => some st
  | (atype, count) :: rest, st =>
    match addBomClass vuln oui seed z atype count 0 st with
    | none => none
    | some st' => addBomZone vuln oui seed z rest st'

/-- The bill of materials of every zone. -/
def addBom (vuln : VulnDb) (oui : OuiDb) (seed : UInt64) :
    List (SubnetRecord × Nat) → BomState → Option BomState
  | [], st => some st
  | z :: rest, st =>
    match addBomZone vuln oui seed z (bomFor z.1.purdueLevel) st with
    | none => none
    | some st' => addBom vuln oui seed rest st'

/-- `enrich_plant`. -/
def enrichPlant (s : Session) (vuln : VulnDb) (oui : OuiDb) (seed : UInt64) : Option Session :=
  let zones := s.subnets.zipIdx
  let named := { s with devices := zones.foldl (nameZoneDevices seed) s.devices }
  (addBom vuln oui seed zones ⟨named, named.usedIps, s.usedMacs⟩).map BomState.session

end TurboLaser
