import TurboLaser.Simulate.Devices
import TurboLaser.Text

/-!
# Pinning a plant (scenario/plant.rs)

A pack declares its plant: zones, the devices pinned into them, and whether to layer the generic
supporting cast on top. `buildSealedSession` turns that into a sealed ledger, or says what is wrong
with it.

The build has its own copy of many things that fabrication does as well: it makes zones, gives
addresses and MACs, names devices. They are modelled from its own code and not from the other one's,
since the checks differ, and it is in the differences that plants go wrong.

- Zones are named by their texts: two zones are the same, and a device is in one, when the texts
  agree. The ledger holds the networks the texts were read as, so of two spellings of one network it
  sees one network.
- Devices without an address get the lowest free one that is not reserved; a declared address is
  taken as it is.
- An error is a constructor with the values its message shows, and the first error in the source's
  order is the one that is returned.
- `none` stands for a salt loop of `enrich_plant` that never ends.
-/

namespace TurboLaser.Scenario

open Lib

/-- `ZoneSpec`. -/
structure ZoneSpec where
  cidr : String
  name : String
  purdueLevel : UInt8
  vendor : Option String := none
deriving DecidableEq

/-- `DeviceSpec`. -/
structure DeviceSpec where
  zone : String
  model : Option String := none
  ip : Option String := none
  hostname : Option String := none
  assetType : Option String := none
  vendor : Option String := none
  firmware : Option String := none
  protocol : Option String := none
deriving DecidableEq

/-- `PlantSpec`. -/
structure PlantSpec where
  zones : List ZoneSpec
  devices : List DeviceSpec := []
  domains : List String := []
  enrich : Bool := true
deriving DecidableEq

/-- Why a plant is refused. -/
inductive PlantError where
  /-- `zone cidr _ is not a valid CIDR` -/
  | zoneCidr (cidr : String)
  /-- `could not add zone _ (duplicate or cap)` -/
  | zoneRefused (cidr : String)
  /-- `device references undeclared zone _` -/
  | undeclaredZone (zone : String)
  /-- `device ip _ is not valid` -/
  | deviceIp (ip : String)
  /-- `zone _ is exhausted` -/
  | zoneExhausted (zone : String)
  /-- `device IP _ collides with another device in the plant` -/
  | ipCollision (ip : Ipv4Addr)
  /-- `could not pin device at _ (device cap)` -/
  | deviceCap (ip : Ipv4Addr)
deriving DecidableEq

/-! ## Zones -/

/-- The record of a zone. -/
def ZoneSpec.record (z : ZoneSpec) (net : Ipv4Net) : SubnetRecord :=
  { cidr := net, zoneName := z.name, purdueLevel := z.purdueLevel.toNat, vendor := z.vendor,
    domain := none }

/-- The zones added so far, by their texts. -/
abbrev ZoneTable := List (String × Ipv4Net)

/-- `add_subnet` for one zone of the plant; a text that is listed is refused. -/
def addZone (z : ZoneSpec) (table : ZoneTable) (s : Session) :
    Except PlantError (ZoneTable × Session) :=
  match parseIpv4Net z.cidr with
  | none => .error (.zoneCidr z.cidr)
  | some net =>
    if maxSubnets ≤ s.subnets.length ∨ (table.lookup z.cidr).isSome then
      .error (.zoneRefused z.cidr)
    else .ok (table ++ [(z.cidr, net)], s.pushSubnet (z.record net))

/-- The zones of a plant, in order. -/
def addZones : List ZoneSpec → ZoneTable → Session → Except PlantError (ZoneTable × Session)
  | [], table, s => .ok (table, s)
  | z :: zs, table, s =>
    match addZone z table s with
    | .error e => .error e
    | .ok (table, s) => addZones zs table s

/-! ## Devices -/

/-- `pinned_mac`. -/
def pinnedMac (oui : OuiDb) (vendor : String) (profileOui : Option Oui) (seed : UInt64)
    (ip : Ipv4Addr) : Mac :=
  withOui ((profileOui.or (oui.ouiForVendor vendor ip.toNat)).getD (itPoolOui ip.toNat))
    (stableMac seed ip)

/-- `label_for_proto`. -/
def labelForProto (p : ProfileProto) : String := if p = .switchSnmp then "Switch" else "Controller"

/-- The address of a device: the one it declares, else the next free host of its zone. -/
def pinAddress (d : DeviceSpec) (net : Ipv4Net) (used : Finset Ipv4Addr) :
    Except PlantError Ipv4Addr :=
  match d.ip with
  | some ip =>
    match parseIpv4Addr ip with
    | some a => .ok a
    | none => .error (.deviceIp ip)
  | none =>
    -- the zone text was read when the zone was added, and reads the same again
    match nextFreeIn net used with
    | some a => .ok a
    | none => .error (.zoneExhausted d.zone)

/-- What a device shows of itself. -/
structure PinnedIdentity where
  vendor : String
  model : String
  firmware : String
  protocol : String
  cves : List String
  oui : Option Oui
  assetType : String
deriving DecidableEq

/-- The identity of a device: its profile's, if its model has one, else the one it
describes. -/
def pinnedIdentity (vuln : VulnDb) (d : DeviceSpec) : PinnedIdentity :=
  match d.model.bind vuln.byModel with
  | some p =>
    { vendor := p.vendor, model := p.model, firmware := p.firmware, protocol := p.protocol.asStr,
      cves := p.cves, oui := p.ouiPrefix, assetType := d.assetType.getD (labelForProto p.protocol) }
  | none =>
    { vendor := d.vendor.getD "", model := (d.model.or d.assetType).getD "Device",
      firmware := d.firmware.getD "1.0", protocol := d.protocol.getD "none", cves := [], oui := none,
      assetType := d.assetType.getD "Controller" }

/-- The record of a pinned device. -/
def DeviceSpec.record (d : DeviceSpec) (vuln : VulnDb) (oui : OuiDb) (seed : UInt64) (net : Ipv4Net)
    (ip : Ipv4Addr) : DeviceRecord :=
  let id := pinnedIdentity vuln d
  { ip, mac := pinnedMac oui id.vendor id.oui seed ip, vendor := id.vendor, model := id.model,
    firmware := id.firmware, protocol := id.protocol, cves := id.cves, subnetCidr := net,
    hostname := d.hostname, assetType := some id.assetType }

/-- Pin one device. An address that is taken is an error, and so is the device cap. -/
def pinDevice (vuln : VulnDb) (oui : OuiDb) (seed : UInt64) (table : ZoneTable) (d : DeviceSpec)
    (s : Session) : Except PlantError Session :=
  match table.lookup d.zone with
  | none => .error (.undeclaredZone d.zone)
  | some net =>
    match pinAddress d net s.usedIps with
    | .error e => .error e
    | .ok ip =>
      if ip ∈ s.usedIps then .error (.ipCollision ip)
      else
        match s.addDevice (d.record vuln oui seed net ip) with
        | none => .error (.deviceCap ip)
        | some s => .ok s

/-- The devices of a plant, in order. -/
def pinDevices (vuln : VulnDb) (oui : OuiDb) (seed : UInt64) (table : ZoneTable) :
    List DeviceSpec → Session → Except PlantError Session
  | [], s => .ok s
  | d :: ds, s =>
    match pinDevice vuln oui seed table d s with
    | .error e => .error e
    | .ok s => pinDevices vuln oui seed table ds s

/-! ## Names -/

/-- A spec-given name: sealed under its zone's domain, unless it has a dot. -/
def sealedName (s : Session) (name : String) (d : DeviceRecord) : DeviceRecord :=
  let dom := (s.subnets.find? fun z => decide (z.cidr = d.subnetCidr)).bind SubnetRecord.domain
  { d with
    hostname := some (match dom with
      | some dom => if textContains name "." then name else name ++ "." ++ dom
      | none => name) }

/-- Change the device at an address. -/
def modifyAt (ip : Ipv4Addr) (f : DeviceRecord → DeviceRecord) :
    List DeviceRecord → List DeviceRecord
  | [] => []
  | d :: ds => if d.ip = ip then f d :: ds else d :: modifyAt ip f ds

/-- Re-assert the names the spec gives, by the addresses of the devices pinned first. -/
def reassertNames (s : Session) (names : List (Ipv4Addr × String)) : Session :=
  { s with devices := names.foldl (fun ds e => modifyAt e.1 (sealedName s e.2) ds) s.devices }

/-- The names the pinned devices declare, with their addresses. -/
def explicitNames (pinned : Session) : List (Ipv4Addr × String) :=
  pinned.devices.filterMap fun d => d.hostname.map (d.ip, ·)

/-! ## The plant -/

/-- The second half of `build_sealed_session`: domains, the supporting cast, names. -/
def sealPlant (spec : PlantSpec) (vuln : VulnDb) (oui : OuiDb) (seed : UInt64)
    (fallbackDomains : List String) (pinned : Session) : Option Session :=
  let domains := if spec.domains = [] then fallbackDomains else spec.domains
  let s := assignDomains pinned domains seed
  (if spec.enrich then enrichPlant s vuln oui seed else some s).map fun s =>
    { reassertNames s (explicitNames pinned) with sealed := true }

/-- `build_sealed_session`. -/
def buildSealedSession (spec : PlantSpec) (vuln : VulnDb) (oui : OuiDb) (seed : UInt64)
    (fallbackDomains : List String) : Option (Except PlantError Session) :=
  match addZones spec.zones [] (Session.new seed) with
  | .error e => some (.error e)
  | .ok (table, s) =>
    match pinDevices vuln oui seed table spec.devices s with
    | .error e => some (.error e)
    | .ok s => (sealPlant spec vuln oui seed fallbackDomains s).map .ok

end TurboLaser.Scenario
