import TurboLaser.Scenario.Render
import TurboLaser.Simulate.ArpGraph
import TurboLaser.Simulate.Crossings
import TurboLaser.Synth.Announcements
import TurboLaser.Synth.Arp
import TurboLaser.Synth.Snmp

/-!
# Announce bursts (simulate/engine.rs)

At every announce the engine emits one burst: the ARP resolutions, the identity session of every
device that bears a CVE, the DNS lookups of the named devices, and, every so many runs, the polls of
a zone from the one above it. Sessions, lookups and polls are exchanges between two ends, and the
client's port is drawn from the burst counter and the device.

A burst is built as exchanges, of which the frames are made afterwards. The exchanges carry what the
claims about a burst are about: who opens a connection to whom, from which port, and with which
payloads. Two parts of a burst are no exchanges: the ARP resolutions and the beacons of switches,
and these are frames from the start.

- `announcedProfile`: the texts a device announces, those of its profile or a fallback of its own;
- `assertIdentity`: the session of one device, by the protocol of its profile;
- `buildAssertions`: the burst, in frames; `burstExchanges`: the exchanges in it;
- `assertIdentity_session`: whatever a device announces, it answers at its service port.
-/

namespace TurboLaser

open Lib Synth Scenario

/-! ## Profiles on the wire -/

/-- The fields of `DeviceProfile` that only its announcements read, with the others. -/
structure WireProfile extends DeviceProfile where
  enipVendorId : Option UInt16 := none
  enipDeviceType : Option UInt16 := none
  enipProductCode : Option UInt16 := none
  enipProductName : Option String := none
  sysDescr : Option String := none
  sysObjectId : Option String := none
  firmwareOid : Option String := none
  modbusVendorName : Option String := none
  modbusProductCode : Option String := none
  modbusRevision : Option String := none
deriving DecidableEq

/-- `proto_from_str`. -/
def protoFromStr (s : String) : ProfileProto :=
  if s = "modbus" then .modbus
  else if s = "s7" then .s7
  else if s = "switch_snmp" then .switchSnmp
  else .enip

/-- `fallback_profile`: what a ledger knows of a device whose model has no profile. -/
def fallbackProfile (dev : DeviceRecord) : WireProfile :=
  { vendor := dev.vendor
    model := dev.model
    firmware := dev.firmware
    protocol := protoFromStr dev.protocol
    purdueLevel := 0
    oui := none
    cves := dev.cves
    assetClass := none }

/-- The profile a device announces: that of its model, else the fallback. -/
def announcedProfile (vuln : List WireProfile) (dev : DeviceRecord) : WireProfile :=
  (vuln.find? fun p => decide (p.model = dev.model)).getD (fallbackProfile dev)

/-! ## Texts that fit a length field -/

/-- The offsets between the characters of a text, from `start` on. -/
def charBoundaries : Nat → List Char → List Nat
  | start, [] => [start]
  | start, c :: cs => start :: charBoundaries (start + c.utf8Size) cs

/-- The last boundary that is not behind an offset: the loop of `clamp_str`. -/
def boundaryBelow (cs : List Char) : Nat → Nat
  | 0 => 0
  | stop + 1 => if stop + 1 ∈ charBoundaries 0 cs then stop + 1 else boundaryBelow cs stop

/-- The characters in front of a boundary. -/
def charsUpTo : List Char → Nat → List Char
  | [], _ => []
  | c :: cs, stop => if stop < c.utf8Size then [] else c :: charsUpTo cs (stop - c.utf8Size)

/-- `clamp_str`. -/
def clampStr (s : String) (limit : Nat) : String :=
  if (utf8 s).length ≤ limit then s
  else String.ofList (charsUpTo s.toList (boundaryBelow s.toList limit))

/-! ## One device -/

/-- `ephemeral_port`: from the burst counter and the address of the device. -/
def ephemeralPort (nonce : UInt64) (devIp : Ipv4Addr) : UInt16 :=
  let h := nonce * 0x9E3779B97F4A7C15 ^^^ devIp.toUInt64 * 0x2545F4914F6CDD1D
  49152 + UInt16.ofNat (h.toNat % 16384)

/-- `DEFAULT_FIRMWARE_OID`. -/
def defaultFirmwareOid : String := "1.3.6.1.2.1.47.1.1.1.1.9.1"

/-- What one device emits: the beacons of a switch, and its session. -/
structure Asserted where
  beacons : List Frame
  session : Exchange

/-- The frames of a device, in send order. -/
def Asserted.frames (a : Asserted) : List Frame := a.beacons ++ a.session.frames

/-- The beacons of a switch; a firewall or a router sends none. -/
def switchBeaconsOf (mac : Mac) (ip : Ipv4Addr) (profile : WireProfile) (switchBeacons : Bool)
    (descr : String) : List Frame :=
  let infra := decide (profile.assetClass = some "Firewall" ∨ profile.assetClass = some "Router")
  if switchBeacons && !infra then
    [lldpBeacon mac ip (clampStr profile.model 511) (clampStr descr 511),
      cdpBeacon mac ip profile.model profile.firmware profile.model]
  else []

/-- `assert_identity`: the device is the server, and answers by the protocol of its profile. -/
def assertIdentity (mac : Mac) (ip clientIp : Ipv4Addr) (clientMac : Mac) (profile : WireProfile)
    (switchBeacons : Bool) (nonce : UInt64) : Asserted :=
  let e : Endpoints := ⟨clientMac, mac, clientIp, ip, ephemeralPort nonce ip⟩
  let version := parseVersion profile.firmware
  match profile.protocol with
  | .enip =>
    { beacons := []
      session := enipIdentityExchange e
        { vendorId := profile.enipVendorId.getD 0
          deviceType := profile.enipDeviceType.getD 0
          productCode := profile.enipProductCode.getD 0
          revisionMajor := version.1
          revisionMinor := version.2
          serial := ip
          productName := clampStr (profile.enipProductName.getD profile.model) 255 } }
  | .modbus =>
    { beacons := []
      session := modbusDevidExchange e 1
        { vendorName := clampStr (profile.modbusVendorName.getD profile.vendor) 255
          productCode := clampStr (profile.modbusProductCode.getD profile.model) 255
          revision := clampStr (profile.modbusRevision.getD profile.firmware) 255 } }
  | .s7 =>
    { beacons := []
      session := s7SzlExchange e (profile.s7OrderNumber.getD profile.model) version.1 version.2 }
  | .switchSnmp =>
    let descr := profile.sysDescr.getD (profile.vendor ++ " " ++ profile.model)
    let firmware := if profile.firmware = "" then none else some profile.firmware
    let firmwareOid := firmware.map fun _ => profile.firmwareOid.getD defaultFirmwareOid
    { beacons := switchBeaconsOf mac ip profile switchBeacons descr
      session := snmpExchange e "public" (0x1000 + (nonce.toUInt32 &&& 0x0fff)) descr
        profile.sysObjectId firmwareOid firmware }

/-! ## One burst -/

/-- What the engine's configuration says of bursts. -/
structure BurstConfig where
  deviceIdentity : Bool
  switchBeacons : Bool
  nsEnabled : Bool
  nsCadence : UInt64
  nsMaxPerPair : Nat

/-- `BEACON_EVERY`. -/
def beaconEvery : Nat := 8

/-- The identity sessions: a device that bears a CVE answers the station of its zone. -/
def identitySessions (ledger : Session) (vuln : List WireProfile) (switchBeacons : Bool)
    (nonce : UInt64) : List Asserted :=
  ledger.devices.filterMap fun dev =>
    if dev.cves = [] then none
    else
      let clientIp := stationAddrNet dev.subnetCidr
      some (assertIdentity dev.mac dev.ip clientIp (stableMac ledger.seed clientIp)
        (announcedProfile vuln dev) switchBeacons nonce)

/-- `resolvers`: the firewall of a zone; of several the last is kept. -/
def resolverOf (ledger : Session) (zone : Ipv4Net) : Option (Ipv4Addr × Mac) :=
  (ledger.devices.reverse.find? fun d =>
    decide (d.assetType = some "Firewall" ∧ d.subnetCidr = zone)).map fun d => (d.ip, d.mac)

/-- The DNS lookups: a named device asks the resolver of its zone for itself. -/
def dnsLookups (ledger : Session) (nonce : UInt64) : List Exchange :=
  ledger.devices.filterMap fun dev =>
    match dev.hostname, resolverOf ledger dev.subnetCidr with
    | some hostname, some (rip, rmac) =>
      if dev.ip = rip then none
      else
        some (dnsExchange ⟨dev.mac, rmac, dev.ip, rip, ephemeralPort nonce dev.ip⟩
          (nonce ^^^ dev.ip.toUInt64).toUInt16 hostname dev.ip)
    | _, _ => none

/-- The device of an address; of several the last is kept. -/
def deviceByIp (ledger : Session) (ip : Ipv4Addr) : Option DeviceRecord :=
  ledger.devices.reverse.find? fun d => decide (d.ip = ip)

/-- The polls from the zones above, through their conduits. -/
def northSouthPolls (cfg : BurstConfig) (ledger : Session) (vuln : List WireProfile)
    (run nonce : UInt64) : List Asserted :=
  if cfg.nsEnabled && decide (run.toNat % cfg.nsCadence.toNat = 0) then
    (northSouthCrossings ledger ledger.seed cfg.nsMaxPerPair).filterMap fun c =>
      (deviceByIp ledger c.southIp).map fun dev =>
        assertIdentity c.southMac c.southIp c.northIp c.conduitMac (announcedProfile vuln dev) false
          nonce
  else []

/-- Beacons go out with every eighth run. -/
def beaconsDue (cfg : BurstConfig) (run : UInt64) : Bool :=
  cfg.switchBeacons && decide (run.toNat % beaconEvery = 0)

/-- The ARP resolutions of a burst. -/
def arpFrames (ledger : Session) : List Frame :=
  (arpEdges (assetTexts ledger) ledger.seed).flatMap fun edge =>
    let frames := resolve edge.requester.mac edge.requester.ip edge.owner.mac edge.owner.ip
    [frames.1, frames.2]

/-- `build_assertions`. -/
def buildAssertions (cfg : BurstConfig) (ledger : Session) (vuln : List WireProfile)
    (run nonce : UInt64) : List Frame :=
  if !cfg.deviceIdentity then []
  else
    arpFrames ledger ++
      (identitySessions ledger vuln (beaconsDue cfg run) nonce).flatMap Asserted.frames ++
      (dnsLookups ledger nonce).flatMap Exchange.frames ++
      (northSouthPolls cfg ledger vuln run nonce).flatMap Asserted.frames

/-- The sessions, lookups and polls of a burst. -/
def burstExchanges (cfg : BurstConfig) (ledger : Session) (vuln : List WireProfile)
    (run nonce : UInt64) : List Exchange :=
  if !cfg.deviceIdentity then []
  else
    (identitySessions ledger vuln (beaconsDue cfg run) nonce).map Asserted.session ++
      dnsLookups ledger nonce ++
      (northSouthPolls cfg ledger vuln run nonce).map Asserted.session

/-! ## What a device answers at -/

/-- The service port of a protocol. -/
def servicePort : ProfileProto → UInt16
  | .enip => enipPort
  | .modbus => modbusPort
  | .s7 => s7Port
  | .switchSnmp => snmpPort

/-- Whatever a device announces, it answers the client at its service port. -/
theorem assertIdentity_session (mac : Mac) (ip clientIp : Ipv4Addr) (clientMac : Mac)
    (profile : WireProfile) (switchBeacons : Bool) (nonce : UInt64) :
    (assertIdentity mac ip clientIp clientMac profile switchBeacons nonce).session.ends =
        ⟨clientMac, mac, clientIp, ip, ephemeralPort nonce ip⟩ ∧
      (assertIdentity mac ip clientIp clientMac profile switchBeacons nonce).session.serverPort =
        servicePort profile.protocol := by
  unfold assertIdentity
  cases profile.protocol with
  | enip => exact ⟨rfl, rfl⟩
  | modbus => exact ⟨rfl, rfl⟩
  | s7 => exact ⟨rfl, rfl⟩
  | switchSnmp => exact ⟨rfl, rfl⟩

end TurboLaser
