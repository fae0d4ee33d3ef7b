import TurboLaser.Ledger
import TurboLaser.Scenario.Playbook
import TurboLaser.Simulate.Roles
import TurboLaser.Synth.Fieldbus
import TurboLaser.Synth.Ioc
import TurboLaser.Synth.S7
import TurboLaser.Synth.Telecontrol

/-!
# Rendering an event (scenario/engine.rs)

`renderEvent` resolves an event's target in the plant ledger and runs the synth builder of its kind
between the zone's engineering station and the device. The ledger is read as its file stores it,
texts and all: `LedgerEntry` is a device record with the fields the renderer reads.

An event whose target names nothing in the ledger renders to no frames, and that is no error here;
to refuse such a playbook is the business of `validate_targets`. Most parameters of an event have a
fallback that depends on the kind of the event, and a text that does not parse counts as absent.
Both are kept as the source has them, since what reaches the wire hangs on them.

- `resolve` and `endpoint` pick the device and its addresses: the first entry of the ledger that the
  reference names;
- `station`, `resolver` and `gatewayMac` are the other ends, which are computed from the network of
  the zone and need no entry of their own;
- `c2Domain`, `c2Ip` and `externalIp` go through the fidelity switch, which is where stand-in values
  replace the indicators of the threat actor;
- `exchanges`: the exchanges of an event, and `renderEvent` their frames.
-/

namespace TurboLaser.Scenario

open Lib Synth

/-- The fields of a `DeviceRecord` the renderer reads, as the ledger file stores them. -/
structure LedgerEntry where
  ip : String
  mac : String
  model : String
  firmware : String
  subnetCidr : String
  assetType : Option String
deriving DecidableEq

/-- The devices of a ledger, in file order. -/
abbrev PlantLedger := List LedgerEntry

/-- A device record as it is written to the file. -/
def entryOf (d : DeviceRecord) : LedgerEntry :=
  { ip := showIpv4Addr d.ip, mac := fmtMac d.mac, model := d.model, firmware := d.firmware,
    subnetCidr := showIpv4Net d.subnetCidr, assetType := d.assetType }

/-- The devices of a session, as the renderer reads them. -/
def plantLedger (s : Session) : PlantLedger := s.devices.map entryOf

/-- The fields of `ScenarioEngine` that only `render_event` reads, and the CRC that the DNP3
builders take from a crate. -/
structure Renderer where
  actors : ActorsCfg
  fidelity : IocFidelity
  seed : UInt64
  crc : List UInt8 → UInt16

/-- `resolve`: the first match, by address, then by model, then by asset type. -/
def resolve (ledger : PlantLedger) (t : Option DeviceRef) : Option LedgerEntry :=
  t.bind fun t =>
    (t.ip.bind fun ip => ledger.find? fun d => decide (d.ip = ip)).or
      ((t.model.bind fun m => ledger.find? fun d => decide (d.model = m)).or
        (t.assetType.bind fun at' => ledger.find? fun d => decide (d.assetType = some at')))

/-- `endpoint`: a device's address and MAC, `none` if the address does not parse. -/
def endpoint (dev : LedgerEntry) : Option (Ipv4Addr × Mac) :=
  (parseIpv4Addr dev.ip).map fun ip => (ip, parseMac dev.mac)

/-- `station_addr`. -/
def stationAddr (cidr : String) : Ipv4Addr :=
  ((parseIpv4Net cidr).map stationAddrNet).getD (ipv4 10 0 0 250)

/-- `firewall_addr` on the text of a zone. -/
def gatewayAddr (cidr : String) : Ipv4Addr :=
  ((parseIpv4Net cidr).map firewallAddr).getD (ipv4 10 0 0 1)

/-- `first_host`: the tenth host of a network. -/
def firstHost (cidr : String) : Option Ipv4Addr := (parseIpv4Net cidr).bind fun n => n.hosts[9]?

/-- One group of a firmware text as a version byte; a number of more than 32 bits is zero. -/
def versionByte (digits : List Char) : UInt8 :=
  let v := digits.foldl (fun a c => a * 10 + (c.toNat - 48)) 0
  UInt8.ofNat (min (if v < 4294967296 then v else 0) 255)

/-- `parse_version`: the first two runs of digits. -/
def parseVersion (fw : String) : UInt8 × UInt8 :=
  let groups := ((fw.toList.splitOnP fun c => !c.isDigit).filter fun g => !g.isEmpty).map versionByte
  (groups.getD 0 0, groups.getD 1 0)

namespace Renderer

variable (r : Renderer)

/-- `station`: the zone engineering station that sources an OT action. -/
def station (dev : LedgerEntry) : Ipv4Addr × Mac :=
  let ip := stationAddr dev.subnetCidr
  (ip, stableMac r.seed ip)

/-- `firewall`: the firewall of a zone, if the ledger has one. -/
def firewall (ledger : PlantLedger) (cidr : String) : Option (Ipv4Addr × Mac) :=
  (ledger.find? fun d => decide (d.subnetCidr = cidr ∧ d.assetType = some "Firewall")).bind endpoint

/-- `resolver`: the zone's DNS resolver. -/
def resolver (ledger : PlantLedger) (cidr : String) : Ipv4Addr × Mac :=
  (firewall ledger cidr).getD
    (let ip := gatewayAddr cidr
     (ip, stableMac r.seed ip))

/-- `gateway_mac`: the next hop for routable traffic. -/
def gatewayMac (ledger : PlantLedger) (cidr : String) : Mac :=
  ((firewall ledger cidr).map Prod.snd).getD (stableMac r.seed (gatewayAddr cidr))

/-- `c2_domain`. -/
def c2Domain (ev : Event) : String :=
  if r.fidelity = .standin then "beacon.example"
  else (ev.domain.or r.actors.c2Domains.head?).getD "beacon.example"

/-- `c2_ip`. -/
def c2Ip (ev : Event) : Ipv4Addr :=
  if r.fidelity = .standin then ipv4 203 0 113 10
  else
    ((ev.ip.bind parseIpv4Addr).or (r.actors.c2Ips.head?.bind parseIpv4Addr)).getD
      (ipv4 203 0 113 10)

/-- `external_ip`. -/
def externalIp : Ipv4Addr :=
  if r.fidelity = .standin then ipv4 198 51 100 10
  else (r.actors.externalCidrs.head?.bind firstHost).getD (ipv4 198 51 100 10)

/-- `on_target`: the target resolved and its station derived; nothing for a target that
does not resolve or has no address. -/
def onTarget (ledger : PlantLedger) (t : Option DeviceRef) (port : UInt16)
    (f : LedgerEntry → Endpoints → List Exchange) : List Exchange :=
  match resolve ledger t with
  | none => []
  | some dev =>
    match endpoint dev with
    | none => []
    | some (dip, dmac) =>
      let (cip, cmac) := r.station dev
      f dev ⟨cmac, dmac, cip, dip, port⟩

/-- The client port of an event: an ephemeral port by its nonce. -/
def clientPort (nonce : UInt64) : UInt16 := UInt16.ofNat (49152 + nonce.toNat % 16384)

/-- The share a wiper writes to. -/
def wiperShare (ev : Event) (dip : Ipv4Addr) : String :=
  ev.share.getD ("\\\\" ++ showIpv4Addr dip ++ "\\ADMIN$\\update.dll")

/-- The default implant of an S7 program download. -/
def s7Implant : List UInt8 := [0x70, 0x70, 0x01, 0x02, 0x03, 0x04]

/-- The default implant of a TriStation download. -/
def tristationImplant : List UInt8 := utf8 "imain.bin" ++ [0x00] ++ utf8 "inject.bin"

/-- The default firmware chunk of a converter overwrite. -/
def moxaFirmware : List UInt8 := [0xde, 0xad, 0xbe, 0xef]

/-- The host a beacon comes from: the target, else the first device. -/
def beaconHost (ledger : PlantLedger) (t : Option DeviceRef) : Option LedgerEntry :=
  (resolve ledger t).or ledger.head?

/-- `render_event`, before the exchanges are laid out in frames. -/
def exchanges (ev : Event) (ledger : PlantLedger) (vuln : VulnDb) (nonce : UInt64) :
    List Exchange :=
  let port := clientPort nonce
  let onTarget := r.onTarget ledger ev.target port
  match ev.emit with
  | .s7Read => onTarget fun dev e =>
    let order := ((vuln.byModel dev.model).bind DeviceProfile.s7OrderNumber).getD dev.model
    let (maj, min) := parseVersion dev.firmware
    [s7SzlExchange e order maj min]
  | .s7ProgramDownload => onTarget fun _ e =>
    [s7ProgramDownload e (ev.blockId.getD "_0800001P") (payloadBytes ev.payloadHex s7Implant)]
  | .s7Write => onTarget fun _ e =>
    [writeDbWord e (ev.db.getD 1) (ev.offset.getD 0) (ev.value.getD 0)]
  | .s7Stop => onTarget fun _ e => [plcStop e]
  | .modbusWrite => onTarget fun _ e =>
    [writeSingleRegister e (ev.unit.getD 1) (ev.register.getD 0) (ev.value.getD 0)]
  | .tristationStatus => onTarget fun _ e => [getCpStatus e]
  | .tristationDownload => onTarget fun _ e =>
    [tsProgramDownload e (payloadBytes ev.payloadHex tristationImplant) (ev.chunk.getD 8)]
  | .iec104Interrogation => onTarget fun _ e => [iec104Interrogation e (ev.commonAddr.getD 1)]
  | .iec104Command => onTarget fun _ e =>
    [iec104SingleCommand e (ev.commonAddr.getD 1) (ev.ioa.getD 1) (ev.close.getD false)]
  | .dnp3Read => onTarget fun _ e => [dnp3IntegrityPoll r.crc e (ev.commonAddr.getD 1)]
  | .dnp3Operate => onTarget fun _ e =>
    [dnp3Operate r.crc e (ev.commonAddr.getD 1) (UInt8.ofNat (ev.point.getD 0).toNat)
      (ev.close.getD false)]
  | .cipRead => onTarget fun _ e => [getAttribute e]
  | .cipWrite => onTarget fun _ e =>
    [setAttribute e (UInt8.ofNat (ev.register.getD 1).toNat) (ev.value.getD 0)]
  | .opcuaRead => onTarget fun _ e => [opcuaRead e]
  | .iec101Interrogation => onTarget fun _ e => [iec101Interrogation e (ev.commonAddr.getD 1)]
  | .iec101Command => onTarget fun _ e =>
    [iec101SingleCommand e (ev.commonAddr.getD 1) (ev.ioa.getD 1) (ev.close.getD false)]
  | .wiper => onTarget fun _ e => [smbShareWrite e (wiperShare ev e.serverIp)]
  | .moxaBrick => onTarget fun _ e => [moxaBrick e (payloadBytes ev.payloadHex moxaFirmware)]
  | .remoteAccess => onTarget fun dev e =>
    -- the external actor is the client, forwarded by the gateway; the station is unused
    [remoteAccess (r.gatewayMac ledger dev.subnetCidr) r.externalIp e.serverMac e.serverIp port
      (ev.port.getD 5938)]
  | .c2Beacon =>
    match beaconHost ledger ev.target with
    | none => []
    | some host =>
      match endpoint host with
      | none => []
      | some (hip, hmac) =>
        let (rip, rmac) := r.resolver ledger host.subnetCidr
        c2Beacon hmac hip rmac rip (r.gatewayMac ledger host.subnetCidr)
          ⟨r.c2Domain ev, r.c2Ip ev, ev.port.getD 80⟩ port (UInt16.ofNat nonce.toNat)

/-- `render_event`. -/
def renderEvent (ev : Event) (ledger : PlantLedger) (vuln : VulnDb) (nonce : UInt64) :
    List Frame :=
  (r.exchanges ev ledger vuln nonce).flatMap Exchange.frames

end Renderer

end TurboLaser.Scenario
