import Mathlib.Data.Finset.Lattice.Basic
import TurboLaser.Proto.Mac

/-!
# The session ledger (ledger/mod.rs)

The ledger is the world the appliance has fabricated so far: zones, devices and the capture hosts
registered as assets. Addresses, MACs and networks are held as values, not as the texts the file
stores. Of the fields of `Session` the ones no operation here reads are left out.

- `addSubnet`, `addDevice` and `registerCaptureHost` are the only ways it grows, each bounded by its
  cap. What they refuse is not an error to their callers, who look at the result and go on.
- `usedIps` and `usedMacs` are what an allocator must stay clear of. Both collect from devices and
  from capture hosts: an address is taken whoever has it.
- `assets` is what the wire shows, and `totalWireAssets` how many that are.

A device and a capture host are records of different types, and most questions about the wire do not
care which of them an asset is: `Asset` is what they have in common. The lemmas say what each of the
three operations does to the assets and to the networks, and are what later modules rewrite with;
none of them unfolds an operation of the ledger again.
-/

namespace TurboLaser

/-- `MAX_SUBNETS`. -/
def maxSubnets : Nat := 16

/-- `MAX_DEVICES`. -/
def maxDevices : Nat := 2000

/-- `DEFAULT_MAX_ASSETS`. -/
def defaultMaxAssets : Nat := 512

/-- A configured cap lowers a hard cap and never raises it. -/
def effectiveCap (hard default : Nat) (configured : Option Nat) : Nat :=
  max (configured.elim default fun c => min c hard) 1

/-- `effective_subnet_cap`. -/
def effectiveSubnetCap (configured : Option Nat) : Nat :=
  effectiveCap maxSubnets maxSubnets configured

/-- `effective_device_cap`. -/
def effectiveDeviceCap (configured : Option Nat) : Nat :=
  effectiveCap maxDevices maxDevices configured

/-- `effective_asset_cap`: clamped to the device hard cap, 512 when not set. -/
def effectiveAssetCap (configured : Option Nat) : Nat :=
  effectiveCap maxDevices defaultMaxAssets configured

/-- `SubnetRecord`. -/
structure SubnetRecord where
  cidr : Ipv4Net
  zoneName : String
  purdueLevel : Nat
  vendor : Option String
  domain : Option String
deriving DecidableEq

/-- `DeviceRecord`. -/
structure DeviceRecord where
  ip : Ipv4Addr
  mac : Mac
  vendor : String
  model : String
  firmware : String
  protocol : String
  cves : List String
  subnetCidr : Ipv4Net
  hostname : Option String
  assetType : Option String
deriving DecidableEq

/-- `CaptureHostRecord`: a host of a replayed capture, registered under the address
it had there. -/
structure CaptureHostRecord where
  originIp : Ipv4Addr
  ip : Ipv4Addr
  mac : Mac
  vendor : Option String
  protocol : Option String
  purdueLevel : Nat
  subnetCidr : Ipv4Net
  hostname : Option String
  assetType : Option String
deriving DecidableEq

/-- `Session`. -/
structure Session where
  seed : UInt64
  cycle : Nat
  subnets : List SubnetRecord
  devices : List DeviceRecord
  captureHosts : List CaptureHostRecord
  registryGeneration : Nat
  sealed : Bool
deriving DecidableEq

/-- What the wire shows of an asset: an address bound to a MAC, in a zone. -/
structure Asset where
  ip : Ipv4Addr
  mac : Mac
  subnet : Ipv4Net
deriving DecidableEq

/-- A device on the wire. -/
def DeviceRecord.asset (d : DeviceRecord) : Asset := ⟨d.ip, d.mac, d.subnetCidr⟩

/-- A capture host on the wire. -/
def CaptureHostRecord.asset (h : CaptureHostRecord) : Asset := ⟨h.ip, h.mac, h.subnetCidr⟩

namespace Session

/-- `Session::new`. -/
def new (seed : UInt64) : Session :=
  { seed, cycle := 0, subnets := [], devices := [], captureHosts := [],
    registryGeneration := 0, sealed := false }

/-- Everything on the wire: the devices, then the capture hosts. -/
def assets (s : Session) : List Asset :=
  s.devices.map DeviceRecord.asset ++ s.captureHosts.map CaptureHostRecord.asset

/-- The networks of the zones. -/
def cidrs (s : Session) : List Ipv4Net := s.subnets.map SubnetRecord.cidr

/-- `total_wire_assets`. -/
def totalWireAssets (s : Session) : Nat := s.devices.length + s.captureHosts.length

/-- `used_ips`. -/
def usedIps (s : Session) : Finset Ipv4Addr := (s.assets.map Asset.ip).toFinset

/-- Every MAC already on the wire. -/
def usedMacs (s : Session) : Finset Mac := (s.assets.map Asset.mac).toFinset

/-- The zone `rec` is added at the end. -/
def pushSubnet (s : Session) (rec : SubnetRecord) : Session :=
  { s with subnets := s.subnets ++ [rec] }

/-- The device `rec` is added at the end. -/
def pushDevice (s : Session) (rec : DeviceRecord) : Session :=
  { s with devices := s.devices ++ [rec] }

/-- The capture host `rec` is added at the end, in a new generation of the registry. -/
def pushHost (s : Session) (rec : CaptureHostRecord) : Session :=
  { s with
    captureHosts := s.captureHosts ++ [rec]
    registryGeneration := s.registryGeneration + 1 }

/-- `add_subnet`: refused at the hard cap and for a network that is listed. -/
def addSubnet (s : Session) (rec : SubnetRecord) : Option Session :=
  if maxSubnets ≤ s.subnets.length ∨ rec.cidr ∈ s.cidrs then none else some (s.pushSubnet rec)

/-- `add_device`: refused at the hard cap. -/
def addDevice (s : Session) (rec : DeviceRecord) : Option Session :=
  if maxDevices ≤ s.devices.length then none else some (s.pushDevice rec)

/-- `register_capture_host`: refused at the asset cap and for an address that is
registered. A host that is added starts a new generation of the registry. -/
def registerCaptureHost (s : Session) (rec : CaptureHostRecord) (cap : Nat) : Option Session :=
  if cap ≤ s.totalWireAssets ∨ rec.ip ∈ s.captureHosts.map CaptureHostRecord.ip then none
  else some (s.pushHost rec)

/-- `rename_zones_new_cycle`. -/
def renameZonesNewCycle (s : Session) (namer : Nat → SubnetRecord → String) : Session :=
  { s with
    cycle := s.cycle + 1
    subnets := s.subnets.mapIdx fun i rec => { rec with zoneName := namer i rec } }

/-! ## What the wire shows after an addition -/

variable (s : Session)

@[simp] theorem assets_pushSubnet (rec : SubnetRecord) : (s.pushSubnet rec).assets = s.assets := rfl

@[simp] theorem cidrs_pushSubnet (rec : SubnetRecord) :
    (s.pushSubnet rec).cidrs = s.cidrs ++ [rec.cidr] := by
  simp [cidrs, pushSubnet]

@[simp] theorem cidrs_pushDevice (rec : DeviceRecord) : (s.pushDevice rec).cidrs = s.cidrs := rfl

@[simp] theorem cidrs_pushHost (rec : CaptureHostRecord) : (s.pushHost rec).cidrs = s.cidrs := rfl

/-- Up to order, a device is one more asset. -/
theorem assets_pushDevice (rec : DeviceRecord) :
    (s.pushDevice rec).assets.Perm (rec.asset :: s.assets) := by
  rw [assets, pushDevice, List.map_append, List.append_assoc, List.map_singleton,
    List.singleton_append]
  exact List.perm_middle

/-- A capture host is one more asset, at the end. -/
theorem assets_pushHost (rec : CaptureHostRecord) :
    (s.pushHost rec).assets = s.assets ++ [rec.asset] := by
  rw [assets, assets, pushHost, List.map_append, List.append_assoc, List.map_singleton]

theorem mem_usedIps {ip : Ipv4Addr} : ip ∈ s.usedIps ↔ ∃ a ∈ s.assets, a.ip = ip := by
  rw [usedIps, List.mem_toFinset, List.mem_map]

theorem mem_usedMacs {mac : Mac} : mac ∈ s.usedMacs ↔ ∃ a ∈ s.assets, a.mac = mac := by
  rw [usedMacs, List.mem_toFinset, List.mem_map]

theorem usedIps_pushDevice (rec : DeviceRecord) :
    (s.pushDevice rec).usedIps = insert rec.ip s.usedIps := by
  rw [usedIps, List.toFinset_eq_of_perm _ _ ((s.assets_pushDevice rec).map _), List.map_cons,
    List.toFinset_cons]
  rfl

theorem usedMacs_pushDevice (rec : DeviceRecord) :
    (s.pushDevice rec).usedMacs = insert rec.mac s.usedMacs := by
  rw [usedMacs, List.toFinset_eq_of_perm _ _ ((s.assets_pushDevice rec).map _), List.map_cons,
    List.toFinset_cons]
  rfl

end Session

end TurboLaser
