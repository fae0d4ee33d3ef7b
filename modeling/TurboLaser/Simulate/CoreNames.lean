import TurboLaser.Lib.Lowest
import TurboLaser.Simulate.Devices
import TurboLaser.Simulate.Hostnames

/-!
# The names of the core devices (simulate/devices.rs)

The first loop of `enrich_plant` goes through the zones, sorts the devices of each by address and
names about 85 of 100 of them, each with its index in that order. When no zone is listed twice and
no two devices share an address, this comes down to naming each device by itself:

- `zoneRank`: how many devices of its zone have a smaller address;
- `NameSeat`: what a name is made from, and `SeatsClash`: when two seats give one name;
- `devices_named`: **each device keeps its place, and gets the name of its seat or none.**

A zone that is listed twice would be named twice, the second time with the other index; and two
devices with one address would be ordered by their place in the ledger. Neither happens in a ledger
that the operations have built, where addresses and networks are their own.

Whether a device is named at all is decided by a hash of the seed and its address. It is not among
the things a name is made from, so which devices are named is a parameter of the results about
names.
-/

namespace TurboLaser

open Lib

/-! ## Seats -/

/-- What a generated name is made from. -/
structure NameSeat where
  vendor : String
  atype : AssetType
  area : Nat
  dev : Nat
  domain : Option String

/-- The name of a seat. -/
def NameSeat.name (a : NameSeat) : String :=
  hostnameFor (some a.vendor) a.atype a.area a.dev a.domain

/-- Two seats of one zone and one class, which the device index does not tell apart. -/
def SeatsClash (a b : NameSeat) : Prop :=
  a.area = b.area ∧ a.atype = b.atype ∧ (a.atype.perZone = false → a.dev = b.dev)

/-- One name is given to seats that clash only. -/
theorem NameSeat.clash_of_name {a b : NameSeat} (h : a.name = b.name) : SeatsClash a b := by
  obtain ⟨-, hclass, harea, hdev, -⟩ := hostnameFor_eq_iff.mp h
  exact ⟨harea, hclass, hdev⟩

/-- **Seats that clash have one name**, when they are under one domain and no controllers. -/
theorem SeatsClash.name_eq {a b : NameSeat} (h : SeatsClash a b) (hdomain : a.domain = b.domain)
    (hclass : a.atype ≠ .controller) : a.name = b.name :=
  hostnameFor_eq_iff.mpr
    ⟨by rw [hdomain], h.2.1, h.1, h.2.2, fun hcontroller => absurd hcontroller hclass⟩

/-! ## Naming a zone -/

/-- The class of a device, for its name. -/
def DeviceRecord.nameClass (d : DeviceRecord) : AssetType := AssetType.ofLabel d.assetType

/-- How many devices of its zone have a smaller address. -/
def zoneRank (ds : List DeviceRecord) (d : DeviceRecord) : Nat :=
  (ds.filter fun e => decide (e.subnetCidr = d.subnetCidr)).countP
    fun e => decide (e.ip.toNat < d.ip.toNat)

/-- The devices of a zone have distinct addresses, when those of the plant have. -/
theorem nodup_zoneAddrs {ds : List DeviceRecord} (hips : (ds.map DeviceRecord.ip).Nodup)
    (net : Ipv4Net) :
    ((ds.filter fun d => decide (d.subnetCidr = net)).map fun d => d.ip.toNat).Nodup := by
  have hnumbers := hips.map fun _ _ => UInt32.toNat_inj.mp
  rw [List.map_map] at hnumbers
  exact (List.filter_sublist.map _).nodup hnumbers

/-- **The devices of a zone are named each by itself.** -/
theorem nameZoneDevices_eq (seed : UInt64) {ds : List DeviceRecord}
    (hips : (ds.map DeviceRecord.ip).Nodup) (z : SubnetRecord × Nat) :
    nameZoneDevices seed ds z = ds.map fun d =>
      if d.subnetCidr = z.1.cidr then nameDevice seed z.2 z.1.domain (zoneRank ds d) d else d := by
  have hsorted := modifyEach_sorted (nodup_zoneAddrs hips z.1.cidr)
    fun n => nameDevice seed z.2 z.1.domain n
  refine hsorted.trans (List.map_congr_left fun d hd => ?_)
  by_cases hzone : d.subnetCidr = z.1.cidr
  · rw [if_pos (decide_eq_true hzone), if_pos hzone, zoneRank, hzone]
  · rw [if_neg (by simpa using hzone), if_neg hzone]

/-! ## Naming the plant -/

/-- The zone of a device, with its index. -/
def zoneOf (zones : List (SubnetRecord × Nat)) (d : DeviceRecord) : Option (SubnetRecord × Nat) :=
  zones.find? fun z => decide (z.1.cidr = d.subnetCidr)

/-- The seat of a device in a zone. -/
def coreSeat (ds : List DeviceRecord) (d : DeviceRecord) (z : SubnetRecord × Nat) : NameSeat :=
  ⟨d.vendor, d.nameClass, z.2, zoneRank ds d, z.1.domain⟩

/-- The name a device is given, if its zone is listed and it is one of those with a name. -/
def coreName (seed : UInt64) (zones : List (SubnetRecord × Nat)) (ds : List DeviceRecord)
    (d : DeviceRecord) : Option String :=
  if isNamed seed d.ip then (zoneOf zones d).map fun z => (coreSeat ds d z).name else none

/-- A device named in its zone. -/
def withCoreName (seed : UInt64) (zones : List (SubnetRecord × Nat)) (ds : List DeviceRecord)
    (d : DeviceRecord) : DeviceRecord :=
  (zoneOf zones d).elim d fun z => nameDevice seed z.2 z.1.domain (zoneRank ds d) d

/-- It has its new name, or else the one it had. -/
theorem hostname_withCoreName (seed : UInt64) (zones : List (SubnetRecord × Nat))
    (ds : List DeviceRecord) (d : DeviceRecord) :
    (withCoreName seed zones ds d).hostname = (coreName seed zones ds d).or d.hostname := by
  unfold withCoreName coreName
  cases zoneOf zones d with
  | none => simp
  | some z =>
    unfold nameDevice
    by_cases hnamed : isNamed seed d.ip = true
    · simp [hnamed, NameSeat.name, coreSeat, DeviceRecord.nameClass]
    · simp [hnamed]

/-- The rank of a device is the same under other names. -/
theorem zoneRank_map {f : DeviceRecord → DeviceRecord}
    (hcidr : ∀ d, (f d).subnetCidr = d.subnetCidr) (hip : ∀ d, (f d).ip = d.ip)
    (ds : List DeviceRecord) (d : DeviceRecord) : zoneRank (ds.map f) (f d) = zoneRank ds d := by
  rw [zoneRank, zoneRank, List.filter_map, List.countP_map, hcidr, hip]
  congr 1
  · funext e
    rw [Function.comp_apply, hip]
  · congr 1
    funext e
    rw [Function.comp_apply, hcidr]

theorem nameDevice_frame (seed : UInt64) (zi : Nat) (domain : Option String) (n : Nat)
    (d : DeviceRecord) : (nameDevice seed zi domain n d).subnetCidr = d.subnetCidr ∧
      (nameDevice seed zi domain n d).ip = d.ip := by
  unfold nameDevice
  dsimp only
  split <;> exact ⟨rfl, rfl⟩

theorem withCoreName_frame (seed : UInt64) (zones : List (SubnetRecord × Nat))
    (ds : List DeviceRecord) (d : DeviceRecord) :
    (withCoreName seed zones ds d).subnetCidr = d.subnetCidr ∧
      (withCoreName seed zones ds d).ip = d.ip := by
  unfold withCoreName
  cases zoneOf zones d with
  | none => exact ⟨rfl, rfl⟩
  | some z => exact nameDevice_frame seed z.2 z.1.domain _ d

/-- **Naming the plant zone by zone names each device by itself**, when no network is listed
twice and no two devices share an address. -/
theorem devices_named (seed : UInt64) {zones : List (SubnetRecord × Nat)}
    (hzones : (zones.map fun z => z.1.cidr).Nodup) {ds : List DeviceRecord}
    (hips : (ds.map DeviceRecord.ip).Nodup) :
    zones.foldl (nameZoneDevices seed) ds = ds.map (withCoreName seed zones ds) := by
  induction zones generalizing ds with
  | nil =>
    refine (List.map_id'' (fun d => ?_) ds).symm
    simp [withCoreName, zoneOf]
  | cons z zones ih =>
    obtain ⟨hfirst, hrest⟩ := List.nodup_cons.mp hzones
    rw [List.foldl_cons, nameZoneDevices_eq seed hips z]
    generalize hf : (fun d : DeviceRecord => if d.subnetCidr = z.1.cidr then
      nameDevice seed z.2 z.1.domain (zoneRank ds d) d else d) = f
    have hframe (d : DeviceRecord) : (f d).subnetCidr = d.subnetCidr ∧ (f d).ip = d.ip := by
      rw [← hf]
      dsimp only
      split
      · exact nameDevice_frame seed z.2 z.1.domain _ d
      · exact ⟨rfl, rfl⟩
    have hsame : (ds.map f).map DeviceRecord.ip = ds.map DeviceRecord.ip := by
      rw [List.map_map]
      exact List.map_congr_left fun d _ => (hframe d).2
    rw [ih hrest (hsame ▸ hips), List.map_map]
    refine List.map_congr_left fun d _ => ?_
    -- naming a zone moves no device, so the ranks in the later zones stay
    have hrank := zoneRank_map (fun d => (hframe d).1) (fun d => (hframe d).2) ds d
    rw [Function.comp_apply, withCoreName, withCoreName, hrank]
    by_cases hzone : d.subnetCidr = z.1.cidr
    · -- no later zone is the one of the device
      have hnone : zoneOf zones (f d) = none := by
        rw [zoneOf, List.find?_eq_none]
        rintro z' hz' hsame
        rw [(hframe d).1, hzone] at hsame
        exact hfirst (List.mem_map.mpr ⟨z', hz', of_decide_eq_true hsame⟩)
      have hsome : zoneOf (z :: zones) d = some z :=
        List.find?_cons_of_pos (decide_eq_true hzone.symm)
      rw [hnone, hsome, ← hf]
      exact if_pos hzone
    · have hsame : f d = d := by
        rw [← hf]
        exact if_neg hzone
      have hrest : zoneOf (z :: zones) d = zoneOf zones d :=
        List.find?_cons_of_neg (by simpa using Ne.symm hzone)
      rw [hsame, hrest]

end TurboLaser
