import Mathlib.Logic.Relation
import TurboLaser.Simulate.DevicesFacts

/-!
# How the ledger may grow

The abstract view of every operation on the plant: whatever it computes, what it does to the ledger
is a run of four small steps (`Grow`). A zone, a device or a capture host is added, each with an
identity nothing else has, or devices and zones are given new names. `dev` and `host` say where
assets may be put.

An invariant of the ledger is then shown once for four steps, and not once for every allocator. The
other half of the work is that the allocators do no more than that. Each of them keeps sets of its
own of what is taken, and their agreement with the ledger is what its loop invariant says
(`Fabricating`, `Enriching`); that an address or a MAC is new in the ledger follows from its being
new in the set.

- `Identities` is the invariant all four steps keep: no two assets share an address or a MAC, and
  everything is where the ledger says it is;
- `Grows.identities`: **a run of steps keeps identities apart**, wherever assets are put;
- `fabricate_grows`, `createL3Zones_grows` and `enrichPlant_grows` show that the allocators do
  nothing else. Fabrication moreover puts no device on a reserved slot, and the bill of materials
  only firewalls.

A device is put without its name (`unnamed`), so that the steps need not know when names are given.
-/

namespace TurboLaser

open Lib Relation

/-- A device without its name. -/
def DeviceRecord.unnamed (d : DeviceRecord) : DeviceRecord := { d with hostname := none }

/-- Only names differ. -/
structure Relabelled (s s' : Session) : Prop where
  cidrs : s'.cidrs = s.cidrs
  devices : s'.devices.map DeviceRecord.unnamed = s.devices.map DeviceRecord.unnamed
  captureHosts : s'.captureHosts = s.captureHosts
  registryGeneration : s'.registryGeneration = s.registryGeneration

/-- **One step of the plant.** -/
inductive Grow (dev : DeviceRecord → Prop) (host : CaptureHostRecord → Prop) :
    Session → Session → Prop
  | relabel {s s'} (h : Relabelled s s') : Grow dev host s s'
  | zone {s rec} (hroom : s.subnets.length < maxSubnets) (hnew : rec.cidr ∉ s.cidrs)
      (hbits : rec.cidr.prefixLen ≤ 30) : Grow dev host s (s.pushSubnet rec)
  | device {s rec} (hroom : s.devices.length < maxDevices) (hzone : rec.subnetCidr ∈ s.cidrs)
      (hin : rec.subnetCidr.contains rec.ip = true) (hip : rec.ip ∉ s.usedIps)
      (hmac : rec.mac ∉ s.usedMacs) (hput : dev rec.unnamed) : Grow dev host s (s.pushDevice rec)
  | captureHost {s rec} (hzone : rec.subnetCidr ∈ s.cidrs)
      (hin : rec.subnetCidr.contains rec.ip = true) (hip : rec.ip ∉ s.usedIps)
      (hmac : rec.mac ∉ s.usedMacs)
      (horigin : rec.originIp ∉ s.captureHosts.map CaptureHostRecord.originIp)
      (hput : host rec) : Grow dev host s (s.pushHost rec)

/-- A run of steps. -/
abbrev Grows (dev : DeviceRecord → Prop) (host : CaptureHostRecord → Prop) :
    Session → Session → Prop :=
  ReflTransGen (Grow dev host)

/-! ## The invariant

Every address in use has one owner and every MAC has one, over devices and capture hosts together.
The steps that add an asset are given the two facts that keep this; the steps that rename keep it
because they change neither. Runs are sequences of such steps, whatever operation they come from.
-/

/-- **Every identity in the ledger is its own.** -/
structure Identities (s : Session) : Prop where
  ips : (s.assets.map Asset.ip).Nodup
  macs : (s.assets.map Asset.mac).Nodup
  origins : (s.captureHosts.map CaptureHostRecord.originIp).Nodup
  inZone : ∀ a ∈ s.assets, a.subnet ∈ s.cidrs ∧ a.subnet.contains a.ip = true
  cidrs : s.cidrs.Nodup
  prefixes : ∀ net ∈ s.cidrs, net.prefixLen ≤ 30
  subnets_le : s.subnets.length ≤ maxSubnets
  devices_le : s.devices.length ≤ maxDevices
  generation : s.registryGeneration = s.captureHosts.length

theorem identities_new (seed : UInt64) : Identities (Session.new seed) where
  ips := List.nodup_nil
  macs := List.nodup_nil
  origins := List.nodup_nil
  inZone := nofun
  cidrs := List.nodup_nil
  prefixes := nofun
  subnets_le := Nat.zero_le _
  devices_le := Nat.zero_le _
  generation := rfl

theorem Relabelled.assets_eq {s s' : Session} (h : Relabelled s s') : s'.assets = s.assets := by
  have hmap : ∀ ds : List DeviceRecord, ds.map DeviceRecord.asset =
      (ds.map DeviceRecord.unnamed).map DeviceRecord.asset := by
    intro ds
    rw [List.map_map]
    rfl
  rw [Session.assets, Session.assets, h.captureHosts, hmap s'.devices, h.devices, ← hmap]

theorem Relabelled.length_devices {s s' : Session} (h : Relabelled s s') :
    s'.devices.length = s.devices.length := by
  have := congrArg List.length h.devices
  rwa [List.length_map, List.length_map] at this

theorem Relabelled.length_subnets {s s' : Session} (h : Relabelled s s') :
    s'.subnets.length = s.subnets.length := by
  have := congrArg List.length h.cidrs
  rwa [Session.cidrs, Session.cidrs, List.length_map, List.length_map] at this

/-- A list grows by an element it does not have. -/
theorem nodup_map_cons {α β : Type} {f : α → β} {l : List α} {a : α}
    (h : (l.map f).Nodup) (hnew : ∀ b ∈ l, f b ≠ f a) : ((a :: l).map f).Nodup := by
  rw [List.map_cons, List.nodup_cons]
  refine ⟨fun hin => ?_, h⟩
  obtain ⟨b, hb, heq⟩ := List.mem_map.mp hin
  exact hnew b hb heq

section Step

variable {dev : DeviceRecord → Prop} {host : CaptureHostRecord → Prop} {s s' : Session}

theorem Identities.pushAsset {assets assets' : List Asset} {a : Asset}
    (hperm : assets'.Perm (a :: assets)) (hips : (assets.map Asset.ip).Nodup)
    (hmacs : (assets.map Asset.mac).Nodup) (hip : ∀ b ∈ assets, b.ip ≠ a.ip)
    (hmac : ∀ b ∈ assets, b.mac ≠ a.mac) :
    (assets'.map Asset.ip).Nodup ∧ (assets'.map Asset.mac).Nodup :=
  ⟨(hperm.map _).nodup_iff.mpr (nodup_map_cons hips hip),
    (hperm.map _).nodup_iff.mpr (nodup_map_cons hmacs hmac)⟩

/-- **Every step keeps identities apart.** -/
theorem Grow.identities (h : Grow dev host s s') (hs : Identities s) : Identities s' := by
  cases h with
  | relabel h =>
    have hassets := h.assets_eq
    refine ⟨?_, ?_, ?_, ?_, ?_, ?_, ?_, ?_, ?_⟩
    · rw [hassets]; exact hs.ips
    · rw [hassets]; exact hs.macs
    · rw [h.captureHosts]; exact hs.origins
    · rw [hassets, h.cidrs]; exact hs.inZone
    · rw [h.cidrs]; exact hs.cidrs
    · rw [h.cidrs]; exact hs.prefixes
    · rw [h.length_subnets]; exact hs.subnets_le
    · rw [h.length_devices]; exact hs.devices_le
    · rw [h.registryGeneration, h.captureHosts]; exact hs.generation
  | @zone rec hroom hnew hbits =>
    -- a new zone, and no new asset
    refine { hs with inZone := ?_, cidrs := ?_, prefixes := ?_, subnets_le := ?_ }
    · intro a ha
      obtain ⟨hzone, hin⟩ := hs.inZone a ha
      rw [Session.cidrs_pushSubnet]
      exact ⟨List.mem_append_left _ hzone, hin⟩
    · rw [Session.cidrs_pushSubnet]
      exact List.Nodup.append hs.cidrs (List.nodup_singleton _) (List.disjoint_singleton.mpr hnew)
    · intro net hnet
      rw [Session.cidrs_pushSubnet, List.mem_append, List.mem_singleton] at hnet
      obtain hold | rfl := hnet
      · exact hs.prefixes net hold
      · exact hbits
    · show (s.subnets ++ [rec]).length ≤ maxSubnets
      rw [List.length_append]
      exact hroom
  | @device rec hroom hzone hin hip hmac hput =>
    have hperm := s.assets_pushDevice rec
    obtain ⟨hips, hmacs⟩ := Identities.pushAsset hperm hs.ips hs.macs
      (fun b hb heq => hip (s.mem_usedIps.mpr ⟨b, hb, heq⟩))
      (fun b hb heq => hmac (s.mem_usedMacs.mpr ⟨b, hb, heq⟩))
    refine { hs with ips := hips, macs := hmacs, inZone := ?_, devices_le := ?_ }
    · intro a ha
      rw [hperm.mem_iff, List.mem_cons] at ha
      obtain rfl | hold := ha
      · exact ⟨hzone, hin⟩
      · exact hs.inZone a hold
    · show (s.devices ++ [rec]).length ≤ maxDevices
      rw [List.length_append]
      exact hroom
  | @captureHost rec hzone hin hip hmac horigin hput =>
    have hperm : (s.pushHost rec).assets.Perm (rec.asset :: s.assets) := by
      rw [Session.assets_pushHost]
      exact List.perm_append_singleton _ _
    obtain ⟨hips, hmacs⟩ := Identities.pushAsset hperm hs.ips hs.macs
      (fun b hb heq => hip (s.mem_usedIps.mpr ⟨b, hb, heq⟩))
      (fun b hb heq => hmac (s.mem_usedMacs.mpr ⟨b, hb, heq⟩))
    -- a capture host has an origin too, which no other host has
    refine { hs with ips := hips, macs := hmacs, origins := ?_, inZone := ?_, generation := ?_ }
    · show ((s.captureHosts ++ [rec]).map CaptureHostRecord.originIp).Nodup
      rw [List.map_append]
      exact List.Nodup.append hs.origins (List.nodup_singleton _)
        (List.disjoint_singleton.mpr horigin)
    · intro a ha
      rw [hperm.mem_iff, List.mem_cons] at ha
      obtain rfl | hold := ha
      · exact ⟨hzone, hin⟩
      · exact hs.inZone a hold
    · show s.registryGeneration + 1 = (s.captureHosts ++ [rec]).length
      rw [List.length_append, hs.generation]
      rfl

/-- **A run of steps keeps identities apart.** -/
theorem Grows.identities (h : Grows dev host s s') (hs : Identities s) : Identities s' := by
  induction h with
  | refl => exact hs
  | tail _ hstep ih => exact hstep.identities ih

/-- Assets may be put in more places. -/
theorem Grows.mono {dev' : DeviceRecord → Prop} {host' : CaptureHostRecord → Prop}
    (hdev : ∀ d, dev d → dev' d) (hhost : ∀ r, host r → host' r) (h : Grows dev host s s') :
    Grows dev' host' s s' := by
  refine ReflTransGen.mono (fun a b hstep => ?_) _ _ h
  cases hstep with
  | relabel h => exact .relabel h
  | zone hroom hnew hbits => exact .zone hroom hnew hbits
  | device hroom hzone hin hip hmac hput =>
    exact .device hroom hzone hin hip hmac (hdev _ hput)
  | captureHost hzone hin hip hmac horigin hput =>
    exact .captureHost hzone hin hip hmac horigin (hhost _ hput)

end Step

/-! ## Fabrication -/

/-- Off the reserved slots, where everything but a firewall is put. -/
def OffSlots (d : DeviceRecord) : Prop :=
  d.assetType ≠ some (AssetType.label .firewall) → ¬ IsReservedSlot d.subnetCidr d.ip

/-- What `fabricate` keeps from turn to turn: its copies are those of the ledger. -/
structure Fabricating (s : Session) (st : FabState) : Prop where
  grows : Grows OffSlots (fun _ => False) s st.session
  used : st.used = st.session.usedIps
  usedMacs : st.usedMacs = st.session.usedMacs

/-- Choosing a zone grows the ledger by a zone, or leaves it. -/
theorem ZoneChoice.grows {dev : DeviceRecord → Prop} {host : CaptureHostRecord → Prop}
    {s s' : Session} {used : Finset Ipv4Addr} {net : Option Ipv4Net}
    (h : ZoneChoice s used net s') : Grows dev host s s' := by
  cases h with
  | created hroom hnew hbits => exact .single (.zone hroom hnew hbits)
  | existing => exact .refl
  | exhausted => exact .refl

theorem ZoneChoice.used_eq {s s' : Session} {used : Finset Ipv4Addr} {net : Option Ipv4Net}
    (h : ZoneChoice s used net s') : s'.usedIps = s.usedIps ∧ s'.usedMacs = s.usedMacs := by
  unfold Session.usedIps Session.usedMacs
  rw [h.devices_eq.2]
  exact ⟨rfl, rfl⟩

theorem Fabricating.next {s : Session} {st st' : FabState} (h : Fabricating s st)
    (hturn : Turned st (.next st')) : Fabricating s st' := by
  cases hturn with
  | fullZone hchoice hfull =>
    obtain ⟨hips, hmacs⟩ := hchoice.used_eq
    exact ⟨h.grows.trans hchoice.grows, h.used.trans hips.symm, h.usedMacs.trans hmacs.symm⟩
  | @placed net s₁ ip rng mac salt profile hchoice hip hmac hroom =>
    obtain ⟨hips, hmacs⟩ := hchoice.used_eq
    obtain ⟨hfree, hin, hslot⟩ := nextFreeIn_spec hip
    have hstep : Grow OffSlots (fun _ => False) s₁
        (s₁.pushDevice (profile.record ip mac net)) := by
      refine .device hroom hchoice.mem_cidrs hin ?_ ?_ (fun _ => hslot)
      · rw [hips, ← h.used]
        exact hfree
      · rw [hmacs, ← h.usedMacs]
        exact (freshMac_spec hmac).1
    refine ⟨(h.grows.trans hchoice.grows).tail hstep, ?_, ?_⟩
    · rw [Session.usedIps_pushDevice, hips, ← h.used]
      rfl
    · rw [Session.usedMacs_pushDevice, hmacs, ← h.usedMacs]
      rfl

/-- **`fabricate` only grows the ledger**, and puts no device on a reserved slot. -/
theorem fabricate_grows {s s' : Session} {vuln : VulnDb} {params : AllocParams} {target : Nat}
    {rng rng' : Rng} {added : Nat}
    (h : fabricate s vuln params target rng = some (s', added, rng')) :
    Grows OffSlots (fun _ => False) s s' := by
  unfold fabricate at h
  split at h
  · cases h
    exact .refl
  · obtain ⟨st, hloop, heq⟩ := Option.map_eq_some_iff.mp h
    cases heq
    refine fabricateLoop_induct (P := Fabricating s)
      (Q := fun st => Grows OffSlots (fun _ => False) s st.session) ?_ ?_ ?_
      ⟨.refl, rfl, rfl⟩ hloop
    · exact fun st st' hst _ hturn => hst.next hturn
    · intro st st' hst _ hturn
      cases hturn with
      | exhausted hchoice => exact hst.grows.trans hchoice.grows
      | atCap hchoice _ => exact hst.grows.trans hchoice.grows
    · exact fun st hst _ => hst.grows

/-! ## Operations zones -/

theorem createL3Zone_grows {dev : DeviceRecord → Prop} {host : CaptureHostRecord → Prop}
    (s : Session) (params : AllocParams) (rng : Rng) :
    Grows dev host s (createL3Zone s params rng).1 := by
  unfold createL3Zone
  dsimp only
  cases hadd : s.addSubnet
      { cidr := (freshSubnet params.defaultPrefix s.cidrs rng).1
        zoneName := nameZone (some (l3Vendors.getD (s.subnets.length % l3Vendors.length) ""))
          none 3 s.subnets.length
        purdueLevel := 3
        vendor := some (l3Vendors.getD (s.subnets.length % l3Vendors.length) "")
        domain := none } with
  | none => exact .refl
  | some s' =>
    obtain ⟨hroom, hnew, rfl⟩ := addSubnet_eq_some.mp hadd
    refine .single (.zone hroom hnew ?_)
    dsimp only
    rw [prefixLen_freshSubnet]
    exact clampPrefix_le _

/-- **`create_l3_zones` only adds zones.** -/
theorem createL3Zones_grows {dev : DeviceRecord → Prop} {host : CaptureHostRecord → Prop}
    (params : AllocParams) (count : Nat) (s : Session) (rng : Rng) :
    Grows dev host s (createL3Zones s params rng count).1 := by
  induction count generalizing s rng with
  | zero => exact .refl
  | succ count ih =>
    rw [createL3Zones]
    split
    · exact .refl
    · exact (createL3Zone_grows s params rng).trans (ih _ _)

/-! ## The bill of materials

Enriching names what is there and then adds gear, class by class. What is added goes to a free slot
of its zone with a MAC of its own, so the invariant of the ledger is kept from asset to asset. Names
are set aside: apart from them the devices that were there are unchanged.
-/

theorem map_unnamed_modify (f : DeviceRecord → DeviceRecord)
    (hf : ∀ d, (f d).unnamed = d.unnamed) (ds : List DeviceRecord) (i : Nat) :
    (ds.modify i f).map DeviceRecord.unnamed = ds.map DeviceRecord.unnamed := by
  apply List.ext_getElem
  · simp
  · intro k h₁ h₂
    rw [List.getElem_map, List.getElem_map, List.getElem_modify]
    split
    · exact hf _
    · rfl

/-- Naming changes names only. -/
theorem unnamed_nameDevice (seed : UInt64) (zi : Nat) (domain : Option String) (n : Nat)
    (d : DeviceRecord) : (nameDevice seed zi domain n d).unnamed = d.unnamed := by
  unfold nameDevice
  dsimp only
  split <;> rfl

theorem unnamed_nameZoneDevices (seed : UInt64) (ds : List DeviceRecord) (z : SubnetRecord × Nat) :
    (nameZoneDevices seed ds z).map DeviceRecord.unnamed = ds.map DeviceRecord.unnamed := by
  have hfold : ∀ (es : List (Nat × Nat)) (ds' : List DeviceRecord),
      (es.foldl (fun ds e => ds.modify e.1 (nameDevice seed z.2 z.1.domain e.2)) ds').map
        DeviceRecord.unnamed = ds'.map DeviceRecord.unnamed := by
    intro es
    induction es with
    | nil => exact fun ds' => rfl
    | cons e es ih =>
      intro ds'
      rw [List.foldl_cons, ih]
      exact map_unnamed_modify _ (unnamed_nameDevice seed z.2 z.1.domain e.2) ds' e.1
  exact hfold _ ds

theorem unnamed_namePlant (seed : UInt64) (zones : List (SubnetRecord × Nat))
    (ds : List DeviceRecord) :
    (zones.foldl (nameZoneDevices seed) ds).map DeviceRecord.unnamed =
      ds.map DeviceRecord.unnamed := by
  induction zones generalizing ds with
  | nil => rfl
  | cons z zones ih => rw [List.foldl_cons, ih, unnamed_nameZoneDevices]

/-- What `enrich_plant` keeps from asset to asset. -/
structure Enriching (s : Session) (st : BomState) : Prop where
  grows : Grows OffSlots (fun _ => False) s st.session
  used : st.used = st.session.usedIps
  usedMacs : st.session.usedMacs ⊆ st.usedMacs
  cidrs : st.session.cidrs = s.cidrs

/-- An asset goes to a slot that is not reserved; only a firewall takes the gateway. -/
theorem bomAddr_spec {net : Ipv4Net} {atype : AssetType} {used : Finset Ipv4Addr} {ip : Ipv4Addr}
    (hbits : net.prefixLen ≤ 30) (h : bomAddr net atype used = some ip) :
    net.contains ip = true ∧ (atype ≠ .firewall → ¬ IsReservedSlot net ip) := by
  unfold bomAddr at h
  split at h
  · next hfirewall =>
    cases h
    exact ⟨contains_firewallAddr (by omega), fun hne => absurd hfirewall hne⟩
  · obtain ⟨-, hin, hslot⟩ := nextFreeIn_spec h
    exact ⟨hin, fun _ => hslot⟩

theorem Enriching.addBomAsset {s : Session} {st st' : BomState} {vuln : VulnDb} {oui : OuiDb}
    {seed : UInt64} {z : SubnetRecord × Nat} {atype : AssetType} {n : Nat} {ip : Ipv4Addr}
    (h : Enriching s st) (hzone : z.1.cidr ∈ s.cidrs) (hin : z.1.cidr.contains ip = true)
    (hslot : atype ≠ .firewall → ¬ IsReservedSlot z.1.cidr ip)
    (hadd : TurboLaser.addBomAsset vuln oui seed z atype n ip st = some st') :
    Enriching s st' := by
  unfold TurboLaser.addBomAsset at hadd
  split at hadd
  · cases hadd
    exact h
  · next hfree =>
    split at hadd
    · cases hadd
    · next mac salt hmac =>
      split at hadd
      · cases hadd
        exact ⟨h.grows, h.used, h.usedMacs.trans (Finset.subset_insert _ _), h.cidrs⟩
      · next hpush =>
        cases hadd
        obtain ⟨hroom, rfl⟩ := addDevice_eq_some.mp hpush
        -- new for the two sets is new for the ledger, as they hold what it has used and perhaps
        -- more
        have hstep : Grow OffSlots (fun _ => False) st.session
            (st.session.pushDevice (bomRecord vuln seed z atype n ip mac)) := by
          refine .device hroom (by rw [h.cidrs]; exact hzone) hin ?_ ?_ ?_
          · rw [← h.used]
            exact hfree
          · exact fun hused => (freshMac_spec hmac).1 (h.usedMacs hused)
          · intro hclass
            refine hslot fun hfirewall => hclass ?_
            rw [hfirewall]
            rfl
        refine ⟨h.grows.tail hstep, ?_, ?_, h.cidrs⟩
        · rw [Session.usedIps_pushDevice, ← h.used]
          rfl
        · rw [Session.usedMacs_pushDevice]
          exact Finset.insert_subset_insert _ h.usedMacs

theorem Enriching.addBomClass {s : Session} {vuln : VulnDb} {oui : OuiDb} {seed : UInt64}
    {z : SubnetRecord × Nat} {atype : AssetType} (hzone : z.1.cidr ∈ s.cidrs)
    (hbits : z.1.cidr.prefixLen ≤ 30) {count n : Nat} {st st' : BomState} (h : Enriching s st)
    (hadd : TurboLaser.addBomClass vuln oui seed z atype count n st = some st') :
    Enriching s st' := by
  induction count generalizing n st with
  | zero =>
    cases hadd
    exact h
  | succ count ih =>
    rw [TurboLaser.addBomClass] at hadd
    split at hadd
    · cases hadd
      exact h
    · next ip hip =>
      obtain ⟨hin, hslot⟩ := bomAddr_spec hbits hip
      split at hadd
      · cases hadd
      · next st₁ hasset => exact ih (h.addBomAsset hzone hin hslot hasset) hadd

theorem Enriching.addBomZone {s : Session} {vuln : VulnDb} {oui : OuiDb} {seed : UInt64}
    {z : SubnetRecord × Nat} (hzone : z.1.cidr ∈ s.cidrs) (hbits : z.1.cidr.prefixLen ≤ 30)
    {classes : List (AssetType × Nat)} {st st' : BomState} (h : Enriching s st)
    (hadd : TurboLaser.addBomZone vuln oui seed z classes st = some st') : Enriching s st' := by
  induction classes generalizing st with
  | nil =>
    cases hadd
    exact h
  | cons entry classes ih =>
    rw [TurboLaser.addBomZone] at hadd
    split at hadd
    · cases hadd
    · next hclass => exact ih (h.addBomClass hzone hbits hclass) hadd

theorem Enriching.addBom {s : Session} {vuln : VulnDb} {oui : OuiDb} {seed : UInt64}
    (hprefixes : ∀ net ∈ s.cidrs, net.prefixLen ≤ 30) {zones : List (SubnetRecord × Nat)}
    (hzones : ∀ z ∈ zones, z.1.cidr ∈ s.cidrs) {st st' : BomState} (h : Enriching s st)
    (hadd : TurboLaser.addBom vuln oui seed zones st = some st') : Enriching s st' := by
  induction zones generalizing st with
  | nil =>
    cases hadd
    exact h
  | cons z zones ih =>
    have hz := hzones z List.mem_cons_self
    rw [TurboLaser.addBom] at hadd
    split at hadd
    · cases hadd
    · next hzone =>
      exact ih (fun z' hz' => hzones z' (List.mem_cons_of_mem _ hz'))
        (h.addBomZone hz (hprefixes _ hz) hzone) hadd

/-- **`enrich_plant` names devices and then only grows the ledger.** -/
theorem enrichPlant_grows {s s' : Session} {vuln : VulnDb} {oui : OuiDb} {seed : UInt64}
    (hs : Identities s) (h : enrichPlant s vuln oui seed = some s') :
    Grows OffSlots (fun _ => False) s s' := by
  unfold enrichPlant at h
  obtain ⟨st, hadd, rfl⟩ := Option.map_eq_some_iff.mp h
  have hrelabel : Relabelled s
      { s with devices := s.subnets.zipIdx.foldl (nameZoneDevices seed) s.devices } :=
    ⟨rfl, unnamed_namePlant _ _ _, rfl, rfl⟩
  have hmacs : Session.usedMacs
      { s with devices := s.subnets.zipIdx.foldl (nameZoneDevices seed) s.devices } =
      s.usedMacs := by
    rw [Session.usedMacs, hrelabel.assets_eq]
    rfl
  have hinit : Enriching s
      ⟨{ s with devices := s.subnets.zipIdx.foldl (nameZoneDevices seed) s.devices },
        Session.usedIps { s with
          devices := s.subnets.zipIdx.foldl (nameZoneDevices seed) s.devices }, s.usedMacs⟩ :=
    ⟨.single (.relabel hrelabel), rfl, hmacs.subset, rfl⟩
  refine (hinit.addBom hs.prefixes (fun z hz => ?_) hadd).grows
  exact List.mem_map_of_mem (List.fst_mem_of_mem_zipIdx hz)

end TurboLaser
