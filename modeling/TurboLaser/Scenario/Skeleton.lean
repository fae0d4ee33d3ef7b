import TurboLaser.Proto.MacRange
import TurboLaser.Scenario.Plant
import TurboLaser.Simulate.Growth

/-!
# The part of a plant no seed can change

The seed of a plant enters its MACs, its names and domains, and which of several infrastructure
profiles a firewall or a router gets. Everything else a plant shows, and whether it can be built at
all, is decided by the pack: `skeleton` computes it, as a list of slots with an address, an asset
type and where the model comes from.

The builder interleaves all of this. It salts a MAC, puts a record into the ledger and goes on from
the ledger, so the skeleton follows it step by step: `Shows` relates the ledger of the builder to
the slots so far, and each loop of the builder keeps it beside its counterpart on slots. What has to
be shown on the way is that no seed makes a step fail that another seed lets through; the only step
that could is a salt loop that never ends.

- `Slot.shape vuln seed` is what a slot shows under a seed;
- `pinDevices_shows`, `enrichPlant_shows`: the two loops, each beside its slots;
- `buildSealedSession_skeleton`: **a plant is built exactly when its skeleton is, and then shows
  what the skeleton says.**

In particular the salt loop of `enrich_plant` always ends: a plant has few assets, fewer than a
vendor prefix has MACs.
-/

namespace TurboLaser.Scenario

open Lib

/-- Where the model of an asset comes from. -/
inductive ModelSource where
  /-- A pinned device. -/
  | pinned (model : String)
  /-- An asset of the supporting cast. -/
  | bom (atype : AssetType)
deriving DecidableEq

/-- An asset of a plant, as far as no seed changes it. -/
structure Slot where
  ip : Ipv4Addr
  assetType : String
  source : ModelSource
deriving DecidableEq

/-- What an event can name of an asset: address, model and asset type. -/
structure Shape where
  ip : Ipv4Addr
  model : String
  assetType : Option String
deriving DecidableEq

/-- The shape of a device. -/
def shapeOf (d : DeviceRecord) : Shape := ⟨d.ip, d.model, d.assetType⟩

/-- The model of a bill-of-materials asset: the one place where the seed is read. -/
def bomModelUnder (vuln : VulnDb) (seed : UInt64) (atype : AssetType) (ip : Ipv4Addr) : String :=
  (if atype.cveBearing then infraProfile vuln atype.label seed ip else none).elim
    atype.bomModel DeviceProfile.model

/-- The model of a slot under a seed. -/
def Slot.model (vuln : VulnDb) (seed : UInt64) (slot : Slot) : String :=
  match slot.source with
  | .pinned m => m
  | .bom atype => bomModelUnder vuln seed atype slot.ip

/-- What a slot shows under a seed. -/
def Slot.shape (vuln : VulnDb) (seed : UInt64) (slot : Slot) : Shape :=
  ⟨slot.ip, slot.model vuln seed, some slot.assetType⟩

/-- The addresses of the slots. -/
def slotIps (slots : List Slot) : Finset Ipv4Addr := (slots.map Slot.ip).toFinset

/-! ## The skeleton -/

/-- Pin one device. -/
def pinSlot (vuln : VulnDb) (table : ZoneTable) (d : DeviceSpec) (slots : List Slot) :
    Except PlantError (List Slot) :=
  match table.lookup d.zone with
  | none => .error (.undeclaredZone d.zone)
  | some net =>
    match pinAddress d net (slotIps slots) with
    | .error e => .error e
    | .ok ip =>
      if ip ∈ slotIps slots then .error (.ipCollision ip)
      else if maxDevices ≤ slots.length then .error (.deviceCap ip)
      else
        let id := pinnedIdentity vuln d
        .ok (slots ++ [⟨ip, id.assetType, .pinned id.model⟩])

/-- Pin the devices of a plant. -/
def pinSlots (vuln : VulnDb) (table : ZoneTable) :
    List DeviceSpec → List Slot → Except PlantError (List Slot)
  | [], slots => .ok slots
  | d :: ds, slots =>
    match pinSlot vuln table d slots with
    | .error e => .error e
    | .ok slots => pinSlots vuln table ds slots

/-- Add one asset of the supporting cast. -/
def bomSlot (atype : AssetType) (ip : Ipv4Addr) (slots : List Slot) : List Slot :=
  if ip ∈ slotIps slots ∨ maxDevices ≤ slots.length then slots
  else slots ++ [⟨ip, atype.label, .bom atype⟩]

/-- The assets of one class. -/
def bomClassSlots (net : Ipv4Net) (atype : AssetType) : Nat → List Slot → List Slot
  | 0, slots => slots
  | count + 1, slots =>
    match bomAddr net atype (slotIps slots) with
    | none => slots
    | some ip => bomClassSlots net atype count (bomSlot atype ip slots)

/-- The classes of one zone. -/
def bomZoneSlots (net : Ipv4Net) (classes : List (AssetType × Nat)) (slots : List Slot) :
    List Slot :=
  classes.foldl (fun slots c => bomClassSlots net c.1 c.2 slots) slots

/-- The supporting cast of every zone. -/
def bomSlots (zones : List SubnetRecord) (slots : List Slot) : List Slot :=
  zones.foldl (fun slots z => bomZoneSlots z.cidr (bomFor z.purdueLevel) slots) slots

/-- The skeleton of a plant. -/
def skeleton (spec : PlantSpec) (vuln : VulnDb) : Except PlantError (List Slot) :=
  match addZones spec.zones [] (Session.new 0) with
  | .error e => .error e
  | .ok (table, s) =>
    match pinSlots vuln table spec.devices [] with
    | .error e => .error e
    | .ok slots => .ok (if spec.enrich then bomSlots s.subnets slots else slots)

/-! ## Zones -/

theorem addZone_seed (z : ZoneSpec) (table : ZoneTable) (s : Session) (seed : UInt64) :
    addZone z table { s with seed } =
      (addZone z table s).map fun r => (r.1, { r.2 with seed }) := by
  unfold addZone
  cases parseIpv4Net z.cidr with
  | none => rfl
  | some net =>
    dsimp only
    split <;> rfl

/-- The zones of a plant do not depend on its seed. -/
theorem addZones_seed (zs : List ZoneSpec) (table : ZoneTable) (s : Session) (seed : UInt64) :
    addZones zs table { s with seed } =
      (addZones zs table s).map fun r => (r.1, { r.2 with seed }) := by
  induction zs generalizing table s with
  | nil => rfl
  | cons z zs ih =>
    rw [addZones, addZones, addZone_seed]
    cases addZone z table s with
    | error e => rfl
    | ok r => exact ih r.1 r.2

/-- What the zones leave: no device, and few zones. -/
theorem addZones_spec {zs : List ZoneSpec} {table table' : ZoneTable} {s s' : Session}
    (hs : s.subnets.length ≤ maxSubnets) (h : addZones zs table s = .ok (table', s')) :
    s'.devices = s.devices ∧ s'.captureHosts = s.captureHosts ∧
      s'.subnets.length = s.subnets.length + zs.length ∧ s'.subnets.length ≤ maxSubnets := by
  induction zs generalizing table s with
  | nil =>
    cases h
    exact ⟨rfl, rfl, rfl, hs⟩
  | cons z zs ih =>
    rw [addZones] at h
    unfold addZone at h
    cases hnet : parseIpv4Net z.cidr with
    | none =>
      rw [hnet] at h
      cases h
    | some net =>
      rw [hnet] at h
      dsimp only at h
      -- a zone over the cap, or with a text that is listed, is refused and ends the build
      by_cases hbad : maxSubnets ≤ s.subnets.length ∨ (table.lookup z.cidr).isSome
      · rw [if_pos hbad] at h
        cases h
      · rw [if_neg hbad] at h
        have hlen : (s.pushSubnet (z.record net)).subnets.length = s.subnets.length + 1 := by
          simp [Session.pushSubnet]
        obtain ⟨hdev, hcap, hsub, hle⟩ := ih (by rw [hlen]; omega) h
        refine ⟨hdev, hcap, ?_, hle⟩
        rw [hsub, hlen, List.length_cons]
        omega

/-! ## Devices -/

section Pin

variable (vuln : VulnDb) (seed : UInt64)

/-- A ledger shows what the slots say, and has no capture host. -/
structure Shows (s : Session) (slots : List Slot) : Prop where
  shapes : s.devices.map shapeOf = slots.map (Slot.shape vuln seed)
  hosts : s.captureHosts = []

variable {vuln : VulnDb} {seed : UInt64} (oui : OuiDb)

theorem Shows.length {s : Session} {slots : List Slot} (h : Shows vuln seed s slots) :
    s.devices.length = slots.length := by
  have hlen := congrArg List.length h.shapes
  rwa [List.length_map, List.length_map] at hlen

theorem Shows.ips {s : Session} {slots : List Slot} (h : Shows vuln seed s slots) :
    s.devices.map DeviceRecord.ip = slots.map Slot.ip := by
  have h' := congrArg (List.map Shape.ip) h.shapes
  rwa [List.map_map, List.map_map] at h'

/-- The addresses in use are those of the slots. -/
theorem Shows.usedIps {s : Session} {slots : List Slot} (h : Shows vuln seed s slots) :
    s.usedIps = slotIps slots := by
  rw [Session.usedIps, slotIps, ← h.ips, Session.assets, h.hosts]
  simp [DeviceRecord.asset, Function.comp_def]

/-- One more device, one more slot. -/
theorem Shows.pushDevice {s : Session} {slots : List Slot} (h : Shows vuln seed s slots)
    {rec : DeviceRecord} {slot : Slot} (hshape : shapeOf rec = slot.shape vuln seed) :
    Shows vuln seed (s.pushDevice rec) (slots ++ [slot]) := by
  refine ⟨?_, h.hosts⟩
  rw [Session.pushDevice, List.map_append, List.map_append, h.shapes, List.map_singleton,
    List.map_singleton, hshape]

/-- Pinning a device succeeds, or fails, as pinning its slot does. -/
theorem pinDevice_shows {s : Session} {slots : List Slot} (h : Shows vuln seed s slots)
    (table : ZoneTable) (d : DeviceSpec) :
    match pinSlot vuln table d slots with
    | .error e => pinDevice vuln oui seed table d s = .error e
    | .ok slots' => ∃ rec, pinDevice vuln oui seed table d s = .ok (s.pushDevice rec) ∧
        Shows vuln seed (s.pushDevice rec) slots' ∧ slots'.length ≤ maxDevices := by
  unfold pinSlot pinDevice
  rw [h.usedIps]
  cases table.lookup d.zone with
  | none => rfl
  | some net =>
    dsimp only
    cases pinAddress d net (slotIps slots) with
    | error e => rfl
    | ok ip =>
      dsimp only
      by_cases htaken : ip ∈ slotIps slots
      · rw [if_pos htaken, if_pos htaken]
      · rw [if_neg htaken, if_neg htaken, Session.addDevice, h.length]
        by_cases hcap : maxDevices ≤ slots.length
        · rw [if_pos hcap, if_pos hcap]
        · rw [if_neg hcap, if_neg hcap]
          refine ⟨_, rfl, h.pushDevice rfl, ?_⟩
          rw [List.length_append, List.length_singleton]
          omega

/-- Pinning the devices succeeds, or fails, as pinning their slots does. -/
theorem pinDevices_shows (table : ZoneTable) (ds : List DeviceSpec) {s : Session}
    {slots : List Slot} (h : Shows vuln seed s slots) (hlen : slots.length ≤ maxDevices) :
    match pinSlots vuln table ds slots with
    | .error e => pinDevices vuln oui seed table ds s = .error e
    | .ok slots' => ∃ s', pinDevices vuln oui seed table ds s = .ok s' ∧
        Shows vuln seed s' slots' ∧ slots'.length ≤ maxDevices ∧ s'.subnets = s.subnets := by
  induction ds generalizing s slots with
  | nil => exact ⟨s, rfl, h, hlen, rfl⟩
  | cons d ds ih =>
    have hpin := pinDevice_shows oui h table d
    rw [pinSlots, pinDevices]
    cases hslot : pinSlot vuln table d slots with
    | error e =>
      rw [hslot] at hpin
      rw [hpin]
    | ok slots' =>
      rw [hslot] at hpin
      obtain ⟨rec, hdev, hshows, hlen'⟩ := hpin
      rw [hdev]
      exact ih hshows hlen'

end Pin

/-! ## The supporting cast

To show that the build ends one needs room for the salt loops only: a plant is small beside the MACs
of a prefix. The loop is followed slot by slot, where a slot is the address of an asset and its
class, and the number of MACs in use grows by one at most for each. Which models are picked is left
open.
-/

section Bom

variable {vuln : VulnDb} {seed : UInt64} (oui : OuiDb)

/-- The loop of `enrich_plant` stands at the slots, with at most `k` MACs taken. -/
structure Casting (vuln : VulnDb) (seed : UInt64) (k : Nat) (st : BomState) (slots : List Slot) :
    Prop where
  shows_ : Shows vuln seed st.session slots
  used : st.used = slotIps slots
  macs : st.usedMacs.card ≤ k

theorem Casting.mono {k k' : Nat} {st : BomState} {slots : List Slot}
    (h : Casting vuln seed k st slots) (hk : k ≤ k') : Casting vuln seed k' st slots :=
  ⟨h.shows_, h.used, h.macs.trans hk⟩

/-- Adding one asset ends, and adds its slot. -/
theorem Casting.addBomAsset {k : Nat} {st : BomState} {slots : List Slot}
    (h : Casting vuln seed k st slots) (hk : k < 2 ^ 24) (z : SubnetRecord × Nat)
    (atype : AssetType) (n : Nat) (ip : Ipv4Addr) :
    ∃ st', TurboLaser.addBomAsset vuln oui seed z atype n ip st = some st' ∧
      Casting vuln seed (k + 1) st' (bomSlot atype ip slots) := by
  unfold TurboLaser.addBomAsset bomSlot
  rw [h.used]
  by_cases htaken : ip ∈ slotIps slots
  · rw [if_pos htaken, if_pos (.inl htaken)]
    exact ⟨st, rfl, h.mono (Nat.le_succ k)⟩
  · rw [if_neg htaken]
    -- fewer MACs are in use than a prefix has, so the salt loop ends whatever the seed
    obtain ⟨⟨mac, salt⟩, hfresh⟩ := freshMac_isSome
      ((oui.ouiForVendor (bomBrand vuln seed atype ip) ip.toNat).getD (itPoolOui ip.toNat)) seed ip
      (h.macs.trans_lt hk)
    have hmacs : (insert mac st.usedMacs).card ≤ k + 1 :=
      (Finset.card_insert_le _ _).trans (Nat.succ_le_succ h.macs)
    rw [show freshMac (bomMacSalted oui (bomBrand vuln seed atype ip) seed ip) st.usedMacs =
      some (mac, salt) from hfresh]
    dsimp only
    rw [Session.addDevice, h.shows_.length]
    by_cases hcap : maxDevices ≤ slots.length
    · rw [if_pos hcap, if_pos (.inr hcap)]
      exact ⟨_, rfl, h.shows_, rfl, hmacs⟩
    · rw [if_neg hcap, if_neg (by simp [htaken, hcap])]
      refine ⟨_, rfl, h.shows_.pushDevice rfl, ?_, hmacs⟩
      dsimp only
      rw [slotIps, slotIps, List.map_append, List.toFinset_append, Finset.union_comm]
      rfl

/-- The assets of one class. -/
theorem Casting.addBomClass (z : SubnetRecord × Nat) (atype : AssetType) (count n : Nat) {k : Nat}
    {st : BomState} {slots : List Slot} (h : Casting vuln seed k st slots)
    (hk : k + count ≤ 2 ^ 24) :
    ∃ st', TurboLaser.addBomClass vuln oui seed z atype count n st = some st' ∧
      Casting vuln seed (k + count) st' (bomClassSlots z.1.cidr atype count slots) := by
  induction count generalizing n k st slots with
  | zero => exact ⟨st, rfl, h⟩
  | succ count ih =>
    rw [TurboLaser.addBomClass, bomClassSlots, h.used]
    cases bomAddr z.1.cidr atype (slotIps slots) with
    | none => exact ⟨st, rfl, h.mono (by omega)⟩
    | some ip =>
      obtain ⟨st₁, hadd, h₁⟩ := h.addBomAsset oui (by omega) z atype n ip
      obtain ⟨st', hrest, h'⟩ := ih (n + 1) h₁ (by omega)
      refine ⟨st', ?_, h'.mono (by omega)⟩
      dsimp only
      rw [hadd]
      exact hrest

/-- The classes of one zone. -/
theorem Casting.addBomZone (z : SubnetRecord × Nat) (classes : List (AssetType × Nat)) {k : Nat}
    {st : BomState} {slots : List Slot} (h : Casting vuln seed k st slots)
    (hk : k + (classes.map Prod.snd).sum ≤ 2 ^ 24) :
    ∃ st', TurboLaser.addBomZone vuln oui seed z classes st = some st' ∧
      Casting vuln seed (k + (classes.map Prod.snd).sum) st'
        (bomZoneSlots z.1.cidr classes slots) := by
  induction classes generalizing k st slots with
  | nil => exact ⟨st, rfl, h⟩
  | cons c classes ih =>
    rw [List.map_cons, List.sum_cons, ← Nat.add_assoc] at hk ⊢
    obtain ⟨st₁, hclass, h₁⟩ := h.addBomClass oui z c.1 c.2 0 (by omega)
    obtain ⟨st', hrest, h'⟩ := ih h₁ hk
    refine ⟨st', ?_, h'⟩
    rw [TurboLaser.addBomZone, hclass]
    exact hrest

/-- A zone has a handful of supporting assets. -/
theorem sum_bomFor_le (level : Nat) : ((bomFor level).map Prod.snd).sum ≤ 10 := by
  unfold bomFor
  split <;> decide

/-- The supporting cast of every zone. -/
theorem Casting.addBom (zones : List (SubnetRecord × Nat)) {k : Nat} {st : BomState}
    {slots : List Slot} (h : Casting vuln seed k st slots) (hk : k + 10 * zones.length ≤ 2 ^ 24) :
    ∃ st', TurboLaser.addBom vuln oui seed zones st = some st' ∧
      Casting vuln seed (k + 10 * zones.length) st' (bomSlots (zones.map Prod.fst) slots) := by
  induction zones generalizing k st slots with
  | nil => exact ⟨st, rfl, h⟩
  | cons z zones ih =>
    rw [List.length_cons] at hk ⊢
    have hsum := sum_bomFor_le z.1.purdueLevel
    obtain ⟨st₁, hzone, h₁⟩ := h.addBomZone oui z (bomFor z.1.purdueLevel) (by omega)
    obtain ⟨st', hrest, h'⟩ := ih (h₁.mono (show _ ≤ k + 10 by omega)) (by omega)
    refine ⟨st', ?_, h'.mono (by omega)⟩
    rw [TurboLaser.addBom, hzone]
    exact hrest

/-- Naming changes no shape. -/
theorem shapes_of_unnamed {ds ds' : List DeviceRecord}
    (h : ds'.map DeviceRecord.unnamed = ds.map DeviceRecord.unnamed) :
    ds'.map shapeOf = ds.map shapeOf := by
  have h' := congrArg (List.map shapeOf) h
  rwa [List.map_map, List.map_map] at h'

/-- The ledger `enrich_plant` adds the cast to: the core devices have their names. -/
abbrev namedPlant (seed : UInt64) (s : Session) : Session :=
  { s with devices := s.subnets.zipIdx.foldl (nameZoneDevices seed) s.devices }

/-- The loop of `enrich_plant` starts at the slots of the core devices. -/
theorem Casting.start {s : Session} {slots : List Slot} (h : Shows vuln seed s slots)
    (hlen : slots.length ≤ maxDevices) :
    Casting vuln seed maxDevices
      ⟨namedPlant seed s, (namedPlant seed s).usedIps, s.usedMacs⟩ slots := by
  have hnamed : Shows vuln seed (namedPlant seed s) slots :=
    ⟨(shapes_of_unnamed (unnamed_namePlant seed _ s.devices)).trans h.shapes, h.hosts⟩
  refine ⟨hnamed, hnamed.usedIps, (List.toFinset_card_le _).trans ?_⟩
  rw [List.length_map, Session.assets, h.hosts, List.map_nil, List.append_nil, List.length_map,
    h.length]
  exact hlen

/-- The cast of a plant is small beside the MACs of a prefix. -/
theorem cast_le {zones : List SubnetRecord} (hzones : zones.length ≤ maxSubnets) :
    maxDevices + 10 * zones.zipIdx.length ≤ 2 ^ 24 := by
  rw [List.length_zipIdx]
  unfold maxSubnets at hzones
  unfold maxDevices
  omega

/-- **The supporting cast is always found room or left out: `enrich_plant` ends.** -/
theorem enrichPlant_shows {s : Session} {slots : List Slot} (h : Shows vuln seed s slots)
    (hlen : slots.length ≤ maxDevices) (hzones : s.subnets.length ≤ maxSubnets) :
    ∃ s', enrichPlant s vuln oui seed = some s' ∧
      Shows vuln seed s' (bomSlots s.subnets slots) := by
  obtain ⟨st', hadd, h'⟩ := (Casting.start h hlen).addBom oui s.subnets.zipIdx (cast_le hzones)
  refine ⟨st'.session, ?_, ?_⟩
  · rw [enrichPlant, hadd]
    rfl
  · rw [← List.zipIdx_map_fst 0 s.subnets]
    exact h'.shows_

end Bom

/-! ## The whole plant

Addresses, asset types and the models of pinned devices are computed here from the spec alone, by
the functions that place them. Domains and names are passed over. That the build ends exactly when
this computation does, and shows the same, is what lets a pack be judged without a seed.
-/

theorem shapes_modifyAt (ip : Ipv4Addr) {f : DeviceRecord → DeviceRecord}
    (hf : ∀ d, shapeOf (f d) = shapeOf d) (ds : List DeviceRecord) :
    (modifyAt ip f ds).map shapeOf = ds.map shapeOf := by
  induction ds with
  | nil => rfl
  | cons d ds ih =>
    rw [modifyAt]
    split
    · rw [List.map_cons, List.map_cons, hf]
    · rw [List.map_cons, List.map_cons, ih]

/-- Re-asserted names change no shape. -/
theorem shapes_reassertNames (s : Session) (names : List (Ipv4Addr × String)) :
    (reassertNames s names).devices.map shapeOf = s.devices.map shapeOf := by
  unfold reassertNames
  dsimp only
  generalize s.devices = ds
  induction names generalizing ds with
  | nil => rfl
  | cons e names ih =>
    rw [List.foldl_cons, ih]
    exact shapes_modifyAt e.1 (f := sealedName s e.2) (fun _ => rfl) ds

theorem assignDomains_devices (s : Session) (domains : List String) (seed : UInt64) :
    (assignDomains s domains seed).devices = s.devices ∧
      (assignDomains s domains seed).captureHosts = s.captureHosts := by
  unfold assignDomains
  split <;> exact ⟨rfl, rfl⟩

/-- Domains change neither the network nor the level of a zone. -/
theorem assignDomains_zones (s : Session) (domains : List String) (seed : UInt64) :
    (assignDomains s domains seed).subnets.map (fun z => (z.cidr, z.purdueLevel)) =
      s.subnets.map fun z => (z.cidr, z.purdueLevel) := by
  unfold assignDomains
  split
  · rfl
  · rw [List.mapIdx_eq_zipIdx_map, List.map_map]
    conv_rhs => rw [← List.zipIdx_map_fst 0 s.subnets, List.map_map]
    rfl

/-- The supporting cast depends on the network and the level of a zone only. -/
theorem bomSlots_congr {zones zones' : List SubnetRecord}
    (h : zones.map (fun z => (z.cidr, z.purdueLevel)) =
      zones'.map fun z => (z.cidr, z.purdueLevel)) (slots : List Slot) :
    bomSlots zones slots = bomSlots zones' slots := by
  have hfold : ∀ zones : List SubnetRecord, bomSlots zones slots =
      (zones.map fun z => (z.cidr, z.purdueLevel)).foldl
        (fun slots z => bomZoneSlots z.1 (bomFor z.2) slots) slots := by
    intro zones
    rw [bomSlots, List.foldl_map]
  rw [hfold, hfold, h]

/-- The sealed plant shows the slots of its pinned devices and of the supporting cast. -/
theorem sealPlant_shows {vuln : VulnDb} {seed : UInt64} (oui : OuiDb) (spec : PlantSpec)
    (fallbackDomains : List String) {s : Session} {slots : List Slot}
    (h : Shows vuln seed s slots) (hlen : slots.length ≤ maxDevices)
    (hzones : s.subnets.length ≤ maxSubnets) :
    ∃ s', sealPlant spec vuln oui seed fallbackDomains s = some s' ∧
      Shows vuln seed s' (if spec.enrich then bomSlots s.subnets slots else slots) := by
  unfold sealPlant
  dsimp only
  generalize (if spec.domains = [] then fallbackDomains else spec.domains) = domains
  obtain ⟨hdev, hhosts⟩ := assignDomains_devices s domains seed
  have hzone := assignDomains_zones s domains seed
  have h₁ : Shows vuln seed (assignDomains s domains seed) slots :=
    ⟨by rw [hdev, h.shapes], by rw [hhosts, h.hosts]⟩
  by_cases henrich : spec.enrich = true
  · have hlen₁ : (assignDomains s domains seed).subnets.length ≤ maxSubnets := by
      have hl := congrArg List.length hzone
      rw [List.length_map, List.length_map] at hl
      omega
    obtain ⟨s', hrun, h'⟩ := enrichPlant_shows oui h₁ hlen hlen₁
    rw [bomSlots_congr hzone] at h'
    rw [if_pos henrich, if_pos henrich, hrun]
    exact ⟨_, rfl, (shapes_reassertNames s' _).trans h'.shapes, h'.hosts⟩
  · rw [if_neg henrich, if_neg henrich]
    exact ⟨_, rfl, (shapes_reassertNames _ _).trans h₁.shapes, h₁.hosts⟩

/-- **A plant is built exactly when its skeleton is, and then shows what the skeleton says.** -/
theorem buildSealedSession_skeleton (spec : PlantSpec) (vuln : VulnDb) (oui : OuiDb) (seed : UInt64)
    (fallbackDomains : List String) :
    match skeleton spec vuln with
    | .error e => buildSealedSession spec vuln oui seed fallbackDomains = some (.error e)
    | .ok slots => ∃ s, buildSealedSession spec vuln oui seed fallbackDomains = some (.ok s) ∧
        Shows vuln seed s slots := by
  have hseed := addZones_seed spec.zones [] (Session.new 0) seed
  rw [show { Session.new 0 with seed } = Session.new seed from rfl] at hseed
  unfold skeleton buildSealedSession
  rw [hseed]
  cases hzones : addZones spec.zones [] (Session.new 0) with
  | error e => rfl
  | ok r =>
    obtain ⟨table, s₀⟩ := r
    obtain ⟨hdev, hhosts, -, hcount⟩ := addZones_spec (by decide) hzones
    -- the zones show nothing; from there the loops go side by side
    have hempty : Shows vuln seed { s₀ with seed } [] := ⟨by rw [hdev]; rfl, hhosts⟩
    have hpin := pinDevices_shows oui table spec.devices hempty (Nat.zero_le _)
    dsimp only [Except.map]
    cases hslots : pinSlots vuln table spec.devices [] with
    | error e =>
      rw [hslots] at hpin
      rw [hpin]
    | ok slots =>
      rw [hslots] at hpin
      obtain ⟨s₁, hrun, h₁, hlen, hsub⟩ := hpin
      obtain ⟨s₂, hseal, h₂⟩ := sealPlant_shows oui spec fallbackDomains h₁ hlen (by rwa [hsub])
      rw [hrun]
      dsimp only
      rw [hseal]
      rw [hsub] at h₂
      exact ⟨s₂, rfl, h₂⟩

end TurboLaser.Scenario
