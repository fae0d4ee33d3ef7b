import Mathlib.Data.List.Forall2
import TurboLaser.Scenario.Skeleton

/-!
# Where the devices of a plant go (scenario/plant.rs)

Three paths put devices into a sealed plant: a declared address, the next free host of a zone, and
the supporting cast. `Sited` and `Placed` say what each does to the assets of the ledger.

The three differ in what they check. A declared address is compared with the addresses in use and
with nothing else: it need not lie in its zone, and it may be a reserved slot. The next free host is
in its zone and off the slots by construction. The cast is put on free hosts of its zone, but for
the firewall, which is put on the address of the gateway, and that is computed from the network by
adding to it, so in a zone that is too small it lies outside (`GatewayFits`).

- `addZones_zones`: the zones are those the texts are read as;
- `pinDevices_sited`: **a pinned device is its record at an address of its own**, and lies in its
  zone unless the address was declared;
- `addBom_keeps`: the rule for the cast: what one asset keeps, all of them keep;
- `addBom_places`: **an asset of the cast has an address and a MAC of its own**, and lies in its
  zone unless it is the firewall of a zone that does not hold its gateway.
-/

namespace TurboLaser.Scenario

open Lib Relation

/-! ## Assets -/

/-- An asset lies in the zone it records. -/
def InZone (a : Asset) : Prop := a.subnet.contains a.ip = true

instance (a : Asset) : Decidable (InZone a) := inferInstanceAs (Decidable (_ = true))

/-- One more asset, with an address and a MAC of its own. -/
inductive Placed (place : Asset → Prop) : List Asset → List Asset → Prop
  | mk {l a} (hip : a.ip ∉ l.map Asset.ip) (hmac : a.mac ∉ l.map Asset.mac) (hplace : place a) :
      Placed place l (l ++ [a])

/-- More assets, one after the other. -/
abbrev Places (place : Asset → Prop) : List Asset → List Asset → Prop :=
  ReflTransGen (Placed place)

section Places

variable {place place' : Asset → Prop} {l l' : List Asset}

theorem nodup_append_singleton {α β : Type} {f : α → β} {l : List α} {a : α} :
    ((l ++ [a]).map f).Nodup ↔ (l.map f).Nodup ∧ f a ∉ l.map f := by
  rw [List.map_append, List.map_singleton, List.nodup_append_comm, List.singleton_append,
    List.nodup_cons, and_comm]

/-- Addresses stay apart. -/
theorem Places.nodup_ips (h : Places place l l') (hl : (l.map Asset.ip).Nodup) :
    (l'.map Asset.ip).Nodup := by
  induction h with
  | refl => exact hl
  | tail _ hstep ih =>
    cases hstep with
    | mk hip => exact nodup_append_singleton.mpr ⟨ih, hip⟩

/-- MACs are apart exactly when they were before. -/
theorem Places.nodup_macs (h : Places place l l') :
    (l'.map Asset.mac).Nodup ↔ (l.map Asset.mac).Nodup := by
  induction h with
  | refl => exact Iff.rfl
  | tail _ hstep ih =>
    cases hstep with
    | mk _ hmac =>
      rw [← ih]
      exact nodup_append_singleton.trans (and_iff_left hmac)

theorem Places.subset (h : Places place l l') : l ⊆ l' := by
  induction h with
  | refl => exact List.Subset.refl l
  | tail _ hstep ih =>
    cases hstep with
    | mk => exact fun a ha => List.mem_append_left _ (ih ha)

theorem Places.forall_iff (h : Places place l l') :
    (∀ a ∈ l', place a) ↔ ∀ a ∈ l, place a := by
  refine ⟨fun hall a ha => hall a (h.subset ha), fun hall => ?_⟩
  induction h with
  | refl => exact hall
  | tail _ hstep ih =>
    cases hstep with
    | mk _ _ hplace => exact List.forall_mem_append.mpr ⟨ih, List.forall_mem_singleton.mpr hplace⟩

theorem Places.mono (hp : ∀ a, place a → place' a) (h : Places place l l') :
    Places place' l l' := by
  refine ReflTransGen.mono (fun _ _ hstep => ?_) _ _ h
  cases hstep with
  | mk hip hmac hplace => exact .mk hip hmac (hp _ hplace)

end Places

/-! ## Zones -/

/-- The zones of a plant, as they are read: their networks and levels. -/
def PlantSpec.zoneNets (spec : PlantSpec) : List (Ipv4Net × Nat) :=
  spec.zones.filterMap fun z => (parseIpv4Net z.cidr).map (·, z.purdueLevel.toNat)

/-- **The zones of the ledger are those the texts are read as**, and a device finds its zone by
the same reading. -/
theorem addZones_zones {zs : List ZoneSpec} {table table' : ZoneTable} {s s' : Session}
    (h : addZones zs table s = .ok (table', s'))
    (htable : ∀ text net, table.lookup text = some net → parseIpv4Net text = some net) :
    (∀ text net, table'.lookup text = some net → parseIpv4Net text = some net) ∧
      s'.subnets.map (fun z => (z.cidr, z.purdueLevel)) =
        s.subnets.map (fun z => (z.cidr, z.purdueLevel)) ++
          zs.filterMap fun z => (parseIpv4Net z.cidr).map (·, z.purdueLevel.toNat) := by
  induction zs generalizing table s with
  | nil =>
    cases h
    exact ⟨htable, (List.append_nil _).symm⟩
  | cons z zs ih =>
    rw [addZones] at h
    unfold addZone at h
    cases hnet : parseIpv4Net z.cidr with
    | none =>
      rw [hnet] at h
      cases h
    | some net =>
      rw [hnet] at h
      dsimp only at h
      by_cases hbad : maxSubnets ≤ s.subnets.length ∨ (table.lookup z.cidr).isSome
      · rw [if_pos hbad] at h
        cases h
      · rw [if_neg hbad] at h
        -- the text of the new zone is looked up as what it was read as
        obtain ⟨htable', hzones⟩ := ih h fun text net' hlookup => by
          rw [List.lookup_append] at hlookup
          cases hold : table.lookup text with
          | some net₀ =>
            rw [hold] at hlookup
            cases hlookup
            exact htable _ _ hold
          | none =>
            rw [hold, Option.none_or, List.lookup_cons] at hlookup
            split at hlookup
            · next hsame =>
              cases hlookup
              rw [eq_of_beq hsame]
              exact hnet
            · cases hlookup
        refine ⟨htable', hzones.trans ?_⟩
        rw [List.filterMap_cons, hnet]
        show (s.subnets ++ [z.record net]).map _ ++ _ = _ ++ (_ :: _)
        rw [List.map_append, List.append_assoc]
        rfl

/-! ## Pinned devices -/

/-- The assets of the devices of a ledger. -/
abbrev deviceAssets (s : Session) : List Asset := s.devices.map DeviceRecord.asset

theorem map_ip_deviceAssets (s : Session) :
    (deviceAssets s).map Asset.ip = s.devices.map DeviceRecord.ip := List.map_map

theorem map_mac_deviceAssets (s : Session) :
    (deviceAssets s).map Asset.mac = s.devices.map DeviceRecord.mac := List.map_map

theorem assets_of_noHosts {s : Session} (h : s.captureHosts = []) : s.assets = deviceAssets s := by
  rw [Session.assets, h, List.map_nil, List.append_nil]

section Pin

variable (vuln : VulnDb) (oui : OuiDb) (seed : UInt64) (table : ZoneTable)

/-- A device of the spec is pinned as a record: at the address it declares, or at a host of its
zone. -/
structure Sited (d : DeviceSpec) (rec : DeviceRecord) : Prop where
  record : ∃ net, table.lookup d.zone = some net ∧ rec = d.record vuln oui seed net rec.ip
  declared : ∀ text, d.ip = some text → parseIpv4Addr text = some rec.ip
  assigned : d.ip = none → InZone rec.asset

variable {vuln oui seed table}

theorem pinDevice_sited {d : DeviceSpec} {s s' : Session}
    (h : pinDevice vuln oui seed table d s = .ok s') :
    ∃ rec, Sited vuln oui seed table d rec ∧ rec.ip ∉ s.usedIps ∧ s' = s.pushDevice rec := by
  unfold pinDevice at h
  split at h
  · cases h
  · next net hnet =>
    split at h
    · cases h
    · next ip hip =>
      split at h
      · cases h
      · next hfree =>
        split at h
        · cases h
        · next hadd =>
          cases h
          -- past the checks: a declared address is what its text says, an assigned one is a host of
          -- the zone
          refine ⟨_, ⟨⟨net, hnet, rfl⟩, fun text htext => ?_, fun hnone => ?_⟩, hfree,
            (addDevice_eq_some.mp hadd).2⟩
          · unfold pinAddress at hip
            rw [htext] at hip
            dsimp only at hip
            split at hip
            · next hparse =>
              cases hip
              exact hparse
            · cases hip
          · unfold pinAddress at hip
            rw [hnone] at hip
            dsimp only at hip
            split at hip
            · next hfound =>
              cases hip
              exact (nextFreeIn_spec hfound).2.1
            · cases hip

/-- **Pinned devices are records of the spec, at addresses of their own.** -/
theorem pinDevices_sited {ds : List DeviceSpec} {s s' : Session} (hhosts : s.captureHosts = [])
    (hips : (s.devices.map DeviceRecord.ip).Nodup)
    (h : pinDevices vuln oui seed table ds s = .ok s') :
    ∃ recs, s'.devices = s.devices ++ recs ∧ List.Forall₂ (Sited vuln oui seed table) ds recs ∧
      (s'.devices.map DeviceRecord.ip).Nodup := by
  induction ds generalizing s with
  | nil =>
    cases h
    exact ⟨[], (List.append_nil _).symm, .nil, hips⟩
  | cons d ds ih =>
    rw [pinDevices] at h
    split at h
    · cases h
    · next s₁ hpin =>
      obtain ⟨rec, hsited, hfree, rfl⟩ := pinDevice_sited hpin
      have hnew : rec.ip ∉ s.devices.map DeviceRecord.ip := by
        intro hin
        refine hfree ((Session.mem_usedIps s).mpr ?_)
        rw [assets_of_noHosts hhosts]
        obtain ⟨d', hd', heq⟩ := List.mem_map.mp hin
        exact ⟨d'.asset, List.mem_map_of_mem hd', heq⟩
      obtain ⟨recs, hdevices, hsites, hips'⟩ :=
        ih (s := s.pushDevice rec) hhosts (nodup_append_singleton.mpr ⟨hips, hnew⟩) h
      refine ⟨rec :: recs, ?_, .cons hsited hsites, hips'⟩
      rw [hdevices]
      exact List.append_assoc _ [rec] recs

end Pin

/-! ## The supporting cast

The cast of a zone is placed class by class, and each asset of it goes to the address that the
numbering gives it. All classes but the firewall are numbered inside the zone. The firewall has a
place of its own, which lies outside a zone that is too small; so whether a zone keeps its assets
inside comes down to that one address.
-/

/-- The firewall of a zone is put inside the zone, or left out: its address is taken, or the
devices are at the cap. -/
def GatewayFits (net : Ipv4Net) (slots : List Slot) : Prop :=
  net.contains (firewallAddr net) = true ∨ firewallAddr net ∈ slotIps slots ∨
    maxDevices ≤ slots.length

/-- So for every zone, in order. -/
def GatewaysFit : List (Ipv4Net × Nat) → List Slot → Prop
  | [], _ => True
  | z :: zs, slots => GatewayFits z.1 slots ∧ GatewaysFit zs (bomZoneSlots z.1 (bomFor z.2) slots)

instance (net : Ipv4Net) (slots : List Slot) : Decidable (GatewayFits net slots) :=
  inferInstanceAs (Decidable (_ ∨ _ ∨ _))

instance GatewaysFit.decidable : ∀ zs slots, Decidable (GatewaysFit zs slots)
  | [], _ => .isTrue trivial
  | z :: zs, slots =>
    haveI := GatewaysFit.decidable zs (bomZoneSlots z.1 (bomFor z.2) slots)
    inferInstanceAs (Decidable (_ ∧ _))

/-- Every zone has one firewall, before anything else. -/
theorem bomFor_cons (level : Nat) :
    ∃ rest, bomFor level = (.firewall, 1) :: rest ∧ ∀ c ∈ rest, c.1 ≠ .firewall := by
  unfold bomFor
  split <;> exact ⟨_, rfl, by decide⟩

section Keeps

variable {vuln : VulnDb} {oui : OuiDb} {seed : UInt64} {P : BomState → Prop}
  (hP : ∀ z atype n ip st st', P st →
    TurboLaser.addBomAsset vuln oui seed z atype n ip st = some st' → P st')

include hP

theorem addBomClass_keeps {z : SubnetRecord × Nat} {atype : AssetType} {count n : Nat}
    {st st' : BomState} (h : P st)
    (hadd : TurboLaser.addBomClass vuln oui seed z atype count n st = some st') : P st' := by
  induction count generalizing n st with
  | zero =>
    cases hadd
    exact h
  | succ count ih =>
    rw [TurboLaser.addBomClass] at hadd
    split at hadd
    · cases hadd
      exact h
    · split at hadd
      · cases hadd
      · next hasset => exact ih (hP _ _ _ _ _ _ h hasset) hadd

theorem addBomZone_keeps {z : SubnetRecord × Nat} {classes : List (AssetType × Nat)}
    {st st' : BomState} (h : P st)
    (hadd : TurboLaser.addBomZone vuln oui seed z classes st = some st') : P st' := by
  induction classes generalizing st with
  | nil =>
    cases hadd
    exact h
  | cons c classes ih =>
    rw [TurboLaser.addBomZone] at hadd
    split at hadd
    · cases hadd
    · next hclass => exact ih (addBomClass_keeps hP h hclass) hadd

/-- **What one asset of the cast keeps, the whole cast keeps.** -/
theorem addBom_keeps {zones : List (SubnetRecord × Nat)} {st st' : BomState} (h : P st)
    (hadd : TurboLaser.addBom vuln oui seed zones st = some st') : P st' := by
  induction zones generalizing st with
  | nil =>
    cases hadd
    exact h
  | cons z zones ih =>
    rw [TurboLaser.addBom] at hadd
    split at hadd
    · cases hadd
    · next hzone => exact ih (addBomZone_keeps hP h hzone) hadd

end Keeps

/-- The cast adds no zone. -/
theorem addBom_subnets {vuln : VulnDb} {oui : OuiDb} {seed : UInt64}
    {zones : List (SubnetRecord × Nat)} {st st' : BomState}
    (hadd : TurboLaser.addBom vuln oui seed zones st = some st') :
    st'.session.subnets = st.session.subnets := by
  refine addBom_keeps (P := fun b => b.session.subnets = st.session.subnets) ?_ rfl hadd
  intro z atype n ip b b' hb hasset
  rw [← hb]
  unfold TurboLaser.addBomAsset at hasset
  split at hasset
  · cases hasset
    rfl
  · split at hasset
    · cases hasset
    · split at hasset
      · cases hasset
        rfl
      · next hpush =>
        cases hasset
        rw [(addDevice_eq_some.mp hpush).2]
        rfl

section Bom

variable {vuln : VulnDb} {seed : UInt64} (oui : OuiDb)

/-- **One asset of the cast**: it is left out, or has an address and a MAC of its own. -/
theorem addBomAsset_places {k : Nat} {st st' : BomState} {slots : List Slot}
    (h : Casting vuln seed k st slots) (hmacs : st.session.usedMacs ⊆ st.usedMacs)
    {z : SubnetRecord × Nat} {atype : AssetType} {n : Nat} {ip : Ipv4Addr}
    (hadd : TurboLaser.addBomAsset vuln oui seed z atype n ip st = some st') :
    st'.session.usedMacs ⊆ st'.usedMacs ∧
      ((ip ∈ slotIps slots ∨ maxDevices ≤ slots.length) ∧
          deviceAssets st'.session = deviceAssets st.session ∨
        ∃ mac, deviceAssets st'.session = deviceAssets st.session ++ [⟨ip, mac, z.1.cidr⟩] ∧
          ip ∉ (deviceAssets st.session).map Asset.ip ∧
          mac ∉ (deviceAssets st.session).map Asset.mac ∧
          ¬ (ip ∈ slotIps slots ∨ maxDevices ≤ slots.length)) := by
  unfold TurboLaser.addBomAsset at hadd
  rw [h.used] at hadd
  split at hadd
  · next htaken =>
    cases hadd
    exact ⟨hmacs, .inl ⟨.inl htaken, rfl⟩⟩
  · next hfree =>
    split at hadd
    · cases hadd
    · next mac salt hmac =>
      split at hadd
      · next hcap =>
        cases hadd
        -- the salt was spent, but the ledger is full
        have hfull := addDevice_eq_none.mp hcap
        rw [h.shows_.length] at hfull
        exact ⟨hmacs.trans (Finset.subset_insert _ _), .inl ⟨.inr hfull, rfl⟩⟩
      · next hpush =>
        cases hadd
        obtain ⟨hroom, rfl⟩ := addDevice_eq_some.mp hpush
        rw [h.shows_.length] at hroom
        have hassets := assets_of_noHosts h.shows_.hosts
        refine ⟨?_, .inr ⟨mac, List.map_append, ?_, ?_, ?_⟩⟩
        · rw [Session.usedMacs_pushDevice]
          exact Finset.insert_subset_insert _ hmacs
        · rw [← List.mem_toFinset, ← hassets]
          change ip ∉ st.session.usedIps
          rwa [h.shows_.usedIps]
        · rw [← List.mem_toFinset, ← hassets]
          exact fun hused => (freshMac_spec hmac).1 (hmacs hused)
        · exact not_or.mpr ⟨hfree, Nat.not_le.mpr hroom⟩

variable {k : Nat} {st : BomState} {slots : List Slot}

/-- The assets of a class that is not the firewall. -/
theorem addBomClass_places {z : SubnetRecord × Nat} {atype : AssetType}
    (hclass : atype ≠ .firewall) {count n : Nat} (h : Casting vuln seed k st slots)
    (hk : k + count ≤ 2 ^ 24) (hmacs : st.session.usedMacs ⊆ st.usedMacs) {st' : BomState}
    (hadd : TurboLaser.addBomClass vuln oui seed z atype count n st = some st') :
    st'.session.usedMacs ⊆ st'.usedMacs ∧
      Places InZone (deviceAssets st.session) (deviceAssets st'.session) := by
  induction count generalizing k n st slots with
  | zero =>
    cases hadd
    exact ⟨hmacs, .refl⟩
  | succ count ih =>
    rw [TurboLaser.addBomClass] at hadd
    cases haddr : bomAddr z.1.cidr atype st.used with
    | none =>
      rw [haddr] at hadd
      cases hadd
      exact ⟨hmacs, .refl⟩
    | some ip =>
      rw [haddr] at hadd
      dsimp only at hadd
      obtain ⟨st₁, hasset, h₁⟩ := h.addBomAsset oui (by omega) z atype n ip
      rw [hasset] at hadd
      obtain ⟨hmacs₁, hplace⟩ := addBomAsset_places oui h hmacs hasset
      obtain ⟨hmacs', hrest⟩ := ih h₁ (by omega) hmacs₁ hadd
      refine ⟨hmacs', ReflTransGen.trans ?_ hrest⟩
      -- the asset was left out, or put on a free host; only a firewall would go to the gateway
      rcases hplace with ⟨-, hsame⟩ | ⟨mac, hassets, hip, hmac, -⟩
      · rw [hsame]
      · rw [hassets]
        have hfree : nextFreeIn z.1.cidr st.used = some ip := by
          unfold bomAddr at haddr
          rwa [if_neg hclass] at haddr
        exact .single (.mk hip hmac (nextFreeIn_spec hfree).2.1)

/-- The classes of a zone behind the firewall. -/
theorem addBomClasses_places {z : SubnetRecord × Nat} {classes : List (AssetType × Nat)}
    (hclasses : ∀ c ∈ classes, c.1 ≠ .firewall) (h : Casting vuln seed k st slots)
    (hk : k + (classes.map Prod.snd).sum ≤ 2 ^ 24)
    (hmacs : st.session.usedMacs ⊆ st.usedMacs) {st' : BomState}
    (hadd : TurboLaser.addBomZone vuln oui seed z classes st = some st') :
    st'.session.usedMacs ⊆ st'.usedMacs ∧
      Places InZone (deviceAssets st.session) (deviceAssets st'.session) := by
  induction classes generalizing k st slots with
  | nil =>
    cases hadd
    exact ⟨hmacs, .refl⟩
  | cons c classes ih =>
    rw [List.map_cons, List.sum_cons, ← Nat.add_assoc] at hk
    rw [TurboLaser.addBomZone] at hadd
    obtain ⟨st₁, hclass, h₁⟩ := h.addBomClass oui z c.1 c.2 0 (by omega)
    rw [hclass] at hadd
    obtain ⟨hmacs₁, hplaces⟩ := addBomClass_places oui (hclasses c List.mem_cons_self) h (by omega)
      hmacs hclass
    obtain ⟨hmacs', hrest⟩ := ih (fun c' hc' => hclasses c' (List.mem_cons_of_mem _ hc')) h₁ hk
      hmacs₁ hadd
    exact ⟨hmacs', hplaces.trans hrest⟩

/-- What a zone does to the assets: it puts all of its own inside, exactly when its gateway
fits. -/
structure ZonePlaces (fits : Prop) (l l' : List Asset) : Prop where
  places : Places (fun _ => True) l l'
  inside : fits → Places InZone l l'
  outside : ¬ fits → ∃ a ∈ l', ¬ InZone a

/-- **The cast of a zone.** -/
theorem addBomZone_places {z : SubnetRecord × Nat} (h : Casting vuln seed k st slots)
    (hk : k + 10 ≤ 2 ^ 24) (hmacs : st.session.usedMacs ⊆ st.usedMacs) {st' : BomState}
    (hadd : TurboLaser.addBomZone vuln oui seed z (bomFor z.1.purdueLevel) st = some st') :
    st'.session.usedMacs ⊆ st'.usedMacs ∧
      ZonePlaces (GatewayFits z.1.cidr slots) (deviceAssets st.session)
        (deviceAssets st'.session) := by
  obtain ⟨rest, hclasses, hrest⟩ := bomFor_cons z.1.purdueLevel
  have hsum := sum_bomFor_le z.1.purdueLevel
  rw [hclasses] at hadd hsum
  rw [List.map_cons, List.sum_cons] at hsum
  -- the firewall first
  obtain ⟨st₁, hasset, h₁⟩ :=
    h.addBomAsset oui (by omega) z .firewall 0 (firewallAddr z.1.cidr)
  have hfirewall : TurboLaser.addBomClass vuln oui seed z .firewall 1 0 st = some st₁ := by
    rw [TurboLaser.addBomClass,
      show bomAddr z.1.cidr .firewall st.used = some (firewallAddr z.1.cidr) from rfl]
    dsimp only
    rw [hasset]
    rfl
  rw [TurboLaser.addBomZone, hfirewall] at hadd
  obtain ⟨hmacs₁, hplace⟩ := addBomAsset_places oui h hmacs hasset
  obtain ⟨hmacs', hplaces⟩ := addBomClasses_places oui hrest h₁ (by omega) hmacs₁ hadd
  have hall : Places (fun _ => True) (deviceAssets st₁.session) (deviceAssets st'.session) :=
    hplaces.mono fun _ _ => trivial
  refine ⟨hmacs', ?_⟩
  rcases hplace with ⟨hskipped, hsame⟩ | ⟨mac, hassets, hip, hmac, hput⟩
  · rw [← hsame]
    exact ⟨hall, fun _ => hplaces, fun hnot => absurd (.inr hskipped) hnot⟩
  · have hone : ∀ {place : Asset → Prop}, place ⟨firewallAddr z.1.cidr, mac, z.1.cidr⟩ →
        Places place (deviceAssets st.session) (deviceAssets st₁.session) := by
      intro place hp
      rw [hassets]
      exact .single (.mk hip hmac hp)
    refine ⟨(hone trivial).trans hall, fun hfits => ?_, fun hnot => ?_⟩
    · exact (hone (hfits.resolve_right hput)).trans hplaces
    · refine ⟨⟨firewallAddr z.1.cidr, mac, z.1.cidr⟩, hplaces.subset ?_,
        fun hin => hnot (.inl hin)⟩
      rw [hassets]
      exact List.mem_append_right _ (List.mem_singleton_self _)

/-- **The supporting cast of every zone.** -/
theorem addBom_places (zones : List (SubnetRecord × Nat)) (h : Casting vuln seed k st slots)
    (hk : k + 10 * zones.length ≤ 2 ^ 24) (hmacs : st.session.usedMacs ⊆ st.usedMacs)
    {st' : BomState} (hadd : TurboLaser.addBom vuln oui seed zones st = some st') :
    ZonePlaces (GatewaysFit (zones.map fun z => (z.1.cidr, z.1.purdueLevel)) slots)
      (deviceAssets st.session) (deviceAssets st'.session) := by
  induction zones generalizing k st slots with
  | nil =>
    cases hadd
    exact ⟨.refl, fun _ => .refl, fun hnot => absurd trivial hnot⟩
  | cons z zones ih =>
    rw [List.length_cons] at hk
    have hsum := sum_bomFor_le z.1.purdueLevel
    rw [TurboLaser.addBom] at hadd
    obtain ⟨st₁, hzone, h₁⟩ := h.addBomZone oui z (bomFor z.1.purdueLevel) (by omega)
    rw [hzone] at hadd
    obtain ⟨hmacs₁, hfirst⟩ := addBomZone_places oui h (by omega) hmacs hzone
    have hrest := ih (h₁.mono (show _ ≤ k + 10 by omega)) (by omega) hmacs₁ hadd
    refine ⟨hfirst.places.trans hrest.places, fun hfits => ?_, fun hnot => ?_⟩
    · exact (hfirst.inside hfits.1).trans (hrest.inside hfits.2)
    · rcases not_and_or.mp hnot with hnot | hnot
      · obtain ⟨a, ha, hout⟩ := hfirst.outside hnot
        exact ⟨a, hrest.places.subset ha, hout⟩
      · exact hrest.outside hnot

end Bom

end TurboLaser.Scenario
