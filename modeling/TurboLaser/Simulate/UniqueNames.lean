import TurboLaser.Simulate.Cast

/-!
# Whether hostnames are unique (simulate/devices.rs)

`enrich_plant` names the core devices with their index in the zone, and the assets of the supporting
cast with their index in their class. Neither loop looks at the names of the other, and the names of
firewalls and historians have no index: one per zone is expected.

So names can meet in two ways: two core devices of one zone are both firewalls or both historians,
or a core device has the class of an asset of the cast and the index of it. Whether a device is
named at all is up to a hash, and an unnamed one clashes with nobody.

- `NamesApart`: no two named core devices of a zone are both firewalls or both historians, and none
  has the class of a named asset of the cast and its index;
- `coreNames_ne_iff`, `coreName_ne_castName_iff`: when two names differ, for the two ways they can
  meet. Two names of the cast never do;
- `nodup_generatedNames_iff`: **exactly then no name is generated twice**;
- `enrichPlant_distinct_iff`: the same of the ledger that `enrich_plant` leaves.
-/

namespace TurboLaser

open Lib

/-- No two devices carry the same hostname. -/
def HostnamesDistinct (s : Session) : Prop := (s.devices.filterMap DeviceRecord.hostname).Nodup

instance (s : Session) : Decidable (HostnamesDistinct s) :=
  inferInstanceAs (Decidable (List.Nodup _))

/-- The names generated for some of the devices, and for the cast. -/
def generatedNames (vuln : VulnDb) (seed : UInt64) (s : Session) (ds : List DeviceRecord) :
    List String :=
  ds.filterMap (coreName seed s.subnets.zipIdx s.devices) ++
    (castOf s).filterMap (castName vuln seed)

/-- **The index tells the named devices apart**, among themselves and from the cast. -/
structure NamesApart (seed : UInt64) (s : Session) (ds : List DeviceRecord) : Prop where
  core : ds.Pairwise fun d e => isNamed seed d.ip = true → isNamed seed e.ip = true →
    d.subnetCidr ∈ s.cidrs → d.subnetCidr = e.subnetCidr → d.nameClass = e.nameClass →
      d.nameClass.perZone = false
  cast : ∀ d ∈ ds, ∀ a ∈ castOf s, isNamed seed d.ip = true → isNamed seed a.ip = true →
    d.subnetCidr = a.zone.1.cidr → d.nameClass = a.atype →
      a.atype.perZone = false ∧ zoneRank s.devices d ≠ a.dev

section Apart

variable {seed : UInt64} {s : Session}

/-! ## Zones and ranks -/

/-- **Two devices of a zone have two ranks.** -/
theorem zoneRank_inj {ds : List DeviceRecord} (hips : (ds.map DeviceRecord.ip).Nodup)
    {d e : DeviceRecord} (hd : d ∈ ds) (he : e ∈ ds) (hzone : d.subnetCidr = e.subnetCidr)
    (hrank : zoneRank ds d = zoneRank ds e) : d = e := by
  have hkeys := nodup_zoneAddrs hips e.subnetCidr
  have hplace := getElem?_sortByKey hkeys (List.mem_filter.mpr ⟨hd, decide_eq_true hzone⟩)
  have hplace' := getElem?_sortByKey hkeys (List.mem_filter.mpr ⟨he, decide_eq_true rfl⟩)
  rw [zoneRank, zoneRank, hzone] at hrank
  rw [hrank, hplace'] at hplace
  exact (Option.some.inj hplace).symm

theorem zoneOf_spec {zones : List (SubnetRecord × Nat)} {d : DeviceRecord}
    {z : SubnetRecord × Nat} (h : zoneOf zones d = some z) :
    z ∈ zones ∧ z.1.cidr = d.subnetCidr := by
  refine ⟨List.mem_of_find?_eq_some h, ?_⟩
  simpa using List.find?_some h

/-- A listed zone is found. -/
theorem zoneOf_eq_some (hcidrs : s.cidrs.Nodup) {d : DeviceRecord} {z : SubnetRecord × Nat}
    (hz : z ∈ s.subnets.zipIdx) (hcidr : z.1.cidr = d.subnetCidr) :
    zoneOf s.subnets.zipIdx d = some z := by
  have hmap : (s.subnets.zipIdx.map fun z => z.1.cidr).Nodup := by
    rwa [map_cidr_zipIdx]
  cases hfind : zoneOf s.subnets.zipIdx d with
  | none =>
    rw [zoneOf, List.find?_eq_none] at hfind
    exact absurd (decide_eq_true hcidr) (hfind z hz)
  | some z' =>
    obtain ⟨hz', hcidr'⟩ := zoneOf_spec hfind
    rw [List.inj_on_of_nodup_map hmap hz' hz (hcidr'.trans hcidr.symm)]

/-- The index of a zone is its own. -/
theorem zone_of_index {z z' : SubnetRecord × Nat} (hz : z ∈ s.subnets.zipIdx)
    (hz' : z' ∈ s.subnets.zipIdx) (h : z.2 = z'.2) : z = z' :=
  List.inj_on_of_nodup_map (nodup_zoneIndices s) hz hz' h

theorem coreName_eq_some {zones : List (SubnetRecord × Nat)} {ds : List DeviceRecord}
    {d : DeviceRecord} {name : String} :
    coreName seed zones ds d = some name ↔ isNamed seed d.ip = true ∧
      ∃ z, zoneOf zones d = some z ∧ (coreSeat ds d z).name = name := by
  unfold coreName
  by_cases hnamed : isNamed seed d.ip = true
  · simp [hnamed]
  · simp [hnamed]

theorem castName_eq_some {vuln : VulnDb} {a : CastAsset} {name : String} :
    castName vuln seed a = some name ↔
      isNamed seed a.ip = true ∧ (castSeat vuln seed a).name = name := by
  unfold castName
  split
  · next hnamed => simp [hnamed]
  · next hnamed => simp [hnamed]

/-! ## Two names -/

/-- **Two core devices are given one name** only where the class has no index. -/
theorem coreNames_ne_iff (hcidrs : s.cidrs.Nodup) (hips : (s.devices.map DeviceRecord.ip).Nodup)
    {d e : DeviceRecord} (hd : d ∈ s.devices) (he : e ∈ s.devices) (hne : d ≠ e) :
    (∀ n, coreName seed s.subnets.zipIdx s.devices d = some n →
        ∀ m, coreName seed s.subnets.zipIdx s.devices e = some m → n ≠ m) ↔
      (isNamed seed d.ip = true → isNamed seed e.ip = true → d.subnetCidr ∈ s.cidrs →
        d.subnetCidr = e.subnetCidr → d.nameClass = e.nameClass →
          d.nameClass.perZone = false) := by
  constructor
  · intro hnames hnd hne hlisted hzone hclass
    by_contra hper
    -- in the zone they share, the class alone makes the name
    rw [← map_cidr_zipIdx] at hlisted
    obtain ⟨z, hz, hcidr⟩ := List.mem_map.mp hlisted
    refine hnames (coreSeat s.devices d z).name
      (coreName_eq_some.mpr ⟨hnd, z, zoneOf_eq_some hcidrs hz hcidr, rfl⟩)
      (coreSeat s.devices e z).name
      (coreName_eq_some.mpr ⟨hne, z, zoneOf_eq_some hcidrs hz (hcidr.trans hzone), rfl⟩)
      (SeatsClash.name_eq ⟨rfl, hclass, fun h => absurd h hper⟩ rfl ?_)
    intro hcontroller
    exact hper (by rw [show d.nameClass = .controller from hcontroller]; rfl)
  · rintro hapart n hn m hm rfl
    obtain ⟨hnd, z, hz, hname⟩ := coreName_eq_some.mp hn
    obtain ⟨hnamed, z', hz', hname'⟩ := coreName_eq_some.mp hm
    obtain ⟨harea, hclass, hdev⟩ := NameSeat.clash_of_name (hname.trans hname'.symm)
    obtain ⟨hmem, hcidr⟩ := zoneOf_spec hz
    obtain ⟨hmem', hcidr'⟩ := zoneOf_spec hz'
    obtain rfl := zone_of_index hmem hmem' harea
    have hlisted : d.subnetCidr ∈ s.cidrs := by
      rw [← map_cidr_zipIdx]
      exact List.mem_map.mpr ⟨z, hmem, hcidr⟩
    have hzone : d.subnetCidr = e.subnetCidr := hcidr.symm.trans hcidr'
    exact hne (zoneRank_inj hips hd he hzone
      (hdev (hapart hnd hnamed hlisted hzone hclass)))

/-- **A core device and an asset of the cast are given one name** where they have one class, and
the same index or none. -/
theorem coreName_ne_castName_iff (hcidrs : s.cidrs.Nodup) (vuln : VulnDb) {d : DeviceRecord}
    {a : CastAsset} (ha : a ∈ castOf s) :
    (∀ n, coreName seed s.subnets.zipIdx s.devices d = some n →
        ∀ m, castName vuln seed a = some m → n ≠ m) ↔
      (isNamed seed d.ip = true → isNamed seed a.ip = true → d.subnetCidr = a.zone.1.cidr →
        d.nameClass = a.atype → a.atype.perZone = false ∧ zoneRank s.devices d ≠ a.dev) := by
  obtain ⟨hzone, hcontroller⟩ := castOf_spec ha
  constructor
  · intro hnames hnd hna hcidr hclass
    have hapart : ¬ (a.atype.perZone = false → zoneRank s.devices d = a.dev) := by
      intro hdev
      refine hnames (coreSeat s.devices d a.zone).name
        (coreName_eq_some.mpr ⟨hnd, a.zone, zoneOf_eq_some hcidrs hzone hcidr.symm, rfl⟩)
        (castSeat vuln seed a).name (castName_eq_some.mpr ⟨hna, rfl⟩)
        (SeatsClash.name_eq ⟨rfl, hclass, fun h => ?_⟩ rfl ?_)
      · exact hdev (hclass ▸ h)
      · exact fun h => hcontroller (hclass ▸ h)
    exact Classical.not_imp.mp hapart
  · rintro hapart n hn m hm rfl
    obtain ⟨hnd, z, hz, hname⟩ := coreName_eq_some.mp hn
    obtain ⟨hna, hname'⟩ := castName_eq_some.mp hm
    obtain ⟨harea, hclass, hdev⟩ := NameSeat.clash_of_name (hname.trans hname'.symm)
    obtain ⟨hmem, hcidr⟩ := zoneOf_spec hz
    obtain rfl := zone_of_index hmem hzone harea
    obtain ⟨hper, hrank⟩ := hapart hnd hna hcidr.symm hclass
    exact hrank (hdev ((congrArg AssetType.perZone hclass).trans hper))

/-! ## All names -/

/-- **No name is generated twice, exactly if the named devices are told apart.** -/
theorem nodup_generatedNames_iff (hcidrs : s.cidrs.Nodup)
    (hips : (s.devices.map DeviceRecord.ip).Nodup) (vuln : VulnDb) {ds : List DeviceRecord}
    (hds : ds.Sublist s.devices) :
    (generatedNames vuln seed s ds).Nodup ↔ NamesApart seed s ds := by
  have hdistinct : ds.Pairwise (· ≠ ·) := (List.Nodup.of_map _ hips).sublist hds
  -- the names of the cast never meet, so they add no condition of their own
  have hcast : ((castOf s).filterMap (castName vuln seed)).Nodup := by
    refine List.pairwise_filterMap.mpr ((pairwise_cast vuln seed s).imp ?_)
    rintro a b hapart n hn m hm rfl
    exact hapart (NameSeat.clash_of_name
      ((castName_eq_some.mp hn).2.trans (castName_eq_some.mp hm).2.symm))
  rw [generatedNames, List.nodup_append]
  constructor
  · rintro ⟨hcore, -, hcross⟩
    refine ⟨?_, fun d hd a ha => ?_⟩
    · refine (hdistinct.and (List.pairwise_filterMap.mp hcore)).imp_of_mem ?_
      rintro d e hd he ⟨hne, hnames⟩
      exact (coreNames_ne_iff hcidrs hips (hds.subset hd) (hds.subset he) hne).mp hnames
    · refine (coreName_ne_castName_iff hcidrs vuln ha).mp fun n hn m hm => ?_
      exact hcross n (List.mem_filterMap.mpr ⟨d, hd, hn⟩) m (List.mem_filterMap.mpr ⟨a, ha, hm⟩)
  · intro hapart
    refine ⟨?_, hcast, ?_⟩
    · refine List.pairwise_filterMap.mpr ((hdistinct.and hapart.core).imp_of_mem ?_)
      rintro d e hd he ⟨hne, hnames⟩
      exact (coreNames_ne_iff hcidrs hips (hds.subset hd) (hds.subset he) hne).mpr hnames
    · intro n hn m hm
      obtain ⟨d, hd, hn⟩ := List.mem_filterMap.mp hn
      obtain ⟨a, ha, hm⟩ := List.mem_filterMap.mp hm
      exact (coreName_ne_castName_iff hcidrs vuln ha).mpr (hapart.cast d hd a ha) n hn m hm

theorem filterMap_of_map {α β γ : Type} {f : α → Option γ} {g : β → Option γ} {xs : List α}
    {ys : List β} (h : xs.map f = ys.map g) : xs.filterMap f = ys.filterMap g := by
  have hid := congrArg (List.filterMap id) h
  rwa [List.filterMap_map, List.filterMap_map] at hid

/-- **After `enrich_plant` on a session without names, no hostname is carried twice exactly if the
named devices are told apart.** -/
theorem enrichPlant_distinct_iff {vuln : VulnDb} {oui : OuiDb} {s' : Session}
    (hcidrs : s.cidrs.Nodup) (hips : (s.devices.map DeviceRecord.ip).Nodup)
    (hunnamed : ∀ d ∈ s.devices, d.hostname = none)
    (h : enrichPlant s vuln oui seed = some s') :
    HostnamesDistinct s' ↔ NamesApart seed s s.devices := by
  obtain ⟨recs, hdevices, hnames⟩ := enrichPlant_devices hcidrs hips h
  have hcore : (s.devices.map (withCoreName seed s.subnets.zipIdx s.devices)).filterMap
      DeviceRecord.hostname =
        s.devices.filterMap (coreName seed s.subnets.zipIdx s.devices) := by
    rw [List.filterMap_map]
    refine List.filterMap_congr fun d hd => ?_
    rw [Function.comp_apply, hostname_withCoreName, hunnamed d hd, Option.or_none]
  rw [← nodup_generatedNames_iff hcidrs hips vuln (List.Sublist.refl _), HostnamesDistinct,
    hdevices, List.filterMap_append, hcore, filterMap_of_map hnames]
  rfl

end Apart

end TurboLaser
