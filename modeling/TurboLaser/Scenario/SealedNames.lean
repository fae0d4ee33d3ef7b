import TurboLaser.Scenario.Sites
import TurboLaser.Simulate.UniqueNames

/-!
# The names of a sealed plant (scenario/plant.rs)

A spec may give its devices names of their own. They are put back after `enrich_plant`, each under
the domain of its zone unless it has a dot, and no name is compared with another.

`enrich_plant` does not look at the names there are: it generates names by seed and address, over a
given one as well. So the builder remembers the given names by address and writes them over the
generated ones. Two devices of a sealed plant can therefore share a name in three ways: two
generated names that agree, two given ones, and a given one that is also generated for another
device.

- `plannedPlant`: the plant before any name is generated;
- `foldl_modifyAt`: each name is put back on its device, since no two devices share an address. The
  source looks devices up by the text of their address, which is why this needs an argument;
- `buildSealedSession_hostnames`: **each device has the name its spec gives, completed, or else the
  one generated for it.**
-/

namespace TurboLaser.Scenario

open Lib

/-! ## Names put back -/

/-- A name has a dot: it is taken as complete. -/
def Dotted (name : String) : Prop := textContains name "." = true

instance (name : String) : Decidable (Dotted name) := inferInstanceAs (Decidable (_ = true))

/-- A spec-given name as it is sealed under a domain. -/
def completed (domain : Option String) (name : String) : String :=
  domain.elim name fun dom => if textContains name "." then name else name ++ "." ++ dom

/-- The domain of the zone of a device. -/
def domainOf (s : Session) (d : DeviceRecord) : Option String :=
  (s.subnets.find? fun z => decide (z.cidr = d.subnetCidr)).bind SubnetRecord.domain

theorem hostname_sealedName (s : Session) (name : String) (d : DeviceRecord) :
    (sealedName s name d).hostname = some (completed (domainOf s d) name) := by
  unfold sealedName completed domainOf
  dsimp only
  cases (s.subnets.find? fun z => decide (z.cidr = d.subnetCidr)).bind SubnetRecord.domain <;> rfl

/-- The device in front stays as it is, where no name is put back at its address. -/
theorem foldl_modifyAt_cons {f : String → DeviceRecord → DeviceRecord}
    {names : List (Ipv4Addr × String)} {d : DeviceRecord} (h : ∀ e ∈ names, d.ip ≠ e.1)
    (ds : List DeviceRecord) :
    names.foldl (fun ds e => modifyAt e.1 (f e.2) ds) (d :: ds) =
      d :: names.foldl (fun ds e => modifyAt e.1 (f e.2) ds) ds := by
  induction names generalizing ds with
  | nil => rfl
  | cons e names ih =>
    rw [List.foldl_cons, List.foldl_cons, modifyAt, if_neg (h e List.mem_cons_self)]
    exact ih (fun e' he' => h e' (List.mem_cons_of_mem _ he')) _

/-- **Each name is put back on its device**, when no two devices share an address. -/
theorem foldl_modifyAt {g : DeviceRecord → DeviceRecord} {f : String → DeviceRecord → DeviceRecord}
    (hg : ∀ d, (g d).ip = d.ip) (hf : ∀ n d, (f n d).ip = d.ip) {ds : List DeviceRecord}
    (hips : (ds.map DeviceRecord.ip).Nodup) (recs : List DeviceRecord) :
    (ds.filterMap fun d => d.hostname.map (d.ip, ·)).foldl (fun ds e => modifyAt e.1 (f e.2) ds)
        (ds.map g ++ recs) =
      (ds.map fun d => d.hostname.elim (g d) fun n => f n (g d)) ++ recs := by
  induction ds with
  | nil => rfl
  | cons d ds ih =>
    obtain ⟨hfirst, hrest⟩ := List.nodup_cons.mp hips
    have hothers {y : DeviceRecord} (hy : y.ip = d.ip) :
        ∀ e ∈ ds.filterMap fun d => d.hostname.map (d.ip, ·), y.ip ≠ e.1 := by
      rintro e he hsame
      obtain ⟨x, hx, hname⟩ := List.mem_filterMap.mp he
      obtain ⟨n, -, rfl⟩ := Option.map_eq_some_iff.mp hname
      exact hfirst (List.mem_map.mpr ⟨x, hx, hsame.symm.trans hy⟩)
    cases hname : d.hostname with
    | none =>
      rw [List.filterMap_cons_none (by rw [hname]; rfl), List.map_cons, List.map_cons,
        List.cons_append, List.cons_append, hname, foldl_modifyAt_cons (hothers (hg d)),
        ih hrest]
      rfl
    | some n =>
      rw [List.filterMap_cons_some (by rw [hname]; rfl), List.map_cons, List.map_cons,
        List.cons_append, List.cons_append, hname, List.foldl_cons, modifyAt,
        if_pos (hg d), foldl_modifyAt_cons (hothers ((hf n _).trans (hg d))), ih hrest]
      rfl

/-! ## The plant before its names

Sealing pins the devices, assigns domains, names the plant, and puts the names of the spec back over
the new ones. The plant before the naming is looked at first: its zones and devices are those of the
spec, in order, with the domains they were assigned.
-/

/-- The domains of a plant: its own, or else the configured ones. -/
def PlantSpec.plantDomains (spec : PlantSpec) (fallbackDomains : List String) : List String :=
  if spec.domains = [] then fallbackDomains else spec.domains

/-- **The plant `build_sealed_session` is about to name**: devices pinned, domains assigned. -/
def plannedPlant (spec : PlantSpec) (vuln : VulnDb) (oui : OuiDb) (seed : UInt64)
    (fallbackDomains : List String) : Option Session :=
  match addZones spec.zones [] (Session.new seed) with
  | .error _ => none
  | .ok (table, s) =>
    match pinDevices vuln oui seed table spec.devices s with
    | .error _ => none
    | .ok s => some (assignDomains s (spec.plantDomains fallbackDomains) seed)

/-- The zones and devices of a planned plant are those of its spec. -/
structure Planned (spec : PlantSpec) (s : Session) : Prop where
  cidrs : s.cidrs = spec.zoneNets.map Prod.fst
  ips : (s.devices.map DeviceRecord.ip).Nodup
  hostnames : s.devices.map DeviceRecord.hostname = spec.devices.map DeviceSpec.hostname

section Planned

variable {spec : PlantSpec} {vuln : VulnDb} {oui : OuiDb} {seed : UInt64}
  {fallbackDomains : List String} {s : Session}

/-- A pinned device has the name its spec gives. -/
theorem hostnames_of_sited {table : ZoneTable} {ds : List DeviceSpec} {recs : List DeviceRecord}
    (h : List.Forall₂ (Sited vuln oui seed table) ds recs) :
    recs.map DeviceRecord.hostname = ds.map DeviceSpec.hostname := by
  induction h with
  | nil => rfl
  | cons hsited _ ih =>
    obtain ⟨net, -, hrec⟩ := hsited.record
    rw [List.map_cons, List.map_cons, ih, hrec]
    rfl

theorem pinDevice_subnets {table : ZoneTable} {d : DeviceSpec} {s s' : Session}
    (h : pinDevice vuln oui seed table d s = .ok s') : s'.subnets = s.subnets := by
  obtain ⟨rec, -, -, rfl⟩ := pinDevice_sited h
  rfl

theorem pinDevices_subnets {table : ZoneTable} {ds : List DeviceSpec} {s s' : Session}
    (h : pinDevices vuln oui seed table ds s = .ok s') : s'.subnets = s.subnets := by
  induction ds generalizing s with
  | nil =>
    cases h
    rfl
  | cons d ds ih =>
    rw [pinDevices] at h
    cases hpin : pinDevice vuln oui seed table d s with
    | error e =>
      rw [hpin] at h
      cases h
    | ok s₁ =>
      rw [hpin] at h
      exact (ih h).trans (pinDevice_subnets hpin)

theorem planned_of_plannedPlant (h : plannedPlant spec vuln oui seed fallbackDomains = some s) :
    Planned spec s := by
  unfold plannedPlant at h
  split at h
  · cases h
  · next table s₀ hzones =>
    split at h
    · cases h
    · next s₁ hpin =>
      cases h
      obtain ⟨-, hnets⟩ := addZones_zones hzones nofun
      obtain ⟨hdevices₀, hhosts₀, -, -⟩ := addZones_spec (Nat.zero_le _) hzones
      obtain ⟨recs, hdevices, hsited, hips⟩ := pinDevices_sited hhosts₀ (by
        rw [hdevices₀]
        exact List.nodup_nil) hpin
      rw [hdevices₀] at hdevices
      -- the domains come last, and change neither networks nor devices
      obtain ⟨hdev, -⟩ := assignDomains_devices s₁ (spec.plantDomains fallbackDomains) seed
      have hdomains := assignDomains_zones s₁ (spec.plantDomains fallbackDomains) seed
      refine ⟨?_, ?_, ?_⟩
      · have hfst := congrArg (List.map Prod.fst) (hdomains.trans
          ((congrArg _ (pinDevices_subnets hpin)).trans hnets))
        rw [List.map_map] at hfst
        exact hfst
      · rwa [hdev]
      · rw [hdev, hdevices]
        exact hostnames_of_sited hsited

/-- **What is sealed**: the planned plant, named where the spec asks for it, with its own names
put back. -/
theorem buildSealedSession_planned {s' : Session}
    (hplan : plannedPlant spec vuln oui seed fallbackDomains = some s)
    (h : buildSealedSession spec vuln oui seed fallbackDomains = some (.ok s')) :
    ∃ s₁, (if spec.enrich then enrichPlant s vuln oui seed else some s) = some s₁ ∧
      s' = { reassertNames s₁ (explicitNames s) with sealed := true } := by
  unfold plannedPlant at hplan
  unfold buildSealedSession at h
  split at hplan
  · cases hplan
  · next table s₀ hzones =>
    rw [hzones] at h
    dsimp only at h
    split at hplan
    · cases hplan
    · next pinned hpin =>
      rw [hpin] at h
      cases hplan
      obtain ⟨s₂, hseal, hok⟩ := Option.map_eq_some_iff.mp h
      cases hok
      obtain ⟨s₁, hnamed, rfl⟩ := Option.map_eq_some_iff.mp hseal
      refine ⟨s₁, hnamed, ?_⟩
      rw [explicitNames, explicitNames, (assignDomains_devices _ _ _).1]

/-! ## The names of the sealed plant -/

/-- The name generated for a device, in a plant that is enriched. -/
def generatedName (spec : PlantSpec) (seed : UInt64) (s : Session) (d : DeviceRecord) :
    Option String :=
  if spec.enrich then coreName seed s.subnets.zipIdx s.devices d else none

/-- The name of a planned device in the end. -/
def finalName (spec : PlantSpec) (seed : UInt64) (s : Session) (d : DeviceRecord) :
    Option String :=
  d.hostname.elim (generatedName spec seed s d) fun n => some (completed (domainOf s d) n)

/-- The names of the supporting cast, in a plant that is enriched. -/
def plantCastNames (spec : PlantSpec) (vuln : VulnDb) (seed : UInt64) (s : Session) :
    List (Option String) :=
  if spec.enrich then (castOf s).map (castName vuln seed) else []

theorem enrichPlant_subnets {s s' : Session} (h : enrichPlant s vuln oui seed = some s') :
    s'.subnets = s.subnets := by
  unfold enrichPlant at h
  obtain ⟨st, hadd, rfl⟩ := Option.map_eq_some_iff.mp h
  exact addBom_subnets hadd

/-- Putting the names back, whatever name a device had. -/
theorem hostnames_reassertNames {s s₁ : Session} (hips : (s.devices.map DeviceRecord.ip).Nodup)
    (hsubnets : s₁.subnets = s.subnets) {g : DeviceRecord → DeviceRecord}
    (hcidr : ∀ d, (g d).subnetCidr = d.subnetCidr) (hip : ∀ d, (g d).ip = d.ip)
    {recs : List DeviceRecord} (hdevices : s₁.devices = s.devices.map g ++ recs) :
    (reassertNames s₁ (explicitNames s)).devices.map DeviceRecord.hostname =
      s.devices.map (fun d => d.hostname.elim (g d).hostname fun n =>
        some (completed (domainOf s d) n)) ++ recs.map DeviceRecord.hostname := by
  have hback := foldl_modifyAt hip (f := sealedName s₁) (fun _ _ => rfl) hips recs
  rw [← hdevices] at hback
  refine (congrArg (List.map DeviceRecord.hostname) hback).trans ?_
  rw [List.map_append, List.map_map]
  congr 1
  refine List.map_congr_left fun d _ => ?_
  rw [Function.comp_apply]
  cases d.hostname with
  | none => rfl
  | some n =>
    show (sealedName s₁ n (g d)).hostname = some (completed (domainOf s d) n)
    rw [hostname_sealedName, domainOf, domainOf, hsubnets, hcidr]

/-- **Each device has the name its spec gives, completed, or else the one generated for it.** -/
theorem buildSealedSession_hostnames {s' : Session} (hcidrs : (spec.zoneNets.map Prod.fst).Nodup)
    (hplan : plannedPlant spec vuln oui seed fallbackDomains = some s)
    (h : buildSealedSession spec vuln oui seed fallbackDomains = some (.ok s')) :
    s'.devices.map DeviceRecord.hostname =
      s.devices.map (finalName spec seed s) ++ plantCastNames spec vuln seed s := by
  obtain ⟨s₁, hnamed, rfl⟩ := buildSealedSession_planned hplan h
  have hplanned := planned_of_plannedPlant hplan
  show (reassertNames s₁ (explicitNames s)).devices.map DeviceRecord.hostname = _
  -- without `enrich` there are no names but the given ones, and no cast
  by_cases henrich : spec.enrich = true
  · rw [if_pos henrich] at hnamed
    obtain ⟨recs, hdevices, hcast⟩ :=
      enrichPlant_devices (hplanned.cidrs ▸ hcidrs) hplanned.ips hnamed
    rw [hostnames_reassertNames hplanned.ips (enrichPlant_subnets hnamed)
      (fun d => (withCoreName_frame seed _ _ d).1) (fun d => (withCoreName_frame seed _ _ d).2)
      hdevices, hcast, plantCastNames, if_pos henrich]
    congr 1
    refine List.map_congr_left fun d _ => ?_
    rw [finalName, generatedName, if_pos henrich, hostname_withCoreName]
    cases d.hostname <;> simp
  · rw [if_neg henrich] at hnamed
    cases hnamed
    rw [hostnames_reassertNames (g := id) hplanned.ips rfl (fun _ => rfl) (fun _ => rfl)
      (by rw [List.map_id, List.append_nil]), plantCastNames, if_neg henrich]
    congr 1
    refine List.map_congr_left fun d _ => ?_
    rw [finalName, generatedName, if_neg henrich]
    cases hname : d.hostname with
    | none => exact hname
    | some n => rfl

end Planned

end TurboLaser.Scenario
