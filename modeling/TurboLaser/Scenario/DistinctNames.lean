import TurboLaser.Scenario.SealedNames

/-!
# When hostnames are unique (simulate/devices.rs, scenario/plant.rs)

A sensor binds a name to an address, so no two devices are to carry one name. Neither `enrich_plant`
nor `build_sealed_session` compares names; what keeps them apart is how they are written.

A generated name has a prefix for the kind of device, an index in its zone, and the domain of the
zone behind a dot. Zones get different domains, so names of different zones differ; within a zone
the index tells devices of one kind apart if it is written at all, and some kinds are written
without it. Names that a spec declares are another matter: they may be anything, and a name without
a dot has the domain of its zone put behind it, so two names that differ in the spec may be one on
the wire.

- `CompletedApart`: no name of the spec becomes another one of them, or a generated one, when the
  domain of its zone is put behind it;
- `hostnames_distinct_iff`: **the generated names are distinct exactly if the index tells the named
  devices apart, and those of a sealed plant exactly if its own names stay apart as well.**
-/

namespace TurboLaser.Scenario

open Lib

/-- The devices a spec has no name for. -/
def unnamedDevices (s : Session) : List DeviceRecord :=
  s.devices.filter fun d => d.hostname.isNone

/-- The names the spec gives, as they are sealed. -/
def sealedNames (s : Session) : List String :=
  s.devices.filterMap fun d => d.hostname.map (completed (domainOf s d))

/-- The names generated for a planned plant, except those the spec's own names replace. -/
def plantNames (spec : PlantSpec) (vuln : VulnDb) (seed : UInt64) (s : Session) : List String :=
  if spec.enrich then generatedNames vuln seed s (unnamedDevices s) else []

/-- **No name of a spec becomes another one by its domain**: neither one with a dot that the spec
gives to another device, nor a generated one. -/
structure CompletedApart (spec : PlantSpec) (vuln : VulnDb) (seed : UInt64) (s : Session) :
    Prop where
  given : ∀ d ∈ s.devices, ∀ e ∈ s.devices, ∀ n m, d.hostname = some n → e.hostname = some m →
    ¬ Dotted n → Dotted m → completed (domainOf s d) n ≠ m
  generated : ∀ d ∈ s.devices, ∀ n, d.hostname = some n → ¬ Dotted n →
    completed (domainOf s d) n ∉ plantNames spec vuln seed s

section Sealed

variable {spec : PlantSpec} {vuln : VulnDb} {oui : OuiDb} {seed : UInt64}
  {fallbackDomains : List String} {s : Session}

/-! ## Completed names -/

theorem completed_of_dotted {domain : Option String} {n : String} (h : Dotted n) :
    completed domain n = n := by
  cases domain with
  | none => rfl
  | some dom => exact if_pos h

theorem dotted_iff {n : String} : Dotted n ↔ '.' ∈ n.toList := by
  rw [Dotted, textContains, decide_eq_true_iff]
  exact List.singleton_infix_iff '.' n.toList

/-- A completed name is the name, and nothing or a dot and more behind it. -/
theorem toList_completed {domain : Option String} {n : String} (h : ¬ Dotted n) :
    ∃ t : List Char, (completed domain n).toList = n.toList ++ t ∧ ∀ c ∈ t.head?, c = '.' := by
  cases domain with
  | none => exact ⟨[], (List.append_nil _).symm, by simp⟩
  | some dom =>
    refine ⟨'.' :: dom.toList, ?_, by simp⟩
    show (if textContains n "." then n else n ++ "." ++ dom).toList = _
    rw [if_neg (show ¬ textContains n "." = true from h)]
    simp

/-- **Names without a dot are told apart under any domains.** -/
theorem eq_of_completed_eq {domain domain' : Option String} {n m : String} (hn : ¬ Dotted n)
    (hm : ¬ Dotted m) (h : completed domain n = completed domain' m) : n = m := by
  obtain ⟨t, ht, hhead⟩ := @toList_completed domain n hn
  obtain ⟨u, hu, hhead'⟩ := @toList_completed domain' m hm
  have htexts : n.toList ++ t = m.toList ++ u := by rw [← ht, ← hu, h]
  exact String.toList_inj.mp ((append_inj_of_sep (mt dotted_iff.mpr hn) (mt dotted_iff.mpr hm)
    hhead hhead').mp htexts).1

/-! ## The names a spec gives -/

theorem mem_sealedNames {name : String} : name ∈ sealedNames s ↔
    ∃ d ∈ s.devices, ∃ n, d.hostname = some n ∧ completed (domainOf s d) n = name := by
  rw [sealedNames, List.mem_filterMap]
  constructor
  · rintro ⟨d, hd, hname⟩
    obtain ⟨n, hn, hsealed⟩ := Option.map_eq_some_iff.mp hname
    exact ⟨d, hd, n, hn, hsealed⟩
  · rintro ⟨d, hd, n, hn, hsealed⟩
    exact ⟨d, hd, Option.map_eq_some_iff.mpr ⟨n, hn, hsealed⟩⟩

/-- Of a list without repetitions an entry gives each element. -/
theorem eq_of_filterMap_nodup {α β : Type} {f : α → Option β} {xs : List α}
    (h : (xs.filterMap f).Nodup) {x y : α} {b : β} (hx : x ∈ xs) (hy : y ∈ xs)
    (hfx : f x = some b) (hfy : f y = some b) : x = y := by
  induction xs with
  | nil => cases hx
  | cons a xs ih =>
    have hrest : (xs.filterMap f).Nodup := (List.sublist_cons_self a xs).filterMap f |>.nodup h
    have hfirst {z : α} (hfa : f a = some b) (hz : z ∈ xs) : f z ≠ some b := by
      intro hfz
      rw [List.filterMap_cons_some hfa] at h
      exact (List.nodup_cons.mp h).1 (List.mem_filterMap.mpr ⟨z, hz, hfz⟩)
    rcases List.mem_cons.mp hx with rfl | hx'
    · rcases List.mem_cons.mp hy with rfl | hy'
      · rfl
      · exact absurd hfy (hfirst hfx hy')
    · rcases List.mem_cons.mp hy with rfl | hy'
      · exact absurd hfx (hfirst hfy hx')
      · exact ih hrest hx' hy'

/-- **Names that are given once are sealed once, exactly if none without a dot becomes one with a
dot.** -/
theorem nodup_sealedNames_iff (hgiven : (s.devices.filterMap DeviceRecord.hostname).Nodup)
    (hips : (s.devices.map DeviceRecord.ip).Nodup) :
    (sealedNames s).Nodup ↔ ∀ d ∈ s.devices, ∀ e ∈ s.devices, ∀ n m, d.hostname = some n →
      e.hostname = some m → ¬ Dotted n → Dotted m → completed (domainOf s d) n ≠ m := by
  constructor
  · rintro hnodup d hd e he n m hn hm hbare hdotted hsame
    -- both devices would have the name with the dot
    have hde : d = e := by
      refine eq_of_filterMap_nodup (b := m) hnodup hd he ?_ ?_
      · rw [hn, Option.map_some, hsame]
      · rw [hm, Option.map_some, completed_of_dotted hdotted]
    rw [← hde, hn] at hm
    exact hbare (Option.some.inj hm ▸ hdotted)
  · intro hapart
    have hdistinct : s.devices.Pairwise (· ≠ ·) := List.Nodup.of_map _ hips
    refine List.pairwise_filterMap.mpr (hdistinct.imp_of_mem ?_)
    rintro d e hd he hne x hx y hy rfl
    obtain ⟨n, hn, hxn⟩ := Option.map_eq_some_iff.mp hx
    obtain ⟨m, hm, hxm⟩ := Option.map_eq_some_iff.mp hy
    have hnm : n ≠ m := by
      rintro rfl
      exact hne (eq_of_filterMap_nodup hgiven hd he hn hm)
    by_cases hdn : Dotted n
    · rw [completed_of_dotted hdn] at hxn
      by_cases hdm : Dotted m
      · rw [completed_of_dotted hdm] at hxm
        exact hnm (hxn.trans hxm.symm)
      · exact hapart e he d hd m n hm hn hdm hdn (hxm.trans hxn.symm)
    · by_cases hdm : Dotted m
      · rw [completed_of_dotted hdm] at hxm
        exact hapart d hd e he n m hn hm hdn hdm (hxn.trans hxm.symm)
      · exact hnm (eq_of_completed_eq hdn hdm (hxn.trans hxm.symm))

/-- Names that are none of the generated ones are sealed as none of them, exactly if none without a
dot becomes one. -/
theorem sealedNames_apart_iff {names : List String}
    (hother : ∀ n ∈ s.devices.filterMap DeviceRecord.hostname, n ∉ names) :
    (∀ x ∈ sealedNames s, ∀ y ∈ names, x ≠ y) ↔ ∀ d ∈ s.devices, ∀ n, d.hostname = some n →
      ¬ Dotted n → completed (domainOf s d) n ∉ names := by
  constructor
  · rintro hapart d hd n hn - hmem
    exact hapart _ (mem_sealedNames.mpr ⟨d, hd, n, hn, rfl⟩) _ hmem rfl
  · rintro hapart x hx y hy rfl
    obtain ⟨d, hd, n, hn, rfl⟩ := mem_sealedNames.mp hx
    by_cases hdotted : Dotted n
    · rw [completed_of_dotted hdotted] at hy
      exact hother n (List.mem_filterMap.mpr ⟨d, hd, hn⟩) hy
    · exact hapart d hd n hn hdotted hy

/-! ## All names of a sealed plant -/

/-- The names in the end: those the spec gives, and those generated for the rest. -/
theorem perm_finalNames (spec : PlantSpec) (seed : UInt64) (s : Session) :
    (s.devices.filterMap (finalName spec seed s)).Perm
      (sealedNames s ++ (unnamedDevices s).filterMap (generatedName spec seed s)) := by
  have hsplit := (List.filter_append_perm (fun d : DeviceRecord => d.hostname.isSome)
    s.devices).symm.filterMap (finalName spec seed s)
  rw [List.filterMap_append] at hsplit
  refine hsplit.trans (List.Perm.of_eq ?_)
  congr 1
  · rw [sealedNames, List.filterMap_filter]
    refine List.filterMap_congr fun d _ => ?_
    rw [finalName]
    cases d.hostname <;> rfl
  · have hrest : (s.devices.filter fun d => !d.hostname.isSome) = unnamedDevices s := by
      rw [unnamedDevices]
      refine List.filter_congr fun d _ => ?_
      cases d.hostname <;> rfl
    rw [hrest]
    refine List.filterMap_congr fun d hd => ?_
    rw [finalName, Option.isNone_iff_eq_none.mp (List.mem_filter.mp hd).2]
    rfl

/-- **The hostnames of a sealed plant**, in some order. -/
theorem perm_hostnames {s' : Session} (hcidrs : (spec.zoneNets.map Prod.fst).Nodup)
    (hplan : plannedPlant spec vuln oui seed fallbackDomains = some s)
    (h : buildSealedSession spec vuln oui seed fallbackDomains = some (.ok s')) :
    (s'.devices.filterMap DeviceRecord.hostname).Perm
      (sealedNames s ++ plantNames spec vuln seed s) := by
  have hnames := congrArg (List.filterMap id) (buildSealedSession_hostnames hcidrs hplan h)
  rw [List.filterMap_append, List.filterMap_map, List.filterMap_map] at hnames
  refine (List.Perm.of_eq hnames).trans ?_
  have hcast : plantNames spec vuln seed s =
      (unnamedDevices s).filterMap (generatedName spec seed s) ++
        (plantCastNames spec vuln seed s).filterMap id := by
    unfold plantNames plantCastNames generatedName
    by_cases henrich : spec.enrich = true
    · simp only [if_pos henrich, List.filterMap_map]
      rfl
    · simp [if_neg henrich]
  rw [hcast, ← List.append_assoc]
  exact (perm_finalNames spec seed s).append_right _

/-- **The hostnames of a sealed plant are distinct exactly if** the index tells the devices the
spec has no name for apart, and its names stay apart when they are completed. -/
theorem buildSealedSession_distinct_iff {s' : Session}
    (hcidrs : (spec.zoneNets.map Prod.fst).Nodup)
    (hgiven : (spec.devices.filterMap DeviceSpec.hostname).Nodup)
    (hplan : plannedPlant spec vuln oui seed fallbackDomains = some s)
    (hother : ∀ n ∈ spec.devices.filterMap DeviceSpec.hostname, n ∉ plantNames spec vuln seed s)
    (h : buildSealedSession spec vuln oui seed fallbackDomains = some (.ok s')) :
    HostnamesDistinct s' ↔ (spec.enrich = true → NamesApart seed s (unnamedDevices s)) ∧
      CompletedApart spec vuln seed s := by
  have hplanned := planned_of_plannedPlant hplan
  have hnames := filterMap_of_map hplanned.hostnames
  rw [← hnames] at hgiven hother
  have hsub : (unnamedDevices s).Sublist s.devices := List.filter_sublist
  have hgenerated : (plantNames spec vuln seed s).Nodup ↔
      (spec.enrich = true → NamesApart seed s (unnamedDevices s)) := by
    rw [plantNames]
    split
    · next henrich =>
      rw [nodup_generatedNames_iff (hplanned.cidrs ▸ hcidrs) hplanned.ips vuln hsub]
      exact ⟨fun hapart _ => hapart, fun hapart => hapart henrich⟩
    · next henrich => exact iff_of_true List.nodup_nil fun h => absurd h henrich
  rw [HostnamesDistinct, (perm_hostnames hcidrs hplan h).nodup_iff, List.nodup_append,
    nodup_sealedNames_iff hgiven hplanned.ips, hgenerated, sealedNames_apart_iff hother]
  constructor
  · rintro ⟨hsealed, hapart, hcross⟩
    exact ⟨hapart, hsealed, hcross⟩
  · rintro ⟨hapart, hsealed, hcross⟩
    exact ⟨hsealed, hapart, hcross⟩

end Sealed

/-! ## Both paths -/

/-- **Hostnames are unique exactly if** no two named core devices of a zone are both firewalls or
both historians, and none has the class and the index of a named asset of the supporting cast; and,
for a sealed plant, if no name of the spec becomes another one by the domain of its zone. -/
theorem hostnames_distinct_iff (vuln : VulnDb) (oui : OuiDb) (seed : UInt64) :
    (∀ s s' : Session, s.cidrs.Nodup → (s.devices.map DeviceRecord.ip).Nodup →
      (∀ d ∈ s.devices, d.hostname = none) → enrichPlant s vuln oui seed = some s' →
        (HostnamesDistinct s' ↔ NamesApart seed s s.devices)) ∧
    ∀ (spec : PlantSpec) (fallbackDomains : List String) (s s' : Session),
      (spec.zoneNets.map Prod.fst).Nodup →
      (spec.devices.filterMap DeviceSpec.hostname).Nodup →
      plannedPlant spec vuln oui seed fallbackDomains = some s →
      (∀ n ∈ spec.devices.filterMap DeviceSpec.hostname, n ∉ plantNames spec vuln seed s) →
      buildSealedSession spec vuln oui seed fallbackDomains = some (.ok s') →
        (HostnamesDistinct s' ↔ (spec.enrich = true → NamesApart seed s (unnamedDevices s)) ∧
          CompletedApart spec vuln seed s) :=
  ⟨fun _ _ hcidrs hips hunnamed h => enrichPlant_distinct_iff hcidrs hips hunnamed h,
    fun _ _ _ _ hcidrs hgiven hplan hother h =>
      buildSealedSession_distinct_iff hcidrs hgiven hplan hother h⟩

/-- A cell with one device, of a class. -/
def cellOf (atype : AssetType) : Session :=
  { Session.new 8 with
    subnets := [⟨Ipv4Net.slash24 (ipv4 10 1 2 0), "Cell", 1, some "Siemens", none⟩]
    devices :=
      [{ ip := ipv4 10 1 2 2, mac := ⟨0, 0x1B, 0x1B, 0, 0, 1⟩, vendor := "Siemens",
         model := "SCALANCE X208", firmware := "5.2", protocol := "switch_snmp", cves := [],
         subnetCidr := Ipv4Net.slash24 (ipv4 10 1 2 0), hostname := none,
         assetType := some atype.label }] }

/-- A plant with a controller that has a name, and a device that has none. -/
def protectionPlant : PlantSpec :=
  { zones := [⟨"10.20.10.0/24", "Cascade Protection (L1)", 1, some "Siemens AG"⟩]
    devices :=
      [{ zone := "10.20.10.0/24", assetType := some "Controller", ip := some "10.20.10.11",
         hostname := some "A87-CPU" },
       { zone := "10.20.10.0/24", assetType := some "SIS", ip := some "10.20.10.20" }] }

/-- A controller in its cell, and the plant, both with a supporting cast. -/
theorem hostnames_distinct_cells :
    (∃ s', enrichPlant (cellOf .controller) [] ⟨∅, ∅⟩ 8 = some s' ∧
      (HostnamesDistinct s' ↔
        NamesApart 8 (cellOf .controller) (cellOf .controller).devices)) ∧
    ∃ s s', plannedPlant protectionPlant [] ⟨∅, ∅⟩ 1337 ["plant.example"] = some s ∧
      buildSealedSession protectionPlant [] ⟨∅, ∅⟩ 1337 ["plant.example"] = some (.ok s') ∧
      (HostnamesDistinct s' ↔
        (protectionPlant.enrich = true → NamesApart 1337 s (unnamedDevices s)) ∧
          CompletedApart protectionPlant [] 1337 s) := by
  constructor
  · have hreturns : (enrichPlant (cellOf .controller) [] ⟨∅, ∅⟩ 8).isSome := by decide +kernel
    obtain ⟨s', h⟩ := Option.isSome_iff_exists.mp hreturns
    exact ⟨s', h, (hostnames_distinct_iff [] ⟨∅, ∅⟩ 8).1 _ _ (by decide) (by decide) (by decide) h⟩
  · have hplans : ((plannedPlant protectionPlant [] ⟨∅, ∅⟩ 1337 ["plant.example"]).any fun s =>
        decide (∀ n ∈ protectionPlant.devices.filterMap DeviceSpec.hostname,
          n ∉ plantNames protectionPlant [] 1337 s)) = true := by
      decide +kernel
    have hbuilds : ((buildSealedSession protectionPlant [] ⟨∅, ∅⟩ 1337 ["plant.example"]).bind
        Except.toOption).isSome := by
      decide +kernel
    -- the planned plant is only evaluated inside the facts about it
    cases hplan : plannedPlant protectionPlant [] ⟨∅, ∅⟩ 1337 ["plant.example"] with
    | none =>
      rw [hplan] at hplans
      cases hplans
    | some s =>
      rw [hplan] at hplans
      obtain ⟨s', h⟩ := Option.isSome_iff_exists.mp hbuilds
      obtain ⟨r, hbuild, hok⟩ := Option.bind_eq_some_iff.mp h
      cases r with
      | error e => cases hok
      | ok s₁ =>
        cases hok
        exact ⟨s, s', rfl, hbuild, (hostnames_distinct_iff [] ⟨∅, ∅⟩ 1337).2 _ _ _ _
          (by decide +kernel) (by decide) hplan (of_decide_eq_true hplans) hbuild⟩

/-- **A switch of the core and the switch of the cast are both called `SW-01-01`.** -/
theorem hostnames_collide_switches :
    ((enrichPlant (cellOf .switch) [] ⟨∅, ∅⟩ 8).map fun s =>
        s.devices.map fun d => (d.ip, d.hostname)) =
      some [(ipv4 10 1 2 2, some "SW-01-01"), (ipv4 10 1 2 1, some "FW-01"),
        (ipv4 10 1 2 3, some "SW-01-01"), (ipv4 10 1 2 4, some "HMI-01-01"),
        (ipv4 10 1 2 5, none)] ∧
    ¬ ∀ (s s' : Session) (vuln : VulnDb) (oui : OuiDb) (seed : UInt64), s.cidrs.Nodup →
      (s.devices.map DeviceRecord.ip).Nodup → (∀ d ∈ s.devices, d.hostname = none) →
      enrichPlant s vuln oui seed = some s' → HostnamesDistinct s' := by
  refine ⟨by decide +kernel, fun h => ?_⟩
  have hrepeats : ((enrichPlant (cellOf .switch) [] ⟨∅, ∅⟩ 8).any fun s =>
      decide (¬ HostnamesDistinct s)) = true := by
    decide +kernel
  cases henrich : enrichPlant (cellOf .switch) [] ⟨∅, ∅⟩ 8 with
  | none =>
    rw [henrich] at hrepeats
    cases hrepeats
  | some s' =>
    rw [henrich] at hrepeats
    exact of_decide_eq_true hrepeats (h _ s' _ _ _ (by decide) (by decide) (by decide) henrich)

end TurboLaser.Scenario
