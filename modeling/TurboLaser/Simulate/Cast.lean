import TurboLaser.Simulate.CoreNames
import TurboLaser.Simulate.Growth

/-!
# The supporting cast of a plant (simulate/devices.rs)

The second loop of `enrich_plant` goes through the zones and adds the assets of their bills of
materials. Which assets it adds, and at which addresses, depends on the networks and levels of the
zones, on the addresses in use and on how many devices there are; `castOf` computes it without the
records and the MACs.

The loop nests three deep, over zones, classes and the assets of a class. It leaves an asset out
where its address is taken, and at the device cap every one, so the index in a name is the index in
the class and not in the list of what was added. `Follows` says that loop and plan agree so far, and
there is one lemma for each level.

- `Follows`: the loop stands where the plan stands;
- `enrichPlant_devices`: **behind the core devices are the assets of the plan, each with the name of
  its seat or none**;
- `castOf_spec`: the seats of the cast, read off the bills of materials;
- `pairwise_cast`: no two seats of the cast clash, since zone, class and index tell them apart.
-/

namespace TurboLaser

open Lib

/-! ## The plan -/

/-- An asset of the supporting cast, and its address. -/
structure CastAsset where
  zone : SubnetRecord × Nat
  atype : AssetType
  dev : Nat
  ip : Ipv4Addr

/-- What the plan is at: the addresses in use, the number of devices, and the cast so far. -/
structure CastState where
  used : Finset Ipv4Addr
  devices : Nat
  cast : List CastAsset

/-- One asset: left out where its address is in use, or at the hard cap. -/
def CastState.add (z : SubnetRecord × Nat) (atype : AssetType) (n : Nat) (ip : Ipv4Addr)
    (cs : CastState) : CastState :=
  if ip ∈ cs.used ∨ maxDevices ≤ cs.devices then cs
  else ⟨insert ip cs.used, cs.devices + 1, cs.cast ++ [⟨z, atype, n, ip⟩]⟩

/-- The assets of one class, numbered from `n`. -/
def castClass (z : SubnetRecord × Nat) (atype : AssetType) : Nat → Nat → CastState → CastState
  | 0, _, cs => cs
  | count + 1, n, cs =>
    match bomAddr z.1.cidr atype cs.used with
    | none => cs
    | some ip => castClass z atype count (n + 1) (cs.add z atype n ip)

/-- The classes of one zone. -/
def castZone (z : SubnetRecord × Nat) (classes : List (AssetType × Nat)) (cs : CastState) :
    CastState :=
  classes.foldl (fun cs c => castClass z c.1 c.2 0 cs) cs

/-- The cast of every zone. -/
def castZones (zones : List (SubnetRecord × Nat)) (cs : CastState) : CastState :=
  zones.foldl (fun cs z => castZone z (bomFor z.1.purdueLevel) cs) cs

/-- **The supporting cast of a session.** -/
def castOf (s : Session) : List CastAsset :=
  (castZones s.subnets.zipIdx ⟨s.usedIps, s.devices.length, []⟩).cast

/-- The seat an asset is named from. -/
def castSeat (vuln : VulnDb) (seed : UInt64) (a : CastAsset) : NameSeat :=
  ⟨bomBrand vuln seed a.atype a.ip, a.atype, a.zone.2, a.dev, a.zone.1.domain⟩

/-- The name of an asset, if it is one of those with a name. -/
def castName (vuln : VulnDb) (seed : UInt64) (a : CastAsset) : Option String :=
  if isNamed seed a.ip then some (castSeat vuln seed a).name else none

/-! ## The loop follows the plan

The plan lists the seats of the cast and who takes each, without devices. The loop puts one device
on each seat that is free, and leaves the others out. The induction goes over assets, classes and
zones in the order of the source, with the plan so far as what it carries.
-/

section Follows

variable {vuln : VulnDb} {oui : OuiDb} {seed : UInt64} {core : List DeviceRecord}

/-- **The loop stands where the plan stands.** -/
structure Follows (vuln : VulnDb) (seed : UInt64) (core : List DeviceRecord) (st : BomState)
    (cs : CastState) : Prop where
  used : st.used = cs.used
  count : st.session.devices.length = cs.devices
  devices : ∃ recs, st.session.devices = core ++ recs ∧
    recs.map DeviceRecord.hostname = cs.cast.map (castName vuln seed)

theorem Follows.addBomAsset {z : SubnetRecord × Nat} {atype : AssetType} {n : Nat} {ip : Ipv4Addr}
    {st st' : BomState} {cs : CastState} (h : Follows vuln seed core st cs)
    (hadd : TurboLaser.addBomAsset vuln oui seed z atype n ip st = some st') :
    Follows vuln seed core st' (cs.add z atype n ip) := by
  unfold TurboLaser.addBomAsset at hadd
  unfold CastState.add
  -- the three outcomes: the address is taken, the ledger is full, or the asset is put behind the
  -- others
  by_cases htaken : ip ∈ st.used
  · rw [if_pos htaken] at hadd
    cases hadd
    rwa [if_pos (.inl (h.used ▸ htaken))]
  · rw [if_neg htaken] at hadd
    cases hmac : freshMac (bomMacSalted oui (bomBrand vuln seed atype ip) seed ip)
        st.usedMacs with
    | none =>
      rw [hmac] at hadd
      cases hadd
    | some r =>
      obtain ⟨mac, salt⟩ := r
      rw [hmac] at hadd
      dsimp only at hadd
      rw [Session.addDevice, h.count] at hadd
      by_cases hcap : maxDevices ≤ cs.devices
      · rw [if_pos hcap] at hadd
        cases hadd
        rw [if_pos (.inr hcap)]
        exact ⟨h.used, h.count, h.devices⟩
      · rw [if_neg hcap] at hadd
        cases hadd
        rw [h.used] at htaken
        rw [if_neg (by simp [htaken, hcap])]
        obtain ⟨recs, hdevices, hnames⟩ := h.devices
        refine ⟨congrArg (insert ip) h.used, ?_, recs ++ [bomRecord vuln seed z atype n ip mac],
          ?_, ?_⟩
        · show (st.session.devices ++ [_]).length = cs.devices + 1
          rw [List.length_append, h.count]
          rfl
        · show st.session.devices ++ [_] = core ++ (recs ++ [_])
          rw [hdevices, List.append_assoc]
        · rw [List.map_append, List.map_append, hnames]
          rfl

theorem Follows.addBomClass {z : SubnetRecord × Nat} {atype : AssetType} {count n : Nat}
    {st st' : BomState} {cs : CastState} (h : Follows vuln seed core st cs)
    (hadd : TurboLaser.addBomClass vuln oui seed z atype count n st = some st') :
    Follows vuln seed core st' (castClass z atype count n cs) := by
  induction count generalizing n st cs with
  | zero =>
    cases hadd
    exact h
  | succ count ih =>
    rw [TurboLaser.addBomClass, h.used] at hadd
    rw [castClass]
    cases haddr : bomAddr z.1.cidr atype cs.used with
    | none =>
      rw [haddr] at hadd
      cases hadd
      exact h
    | some ip =>
      rw [haddr] at hadd
      dsimp only at hadd
      cases hasset : TurboLaser.addBomAsset vuln oui seed z atype n ip st with
      | none =>
        rw [hasset] at hadd
        cases hadd
      | some st₁ =>
        rw [hasset] at hadd
        -- the index goes on whether or not the asset was put
        exact ih (h.addBomAsset hasset) hadd

theorem Follows.addBomZone {z : SubnetRecord × Nat} {classes : List (AssetType × Nat)}
    {st st' : BomState} {cs : CastState} (h : Follows vuln seed core st cs)
    (hadd : TurboLaser.addBomZone vuln oui seed z classes st = some st') :
    Follows vuln seed core st' (castZone z classes cs) := by
  induction classes generalizing st cs with
  | nil =>
    cases hadd
    exact h
  | cons c classes ih =>
    rw [TurboLaser.addBomZone] at hadd
    cases hclass : TurboLaser.addBomClass vuln oui seed z c.1 c.2 0 st with
    | none =>
      rw [hclass] at hadd
      cases hadd
    | some st₁ =>
      rw [hclass] at hadd
      exact ih (h.addBomClass hclass) hadd

theorem Follows.addBom {zones : List (SubnetRecord × Nat)} {st st' : BomState} {cs : CastState}
    (h : Follows vuln seed core st cs)
    (hadd : TurboLaser.addBom vuln oui seed zones st = some st') :
    Follows vuln seed core st' (castZones zones cs) := by
  induction zones generalizing st cs with
  | nil =>
    cases hadd
    exact h
  | cons z zones ih =>
    rw [TurboLaser.addBom] at hadd
    cases hzone : TurboLaser.addBomZone vuln oui seed z (bomFor z.1.purdueLevel) st with
    | none =>
      rw [hzone] at hadd
      cases hadd
    | some st₁ =>
      rw [hzone] at hadd
      exact ih (h.addBomZone hzone) hadd

theorem map_cidr_zipIdx (s : Session) : (s.subnets.zipIdx.map fun z => z.1.cidr) = s.cidrs := by
  conv_rhs => rw [Session.cidrs, ← List.zipIdx_map_fst 0 s.subnets, List.map_map]
  rfl

/-- **`enrich_plant` names the core devices, and puts the cast behind them.** -/
theorem enrichPlant_devices {s s' : Session} (hcidrs : s.cidrs.Nodup)
    (hips : (s.devices.map DeviceRecord.ip).Nodup) (h : enrichPlant s vuln oui seed = some s') :
    ∃ recs, s'.devices =
        s.devices.map (withCoreName seed s.subnets.zipIdx s.devices) ++ recs ∧
      recs.map DeviceRecord.hostname = (castOf s).map (castName vuln seed) := by
  have hnamed := devices_named seed (by rwa [map_cidr_zipIdx]) hips
  have hrelabel : Relabelled s
      { s with devices := s.subnets.zipIdx.foldl (nameZoneDevices seed) s.devices } :=
    ⟨rfl, unnamed_namePlant _ _ _, rfl, rfl⟩
  unfold enrichPlant at h
  obtain ⟨st, hadd, rfl⟩ := Option.map_eq_some_iff.mp h
  have hstart : Follows vuln seed (s.devices.map (withCoreName seed s.subnets.zipIdx s.devices))
      ⟨{ s with devices := s.subnets.zipIdx.foldl (nameZoneDevices seed) s.devices },
        Session.usedIps { s with
          devices := s.subnets.zipIdx.foldl (nameZoneDevices seed) s.devices }, s.usedMacs⟩
      ⟨s.usedIps, s.devices.length, []⟩ := by
    refine ⟨?_, ?_, [], ?_, rfl⟩
    · rw [Session.usedIps, hrelabel.assets_eq]
      rfl
    · rw [hnamed, List.length_map]
    · rw [hnamed, List.append_nil]
  exact (hstart.addBom hadd).devices

end Follows

/-! ## The seats of the cast

An asset of the cast is known by its zone, its class and its number in it, and no two have the same
three. The plan lists those that find a seat in the order in which they are placed. So an asset of
the plan can be found by its key, which hostnames are compared by.
-/

/-- The place of an asset in the bill of materials of its zone. -/
def CastAsset.key (a : CastAsset) : (SubnetRecord × Nat) × AssetType × Nat :=
  (a.zone, a.atype, a.dev)

/-- The places in the bill of materials of a level. -/
def bomKeys (level : Nat) : List (AssetType × Nat) :=
  (bomFor level).flatMap fun c => (List.range c.2).map (Prod.mk c.1)

/-- The places in the bills of materials of all zones. -/
def castKeys (zones : List (SubnetRecord × Nat)) : List ((SubnetRecord × Nat) × AssetType × Nat) :=
  zones.flatMap fun z => (bomKeys z.1.purdueLevel).map (Prod.mk z)

/-- The plan grows by assets at some of the places, in their order. -/
def GrowsAt (keys : List ((SubnetRecord × Nat) × AssetType × Nat)) (cs cs' : CastState) : Prop :=
  ∃ more, cs'.cast = cs.cast ++ more ∧ (more.map CastAsset.key).Sublist keys

theorem GrowsAt.refl (cs : CastState) : GrowsAt [] cs cs :=
  ⟨[], (List.append_nil _).symm, .slnil⟩

theorem GrowsAt.trans {keys keys' : List ((SubnetRecord × Nat) × AssetType × Nat)}
    {cs cs' cs'' : CastState} (h : GrowsAt keys cs cs') (h' : GrowsAt keys' cs' cs'') :
    GrowsAt (keys ++ keys') cs cs'' := by
  obtain ⟨more, hcast, hsub⟩ := h
  obtain ⟨more', hcast', hsub'⟩ := h'
  refine ⟨more ++ more', by rw [hcast', hcast, List.append_assoc], ?_⟩
  rw [List.map_append]
  exact hsub.append hsub'

theorem growsAt_add (z : SubnetRecord × Nat) (atype : AssetType) (n : Nat) (ip : Ipv4Addr)
    (cs : CastState) : GrowsAt [(z, atype, n)] cs (cs.add z atype n ip) := by
  unfold CastState.add
  split
  · exact ⟨[], (List.append_nil _).symm, List.nil_sublist _⟩
  · exact ⟨[⟨z, atype, n, ip⟩], rfl, List.Sublist.refl _⟩

theorem growsAt_castClass (z : SubnetRecord × Nat) (atype : AssetType) (count n : Nat)
    (cs : CastState) : GrowsAt ((List.range' n count).map fun i => (z, atype, i)) cs
      (castClass z atype count n cs) := by
  induction count generalizing n cs with
  | zero => exact .refl cs
  | succ count ih =>
    rw [castClass]
    split
    · exact ⟨[], (List.append_nil _).symm, List.nil_sublist _⟩
    · next ip hip => exact (growsAt_add z atype n ip cs).trans (ih (n + 1) _)

theorem growsAt_castZone (z : SubnetRecord × Nat) (classes : List (AssetType × Nat))
    (cs : CastState) :
    GrowsAt ((classes.flatMap fun c => (List.range c.2).map (Prod.mk c.1)).map (Prod.mk z)) cs
      (castZone z classes cs) := by
  induction classes generalizing cs with
  | nil => exact .refl cs
  | cons c classes ih =>
    rw [List.flatMap_cons, List.map_append, List.map_map, List.range_eq_range']
    exact (growsAt_castClass z c.1 c.2 0 cs).trans (ih _)

theorem growsAt_castZones (zones : List (SubnetRecord × Nat)) (cs : CastState) :
    GrowsAt (castKeys zones) cs (castZones zones cs) := by
  induction zones generalizing cs with
  | nil => exact .refl cs
  | cons z zones ih => exact (growsAt_castZone z (bomFor z.1.purdueLevel) cs).trans (ih _)

/-- The cast takes its places in the bills of materials, in their order. -/
theorem keys_castOf (s : Session) :
    ((castOf s).map CastAsset.key).Sublist (castKeys s.subnets.zipIdx) := by
  obtain ⟨more, hcast, hsub⟩ :=
    growsAt_castZones s.subnets.zipIdx ⟨s.usedIps, s.devices.length, []⟩
  rw [castOf, hcast]
  exact hsub

/-- Every asset of the cast is in a listed zone, and is no controller. -/
theorem castOf_spec {s : Session} {a : CastAsset} (h : a ∈ castOf s) :
    a.zone ∈ s.subnets.zipIdx ∧ a.atype ≠ .controller := by
  have hkey := (keys_castOf s).subset (List.mem_map_of_mem h)
  obtain ⟨z, hz, hmem⟩ := List.mem_flatMap.mp hkey
  obtain ⟨⟨atype, n⟩, hbom, heq⟩ := List.mem_map.mp hmem
  obtain ⟨rfl, htype⟩ := Prod.mk.inj heq
  obtain ⟨rfl, -⟩ := Prod.mk.inj htype
  refine ⟨hz, ?_⟩
  obtain ⟨c, hc, hrange⟩ := List.mem_flatMap.mp hbom
  obtain ⟨i, -, hi⟩ := List.mem_map.mp hrange
  obtain ⟨hclass, -⟩ := Prod.mk.inj hi
  have hclasses (level : Nat) : ∀ c ∈ bomFor level, c.1 ≠ .controller := by
    unfold bomFor
    split <;> decide
  rw [← hclass]
  exact hclasses _ c hc

theorem nodup_zoneIndices (s : Session) : (s.subnets.zipIdx.map Prod.snd).Nodup := by
  rw [List.zipIdx_map_snd]
  exact List.nodup_range'

/-- **No two seats of the cast clash.** -/
theorem pairwise_cast (vuln : VulnDb) (seed : UInt64) (s : Session) :
    (castOf s).Pairwise fun a b => ¬ SeatsClash (castSeat vuln seed a) (castSeat vuln seed b) := by
  have hlevel (level : Nat) : (bomKeys level).Pairwise fun k k' =>
      ¬ (k.1 = k'.1 ∧ (k.1.perZone = false → k.2 = k'.2)) := by
    unfold bomKeys bomFor
    split <;> decide
  have hkeys : (castKeys s.subnets.zipIdx).Pairwise fun k k' =>
      ¬ (k.1.2 = k'.1.2 ∧ k.2.1 = k'.2.1 ∧ (k.2.1.perZone = false → k.2.2 = k'.2.2)) := by
    refine List.pairwise_flatMap.mpr ⟨fun z hz => ?_, ?_⟩
    · refine List.pairwise_map.mpr ((hlevel z.1.purdueLevel).imp ?_)
      rintro k k' hapart ⟨-, hclass, hdev⟩
      exact hapart ⟨hclass, hdev⟩
    · -- two zones have two indices
      refine (List.pairwise_map.mp (nodup_zoneIndices s)).imp ?_
      rintro z z' hne k hk k' hk' ⟨harea, -⟩
      obtain ⟨_, -, rfl⟩ := List.mem_map.mp hk
      obtain ⟨_, -, rfl⟩ := List.mem_map.mp hk'
      exact hne harea
  exact List.pairwise_map.mp (hkeys.sublist (keys_castOf s))

end TurboLaser
