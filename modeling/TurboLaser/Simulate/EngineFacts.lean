import TurboLaser.Simulate.Engine
import TurboLaser.Simulate.StableIdentity

/-!
# What a call of the engine does

What the two calls of the run loop do, read once, as cases and frames. Later modules argue about
these and do not unfold the calls.

- `Ticked`: a tick grows the plant, by fabrication alone, and may rename its zones;
- `Ticked.idle`: a tick with nothing to fabricate leaves everything a remap reads as it was
  (`SameWire`);
- `Remapped`: a remap fails, or hits the cache, or writes one entry and registers what it placed;
- `remapUnder_registers`: **a remap registers every asset it placed**, and identities stay apart.

When there is nothing to fabricate is said on the configuration and the ledger (`Idle`): fabrication
is off, or the plant is sealed, or `Saturated`. Renaming changes names and the cycle they were given
in; neither a remap nor the path of a cache file reads these.
-/

namespace TurboLaser

open Lib Relation

/-! ## Fabrication

Fabrication never touches the registry and never goes beyond the target of its call. When there is
nothing left to fabricate it returns the plant as it was, whatever is drawn. That is asked of the
ledger, the profiles and the caps, before the call.
-/

/-- Fabrication leaves the registry alone, and never goes past its target. -/
structure Fabricated (target : Nat) (s s' : Session) : Prop where
  seed : s'.seed = s.seed
  captureHosts : s'.captureHosts = s.captureHosts
  registryGeneration : s'.registryGeneration = s.registryGeneration
  devices_le : s'.devices.length ≤ max s.devices.length target

theorem Fabricated.refl (target : Nat) (s : Session) : Fabricated target s s :=
  ⟨rfl, rfl, rfl, Nat.le_max_left _ _⟩

/-- Choosing a zone keeps to that. -/
theorem Fabricated.choose {target : Nat} {s s₁ s₂ : Session} {used : Finset Ipv4Addr}
    {net : Option Ipv4Net} (h : Fabricated target s s₁) (hchoice : ZoneChoice s₁ used net s₂) :
    Fabricated target s s₂ := by
  cases hchoice <;> exact ⟨h.seed, h.captureHosts, h.registryGeneration, h.devices_le⟩

theorem fabricate_fabricated {s s' : Session} {vuln : VulnDb} {params : AllocParams}
    {target added : Nat} {rng rng' : Rng}
    (h : fabricate s vuln params target rng = some (s', added, rng')) : Fabricated target s s' := by
  unfold fabricate at h
  split at h
  · cases h
    exact .refl _ _
  · obtain ⟨st, hloop, heq⟩ := Option.map_eq_some_iff.mp h
    cases heq
    refine fabricateLoop_induct (P := fun st => Fabricated target s st.session)
      (Q := fun st => Fabricated target s st.session) ?_ ?_ (fun st h _ => h)
      (Fabricated.refl target s) hloop
    · intro st st' h hshort hturn
      cases hturn with
      | fullZone hchoice hfull => exact h.choose hchoice
      | @placed net s₁ ip rng mac salt profile hchoice hip hmac hroom =>
        -- one device more, in a turn that began below the target
        have hchosen := h.choose hchoice
        refine ⟨hchosen.seed, hchosen.captureHosts, hchosen.registryGeneration, ?_⟩
        show (s₁.devices ++ [profile.record ip mac net]).length ≤ _
        have hlen : s₁.devices.length = st.session.devices.length := by rw [hchoice.devices_eq.1]
        rw [List.length_append, List.length_singleton, hlen]
        omega
    · intro st st' h hshort hturn
      cases hturn with
      | exhausted hchoice => exact h.choose hchoice
      | atCap hchoice hcap => exact h.choose hchoice

/-- Nothing is left to fabricate: no profile, no device below the cap, or no free address
in any zone and no further zone. -/
def Saturated (s : Session) (vuln : VulnDb) (params : AllocParams) : Prop :=
  vuln = [] ∨ params.maxDevices ≤ s.devices.length ∨
    zonesWithRoom s s.usedIps = [] ∧
      (params.maxSubnets ≤ s.subnets.length ∨ protocolsPresent vuln = [])

instance (s : Session) (vuln : VulnDb) (params : AllocParams) :
    Decidable (Saturated s vuln params) :=
  inferInstanceAs (Decidable (_ ∨ _ ∨ _ ∧ (_ ∨ _)))

/-- Without room and without a further zone, no zone is chosen. -/
theorem chooseOrCreateSubnet_saturated {s : Session} {vuln : VulnDb} {params : AllocParams}
    {used : Finset Ipv4Addr} (rng : Rng) (hroom : zonesWithRoom s used = [])
    (hzone : params.maxSubnets ≤ s.subnets.length ∨ protocolsPresent vuln = []) :
    ∃ rng', chooseOrCreateSubnet s vuln params used rng = some (none, s, rng') := by
  unfold chooseOrCreateSubnet
  rw [hroom]
  dsimp only
  by_cases hfull : params.maxSubnets ≤ s.subnets.length
  · have hwants : wantsZone s vuln params [] rng = (false, rng) := if_pos hfull
    rw [hwants]
    exact ⟨rng, rfl⟩
  · have hnone := hzone.resolve_left hfull
    have hcreate : ∃ rng', createZone s vuln params rng = some (none, s, rng') := by
      unfold createZone
      rw [hnone]
      exact ⟨_, rfl⟩
    obtain ⟨rng', hcreate⟩ := hcreate
    have hwants : wantsZone s vuln params [] rng = (true, rng) := by
      rw [wantsZone, if_neg hfull, if_pos (Or.inr rfl)]
    rw [hwants]
    dsimp only
    rw [if_pos rfl, hcreate]
    exact ⟨rng', rfl⟩

/-- **A saturated plant does not grow.** -/
theorem fabricate_saturated {s s' : Session} {vuln : VulnDb} {params : AllocParams}
    {target added : Nat} {rng rng' : Rng} (hsat : Saturated s vuln params)
    (h : fabricate s vuln params target rng = some (s', added, rng')) : s' = s ∧ added = 0 := by
  unfold fabricate at h
  split at h
  · cases h
    exact ⟨rfl, rfl⟩
  · next hvuln =>
    obtain ⟨st, hloop, heq⟩ := Option.map_eq_some_iff.mp h
    cases heq
    rw [fabricateFuel, fabricateLoop] at hloop
    split at hloop
    · cases hloop
      exact ⟨rfl, rfl⟩
    · next hshort =>
      -- the first turn finds no zone, and is the last
      obtain ⟨hroom, hzone⟩ := (hsat.resolve_left hvuln).resolve_left fun hcap =>
        hshort ((Nat.min_le_right _ _).trans hcap)
      obtain ⟨rng₁, hchoose⟩ := chooseOrCreateSubnet_saturated rng hroom hzone
      have hturn : fabricateTurn vuln params (fabricateInit s rng) =
          some (.stop { fabricateInit s rng with session := s, rng := rng₁ }) := by
        unfold fabricateTurn
        rw [show chooseOrCreateSubnet (fabricateInit s rng).session vuln params
          (fabricateInit s rng).used (fabricateInit s rng).rng = _ from hchoose]
      rw [hturn] at hloop
      cases hloop
      exact ⟨rfl, rfl⟩

/-! ## One tick

A tick fabricates and perhaps renames zones. Names are no part of what a remap is told or of an
identity, so up to names a tick is fabrication, and an idle tick is nothing. The cache and the
registry are left alone by all of this.
-/

/-- Only the names of zones differ, and the cycle they were given in. -/
structure SameWire (s s' : Session) : Prop where
  seed : s'.seed = s.seed
  devices : s'.devices = s.devices
  captureHosts : s'.captureHosts = s.captureHosts
  registryGeneration : s'.registryGeneration = s.registryGeneration
  zones : s'.subnets.map (fun z => (z.cidr, z.vendor, z.purdueLevel)) =
    s.subnets.map fun z => (z.cidr, z.vendor, z.purdueLevel)

theorem SameWire.refl (s : Session) : SameWire s s := ⟨rfl, rfl, rfl, rfl, rfl⟩

theorem renameZones_sameWire (s : Session) : SameWire s s.renameZones := by
  refine ⟨rfl, rfl, rfl, rfl, ?_⟩
  refine List.ext_getElem? fun i => ?_
  rw [Session.renameZones, Session.renameZonesNewCycle, List.getElem?_map, List.getElem?_map,
    List.getElem?_mapIdx, Option.map_map]
  rfl

/-- A remap is told the same. -/
theorem SameWire.reconcileCtx_eq {s s' : Session} (h : SameWire s s') (affinity : ZoneAffinity)
    (remapMac : Bool) (capAssets : Nat) :
    s'.reconcileCtx affinity remapMac capAssets = s.reconcileCtx affinity remapMac capAssets := by
  have htarget : ∀ s : Session, s.zoneTargets =
      (s.subnets.map fun z => (z.cidr, z.vendor, z.purdueLevel)).map fun z =>
        s.zoneTarget ⟨z.1, "", z.2.2, z.2.1, none⟩ := by
    intro s
    rw [List.map_map]
    rfl
  have hone : s'.zoneTarget = s.zoneTarget := by
    funext z
    rw [Session.zoneTarget, Session.zoneTarget, h.devices]
  have hzones : s'.zoneTargets = s.zoneTargets := by
    rw [htarget s', htarget s, h.zones, hone]
  rw [Session.reconcileCtx, Session.reconcileCtx, hzones, h.seed, Session.registeredOrigins,
    Session.registeredOrigins, Session.deviceMacMap, Session.deviceMacMap, Session.usedMacs,
    Session.usedMacs, Session.assets, Session.assets, Session.totalWireAssets,
    Session.totalWireAssets, h.devices, h.captureHosts]

theorem SameWire.relabelled {s s' : Session} (h : SameWire s s') : Relabelled s s' := by
  refine ⟨?_, by rw [h.devices], h.captureHosts, h.registryGeneration⟩
  have hfst := congrArg (List.map Prod.fst) h.zones
  rwa [List.map_map, List.map_map] at hfst

/-- There is nothing to fabricate: fabrication is off, the plant is sealed, or saturated. -/
def Idle (e : SimulatorEngine) : Prop :=
  e.deviceIdentity = false ∨ e.sealed = true ∨ Saturated e.ledger e.vuln e.params

instance (e : SimulatorEngine) : Decidable (Idle e) :=
  inferInstanceAs (Decidable (_ ∨ _ ∨ _))

theorem growPlant_cases {e : SimulatorEngine} {rng : Rng} {grown : Session} {added : Nat}
    (h : e.growPlant rng = some (grown, added)) :
    Grows OffSlots (fun _ => True) e.ledger grown ∧
      Fabricated (min (e.ledger.devices.length + fabricateBatch) e.params.maxDevices) e.ledger
        grown ∧
      (Idle e → grown = e.ledger) := by
  unfold SimulatorEngine.growPlant at h
  split at h
  · next hon =>
    obtain ⟨⟨s, n, rng'⟩, hfab, heq⟩ := Option.map_eq_some_iff.mp h
    cases heq
    refine ⟨(fabricate_grows hfab).mono (fun _ => id) fun _ => False.elim,
      fabricate_fabricated hfab, fun hidle => ?_⟩
    obtain hoff | hoff | hsat := hidle
    · exact absurd (hoff.symm.trans hon.1) Bool.false_ne_true
    · exact absurd (hon.2.symm.trans hoff) Bool.false_ne_true
    · exact (fabricate_saturated hsat hfab).1
  · cases h
    exact ⟨.refl, .refl _ _, fun _ => rfl⟩

/-- **What a tick does**: the plant grows by fabrication, and is named. An idle tick only
names it, and one that is switched off does nothing. -/
structure Ticked (e e' : SimulatorEngine) : Prop where
  grown : ∃ s, Grows OffSlots (fun _ => True) e.ledger s ∧
    Fabricated (min (e.ledger.devices.length + fabricateBatch) e.params.maxDevices) e.ledger s ∧
    SameWire s e'.ledger
  idle : e.synthEnabled = false ∨ Idle e → SameWire e.ledger e'.ledger
  cache : e'.cache = e.cache
  oui : e'.oui = e.oui

theorem redTick_cases {e e' : SimulatorEngine} {run : Nat} {rng : Rng}
    (h : e.redTick run rng = some e') : Ticked e e' := by
  unfold SimulatorEngine.redTick at h
  split at h
  · next hon =>
    split at h
    · cases h
    · next grown added hgrow =>
      cases h
      obtain ⟨hgrows, hfab, hidle⟩ := growPlant_cases hgrow
      have hnamed : ∀ (rename : Prop) [Decidable rename],
          SameWire grown (if rename then grown.renameZones else grown) := by
        intro rename _
        split
        · exact renameZones_sameWire grown
        · exact .refl grown
      refine ⟨⟨grown, hgrows, hfab, hnamed _⟩, fun hquiet => ?_, rfl, rfl⟩
      obtain hoff | hquiet := hquiet
      · exact absurd (hoff.symm.trans hon) Bool.false_ne_true
      · rw [← hidle hquiet]
        exact hnamed _
  · cases h
    exact ⟨⟨e.ledger, .refl, .refl _ _, .refl _⟩, fun _ => .refl _, rfl, rfl⟩

/-- Identities stay apart through a tick. -/
theorem Ticked.identities {e e' : SimulatorEngine} (h : Ticked e e') (hs : Identities e.ledger) :
    Identities e'.ledger := by
  obtain ⟨s, hgrows, -, hnamed⟩ := h.grown
  have hgrown := hgrows.identities hs
  exact (@Grow.relabel OffSlots (fun _ => True) _ _ hnamed.relabelled).identities hgrown

/-! ## One remap -/

/-- **What a remap does**: it fails, it finds its path in the cache, or it writes one
entry and registers what it placed. -/
inductive Remapped (seedFrom : UInt64 → Rng) (cfg : Config) (e : SimulatorEngine) (src : Source)
    (order : HashOrder) (evicted : List CacheKey) :
    Except String CacheKey → SimulatorEngine → Prop
  | failed {err} : Remapped seedFrom cfg e src order evicted (.error err) e
  | hit (hcached : cachePath cfg e.ledger src ∈ e.cache) :
      Remapped seedFrom cfg e src order evicted (.ok (cachePath cfg e.ledger src)) e
  | wrote {cap written assets ledger} (hmiss : cachePath cfg e.ledger src ∉ e.cache)
      (hcontent : src.content = .ok cap)
      (hremap : remapUnder seedFrom cfg e.ledger e.oui cap order = some (written, assets))
      (hledger : ledger =
        registerAssets e.ledger assets (effectiveAssetCap cfg.synthesis.maxAssets)) :
      Remapped seedFrom cfg e src order evicted (.ok (cachePath cfg ledger src))
        { e with
          ledger
          cache := eraseAll (e.cache.insert (cachePath cfg ledger src) written)
            (evicted.filter fun k => decide (k ≠ cachePath cfg ledger src)) }

theorem remapIntoSession_cases {seedFrom : UInt64 → Rng} {cfg : Config} {e e' : SimulatorEngine}
    {src : Source} {order : HashOrder} {evicted : List CacheKey} {r : Except String CacheKey}
    (h : e.remapIntoSession seedFrom cfg src order evicted = some (r, e')) :
    Remapped seedFrom cfg e src order evicted r e' := by
  unfold SimulatorEngine.remapIntoSession at h
  split at h
  · cases h
    exact .failed
  · split at h
    · cases h
      exact .failed
    · dsimp only at h
      split at h
      -- past the two limits on the size: the cache, then the file, then the remap
      · next hcached =>
        cases h
        exact .hit hcached
      · next hmiss =>
        split at h
        · cases h
          exact .failed
        · next cap hcontent =>
          split at h
          · cases h
          · next hremap =>
            cases h
            exact .wrote hmiss hcontent hremap rfl

/-- The tables an engine was built with stay. -/
theorem runEngine_oui {seedFrom : UInt64 → Rng} {cfg : Config} {e e' : SimulatorEngine}
    {ops : List EngineOp} (h : runEngine seedFrom cfg e ops = some e') : e'.oui = e.oui := by
  refine runAll_invariant (P := fun e' => e'.oui = e.oui) (fun e₁ op e₂ hsame _ happly => ?_) rfl
    (everyStep_of_forall (fun _ _ _ => trivial) e) h
  cases op with
  | redTick run rng => exact (redTick_cases happly).oui.trans hsame
  | remap src order evicted =>
    obtain ⟨⟨r, e₃⟩, hremap, rfl⟩ := Option.map_eq_some_iff.mp happly
    cases remapIntoSession_cases hremap <;> exact hsame

/-- The assets of a remap are those of a reconcile of the capture. -/
theorem remapUnder_assets {seedFrom : UInt64 → Rng} {cfg : Config} {s : Session} {oui : OuiDb}
    {cap written : Capture} {order : HashOrder} {assets : List NewCaptureAsset}
    (h : remapUnder seedFrom cfg s oui cap order = some (written, assets)) :
    assets = [] ∨ reconciledAssets s cap cfg.l3.subnets oui order cfg.l3.zoneAffinity
      cfg.l3.remapMac cfg.synthesis.maxAssets = some assets := by
  unfold remapUnder at h
  dsimp only at h
  split at h
  · cases h
    exact Or.inl rfl
  · split at h
    · cases h
    · next hrec =>
      cases h
      refine Or.inr ?_
      rw [reconciledAssets, hrec]
      rfl

/-- **A remap registers every asset it placed**, and identities stay apart. -/
theorem remapUnder_registers {seedFrom : UInt64 → Rng} {cfg : Config} {s : Session} {oui : OuiDb}
    {cap written : Capture} {order : HashOrder} {assets : List NewCaptureAsset}
    (hs : Identities s) (h : remapUnder seedFrom cfg s oui cap order = some (written, assets)) :
    AllAccepted s (effectiveAssetCap cfg.synthesis.maxAssets) assets ∧
      Identities (registerAssets s assets (effectiveAssetCap cfg.synthesis.maxAssets)) := by
  obtain rfl | hassets := remapUnder_assets h
  · exact ⟨trivial, hs⟩
  · obtain ⟨haccepted, hgrows⟩ := reconciled_registers hs
      (PlantOp.puts_anywhere s (.reconcile cap cfg.l3.subnets oui order cfg.l3.zoneAffinity
        cfg.l3.remapMac cfg.synthesis.maxAssets)) hassets
    exact ⟨haccepted, hgrows.identities hs⟩

end TurboLaser
