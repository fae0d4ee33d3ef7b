import TurboLaser.Simulate.AssetCap

/-!
# The remap cache

A cached remap is returned as it is, so it should be what the remap would write now.
The path names the registry generation, and only registration advances that: a tick
that adds zones or devices does not, and neither does anything about the source
beyond the time, size and stem of its file.

- `CacheSafe`: the calls after which the cache still agrees. A tick must have nothing to
  fabricate, or find present entries only of captures whose hosts are all registered; a
  remap must not perturb a MAC, which the next remap would not know about.
- `cached_remap_fresh`: over a run of such calls, on files the key tells apart, whatever
  the cache returns is what a remap without a cache would write.
- `stale_remap_returned`: the run loop remaps before the first tick, and after it the
  remap for a plant without zones is still returned.
-/

namespace TurboLaser

open Lib

section Fresh

variable (seedFrom : UInt64 → Rng) (cfg : Config)

/-- **The remap of a capture changes nothing any more**: it would write `c` and register no
asset, in every hash order that groups the capture as the one `c` was written in. -/
def Settles (s : Session) (oui : OuiDb) (cap c : Capture) : Prop :=
  ∃ order, ∀ order', captureGroups cap cfg.l3.subnets oui order' =
      captureGroups cap cfg.l3.subnets oui order →
    remapUnder seedFrom cfg s oui cap order' = some (c, [])

/-- The entry at a path is right when it is settled for every source with this path. -/
def RightEntry (srcs : List Source) (s : Session) (oui : OuiDb) (k : CacheKey) (c : Capture) :
    Prop :=
  ∀ src ∈ srcs, cachePath cfg s src = k →
    ∃ cap, src.content = .ok cap ∧ Settles seedFrom cfg s oui cap c

/-- What a run keeps of the engine: identities are apart, and the cache agrees. -/
structure CacheAgrees (srcs : List Source) (e : SimulatorEngine) : Prop where
  identities : Identities e.ledger
  coherent : Coherent CacheKey.generation e.ledger.registryGeneration
    (RightEntry seedFrom cfg srcs e.ledger e.oui) e.cache

end Fresh

/-- No two files of a run have one key and different contents. -/
def DistinctFiles (srcs : List Source) : Prop :=
  ∀ src ∈ srcs, ∀ src' ∈ srcs, src.key = src'.key → src.content = src'.content

/-- A remap that is not cached yet gives every host it places its natural MAC. -/
def RemapsNaturally (cfg : Config) (e : SimulatorEngine) (src : Source) (order : HashOrder) :
    Prop :=
  ∀ cap ∈ src.content.toOption,
    let ctx := e.ledger.reconcileCtx cfg.l3.zoneAffinity cfg.l3.remapMac
      (effectiveAssetCap cfg.synthesis.maxAssets)
    cachePath cfg e.ledger src ∈ e.cache ∨ cfg.l3.remapMac = false ∨
      EveryJob ctx (NaturalMac ctx) (jobs ctx (captureGroups cap cfg.l3.subnets e.oui order))
        (initState ctx)

/-- Every host of the capture is a registered asset. -/
def AllRegistered (s : Session) (src : Source) : Prop :=
  ∀ cap ∈ src.content.toOption, ∀ a ∈ captureHosts cap, a ∈ s.registeredOrigins

/-- The calls that keep the cache right, where `srcs` are the files of the pool. -/
def CacheSafe (cfg : Config) (srcs : List Source) (e : SimulatorEngine) : EngineOp → Prop
  | .redTick _ _ => e.synthEnabled = false ∨ Idle e ∨
      ∀ src ∈ srcs, cachePath cfg e.ledger src ∈ e.cache → AllRegistered e.ledger src
  | .remap src order _ => RemapsNaturally cfg e src order

instance (cfg : Config) (e : SimulatorEngine) (src : Source) (order : HashOrder) :
    Decidable (RemapsNaturally cfg e src order) :=
  inferInstanceAs (Decidable (∀ cap ∈ src.content.toOption, _ ∨ _ ∨ _))

instance (s : Session) (src : Source) : Decidable (AllRegistered s src) :=
  inferInstanceAs (Decidable (∀ cap ∈ src.content.toOption, ∀ a ∈ captureHosts cap, _))

instance (cfg : Config) (srcs : List Source) (e : SimulatorEngine) (op : EngineOp) :
    Decidable (CacheSafe cfg srcs e op) :=
  match op with
  | .redTick _ _ => inferInstanceAs (Decidable (_ ∨ _ ∨ _))
  | .remap src order _ => inferInstanceAs (Decidable (RemapsNaturally cfg e src order))

/-! ## What a remap depends on

A remap reads the zones, the registry, the reserved addresses and MACs, and the seed. Once the hosts
of a capture are all registered it reads the registry alone, and growing the plant does not touch
it. Before that, a second remap is like the first only if no MAC was perturbed, as the record keeps
what the wire did not.
-/

section Remap

variable {seedFrom : UInt64 → Rng} {cfg : Config} {s s' : Session} {oui : OuiDb} {cap : Capture}

/-- Two ledgers that tell a remap the same get the same remap. -/
theorem SameWire.remapUnder_eq (h : SameWire s s') (order : HashOrder) :
    remapUnder seedFrom cfg s' oui cap order = remapUnder seedFrom cfg s oui cap order := by
  rw [remapUnder, remapUnder, h.reconcileCtx_eq, h.seed]

theorem SameWire.cachePath_eq (h : SameWire s s') (src : Source) :
    cachePath cfg s' src = cachePath cfg s src := by
  rw [cachePath, cachePath, h.seed, h.registryGeneration]

/-- **The remap after a remap** writes the same and registers nothing, when no MAC was
perturbed. -/
theorem remapUnder_again (hs : Identities s) {order order' : HashOrder} {written : Capture}
    {assets : List NewCaptureAsset}
    (hnatural : cfg.l3.remapMac = false ∨
      EveryJob (s.reconcileCtx cfg.l3.zoneAffinity cfg.l3.remapMac
          (effectiveAssetCap cfg.synthesis.maxAssets))
        (NaturalMac (s.reconcileCtx cfg.l3.zoneAffinity cfg.l3.remapMac
          (effectiveAssetCap cfg.synthesis.maxAssets)))
        (jobs (s.reconcileCtx cfg.l3.zoneAffinity cfg.l3.remapMac
          (effectiveAssetCap cfg.synthesis.maxAssets))
          (captureGroups cap cfg.l3.subnets oui order))
        (initState (s.reconcileCtx cfg.l3.zoneAffinity cfg.l3.remapMac
          (effectiveAssetCap cfg.synthesis.maxAssets))))
    (h : remapUnder seedFrom cfg s oui cap order = some (written, assets))
    (hgroups : captureGroups cap cfg.l3.subnets oui order' =
      captureGroups cap cfg.l3.subnets oui order) :
    remapUnder seedFrom cfg
        (registerAssets s assets (effectiveAssetCap cfg.synthesis.maxAssets)) oui cap order' =
      some (written, []) := by
  have haccepted := (remapUnder_registers hs h).1
  unfold remapUnder at h ⊢
  dsimp only at h ⊢
  rw [reconcileCtx_registerAssets haccepted, hgroups, (registerAssets_frame s assets _).2.2,
    ReconcileCtx.afterRegistering_zones]
  split at h
  · next hzones =>
    cases h
    rw [if_pos hzones]
  · next hzones =>
    rw [if_neg hzones]
    split at h
    · cases h
    · next out summary assets' hrec =>
      cases h
      obtain ⟨summary', hagain⟩ := reconcile_again_frames
        (nodup_captureGroups cap cfg.l3.subnets oui order) hnatural hrec
      rw [hagain]

/-- A capture whose hosts are all registered is rewritten by the registry, with zones or
without. -/
theorem remapUnder_registered (hs : Identities s)
    (hreg : ∀ a ∈ captureHosts cap, a ∈ s.registeredOrigins) (order : HashOrder) :
    remapUnder seedFrom cfg s oui cap order = some (thinCapture cfg (rewriteAndFilter cap
      (mapHosts (fun a => s.registeredOrigins.lookup a) ∅
        (hostOrder (captureGroups cap cfg.l3.subnets oui order)))
      s.deviceMacMap s.seed cfg.l3.remapMac), []) := by
  unfold remapUnder
  dsimp only
  split
  · next hzones =>
    -- without zones nothing is registered, so the capture has no host at all
    have hnone : s.registeredOrigins = ∅ := by
      rw [Session.registeredOrigins, (hs.ledgerFits _ _ _).zones hzones]
      rfl
    rw [hnone] at hreg
    have horder : hostOrder (captureGroups cap cfg.l3.subnets oui order) = [] := by
      rw [List.eq_nil_iff_forall_not_mem]
      intro a ha
      obtain ⟨g, hg, hag⟩ := List.mem_flatMap.mp ha
      rw [sortGroups, List.mem_insertionSort] at hg
      exact AList.notMem_empty a
        (hreg a (mem_captureGroups.mp ⟨g, hg, (List.mem_insertionSort _).mp hag⟩))
    have hmap : remapMap cap cfg.l3.subnets (seedFrom s.seed) = ∅ := by
      have hkeys : (remapMap cap cfg.l3.subnets (seedFrom s.seed)).keys = [] := by
        rw [List.eq_nil_iff_forall_not_mem]
        intro a ha
        exact AList.notMem_empty a (hreg a (mem_remapMap.mp (AList.mem_keys.mpr ha)))
      exact AList.ext (List.map_eq_nil_iff.mp hkeys)
    have hoverrides : rewriteAndFilter cap ∅ ∅ s.seed cfg.l3.remapMac =
        rewriteAndFilter cap ∅ s.deviceMacMap s.seed cfg.l3.remapMac :=
      @rewriteAndFilter_congr ∅ ∅ s.deviceMacMap cfg.l3.remapMac
        (fun _ ip hip => absurd hip (Finset.notMem_empty ip)) cap s.seed
    rw [remapCapture, horder]
    dsimp only
    rw [hmap, hoverrides]
    rfl
  · next hzones =>
    obtain ⟨summary, hrec⟩ := @reconcile_registered cap
      (captureGroups cap cfg.l3.subnets oui order) _ hzones
      fun g hg a ha => hreg a (mem_captureGroups.mp ⟨g, hg, ha⟩)
    rw [hrec]
    rfl

/-- **The growth of the plant does not touch a capture whose hosts are all registered.** -/
theorem remapUnder_grown (hs : Identities s) (hs' : Identities s')
    (hhosts : s'.captureHosts = s.captureHosts) (hseed : s'.seed = s.seed)
    (hreg : ∀ a ∈ captureHosts cap, a ∈ s.registeredOrigins) (order : HashOrder) :
    remapUnder seedFrom cfg s' oui cap order = remapUnder seedFrom cfg s oui cap order := by
  have horigins : s'.registeredOrigins = s.registeredOrigins := by
    rw [Session.registeredOrigins, Session.registeredOrigins, hhosts]
  have hnotDevice : ∀ {s : Session} {a ip : Ipv4Addr}, Identities s →
      s.registeredOrigins.lookup a = some ip → s.deviceMacMap.lookup ip = none := by
    intro s a ip hs hip
    have hfits := hs.ledgerFits .off true 0
    rw [AList.lookup_eq_none]
    exact fun hin => (hs.registryApart .off true 0).offDevices ip (mem_values_of_lookup hip)
      (hfits.devices ip hin)
  rw [remapUnder_registered hs hreg, remapUnder_registered hs' (by rwa [horigins]), horigins, hseed]
  refine congrArg (fun out => some (thinCapture cfg out, _)) (rewriteAndFilter_congr
    (fun _ ip hip => ?_) cap s.seed)
  obtain hempty | ⟨a, ha⟩ := values_mapHosts hip
  · exact absurd hempty (Finset.notMem_empty ip)
  · rw [hnotDevice hs ha, hnotDevice hs' (horigins ▸ ha)]

/-- Registering moves the generation on by the number of assets. -/
theorem generation_registerAssets {assets : List NewCaptureAsset} {capAssets : Nat}
    (hs : Identities s) (haccepted : AllAccepted s capAssets assets)
    (hs' : Identities (registerAssets s assets capAssets)) :
    (registerAssets s assets capAssets).registryGeneration =
      s.registryGeneration + assets.length := by
  rw [hs'.generation, haccepted.captureHosts, List.length_append, List.length_map, hs.generation]

end Remap

/-! ## What a call keeps -/

section Step

variable {seedFrom : UInt64 → Rng} {cfg : Config} {srcs : List Source} {e e' : SimulatorEngine}

/-- What was right stays right when a remap is told the same. -/
theorem RightEntry.sameWire {s s' : Session} {oui : OuiDb} {k : CacheKey} {c : Capture}
    (hwire : SameWire s s') (h : RightEntry seedFrom cfg srcs s oui k c) :
    RightEntry seedFrom cfg srcs s' oui k c := by
  intro src hsrc hkey
  rw [hwire.cachePath_eq] at hkey
  obtain ⟨cap, hcontent, order, hsettles⟩ := h src hsrc hkey
  refine ⟨cap, hcontent, order, fun order' hgroups => ?_⟩
  rw [hwire.remapUnder_eq]
  exact hsettles order' hgroups

/-- A tick that has nothing to fabricate changes nothing a remap reads; any other tick leaves
the remaps of registered hosts as they were. -/
theorem CacheAgrees.tick (h : CacheAgrees seedFrom cfg srcs e) {run : Nat} {rng : Rng}
    (hsafe : CacheSafe cfg srcs e (.redTick run rng)) (hticked : Ticked e e') :
    CacheAgrees seedFrom cfg srcs e' := by
  have hidentities := hticked.identities h.identities
  refine ⟨hidentities, ?_⟩
  rw [hticked.cache, hticked.oui]
  obtain ⟨s, -, hfab, hnamed⟩ := hticked.grown
  have hgeneration : e'.ledger.registryGeneration = e.ledger.registryGeneration := by
    rw [hnamed.registryGeneration, hfab.registryGeneration]
  rw [hgeneration]
  have hquiet : ∀ hwire : SameWire e.ledger e'.ledger,
      Coherent CacheKey.generation e.ledger.registryGeneration
        (RightEntry seedFrom cfg srcs e'.ledger e.oui) e.cache :=
    fun hwire => h.coherent.congr fun _ _ _ _ hright => hright.sameWire hwire
  -- nothing a remap reads has changed, or the plant has grown under registered hosts only
  obtain hoff | hidle | hregistered := hsafe
  · exact hquiet (hticked.idle (Or.inl hoff))
  · exact hquiet (hticked.idle (Or.inr hidle))
  · have hseed : e'.ledger.seed = e.ledger.seed := by rw [hnamed.seed, hfab.seed]
    have hhosts : e'.ledger.captureHosts = e.ledger.captureHosts := by
      rw [hnamed.captureHosts, hfab.captureHosts]
    refine h.coherent.congr fun k c hcached _ hright src hsrc hkey => ?_
    have hpath : cachePath cfg e.ledger src = k := by
      rw [← hkey, cachePath, cachePath, hseed, hgeneration]
    obtain ⟨cap, hcontent, order, hsettles⟩ := hright src hsrc hpath
    refine ⟨cap, hcontent, order, fun order' hgroups => ?_⟩
    have hreg := hregistered src hsrc
      (by rw [hpath]; exact AList.lookup_isSome.mp (Option.isSome_of_mem hcached)) cap
      (by rw [hcontent]; rfl)
    rw [remapUnder_grown h.identities hidentities hhosts hseed hreg]
    exact hsettles order' hgroups

/-- A remap that is written agrees with the ledger it leaves. -/
theorem CacheAgrees.remap (h : CacheAgrees seedFrom cfg srcs e) {src : Source}
    {order : HashOrder} {evicted : List CacheKey} {r : Except String CacheKey}
    (hfiles : DistinctFiles srcs) (hsrc : src ∈ srcs)
    (hsafe : CacheSafe cfg srcs e (.remap src order evicted))
    (hremapped : Remapped seedFrom cfg e src order evicted r e') :
    CacheAgrees seedFrom cfg srcs e' := by
  cases hremapped with
  | failed => exact h
  | hit hcached => exact h
  | @wrote cap written assets ledger hmiss hcontent hremap hledger =>
    obtain ⟨haccepted, hidentities⟩ := remapUnder_registers h.identities hremap
    have hgeneration := generation_registerAssets h.identities haccepted hidentities
    rw [← hledger] at hidentities hgeneration
    have hnatural := (show RemapsNaturally cfg e src order from hsafe) cap
      (by rw [hcontent]; rfl)
    have hright : RightEntry seedFrom cfg srcs ledger e.oui (cachePath cfg ledger src) written := by
      intro src' hsrc' hkey
      refine ⟨cap, ?_, order, fun order' hgroups => ?_⟩
      · rw [hfiles src' hsrc' src hsrc (congrArg CacheKey.source hkey), hcontent]
      · rw [hledger]
        exact remapUnder_again h.identities (hnatural.resolve_left hmiss) hremap hgroups
    -- older entries: with nothing registered the ledger is the same, else their generation is past
    have hcoherent : Coherent CacheKey.generation ledger.registryGeneration
        (RightEntry seedFrom cfg srcs ledger e.oui) e.cache := by
      cases assets with
      | nil =>
        rw [show ledger = e.ledger from hledger]
        exact h.coherent
      | cons a assets =>
        refine h.coherent.advance ?_
        rw [hgeneration, List.length_cons]
        omega
    exact ⟨hidentities, (hcoherent.insert (Nat.le_refl _) fun _ => hright).eraseAll _⟩

/-- Every call keeps the cache right. -/
theorem CacheAgrees.apply (hfiles : DistinctFiles srcs) {op : EngineOp}
    (h : CacheAgrees seedFrom cfg srcs e) (hsafe : CacheSafe cfg srcs e op)
    (hsrc : ∀ src order evicted, op = .remap src order evicted → src ∈ srcs)
    (happly : op.apply seedFrom cfg e = some e') : CacheAgrees seedFrom cfg srcs e' := by
  cases op with
  | redTick run rng => exact h.tick hsafe (redTick_cases happly)
  | remap src order evicted =>
    obtain ⟨⟨r, e₁⟩, hremap, rfl⟩ := Option.map_eq_some_iff.mp happly
    exact h.remap hfiles (hsrc src order evicted rfl) hsafe (remapIntoSession_cases hremap)

end Step

/-! ## Over a run

The cache answers by a key, and is right as long as the key of an entry says all that the remap
depended on. Registering a host moves the generation, which is part of the key. A device that is
fabricated does not, and neither does a MAC that is salted; so the condition is asked of ticks and
of remaps, each on the state it finds.
-/

/-- The sources a run remaps. -/
def sources (ops : List EngineOp) : List Source :=
  ops.filterMap fun op =>
    match op with
    | .redTick _ _ => none
    | .remap src _ _ => some src

/-- The engine with nothing cached. -/
def SimulatorEngine.uncached (e : SimulatorEngine) : SimulatorEngine := { e with cache := ∅ }

/-- A remap without a cache would write `c` at `key`, and change nothing else. -/
def WouldWrite (seedFrom : UInt64 → Rng) (cfg : Config) (e : SimulatorEngine) (src : Source)
    (order : HashOrder) (key : CacheKey) (c : Capture) : Prop :=
  e.uncached.remapIntoSession seedFrom cfg src order [] =
    some (.ok key, { e with cache := (∅ : Memo CacheKey Capture).insert key c })

/-- A remap that finds nothing in the cache writes. -/
theorem remapIntoSession_of_miss {seedFrom : UInt64 → Rng} {cfg : Config} {e : SimulatorEngine}
    {src : Source} {order : HashOrder} {cap c : Capture} (hsize : ¬ cfg.l3.maxRemapBytes < src.size)
    (hpolicy : ¬ (src.toDisk = true ∧ cfg.l3.onOversize = .skip))
    (hmiss : cachePath cfg e.ledger src ∉ e.cache) (hcontent : src.content = .ok cap)
    (hunder : remapUnder seedFrom cfg e.ledger e.oui cap order = some (c, [])) :
    e.remapIntoSession seedFrom cfg src order [] =
      some (.ok (cachePath cfg e.ledger src),
        { e with cache := e.cache.insert (cachePath cfg e.ledger src) c }) := by
  rw [SimulatorEngine.remapIntoSession, if_neg hsize, if_neg hpolicy]
  dsimp only
  rw [if_neg hmiss, hcontent]
  dsimp only
  rw [hunder]
  rfl

/-- A settled capture is written as it is, when the checks on its size pass. -/
theorem wouldWrite_of_remapUnder {seedFrom : UInt64 → Rng} {cfg : Config}
    {e e' : SimulatorEngine} {src : Source} {order order' : HashOrder} {evicted : List CacheKey}
    {key : CacheKey} {cap c : Capture}
    (hremap : e.remapIntoSession seedFrom cfg src order evicted = some (.ok key, e'))
    (hcontent : src.content = .ok cap)
    (hunder : remapUnder seedFrom cfg e.ledger e.oui cap order' = some (c, [])) :
    WouldWrite seedFrom cfg e src order' (cachePath cfg e.ledger src) c := by
  unfold SimulatorEngine.remapIntoSession at hremap
  split at hremap
  · cases hremap
  · next hsize =>
    split at hremap
    · cases hremap
    · next hpolicy =>
      exact @remapIntoSession_of_miss seedFrom cfg e.uncached src order' cap c hsize hpolicy
        (AList.notMem_empty _) hcontent hunder

/-- A path that is returned and was in the cache is that of the present ledger. -/
theorem CacheAgrees.key_eq {seedFrom : UInt64 → Rng} {cfg : Config} {srcs : List Source}
    {e e' : SimulatorEngine} (h : CacheAgrees seedFrom cfg srcs e) {src : Source}
    {order : HashOrder} {evicted : List CacheKey} {key : CacheKey}
    (hremapped : Remapped seedFrom cfg e src order evicted (.ok key) e') (hcached : key ∈ e.cache) :
    key = cachePath cfg e.ledger src := by
  cases hremapped with
  | hit => rfl
  | @wrote cap written assets ledger hmiss hcontent hremap hledger =>
    obtain ⟨haccepted, hidentities⟩ := remapUnder_registers h.identities hremap
    have hgeneration := generation_registerAssets h.identities haccepted hidentities
    have hbound : ledger.registryGeneration ≤ e.ledger.registryGeneration :=
      h.coherent.bounded _ hcached
    rw [hledger, hgeneration] at hbound
    have hnone : assets = [] := List.length_eq_zero_iff.mp (by omega)
    rw [hledger, hnone]
    rfl

/-- **A cached remap is fresh.** Over a run of safe calls, on files the key tells apart, an
entry that is returned is what a remap without a cache would write, leaving the ledger as
it is: in some hash order, and in every one when no vote of the capture is tied. -/
theorem cached_remap_fresh (seedFrom : UInt64 → Rng) (cfg : Config) (vuln : VulnDb) (oui : OuiDb)
    (session : Session) (ops : List EngineOp) (e e' : SimulatorEngine) (src : Source)
    (order : HashOrder) (evicted : List CacheKey) (key : CacheKey) (c : Capture)
    (hs : Identities session) (hfiles : DistinctFiles (src :: sources ops))
    (hsafe : EveryStep (EngineOp.apply seedFrom cfg)
      (CacheSafe cfg (src :: sources ops))
      (SimulatorEngine.red cfg vuln oui session) ops)
    (hrun : runEngine seedFrom cfg (SimulatorEngine.red cfg vuln oui session) ops = some e)
    (hremap : e.remapIntoSession seedFrom cfg src order evicted = some (.ok key, e'))
    (hcached : e.cache.lookup key = some c) :
    ∃ cap, src.content = .ok cap ∧
      (∃ order', WouldWrite seedFrom cfg e src order' key c) ∧
      (TieFree cap cfg.l3.subnets oui →
        ∀ order', WouldWrite seedFrom cfg e src order' key c) := by
  have hstart : CacheAgrees seedFrom cfg (src :: sources ops)
      (SimulatorEngine.red cfg vuln oui session) := ⟨hs, .empty⟩
  have hsources : EveryStep (EngineOp.apply seedFrom cfg)
      (fun _ op => ∀ src' order evicted, op = .remap src' order evicted →
        src' ∈ src :: sources ops) (SimulatorEngine.red cfg vuln oui session) ops := by
    refine everyStep_of_forall (fun _ op hop src' order evicted heq => ?_) _
    exact List.mem_cons_of_mem _ (List.mem_filterMap.mpr ⟨op, hop, by rw [heq]⟩)
  have hagrees : CacheAgrees seedFrom cfg (src :: sources ops) e :=
    runAll_invariant (fun _ _ _ h hop happly => h.apply hfiles hop.1 hop.2 happly) hstart
      (hsafe.and hsources) hrun
  have hkey := hagrees.key_eq (remapIntoSession_cases hremap)
    (AList.lookup_isSome.mp (Option.isSome_of_mem hcached))
  subst hkey
  obtain ⟨cap, hcontent, order₀, hsettles⟩ :=
    hagrees.coherent.current _ c hcached rfl src List.mem_cons_self rfl
  refine ⟨cap, hcontent, ⟨order₀, ?_⟩, fun htie order' => ?_⟩
  · exact wouldWrite_of_remapUnder hremap hcontent (hsettles order₀ rfl)
  · exact wouldWrite_of_remapUnder hremap hcontent
      (hsettles order' (captureGroups_order (runEngine_oui hrun ▸ htie) order' order₀))

/-- A new engine over a plant of one device. -/
def twinEngine : SimulatorEngine :=
  SimulatorEngine.red (cappedConfig (some 1) none) onePlc ⟨∅, ∅⟩ (Session.new 7)

theorem twinSource_distinct (ops : List EngineOp)
    (h : ∀ src ∈ sources ops, src.content = twinSource.content) :
    DistinctFiles (twinSource :: sources ops) := by
  have hsame : ∀ src ∈ twinSource :: sources ops, src.content = twinSource.content := by
    intro src hsrc
    obtain rfl | hsrc := List.mem_cons.mp hsrc
    · rfl
    · exact h src hsrc
  exact fun src hsrc src' hsrc' _ => (hsame src hsrc).trans (hsame src' hsrc').symm

/-- The repetition of a remap: the entry it returns. -/
def returned (e : SimulatorEngine) : Option (CacheKey × Capture) :=
  (e.remapIntoSession remapRng (cappedConfig (some 1) none) twinSource insertionOrder []).bind
    fun r => r.1.toOption.bind fun key => (e.cache.lookup key).map fun c => (key, c)

theorem returned_spec {e : SimulatorEngine} {key : CacheKey} {c : Capture}
    (h : returned e = some (key, c)) :
    ∃ e', e.remapIntoSession remapRng (cappedConfig (some 1) none) twinSource insertionOrder [] =
      some (.ok key, e') ∧ e.cache.lookup key = some c := by
  obtain ⟨⟨r, e'⟩, hremap, h⟩ := Option.bind_eq_some_iff.mp h
  obtain ⟨key', hkey, h⟩ := Option.bind_eq_some_iff.mp h
  obtain ⟨c', hc, heq⟩ := Option.map_eq_some_iff.mp h
  cases heq
  cases r with
  | error err => cases hkey
  | ok key'' =>
    cases hkey
    exact ⟨e', hremap, hc⟩

/-- After the tick that makes the plant, a remap and its repetition agree. -/
theorem twin_remap_fresh :
    ∃ e key c, runEngine remapRng (cappedConfig (some 1) none) twinEngine
        [.redTick 0 zeroRng, .remap twinSource insertionOrder []] = some e ∧
      returned e = some (key, c) ∧
      ∃ order, WouldWrite remapRng (cappedConfig (some 1) none) e twinSource order key c := by
  have hhit : ((runEngine remapRng (cappedConfig (some 1) none) twinEngine
      [.redTick 0 zeroRng, .remap twinSource insertionOrder []]).bind returned).isSome := by
    decide +kernel
  obtain ⟨⟨key, c⟩, hhit⟩ := Option.isSome_iff_exists.mp hhit
  obtain ⟨e, he, hreturned⟩ := Option.bind_eq_some_iff.mp hhit
  obtain ⟨e', hremap, hcached⟩ := returned_spec hreturned
  obtain ⟨cap, -, hfresh, -⟩ := cached_remap_fresh remapRng (cappedConfig (some 1) none) onePlc
    ⟨∅, ∅⟩ (Session.new 7) [.redTick 0 zeroRng, .remap twinSource insertionOrder []] e e' twinSource
    insertionOrder [] key c (identities_new 7)
    (twinSource_distinct _ fun src hsrc => by rw [List.mem_singleton.mp hsrc])
    (by decide +kernel) he hremap hcached
  exact ⟨e, key, c, he, hreturned, hfresh⟩

theorem twinCapture_tieFree : TieFree twinCapture [] ⟨∅, ∅⟩ :=
  ⟨by decide +kernel, by decide +kernel, by decide +kernel⟩

/-- A remap before the first tick is still returned after it, while a fresh one would go
into the zone the tick created. -/
theorem stale_remap_returned :
    ¬ ∀ (seedFrom : UInt64 → Rng) (cfg : Config) (vuln : VulnDb) (oui : OuiDb) (session : Session)
      (ops : List EngineOp) (e e' : SimulatorEngine) (src : Source) (order : HashOrder)
      (evicted : List CacheKey) (key : CacheKey) (cap c : Capture), cfg.validate = .ok () →
      Identities session → DistinctFiles (src :: sources ops) →
      runEngine seedFrom cfg (SimulatorEngine.red cfg vuln oui session) ops = some e →
      e.remapIntoSession seedFrom cfg src order evicted = some (.ok key, e') →
      e.cache.lookup key = some c → src.content = .ok cap → TieFree cap cfg.l3.subnets oui →
      ∀ order', WouldWrite seedFrom cfg e src order' key c := by
  intro h
  have hstale : ((runEngine remapRng (cappedConfig (some 1) none) twinEngine
      [.remap twinSource insertionOrder [], .redTick 0 zeroRng]).bind fun e =>
        (returned e).map fun r => decide ((e.uncached.remapIntoSession remapRng
          (cappedConfig (some 1) none) twinSource insertionOrder []).map (fun w =>
            (w.2.cache.lookup r.1).map fun c => c.packets.map OwnedPacket.data) ≠
          some (some (r.2.packets.map OwnedPacket.data)))) = some true := by
    decide +kernel
  obtain ⟨e, he, hstale⟩ := Option.bind_eq_some_iff.mp hstale
  obtain ⟨⟨key, c⟩, hreturned, hdiffer⟩ := Option.map_eq_some_iff.mp hstale
  rw [decide_eq_true_iff] at hdiffer
  obtain ⟨e', hremap, hcached⟩ := returned_spec hreturned
  have hfresh := h remapRng (cappedConfig (some 1) none) onePlc ⟨∅, ∅⟩ (Session.new 7)
    [.remap twinSource insertionOrder [], .redTick 0 zeroRng] e e' twinSource insertionOrder [] key
    twinCapture c rfl (identities_new 7)
    (twinSource_distinct _ fun src hsrc => by rw [List.mem_singleton.mp hsrc]) he hremap hcached
    rfl twinCapture_tieFree insertionOrder
  refine hdiffer ?_
  rw [show e.uncached.remapIntoSession remapRng (cappedConfig (some 1) none) twinSource
    insertionOrder [] = _ from hfresh, Option.map_some, AList.lookup_insert, Option.map_some]

end TurboLaser
