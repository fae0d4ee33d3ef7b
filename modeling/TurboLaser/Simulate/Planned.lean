import TurboLaser.Proto.WithinPlan
import TurboLaser.Simulate.DaemonFacts

/-!
# What the daemon's calls keep: the plan

Whatever the calls and their order, the ledger loses nothing it has shown: no zone, no device, no
capture host, no promotion. And every capture in the remap cache runs between addresses of it.

The addresses of a plan are those in use in its ledger. Before there are zones, a capture is
remapped into a random network of 10/8, and such a capture may still be in the cache when the zones
come; so where the ledger once had no zone, any address of 10/8 counts as planned (`unzoned`).

- `Session.Extends`: a ledger with everything an earlier one has;
- `Planned`: the addresses of a plan; `Planning`: the invariant;
- `within_remapUnder`: what a remap writes is within the plan it leaves, including the hosts it is
  about to register;
- `apply_extends`: **every call extends the ledger**;
- `Planning.apply`: **every call keeps the cache within the plan.** That an entry was planned when
  it was written is enough, because plans only grow.
-/

namespace TurboLaser

open Lib

/-! ## A ledger that grows -/

/-- **A ledger with everything an earlier one has**, where it had it. -/
structure Session.Extends (s s' : Session) : Prop where
  zones : s.cidrs <+: s'.cidrs
  devices : s.devices.map DeviceRecord.unnamed <+: s'.devices.map DeviceRecord.unnamed
  captureHosts : s.captureHosts <+: s'.captureHosts
  generation : s.registryGeneration ≤ s'.registryGeneration

namespace Session.Extends

variable {s s' s'' : Session}

theorem refl (s : Session) : s.Extends s :=
  ⟨List.prefix_rfl, List.prefix_rfl, List.prefix_rfl, Nat.le_refl _⟩

theorem trans (h : s.Extends s') (h' : s'.Extends s'') : s.Extends s'' :=
  ⟨h.zones.trans h'.zones, h.devices.trans h'.devices, h.captureHosts.trans h'.captureHosts,
    Nat.le_trans h.generation h'.generation⟩

theorem usedIps (h : s.Extends s') : s.usedIps ⊆ s'.usedIps := by
  have hdevices : ∀ ds : List DeviceRecord, ds.map DeviceRecord.ip =
      (ds.map DeviceRecord.unnamed).map DeviceRecord.ip := by
    intro ds
    rw [List.map_map]
    rfl
  have hips : ∀ s : Session, s.usedIps =
      (s.devices.map DeviceRecord.ip ++ s.captureHosts.map CaptureHostRecord.ip).toFinset := by
    intro s
    rw [Session.usedIps, Session.assets, List.map_append, List.map_map, List.map_map]
    rfl
  intro ip hip
  rw [hips, List.mem_toFinset, List.mem_append, hdevices] at hip ⊢
  exact hip.imp (fun hd => List.map_subset DeviceRecord.ip h.devices.subset hd)
    fun hh => List.map_subset CaptureHostRecord.ip h.captureHosts.subset hh

/-- A ledger that has zones keeps them. -/
theorem subnets (h : s.Extends s') (hnone : s'.subnets = []) : s.subnets = [] := by
  have hzones := h.zones
  rwa [Session.cidrs, Session.cidrs, hnone, List.map_nil, List.prefix_nil, List.map_eq_nil_iff]
    at hzones

theorem of_relabelled (h : Relabelled s s') : s.Extends s' :=
  ⟨h.cidrs ▸ List.prefix_rfl, h.devices ▸ List.prefix_rfl, h.captureHosts ▸ List.prefix_rfl,
    h.registryGeneration ▸ Nat.le_refl _⟩

/-- A step of the plant adds at the end, or gives names. -/
theorem of_grow {dev : DeviceRecord → Prop} {host : CaptureHostRecord → Prop}
    (h : Grow dev host s s') : s.Extends s' := by
  cases h with
  | relabel h => exact of_relabelled h
  | zone hroom hnew hbits =>
    refine ⟨?_, List.prefix_rfl, List.prefix_rfl, Nat.le_refl _⟩
    rw [Session.cidrs_pushSubnet]
    exact List.prefix_append _ _
  | device hroom hzone hin hip hmac hput =>
    refine ⟨List.prefix_rfl, ?_, List.prefix_rfl, Nat.le_refl _⟩
    rw [Session.pushDevice, List.map_append]
    exact List.prefix_append _ _
  | captureHost hzone hin hip hmac horigin hput =>
    exact ⟨List.prefix_rfl, List.prefix_rfl, List.prefix_append _ _, Nat.le_succ _⟩

theorem of_grows {dev : DeviceRecord → Prop} {host : CaptureHostRecord → Prop}
    (h : Grows dev host s s') : s.Extends s' := by
  induction h with
  | refl => exact .refl s
  | tail _ hstep ih => exact ih.trans (of_grow hstep)

theorem registerAssets (s : Session) (assets : List NewCaptureAsset) (cap : Nat) :
    s.Extends (registerAssets s assets cap) := by
  induction assets generalizing s with
  | nil => exact .refl s
  | cons a assets ih =>
    have hfirst : s.Extends ((s.registerCaptureHost a.record cap).getD s) := by
      cases hreg : s.registerCaptureHost a.record cap with
      | none => exact .refl s
      | some s₁ =>
        obtain ⟨-, -, rfl⟩ := registerCaptureHost_eq_some.mp hreg
        exact ⟨List.prefix_rfl, List.prefix_rfl, List.prefix_append _ _, Nat.le_succ _⟩
    exact hfirst.trans (ih _)

end Session.Extends

/-- A tick extends the ledger. -/
theorem Ticked.extends {e e' : SimulatorEngine} (h : Ticked e e') : e.ledger.Extends e'.ledger := by
  obtain ⟨s, hgrows, -, hnamed⟩ := h.grown
  exact (Session.Extends.of_grows hgrows).trans (.of_relabelled hnamed.relabelled)

/-! ## A remap and its cache -/

/-- **What a remap does to the engine**: nothing, or it registers what it placed, and enters what
it wrote under the path it answers. -/
inductive DaemonCached (seedFrom : UInt64 → Rng) (cfg : Config) (e : SimulatorEngine)
    (src : Source) (order : HashOrder) : Except String CacheKey → SimulatorEngine → Prop
  | kept {r} (hfound : ∀ key, r = .ok key → key ∈ e.cache) : DaemonCached seedFrom cfg e src order r e
  | unwritten {err cap written assets} (hcontent : src.content = .ok cap)
      (hremap : remapUnder seedFrom cfg e.ledger e.oui cap order = some (written, assets)) :
      DaemonCached seedFrom cfg e src order (.error err)
        { e with
          ledger := registerAssets e.ledger assets (effectiveAssetCap cfg.synthesis.maxAssets) }
  | wrote {cap written assets key dropped} (hcontent : src.content = .ok cap)
      (hremap : remapUnder seedFrom cfg e.ledger e.oui cap order = some (written, assets))
      (hkept : key ∉ dropped) :
      DaemonCached seedFrom cfg e src order (.ok key)
        { e with
          ledger := registerAssets e.ledger assets (effectiveAssetCap cfg.synthesis.maxAssets)
          cache := eraseAll (e.cache.insert key written) dropped }

theorem daemonRemap_cached {seedFrom : UInt64 → Rng} {cfg : Config} {e : DaemonEngine}
    {src : Source} {order : HashOrder} {evicted : List CacheKey} {io : Io} {file : LedgerFile}
    {out : Except String CacheKey × DaemonEngine × LedgerFile}
    (h : e.remapIntoSession seedFrom cfg src order evicted io file = some out) :
    DaemonCached seedFrom cfg e.core src order out.1 out.2.1.core := by
  unfold DaemonEngine.remapIntoSession at h
  split at h
  · obtain rfl := Option.some.inj h
    exact .kept nofun
  · split at h
    · obtain rfl := Option.some.inj h
      exact .kept nofun
    · dsimp only at h
      split at h
      · next hhit =>
        obtain rfl := Option.some.inj h
        exact .kept fun key hkey => Except.ok.inj hkey ▸ hhit
      · split at h
        · obtain rfl := Option.some.inj h
          exact .kept nofun
        · next cap hcontent =>
          split at h
          · cases h
          · next written assets hremap =>
            have hcore := (settle_frame cfg e assets io file).1
            cases hsettle : e.settle cfg assets io file with
            | mk e' file' =>
              rw [hsettle] at h hcore
              dsimp only at h hcore
              -- the ledger is settled, whether the capture is then written or not
              split at h
              · obtain rfl := Option.some.inj h
                rw [hcore]
                exact .unwritten hcontent hremap
              · split at h
                · obtain rfl := Option.some.inj h
                  rw [hcore]
                  exact .unwritten hcontent hremap
                · obtain rfl := Option.some.inj h
                  dsimp only
                  rw [hcore]
                  refine .wrote hcontent hremap fun hdropped => ?_
                  exact absurd rfl (of_decide_eq_true (List.mem_filter.mp hdropped).2)

/-- What a remap answers is in the cache. -/
theorem DaemonCached.mem {seedFrom : UInt64 → Rng} {cfg : Config} {e e' : SimulatorEngine}
    {src : Source} {order : HashOrder} {key : CacheKey}
    (h : DaemonCached seedFrom cfg e src order (.ok key) e') : key ∈ e'.cache := by
  cases h with
  | kept hfound => exact hfound key rfl
  | wrote hcontent hremap hkept =>
    exact mem_eraseAll ((AList.mem_insert _).mpr (.inl rfl)) hkept

/-- A remap extends the ledger. -/
theorem DaemonCached.extends {seedFrom : UInt64 → Rng} {cfg : Config} {e e' : SimulatorEngine}
    {src : Source} {order : HashOrder} {r : Except String CacheKey}
    (h : DaemonCached seedFrom cfg e src order r e') : e.ledger.Extends e'.ledger := by
  cases h with
  | kept => exact .refl _
  | unwritten => exact .registerAssets _ _ _
  | wrote => exact .registerAssets _ _ _

/-- A remap keeps identities apart. -/
theorem DaemonCached.identities {seedFrom : UInt64 → Rng} {cfg : Config} {e e' : SimulatorEngine}
    {src : Source} {order : HashOrder} {r : Except String CacheKey} (hs : Identities e.ledger)
    (h : DaemonCached seedFrom cfg e src order r e') : Identities e'.ledger := by
  cases h with
  | kept => exact hs
  | unwritten hcontent hunder => exact (remapUnder_registers hs hunder).2
  | wrote hcontent hunder => exact (remapUnder_registers hs hunder).2

/-! ## The plan -/

/-- **The addresses of a plan**: those of the ledger, and any of 10/8 where captures were remapped
without zones. -/
def Planned (unzoned : Prop) (s : Session) (a : Ipv4Addr) : Prop :=
  a ∈ s.usedIps ∨ unzoned ∧ a >>> 24 = 10

theorem Planned.extends {unzoned : Prop} {s s' : Session} (h : s.Extends s') (a : Ipv4Addr)
    (ha : Planned unzoned s a) : Planned unzoned s' a :=
  ha.imp_left fun hused => h.usedIps hused

/-- `thinCapture` only drops. -/
theorem CaptureWithin.thinCapture {plan : Ipv4Addr → Prop} {cap : Capture}
    (h : CaptureWithin plan cap) (cfg : Config) : CaptureWithin plan (thinCapture cfg cap) := by
  unfold TurboLaser.thinCapture dropOversizeFrames dropArpFrames
  dsimp only
  split
  · exact h.retain _
  · exact (h.retain _).retain _

/-- **What a remap writes is within the plan it leaves.** -/
theorem within_remapUnder {seedFrom : UInt64 → Rng} {cfg : Config} {s : Session} {oui : OuiDb}
    {cap written : Capture} {order : HashOrder} {assets : List NewCaptureAsset} {unzoned : Prop}
    (hs : Identities s) (hzones : s.subnets = [] → unzoned)
    (h : remapUnder seedFrom cfg s oui cap order = some (written, assets)) :
    CaptureWithin (Planned unzoned
      (registerAssets s assets (effectiveAssetCap cfg.synthesis.maxAssets))) written := by
  have haccepted := (remapUnder_registers hs h).1
  unfold remapUnder at h
  dsimp only at h
  split at h
  · next hnone =>
    -- without zones the remap is the random one, into a network of 10/8
    have hunzoned := hzones (List.map_eq_nil_iff.mp hnone)
    obtain ⟨rfl, -⟩ := Prod.mk.inj (Option.some.inj h)
    exact ((within_remapCapture _ _ _ _ _).mono fun a ha => .inr ⟨hunzoned, ha⟩).thinCapture cfg
  · next hsome =>
    split at h
    · cases h
    · next hrec =>
      obtain ⟨rfl, rfl⟩ := Prod.mk.inj (Option.some.inj h)
      refine ((within_reconcile hsome hrec).mono fun a ha => .inl ?_).thinCapture cfg
      rw [taken_reconcileCtx hs] at ha
      rcases ha with hused | hplaced
      · exact (Session.Extends.registerAssets s _ _).usedIps hused
      · -- what is placed is registered
        obtain ⟨asset, hasset, rfl⟩ := List.mem_map.mp hplaced
        refine (Session.mem_usedIps _).mpr ⟨asset.record.asset, ?_, rfl⟩
        refine List.mem_append_right _ (List.mem_map_of_mem ?_)
        rw [haccepted.captureHosts]
        exact List.mem_append_right _ (List.mem_map_of_mem hasset)

/-! ## The calls

A tick adds devices, a remap registers hosts and may cache a capture, and a promotion adds its
record. None takes anything away. So the frames in the cache, which ran between addresses of an
earlier ledger, run between addresses of the present one.
-/

/-- **The invariant of the calls**: identities are apart, a plan without zones is known as one, and
the cache is within the plan. -/
structure Planning (unzoned : Prop) (e : DaemonEngine) : Prop where
  identities : Identities e.core.ledger
  zones : e.core.ledger.subnets = [] → unzoned
  cache : ∀ key cap, e.core.cache.lookup key = some cap →
    CaptureWithin (Planned unzoned e.core.ledger) cap

/-- What a call adds to: the ledger and the promotions. -/
structure DaemonEngine.Extends (e e' : DaemonEngine) : Prop where
  ledger : e.core.ledger.Extends e'.core.ledger
  promoted : e.tail.promoted <+: e'.tail.promoted

theorem DaemonEngine.Extends.refl (e : DaemonEngine) : e.Extends e := ⟨.refl _, List.prefix_rfl⟩

theorem DaemonEngine.Extends.trans {e e' e'' : DaemonEngine} (h : e.Extends e')
    (h' : e'.Extends e'') : e.Extends e'' :=
  ⟨h.ledger.trans h'.ledger, h.promoted.trans h'.promoted⟩

section Calls

variable {seedFrom : UInt64 → Rng} {e e' : DaemonEngine} {file file' : LedgerFile}

/-- A promotion leaves the engine alone, and adds its record at the end. -/
theorem daemonPromote_frame {content : Except String Capture} {now : UInt64} {io : Io}
    {out : Option PromotedHost × DaemonEngine × LedgerFile}
    (h : e.maybePromote content now io file = some out) :
    out.2.1.core = e.core ∧ out.2.1.tail.promoted = e.tail.promoted ++ out.1.toList := by
  cases daemonPromote_cases h with
  | idle hidle => exact ⟨rfl, (List.append_nil _).symm⟩
  | missed hmiss hdue hwaits => exact ⟨rfl, (List.append_nil _).symm⟩
  | @made scheduler simRng made hmade hwaits hrecord =>
    obtain ⟨hcore, htail, -⟩ := persistIfDirty_frame
      (DaemonEngine.recorded { e with scheduler, simRng } made now) io file
    exact ⟨hcore, congrArg SessionTail.promoted htail⟩

/-- **Every call extends the ledger and the promotions.** -/
theorem apply_extends {call : DaemonCall} (h : call.apply seedFrom (e, file) = some (e', file')) :
    e.Extends e' := by
  cases call with
  | redTick run io =>
    exact ⟨(redTick_cases (redTick_refines h)).extends,
      (daemonTick_frame h).1 ▸ List.prefix_rfl⟩
  | remap cfg src order evicted io =>
    obtain ⟨⟨r, d, file₁⟩, hremap, hout⟩ := Option.map_eq_some_iff.mp h
    obtain ⟨rfl, rfl⟩ := Prod.mk.inj hout
    exact ⟨(daemonRemap_cached hremap).extends, (daemonRemap_frame hremap).1 ▸ List.prefix_rfl⟩
  | promote content now io =>
    obtain ⟨⟨record, d, file₁⟩, hpromote, hout⟩ := Option.map_eq_some_iff.mp h
    obtain ⟨rfl, rfl⟩ := Prod.mk.inj hout
    obtain ⟨hcore, hpromoted⟩ := daemonPromote_frame hpromote
    dsimp only at hcore hpromoted
    refine ⟨hcore ▸ .refl _, ?_⟩
    rw [hpromoted]
    exact List.prefix_append _ _

/-- **Every call keeps identities apart.** -/
theorem apply_identities {call : DaemonCall} (hs : Identities e.core.ledger)
    (h : call.apply seedFrom (e, file) = some (e', file')) : Identities e'.core.ledger := by
  cases call with
  | redTick run io => exact (redTick_cases (redTick_refines h)).identities hs
  | remap cfg src order evicted io =>
    obtain ⟨⟨r, d, file₁⟩, hremap, hout⟩ := Option.map_eq_some_iff.mp h
    obtain ⟨rfl, rfl⟩ := Prod.mk.inj hout
    exact (daemonRemap_cached hremap).identities hs
  | promote content now io =>
    obtain ⟨⟨record, d, file₁⟩, hpromote, hout⟩ := Option.map_eq_some_iff.mp h
    obtain ⟨rfl, rfl⟩ := Prod.mk.inj hout
    have hcore := (daemonPromote_frame hpromote).1
    dsimp only at hcore
    rwa [hcore]

variable {unzoned : Prop}

theorem Planning.tick (h : Planning unzoned e) {run : Nat} {io : Io}
    (htick : e.redTick run io file = some (e', file')) : Planning unzoned e' := by
  have hticked := redTick_cases (redTick_refines htick)
  have hextends := hticked.extends
  refine ⟨hticked.identities h.identities, fun hnone => h.zones (hextends.subnets hnone),
    fun key cap hlookup => ?_⟩
  rw [hticked.cache] at hlookup
  exact (h.cache key cap hlookup).mono (Planned.extends hextends)

theorem Planning.remap (h : Planning unzoned e) {cfg : Config} {src : Source} {order : HashOrder}
    {r : Except String CacheKey} {core : SimulatorEngine} (hcore : e'.core = core)
    (hremap : DaemonCached seedFrom cfg e.core src order r core) : Planning unzoned e' := by
  have hextends := hremap.extends
  subst hcore
  refine ⟨hremap.identities h.identities, fun hnone => h.zones (hextends.subnets hnone), ?_⟩
  · generalize e'.core = core at hremap hextends
    have hold : ∀ key cap, e.core.cache.lookup key = some cap →
        CaptureWithin (Planned unzoned core.ledger) cap := fun key cap hlookup =>
      (h.cache key cap hlookup).mono (Planned.extends hextends)
    cases hremap with
    | kept => exact hold
    | unwritten => exact hold
    | @wrote cap written assets key dropped hcontent hunder hkept =>
      intro key' cap' hlookup
      have hentry := lookup_of_eraseAll hlookup
      by_cases hkey : key' = key
      · subst hkey
        rw [AList.lookup_insert, Option.some_inj] at hentry
        subst hentry
        exact within_remapUnder h.identities h.zones hunder
      · rw [AList.lookup_insert_ne hkey] at hentry
        exact hold key' cap' hentry

/-- **Every call keeps the cache within the plan.** -/
theorem Planning.apply (h : Planning unzoned e) {call : DaemonCall}
    (happly : call.apply seedFrom (e, file) = some (e', file')) : Planning unzoned e' := by
  cases call with
  | redTick run io => exact h.tick happly
  | remap cfg src order evicted io =>
    obtain ⟨⟨r, d, file₁⟩, hremap, hout⟩ := Option.map_eq_some_iff.mp happly
    obtain ⟨rfl, rfl⟩ := Prod.mk.inj hout
    exact h.remap rfl (daemonRemap_cached hremap)
  | promote content now io =>
    obtain ⟨⟨record, d, file₁⟩, hpromote, hout⟩ := Option.map_eq_some_iff.mp happly
    obtain ⟨rfl, rfl⟩ := Prod.mk.inj hout
    have hcore := (daemonPromote_frame hpromote).1
    dsimp only at hcore
    exact ⟨hcore ▸ h.identities, hcore ▸ h.zones, hcore ▸ h.cache⟩

end Calls

end TurboLaser
