import TurboLaser.Proto.OutputSafety
import TurboLaser.Simulate.Growth

/-!
# Registering the hosts of a capture (simulate/engine.rs)

What `remap_into_session` computes from the ledger before it reconciles a capture, and what it does
with the assets the reconcile returns: each becomes a record of the capture-host registry.

The reconcile works on copies: the addresses and MACs in use, the registered hosts and their
addresses, the MACs of devices, the zones, and how many more assets the cap allows. Each copy is
derived from the ledger by a function of its own below, and `registers` is what their agreement is
good for.

- `reconcileCtx`: all that a reconcile is told; `taken_reconcileCtx`: it takes for used what the
  ledger has used;
- `lookup_originMap`: the registry as a map finds a host's record, when no origin is registered
  twice;
- `Registering`: the invariant: after every turn, registering the assets so far leaves a ledger that
  has used what the reconcile has;
- `registers`: a reconcile and the registrations after it grow the ledger by the returned assets,
  every one of which is accepted.
-/

namespace TurboLaser

open Lib Relation

/-- The assigned address of every registered host, by the address it had. -/
def originMap (hosts : List CaptureHostRecord) : HostMap :=
  hosts.foldl (fun map h => map.insert h.originIp h.ip) ∅

/-- The MAC of every device, by its address. -/
def deviceMacs (devices : List DeviceRecord) : MacMap :=
  devices.foldl (fun macs d => macs.insert d.ip d.mac) ∅

namespace Session

/-- `registered_origins`. -/
def registeredOrigins (s : Session) : HostMap := originMap s.captureHosts

/-- `device_mac_map`. -/
def deviceMacMap (s : Session) : MacMap := deviceMacs s.devices

/-- One of `zone_targets`: a zone with the addresses of its devices and the protocol
of the first. -/
def zoneTarget (s : Session) (z : SubnetRecord) : ZoneTarget :=
  let devices := s.devices.filter fun d => decide (d.subnetCidr = z.cidr)
  { net := z.cidr, vendor := z.vendor, purdueLevel := z.purdueLevel,
    protocol := devices.head?.map DeviceRecord.protocol,
    reserved := (devices.map DeviceRecord.ip).toFinset }

/-- `zone_targets`. -/
def zoneTargets (s : Session) : List ZoneTarget := s.subnets.map s.zoneTarget

/-- What `remap_into_session` reconciles a capture with. -/
def reconcileCtx (s : Session) (affinity : ZoneAffinity) (remapMac : Bool) (capAssets : Nat) :
    ReconcileCtx :=
  { zones := s.zoneTargets
    affinity
    seed := s.seed
    remapMac
    registered := s.registeredOrigins
    deviceMacs := s.deviceMacMap
    reservedMacs := s.usedMacs
    budget := capAssets - s.totalWireAssets }

end Session

/-- The record a new asset is registered under. -/
def NewCaptureAsset.record (a : NewCaptureAsset) : CaptureHostRecord :=
  { originIp := a.origin, ip := a.ip, mac := a.mac, vendor := a.vendor, protocol := a.protocol,
    purdueLevel := a.purdueLevel, subnetCidr := a.subnetCidr, hostname := none,
    assetType := none }

/-- Register the assets a reconcile returned; one that is refused is dropped. -/
def registerAssets (s : Session) (assets : List NewCaptureAsset) (cap : Nat) : Session :=
  assets.foldl (fun s a => (s.registerCaptureHost a.record cap).getD s) s

/-- None of the assets is refused. -/
def AllAccepted (s : Session) (cap : Nat) : List NewCaptureAsset → Prop
  | [] => True
  | a :: assets =>
    ∃ s', s.registerCaptureHost a.record cap = some s' ∧ AllAccepted s' cap assets

theorem registerCaptureHost_eq_some {s s' : Session} {rec : CaptureHostRecord} {cap : Nat} :
    s.registerCaptureHost rec cap = some s' ↔
      s.totalWireAssets < cap ∧ rec.ip ∉ s.captureHosts.map CaptureHostRecord.ip ∧
        s' = s.pushHost rec := by
  rw [Session.registerCaptureHost, Option.ite_none_left_eq_some, not_or, Nat.not_le,
    Option.some_inj, and_assoc, eq_comm]

/-- An asset may be appended that the ledger accepts. -/
theorem AllAccepted.snoc {s s' : Session} {cap : Nat} {assets : List NewCaptureAsset}
    {a : NewCaptureAsset} (h : AllAccepted s cap assets)
    (ha : (registerAssets s assets cap).registerCaptureHost a.record cap = some s') :
    AllAccepted s cap (assets ++ [a]) ∧ registerAssets s (assets ++ [a]) cap = s' := by
  induction assets generalizing s with
  | nil =>
    refine ⟨⟨s', ha, trivial⟩, ?_⟩
    show (s.registerCaptureHost a.record cap).getD s = s'
    rw [show s.registerCaptureHost a.record cap = some s' from ha]
    rfl
  | cons b assets ih =>
    obtain ⟨s₁, hb, hrest⟩ := h
    have hstep : registerAssets s (b :: assets) cap = registerAssets s₁ assets cap := by
      rw [registerAssets, List.foldl_cons, hb]
      rfl
    rw [hstep] at ha
    obtain ⟨hall, hend⟩ := ih hrest ha
    refine ⟨⟨s₁, hb, hall⟩, ?_⟩
    rw [← hend, List.cons_append, registerAssets, List.foldl_cons, hb]
    rfl

/-- Accepted assets are records of the registry, in order, and the rest stays. -/
theorem AllAccepted.captureHosts {s : Session} {cap : Nat} {assets : List NewCaptureAsset}
    (h : AllAccepted s cap assets) :
    (registerAssets s assets cap).captureHosts =
      s.captureHosts ++ assets.map NewCaptureAsset.record := by
  induction assets generalizing s with
  | nil => exact (List.append_nil _).symm
  | cons a assets ih =>
    obtain ⟨s', ha, hrest⟩ := h
    rw [registerAssets, List.foldl_cons, ha]
    obtain ⟨-, -, rfl⟩ := registerCaptureHost_eq_some.mp ha
    refine (ih hrest).trans ?_
    rw [Session.pushHost, List.append_assoc]
    rfl

/-- Registering touches the registry only. -/
theorem registerAssets_frame (s : Session) (assets : List NewCaptureAsset) (cap : Nat) :
    (registerAssets s assets cap).devices = s.devices ∧
      (registerAssets s assets cap).subnets = s.subnets ∧
      (registerAssets s assets cap).seed = s.seed := by
  induction assets generalizing s with
  | nil => exact ⟨rfl, rfl, rfl⟩
  | cons a assets ih =>
    rw [registerAssets, List.foldl_cons]
    obtain ⟨hdevices, hsubnets, hseed⟩ := ih ((s.registerCaptureHost a.record cap).getD s)
    rw [registerAssets] at hdevices hsubnets hseed
    rw [hdevices, hsubnets, hseed]
    cases hreg : s.registerCaptureHost a.record cap with
    | none => exact ⟨rfl, rfl, rfl⟩
    | some s' =>
      obtain ⟨-, -, rfl⟩ := registerCaptureHost_eq_some.mp hreg
      exact ⟨rfl, rfl, rfl⟩

/-! ## What the reconcile is told -/

theorem foldl_originMap (hosts : List CaptureHostRecord) (map : HostMap) (a : Ipv4Addr) :
    (hosts.foldl (fun map h => map.insert h.originIp h.ip) map).lookup a =
      ((hosts.reverse.find? fun h => decide (h.originIp = a)).map CaptureHostRecord.ip).or
        (map.lookup a) := by
  induction hosts generalizing map with
  | nil => rfl
  | cons h hosts ih =>
    rw [List.foldl_cons, ih, List.reverse_cons, List.find?_append]
    by_cases ha : h.originIp = a
    · subst ha
      rw [AList.lookup_insert]
      simp
    · rw [AList.lookup_insert_ne (Ne.symm ha)]
      simp [ha]

/-- **The registry as a map**: with no origin registered twice, a host is mapped to the
address its record has. -/
theorem lookup_originMap {hosts : List CaptureHostRecord}
    (hnodup : (hosts.map CaptureHostRecord.originIp).Nodup) {a ip : Ipv4Addr} :
    (originMap hosts).lookup a = some ip ↔ ∃ h ∈ hosts, h.originIp = a ∧ h.ip = ip := by
  rw [originMap, foldl_originMap, AList.lookup_empty, Option.or_none, Option.map_eq_some_iff]
  constructor
  · rintro ⟨h, hfind, rfl⟩
    have horigin := List.find?_some hfind
    rw [decide_eq_true_iff] at horigin
    exact ⟨h, List.mem_reverse.mp (List.mem_of_find?_eq_some hfind), horigin, rfl⟩
  · rintro ⟨h, hmem, rfl, rfl⟩
    cases hfind : hosts.reverse.find? fun h' => decide (h'.originIp = h.originIp) with
    | none =>
      have := List.find?_eq_none.mp hfind h (List.mem_reverse.mpr hmem)
      rw [decide_eq_true_iff] at this
      exact absurd rfl this
    | some h' =>
      have horigin := List.find?_some hfind
      rw [decide_eq_true_iff] at horigin
      have hmem' := List.mem_reverse.mp (List.mem_of_find?_eq_some hfind)
      exact ⟨h', rfl, by rw [List.inj_on_of_nodup_map hnodup hmem' hmem horigin]⟩

theorem lookup_originMap_eq_none {hosts : List CaptureHostRecord} {a : Ipv4Addr} :
    (originMap hosts).lookup a = none ↔ a ∉ hosts.map CaptureHostRecord.originIp := by
  rw [originMap, foldl_originMap, AList.lookup_empty, Option.or_none, Option.map_eq_none_iff,
    List.find?_eq_none]
  simp only [List.mem_reverse, decide_eq_true_iff, List.mem_map, not_exists, not_and]

/-- The addresses the registry hands out are those of its records. -/
theorem values_originMap {hosts : List CaptureHostRecord}
    (hnodup : (hosts.map CaptureHostRecord.originIp).Nodup) :
    (originMap hosts).values = (hosts.map CaptureHostRecord.ip).toFinset := by
  ext ip
  rw [List.mem_toFinset, List.mem_map]
  constructor
  · intro h
    unfold HostMap.values at h
    obtain ⟨e, he, rfl⟩ := List.mem_map.mp (List.mem_toFinset.mp h)
    obtain ⟨h, hmem, -, hip⟩ := (lookup_originMap hnodup).mp (AList.mem_lookup_iff.mpr he)
    exact ⟨h, hmem, hip⟩
  · rintro ⟨h, hmem, rfl⟩
    exact mem_values_of_lookup ((lookup_originMap hnodup).mpr ⟨h, hmem, rfl, rfl⟩)

theorem mem_deviceMacs {devices : List DeviceRecord} {ip : Ipv4Addr} :
    ip ∈ deviceMacs devices ↔ ip ∈ devices.map DeviceRecord.ip := by
  have hfold : ∀ (macs : MacMap), ip ∈ devices.foldl (fun macs d => macs.insert d.ip d.mac) macs ↔
      ip ∈ macs ∨ ip ∈ devices.map DeviceRecord.ip := by
    intro macs
    induction devices generalizing macs with
    | nil => simp
    | cons d devices ih =>
      rw [List.foldl_cons, ih, AList.mem_insert, List.map_cons, List.mem_cons]
      tauto
  rw [deviceMacs, hfold]
  exact or_iff_right (AList.notMem_empty ip)

/-- Every device is reserved in its zone. -/
theorem allReserved_zoneTargets {s : Session} (hzones : ∀ d ∈ s.devices, d.subnetCidr ∈ s.cidrs) :
    allReserved s.zoneTargets = (s.devices.map DeviceRecord.ip).toFinset := by
  ext ip
  rw [mem_allReserved, List.mem_toFinset, List.mem_map]
  constructor
  · rintro ⟨z, hz, hip⟩
    obtain ⟨rec, -, rfl⟩ := List.mem_map.mp hz
    obtain ⟨d, hd, rfl⟩ := List.mem_map.mp (List.mem_toFinset.mp hip)
    exact ⟨d, (List.mem_filter.mp hd).1, rfl⟩
  · rintro ⟨d, hd, rfl⟩
    obtain ⟨rec, hrec, hcidr⟩ := List.mem_map.mp (hzones d hd)
    refine ⟨s.zoneTarget rec, List.mem_map_of_mem hrec, ?_⟩
    exact List.mem_toFinset.mpr (List.mem_map_of_mem
      (List.mem_filter.mpr ⟨hd, decide_eq_true hcidr.symm⟩))

/-- **What the reconcile takes for used is what the ledger has used.** -/
theorem taken_reconcileCtx {s : Session} (hs : Identities s) (affinity : ZoneAffinity)
    (remapMac : Bool) (capAssets : Nat) :
    (initState (s.reconcileCtx affinity remapMac capAssets)).taken = s.usedIps := by
  have hdevices : ∀ d ∈ s.devices, d.subnetCidr ∈ s.cidrs := fun d hd =>
    (hs.inZone d.asset (List.mem_append_left _ (List.mem_map_of_mem hd))).1
  show allReserved s.zoneTargets ∪ (originMap s.captureHosts).values = s.usedIps
  rw [allReserved_zoneTargets hdevices, values_originMap hs.origins, Session.usedIps,
    Session.assets, List.map_append, List.toFinset_append, List.map_map, List.map_map]
  rfl

/-! ## A reconcile grows the ledger

The loop over the hosts does not touch the ledger; its assets are registered afterwards, one by one,
and each registration may be refused. That none is refused is shown along the loop: an asset at an
open slot is at an address and under a MAC that neither the ledger nor an earlier asset has.
-/

/-- No device is added. -/
abbrev NoDevice : DeviceRecord → Prop := fun _ => False

/-- What the host loop keeps, seen from the ledger its assets are registered in. -/
structure Registering (s : Session) (cap : Nat) (host : CaptureHostRecord → Prop)
    (ctx : ReconcileCtx) (done : List Job) (st : PlaceState) : Prop where
  accepted : AllAccepted s cap st.newAssets
  grows : Grows NoDevice host s (registerAssets s st.newAssets cap)
  taken : st.taken = (registerAssets s st.newAssets cap).usedIps
  usedMacs : st.usedMacs = (registerAssets s st.newAssets cap).usedMacs
  budget : st.budget = cap - (registerAssets s st.newAssets cap).totalWireAssets
  origins : ∀ a ∈ st.newAssets, (∃ j ∈ done, j.host = a.origin) ∧
    ctx.registered.lookup a.origin = none

section Step

variable {s : Session} {cap : Nat} {host : CaptureHostRecord → Prop} {ctx : ReconcileCtx}
  {done : List Job} {st : PlaceState} {j : Job} (h : Registering s cap host ctx done st)

include h

/-- The ledger accepts a host at an open slot. -/
theorem Registering.accepts {ip : Ipv4Addr} (hslot : openSlot st j = some ip) (mac : Mac) :
    (registerAssets s st.newAssets cap).registerCaptureHost (j.asset ip mac).record cap =
      some ((registerAssets s st.newAssets cap).pushHost (j.asset ip mac).record) := by
  obtain ⟨hbudget, hip, -⟩ := openSlot_spec hslot
  rw [h.budget] at hbudget
  rw [h.taken] at hip
  refine registerCaptureHost_eq_some.mpr ⟨by omega, fun hmem => ?_, rfl⟩
  obtain ⟨r, hr, rfl⟩ := List.mem_map.mp hmem
  exact hip (Session.mem_usedIps _ |>.mpr
    ⟨r.asset, List.mem_append_right _ (List.mem_map_of_mem hr), rfl⟩)

/-- No asset so far stands for the host of a later job. -/
theorem Registering.notMem_origins (hregistered : ctx.registered = s.registeredOrigins)
    (hnew : j.host ∉ done.map Job.host) (hreg : ctx.registered.lookup j.host = none) :
    j.host ∉
      (registerAssets s st.newAssets cap).captureHosts.map CaptureHostRecord.originIp := by
  rw [h.accepted.captureHosts, List.map_append, List.mem_append, not_or]
  constructor
  · rw [hregistered] at hreg
    exact lookup_originMap_eq_none.mp hreg
  · intro hmem
    rw [List.map_map] at hmem
    obtain ⟨a, ha, heq⟩ := List.mem_map.mp hmem
    obtain ⟨⟨j', hj', hja⟩, -⟩ := h.origins a ha
    exact hnew (List.mem_map.mpr ⟨j', hj', hja.trans heq⟩)

/-- To register it grows the ledger. -/
theorem Registering.grow (hregistered : ctx.registered = s.registeredOrigins)
    (hzones : ctx.zones = s.zoneTargets) (hzone : j.zone ∈ ctx.zones)
    (hnew : j.host ∉ done.map Job.host) (hreg : ctx.registered.lookup j.host = none)
    {ip : Ipv4Addr} (hslot : openSlot st j = some ip) {mac : Mac} (hmac : mac ∉ st.usedMacs)
    (hput : host (j.asset ip mac).record) :
    Grow NoDevice host (registerAssets s st.newAssets cap)
      ((registerAssets s st.newAssets cap).pushHost (j.asset ip mac).record) := by
  obtain ⟨-, hip, hin⟩ := openSlot_spec hslot
  obtain ⟨-, hsubnets, -⟩ := registerAssets_frame s st.newAssets cap
  rw [h.taken] at hip
  rw [h.usedMacs] at hmac
  have hcidr : j.zone.net ∈ (registerAssets s st.newAssets cap).cidrs := by
    rw [Session.cidrs, hsubnets]
    rw [hzones] at hzone
    obtain ⟨z, hz, hzj⟩ := List.mem_map.mp hzone
    rw [← hzj]
    exact List.mem_map_of_mem hz
  exact .captureHost hcidr hin hip hmac (h.notMem_origins hregistered hnew hreg) hput

theorem Registering.origins_append :
    ∀ a ∈ st.newAssets, (∃ j' ∈ done ++ [j], j'.host = a.origin) ∧
      ctx.registered.lookup a.origin = none := by
  intro a ha
  obtain ⟨⟨j', hj', hja⟩, hnone⟩ := h.origins a ha
  exact ⟨⟨j', List.mem_append_left _ hj', hja⟩, hnone⟩

/-- **One turn registers at most one more asset.** -/
theorem Registering.step {pl : Placement} (hregistered : ctx.registered = s.registeredOrigins)
    (hzones : ctx.zones = s.zoneTargets) (hzone : j.zone ∈ ctx.zones)
    (hnew : j.host ∉ done.map Job.host)
    (hput : ctx.registered.lookup j.host = none →
      ∀ ip mac, openSlot st j = some ip → host (j.asset ip mac).record)
    (hchosen : Chosen ctx st j pl) :
    Registering s cap host ctx (done ++ [j]) (st.record j pl) := by
  cases hchosen with
  | @fresh ip mac salt hreg hslot hmac =>
    have hstep := h.grow hregistered hzones hzone hnew hreg hslot (freshMac_spec hmac).1
      (hput hreg ip mac hslot)
    obtain ⟨hall, hend⟩ := h.accepted.snoc (h.accepts hslot mac)
    have hperm : ((registerAssets s st.newAssets cap).pushHost
        (j.asset ip mac).record).assets.Perm
          ((j.asset ip mac).record.asset :: (registerAssets s st.newAssets cap).assets) := by
      rw [Session.assets_pushHost]
      exact List.perm_append_singleton _ _
    refine ⟨hall, ?_, ?_, ?_, ?_, ?_⟩
    · show Grows NoDevice host s (registerAssets s (st.newAssets ++ [j.asset ip mac]) cap)
      rw [hend]
      exact h.grows.tail hstep
    · show insert ip st.taken =
        (registerAssets s (st.newAssets ++ [j.asset ip mac]) cap).usedIps
      rw [hend, h.taken, Session.usedIps, Session.usedIps,
        List.toFinset_eq_of_perm _ _ (hperm.map _), List.map_cons, List.toFinset_cons]
      rfl
    · show insert mac st.usedMacs =
        (registerAssets s (st.newAssets ++ [j.asset ip mac]) cap).usedMacs
      rw [hend, h.usedMacs, Session.usedMacs, Session.usedMacs,
        List.toFinset_eq_of_perm _ _ (hperm.map _), List.map_cons, List.toFinset_cons]
      rfl
    · show st.budget - 1 =
        cap - (registerAssets s (st.newAssets ++ [j.asset ip mac]) cap).totalWireAssets
      have htotal : ((registerAssets s st.newAssets cap).pushHost
          (j.asset ip mac).record).totalWireAssets =
            (registerAssets s st.newAssets cap).totalWireAssets + 1 := by
        rw [Session.totalWireAssets, Session.pushHost, List.length_append, ← Nat.add_assoc]
        rfl
      rw [hend, h.budget, htotal]
      omega
    · intro a ha
      obtain hold | hlast := List.mem_append.mp ha
      · exact h.origins_append a hold
      · rw [List.mem_singleton.mp hlast]
        exact ⟨⟨j, List.mem_append_right _ (List.mem_singleton_self _), rfl⟩, hreg⟩
  -- the other placements register nothing
  | reuse => exact ⟨h.accepted, h.grows, h.taken, h.usedMacs, h.budget, h.origins_append⟩
  | ride => exact ⟨h.accepted, h.grows, h.taken, h.usedMacs, h.budget, h.origins_append⟩
  | unmapped => exact ⟨h.accepted, h.grows, h.taken, h.usedMacs, h.budget, h.origins_append⟩

end Step

/-- **A reconcile and the registrations after it grow the ledger by accepted assets.** -/
theorem registers {s : Session} {cap : Nat} {host : CaptureHostRecord → Prop}
    {affinity : ZoneAffinity} {remapMac : Bool} {groups : List CaptureGroup} {st : PlaceState}
    (hs : Identities s) (hgroups : (groups.flatMap CaptureGroup.hosts).Nodup)
    (hput : EveryJob (s.reconcileCtx affinity remapMac cap)
      (fun st j => s.registeredOrigins.lookup j.host = none →
        ∀ ip mac, openSlot st j = some ip → host (j.asset ip mac).record)
      (jobs (s.reconcileCtx affinity remapMac cap) groups)
      (initState (s.reconcileCtx affinity remapMac cap)))
    (hrun : placeAll (s.reconcileCtx affinity remapMac cap)
      (jobs (s.reconcileCtx affinity remapMac cap) groups)
      (initState (s.reconcileCtx affinity remapMac cap)) = some st) :
    AllAccepted s cap st.newAssets ∧ Grows NoDevice host s (registerAssets s st.newAssets cap) := by
  set ctx := s.reconcileCtx affinity remapMac cap with hctx
  have hzone : EveryJob ctx (fun _ j => j.zone ∈ ctx.zones) (jobs ctx groups) (initState ctx) :=
    everyStep_of_forall (fun _ _ hj => zone_mem_of_mem_jobs hj) (initState ctx)
  have hinit : Registering s cap host ctx [] (initState ctx) :=
    ⟨trivial, .refl, taken_reconcileCtx hs _ _ _, rfl, rfl, nofun⟩
  have hend := placeAll_induct
    (P := fun done st => (done.map Job.host).Nodup → Registering s cap host ctx done st)
    (fun done st j pl h hg hpl hnodup => by
      rw [List.map_append, List.nodup_append'] at hnodup
      exact (h hnodup.1).step rfl rfl hg.2 (List.disjoint_singleton.mp hnodup.2.2) hg.1
        (choosePlacement_cases hpl))
    (fun _ => hinit) (hput.and hzone) hrun
  rw [List.nil_append] at hend
  have hfinal := hend (nodup_jobs hgroups)
  exact ⟨hfinal.accepted, hfinal.grows⟩

end TurboLaser
