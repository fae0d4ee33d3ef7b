import TurboLaser.Proto.Settled
import TurboLaser.Simulate.Identity

/-!
# The identity of a capture host

What a reconcile told the ledger, and what the ledger tells the next reconcile.

A capture host gets its address and its MAC in the run that places it. Both go to
the ledger. The address comes back to the next run through the registry; the MAC
does not: the next run is told the MACs of the *devices* only, and derives the MAC
of a host from its address anew. What it derives is the natural MAC, so a MAC that
was perturbed off a collision is on the wire in the first run and in the ledger
ever after, and nowhere else.

- `stable_identity`: the second run always uses the same map and places no host; the
  frames are the same, and carry the MACs on record, when no MAC of a host of the
  capture was perturbed. That is also necessary as soon as every host of the capture
  is mapped and every registered one of them is heard (`AllHeard`).
- `salted_identity_changes`: two hosts of one zone with the same natural MAC. The
  second is recorded with a perturbed MAC, which its frames lose in the second run.
-/

namespace TurboLaser

open Lib

/-! ## The registry after a run -/

/-- **The ledger tells the next reconcile just that.** -/
theorem reconcileCtx_registerAssets {s : Session} {cap : Nat} {assets : List NewCaptureAsset}
    (h : AllAccepted s cap assets) (affinity : ZoneAffinity) (remapMac : Bool) :
    (registerAssets s assets cap).reconcileCtx affinity remapMac cap =
      (s.reconcileCtx affinity remapMac cap).afterRegistering assets := by
  obtain ⟨hdevices, hsubnets, hseed⟩ := registerAssets_frame s assets cap
  have hhosts := h.captureHosts
  -- registration adds hosts: it changes what is computed from these, and nothing else
  have htargets : (registerAssets s assets cap).zoneTargets = s.zoneTargets := by
    have htarget : (registerAssets s assets cap).zoneTarget = s.zoneTarget := by
      funext z
      rw [Session.zoneTarget, hdevices]
      rfl
    rw [Session.zoneTargets, hsubnets, htarget]
    rfl
  have horigins : (registerAssets s assets cap).registeredOrigins =
      enterAssets s.registeredOrigins assets := by
    rw [Session.registeredOrigins, originMap, hhosts, List.foldl_append, List.foldl_map]
    rfl
  have hmacs : (registerAssets s assets cap).usedMacs =
      s.usedMacs ∪ (assets.map NewCaptureAsset.mac).toFinset := by
    rw [Session.usedMacs, Session.usedMacs, Session.assets, Session.assets, hdevices, hhosts]
    simp only [List.map_append, List.toFinset_append, List.map_map, Finset.union_assoc]
    rfl
  have htotal : (registerAssets s assets cap).totalWireAssets =
      s.totalWireAssets + assets.length := by
    rw [Session.totalWireAssets, hdevices, hhosts, List.length_append, List.length_map,
      ← Nat.add_assoc]
    rfl
  rw [Session.reconcileCtx, htargets, hseed, horigins, Session.deviceMacMap, hdevices, hmacs,
    htotal, ← Nat.sub_sub]
  rfl

/-! ## The MACs of the records

A record is kept by the wire when every frame of its host is sent from its address and with its MAC.
So the frames of a run are looked at beside the captured frames they were, and asked for two things:
the sender's address, which the map gives, and the sender's MAC, which the overrides of that run
give. A second run builds its overrides from the devices alone, and so a record that holds anything
but the natural MAC of its address is contradicted by it.
-/

/-- The host a frame comes from. -/
def frameSender (buf : List UInt8) : Option Ipv4Addr := (addrOffsets buf).head?.map (be32 buf)

/-- The frame comes from this address and names its sender by this MAC: as the Ethernet
source, and in an ARP frame as the sender's hardware address. -/
def SentWith (ip : Ipv4Addr) (mac : Mac) (buf : List UInt8) : Prop :=
  frameSender buf = some ip ∧ macAt buf 6 = mac ∧
    ∀ l, parseLayout buf = some l → l.l3Kind = .other → macAt buf (l.l3 + 8) = mac

/-- The frames a run of a reconcile lets out, each beside the captured frame it was: what
the guard and the leak filter keep, rewritten through the map of the run and the overrides
it ended with. -/
def sentFrames (cap : Capture) (groups : List CaptureGroup) (ctx : ReconcileCtx) :
    Option (List (OwnedPacket × OwnedPacket)) :=
  (placeAll ctx (jobs ctx groups) (initState ctx)).map fun st =>
    let macMap := st.resolved ∪ ctx.deviceMacs
    (cap.packets.filter (survives st.map macMap ctx.seed ctx.remapMac)).map fun p =>
      (p, { p with data := applyHostMapFrame st.map macMap ctx.seed ctx.remapMac p.data })

/-- With zones, these are the frames the reconcile returns. -/
theorem sentFrames_of_reconcile {cap out : Capture} {groups : List CaptureGroup}
    {ctx : ReconcileCtx} {summary : RemapSummary} {assets : List NewCaptureAsset}
    (hzones : ctx.zones ≠ [])
    (h : reconcileCaptureIntoZones cap groups ctx = some (out, summary, assets)) :
    ∃ sent, sentFrames cap groups ctx = some sent ∧ out.packets = sent.map Prod.snd := by
  obtain ⟨st, hrun, -, rfl⟩ := reconcile_run hzones h
  refine ⟨_, by rw [sentFrames, hrun]; rfl, ?_⟩
  rw [rewriteAndFilter_packets, List.map_map]
  rfl

/-- Every frame of a registered host goes out from the address and with the MAC of its record. -/
def CarriesRecords (records : List CaptureHostRecord) (sent : List (OwnedPacket × OwnedPacket)) :
    Prop :=
  ∀ pq ∈ sent, ∀ r ∈ records, frameSender pq.1.data = some r.originIp →
    SentWith r.ip r.mac pq.2.data

/-- A frame of a mapped host is sent with the plan MAC of the host's address. -/
theorem sentWith_of_mapped {map : HostMap} {macMap : MacMap} {seed : UInt64} {buf : List UInt8}
    {a ip : Ipv4Addr} (hsender : frameSender buf = some a) (hmap : map.lookup a = some ip) :
    SentWith ip (macFor macMap seed ip) (applyHostMapFrame map macMap seed true buf) := by
  have himage : image map a = ip := by
    rw [image, hmap]
    rfl
  unfold frameSender at hsender
  obtain ⟨off, hhead, rfl⟩ := Option.map_eq_some_iff.mp hsender
  cases hl : parseLayout buf with
  | none =>
    rw [addrOffsets, hl] at hhead
    cases hhead
  | some l =>
    rw [addrOffsets, hl] at hhead
    dsimp only at hhead
    cases hk : l.l3Kind with
    | ipv4 =>
      rw [if_pos hk] at hhead
      cases hhead
      have hr := rewriteIpv4_spec map macMap seed true hl hk
      -- the sender is read and rewritten at one and the same offset
      have hlayout := hr.layout hl hk
      rw [applyHostMapFrame_ipv4 hl hk]
      refine ⟨?_, ?_, fun l' hl' hother => ?_⟩
      · rw [frameSender, addrOffsets, hlayout]
        dsimp only
        rw [if_pos hk, List.head?_cons, Option.map_some, hr.src, himage]
      · rw [hr.srcMac rfl, hmap]
        rfl
      · rw [hlayout] at hl'
        cases hl'
        rw [hk] at hother
        cases hother
    | other =>
      have hne : ¬ l.l3Kind = .ipv4 := by
        rw [hk]
        decide
      rw [if_neg hne] at hhead
      split at hhead
      · next harp =>
        cases hhead
        have hl3 := (parseLayout_l3 hl).1
        have hr := remapArpAddrs_spec map macMap seed true hl3 harp
        have hlayout := hr.layout hl hk
        rw [applyHostMapFrame_other hl hk]
        refine ⟨?_, ?_, fun l' hl' _ => ?_⟩
        · rw [frameSender, addrOffsets, hlayout]
          dsimp only
          rw [if_neg hne, if_pos ((isArpIpv4_congr hl3 hr.agree).trans harp), List.head?_cons,
            Option.map_some, hr.spa, himage]
        · rw [hr.srcMac rfl, hmap]
          rfl
        · rw [hlayout] at hl'
          cases hl'
          rw [hr.sha rfl, hmap]
          rfl
      · cases hhead

/-- The sender of a frame that passes the guard is a host of the capture. -/
theorem sender_mem_captureHosts {cap : Capture} {map : HostMap} {p : OwnedPacket} {a : Ipv4Addr}
    (hp : p ∈ cap.packets) (hkeys : ∀ b ∈ map, isRemappable b = true)
    (hpass : passesGuard map p.data = true) (hsender : frameSender p.data = some a) :
    a ∈ captureHosts cap := by
  obtain ⟨srcOff, dstOff, hoffs, hfit, -, hsrc, -⟩ := addrs_of_passesGuard hpass
  rw [frameSender, hoffs] at hsender
  cases hsender
  refine mem_captureHosts hp (by rw [hoffs]; exact List.mem_cons_self) hfit ?_
  unfold srcIsPlan at hsrc
  rw [Bool.and_eq_true] at hsrc
  have hrem := hsrc.1
  by_cases ha : be32 p.data srcOff ∈ map
  · exact hkeys _ ha
  · rwa [image, AList.lookup_eq_none.mpr ha] at hrem

/-- What the engine tells a reconcile about the ledger: the registry is that of the
records, overrides are for devices of the zones, and without zones nothing is registered. -/
structure LedgerFits (ctx : ReconcileCtx) (records : List CaptureHostRecord) : Prop where
  registered : ctx.registered = originMap records
  origins : (records.map CaptureHostRecord.originIp).Nodup
  devices : ∀ ip ∈ ctx.deviceMacs, ip ∈ allReserved ctx.zones
  zones : ctx.zones = [] → records = []

/-- The record of each host of the capture has the MAC the plan gives its address. Records
of other hosts say nothing about the frames of this capture, and are left alone. -/
def NaturalRecords (ctx : ReconcileCtx) (cap : Capture) (records : List CaptureHostRecord) : Prop :=
  ∀ r ∈ records, r.originIp ∈ captureHosts cap → r.mac = macFor ctx.deviceMacs ctx.seed r.ip

instance (ctx : ReconcileCtx) (cap : Capture) (records : List CaptureHostRecord) :
    Decidable (NaturalRecords ctx cap records) :=
  inferInstanceAs (Decidable (∀ r ∈ records, _ → _))

/-- **A ledger tells the reconcile what fits.** -/
theorem Identities.ledgerFits {s : Session} (hs : Identities s) (affinity : ZoneAffinity)
    (remapMac : Bool) (capAssets : Nat) :
    LedgerFits (s.reconcileCtx affinity remapMac capAssets) s.captureHosts := by
  have hdevices : ∀ d ∈ s.devices, d.subnetCidr ∈ s.cidrs := fun d hd =>
    (hs.inZone d.asset (List.mem_append_left _ (List.mem_map_of_mem hd))).1
  refine ⟨rfl, hs.origins, fun ip hip => ?_, fun hzones => ?_⟩
  · rw [show (s.reconcileCtx affinity remapMac capAssets).zones = s.zoneTargets from rfl,
      allReserved_zoneTargets hdevices, List.mem_toFinset]
    exact mem_deviceMacs.mp hip
  · rw [List.eq_nil_iff_forall_not_mem]
    intro r hr
    have hzone := (hs.inZone r.asset (List.mem_append_right _ (List.mem_map_of_mem hr))).1
    have hnil : s.subnets = [] := List.map_eq_nil_iff.mp hzones
    rw [Session.cidrs, hnil] at hzone
    exact absurd hzone List.not_mem_nil

/-- **The registry of a ledger is apart.** -/
theorem Identities.registryApart {s : Session} (hs : Identities s) (affinity : ZoneAffinity)
    (remapMac : Bool) (capAssets : Nat) :
    RegistryApart (s.reconcileCtx affinity remapMac capAssets).zones
      (s.reconcileCtx affinity remapMac capAssets).registered := by
  have hdevices : ∀ d ∈ s.devices, d.subnetCidr ∈ s.cidrs := fun d hd =>
    (hs.inZone d.asset (List.mem_append_left _ (List.mem_map_of_mem hd))).1
  have hips := hs.ips
  rw [Session.assets, List.map_append, List.map_map, List.map_map, List.nodup_append'] at hips
  refine ⟨fun a b ip ha hb => ?_, fun ip hip hdevice => ?_⟩
  · obtain ⟨r, hr, rfl, hrip⟩ := (lookup_originMap hs.origins).mp ha
    obtain ⟨r', hr', rfl, hrip'⟩ := (lookup_originMap hs.origins).mp hb
    have hsame : r = r' :=
      List.inj_on_of_nodup_map (f := fun h : CaptureHostRecord => h.asset.ip) hips.2.1 hr hr'
        (hrip.trans hrip'.symm)
    rw [hsame]
  · have hrecord : ip ∈ s.captureHosts.map CaptureHostRecord.ip := by
      rw [← List.mem_toFinset, ← values_originMap hs.origins]
      exact hip
    rw [show (s.reconcileCtx affinity remapMac capAssets).zones = s.zoneTargets from rfl,
      allReserved_zoneTargets hdevices, List.mem_toFinset] at hdevice
    exact hips.2.2 hdevice hrecord

/-- A second reconcile of the capture, with what the first one returned registered, uses
the same map, places no host and returns the same frames; and in both runs each frame of a
registered host carries the MAC of its record. -/
def StableIdentity (cap : Capture) (groups : List CaptureGroup) (ctx : ReconcileCtx)
    (records : List CaptureHostRecord) : Prop :=
  ∀ out summary assets, reconcileCaptureIntoZones cap groups ctx = some (out, summary, assets) →
    reconcileMap (ctx.afterRegistering assets) groups = reconcileMap ctx groups ∧
      (∃ summary', reconcileCaptureIntoZones cap groups (ctx.afterRegistering assets) =
        some (out, summary', [])) ∧
      ∀ ctx' ∈ [ctx, ctx.afterRegistering assets], ∀ sent, sentFrames cap groups ctx' = some sent →
        CarriesRecords (records ++ assets.map NewCaptureAsset.record) sent

/-- Nothing hides a host from the comparison: there are zones, every host of the capture is
mapped, and of every registered one some frame gets through both filters of the first run.
A host that no frame shows leaves nothing to differ, whatever its record says. -/
structure AllHeard (cap : Capture) (groups : List CaptureGroup) (ctx : ReconcileCtx)
    (records : List CaptureHostRecord) : Prop where
  zones : ctx.zones ≠ []
  mapped : ∀ map, reconcileMap ctx groups = some map → ∀ a ∈ captureHosts cap, a ∈ map
  old : ∀ sent, sentFrames cap groups ctx = some sent → ∀ r ∈ records,
    r.originIp ∈ captureHosts cap → ∃ pq ∈ sent, frameSender pq.1.data = some r.originIp
  new : ∀ out summary assets sent,
    reconcileCaptureIntoZones cap groups ctx = some (out, summary, assets) →
    sentFrames cap groups ctx = some sent →
    ∀ a ∈ assets, ∃ pq ∈ sent, frameSender pq.1.data = some a.origin

/-- The record of a registered host, after the run, is where the run mapped the host. -/
theorem lookup_of_record {ctx : ReconcileCtx} {records : List CaptureHostRecord} {js : List Job}
    {st : PlaceState} (hfits : LedgerFits ctx records) (hsettled : Settled ctx js st)
    {r : CaptureHostRecord} (hr : r ∈ records ++ st.newAssets.map NewCaptureAsset.record)
    {j : Job} (hj : j ∈ js) (hhost : j.host = r.originIp) :
    st.map.lookup r.originIp = some r.ip := by
  have hentered : (enterAssets ctx.registered st.newAssets).lookup r.originIp = some r.ip := by
    obtain hold | hnew := List.mem_append.mp hr
    · refine hsettled.kept _ _ ?_
      rw [hfits.registered]
      exact (lookup_originMap hfits.origins).mpr ⟨r, hold, rfl, rfl⟩
    · obtain ⟨a, ha, rfl⟩ := List.mem_map.mp hnew
      exact hsettled.entered a ha
  rw [← hhost] at hentered ⊢
  cases hsettled.hosts j hj with
  | registered hreg hmap =>
    rw [hmap, ← hreg, hentered]
  | surplus hreg hslot hmap =>
    rw [hreg] at hentered
    cases hentered

/-- The hosts the run maps are hosts of the capture that can be remapped. -/
theorem remappable_of_mem_map {cap : Capture} {groups : List CaptureGroup} {ctx : ReconcileCtx}
    {st : PlaceState} (hgroups : GroupsOf cap groups)
    (hnodup : (groups.flatMap CaptureGroup.hosts).Nodup) (hzones : ctx.zones ≠ [])
    (hrun : placeAll ctx (jobs ctx groups) (initState ctx) = some st) :
    ∀ b ∈ st.map, isRemappable b = true := by
  intro b hb
  obtain ⟨j, hj, rfl⟩ := (settled_of_run (nodup_jobs hnodup) hrun).mapKeys b hb
  have hin := (hosts_jobs ctx groups).subset (List.mem_map_of_mem hj)
  rw [if_neg hzones] at hin
  obtain ⟨g, hg, hhost⟩ := List.mem_flatMap.mp hin
  exact hgroups.remappable g hg _ hhost

/-- **A frame of a registered host under the overrides of the devices**: it carries the MAC
on record exactly when that is the one the plan gives the address. -/
theorem sentWith_record_iff {cap : Capture} {groups : List CaptureGroup} {ctx : ReconcileCtx}
    {records : List CaptureHostRecord} {st : PlaceState} (hfits : LedgerFits ctx records)
    (hgroups : GroupsOf cap groups) (hnodup : (groups.flatMap CaptureGroup.hosts).Nodup)
    (hzones : ctx.zones ≠ [])
    (hrun : placeAll ctx (jobs ctx groups) (initState ctx) = some st)
    {p : OwnedPacket} (hp : p ∈ cap.packets) (hpass : passesGuard st.map p.data = true)
    {r : CaptureHostRecord} (hr : r ∈ records ++ st.newAssets.map NewCaptureAsset.record)
    (hsender : frameSender p.data = some r.originIp) :
    SentWith r.ip r.mac (applyHostMapFrame st.map ctx.deviceMacs ctx.seed true p.data) ↔
      r.mac = macFor ctx.deviceMacs ctx.seed r.ip := by
  have hsettled := settled_of_run (nodup_jobs hnodup) hrun
  have hkeys := remappable_of_mem_map hgroups hnodup hzones hrun
  obtain ⟨g, hg, hhost⟩ := hgroups.covers _ (sender_mem_captureHosts hp hkeys hpass hsender)
  obtain ⟨j, hj, hjhost⟩ := exists_job hzones hg hhost
  have hsent := @sentWith_of_mapped st.map ctx.deviceMacs ctx.seed p.data _ _ hsender
    (lookup_of_record hfits hsettled hr hj hjhost)
  constructor
  · exact fun hrec => hrec.2.1.symm.trans hsent.2.1
  · intro hmac
    rwa [hmac]

/-- The plan's own MAC for a new asset is the natural one: no device has its address. -/
theorem macFor_newAsset {ctx : ReconcileCtx} {records : List CaptureHostRecord} {js : List Job}
    {st : PlaceState} (hfits : LedgerFits ctx records) (hsettled : Settled ctx js st)
    {a : NewCaptureAsset} (ha : a ∈ st.newAssets) :
    macFor ctx.deviceMacs ctx.seed a.ip = hostMac ctx.seed a.ip := by
  have hnone : ctx.deviceMacs.lookup a.ip = none :=
    AList.lookup_eq_none.mpr fun hin => hsettled.free a ha (hfits.devices _ hin)
  rw [macFor, hnone]
  rfl

/-- What the second run sends: the frames of the same map under the devices' overrides. -/
theorem sentFrames_again {cap : Capture} {groups : List CaptureGroup} {ctx : ReconcileCtx}
    {st : PlaceState} (hnodup : (groups.flatMap CaptureGroup.hosts).Nodup)
    (hrun : placeAll ctx (jobs ctx groups) (initState ctx) = some st) :
    sentFrames cap groups (ctx.afterRegistering st.newAssets) = some
      ((cap.packets.filter (survives st.map ctx.deviceMacs ctx.seed ctx.remapMac)).map fun p =>
        (p, { p with data :=
          applyHostMapFrame st.map ctx.deviceMacs ctx.seed ctx.remapMac p.data })) := by
  have hagain : placeAll (ctx.afterRegistering st.newAssets)
      (jobs (ctx.afterRegistering st.newAssets) groups)
      (initState (ctx.afterRegistering st.newAssets)) =
        some { initState (ctx.afterRegistering st.newAssets) with map := st.map } :=
    placeAll_again (nodup_jobs hnodup) hrun
  rw [sentFrames, hagain]
  rfl

/-- When the overrides are the devices' and the records natural, frames carry the records. -/
theorem carriesRecords_of_natural {cap : Capture} {groups : List CaptureGroup}
    {ctx : ReconcileCtx} {records : List CaptureHostRecord} {st : PlaceState}
    (hfits : LedgerFits ctx records) (hgroups : GroupsOf cap groups)
    (hnodup : (groups.flatMap CaptureGroup.hosts).Nodup) (hzones : ctx.zones ≠ [])
    (hrun : placeAll ctx (jobs ctx groups) (initState ctx) = some st)
    (hrecords : NaturalRecords ctx cap records)
    (hassets : ∀ a ∈ st.newAssets, a.mac = hostMac ctx.seed a.ip) :
    CarriesRecords (records ++ st.newAssets.map NewCaptureAsset.record)
      ((cap.packets.filter (survives st.map ctx.deviceMacs ctx.seed true)).map fun p =>
        (p, { p with data := applyHostMapFrame st.map ctx.deviceMacs ctx.seed true p.data })) := by
  intro pq hpq r hr hsender
  obtain ⟨p, hp, rfl⟩ := List.mem_map.mp hpq
  obtain ⟨hin, hsurvives⟩ := List.mem_filter.mp hp
  unfold survives at hsurvives
  rw [Bool.and_eq_true] at hsurvives
  -- the frame was let through, so its sender is a host of the capture
  have hhost : r.originIp ∈ captureHosts cap :=
    sender_mem_captureHosts hin (remappable_of_mem_map hgroups hnodup hzones hrun) hsurvives.1
      hsender
  have hmac : r.mac = macFor ctx.deviceMacs ctx.seed r.ip := by
    obtain hold | hnew := List.mem_append.mp hr
    · exact hrecords r hold hhost
    · obtain ⟨a, ha, rfl⟩ := List.mem_map.mp hnew
      exact (hassets a ha).trans
        (macFor_newAsset hfits (settled_of_run (nodup_jobs hnodup) hrun) ha).symm
  exact (sentWith_record_iff hfits hgroups hnodup hzones hrun hin hsurvives.1 hr hsender).mpr hmac

/-- **A record that a frame of both runs shows is natural**: a frame of the first run carries
the MAC on record, and the same bytes leave the second run with the natural MAC. -/
theorem natural_of_stable {cap : Capture} {groups : List CaptureGroup} {ctx : ReconcileCtx}
    {records : List CaptureHostRecord} {st : PlaceState} (hremap : ctx.remapMac = true)
    (hnodup : (groups.flatMap CaptureGroup.hosts).Nodup) (hgroups : GroupsOf cap groups)
    (hzones : ctx.zones ≠ [])
    (hrun : placeAll ctx (jobs ctx groups) (initState ctx) = some st)
    (hmapped : ∀ a ∈ captureHosts cap, a ∈ st.map)
    (hstable : StableIdentity cap groups ctx records)
    {r : CaptureHostRecord} (hr : r ∈ records ++ st.newAssets.map NewCaptureAsset.record)
    (hheard : ∃ sent, sentFrames cap groups ctx = some sent ∧
      ∃ pq ∈ sent, frameSender pq.1.data = some r.originIp) :
    r.mac = macFor ctx.deviceMacs ctx.seed r.ip := by
  obtain ⟨sent, hsent, pq, hpq, hsender⟩ := hheard
  obtain ⟨summary, hrec⟩ := @reconcile_of_run cap groups ctx st hzones hrun
  obtain ⟨-, ⟨summary', hagain⟩, hcarries⟩ := hstable _ summary st.newAssets hrec
  have hfirst : SentWith r.ip r.mac pq.2.data :=
    hcarries ctx List.mem_cons_self sent hsent pq hpq r hr hsender
  -- the frame is one of the second run as well
  obtain ⟨sent₁, hsent₁, hout⟩ := sentFrames_of_reconcile hzones hrec
  obtain rfl : sent₁ = sent := Option.some.inj (hsent₁.symm.trans hsent)
  obtain ⟨sent₂, hsent₂, hout₂⟩ := sentFrames_of_reconcile
    (by rwa [ReconcileCtx.afterRegistering_zones]) hagain
  have hin : pq.2 ∈ sent₂.map Prod.snd := by
    rw [← hout₂, hout]
    exact List.mem_map_of_mem hpq
  rw [sentFrames_again hnodup hrun, hremap] at hsent₂
  cases hsent₂
  rw [List.map_map] at hin
  obtain ⟨p', hp', heq⟩ := List.mem_map.mp hin
  obtain ⟨hp'cap, hsurvives⟩ := List.mem_filter.mp hp'
  unfold survives at hsurvives
  rw [Bool.and_eq_true] at hsurvives
  obtain ⟨srcOff, dstOff, hoffs, -⟩ := addrs_of_passesGuard hsurvives.1
  have hsender' : frameSender p'.data = some (be32 p'.data srcOff) := by
    rw [frameSender, hoffs]
    rfl
  have hhost := sender_mem_captureHosts hp'cap
    (remappable_of_mem_map hgroups hnodup hzones hrun) hsurvives.1 hsender'
  obtain ⟨ip, hip⟩ := Option.isSome_iff_exists.mp (AList.lookup_isSome.mpr (hmapped _ hhost))
  have hsecond := @sentWith_of_mapped st.map ctx.deviceMacs ctx.seed p'.data _ _ hsender' hip
  rw [← heq] at hfirst
  have hips : r.ip = ip := Option.some.inj (hfirst.1.symm.trans hsecond.1)
  rw [hips]
  exact hfirst.2.1.symm.trans hsecond.2.1

/-- **Natural MACs are stable**: without a salt both runs send the same frames. -/
theorem stableIdentity_of_natural {cap : Capture} {groups : List CaptureGroup}
    {ctx : ReconcileCtx} {records : List CaptureHostRecord} (hremap : ctx.remapMac = true)
    (hgroups : GroupsOf cap groups) (hnodup : (groups.flatMap CaptureGroup.hosts).Nodup)
    (hfits : LedgerFits ctx records) (hrecords : NaturalRecords ctx cap records)
    (hnatural : EveryJob ctx (NaturalMac ctx) (jobs ctx groups) (initState ctx)) :
    StableIdentity cap groups ctx records := by
  intro out summary assets h
  refine ⟨(reconcile_again hnodup h).1,
    reconcile_again_frames hnodup (Or.inr hnatural) h, ?_⟩
  obtain ⟨st, hrun, rfl⟩ := reconcile_assets h
  have hunsalted := unsalted_of_run hnatural hrun
  have hagain := @sentFrames_again cap groups ctx st hnodup hrun
  have hsame : sentFrames cap groups ctx =
      sentFrames cap groups (ctx.afterRegistering st.newAssets) := by
    rw [hagain, sentFrames, hrun, Option.map_some, hunsalted.resolved, AList.empty_union]
  intro ctx' hctx' sent hsent
  have hsent' : sentFrames cap groups (ctx.afterRegistering st.newAssets) = some sent := by
    obtain rfl | hlast := List.mem_cons.mp hctx'
    · rw [← hsame, hsent]
    · rwa [← List.mem_singleton.mp hlast]
  rw [hagain, hremap] at hsent'
  cases hsent'
  by_cases hzones : ctx.zones = []
  · -- without zones nothing is registered
    intro pq _ r hr
    have hnone : st.newAssets = [] := by
      rw [jobs_eq_nil hzones] at hrun
      cases hrun
      rfl
    rw [hfits.zones hzones, hnone] at hr
    exact absurd hr List.not_mem_nil
  · exact carriesRecords_of_natural hfits hgroups hnodup hzones hrun hrecords hunsalted.assets

/-- **Stable MACs are natural**, of hosts that are all heard. -/
theorem natural_of_allHeard {cap : Capture} {groups : List CaptureGroup} {ctx : ReconcileCtx}
    {records : List CaptureHostRecord} (hremap : ctx.remapMac = true)
    (hgroups : GroupsOf cap groups) (hnodup : (groups.flatMap CaptureGroup.hosts).Nodup)
    (hfits : LedgerFits ctx records) (hreturns : (reconcileCaptureIntoZones cap groups ctx).isSome)
    (hheard : AllHeard cap groups ctx records) (hstable : StableIdentity cap groups ctx records) :
    NaturalRecords ctx cap records ∧
      EveryJob ctx (NaturalMac ctx) (jobs ctx groups) (initState ctx) := by
  obtain ⟨⟨out, summary, assets⟩, hrec⟩ := Option.isSome_iff_exists.mp hreturns
  obtain ⟨sent, hsent, -⟩ := sentFrames_of_reconcile hheard.zones hrec
  obtain ⟨st, hrun, rfl, -⟩ := reconcile_run hheard.zones hrec
  have hmapped := hheard.mapped st.map (by rw [reconcileMap, hrun]; rfl)
  constructor
  · intro r hr hhost
    exact natural_of_stable hremap hnodup hgroups hheard.zones hrun hmapped hstable
      (List.mem_append_left _ hr) ⟨sent, hsent, hheard.old sent hsent r hr hhost⟩
  · refine everyJob_natural_of_assets hrun fun a ha => ?_
    rw [← macFor_newAsset hfits (settled_of_run (nodup_jobs hnodup) hrun) ha]
    exact natural_of_stable hremap hnodup hgroups hheard.zones hrun hmapped hstable
      (List.mem_append_right _ (List.mem_map_of_mem ha))
      ⟨sent, hsent, hheard.new out summary st.newAssets sent hrec hsent a ha⟩

/-- **The identity a capture host got is stable.** The second run always uses the same map
and places no host. When no MAC of a host of the capture was perturbed, before or in the
first run, it also returns the same frames, and both runs send them with the MACs on
record; where every host is heard this is exactly when. And frame by frame: in the second
run a frame of a registered host that passes the guard carries the MAC on record if and
only if that one was not perturbed. -/
theorem stable_identity (cap : Capture) (groups : List CaptureGroup) (ctx : ReconcileCtx)
    (records : List CaptureHostRecord) (hremap : ctx.remapMac = true)
    (hgroups : GroupsOf cap groups) (hnodup : (groups.flatMap CaptureGroup.hosts).Nodup)
    (hfits : LedgerFits ctx records) :
    (∀ out summary assets,
      reconcileCaptureIntoZones cap groups ctx = some (out, summary, assets) →
      reconcileMap (ctx.afterRegistering assets) groups = reconcileMap ctx groups ∧
        ∃ out' summary', reconcileCaptureIntoZones cap groups (ctx.afterRegistering assets) =
          some (out', summary', [])) ∧
    (NaturalRecords ctx cap records →
      EveryJob ctx (NaturalMac ctx) (jobs ctx groups) (initState ctx) →
      StableIdentity cap groups ctx records) ∧
    ((reconcileCaptureIntoZones cap groups ctx).isSome → AllHeard cap groups ctx records →
      StableIdentity cap groups ctx records →
      NaturalRecords ctx cap records ∧
        EveryJob ctx (NaturalMac ctx) (jobs ctx groups) (initState ctx)) ∧
    (∀ out summary assets map, ctx.zones ≠ [] →
      reconcileCaptureIntoZones cap groups ctx = some (out, summary, assets) →
      reconcileMap ctx groups = some map →
      ∀ p ∈ cap.packets, passesGuard map p.data = true →
      ∀ r ∈ records ++ assets.map NewCaptureAsset.record, frameSender p.data = some r.originIp →
        (SentWith r.ip r.mac (applyHostMapFrame map (ctx.afterRegistering assets).deviceMacs
          ctx.seed true p.data) ↔ r.mac = macFor ctx.deviceMacs ctx.seed r.ip)) := by
  refine ⟨fun out summary assets h => reconcile_again hnodup h,
    stableIdentity_of_natural hremap hgroups hnodup hfits,
    natural_of_allHeard hremap hgroups hnodup hfits, ?_⟩
  intro out summary assets map hzones h hmap p hp hpass r hr hsender
  obtain ⟨st, hrun, rfl, rfl⟩ := reconcile_run hzones h
  rw [reconcileMap, hrun] at hmap
  cases hmap
  exact sentWith_record_iff hfits hgroups hnodup hzones hrun hp hpass hr hsender

/-- One frame from 1.1.1.176 to 1.1.1.15. -/
def twinCapture : Capture := ⟨[⟨1, 34, bareFrame (ipv4 1 1 1 176) (ipv4 1 1 1 15)⟩]⟩

/-- Its groups, as `capture_groups` builds them. -/
def twinGroups : List CaptureGroup := captureGroups twinCapture [] ⟨∅, ∅⟩ insertionOrder

/-- A new session with one zone, 10.0.0.0/24, and room for both hosts. -/
def twinCtx (seed : UInt64) : ReconcileCtx := { emptyZoneCtx 2 with seed }

theorem twinCtx_ledgerFits (seed : UInt64) : LedgerFits (twinCtx seed) [] :=
  ⟨rfl, List.nodup_nil, fun _ h => absurd h (AList.notMem_empty _), fun _ => rfl⟩

/-- A host of some earlier capture, on record with a MAC that was perturbed. -/
def strangerRecord : CaptureHostRecord where
  originIp := ipv4 9 9 9 9
  ip := ipv4 10 0 0 77
  mac := ⟨2, 0, 0, 0, 0, 1⟩
  vendor := none
  protocol := none
  purdueLevel := 1
  subnetCidr := .slash24 (ipv4 10 0 0 0)
  hostname := none
  assetType := none

/-- The session of `twinCtx` with that host registered. -/
def strangerCtx : ReconcileCtx := { twinCtx 0 with registered := originMap [strangerRecord] }

theorem strangerCtx_ledgerFits : LedgerFits strangerCtx [strangerRecord] :=
  ⟨rfl, by decide, fun _ h => absurd h (AList.notMem_empty _), fun h => by cases h⟩

/-- Under seed 0 the two hosts have different MACs, and the stranger has no frame. -/
theorem twin_identity_stable :
    StableIdentity twinCapture twinGroups strangerCtx [strangerRecord] :=
  (stable_identity twinCapture twinGroups strangerCtx [strangerRecord] rfl
    (groupsOf_captureGroups _ _ _ _) (nodup_captureGroups _ _ _ _)
    strangerCtx_ledgerFits).2.1 (by decide +kernel) (by decide +kernel)

/-- Under seed 128 the addresses 10.0.0.15 and 10.0.0.176 have one natural MAC. The second
host is given another, which its frame carries in the first run only. -/
theorem salted_identity_changes :
    ¬ ∀ (cap : Capture) (groups : List CaptureGroup) (ctx : ReconcileCtx)
      (records : List CaptureHostRecord), ctx.remapMac = true → GroupsOf cap groups →
      (groups.flatMap CaptureGroup.hosts).Nodup → LedgerFits ctx records →
      NaturalRecords ctx cap records → StableIdentity cap groups ctx records := by
  intro h
  have hstable := h twinCapture twinGroups (twinCtx 128) [] rfl (groupsOf_captureGroups _ _ _ _)
    (nodup_captureGroups _ _ _ _) (twinCtx_ledgerFits 128) (by decide)
  have hsome : (reconcileCaptureIntoZones twinCapture twinGroups (twinCtx 128)).isSome := by
    decide +kernel
  obtain ⟨⟨out, summary, assets⟩, hrec⟩ := Option.isSome_iff_exists.mp hsome
  obtain ⟨-, ⟨summary', hagain⟩, -⟩ := hstable out summary assets hrec
  have hdiffer : (reconcileCaptureIntoZones twinCapture twinGroups (twinCtx 128)).all fun r =>
      (reconcileCaptureIntoZones twinCapture twinGroups
        ((twinCtx 128).afterRegistering r.2.2)).all fun r' =>
          decide (r'.1.packets.map OwnedPacket.data ≠ r.1.packets.map OwnedPacket.data) := by
    decide +kernel
  rw [hrec, Option.all_some, hagain, Option.all_some, decide_eq_true_iff] at hdiffer
  exact hdiffer rfl

end TurboLaser
