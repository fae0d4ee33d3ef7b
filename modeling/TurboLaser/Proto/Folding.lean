import TurboLaser.Proto.Settled

/-!
# Conversations across a reconcile

Two hosts that talk to each other in the capture should not become one address: a frame from a host
to itself is not a conversation any more, and a sensor that draws a graph of who talks to whom would
lose an edge and gain a loop.

- A host that was registered or placed has an address of its own: the registry and the taken
  addresses keep the new ones apart (`Settled`).
- Surplus hosts ride a device, and every surplus host of a zone rides the same one
  (`forceMapTarget`). Two of them fold onto its address, conversation and all: `surplus_hosts_fold`.
  The source says so where it does it; it is what remains when the budget of assets is spent.

`conversations_survive` says that nothing else folds: if two different hosts of a run end at one
address then both of them ride the device that has it (`rides_of_same_address`), so a pair of hosts
of which one is an asset keeps its conversation. The statement is about the map and, through the
rewriting of addresses, about the frames that leave.
-/

namespace TurboLaser

open Lib

/-- A host that got no asset of its own, neither before nor in this reconcile, and was
sent to the address of a device. -/
structure RidesDevice (ctx : ReconcileCtx) (assets : List NewCaptureAsset) (map : HostMap)
    (a device : Ipv4Addr) : Prop where
  unregistered : a ∉ ctx.registered
  unplaced : ∀ n ∈ assets, n.origin ≠ a
  mapped : map.lookup a = some device
  device : device ∈ allReserved ctx.zones

/-- A host of the run has an asset after it, with the address the run sent it to, or it
rides a device. -/
theorem asset_or_rides {ctx : ReconcileCtx} {js : List Job} {st : PlaceState}
    (h : Settled ctx js st) {a ip : Ipv4Addr} (hmap : st.map.lookup a = some ip) :
    (enterAssets ctx.registered st.newAssets).lookup a = some ip ∨
      RidesDevice ctx st.newAssets st.map a ip := by
  obtain ⟨j, hj, rfl⟩ := h.mapKeys a (AList.lookup_isSome.mp (Option.isSome_of_mem hmap))
  cases h.hosts j hj with
  | registered hreg hmapped =>
    rw [hmapped] at hmap
    rw [hreg, hmap]
    exact Or.inl rfl
  | surplus hreg hslot hmapped =>
    refine Or.inr ⟨fun hin => ?_, fun n hn heq => ?_, hmap, ?_⟩
    · obtain ⟨v, hv⟩ := Option.isSome_iff_exists.mp (AList.lookup_isSome.mpr hin)
      rw [h.kept _ v hv] at hreg
      cases hreg
    · rw [← heq, h.entered n hn] at hreg
      cases hreg
    · exact mem_of_forceMapTarget (hmapped.symm.trans hmap)

/-- **Two hosts at one address both ride the device that has it.** -/
theorem rides_of_same_address {ctx : ReconcileCtx} {js : List Job} {st : PlaceState}
    (h : Settled ctx js st) (hapart : RegistryApart ctx.zones ctx.registered)
    {a b ip : Ipv4Addr} (hab : a ≠ b) (ha : st.map.lookup a = some ip)
    (hb : st.map.lookup b = some ip) :
    RidesDevice ctx st.newAssets st.map a ip ∧ RidesDevice ctx st.newAssets st.map b ip := by
  have hafter := h.apart hapart
  obtain hasset | hrides := asset_or_rides h ha <;> obtain hasset' | hrides' := asset_or_rides h hb
  · exact absurd (hafter.injective a b ip hasset hasset') hab
  · exact absurd hrides'.device (hafter.offDevices ip (mem_values_of_lookup hasset))
  · exact absurd hrides.device (hafter.offDevices ip (mem_values_of_lookup hasset'))
  · exact ⟨hrides, hrides'⟩

/-- A frame between two hosts of the map, or from one to no host at all: it still has two
addresses, unless both hosts ride one device. -/
def ConversationKept (ctx : ReconcileCtx) (assets : List NewCaptureAsset) (map : HostMap)
    (buf out : List UInt8) : Prop :=
  ∀ srcOff dstOff, addrOffsets buf = [srcOff, dstOff] →
    addrOffsets out = [srcOff, dstOff] ∧
      (be32 buf srcOff ∈ map →
        (be32 buf dstOff ∈ map ∨ isRemappable (be32 buf dstOff) = false) →
        be32 buf srcOff ≠ be32 buf dstOff → be32 out srcOff = be32 out dstOff →
        RidesDevice ctx assets map (be32 buf srcOff) (be32 out srcOff) ∧
          RidesDevice ctx assets map (be32 buf dstOff) (be32 out dstOff))

/-- A surviving frame keeps its conversation. -/
theorem conversationKept_of_survives {ctx : ReconcileCtx} {js : List Job} {st : PlaceState}
    (hsettled : Settled ctx js st) (hapart : RegistryApart ctx.zones ctx.registered)
    {macMap : MacMap} {p : OwnedPacket}
    (hsurvives : survives st.map macMap ctx.seed ctx.remapMac p = true) :
    ConversationKept ctx st.newAssets st.map p.data
      (applyHostMapFrame st.map macMap ctx.seed ctx.remapMac p.data) := by
  unfold survives at hsurvives
  rw [Bool.and_eq_true] at hsurvives
  obtain ⟨srcOff, dstOff, hoffs, -, -, hsrc, -⟩ := addrs_of_passesGuard hsurvives.1
  intro srcOff' dstOff' hoffs'
  rw [hoffs] at hoffs'
  -- the guard has let the frame through, so it has two addresses, and the source is a plan address
  cases hoffs'
  obtain ⟨haddrs, hsrcAddr, hdstAddr⟩ :=
    addrs_rewritten st.map macMap ctx.seed ctx.remapMac hoffs
  refine ⟨haddrs, fun hsrcIn hdstIn hne hfold => ?_⟩
  rw [hsrcAddr, hdstAddr] at hfold ⊢
  obtain hdstIn | hdstRem := hdstIn
  · have hsrcMap := lookup_eq_image hsrcIn
    have hdstMap := lookup_eq_image hdstIn
    rw [← hfold] at hdstMap ⊢
    exact rides_of_same_address hsettled hapart hne hsrcMap hdstMap
  · -- the guard asks for a host as the source, and no host is sent to a group address
    unfold srcIsPlan at hsrc
    rw [Bool.and_eq_true, hfold] at hsrc
    by_cases hin : be32 p.data dstOff ∈ st.map
    · have hdstMap := lookup_eq_image hin
      rw [← hfold] at hdstMap ⊢
      exact rides_of_same_address hsettled hapart hne (lookup_eq_image hsrcIn) hdstMap
    · rw [image, AList.lookup_eq_none.mpr hin, Option.getD_none, hdstRem] at hsrc
      exact absurd hsrc.1 Bool.false_ne_true

/-- **Conversations survive a reconcile**, up to those between two hosts without an asset that ride
the same device. The frames that come out are frames of the capture, in order, at the times they
were captured; and one that connected two hosts still connects two. -/
theorem conversations_survive (cap out : Capture) (groups : List CaptureGroup)
    (ctx : ReconcileCtx) (summary : RemapSummary) (assets : List NewCaptureAsset) (map : HostMap)
    (hnodup : (groups.flatMap CaptureGroup.hosts).Nodup)
    (hapart : RegistryApart ctx.zones ctx.registered)
    (hmap : reconcileMap ctx groups = some map)
    (h : reconcileCaptureIntoZones cap groups ctx = some (out, summary, assets)) :
    ∃ kept, List.Sublist kept cap.packets ∧
      List.Forall₂ (fun p q => q.ts = p.ts ∧ ConversationKept ctx assets map p.data q.data)
        kept out.packets := by
  obtain ⟨st, hrun, hst⟩ := Option.map_eq_some_iff.mp hmap
  subst hst
  by_cases hzones : ctx.zones = []
  · rw [reconcileCaptureIntoZones, if_pos hzones] at h
    rw [jobs_eq_nil hzones] at hrun
    cases h
    cases hrun
    refine ⟨cap.packets, .refl _, List.forall₂_same.mpr fun p _ => ⟨rfl, ?_⟩⟩
    exact fun srcOff dstOff hoffs => ⟨hoffs, fun hin => absurd hin (AList.notMem_empty _)⟩
  · obtain ⟨st', hrun', rfl, rfl⟩ := reconcile_run hzones h
    rw [hrun] at hrun'
    cases hrun'
    refine ⟨cap.packets.filter
      (survives st.map (st.resolved ∪ ctx.deviceMacs) ctx.seed ctx.remapMac),
      List.filter_sublist, ?_⟩
    rw [rewriteAndFilter_packets, List.forall₂_map_right_iff, List.forall₂_same]
    intro p hp
    exact ⟨rfl, conversationKept_of_survives (settled_of_run (nodup_jobs hnodup) hrun) hapart
      (List.mem_filter.mp hp).2⟩

/-- One zone, 10.0.0.0/24, with a device at 10.0.0.9. -/
def oneDeviceCtx (budget : Nat) : ReconcileCtx :=
  { emptyZoneCtx budget with
    zones := [⟨.slash24 (ipv4 10 0 0 0), none, 1, none, {ipv4 10 0 0 9}⟩] }

theorem oneDeviceCtx_apart (budget : Nat) :
    RegistryApart (oneDeviceCtx budget).zones (oneDeviceCtx budget).registered :=
  ⟨fun _ _ _ h => (nomatch h), fun _ h => absurd h (Finset.notMem_empty _)⟩

/-- With room for one host, the other rides the device and the two stay apart. -/
theorem conversations_survive_one_slot :
    ∃ (out : Capture) (map : HostMap) (assets : List NewCaptureAsset),
      reconcileMap (oneDeviceCtx 1) planAddressGroups = some map ∧
      ∃ kept, List.Sublist kept planAddressCapture.packets ∧
        List.Forall₂ (fun p q => q.ts = p.ts ∧
          ConversationKept (oneDeviceCtx 1) assets map p.data q.data) kept out.packets := by
  have hsome : (reconcileCaptureIntoZones planAddressCapture planAddressGroups
      (oneDeviceCtx 1)).isSome := by
    decide +kernel
  have hmap : (reconcileMap (oneDeviceCtx 1) planAddressGroups).isSome := by
    decide +kernel
  obtain ⟨⟨out, summary, assets⟩, hrec⟩ := Option.isSome_iff_exists.mp hsome
  obtain ⟨map, hmap⟩ := Option.isSome_iff_exists.mp hmap
  exact ⟨out, map, assets, hmap, conversations_survive planAddressCapture out planAddressGroups
    (oneDeviceCtx 1) summary assets map (by decide) (oneDeviceCtx_apart 1) hmap hrec⟩

/-- With the budget spent both hosts ride the device, and the frame between them goes out
from 10.0.0.9 to 10.0.0.9. -/
theorem surplus_hosts_fold :
    ¬ ∀ (cap out : Capture) (groups : List CaptureGroup) (ctx : ReconcileCtx)
      (summary : RemapSummary) (assets : List NewCaptureAsset),
      GroupsOf cap groups → (groups.flatMap CaptureGroup.hosts).Nodup →
      RegistryApart ctx.zones ctx.registered →
      reconcileCaptureIntoZones cap groups ctx = some (out, summary, assets) →
      ∃ kept, List.Sublist kept cap.packets ∧
        List.Forall₂ (fun p q => ∀ srcOff dstOff, addrOffsets p.data = [srcOff, dstOff] →
          be32 p.data srcOff ≠ be32 p.data dstOff → be32 q.data srcOff ≠ be32 q.data dstOff)
          kept out.packets := by
  intro h
  have hsome : (reconcileCaptureIntoZones planAddressCapture planAddressGroups
      (oneDeviceCtx 0)).isSome := by
    decide +kernel
  obtain ⟨⟨out, summary, assets⟩, hrec⟩ := Option.isSome_iff_exists.mp hsome
  obtain ⟨kept, hkept, hframes⟩ := h planAddressCapture out planAddressGroups (oneDeviceCtx 0)
    summary assets planAddressGroups_groupsOf (by decide) (oneDeviceCtx_apart 0) hrec
  -- one frame comes out, and both of its addresses are the device's
  have hfolded : (reconcileCaptureIntoZones planAddressCapture planAddressGroups
      (oneDeviceCtx 0)).all fun r => decide (r.1.packets.length = 1) &&
        r.1.packets.all fun q => decide (be32 q.data 26 = be32 q.data 30) := by
    decide +kernel
  rw [hrec, Option.all_some, Bool.and_eq_true, decide_eq_true_iff, List.all_eq_true] at hfolded
  obtain ⟨q, hq⟩ := List.length_eq_one_iff.mp hfolded.1
  have hsame := hfolded.2 q (by rw [hq]; exact List.mem_singleton_self q)
  rw [decide_eq_true_iff] at hsame
  rw [show out.packets = [q] from hq] at hframes
  -- the frame that was kept is one of a capture of one frame, so it is that one
  cases hframes with
  | @cons p _ kept' _ hpq _ =>
    have hp : p = ⟨1, 34, bareFrame (ipv4 10 0 0 5) (ipv4 1 1 1 5)⟩ :=
      List.mem_singleton.mp (hkept.subset List.mem_cons_self)
    refine hpq 26 30 ?_ ?_ hsame
    · rw [hp]
      decide +kernel
    · rw [hp]
      decide +kernel

end TurboLaser
