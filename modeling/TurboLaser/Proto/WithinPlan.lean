import TurboLaser.Proto.OutputSafety
import TurboLaser.Proto.RemapTopology
import TurboLaser.Threat.Moves

/-!
# Captures within a plan (proto/l3.rs, threat/mod.rs)

A plan is a set of addresses. A capture is within it when every frame is an IPv4 or ARP frame that
leaves from an address of the plan, and goes to one unless it goes to no host at all.

It is the shape of the promise that the daemon makes about everything it puts on the wire, and the
parts of the daemon keep it each for a plan of its own: the remap for 10/8, the reconcile for the
addresses of the ledger, the promotion for these and the external address. `CaptureWithin.mono` lets
the plan grow, so that the parts add up to a statement about the daemon.

- `within_rewriteAndFilter`: **what the filters let through is within the addresses the map hands
  out**, whatever the map is: here the output guard is all that is used;
- `within_remapCapture`: the per-run remap stays within 10/8;
- `within_reconcile`: a reconcile stays within what was taken and what it places;
- `within_promoteHost`: a promotion adds one address.
-/

namespace TurboLaser

open Lib

/-- **A frame between addresses of the plan.** -/
def FrameWithin (plan : Ipv4Addr → Prop) (buf : List UInt8) : Prop :=
  ∃ srcOff dstOff, addrOffsets buf = [srcOff, dstOff] ∧ plan (be32 buf srcOff) ∧
    (isRemappable (be32 buf dstOff) = true → plan (be32 buf dstOff))

/-- Every frame of the capture is. -/
def CaptureWithin (plan : Ipv4Addr → Prop) (cap : Capture) : Prop :=
  ∀ p ∈ cap.packets, FrameWithin plan p.data

variable {plan plan' : Ipv4Addr → Prop}

theorem FrameWithin.mono (himp : ∀ a, plan a → plan' a) {buf : List UInt8}
    (h : FrameWithin plan buf) : FrameWithin plan' buf := by
  obtain ⟨srcOff, dstOff, hoffs, hsrc, hdst⟩ := h
  exact ⟨srcOff, dstOff, hoffs, himp _ hsrc, fun hhost => himp _ (hdst hhost)⟩

theorem CaptureWithin.mono (himp : ∀ a, plan a → plan' a) {cap : Capture}
    (h : CaptureWithin plan cap) : CaptureWithin plan' cap :=
  fun p hp => (h p hp).mono himp

/-- Dropping frames keeps a capture within its plan. -/
theorem CaptureWithin.retain {cap : Capture} (h : CaptureWithin plan cap)
    (keep : List UInt8 → Bool) : CaptureWithin plan (cap.retain keep) :=
  fun p hp => h p (List.mem_filter.mp hp).1

/-! ## The remaps -/

/-- **The filters let through what the map hands out**: whatever the map, a frame that is left
runs between values of it. -/
theorem within_rewriteAndFilter (cap : Capture) (map : HostMap) (macMap : MacMap) (seed : UInt64)
    (remapMac : Bool) :
    CaptureWithin (· ∈ map.values) (rewriteAndFilter cap map macMap seed remapMac) := by
  intro q hq
  rw [rewriteAndFilter_packets] at hq
  obtain ⟨p, hp, rfl⟩ := List.mem_map.mp hq
  have hguard := ((Bool.and_eq_true _ _).mp (List.mem_filter.mp hp).2).1
  obtain ⟨srcOff, dstOff, hoffs, -, -, hsrc, hdst⟩ := addrs_of_passesGuard hguard
  obtain ⟨hoffs', hsrc', hdst'⟩ := addrs_rewritten map macMap seed remapMac hoffs
  refine ⟨srcOff, dstOff, hoffs', ?_, fun hhost => ?_⟩
  · rw [hsrc']
    exact of_decide_eq_true ((Bool.and_eq_true _ _).mp hsrc).2
  · rw [hdst'] at hhost ⊢
    unfold dstOk at hdst
    rw [hhost] at hdst
    exact of_decide_eq_true hdst

/-- A value of the per-run map lies in 10/8. -/
theorem values_remapMap {cap : Capture} {hints : List Ipv4Net} {rng : Rng} {v : Ipv4Addr}
    (h : v ∈ (remapMap cap hints rng).values) : v >>> 24 = 10 := by
  unfold HostMap.values at h
  obtain ⟨⟨a, b⟩, hentry, rfl⟩ := List.mem_map.mp (List.mem_toFinset.mp h)
  show b >>> 24 = 10
  have hlookup := AList.mem_lookup_iff.mpr hentry
  have ha : a ∈ remapMap cap hints rng := AList.lookup_isSome.mp (Option.isSome_of_mem hlookup)
  obtain ⟨n, hn⟩ := moved_remapMap hints rng (mem_remapMap.mp ha)
  have himage : image (remapMap cap hints rng) a = b := by
    unfold image
    rw [Option.mem_def.mp hlookup]
    rfl
  have hrange := hn.range
  have hslot := hn.alloc.slot_le
  have hsize := size_le_slotSize n
  rw [himage] at hrange
  exact shiftRight_eq_ten_iff.mpr ⟨by omega, by omega⟩

/-- **The per-run remap stays within 10/8.** -/
theorem within_remapCapture (seedFrom : UInt64 → Rng) (cap : Capture) (hints : List Ipv4Net)
    (seed : UInt64) (remapMac : Bool) :
    CaptureWithin (fun a => a >>> 24 = 10) (remapCapture seedFrom cap hints seed remapMac).1 :=
  (within_rewriteAndFilter _ _ _ _ _).mono fun _ hv => values_remapMap hv

/-- What a reconcile has handed out so far was taken from the start, or is placed. -/
def HandedOut (ctx : ReconcileCtx) (st : PlaceState) (v : Ipv4Addr) : Prop :=
  v ∈ (initState ctx).taken ∨ v ∈ st.newAssets.map NewCaptureAsset.ip

/-- A turn hands out what it adds to the map. -/
theorem handedOut_step {ctx : ReconcileCtx} {st : PlaceState} {j : Job} {pl : Placement}
    (h : ∀ v ∈ st.map.values, HandedOut ctx st v) (hchosen : Chosen ctx st j pl) :
    ∀ v ∈ (st.record j pl).map.values, HandedOut ctx (st.record j pl) v := by
  intro v hv
  -- what was handed out before stays so: a turn only ever adds an asset
  have hassets : ∀ v, HandedOut ctx st v → HandedOut ctx (st.record j pl) v := by
    rintro v (htaken | hplaced)
    · exact .inl htaken
    · refine .inr ?_
      cases pl with
      | fresh ip mac salt =>
        rw [PlaceState.record, List.map_append]
        exact List.mem_append_left _ hplaced
      | _ => exact hplaced
  rcases mem_values_record hv with hip | hold
  · cases hchosen with
    | reuse hreg =>
      cases hip
      exact .inl (Finset.mem_union_right _ (mem_values_of_lookup hreg))
    | fresh hreg hslot hmac =>
      cases hip
      refine .inr ?_
      rw [PlaceState.record, List.map_append]
      exact List.mem_append_right _ (List.mem_singleton_self _)
    | ride hreg hslot htarget =>
      cases hip
      exact .inl (Finset.mem_union_left _ (mem_of_forceMapTarget htarget))
    | unmapped hreg hslot htarget => cases hip
  · exact hassets v (h v hold)

/-- **A reconcile stays within what was taken and what it places.** -/
theorem within_reconcile {cap out : Capture} {groups : List CaptureGroup} {ctx : ReconcileCtx}
    {summary : RemapSummary} {assets : List NewCaptureAsset} (hzones : ctx.zones ≠ [])
    (h : reconcileCaptureIntoZones cap groups ctx = some (out, summary, assets)) :
    CaptureWithin (fun a => a ∈ (initState ctx).taken ∨ a ∈ assets.map NewCaptureAsset.ip) out := by
  obtain ⟨st, hrun, rfl, rfl⟩ := reconcile_run hzones h
  have hjobs : EveryJob ctx (fun _ _ => True) (jobs ctx groups) (initState ctx) :=
    everyStep_of_forall (fun _ _ _ => trivial) (initState ctx)
  have hinit : ∀ v ∈ (initState ctx).map.values, HandedOut ctx (initState ctx) v := nofun
  have hvalues := placeAll_invariant (P := fun st => ∀ v ∈ st.map.values, HandedOut ctx st v)
    (fun st j pl hst _ hpl => handedOut_step hst (choosePlacement_cases hpl)) hinit hjobs hrun
  exact (within_rewriteAndFilter _ _ _ _ _).mono hvalues

/-! ## Promotions -/

/-- A promoted frame runs where it ran, its host moved to the external address. -/
theorem FrameWithin.promote {host external : Ipv4Addr} {mac : Mac} {buf : List UInt8}
    (h : FrameWithin plan buf) :
    FrameWithin (fun a => plan a ∨ a = external) (promoteFrame host external mac buf) := by
  -- a frame that does not show the host, or is no IPv4, goes out as it is
  by_cases hpromoted : Mentions host buf → frameIpv4Src buf = none
  · rw [promoteFrame_self hpromoted]
    exact h.mono fun _ => .inl
  · rw [Classical.not_imp] at hpromoted
    obtain ⟨hmentions, hsome⟩ := hpromoted
    obtain ⟨l, hparse, hk⟩ := frameIpv4Src_ne_none hsome
    have hlayout := @parseLayout_moved host external mac buf l hparse hk
    have hmoved := @movedFrame_spec host external mac buf l hparse hk
    have hl := parseLayout_packet hparse hk
    have hihl := hl.ihl
    have hl4 := hl.l4
    have hsums := recomputeChecksums_agree (movedFrame host external mac l buf) l
    obtain ⟨srcOff, dstOff, hoffs, hsrc, hdst⟩ := h
    have hoffsets : addrOffsets buf = [l.l3 + 12, l.l3 + 16] := by
      rw [addrOffsets, hparse]
      exact if_pos hk
    rw [hoffsets] at hoffs
    simp only [List.cons.injEq, and_true] at hoffs
    obtain ⟨rfl, rfl⟩ := hoffs
    have hmove : ∀ a, plan a →
        plan (moveAddr host external a) ∨ moveAddr host external a = external := by
      intro a ha
      unfold moveAddr
      split
      · exact .inr rfl
      · exact .inl ha
    rw [promoteFrame_ipv4 hparse hk hmentions]
    refine ⟨l.l3 + 12, l.l3 + 16, ?_, ?_, fun hhost => ?_⟩
    · rw [addrOffsets, parseLayout_recompute hlayout hk]
      exact if_pos hk
    -- recomputing the checksums writes neither address
    · rw [hsums.be32_eq fun k hk hk' => by unfold ChecksumBytes; omega, hmoved.src]
      exact hmove _ hsrc
    · rw [hsums.be32_eq fun k hk hk' => by unfold ChecksumBytes; omega, hmoved.dst] at hhost ⊢
      unfold moveAddr at hhost ⊢
      split at hhost
      · next hto =>
        rw [if_pos hto]
        exact .inr rfl
      · next hother =>
        rw [if_neg hother]
        exact .inl (hdst hhost)

/-- **A promotion adds one address to the plan**, the external one. -/
theorem within_promoteHost {cap out : Capture} {externalCidrs : List String} {oui : OuiDb}
    {now : UInt64} {rng : Rng} {record : PromotedHost} (hcap : CaptureWithin plan cap)
    (h : (promoteHost cap externalCidrs oui now rng).1 = some (record, out)) :
    CaptureWithin (fun a => plan a ∨ a = record.externalIp) out := by
  obtain ⟨-, -, rfl⟩ := promoteHost_spec h
  intro q hq
  obtain ⟨p, hp, rfl⟩ := List.mem_map.mp hq
  exact (hcap p hp).promote

end TurboLaser
