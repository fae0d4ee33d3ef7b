import TurboLaser.Proto.MacPlan
import TurboLaser.Proto.ReconcileFacts
import TurboLaser.Proto.RemapTopology

/-!
# What leaves a remap

Both remaps end in the same tail (`rewriteAndFilter`), so what a surviving frame carries is decided
by the host map alone. `safe_of_covers` names the condition: a host of the capture that the map
leaves alone must not have an address the map hands out, or its own frames pass the guard
unrewritten.

The guard compares the rewritten addresses of a frame with the set of addresses that the map hands
out. It cannot tell an address that was put there from one that was there before, so it is sound
only if the two cannot be the same. That is `Covers`, and it is a condition on the map and the hosts
of the capture, without the frames.

- The map of `remapCapture` covers every capture, because it maps every host.
- The map of a reconcile covers the capture when each host is mapped or has an address the plan
  cannot hand out (`MappedOrForeign`). With no device to ride and the budget spent a host is left
  alone, and `reconcile_output_fails` shows one whose frames go out as captured: its address was
  handed to another host.

The condition on a reconcile is asked of every turn of the host loop, at the state in which the turn
is made, and `Covering` is the invariant that carries it to the end of the run.
-/

namespace TurboLaser

open Lib

/-! ## The addresses of a frame -/

/-- **A rewrite moves both addresses of a frame by the map**, and leaves them where they are. -/
theorem addrs_rewritten (map : HostMap) (macMap : MacMap) (seed : UInt64) (remapMac : Bool)
    {buf : List UInt8} {srcOff dstOff : Nat} (h : addrOffsets buf = [srcOff, dstOff]) :
    addrOffsets (applyHostMapFrame map macMap seed remapMac buf) = [srcOff, dstOff] ∧
      be32 (applyHostMapFrame map macMap seed remapMac buf) srcOff =
        image map (be32 buf srcOff) ∧
      be32 (applyHostMapFrame map macMap seed remapMac buf) dstOff =
        image map (be32 buf dstOff) := by
  cases hl : parseLayout buf with
  | none =>
    rw [addrOffsets, hl] at h
    cases h
  | some l =>
    have hl3 := (parseLayout_l3 hl).1
    rw [addrOffsets, hl] at h
    dsimp only at h
    cases hk : l.l3Kind with
    | ipv4 =>
      -- the rewrite keeps the layout, so the addresses are looked for at the same offsets
      have hr := rewriteIpv4_spec map macMap seed remapMac hl hk
      rw [if_pos hk] at h
      cases h
      rw [applyHostMapFrame_ipv4 hl hk]
      refine ⟨?_, hr.src, hr.dst⟩
      rw [addrOffsets, hr.layout hl hk]
      exact if_pos hk
    | other =>
      have hne : ¬ l.l3Kind = .ipv4 := by
        rw [hk]
        decide
      rw [if_neg hne] at h
      split at h
      · next harp =>
        have hr := remapArpAddrs_spec map macMap seed remapMac hl3 harp
        cases h
        rw [applyHostMapFrame_other hl hk]
        refine ⟨?_, hr.spa, hr.tpa⟩
        rw [addrOffsets, hr.layout hl hk]
        dsimp only
        rw [if_neg hne, if_pos ((isArpIpv4_congr hl3 hr.agree).trans harp)]
      · cases h

/-- A frame that passes the guard has two addresses, and these are what the guard asks about. -/
theorem addrs_of_passesGuard {map : HostMap} {buf : List UInt8} (h : passesGuard map buf = true) :
    ∃ srcOff dstOff, addrOffsets buf = [srcOff, dstOff] ∧ srcOff + 4 ≤ buf.length ∧
      dstOff + 4 ≤ buf.length ∧ srcIsPlan map.values (image map (be32 buf srcOff)) = true ∧
      dstOk map.values (image map (be32 buf dstOff)) = true := by
  unfold passesGuard at h
  cases hl : parseLayout buf with
  | none =>
    rw [hl] at h
    cases h
  | some l =>
    rw [hl] at h
    dsimp only at h
    cases hk : l.l3Kind with
    | ipv4 =>
      rw [hk] at h
      dsimp only at h
      rw [Bool.and_eq_true, Bool.and_eq_true] at h
      -- a frame that parses has its whole header, so both words are in it
      have hspec := parseLayout_ipv4 hl hk
      have hihl := hspec.ihl
      have hl4 := hspec.l4
      have hfit := hspec.l4_le
      refine ⟨l.l3 + 12, l.l3 + 16, ?_, by omega, by omega, h.2.1, h.2.2⟩
      rw [addrOffsets, hl]
      exact if_pos hk
    | other =>
      rw [hk] at h
      dsimp only at h
      rw [Bool.and_eq_true, Bool.and_eq_true] at h
      have hfit := isArpIpv4_length h.1
      have hne : ¬ l.l3Kind = .ipv4 := by
        rw [hk]
        decide
      refine ⟨l.l3 + 14, l.l3 + 24, ?_, by omega, by omega, h.2.1, h.2.2⟩
      rw [addrOffsets, hl]
      dsimp only
      rw [if_neg hne, if_pos h.1]

/-! ## Survivors -/

/-- A surviving frame against the frame it was: IPv4 or ARP, the source moved by the
map, the destination too when it names a host, and no mapped address left anywhere. -/
def SafeFrame (map : HostMap) (buf out : List UInt8) : Prop :=
  match addrOffsets buf with
  | [srcOff, dstOff] =>
    addrOffsets out = [srcOff, dstOff] ∧
      isRemappable (be32 buf srcOff) = true ∧
      map.lookup (be32 buf srcOff) = some (be32 out srcOff) ∧
      (if isRemappable (be32 buf dstOff) = true
        then map.lookup (be32 buf dstOff) = some (be32 out dstOff)
        else be32 out dstOff = be32 buf dstOff) ∧
      ∀ a ∈ map.keys, ∀ w ∈ windows4 out, w ≠ toBeBytes a
  | _ => False

/-- The output packets are a sublist of the input's, timestamps unchanged, and every
one of them is safe. -/
def OutputSafe (cap : Capture) (map : HostMap) (out : Capture) : Prop :=
  ∃ kept, List.Sublist kept cap.packets ∧
    List.Forall₂ (fun p q => q.ts = p.ts ∧ SafeFrame map p.data q.data) kept out.packets

/-- A packet leaves the remap: its images pass the guard and its rewritten bytes carry
no mapped address. -/
def survives (map : HostMap) (macMap : MacMap) (seed : UInt64) (remapMac : Bool)
    (p : OwnedPacket) : Bool :=
  passesGuard map p.data &&
    !carriesAddr map.keySet (applyHostMapFrame map macMap seed remapMac p.data)

/-- The tail of both remaps keeps the survivors, rewritten, in order. -/
theorem rewriteAndFilter_packets (cap : Capture) (map : HostMap) (macMap : MacMap) (seed : UInt64)
    (remapMac : Bool) :
    (rewriteAndFilter cap map macMap seed remapMac).packets =
      (cap.packets.filter (survives map macMap seed remapMac)).map
        fun p => { p with data := applyHostMapFrame map macMap seed remapMac p.data } := by
  -- the source rewrites first and then filters; whether a frame passes can be told beforehand
  have hcoherent : (dropIncoherentFrames (applyHostMap cap map macMap seed remapMac)
      map.values).packets = (cap.packets.filter fun p : OwnedPacket => passesGuard map p.data).map
        fun p => { p with data := applyHostMapFrame map macMap seed remapMac p.data } := by
    rw [dropIncoherentFrames, Capture.retain, applyHostMap, Capture.mapData, List.filter_map]
    show List.map _ _ = List.map _ _
    congr 1
    exact List.filter_congr fun (p : OwnedPacket) _ =>
      coherent_rewritten_iff map macMap seed remapMac p.data
  unfold rewriteAndFilter
  dsimp only
  split
  -- with nothing to look for, no frame leaks
  · next hempty =>
    rw [hcoherent]
    congr 1
    refine List.filter_congr fun p _ => ?_
    have hnone : carriesAddr map.keySet (applyHostMapFrame map macMap seed remapMac p.data) =
        false := by
      rw [carriesAddr, List.any_eq_false, hempty]
      simp
    rw [survives, hnone, Bool.not_false, Bool.and_true]
  · rw [dropPayloadLeakFrames, Capture.retain, hcoherent, List.filter_map, List.filter_filter]
    show List.map _ _ = List.map _ _
    congr 1
    exact List.filter_congr fun p _ => Bool.and_comm _ _

/-! ## Covering maps

A map covers a capture when it moves every host, or leaves alone one whose address it never hands
out. Under such a map a frame passes the guard only with addresses that were moved, since the guard
asks for addresses of the plan. The leak filter then answers for all other bytes.
-/

/-- The map moves every host of the capture, up to hosts whose address it never hands out,
and moves hosts only. -/
structure Covers (cap : Capture) (map : HostMap) : Prop where
  hosts : ∀ a ∈ captureHosts cap, a ∈ map ∨ a ∉ map.values
  remappable : ∀ a ∈ map, isRemappable a = true

theorem mem_captureHosts {cap : Capture} {p : OwnedPacket} (hp : p ∈ cap.packets) {off : Nat}
    (hoff : off ∈ addrOffsets p.data) (hfit : off + 4 ≤ p.data.length)
    (hrem : isRemappable (be32 p.data off) = true) : be32 p.data off ∈ captureHosts cap := by
  refine List.mem_flatMap.mpr ⟨p, hp, ?_⟩
  unfold frameHosts
  exact List.mem_filter.mpr ⟨List.mem_map.mpr ⟨off, List.mem_filter.mpr
    ⟨hoff, decide_eq_true hfit⟩, rfl⟩, hrem⟩

theorem isRemappable_of_mem_captureHosts {cap : Capture} {a : Ipv4Addr}
    (h : a ∈ captureHosts cap) : isRemappable a = true := by
  obtain ⟨p, -, ha⟩ := List.mem_flatMap.mp h
  unfold frameHosts at ha
  exact (List.mem_filter.mp ha).2

section Covers

variable {cap : Capture} {map : HostMap} (hcov : Covers cap map)
include hcov

/-- A host whose image is handed out by the map is itself mapped. -/
theorem Covers.mem_of_image {a : Ipv4Addr} (ha : a ∈ captureHosts cap)
    (hvalid : image map a ∈ map.values) : a ∈ map := by
  by_contra hnot
  have hsame : image map a = a := by
    rw [image, AList.lookup_eq_none.mpr hnot]
    rfl
  rw [hsame] at hvalid
  exact (hcov.hosts a ha).elim hnot fun h => h hvalid

/-- A mapped host is a host. -/
theorem Covers.remappable_of_mem_image {a : Ipv4Addr}
    (hrem : isRemappable (image map a) = true) : isRemappable a = true := by
  by_cases ha : a ∈ map
  · exact hcov.remappable a ha
  · rwa [image, AList.lookup_eq_none.mpr ha] at hrem

theorem Covers.not_mem {a : Ipv4Addr} (h : isRemappable a ≠ true) : a ∉ map :=
  fun ha => h (hcov.remappable a ha)

omit hcov in
theorem lookup_eq_image {a : Ipv4Addr} (ha : a ∈ map) : map.lookup a = some (image map a) := by
  obtain ⟨b, hb⟩ := Option.isSome_iff_exists.mp (AList.lookup_isSome.mpr ha)
  rw [image, hb]
  rfl

/-- A frame that passes the guard has its addresses moved by the map: the guard asks
for addresses of the plan, and a host left alone has none. -/
theorem Covers.safe_addrs {p : OwnedPacket} (hp : p ∈ cap.packets) {srcOff dstOff : Nat}
    (hoffs : addrOffsets p.data = [srcOff, dstOff]) (hsrcFit : srcOff + 4 ≤ p.data.length)
    (hdstFit : dstOff + 4 ≤ p.data.length)
    (hsrc : srcIsPlan map.values (image map (be32 p.data srcOff)) = true)
    (hdst : dstOk map.values (image map (be32 p.data dstOff)) = true) :
    isRemappable (be32 p.data srcOff) = true ∧
      map.lookup (be32 p.data srcOff) = some (image map (be32 p.data srcOff)) ∧
      if isRemappable (be32 p.data dstOff) = true
        then map.lookup (be32 p.data dstOff) = some (image map (be32 p.data dstOff))
        else image map (be32 p.data dstOff) = be32 p.data dstOff := by
  unfold srcIsPlan at hsrc
  rw [Bool.and_eq_true, decide_eq_true_iff] at hsrc
  have hrem := hcov.remappable_of_mem_image hsrc.1
  have hsrcHost := mem_captureHosts hp (by rw [hoffs]; exact List.mem_cons_self) hsrcFit hrem
  refine ⟨hrem, lookup_eq_image (hcov.mem_of_image hsrcHost hsrc.2), ?_⟩
  split
  · next hdrem =>
    have hdstHost := mem_captureHosts hp
      (by rw [hoffs]; exact List.mem_cons_of_mem _ List.mem_cons_self) hdstFit hdrem
    by_cases hin : be32 p.data dstOff ∈ map
    · exact lookup_eq_image hin
    · -- left alone, the destination passes the guard only as an address of the plan
      have hsame : image map (be32 p.data dstOff) = be32 p.data dstOff := by
        rw [image, AList.lookup_eq_none.mpr hin]
        rfl
      rw [hsame, dstOk, hdrem, Bool.not_true, Bool.false_or, decide_eq_true_iff] at hdst
      exact absurd hdst ((hcov.hosts _ hdstHost).resolve_left hin)
  · next hdrem =>
    rw [image, AList.lookup_eq_none.mpr (hcov.not_mem hdrem)]
    rfl

/-- A survivor is safe. -/
theorem Covers.safeFrame {macMap : MacMap} {seed : UInt64} {remapMac : Bool} {p : OwnedPacket}
    (hp : p ∈ cap.packets) (hsurvives : survives map macMap seed remapMac p = true) :
    SafeFrame map p.data (applyHostMapFrame map macMap seed remapMac p.data) := by
  unfold survives at hsurvives
  rw [Bool.and_eq_true, Bool.not_eq_true'] at hsurvives
  obtain ⟨hpass, hleak⟩ := hsurvives
  have hnoLeak : ∀ a ∈ map.keys,
      ∀ w ∈ windows4 (applyHostMapFrame map macMap seed remapMac p.data), w ≠ toBeBytes a := by
    intro a ha w hw hsame
    have := List.any_eq_false.mp hleak w hw
    rw [decide_eq_true_iff] at this
    exact this ⟨a, List.mem_toFinset.mpr ha, hsame.symm⟩
  obtain ⟨srcOff, dstOff, hoffs, hsrcFit, hdstFit, hsrc, hdst⟩ := addrs_of_passesGuard hpass
  obtain ⟨hoffs', hsrc', hdst'⟩ := addrs_rewritten map macMap seed remapMac hoffs
  obtain ⟨hrem, hsrcMap, hdstMap⟩ := hcov.safe_addrs hp hoffs hsrcFit hdstFit hsrc hdst
  rw [SafeFrame, hoffs]
  dsimp only
  rw [hsrc', hdst']
  exact ⟨hoffs', hrem, hsrcMap, hdstMap, hnoLeak⟩

/-- **A covering map lets only safe frames out.** -/
theorem safe_of_covers (macMap : MacMap) (seed : UInt64) (remapMac : Bool) :
    OutputSafe cap map (rewriteAndFilter cap map macMap seed remapMac) := by
  refine ⟨cap.packets.filter (survives map macMap seed remapMac), List.filter_sublist, ?_⟩
  rw [rewriteAndFilter_packets, List.forall₂_map_right_iff, List.forall₂_same]
  intro p hp
  obtain ⟨hin, hsurvives⟩ := List.mem_filter.mp hp
  exact ⟨rfl, hcov.safeFrame hin hsurvives⟩

end Covers

/-- The per-run remap maps every host. -/
theorem covers_remapMap (cap : Capture) (hints : List Ipv4Net) (rng : Rng) :
    Covers cap (remapMap cap hints rng) :=
  ⟨fun _ ha => Or.inl (mem_remapMap.mpr ha),
    fun _ ha => isRemappable_of_mem_captureHosts (mem_remapMap.mp ha)⟩

/-! ## Reconciling

A host that gets no place is left out of the map, and that is safe only if its own address is never
handed out to another. Three ways are open to a host before that: it is registered, a zone has a
slot, or it is forced onto a device. Coverage is carried along the turns, with every image an
address of the plan.
-/

/-- The groups hold every host of the capture and hosts only, as `capture_groups`
builds them. -/
structure GroupsOf (cap : Capture) (groups : List CaptureGroup) : Prop where
  covers : ∀ a ∈ captureHosts cap, ∃ g ∈ groups, a ∈ g.hosts
  remappable : ∀ g ∈ groups, ∀ a ∈ g.hosts, isRemappable a = true

/-- An address the plan can hand out: a device, a registered asset, or one in a zone. -/
def Assignable (ctx : ReconcileCtx) (a : Ipv4Addr) : Prop :=
  a ∈ allReserved ctx.zones ∨ a ∈ ctx.registered.values ∨
    ∃ z ∈ ctx.zones, z.net.contains a = true

/-- One of the three ways is open to the host, or its own address is none of the plan's. -/
def MappedOrForeign (ctx : ReconcileCtx) (st : PlaceState) (j : Job) : Prop :=
  (j.host ∈ ctx.registered ∨ openSlot st j ≠ none ∨ forceMapTarget ctx.zones j.zi ≠ none) ∨
    ¬ Assignable ctx j.host

instance (ctx : ReconcileCtx) (a : Ipv4Addr) : Decidable (Assignable ctx a) :=
  inferInstanceAs (Decidable (_ ∨ _ ∨ _))

instance (ctx : ReconcileCtx) (st : PlaceState) (j : Job) :
    Decidable (MappedOrForeign ctx st j) :=
  inferInstanceAs (Decidable ((_ ∨ _ ∨ _) ∨ ¬ _))

/-- The host map a reconcile builds. -/
def reconcileMap (ctx : ReconcileCtx) (groups : List CaptureGroup) : Option HostMap :=
  (placeAll ctx (jobs ctx groups) (initState ctx)).map PlaceState.map

theorem mem_values_insert {map : HostMap} {a b v : Ipv4Addr}
    (h : v ∈ HostMap.values (map.insert a b)) : v = b ∨ v ∈ map.values := by
  unfold HostMap.values at h ⊢
  rw [AList.entries_insert, List.map_cons, List.mem_toFinset, List.mem_cons] at h
  refine h.imp_right fun hv => ?_
  obtain ⟨e, he, rfl⟩ := List.mem_map.mp hv
  exact List.mem_toFinset.mpr (List.mem_map.mpr ⟨e, (List.kerase_sublist a _).subset he, rfl⟩)

/-- The values of the map after a turn are old ones or the placement's. -/
theorem mem_values_record {st : PlaceState} {j : Job} {pl : Placement} {v : Ipv4Addr}
    (h : v ∈ (st.record j pl).map.values) : pl.ip? = some v ∨ v ∈ st.map.values := by
  cases pl with
  | unmapped => exact Or.inr h
  | _ => exact (mem_values_insert h).imp_left fun hv => by rw [hv]; rfl

/-- Every address a turn hands out is one of the plan's. -/
theorem assignable_of_chosen {ctx : ReconcileCtx} {st : PlaceState} {j : Job} {pl : Placement}
    (hzone : j.zone ∈ ctx.zones) (h : Chosen ctx st j pl) {v : Ipv4Addr} (hv : pl.ip? = some v) :
    Assignable ctx v := by
  cases h with
  | reuse hreg =>
    cases hv
    exact Or.inr (Or.inl (mem_values_of_lookup hreg))
  | fresh hreg hslot hmac =>
    cases hv
    exact Or.inr (Or.inr ⟨j.zone, hzone, (openSlot_spec hslot).2.2⟩)
  | ride hreg hslot htarget =>
    cases hv
    exact Or.inl (mem_of_forceMapTarget htarget)
  | unmapped hreg hslot htarget => cases hv

/-- What the run keeps for coverage: the hosts done are mapped or foreign, only hosts
done are mapped, and every image is an address of the plan. -/
structure Covering (ctx : ReconcileCtx) (done : List Job) (st : PlaceState) : Prop where
  hosts : ∀ j ∈ done, j.host ∈ st.map ∨ ¬ Assignable ctx j.host
  keys : ∀ a ∈ st.map, ∃ j ∈ done, j.host = a
  values : ∀ v ∈ st.map.values, Assignable ctx v

theorem Covering.step {ctx : ReconcileCtx} {done : List Job} {st : PlaceState} {j : Job}
    {pl : Placement} (h : Covering ctx done st) (hzone : j.zone ∈ ctx.zones)
    (hguard : MappedOrForeign ctx st j) (hchosen : Chosen ctx st j pl) :
    Covering ctx (done ++ [j]) (st.record j pl) := by
  refine ⟨fun j' hj' => ?_, fun a ha => ?_, fun v hv => ?_⟩
  · have hmono : ∀ a ∈ st.map, a ∈ (st.record j pl).map := by
      intro a ha
      rw [← AList.lookup_isSome, lookup_record]
      have hsome := AList.lookup_isSome.mpr ha
      split
      · rw [Option.isSome_or, hsome, Bool.or_true]
      · exact hsome
    rcases List.mem_append.mp hj' with hold | hnew
    · exact (h.hosts j' hold).imp_left (hmono _)
    · rw [List.mem_singleton.mp hnew]
      have hmapped : pl.ip?.isSome → j.host ∈ (st.record j pl).map := by
        intro hsome
        rw [← AList.lookup_isSome, lookup_record, if_pos rfl, Option.isSome_or, hsome,
          Bool.true_or]
      -- every other placement gives the host an address
      cases hchosen with
      | unmapped hreg hslot htarget =>
        rcases hguard with (hin | hopen | hdevice) | hforeign
        · exact absurd hin (AList.lookup_eq_none.mp hreg)
        · exact absurd hslot hopen
        · exact absurd htarget hdevice
        · exact Or.inr hforeign
      | _ => exact Or.inl (hmapped rfl)
  · by_cases hhost : a = j.host
    · exact ⟨j, List.mem_append_right _ (List.mem_singleton.mpr rfl), hhost.symm⟩
    · rw [← AList.lookup_isSome, lookup_record, if_neg hhost, AList.lookup_isSome] at ha
      obtain ⟨j', hj', hja⟩ := h.keys a ha
      exact ⟨j', List.mem_append_left _ hj', hja⟩
  · rcases mem_values_record hv with hip | hold
    · exact assignable_of_chosen hzone hchosen hip
    · exact h.values v hold

/-- **A run whose turns map their host or leave a foreign one covers the capture.** -/
theorem covers_of_run {cap : Capture} {groups : List CaptureGroup} {ctx : ReconcileCtx}
    {st : PlaceState} (hgroups : GroupsOf cap groups) (hzones : ctx.zones ≠ [])
    (hguard : EveryJob ctx (MappedOrForeign ctx) (jobs ctx groups) (initState ctx))
    (hrun : placeAll ctx (jobs ctx groups) (initState ctx) = some st) : Covers cap st.map := by
  have hjobs : EveryJob ctx (fun _ j => j.zone ∈ ctx.zones) (jobs ctx groups) (initState ctx) :=
    everyStep_of_forall (fun _ _ hj => zone_mem_of_mem_jobs hj) (initState ctx)
  have hinit : Covering ctx [] (initState ctx) :=
    ⟨nofun, fun a ha => absurd ha (AList.notMem_empty a), nofun⟩
  have hend := placeAll_induct (P := Covering ctx)
    (fun done st j pl h hg hpl => h.step hg.2 hg.1 (choosePlacement_cases hpl)) hinit
    (hguard.and hjobs) hrun
  rw [List.nil_append] at hend
  refine ⟨fun a ha => ?_, fun a ha => ?_⟩
  · obtain ⟨g, hg, hag⟩ := hgroups.covers a ha
    obtain ⟨j, hj, rfl⟩ := exists_job hzones hg hag
    exact (hend.hosts j hj).imp_right fun hforeign hval => hforeign (hend.values _ hval)
  · obtain ⟨j, hj, rfl⟩ := hend.keys a ha
    obtain ⟨g, hg, hjob⟩ := List.mem_flatMap.mp hj
    rw [sortGroups, List.mem_insertionSort] at hg
    refine hgroups.remappable g hg j.host ?_
    unfold jobsOf at hjob
    split at hjob
    · cases hjob
    · obtain ⟨host, hhost, rfl⟩ := List.mem_map.mp hjob
      exact (List.mem_insertionSort _).mp hhost

/-! ## Both remaps -/

/-- **What leaves a remap is safe**: of the per-run remap always, of a reconcile when no turn leaves
alone a host whose address the plan can hand out. Safe is a frame whose two addresses are moved by
the map, with no mapped address left in any four bytes of it. -/
theorem output_safe (cap : Capture) :
    (∀ (seedFrom : UInt64 → Rng) (hints : List Ipv4Net) (seed : UInt64) (remapMac : Bool),
      OutputSafe cap (remapMap cap hints (seedFrom seed))
        (remapCapture seedFrom cap hints seed remapMac).1) ∧
    (∀ (out : Capture) (groups : List CaptureGroup) (ctx : ReconcileCtx)
      (summary : RemapSummary) (assets : List NewCaptureAsset),
      GroupsOf cap groups → ctx.zones ≠ [] →
      EveryJob ctx (MappedOrForeign ctx) (jobs ctx groups) (initState ctx) →
      reconcileCaptureIntoZones cap groups ctx = some (out, summary, assets) →
      ∃ map, reconcileMap ctx groups = some map ∧ OutputSafe cap map out) := by
  constructor
  · intro seedFrom hints seed remapMac
    exact safe_of_covers (covers_remapMap cap hints (seedFrom seed)) ∅ seed remapMac
  · intro out groups ctx summary assets hgroups hzones hguard hrec
    obtain ⟨st, hrun, -, rfl⟩ := reconcile_run hzones hrec
    refine ⟨st.map, by rw [reconcileMap, hrun]; rfl, ?_⟩
    exact safe_of_covers (covers_of_run hgroups hzones hguard hrun) _ ctx.seed ctx.remapMac

/-- A bare IPv4 header between two addresses in an Ethernet frame. -/
def bareFrame (src dst : Ipv4Addr) : List UInt8 :=
  [0x52, 0x54, 0, 0, 0, 1, 0x52, 0x54, 0, 0, 0, 2, 0x08, 0x00,
    0x45, 0, 0, 20, 0, 0, 0x40, 0, 0x40, 253, 0, 0] ++ toBeBytes src ++ toBeBytes dst

/-- One frame from 10.0.0.5, an address of the plan, to 1.1.1.5. -/
def planAddressCapture : Capture := ⟨[⟨1, 34, bareFrame (ipv4 10 0 0 5) (ipv4 1 1 1 5)⟩]⟩

def planAddressGroups : List CaptureGroup :=
  [⟨.slash24 (ipv4 10 0 0 0), 1, none, none, [ipv4 10 0 0 5]⟩,
    ⟨.slash24 (ipv4 1 1 1 0), 1, none, none, [ipv4 1 1 1 5]⟩]

/-- One zone, 10.0.0.0/24, without a device. -/
def emptyZoneCtx (budget : Nat) : ReconcileCtx :=
  { zones := [⟨.slash24 (ipv4 10 0 0 0), none, 1, none, ∅⟩]
    affinity := .off
    seed := 0
    remapMac := true
    registered := ∅
    deviceMacs := ∅
    reservedMacs := ∅
    budget }

theorem planAddressGroups_groupsOf : GroupsOf planAddressCapture planAddressGroups :=
  ⟨by decide +kernel, by decide +kernel⟩

/-- With room for both hosts the frame goes out safe. -/
theorem output_safe_two_slots :
    ∃ out map, (reconcileCaptureIntoZones planAddressCapture planAddressGroups
        (emptyZoneCtx 2)).map Prod.fst = some out ∧
      reconcileMap (emptyZoneCtx 2) planAddressGroups = some map ∧
      OutputSafe planAddressCapture map out := by
  have hsome : (reconcileCaptureIntoZones planAddressCapture planAddressGroups
      (emptyZoneCtx 2)).isSome := by
    decide +kernel
  obtain ⟨⟨out, summary, assets⟩, hrec⟩ := Option.isSome_iff_exists.mp hsome
  obtain ⟨map, hmap, hsafe⟩ := (output_safe planAddressCapture).2 out planAddressGroups
    (emptyZoneCtx 2) summary assets planAddressGroups_groupsOf (by decide) (by decide +kernel) hrec
  refine ⟨out, map, ?_, hmap, hsafe⟩
  rw [hrec]
  rfl

/-- With room for one, 1.1.1.5 is moved to 10.0.0.5, the host that has this address is
left alone, and its frame goes out with a source the map does not know. -/
theorem reconcile_output_fails :
    ¬ ∀ (cap out : Capture) (groups : List CaptureGroup) (ctx : ReconcileCtx)
      (summary : RemapSummary) (assets : List NewCaptureAsset),
      GroupsOf cap groups →
      reconcileCaptureIntoZones cap groups ctx = some (out, summary, assets) →
      ∃ map, reconcileMap ctx groups = some map ∧ OutputSafe cap map out := by
  intro h
  have hsome : (reconcileCaptureIntoZones planAddressCapture planAddressGroups
      (emptyZoneCtx 1)).isSome := by
    decide +kernel
  obtain ⟨⟨out, summary, assets⟩, hrec⟩ := Option.isSome_iff_exists.mp hsome
  obtain ⟨map, hmap, kept, hkept, hsafe⟩ := h planAddressCapture out planAddressGroups
    (emptyZoneCtx 1) summary assets planAddressGroups_groupsOf hrec
  have hout : out.packets.length = 1 := by
    have : ((reconcileCaptureIntoZones planAddressCapture planAddressGroups
        (emptyZoneCtx 1)).map fun r => r.1.packets.length) = some 1 := by
      decide +kernel
    rw [hrec] at this
    exact Option.some.inj this
  have hunmapped : (map.lookup (ipv4 10 0 0 5)) = none := by
    have : (reconcileMap (emptyZoneCtx 1) planAddressGroups).map
        (fun map => map.lookup (ipv4 10 0 0 5)) = some none := by
      decide +kernel
    rw [hmap] at this
    exact Option.some.inj this
  obtain ⟨q, hq⟩ := List.length_eq_one_iff.mp hout
  rw [hq] at hsafe
  cases hsafe with
  | @cons p _ kept' _ hpq _ =>
    -- the frame that is left is that of the host without a mapping
    have hp : p = ⟨1, 34, bareFrame (ipv4 10 0 0 5) (ipv4 1 1 1 5)⟩ :=
      List.mem_singleton.mp (hkept.subset List.mem_cons_self)
    have hoffs : addrOffsets p.data = [26, 30] := by
      rw [hp]
      decide +kernel
    have hsrc : be32 p.data 26 = ipv4 10 0 0 5 := by
      rw [hp]
      decide +kernel
    have hframe := hpq.2
    rw [SafeFrame, hoffs] at hframe
    have hmapped := hframe.2.2.1
    rw [hsrc, hunmapped] at hmapped
    cases hmapped

end TurboLaser
