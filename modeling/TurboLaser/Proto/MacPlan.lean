import TurboLaser.Proto.RewriteFacts

/-!
# Which hardware addresses of a rewritten frame belong to the plan

The output guard looks at protocol addresses only, so whether a surviving frame still carries a
hardware address of the capture is decided by the rewrite alone: a field is rewritten when the
address behind it is mapped. `macs_from_plan_iff` says for which captures that covers every field of
every survivor. It does not cover, for one, the unicast ARP probe of `unicastProbe`: its target
hardware address is zero, so the Ethernet destination is left as captured.

A hardware address belongs to the plan if it is the MAC that the plan gives to some address the map
hands out, or if it names no single host: a group address, or the zeros of an ARP request. In an
IPv4 frame the two fields stand for the two addresses of the packet. In an ARP frame there are four
fields and two addresses, and the Ethernet destination stands for the target only where the body
knows the target's MAC. The condition is therefore read off the captured fields, frame by frame, for
the frames that pass the guard; it is necessary because a field that is not rewritten is there as it
came.
-/

namespace TurboLaser

open Lib

/-- A MAC some address of the plan answers for. -/
def IsPlanMac (map : HostMap) (macMap : MacMap) (seed : UInt64) (m : Mac) : Prop :=
  ∃ ip ∈ map.values, m = macFor macMap seed ip

instance (map : HostMap) (macMap : MacMap) (seed : UInt64) (m : Mac) :
    Decidable (IsPlanMac map macMap seed m) :=
  inferInstanceAs (Decidable (∃ ip ∈ map.values, m = macFor macMap seed ip))

/-- The group bit of the Ethernet destination. -/
def IsGroupDst (buf : List UInt8) : Prop := byte buf 0 &&& 0x01 ≠ 0

instance (buf : List UInt8) : Decidable (IsGroupDst buf) :=
  inferInstanceAs (Decidable (byte buf 0 &&& 0x01 ≠ 0))

/-- Every hardware address of a frame that can name a host is a plan MAC: the
Ethernet source, a unicast Ethernet destination, and for ARP the sender's hardware
address and a target hardware address that is neither zero nor broadcast. -/
def MacsFromPlan (map : HostMap) (macMap : MacMap) (seed : UInt64) (buf : List UInt8) : Prop :=
  match parseLayout buf with
  | none => True
  | some l =>
    IsPlanMac map macMap seed (macAt buf 6) ∧
      (¬ IsGroupDst buf → IsPlanMac map macMap seed (macAt buf 0)) ∧
      (l.l3Kind = .other → isArpIpv4 buf l.l3 = true →
        IsPlanMac map macMap seed (macAt buf (l.l3 + 8)) ∧
        (isRealMac (macAt buf (l.l3 + 18)).bytes = true →
          IsPlanMac map macMap seed (macAt buf (l.l3 + 18))))

/-- Every hardware address of a captured frame is either rewritten, because the
address behind it is mapped, or harmless as it stands. -/
def MacFieldsCovered (map : HostMap) (macMap : MacMap) (seed : UInt64) (buf : List UInt8) : Prop :=
  match parseLayout buf with
  | none => True
  | some l =>
    match l.l3Kind with
    | .ipv4 =>
      (be32 buf (l.l3 + 12) ∈ map ∨ IsPlanMac map macMap seed (macAt buf 6)) ∧
        (IsGroupDst buf ∨ be32 buf (l.l3 + 16) ∈ map ∨ IsPlanMac map macMap seed (macAt buf 0))
    | .other =>
      (be32 buf (l.l3 + 14) ∈ map ∨ IsPlanMac map macMap seed (macAt buf 6)) ∧
        (IsGroupDst buf ∨
          (isRealMac (macAt buf (l.l3 + 18)).bytes = true ∧ be32 buf (l.l3 + 24) ∈ map) ∨
          IsPlanMac map macMap seed (macAt buf 0)) ∧
        (be32 buf (l.l3 + 14) ∈ map ∨ IsPlanMac map macMap seed (macAt buf (l.l3 + 8))) ∧
        (isRealMac (macAt buf (l.l3 + 18)).bytes = true → be32 buf (l.l3 + 24) ∈ map ∨
          IsPlanMac map macMap seed (macAt buf (l.l3 + 18)))

/-! ## One field -/

section Field

variable {map : HostMap} {macMap : MacMap} {seed : UInt64}

theorem mem_values_of_lookup {a b : Ipv4Addr} (h : map.lookup a = some b) : b ∈ map.values := by
  rw [HostMap.values, List.mem_toFinset, List.mem_map]
  exact ⟨⟨a, b⟩, AList.mem_lookup_iff.mp h, rfl⟩

/-- A field whose address is mapped gets a plan MAC; another keeps what it has. -/
theorem isPlanMac_planMac_iff {a : Ipv4Addr} {old : Mac} :
    IsPlanMac map macMap seed (planMac macMap seed (map.lookup a) old) ↔
      a ∈ map ∨ IsPlanMac map macMap seed old := by
  cases hl : map.lookup a with
  | none =>
    have hnot : a ∉ map := AList.lookup_eq_none.mp hl
    exact ⟨Or.inr, fun h => h.resolve_left hnot⟩
  | some b =>
    have hin : a ∈ map := AList.lookup_isSome.mp (by rw [hl]; rfl)
    exact ⟨fun _ => Or.inl hin, fun _ => ⟨b, mem_values_of_lookup hl, rfl⟩⟩

/-- The group bit is part of the destination MAC. -/
theorem IsGroupDst_congr {b b' : List UInt8} (h : macAt b 0 = macAt b' 0) :
    IsGroupDst b ↔ IsGroupDst b' := by
  have h0 : byte b 0 = byte b' 0 := congrArg Mac.m0 h
  unfold IsGroupDst
  rw [h0]

end Field

/-! ## One frame

Field by field: a MAC behind a mapped address becomes a plan MAC, and one that is left alone has to
be one already. The guard has looked at the two addresses before. What it does not decide is the
destination of a group, and the target of an ARP request.
-/

section Frame

variable {map : HostMap} {macMap : MacMap} {seed : UInt64} {buf : List UInt8} {l : FrameLayout}

/-- The fields of an IPv4 frame: the destination is left alone if it is a group. -/
theorem macsFromPlan_ipv4_iff (hl : parseLayout buf = some l) (hk : l.l3Kind = .ipv4) :
    MacsFromPlan map macMap seed (applyHostMapFrame map macMap seed true buf) ↔
      MacFieldsCovered map macMap seed buf := by
  have hr := rewriteIpv4_spec map macMap seed true hl hk
  rw [applyHostMapFrame_ipv4 hl hk, MacsFromPlan, hr.layout hl hk, MacFieldsCovered, hl]
  dsimp only
  rw [hk, hr.srcMac rfl, isPlanMac_planMac_iff]
  -- the source field is the same question on both sides; the destination asks for its group bit
  -- first
  refine and_congr Iff.rfl ?_
  constructor
  · rintro ⟨hdst, -⟩
    by_cases hg : IsGroupDst buf
    · exact Or.inl hg
    · have hmac := hr.dstMac rfl
      rw [if_pos (not_not.mp hg)] at hmac
      by_cases hin : be32 buf (l.l3 + 16) ∈ map
      · exact Or.inr (Or.inl hin)
      · rw [AList.lookup_eq_none.mpr hin] at hmac
        have := hdst ((IsGroupDst_congr hmac).not.mpr hg)
        rw [hmac] at this
        exact Or.inr (Or.inr this)
  · intro hcov
    refine ⟨fun hg => ?_, nofun⟩
    have hmac := hr.dstMac rfl
    by_cases hgb : IsGroupDst buf
    · rw [if_neg hgb] at hmac
      exact absurd ((IsGroupDst_congr hmac).mpr hgb) hg
    · rw [if_pos (not_not.mp hgb)] at hmac
      rw [hmac, isPlanMac_planMac_iff]
      exact hcov.resolve_left hgb

/-- The fields of an ARP frame: a real target hardware address decides both the target field and the
destination. -/
theorem macsFromPlan_arp_iff (hl : parseLayout buf = some l) (hk : l.l3Kind = .other)
    (harp : isArpIpv4 buf l.l3 = true) :
    MacsFromPlan map macMap seed (applyHostMapFrame map macMap seed true buf) ↔
      MacFieldsCovered map macMap seed buf := by
  have hl3 := parseLayout_l3 hl
  have hr := remapArpAddrs_spec map macMap seed true hl3.1 harp
  have harp' := (isArpIpv4_congr hl3.1 hr.agree).trans harp
  rw [applyHostMapFrame_other hl hk, MacsFromPlan, hr.layout hl hk, MacFieldsCovered, hl]
  dsimp only
  rw [hk, hr.srcMac rfl, hr.sha rfl, isPlanMac_planMac_iff, isPlanMac_planMac_iff]
  have hdstMac := hr.dstMac rfl
  have htha := hr.tha rfl
  -- a request does not know the target's MAC, so its target field and its destination are not
  -- rewritten
  by_cases hreal : isRealMac (macAt buf (l.l3 + 18)).bytes = true
  · rw [if_pos hreal] at hdstMac htha
    by_cases hin : be32 buf (l.l3 + 24) ∈ map
    · have hdst : IsPlanMac map macMap seed
          (macAt (remapArpAddrs map macMap seed true l.l3 buf) 0) := by
        rw [hdstMac]
        exact isPlanMac_planMac_iff.mpr (Or.inl hin)
      have htgt : IsPlanMac map macMap seed
          (macAt (remapArpAddrs map macMap seed true l.l3 buf) (l.l3 + 18)) := by
        rw [htha]
        exact isPlanMac_planMac_iff.mpr (Or.inl hin)
      constructor
      · rintro ⟨hsrc, -, hrest⟩
        exact ⟨hsrc, Or.inr (Or.inl ⟨hreal, hin⟩), (hrest rfl harp').1, fun _ => Or.inl hin⟩
      · rintro ⟨hsrc, -, hsha, -⟩
        exact ⟨hsrc, fun _ => hdst, fun _ _ => ⟨hsha, fun _ => htgt⟩⟩
    -- the target is not mapped: both fields are as they were captured
    · rw [AList.lookup_eq_none.mpr hin] at hdstMac htha
      change macAt _ 0 = macAt buf 0 at hdstMac
      change macAt _ (l.l3 + 18) = macAt buf (l.l3 + 18) at htha
      rw [IsGroupDst_congr hdstMac, hdstMac, htha]
      constructor
      · rintro ⟨hsrc, hdst, hrest⟩
        obtain ⟨hsha, htgt⟩ := hrest rfl harp'
        refine ⟨hsrc, ?_, hsha, fun h => Or.inr (htgt h)⟩
        exact (em (IsGroupDst buf)).imp_right fun hg => Or.inr (hdst hg)
      · rintro ⟨hsrc, hdst, hsha, htgt⟩
        refine ⟨hsrc, fun hg => ?_, fun _ _ => ⟨hsha, fun h => (htgt h).resolve_left hin⟩⟩
        exact ((hdst.resolve_left hg).resolve_left fun h => hin h.2)
  · rw [if_neg hreal] at hdstMac htha
    rw [IsGroupDst_congr hdstMac, hdstMac, htha]
    constructor
    · rintro ⟨hsrc, hdst, hrest⟩
      refine ⟨hsrc, ?_, (hrest rfl harp').1, fun h => absurd h hreal⟩
      exact (em (IsGroupDst buf)).imp_right fun hg => Or.inr (hdst hg)
    · rintro ⟨hsrc, hdst, hsha, -⟩
      refine ⟨hsrc, fun hg => ?_, fun _ _ => ⟨hsha, fun h => absurd h hreal⟩⟩
      exact ((hdst.resolve_left hg).resolve_left fun h => hreal h.1)

/-- On a frame the guard lets through, the fields are plan MACs exactly when they are covered. -/
theorem macsFromPlan_rewritten_iff (hpass : passesGuard map buf = true) :
    MacsFromPlan map macMap seed (applyHostMapFrame map macMap seed true buf) ↔
      MacFieldsCovered map macMap seed buf := by
  unfold passesGuard at hpass
  cases hl : parseLayout buf with
  | none =>
    rw [hl] at hpass
    cases hpass
  | some l =>
    rw [hl] at hpass
    cases hk : l.l3Kind with
    | ipv4 => exact macsFromPlan_ipv4_iff hl hk
    | other =>
      dsimp only at hpass
      rw [hk] at hpass
      exact macsFromPlan_arp_iff hl hk (Bool.and_eq_true_iff.mp hpass).1

end Frame

/-! ## A whole capture -/

/-- The survivors of the guard are the rewritten frames it passes, seen from the input. -/
theorem mem_survivors_iff {cap : Capture} {map : HostMap} {macMap : MacMap} {seed : UInt64}
    {remapMac : Bool} {q : OwnedPacket} :
    q ∈ (dropIncoherentFrames (applyHostMap cap map macMap seed remapMac) map.values).packets ↔
      ∃ p ∈ cap.packets, passesGuard map p.data = true ∧
        { p with data := applyHostMapFrame map macMap seed remapMac p.data } = q := by
  rw [dropIncoherentFrames, Capture.retain, applyHostMap, Capture.mapData, List.mem_filter,
    List.mem_map]
  constructor
  · rintro ⟨⟨p, hp, rfl⟩, hcoh⟩
    exact ⟨p, hp, by rw [← coherent_rewritten_iff map macMap seed remapMac]; exact hcoh, rfl⟩
  · rintro ⟨p, hp, hpass, rfl⟩
    exact ⟨⟨p, hp, rfl⟩, by rw [coherent_rewritten_iff]; exact hpass⟩

theorem macFieldsCovered_of_survivors {cap : Capture} {map : HostMap} {macMap : MacMap}
    {seed : UInt64}
    (h : ∀ q ∈ (dropIncoherentFrames (applyHostMap cap map macMap seed true) map.values).packets,
      MacsFromPlan map macMap seed q.data) :
    ∀ p ∈ cap.packets, passesGuard map p.data = true →
      MacFieldsCovered map macMap seed p.data := by
  intro p hp hpass
  exact (macsFromPlan_rewritten_iff hpass).mp (h _ (mem_survivors_iff.mpr ⟨p, hp, hpass, rfl⟩))

/-- **When no captured hardware address survives**: exactly when every field of every frame the
guard lets through is covered. Which fields a frame has, and whether the map covers them, is read
off the captured frame; frames that the guard drops do not matter. -/
theorem macs_from_plan_iff (cap : Capture) (map : HostMap) (macMap : MacMap) (seed : UInt64) :
    (∀ q ∈ (dropIncoherentFrames (applyHostMap cap map macMap seed true) map.values).packets,
        MacsFromPlan map macMap seed q.data) ↔
      ∀ p ∈ cap.packets, passesGuard map p.data = true →
        MacFieldsCovered map macMap seed p.data := by
  constructor
  · exact macFieldsCovered_of_survivors
  · intro h q hq
    obtain ⟨p, hp, hpass, rfl⟩ := mem_survivors_iff.mp hq
    exact (macsFromPlan_rewritten_iff hpass).mpr (h p hp hpass)

/-- A unicast ARP probe, as a host sends it to revalidate a neighbour: request,
zero target hardware address, but addressed to the neighbour's own MAC. -/
def unicastProbe : List UInt8 :=
  [0x00, 0x11, 0x22, 0x33, 0x44, 0x55, 0x00, 0x0c, 0x29, 0x01, 0x02, 0x03, 0x08, 0x06,
    0x00, 0x01, 0x08, 0x00, 0x06, 0x04, 0x00, 0x01,
    0x00, 0x0c, 0x29, 0x01, 0x02, 0x03, 192, 168, 1, 5,
    0x00, 0x00, 0x00, 0x00, 0x00, 0x00, 192, 168, 1, 9]

/-- The map of a capture whose hosts 192.168.1.5 and 192.168.1.9 are both relocated. -/
def probeMap : HostMap :=
  [⟨ipv4 192 168 1 5, ipv4 10 0 0 5⟩, ⟨ipv4 192 168 1 9, ipv4 10 0 0 9⟩].toAList

/-- The probe survives with the neighbour's captured MAC as its Ethernet destination. -/
theorem macs_from_plan_fails :
    ¬ ∀ (cap : Capture) (map : HostMap) (macMap : MacMap) (seed : UInt64),
      ∀ q ∈ (dropIncoherentFrames (applyHostMap cap map macMap seed true) map.values).packets,
        MacsFromPlan map macMap seed q.data := by
  intro h
  have hpass : passesGuard probeMap unicastProbe = true := by decide +kernel
  have hcov : MacFieldsCovered probeMap ∅ 7 unicastProbe :=
    macFieldsCovered_of_survivors (h ⟨[⟨1, 42, unicastProbe⟩]⟩ probeMap ∅ 7) ⟨1, 42, unicastProbe⟩
      (List.mem_singleton.mpr rfl) hpass
  have hlayout : parseLayout unicastProbe = some ⟨14, .other, 0, 14, .other, 14, 42⟩ := by
    decide +kernel
  rw [MacFieldsCovered, hlayout] at hcov
  -- the destination is unicast, not rewritten, and not a plan MAC
  rcases hcov.2.1 with hgroup | ⟨hreal, -⟩ | hplan
  · exact absurd hgroup (by decide)
  · exact absurd hreal (by decide)
  · exact absurd hplan (by decide +kernel)

end TurboLaser
