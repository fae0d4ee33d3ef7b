import TurboLaser.Lib.Patches
import TurboLaser.Proto.FrameCondition

/-!
# The frame the plan makes of a captured one

`applyHostMapFrame` goes over a frame in passes: addresses, checksums over the new addresses, then
hardware addresses. `planPatches` says what comes of it without the passes, as the fields that are
laid over the captured bytes:

- in an IPv4 frame the images of the two addresses, the plan MACs of the mapped ones, and the
  checksums of the frame with its addresses mapped;
- in an ARP frame the images of the two addresses, and the plan MACs in the Ethernet header and in
  the ARP body.

Every one of them is a function of the map, the seed and the captured bytes. So a question about a
rewritten frame becomes one about the captured frame: which of its bytes are under a field, and what
the fields hold. The leak filter, which looks at every window of a rewritten frame, is judged that
way.

The checksums are the delicate part. They are computed over bytes that an earlier pass has written,
and one of them over bytes that include neither itself nor the other; `recomputeChecksums_patches`
says that they are the words of the frame with its addresses mapped, whatever stood in their fields
before.

`applyHostMapFrame_eq_planned`: **a rewritten frame is the captured one under these fields**, for
every frame, mapped or not, of any kind.
-/

namespace TurboLaser

open Lib

/-! ## The fields -/

/-- The checksums of a frame, as fields: that of the IPv4 header, and that of the transport
header when the packet declares anything behind the IPv4 header. -/
def checksumPatches (buf : List UInt8) (l : FrameLayout) : List Patch :=
  ⟨l.l3 + 10, toBeBytes16 (ipWord buf l)⟩ ::
    if l.l4 < l.stop then
      match csumOff l.l4Kind with
      | some off => [⟨l.l4 + off, toBeBytes16 (l4Word buf l off)⟩]
      | none => []
    else []

/-- The hardware addresses of an IPv4 frame: a group destination stays. -/
def macPatches (map : HostMap) (macMap : MacMap) (seed : UInt64) (l : FrameLayout)
    (buf : List UInt8) : List Patch :=
  [⟨6, (planMac macMap seed (map.lookup (be32 buf (l.l3 + 12))) (macAt buf 6)).bytes⟩,
    ⟨0, (if byte buf 0 &&& 0x01 = 0
      then planMac macMap seed (map.lookup (be32 buf (l.l3 + 16))) (macAt buf 0)
      else macAt buf 0).bytes⟩]

/-- The fields of an IPv4 frame. The checksums are those of the frame with its addresses
mapped, and are left alone when none is. -/
def ipv4Patches (map : HostMap) (macMap : MacMap) (seed : UInt64) (remapMac : Bool)
    (l : FrameLayout) (buf : List UInt8) : List Patch :=
  [⟨l.l3 + 12, toBeBytes (image map (be32 buf (l.l3 + 12)))⟩,
    ⟨l.l3 + 16, toBeBytes (image map (be32 buf (l.l3 + 16)))⟩] ++
  (if isMapped map l buf = true then checksumPatches (readdressed map l buf) l else []) ++
  (if remapMac = true then macPatches map macMap seed l buf else [])

/-- The hardware addresses of an ARP frame: a target hardware address that is none stays, and
the Ethernet destination with it. -/
def arpMacPatches (map : HostMap) (macMap : MacMap) (seed : UInt64) (l3 : Nat)
    (buf : List UInt8) : List Patch :=
  let sender := map.lookup (be32 buf (l3 + 14))
  let target :=
    if isRealMac (macAt buf (l3 + 18)).bytes = true then map.lookup (be32 buf (l3 + 24)) else none
  [⟨6, (planMac macMap seed sender (macAt buf 6)).bytes⟩,
    ⟨0, (planMac macMap seed target (macAt buf 0)).bytes⟩,
    ⟨l3 + 8, (planMac macMap seed sender (macAt buf (l3 + 8))).bytes⟩,
    ⟨l3 + 18, (planMac macMap seed target (macAt buf (l3 + 18))).bytes⟩]

/-- The fields of an ARP frame. -/
def arpPatches (map : HostMap) (macMap : MacMap) (seed : UInt64) (remapMac : Bool) (l3 : Nat)
    (buf : List UInt8) : List Patch :=
  [⟨l3 + 14, toBeBytes (image map (be32 buf (l3 + 14)))⟩,
    ⟨l3 + 24, toBeBytes (image map (be32 buf (l3 + 24)))⟩] ++
  (if remapMac = true then arpMacPatches map macMap seed l3 buf else [])

/-- **The fields the plan lays over a frame.** -/
def planPatches (map : HostMap) (macMap : MacMap) (seed : UInt64) (remapMac : Bool)
    (l : FrameLayout) (buf : List UInt8) : List Patch :=
  match l.l3Kind with
  | .ipv4 => ipv4Patches map macMap seed remapMac l buf
  | .other => if isArpIpv4 buf l.l3 = true then arpPatches map macMap seed remapMac l.l3 buf else []

/-- The frame the plan makes of a captured one. -/
def planned (map : HostMap) (macMap : MacMap) (seed : UInt64) (remapMac : Bool) (l : FrameLayout)
    (buf : List UInt8) : List UInt8 :=
  patched buf (planPatches map macMap seed remapMac l buf)

/-! ## Hardware addresses -/

/-- Six bytes that read as a MAC are the field of that MAC. -/
theorem holds_mac {out : List UInt8} {off : Nat} {m : Mac} (h : macAt out off = m) :
    Holds out ⟨off, m.bytes⟩ := by
  rintro i ⟨hlo, hhi⟩
  dsimp only at hlo hhi ⊢
  rw [Mac.length_bytes] at hhi
  subst h
  obtain ⟨k, rfl⟩ : ∃ k, i = off + k := ⟨i - off, by omega⟩
  rw [Nat.add_sub_cancel_left]
  have hk : k = 0 ∨ k = 1 ∨ k = 2 ∨ k = 3 ∨ k = 4 ∨ k = 5 := by omega
  obtain rfl | rfl | rfl | rfl | rfl | rfl := hk <;> rfl

/-- Without a new address a hardware address stays. -/
theorem planMac_ite {macMap : MacMap} {seed : UInt64} {c : Prop} [Decidable c]
    {newIp : Option Ipv4Addr} {old : Mac} :
    planMac macMap seed (if c then newIp else none) old =
      if c then planMac macMap seed newIp old else old := by
  split <;> rfl

/-! ## Checksums -/

section Packet

variable {buf : List UInt8} {l : FrameLayout} (hl : Ipv4Packet buf l)

include hl

/-- **Recomputing writes the words of the checksums**, that of the transport header only when
there is anything behind the IPv4 header. -/
theorem recomputeChecksums_summed :
    recomputeChecksums buf l = if l.l4 < l.stop then bothSummed buf l else ipSummed buf l := by
  split
  · next hstop => exact recomputeChecksums_eq hl fun _ => hstop
  · next hstop =>
    rw [recomputeChecksums_ip hl]
    split
    · rfl
    · exact if_pos (.inl (by omega))

/-- A recomputed frame has its checksums, and the other bytes. -/
theorem recomputeChecksums_patches :
    (∀ p ∈ checksumPatches buf l, Holds (recomputeChecksums buf l) p) ∧
      ∀ i, (∀ p ∈ checksumPatches buf l, ¬ p.Covers i) →
        byte (recomputeChecksums buf l) i = byte buf i := by
  have hihl := hl.ihl
  have hl4 := hl.l4
  have hle := hl.l4_le
  have hheader := hl.header_le
  have hip : Holds (ipSummed buf l) ⟨l.l3 + 10, toBeBytes16 (ipWord buf l)⟩ :=
    holds_write (by show l.l3 + 10 + 2 ≤ _; omega)
  have hipRest := agreeOn_ipSummed buf l
  have hoff : ∀ i, ¬ (⟨l.l3 + 10, toBeBytes16 (ipWord buf l)⟩ : Patch).Covers i →
      i < l.l3 + 10 ∨ l.l3 + 12 ≤ i := by
    intro i hi
    by_contra hin
    exact hi ⟨show l.l3 + 10 ≤ i by omega, show i < l.l3 + 10 + 2 by omega⟩
  rw [recomputeChecksums_summed hl]
  unfold checksumPatches
  -- one patch, or two that do not overlap
  by_cases hstop : l.l4 < l.stop
  · rw [if_pos hstop, if_pos hstop, bothSummed]
    cases hcsum : csumOff l.l4Kind with
    | none =>
      dsimp only
      refine ⟨fun p hp => ?_, fun i hi => hipRest.2 i (hoff i (hi _ List.mem_cons_self))⟩
      rwa [List.mem_singleton.mp hp]
    | some off =>
      dsimp only
      obtain ⟨hfits, -⟩ := csumOff_fits hl hcsum
      have hl4Rest := agreeOn_write (ipSummed buf l) (l.l4 + off)
        (toBeBytes16 (l4Word buf l off))
      refine ⟨fun p hp => ?_, fun i hi => ?_⟩
      · obtain rfl | hlast := List.mem_cons.mp hp
        · -- the transport checksum lies behind the IPv4 header
          exact hip.of_agree hl4Rest fun i hi => by
            have hlt : i < l.l3 + 10 + 2 := hi.2
            omega
        · rw [List.mem_singleton.mp hlast]
          refine holds_write ?_
          rw [hipRest.1]
          show l.l4 + off + 2 ≤ _
          omega
      · have hfirst := hi _ List.mem_cons_self
        have hsecond := hi _ (List.mem_cons_of_mem _ (List.mem_singleton_self _))
        have hout : i < l.l4 + off ∨ l.l4 + off + 2 ≤ i := by
          by_contra hin
          exact hsecond ⟨show l.l4 + off ≤ i by omega, show i < l.l4 + off + 2 by omega⟩
        exact (hl4Rest.2 i hout).trans (hipRest.2 i (hoff i hfirst))
  · rw [if_neg hstop, if_neg hstop]
    refine ⟨fun p hp => ?_, fun i hi => hipRest.2 i (hoff i (hi _ List.mem_cons_self))⟩
    rwa [List.mem_singleton.mp hp]

end Packet

/-! ## IPv4 frames -/

section Ipv4

variable {map : HostMap} {macMap : MacMap} {seed : UInt64} {remapMac : Bool} {l : FrameLayout}
  {buf : List UInt8}

/-- The checksums lie behind the hardware addresses. -/
theorem checksumPatches_behind {b : List UInt8} (hl3 : 14 ≤ l.l3) (hl : Ipv4Packet buf l)
    {p : Patch} (hp : p ∈ checksumPatches b l) {i : Nat} (hi : p.Covers i) : 12 ≤ i := by
  have hihl := hl.ihl
  have hl4 := hl.l4
  have hlo := hi.1
  unfold checksumPatches at hp
  obtain rfl | hp := List.mem_cons.mp hp
  · dsimp only at hlo
    omega
  · split at hp
    · split at hp
      · rw [List.mem_singleton.mp hp] at hlo
        dsimp only at hlo
        omega
      · cases hp
    · cases hp

/-- **An IPv4 rewrite lays its fields over the frame.** -/
theorem rewriteIpv4_eq_patched (h : parseLayout buf = some l) (hk : l.l3Kind = .ipv4) :
    rewriteIpv4 map macMap seed remapMac l buf =
      patched buf (ipv4Patches map macMap seed remapMac l buf) := by
  have hl3 := (parseLayout_l3 h).1
  have hspec := rewriteIpv4_spec map macMap seed remapMac h hk
  have hagree := rewriteIpv4_agree map macMap seed remapMac l buf
  have hl := parseLayout_packet (parseLayout_readdressed map h hk) hk
  obtain ⟨hsums, hsumsRest⟩ := recomputeChecksums_patches hl
  unfold ipv4Patches
  refine eq_patched hspec.agree.1 (fun p hp => ?_) fun i hi => ?_
  · rw [List.mem_append, List.mem_append] at hp
    rcases hp with (haddr | hsum) | hmac
    · obtain rfl | haddr := List.mem_cons.mp haddr
      · exact holds_word hspec.src
      · rw [List.mem_singleton.mp haddr]
        exact holds_word hspec.dst
    · split at hsum
      · next hmapped =>
        rw [if_pos hmapped] at hagree
        exact (hsums p hsum).of_agree hagree fun i hi =>
          .inl (checksumPatches_behind hl3 hl hsum hi)
      · cases hsum
    · split at hmac
      · next hremap =>
        obtain rfl | hmac := List.mem_cons.mp hmac
        · exact holds_mac (hspec.srcMac hremap)
        · rw [List.mem_singleton.mp hmac]
          exact holds_mac (hspec.dstMac hremap)
      · cases hmac
  · simp only [List.mem_append, or_imp, forall_and] at hi
    obtain ⟨⟨haddr, hsum⟩, hmac⟩ := hi
    -- outside the addresses only the checksums and the hardware addresses are written
    have hoff : i < l.l3 + 12 ∨ l.l3 + 20 ≤ i := by
      have hsrc := haddr _ List.mem_cons_self
      have hdst := haddr _ (List.mem_cons_of_mem _ (List.mem_singleton_self _))
      simp only [Patch.Covers, length_toBeBytes] at hsrc hdst
      omega
    have hfront : 12 ≤ i ∨ remapMac = false := by
      cases hremap : remapMac with
      | false => exact .inr rfl
      | true =>
        rw [if_pos hremap] at hmac
        have hsrc := hmac _ List.mem_cons_self
        have hdst := hmac _ (List.mem_cons_of_mem _ (List.mem_singleton_self _))
        simp only [Patch.Covers, Mac.length_bytes] at hsrc hdst
        exact .inl (by omega)
    rw [hagree.2 i hfront]
    split
    · next hmapped =>
      rw [if_pos hmapped] at hsum
      exact (hsumsRest i hsum).trans ((readdressed_agree map l buf).2 i hoff)
    · exact (readdressed_agree map l buf).2 i hoff

end Ipv4

/-! ## ARP frames -/

section Arp

variable {map : HostMap} {macMap : MacMap} {seed : UInt64} {remapMac : Bool} {l3 : Nat}
  {buf : List UInt8}

/-- Without hardware addresses an ARP rewrite writes the two network addresses. -/
theorem remapArpAddrs_plain :
    AgreeOn (fun i => (i < l3 + 14 ∨ l3 + 18 ≤ i) ∧ (i < l3 + 24 ∨ l3 + 28 ≤ i))
      (remapArpAddrs map macMap seed false l3 buf) buf := by
  unfold remapArpAddrs
  split
  · exact ((agreeOn_setAddr _ _ _).mono fun i hi => hi.2).trans
      ((agreeOn_setAddr _ _ _).mono fun i hi => hi.1)
  · exact AgreeOn.refl _ _

/-- **An ARP rewrite lays its fields over the frame.** -/
theorem remapArpAddrs_eq_patched (hl3 : 14 ≤ l3) (harp : isArpIpv4 buf l3 = true) :
    remapArpAddrs map macMap seed remapMac l3 buf =
      patched buf (arpPatches map macMap seed remapMac l3 buf) := by
  have hspec := remapArpAddrs_spec map macMap seed remapMac hl3 harp
  unfold arpPatches
  refine eq_patched hspec.agree.1 (fun p hp => ?_) fun i hi => ?_
  · rw [List.mem_append] at hp
    rcases hp with haddr | hmac
    · obtain rfl | haddr := List.mem_cons.mp haddr
      · exact holds_word hspec.spa
      · rw [List.mem_singleton.mp haddr]
        exact holds_word hspec.tpa
    · split at hmac
      · next hremap =>
        unfold arpMacPatches at hmac
        simp only [List.mem_cons, List.not_mem_nil, or_false] at hmac
        obtain rfl | rfl | rfl | rfl := hmac
        · exact holds_mac (hspec.srcMac hremap)
        · exact holds_mac ((hspec.dstMac hremap).trans planMac_ite.symm)
        · exact holds_mac (hspec.sha hremap)
        · exact holds_mac ((hspec.tha hremap).trans planMac_ite.symm)
      · cases hmac
  -- outside the patches the offsets leave only bytes that the rewrite does not touch
  · simp only [List.mem_append, or_imp, forall_and] at hi
    obtain ⟨haddr, hmac⟩ := hi
    have hspa := haddr _ List.mem_cons_self
    have htpa := haddr _ (List.mem_cons_of_mem _ (List.mem_singleton_self _))
    simp only [Patch.Covers, length_toBeBytes] at hspa htpa
    cases hremap : remapMac with
    | false => exact remapArpAddrs_plain.2 i (by omega)
    | true =>
      rw [if_pos hremap] at hmac
      unfold arpMacPatches at hmac
      simp only [List.mem_cons, List.not_mem_nil, or_false, or_imp, forall_and, forall_eq,
        Patch.Covers, Mac.length_bytes] at hmac
      exact (remapArpAddrs_agree map macMap seed true l3 buf).2 i (by omega)

end Arp

/-- **A rewritten frame is the captured one under the fields of the plan.** -/
theorem applyHostMapFrame_eq_planned (map : HostMap) (macMap : MacMap) (seed : UInt64)
    (remapMac : Bool) {buf : List UInt8} {l : FrameLayout} (h : parseLayout buf = some l) :
    applyHostMapFrame map macMap seed remapMac buf = planned map macMap seed remapMac l buf := by
  unfold planned planPatches
  cases hk : l.l3Kind with
  | ipv4 =>
    rw [applyHostMapFrame_ipv4 h hk]
    exact rewriteIpv4_eq_patched h hk
  | other =>
    rw [applyHostMapFrame_other h hk]
    dsimp only
    split
    · next harp => exact remapArpAddrs_eq_patched (parseLayout_l3 h).1 harp
    · next harp =>
      -- other frames are passed through as they came in
      unfold remapArpAddrs
      rw [if_neg harp]
      exact eq_patched rfl (fun p hp => absurd hp List.not_mem_nil) fun i _ => rfl

end TurboLaser
