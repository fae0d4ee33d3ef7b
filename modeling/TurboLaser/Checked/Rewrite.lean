import TurboLaser.Checked.Frame
import TurboLaser.Proto.PublicGuard
import TurboLaser.Proto.RewriteFacts

/-!
# The rewrite and the guards, with their panics (proto/l3.rs)

`apply_host_map` and the filters behind it, with each index, range and subtraction where the source
has it. They parse a frame first, so all of them rely on the promises of its layout, and on nothing
else; ARP is read behind `is_arp_ipv4`, which asks for all its 28 bytes.

A rewrite edits the frame and goes on with the layout it had. That is in bounds because no edit
changes the length of the buffer, and the promises of a layout are about the length only: each `_ok`
lemma below takes `InFrame` for the length of the buffer it is given, and hands it on unchanged.
What the fields hold after an edit is a matter of `Proto.RewriteFacts` and does not come in here.

`applyHostMapFrame_ok`, `frameIsPlanCoherent_ok`, `carriesPublicAddress_ok`, `dropArpFrames_ok`:
**none of them panics on any frame**, and each does what the total function does.
-/

namespace TurboLaser

open Lib

namespace Checked

variable {buf : List UInt8} {l : FrameLayout}

/-! ## ARP -/

/-- `u16::from_be_bytes([buf[l3 - 2], buf[l3 - 1]])`. -/
def ethertypeAt (buf : List UInt8) (l3 : Nat) : Run Nat := do
  let i ← minus l3 2
  let hi ← byteAt buf i
  let j ← minus l3 1
  let lo ← byteAt buf j
  return hi.toNat * 256 + lo.toNat

/-- `is_arp_ipv4`. -/
def isArpIpv4 (buf : List UInt8) (l3 : Nat) : Run Bool :=
  andAlso (decide (2 ≤ l3)) <| andAlso (decide (l3 + 28 ≤ buf.length)) <| do
    let ethertype ← ethertypeAt buf l3
    andAlso (decide (ethertype = 0x0806)) <| do
      let htype ← be16At buf l3
      andAlso (decide (htype = 1)) <| do
        let ptype ← be16At buf (l3 + 2)
        andAlso (decide (ptype = 0x0800)) <| do
          let hlen ← byteAt buf (l3 + 4)
          andAlso (decide (hlen = 6)) <| do
            let plen ← byteAt buf (l3 + 5)
            return decide (plen = 4)

theorem ethertypeAt_ok {l3 : Nat} (htwo : 2 ≤ l3) (hlen : l3 ≤ buf.length) :
    ethertypeAt buf l3 = .ok (be16 buf (l3 - 2)) := by
  refine bind_ok (minus_ok htwo) (bind_ok (byteAt_ok (by omega)) ?_)
  refine bind_ok (minus_ok (by omega)) (bind_ok (byteAt_ok (by omega)) ?_)
  rw [be16, show l3 - 2 + 1 = l3 - 1 by omega]
  rfl

/-- Every field is read behind the test of the length. -/
theorem isArpIpv4_ok (buf : List UInt8) (l3 : Nat) :
    isArpIpv4 buf l3 = .ok (TurboLaser.isArpIpv4 buf l3) := by
  unfold TurboLaser.isArpIpv4
  simp only [Bool.and_assoc]
  refine andAlso_ok fun htwo => andAlso_ok fun hlen => ?_
  have htwo := of_decide_eq_true htwo
  have hlen := of_decide_eq_true hlen
  refine bind_ok (ethertypeAt_ok htwo (by omega)) (andAlso_ok fun _ => ?_)
  refine bind_ok (be16At_ok (by omega)) (andAlso_ok fun _ => ?_)
  refine bind_ok (be16At_ok (by omega)) (andAlso_ok fun _ => ?_)
  exact bind_ok (byteAt_ok (by omega)) (andAlso_ok fun _ => bind_ok (byteAt_ok (by omega)) rfl)

/-! ## The rewrite

Here every slice and index of `apply_host_map` is checked, and reading outside the buffer is a
panic. The offsets come from the layout, so each access is justified by what a layout promises about
the length of the frame. The theorem gives more than the absence of panics: the checked rewrite
returns what the model of it returns.
-/

/-- The IPv4 branch of `apply_host_map`. -/
def rewriteIpv4 (map : HostMap) (macMap : MacMap) (seed : UInt64) (remapMac : Bool)
    (f : ParsedFrame) : Run (List UInt8) := do
  let src ← ipv4Src f
  let newSrc := src.bind (map.lookup ·)
  let f ← ifSome newSrc f (setIpv4Src f)
  let dst ← ipv4Dst f
  let newDst := dst.bind (map.lookup ·)
  let f ← ifSome newDst f (setIpv4Dst f)
  let buf ← onlyIf (newSrc.isSome || newDst.isSome) f.buf (recomputeChecksums f.buf f.layout)
  let f := { f with buf }
  if remapMac then do
    let f ← ifSome newSrc f fun ns => setSrcMac f (macFor macMap seed ns)
    let f ← ifSome newDst f fun nd => do
      let b ← byteAt f.buf 0
      if b &&& 0x01 = 0 then setDstMac f (macFor macMap seed nd) else return f
    return f.buf
  else return f.buf

/-- The sender of `remap_arp_addrs`. -/
def remapSender (map : HostMap) (macMap : MacMap) (seed : UInt64) (remapMac : Bool) (l3 : Nat)
    (buf : List UInt8) : Run (List UInt8) := do
  let spa ← be32At buf (l3 + 14)
  ifSome (map.lookup spa) buf fun nspa => do
    let buf ← copyAt buf (l3 + 14) (l3 + 18) (toBeBytes nspa)
    if remapMac then do
      let mac := macFor macMap seed nspa
      let buf ← copyAt buf (l3 + 8) (l3 + 14) mac.bytes
      copyAt buf 6 12 mac.bytes
    else return buf

/-- The target of `remap_arp_addrs`. -/
def remapTarget (map : HostMap) (macMap : MacMap) (seed : UInt64) (remapMac : Bool) (l3 : Nat)
    (buf : List UInt8) : Run (List UInt8) := do
  let tpa ← be32At buf (l3 + 24)
  ifSome (map.lookup tpa) buf fun ntpa => do
    let buf ← copyAt buf (l3 + 24) (l3 + 28) (toBeBytes ntpa)
    if remapMac then do
      let tha ← sliceAt buf (l3 + 18) (l3 + 24)
      if isRealMac tha then do
        let mac := macFor macMap seed ntpa
        let buf ← copyAt buf (l3 + 18) (l3 + 24) mac.bytes
        copyAt buf 0 6 mac.bytes
      else return buf
    else return buf

/-- `remap_arp_addrs`. -/
def remapArpAddrs (map : HostMap) (macMap : MacMap) (seed : UInt64) (remapMac : Bool) (l3 : Nat)
    (buf : List UInt8) : Run (List UInt8) := do
  let arp ← isArpIpv4 buf l3
  if arp then do
    let buf ← remapSender map macMap seed remapMac l3 buf
    remapTarget map macMap seed remapMac l3 buf
  else return buf

/-- `apply_host_map` on one frame. -/
def applyHostMapFrame (map : HostMap) (macMap : MacMap) (seed : UInt64) (remapMac : Bool)
    (buf : List UInt8) : Run (List UInt8) := do
  match ← parseLayout buf with
  | none => return buf
  | some l =>
    match l.l3Kind with
    | .ipv4 => rewriteIpv4 map macMap seed remapMac ⟨buf, l⟩
    | .other => remapArpAddrs map macMap seed remapMac l.l3 buf

theorem length_setAddr (buf : List UInt8) (off : Nat) (o : Option Ipv4Addr) :
    (setAddr buf off o).length = buf.length := by
  cases o with
  | none => rfl
  | some a => exact length_write ..

theorem length_setMacFor (macMap : MacMap) (seed : UInt64) (buf : List UInt8) (off : Nat)
    (o : Option Ipv4Addr) : (setMacFor macMap seed buf off o).length = buf.length := by
  cases o with
  | none => rfl
  | some a => exact length_write ..

/-- The addresses of an IPv4 frame. -/
theorem ipv4Addr_packet (hl : InFrame buf.length l) (hk : l.l3Kind = .ipv4) {off : Nat}
    (hoff : off ≤ 16) : ipv4Addr off ⟨buf, l⟩ = .ok (some (be32 buf (l.l3 + off))) :=
  (@ipv4Addr_ok ⟨buf, l⟩ hl off hoff).trans (congrArg _ (if_pos hk))

theorem setIpv4Addr_packet (hl : InFrame buf.length l) (hk : l.l3Kind = .ipv4) {off : Nat}
    (hoff : off ≤ 16) (a : Ipv4Addr) :
    setIpv4Addr off ⟨buf, l⟩ a = .ok ⟨write buf (l.l3 + off) (toBeBytes a), l⟩ :=
  (@setIpv4Addr_ok ⟨buf, l⟩ hl off hoff a).trans (congrArg _ (if_pos hk))

/-- A new address, if there is one. -/
theorem setIpv4Addr_ifSome (hl : InFrame buf.length l) (hk : l.l3Kind = .ipv4) {off : Nat}
    (hoff : off ≤ 16) (o : Option Ipv4Addr) :
    ifSome o ⟨buf, l⟩ (setIpv4Addr off ⟨buf, l⟩) = .ok ⟨setAddr buf (l.l3 + off) o, l⟩ := by
  cases o with
  | none => rfl
  | some a => exact setIpv4Addr_packet hl hk hoff a

theorem setSrcMac_ifSome (macMap : MacMap) (seed : UInt64) (hl : InFrame buf.length l)
    (o : Option Ipv4Addr) :
    ifSome o ⟨buf, l⟩ (fun ns => setSrcMac ⟨buf, l⟩ (macFor macMap seed ns)) =
      .ok ⟨setMacFor macMap seed buf 6 o, l⟩ := by
  cases o with
  | none => rfl
  | some a => exact setSrcMac_ok hl _

/-- The destination MAC of a unicast frame. -/
theorem setDstMac_ifSome (macMap : MacMap) (seed : UInt64) (hl : InFrame buf.length l)
    (o : Option Ipv4Addr) :
    ifSome o ⟨buf, l⟩ (fun nd => do
        let b ← byteAt buf 0
        if b &&& 0x01 = 0 then setDstMac ⟨buf, l⟩ (macFor macMap seed nd) else return ⟨buf, l⟩) =
      .ok ⟨if byte buf 0 &&& 0x01 = 0 then setMacFor macMap seed buf 0 o else buf, l⟩ := by
  have hfits := InFrame.fourteen hl
  cases o with
  | none =>
    show (Except.ok ⟨buf, l⟩ : Run ParsedFrame) = .ok ⟨if _ then buf else buf, l⟩
    rw [ite_self]
  | some a =>
    refine bind_ok (byteAt_ok (by omega)) ?_
    by_cases hunicast : byte buf 0 &&& 0x01 = 0
    · rw [if_pos hunicast, if_pos hunicast]
      exact setDstMac_ok hl _
    · rw [if_neg hunicast, if_neg hunicast]
      rfl

theorem length_recomputeChecksums (buf : List UInt8) (l : FrameLayout) :
    (TurboLaser.recomputeChecksums buf l).length = buf.length :=
  (recomputeChecksums_agree buf l).1

theorem rewriteIpv4_ok (map : HostMap) (macMap : MacMap) (seed : UInt64) (remapMac : Bool)
    (hl : InFrame buf.length l) (hk : l.l3Kind = .ipv4) :
    rewriteIpv4 map macMap seed remapMac ⟨buf, l⟩ =
      .ok (TurboLaser.rewriteIpv4 map macMap seed remapMac l buf) := by
  refine bind_ok (ipv4Addr_packet hl hk (by decide)) ?_
  refine bind_ok (setIpv4Addr_ifSome hl hk (by decide) (map.lookup (be32 buf (l.l3 + 12)))) ?_
  unfold TurboLaser.rewriteIpv4
  simp only [Option.bind_some]
  generalize map.lookup (be32 buf (l.l3 + 12)) = newSrc
  have h₁ : InFrame (setAddr buf (l.l3 + 12) newSrc).length l := by rwa [length_setAddr]
  -- each step is taken over a buffer of which only the length is known: that is all the next needs
  generalize setAddr buf (l.l3 + 12) newSrc = b₁ at h₁ ⊢
  refine bind_ok (ipv4Addr_packet h₁ hk (by decide)) ?_
  refine bind_ok (setIpv4Addr_ifSome h₁ hk (by decide) (map.lookup (be32 b₁ (l.l3 + 16)))) ?_
  simp only [Option.bind_some]
  generalize map.lookup (be32 b₁ (l.l3 + 16)) = newDst
  have h₂ : InFrame (setAddr b₁ (l.l3 + 16) newDst).length l := by rwa [length_setAddr]
  generalize setAddr b₁ (l.l3 + 16) newDst = b₂ at h₂ ⊢
  refine bind_ok (onlyIf_ok fun _ => recomputeChecksums_ok h₂) ?_
  have h₃ : InFrame (if (newSrc.isSome || newDst.isSome) = true
      then TurboLaser.recomputeChecksums b₂ l else b₂).length l := by
    split
    · rwa [length_recomputeChecksums]
    · exact h₂
  generalize (if (newSrc.isSome || newDst.isSome) = true
    then TurboLaser.recomputeChecksums b₂ l else b₂) = b₃ at h₃ ⊢
  refine ite_ok (fun _ => ?_) fun _ => rfl
  refine bind_ok (setSrcMac_ifSome macMap seed h₃ newSrc) ?_
  have h₄ : InFrame (setMacFor macMap seed b₃ 6 newSrc).length l := by rwa [length_setMacFor]
  exact bind_ok (setDstMac_ifSome macMap seed h₄ newDst) rfl

/-- The sender of ARP: its protocol address, its hardware address, and the source of the frame. -/
theorem remapSender_ok (map : HostMap) (macMap : MacMap) (seed : UInt64) (remapMac : Bool)
    {l3 : Nat} (hl3 : 14 ≤ l3) (hlen : l3 + 28 ≤ buf.length) :
    remapSender map macMap seed remapMac l3 buf =
      .ok (if remapMac then
          setMacFor macMap seed (setMacFor macMap seed
            (setAddr buf (l3 + 14) (map.lookup (be32 buf (l3 + 14)))) (l3 + 8)
            (map.lookup (be32 buf (l3 + 14)))) 6 (map.lookup (be32 buf (l3 + 14)))
        else setAddr buf (l3 + 14) (map.lookup (be32 buf (l3 + 14)))) := by
  refine bind_ok (be32At_ok (by omega)) ?_
  generalize map.lookup (be32 buf (l3 + 14)) = nspa
  cases nspa with
  | none => exact congrArg Except.ok (ite_self buf).symm
  | some a =>
    refine bind_ok (copyAt_ok (by omega) rfl) (ite_ok (fun _ => ?_) fun _ => rfl)
    refine bind_ok (copyAt_ok ?_ rfl) (copyAt_ok ?_ rfl)
    · rw [length_write]
      omega
    · rw [length_write, length_write]
      omega

/-- The target of ARP: its protocol address, and a real hardware address with the destination of
the frame. -/
theorem remapTarget_ok (map : HostMap) (macMap : MacMap) (seed : UInt64) (remapMac : Bool)
    {l3 : Nat} (hl3 : 14 ≤ l3) (hlen : l3 + 28 ≤ buf.length) :
    remapTarget map macMap seed remapMac l3 buf =
      .ok (if remapMac && isRealMac (slice
            (setAddr buf (l3 + 24) (map.lookup (be32 buf (l3 + 24)))) (l3 + 18) (l3 + 24)) then
          setMacFor macMap seed (setMacFor macMap seed
            (setAddr buf (l3 + 24) (map.lookup (be32 buf (l3 + 24)))) (l3 + 18)
            (map.lookup (be32 buf (l3 + 24)))) 0 (map.lookup (be32 buf (l3 + 24)))
        else setAddr buf (l3 + 24) (map.lookup (be32 buf (l3 + 24)))) := by
  refine bind_ok (be32At_ok (by omega)) ?_
  generalize map.lookup (be32 buf (l3 + 24)) = ntpa
  cases ntpa with
  | none => exact congrArg Except.ok (ite_self buf).symm
  | some a =>
    refine bind_ok (copyAt_ok (by omega) rfl) ?_
    cases remapMac with
    | false => rfl
    | true =>
      refine bind_ok (sliceAt_ok (by omega) ?_) (ite_ok (fun _ => ?_) fun _ => rfl)
      · rw [length_write]
        omega
      refine bind_ok (copyAt_ok ?_ rfl) (copyAt_ok ?_ rfl)
      · rw [length_write]
        omega
      · rw [length_write, length_write]
        omega

/-- `remap_arp_addrs` touches the Ethernet header and the 28 bytes of ARP. -/
theorem remapArpAddrs_ok (map : HostMap) (macMap : MacMap) (seed : UInt64) (remapMac : Bool)
    {l3 : Nat} (hl3 : 14 ≤ l3) :
    remapArpAddrs map macMap seed remapMac l3 buf =
      .ok (TurboLaser.remapArpAddrs map macMap seed remapMac l3 buf) := by
  refine bind_ok (isArpIpv4_ok buf l3) (ite_ok (fun harp => ?_) fun _ => rfl)
  have hfits := isArpIpv4_length harp
  refine bind_ok (remapSender_ok map macMap seed remapMac hl3 hfits) ?_
  refine remapTarget_ok map macMap seed remapMac hl3 ?_
  split
  · rwa [length_setMacFor, length_setMacFor, length_setAddr]
  · rwa [length_setAddr]

/-- **Rewriting a frame does not panic**, whatever its bytes and the map. -/
theorem applyHostMapFrame_ok (map : HostMap) (macMap : MacMap) (seed : UInt64) (remapMac : Bool)
    (buf : List UInt8) :
    applyHostMapFrame map macMap seed remapMac buf =
      .ok (TurboLaser.applyHostMapFrame map macMap seed remapMac buf) := by
  unfold TurboLaser.applyHostMapFrame
  refine bind_ok (parseLayout_ok buf) ?_
  cases hparse : TurboLaser.parseLayout buf with
  | none => rfl
  | some l =>
    have hl := parseLayout_inFrame hparse
    dsimp only
    cases hk : l.l3Kind with
    | ipv4 => exact rewriteIpv4_ok map macMap seed remapMac hl hk
    | other => exact remapArpAddrs_ok map macMap seed remapMac hl.ethernet

/-- `apply_host_map`. -/
def applyHostMap (cap : Capture) (map : HostMap) (macMap : MacMap) (seed : UInt64)
    (remapMac : Bool) : Run Capture := do
  let packets ← eachAt (fun p => do
    let data ← applyHostMapFrame map macMap seed remapMac p.data
    return { p with data }) cap.packets
  return ⟨packets⟩

theorem applyHostMap_ok (cap : Capture) (map : HostMap) (macMap : MacMap) (seed : UInt64)
    (remapMac : Bool) :
    applyHostMap cap map macMap seed remapMac =
      .ok (TurboLaser.applyHostMap cap map macMap seed remapMac) :=
  bind_ok (eachAt_ok fun p _ => bind_ok (applyHostMapFrame_ok map macMap seed remapMac p.data) rfl)
    rfl

/-! ## The guards

The guards read at offsets that depend on the frame, the IPv6 guard at those of a header that the
layout does not know. Every read stands behind a test of the length, in the checked model as in the
source. So each guard answers for every buffer, and answers what its model answers.
-/

/-- `drop_arp_frames`: what is kept, and the number of frames dropped. -/
def dropArpFrames (cap : Capture) : Run (Capture × Nat) := do
  let packets ← retainAt (fun p => do
    match ← parseLayout p.data with
    | some l =>
      if 2 ≤ l.l3 then do
        let ethertype ← ethertypeAt p.data l.l3
        return ethertype != 0x0806
      else return true
    | none => return true) cap.packets
  let dropped ← minus cap.packets.length packets.length
  return (⟨packets⟩, dropped)

/-- `frame_is_plan_coherent`. -/
def frameIsPlanCoherent (valid : Finset Ipv4Addr) (buf : List UInt8) : Run Bool := do
  match ← parseLayout buf with
  | none => return false
  | some l =>
    match l.l3Kind with
    | .ipv4 =>
      if buf.length < l.l3 + 20 then return false
      else do
        let ipTotal ← be16At buf (l.l3 + 2)
        if buf.length < l.l3 + ipTotal then return false
        else do
          let src ← be32At buf (l.l3 + 12)
          let dst ← be32At buf (l.l3 + 16)
          return srcIsPlan valid src && dstOk valid dst
    | .other =>
      if l.l3 < 2 then return false
      else do
        let ethertype ← ethertypeAt buf l.l3
        let arp ← andAlso (decide (ethertype = 0x0806)) (isArpIpv4 buf l.l3)
        if arp then do
          let spa ← be32At buf (l.l3 + 14)
          let tpa ← be32At buf (l.l3 + 24)
          return srcIsPlan valid spa && dstOk valid tpa
        else return false

/-- An IPv6 address is neither link-local nor multicast, and not unspecified. -/
def routable (buf : List UInt8) (o : Nat) : Run Bool := do
  let first ← byteAt buf o
  let linkLocal ← andAlso (decide (first = 0xfe)) do
    let second ← byteAt buf (o + 1)
    return decide (second &&& 0xc0 = 0x80)
  let multicast := decide (first = 0xff)
  let octets ← sliceAt buf o (o + 16)
  let unspecified := octets.all fun x => decide (x = 0)
  return !linkLocal && !multicast && !unspecified

/-- `ipv6_carries_routable`. -/
def ipv6CarriesRoutable (buf : List UInt8) (l3 : Nat) : Run Bool :=
  if buf.length < l3 + 40 then return true
  else do
    let src ← routable buf (l3 + 8)
    orElse src (routable buf (l3 + 24))

/-- `carries_public_address`. -/
def carriesPublicAddress (buf : List UInt8) : Run Bool := do
  match ← parseLayout buf with
  | none => return true
  | some l =>
    match l.l3Kind with
    | .ipv4 =>
      if buf.length < l.l3 + 20 then return true
      else do
        let src ← be32At buf (l.l3 + 12)
        let dst ← be32At buf (l.l3 + 16)
        return L3.isPublicUnicast src || L3.isPublicUnicast dst
    | .other =>
      if l.l3 < 2 then return true
      else do
        let ethertype ← ethertypeAt buf l.l3
        if ethertype = 0x86dd then ipv6CarriesRoutable buf l.l3
        else if ethertype = 0x0806 then do
          let arp ← isArpIpv4 buf l.l3
          if arp then do
            let spa ← be32At buf (l.l3 + 14)
            let tpa ← be32At buf (l.l3 + 24)
            return L3.isPublicUnicast spa || L3.isPublicUnicast tpa
          else return false
        else return false

theorem dropArpFrames_ok (cap : Capture) :
    dropArpFrames cap = .ok (TurboLaser.dropArpFrames cap,
      cap.packets.length - (TurboLaser.dropArpFrames cap).packets.length) := by
  refine bind_ok (retainAt_ok fun p _ => ?_) (bind_ok (minus_ok (List.length_filter_le _ _)) rfl)
  refine bind_ok (parseLayout_ok p.data) ?_
  beta_reduce
  cases hparse : TurboLaser.parseLayout p.data with
  | none => rfl
  | some l =>
    have hl := parseLayout_inFrame hparse
    have hfits := hl.l3_le.trans ((hl.l4_le.trans hl.payload_le).trans hl.stop_le)
    exact ite_ok (fun htwo => bind_ok (ethertypeAt_ok htwo hfits) rfl) fun _ => rfl

theorem frameIsPlanCoherent_ok (valid : Finset Ipv4Addr) (buf : List UInt8) :
    frameIsPlanCoherent valid buf = .ok (TurboLaser.frameIsPlanCoherent valid buf) := by
  unfold TurboLaser.frameIsPlanCoherent
  refine bind_ok (parseLayout_ok buf) ?_
  cases hparse : TurboLaser.parseLayout buf with
  | none => rfl
  | some l =>
    have hl := parseLayout_inFrame hparse
    have hfits := hl.l3_le.trans ((hl.l4_le.trans hl.payload_le).trans hl.stop_le)
    dsimp only
    cases hk : l.l3Kind with
    | ipv4 =>
      refine ite_ok (fun _ => rfl) fun hlen => bind_ok (be16At_ok (by omega)) ?_
      refine ite_ok (fun _ => rfl) fun _ => ?_
      exact bind_ok (be32At_ok (by omega)) (bind_ok (be32At_ok (by omega)) rfl)
    | other =>
      refine ite_ok (fun _ => rfl) fun htwo => bind_ok (ethertypeAt_ok (by omega) hfits) ?_
      refine bind_ok (andAlso_ok fun _ => isArpIpv4_ok buf l.l3) ?_
      by_cases harp : be16 buf (l.l3 - 2) = 0x0806 ∧ TurboLaser.isArpIpv4 buf l.l3 = true
      · have hlen := isArpIpv4_length harp.2
        rw [if_pos harp, decide_eq_true harp.1, harp.2]
        exact bind_ok (be32At_ok (by omega)) (bind_ok (be32At_ok (by omega)) rfl)
      · rw [if_neg harp, if_neg fun hboth => harp ?_]
        · rfl
        · rw [Bool.and_eq_true, decide_eq_true_iff] at hboth
          exact hboth

theorem routable_ok {o : Nat} (h : o + 16 ≤ buf.length) :
    routable buf o = .ok (TurboLaser.routable buf o) := by
  refine bind_ok (byteAt_ok (by omega)) ?_
  refine bind_ok (andAlso_ok fun _ => bind_ok (byteAt_ok (by omega)) rfl) ?_
  exact bind_ok (sliceAt_ok (by omega) h) rfl

theorem ipv6CarriesRoutable_ok (buf : List UInt8) (l3 : Nat) :
    ipv6CarriesRoutable buf l3 = .ok (TurboLaser.ipv6CarriesRoutable buf l3) := by
  refine ite_ok (fun _ => rfl) fun hlen => bind_ok (routable_ok (by omega)) ?_
  exact orElse_ok fun _ => routable_ok (by omega)

theorem carriesPublicAddress_ok (buf : List UInt8) :
    carriesPublicAddress buf = .ok (TurboLaser.carriesPublicAddress buf) := by
  unfold TurboLaser.carriesPublicAddress
  refine bind_ok (parseLayout_ok buf) ?_
  cases hparse : TurboLaser.parseLayout buf with
  | none => rfl
  | some l =>
    have hl := parseLayout_inFrame hparse
    have hfits := hl.l3_le.trans ((hl.l4_le.trans hl.payload_le).trans hl.stop_le)
    dsimp only
    cases hk : l.l3Kind with
    | ipv4 =>
      refine ite_ok (fun _ => rfl) fun hlen => ?_
      exact bind_ok (be32At_ok (by omega)) (bind_ok (be32At_ok (by omega)) rfl)
    | other =>
      refine ite_ok (fun _ => rfl) fun htwo => bind_ok (ethertypeAt_ok (by omega) hfits) ?_
      refine ite_ok (fun _ => ipv6CarriesRoutable_ok buf l.l3) fun _ => ?_
      refine ite_ok (fun _ => bind_ok (isArpIpv4_ok buf l.l3) ?_) fun _ => rfl
      refine ite_ok (fun harp => ?_) fun _ => rfl
      have hlen := isArpIpv4_length harp
      exact bind_ok (be32At_ok (by omega)) (bind_ok (be32At_ok (by omega)) rfl)

end Checked

end TurboLaser
