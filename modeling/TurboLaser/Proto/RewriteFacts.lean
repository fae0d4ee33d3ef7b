import TurboLaser.Proto.Rewrite

/-!
# What rewriting a frame does to its fields

`applyHostMapFrame` edits a frame through a chain of bounded writes. This file reads the result
back, field by field:

- `rewriteIpv4_spec`: an IPv4 frame keeps its layout and total length, its two addresses are the
  images of the old ones, and each MAC is the plan MAC of the address behind it, or the old MAC when
  that address was not mapped;
- `remapArpAddrs_spec`: the same for an ARP frame and its four hardware addresses;
- `coherent_rewritten_iff`: the output guard, which looks at the rewritten bytes, as a condition on
  the frame that came in.

The source reads the old addresses first and then writes, parses the layout once, and uses it for a
frame that has been edited since. Each of these is sound because the writes stay away from what is
read later, and that is how the proofs go: a frame before and after a write agrees on a set of bytes
(`Lib.AgreeOn`), and what is read depends on these only. The two specifications are records of what
holds afterwards; later results use them and do not look at the writes again.
-/

namespace TurboLaser

open Lib

/-- The hardware address at `off`. -/
def macAt (buf : List UInt8) (off : Nat) : Mac :=
  ⟨byte buf off, byte buf (off + 1), byte buf (off + 2), byte buf (off + 3), byte buf (off + 4),
    byte buf (off + 5)⟩

/-- Where a host map sends an address: a host that is not mapped stays. -/
def image (map : HostMap) (a : Ipv4Addr) : Ipv4Addr := (map.lookup a).getD a

/-- The MAC a rewrite leaves in a field: the plan MAC of the new address, the old
MAC when there is none. -/
def planMac (macMap : MacMap) (seed : UInt64) (newIp : Option Ipv4Addr) (old : Mac) : Mac :=
  (newIp.map (macFor macMap seed)).getD old

/-! ## One write -/

theorem macAt_congr {b b' : List UInt8} {off : Nat}
    (h : ∀ k, off ≤ k → k < off + 6 → byte b k = byte b' k) : macAt b off = macAt b' off := by
  unfold macAt
  rw [h off (by omega) (by omega), h (off + 1) (by omega) (by omega),
    h (off + 2) (by omega) (by omega), h (off + 3) (by omega) (by omega),
    h (off + 4) (by omega) (by omega), h (off + 5) (by omega) (by omega)]

/-- A MAC that was just written reads back. -/
theorem macAt_write_self {buf : List UInt8} {off : Nat} (m : Mac) (h : off + 6 ≤ buf.length) :
    macAt (write buf off m.bytes) off = m := by
  have hbyte : ∀ k < 6, byte (write buf off m.bytes) (off + k) = m.bytes.getD k 0 := by
    intro k hk
    rw [byte_write, if_pos ⟨by omega, by rw [Mac.length_bytes]; omega, by omega⟩,
      Nat.add_sub_cancel_left]
  have h0 := hbyte 0 (by decide)
  rw [Nat.add_zero] at h0
  unfold macAt
  rw [h0, hbyte 1 (by decide), hbyte 2 (by decide), hbyte 3 (by decide), hbyte 4 (by decide),
    hbyte 5 (by decide)]
  rfl

theorem agreeOn_setAddr (buf : List UInt8) (off : Nat) (newIp : Option Ipv4Addr) :
    AgreeOn (fun i => i < off ∨ off + 4 ≤ i) (setAddr buf off newIp) buf := by
  cases newIp with
  | none => exact AgreeOn.refl _ _
  | some a => exact agreeOn_write buf off (toBeBytes a)

/-- The word at the edited offset is the new address, when there is one. -/
theorem be32_setAddr (buf : List UInt8) (off : Nat) (newIp : Option Ipv4Addr)
    (h : off + 4 ≤ buf.length) :
    be32 (setAddr buf off newIp) off = newIp.getD (be32 buf off) := by
  cases newIp with
  | none => rfl
  | some a => exact be32_write_self a h

theorem agreeOn_setMacFor (macMap : MacMap) (seed : UInt64) (buf : List UInt8) (off : Nat)
    (newIp : Option Ipv4Addr) :
    AgreeOn (fun i => i < off ∨ off + 6 ≤ i) (setMacFor macMap seed buf off newIp) buf := by
  cases newIp with
  | none => exact AgreeOn.refl _ _
  | some a => exact agreeOn_write buf off (macFor macMap seed a).bytes

/-- The MAC at the edited offset is the plan MAC of the new address, when there is one. -/
theorem macAt_setMacFor (macMap : MacMap) (seed : UInt64) (buf : List UInt8) (off : Nat)
    (newIp : Option Ipv4Addr) (h : off + 6 ≤ buf.length) :
    macAt (setMacFor macMap seed buf off newIp) off =
      planMac macMap seed newIp (macAt buf off) := by
  cases newIp with
  | none => rfl
  | some a => exact macAt_write_self _ h

theorem Lib.AgreeOn.macAt_eq {P : Nat → Prop} {b b' : List UInt8} (h : AgreeOn P b b') {i : Nat}
    (hP : ∀ k, i ≤ k → k < i + 6 → P k) : macAt b i = macAt b' i :=
  macAt_congr fun k hk hk' => h.2 k (hP k hk hk')

/-- A slice of six captured bytes is a MAC. -/
theorem slice_eq_macAt {buf : List UInt8} {off : Nat} (h : off + 6 ≤ buf.length) :
    slice buf off (off + 6) = (macAt buf off).bytes := by
  apply List.ext_getElem?
  intro i
  rw [slice, List.getElem?_drop, List.getElem?_take]
  by_cases hi : i < 6
  · have hget : buf[off + i]? = some (byte buf (off + i)) := by
      rw [byte, List.getD_eq_getElem?_getD, List.getElem?_eq_getElem (by omega), Option.getD_some]
    rw [if_pos (by omega), hget]
    interval_cases i <;> rfl
  · rw [if_neg (by omega), List.getElem?_eq_none (by rw [Mac.length_bytes]; omega)]

/-! ## IPv4 frames -/

/-- The bytes an IPv4 rewrite may write: the two MACs, the two addresses and the checksums. -/
def RewrittenBytes (l : FrameLayout) (i : Nat) : Prop :=
  i < 12 ∨ (l.l3 + 12 ≤ i ∧ i < l.l3 + 20) ∨ ChecksumBytes l i

/-- What a rewrite leaves of an IPv4 frame. -/
structure Ipv4Rewritten (map : HostMap) (macMap : MacMap) (seed : UInt64) (remapMac : Bool)
    (l : FrameLayout) (buf out : List UInt8) : Prop where
  agree : AgreeOn (fun i => ¬ RewrittenBytes l i) out buf
  src : be32 out (l.l3 + 12) = image map (be32 buf (l.l3 + 12))
  dst : be32 out (l.l3 + 16) = image map (be32 buf (l.l3 + 16))
  srcMac : remapMac = true →
    macAt out 6 = planMac macMap seed (map.lookup (be32 buf (l.l3 + 12))) (macAt buf 6)
  dstMac : remapMac = true →
    macAt out 0 = if byte buf 0 &&& 0x01 = 0
      then planMac macMap seed (map.lookup (be32 buf (l.l3 + 16))) (macAt buf 0)
      else macAt buf 0

theorem rewriteIpv4_spec (map : HostMap) (macMap : MacMap) (seed : UInt64) (remapMac : Bool)
    {l : FrameLayout} {buf : List UInt8} (h : parseLayout buf = some l)
    (hk : l.l3Kind = .ipv4) :
    Ipv4Rewritten map macMap seed remapMac l buf (rewriteIpv4 map macMap seed remapMac l buf) := by
  have hl3 := (parseLayout_l3 h).1
  have hspec := parseLayout_ipv4 h hk
  have hihl := hspec.ihl
  have hl4 := hspec.l4
  have hfit := hspec.l4_le
  unfold rewriteIpv4
  dsimp only
  generalize hs : map.lookup (be32 buf (l.l3 + 12)) = newSrc
  -- the source address is written first; the destination is read after it
  have h₁ := agreeOn_setAddr buf (l.l3 + 12) newSrc
  have hsrc₁ := be32_setAddr buf (l.l3 + 12) newSrc (by omega)
  generalize setAddr buf (l.l3 + 12) newSrc = b₁ at h₁ hsrc₁ ⊢
  have hdst₀ : be32 b₁ (l.l3 + 16) = be32 buf (l.l3 + 16) :=
    h₁.be32_eq fun k hk hk' => by omega
  rw [hdst₀]
  generalize hd : map.lookup (be32 buf (l.l3 + 16)) = newDst
  have h₂ := agreeOn_setAddr b₁ (l.l3 + 16) newDst
  have hdst₂ := be32_setAddr b₁ (l.l3 + 16) newDst (by rw [h₁.1]; omega)
  rw [hdst₀] at hdst₂
  generalize setAddr b₁ (l.l3 + 16) newDst = b₂ at h₂ hdst₂ ⊢
  have h₃ : AgreeOn (fun i => ¬ ChecksumBytes l i)
      (if (newSrc.isSome || newDst.isSome) = true then recomputeChecksums b₂ l else b₂) b₂ := by
    split
    · exact recomputeChecksums_agree b₂ l
    · exact AgreeOn.refl _ _
  generalize (if (newSrc.isSome || newDst.isSome) = true then recomputeChecksums b₂ l else b₂) = b₃
    at h₃ ⊢
  -- up to here nothing in front of the network header has changed
  have hfront : AgreeOn (fun i => i < l.l3) b₃ buf :=
    ((h₃.mono fun i hi => by unfold ChecksumBytes; omega).trans
      (h₂.mono fun i hi => by omega)).trans (h₁.mono fun i hi => by omega)
  have hbody : AgreeOn (fun i => ¬ RewrittenBytes l i) b₃ buf :=
    ((h₃.mono fun i hi hck => hi (Or.inr (Or.inr hck))).trans
      (h₂.mono fun i hi => by unfold RewrittenBytes at hi; omega)).trans
      (h₁.mono fun i hi => by unfold RewrittenBytes at hi; omega)
  have hsrc₃ : be32 b₃ (l.l3 + 12) = image map (be32 buf (l.l3 + 12)) := by
    rw [h₃.be32_eq fun k hk hk' => by unfold ChecksumBytes; omega,
      h₂.be32_eq fun k hk hk' => by omega, hsrc₁, image, hs]
  have hdst₃ : be32 b₃ (l.l3 + 16) = image map (be32 buf (l.l3 + 16)) := by
    rw [h₃.be32_eq fun k hk hk' => by unfold ChecksumBytes; omega, hdst₂, image, hd]
  by_cases hmac : remapMac = true
  · rw [if_pos hmac]
    have hlen₃ : 14 ≤ b₃.length := by rw [hbody.1]; omega
    have h₄ := agreeOn_setMacFor macMap seed b₃ 6 newSrc
    have hmac₄ := macAt_setMacFor macMap seed b₃ 6
      newSrc (by omega)
    generalize setMacFor macMap seed b₃ 6 newSrc = b₄ at h₄ hmac₄ ⊢
    have hgroup : byte b₄ 0 = byte buf 0 := by
      rw [h₄.2 0 (by omega), hfront.2 0 (by omega)]
    rw [hgroup]
    have h₅ : AgreeOn (fun i => 6 ≤ i)
        (if byte buf 0 &&& 0x01 = 0 then setMacFor macMap seed b₄ 0 newDst else b₄) b₄ := by
      split
      · exact (agreeOn_setMacFor macMap seed b₄ 0 newDst).mono fun i hi => by omega
      · exact AgreeOn.refl _ _
    have hold : macAt b₄ 0 = macAt buf 0 := by
      rw [h₄.macAt_eq fun k hk hk' => by omega, hfront.macAt_eq fun k hk hk' => by omega]
    refine ⟨?_, ?_, ?_, fun _ => ?_, fun _ => ?_⟩
    · refine ((h₅.mono fun i hi => ?_).trans (h₄.mono fun i hi => ?_)).trans hbody
      · unfold RewrittenBytes at hi; omega
      · unfold RewrittenBytes at hi; omega
    · rw [h₅.be32_eq fun k hk hk' => by omega, h₄.be32_eq fun k hk hk' => by omega, hsrc₃]
    · rw [h₅.be32_eq fun k hk hk' => by omega, h₄.be32_eq fun k hk hk' => by omega, hdst₃]
    · rw [h₅.macAt_eq fun k hk hk' => by omega, hmac₄,
        hfront.macAt_eq fun k hk hk' => by omega, hs]
    · split
      · rw [macAt_setMacFor _ _ _ _ newDst (by rw [h₄.1]; omega), hold, hd]
      · exact hold
  · rw [if_neg hmac]
    exact ⟨hbody, hsrc₃, hdst₃, fun h => absurd h hmac, fun h => absurd h hmac⟩

/-! ## ARP frames

An ARP frame is told by eight bytes that a rewrite leaves alone, so a rewritten frame is one still.
The two hardware addresses are rewritten by different rules: the sender's whenever its host is
mapped, the target's only where it is a real address as well, and the Ethernet destination goes with
the target's.
-/

/-- What a rewrite leaves of an ARP frame. -/
structure ArpRewritten (map : HostMap) (macMap : MacMap) (seed : UInt64) (remapMac : Bool)
    (l3 : Nat) (buf out : List UInt8) : Prop where
  agree : AgreeOn (fun i => 12 ≤ i ∧ i < l3 + 8) out buf
  spa : be32 out (l3 + 14) = image map (be32 buf (l3 + 14))
  tpa : be32 out (l3 + 24) = image map (be32 buf (l3 + 24))
  sha : remapMac = true →
    macAt out (l3 + 8) = planMac macMap seed (map.lookup (be32 buf (l3 + 14))) (macAt buf (l3 + 8))
  srcMac : remapMac = true →
    macAt out 6 = planMac macMap seed (map.lookup (be32 buf (l3 + 14))) (macAt buf 6)
  tha : remapMac = true →
    macAt out (l3 + 18) = if isRealMac (macAt buf (l3 + 18)).bytes = true
      then planMac macMap seed (map.lookup (be32 buf (l3 + 24))) (macAt buf (l3 + 18))
      else macAt buf (l3 + 18)
  dstMac : remapMac = true →
    macAt out 0 = if isRealMac (macAt buf (l3 + 18)).bytes = true
      then planMac macMap seed (map.lookup (be32 buf (l3 + 24))) (macAt buf 0)
      else macAt buf 0

/-- The test for ARP reads the eight bytes in front of the hardware addresses and the ethertype. -/
theorem isArpIpv4_congr {b b' : List UInt8} {l3 : Nat} (hl3 : 14 ≤ l3)
    (h : AgreeOn (fun i => 12 ≤ i ∧ i < l3 + 8) b b') : isArpIpv4 b l3 = isArpIpv4 b' l3 := by
  unfold isArpIpv4
  rw [h.1, h.be16_eq fun k hk hk' => by omega, h.be16_eq fun k hk hk' => by omega,
    h.be16_eq fun k hk hk' => by omega, h.2 (l3 + 4) (by omega), h.2 (l3 + 5) (by omega)]

theorem isArpIpv4_length {buf : List UInt8} {l3 : Nat} (h : isArpIpv4 buf l3 = true) :
    l3 + 28 ≤ buf.length := by
  unfold isArpIpv4 at h
  simp only [Bool.and_eq_true, decide_eq_true_iff] at h
  exact h.1.1.1.1.1.2

theorem isArpIpv4_ethertype {buf : List UInt8} {l3 : Nat} (h : isArpIpv4 buf l3 = true) :
    be16 buf (l3 - 2) = 0x0806 := by
  unfold isArpIpv4 at h
  simp only [Bool.and_eq_true, decide_eq_true_iff] at h
  exact h.1.1.1.1.2

theorem remapArpAddrs_spec (map : HostMap) (macMap : MacMap) (seed : UInt64) (remapMac : Bool)
    {l3 : Nat} {buf : List UInt8} (hl3 : 14 ≤ l3) (harp : isArpIpv4 buf l3 = true) :
    ArpRewritten map macMap seed remapMac l3 buf
      (remapArpAddrs map macMap seed remapMac l3 buf) := by
  have hfit := isArpIpv4_length harp
  unfold remapArpAddrs
  rw [if_pos harp]
  dsimp only
  generalize hs : map.lookup (be32 buf (l3 + 14)) = nspa
  have h₁ := agreeOn_setAddr buf (l3 + 14) nspa
  have hspa₁ := be32_setAddr buf (l3 + 14) nspa (by omega)
  generalize setAddr buf (l3 + 14) nspa = b₁ at h₁ hspa₁ ⊢
  -- the sender's hardware address, then the Ethernet source
  have h₂ := agreeOn_setMacFor macMap seed b₁ (l3 + 8) nspa
  have hsha₂ := macAt_setMacFor macMap seed b₁ (l3 + 8)
    nspa (by rw [h₁.1]; omega)
  generalize setMacFor macMap seed b₁ (l3 + 8) nspa = b₂ at h₂ hsha₂ ⊢
  have h₃ := agreeOn_setMacFor macMap seed b₂ 6 nspa
  have hsrc₃ := macAt_setMacFor macMap seed b₂ 6
    nspa (by rw [h₂.1, h₁.1]; omega)
  generalize setMacFor macMap seed b₂ 6 nspa = b₃ at h₃ hsrc₃ ⊢
  -- the target half reads and writes behind the sender half
  have hback : AgreeOn (fun i => l3 + 18 ≤ i) (if remapMac = true then b₃ else b₁) buf := by
    split
    · exact ((h₃.mono fun i hi => by omega).trans (h₂.mono fun i hi => by omega)).trans
        (h₁.mono fun i hi => by omega)
    · exact h₁.mono fun i hi => by omega
  have hfront : AgreeOn (fun i => i < 6 ∨ (12 ≤ i ∧ i < l3 + 8))
      (if remapMac = true then b₃ else b₁) buf := by
    split
    · exact ((h₃.mono fun i hi => by omega).trans (h₂.mono fun i hi => by omega)).trans
        (h₁.mono fun i hi => by omega)
    · exact h₁.mono fun i hi => by omega
  have hspa : be32 (if remapMac = true then b₃ else b₁) (l3 + 14) =
      image map (be32 buf (l3 + 14)) := by
    have hb₁ : be32 b₁ (l3 + 14) = image map (be32 buf (l3 + 14)) := by rw [hspa₁, image, hs]
    split
    · rw [h₃.be32_eq fun k hk hk' => by omega, h₂.be32_eq fun k hk hk' => by omega, hb₁]
    · exact hb₁
  have hsha : remapMac = true → macAt (if remapMac = true then b₃ else b₁) (l3 + 8) =
      planMac macMap seed nspa (macAt buf (l3 + 8)) := by
    intro hmac
    rw [if_pos hmac, h₃.macAt_eq fun k hk hk' => by omega, hsha₂,
      h₁.macAt_eq fun k hk hk' => by omega]
  have hsrcMac : remapMac = true → macAt (if remapMac = true then b₃ else b₁) 6 =
      planMac macMap seed nspa (macAt buf 6) := by
    intro hmac
    rw [if_pos hmac, hsrc₃, h₂.macAt_eq fun k hk hk' => by omega,
      h₁.macAt_eq fun k hk hk' => by omega]
  generalize (if remapMac = true then b₃ else b₁) = b₄ at hback hfront hspa hsha hsrcMac ⊢
  have htpa₄ : be32 b₄ (l3 + 24) = be32 buf (l3 + 24) := hback.be32_eq fun k hk hk' => by omega
  rw [htpa₄]
  generalize hd : map.lookup (be32 buf (l3 + 24)) = ntpa
  have h₅ := agreeOn_setAddr b₄ (l3 + 24) ntpa
  have htpa₅ := be32_setAddr b₄ (l3 + 24) ntpa (by rw [hback.1]; omega)
  rw [htpa₄] at htpa₅
  generalize setAddr b₄ (l3 + 24) ntpa = b₅ at h₅ htpa₅ ⊢
  have htha₅ : macAt b₅ (l3 + 18) = macAt buf (l3 + 18) := by
    rw [h₅.macAt_eq fun k hk hk' => by omega, hback.macAt_eq fun k hk hk' => by omega]
  have hdst₅ : macAt b₅ 0 = macAt buf 0 := by
    rw [h₅.macAt_eq fun k hk hk' => by omega, hfront.macAt_eq fun k hk hk' => by omega]
  rw [slice_eq_macAt (by rw [h₅.1, hback.1]; omega), htha₅]
  have h₆ := agreeOn_setMacFor macMap seed b₅ (l3 + 18) ntpa
  have h₇ := agreeOn_setMacFor macMap seed (setMacFor macMap seed b₅ (l3 + 18) ntpa) 0 ntpa
  have hkeep : AgreeOn (fun i => 6 ≤ i ∧ i < l3 + 18 ∨ l3 + 24 ≤ i)
      (if (remapMac && isRealMac (macAt buf (l3 + 18)).bytes) = true
        then setMacFor macMap seed (setMacFor macMap seed b₅ (l3 + 18) ntpa) 0 ntpa else b₅)
      b₅ := by
    split
    · exact (h₇.mono fun i hi => by omega).trans (h₆.mono fun i hi => by omega)
    · exact AgreeOn.refl _ _
  have htha : remapMac = true →
      macAt (if (remapMac && isRealMac (macAt buf (l3 + 18)).bytes) = true
        then setMacFor macMap seed (setMacFor macMap seed b₅ (l3 + 18) ntpa) 0 ntpa else b₅)
        (l3 + 18) =
      if isRealMac (macAt buf (l3 + 18)).bytes = true
        then planMac macMap seed ntpa (macAt buf (l3 + 18)) else macAt buf (l3 + 18) := by
    intro hmac
    rw [hmac, Bool.true_and]
    split
    · rw [h₇.macAt_eq fun k hk hk' => by omega,
        macAt_setMacFor _ _ _ _ ntpa (by rw [h₅.1, hback.1]; omega), htha₅]
    · exact htha₅
  have hdst : remapMac = true →
      macAt (if (remapMac && isRealMac (macAt buf (l3 + 18)).bytes) = true
        then setMacFor macMap seed (setMacFor macMap seed b₅ (l3 + 18) ntpa) 0 ntpa else b₅) 0 =
      if isRealMac (macAt buf (l3 + 18)).bytes = true
        then planMac macMap seed ntpa (macAt buf 0) else macAt buf 0 := by
    intro hmac
    rw [hmac, Bool.true_and]
    split
    · rw [macAt_setMacFor _ _ _ _ ntpa (by rw [h₆.1, h₅.1, hback.1]; omega),
        h₆.macAt_eq fun k hk hk' => by omega, hdst₅]
    · exact hdst₅
  refine ⟨?_, ?_, ?_, fun hmac => ?_, fun hmac => ?_, fun hmac => ?_, fun hmac => ?_⟩
  · exact ((hkeep.mono fun i hi => by omega).trans (h₅.mono fun i hi => by omega)).trans
      (hfront.mono fun i hi => by omega)
  · rw [hkeep.be32_eq fun k hk hk' => by omega, h₅.be32_eq fun k hk hk' => by omega, hspa]
  · rw [hkeep.be32_eq fun k hk hk' => by omega, htpa₅, image, hd]
  · rw [hkeep.macAt_eq fun k hk hk' => by omega, h₅.macAt_eq fun k hk hk' => by omega, hsha hmac, hs]
  · rw [hkeep.macAt_eq fun k hk hk' => by omega, h₅.macAt_eq fun k hk hk' => by omega,
      hsrcMac hmac, hs]
  · rw [hd]
    exact htha hmac
  · rw [hd]
    exact hdst hmac

/-! ## The layout and the guard, seen from the frame that came in

The guard is asked of the rewritten frame in the source. Here it is asked of the frame that came in
and the map: whether the images of its two addresses may leave. With that the survivors of a remap
can be named before anything is rewritten.
-/

/-- An IPv4 rewrite keeps the layout. -/
theorem Ipv4Rewritten.layout {map : HostMap} {macMap : MacMap} {seed : UInt64} {remapMac : Bool}
    {l : FrameLayout} {buf out : List UInt8} (hr : Ipv4Rewritten map macMap seed remapMac l buf out)
    (h : parseLayout buf = some l) (hk : l.l3Kind = .ipv4) : parseLayout out = some l := by
  have hl3 := (parseLayout_l3 h).1
  have hspec := parseLayout_ipv4 h hk
  have hihl := hspec.ihl
  have hl4 := hspec.l4
  refine parseLayout_congr h (hr.agree.symm.mono fun i hi hedit => ?_)
  -- the layout bytes lie between the MACs and the addresses, or in the transport header
  unfold LayoutBytes HeaderBytes at hi
  unfold RewrittenBytes ChecksumBytes at hedit
  cases htcp : l.l4Kind with
  | tcp => simp [htcp] at hi hedit; omega
  | udp => simp [htcp] at hi hedit; omega
  | other => simp [htcp] at hi hedit; omega

/-- An ARP rewrite keeps the layout. -/
theorem ArpRewritten.layout {map : HostMap} {macMap : MacMap} {seed : UInt64} {remapMac : Bool}
    {l : FrameLayout} {buf out : List UInt8}
    (hr : ArpRewritten map macMap seed remapMac l.l3 buf out)
    (h : parseLayout buf = some l) (hk : l.l3Kind = .other) : parseLayout out = some l := by
  refine parseLayout_congr h (hr.agree.symm.mono fun i hi => ?_)
  rcases hi with ⟨hlo, hhi⟩ | ⟨hipv4, -⟩
  · exact ⟨hlo, by omega⟩
  · rw [hk] at hipv4
    cases hipv4

/-- The output guard as a test of the frame that comes in: its source's image is a
plan host, its destination's image may leave, and an IPv4 packet is captured whole. -/
def passesGuard (map : HostMap) (buf : List UInt8) : Bool :=
  match parseLayout buf with
  | none => false
  | some l =>
    match l.l3Kind with
    | .ipv4 =>
      decide (l.l3 + be16 buf (l.l3 + 2) ≤ buf.length) &&
        (srcIsPlan map.values (image map (be32 buf (l.l3 + 12))) &&
          dstOk map.values (image map (be32 buf (l.l3 + 16))))
    | .other =>
      isArpIpv4 buf l.l3 &&
        (srcIsPlan map.values (image map (be32 buf (l.l3 + 14))) &&
          dstOk map.values (image map (be32 buf (l.l3 + 24))))

theorem applyHostMapFrame_ipv4 {map : HostMap} {macMap : MacMap} {seed : UInt64} {remapMac : Bool}
    {l : FrameLayout} {buf : List UInt8} (h : parseLayout buf = some l) (hk : l.l3Kind = .ipv4) :
    applyHostMapFrame map macMap seed remapMac buf = rewriteIpv4 map macMap seed remapMac l buf := by
  unfold applyHostMapFrame
  rw [h]
  dsimp only
  rw [hk]

theorem applyHostMapFrame_other {map : HostMap} {macMap : MacMap} {seed : UInt64} {remapMac : Bool}
    {l : FrameLayout} {buf : List UInt8} (h : parseLayout buf = some l) (hk : l.l3Kind = .other) :
    applyHostMapFrame map macMap seed remapMac buf =
      remapArpAddrs map macMap seed remapMac l.l3 buf := by
  unfold applyHostMapFrame
  rw [h]
  dsimp only
  rw [hk]

/-- **The output guard passes exactly the frames whose images it would pass.** -/
theorem coherent_rewritten_iff (map : HostMap) (macMap : MacMap) (seed : UInt64) (remapMac : Bool)
    (buf : List UInt8) :
    frameIsPlanCoherent map.values (applyHostMapFrame map macMap seed remapMac buf) =
      passesGuard map buf := by
  cases hl : parseLayout buf with
  | none =>
    have hsame : applyHostMapFrame map macMap seed remapMac buf = buf := by
      unfold applyHostMapFrame
      rw [hl]
    rw [hsame, frameIsPlanCoherent, passesGuard, hl]
  | some l =>
    have hl3 := parseLayout_l3 hl
    cases hk : l.l3Kind with
    | ipv4 =>
      have hspec := parseLayout_ipv4 hl hk
      have hr := rewriteIpv4_spec map macMap seed remapMac hl hk
      rw [applyHostMapFrame_ipv4 hl hk]
      have hihl := hspec.ihl
      have hl4 := hspec.l4
      have hfit := hspec.l4_le
      have htotal : be16 (rewriteIpv4 map macMap seed remapMac l buf) (l.l3 + 2) =
          be16 buf (l.l3 + 2) :=
        hr.agree.be16_eq fun k hk hk' => by unfold RewrittenBytes ChecksumBytes; omega
      rw [frameIsPlanCoherent, hr.layout hl hk, passesGuard, hl]
      dsimp only
      rw [hk]
      dsimp only
      rw [hr.agree.1, htotal, hr.src, hr.dst, if_neg (by omega)]
      -- the guard wants the whole packet, and the rewrite does not change its length
      by_cases hwhole : l.l3 + be16 buf (l.l3 + 2) ≤ buf.length
      · rw [if_neg (by omega), decide_eq_true hwhole, Bool.true_and]
      · rw [if_pos (by omega), decide_eq_false hwhole, Bool.false_and]
    | other =>
      rw [applyHostMapFrame_other hl hk]
      by_cases harp : isArpIpv4 buf l.l3 = true
      · have hr := remapArpAddrs_spec map macMap seed remapMac hl3.1 harp
        have harp' := (isArpIpv4_congr hl3.1 hr.agree).trans harp
        rw [frameIsPlanCoherent, hr.layout hl hk, passesGuard, hl]
        dsimp only
        rw [hk]
        dsimp only
        rw [if_neg (by omega), if_pos ⟨isArpIpv4_ethertype harp', harp'⟩, hr.spa, hr.tpa, harp,
          Bool.true_and]
      · have hsame : remapArpAddrs map macMap seed remapMac l.l3 buf = buf := if_neg harp
        rw [hsame, frameIsPlanCoherent, passesGuard, hl]
        dsimp only
        rw [hk]
        dsimp only
        rw [if_neg (by omega), if_neg fun h => harp h.2, Bool.eq_false_of_not_eq_true harp,
          Bool.false_and]

end TurboLaser
