import TurboLaser.Lib.Bytes

/-!
# Frame layout and checksums (proto/frame.rs)

`parseLayout` finds the offsets of the network and transport headers behind any number of VLAN tags
(at most four are skipped); everything else in the remap edits a frame at these offsets. The
functions here are translated one by one, with the offsets, the masks and the order of the tests as
they are in the source, because later results are about single bytes.

Two facts carry every argument about an edited frame:

- `parseLayout_congr`: the layout depends on the bytes from the ethertype to the end of the network
  header's fixed fields only, so an edit of addresses, MACs and checksums leaves it alone. A rewrite
  may therefore be followed write by write with one layout in hand, as the source does when it
  parses once and edits in place;
- `recomputeChecksums_agree`: recomputing writes the two IP checksum bytes and the two transport
  checksum bytes, nothing else. Where these are is known from the layout.

The checksum sums are natural numbers: a packet has at most 65535 bytes, so the 32-bit accumulator
of the source never wraps. (That bound is a theorem of `Proto.Checksums`, not an assumption.) Reads
past the end are zero here; that the source never makes one is the subject of `Checked.Frame`.
-/

namespace TurboLaser

open Lib

/-- Network layer of a frame. -/
inductive L3Kind where
  | ipv4
  | other
deriving DecidableEq

/-- Transport layer of a frame. -/
inductive L4Kind where
  | tcp
  | udp
  | other
deriving DecidableEq

/-- Byte offsets into a frame; `stop` is the source's `end`, the end of the IP
packet within the buffer. -/
structure FrameLayout where
  l3 : Nat
  l3Kind : L3Kind
  ihl : Nat
  l4 : Nat
  l4Kind : L4Kind
  payload : Nat
  stop : Nat
deriving DecidableEq

/-- The VLAN loop: from the ethertype read before `off`, skip up to `guard` tags.
Returns the offset behind the tags and the ethertype in front of it. -/
def skipVlan (buf : List UInt8) : Nat → Nat → Nat → Option (Nat × Nat)
  | 0, off, ethertype => some (off, ethertype)
  | guard + 1, off, ethertype =>
    if ethertype = 0x8100 ∨ ethertype = 0x88a8 then
      if buf.length < off + 4 then none
      else skipVlan buf guard (off + 4) (be16 buf (off + 2))
    else some (off, ethertype)

/-- The transport kind and header length, `none` when the header is malformed. -/
def parseL4 (buf : List UInt8) (proto l4 : Nat) : Option (L4Kind × Nat) :=
  if proto = 6 then
    if buf.length < l4 + 20 then none
    else
      let dataOff := (byte buf (l4 + 12)).toNat / 16 * 4
      if dataOff < 20 ∨ buf.length < l4 + dataOff then none
      else some (.tcp, dataOff)
  else if proto = 17 then
    if buf.length < l4 + 8 then none else some (.udp, 8)
  else some (.other, 0)

/-- `parse_ipv4`. -/
def parseIpv4 (buf : List UInt8) (l3 : Nat) : Option FrameLayout :=
  if buf.length < l3 + 20 then none
  else
    let vihl := (byte buf l3).toNat
    if vihl / 16 ≠ 4 then none
    else
      let ihl := vihl % 16 * 4
      if ihl < 20 ∨ buf.length < l3 + ihl then none
      else
        let ipTotal := be16 buf (l3 + 2)
        if ipTotal < ihl then none
        else
          let stop := min (l3 + ipTotal) buf.length
          let l4 := l3 + ihl
          match parseL4 buf (byte buf (l3 + 9)).toNat l4 with
          | none => none
          | some (l4Kind, l4Hdr) =>
            some { l3, l3Kind := .ipv4, ihl, l4, l4Kind, payload := min (l4 + l4Hdr) stop, stop }

/-- `parse_layout`: Ethernet, VLAN tags, IPv4, TCP or UDP. -/
def parseLayout (buf : List UInt8) : Option FrameLayout :=
  if buf.length < 14 then none
  else
    match skipVlan buf 4 14 (be16 buf 12) with
    | none => none
    | some (l3, ethertype) =>
      if ethertype = 0x0800 then parseIpv4 buf l3
      else
        some { l3, l3Kind := .other, ihl := 0, l4 := l3, l4Kind := .other, payload := l3,
               stop := buf.length }

/-! ## Checksums -/

/-- The bytes of a buffer from `a` to `b`. -/
def slice (buf : List UInt8) (a b : Nat) : List UInt8 := (buf.take b).drop a

/-- `sum_words`: add the big-endian 16-bit words, an odd last byte as a high byte. -/
def sumWords : Nat → List UInt8 → Nat
  | acc, hi :: lo :: rest => sumWords (acc + (hi.toNat * 256 + lo.toNat)) rest
  | acc, [hi] => acc + hi.toNat * 256
  | acc, [] => acc

/-- The carry-folding loop, with the sum itself as the bound on its length. -/
def foldLoop : Nat → Nat → Nat
  | 0, sum => sum
  | fuel + 1, sum => if sum / 65536 = 0 then sum else foldLoop fuel (sum % 65536 + sum / 65536)

/-- `fold`: add the carries back in until 16 bits are left. -/
def fold (sum : Nat) : Nat := foldLoop sum sum

/-- The pseudo header the transport checksum covers. -/
def pseudoHeader (buf : List UInt8) (l : FrameLayout) : List UInt8 :=
  let l4Len := l.stop - l.l4
  slice buf (l.l3 + 12) (l.l3 + 20) ++
    [0, byte buf (l.l3 + 9), UInt8.ofNat (l4Len / 256), UInt8.ofNat (l4Len % 256)]

/-- `l4_checksum`: recompute the transport checksum at `csumOff` in the header. -/
def l4Checksum (buf : List UInt8) (l : FrameLayout) (csumOff : Nat) : List UInt8 :=
  if l.stop ≤ l.l4 ∨ buf.length ≤ l.l4 + csumOff + 1 then buf
  else
    let zeroed := write buf (l.l4 + csumOff) [0, 0]
    let s := sumWords (sumWords 0 (pseudoHeader buf l)) (slice zeroed l.l4 l.stop)
    let csum := 0xffff - fold s
    let csum := if l.l4Kind = .udp ∧ csum = 0 then 0xffff else csum
    write zeroed (l.l4 + csumOff) [UInt8.ofNat (csum / 256), UInt8.ofNat (csum % 256)]

/-- `recompute_checksums`: the IPv4 header checksum, then the transport checksum.
A no-op for other frames. -/
def recomputeChecksums (buf : List UInt8) (l : FrameLayout) : List UInt8 :=
  if l.l3Kind ≠ .ipv4 then buf
  else
    let zeroed := write buf (l.l3 + 10) [0, 0]
    let ipck := 0xffff - fold (sumWords 0 (slice zeroed l.l3 (l.l3 + l.ihl)))
    let summed := write zeroed (l.l3 + 10) [UInt8.ofNat (ipck / 256), UInt8.ofNat (ipck % 256)]
    match l.l4Kind with
    | .tcp => l4Checksum summed l 16
    | .udp => l4Checksum summed l 6
    | .other => summed

/-! ## What a layout promises

All that later modules know about offsets is stated here: they are in order, they lie inside the
frame, and the transport header is inside what is captured. The declared length of the packet may
end before the headers do. So the promises say what lies inside the frame, and not what lies inside
the packet.
-/

/-- The offset behind the VLAN tags is at least the start and stays in bounds. -/
theorem skipVlan_bounds {buf : List UInt8} {guard off ethertype l3 e : Nat}
    (hoff : off ≤ buf.length) (h : skipVlan buf guard off ethertype = some (l3, e)) :
    off ≤ l3 ∧ l3 ≤ buf.length := by
  induction guard generalizing off ethertype with
  | zero =>
    simp only [skipVlan, Option.some.injEq, Prod.mk.injEq] at h
    omega
  | succ guard ih =>
    rw [skipVlan] at h
    split at h
    · split at h
      · cases h
      · have := ih (by omega) h
        omega
    · simp only [Option.some.injEq, Prod.mk.injEq] at h
      omega

/-- A transport header that parses lies inside the buffer. -/
theorem parseL4_bounds {buf : List UInt8} {proto l4 hdr : Nat} {kind : L4Kind}
    (h : parseL4 buf proto l4 = some (kind, hdr)) :
    (kind = .tcp → 20 ≤ hdr ∧ l4 + hdr ≤ buf.length) ∧
      (kind = .udp → hdr = 8 ∧ l4 + 8 ≤ buf.length) := by
  unfold parseL4 at h
  split at h
  · split at h
    · cases h
    · dsimp only at h
      split at h
      · cases h
      · cases h
        exact ⟨fun _ => by omega, nofun⟩
  · split at h
    · split at h
      · cases h
      · cases h
        exact ⟨nofun, fun _ => by omega⟩
    · cases h
      exact ⟨nofun, nofun⟩

/-- What `parseIpv4` promises about the offsets it returns. -/
structure Ipv4Layout (buf : List UInt8) (l : FrameLayout) : Prop where
  kind : l.l3Kind = .ipv4
  ihl : 20 ≤ l.ihl
  l4 : l.l4 = l.l3 + l.ihl
  l4_le : l.l4 ≤ buf.length
  tcp : l.l4Kind = .tcp → l.l4 + 20 ≤ buf.length
  udp : l.l4Kind = .udp → l.l4 + 8 ≤ buf.length
  stop_le : l.stop ≤ buf.length

/-- A successful `parseIpv4` starts at the given offset and keeps its promises. -/
theorem parseIpv4_spec {buf : List UInt8} {l3 : Nat} {l : FrameLayout}
    (h : parseIpv4 buf l3 = some l) : l.l3 = l3 ∧ Ipv4Layout buf l := by
  unfold parseIpv4 at h
  split at h
  · cases h
  · dsimp only at h
    split at h
    · cases h
    · split at h
      · cases h
      · split at h
        · cases h
        · split at h
          · cases h
          · next kind hdr hl4 =>
            -- past all five checks: version 4, the whole header, a total length, and a transport
            -- that parses
            have hb := parseL4_bounds hl4
            cases h
            refine ⟨rfl, rfl, ?_, rfl, ?_, ?_, ?_, Nat.min_le_right _ _⟩
            · dsimp only; omega
            · dsimp only; omega
            · intro hk
              have := hb.1 hk
              dsimp only at *
              omega
            · intro hk
              have := hb.2 hk
              dsimp only at *
              omega

/-- Only protocol number 6 is read as TCP. -/
theorem parseIpv4_tcp {buf : List UInt8} {l3 : Nat} {l : FrameLayout}
    (h : parseIpv4 buf l3 = some l) (htcp : l.l4Kind = .tcp) : (byte buf (l3 + 9)).toNat = 6 := by
  unfold parseIpv4 at h
  split at h
  · cases h
  · dsimp only at h
    split at h
    · cases h
    · split at h
      · cases h
      · split at h
        · cases h
        · split at h
          · cases h
          · next kind hdr hl4 =>
            cases h
            dsimp only at htcp
            subst htcp
            -- the branch for protocol 6 is the only one that says TCP
            unfold parseL4 at hl4
            by_contra hne
            rw [if_neg hne] at hl4
            split at hl4
            · split at hl4
              · cases hl4
              · cases hl4
            · cases hl4

/-- A frame without VLAN tags has its IPv4 header behind the Ethernet header. -/
theorem parseLayout_untagged {buf : List UInt8} (hlen : 14 ≤ buf.length)
    (hether : be16 buf 12 = 0x0800) : parseLayout buf = parseIpv4 buf 14 := by
  simp [parseLayout, skipVlan, hether, show ¬ buf.length < 14 by omega]

/-- A parsed frame has an Ethernet header in front of its network header. -/
theorem parseLayout_l3 {buf : List UInt8} {l : FrameLayout} (h : parseLayout buf = some l) :
    14 ≤ l.l3 ∧ l.l3 ≤ buf.length := by
  unfold parseLayout at h
  split at h
  · cases h
  · split at h
    · cases h
    · next l3 e hskip =>
      have hb := skipVlan_bounds (by omega) hskip
      split at h
      · rw [(parseIpv4_spec h).1]
        exact hb
      · cases h
        exact hb

/-- A parsed IPv4 frame keeps the promises of `parseIpv4`. -/
theorem parseLayout_ipv4 {buf : List UInt8} {l : FrameLayout} (h : parseLayout buf = some l)
    (hk : l.l3Kind = .ipv4) : Ipv4Layout buf l := by
  unfold parseLayout at h
  split at h
  · cases h
  · split at h
    · cases h
    · split at h
      · exact (parseIpv4_spec h).2
      · cases h
        cases hk

/-! ## The layout of an edited frame

The parser reads few bytes: those in front of the network header, the version, length and protocol
of an IPv4 header, and the data offset of TCP. An edit elsewhere keeps the layout. All edits of the
repository are of this kind, which is how rewriting, mutating and recomputing can be done one after
another on one layout.
-/

/-- The VLAN loop reads nothing behind the offset it returns. -/
theorem skipVlan_congr {b b' : List UInt8} {guard off ethertype l3 e : Nat}
    (hlen : b.length = b'.length) (h : skipVlan b guard off ethertype = some (l3, e))
    (hb : ∀ i, off ≤ i → i < l3 → byte b i = byte b' i) (hoff : off ≤ b.length) :
    skipVlan b' guard off ethertype = some (l3, e) := by
  induction guard generalizing off ethertype with
  | zero => exact h
  | succ guard ih =>
    rw [skipVlan] at h ⊢
    split at h
    · next htag =>
      rw [if_pos htag]
      split at h
      · cases h
      · next hlt =>
        have hle := (skipVlan_bounds (by omega) h).1
        have hword : be16 b (off + 2) = be16 b' (off + 2) :=
          be16_congr fun k hk hk' => hb k (by omega) (by omega)
        rw [if_neg (by omega), ← hword]
        exact ih h (fun i hi hi' => hb i (by omega) hi') (by omega)
    · next htag =>
      rw [if_neg htag]
      exact h

/-- The transport header parser reads one byte: the TCP data offset. -/
theorem parseL4_congr {b b' : List UInt8} {proto l4 : Nat} (hlen : b.length = b'.length)
    (hb : proto = 6 → l4 + 20 ≤ b.length → byte b (l4 + 12) = byte b' (l4 + 12)) :
    parseL4 b proto l4 = parseL4 b' proto l4 := by
  unfold parseL4
  rw [← hlen]
  by_cases hp : proto = 6
  · rw [if_pos hp, if_pos hp]
    by_cases hl : b.length < l4 + 20
    · rw [if_pos hl, if_pos hl]
    · rw [if_neg hl, if_neg hl, hb hp (by omega)]
  · rw [if_neg hp, if_neg hp]

/-- The header bytes the IPv4 parser reads: version, total length, protocol, and
the TCP data offset. -/
def HeaderBytes (l : FrameLayout) (i : Nat) : Prop :=
  i = l.l3 ∨ i = l.l3 + 2 ∨ i = l.l3 + 3 ∨ i = l.l3 + 9 ∨ (l.l4Kind = .tcp ∧ i = l.l4 + 12)

theorem parseIpv4_congr {b b' : List UInt8} {l3 : Nat} {l : FrameLayout}
    (h : parseIpv4 b l3 = some l) (hb : AgreeOn (HeaderBytes l) b b') :
    parseIpv4 b' l3 = some l := by
  obtain ⟨hl3, hspec⟩ := parseIpv4_spec h
  have hv : byte b l3 = byte b' l3 := hb.2 l3 (Or.inl hl3.symm)
  have ht : be16 b (l3 + 2) = be16 b' (l3 + 2) := by
    refine be16_congr fun k hk hk' => hb.2 k ?_
    unfold HeaderBytes
    omega
  have hp : byte b (l3 + 9) = byte b' (l3 + 9) :=
    hb.2 (l3 + 9) (Or.inr (Or.inr (Or.inr (Or.inl (by rw [hl3])))))
  have hl4eq := hspec.l4
  unfold parseIpv4 at h ⊢
  rw [← hb.1, ← hv, ← ht, ← hp]
  split at h
  · cases h
  · next hlen =>
    rw [if_neg hlen]
    dsimp only at h ⊢
    split at h
    · cases h
    · next hver =>
      rw [if_neg hver]
      split at h
      · cases h
      · next hihl =>
        rw [if_neg hihl]
        split at h
        · cases h
        · next htot =>
          rw [if_neg htot]
          -- the transport parser is the only reader left; it looks at one byte
          have hl4 : parseL4 b (byte b (l3 + 9)).toNat (l3 + (byte b l3).toNat % 16 * 4)
              = parseL4 b' (byte b (l3 + 9)).toNat (l3 + (byte b l3).toNat % 16 * 4) := by
            refine parseL4_congr hb.1 fun hproto hfit => ?_
            split at h
            · cases h
            · next kind hdr hsome =>
              have htcp : kind = .tcp := by
                unfold parseL4 at hsome
                rw [if_pos hproto, if_neg (by omega)] at hsome
                dsimp only at hsome
                split at hsome
                · cases hsome
                · cases hsome
                  rfl
              cases h
              refine hb.2 _ (Or.inr (Or.inr (Or.inr (Or.inr ⟨htcp, rfl⟩))))
          rw [← hl4]
          exact h

/-- The bytes the layout of a frame depends on: those in front of the network
header, and for IPv4 the header bytes. -/
def LayoutBytes (l : FrameLayout) (i : Nat) : Prop :=
  (12 ≤ i ∧ i < l.l3) ∨ (l.l3Kind = .ipv4 ∧ HeaderBytes l i)

/-- **An edit that keeps the layout bytes keeps the layout.** -/
theorem parseLayout_congr {b b' : List UInt8} {l : FrameLayout}
    (h : parseLayout b = some l) (hb : AgreeOn (LayoutBytes l) b b') :
    parseLayout b' = some l := by
  have hl3 := parseLayout_l3 h
  -- the parser reads the EtherType, the tags, and under IPv4 the header: all are layout bytes
  have hword : be16 b 12 = be16 b' 12 :=
    be16_congr fun k hk hk' => hb.2 k (Or.inl (by omega))
  unfold parseLayout at h ⊢
  rw [← hb.1, ← hword]
  split at h
  · cases h
  · next hlen =>
    rw [if_neg hlen]
    split at h
    · cases h
    · next l3 e hskip =>
      have hsame : l.l3 = l3 := by
        split at h
        · exact (parseIpv4_spec h).1
        · cases h
          rfl
      rw [skipVlan_congr hb.1 hskip
        (fun i hi hi' => hb.2 i (Or.inl (by omega))) (by omega)]
      dsimp only
      split at h
      · next he =>
        rw [if_pos he]
        have hkind := (parseIpv4_spec h).2.kind
        exact parseIpv4_congr h (hb.mono fun i hi => Or.inr ⟨hkind, hi⟩)
      · next he =>
        rw [if_neg he]
        exact h

/-! ## What recomputing the checksums writes -/

/-- The bytes a recompute may write: the IP checksum and the transport checksum. -/
def ChecksumBytes (l : FrameLayout) (i : Nat) : Prop :=
  (l.l3 + 10 ≤ i ∧ i < l.l3 + 12) ∨
    (l.l4Kind = .tcp ∧ l.l4 + 16 ≤ i ∧ i < l.l4 + 18) ∨
    (l.l4Kind = .udp ∧ l.l4 + 6 ≤ i ∧ i < l.l4 + 8)

theorem l4Checksum_agree (buf : List UInt8) (l : FrameLayout) (csumOff : Nat) :
    AgreeOn (fun i => i < l.l4 + csumOff ∨ l.l4 + csumOff + 2 ≤ i)
      (l4Checksum buf l csumOff) buf := by
  unfold l4Checksum
  split
  · exact AgreeOn.refl _ _
  · exact (agreeOn_write _ _ _).trans (agreeOn_write _ _ _)

/-- **Recomputing writes checksum bytes only.** -/
theorem recomputeChecksums_agree (buf : List UInt8) (l : FrameLayout) :
    AgreeOn (fun i => ¬ ChecksumBytes l i) (recomputeChecksums buf l) buf := by
  unfold recomputeChecksums
  split
  · exact AgreeOn.refl _ _
  -- the IPv4 checksum is zeroed and then filled in, two bytes each time
  · have hip : ∀ xs ys : List UInt8, xs.length = 2 → ys.length = 2 →
        AgreeOn (fun i => ¬ ChecksumBytes l i)
          (write (write buf (l.l3 + 10) xs) (l.l3 + 10) ys) buf := by
      intro xs ys hxs hys
      have hout : ∀ i, ¬ ChecksumBytes l i → i < l.l3 + 10 ∨ l.l3 + 10 + 2 ≤ i := by
        intro i hi
        unfold ChecksumBytes at hi
        omega
      refine ((agreeOn_write _ _ ys).mono fun i hi => ?_).trans
        ((agreeOn_write _ _ xs).mono fun i hi => ?_)
      · rw [hys]
        exact hout i hi
      · rw [hxs]
        exact hout i hi
    dsimp only
    split
    · next htcp =>
      refine ((l4Checksum_agree _ l 16).mono fun i hi => ?_).trans (hip _ _ rfl rfl)
      unfold ChecksumBytes at hi
      simp only [htcp, true_and] at hi
      omega
    · next hudp =>
      refine ((l4Checksum_agree _ l 6).mono fun i hi => ?_).trans (hip _ _ rfl rfl)
      unfold ChecksumBytes at hi
      simp only [hudp, true_and] at hi
      omega
    · exact hip _ _ rfl rfl

end TurboLaser
