import TurboLaser.Lib.OnesComplement
import TurboLaser.Proto.Frame

/-!
# Checksums (proto/frame.rs)

`checksumsValid` judges a frame by its sums: both have to be all ones. `recomputeChecksums` writes
the complement of the sum of everything else. The source has the two in one file and tests them
against each other on a few frames; that they agree on every frame is what is proved here.

The proof is about sums of 16-bit words. A sum over the packet is split into the words that the
checksum covers and the checksum itself (`ipSum`, `l4Sum`), the loop that folds the carries is
replaced by its closed form (`fold_eq`), and the complement is then a fact of `Lib.OnesComplement`.
What keeps the two checksums from interfering is that each of them is computed with its own field
set to zero, and that the IPv4 header, with its checksum, is not summed by the transport checksum;
so they may be written one after the other (`sums_recompute`).

- `recomputeChecksums_eq`: recomputing writes two words, `ipWord` and `l4Word`, and each of them
  depends on the other bytes of the frame only;
- `recompute_correct`: **what was recomputed is valid**, keeps its layout, and stays as it is when
  it is recomputed again;
- `recompute_of_valid_iff`: **a valid frame stays as it is exactly when its checksums are the
  representation of zero that the code writes.** One's complement has two zeros: the source never
  writes 0x0000 for UDP, where it would mean that there is no checksum, and never 0xffff elsewhere,
  so a frame that came in with the other one is changed although it was valid.
-/

namespace TurboLaser

open Lib

/-! ## Slices -/

theorem length_slice {buf : List UInt8} {a b : Nat} (hb : b ≤ buf.length) :
    (slice buf a b).length = b - a := by
  rw [slice, List.length_drop, List.length_take, Nat.min_eq_left hb]

theorem byte_slice {buf : List UInt8} {a b i : Nat} (h : a + i < b) :
    byte (slice buf a b) i = byte buf (a + i) := by
  rw [slice, byte_drop]
  unfold byte
  rw [List.getD_eq_getElem?_getD, List.getD_eq_getElem?_getD, List.getElem?_take_of_lt h]

theorem slice_congr {b b' : List UInt8} {a z : Nat} (hlen : b.length = b'.length)
    (h : ∀ i, a ≤ i → i < z → i < b.length → byte b i = byte b' i) :
    slice b a z = slice b' a z := by
  have hsize : (slice b a z).length = (slice b' a z).length := by
    rw [slice, slice, List.length_drop, List.length_drop, List.length_take, List.length_take, hlen]
  refine ext_byte hsize fun i hi => ?_
  rw [slice, List.length_drop, List.length_take] at hi
  rw [byte_slice (by omega), byte_slice (by omega)]
  exact h _ (Nat.le_add_right _ _) (by omega) (by omega)

/-- A word written inside a slice. -/
theorem slice_write {buf : List UInt8} {a z off : Nat} (ha : a ≤ off) (hz : off + 2 ≤ z)
    (hlen : z ≤ buf.length) (x : UInt16) :
    slice (be16Field.write buf off x) a z = be16Field.write (slice buf a z) (off - a) x := by
  have hlen' : z ≤ (be16Field.write buf off x).length := by rwa [be16Field.length_write]
  refine ext_byte ?_ fun i hi => ?_
  · rw [be16Field.length_write, length_slice hlen, length_slice hlen']
  · rw [length_slice hlen'] at hi
    rw [byte_slice (by omega), be16Field.byte_write, be16Field.byte_write, length_slice hlen,
      byte_slice (by omega), show a + i - off = i - (off - a) by omega]
    refine if_congr ?_ rfl rfl
    show off ≤ a + i ∧ a + i < off + 2 ∧ _ ↔ off - a ≤ i ∧ i < off - a + 2 ∧ _
    omega

theorem read_be16Field (buf : List UInt8) (off : Nat) :
    be16Field.read buf off = UInt16.ofNat (be16 buf off) := by
  show UInt16.ofNat (be16 (buf.drop off) 0) = _
  rw [be16, be16, byte_drop, byte_drop]
  rfl

/-- A slice sums to what it does without one of its aligned words, and that word. -/
theorem wordSum_slice {buf : List UInt8} {a z off : Nat} (ha : a ≤ off) (hz : off + 2 ≤ z)
    (hlen : z ≤ buf.length) (heven : (off - a) % 2 = 0) :
    wordSum (slice buf a z) =
      wordSum (slice (be16Field.write buf off 0) a z) + (be16Field.read buf off).toNat := by
  have hfits : off - a + 2 ≤ (slice buf a z).length := by
    rw [length_slice hlen]
    omega
  have hread : be16Field.read (slice buf a z) (off - a) = be16Field.read buf off := by
    have hword : be16 (slice buf a z) (off - a) = be16 buf off := by
      rw [be16, be16, byte_slice (by omega), byte_slice (by omega),
        show a + (off - a) = off by omega, show a + (off - a + 1) = off + 1 by omega]
    rw [read_be16Field, read_be16Field, hword]
  rw [wordSum_eq_add_word heven hfits, slice_write ha hz hlen, hread]

/-! ## The sums of the source -/

theorem sumWords_eq (acc : Nat) (xs : List UInt8) : sumWords acc xs = acc + wordSum xs := by
  induction acc, xs using sumWords.induct with
  | case1 acc hi lo rest ih => rw [sumWords, ih, wordSum, Nat.add_assoc]
  | case2 acc hi => rfl
  | case3 acc => rfl

theorem foldLoop_eq {fuel n : Nat} (h : n ≤ fuel) : foldLoop fuel n = endAround n := by
  induction fuel generalizing n with
  | zero =>
    obtain rfl : n = 0 := by omega
    rfl
  | succ fuel ih =>
    rw [foldLoop]
    split
    · exact (endAround_of_lt (by omega)).symm
    · rw [ih (by omega), endAround_carry]

/-- The carry loop of the source. -/
theorem fold_eq (n : Nat) : fold n = endAround n := foldLoop_eq (Nat.le_refl n)

/-- `sum_words` with its 32-bit accumulator: `none` where an addition overflows. -/
def sumWords32 : Nat → List UInt8 → Option Nat
  | acc, hi :: lo :: rest =>
    let acc := acc + (hi.toNat * 256 + lo.toNat)
    if 2 ^ 32 ≤ acc then none else sumWords32 acc rest
  | acc, [hi] =>
    let acc := acc + hi.toNat * 256
    if 2 ^ 32 ≤ acc then none else some acc
  | acc, [] => some acc

/-- A sum that fits overflows nowhere on the way. -/
theorem sumWords32_eq {acc : Nat} {xs : List UInt8} (h : acc + wordSum xs < 2 ^ 32) :
    sumWords32 acc xs = some (sumWords acc xs) := by
  induction acc, xs using sumWords32.induct with
  | case1 acc hi lo rest acc' hover =>
    rw [wordSum] at h
    omega
  | case2 acc hi lo rest acc' hfits ih =>
    rw [wordSum] at h
    rw [sumWords32, sumWords, if_neg hfits]
    exact ih (by omega)
  | case3 acc hi acc' hover =>
    rw [wordSum] at h
    omega
  | case4 acc hi acc' hfits => exact if_neg hfits
  | case5 acc => rfl

/-- `checksums_valid`. -/
def checksumsValid (buf : List UInt8) (l : FrameLayout) : Bool :=
  if l.l3Kind ≠ .ipv4 then true
  else if fold (sumWords 0 (slice buf l.l3 (l.l3 + l.ihl))) ≠ 0xffff then false
  else
    match l.l4Kind with
    | .tcp | .udp =>
      decide (fold (sumWords (sumWords 0 (pseudoHeader buf l)) (slice buf l.l4 l.stop)) = 0xffff)
    | .other => true

/-! ## What a layout promises about the transport header

The parser accepts a TCP header that is captured, and does not compare it with the declared length
of the packet. A packet may therefore declare less than its headers take. What is said about
checksums is said of packets whose transport header is inside, and `Ipv4Packet` has the rest.
-/

/-- The length of the transport header: the data offset of TCP, or 8. -/
def l4HeaderLen (buf : List UInt8) (l : FrameLayout) : Nat :=
  match l.l4Kind with
  | .tcp => (byte buf (l.l4 + 12)).toNat / 16 * 4
  | .udp => 8
  | .other => 0

/-- The whole transport header lies inside the declared IP packet. -/
def HeaderInside (buf : List UInt8) (l : FrameLayout) : Prop := l.l4 + l4HeaderLen buf l ≤ l.stop

instance (buf : List UInt8) (l : FrameLayout) : Decidable (HeaderInside buf l) :=
  inferInstanceAs (Decidable (_ ≤ _))

/-- What `parse_ipv4` promises about the packet and its transport header. -/
structure Ipv4Packet (buf : List UInt8) (l : FrameLayout) : Prop extends Ipv4Layout buf l where
  ihl_le : l.ihl ≤ 60
  version : 0 < (byte buf l.l3).toNat
  stop_le_total : l.stop ≤ l.l3 + 65535
  l4_le_stop : l.l4 ≤ l.stop
  payload : l.payload = min (l.l4 + l4HeaderLen buf l) l.stop
  header_le : l.l4 + l4HeaderLen buf l ≤ buf.length
  tcpHeader : l.l4Kind = .tcp → 20 ≤ l4HeaderLen buf l
  proto : l.l4Kind ≠ .other → 0 < (byte buf (l.l3 + 9)).toNat

theorem parseL4_header {buf : List UInt8} {proto l4 hdr : Nat} {kind : L4Kind}
    (h : parseL4 buf proto l4 = some (kind, hdr)) (hl4 : l4 ≤ buf.length) :
    l4 + hdr ≤ buf.length ∧ (kind ≠ .other → 0 < proto) ∧
      (kind = .tcp → hdr = (byte buf (l4 + 12)).toNat / 16 * 4 ∧ 20 ≤ hdr) ∧
      (kind = .udp → hdr = 8) ∧ (kind = .other → hdr = 0) := by
  unfold parseL4 at h
  split at h
  · next htcp =>
    split at h
    · cases h
    · dsimp only at h
      split at h
      · cases h
      · cases h
        exact ⟨by omega, fun _ => by omega, fun _ => ⟨rfl, by omega⟩, nofun, nofun⟩
  · split at h
    · next hudp =>
      split at h
      · cases h
      · cases h
        exact ⟨by omega, fun _ => by omega, nofun, fun _ => rfl, nofun⟩
    · cases h
      exact ⟨hl4, fun hkind => absurd rfl hkind, nofun, nofun, fun _ => rfl⟩

theorem parseIpv4_packet {buf : List UInt8} {l3 : Nat} {l : FrameLayout}
    (h : parseIpv4 buf l3 = some l) : Ipv4Packet buf l := by
  have hlayout := (parseIpv4_spec h).2
  unfold parseIpv4 at h
  split at h
  · cases h
  · dsimp only at h
    split at h
    · cases h
    · next hversion =>
      split at h
      · cases h
      · split at h
        · cases h
        · split at h
          · cases h
          · next kind hdr hl4 =>
            have hword : be16 buf (l3 + 2) < 65536 := by
              have hhi := (byte buf (l3 + 2)).toNat_lt
              have hlo := (byte buf (l3 + 2 + 1)).toNat_lt
              unfold be16
              omega
            have hlen := parseL4_header hl4 (by omega)
            cases h
            obtain ⟨hfits, hproto, htcp, hudp, hother⟩ := hlen
            -- the header length that the layout implies is the one that was parsed
            have hdrEq : l4HeaderLen buf ⟨l3, .ipv4, (byte buf l3).toNat % 16 * 4,
                l3 + (byte buf l3).toNat % 16 * 4, kind,
                min (l3 + (byte buf l3).toNat % 16 * 4 + hdr)
                  (min (l3 + be16 buf (l3 + 2)) buf.length),
                min (l3 + be16 buf (l3 + 2)) buf.length⟩ = hdr := by
              unfold l4HeaderLen
              cases kind with
              | tcp => exact (htcp rfl).1.symm
              | udp => exact (hudp rfl).symm
              | other => exact (hother rfl).symm
            refine ⟨hlayout, ?_, ?_, ?_, ?_, ?_, ?_, ?_, hproto⟩
            · dsimp only; omega
            · dsimp only; omega
            · dsimp only; omega
            · dsimp only; omega
            · rw [hdrEq]
            · rw [hdrEq]
              exact hfits
            · intro hk
              rw [hdrEq]
              exact (htcp hk).2

/-- **A parsed IPv4 frame keeps all these promises.** -/
theorem parseLayout_packet {buf : List UInt8} {l : FrameLayout} (h : parseLayout buf = some l)
    (hk : l.l3Kind = .ipv4) : Ipv4Packet buf l := by
  unfold parseLayout at h
  split at h
  · cases h
  · split at h
    · cases h
    · split at h
      · exact parseIpv4_packet h
      · cases h
        cases hk

/-- A layout that is not IPv4 has no transport header: all behind the Ethernet header is payload. -/
theorem parseLayout_other {buf : List UInt8} {l : FrameLayout} (h : parseLayout buf = some l)
    (hk : l.l3Kind ≠ .ipv4) :
    l.l4Kind = .other ∧ l.payload = l.l3 ∧ l.stop = buf.length ∧ l.l4 = l.l3 := by
  unfold parseLayout at h
  split at h
  · cases h
  · split at h
    · cases h
    · split at h
      · exact absurd (parseIpv4_packet h).kind hk
      · cases h
        exact ⟨rfl, rfl, rfl, rfl⟩

/-- A frame with a transport header is IPv4. -/
theorem ipv4_of_l4Kind {buf : List UInt8} {l : FrameLayout} (h : parseLayout buf = some l)
    (hkind : l.l4Kind ≠ .other) : l.l3Kind = .ipv4 := by
  by_contra hk
  exact hkind (parseLayout_other h hk).1

/-! ## The two words that are written

A recomputation writes two words, and each is the complement of a sum that does not include it. The
sums are written as sums of all other words here, so that it can be said which bytes they depend on:
the transport sum on no byte of the IPv4 header but the addresses and the protocol, and neither sum
on its own field.
-/

/-- Where the checksum stands in the transport header. -/
def csumOff : L4Kind → Option Nat
  | .tcp => some 16
  | .udp => some 6
  | .other => none

/-- The complement of a sum. -/
def complementWord (n : Nat) : UInt16 := UInt16.ofNat (0xffff - endAround n)

/-- The other words of the IPv4 header. -/
def ipSum (buf : List UInt8) (l : FrameLayout) : Nat :=
  wordSum (slice (be16Field.write buf (l.l3 + 10) 0) l.l3 (l.l3 + l.ihl))

/-- The IPv4 header checksum: their complement. -/
def ipWord (buf : List UInt8) (l : FrameLayout) : UInt16 := complementWord (ipSum buf l)

/-- The other words of the packet, and of its pseudo header. -/
def l4Sum (buf : List UInt8) (l : FrameLayout) (off : Nat) : Nat :=
  wordSum (pseudoHeader buf l) + wordSum (slice (be16Field.write buf (l.l4 + off) 0) l.l4 l.stop)

/-- The transport checksum: their complement; UDP writes zero as all ones. -/
def l4Word (buf : List UInt8) (l : FrameLayout) (off : Nat) : UInt16 :=
  let word := complementWord (l4Sum buf l off)
  if l.l4Kind = .udp ∧ word = 0 then 0xffff else word

theorem toNat_complementWord (n : Nat) : (complementWord n).toNat = 0xffff - endAround n := by
  rw [complementWord, UInt16.toNat_ofNat', Nat.mod_eq_of_lt (by omega)]

theorem complementWord_eq_zero {n : Nat} : complementWord n = 0 ↔ 0xffff - endAround n = 0 := by
  rw [← UInt16.toNat_inj, toNat_complementWord]
  rfl

theorem write_complement (buf : List UInt8) (off n : Nat) :
    write buf off [UInt8.ofNat ((0xffff - endAround n) / 256),
      UInt8.ofNat ((0xffff - endAround n) % 256)] =
      be16Field.write buf off (complementWord n) := by
  show _ = write buf off (toBeBytes16 (complementWord n))
  rw [toBeBytes16, toNat_complementWord]

/-- `l4_checksum` writes one word. -/
theorem l4Checksum_eq {buf : List UInt8} {l : FrameLayout} {off : Nat} (hstop : l.l4 < l.stop)
    (hfits : l.l4 + off + 2 ≤ buf.length) :
    l4Checksum buf l off = be16Field.write buf (l.l4 + off) (l4Word buf l off) := by
  unfold l4Checksum l4Word
  rw [if_neg (by omega), show write buf (l.l4 + off) [0, 0] = be16Field.write buf (l.l4 + off) 0
    from rfl]
  dsimp only
  rw [sumWords_eq, sumWords_eq, Nat.zero_add, fold_eq]
  change write _ _ [UInt8.ofNat ((if l.l4Kind = .udp ∧ 0xffff - endAround (l4Sum buf l off) = 0
    then 0xffff else 0xffff - endAround (l4Sum buf l off)) / 256), UInt8.ofNat ((if l.l4Kind = .udp
    ∧ 0xffff - endAround (l4Sum buf l off) = 0 then 0xffff
    else 0xffff - endAround (l4Sum buf l off)) % 256)] = _
  by_cases hzero : l.l4Kind = .udp ∧ 0xffff - endAround (l4Sum buf l off) = 0
  · rw [if_pos hzero, if_pos ⟨hzero.1, complementWord_eq_zero.mpr hzero.2⟩]
    exact be16Field.write_write buf (l.l4 + off) 0 0xffff
  · rw [if_neg hzero, if_neg fun h => hzero ⟨h.1, complementWord_eq_zero.mp h.2⟩,
      write_complement]
    exact be16Field.write_write buf (l.l4 + off) 0 _

/-- The bytes the IPv4 header checksum is computed from. -/
def IpBytes (l : FrameLayout) (i : Nat) : Prop :=
  l.l3 ≤ i ∧ i < l.l3 + l.ihl ∧ ¬ (l.l3 + 10 ≤ i ∧ i < l.l3 + 12)

/-- The bytes the transport checksum is computed from: protocol, addresses, and the packet behind
the IPv4 header but for the checksum. -/
def L4Bytes (l : FrameLayout) (off i : Nat) : Prop :=
  i = l.l3 + 9 ∨ (l.l3 + 12 ≤ i ∧ i < l.l3 + 20) ∨
    (l.l4 ≤ i ∧ i < l.stop ∧ ¬ (l.l4 + off ≤ i ∧ i < l.l4 + off + 2))

theorem ipSum_congr {b b' : List UInt8} {l : FrameLayout} (h : AgreeOn (IpBytes l) b b') :
    ipSum b l = ipSum b' l := by
  have hlen : (be16Field.write b (l.l3 + 10) 0).length =
      (be16Field.write b' (l.l3 + 10) 0).length := by
    rw [be16Field.length_write, be16Field.length_write, h.1]
  unfold ipSum
  rw [slice_congr hlen fun i hi hi' hlt => ?_]
  rw [be16Field.length_write] at hlt
  rw [be16Field.byte_write, be16Field.byte_write, ← h.1]
  split
  · rfl
  · next hout => exact h.2 i ⟨hi, hi', fun hin => hout ⟨hin.1, hin.2, hlt⟩⟩

theorem l4Sum_congr {b b' : List UInt8} {l : FrameLayout} {off : Nat}
    (h : AgreeOn (L4Bytes l off) b b') : l4Sum b l off = l4Sum b' l off := by
  have hpseudo : pseudoHeader b l = pseudoHeader b' l := by
    unfold pseudoHeader
    rw [slice_congr h.1 fun i hi hi' _ => h.2 i (.inr (.inl ⟨hi, hi'⟩)),
      h.2 (l.l3 + 9) (.inl rfl)]
  have hlen : (be16Field.write b (l.l4 + off) 0).length =
      (be16Field.write b' (l.l4 + off) 0).length := by
    rw [be16Field.length_write, be16Field.length_write, h.1]
  unfold l4Sum
  rw [hpseudo, slice_congr hlen fun i hi hi' hlt => ?_]
  rw [be16Field.length_write] at hlt
  rw [be16Field.byte_write, be16Field.byte_write, ← h.1]
  split
  · rfl
  · next hout => exact h.2 i (.inr (.inr ⟨hi, hi', fun hin => hout ⟨hin.1, hin.2, hlt⟩⟩))

/-- The frame with its IPv4 header checksum recomputed. -/
def ipSummed (buf : List UInt8) (l : FrameLayout) : List UInt8 :=
  be16Field.write buf (l.l3 + 10) (ipWord buf l)

/-- The frame with both checksums recomputed. -/
def bothSummed (buf : List UInt8) (l : FrameLayout) : List UInt8 :=
  match csumOff l.l4Kind with
  | none => ipSummed buf l
  | some off => be16Field.write (ipSummed buf l) (l.l4 + off) (l4Word buf l off)

theorem agreeOn_ipSummed (buf : List UInt8) (l : FrameLayout) :
    AgreeOn (fun i => i < l.l3 + 10 ∨ l.l3 + 12 ≤ i) (ipSummed buf l) buf :=
  agreeOn_write _ _ _

section Packet

variable {buf : List UInt8} {l : FrameLayout} (hl : Ipv4Packet buf l)

include hl

/-- The field of the transport checksum lies inside the header. -/
theorem csumOff_fits {off : Nat} (hoff : csumOff l.l4Kind = some off) :
    off + 2 ≤ l4HeaderLen buf l ∧ off % 2 = 0 ∧ l.l4Kind ≠ .other := by
  have htcp := hl.tcpHeader
  unfold l4HeaderLen at *
  unfold csumOff at hoff
  cases hkind : l.l4Kind with
  | tcp =>
    rw [hkind] at hoff htcp
    cases hoff
    have := htcp rfl
    exact ⟨by dsimp only at *; omega, rfl, nofun⟩
  | udp =>
    rw [hkind] at hoff
    cases hoff
    exact ⟨by dsimp only; omega, rfl, nofun⟩
  | other =>
    rw [hkind] at hoff
    cases hoff

theorem l4Sum_ipSummed (off : Nat) : l4Sum (ipSummed buf l) l off = l4Sum buf l off := by
  have hihl := hl.ihl
  have hl4 := hl.l4
  refine l4Sum_congr ((agreeOn_ipSummed buf l).mono fun i hi => ?_)
  unfold L4Bytes at hi
  omega

theorem lt_stop (hin : HeaderInside buf l) (hkind : l.l4Kind ≠ .other) : l.l4 < l.stop := by
  have htcp := hl.tcpHeader
  unfold HeaderInside at hin
  unfold l4HeaderLen at *
  cases hk : l.l4Kind with
  | tcp =>
    rw [hk] at hin htcp
    have := htcp rfl
    dsimp only at *
    omega
  | udp =>
    rw [hk] at hin
    dsimp only at hin
    omega
  | other => exact absurd hk hkind

/-- Recomputing writes the checksum of the IPv4 header, and leaves the rest to `l4_checksum`. -/
theorem recomputeChecksums_ip :
    recomputeChecksums buf l =
      match csumOff l.l4Kind with
      | none => ipSummed buf l
      | some off => l4Checksum (ipSummed buf l) l off := by
  have hsummed : write (write buf (l.l3 + 10) [0, 0]) (l.l3 + 10)
      [UInt8.ofNat ((0xffff - fold (sumWords 0 (slice (write buf (l.l3 + 10) [0, 0]) l.l3
        (l.l3 + l.ihl)))) / 256), UInt8.ofNat ((0xffff - fold (sumWords 0
        (slice (write buf (l.l3 + 10) [0, 0]) l.l3 (l.l3 + l.ihl)))) % 256)] =
      ipSummed buf l := by
    rw [sumWords_eq, Nat.zero_add, fold_eq, write_complement]
    exact be16Field.write_write buf (l.l3 + 10) 0 _
  unfold recomputeChecksums
  rw [if_neg (by rw [hl.kind]; exact fun h => h rfl)]
  dsimp only
  rw [hsummed]
  cases l.l4Kind <;> rfl

/-- **Recomputing writes the two words.** -/
theorem recomputeChecksums_eq (hstop : l.l4Kind ≠ .other → l.l4 < l.stop) :
    recomputeChecksums buf l = bothSummed buf l := by
  have hheader := hl.header_le
  rw [recomputeChecksums_ip hl, bothSummed]
  cases hoff : csumOff l.l4Kind with
  | none => rfl
  | some off =>
    obtain ⟨hfits, -, hkind⟩ := csumOff_fits hl hoff
    have hsame : l4Word (ipSummed buf l) l off = l4Word buf l off := by
      rw [l4Word, l4Sum_ipSummed hl]
      rfl
    dsimp only
    rw [← hsame]
    refine l4Checksum_eq (hstop hkind) ?_
    rw [ipSummed, be16Field.length_write]
    omega

/-! ## Sums with their checksum -/

theorem ip_fits : l.l3 + 10 + 2 ≤ buf.length := by
  have hihl := hl.ihl
  have hl4 := hl.l4
  have hle := hl.l4_le
  omega

theorem wordSum_header :
    wordSum (slice buf l.l3 (l.l3 + l.ihl)) =
      ipSum buf l + (be16Field.read buf (l.l3 + 10)).toNat := by
  have hihl := hl.ihl
  have hl4 := hl.l4
  have hle := hl.l4_le
  exact wordSum_slice (by omega) (by omega) (by omega) (by omega)

theorem wordSum_packet {off : Nat} (hin : HeaderInside buf l) (hoff : csumOff l.l4Kind = some off) :
    wordSum (pseudoHeader buf l) + wordSum (slice buf l.l4 l.stop) =
      l4Sum buf l off + (be16Field.read buf (l.l4 + off)).toNat := by
  obtain ⟨hfits, heven, -⟩ := csumOff_fits hl hoff
  have hstop := hl.stop_le
  unfold HeaderInside at hin
  rw [wordSum_slice (Nat.le_add_right l.l4 off) (by omega) (by omega) (by omega), l4Sum,
    Nat.add_assoc]

/-- A frame is valid when the sum of its header and that of its packet are all ones. -/
theorem checksumsValid_iff_sums {packetSum : Nat → Nat}
    (hpacket : ∀ off, csumOff l.l4Kind = some off →
      wordSum (pseudoHeader buf l) + wordSum (slice buf l.l4 l.stop) = packetSum off) :
    checksumsValid buf l = true ↔
      endAround (ipSum buf l + (be16Field.read buf (l.l3 + 10)).toNat) = 0xffff ∧
        ∀ off, csumOff l.l4Kind = some off → endAround (packetSum off) = 0xffff := by
  unfold checksumsValid
  rw [if_neg (by rw [hl.kind]; exact fun h => h rfl)]
  simp only [sumWords_eq, Nat.zero_add, fold_eq, wordSum_header hl]
  by_cases hip : endAround (ipSum buf l + (be16Field.read buf (l.l3 + 10)).toNat) = 0xffff
  · rw [if_neg (by simpa using hip)]
    cases hkind : l.l4Kind with
    | tcp =>
      rw [hpacket 16 (by rw [hkind]; rfl)]
      simp [hip, csumOff]
    | udp =>
      rw [hpacket 6 (by rw [hkind]; rfl)]
      simp [hip, csumOff]
    | other => simp [hip, csumOff]
  · rw [if_pos hip]
    exact iff_of_false Bool.false_ne_true fun h => hip h.1

/-- **A frame is valid when both sums with their checksum are all ones.** -/
theorem checksumsValid_iff (hin : HeaderInside buf l) :
    checksumsValid buf l = true ↔
      endAround (ipSum buf l + (be16Field.read buf (l.l3 + 10)).toNat) = 0xffff ∧
        ∀ off, csumOff l.l4Kind = some off →
          endAround (l4Sum buf l off + (be16Field.read buf (l.l4 + off)).toNat) = 0xffff :=
  checksumsValid_iff_sums hl fun _ hoff => wordSum_packet hl hin hoff

/-- The version is not zero. -/
theorem ipSum_pos : 0 < ipSum buf l := by
  have hihl := hl.ihl
  have hl4 := hl.l4
  have hle := hl.l4_le
  have hfirst : byte (slice (be16Field.write buf (l.l3 + 10) 0) l.l3 (l.l3 + l.ihl)) 0 =
      byte buf l.l3 := by
    rw [byte_slice (by omega), be16Field.byte_write, if_neg (by omega)]
    rfl
  refine wordSum_pos ?_
  rw [hfirst]
  exact hl.version

/-- Nor is the protocol number of a transport with a checksum. -/
theorem l4Sum_pos {off : Nat} (hoff : csumOff l.l4Kind = some off) : 0 < l4Sum buf l off := by
  have hihl := hl.ihl
  have hl4 := hl.l4
  have hle := hl.l4_le
  have hproto := hl.proto (csumOff_fits hl hoff).2.2
  have hlen : (slice buf (l.l3 + 12) (l.l3 + 20)).length = 8 := by
    rw [length_slice (by omega)]
    omega
  unfold l4Sum pseudoHeader
  dsimp only
  rw [wordSum_append _ (by rw [hlen]), wordSum]
  omega

/-! ## Frames that stay as they are

A recomputation writes its words over what was there. So a frame is left alone exactly when it has
them already, and since a recomputed word is not part of its own sum, that holds after one
recomputation. The layout is read off bytes that are not written.
-/

/-- A frame has the words that recomputing would write. -/
theorem bothSummed_eq_self_iff :
    bothSummed buf l = buf ↔ be16Field.read buf (l.l3 + 10) = ipWord buf l ∧
      ∀ off, csumOff l.l4Kind = some off → be16Field.read buf (l.l4 + off) = l4Word buf l off := by
  have hip := ip_fits hl
  have hihl := hl.ihl
  have hl4 := hl.l4
  have hheader := hl.header_le
  unfold bothSummed ipSummed
  cases hoff : csumOff l.l4Kind with
  | none =>
    rw [be16Field.write_eq_self_iff hip]
    exact ⟨fun h => ⟨h, nofun⟩, And.left⟩
  | some off =>
    -- two fields that do not overlap: a read of one sees nothing of a write to the other
    obtain ⟨hfits, -, -⟩ := csumOff_fits hl hoff
    have hl4fits : l.l4 + off + be16Field.width ≤ buf.length := by
      show l.l4 + off + 2 ≤ _
      omega
    have hapart : l.l3 + 10 + be16Field.width ≤ l.l4 + off := by
      show l.l3 + 10 + 2 ≤ _
      omega
    constructor
    · intro hsame
      have hfirst : be16Field.read buf (l.l3 + 10) = ipWord buf l := by
        rw [← hsame, be16Field.read_write_of_disjoint be16Field _
          (by rw [be16Field.length_write]; exact hip) (.inl hapart), be16Field.read_write hip, hsame]
      refine ⟨hfirst, fun off' hoff' => ?_⟩
      cases hoff'
      rw [← hfirst, be16Field.write_read hip] at hsame
      exact (be16Field.write_eq_self_iff hl4fits).mp hsame
    · rintro ⟨hfirst, hsecond⟩
      dsimp only
      rw [← hfirst, be16Field.write_read hip, ← hsecond off rfl, be16Field.write_read hl4fits]

/-- A field that was recomputed has its word, and the word stays the same. -/
theorem bothSummed_words :
    be16Field.read (bothSummed buf l) (l.l3 + 10) = ipWord buf l ∧
      ∀ off, csumOff l.l4Kind = some off →
        be16Field.read (bothSummed buf l) (l.l4 + off) = l4Word buf l off := by
  have hip := ip_fits hl
  have hihl := hl.ihl
  have hl4 := hl.l4
  have hheader := hl.header_le
  unfold bothSummed ipSummed
  cases hoff : csumOff l.l4Kind with
  | none => exact ⟨be16Field.read_write hip _, nofun⟩
  | some off =>
    obtain ⟨hfits, -, -⟩ := csumOff_fits hl hoff
    have hapart : l.l3 + 10 + be16Field.width ≤ l.l4 + off := by
      show l.l3 + 10 + 2 ≤ _
      omega
    constructor
    · rw [be16Field.read_write_of_disjoint be16Field _
        (by rw [be16Field.length_write]; exact hip) (.inl hapart), be16Field.read_write hip]
    · rintro _ ⟨⟩
      refine be16Field.read_write ?_ _
      rw [be16Field.length_write]
      show l.l4 + off + 2 ≤ _
      omega

/-- A field that is recomputed is not part of its own sum. -/
theorem sums_recompute :
    ipSum (recomputeChecksums buf l) l = ipSum buf l ∧
      ∀ off, csumOff l.l4Kind = some off →
        l4Sum (recomputeChecksums buf l) l off = l4Sum buf l off := by
  have hihl := hl.ihl
  have hl4 := hl.l4
  have hagree := recomputeChecksums_agree buf l
  constructor
  · refine ipSum_congr (hagree.mono fun i hi => ?_)
    unfold IpBytes at hi
    unfold ChecksumBytes
    omega
  · intro off hoff
    refine l4Sum_congr (hagree.mono fun i hi => ?_)
    -- what the transport checksum covers leaves out its own two bytes, and the IPv4 one is in front
    unfold L4Bytes at hi
    unfold ChecksumBytes
    cases hkind : l.l4Kind with
    | tcp =>
      rw [hkind] at hoff
      cases hoff
      simp only [true_and, reduceCtorEq, false_and, or_false]
      omega
    | udp =>
      rw [hkind] at hoff
      cases hoff
      simp only [true_and, reduceCtorEq, false_and, false_or]
      omega
    | other =>
      rw [hkind] at hoff
      cases hoff

end Packet

/-- The layout stays. -/
theorem parseLayout_recompute {buf : List UInt8} {l : FrameLayout} (h : parseLayout buf = some l)
    (hk : l.l3Kind = .ipv4) : parseLayout (recomputeChecksums buf l) = some l := by
  have hl := parseLayout_packet h hk
  have hihl := hl.ihl
  have hl4 := hl.l4
  refine parseLayout_congr h ((recomputeChecksums_agree buf l).symm.mono ?_)
  -- no checksum field has a byte that the parser reads: one case for each of the three
  rintro i hi (hip | ⟨hkind, hcsum⟩ | ⟨hkind, hcsum⟩)
  · rcases hi with hi | ⟨-, hi⟩
    · omega
    · unfold HeaderBytes at hi
      omega
  · rcases hi with hi | ⟨-, hi⟩
    · omega
    · unfold HeaderBytes at hi
      omega
  · rcases hi with hi | ⟨-, hi⟩
    · omega
    · rcases hi with hi | hi | hi | hi | ⟨htcp, -⟩
      · omega
      · omega
      · omega
      · omega
      · rw [hkind] at htcp
        cases htcp

/-- And so does the length of the transport header. -/
theorem headerInside_recompute {buf : List UInt8} {l : FrameLayout} (hl : Ipv4Packet buf l)
    (hin : HeaderInside buf l) : HeaderInside (recomputeChecksums buf l) l := by
  have hihl := hl.ihl
  have hl4 := hl.l4
  unfold HeaderInside l4HeaderLen at *
  cases hkind : l.l4Kind with
  | tcp =>
    rw [hkind] at hin
    dsimp only at hin ⊢
    rwa [(recomputeChecksums_agree buf l).2 (l.l4 + 12)]
    rintro (hip | ⟨-, hcsum⟩ | ⟨hudp, -⟩)
    · omega
    · omega
    · rw [hkind] at hudp
      cases hudp
  | udp =>
    rw [hkind] at hin
    exact hin
  | other =>
    rw [hkind] at hin
    exact hin

/-! ## What was recomputed is valid

A word and the sum it is the complement of add up to all ones, the second zero of UDP included. For
the fixed point one needs that neither sum reads a word that was written; for the absence of
overflow, that a packet has few enough words for 32 bits.
-/

/-- A recomputed word makes its sum all ones, the second representation of zero included. -/
theorem endAround_add_l4Word (buf : List UInt8) (l : FrameLayout) (off : Nat) :
    endAround (l4Sum buf l off + (l4Word buf l off).toNat) = 0xffff := by
  unfold l4Word
  dsimp only
  split
  · next hzero =>
    have hle := endAround_le (l4Sum buf l off)
    have hones : 0xffff - endAround (l4Sum buf l off) = 0 := complementWord_eq_zero.mp hzero.2
    exact endAround_add_ones (by omega)
  · rw [toNat_complementWord]
    exact endAround_add_complement _

/-- No sum of the source overflows its 32-bit accumulator: an IP packet is too short for it. -/
theorem sumWords32_slices {buf b : List UInt8} {l : FrameLayout} (hl : Ipv4Packet buf l)
    (hlen : b.length = buf.length) :
    sumWords32 0 (slice b l.l3 (l.l3 + l.ihl)) =
        some (sumWords 0 (slice b l.l3 (l.l3 + l.ihl))) ∧
      (sumWords32 0 (pseudoHeader b l)).bind (fun acc => sumWords32 acc (slice b l.l4 l.stop)) =
        some (sumWords (sumWords 0 (pseudoHeader b l)) (slice b l.l4 l.stop)) := by
  have hihl := hl.ihl_le
  have hl4 := hl.l4
  have hle := hl.l4_le
  have hstop := hl.stop_le
  have htotal := hl.stop_le_total
  -- at most 65535 bytes, so at most 32768 words and a pseudo header, each below 2^16
  have hheader := wordSum_le (slice b l.l3 (l.l3 + l.ihl))
  have hpseudo := wordSum_le (pseudoHeader b l)
  have hpacket := wordSum_le (slice b l.l4 l.stop)
  have hten := hl.ihl
  have haddresses : (slice b (l.l3 + 12) (l.l3 + 20)).length = 8 := by
    rw [length_slice (by omega)]
    omega
  rw [length_slice (by omega)] at hheader hpacket
  rw [show (pseudoHeader b l).length = 12 by
    unfold pseudoHeader
    dsimp only
    rw [List.length_append, haddresses]
    rfl] at hpseudo
  constructor
  · exact sumWords32_eq (by omega)
  · rw [sumWords32_eq (by omega), Option.bind_some, sumWords_eq 0, Nat.zero_add]
    exact sumWords32_eq (by omega)

/-- What was recomputed is valid. -/
theorem checksumsValid_recompute {buf : List UInt8} {l : FrameLayout}
    (h : parseLayout buf = some l) (hk : l.l3Kind = .ipv4) (hin : HeaderInside buf l) :
    checksumsValid (recomputeChecksums buf l) l = true := by
  have hl := parseLayout_packet h hk
  have heq := recomputeChecksums_eq hl fun hkind => lt_stop hl hin hkind
  have hl' := parseLayout_packet (parseLayout_recompute h hk) hk
  have hin' : HeaderInside (recomputeChecksums buf l) l := headerInside_recompute hl hin
  obtain ⟨hip, hl4⟩ := bothSummed_words hl
  obtain ⟨hipSum, hl4Sum⟩ := sums_recompute hl
  refine (checksumsValid_iff hl' hin').mpr ⟨?_, fun off hoff => ?_⟩
  · rw [hipSum, heq, hip, ipWord, toNat_complementWord]
    exact endAround_add_complement _
  · rw [hl4Sum off hoff, heq, hl4 off hoff]
    exact endAround_add_l4Word buf l off

/-- **Recomputing is correct**: the result is valid and a fixed point, differs in the checksum bytes
only, parses to the same layout, and no sum on the way overflows. The last is said of the checked
sums, which fail where a `u32` would overflow. -/
theorem recompute_correct {buf : List UInt8} {l : FrameLayout} (h : parseLayout buf = some l)
    (hk : l.l3Kind = .ipv4) (hin : HeaderInside buf l) :
    checksumsValid (recomputeChecksums buf l) l = true ∧
      recomputeChecksums (recomputeChecksums buf l) l = recomputeChecksums buf l ∧
      AgreeOn (fun i => ¬ ChecksumBytes l i) (recomputeChecksums buf l) buf ∧
      parseLayout (recomputeChecksums buf l) = some l ∧
      ∀ b : List UInt8, b.length = buf.length →
        sumWords32 0 (slice b l.l3 (l.l3 + l.ihl)) =
            some (sumWords 0 (slice b l.l3 (l.l3 + l.ihl))) ∧
          (sumWords32 0 (pseudoHeader b l)).bind (fun acc => sumWords32 acc (slice b l.l4 l.stop)) =
            some (sumWords (sumWords 0 (pseudoHeader b l)) (slice b l.l4 l.stop)) := by
  have hl := parseLayout_packet h hk
  have hlayout := parseLayout_recompute h hk
  have hagree := recomputeChecksums_agree buf l
  have heq := recomputeChecksums_eq hl fun hkind => lt_stop hl hin hkind
  have hl' := parseLayout_packet hlayout hk
  have hin' : HeaderInside (recomputeChecksums buf l) l := headerInside_recompute hl hin
  have hstop' := fun hkind => lt_stop hl' hin' hkind
  obtain ⟨hip, hl4⟩ := bothSummed_words hl
  obtain ⟨hipSum, hl4Sum⟩ := sums_recompute hl
  refine ⟨checksumsValid_recompute h hk hin, ?_, hagree, hlayout,
    fun b hlen => sumWords32_slices hl hlen⟩
  rw [heq] at hipSum hl4Sum
  rw [recomputeChecksums_eq hl' hstop', heq]
  rw [heq] at hl'
  refine (bothSummed_eq_self_iff hl').mpr ⟨?_, fun off hoff => ?_⟩
  · rw [hip, ipWord, ipWord, hipSum]
  · rw [hl4 off hoff, l4Word, l4Word, hl4Sum off hoff]

/-- A UDP datagram whose IPv4 header sums to all ones without its checksum. -/
def onesFrame : List UInt8 :=
  [0x02, 0, 0, 0, 0, 1, 0x02, 0, 0, 0, 0, 2, 0x08, 0x00,
    0x45, 0, 0, 30, 0x52, 0x9d, 0, 0, 64, 17, 0xff, 0xff, 10, 20, 10, 5, 10, 20, 10, 6,
    0x13, 0x88, 0x4e, 0x20, 0, 10, 0x26, 0xab, 0x4f, 0x54]

def onesLayout : FrameLayout := ⟨14, .ipv4, 20, 34, .udp, 42, 44⟩

/-- The datagram with a new source address, both of its checksums stale. -/
def staleFrame : List UInt8 := write onesFrame 26 [10, 20, 10, 7]

theorem recompute_correct_stale :
    checksumsValid staleFrame onesLayout = false ∧
      checksumsValid (recomputeChecksums staleFrame onesLayout) onesLayout = true :=
  ⟨by decide +kernel,
    (@recompute_correct staleFrame onesLayout (by decide +kernel) rfl (by decide +kernel)).1⟩

/-! ## Valid frames

A checksum is valid when the sum with it is all ones. For a given rest two words do that if the
complement is zero: zero and all ones. So a valid frame has the word that would be written, or the
other of the two, and over UDP the roles are changed by the rule that zero means none.
-/

/-- The checksum fields of a frame hold the representation of zero that the code writes: all ones
for UDP, where a zero field means no checksum, and zero for the others. -/
def CanonicalZeros (buf : List UInt8) (l : FrameLayout) : Prop :=
  l.l3Kind = .ipv4 → be16 buf (l.l3 + 10) ≠ 0xffff ∧
    (l.l4Kind = .tcp → be16 buf (l.l4 + 16) ≠ 0xffff) ∧
    (l.l4Kind = .udp → be16 buf (l.l4 + 6) ≠ 0)

theorem toNat_read (buf : List UInt8) (off : Nat) :
    (be16Field.read buf off).toNat = be16 buf off := by
  have hhi := (byte buf off).toNat_lt
  have hlo := (byte buf (off + 1)).toNat_lt
  rw [read_be16Field, UInt16.toNat_ofNat', Nat.mod_eq_of_lt]
  unfold be16
  omega

/-- A word that makes a sum all ones is the complement, unless it is all ones itself. -/
theorem eq_complementWord_iff {n : Nat} {c : UInt16} (hn : 0 < n)
    (h : endAround (n + c.toNat) = 0xffff) : c = complementWord n ↔ c.toNat ≠ 0xffff := by
  have hpos := endAround_of_pos hn
  have hword := c.toNat_lt
  have hunique := complement_unique (by omega) h
  rw [← UInt16.toNat_inj, toNat_complementWord]
  omega

/-- The transport checksum, with the rule that UDP has for zero. -/
theorem eq_l4Word_iff {buf : List UInt8} {l : FrameLayout} {off : Nat} {c : UInt16}
    (hn : 0 < l4Sum buf l off) (h : endAround (l4Sum buf l off + c.toNat) = 0xffff) :
    c = l4Word buf l off ↔ if l.l4Kind = .udp then c.toNat ≠ 0 else c.toNat ≠ 0xffff := by
  have hpos := endAround_of_pos hn
  have hcomplement := eq_complementWord_iff hn h
  have hunique := complement_unique (by have := c.toNat_lt; omega) h
  unfold l4Word
  dsimp only
  by_cases hudp : l.l4Kind = .udp
  · rw [if_pos hudp]
    by_cases hzero : complementWord (l4Sum buf l off) = 0
    · rw [if_pos ⟨hudp, hzero⟩]
      have hones := complementWord_eq_zero.mp hzero
      rw [← UInt16.toNat_inj]
      show c.toNat = 0xffff ↔ _
      omega
    · rw [if_neg fun h => hzero h.2]
      have hnot : 0xffff - endAround (l4Sum buf l off) ≠ 0 := mt complementWord_eq_zero.mpr hzero
      rw [hcomplement]
      omega
  · rw [if_neg fun h => hudp h.1, if_neg hudp]
    exact hcomplement

/-- **A valid frame stays as it is exactly when its checksum fields hold the representation of zero
that the code writes.** One's complement has two zeros, and a frame with either is valid; the code
writes zero, and all ones over UDP, where zero means that there is no checksum. -/
theorem recompute_of_valid_iff {buf : List UInt8} {l : FrameLayout} (h : parseLayout buf = some l)
    (hvalid : checksumsValid buf l = true) (hin : l.l4Kind ≠ .other → HeaderInside buf l) :
    recomputeChecksums buf l = buf ↔ CanonicalZeros buf l := by
  by_cases hk : l.l3Kind = .ipv4
  · have hl := parseLayout_packet h hk
    have hinside : HeaderInside buf l := by
      by_cases hother : l.l4Kind = .other
      · unfold HeaderInside l4HeaderLen
        rw [hother]
        exact hl.l4_le_stop
      · exact hin hother
    obtain ⟨hip, hl4⟩ := (checksumsValid_iff hl hinside).mp hvalid
    have hipIff := eq_complementWord_iff (ipSum_pos hl) hip
    rw [toNat_read] at hipIff
    rw [recomputeChecksums_eq hl fun hkind => lt_stop hl hinside hkind,
      bothSummed_eq_self_iff hl, ipWord, hipIff]
    -- a field with a right sum is what the code writes, but for the other zero
    have hl4Iff : ∀ off, csumOff l.l4Kind = some off →
        (be16Field.read buf (l.l4 + off) = l4Word buf l off ↔
          if l.l4Kind = .udp then be16 buf (l.l4 + off) ≠ 0
          else be16 buf (l.l4 + off) ≠ 0xffff) := by
      intro off hoff
      rw [eq_l4Word_iff (l4Sum_pos hl hoff) (hl4 off hoff), toNat_read]
    unfold CanonicalZeros
    cases hkind : l.l4Kind with
    | tcp =>
      rw [hkind] at hl4Iff
      have htcp := hl4Iff 16 rfl
      rw [if_neg nofun] at htcp
      constructor
      · rintro ⟨hfirst, hsecond⟩ -
        exact ⟨hfirst, fun _ => htcp.mp (hsecond 16 rfl), nofun⟩
      · intro hcanon
        obtain ⟨hfirst, hsecond, -⟩ := hcanon hk
        refine ⟨hfirst, ?_⟩
        rintro _ ⟨⟩
        exact htcp.mpr (hsecond rfl)
    | udp =>
      rw [hkind] at hl4Iff
      have hudp := hl4Iff 6 rfl
      rw [if_pos rfl] at hudp
      constructor
      · rintro ⟨hfirst, hsecond⟩ -
        exact ⟨hfirst, nofun, fun _ => hudp.mp (hsecond 6 rfl)⟩
      · intro hcanon
        obtain ⟨hfirst, -, hsecond⟩ := hcanon hk
        refine ⟨hfirst, ?_⟩
        rintro _ ⟨⟩
        exact hudp.mpr (hsecond rfl)
    | other =>
      constructor
      · rintro ⟨hfirst, -⟩ -
        exact ⟨hfirst, nofun, nofun⟩
      · intro hcanon
        exact ⟨(hcanon hk).1, nofun⟩
  · refine iff_of_true ?_ fun hk' => absurd hk' hk
    unfold recomputeChecksums
    rw [if_pos hk]

theorem recompute_of_valid_iff_summed :
    recomputeChecksums (recomputeChecksums staleFrame onesLayout) onesLayout =
      recomputeChecksums staleFrame onesLayout :=
  (@recompute_of_valid_iff (recomputeChecksums staleFrame onesLayout) onesLayout
    (by decide +kernel) (by decide +kernel) fun _ => by decide +kernel).mpr
    fun _ => by decide +kernel

/-- All ones in the checksum field of `onesFrame` count as valid, and are rewritten to zero. -/
theorem recompute_onesFrame :
    parseLayout onesFrame = some onesLayout ∧ checksumsValid onesFrame onesLayout = true ∧
      HeaderInside onesFrame onesLayout ∧
      recomputeChecksums onesFrame onesLayout ≠ onesFrame := by
  decide +kernel

end TurboLaser
