import TurboLaser.Proto.Checksums
import TurboLaser.Proto.FrameCondition

/-!
# Checksums of packets that declare too little (proto/frame.rs)

`parse_ipv4` wants a transport header in the buffer, not in the packet that the IPv4 header
declares: a total length that ends inside the header is accepted. The sums stop there, and the
checksum is written all the same, so that some of it, or all, is not summed.

Such a frame is malformed, and nobody sends it on purpose; but a capture may hold one, and the remap
then writes a checksum that its own check may refuse. This module follows that case through, so that
results about every frame need not exclude it. Of a checksum field the packet may declare both
bytes, the first one, or none; `declaredField` is the part that the sum sees, and everything depends
on it alone.

- `declaredField`: what the sum sees of a checksum field;
- `checksumsValid_iff_declared`: the judgement on any IPv4 frame, whatever it declares;
- `checksumsValid_recompute_iff`: **when a recomputed frame is valid**: always, if the whole field
  is declared, and otherwise exactly if the sum comes out right without the part that is cut off;
- `declaredHigh_iff`: the field of which one byte is declared, which is the case in which the writer
  and the check disagree most often.
-/

namespace TurboLaser

open Lib

/-- What the transport sum sees of a word in the checksum field at `off`. -/
def declaredWord (l : FrameLayout) (off word : Nat) : Nat :=
  if l.l4 + off + 2 ≤ l.stop then word
  else if l.l4 + off < l.stop then word / 256 * 256
  else 0

/-- What it sees of the word that is there. -/
def declaredField (buf : List UInt8) (l : FrameLayout) (off : Nat) : Nat :=
  declaredWord l off (be16 buf (l.l4 + off))

theorem be16_high (buf : List UInt8) (i : Nat) :
    be16 buf i / 256 * 256 = (byte buf i).toNat * 256 := by
  have hlo := (byte buf (i + 1)).toNat_lt
  unfold be16
  omega

/-- The sum of a slice of one byte. -/
theorem wordSum_slice_one {buf : List UInt8} {a : Nat} (h : a < buf.length) :
    wordSum (slice buf a (a + 1)) = (byte buf a).toNat * 256 := by
  have hone : slice buf a (a + 1) = [byte buf a] := by
    refine ext_byte (by rw [length_slice h]; simp) fun i hi => ?_
    rw [length_slice h] at hi
    obtain rfl : i = 0 := by omega
    rw [byte_slice (by omega)]
    rfl
  rw [hone]
  rfl

section Packet

variable {buf : List UInt8} {l : FrameLayout} (hl : Ipv4Packet buf l)

include hl

/-- The transport sum, with what it sees of the checksum set apart. -/
theorem wordSum_declared {off : Nat} (hoff : csumOff l.l4Kind = some off) :
    wordSum (pseudoHeader buf l) + wordSum (slice buf l.l4 l.stop) =
      l4Sum buf l off + declaredField buf l off := by
  obtain ⟨hfits, heven, -⟩ := csumOff_fits hl hoff
  have hstop := hl.stop_le
  have hheader := hl.header_le
  have hlen := be16Field.length_write buf (l.l4 + off) 0
  unfold declaredField declaredWord l4Sum
  by_cases hall : l.l4 + off + 2 ≤ l.stop
  · rw [if_pos hall, wordSum_slice (Nat.le_add_right l.l4 off) hall hstop (by omega), toNat_read,
      Nat.add_assoc]
  · rw [if_neg hall]
    -- in front of the field nothing is written
    have hfront : ∀ z, z ≤ l.l4 + off →
        slice (be16Field.write buf (l.l4 + off) 0) l.l4 z = slice buf l.l4 z := by
      intro z hz
      refine slice_congr hlen fun i _ hi _ => ?_
      exact be16Field.byte_write_of_outside 0 (.inl (by omega))
    by_cases hhalf : l.l4 + off < l.stop
    · have hend : l.stop = l.l4 + off + 1 := by omega
      have hzero : byte (be16Field.write buf (l.l4 + off) 0) (l.l4 + off) = 0 := by
        rw [be16Field.byte_write, if_pos ⟨Nat.le_refl _, by show _ < _ + 2; omega, by omega⟩,
          Nat.sub_self]
        rfl
      have hlen4 : (slice buf l.l4 (l.l4 + off)).length % 2 = 0 := by
        rw [length_slice (by omega)]
        omega
      rw [if_pos hhalf, hend, be16_high,
        slice_split (Nat.le_add_right l.l4 off) (Nat.le_succ _) (by omega),
        slice_split (Nat.le_add_right l.l4 off) (Nat.le_succ _) (by rw [hlen]; omega),
        hfront _ (Nat.le_refl _), wordSum_append _ hlen4, wordSum_append _ hlen4,
        wordSum_slice_one (by omega), wordSum_slice_one (by rw [hlen]; omega), hzero]
      simp only [UInt8.toNat_zero, Nat.zero_mul, Nat.add_zero, Nat.add_assoc]
    · rw [if_neg hhalf, hfront _ (by omega), Nat.add_zero]

/-- **A frame is valid when both sums, with what they see of their checksum, are all ones.** -/
theorem checksumsValid_iff_declared :
    checksumsValid buf l = true ↔
      endAround (ipSum buf l + (be16Field.read buf (l.l3 + 10)).toNat) = 0xffff ∧
        ∀ off, csumOff l.l4Kind = some off →
          endAround (l4Sum buf l off + declaredField buf l off) = 0xffff :=
  checksumsValid_iff_sums hl fun _ hoff => wordSum_declared hl hoff

/-- The header checksum that a recompute leaves. -/
theorem read_ip_recompute :
    be16Field.read (recomputeChecksums buf l) (l.l3 + 10) = ipWord buf l := by
  by_cases hstop : l.l4 < l.stop
  · rw [recomputeChecksums_eq hl fun _ => hstop]
    exact (bothSummed_words hl).1
  · -- nothing is declared behind the header, so only its own checksum is written
    have hnone : ∀ b off, l4Checksum b l off = b := fun b off => if_pos (.inl (by omega))
    unfold recomputeChecksums
    rw [if_neg (by rw [hl.kind]; exact fun h => h rfl)]
    dsimp only
    rw [hnone, hnone, sumWords_eq, Nat.zero_add, fold_eq, write_complement]
    have hword : be16Field.read (be16Field.write (be16Field.write buf (l.l3 + 10) 0) (l.l3 + 10)
        (ipWord buf l)) (l.l3 + 10) = ipWord buf l := by
      refine be16Field.read_write ?_ _
      rw [be16Field.length_write]
      exact ip_fits hl
    cases l.l4Kind with
    | tcp => exact hword
    | udp => exact hword
    | other => exact hword

/-- What the sum sees of the transport checksum that a recompute leaves. -/
theorem declaredField_recompute {off : Nat} (hoff : csumOff l.l4Kind = some off) :
    declaredField (recomputeChecksums buf l) l off =
      declaredWord l off (l4Word buf l off).toNat := by
  unfold declaredField
  by_cases hstop : l.l4 < l.stop
  · rw [recomputeChecksums_eq hl fun _ => hstop, ← toNat_read, (bothSummed_words hl).2 off hoff]
  · unfold declaredWord
    rw [if_neg (by omega), if_neg (by omega), if_neg (by omega), if_neg (by omega)]

end Packet

/-- **When a recomputed frame is valid**: the transport checksum has to be seen by its sum. -/
theorem checksumsValid_recompute_iff {buf : List UInt8} {l : FrameLayout}
    (h : parseLayout buf = some l) (hk : l.l3Kind = .ipv4) :
    checksumsValid (recomputeChecksums buf l) l = true ↔
      ∀ off, csumOff l.l4Kind = some off →
        endAround (l4Sum buf l off + declaredWord l off (l4Word buf l off).toNat) = 0xffff := by
  have hl := parseLayout_packet h hk
  have hl' := parseLayout_packet (parseLayout_recompute h hk) hk
  obtain ⟨hipSum, hl4Sum⟩ := sums_recompute hl
  rw [checksumsValid_iff_declared hl', hipSum, read_ip_recompute hl, ipWord, toNat_complementWord]
  constructor
  · rintro ⟨-, hsums⟩ off hoff
    rw [← declaredField_recompute hl hoff, ← hl4Sum off hoff]
    exact hsums off hoff
  · intro hsums
    refine ⟨endAround_add_complement _, fun off hoff => ?_⟩
    rw [declaredField_recompute hl hoff, hl4Sum off hoff]
    exact hsums off hoff

/-- The high byte of a checksum makes its sum all ones exactly when some high byte does; for UDP
not zero, which stands for no checksum. -/
theorem declaredHigh_iff {buf : List UInt8} {l : FrameLayout} (off : Nat) :
    endAround (l4Sum buf l off + (l4Word buf l off).toNat / 256 * 256) = 0xffff ↔
      ∃ hi < 256, (l.l4Kind = .udp → 0 < hi) ∧
        endAround (l4Sum buf l off + hi * 256) = 0xffff := by
  have hword := toNat_complementWord (l4Sum buf l off)
  have hlt := (l4Word buf l off).toNat_lt
  constructor
  · intro hones
    refine ⟨(l4Word buf l off).toNat / 256, by omega, fun hudp => ?_, hones⟩
    by_contra hzero
    -- without a high byte the sum was all ones already, and UDP writes all ones for that
    have hnone : (l4Word buf l off).toNat / 256 = 0 := by omega
    rw [hnone, Nat.zero_mul, Nat.add_zero] at hones
    have hcomplement : complementWord (l4Sum buf l off) = 0 :=
      complementWord_eq_zero.mpr (by omega)
    have hall : l4Word buf l off = 0xffff := if_pos ⟨hudp, hcomplement⟩
    rw [hall] at hnone
    exact absurd hnone (by decide)
  · rintro ⟨hi, hhi, hudp, hones⟩
    have hsame : (complementWord (l4Sum buf l off)).toNat = hi * 256 := by
      rcases complement_unique (by omega) hones with heq | ⟨heq, -⟩
      · omega
      · omega
    have hplain : l4Word buf l off = complementWord (l4Sum buf l off) := by
      refine if_neg ?_
      rintro ⟨hkind, hzero⟩
      have hpos := hudp hkind
      rw [hzero, UInt16.toNat_zero] at hsame
      omega
    rw [hplain, hsame, Nat.mul_div_cancel _ (by decide)]
    exact hones

end TurboLaser
