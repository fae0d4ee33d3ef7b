import TurboLaser.Proto.Mutation
import TurboLaser.Synth.Telecontrol

/-!
# The DNP3 mutator (proto/mutators/dnp3.rs)

`mutate` walks the link frames of a payload: it finds the end of a frame from its LEN octet and the
rule of 16-octet blocks, maps both addresses and recomputes the header's CRC. The CRC comes from a
crate; here it is any function `crc` on octets.

The encoder is `link_frame` of the synthesizer, with a frame's fields gathered in `LinkFrame`. Its
CRCs are right by construction, for whatever function computes them. The mutator does not touch the
user data, so the CRCs of the blocks stay right, and it computes the one of the header anew. That
the walk finds the next frame where the encoder has put it is the other half: the two compute the
length of a frame from its LEN octet in different ways, and `encode_eq_blocks` and `length_encode`
bring them together.

`mutate_linkFrames`: **on what the encoder writes, the walk is the encoder with other addresses**,
one function for the source and the destination addresses of all frames, whatever the state of the
mapper. Header and blocks keep their CRCs right because they are `link_frame`'s. Payloads in which a
CRC is wrong are treated in `Reload.Untouched`: there the mutator repairs what it was not asked to.
-/

namespace TurboLaser

open Lib

/-! ## The encoder, over any CRC (synth/dnp3.rs) -/

open Synth (withCrc)

/-- The arguments of `link_frame`. -/
structure LinkFrame where
  ctrl : UInt8
  dest : UInt16
  src : UInt16
  user : List UInt8

namespace LinkFrame

variable (crc : List UInt8 → UInt16)

/-- The first eight octets. -/
def header (fr : LinkFrame) : List UInt8 :=
  [0x05, 0x64, UInt8.ofNat (5 + fr.user.length), fr.ctrl] ++ toLeBytes16 fr.dest ++
    toLeBytes16 fr.src

/-- `link_frame`. -/
def encode (fr : LinkFrame) : List UInt8 := Synth.linkFrame crc fr.ctrl fr.dest fr.src fr.user

/-- The blocks of a frame: the header, and 16 octets of user data each. -/
def blocks (fr : LinkFrame) : List (List UInt8) := fr.header :: chunks 16 fr.user

/-- A frame is its blocks, each with its own CRC behind it. -/
theorem encode_eq_blocks (fr : LinkFrame) : fr.encode crc = fr.blocks.flatMap (withCrc crc) := rfl

/-- The frame with its addresses replaced. -/
def readdress (addr : UInt16 → UInt16) (fr : LinkFrame) : LinkFrame :=
  { fr with dest := addr fr.dest, src := addr fr.src }

/-- The addresses of a frame. -/
def addresses (fr : LinkFrame) : List UInt16 := [fr.dest, fr.src]

theorem length_withCrc (block : List UInt8) : (withCrc crc block).length = block.length + 2 := by
  unfold withCrc
  rw [List.length_append]
  rfl

/-- Every octet of user data, two for the header's CRC and two for each block's. -/
theorem length_encode (fr : LinkFrame) :
    (fr.encode crc).length = 10 + fr.user.length + 2 * ((fr.user.length + 15) / 16) := by
  rw [encode_eq_blocks, blocks, List.flatMap_cons, List.length_append, length_withCrc,
    length_flatMap_chunks (by decide) (length_withCrc crc) fr.user]
  show 8 + 2 + _ = _
  omega

theorem length_encode_readdress (addr : UInt16 → UInt16) (fr : LinkFrame) :
    ((fr.readdress addr).encode crc).length = (fr.encode crc).length := by
  rw [length_encode, length_encode]
  rfl

end LinkFrame

/-! ## The mutator -/

namespace Dnp3

/-- `DNP3_PORT`. -/
def port : UInt16 := 20000

/-- `matches`. -/
def «matches» (f : ParsedFrame) : Bool :=
  decide (f.layout.l4Kind = .tcp ∨ f.layout.l4Kind = .udp) && f.onPort [port] &&
    decide (10 ≤ f.payload.length) && decide (byte f.payload 0 = 0x05) &&
    decide (byte f.payload 1 = 0x64)

/-- The header's addresses and its CRC, for a frame at `o`. -/
def readdressAt (crc : List UInt8 → UInt16) (s : Mutation) (o : Nat) : Mutation :=
  let s := s.remap idU16 le16Field .dnp3 .dnp3Addr "dst" (o + 4)
  let s := s.remap idU16 le16Field .dnp3 .dnp3Addr "src" (o + 6)
  { s with payload := le16Field.write s.payload (o + 8) (crc (slice s.payload o (o + 8))) }

/-- One turn of the loop. -/
def step (crc : List UInt8 → UInt16) (s : Mutation) (o : Nat) : Option (Mutation × Nat) :=
  let p := s.payload
  if p.length < o + 10 then none
  else if byte p o ≠ 0x05 ∨ byte p (o + 1) ≠ 0x64 then none
  else
    let len := (byte p (o + 2)).toNat
    -- LEN counts control and both addresses at least
    if len < 5 then none
    else
      let user := len - 5
      let blocks := (user + 15) / 16
      some (readdressAt crc s o, o + (10 + user + 2 * blocks))

theorem length_readdressAt (crc : List UInt8 → UInt16) (s : Mutation) (o : Nat) :
    (readdressAt crc s o).payload.length = s.payload.length := by
  unfold readdressAt
  rw [le16Field.length_write, (remap_agreeOn ..).1, (remap_agreeOn ..).1]

/-- What a turn does, when there is one. -/
theorem step_some {crc : List UInt8 → UInt16} {s t : Mutation} {o o' : Nat}
    (h : step crc s o = some (t, o')) :
    o + 10 ≤ s.payload.length ∧ t = readdressAt crc s o ∧ o + 10 ≤ o' := by
  unfold step at h
  dsimp only at h
  split at h
  · cases h
  · next hlen =>
    split at h
    · cases h
    · split at h
      · cases h
      · cases h
        exact ⟨Nat.not_lt.mp hlen, rfl, by omega⟩

/-- The loop: each turn moves on by ten octets at least. -/
def walk (crc : List UInt8 → UInt16) : Scan Mutation where
  step := step crc
  size s := s.payload.length
  forward h := by
    obtain ⟨-, -, hforward⟩ := step_some h
    omega
  inside h := by
    obtain ⟨hinside, -, -⟩ := step_some h
    omega
  size_eq h := by
    obtain ⟨-, rfl, -⟩ := step_some h
    exact length_readdressAt ..

/-- `mutate`. -/
def mutate (crc : List UInt8 → UInt16) (payload : List UInt8) (mapper : SeededMapper) : Mutation :=
  (walk crc).run ⟨payload, mapper, []⟩ 0

/-! ## Frames of the encoder

The encoder puts a header in front and a CRC behind every block of sixteen bytes. The walk takes the
length from the header and rewrites the CRC of the header and of each block, so a frame of the
encoder comes out as one, for any function in the place of the CRC. Two frames may stand behind each
other, with anything behind the last.
-/

/-- The keys under which the mapper records the addresses of a frame. -/
def keys (fr : LinkFrame) : List (Domain × UInt64) :=
  fr.addresses.map fun a => (.dnp3Addr, a.toUInt64)

/-- The addresses that `f` gives. -/
def addrOf (f : Domain × UInt64 → UInt64) : UInt16 → UInt16 := idU16.through f .dnp3Addr

/-- What is reported about a frame. -/
def reports (addr : UInt16 → UInt16) (fr : LinkFrame) : List MutationReport :=
  changeReport idU16 .dnp3 "dst" fr.dest (addr fr.dest) ++
    changeReport idU16 .dnp3 "src" fr.src (addr fr.src)

theorem slice_append (pre mid rest : List UInt8) :
    slice (pre ++ (mid ++ rest)) pre.length (pre.length + mid.length) = mid := by
  unfold slice
  rw [← List.append_assoc, ← List.length_append, List.take_left, List.drop_left]

/-- **A frame behind any beginning is rewritten in place.** -/
theorem readdressAt_encode {crc : List UInt8 → UInt16} (fr : LinkFrame) {s : Mutation}
    {pre rest : List UInt8} (hpayload : s.payload = pre ++ (fr.encode crc ++ rest)) :
    ∃ fr', (readdressAt crc s pre.length).payload = (pre ++ fr'.encode crc) ++ rest ∧
      (fr'.encode crc).length = (fr.encode crc).length ∧
      MappedItem keys fr s (readdressAt crc s pre.length) ∧
      ∀ f, (readdressAt crc s pre.length).mapper.Agrees f → fr' = fr.readdress (addrOf f) ∧
        (readdressAt crc s pre.length).reports = s.reports ++ reports (addrOf f) fr := by
  -- the destination, behind the first four octets
  have hdest : s.payload = (pre ++ [0x05, 0x64, UInt8.ofNat (5 + fr.user.length), fr.ctrl]) ++
      (le16Field.bytes fr.dest ++ (le16Field.bytes fr.src ++ (le16Field.bytes (crc fr.header) ++
        ((chunks 16 fr.user).flatMap (Synth.withCrc crc) ++ rest)))) := by
    rw [hpayload]
    simp [LinkFrame.encode_eq_blocks, LinkFrame.blocks, withCrc, LinkFrame.header, le16Field]
  have hoff : pre.length + 4 =
      (pre ++ [0x05, 0x64, UInt8.ofNat (5 + fr.user.length), fr.ctrl]).length := by
    rw [List.length_append]
    rfl
  obtain ⟨dest, hpayload₁, hknown₁, hthrough₁⟩ := remap_append idU16 .dnp3 .dnp3Addr "dst" hdest
    hoff
  -- the source, two octets on
  have hsrc : pre.length + 6 = ((pre ++ [0x05, 0x64, UInt8.ofNat (5 + fr.user.length), fr.ctrl]) ++
      le16Field.bytes dest).length := by
    rw [List.length_append, List.length_append]
    rfl
  rw [← List.append_assoc _ (le16Field.bytes dest)] at hpayload₁
  obtain ⟨src, hpayload₂, hknown₂, hthrough₂⟩ := remap_append idU16 .dnp3 .dnp3Addr "src"
    hpayload₁ hsrc
  have hgrown₁ := remap_extends idU16 le16Field .dnp3 .dnp3Addr "dst" (pre.length + 4) s
  have hgrown₂ := remap_extends idU16 le16Field .dnp3 .dnp3Addr "src" (pre.length + 6)
    (s.remap idU16 le16Field .dnp3 .dnp3Addr "dst" (pre.length + 4))
  let fr' : LinkFrame := { fr with dest, src }
  refine ⟨fr', ?_, ?_, ⟨length_readdressAt .., hgrown₁.trans hgrown₂, ?_⟩,
    fun f hf => ?_⟩
  · -- the CRC is computed over the eight octets as they are now
    have hheader : (s.remap idU16 le16Field .dnp3 .dnp3Addr "dst" (pre.length + 4)
        |>.remap idU16 le16Field .dnp3 .dnp3Addr "src" (pre.length + 6)).payload =
        pre ++ (fr'.header ++ (le16Field.bytes (crc fr.header) ++
          ((chunks 16 fr.user).flatMap (Synth.withCrc crc) ++ rest))) := by
      rw [hpayload₂]
      simp [LinkFrame.header, le16Field, fr']
    show le16Field.write (Mutation.payload _) _ (crc (slice (Mutation.payload _) _ _)) = _
    rw [hheader, show pre.length + 8 = pre.length + fr'.header.length from rfl, slice_append,
      ← List.append_assoc pre, ← List.length_append, le16Field.write_append]
    simp [LinkFrame.encode_eq_blocks, LinkFrame.blocks, withCrc, le16Field, fr']
  · rw [LinkFrame.length_encode, LinkFrame.length_encode]
  · intro k hk
    rcases List.mem_cons.mp hk with rfl | hk
    · obtain ⟨v, hv⟩ := Option.isSome_iff_exists.mp hknown₁
      exact Option.isSome_iff_exists.mpr ⟨v, hgrown₂ _ v hv⟩
    · exact List.mem_singleton.mp hk ▸ hknown₂
  · obtain ⟨rfl, hreports₂⟩ := hthrough₂ f hf
    obtain ⟨rfl, hreports₁⟩ := hthrough₁ f (hf.mono hgrown₂)
    refine ⟨rfl, ?_⟩
    rw [reports, ← List.append_assoc]
    exact hreports₂.trans (congrArg (· ++ _) hreports₁)

/-- On a frame of the encoder the loop takes a turn, up to the frame's end. -/
theorem step_encode {crc : List UInt8 → UInt16} {fr : LinkFrame} (huser : fr.user.length ≤ 250)
    {s : Mutation} {pre rest : List UInt8}
    (hpayload : s.payload = pre ++ (fr.encode crc ++ rest)) :
    step crc s pre.length =
      some (readdressAt crc s pre.length, pre.length + (fr.encode crc).length) := by
  have hlen := LinkFrame.length_encode crc fr
  have hfits : ¬ s.payload.length < pre.length + 10 := by
    rw [hpayload, List.length_append, List.length_append]
    omega
  have hbyte : ∀ i, byte s.payload (pre.length + i) = byte (fr.encode crc ++ rest) i := fun i => by
    rw [hpayload, byte_append_right]
  have hlenByte : (byte s.payload (pre.length + 2)).toNat = 5 + fr.user.length := by
    rw [hbyte 2]
    show (UInt8.ofNat (5 + fr.user.length)).toNat = _
    rw [UInt8.toNat_ofNat']
    omega
  unfold step
  dsimp only
  rw [if_neg hfits, if_neg, hlenByte, if_neg (by omega), hlen]
  · congr 3
    omega
  · rw [← Nat.add_zero pre.length, hbyte 0, Nat.add_zero, hbyte 1]
    exact not_or.mpr ⟨not_not.mpr rfl, not_not.mpr rfl⟩

theorem rewritesItem {crc : List UInt8 → UInt16} {fr : LinkFrame} (huser : fr.user.length ≤ 250)
    (size behind : Nat) :
    RewritesItem size behind (walk crc) (LinkFrame.encode crc) keys
      (fun f => LinkFrame.readdress (addrOf f)) (fun f => reports (addrOf f)) fr := by
  intro s pre rest hpayload _ _
  obtain ⟨fr', hpayload', hlen, hmapped, hthrough⟩ := readdressAt_encode fr hpayload
  refine ⟨readdressAt crc s pre.length, fr', ?_, hpayload', hmapped, hthrough⟩
  rw [List.length_append, hlen]
  exact step_encode huser hpayload

/-- **Synthesis and mutation agree.** Whatever the CRC and the mapper's state: on link frames
of the encoder, `mutate` gives link frames of the encoder with both addresses replaced by one
function, which every later state of the mapper goes by. Every block has its own CRC behind it,
and every frame is reported on in turn. -/
theorem mutate_linkFrames (crc : List UInt8 → UInt16) (mapper : SeededMapper)
    (frames : List LinkFrame) (huser : ∀ fr ∈ frames, fr.user.length ≤ 250) :
    ∃ addr : UInt16 → UInt16,
      (mutate crc (frames.flatMap (LinkFrame.encode crc)) mapper).payload =
        frames.flatMap (fun fr => (fr.readdress addr).encode crc) ∧
      (mutate crc (frames.flatMap (LinkFrame.encode crc)) mapper).payload =
        (frames.flatMap fun fr => (fr.readdress addr).blocks).flatMap (Synth.withCrc crc) ∧
      (mutate crc (frames.flatMap (LinkFrame.encode crc)) mapper).payload.length =
        (frames.flatMap (LinkFrame.encode crc)).length ∧
      (mutate crc (frames.flatMap (LinkFrame.encode crc)) mapper).reports =
        frames.flatMap (reports addr) ∧
      SeededMapper.Consistent idU16 .dnp3Addr mapper
        (mutate crc (frames.flatMap (LinkFrame.encode crc)) mapper).mapper
        (frames.flatMap LinkFrame.addresses) addr := by
  obtain ⟨t, frames', hrun, hpayload, -, hgrown, hknown, hthrough⟩ :=
    run_items ⟨frames.flatMap (LinkFrame.encode crc), mapper, []⟩ [] []
      (fun fr hfr => rewritesItem (huser fr hfr) _ _) (by rw [List.nil_append, List.append_nil])
  rw [List.nil_append, List.append_nil] at hpayload
  -- behind the last frame the walk is over
  have hend : (walk crc).run t ([] ++ frames'.flatMap (LinkFrame.encode crc)).length = t := by
    refine Scan.run_of_none (if_pos ?_)
    rw [hpayload, List.nil_append]
    omega
  have hmutate : mutate crc (frames.flatMap (LinkFrame.encode crc)) mapper = t :=
    hrun.trans hend
  obtain ⟨f, hf⟩ := exists_agrees SeededMapper.known t.mapper
  obtain ⟨rfl, hreports⟩ := hthrough f hf
  rw [hmutate]
  have hpayload' : t.payload =
      frames.flatMap (fun fr => (fr.readdress (addrOf f)).encode crc) := by
    rw [hpayload, List.flatMap_map]
  refine ⟨addrOf f, hpayload', ?_, ?_, hreports, ?_⟩
  · rw [hpayload', List.flatMap_assoc]
    rfl
  · rw [hpayload', List.length_flatMap, List.length_flatMap]
    exact congrArg List.sum
      (List.map_congr_left fun fr _ => LinkFrame.length_encode_readdress crc _ fr)
  · refine consistent_of_known hgrown hf fun a ha => ?_
    obtain ⟨fr, hfr, ha⟩ := List.mem_flatMap.mp ha
    exact hknown fr hfr _ (List.mem_map_of_mem ha)

/-- An integrity poll and its answer, and a frame with no user data. -/
def pollAndAnswer : List LinkFrame :=
  [⟨Synth.ctrlMaster, 4, 1004, Synth.integrityPollUser⟩,
    ⟨Synth.ctrlOutstation, 1004, 4, Synth.responseUser 0⟩, ⟨Synth.ctrlMaster, 4, 1004, []⟩]

theorem mutate_linkFrames_poll :
    (∀ fr ∈ pollAndAnswer, fr.user.length ≤ 250) ∧
      ∃ addr : UInt16 → UInt16,
        (mutate Synth.crcDnp3 (pollAndAnswer.flatMap (LinkFrame.encode Synth.crcDnp3))
          (.fromSeed ⟨fun n => n, 0⟩)).payload =
          pollAndAnswer.flatMap (fun fr => (fr.readdress addr).encode Synth.crcDnp3) :=
  ⟨by decide, (mutate_linkFrames Synth.crcDnp3 (.fromSeed ⟨fun n => n, 0⟩) pollAndAnswer
    (by decide)).imp fun _ h => h.1⟩

end Dnp3

end TurboLaser
