import TurboLaser.Proto.Mutation
import TurboLaser.Synth.Fieldbus

/-!
# The Modbus mutator (proto/mutators/modbus.rs)

`mutate` walks the ADUs that are pipelined in a segment: the length field of an MBAP header says
where the next one begins. The unit identifier is mapped, nothing else is touched.

A unit identifier is one octet, so units may well be mapped to one another's numbers; two of them
stay two as long as the mapper finds values that are not used. The transaction and protocol
identifiers, the function code and the data are not looked at. A length field that leads out of the
segment ends the walk, with the frames before it rewritten.

`mutate_mbap`: **on what the encoder writes, the walk is the encoder with other unit identifiers**,
one function for all ADUs of the segment, and it ends where the payload ends.
-/

namespace TurboLaser

open Lib

/-- The arguments of `mbap`. -/
structure Adu where
  unit : UInt8
  pdu : List UInt8

namespace Adu

/-- `mbap`. -/
def encode (adu : Adu) : List UInt8 := Synth.mbap adu.unit adu.pdu

/-- The ADU with its unit identifier replaced. -/
def reunit (unitOf : UInt8 → UInt8) (adu : Adu) : Adu := { adu with unit := unitOf adu.unit }

/-- The six octets in front of the unit identifier. -/
def prefix6 (adu : Adu) : List UInt8 :=
  [0x00, 0x01, 0x00, 0x00] ++ toBeBytes16 (UInt16.ofNat (adu.pdu.length + 1))

theorem encode_eq (adu : Adu) :
    adu.encode = adu.prefix6 ++ (u8Field.bytes adu.unit ++ adu.pdu) := by
  simp [encode, Synth.mbap, prefix6, u8Field, toBeBytes16]

theorem length_encode (adu : Adu) : adu.encode.length = 7 + adu.pdu.length := by
  rw [encode_eq, List.length_append, List.length_append]
  show 6 + (1 + _) = _
  omega

end Adu

namespace Modbus

/-- `MODBUS_PORT`. -/
def port : UInt16 := 502

/-- `matches`. -/
def «matches» (f : ParsedFrame) : Bool :=
  decide (f.layout.l4Kind = .tcp) && f.onPort [port] && decide (8 ≤ f.payload.length) &&
    decide (byte f.payload 2 = 0) && decide (byte f.payload 3 = 0)

/-- The edit of an ADU at `o`. -/
def reunitAt (s : Mutation) (o : Nat) : Mutation :=
  s.remap idU8 u8Field .modbus .modbusUnitId "unit_id" (o + 6)

/-- One turn of the loop. -/
def step (s : Mutation) (o : Nat) : Option (Mutation × Nat) :=
  let p := s.payload
  if p.length < o + 7 then none
  -- stop if this does not look like another MBAP header
  else if byte p (o + 2) ≠ 0 ∨ byte p (o + 3) ≠ 0 then none
  else
    let len := (be16Field.read p (o + 4)).toNat
    if len = 0 then none else some (reunitAt s o, o + (6 + len))

/-- What a turn does, when there is one. -/
theorem step_some {s t : Mutation} {o o' : Nat} (h : step s o = some (t, o')) :
    o + 7 ≤ s.payload.length ∧ t = reunitAt s o ∧ o + 7 ≤ o' := by
  unfold step at h
  dsimp only at h
  split at h
  · cases h
  · next hlen =>
    split at h
    · cases h
    · split at h
      · cases h
      · cases h
        exact ⟨Nat.not_lt.mp hlen, rfl, by omega⟩

/-- The loop: each turn moves on by seven octets at least. -/
def walk : Scan Mutation where
  step := step
  size s := s.payload.length
  forward h := by
    obtain ⟨-, -, hforward⟩ := step_some h
    omega
  inside h := by
    obtain ⟨hinside, -, -⟩ := step_some h
    omega
  size_eq h := by
    obtain ⟨-, rfl, -⟩ := step_some h
    exact (remap_agreeOn ..).1

/-- `mutate`. -/
def mutate (payload : List UInt8) (mapper : SeededMapper) : Mutation :=
  walk.run ⟨payload, mapper, []⟩ 0

/-! ## ADUs of the encoder -/

/-- The unit identifiers that `f` gives. -/
def unitOf (f : Domain × UInt64 → UInt64) : UInt8 → UInt8 := idU8.through f .modbusUnitId

/-- The key under which the mapper records the unit of an ADU. -/
def keys (adu : Adu) : List (Domain × UInt64) := [(.modbusUnitId, adu.unit.toUInt64)]

/-- What is reported about an ADU. -/
def reports (unit : UInt8 → UInt8) (adu : Adu) : List MutationReport :=
  changeReport idU8 .modbus "unit_id" adu.unit (unit adu.unit)

theorem rewritesItem {adu : Adu} (hpdu : adu.pdu.length ≤ 65534) (size behind : Nat) :
    RewritesItem size behind walk Adu.encode keys (fun f => Adu.reunit (unitOf f))
      (fun f => reports (unitOf f)) adu := by
  intro s pre rest hpayload _ _
  have hlen := adu.length_encode
  have hbyte : ∀ i, byte s.payload (pre.length + i) = byte (adu.encode ++ rest) i := fun i => by
    rw [hpayload, byte_append_right]
  -- the length field, behind transaction and protocol id
  have hword : be16Field.read s.payload (pre.length + 4) = UInt16.ofNat (adu.pdu.length + 1) := by
    have hsplit : s.payload = (pre ++ [0x00, 0x01, 0x00, 0x00]) ++
        (be16Field.bytes (UInt16.ofNat (adu.pdu.length + 1)) ++ (adu.unit :: adu.pdu ++ rest)) := by
      rw [hpayload, adu.encode_eq]
      simp [Adu.prefix6, u8Field, be16Field]
    have hoff : pre.length + 4 = (pre ++ [0x00, 0x01, 0x00, 0x00] : List UInt8).length := by
      rw [List.length_append]
      rfl
    rw [hsplit, hoff, be16Field.read_append]
  have hcount : (UInt16.ofNat (adu.pdu.length + 1)).toNat = adu.pdu.length + 1 := by
    rw [UInt16.toNat_ofNat']
    omega
  -- the unit identifier
  have hunit :
      s.payload = (pre ++ adu.prefix6) ++ (u8Field.bytes adu.unit ++ (adu.pdu ++ rest)) := by
    rw [hpayload, adu.encode_eq, List.append_assoc, List.append_assoc, List.append_assoc]
  have hoff : pre.length + 6 = (pre ++ adu.prefix6).length := by
    rw [List.length_append]
    rfl
  obtain ⟨unit, hpayload', hknown, hthrough⟩ :=
    remap_append idU8 .modbus .modbusUnitId "unit_id" hunit hoff
  have hnext : pre.length + (6 + (adu.pdu.length + 1)) = pre.length + (7 + adu.pdu.length) := by
    omega
  have hgrown := remap_extends idU8 u8Field .modbus .modbusUnitId "unit_id" (pre.length + 6) s
  refine ⟨reunitAt s pre.length, { adu with unit }, ?_, ?_, ⟨(remap_agreeOn ..).1, hgrown, ?_⟩,
    fun f hf => ?_⟩
  · show step s pre.length = _
    unfold step
    dsimp only
    rw [if_neg, if_neg, hword, hcount, if_neg (by omega), List.length_append,
      Adu.length_encode { adu with unit }, hnext]
    · rw [hbyte 2, hbyte 3]
      exact not_or.mpr ⟨not_not.mpr rfl, not_not.mpr rfl⟩
    · rw [hpayload, List.length_append, List.length_append]
      omega
  · rw [Adu.encode_eq, List.append_assoc, List.append_assoc, List.append_assoc]
    rw [List.append_assoc] at hpayload'
    exact hpayload'
  · intro k hk
    exact List.mem_singleton.mp hk ▸ hknown
  · obtain ⟨rfl, hreports⟩ := hthrough f hf
    exact ⟨rfl, hreports⟩

/-- **Synthesis and mutation agree.** Whatever the mapper's state: on ADUs of the encoder,
`mutate` gives ADUs of the encoder with the same PDUs and every unit identifier replaced by one
function, which every later state of the mapper goes by. -/
theorem mutate_mbap (mapper : SeededMapper) (adus : List Adu)
    (hpdu : ∀ adu ∈ adus, adu.pdu.length ≤ 65534) :
    ∃ unit : UInt8 → UInt8,
      (mutate (adus.flatMap Adu.encode) mapper).payload =
        adus.flatMap (fun adu => (adu.reunit unit).encode) ∧
      (mutate (adus.flatMap Adu.encode) mapper).reports = adus.flatMap (reports unit) ∧
      SeededMapper.Consistent idU8 .modbusUnitId mapper
        (mutate (adus.flatMap Adu.encode) mapper).mapper (adus.map Adu.unit) unit := by
  obtain ⟨t, adus', hrun, hpayload, -, hgrown, hknown, hthrough⟩ :=
    run_items ⟨adus.flatMap Adu.encode, mapper, []⟩ [] []
      (fun adu hadu => rewritesItem (hpdu adu hadu) _ _) (by rw [List.nil_append, List.append_nil])
  rw [List.nil_append, List.append_nil] at hpayload
  -- behind the last ADU the payload is over
  have hend : walk.run t ([] ++ adus'.flatMap Adu.encode).length = t := by
    refine Scan.run_of_none (if_pos ?_)
    rw [hpayload, List.nil_append]
    omega
  have hmutate : mutate (adus.flatMap Adu.encode) mapper = t := hrun.trans hend
  obtain ⟨f, hf⟩ := exists_agrees SeededMapper.known t.mapper
  obtain ⟨rfl, hreports⟩ := hthrough f hf
  rw [hmutate]
  refine ⟨unitOf f, by rw [hpayload, List.flatMap_map], hreports, ?_⟩
  refine consistent_of_known hgrown hf fun unit hunit => ?_
  obtain ⟨adu, hadu, rfl⟩ := List.mem_map.mp hunit
  exact hknown adu hadu _ (List.mem_singleton_self _)

/-- A read request behind a write, as they are pipelined. -/
def pipelined : List Adu := [⟨5, [0x06, 0, 1, 0, 2]⟩, ⟨5, [0x03, 0, 0, 0, 10]⟩, ⟨9, []⟩]

theorem mutate_mbap_pipelined :
    (∀ adu ∈ pipelined, adu.pdu.length ≤ 65534) ∧
      ∃ unit : UInt8 → UInt8,
        (mutate (pipelined.flatMap Adu.encode) (.fromSeed ⟨fun n => n, 0⟩)).payload =
          pipelined.flatMap (fun adu => (adu.reunit unit).encode) :=
  ⟨by decide, (mutate_mbap (.fromSeed ⟨fun n => n, 0⟩) pipelined (by decide)).imp fun _ h => h.1⟩

end Modbus

end TurboLaser
