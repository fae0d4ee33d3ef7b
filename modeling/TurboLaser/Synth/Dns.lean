import TurboLaser.Lib.DnsMessage
import TurboLaser.Synth.Ioc

/-!
# DNS answers (synth/dns.rs)

A query and its answer bind a hostname to an address. The answer repeats the question and names its
owner by a pointer to offset 12, behind the header.

`encode_name` takes whatever it is given: labels between dots, of which empty ones are dropped and
long ones cut to 63 bytes. So a hostname that is no DNS name is still encoded as one, and what it
says is another name than was meant. `hostLabels` is the name that is meant by the encoding, and the
decoder is asked for that; for a hostname of short labels without empty ones the two are the same.

- `hostLabels`: the name a hostname stands for, its labels that are not empty, each cut to 63 bytes;
- `encodeName_eq`: **`encode_name` writes that name out**, whatever the hostname is;
- `decode_dnsPayloads`: **the query and the response decode to the binding**: one question, one
  answer with the address, the same id in both, and no byte left over. The decoder follows the
  pointer; it was written from the format.
-/

namespace TurboLaser.Synth

open Lib

/-- The labels of a hostname as they go onto the wire. -/
def hostLabels (hostname : String) : Dns.Name :=
  ((hostname.toList.splitOn '.').filter fun l => !l.isEmpty).map fun label =>
    (label.flatMap String.utf8EncodeChar).take 63

/-- Every character takes a byte at least. -/
theorem utf8_pos {label : List Char} (h : label ≠ []) :
    0 < (label.flatMap String.utf8EncodeChar).length := by
  obtain ⟨c, rest, rfl⟩ := List.exists_cons_of_ne_nil h
  have hc := c.utf8Size_pos
  rw [List.flatMap_cons, List.length_append, String.length_utf8EncodeChar]
  omega

/-- The labels of a hostname can be written. -/
theorem labelOk_hostLabels (hostname : String) :
    ∀ label ∈ hostLabels hostname, Dns.LabelOk label := by
  intro label hlabel
  obtain ⟨chars, hchars, rfl⟩ := List.mem_map.mp hlabel
  have hne : chars ≠ [] := by
    rintro rfl
    exact absurd (List.mem_filter.mp hchars).2 Bool.false_ne_true
  have hpos := utf8_pos hne
  constructor
  · rw [List.length_take]
    omega
  · rw [List.length_take]
    omega

/-- **`encode_name` writes the name out.** -/
theorem encodeName_eq (hostname : String) :
    encodeName hostname = Dns.writeName (hostLabels hostname) := by
  unfold encodeName hostLabels Dns.writeName
  rw [List.flatMap_map]
  congr 1
  refine List.flatMap_congr fun label _ => ?_
  rw [encodeLabel, List.length_take, Nat.min_comm 63, List.singleton_append]
  congr 1
  -- cutting at 63 and at the length that was clamped is the same
  by_cases hle : (label.flatMap String.utf8EncodeChar).length ≤ 63
  · rw [Nat.min_eq_left hle, List.take_length, List.take_of_length_le hle]
  · rw [Nat.min_eq_right (by omega)]

/-- **The payloads decode to the binding**: the id, one question of type A and class IN, and in the
response one answer for the same name with the address. The decoder follows compression pointers; a
label of more than 63 bytes is cut, in the question and in the answer alike. -/
theorem decode_dnsPayloads (qid : UInt16) (hostname : String) (answerIp : Ipv4Addr)
    (h : (encodeName hostname).length ≤ 255) :
    Dns.decode (dnsQueryPayload qid hostname) =
        some
          { id := qid.toNat
            flags := 0x0100
            questions := [⟨hostLabels hostname, 1, 1⟩]
            answers := []
            authority := []
            additional := [] } ∧
      Dns.decode (dnsResponsePayload qid hostname answerIp) =
        some
          { id := qid.toNat
            flags := 0x8180
            questions := [⟨hostLabels hostname, 1, 1⟩]
            answers := [⟨hostLabels hostname, 1, 1, 300, toBeBytes answerIp⟩]
            authority := []
            additional := [] } := by
  have hok := labelOk_hostLabels hostname
  have hlen : Dns.nameLength (hostLabels hostname) ≤ 255 := by
    rwa [encodeName_eq, Dns.length_writeName] at h
  -- the question is written out, so it is read in any message
  have hquestion := fun msg => Reads.times_one
    (Dns.reads_question 1 1 (Dns.reads_name msg hok hlen))
  constructor
  · have hread := fun msg => Dns.reads_message qid 0x0100 1 0 0 0 (hquestion msg)
      (Reads.times_zero (Dns.record msg)) (Reads.times_zero (Dns.record msg))
      (Reads.times_zero (Dns.record msg))
    refine Eq.trans ?_ (hread (dnsQueryPayload qid hostname)).whole
    refine congrArg (Reader.whole _) ?_
    simp [dnsQueryPayload, encodeName_eq, toBeBytes16]
  · -- the pointer lands on the question
    have htarget : (dnsResponsePayload qid hostname answerIp).drop (0x0C : UInt8).toNat =
        Dns.writeName (hostLabels hostname) ++ (toBeBytes16 1 ++ (toBeBytes16 1 ++
          (toBeBytes16 0xC00C ++ (toBeBytes16 1 ++ (toBeBytes16 1 ++ (toBeBytes 300 ++
          (toBeBytes16 4 ++ toBeBytes answerIp))))))) := by
      simp [dnsResponsePayload, encodeName_eq, toBeBytes16]
    have hanswer := Reads.times_one (Dns.reads_record 1 1 4 300
      (Dns.reads_pointer 0x0C hok hlen htarget) (length_toBeBytes answerIp))
    have hread := Dns.reads_message qid 0x8180 1 1 0 0
      (hquestion (dnsResponsePayload qid hostname answerIp)) hanswer
      (Reads.times_zero (Dns.record _)) (Reads.times_zero (Dns.record _))
    refine Eq.trans ?_ hread.whole
    refine congrArg (Reader.whole _) ?_
    simp [dnsResponsePayload, encodeName_eq, toBeBytes16]

/-- A name with an empty label in it, and the resolver's answer. -/
theorem decode_dnsPayloads_plc :
    Dns.decode (dnsQueryPayload 7 "plc..line-01.") =
        some
          { id := 7
            flags := 0x0100
            questions := [⟨hostLabels "plc..line-01.", 1, 1⟩]
            answers := []
            authority := []
            additional := [] } ∧
      Dns.decode (dnsResponsePayload 7 "plc..line-01." 0x0A010005) =
        some
          { id := 7
            flags := 0x8180
            questions := [⟨hostLabels "plc..line-01.", 1, 1⟩]
            answers := [⟨hostLabels "plc..line-01.", 1, 1, 300, [10, 1, 0, 5]⟩]
            authority := []
            additional := [] } :=
  decode_dnsPayloads 7 "plc..line-01." 0x0A010005 (by decide)

example : hostLabels "plc..line-01." =
    [[112, 108, 99], [108, 105, 110, 101, 45, 48, 49]] := by decide

end TurboLaser.Synth
