import Mathlib.Data.List.Basic
import TurboLaser.Net
import TurboLaser.Simulate.Profiles

/-!
# Addresses as texts

Scenario packs name addresses, networks and MACs by their texts, and so does the ledger file. These
are the readers and writers the source borrows from the standard library and `ipnet`, and
`parse_mac` and `fmt_mac` (proto/l3.rs).

- `Ipv4Addr` is read strictly: four decimal octets without leading zeros, so a text that is read is
  the text the address is written as;
- `Ipv4Net` allows leading zeros and keeps the host bits;
- `parseMac` never fails: a group that is missing or malformed counts as zero.

`parseIpv4Addr_showIpv4Addr` and `parseMac_fmtMac`: **an address or a MAC that was written is read
back.** This is why most of the development may hold values where the source holds texts: what a run
writes it also reads. A text that came from a file somebody edited is another matter, and the
modules that read such files read them through these functions.
-/

namespace TurboLaser

/-- `str::as_bytes`. -/
def utf8 (s : String) : List UInt8 := s.toList.flatMap String.utf8EncodeChar

/-- A text is read back from its bytes. -/
theorem utf8_injective {s t : String} (h : utf8 s = utf8 t) : s = t := by
  rw [← String.toByteArray_inj, ← String.utf8Encode_toList, ← String.utf8Encode_toList]
  exact congrArg List.toByteArray h

/-- A non-empty run of decimal digits, at most `maxDigits` of them, below `bound`. -/
def parseDecimal (maxDigits bound : Nat) (cs : List Char) : Option Nat :=
  if cs = [] ∨ maxDigits < cs.length ∨ ¬ cs.all Char.isDigit then none
  else
    let v := cs.foldl (fun a c => a * 10 + (c.toNat - 48)) 0
    if v < bound then some v else none

/-- An octet as the standard library reads it: a leading zero is refused. -/
def parseOctet (cs : List Char) : Option Nat :=
  if 1 < cs.length ∧ cs.head? = some '0' then none else parseDecimal 3 256 cs

/-- Four octets between dots. -/
def parseQuad (octet : List Char → Option Nat) (cs : List Char) : Option Ipv4Addr :=
  match (cs.splitOn '.').map octet with
  | [some a, some b, some c, some d] => some (ipv4 a b c d)
  | _ => none

/-- `str::parse::<Ipv4Addr>`. -/
def parseIpv4Addr (s : String) : Option Ipv4Addr := parseQuad parseOctet s.toList

/-- `str::parse::<Ipv4Net>`. -/
def parseIpv4Net (s : String) : Option Ipv4Net :=
  match s.toList.splitOn '/' with
  | [a, p] =>
    match parseQuad (parseDecimal 3 256) a, parseDecimal 3 33 p with
    | some addr, some len => if h : len ≤ 32 then some ⟨addr, len, h⟩ else none
    | _, _ => none
  | _ => none

/-- The octets of an address, most significant first. -/
def octets (a : Ipv4Addr) : List Nat :=
  [a.toNat / 16777216, a.toNat / 65536 % 256, a.toNat / 256 % 256, a.toNat % 256]

/-- The text of an address, as characters. -/
def ipv4Chars (a : Ipv4Addr) : List Char :=
  ['.'].intercalate ((octets a).map (Nat.toDigits 10))

/-- `Ipv4Addr::to_string`. -/
def showIpv4Addr (a : Ipv4Addr) : String := String.ofList (ipv4Chars a)

/-- `Ipv4Net::to_string`. -/
def showIpv4Net (n : Ipv4Net) : String :=
  String.ofList (ipv4Chars n.addr ++ '/' :: Nat.toDigits 10 n.prefixLen)

/-- `u8::from_str_radix(_, 16)`: a sign is allowed, and any number of leading zeros. -/
def parseHexByte (cs : List Char) : Option UInt8 :=
  let digits := if cs.head? = some '+' then cs.drop 1 else cs
  if digits = [] ∨ ¬ digits.all fun c => (hexDigit c).isSome then none
  else
    let v := digits.foldl (fun a c => a * 16 + (hexDigit c).getD 0) 0
    if v < 256 then some (UInt8.ofNat v) else none

/-- `parse_mac`. -/
def parseMac (s : String) : Mac :=
  let groups := (s.toList.splitOn ':').map fun part => (parseHexByte part).getD 0
  ⟨groups.getD 0 0, groups.getD 1 0, groups.getD 2 0, groups.getD 3 0, groups.getD 4 0,
    groups.getD 5 0⟩

/-- Two lowercase hexadecimal digits. -/
def hexByteChars (b : UInt8) : List Char :=
  [Nat.digitChar (b.toNat / 16), Nat.digitChar (b.toNat % 16)]

/-- `fmt_mac`. -/
def fmtMac (m : Mac) : String := String.ofList ([':'].intercalate (m.bytes.map hexByteChars))

/-! ## Addresses read back -/

/-- The octets of an address are octets, and make it up. -/
theorem octets_spec (a : Ipv4Addr) :
    ∃ o p q r, octets a = [o, p, q, r] ∧ (o < 256 ∧ p < 256 ∧ q < 256 ∧ r < 256) ∧
      ipv4 o p q r = a := by
  have ha : a.toNat < 4294967296 := a.toNat_lt
  refine ⟨_, _, _, _, rfl, ⟨by omega, by omega, by omega, by omega⟩, ?_⟩
  rw [ipv4, ← UInt32.toNat_inj, UInt32.toNat_ofNat']
  omega

/-- The texts of the octets read back, and have no dot in them. -/
theorem parseOctet_toDigits :
    ∀ n < 256, parseOctet (Nat.toDigits 10 n) = some n ∧ '.' ∉ Nat.toDigits 10 n ∧
      (Nat.toDigits 10 n).length ≤ 3 := by
  decide +kernel

/-- **An address that was written is read back.** -/
theorem parseIpv4Addr_showIpv4Addr (a : Ipv4Addr) : parseIpv4Addr (showIpv4Addr a) = some a := by
  obtain ⟨o, p, q, r, hoctets, ⟨ho, hp, hq, hr⟩, hquad⟩ := octets_spec a
  have hsplit : (ipv4Chars a).splitOn '.' = (octets a).map (Nat.toDigits 10) := by
    refine List.splitOn_intercalate '.' ?_ ?_
    · rw [hoctets]
      simp [parseOctet_toDigits, ho, hp, hq, hr]
    · rw [hoctets]
      simp
  unfold parseIpv4Addr showIpv4Addr parseQuad
  rw [String.toList_ofList, hsplit, hoctets]
  simp [parseOctet_toDigits, ho, hp, hq, hr, hquad]

/-- The texts of the bytes read back, and have no colon in them. -/
theorem parseHexByte_hexByteChars :
    ∀ n < 256, parseHexByte (hexByteChars (UInt8.ofNat n)) = some (UInt8.ofNat n) ∧
      ':' ∉ hexByteChars (UInt8.ofNat n) := by
  decide +kernel

/-- **A MAC that was written is read back.** -/
theorem parseMac_fmtMac (m : Mac) : parseMac (fmtMac m) = m := by
  have hbyte (b : UInt8) : parseHexByte (hexByteChars b) = some b ∧ ':' ∉ hexByteChars b := by
    have h := parseHexByte_hexByteChars b.toNat b.toNat_lt
    rwa [UInt8.ofNat_toNat] at h
  have hsplit : ([':'].intercalate (m.bytes.map hexByteChars)).splitOn ':' =
      m.bytes.map hexByteChars := by
    refine List.splitOn_intercalate ':' ?_ ?_
    · simp [hbyte]
    · simp [Mac.bytes]
  unfold parseMac fmtMac
  rw [String.toList_ofList, hsplit]
  simp [Mac.bytes, hbyte]

/-- The text of an address has at most 15 characters. -/
theorem length_ipv4Chars (a : Ipv4Addr) : (ipv4Chars a).length ≤ 15 := by
  obtain ⟨o, p, q, r, hoctets, ⟨ho, hp, hq, hr⟩, -⟩ := octets_spec a
  have ho' := (parseOctet_toDigits o ho).2.2
  have hp' := (parseOctet_toDigits p hp).2.2
  have hq' := (parseOctet_toDigits q hq).2.2
  have hr' := (parseOctet_toDigits r hr).2.2
  simp [ipv4Chars, hoctets, List.intercalate]
  omega

end TurboLaser
