import TurboLaser.Synth.Oid
import TurboLaser.Synth.Session

/-!
# SNMP messages (synth/snmp.rs)

A management station asks a switch for its description, and the answer carries model and firmware.
Both messages are nested elements, each with its own length; the variables of the answer depend on
what is known of the device.

`SnmpMessage` and `decodeSnmp` are the other end, a strict reader of the same format over `Lib.Ber`.
Elements are nested five deep, and the length of each depends on what is inside. The proof goes from
the inside out, one rule for an element whatever its length is: the form of the length field (one
octet, or two or three in the long form) is chosen by `berLen`, and `reads_tlv` covers the three.
What must be shown of the contents is only that they are short enough, and that is where the
hypotheses on the texts come from.

Integers are written without superfluous octets, with a zero in front where the first bit would make
them negative; request ids use all of that.

- `reads_tlv`, `reads_int`: **an element is read back at every length below 65536**, and an integer
  as the number it is;
- `decode_message`: a message is read back with its variables;
- `decode_snmp`: **the request and the response decode to what was asked**, entirely, for every
  combination of what is known of the device.
-/

namespace TurboLaser.Synth

open Lib

/-- `SNMP_PORT`. -/
def snmpPort : UInt16 := 161

/-- `SYSDESCR_OID`: the first two arcs fold to `0x2b`, the rest follow. -/
def sysDescrOid : List UInt8 := [0x2b, 0x06, 0x01, 0x02, 0x01, 0x01, 0x01, 0x00]

/-- `SYSOBJECTID_OID`. -/
def sysObjectIdOid : List UInt8 := [0x2b, 0x06, 0x01, 0x02, 0x01, 0x01, 0x02, 0x00]

/-- `ber_len`. -/
def berLen (len : Nat) : List UInt8 :=
  if len < 0x80 then [UInt8.ofNat len]
  else if len < 0x100 then [0x81, UInt8.ofNat len]
  else [0x82, UInt8.ofNat (len / 256), UInt8.ofNat (len % 256)]

/-- `tlv`. -/
def tlv (tag : UInt8) (value : List UInt8) : List UInt8 := [tag] ++ berLen value.length ++ value

/-- Leading zero bytes left out, `n` at most. -/
def skipZeros : Nat → List UInt8 → List UInt8
  | n + 1, b :: rest => if b = 0 then skipZeros n rest else b :: rest
  | _, digits => digits

/-- `int`: a minimal integer that is not negative. -/
def int (v : UInt32) : List UInt8 :=
  let val := skipZeros 3 (toBeBytes v)
  -- keep it positive
  tlv 0x02 (if 128 ≤ (byte val 0).toNat then 0 :: val else val)

/-- `message`. -/
def message (community : String) (pduTag : UInt8) (requestId : UInt32) (varbind : List UInt8) :
    List UInt8 :=
  let pduBody := int requestId ++ int 0 ++ int 0 ++ tlv 0x30 varbind
  tlv 0x30 (int 1 ++ tlv 0x04 (utf8 community) ++ tlv pduTag pduBody)

/-- `varbind`: an OID name and a value. -/
def varbind (nameOid value : List UInt8) : List UInt8 := tlv 0x30 (tlv 0x06 nameOid ++ value)

/-- `get_request`. -/
def getRequest (community : String) (requestId : UInt32) (firmwareOid : Option String) :
    List UInt8 :=
  let firmware :=
    match firmwareOid.bind encodeOid with
    | some oid => varbind oid (tlv 0x05 [])
    | none => []
  message community 0xA0 requestId
    (varbind sysDescrOid (tlv 0x05 []) ++ varbind sysObjectIdOid (tlv 0x05 []) ++ firmware)

/-- `get_response`: a variable goes in only when its value is there. -/
def getResponse (community : String) (requestId : UInt32) (sysDescr : String)
    (sysObjectId firmwareOid firmware : Option String) : List UInt8 :=
  let object :=
    match sysObjectId.bind encodeOid with
    | some oid => varbind sysObjectIdOid (tlv 0x06 oid)
    | none => []
  let version :=
    match firmwareOid.bind encodeOid, firmware with
    | some oid, some fw => varbind oid (tlv 0x04 (utf8 fw))
    | _, _ => []
  message community 0xA2 requestId
    (varbind sysDescrOid (tlv 0x04 (utf8 sysDescr)) ++ object ++ version)

/-- `exchange`. -/
def snmpExchange (e : Endpoints) (community : String) (requestId : UInt32) (sysDescr : String)
    (sysObjectId firmwareOid firmware : Option String) : Exchange :=
  .udp e snmpPort
    [(.client, getRequest community requestId firmwareOid),
      (.server, getResponse community requestId sysDescr sysObjectId firmwareOid firmware)]

/-! ## What a management station reads -/

/-- A value of a variable. -/
inductive SnmpValue where
  | null
  | octets (bytes : List UInt8)
  | oid (content : List UInt8)
deriving DecidableEq

/-- A variable: the content of its OID, and its value. -/
structure VarBind where
  name : List UInt8
  value : SnmpValue
deriving DecidableEq

/-- A version 2c message. -/
structure SnmpMessage where
  version : Int
  community : List UInt8
  pdu : UInt8
  requestId : Int
  errorStatus : Int
  errorIndex : Int
  varbinds : List VarBind
deriving DecidableEq

/-- A value by its tag. -/
def snmpValue (tag : UInt8) (content : List UInt8) : Option SnmpValue :=
  if tag = 0x04 then some (.octets content)
  else if tag = 0x05 then (Ber.null content).map fun _ => .null
  else if tag = 0x06 then some (.oid content)
  else none

/-- One variable. -/
def snmpVarbind : Reader VarBind :=
  Ber.tlv 0x30 (Reader.whole do
    let name ← Ber.tlv 0x06 Ber.octets
    let found ← Ber.element
    let value ← Reader.ofOption (snmpValue found.1 found.2)
    return ⟨name, value⟩)

/-- The request id, the two error fields and the variables. -/
def snmpPdu : Reader (Int × Int × Int × List VarBind) := do
  let requestId ← Ber.tlv 0x02 Ber.signedInt
  let errorStatus ← Ber.tlv 0x02 Ber.signedInt
  let errorIndex ← Ber.tlv 0x02 Ber.signedInt
  let varbinds ← Ber.tlv 0x30 (Reader.many snmpVarbind)
  return (requestId, errorStatus, errorIndex, varbinds)

/-- A message: version, community, and one of the PDUs. -/
def snmpMessage : Reader SnmpMessage :=
  Ber.tlv 0x30 (Reader.whole do
    let version ← Ber.tlv 0x02 Ber.signedInt
    let community ← Ber.tlv 0x04 Ber.octets
    let found ← Ber.element
    Reader.guard (found.1 = 0xA0 ∨ found.1 = 0xA2)
    let pdu ← Reader.ofOption (snmpPdu.whole found.2)
    return ⟨version, community, found.1, pdu.1, pdu.2.1, pdu.2.2.1, pdu.2.2.2⟩)

/-- A buffer that is one message. -/
def decodeSnmp (msg : List UInt8) : Option SnmpMessage := snmpMessage.whole msg

/-! ## Elements read back -/

theorem reads_berLen {len : Nat} (h : len < 65536) : Reads Ber.berLength (berLen len) len := by
  unfold berLen
  split
  · next hshort =>
    have hread := Ber.reads_berLength_short
      (show (UInt8.ofNat len).toNat < 128 by rw [UInt8.toNat_ofNat']; omega)
    rwa [show (UInt8.ofNat len).toNat = len by rw [UInt8.toNat_ofNat']; omega] at hread
  · split
    · next hone =>
      have hread := Ber.reads_berLength_long (b := 0x81) [UInt8.ofNat len]
        Nat.zero_lt_one rfl
      rw [List.foldl_cons, List.foldl_nil, UInt8.toNat_ofNat'] at hread
      rwa [show 0 * 256 + len % 256 = len by omega] at hread
    · have hread := Ber.reads_berLength_long (b := 0x82)
        [UInt8.ofNat (len / 256), UInt8.ofNat (len % 256)] Nat.zero_lt_two rfl
      rw [List.foldl_cons, List.foldl_cons, List.foldl_nil, UInt8.toNat_ofNat',
        UInt8.toNat_ofNat'] at hread
      have hvalue : (0 * 256 + len / 256 % 256) * 256 + len % 256 % 256 = len := by omega
      rwa [show (0 * 256 + len / 256 % 2 ^ 8) * 256 + len % 256 % 2 ^ 8 = len from hvalue] at hread

/-- The content of an element is shorter than the element. -/
theorem length_lt_tlv (tag : UInt8) (value : List UInt8) : value.length < (tlv tag value).length := by
  rw [tlv, List.length_append, List.length_append, List.length_singleton]
  omega

theorem reads_tlv_element {tag : UInt8} {value : List UInt8} (h : value.length < 65536) :
    Reads Ber.element (tlv tag value) (tag, value) := by
  have hread := Ber.reads_element tag (reads_berLen h)
  rwa [← List.cons_append, ← List.singleton_append (x := tag)] at hread

/-- **An element is read back**, whichever form its length takes. -/
theorem reads_tlv {α : Type} {tag : UInt8} {value : List UInt8} {content : List UInt8 → Option α}
    {a : α} (h : value.length < 65536) (hvalue : content value = some a) :
    Reads (Ber.tlv tag content) (tlv tag value) a := by
  have hread := Ber.reads_tlv tag (reads_berLen h) hvalue
  rwa [← List.cons_append, ← List.singleton_append (x := tag)] at hread

/-- What is left of a number without its leading zeros: the same number, minimal. -/
theorem skipZeros_spec {n : Nat} {digits : List UInt8} (h : digits.length = n + 1) :
    ∃ b rest, skipZeros n digits = b :: rest ∧ (rest ≠ [] → b ≠ 0) ∧ rest.length ≤ n ∧
      (b :: rest).foldl (fun acc x => acc * 256 + x.toNat) 0 =
        digits.foldl (fun acc x => acc * 256 + x.toNat) 0 := by
  induction n generalizing digits with
  | zero =>
    obtain ⟨b, rfl⟩ := List.length_eq_one_iff.mp h
    exact ⟨b, [], rfl, fun hne => absurd rfl hne, Nat.le_refl 0, rfl⟩
  | succ n ih =>
    obtain ⟨b, rest, rfl⟩ := List.exists_cons_of_length_pos (by omega : 0 < digits.length)
    have hlen : rest.length = n + 1 := Nat.succ.inj h
    by_cases hb : b = 0
    · obtain ⟨c, rest', hskip, hmin, hle, hvalue⟩ := ih hlen
      refine ⟨c, rest', ?_, hmin, Nat.le_succ_of_le hle, ?_⟩
      · rw [skipZeros, if_pos hb, hskip]
      · rw [hvalue, hb]
        rfl
    · exact ⟨b, rest, by rw [skipZeros, if_neg hb], fun _ => hb, Nat.le_of_eq hlen, rfl⟩

/-- An integer is short, and holds the number. -/
theorem int_spec (v : UInt32) :
    ∃ digits, int v = tlv 0x02 digits ∧ digits.length ≤ 5 ∧
      Ber.signedInt digits = some (v.toNat : Int) := by
  obtain ⟨b, rest, hskip, hmin, hle, hvalue⟩ := skipZeros_spec (length_toBeBytes v)
  -- without leading zeros the digits say the same number
  have hv : (toBeBytes v).foldl (fun acc x => acc * 256 + x.toNat) 0 = v.toNat := by
    have hlt : v.toNat < 4294967296 := v.toNat_lt
    simp only [toBeBytes, List.foldl_cons, List.foldl_nil, UInt8.toNat_ofNat']
    omega
  rw [hv] at hvalue
  refine ⟨_, rfl, ?_, ?_⟩
  · rw [hskip]
    split
    · simp only [List.length_cons]
      omega
    · simp only [List.length_cons]
      omega
  · rw [hskip, byte_cons_zero]
    split
    · next hhigh =>
      -- a zero in front is needed here, as the number would read as negative
      have hredundant : ¬ Ber.Redundant 0 (b :: rest) := by
        rintro (⟨-, hlow⟩ | ⟨hff, -⟩)
        · omega
        · cases hff
      rw [Ber.signedInt_of_small (by decide) hredundant, List.foldl_cons]
      exact congrArg (fun n : Nat => some (n : Int)) hvalue
    · next hlow =>
      have hredundant : ¬ Ber.Redundant b rest := by
        cases rest with
        | nil => exact fun h => h
        | cons c rest =>
          rintro (⟨hzero, -⟩ | ⟨rfl, -⟩)
          · exact hmin (List.cons_ne_nil _ _) hzero
          · exact hlow (by decide)
      rw [Ber.signedInt_of_small (by omega) hredundant, hvalue]

/-- **An integer is read back as the number it is**, never as a negative one. -/
theorem reads_int (v : UInt32) :
    Reads (Ber.tlv 0x02 Ber.signedInt) (int v) (v.toNat : Int) := by
  obtain ⟨digits, hint, hlen, hvalue⟩ := int_spec v
  rw [hint]
  exact reads_tlv (by omega) hvalue

/-! ## Messages read back

A message is a sequence of elements in elements, and each is read with any bytes behind it. The
lengths of the elements are written in at most three bytes, so a message is read back if it is
shorter than 64 KiB, and with it every variable in it.
-/

/-- A variable is read back, if it is shorter than 64 KiB. -/
theorem reads_varbind {name content : List UInt8} {tag : UInt8} {value : SnmpValue}
    (hvalue : snmpValue tag content = some value)
    (hlen : (varbind name (tlv tag content)).length < 65536) :
    Reads snmpVarbind (varbind name (tlv tag content)) ⟨name, value⟩ := by
  have hbody := length_lt_tlv 0x30 (tlv 0x06 name ++ tlv tag content)
  have hname := length_lt_tlv 0x06 name
  have hcontent := length_lt_tlv tag content
  rw [List.length_append] at hbody
  unfold varbind at hlen ⊢
  have hreads : Reads (Ber.tlv 0x06 Ber.octets) (tlv 0x06 name) name :=
    reads_tlv (by omega) rfl
  have hparts := hreads.bind
    (f := fun name => (do
      let found ← Ber.element
      let value ← Reader.ofOption (snmpValue found.1 found.2)
      return ⟨name, value⟩ : Reader VarBind))
    ((reads_tlv_element (by omega)).bind (Reads.ofOption hvalue).bind_pure)
  rw [List.append_nil] at hparts
  have hwhole := hparts.whole
  have hfits : (tlv 0x06 name ++ tlv tag content).length < 65536 := by
    rw [List.length_append]
    omega
  unfold snmpVarbind
  exact reads_tlv hfits hwhole

/-- The request id, two zeros and the variables. -/
theorem reads_pdu (requestId : UInt32) {vars : List (List UInt8 × VarBind)}
    (hvars : ∀ v ∈ vars, v.1 ≠ [] ∧ Reads snmpVarbind v.1 v.2)
    (hlen : (vars.flatMap Prod.fst).length < 65536) :
    snmpPdu.whole (int requestId ++ int 0 ++ int 0 ++ tlv 0x30 (vars.flatMap Prod.fst)) =
      some ((requestId.toNat : Int), 0, 0, vars.map Prod.snd) := by
  have hlist : Reads (Ber.tlv 0x30 (Reader.many snmpVarbind)) (tlv 0x30 (vars.flatMap Prod.fst))
      (vars.map Prod.snd) := reads_tlv hlen (Reads.many hvars)
  have hparts : Reads snmpPdu
      (int requestId ++ (int 0 ++ (int 0 ++ tlv 0x30 (vars.flatMap Prod.fst))))
      ((requestId.toNat : Int), ((0 : UInt32).toNat : Int), ((0 : UInt32).toNat : Int),
        vars.map Prod.snd) :=
    (reads_int requestId).bind ((reads_int 0).bind ((reads_int 0).bind hlist.bind_pure))
  rw [List.append_assoc, List.append_assoc]
  exact hparts.whole

/-- **A message is read back** with its variables. -/
theorem decode_message (community : String) {pduTag : UInt8} (requestId : UInt32)
    {vars : List (List UInt8 × VarBind)} (hpdu : pduTag = 0xA0 ∨ pduTag = 0xA2)
    (hvars : ∀ v ∈ vars, v.1 ≠ [] ∧ Reads snmpVarbind v.1 v.2)
    (hlen : (message community pduTag requestId (vars.flatMap Prod.fst)).length < 65536) :
    decodeSnmp (message community pduTag requestId (vars.flatMap Prod.fst)) =
      some
        { version := 1
          community := utf8 community
          pdu := pduTag
          requestId := requestId.toNat
          errorStatus := 0
          errorIndex := 0
          varbinds := vars.map Prod.snd } := by
  unfold message at hlen ⊢
  dsimp only at hlen ⊢
  have hvarbinds := length_lt_tlv 0x30 (vars.flatMap Prod.fst)
  have hname := length_lt_tlv 0x04 (utf8 community)
  generalize hbody : int requestId ++ int 0 ++ int 0 ++ tlv 0x30 (vars.flatMap Prod.fst) = body
    at hlen ⊢
  have hpduLen := length_lt_tlv pduTag body
  have hwholeLen := length_lt_tlv 0x30 (int 1 ++ tlv 0x04 (utf8 community) ++ tlv pduTag body)
  rw [List.length_append, List.length_append] at hwholeLen
  have hbodyLen := congrArg List.length hbody
  rw [List.length_append] at hbodyLen
  -- every part is shorter than the whole
  have hread := reads_pdu requestId hvars (by omega)
  rw [hbody] at hread
  have hcommunity : Reads (Ber.tlv 0x04 Ber.octets) (tlv 0x04 (utf8 community)) (utf8 community) :=
    reads_tlv (by omega) rfl
  have hpart : Reads (do
        let found ← Ber.element
        Reader.guard (found.1 = 0xA0 ∨ found.1 = 0xA2)
        let pdu ← Reader.ofOption (snmpPdu.whole found.2)
        return ⟨1, utf8 community, found.1, pdu.1, pdu.2.1, pdu.2.2.1, pdu.2.2.2⟩ :
          Reader SnmpMessage)
      (tlv pduTag body ++ ([] ++ []))
      ⟨1, utf8 community, pduTag, (requestId.toNat : Int), 0, 0, vars.map Prod.snd⟩ :=
    (reads_tlv_element (by omega)).bind
      ((Reads.guard hpdu).bind (Reads.ofOption hread).bind_pure)
  rw [List.append_nil, List.append_nil] at hpart
  have hparts := (reads_int 1).bind (f := fun version => (do
      let community ← Ber.tlv 0x04 Ber.octets
      let found ← Ber.element
      Reader.guard (found.1 = 0xA0 ∨ found.1 = 0xA2)
      let pdu ← Reader.ofOption (snmpPdu.whole found.2)
      return ⟨version, community, found.1, pdu.1, pdu.2.1, pdu.2.2.1, pdu.2.2.2⟩ :
        Reader SnmpMessage)) (hcommunity.bind hpart)
  rw [← List.append_assoc] at hparts
  have hwhole := hparts.whole
  have hfits : (int 1 ++ tlv 0x04 (utf8 community) ++ tlv pduTag body).length < 65536 := by
    rw [List.length_append, List.length_append]
    omega
  unfold decodeSnmp snmpMessage
  exact (reads_tlv hfits hwhole).whole

/-- A variable as it is written, and as it is read. -/
structure Binding where
  name : List UInt8
  tag : UInt8
  content : List UInt8
  value : SnmpValue
  value_eq : snmpValue tag content = some value

/-- The element of a variable. -/
def Binding.element (b : Binding) : List UInt8 := varbind b.name (tlv b.tag b.content)

/-- A message of variables is read back, if all of it is shorter than 64 KiB. -/
theorem decode_bindings (community : String) {pduTag : UInt8} (requestId : UInt32)
    (bindings : List Binding) (hpdu : pduTag = 0xA0 ∨ pduTag = 0xA2)
    (hlen : (message community pduTag requestId (bindings.flatMap Binding.element)).length <
      65536) :
    decodeSnmp (message community pduTag requestId (bindings.flatMap Binding.element)) =
      some
        { version := 1
          community := utf8 community
          pdu := pduTag
          requestId := requestId.toNat
          errorStatus := 0
          errorIndex := 0
          varbinds := bindings.map fun b => ⟨b.name, b.value⟩ } := by
  have hflat : bindings.flatMap Binding.element =
      (bindings.map fun b => (b.element, (⟨b.name, b.value⟩ : VarBind))).flatMap Prod.fst := by
    rw [List.flatMap_map]
  -- every part is shorter than the message around it
  have hsize : (bindings.flatMap Binding.element).length < 65536 := by
    have hlist := length_lt_tlv 0x30 (bindings.flatMap Binding.element)
    have hbody := length_lt_tlv pduTag (int requestId ++ int 0 ++ int 0 ++
      tlv 0x30 (bindings.flatMap Binding.element))
    have hall := length_lt_tlv 0x30 (int 1 ++ tlv 0x04 (utf8 community) ++ tlv pduTag
      (int requestId ++ int 0 ++ int 0 ++ tlv 0x30 (bindings.flatMap Binding.element)))
    rw [List.length_append] at hbody hall
    unfold message at hlen
    dsimp only at hlen
    omega
  rw [hflat] at hlen ⊢
  refine (decode_message community requestId hpdu ?_ hlen).trans ?_
  · intro v hv
    obtain ⟨b, hb, rfl⟩ := List.mem_map.mp hv
    have hshort : b.element.length ≤ (bindings.flatMap Binding.element).length := by
      obtain ⟨xs, ys, rfl⟩ := List.append_of_mem hb
      rw [List.flatMap_append, List.flatMap_cons, List.length_append, List.length_append]
      omega
    exact ⟨List.cons_ne_nil _ _, reads_varbind b.value_eq (by
      show b.element.length < 65536
      omega)⟩
  · rw [List.map_map]
    rfl

/-! ## What was asked, and what is answered

What a message should say is a list of variables, computed from the options without looking at
bytes. An OID that the encoder refuses is left out on both sides, in the request and in the answer.
The request id is written as a signed number, and read back as the number it was.
-/

/-- The variables of a request: `sysDescr.0`, `sysObjectID.0`, and the firmware OID when set. -/
def asked (firmwareOid : Option String) : List Binding :=
  [⟨sysDescrOid, 0x05, [], .null, rfl⟩, ⟨sysObjectIdOid, 0x05, [], .null, rfl⟩] ++
    (firmwareOid.bind encodeOid).toList.map fun oid => ⟨oid, 0x05, [], .null, rfl⟩

/-- The variables of a response: the description, the enterprise OID when set, and the firmware
string when it and its OID are. -/
def answered (sysDescr : String) (sysObjectId firmwareOid firmware : Option String) :
    List Binding :=
  [⟨sysDescrOid, 0x04, utf8 sysDescr, .octets (utf8 sysDescr), rfl⟩] ++
    ((sysObjectId.bind encodeOid).toList.map fun oid =>
      ⟨sysObjectIdOid, 0x06, oid, .oid oid, rfl⟩) ++
    (firmwareOid.bind encodeOid).toList.flatMap fun oid =>
      firmware.toList.map fun fw => ⟨oid, 0x04, utf8 fw, .octets (utf8 fw), rfl⟩

theorem getRequest_eq (community : String) (requestId : UInt32) (firmwareOid : Option String) :
    getRequest community requestId firmwareOid =
      message community 0xA0 requestId ((asked firmwareOid).flatMap Binding.element) := by
  unfold getRequest asked
  cases firmwareOid.bind encodeOid with
  | none => simp [Binding.element]
  | some oid => simp [Binding.element]

theorem getResponse_eq (community : String) (requestId : UInt32) (sysDescr : String)
    (sysObjectId firmwareOid firmware : Option String) :
    getResponse community requestId sysDescr sysObjectId firmwareOid firmware =
      message community 0xA2 requestId
        ((answered sysDescr sysObjectId firmwareOid firmware).flatMap Binding.element) := by
  unfold getResponse answered
  cases sysObjectId.bind encodeOid with
  | none =>
    cases firmwareOid.bind encodeOid with
    | none => simp [Binding.element]
    | some oid => cases firmware with
      | none => simp [Binding.element]
      | some fw => simp [Binding.element]
  | some object =>
    cases firmwareOid.bind encodeOid with
    | none => simp [Binding.element]
    | some oid => cases firmware with
      | none => simp [Binding.element]
      | some fw => simp [Binding.element]

/-- **The request and the response decode to what was asked**: version 1, the community, the
request id as the non-negative number it is, no error, and the variables in order. An OID that
`encode_oid` refuses counts as not set. -/
theorem decode_snmp (community : String) (requestId : UInt32) (sysDescr : String)
    (sysObjectId firmwareOid firmware : Option String) :
    ((getRequest community requestId firmwareOid).length < 65536 →
      decodeSnmp (getRequest community requestId firmwareOid) =
        some
          { version := 1
            community := utf8 community
            pdu := 0xA0
            requestId := requestId.toNat
            errorStatus := 0
            errorIndex := 0
            varbinds := [⟨sysDescrOid, .null⟩, ⟨sysObjectIdOid, .null⟩] ++
              (firmwareOid.bind encodeOid).toList.map fun oid => ⟨oid, .null⟩ }) ∧
    ((getResponse community requestId sysDescr sysObjectId firmwareOid firmware).length < 65536 →
      decodeSnmp (getResponse community requestId sysDescr sysObjectId firmwareOid firmware) =
        some
          { version := 1
            community := utf8 community
            pdu := 0xA2
            requestId := requestId.toNat
            errorStatus := 0
            errorIndex := 0
            varbinds := [⟨sysDescrOid, .octets (utf8 sysDescr)⟩] ++
              ((sysObjectId.bind encodeOid).toList.map fun oid => ⟨sysObjectIdOid, .oid oid⟩) ++
              (firmwareOid.bind encodeOid).toList.flatMap fun oid =>
                firmware.toList.map fun fw => ⟨oid, .octets (utf8 fw)⟩ }) := by
  constructor
  · intro hlen
    -- both messages are lists of variables: asked ones without a value, and answered ones
    rw [getRequest_eq] at hlen ⊢
    rw [decode_bindings community requestId _ (.inl rfl) hlen]
    simp [asked, List.map_map, Function.comp_def]
  · intro hlen
    rw [getResponse_eq] at hlen ⊢
    rw [decode_bindings community requestId _ (.inr rfl) hlen]
    simp [answered, List.map_map, List.map_flatMap, Function.comp_def]

/-- A switch that says all it has, to a request id with its highest bit set. -/
theorem decode_snmp_switch :
    decodeSnmp (getRequest "public" 0x80000001 (some "1.3.6.1.2.1.47.1.1.1.1.9.1")) =
        some
          { version := 1
            community := utf8 "public"
            pdu := 0xA0
            requestId := 2147483649
            errorStatus := 0
            errorIndex := 0
            varbinds := [⟨sysDescrOid, .null⟩, ⟨sysObjectIdOid, .null⟩] ++
              (encodeOid "1.3.6.1.2.1.47.1.1.1.1.9.1").toList.map fun oid => ⟨oid, .null⟩ } ∧
      decodeSnmp (getResponse "public" 0x80000001 "IKS-6728A" (some "1.3.6.1.4.1.8691.7.50")
          (some "1.3.6.1.2.1.47.1.1.1.1.9.1") (some "5.1")) =
        some
          { version := 1
            community := utf8 "public"
            pdu := 0xA2
            requestId := 2147483649
            errorStatus := 0
            errorIndex := 0
            varbinds := [⟨sysDescrOid, .octets (utf8 "IKS-6728A")⟩] ++
              ((encodeOid "1.3.6.1.4.1.8691.7.50").toList.map fun oid =>
                ⟨sysObjectIdOid, .oid oid⟩) ++
              (encodeOid "1.3.6.1.2.1.47.1.1.1.1.9.1").toList.flatMap fun oid =>
                [⟨oid, .octets (utf8 "5.1")⟩] } :=
  ⟨(decode_snmp "public" 0x80000001 "" none (some "1.3.6.1.2.1.47.1.1.1.1.9.1") none).1
      (by decide +kernel),
    (decode_snmp "public" 0x80000001 "IKS-6728A" (some "1.3.6.1.4.1.8691.7.50")
      (some "1.3.6.1.2.1.47.1.1.1.1.9.1") (some "5.1")).2 (by decide +kernel)⟩

end TurboLaser.Synth
