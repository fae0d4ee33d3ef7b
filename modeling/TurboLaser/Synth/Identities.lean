import TurboLaser.Lib.Words
import TurboLaser.Synth.Announcements
import TurboLaser.Synth.Reference
import TurboLaser.Synth.S7

/-!
# Identities, read

What a sensor reads of the identities that are announced: EtherNet/IP List Identity, the Modbus
device identification, the S7 module identification, and the units of LLDP and CDP. Every reader is
strict: a length has to lead exactly to the end of what it is the length of.

The readers are written from the protocols, over `Lib.Readers`, and know nothing of the builders.
Where a builder gets a length wrong by one, or leaves out a terminator, its reader refuses the
message; so that they read what was written is evidence for both. Texts are written with a length in
front, of one octet or two, or into a field of fixed width. Whether a text fits is a hypothesis
here, and where texts come from the daemon it is shown from the clamps that the daemon applies.

- `decodeListIdentity`, `decodeDeviceId`, `decodeS7Message`, `decodeLldp`, `decodeCdp`: the five
  readers;
- `decodeListIdentity_reply`, `decodeDeviceId_response`, `decodeS7Message_readSzl`,
  `decodeLldp_units`, `decodeCdp_message`: **each reads back what was written**, as long as the
  texts fit their length fields.
-/

namespace TurboLaser.Synth

open Lib Reader

/-! ## List Identity

The reader checks every length in a reply: that of the body, of the item, of the product name. What
a length covers has to end where it says and leave nothing over. A request has no body and names no
device.
-/

/-- What a List Identity reply says of a device. -/
structure ListedIdentity where
  vendorId : Nat
  deviceType : Nat
  productCode : Nat
  revisionMajor : UInt8
  revisionMinor : UInt8
  serial : Nat
  productName : List UInt8
deriving DecidableEq

/-- An encapsulation header and its body: the command, and the body. -/
def encapsulated : Reader (Nat × List UInt8) := do
  let command ← leNumber 2
  let len ← leNumber 2
  let _ ← bytes 4
  let _ ← bytes 4
  let _ ← bytes 8
  let _ ← bytes 4
  let body ← bytes len
  return (command, body)

/-- The CIP Identity object. -/
def cipIdentity : Reader ListedIdentity := do
  let _ ← leNumber 2
  let _ ← bytes 16
  let vendorId ← leNumber 2
  let deviceType ← leNumber 2
  let productCode ← leNumber 2
  let major ← anyByte
  let minor ← anyByte
  let _ ← leNumber 2
  let serial ← leNumber 4
  let len ← anyByte
  let name ← bytes len.toNat
  let _ ← anyByte
  return ⟨vendorId, deviceType, productCode, major, minor, serial, name⟩

/-- An item: its type, and its content. -/
def cpfItem : Reader (Nat × List UInt8) := do
  let kind ← leNumber 2
  let len ← leNumber 2
  let content ← bytes len
  return (kind, content)

/-- The body of a reply: one item, the identity. -/
def listedIdentity : Reader ListedIdentity := do
  let count ← leNumber 2
  Reader.guard (count = 1)
  let item ← cpfItem
  Reader.guard (item.1 = 0x000C)
  Reader.ofOption (cipIdentity.whole item.2)

/-- A request has no body, and names no one. -/
def decodeListIdentity (msg : List UInt8) : Option (Option ListedIdentity) :=
  (encapsulated.whole msg).bind fun found =>
    if found.1 ≠ 0x0063 then none
    else if found.2 = [] then some none
    else (listedIdentity.whole found.2).map some

theorem reads_bytes (xs : List UInt8) : Reads (bytes xs.length) xs xs := Reads.bytes rfl

theorem reads_replicate (n : Nat) (b : UInt8) :
    Reads (bytes n) (List.replicate n b) (List.replicate n b) :=
  Reads.bytes List.length_replicate

/-- A byte that says a length. -/
theorem reads_length {xs : List UInt8} (h : xs.length < 256) :
    Reads (bytes (UInt8.ofNat xs.length).toNat) xs xs := by
  rw [UInt8.toNat_ofNat', Nat.mod_eq_of_lt h]
  exact Reads.bytes rfl

theorem reads_encap {command : UInt16} {body : List UInt8} (hbody : body.length < 65536) :
    Reads encapsulated (EnipIdentity.encap command body) (command.toNat, body) := by
  unfold EnipIdentity.encap
  simp only [List.append_assoc]
  exact (reads_le16 command).bind ((reads_le16_ofNat hbody).bind ((reads_replicate 4 0).bind
    ((reads_replicate 4 0).bind ((reads_replicate 8 0).bind ((reads_replicate 4 0).bind
      (Reads.bytes rfl).bind_pure)))))

theorem reads_object {id : EnipIdentity} (hname : (utf8 id.productName).length < 256) :
    Reads cipIdentity id.object
      { vendorId := id.vendorId.toNat
        deviceType := id.deviceType.toNat
        productCode := id.productCode.toNat
        revisionMajor := id.revisionMajor
        revisionMinor := id.revisionMinor
        serial := id.serial.toNat
        productName := utf8 id.productName } := by
  unfold EnipIdentity.object EnipIdentity.tail
  simp only [List.append_assoc]
  exact (reads_le16 1).bind ((reads_replicate 16 0).bind ((reads_le16 id.vendorId).bind
    ((reads_le16 id.deviceType).bind ((reads_le16 id.productCode).bind
      ((Reads.anyByte id.revisionMajor).bind (y := [id.revisionMinor] ++ _)
        ((Reads.anyByte id.revisionMinor).bind ((reads_le16 0).bind ((reads_le32 id.serial).bind
          ((Reads.anyByte _).bind ((reads_length hname).bind
            (Reads.anyByte 0).bind_pure))))))))))

/-- **A reply is read as the identity it was built from.** -/
theorem decodeListIdentity_reply {id : EnipIdentity}
    (hname : (utf8 id.productName).length < 256) :
    decodeListIdentity id.listIdentityReply = some (some
      { vendorId := id.vendorId.toNat
        deviceType := id.deviceType.toNat
        productCode := id.productCode.toNat
        revisionMajor := id.revisionMajor
        revisionMinor := id.revisionMinor
        serial := id.serial.toNat
        productName := utf8 id.productName }) := by
  have hobject := EnipIdentity.length_object id
  have hitem : Reads cpfItem (toLeBytes16 EnipIdentity.itemCipIdentity ++
      (toLeBytes16 (UInt16.ofNat id.object.length) ++ id.object)) (0x000C, id.object) :=
    (reads_le16 _).bind ((reads_le16_ofNat (by omega)).bind (Reads.bytes rfl).bind_pure)
  have hbody : Reads listedIdentity (toLeBytes16 1 ++ ([] ++
      ((toLeBytes16 EnipIdentity.itemCipIdentity ++
        (toLeBytes16 (UInt16.ofNat id.object.length) ++ id.object)) ++ ([] ++ [])))) _ :=
    (reads_le16 1).bind ((Reads.guard rfl).bind (hitem.bind ((Reads.guard rfl).bind
      (Reads.ofOption (reads_object hname).whole))))
  rw [List.append_nil, List.append_nil, List.nil_append] at hbody
  -- the name has at most 255 bytes, so the lengths around it fit their words
  have hlen : (toLeBytes16 1 ++ (toLeBytes16 EnipIdentity.itemCipIdentity ++
      (toLeBytes16 (UInt16.ofNat id.object.length) ++ id.object))).length < 65536 := by
    simp only [List.length_append, toLeBytes16, List.length_cons, List.length_nil]
    omega
  have hmsg := (@reads_encap EnipIdentity.cmdListIdentity _ hlen).whole
  unfold decodeListIdentity EnipIdentity.listIdentityReply
  simp only [List.append_assoc]
  have hcount : toLeBytes16 1 ≠ [] := List.cons_ne_nil _ _
  rw [hmsg, Option.bind_some, if_neg fun h => h rfl]
  dsimp only
  rw [if_neg (List.append_ne_nil_of_left_ne_nil hcount _), hbody.whole]
  rfl

/-! ## Modbus device identification -/

/-- An identification object: its id, and its text. -/
def devIdEntry : Reader (UInt8 × List UInt8) := do
  let oid ← anyByte
  let len ← anyByte
  let text ← bytes len.toNat
  return (oid, text)

/-- The data behind a function code: a request asks for the basic objects, a response has as many
objects as it says. -/
def devIdData (pdu : List UInt8) : Option (List (UInt8 × List UInt8)) :=
  if pdu = [0x2B, 0x0E, 0x01, 0x00] then some []
  else
    Reader.whole (do
      let front ← bytes 6
      Reader.guard (front = [0x2B, 0x0E, 0x01, 0x01, 0x00, 0x00])
      let count ← anyByte
      times devIdEntry count.toNat) pdu

/-- The application header: the length covers the unit id and what follows it. -/
def mbapBody : Reader (UInt8 × List UInt8) := do
  let _ ← number 2
  let protocol ← number 2
  Reader.guard (protocol = 0)
  let len ← number 2
  let unit ← anyByte
  let pdu ← bytes (len - 1)
  return (unit, pdu)

/-- The objects of a message; a request has none. -/
def decodeDeviceId (msg : List UInt8) : Option (List (UInt8 × List UInt8)) :=
  (mbapBody.whole msg).bind fun found => devIdData found.2

theorem reads_mbap {unit : UInt8} {pdu : List UInt8} (hpdu : pdu.length + 1 < 65536) :
    Reads mbapBody (mbap unit pdu) (unit, pdu) := by
  unfold mbap
  simp only [List.append_assoc]
  exact (reads_be16 1).bind ((reads_be16 0).bind ((Reads.guard rfl).bind (x := [])
    ((reads_be16_ofNat hpdu).bind ((Reads.anyByte unit).bind (Reads.bytes rfl).bind_pure))))

theorem reads_devIdObject (oid : UInt8) {val : String} (hval : (utf8 val).length < 256) :
    Reads devIdEntry (devIdObject oid val) (oid, utf8 val) :=
  (Reads.anyByte oid).bind (x := [oid]) ((Reads.anyByte _).bind (x := [_])
    (reads_length hval).bind_pure)

/-- **A response is read as the texts it was built from.** -/
theorem decodeDeviceId_response (unit : UInt8) {id : ModbusDevId}
    (hvendor : (utf8 id.vendorName).length < 256) (hcode : (utf8 id.productCode).length < 256)
    (hrevision : (utf8 id.revision).length < 256) :
    decodeDeviceId (readDeviceIdResponse unit id) =
      some [(0, utf8 id.vendorName), (1, utf8 id.productCode), (2, utf8 id.revision)] := by
  have hobjects : Reads (times devIdEntry 3) (devIdObject 0 id.vendorName ++
      (devIdObject 1 id.productCode ++ devIdObject 2 id.revision))
      [(0, utf8 id.vendorName), (1, utf8 id.productCode), (2, utf8 id.revision)] :=
    (reads_devIdObject 0 hvendor).bind ((((reads_devIdObject 1 hcode).bind
      (Reads.times_one (reads_devIdObject 2 hrevision)).bind_pure)).bind_pure)
  have hlen : ([0x2B, 0x0E, 0x01, 0x01, 0x00, 0x00, 0x03] ++ devIdObject 0 id.vendorName ++
      devIdObject 1 id.productCode ++ devIdObject 2 id.revision).length + 1 < 65536 := by
    simp [devIdObject]
    omega
  have hdata : devIdData ([0x2B, 0x0E, 0x01, 0x01, 0x00, 0x00, 0x03] ++
      devIdObject 0 id.vendorName ++ devIdObject 1 id.productCode ++ devIdObject 2 id.revision) =
      some [(0, utf8 id.vendorName), (1, utf8 id.productCode), (2, utf8 id.revision)] := by
    rw [devIdData, if_neg]
    · refine Reads.whole ?_
      simp only [List.append_assoc]
      have hfront : Reads (bytes 6) [0x2B, 0x0E, 0x01, 0x01, 0x00, 0x00] _ := Reads.bytes rfl
      exact hfront.bind ((Reads.guard rfl).bind (x := []) ((Reads.anyByte 0x03).bind hobjects))
    · simp
  rw [decodeDeviceId, readDeviceIdResponse, (reads_mbap hlen).whole, Option.bind_some]
  exact hdata

/-! ## S7 module identification

The reader takes a message apart by its lengths, from the outside in: packet, transport unit,
message, parameters, data, list, record. Each layer is a function of the bytes behind it, so that a
layer is read back by one lemma with any bytes as its content. A length that leads elsewhere makes
the reader refuse.
-/

/-- A packet: the length covers its own header. -/
def tpktBody : Reader (List UInt8) := do
  let front ← bytes 2
  Reader.guard (front = [0x03, 0x00])
  let total ← number 2
  bytes (total - 4)

/-- A transport unit: the length of its header, the header, and what it carries. -/
def cotpUnit (cotp : List UInt8) : Option (List UInt8 × List UInt8) :=
  (do
    let len ← anyByte
    bytes len.toNat : Reader (List UInt8)) cotp

/-- A parameter of a connection: its code, its length, its value. -/
def cotpParam : Reader (UInt8 × List UInt8) := do
  let code ← anyByte
  let len ← anyByte
  let value ← bytes len.toNat
  return (code, value)

/-- The header of a connection request or confirmation: type, references, class, parameters. -/
def cotpConnects (header : List UInt8) : Bool :=
  decide (header.take 1 = [0xe0] ∨ header.take 1 = [0xd0]) &&
    (many cotpParam (header.drop 6)).isSome

/-- A message: the kind, the parameters and the data, by the two lengths in its header. An
acknowledgement has two bytes for an error more. -/
def s7Parts : Reader (UInt8 × List UInt8 × List UInt8) := do
  let magic ← anyByte
  Reader.guard (magic = 0x32)
  let kind ← anyByte
  let _ ← bytes 4
  let paramLen ← number 2
  let dataLen ← number 2
  let _ ← bytes (if kind = 0x03 then 2 else 0)
  let param ← bytes paramLen
  let data ← bytes dataLen
  return (kind, param, data)

/-- The parameters of a user data message: a head, and a length that leads to their end. -/
def userParams : Reader (List UInt8) := do
  let head ← bytes 3
  Reader.guard (head = [0x00, 0x01, 0x12])
  let len ← anyByte
  bytes len.toNat

/-- The data of a user data message: a return code, a transport, and what the length covers. -/
def userData : Reader (List UInt8) := do
  let front ← bytes 2
  Reader.guard (front = [0xff, 0x09])
  let len ← number 2
  bytes len

/-- A record of a module identification: the order number and the version. -/
structure ModuleRecord where
  orderNumber : List UInt8
  versionMajor : UInt8
  versionMinor : UInt8
deriving DecidableEq

/-- One record. -/
def moduleRecord : Reader ModuleRecord := do
  let _ ← number 2
  let orderNumber ← bytes 20
  let _ ← number 2
  let major ← anyByte
  let minor ← anyByte
  let _ ← number 2
  return ⟨orderNumber, major, minor⟩

/-- A list of records, all of one length. -/
def moduleList : Reader (List ModuleRecord) := do
  let szlId ← number 2
  Reader.guard (szlId = 0x0011)
  let _ ← number 2
  let len ← number 2
  let count ← number 2
  times (do
    let record ← bytes len
    Reader.ofOption (moduleRecord.whole record)) count

/-- The records of user data: a request only names the list. -/
def decodeUserData (param data : List UInt8) : Option (List ModuleRecord) :=
  (userParams.whole param).bind fun _ => (userData.whole data).bind fun szl =>
    if szl = [0x00, 0x11, 0x00, 0x00] then some [] else moduleList.whole szl

/-- The records in a message; the steps of the negotiation have none. -/
def decodeS7Message (msg : List UInt8) : Option (List ModuleRecord) :=
  (tpktBody.whole msg).bind fun cotp => (cotpUnit cotp).bind fun unit =>
    if unit.2 = [] then if cotpConnects unit.1 then some [] else none
    else if unit.1 ≠ [0xf0, 0x80] then none
    else (s7Parts.whole unit.2).bind fun parts =>
      if parts.1 = 0x07 then decodeUserData parts.2.1 parts.2.2 else some []

theorem reads_tpkt {cotp : List UInt8} (hcotp : cotp.length + 4 < 65536) :
    Reads tpktBody (tpkt cotp) cotp := by
  have htotal : (UInt16.ofNat (4 + cotp.length)).toNat = 4 + cotp.length :=
    toNat_ofNat16 (by omega)
  have hbytes : tpkt cotp = [0x03, 0x00] ++ ([] ++ (toBeBytes16 (UInt16.ofNat (4 + cotp.length)) ++
      cotp)) := by
    rw [tpkt, toBeBytes16, htotal]
    rfl
  have hrest : Reads (bytes (4 + cotp.length - 4)) cotp cotp := Reads.bytes (by omega)
  rw [hbytes]
  exact (reads_bytes [0x03, 0x00]).bind ((Reads.guard rfl).bind
    ((reads_be16_ofNat (by omega)).bind hrest))

/-- A list with one record. -/
theorem reads_moduleList {record : List UInt8} {found : ModuleRecord}
    (hrecord : moduleRecord.whole record = some found) (hlen : record.length < 65536) :
    Reads moduleList (toBeBytes16 0x0011 ++ (toBeBytes16 0x0000 ++
      (toBeBytes16 (UInt16.ofNat record.length) ++ (toBeBytes16 0x0001 ++ record)))) [found] := by
  have hone := (reads_bytes record).bind
    (f := fun record => Reader.ofOption (moduleRecord.whole record)) (Reads.ofOption hrecord)
  rw [List.append_nil] at hone
  exact (reads_be16 0x0011).bind ((Reads.guard rfl).bind (x := []) ((reads_be16 0).bind
    ((reads_be16_ofNat hlen).bind ((reads_be16 1).bind (Reads.times_one hone)))))

theorem reads_userData {szl : List UInt8} (hszl : szl.length < 65536) :
    Reads userData ([0xff, 0x09] ++ (toBeBytes16 (UInt16.ofNat szl.length) ++ szl)) szl :=
  (reads_bytes [0xff, 0x09]).bind ((Reads.guard rfl).bind (x := [])
    ((reads_be16_ofNat hszl).bind (Reads.bytes rfl)))

theorem reads_s7UserData {param data : List UInt8} (hparam : param.length < 65536)
    (hdata : data.length < 65536) :
    Reads s7Parts ([0x32, 0x07, 0x00, 0x00, 0x00, 0x00] ++
      (toBeBytes16 (UInt16.ofNat param.length) ++ (toBeBytes16 (UInt16.ofNat data.length) ++
        (param ++ data)))) (0x07, param, data) :=
  (Reads.anyByte 0x32).bind ((Reads.guard rfl).bind (x := []) ((Reads.anyByte 0x07).bind
    ((reads_bytes [0x00, 0x00, 0x00, 0x00]).bind ((reads_be16_ofNat hparam).bind
      ((reads_be16_ofNat hdata).bind ((reads_bytes []).bind (x := [])
        ((reads_bytes param).bind
          (reads_bytes data).bind_pure)))))))

/-- A message of user data in its packet. -/
theorem decodeS7Message_userData {param data : List UInt8} {records : List ModuleRecord}
    (hlen : param.length + data.length < 65000)
    (hrecords : decodeUserData param data = some records) :
    decodeS7Message (tpktCotp ([0x32, 0x07, 0x00, 0x00, 0x00, 0x00] ++
      (toBeBytes16 (UInt16.ofNat param.length) ++ (toBeBytes16 (UInt16.ofNat data.length) ++
        (param ++ data))))) = some records := by
  have hparts := (reads_s7UserData (show param.length < 65536 by omega)
    (show data.length < 65536 by omega)).whole
  have hne : [0x32, 0x07, 0x00, 0x00, 0x00, 0x00] ++
      (toBeBytes16 (UInt16.ofNat param.length) ++ (toBeBytes16 (UInt16.ofNat data.length) ++
        (param ++ data))) ≠ [] := List.cons_ne_nil _ _
  have hsize : ([0x32, 0x07, 0x00, 0x00, 0x00, 0x00] ++
      (toBeBytes16 (UInt16.ofNat param.length) ++ (toBeBytes16 (UInt16.ofNat data.length) ++
        (param ++ data)))).length + 7 < 65536 := by
    simp only [List.length_append, length_toBeBytes16, List.length_cons, List.length_nil]
    omega
  generalize [0x32, 0x07, 0x00, 0x00, 0x00, 0x00] ++
    (toBeBytes16 (UInt16.ofNat param.length) ++ (toBeBytes16 (UInt16.ofNat data.length) ++
      (param ++ data))) = s7 at hparts hne hsize ⊢
  -- one format inside the other: the packet, the COTP header, the message
  have hcotp : cotpUnit (cotpDt ++ s7) = some ([0xf0, 0x80], s7) :=
    ((Reads.anyByte 0x02).bind (reads_bytes [0xf0, 0x80])) s7
  have hpacket : tpktBody.whole (tpktCotp s7) = some (cotpDt ++ s7) := by
    refine (reads_tpkt ?_).whole
    rw [cotpDt, List.length_append, List.length_cons, List.length_cons, List.length_cons,
      List.length_nil]
    omega
  rw [decodeS7Message, hpacket, Option.bind_some, hcotp, Option.bind_some, if_neg hne,
    if_neg fun h => h rfl, hparts, Option.bind_some, if_pos rfl]
  exact hrecords

/-- **A response is read as the order number in its field, and the version.** -/
theorem decodeS7Message_readSzl (orderNumber : String) (major minor : UInt8) :
    decodeS7Message (readSzlResponse orderNumber major minor) =
      some [⟨overlay (List.replicate 20 0x20) (utf8 orderNumber), major, minor⟩] := by
  have hmlfb : (overlay (List.replicate 20 0x20) (utf8 orderNumber)).length = 20 := by
    rw [length_overlay, List.length_replicate]
  unfold readSzlResponse
  simp only [List.append_assoc]
  generalize overlay (List.replicate 20 0x20) (utf8 orderNumber) = mlfb at hmlfb ⊢
  have hrecord : Reads moduleRecord (toBeBytes16 0x0001 ++ (mlfb ++ (toBeBytes16 0x0000 ++
      ([major, minor] ++ toBeBytes16 0x0000)))) ⟨mlfb, major, minor⟩ :=
    (reads_be16 1).bind ((Reads.bytes hmlfb).bind ((reads_be16 0).bind ((Reads.anyByte major).bind
      ((Reads.anyByte minor).bind (reads_be16 0).bind_pure))))
  have hsize : (toBeBytes16 0x0001 ++ (mlfb ++ (toBeBytes16 0x0000 ++
      ([major, minor] ++ toBeBytes16 0x0000)))).length = 28 := by
    simp only [List.length_append, length_toBeBytes16, hmlfb, List.length_cons, List.length_nil]
  generalize toBeBytes16 0x0001 ++ (mlfb ++ (toBeBytes16 0x0000 ++
    ([major, minor] ++ toBeBytes16 0x0000))) = record at hrecord hsize ⊢
  have hlist := (reads_moduleList hrecord.whole (by omega)).whole
  have hszl : (toBeBytes16 0x0011 ++ (toBeBytes16 0x0000 ++
      (toBeBytes16 (UInt16.ofNat record.length) ++ (toBeBytes16 0x0001 ++ record)))).length = 36 := by
    simp only [List.length_append, length_toBeBytes16, hsize]
  generalize toBeBytes16 0x0011 ++ (toBeBytes16 0x0000 ++
    (toBeBytes16 (UInt16.ofNat record.length) ++ (toBeBytes16 0x0001 ++ record))) = szl
      at hlist hszl ⊢
  -- a list with a record is longer than the name of a list
  have hne : szl ≠ [0x00, 0x11, 0x00, 0x00] := by
    rintro rfl
    cases hszl
  have hparam : userParams.whole
      [0x00, 0x01, 0x12, 0x08, 0x12, 0x84, 0x01, 0x01, 0x00, 0x00, 0x00, 0x00] =
        some [0x12, 0x84, 0x01, 0x01, 0x00, 0x00, 0x00, 0x00] := by
    decide
  refine decodeS7Message_userData ?_ ?_
  · simp only [List.length_append, length_toBeBytes16, hszl, List.length_cons, List.length_nil]
    omega
  · rw [decodeUserData, hparam, Option.bind_some, (reads_userData (by omega)).whole,
      Option.bind_some, if_neg hne]
    exact hlist

/-! ## Units of a beacon -/

/-- A unit that was read: addresses by the lengths inside them, anything else as it stands. -/
inductive BeaconUnit where
  | value (kind : Nat) (content : List UInt8)
  | addresses (found : List (List UInt8))
deriving DecidableEq

/-- The units of a beacon, where those of one kind are addresses. -/
def readUnits (kind : Nat) (addresses : Reader (List (List UInt8)))
    (units : List (Nat × List UInt8)) : Option (List BeaconUnit) :=
  units.mapM fun u =>
    if u.1 = kind then (addresses.whole u.2).map .addresses else some (.value u.1 u.2)

theorem readUnits_values {kind : Nat} {addresses : Reader (List (List UInt8))}
    {units : List (Nat × List UInt8)} (hother : ∀ u ∈ units, u.1 ≠ kind) :
    readUnits kind addresses units = some (units.map fun u => .value u.1 u.2) := by
  induction units with
  | nil => rfl
  | cons u units ih =>
    have hrest := ih fun u' hu' => hother u' (.tail _ hu')
    rw [readUnits] at hrest ⊢
    rw [List.mapM_cons, if_neg (hother u List.mem_cons_self), hrest]
    rfl

/-- One unit among the others has addresses. -/
theorem readUnits_one {kind : Nat} {addresses : Reader (List (List UInt8))} {content : List UInt8}
    {found : List (List UInt8)} {front back : List (Nat × List UInt8)}
    (hfound : addresses.whole content = some found) (hfront : ∀ u ∈ front, u.1 ≠ kind)
    (hback : ∀ u ∈ back, u.1 ≠ kind) :
    readUnits kind addresses (front ++ (kind, content) :: back) =
      some (front.map (fun u => .value u.1 u.2) ++ .addresses found ::
        back.map fun u => .value u.1 u.2) := by
  have hbefore := @readUnits_values kind addresses front hfront
  have hbehind := @readUnits_values kind addresses back hback
  rw [readUnits] at hbefore hbehind ⊢
  rw [List.mapM_append, List.mapM_cons, hbefore, hbehind, if_pos rfl, hfound]
  rfl

/-! ## LLDP -/

/-- A unit: seven bits of type and nine of length, and a value of this length. -/
def lldpUnit : Reader (Nat × List UInt8) := do
  let header ← number 2
  let value ← bytes (header % 512)
  return (header / 512, value)

/-- A management address: the length covers the subtype and the address, and an object id of its
own length closes it. -/
def lldpAddress : Reader (List (List UInt8)) := do
  let len ← anyByte
  let subtype ← anyByte
  Reader.guard (subtype = 1)
  let address ← bytes (len.toNat - 1)
  let _ ← anyByte
  let _ ← number 4
  let oidLen ← anyByte
  let _ ← bytes oidLen.toNat
  return [address]

/-- The units of a beacon, up to its end. -/
def decodeLldp (units : List UInt8) : Option (List BeaconUnit) :=
  (many lldpUnit units).bind (readUnits 8 lldpAddress)

theorem reads_mgmtAddress (ip : Ipv4Addr) :
    Reads lldpAddress (mgmtAddress ip) [toBeBytes ip] := by
  unfold mgmtAddress
  simp only [List.append_assoc]
  exact (Reads.anyByte 5).bind ((Reads.anyByte 1).bind (x := [1]) ((Reads.guard rfl).bind (x := [])
    ((reads_bytes (toBeBytes ip)).bind ((Reads.anyByte 2).bind ((reads_be32 1).bind
      ((Reads.anyByte 0).bind (x := [0]) (reads_bytes []).bind_pure))))))

theorem reads_lldpTlv {t : UInt16} (ht : t.toNat < 128) {value : List UInt8}
    (hvalue : value.length < 512) : Reads lldpUnit (lldpTlv t value) (t.toNat, value) := by
  have hheader : ((t <<< 9) ||| (UInt16.ofNat value.length &&& 0x01ff)).toNat =
      t.toNat * 512 + value.length := by
    have hshift : t.toNat <<< 9 = t.toNat * 512 := Nat.shiftLeft_eq _ _
    -- nine bits hold the length, so the mask takes nothing from it
    have hmask : value.length &&& 511 = value.length := by
      rw [show 511 = 2 ^ 9 - 1 from rfl, Nat.and_two_pow_sub_one_eq_mod, Nat.mod_eq_of_lt hvalue]
    -- and the type does not reach into them
    have hadd := Nat.shiftLeft_add_eq_or_of_lt (i := 9) hvalue t.toNat
    have hnine : t.toNat * 512 % 65536 = t.toNat * 512 := Nat.mod_eq_of_lt (by omega)
    rw [UInt16.toNat_or, UInt16.toNat_shiftLeft, UInt16.toNat_and, toNat_ofNat16 (by omega)]
    show (t.toNat <<< 9) % 65536 ||| (value.length &&& 511) = _
    rw [hshift, hnine, hmask, ← hshift, ← hadd]
  have hread := reads_be16 ((t <<< 9) ||| (UInt16.ofNat value.length &&& 0x01ff))
  rw [hheader] at hread
  have hvalueRead : Reads (bytes ((t.toNat * 512 + value.length) % 512)) value value :=
    Reads.bytes (by omega)
  have htype : (t.toNat * 512 + value.length) / 512 = t.toNat := by omega
  have hboth := hread.bind (f := fun header => (do
    let value ← bytes (header % 512)
    return (header / 512, value) : Reader (Nat × List UInt8))) hvalueRead.bind_pure
  rw [htype] at hboth
  exact hboth

/-- **The units of a beacon are read one by one.** -/
theorem decodeLldp_units (switchMac : Mac) (mgmtIp : Ipv4Addr) {systemName systemDescr : String}
    (hname : (utf8 systemName).length < 512) (hdescr : (utf8 systemDescr).length < 512) :
    decodeLldp (lldpUnits switchMac mgmtIp systemName systemDescr) =
      some [.value 1 (4 :: switchMac.bytes), .value 2 [7, 0x31], .value 3 (toBeBytes16 120),
        .value 5 (utf8 systemName), .value 6 (utf8 systemDescr), .addresses [toBeBytes mgmtIp],
        .value 0 []] := by
  -- each unit beside what it is read as
  have hunits : lldpUnits switchMac mgmtIp systemName systemDescr =
      ([(lldpTlv 1 (4 :: switchMac.bytes), (1, 4 :: switchMac.bytes)),
        (lldpTlv 2 [7, 0x31], (2, [7, 0x31])), (lldpTlv 3 (toBeBytes16 120), (3, toBeBytes16 120)),
        (lldpTlv 5 (utf8 systemName), (5, utf8 systemName)),
        (lldpTlv 6 (utf8 systemDescr), (6, utf8 systemDescr)),
        (lldpTlv 8 (mgmtAddress mgmtIp), (8, mgmtAddress mgmtIp)), (lldpTlv 0 [], (0, []))] :
          List (List UInt8 × Nat × List UInt8)).flatMap Prod.fst := by
    simp [lldpUnits]
  have hne : ∀ (t : UInt16) (value : List UInt8), lldpTlv t value ≠ [] :=
    fun _ _ => List.cons_ne_nil _ _
  rw [hunits, decodeLldp, Reads.many]
  · exact @readUnits_one 8 lldpAddress _ _ [(1, _), (2, _), (3, _), (5, _), (6, _)] [(0, _)]
      (reads_mgmtAddress mgmtIp).whole (by simp) (by simp)
  · simp only [List.forall_mem_cons]
    refine ⟨⟨hne _ _, reads_lldpTlv (by decide) ?_⟩, ⟨hne _ _, reads_lldpTlv (by decide) ?_⟩,
      ⟨hne _ _, reads_lldpTlv (by decide) ?_⟩, ⟨hne _ _, reads_lldpTlv (by decide) hname⟩,
      ⟨hne _ _, reads_lldpTlv (by decide) hdescr⟩, ⟨hne _ _, reads_lldpTlv (by decide) ?_⟩,
      ⟨hne _ _, reads_lldpTlv (by decide) ?_⟩, nofun⟩
    · simp
    · decide
    · decide
    · simp [mgmtAddress]
    · decide

/-! ## CDP -/

/-- A unit: type, the length of all of it, and the value. -/
def cdpUnit : Reader (Nat × List UInt8) := do
  let t ← number 2
  let len ← number 2
  Reader.guard (4 ≤ len)
  let value ← bytes (len - 4)
  return (t, value)

/-- Addresses: how many, and for each a protocol and an address, with a length in front of both. -/
def cdpAddressList : Reader (List (List UInt8)) := do
  let count ← number 4
  times (do
    let _ ← anyByte
    let protoLen ← anyByte
    let proto ← bytes protoLen.toNat
    Reader.guard (proto = [0xCC])
    let len ← number 2
    bytes len) count

/-- The units behind version, time to live and checksum. -/
def decodeCdp (msg : List UInt8) : Option (List BeaconUnit) :=
  if msg.take 2 = [2, 180] then
    (many cdpUnit (msg.drop 4)).bind (readUnits 2 cdpAddressList)
  else none

theorem reads_cdpAddresses (ip : Ipv4Addr) :
    Reads cdpAddressList (cdpAddresses ip) [toBeBytes ip] := by
  unfold cdpAddresses
  simp only [List.append_assoc]
  exact (reads_be32 1).bind (Reads.times_one ((Reads.anyByte 1).bind (x := [1])
    ((Reads.anyByte 1).bind (x := [1]) ((reads_bytes [0xCC]).bind ((Reads.guard rfl).bind (x := [])
      ((reads_be16 4).bind (reads_bytes (toBeBytes ip))))))))

theorem reads_cdpTlv {t : UInt16} {value : List UInt8} (hvalue : value.length + 4 < 65536) :
    Reads cdpUnit (cdpTlv t value) (t.toNat, value) := by
  have hrest : Reads (bytes (4 + value.length - 4)) value value := Reads.bytes (by omega)
  unfold cdpTlv
  rw [List.append_assoc]
  exact (reads_be16 t).bind ((reads_be16_ofNat (by omega)).bind
    ((Reads.guard (Nat.le_add_right _ _)).bind (x := []) hrest.bind_pure))

/-- **The units of a message are read one by one.** -/
theorem decodeCdp_message (mgmtIp : Ipv4Addr) {deviceId softwareVersion platform : String}
    (hlen : (cdpMessage mgmtIp deviceId softwareVersion platform).length < 65536) :
    decodeCdp (cdpMessage mgmtIp deviceId softwareVersion platform) =
      some [.value 1 (utf8 deviceId), .addresses [toBeBytes mgmtIp],
        .value 5 (utf8 softwareVersion), .value 6 (utf8 platform)] := by
  have hunits : (cdpMessage mgmtIp deviceId softwareVersion platform).drop 4 =
      ([(cdpTlv 1 (utf8 deviceId), (1, utf8 deviceId)),
        (cdpTlv 2 (cdpAddresses mgmtIp), (2, cdpAddresses mgmtIp)),
        (cdpTlv 5 (utf8 softwareVersion), (5, utf8 softwareVersion)),
        (cdpTlv 6 (utf8 platform), (6, utf8 platform))] :
          List (List UInt8 × Nat × List UInt8)).flatMap Prod.fst := by
    simp only [List.flatMap_cons, List.flatMap_nil, List.append_nil, ← List.append_assoc]
    rfl
  have hne : ∀ (t : UInt16) (value : List UInt8), cdpTlv t value ≠ [] :=
    fun _ _ => List.cons_ne_nil _ _
  -- every unit is shorter than the message
  have hsize : (utf8 deviceId).length + (utf8 softwareVersion).length + (utf8 platform).length +
      20 < 65536 := by
    have hdrop := congrArg List.length hunits
    simp [cdpTlv, toBeBytes16] at hdrop
    omega
  have hfront : (cdpMessage mgmtIp deviceId softwareVersion platform).take 2 = [2, 180] := rfl
  rw [decodeCdp, if_pos hfront, hunits, Reads.many]
  · rw [Option.bind_some]
    exact @readUnits_one 2 cdpAddressList (cdpAddresses mgmtIp) [toBeBytes mgmtIp]
      [(1, utf8 deviceId)] [(5, utf8 softwareVersion), (6, utf8 platform)]
      (reads_cdpAddresses mgmtIp).whole (by simp) (by simp)
  · simp only [List.forall_mem_cons]
    refine ⟨⟨hne _ _, reads_cdpTlv (by omega)⟩, ⟨hne _ _, reads_cdpTlv ?_⟩,
      ⟨hne _ _, reads_cdpTlv (by omega)⟩, ⟨hne _ _, reads_cdpTlv (by omega)⟩, nofun⟩
    simp [cdpAddresses, toBeBytes16]

end TurboLaser.Synth
