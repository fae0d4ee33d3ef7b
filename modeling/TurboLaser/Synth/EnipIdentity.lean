import TurboLaser.Lib.Fields
import TurboLaser.Text

/-!
# EtherNet/IP List Identity (synth/enip_identity.rs)

The reply a device returns to a discovery tool: an encapsulation header and one item with the CIP
Identity object. All of its fields are little-endian, the socket address inside the object is left
zero, and the lengths of the encapsulation, of the item and of the name are written separately.

`listIdentityReply_eq` cuts the reply at the fields that identify the device, each behind the octets
in front of it. The mutator of `Proto.Mutators.Enip` writes at fixed offsets from the item; with the
reply cut there, a write is the replacement of one piece.
-/

namespace TurboLaser.Synth

open Lib

/-- `EnipIdentity`. -/
structure EnipIdentity where
  vendorId : UInt16
  deviceType : UInt16
  productCode : UInt16
  revisionMajor : UInt8
  revisionMinor : UInt8
  serial : UInt32
  productName : String
deriving DecidableEq

namespace EnipIdentity

/-- `CMD_LIST_IDENTITY`. -/
def cmdListIdentity : UInt16 := 0x0063

/-- `ITEM_CIP_IDENTITY`. -/
def itemCipIdentity : UInt16 := 0x000C

/-- `encap`: session handle, status, sender context and options are zero. -/
def encap (command : UInt16) (body : List UInt8) : List UInt8 :=
  toLeBytes16 command ++ toLeBytes16 (UInt16.ofNat body.length) ++ List.replicate 4 0 ++
    List.replicate 4 0 ++ List.replicate 8 0 ++ List.replicate 4 0 ++ body

/-- `list_identity_request`. -/
def listIdentityRequest : List UInt8 := encap cmdListIdentity []

/-- The octets of the object behind the serial number: the product name, the state. -/
def tail (id : EnipIdentity) : List UInt8 :=
  [UInt8.ofNat (utf8 id.productName).length] ++ utf8 id.productName ++ [0]

/-- The CIP Identity object: protocol version, socket address, and the identity from offset
18 on. -/
def object (id : EnipIdentity) : List UInt8 :=
  toLeBytes16 1 ++ List.replicate 16 0 ++ toLeBytes16 id.vendorId ++ toLeBytes16 id.deviceType ++
    toLeBytes16 id.productCode ++ [id.revisionMajor, id.revisionMinor] ++ toLeBytes16 0 ++
    toLeBytes32 id.serial ++ id.tail

/-- `list_identity_reply`. -/
def listIdentityReply (id : EnipIdentity) : List UInt8 :=
  encap cmdListIdentity
    (toLeBytes16 1 ++ toLeBytes16 itemCipIdentity ++ toLeBytes16 (UInt16.ofNat id.object.length) ++
      id.object)

theorem length_object (id : EnipIdentity) :
    id.object.length = 34 + (utf8 id.productName).length := by
  unfold object tail
  simp only [List.length_append, List.length_replicate, List.length_cons, List.length_nil,
    toLeBytes16, toLeBytes32]
  omega

/-- The 48 octets in front of the vendor id, given the two lengths in them. -/
def frontOf (bodyLen objLen : UInt16) : List UInt8 :=
  toLeBytes16 cmdListIdentity ++ toLeBytes16 bodyLen ++ List.replicate 20 0 ++ toLeBytes16 1 ++
    toLeBytes16 itemCipIdentity ++ toLeBytes16 objLen ++ toLeBytes16 1 ++ List.replicate 16 0

/-- The 48 octets of a reply. -/
def front (id : EnipIdentity) : List UInt8 :=
  frontOf (UInt16.ofNat (40 + (utf8 id.productName).length))
    (UInt16.ofNat (34 + (utf8 id.productName).length))

/-- A reader finds the command, one item, and the item's type. -/
theorem read_frontOf (bodyLen objLen : UInt16) (rest : List UInt8) :
    le16Field.read (frontOf bodyLen objLen ++ rest) 0 = cmdListIdentity ∧
      le16Field.read (frontOf bodyLen objLen ++ rest) 24 = 1 ∧
      le16Field.read (frontOf bodyLen objLen ++ rest) 26 = itemCipIdentity := by
  have hcommand := le16Field.read_append [] (toLeBytes16 bodyLen ++ (List.replicate 20 0 ++
    (toLeBytes16 1 ++ (toLeBytes16 itemCipIdentity ++ (toLeBytes16 objLen ++ (toLeBytes16 1 ++
      (List.replicate 16 0 ++ rest))))))) cmdListIdentity
  have hcount := le16Field.read_append
    (toLeBytes16 cmdListIdentity ++ (toLeBytes16 bodyLen ++ List.replicate 20 0))
    (toLeBytes16 itemCipIdentity ++ (toLeBytes16 objLen ++ (toLeBytes16 1 ++
      (List.replicate 16 0 ++ rest)))) 1
  have htype := le16Field.read_append
    (toLeBytes16 cmdListIdentity ++ (toLeBytes16 bodyLen ++ (List.replicate 20 0 ++ toLeBytes16 1)))
    (toLeBytes16 objLen ++ (toLeBytes16 1 ++ (List.replicate 16 0 ++ rest))) itemCipIdentity
  simp only [frontOf, List.append_assoc] at hcommand hcount htype ⊢
  exact ⟨hcommand, hcount, htype⟩

/-- The reply, cut at its four identity fields. -/
theorem listIdentityReply_eq (id : EnipIdentity) :
    id.listIdentityReply = id.front ++ (le16Field.bytes id.vendorId ++
      (le16Field.bytes id.deviceType ++ (le16Field.bytes id.productCode ++
        ([id.revisionMajor, id.revisionMinor, 0, 0] ++
          (le32Field.bytes id.serial ++ id.tail))))) := by
  have hbody : (toLeBytes16 1 ++ toLeBytes16 itemCipIdentity ++
      toLeBytes16 (UInt16.ofNat id.object.length) ++ id.object).length =
      40 + (utf8 id.productName).length := by
    rw [List.length_append, length_object]
    show 6 + _ = _
    omega
  unfold listIdentityReply encap
  rw [hbody, length_object]
  simp [object, front, frontOf, le16Field, le32Field, toLeBytes16, List.replicate]

end EnipIdentity

end TurboLaser.Synth
