import TurboLaser.Proto.Mutation
import TurboLaser.Synth.EnipIdentity

/-!
# The EtherNet/IP mutator (proto/mutators/enip.rs)

`mutate` edits List Identity replies only. It walks the items by their declared lengths. In a CIP
Identity item it puts the vendor, device type and product code of one entry of a table of vulnerable
profiles, picked by the original vendor, and maps the serial number.

The entry is not drawn at random for each frame: the original vendor is mapped to an index, so that
a device is the same device in every reply of a capture. Status and revision and the product name
stay as they are. An empty table leaves the identity alone, but for the serial number.

`mutate_listIdentityReply`: **on what the encoder writes, the mutator is the encoder with another
identity.** The offsets at which the mutator writes are counted from the item and those of the
encoder from the reply; `listIdentityReply_eq` cuts the reply at them. What happens to replies that
are not the encoder's, in which an item may declare less than an identity takes, is the subject of
`Proto.Mutators.EnipItems`.
-/

namespace TurboLaser

open Lib Synth

/-- `EnipId`: an entry of the table. -/
structure EnipId where
  vendor : UInt16
  deviceType : UInt16
  productCode : UInt16
deriving DecidableEq

namespace Enip

/-- `ENIP_PORTS`. -/
def ports : List UInt16 := [44818, 2222]

/-- `CMD_LIST_IDENTITY`. -/
def cmdListIdentity : UInt16 := 0x0063

/-- `ITEM_CIP_IDENTITY`. -/
def itemCipIdentity : UInt16 := 0x000C

/-- The payload is a List Identity message with an item count. -/
def isListIdentity (payload : List UInt8) : Bool :=
  decide (26 ≤ payload.length) && decide (le16Field.read payload 0 = cmdListIdentity)

/-- `matches`. -/
def «matches» (f : ParsedFrame) : Bool :=
  decide (f.layout.l4Kind = .tcp ∨ f.layout.l4Kind = .udp) && f.onPort ports &&
    isListIdentity f.payload

/-- `set_u16_le`. -/
def setU16Le (s : Mutation) (off : Nat) (new : UInt16) (name : String) : Mutation :=
  if s.payload.length < off + 2 then s else s.put idU16 le16Field .enip name off new

/-- `remap_u32_le`. -/
def remapU32Le (s : Mutation) (off : Nat) (domain : Domain) (name : String) : Mutation :=
  if s.payload.length < off + 4 then s else s.remap idU32 le32Field .enip domain name off

/-- The entry that a picked number falls on; an empty table has none. -/
def entry (ids : List EnipId) (pick : UInt16) : Option EnipId := ids[pick.toNat % ids.length]?

/-- Put the picked entry over an identity object at `data`. -/
def profileAt (ids : List EnipId) (s : Mutation) (data : Nat) : Mutation :=
  if ids = [] then s
  else
    let origVendor := le16Field.read s.payload (data + 18)
    let (pick, mapper) := s.mapper.mapU16 .enipVendor origVendor
    let s := { s with mapper }
    match entry ids pick with
    | none => s
    | some id =>
      let s := setU16Le s (data + 18) id.vendor "vendor_id"
      let s := setU16Le s (data + 20) id.deviceType "device_type"
      setU16Le s (data + 22) id.productCode "product_code"

/-- The edit of an identity object at `data`. -/
def identityAt (ids : List EnipId) (s : Mutation) (data : Nat) : Mutation :=
  remapU32Le (profileAt ids s data) (data + 28) .enipSerial "serial"

/-- The loop over `count` items, from offset `off` on. -/
def items (ids : List EnipId) : Nat → Nat → Mutation → Mutation
  | 0, _, s => s
  | count + 1, off, s =>
    if s.payload.length < off + 4 then s
    else
      let itemType := le16Field.read s.payload off
      let itemLen := (le16Field.read s.payload (off + 2)).toNat
      let data := off + 4
      if itemType = itemCipIdentity ∧ data + 32 ≤ s.payload.length then
        items ids count (data + itemLen) (identityAt ids s data)
      else items ids count (data + itemLen) s

/-- `mutate`, over any table of identities. -/
def mutate (ids : List EnipId) (payload : List UInt8) (mapper : SeededMapper) : Mutation :=
  let s : Mutation := ⟨payload, mapper, []⟩
  if isListIdentity payload then items ids (le16Field.read payload 24).toNat 26 s else s

/-- A picked number always falls on an entry of a table that is not empty. -/
theorem entry_isSome {ids : List EnipId} (h : ids ≠ []) (pick : UInt16) :
    ∃ id, entry ids pick = some id := by
  have hlt : pick.toNat % ids.length < ids.length := Nat.mod_lt _ (List.length_pos_iff.mpr h)
  exact ⟨ids[pick.toNat % ids.length], List.getElem?_eq_getElem hlt⟩

/-- The three writes of a profile, for an entry that the vendor picks. -/
def putProfile (s : Mutation) (data : Nat) (id : EnipId) : Mutation :=
  setU16Le (setU16Le (setU16Le s (data + 18) id.vendor "vendor_id") (data + 20) id.deviceType
    "device_type") (data + 22) id.productCode "product_code"

/-- The state behind the mapper's answer for the vendor of an object at `data`. -/
def vendorMapped (s : Mutation) (data : Nat) : Mutation :=
  { s with mapper := (s.mapper.mapU16 .enipVendor (le16Field.read s.payload (data + 18))).2 }

theorem profileAt_eq {ids : List EnipId} (h : ids ≠ []) (s : Mutation) (data : Nat) :
    ∃ id, entry ids (s.mapper.mapU16 .enipVendor (le16Field.read s.payload (data + 18))).1 =
        some id ∧
      profileAt ids s data = putProfile (vendorMapped s data) data id := by
  obtain ⟨id, hid⟩ :=
    entry_isSome h (s.mapper.mapU16 .enipVendor (le16Field.read s.payload (data + 18))).1
  refine ⟨id, hid, ?_⟩
  unfold profileAt
  dsimp only
  rw [if_neg h, hid]
  rfl

/-! ## Replies of the encoder

The reply of the encoder has its profile and its serial number at fixed places behind the header,
and the mutator finds them by walking the items. So on such a reply the walk has one turn, whatever
comes before the item. Which entry of the table replaces a profile is drawn by the mapper for its
vendor, so equal vendors get equal entries.
-/

/-- The profile a device advertises. -/
def profile (id : EnipIdentity) : EnipId := ⟨id.vendorId, id.deviceType, id.productCode⟩

/-- The entry picked by the vendor of a profile, or else the profile itself. -/
def profileOf (ids : List EnipId) (pick : UInt16 → UInt16) (old : EnipId) : EnipId :=
  (entry ids (pick old.vendor)).getD old

/-- The identity with another profile and another serial number. -/
def reprofile (ids : List EnipId) (pick : UInt16 → UInt16) (serial : UInt32 → UInt32)
    (id : EnipIdentity) : EnipIdentity :=
  let e := profileOf ids pick (profile id)
  { id with
    vendorId := e.vendor
    deviceType := e.deviceType
    productCode := e.productCode
    serial := serial id.serial }

/-- The picks that `f` gives. -/
def pickOf (f : Domain × UInt64 → UInt64) : UInt16 → UInt16 := idU16.through f .enipVendor

/-- The serial numbers that `f` gives. -/
def serialOf (f : Domain × UInt64 → UInt64) : UInt32 → UInt32 := idU32.through f .enipSerial

theorem setU16Le_append (s : Mutation) (off : Nat) {pre rest : List UInt8} {x : UInt16}
    (new : UInt16) (name : String) (hpayload : s.payload = pre ++ (le16Field.bytes x ++ rest))
    (hoff : off = pre.length) :
    (setU16Le s off new name).payload = pre ++ (le16Field.bytes new ++ rest) ∧
      (setU16Le s off new name).mapper = s.mapper := by
  have hfits : ¬ s.payload.length < off + 2 := by
    rw [hpayload, hoff, List.length_append, List.length_append, le16Field.length_bytes]
    show ¬ _ < _ + le16Field.width
    omega
  unfold setU16Le
  rw [if_neg hfits]
  exact ⟨(put_append idU16 .enip name new hpayload hoff).1, put_mapper ..⟩

/-- A profile as three fields of a payload. -/
def profileBytes (e : EnipId) (rest : List UInt8) : List UInt8 :=
  le16Field.bytes e.vendor ++
    (le16Field.bytes e.deviceType ++ (le16Field.bytes e.productCode ++ rest))

/-- **The profile behind any beginning is replaced in place.** -/
theorem profileAt_append (ids : List EnipId) (s : Mutation) (data : Nat) {pre rest : List UInt8}
    {old : EnipId} (hpayload : s.payload = pre ++ profileBytes old rest)
    (hdata : data + 18 = pre.length) :
    ∃ new, (profileAt ids s data).payload = pre ++ profileBytes new rest ∧
      s.mapper.Extends (profileAt ids s data).mapper ∧
      (ids ≠ [] → ((profileAt ids s data).mapper.known
        (.enipVendor, old.vendor.toUInt64)).isSome = true) ∧
      ∀ f, (profileAt ids s data).mapper.Agrees f → new = profileOf ids (pickOf f) old := by
  by_cases hids : ids = []
  · subst hids
    exact ⟨old, hpayload, .refl _ _, fun h => absurd rfl h, fun f _ => rfl⟩
  · have hread : le16Field.read s.payload (data + 18) = old.vendor := by
      rw [hpayload, hdata, profileBytes, le16Field.read_append]
    obtain ⟨id, hid, hprofile⟩ := profileAt_eq hids s data
    rw [hread] at hid
    let s₀ := vendorMapped s data
    let s₁ := setU16Le s₀ (data + 18) id.vendor "vendor_id"
    let s₂ := setU16Le s₁ (data + 20) id.deviceType "device_type"
    -- one field after the other
    obtain ⟨hpayload₁, hmapper₁⟩ := setU16Le_append s₀ _ id.vendor "vendor_id" hpayload hdata
    rw [← List.append_assoc] at hpayload₁
    obtain ⟨hpayload₂, hmapper₂⟩ := setU16Le_append s₁ (data + 20) id.deviceType
      "device_type" hpayload₁ (by rw [List.length_append, le16Field.length_bytes, ← hdata]; rfl)
    rw [← List.append_assoc] at hpayload₂
    obtain ⟨hpayload₃, hmapper₃⟩ := setU16Le_append s₂ (data + 22) id.productCode
      "product_code" hpayload₂
      (by rw [List.length_append, List.length_append, le16Field.length_bytes,
        le16Field.length_bytes, ← hdata]; rfl)
    have hmapper : (profileAt ids s data).mapper = (s.mapper.mapU16 .enipVendor old.vendor).2 := by
      rw [hprofile, ← hread]
      exact (hmapper₃.trans hmapper₂).trans hmapper₁
    refine ⟨id, ?_, ?_, fun _ => ?_, fun f hf => ?_⟩
    · rw [hprofile, profileBytes, ← List.append_assoc, ← List.append_assoc]
      exact hpayload₃
    · rw [hmapper]
      exact mapWord_extends idU16 s.mapper .enipVendor old.vendor
    · rw [hmapper]
      exact mapWord_known idU16 s.mapper .enipVendor old.vendor
    · rw [hmapper] at hf
      have hpick : (s.mapper.mapU16 .enipVendor old.vendor).1 = pickOf f old.vendor := mapWord_eq hf
      rw [hpick] at hid
      rw [profileOf, hid, Option.getD_some]

/-- **Synthesis and mutation agree.** On a reply of the encoder `mutate` gives the reply of
the encoder for the same revision and name, with the profile of the table's entry that the
vendor picks and with the serial number mapped, through functions that every later state of
the mapper goes by. -/
theorem mutate_listIdentityReply (ids : List EnipId) (mapper : SeededMapper) (id : EnipIdentity)
    (hname : (utf8 id.productName).length ≤ 255) :
    ∃ (pick : UInt16 → UInt16) (serial : UInt32 → UInt32),
      (mutate ids id.listIdentityReply mapper).payload =
        (reprofile ids pick serial id).listIdentityReply ∧
      SeededMapper.Consistent idU32 .enipSerial mapper
        (mutate ids id.listIdentityReply mapper).mapper [id.serial] serial ∧
      (ids ≠ [] → SeededMapper.Consistent idU16 .enipVendor mapper
        (mutate ids id.listIdentityReply mapper).mapper [id.vendorId] pick) := by
  have hcut := id.listIdentityReply_eq
  have hlen : id.listIdentityReply.length = 64 + (utf8 id.productName).length := by
    rw [hcut, EnipIdentity.tail]
    simp only [List.length_append, le16Field.length_bytes, le32Field.length_bytes,
      List.length_cons, List.length_nil]
    show 48 + (2 + (2 + (2 + (4 + (4 + _))))) = _
    omega
  obtain ⟨hcommand, hcount, htype⟩ : le16Field.read id.listIdentityReply 0 = cmdListIdentity ∧
      le16Field.read id.listIdentityReply 24 = 1 ∧
      le16Field.read id.listIdentityReply 26 = itemCipIdentity := by
    rw [hcut]
    exact EnipIdentity.read_frontOf _ _ _
  -- one item, of the type that is edited
  have hmutate : mutate ids id.listIdentityReply mapper =
      identityAt ids ⟨id.listIdentityReply, mapper, []⟩ 30 := by
    have hreply : isListIdentity id.listIdentityReply = true := by
      unfold isListIdentity
      rw [hcommand, hlen, decide_eq_true (by omega)]
      rfl
    unfold mutate
    rw [if_pos hreply, hcount, show (1 : UInt16).toNat = 0 + 1 from rfl, items,
      if_neg (by show ¬ id.listIdentityReply.length < 30; omega)]
    dsimp only
    rw [htype, if_pos ⟨rfl, by omega⟩, items]
  obtain ⟨e, hpayload₁, hgrown₁, hvendor, hprofile⟩ :=
    profileAt_append ids ⟨id.listIdentityReply, mapper, []⟩ 30
      (show id.listIdentityReply = _ ++ profileBytes (profile id) _ from hcut) rfl
  -- the serial number, behind the profile and four octets
  have hsplit : (profileAt ids ⟨id.listIdentityReply, mapper, []⟩ 30).payload =
      (id.front ++ profileBytes e [id.revisionMajor, id.revisionMinor, 0, 0]) ++
        (le32Field.bytes id.serial ++ id.tail) := by
    rw [hpayload₁, profileBytes, profileBytes]
    simp only [List.append_assoc]
  obtain ⟨serial, hpayload₂, hknown, hserial⟩ :=
    remap_append idU32 .enip .enipSerial "serial" hsplit
      (show 58 = List.length _ from rfl)
  have hfits : ¬ (profileAt ids ⟨id.listIdentityReply, mapper, []⟩ 30).payload.length < 58 + 4 := by
    rw [hsplit, List.length_append, List.length_append, List.length_append]
    show ¬ 58 + (4 + _) < _
    omega
  have hedit : identityAt ids ⟨id.listIdentityReply, mapper, []⟩ 30 =
      (profileAt ids ⟨id.listIdentityReply, mapper, []⟩ 30).remap idU32 le32Field .enip .enipSerial
        "serial" 58 := if_neg hfits
  have hgrown₂ := remap_extends idU32 le32Field .enip .enipSerial "serial" 58
    (profileAt ids ⟨id.listIdentityReply, mapper, []⟩ 30)
  rw [hmutate, hedit]
  obtain ⟨f, hf⟩ := exists_agrees SeededMapper.known (Mutation.mapper (Mutation.remap idU32
    le32Field .enip .enipSerial "serial" 58 (profileAt ids ⟨id.listIdentityReply, mapper, []⟩ 30)))
  obtain rfl := hprofile f (hf.mono hgrown₂)
  obtain ⟨rfl, -⟩ := hserial f hf
  refine ⟨pickOf f, serialOf f, ?_, ?_, fun hids => ?_⟩
  · rw [hpayload₂, EnipIdentity.listIdentityReply_eq, profileBytes]
    simp only [List.append_assoc]
    rfl
  · refine consistent_of_known (hgrown₁.trans hgrown₂) hf fun x hx => ?_
    exact List.mem_singleton.mp hx ▸ hknown
  · refine consistent_of_known (hgrown₁.trans hgrown₂) hf fun x hx => ?_
    obtain rfl := List.mem_singleton.mp hx
    obtain ⟨v, hv⟩ := Option.isSome_iff_exists.mp (hvendor hids)
    exact Option.isSome_iff_exists.mpr ⟨v, hgrown₂ _ v hv⟩

/-- A small controller. -/
def controller : EnipIdentity := ⟨1, 14, 65, 20, 11, 0x12345678, "1756-L61"⟩

/-- A table of two profiles. -/
def twoProfiles : List EnipId := [⟨1, 14, 166⟩, ⟨1, 12, 200⟩]

theorem mutate_listIdentityReply_controller :
    (utf8 controller.productName).length ≤ 255 ∧ ∃ pick serial,
      (mutate twoProfiles controller.listIdentityReply (.fromSeed ⟨fun n => n, 0⟩)).payload =
        (reprofile twoProfiles pick serial controller).listIdentityReply :=
  ⟨by decide +kernel, (mutate_listIdentityReply twoProfiles (.fromSeed ⟨fun n => n, 0⟩) controller
    (by decide +kernel)).imp fun _ h => h.imp fun _ h => h.1⟩

end Enip

end TurboLaser
