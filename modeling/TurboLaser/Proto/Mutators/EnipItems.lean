import TurboLaser.Proto.Mutators.Enip
import TurboLaser.Synth.Eth

/-!
# What the EtherNet/IP mutator writes on (proto/mutators/enip.rs)

`itemsOf` delimits the items of a payload by their declared lengths. The mutator writes at fixed
offsets of an identity item and checks the end of the payload, not the item's own length, so an item
that declares less than its object is edited past its end.

Two things are asked of it: that what changes is identity data, and that the structure of items is
the same afterwards, so that a reader of the result finds the items it would have found before. An
edit past the end of an item falls into the header of a later item, which can move all the items
behind it, or into data that is no identity. The condition says where the ten octets of each edit
lie. It is necessary as well: for every octet that the mutator may write there is a table and a
mapper that make it write something else than was there (`octetMapper`, a mapper that only ever
answers one value), and the first item whose octets stray is reached with everything before it as it
was.

- `WritesInside`: of every identity item that is edited, the ten octets written lie in the declared
  data of identity items;
- `staysInside_iff`: **on such payloads, and on no others, every table of identities and every
  mapper leaves the item structure alone and changes identity data only**;
- `writesInside_of_long`: identity items that declare 32 octets or more are such;
- `short_item_overwritten`: an empty identity item, and the octets behind it changed.
-/

namespace TurboLaser.Enip

open Lib

/-! ## Items by declared lengths -/

/-- An item: where its header is, its type and its declared length. -/
structure EnipItem where
  off : Nat
  itemType : UInt16
  len : Nat
deriving DecidableEq

/-- The declared data begins behind the header. -/
def EnipItem.data (it : EnipItem) : Nat := it.off + 4

/-- At most `count` items from offset `off` on. -/
def itemsFrom (payload : List UInt8) : Nat → Nat → List EnipItem
  | 0, _ => []
  | count + 1, off =>
    if payload.length < off + 4 then []
    else
      let len := (le16Field.read payload (off + 2)).toNat
      ⟨off, le16Field.read payload off, len⟩ :: itemsFrom payload count (off + 4 + len)

/-- The items of a payload. -/
def itemsOf (payload : List UInt8) : List EnipItem :=
  itemsFrom payload (le16Field.read payload 24).toNat 26

/-- The item has the type that is edited, and 32 octets behind its header. -/
def EnipItem.IsEdited (payload : List UInt8) (it : EnipItem) : Prop :=
  it.itemType = itemCipIdentity ∧ it.data + 32 ≤ payload.length

instance (payload : List UInt8) (it : EnipItem) : Decidable (it.IsEdited payload) :=
  inferInstanceAs (Decidable (_ ∧ _))

/-- Octet `i` lies in the declared data of an identity item. -/
def InIdentity (payload : List UInt8) (i : Nat) : Prop :=
  ∃ it ∈ itemsOf payload, it.itemType = itemCipIdentity ∧ it.data ≤ i ∧ i < it.data + it.len

/-- Octet `i` lies in the header of an item. -/
def InHeader (payload : List UInt8) (i : Nat) : Prop :=
  ∃ it ∈ itemsOf payload, it.off ≤ i ∧ i < it.data

/-- The octets written into an identity object at `data`: the profile and the serial number. -/
def Written (data i : Nat) : Prop :=
  (data + 18 ≤ i ∧ i < data + 24) ∨ (data + 28 ≤ i ∧ i < data + 32)

/-- From `payload` to `payload'` length and items are the same, and what changes is the data of
identity items. -/
def StaysInside (payload payload' : List UInt8) : Prop :=
  payload'.length = payload.length ∧ itemsOf payload' = itemsOf payload ∧
    ∀ i, byte payload' i ≠ byte payload i →
      26 ≤ i ∧ ¬ InHeader payload i ∧ InIdentity payload i

/-- Every octet that an edit writes lies in the declared data of some identity item. -/
def WritesInside (payload : List UInt8) : Prop :=
  ∀ it ∈ itemsOf payload, it.IsEdited payload → ∀ i, Written it.data i → InIdentity payload i

/-- The items that are edited declare their whole object: the usual case. -/
theorem writesInside_of_long {payload : List UInt8}
    (h : ∀ it ∈ itemsOf payload, it.IsEdited payload → 32 ≤ it.len) : WritesInside payload := by
  intro it hit hedited i hi
  have hlong := h it hit hedited
  exact ⟨it, hit, hedited.1, by unfold Written at hi; omega, by unfold Written at hi; omega⟩

theorem itemsFrom_of_fits {payload : List UInt8} {off : Nat} (count : Nat)
    (h : off + 4 ≤ payload.length) :
    itemsFrom payload (count + 1) off =
      ⟨off, le16Field.read payload off, (le16Field.read payload (off + 2)).toNat⟩ ::
        itemsFrom payload count (off + 4 + (le16Field.read payload (off + 2)).toNat) := by
  rw [itemsFrom, if_neg (Nat.not_lt.mpr h)]

theorem itemsFrom_bounds {payload : List UInt8} {count off : Nat} {it : EnipItem}
    (h : it ∈ itemsFrom payload count off) : off ≤ it.off ∧ it.data ≤ payload.length := by
  induction count generalizing off with
  | zero => cases h
  | succ count ih =>
    by_cases hfits : off + 4 ≤ payload.length
    · rw [itemsFrom_of_fits count hfits] at h
      rcases List.mem_cons.mp h with rfl | hrest
      · exact ⟨Nat.le_refl off, hfits⟩
      · have := ih hrest
        omega
    · rw [itemsFrom, if_pos (by omega)] at h
      cases h

/-- An item begins where the data of the one in front of it ends, or later. -/
theorem itemsFrom_pairwise (payload : List UInt8) (count off : Nat) :
    (itemsFrom payload count off).Pairwise fun a b => a.data + a.len ≤ b.off := by
  induction count generalizing off with
  | zero => exact .nil
  | succ count ih =>
    by_cases hfits : off + 4 ≤ payload.length
    · rw [itemsFrom_of_fits count hfits]
      exact .cons (fun b hb => (itemsFrom_bounds hb).1) (ih _)
    · rw [itemsFrom, if_pos (by omega)]
      exact .nil

/-- **Headers and data are apart.** -/
theorem not_inHeader_of_inIdentity {payload : List UInt8} {i : Nat} (h : InIdentity payload i) :
    ¬ InHeader payload i := by
  rintro ⟨b, hb, hge, hlt⟩
  obtain ⟨a, ha, -, hge', hlt'⟩ := h
  have hpair := itemsFrom_pairwise payload (le16Field.read payload 24).toNat 26
  -- an item and itself, an item and a later one, an item and an earlier one
  have hapart := List.Pairwise.forall_of_forall_of_flip (l := itemsOf payload)
    (R := fun x y : EnipItem => ¬ (x.data ≤ i ∧ i < x.data + x.len ∧ y.off ≤ i ∧ i < y.data))
    (fun x _ => by omega) (hpair.imp fun h => by unfold EnipItem.data at *; omega)
    (hpair.imp fun h => by unfold flip EnipItem.data at *; omega)
  exact hapart ha hb ⟨hge', hlt', hge, hlt⟩

theorem le_of_inIdentity {payload : List UInt8} {i : Nat} (h : InIdentity payload i) : 30 ≤ i := by
  obtain ⟨it, hit, -, hge, -⟩ := h
  have := (itemsFrom_bounds hit).1
  unfold EnipItem.data at hge
  omega

/-! ## Payloads that differ in identity data only -/

/-- The payloads have one length and differ in identity data only. -/
structure OnlyIdentity (payload payload' : List UInt8) : Prop where
  length : payload'.length = payload.length
  changed : ∀ i, byte payload' i ≠ byte payload i → InIdentity payload i

/-- A header reads the same. -/
theorem OnlyIdentity.read_eq {payload payload' : List UInt8} (h : OnlyIdentity payload payload')
    {off : Nat} (hoff : off + 2 ≤ payload.length)
    (hout : ∀ i, off ≤ i → i < off + 2 → ¬ InIdentity payload i) :
    le16Field.read payload' off = le16Field.read payload off := by
  refine le16Field.read_congr (h.length ▸ hoff) hoff fun i hge hlt => ?_
  by_contra hne
  exact hout i hge hlt (h.changed i hne)

/-- The two words of an item's header read the same. -/
theorem OnlyIdentity.header_eq {payload payload' : List UInt8} (h : OnlyIdentity payload payload')
    {it : EnipItem} (hit : it ∈ itemsOf payload) :
    le16Field.read payload' it.off = le16Field.read payload it.off ∧
      le16Field.read payload' (it.off + 2) = le16Field.read payload (it.off + 2) := by
  have hbound := (itemsFrom_bounds hit).2
  unfold EnipItem.data at hbound
  have hheader : ∀ i, it.off ≤ i → i < it.off + 4 → ¬ InIdentity payload i :=
    fun i hge hlt hin => not_inHeader_of_inIdentity hin ⟨it, hit, hge, hlt⟩
  exact ⟨h.read_eq (by omega) fun i hge hlt => hheader i hge (by omega),
    h.read_eq (by omega) fun i hge hlt => hheader i (by omega) (by omega)⟩

theorem OnlyIdentity.itemsFrom_eq {payload payload' : List UInt8}
    (h : OnlyIdentity payload payload') {count off : Nat}
    (hsub : ∀ it ∈ itemsFrom payload count off, it ∈ itemsOf payload) :
    itemsFrom payload' count off = itemsFrom payload count off := by
  induction count generalizing off with
  | zero => rfl
  | succ count ih =>
    by_cases hfits : off + 4 ≤ payload.length
    · have hitems := itemsFrom_of_fits count hfits
      obtain ⟨htype, hlen⟩ := h.header_eq (hsub _ (hitems ▸ List.mem_cons_self))
      rw [hitems, itemsFrom_of_fits count (h.length ▸ hfits), htype, hlen,
        ih fun it hit => hsub it (hitems ▸ List.mem_cons_of_mem _ hit)]
    · rw [itemsFrom, itemsFrom, if_pos (by rw [h.length]; omega), if_pos (by omega)]

theorem OnlyIdentity.staysInside {payload payload' : List UInt8}
    (h : OnlyIdentity payload payload') (hcount : 26 ≤ payload.length) :
    StaysInside payload payload' := by
  have hread : le16Field.read payload' 24 = le16Field.read payload 24 :=
    h.read_eq hcount fun i _ hlt hin => by
      have := le_of_inIdentity hin
      omega
  refine ⟨h.length, ?_, fun i hi => ?_⟩
  · unfold itemsOf
    rw [hread]
    exact h.itemsFrom_eq fun _ hit => hit
  · have hin := h.changed i hi
    exact ⟨Nat.le_trans (by decide) (le_of_inIdentity hin), not_inHeader_of_inIdentity hin, hin⟩

/-! ## One item

An edit writes ten octets at fixed places behind the start of an item's data, whatever length the
item declares. While all that has changed is identity data, the items are where they were, since no
count and no length lies there. An edit outside identity data may move all that follows.
-/

/-- What an edit may do to a payload: the length stays, octets of `P` may change. -/
def ChangesOnly (P : Nat → Prop) (payload payload' : List UInt8) : Prop :=
  payload'.length = payload.length ∧ ∀ i, byte payload' i ≠ byte payload i → P i

theorem ChangesOnly.refl (P : Nat → Prop) (payload : List UInt8) : ChangesOnly P payload payload :=
  ⟨rfl, fun _ h => absurd rfl h⟩

theorem ChangesOnly.trans {P : Nat → Prop} {p p' p'' : List UInt8} (h : ChangesOnly P p p')
    (h' : ChangesOnly P p' p'') : ChangesOnly P p p'' := by
  refine ⟨h'.1.trans h.1, fun i hi => ?_⟩
  by_cases hsame : byte p'' i = byte p' i
  · exact h.2 i (hsame ▸ hi)
  · exact h'.2 i hsame

theorem changesOnly_of_agreeOn {P : Nat → Prop} {p p' : List UInt8} {off width : Nat}
    (h : AgreeOn (fun i => i < off ∨ off + width ≤ i) p' p)
    (hP : ∀ i, off ≤ i → i < off + width → P i) : ChangesOnly P p p' := by
  refine ⟨h.1, fun i hi => ?_⟩
  by_contra hnot
  refine hi (h.2 i ?_)
  by_contra hin
  exact hnot (hP i (by omega) (by omega))

theorem setU16Le_changes {P : Nat → Prop} (s : Mutation) (off : Nat) (new : UInt16) (name : String)
    (hP : ∀ i, off ≤ i → i < off + 2 → P i) :
    ChangesOnly P s.payload (setU16Le s off new name).payload := by
  unfold setU16Le
  split
  · exact .refl _ _
  · exact changesOnly_of_agreeOn (put_agreeOn idU16 le16Field .enip name off s new) hP

theorem remapU32Le_changes {P : Nat → Prop} (s : Mutation) (off : Nat) (domain : Domain)
    (name : String) (hP : ∀ i, off ≤ i → i < off + 4 → P i) :
    ChangesOnly P s.payload (remapU32Le s off domain name).payload := by
  unfold remapU32Le
  split
  · exact .refl _ _
  · exact changesOnly_of_agreeOn (remap_agreeOn idU32 le32Field .enip domain name off s) hP

theorem putProfile_changes (s : Mutation) (data : Nat) (id : EnipId) :
    ChangesOnly (Written data) s.payload (putProfile s data id).payload := by
  have hvendor := setU16Le_changes (P := Written data) s (data + 18) id.vendor "vendor_id"
    fun i _ _ => .inl (by omega)
  have htype := setU16Le_changes (P := Written data) (setU16Le s (data + 18) id.vendor "vendor_id")
    (data + 20) id.deviceType "device_type" fun i _ _ => .inl (by omega)
  exact (hvendor.trans htype).trans (setU16Le_changes _ _ _ _ fun i _ _ => .inl (by omega))

/-- An edit changes the ten octets of the object's identity, at most. -/
theorem identityAt_changes (ids : List EnipId) (s : Mutation) (data : Nat) :
    ChangesOnly (Written data) s.payload (identityAt ids s data).payload := by
  have hprofile : ChangesOnly (Written data) s.payload (profileAt ids s data).payload := by
    by_cases hids : ids = []
    · subst hids
      exact .refl _ _
    · obtain ⟨id, -, hprofile⟩ := profileAt_eq hids s data
      rw [hprofile]
      exact putProfile_changes (vendorMapped s data) data id
  exact hprofile.trans (remapU32Le_changes _ _ _ _ fun i _ _ => .inr (by omega))

/-- The turn of the loop for an item of `payload`. -/
def itemEdited (ids : List EnipId) (payload : List UInt8) (s : Mutation) (it : EnipItem) :
    Mutation :=
  if it.IsEdited payload then identityAt ids s it.data else s

/-- While only identity data has changed, the loop takes the turn of the original item. -/
theorem items_cons (ids : List EnipId) {payload : List UInt8} {s : Mutation} {it : EnipItem}
    {rest : List EnipItem} {count off : Nat} (h : OnlyIdentity payload s.payload)
    (hitems : itemsFrom payload (count + 1) off = it :: rest) (hit : it ∈ itemsOf payload) :
    itemsFrom payload count (it.data + it.len) = rest ∧
      items ids (count + 1) off s =
        items ids count (it.data + it.len) (itemEdited ids payload s it) := by
  by_cases hfits : off + 4 ≤ payload.length
  · rw [itemsFrom_of_fits count hfits] at hitems
    obtain ⟨rfl, rfl⟩ := List.cons.inj hitems
    obtain ⟨htype, hlen⟩ := h.header_eq hit
    refine ⟨rfl, ?_⟩
    rw [items, if_neg (by rw [h.length]; omega)]
    dsimp only
    rw [htype, hlen, h.length]
    by_cases hedited : EnipItem.IsEdited payload
        ⟨off, le16Field.read payload off, (le16Field.read payload (off + 2)).toNat⟩
    · rw [itemEdited, if_pos hedited]
      exact if_pos hedited
    · rw [itemEdited, if_neg hedited]
      exact if_neg hedited
  · rw [itemsFrom, if_pos (by omega)] at hitems
    cases hitems

/-- Where the original has no further item, the loop has none. -/
theorem items_nil {ids : List EnipId} {payload : List UInt8} {s : Mutation} {count off : Nat}
    (hlen : s.payload.length = payload.length) (hitems : itemsFrom payload count off = []) :
    items ids count off s = s := by
  cases count with
  | zero => rfl
  | succ count =>
    by_cases hfits : off + 4 ≤ payload.length
    · rw [itemsFrom_of_fits count hfits] at hitems
      cases hitems
    · rw [items, if_pos (by rw [hlen]; omega)]

/-- An item that writes inside identity data keeps the invariant. -/
theorem OnlyIdentity.edited {payload : List UInt8} {s : Mutation}
    (h : OnlyIdentity payload s.payload) (ids : List EnipId) {it : EnipItem}
    (hinside : it.IsEdited payload → ∀ i, Written it.data i → InIdentity payload i) :
    OnlyIdentity payload (itemEdited ids payload s it).payload := by
  unfold itemEdited
  split
  · next hedited =>
    obtain ⟨hlen, hchanged⟩ := identityAt_changes ids s it.data
    refine ⟨hlen.trans h.length, fun i hi => ?_⟩
    by_cases hold : byte s.payload i = byte payload i
    · exact hinside hedited i (hchanged i (hold ▸ hi))
    · exact h.changed i hold
  · exact h

/-- **The loop changes identity data only**, when every edit writes inside it. -/
theorem OnlyIdentity.items {payload : List UInt8} (hinside : WritesInside payload)
    (ids : List EnipId) {count off : Nat} {s : Mutation} (h : OnlyIdentity payload s.payload)
    (hsub : ∀ it ∈ itemsFrom payload count off, it ∈ itemsOf payload) :
    OnlyIdentity payload (Enip.items ids count off s).payload := by
  induction count generalizing off s with
  | zero => exact h
  | succ count ih =>
    cases hitems : itemsFrom payload (count + 1) off with
    | nil => rwa [items_nil h.length hitems]
    | cons it rest =>
      have hit : it ∈ itemsOf payload := hsub it (hitems ▸ List.mem_cons_self)
      obtain ⟨hrest, hturn⟩ := items_cons ids h hitems hit
      rw [hturn]
      exact ih (h.edited ids (hinside it hit)) fun b hb =>
        hsub b (hitems ▸ List.mem_cons_of_mem _ (hrest ▸ hb))

/-! ## Edits that write one octet everywhere

To show that an edit outside identity data is seen, its octets have to differ from what was there,
and a table that happens to write the same octet would hide it. So tables and mappers are used that
write one octet everywhere. Two such octets cannot both be the one that stood there.
-/

/-- The serial number of four octets `c`. -/
def serialOfOctet (c : UInt8) : UInt32 := le32Field.decode [c, c, c, c]

/-- A mapper that maps every serial number to four octets `c`. -/
def octetMapper (c : UInt8) : SeededMapper := .fromSeed ⟨fun _ => (serialOfOctet c).toNat, 0⟩

/-- A table of one profile, all of whose octets are `c`. -/
def octetTable (c : UInt8) : List EnipId :=
  [⟨le16Field.decode [c, c], le16Field.decode [c, c], le16Field.decode [c, c]⟩]

theorem octetMapper_stuck (c : UInt8) : (octetMapper c).Stuck .enipSerial (serialOfOctet c) :=
  ⟨fun _ => rfl, fun _ _ h => (nomatch h)⟩

/-- A write of octets `c`: what it covers becomes `c`, the rest stays. -/
def WritesOctet (c : UInt8) (P : Nat → Prop) (payload payload' : List UInt8) : Prop :=
  payload'.length = payload.length ∧ (∀ i, P i → byte payload' i = c) ∧
    ∀ i, byte payload' i = byte payload i ∨ byte payload' i = c

theorem WritesOctet.trans {c : UInt8} {P Q : Nat → Prop} {p p' p'' : List UInt8}
    (h : WritesOctet c P p p') (h' : WritesOctet c Q p' p'') :
    WritesOctet c (fun i => P i ∨ Q i) p p'' := by
  refine ⟨h'.1.trans h.1, fun i hi => ?_, fun i => ?_⟩
  · rcases hi with hi | hi
    · rcases h'.2.2 i with hold | hnew
      · rw [hold, h.2.1 i hi]
      · exact hnew
    · exact h'.2.1 i hi
  · rcases h'.2.2 i with hold | hnew
    · rw [hold]
      exact h.2.2 i
    · exact .inr hnew

/-- Writing a field whose octets are all `c`. -/
theorem writesOctet_field {ω : Type} (field : FixedField ω) {c : UInt8} {payload : List UInt8}
    {off : Nat} {x : ω} (hx : ∀ i < field.width, byte (field.bytes x) i = c)
    (hfits : off + field.width ≤ payload.length) :
    WritesOctet c (fun i => off ≤ i ∧ i < off + field.width) payload
      (field.write payload off x) := by
  refine ⟨field.length_write _ _ _, fun i hi => ?_, fun i => ?_⟩
  · rw [field.byte_write, if_pos ⟨hi.1, hi.2, by omega⟩, hx _ (by omega)]
  · rw [field.byte_write]
    split
    · next h => exact .inr (hx _ (by omega))
    · exact .inl rfl

theorem byte_octets16 (c : UInt8) (i : Nat) (hi : i < 2) :
    byte (le16Field.bytes (le16Field.decode [c, c])) i = c := by
  rw [le16Field.bytes_decode (show le16Field.width ≤ [c, c].length from Nat.le_refl 2)]
  match i, hi with
  | 0, _ => rfl
  | 1, _ => rfl

theorem byte_octets32 (c : UInt8) (i : Nat) (hi : i < 4) :
    byte (le32Field.bytes (serialOfOctet c)) i = c := by
  rw [serialOfOctet,
    le32Field.bytes_decode (show le32Field.width ≤ [c, c, c, c].length from Nat.le_refl 4)]
  match i, hi with
  | 0, _ => rfl
  | 1, _ => rfl
  | 2, _ => rfl
  | 3, _ => rfl

theorem setU16Le_octet {c : UInt8} (s : Mutation) (off : Nat) (name : String)
    (hfits : off + 2 ≤ s.payload.length) :
    WritesOctet c (fun i => off ≤ i ∧ i < off + 2) s.payload
      (setU16Le s off (le16Field.decode [c, c]) name).payload := by
  unfold setU16Le
  rw [if_neg (by omega), put_payload idU16 le16Field .enip name off s _ hfits]
  exact writesOctet_field le16Field (byte_octets16 c) hfits

theorem setU16Le_mapper (s : Mutation) (off : Nat) (new : UInt16) (name : String) :
    (setU16Le s off new name).mapper = s.mapper := by
  unfold setU16Le
  split
  · rfl
  · exact put_mapper ..

theorem putProfile_octet {c : UInt8} (s : Mutation) (data : Nat)
    (hfits : data + 32 ≤ s.payload.length) :
    WritesOctet c (fun i => data + 18 ≤ i ∧ i < data + 24) s.payload
      (putProfile s data ⟨le16Field.decode [c, c], le16Field.decode [c, c],
        le16Field.decode [c, c]⟩).payload := by
  have hvendor := setU16Le_octet (c := c) s (data + 18) "vendor_id" (by omega)
  have htype := setU16Le_octet (c := c) _ (data + 20) "device_type"
    (show data + 20 + 2 ≤ List.length _ by rw [hvendor.1]; omega)
  have hcode := setU16Le_octet (c := c) _ (data + 22) "product_code"
    (show data + 22 + 2 ≤ List.length _ by rw [htype.1, hvendor.1]; omega)
  have hall := (hvendor.trans htype).trans hcode
  exact ⟨hall.1, fun i hi => hall.2.1 i (by omega), hall.2.2⟩

/-- The serial number becomes the one the mapper gives to all. -/
theorem remapU32Le_octet {c : UInt8} {s : Mutation} (off : Nat)
    (hstuck : s.mapper.Stuck .enipSerial (serialOfOctet c)) (hfits : off + 4 ≤ s.payload.length) :
    WritesOctet c (fun i => off ≤ i ∧ i < off + 4) s.payload
        (remapU32Le s off .enipSerial "serial").payload ∧
      (remapU32Le s off .enipSerial "serial").mapper.Stuck .enipSerial (serialOfOctet c) := by
  obtain ⟨hvalue, hstuck'⟩ := hstuck.same (le32Field.read s.payload off).toUInt64
  have hword : (s.mapper.mapWord idU32 .enipSerial (le32Field.read s.payload off)).1 =
      serialOfOctet c :=
    (congrArg idU32.narrow hvalue).trans (UInt32.toUInt32_toUInt64 _)
  unfold remapU32Le
  rw [if_neg (by omega)]
  constructor
  · rw [remap_payload idU32 le32Field .enip .enipSerial "serial" off s hfits, hword]
    exact writesOctet_field le32Field (byte_octets32 c) hfits
  · rw [remap_mapper]
    exact hstuck'

/-- With these a table and a mapper, an edit fills the ten octets. -/
theorem identityAt_octet {c : UInt8} {s : Mutation} {data : Nat}
    (hstuck : s.mapper.Stuck .enipSerial (serialOfOctet c))
    (hfits : data + 32 ≤ s.payload.length) :
    WritesOctet c (Written data) s.payload (identityAt (octetTable c) s data).payload ∧
      (identityAt (octetTable c) s data).mapper.Stuck .enipSerial (serialOfOctet c) := by
  obtain ⟨id, hid, hprofile⟩ :=
    profileAt_eq (show octetTable c ≠ [] from List.cons_ne_nil _ _) s data
  obtain rfl : id =
      ⟨le16Field.decode [c, c], le16Field.decode [c, c], le16Field.decode [c, c]⟩ := by
    unfold entry octetTable at hid
    rw [List.length_singleton, Nat.mod_one] at hid
    exact (Option.some.inj hid).symm
  have hput := putProfile_octet (c := c) (vendorMapped s data) data hfits
  rw [← hprofile] at hput
  have hmapper : (profileAt (octetTable c) s data).mapper.Stuck .enipSerial (serialOfOctet c) := by
    rw [hprofile, putProfile, setU16Le_mapper, setU16Le_mapper, setU16Le_mapper]
    exact hstuck.other (show Domain.enipVendor ≠ .enipSerial from nofun)
      (idU16.widen (le16Field.read s.payload (data + 18))) 0 idU16.hi
  obtain ⟨hserial, hstuck'⟩ := remapU32Le_octet (data + 28) hmapper
    (by rw [hput.1]; exact hfits)
  have hall := hput.trans hserial
  exact ⟨⟨hall.1, fun i hi => hall.2.1 i (by unfold Written at hi; omega), hall.2.2⟩, hstuck'⟩

/-- What such a run has filled stays filled. -/
theorem items_octet {c : UInt8} {s : Mutation} {count off i : Nat}
    (hstuck : s.mapper.Stuck .enipSerial (serialOfOctet c)) (hi : byte s.payload i = c) :
    byte (items (octetTable c) count off s).payload i = c := by
  induction count generalizing off s with
  | zero => exact hi
  | succ count ih =>
    rw [items]
    split
    · exact hi
    · dsimp only
      split
      · next hedited =>
        obtain ⟨hwrites, hstuck'⟩ := identityAt_octet hstuck hedited.2
        refine ih hstuck' ?_
        rcases hwrites.2.2 i with hold | hnew
        · rw [hold, hi]
        · exact hnew
      · exact ih hstuck hi

/-- **Such a run fills what the first item with an octet outside identity data writes on.** -/
theorem items_reaches {c : UInt8} {payload : List UInt8} {before rest : List EnipItem}
    {it : EnipItem} {count off : Nat} {s : Mutation}
    (hstuck : s.mapper.Stuck .enipSerial (serialOfOctet c)) (h : OnlyIdentity payload s.payload)
    (hitems : itemsFrom payload count off = before ++ it :: rest)
    (hsub : ∀ b ∈ itemsFrom payload count off, b ∈ itemsOf payload)
    (hbefore : ∀ b ∈ before, b.IsEdited payload → ∀ i, Written b.data i → InIdentity payload i)
    (hedited : it.IsEdited payload) {i : Nat} (hi : Written it.data i) :
    byte (items (octetTable c) count off s).payload i = c := by
  induction before generalizing count off s with
  | nil =>
    cases count with
    | zero => cases hitems
    | succ count =>
      -- its own turn writes the octet there, and the items behind it write the same octet again
      have hit : it ∈ itemsOf payload := hsub it (hitems ▸ List.mem_cons_self)
      obtain ⟨-, hturn⟩ := items_cons (octetTable c) h hitems hit
      have hfits : it.data + 32 ≤ s.payload.length := h.length ▸ hedited.2
      obtain ⟨hwrites, hstuck'⟩ := identityAt_octet hstuck hfits
      rw [hturn, itemEdited, if_pos hedited]
      exact items_octet hstuck' (hwrites.2.1 i hi)
  | cons b before ih =>
    cases count with
    | zero => cases hitems
    | succ count =>
      have hb : b ∈ itemsOf payload := hsub b (hitems ▸ List.mem_cons_self)
      -- an item in front stays within identity data, so the declared items are still the same
      obtain ⟨hrest, hturn⟩ := items_cons (octetTable c) h hitems hb
      have hstuck' : (itemEdited (octetTable c) payload s b).mapper.Stuck .enipSerial
          (serialOfOctet c) := by
        unfold itemEdited
        split
        · next hb => exact (identityAt_octet hstuck (h.length ▸ hb.2)).2
        · exact hstuck
      rw [hturn]
      refine ih hstuck' (h.edited _ (hbefore b List.mem_cons_self)) hrest (fun x hx => ?_)
        fun x hx => hbefore x (List.mem_cons_of_mem _ hx)
      rw [hrest] at hx
      exact hsub x (hitems ▸ List.mem_cons_of_mem _ hx)

/-! ## Exactly when the mutator stays inside

That every write lies inside is enough, by the invariant of the last sections. It is needed because
the mutator is asked about under every table and mapper: some octet outside would be written, and of
two tables that write different octets there, one changes it.
-/

theorem isListIdentity_of_matches {f : ParsedFrame} (h : «matches» f = true) :
    isListIdentity f.payload = true := by
  unfold «matches» at h
  exact (Bool.and_eq_true _ _ |>.mp h).2

theorem length_of_isListIdentity {payload : List UInt8} (h : isListIdentity payload = true) :
    26 ≤ payload.length := by
  unfold isListIdentity at h
  exact of_decide_eq_true (Bool.and_eq_true _ _ |>.mp h).1

theorem staysInside_of_writesInside {payload : List UInt8} (h : WritesInside payload)
    (hlist : isListIdentity payload = true) (ids : List EnipId) (mapper : SeededMapper) :
    StaysInside payload (mutate ids payload mapper).payload := by
  unfold mutate
  rw [if_pos hlist]
  have hstart : OnlyIdentity payload (Mutation.payload ⟨payload, mapper, []⟩) :=
    ⟨rfl, fun _ hi => absurd rfl hi⟩
  exact (hstart.items h ids fun _ hit => hit).staysInside (length_of_isListIdentity hlist)

/-- An octet that is written outside identity data gives the mutator away. -/
theorem writesInside_of_staysInside {payload : List UInt8} (hlist : isListIdentity payload = true)
    (h : ∀ ids mapper, StaysInside payload (mutate ids payload mapper).payload) :
    WritesInside payload := by
  classical
  by_contra hnot
  -- the first item that writes outside, and an octet that it writes there
  let bad : EnipItem → Bool := fun it =>
    decide (it.IsEdited payload ∧ ∃ i, Written it.data i ∧ ¬ InIdentity payload i)
  have hbad : ∃ it ∈ itemsOf payload, bad it = true := by
    unfold WritesInside at hnot
    push Not at hnot
    obtain ⟨it, hit, hedited, i, hi, hout⟩ := hnot
    exact ⟨it, hit, decide_eq_true ⟨hedited, i, hi, hout⟩⟩
  obtain ⟨it, hfind⟩ := Option.isSome_iff_exists.mp (List.find?_isSome.mpr hbad)
  obtain ⟨hit, before, rest, hsplit, hbefore⟩ := List.find?_eq_some_iff_append.mp hfind
  obtain ⟨hedited, i, hi, hout⟩ := of_decide_eq_true hit
  -- every edit writes an octet that was not there
  have hfilled : byte (mutate (octetTable (byte payload i + 1)) payload
      (octetMapper (byte payload i + 1))).payload i = byte payload i + 1 := by
    unfold mutate
    rw [if_pos hlist]
    have hstart : OnlyIdentity payload
        (Mutation.payload ⟨payload, octetMapper (byte payload i + 1), []⟩) :=
      ⟨rfl, fun _ h => absurd rfl h⟩
    have hitems : itemsFrom payload (le16Field.read payload 24).toNat 26 = before ++ it :: rest :=
      hsplit
    refine items_reaches (octetMapper_stuck _) hstart hitems (fun _ hb => hb)
      (fun b hb hb' j hj => ?_) hedited hi
    by_contra hout'
    have hnotBad := hbefore b hb
    rw [Bool.not_eq_true', decide_eq_false_iff_not] at hnotBad
    exact hnotBad ⟨hb', j, hj, hout'⟩
  refine hout ((h (octetTable (byte payload i + 1)) (octetMapper (byte payload i + 1))).2.2 i
    ?_).2.2
  rw [hfilled]
  intro heq
  have := congrArg UInt8.toNat heq
  rw [UInt8.toNat_add, UInt8.toNat_one] at this
  have hlt := (byte payload i).toNat_lt
  omega

/-- **Exactly when the mutator stays inside identity items**, whatever its table and mapper: when
every octet that an edit writes lies in the declared data of some identity item. An item that
declares less than the edits take is written past its end, and then what lies there decides. -/
theorem staysInside_iff (f : ParsedFrame) (hmatches : «matches» f = true) :
    (∀ ids mapper, StaysInside f.payload (mutate ids f.payload mapper).payload) ↔
      WritesInside f.payload :=
  ⟨writesInside_of_staysInside (isListIdentity_of_matches hmatches),
    fun h ids mapper =>
      staysInside_of_writesInside h (isListIdentity_of_matches hmatches) ids mapper⟩

/-- A List Identity payload with one identity item of a declared length, and `rest` behind its
header. -/
def oneItem (len : UInt16) (rest : List UInt8) : List UInt8 :=
  toLeBytes16 cmdListIdentity ++ List.replicate 22 0 ++ toLeBytes16 1 ++
    toLeBytes16 itemCipIdentity ++ toLeBytes16 len ++ rest

/-- The payload from the device's port, in a UDP datagram. -/
def deviceFrame (payload : List UInt8) : ParsedFrame :=
  let buf := Synth.udpFrame ⟨2, 0, 0, 0, 0, 1⟩ ⟨2, 0, 0, 0, 0, 2⟩ 0x0A000001 0x0A000002 44818
    50000 payload
  ⟨buf, (parseLayout buf).getD ⟨0, .other, 0, 0, .other, 0, 0⟩⟩

/-- A reply whose identity item declares its 34 octets. -/
theorem staysInside_iff_long :
    «matches» (deviceFrame (oneItem 34 (List.replicate 34 0))) = true ∧
      ∀ ids mapper, StaysInside (deviceFrame (oneItem 34 (List.replicate 34 0))).payload
        (mutate ids (deviceFrame (oneItem 34 (List.replicate 34 0))).payload mapper).payload :=
  ⟨by decide +kernel, (staysInside_iff _ (by decide +kernel)).mpr
    (writesInside_of_long (by decide +kernel))⟩

/-- **An empty identity item is edited past its end**: the payload below has no identity data
at all, and its serial number changes. -/
theorem short_item_overwritten :
    «matches» (deviceFrame (oneItem 0 (List.replicate 32 0))) = true ∧
      ¬ StaysInside (deviceFrame (oneItem 0 (List.replicate 32 0))).payload
        (mutate [] (deviceFrame (oneItem 0 (List.replicate 32 0))).payload
          (octetMapper 1)).payload := by
  refine ⟨by decide +kernel, fun h => ?_⟩
  obtain ⟨-, -, it, hit, -, hge, hlt⟩ := h.2.2 58 (by decide +kernel)
  have hitems : itemsOf (deviceFrame (oneItem 0 (List.replicate 32 0))).payload =
      [⟨26, itemCipIdentity, 0⟩] := by
    decide +kernel
  rw [hitems, List.mem_singleton] at hit
  subst hit
  exact absurd hlt (by decide)

end TurboLaser.Enip
