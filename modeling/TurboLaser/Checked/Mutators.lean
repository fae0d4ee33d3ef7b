import TurboLaser.Checked.Frame
import TurboLaser.Reload.Untouched

/-!
# The mutators, with their panics (proto/mutators)

A mutator works on the payload of a frame, whose length says all it may rely on: behind the test of
a length, everything it reads and writes is inside the payload, and no edit changes the length. The
three walks move forward by the length of a header at least, so they end; the walk over the items of
EtherNet/IP is counted, and leaves the payload by its own test.

Payloads come from captures, and lengths in them are written by whoever sent them. So each of the
walks takes a number from the payload, computes an end from it and goes there, and each has to be
bounded by the buffer and not by the number. The source does that by slices and by tests of sums
against the length; the same expressions stand here, with their panics, and are discharged by the
tests.

- `remap_ok`: the edit that all of them make;
- `Modbus.step_ok`, `Dnp3.step_ok`, `S7.step_ok`, `Enip.items_ok`: one turn of each;
- `matchesFrame_ok`, `mutateFrame_ok`: **no mutator panics on any frame, and each one ends.**
-/

namespace TurboLaser

open Lib

namespace Checked

/-! ## The edits -/

section Edits

variable {ω : Type} [DecidableEq ω] (word : IdWord ω) (field : FixedField ω) (protocol : Protocol)
  (domain : Domain) (name : String) (off : Nat)

/-- Write a value over a field that has `orig`, and report it, unless they are the same. -/
def putOver (orig new : ω) (s : Mutation) : Run Mutation :=
  if new = orig then return s
  else do
    let payload ← copyAt s.payload off (off + field.width) (field.bytes new)
    return { s with
      payload
      reports := s.reports ++ [⟨protocol, name, word.widen orig, word.widen new⟩] }

/-- Write a value over a field. -/
def put (new : ω) (s : Mutation) : Run Mutation := do
  let orig ← fieldAt field s.payload off
  putOver word field protocol name off orig new s

/-- Ask the mapper for the new value of a field. -/
def remap (s : Mutation) : Run Mutation := do
  let orig ← fieldAt field s.payload off
  let (new, mapper) := s.mapper.mapWord word domain orig
  putOver word field protocol name off orig new { s with mapper }

variable {off} {s : Mutation}

theorem putOver_ok (h : off + field.width ≤ s.payload.length) (new : ω) :
    putOver word field protocol name off (field.read s.payload off) new s =
      .ok (s.put word field protocol name off new) :=
  ite_ok (fun _ => rfl) fun _ => bind_ok (copyAt_ok h (by rw [field.length_bytes])) rfl

theorem put_ok (h : off + field.width ≤ s.payload.length) (new : ω) :
    put word field protocol name off new s = .ok (s.put word field protocol name off new) :=
  bind_ok (fieldAt_ok h) (putOver_ok word field protocol name h new)

/-- **The edit of a field that is inside the payload.** -/
theorem remap_ok (h : off + field.width ≤ s.payload.length) :
    remap word field protocol domain name off s =
      .ok (s.remap word field protocol domain name off) := by
  refine bind_ok (fieldAt_ok h) ?_
  let mapped := s.mapper.mapWord word domain (field.read s.payload off)
  exact @putOver_ok ω _ word field protocol name off { s with mapper := mapped.2 } h mapped.1

end Edits

/-! ## Matching -/

/-- One end of the frame is on one of these ports. -/
def onPort (f : ParsedFrame) (ports : List UInt16) : Run Bool := do
  let src ← srcPort f
  orElse (src.any (· ∈ ports)) do
    let dst ← dstPort f
    return dst.any (· ∈ ports)

/-- What all of the `matches` do: the transport, the ports, and how the payload begins. -/
def matchesWith (transport : Bool) (ports : List UInt16) (begins : List UInt8 → Run Bool)
    (f : ParsedFrame) : Run Bool :=
  andAlso transport do
    let port ← onPort f ports
    let p ← payload f
    andAlso port (begins p)

variable {f : ParsedFrame}

theorem onPort_ok (hl : InFrame f.buf.length f.layout) (ports : List UInt16) :
    onPort f ports = .ok (f.onPort ports) :=
  bind_ok (port_ok hl (by decide)) (orElse_ok fun _ => bind_ok (port_ok hl (by decide)) rfl)

theorem matchesWith_ok (hl : InFrame f.buf.length f.layout) {transport : Bool}
    {ports : List UInt16} {begins : List UInt8 → Run Bool} {b : Bool}
    (hbegins : begins f.payload = .ok b) :
    matchesWith transport ports begins f = .ok (transport && (f.onPort ports && b)) :=
  andAlso_ok fun _ =>
    bind_ok (onPort_ok hl ports) (bind_ok (payload_ok hl) (andAlso_ok fun _ => hbegins))

/-! ## Modbus -/

namespace Modbus

/-- `matches`. -/
def «matches» (f : ParsedFrame) : Run Bool :=
  matchesWith (decide (f.layout.l4Kind = .tcp)) [TurboLaser.Modbus.port] (fun p =>
    andAlso (decide (8 ≤ p.length)) do
      let hi ← byteAt p 2
      andAlso (decide (hi = 0)) do
        let lo ← byteAt p 3
        return decide (lo = 0)) f

/-- One turn of the loop. -/
def step (s : Mutation) (o : Nat) : Run (Option (Mutation × Nat)) :=
  let p := s.payload
  if p.length < o + 7 then return none
  else do
    let hi ← byteAt p (o + 2)
    let other ← orElse (decide (hi ≠ 0)) do
      let lo ← byteAt p (o + 3)
      return decide (lo ≠ 0)
    if other then return none
    else do
      let len ← fieldAt be16Field p (o + 4)
      if len.toNat = 0 then return none
      else do
        let s ← remap idU8 u8Field .modbus .modbusUnitId "unit_id" (o + 6) s
        return some (s, o + (6 + len.toNat))

/-- `mutate`. -/
def mutate (payload : List UInt8) (mapper : SeededMapper) : Run Mutation :=
  scanLoop step (payload.length + 1) ⟨payload, mapper, []⟩ 0

theorem matches_ok (hl : InFrame f.buf.length f.layout) :
    Modbus.matches f = .ok (TurboLaser.Modbus.matches f) := by
  unfold TurboLaser.Modbus.matches
  simp only [Bool.and_assoc]
  refine matchesWith_ok hl (andAlso_ok fun hlen => ?_)
  have hlen := of_decide_eq_true hlen
  exact bind_ok (byteAt_ok (by omega)) (andAlso_ok fun _ => bind_ok (byteAt_ok (by omega)) rfl)

theorem step_ok (s : Mutation) (o : Nat) : step s o = .ok (TurboLaser.Modbus.step s o) := by
  refine ite_ok (fun _ => rfl) fun hlen => bind_ok (byteAt_ok (by omega)) ?_
  refine bind_ok (orElse_ok fun _ => bind_ok (byteAt_ok (by omega)) rfl) ?_
  refine ite_ok_of_iff (by simp) (fun _ => rfl) fun _ => ?_
  refine bind_ok (fieldAt_ok ?_) (ite_ok (fun _ => rfl) fun _ => ?_)
  · show o + 4 + 2 ≤ _
    omega
  · refine bind_ok (remap_ok _ _ _ _ _ ?_) rfl
    show o + 6 + 1 ≤ _
    omega

theorem mutate_ok (payload : List UInt8) (mapper : SeededMapper) :
    mutate payload mapper = .ok (TurboLaser.Modbus.mutate payload mapper) :=
  @scanLoop_ok _ TurboLaser.Modbus.walk step (fun _ => True) (fun s o _ => step_ok s o)
    (fun _ _ _ _ _ _ => trivial) _ _ _ trivial (Nat.le_add_left _ _)

end Modbus

/-! ## DNP3 -/

namespace Dnp3

/-- `matches`. -/
def «matches» (f : ParsedFrame) : Run Bool :=
  matchesWith (decide (f.layout.l4Kind = .tcp ∨ f.layout.l4Kind = .udp)) [TurboLaser.Dnp3.port]
    (fun p =>
      andAlso (decide (10 ≤ p.length)) do
        let first ← byteAt p 0
        andAlso (decide (first = 0x05)) do
          let second ← byteAt p 1
          return decide (second = 0x64)) f

/-- The header's addresses and its CRC, for a frame at `o`. -/
def readdressAt (crc : List UInt8 → UInt16) (s : Mutation) (o : Nat) : Run Mutation := do
  let s ← remap idU16 le16Field .dnp3 .dnp3Addr "dst" (o + 4) s
  let s ← remap idU16 le16Field .dnp3 .dnp3Addr "src" (o + 6) s
  let header ← sliceAt s.payload o (o + 8)
  let payload ← copyAt s.payload (o + 8) (o + 10) (le16Field.bytes (crc header))
  return { s with payload }

/-- One turn of the loop. -/
def step (crc : List UInt8 → UInt16) (s : Mutation) (o : Nat) : Run (Option (Mutation × Nat)) :=
  let p := s.payload
  if p.length < o + 10 then return none
  else do
    let first ← byteAt p o
    let other ← orElse (decide (first ≠ 0x05)) do
      let second ← byteAt p (o + 1)
      return decide (second ≠ 0x64)
    if other then return none
    else do
      let len ← byteAt p (o + 2)
      if len.toNat < 5 then return none
      else do
        let s ← readdressAt crc s o
        let user ← minus len.toNat 5
        let blocks := (user + 15) / 16
        return some (s, o + (10 + user + 2 * blocks))

/-- `mutate`. -/
def mutate (crc : List UInt8 → UInt16) (payload : List UInt8) (mapper : SeededMapper) :
    Run Mutation :=
  scanLoop (step crc) (payload.length + 1) ⟨payload, mapper, []⟩ 0

theorem matches_ok (hl : InFrame f.buf.length f.layout) :
    Dnp3.matches f = .ok (TurboLaser.Dnp3.matches f) := by
  unfold TurboLaser.Dnp3.matches
  simp only [Bool.and_assoc]
  refine matchesWith_ok hl (andAlso_ok fun hlen => ?_)
  have hlen := of_decide_eq_true hlen
  exact bind_ok (byteAt_ok (by omega)) (andAlso_ok fun _ => bind_ok (byteAt_ok (by omega)) rfl)

/-- The header of a frame is ten octets, and both edits keep the length. -/
theorem readdressAt_ok (crc : List UInt8 → UInt16) {s : Mutation} {o : Nat}
    (h : o + 10 ≤ s.payload.length) :
    readdressAt crc s o = .ok (TurboLaser.Dnp3.readdressAt crc s o) := by
  have hdst := (remap_agreeOn idU16 le16Field .dnp3 .dnp3Addr "dst" (o + 4) s).1
  have hsrc := (remap_agreeOn idU16 le16Field .dnp3 .dnp3Addr "src" (o + 6)
    (s.remap idU16 le16Field .dnp3 .dnp3Addr "dst" (o + 4))).1
  refine bind_ok (remap_ok _ _ _ _ _ ?_) (bind_ok (remap_ok _ _ _ _ _ ?_) ?_)
  · show o + 4 + 2 ≤ _
    omega
  · show o + 6 + 2 ≤ _
    omega
  exact bind_ok (sliceAt_ok (by omega) (by omega)) (bind_ok (copyAt_ok (by omega) rfl) rfl)

theorem step_ok (crc : List UInt8 → UInt16) (s : Mutation) (o : Nat) :
    step crc s o = .ok (TurboLaser.Dnp3.step crc s o) := by
  refine ite_ok (fun _ => rfl) fun hlen => bind_ok (byteAt_ok (by omega)) ?_
  refine bind_ok (orElse_ok fun _ => bind_ok (byteAt_ok (by omega)) rfl) ?_
  refine ite_ok_of_iff (by simp) (fun _ => rfl) fun _ => bind_ok (byteAt_ok (by omega)) ?_
  refine ite_ok (fun _ => rfl) fun hfive => ?_
  exact bind_ok (readdressAt_ok crc (by omega)) (bind_ok (minus_ok (by omega)) rfl)

theorem mutate_ok (crc : List UInt8 → UInt16) (payload : List UInt8) (mapper : SeededMapper) :
    mutate crc payload mapper = .ok (TurboLaser.Dnp3.mutate crc payload mapper) :=
  @scanLoop_ok _ (TurboLaser.Dnp3.walk crc) (step crc) (fun _ => True)
    (fun s o _ => step_ok crc s o) (fun _ _ _ _ _ _ => trivial) _ _ _ trivial (Nat.le_add_left _ _)

end Dnp3

/-! ## S7 -/

namespace S7

/-- `matches`. -/
def «matches» (f : ParsedFrame) : Run Bool :=
  matchesWith (decide (f.layout.l4Kind = .tcp)) [TurboLaser.S7.port] (fun p =>
    andAlso (decide (6 ≤ p.length)) do
      let version ← byteAt p 0
      return decide (version = 0x03)) f

/-- The edit of a parameter whose value begins at `val`. -/
def retsapAt (s : Mutation) (code : UInt8) (plen val : Nat) : Run Mutation :=
  if (code = TurboLaser.S7.paramCalledTsap ∨ code = TurboLaser.S7.paramCallingTsap) ∧ plen = 2 then
    if code = TurboLaser.S7.paramCalledTsap then
      remap idU16 be16Field .s7 .s7ModuleId "called_tsap" val s
    else remap idU16 be16Field .s7 .s7Serial "calling_tsap" val s
  else return s

/-- One turn of the loop over the parameters in front of `cotpEnd`. -/
def step (cotpEnd : Nat) (s : Mutation) (k : Nat) : Run (Option (Mutation × Nat)) :=
  if cotpEnd < k + 2 then return none
  else do
    let code ← byteAt s.payload k
    let plen ← byteAt s.payload (k + 1)
    let val := k + 2
    if cotpEnd < val + plen.toNat then return none
    else do
      let s ← retsapAt s code plen.toNat val
      return some (s, val + plen.toNat)

/-- `mutate`. -/
def mutate (payload : List UInt8) (mapper : SeededMapper) : Run Mutation := do
  let s : Mutation := ⟨payload, mapper, []⟩
  let tpkt ← andAlso (decide (7 ≤ payload.length)) do
    let version ← byteAt payload 0
    return decide (version = 0x03)
  if tpkt then do
    let cotpLen ← byteAt payload 4
    let pduType ← byteAt payload 5
    if pduType ≠ TurboLaser.S7.cotpCr ∧ pduType ≠ TurboLaser.S7.cotpCc then return s
    else scanLoop (step (min (5 + cotpLen.toNat) payload.length)) (payload.length + 1) s 11
  else return s

theorem matches_ok (hl : InFrame f.buf.length f.layout) :
    S7.matches f = .ok (TurboLaser.S7.matches f) := by
  unfold TurboLaser.S7.matches
  simp only [Bool.and_assoc]
  refine matchesWith_ok hl (andAlso_ok fun hlen => bind_ok (byteAt_ok ?_) rfl)
  have hlen := of_decide_eq_true hlen
  omega

/-- The value of a TSAP is in front of the declared end. -/
theorem retsapAt_ok {s : Mutation} {code : UInt8} {plen val : Nat}
    (h : val + plen ≤ s.payload.length) :
    retsapAt s code plen val = .ok (TurboLaser.S7.retsapAt s code plen val) := by
  refine ite_ok (fun htsap => ?_) fun _ => rfl
  have hfits : val + be16Field.width ≤ s.payload.length := by
    obtain ⟨-, rfl⟩ := htsap
    exact h
  exact ite_ok (fun _ => remap_ok _ _ _ _ _ hfits) fun _ => remap_ok _ _ _ _ _ hfits

theorem step_ok {cotpEnd : Nat} {s : Mutation} (h : cotpEnd ≤ s.payload.length) (k : Nat) :
    step cotpEnd s k = .ok (TurboLaser.S7.step cotpEnd s k) := by
  refine ite_ok (fun _ => rfl) fun hcode => bind_ok (byteAt_ok (by omega)) ?_
  refine bind_ok (byteAt_ok (by omega)) (ite_ok (fun _ => rfl) fun hvalue => ?_)
  exact bind_ok (retsapAt_ok (by omega)) rfl

/-- The end of the parameters stays inside the payload, from turn to turn. -/
theorem walk_ok {cotpEnd : Nat} {s : Mutation} (h : cotpEnd ≤ s.payload.length) (k : Nat) :
    scanLoop (step cotpEnd) (s.payload.length + 1) s k =
      .ok ((TurboLaser.S7.walk cotpEnd).run s k) := by
  refine @scanLoop_ok _ (TurboLaser.S7.walk cotpEnd) (step cotpEnd)
    (fun s => cotpEnd ≤ s.payload.length) (fun s o hs => step_ok hs o) ?_ _ _ _ h
    (h.trans (Nat.le_add_left _ _))
  intro s o s' o' hs hnext
  obtain ⟨-, -, rfl⟩ := TurboLaser.S7.step_some hnext
  rwa [(TurboLaser.S7.retsapAt_changes ..).1]

theorem mutate_ok (payload : List UInt8) (mapper : SeededMapper) :
    mutate payload mapper = .ok (TurboLaser.S7.mutate payload mapper) := by
  -- the `&&` of the source is lazy: the version is read only where there are seven bytes
  have htpkt : (andAlso (decide (7 ≤ payload.length)) do
      let version ← byteAt payload 0
      return decide (version = 0x03)) =
      .ok (decide (7 ≤ payload.length) && decide (byte payload 0 = 0x03)) := by
    refine andAlso_ok fun hlen => bind_ok (byteAt_ok ?_) rfl
    have hlen := of_decide_eq_true hlen
    omega
  refine bind_ok htpkt ?_
  unfold TurboLaser.S7.mutate TurboLaser.S7.isSetup
  by_cases hhead : (decide (7 ≤ payload.length) && decide (byte payload 0 = 0x03)) = true
  · have hlen : 7 ≤ payload.length := by
      rw [Bool.and_eq_true, decide_eq_true_iff] at hhead
      exact hhead.1
    rw [if_pos hhead, hhead, Bool.true_and]
    refine bind_ok (byteAt_ok (by omega)) (bind_ok (byteAt_ok (by omega)) ?_)
    by_cases hsetup : byte payload 5 = TurboLaser.S7.cotpCr ∨ byte payload 5 = TurboLaser.S7.cotpCc
    -- both kinds of setup are walked from the eleventh byte, up to an end inside the payload
    · rw [if_neg (by tauto), if_pos (by simpa using hsetup)]
      exact @walk_ok _ ⟨payload, mapper, []⟩ (Nat.min_le_right _ _) 11
    · rw [if_pos (by tauto), if_neg (by simpa using hsetup)]
      rfl
  · rw [if_neg hhead, Bool.eq_false_iff.mpr hhead]
    rfl

end S7

/-! ## EtherNet/IP

The mutator walks items by declared lengths, which may lead anywhere, and writes at fixed distances
from the start of an item. Each read and write is tested against the payload in the source. The pick
from the table is taken modulo its length, so it is asked for only when the table is not empty.
-/

namespace Enip

open TurboLaser.Enip (cmdListIdentity itemCipIdentity)

/-- The payload is a List Identity message with an item count. -/
def isListIdentity (payload : List UInt8) : Run Bool :=
  andAlso (decide (26 ≤ payload.length)) do
    let command ← fieldAt le16Field payload 0
    return decide (command = cmdListIdentity)

/-- `matches`. -/
def «matches» (f : ParsedFrame) : Run Bool :=
  matchesWith (decide (f.layout.l4Kind = .tcp ∨ f.layout.l4Kind = .udp)) TurboLaser.Enip.ports
    isListIdentity f

/-- `set_u16_le`. -/
def setU16Le (s : Mutation) (off : Nat) (new : UInt16) (name : String) : Run Mutation :=
  if s.payload.length < off + 2 then return s else put idU16 le16Field .enip name off new s

/-- `remap_u32_le`. -/
def remapU32Le (s : Mutation) (off : Nat) (domain : Domain) (name : String) : Run Mutation :=
  if s.payload.length < off + 4 then return s else remap idU32 le32Field .enip domain name off s

/-- Put the picked entry over an identity object at `data`. -/
def profileAt (ids : List EnipId) (s : Mutation) (data : Nat) : Run Mutation :=
  if ids = [] then return s
  else do
    let origVendor ← fieldAt le16Field s.payload (data + 18)
    let (pick, mapper) := s.mapper.mapU16 .enipVendor origVendor
    let idx ← remainder pick.toNat ids.length
    let id ← entryAt ids idx
    let s ← setU16Le { s with mapper } (data + 18) id.vendor "vendor_id"
    let s ← setU16Le s (data + 20) id.deviceType "device_type"
    setU16Le s (data + 22) id.productCode "product_code"

/-- The edit of an identity object at `data`. -/
def identityAt (ids : List EnipId) (s : Mutation) (data : Nat) : Run Mutation := do
  let s ← profileAt ids s data
  remapU32Le s (data + 28) .enipSerial "serial"

/-- The loop over `count` items, from offset `off` on. -/
def items (ids : List EnipId) : Nat → Nat → Mutation → Run Mutation
  | 0, _, s => return s
  | count + 1, off, s =>
    if s.payload.length < off + 4 then return s
    else do
      let itemType ← fieldAt le16Field s.payload off
      let itemLen ← fieldAt le16Field s.payload (off + 2)
      let data := off + 4
      if itemType = itemCipIdentity ∧ data + 32 ≤ s.payload.length then do
        let s ← identityAt ids s data
        items ids count (data + itemLen.toNat) s
      else items ids count (data + itemLen.toNat) s

/-- `mutate`, over any table of identities. -/
def mutate (ids : List EnipId) (payload : List UInt8) (mapper : SeededMapper) : Run Mutation := do
  let s : Mutation := ⟨payload, mapper, []⟩
  let reply ← isListIdentity payload
  if reply then do
    let count ← fieldAt le16Field payload 24
    items ids count.toNat 26 s
  else return s

theorem isListIdentity_ok (payload : List UInt8) :
    isListIdentity payload = .ok (TurboLaser.Enip.isListIdentity payload) := by
  refine andAlso_ok fun hlen => bind_ok (fieldAt_ok ?_) rfl
  have hlen := of_decide_eq_true hlen
  show 0 + 2 ≤ _
  omega

theorem matches_ok (hl : InFrame f.buf.length f.layout) :
    Enip.matches f = .ok (TurboLaser.Enip.matches f) := by
  unfold TurboLaser.Enip.matches
  rw [Bool.and_assoc]
  exact matchesWith_ok hl (isListIdentity_ok f.payload)

/-- Both writers look at the length first. -/
theorem setU16Le_ok (s : Mutation) (off : Nat) (new : UInt16) (name : String) :
    setU16Le s off new name = .ok (TurboLaser.Enip.setU16Le s off new name) :=
  ite_ok (fun _ => rfl) fun hlen => put_ok _ _ _ _ (Nat.not_lt.mp hlen) new

theorem remapU32Le_ok (s : Mutation) (off : Nat) (domain : Domain) (name : String) :
    remapU32Le s off domain name = .ok (TurboLaser.Enip.remapU32Le s off domain name) :=
  ite_ok (fun _ => rfl) fun hlen => remap_ok _ _ _ _ _ (Nat.not_lt.mp hlen)

/-- A table that is not empty has an entry for every pick. -/
theorem profileAt_ok (ids : List EnipId) {s : Mutation} {data : Nat}
    (h : data + 32 ≤ s.payload.length) :
    profileAt ids s data = .ok (TurboLaser.Enip.profileAt ids s data) := by
  refine ite_ok (fun _ => rfl) fun hids => bind_ok (fieldAt_ok ?_) ?_
  · show data + 18 + 2 ≤ _
    omega
  obtain ⟨id, hid⟩ := TurboLaser.Enip.entry_isSome hids
    (s.mapper.mapU16 .enipVendor (le16Field.read s.payload (data + 18))).1
  refine bind_ok (remainder_ok (List.length_pos_iff.mpr hids).ne') (bind_ok (entryAt_ok hid) ?_)
  dsimp only
  rw [hid]
  exact bind_ok (setU16Le_ok ..) (bind_ok (setU16Le_ok ..) (setU16Le_ok ..))

theorem identityAt_ok (ids : List EnipId) {s : Mutation} {data : Nat}
    (h : data + 32 ≤ s.payload.length) :
    identityAt ids s data = .ok (TurboLaser.Enip.identityAt ids s data) :=
  bind_ok (profileAt_ok ids h) (remapU32Le_ok ..)

/-- Every item is read behind a test, wherever the length of the last one led. -/
theorem items_ok (ids : List EnipId) (count off : Nat) (s : Mutation) :
    items ids count off s = .ok (TurboLaser.Enip.items ids count off s) := by
  induction count generalizing off s with
  | zero => rfl
  | succ count ih =>
    refine ite_ok (fun _ => rfl) fun hlen => bind_ok (fieldAt_ok ?_) (bind_ok (fieldAt_ok ?_) ?_)
    · show off + 2 ≤ _
      omega
    · show off + 2 + 2 ≤ _
      omega
    · exact ite_ok (fun hitem => bind_ok (identityAt_ok ids hitem.2) (ih ..)) fun _ => ih ..

theorem mutate_ok (ids : List EnipId) (payload : List UInt8) (mapper : SeededMapper) :
    mutate ids payload mapper = .ok (TurboLaser.Enip.mutate ids payload mapper) := by
  refine bind_ok (isListIdentity_ok payload) (ite_ok (fun hreply => ?_) fun _ => rfl)
  refine bind_ok (fieldAt_ok ?_) (items_ok ..)
  have hlen := of_decide_eq_true (Bool.and_eq_true_iff.mp hreply).1
  show 24 + 2 ≤ _
  omega

end Enip

/-! ## All four -/

/-- `matches`, of the mutator of a protocol. -/
def matchesFrame : Protocol → ParsedFrame → Run Bool
  | .modbus => Modbus.matches
  | .enip => Enip.matches
  | .s7 => S7.matches
  | .dnp3 => Dnp3.matches

/-- `mutate`, of the mutator of a protocol. -/
def mutatePayload (crc : List UInt8 → UInt16) (ids : List EnipId) :
    Protocol → List UInt8 → SeededMapper → Run Mutation
  | .modbus => Modbus.mutate
  | .enip => Enip.mutate ids
  | .s7 => S7.mutate
  | .dnp3 => Dnp3.mutate crc

/-- A frame behind its mutator: the payload is a range of the frame, and is edited there. -/
def mutateFrame (crc : List UInt8 → UInt16) (ids : List EnipId) (f : ParsedFrame) (m : Protocol)
    (mapper : SeededMapper) : Run (List UInt8 × Mutation) := do
  let p ← payload f
  let s ← mutatePayload crc ids m p mapper
  let buf ← copyAt f.buf f.layout.payload f.layout.stop s.payload
  return (buf, s)

theorem matchesFrame_ok (hl : InFrame f.buf.length f.layout) (m : Protocol) :
    matchesFrame m f = .ok (m.matches f) := by
  cases m with
  | modbus => exact Modbus.matches_ok hl
  | enip => exact Enip.matches_ok hl
  | s7 => exact S7.matches_ok hl
  | dnp3 => exact Dnp3.matches_ok hl

/-- **Every mutator ends on every payload**, and panics on none. -/
theorem mutatePayload_ok (crc : List UInt8 → UInt16) (ids : List EnipId) (m : Protocol)
    (payload : List UInt8) (mapper : SeededMapper) :
    mutatePayload crc ids m payload mapper = .ok (m.mutate crc ids payload mapper) := by
  cases m with
  | modbus => exact Modbus.mutate_ok payload mapper
  | enip => exact Enip.mutate_ok ids payload mapper
  | s7 => exact S7.mutate_ok payload mapper
  | dnp3 => exact Dnp3.mutate_ok crc payload mapper

theorem mutateFrame_ok (crc : List UInt8 → UInt16) (ids : List EnipId)
    (hl : InFrame f.buf.length f.layout) (m : Protocol) (mapper : SeededMapper) :
    mutateFrame crc ids f m mapper = .ok (ParsedFrame.mutate crc ids f m mapper) := by
  refine bind_ok (payload_ok hl) (bind_ok (mutatePayload_ok crc ids m f.payload mapper) ?_)
  refine bind_ok (copyAt_ok hl.stop_le ?_) rfl
  rw [length_mutate, ParsedFrame.payload, length_slice hl.stop_le]
  exact Nat.add_sub_cancel' hl.payload_le

end Checked

end TurboLaser
