import TurboLaser.Scenario.FrameSizes
import TurboLaser.Simulate.Assertions
import TurboLaser.Synth.Identities

/-!
# Identity frames, read (simulate/engine.rs)

`assert_identity` puts the texts of a profile into five formats, whose length fields have eight,
nine or sixteen bits; where a text may be too long for its field, `clamp_str` cuts it.

The texts come from profile files and may be anything. So there are two questions: whether the cut
is a text again, and not half a character, and whether every length that is written is the length of
what follows. A length field that is too narrow truncates without notice in the source. The second
question is put to a reader that is written from the formats and not from the builders: it takes
each length at its word and refuses what does not come out even.

- `clamped_clampStr`: **the cut is between two characters**, within the limit, and as late as it can
  be;
- `hear`: a reader of frames that checks every length on the way, down to the payload of each
  protocol;
- `announcedBy_enip` and its like: what is read off the session of one protocol;
- `assertIdentity_heard`: **a profile whose frames fit the link is read back**, frame by frame.

Not every text is cut. The lengths of SNMP are of variable size, so there the packet is the limit;
hence the condition that the frames fit the link.
-/

namespace TurboLaser

open Lib Synth Scenario

/-! ## Texts that were cut

`clamp_str` cuts a text at the last character boundary within the limit. Boundaries are the sizes of
beginnings, so a text is cut between two characters and as late as possible. A text that fits is
left alone, which is the case for most profiles.
-/

/-- The text is cut between two characters; it fits, and the next character would not. -/
structure Clamped (s : String) (limit : Nat) (t : String) : Prop where
  fits : (utf8 t).length ≤ limit
  cut : ∃ rest, s.toList = t.toList ++ rest ∧
    ∀ c ∈ rest.head?, limit < (utf8 t).length + c.utf8Size

/-- The size of characters. -/
def utf8Length (cs : List Char) : Nat := (cs.map Char.utf8Size).sum

theorem length_utf8_ofList (cs : List Char) : (utf8 (String.ofList cs)).length = utf8Length cs := by
  rw [utf8, String.toList_ofList, List.length_flatMap, utf8Length]
  congr 1
  exact List.map_congr_left fun c _ => String.length_utf8EncodeChar c

/-- A boundary is the size of the characters in front of it. -/
theorem mem_charBoundaries_iff {cs : List Char} {start b : Nat} :
    b ∈ charBoundaries start cs ↔
      ∃ front rest, cs = front ++ rest ∧ b = start + utf8Length front := by
  induction cs generalizing start with
  | nil =>
    rw [charBoundaries, List.mem_singleton]
    constructor
    · rintro rfl
      exact ⟨[], [], rfl, rfl⟩
    · rintro ⟨front, rest, hsplit, rfl⟩
      obtain ⟨rfl, -⟩ := List.append_eq_nil_iff.mp hsplit.symm
      rfl
  | cons c cs ih =>
    rw [charBoundaries, List.mem_cons, ih]
    constructor
    -- the first boundary, with nothing in front of it, or one behind the first character
    · rintro (rfl | ⟨front, rest, rfl, rfl⟩)
      · exact ⟨[], c :: cs, rfl, rfl⟩
      · refine ⟨c :: front, rest, rfl, ?_⟩
        rw [utf8Length, utf8Length, List.map_cons, List.sum_cons, Nat.add_assoc]
    · rintro ⟨front, rest, hsplit, rfl⟩
      cases front with
      | nil => exact .inl rfl
      | cons c' front =>
        obtain ⟨rfl, rfl⟩ := List.cons.inj hsplit
        refine .inr ⟨front, rest, rfl, ?_⟩
        rw [utf8Length, utf8Length, List.map_cons, List.sum_cons, Nat.add_assoc]

/-- **The search stops at the last boundary within the limit.** -/
theorem boundaryBelow_spec (cs : List Char) (limit : Nat) :
    boundaryBelow cs limit ≤ limit ∧ boundaryBelow cs limit ∈ charBoundaries 0 cs ∧
      ∀ b ∈ charBoundaries 0 cs, b ≤ limit → b ≤ boundaryBelow cs limit := by
  induction limit with
  | zero => exact ⟨Nat.le_refl 0, mem_charBoundaries_iff.mpr ⟨[], cs, rfl, rfl⟩, fun b _ hb => hb⟩
  | succ limit ih =>
    obtain ⟨hle, hmem, hlast⟩ := ih
    rw [boundaryBelow]
    split
    · next hhere => exact ⟨Nat.le_refl _, hhere, fun b _ hb => hb⟩
    · next hnone =>
      refine ⟨Nat.le_succ_of_le hle, hmem, fun b hb hlimit => hlast b hb ?_⟩
      refine Nat.le_of_lt_succ (Nat.lt_of_le_of_ne hlimit ?_)
      rintro rfl
      exact hnone hb

/-- In front of a boundary stand the characters up to it. -/
theorem charsUpTo_front (front rest : List Char) :
    charsUpTo (front ++ rest) (utf8Length front) = front := by
  induction front with
  | nil =>
    cases rest with
    | nil => rfl
    | cons c rest => exact if_pos c.utf8Size_pos
  | cons c front ih =>
    have hsize : utf8Length (c :: front) = c.utf8Size + utf8Length front := List.sum_cons
    rw [List.cons_append, charsUpTo, hsize, if_neg (by omega), Nat.add_sub_cancel_left, ih]

/-- **The cut is between two characters**, within the limit, and as late as it can be. -/
theorem clamped_clampStr (s : String) (limit : Nat) : Clamped s limit (clampStr s limit) := by
  rw [clampStr]
  split
  · next hfits => exact ⟨hfits, [], (List.append_nil _).symm, nofun⟩
  · obtain ⟨hle, hmem, hlast⟩ := boundaryBelow_spec s.toList limit
    obtain ⟨front, rest, hsplit, hb⟩ := mem_charBoundaries_iff.mp hmem
    rw [Nat.zero_add] at hb
    -- the boundary is the end of some characters, and these are what is kept
    have hfront : charsUpTo s.toList (boundaryBelow s.toList limit) = front := by
      rw [hb, hsplit, charsUpTo_front]
    rw [hfront]
    refine ⟨?_, rest, by rw [String.toList_ofList, hsplit], fun c hc => ?_⟩
    · rw [length_utf8_ofList, ← hb]
      exact hle
    · rw [length_utf8_ofList]
      by_contra hmore
      obtain ⟨rest', rfl⟩ : ∃ rest', rest = c :: rest' := by
        cases rest with
        | nil => cases hc
        | cons c' rest' => exact ⟨rest', congrArg (· :: rest') (Option.some_inj.mp hc)⟩
      -- the end of the next character would be a later boundary
      have hnext : utf8Length front + c.utf8Size ∈ charBoundaries 0 s.toList := by
        refine mem_charBoundaries_iff.mpr ⟨front ++ [c], rest', ?_, ?_⟩
        · rw [hsplit, List.append_assoc]
          rfl
        · rw [utf8Length, utf8Length, List.map_append, List.sum_append, Nat.zero_add]
          rfl
      have := hlast _ hnext (by omega)
      have := c.utf8Size_pos
      omega

example : clampStr "RSP20é" 6 = "RSP20" := by decide

/-! ## A reader of frames -/

/-- What a frame says of its sender. -/
inductive Announced where
  | silent
  | listIdentity (found : Option ListedIdentity)
  | deviceId (objects : List (UInt8 × List UInt8))
  | moduleId (records : List ModuleRecord)
  | snmp (msg : SnmpMessage)
  | lldp (units : List BeaconUnit)
  | cdp (units : List BeaconUnit)
deriving DecidableEq

/-- What a payload says, by the protocol of the device; a segment may carry nothing. -/
def announcedBy (proto : ProfileProto) (payload : List UInt8) : Option Announced :=
  if payload = [] then some .silent
  else
    match proto with
    | .enip => (decodeListIdentity payload).map .listIdentity
    | .modbus => (decodeDeviceId payload).map .deviceId
    | .s7 => (decodeS7Message payload).map .moduleId
    | .switchSnmp => (decodeSnmp payload).map .snmp

/-- The message of an 802.3 frame: the length leads to its end, and LLC and SNAP say CDP. -/
def decodeSnap (f : Frame) : Option (List UInt8) :=
  (Reader.whole (do
    let len ← Reader.number 2
    Reader.bytes len) (f.drop 12)).bind fun body =>
    if body.take 8 = [0xAA, 0xAA, 0x03, 0x00, 0x00, 0x0C, 0x20, 0x00] then some (body.drop 8)
    else none

/-- What a frame says. The total length of IPv4 and the length of UDP lead to its end. -/
def hear (proto : ProfileProto) (f : Frame) : Option Announced :=
  (parseLayout f).bind fun l =>
    if l.l3Kind = .ipv4 then
      if be16 f (l.l3 + 2) = f.length - l.l3 ∧
          (l.l4Kind = .udp → be16 f (l.l4 + 4) = f.length - l.l4) then
        (Checked.payload ⟨f, l⟩).toOption.bind (announcedBy proto)
      else none
    else if be16 f 12 = 0x88CC then (decodeLldp (f.drop 14)).map .lldp
    else ((decodeSnap f).bind decodeCdp).map .cdp

/-- A frame that is read back says what its payload says. -/
theorem hear_readsBack {proto : ProfileProto} {f : Frame} {kind : L4Kind} {srcMac dstMac : Mac}
    {src dst : Ipv4Addr} {sport dport : UInt16} {payload : List UInt8} {l : FrameLayout}
    (h : ReadsBack f kind srcMac dstMac src dst sport dport payload l) :
    hear proto f = announcedBy proto payload := by
  have hlayout : parseLayout f = some l :=
    Except.ok.inj ((Checked.parseLayout_ok f).symm.trans h.layout)
  have hlengths : be16 f (l.l3 + 2) = f.length - l.l3 ∧
      (l.l4Kind = .udp → be16 f (l.l4 + 4) = f.length - l.l4) :=
    ⟨h.ipTotal, fun hudp => h.udpLen (h.l4Kind ▸ hudp)⟩
  rw [hear, hlayout, Option.bind_some, if_pos h.l3Kind, if_pos hlengths, h.payload_eq]
  rfl

/-- **The frames of an exchange say what their payloads say**, if they fit the link. -/
theorem mapM_hear (proto : ProfileProto) {x : Exchange} (hfits : ∀ f ∈ x.frames, f.length ≤ 1514) :
    x.frames.mapM (hear proto) = (payloadsOf x).mapM (announcedBy proto) := by
  have hcarried := frames_carry x hfits
  generalize payloadsOf x = payloads, x.frames = frames at hcarried ⊢
  induction hcarried with
  | nil => rfl
  | @cons payload f payloads frames hf _ ih =>
    have hheard : hear proto f = announcedBy proto payload := by
      obtain ⟨l, hback | hback⟩ := hf
      · exact hear_readsBack hback
      · exact hear_readsBack hback
    rw [List.mapM_cons, List.mapM_cons, hheard, ih]

/-- A message of a frame that fits the link is short. -/
theorem length_message_le {e : Endpoints} {port : UInt16} {script : List (Side × List UInt8)}
    (hfits : ∀ f ∈ (Exchange.udp e port script).frames, f.length ≤ 1514) :
    ∀ m ∈ script, m.2.length ≤ 1472 := by
  refine (fits_udp e port script).mp fun n hn => ?_
  rw [← Exchange.lengths_frames] at hn
  obtain ⟨f, hf, rfl⟩ := List.mem_map.mp hn
  exact hfits f hf

/-! ## Beacons -/

/-- **An LLDP beacon says its units.** -/
theorem hear_lldpBeacon (proto : ProfileProto) (mac : Mac) (ip : Ipv4Addr)
    {systemName systemDescr : String} (hname : (utf8 systemName).length < 512)
    (hdescr : (utf8 systemDescr).length < 512) :
    hear proto (lldpBeacon mac ip systemName systemDescr) =
      some (.lldp [.value 1 (4 :: mac.bytes), .value 2 [7, 0x31], .value 3 (toBeBytes16 120),
        .value 5 (utf8 systemName), .value 6 (utf8 systemDescr), .addresses [toBeBytes ip],
        .value 0 []]) := by
  obtain ⟨l, hlayout, hother⟩ := parseLayout_lldpBeacon mac ip systemName systemDescr
  have hether : be16 (lldpBeacon mac ip systemName systemDescr) 12 = 0x88CC :=
    be16_front lldpMulticast mac ethertypeLldp (lldpUnits mac ip systemName systemDescr)
  have hunits : (lldpBeacon mac ip systemName systemDescr).drop 14 =
      lldpUnits mac ip systemName systemDescr := rfl
  rw [hear, hlayout, Option.bind_some, if_neg (by rw [hother]; decide), if_pos hether, hunits,
    decodeLldp_units mac ip hname hdescr]
  rfl

/-- **A CDP beacon says its units**, if it fits the link. -/
theorem hear_cdpBeacon (proto : ProfileProto) (mac : Mac) (ip : Ipv4Addr)
    {deviceId softwareVersion platform : String}
    (hfits : (cdpBeacon mac ip deviceId softwareVersion platform).length ≤ 1514) :
    hear proto (cdpBeacon mac ip deviceId softwareVersion platform) =
      some (.cdp [.value 1 (utf8 deviceId), .addresses [toBeBytes ip],
        .value 5 (utf8 softwareVersion), .value 6 (utf8 platform)]) := by
  obtain ⟨l, hlayout, hother⟩ := parseLayout_cdpBeacon mac ip deviceId softwareVersion platform hfits
  have hunits := @decodeCdp_message ip deviceId softwareVersion platform
  have hframe : cdpBeacon mac ip deviceId softwareVersion platform =
      snapFrame mac cdpMulticast snapOuiCisco cdpProtocolId
        (cdpMessage ip deviceId softwareVersion platform) := rfl
  rw [hframe] at hfits hlayout ⊢
  generalize cdpMessage ip deviceId softwareVersion platform = message at hfits hlayout hunits ⊢
  have hback : (snapFrame mac cdpMulticast snapOuiCisco cdpProtocolId message).drop 12 =
      toBeBytes16 (UInt16.ofNat (3 + 5 + message.length)) ++
        ([0xAA, 0xAA, 0x03, 0x00, 0x00, 0x0C, 0x20, 0x00] ++ message) := rfl
  have hfront : ([0xAA, 0xAA, 0x03, 0x00, 0x00, 0x0C, 0x20, 0x00] : List UInt8).length = 3 + 5 :=
    rfl
  have hlen := congrArg List.length hback
  rw [List.length_drop, List.length_append, List.length_append, length_toBeBytes16, hfront] at hlen
  -- the length stands where an ethertype would
  have hether : be16 (snapFrame mac cdpMulticast snapOuiCisco cdpProtocolId message) 12 =
      3 + 5 + message.length := by
    have hword := be16_front cdpMulticast mac (UInt16.ofNat (3 + 5 + message.length))
      ([0xAA, 0xAA, 0x03, 0x00, 0x00, 0x0C, 0x20, 0x00] ++ message)
    rw [toNat_ofNat16 (by omega)] at hword
    exact hword
  have hread : Reads (do
      let len ← Reader.number 2
      Reader.bytes len) (toBeBytes16 (UInt16.ofNat (3 + 5 + message.length)) ++
        ([0xAA, 0xAA, 0x03, 0x00, 0x00, 0x0C, 0x20, 0x00] ++ message))
      ([0xAA, 0xAA, 0x03, 0x00, 0x00, 0x0C, 0x20, 0x00] ++ message) :=
    (reads_be16_ofNat (by omega)).bind (Reads.bytes (by rw [List.length_append, hfront]))
  have hsnap : decodeSnap (snapFrame mac cdpMulticast snapOuiCisco cdpProtocolId message) =
      some message := by
    rw [decodeSnap, hback, hread.whole, Option.bind_some]
    exact if_pos rfl
  rw [hear, hlayout, Option.bind_some, if_neg (by rw [hother]; decide),
    if_neg (by rw [hether]; omega), hsnap, Option.bind_some, hunits (by omega)]
  rfl

/-! ## One device

What a device should say is written down from its profile, without looking at a frame: `identityOf`.
What it does say is read off its frames by the readers of the protocols. The lemmas go protocol by
protocol; the theorem is that the two agree where the frames fit the link, and that texts are cut
and never spilled into the next field.
-/

/-- A request that names no one, and the segments around it. -/
def opened (messages : List Announced) : List Announced :=
  [.silent, .silent, .silent] ++ messages ++ [.silent, .silent, .silent, .silent]

/-- What a profile should say: its texts, each cut for its field. -/
def identityOf (mac : Mac) (ip : Ipv4Addr) (profile : WireProfile) (switchBeacons : Bool)
    (nonce : UInt64) : List Announced :=
  let version := parseVersion profile.firmware
  match profile.protocol with
  | .enip =>
    [.listIdentity none,
      .listIdentity (some
        { vendorId := (profile.enipVendorId.getD 0).toNat
          deviceType := (profile.enipDeviceType.getD 0).toNat
          productCode := (profile.enipProductCode.getD 0).toNat
          revisionMajor := version.1
          revisionMinor := version.2
          serial := ip.toNat
          productName := utf8 (clampStr (profile.enipProductName.getD profile.model) 255) })]
  | .modbus =>
    opened [.deviceId [],
      .deviceId [(0, utf8 (clampStr (profile.modbusVendorName.getD profile.vendor) 255)),
        (1, utf8 (clampStr (profile.modbusProductCode.getD profile.model) 255)),
        (2, utf8 (clampStr (profile.modbusRevision.getD profile.firmware) 255))]]
  | .s7 =>
    let order := utf8 (profile.s7OrderNumber.getD profile.model)
    opened (List.replicate 5 (.moduleId []) ++
      [.moduleId [⟨order.take 20 ++ List.replicate (20 - order.length) 0x20, version.1,
        version.2⟩]])
  | .switchSnmp =>
    let descr := profile.sysDescr.getD (profile.vendor ++ " " ++ profile.model)
    let firmware := if profile.firmware = "" then none else some profile.firmware
    let firmwareOid := (firmware.map fun _ => profile.firmwareOid.getD defaultFirmwareOid).bind
      encodeOid
    let requestId : UInt32 := 0x1000 + (nonce.toUInt32 &&& 0x0fff)
    let beacons : List Announced :=
      if switchBeacons && !decide (profile.assetClass = some "Firewall" ∨
          profile.assetClass = some "Router") then
        [.lldp [.value 1 (4 :: mac.bytes), .value 2 [7, 0x31], .value 3 (toBeBytes16 120),
            .value 5 (utf8 (clampStr profile.model 511)), .value 6 (utf8 (clampStr descr 511)),
            .addresses [toBeBytes ip], .value 0 []],
          .cdp [.value 1 (utf8 profile.model), .addresses [toBeBytes ip],
            .value 5 (utf8 profile.firmware), .value 6 (utf8 profile.model)]]
      else []
    beacons ++
      [.snmp
        { version := 1, community := utf8 "public", pdu := 0xA0, requestId := requestId.toNat,
          errorStatus := 0, errorIndex := 0
          varbinds := [⟨sysDescrOid, .null⟩, ⟨sysObjectIdOid, .null⟩] ++
            firmwareOid.toList.map fun oid => ⟨oid, .null⟩ },
        .snmp
        { version := 1, community := utf8 "public", pdu := 0xA2, requestId := requestId.toNat,
          errorStatus := 0, errorIndex := 0
          varbinds := [⟨sysDescrOid, .octets (utf8 descr)⟩] ++
            ((profile.sysObjectId.bind encodeOid).toList.map fun oid =>
              ⟨sysObjectIdOid, .oid oid⟩) ++
            firmwareOid.toList.flatMap fun oid =>
              firmware.toList.map fun fw => ⟨oid, .octets (utf8 fw)⟩ }]

/-- The segments around the messages of a conversation carry nothing. -/
theorem mapM_announcedBy_tcp {proto : ProfileProto} (e : Endpoints) (port : UInt16)
    {script : List (Side × List UInt8)} {messages : List Announced}
    (h : (script.map Prod.snd).mapM (announcedBy proto) = some messages) :
    (payloadsOf (.tcp e port script)).mapM (announcedBy proto) = some (opened messages) := by
  have hpayloads : payloadsOf (.tcp e port script) =
      [[], [], []] ++ script.map Prod.snd ++ [[], [], [], []] := by
    rw [payloadsOf, transcript, List.map_append, List.map_append, List.map_map]
    rfl
  rw [hpayloads, List.mapM_append, List.mapM_append, h]
  rfl

/-- **A List Identity exchange.** -/
theorem announcedBy_enip (e : Endpoints) {id : EnipIdentity}
    (hname : (utf8 id.productName).length < 256) :
    (payloadsOf (enipIdentityExchange e id)).mapM (announcedBy .enip) =
      some [.listIdentity none, .listIdentity (some
        { vendorId := id.vendorId.toNat
          deviceType := id.deviceType.toNat
          productCode := id.productCode.toNat
          revisionMajor := id.revisionMajor
          revisionMinor := id.revisionMinor
          serial := id.serial.toNat
          productName := utf8 id.productName })] := by
  have hrequest : announcedBy .enip EnipIdentity.listIdentityRequest = some (.listIdentity none) := by
    decide
  have hreply : announcedBy .enip id.listIdentityReply =
      (decodeListIdentity id.listIdentityReply).map .listIdentity :=
    if_neg (List.cons_ne_nil _ _)
  rw [decodeListIdentity_reply hname] at hreply
  rw [enipIdentityExchange, payloadsOf, List.map_cons, List.map_cons, List.map_nil,
    List.mapM_cons, List.mapM_cons, List.mapM_nil, hrequest, hreply]
  rfl

/-- **A device identification exchange.** -/
theorem announcedBy_modbus (e : Endpoints) {id : ModbusDevId}
    (hvendor : (utf8 id.vendorName).length < 256) (hcode : (utf8 id.productCode).length < 256)
    (hrevision : (utf8 id.revision).length < 256) :
    (payloadsOf (modbusDevidExchange e 1 id)).mapM (announcedBy .modbus) =
      some (opened [.deviceId [], .deviceId [(0, utf8 id.vendorName), (1, utf8 id.productCode),
        (2, utf8 id.revision)]]) := by
  have hrequest : announcedBy .modbus (readDeviceIdRequest 1) = some (.deviceId []) := by
    decide
  have hresponse : announcedBy .modbus (readDeviceIdResponse 1 id) =
      (decodeDeviceId (readDeviceIdResponse 1 id)).map .deviceId :=
    if_neg (List.cons_ne_nil _ _)
  rw [decodeDeviceId_response 1 hvendor hcode hrevision] at hresponse
  refine mapM_announcedBy_tcp e modbusPort ?_
  rw [List.map_cons, List.map_cons, List.map_nil, List.mapM_cons, List.mapM_cons, List.mapM_nil,
    hrequest, hresponse]
  rfl

/-- **A module identification session.** -/
theorem announcedBy_s7 (e : Endpoints) (orderNumber : String) (major minor : UInt8) :
    (payloadsOf (s7SzlExchange e orderNumber major minor)).mapM (announcedBy .s7) =
      some (opened (List.replicate 5 (.moduleId []) ++
        [.moduleId [⟨(utf8 orderNumber).take 20 ++
          List.replicate (20 - (utf8 orderNumber).length) 0x20, major, minor⟩]])) := by
  have hopening : [cotpCr, cotpCc, s7SetupRequest, s7SetupResponse, readSzlRequest].mapM
      (announcedBy .s7) = some (List.replicate 5 (.moduleId [])) := by
    decide
  have hfield : overlay (List.replicate 20 0x20) (utf8 orderNumber) =
      (utf8 orderNumber).take 20 ++ List.replicate (20 - (utf8 orderNumber).length) 0x20 := by
    rw [overlay, List.length_replicate, List.drop_replicate]
  have hresponse : announcedBy .s7 (readSzlResponse orderNumber major minor) =
      (decodeS7Message (readSzlResponse orderNumber major minor)).map .moduleId :=
    if_neg (List.cons_ne_nil _ _)
  rw [decodeS7Message_readSzl, hfield] at hresponse
  refine mapM_announcedBy_tcp e s7Port ?_
  show ([cotpCr, cotpCc, s7SetupRequest, s7SetupResponse, readSzlRequest] ++
    [readSzlResponse orderNumber major minor]).mapM (announcedBy .s7) = _
  rw [List.mapM_append, hopening, List.mapM_cons, List.mapM_nil, hresponse]
  rfl

/-- **An SNMP exchange** that fits the link. -/
theorem announcedBy_snmp (e : Endpoints) (community : String) (requestId : UInt32)
    (sysDescr : String) (sysObjectId firmwareOid firmware : Option String)
    (hfits : ∀ f ∈ (snmpExchange e community requestId sysDescr sysObjectId firmwareOid
      firmware).frames, f.length ≤ 1514) :
    (payloadsOf (snmpExchange e community requestId sysDescr sysObjectId firmwareOid
        firmware)).mapM (announcedBy .switchSnmp) =
      some [.snmp
        { version := 1, community := utf8 community, pdu := 0xA0, requestId := requestId.toNat,
          errorStatus := 0, errorIndex := 0
          varbinds := [⟨sysDescrOid, .null⟩, ⟨sysObjectIdOid, .null⟩] ++
            (firmwareOid.bind encodeOid).toList.map fun oid => ⟨oid, .null⟩ },
        .snmp
        { version := 1, community := utf8 community, pdu := 0xA2, requestId := requestId.toNat,
          errorStatus := 0, errorIndex := 0
          varbinds := [⟨sysDescrOid, .octets (utf8 sysDescr)⟩] ++
            ((sysObjectId.bind encodeOid).toList.map fun oid => ⟨sysObjectIdOid, .oid oid⟩) ++
            (firmwareOid.bind encodeOid).toList.flatMap fun oid =>
              firmware.toList.map fun fw => ⟨oid, .octets (utf8 fw)⟩ }] := by
  have hshort := length_message_le hfits
  obtain ⟨hasked, hanswered⟩ := decode_snmp community requestId sysDescr sysObjectId firmwareOid
    firmware
  -- a frame of the link is short enough for the lengths of a message
  have hrequestLen := hshort (.client, getRequest community requestId firmwareOid)
    List.mem_cons_self
  have hresponseLen := hshort (.server, getResponse community requestId sysDescr sysObjectId
    firmwareOid firmware) (.tail _ List.mem_cons_self)
  dsimp only at hrequestLen hresponseLen
  have hrequest : announcedBy .switchSnmp (getRequest community requestId firmwareOid) =
      (decodeSnmp (getRequest community requestId firmwareOid)).map .snmp :=
    if_neg (List.cons_ne_nil _ _)
  have hresponse : announcedBy .switchSnmp (getResponse community requestId sysDescr sysObjectId
      firmwareOid firmware) = (decodeSnmp (getResponse community requestId sysDescr sysObjectId
        firmwareOid firmware)).map .snmp :=
    if_neg (List.cons_ne_nil _ _)
  rw [hasked (by omega)] at hrequest
  rw [hanswered (by omega)] at hresponse
  rw [snmpExchange, payloadsOf, List.map_cons, List.map_cons, List.map_nil, List.mapM_cons,
    List.mapM_cons, List.mapM_nil, hrequest, hresponse]
  rfl

/-- The beacons of a switch. -/
theorem mapM_hear_beacons (proto : ProfileProto) (mac : Mac) (ip : Ipv4Addr)
    (profile : WireProfile) (switchBeacons : Bool) (descr : String)
    (hfits : ∀ f ∈ switchBeaconsOf mac ip profile switchBeacons descr, f.length ≤ 1514) :
    (switchBeaconsOf mac ip profile switchBeacons descr).mapM (hear proto) =
      some (if switchBeacons && !decide (profile.assetClass = some "Firewall" ∨
          profile.assetClass = some "Router") then
        [.lldp [.value 1 (4 :: mac.bytes), .value 2 [7, 0x31], .value 3 (toBeBytes16 120),
            .value 5 (utf8 (clampStr profile.model 511)), .value 6 (utf8 (clampStr descr 511)),
            .addresses [toBeBytes ip], .value 0 []],
          .cdp [.value 1 (utf8 profile.model), .addresses [toBeBytes ip],
            .value 5 (utf8 profile.firmware), .value 6 (utf8 profile.model)]]
      else []) := by
  unfold switchBeaconsOf at hfits ⊢
  dsimp only at hfits ⊢
  split
  · next hsent =>
    rw [if_pos hsent] at hfits
    have hname := (clamped_clampStr profile.model 511).fits
    have hdescr := (clamped_clampStr descr 511).fits
    rw [List.mapM_cons, List.mapM_cons, List.mapM_nil,
      hear_lldpBeacon proto mac ip (Nat.lt_succ_of_le hname) (Nat.lt_succ_of_le hdescr),
      hear_cdpBeacon proto mac ip (hfits _ (.tail _ List.mem_cons_self))]
    rfl
  · rfl

/-- The session of a device, when its frames fit the link. -/
theorem mapM_hear_session {proto : ProfileProto} {x : Exchange} {messages : List Announced}
    {beacons : List Frame} (hfits : ∀ f ∈ beacons ++ x.frames, f.length ≤ 1514)
    (hspoken : (payloadsOf x).mapM (announcedBy proto) = some messages) :
    x.frames.mapM (hear proto) = some messages :=
  (mapM_hear proto fun f hf => hfits f (List.mem_append_right _ hf)).trans hspoken

/-- **A profile whose frames fit the link is read back**: every length leads to the end of what it
is the length of, and the texts are the profile's, each cut for its field between two
characters. -/
theorem assertIdentity_heard (mac : Mac) (ip clientIp : Ipv4Addr) (clientMac : Mac)
    (profile : WireProfile) (switchBeacons : Bool) (nonce : UInt64)
    (hfits : ∀ f ∈ (assertIdentity mac ip clientIp clientMac profile switchBeacons nonce).frames,
      f.length ≤ 1514) :
    (assertIdentity mac ip clientIp clientMac profile switchBeacons nonce).frames.mapM
        (hear profile.protocol) = some (identityOf mac ip profile switchBeacons nonce) ∧
      ∀ (s : String) (limit : Nat), Clamped s limit (clampStr s limit) := by
  refine ⟨?_, clamped_clampStr⟩
  have hbyte : ∀ s : String, (utf8 (clampStr s 255)).length < 256 := fun s =>
    Nat.lt_succ_of_le (clamped_clampStr s 255).fits
  unfold assertIdentity identityOf at *
  unfold Asserted.frames at *
  cases hproto : profile.protocol with
  | enip =>
    rw [hproto] at hfits
    dsimp only at hfits ⊢
    rw [List.nil_append]
    exact mapM_hear_session hfits (announcedBy_enip _ (hbyte _))
  | modbus =>
    rw [hproto] at hfits
    dsimp only at hfits ⊢
    rw [List.nil_append]
    exact mapM_hear_session hfits (announcedBy_modbus _ (hbyte _) (hbyte _) (hbyte _))
  | s7 =>
    rw [hproto] at hfits
    dsimp only at hfits ⊢
    rw [List.nil_append]
    exact mapM_hear_session hfits (announcedBy_s7 _ _ _ _)
  | switchSnmp =>
    rw [hproto] at hfits
    -- the beacons go first, then the session; each of them fits because all do
    have hbeacons := mapM_hear_beacons .switchSnmp mac ip profile switchBeacons
      (profile.sysDescr.getD (profile.vendor ++ " " ++ profile.model)) fun f hf =>
        hfits f (List.mem_append_left _ hf)
    have hsession := mapM_hear_session hfits (announcedBy_snmp _ _ _ _ _ _ _ fun f hf =>
      hfits f (List.mem_append_right _ hf))
    dsimp only
    rw [List.mapM_append, hbeacons, hsession]
    rfl

/-- A managed switch. -/
def cellSwitch : WireProfile :=
  { vendor := "Hirschmann"
    model := "RSP20"
    firmware := "8.7"
    protocol := .switchSnmp
    purdueLevel := 1
    oui := none
    cves := []
    assetClass := some "Switch" }

theorem assertIdentity_heard_switch :
    let heard := assertIdentity ⟨0x00, 0x80, 0x63, 1, 2, 3⟩ 0x0A020009 0x0A020003
      ⟨2, 0, 0, 0, 0, 1⟩ cellSwitch true 7
    (∀ f ∈ heard.frames, f.length ≤ 1514) ∧
      heard.frames.mapM (hear .switchSnmp) =
        some (identityOf ⟨0x00, 0x80, 0x63, 1, 2, 3⟩ 0x0A020009 cellSwitch true 7) :=
  have hfits : ∀ f ∈ (assertIdentity ⟨0x00, 0x80, 0x63, 1, 2, 3⟩ 0x0A020009 0x0A020003
      ⟨2, 0, 0, 0, 0, 1⟩ cellSwitch true 7).frames, f.length ≤ 1514 := by decide +kernel
  ⟨hfits, (assertIdentity_heard _ _ _ _ _ _ _ hfits).1⟩

end TurboLaser
