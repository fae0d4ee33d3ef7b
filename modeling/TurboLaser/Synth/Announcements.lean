import TurboLaser.Synth.Builders
import TurboLaser.Synth.EnipIdentity
import TurboLaser.Synth.Fieldbus

/-!
# Announcements (synth/lldp.rs, synth/cdp.rs, synth/modbus_devid.rs, synth/enip_identity.rs)

A switch announces itself by LLDP and CDP beacons, which no one asks for; a controller answers a
discovery tool, by a List Identity reply or a device identification response.

Beacons are layer-two frames, and the daemon sends them beside ARP and IPv4. What matters to the
rest of the development is that they are not taken for anything else by the parsers, so that
counting ARP frames or reading conversations is not disturbed by them. For LLDP that is its
ethertype. A CDP frame has a length where other frames have an ethertype, and only its being short
keeps it from being read as one.

- `parseLayout_lldpBeacon`, `parseLayout_cdpBeacon`: **a beacon is no IPv4 frame**, as long as it
  fits the link: the length that a CDP beacon has in place of an ethertype stays below one;
- `frames_carry`: **the frames of an exchange carry its payloads**, one by one, each read back as
  one between its two ends, for every exchange whose frames fit the link. Over TCP the handshake and
  the close carry nothing, and over UDP each payload is a frame.
-/

namespace TurboLaser.Synth

open Lib

/-! ## LLDP -/

/-- `LLDP_MULTICAST`. -/
def lldpMulticast : Mac := ⟨0x01, 0x80, 0xC2, 0x00, 0x00, 0x0E⟩

/-- `ETHERTYPE_LLDP`. -/
def ethertypeLldp : UInt16 := 0x88CC

/-- `tlv` of LLDP: a 7-bit type and a 9-bit length in two bytes. -/
def lldpTlv (t : UInt16) (value : List UInt8) : List UInt8 :=
  toBeBytes16 ((t <<< 9) ||| (UInt16.ofNat value.length &&& 0x01ff)) ++ value

/-- `mgmt_address`. -/
def mgmtAddress (ip : Ipv4Addr) : List UInt8 := [5, 1] ++ toBeBytes ip ++ [2] ++ toBeBytes 1 ++ [0]

/-- The units of an LLDP beacon: chassis, port, time to live, system name and description,
management address, end. -/
def lldpUnits (switchMac : Mac) (mgmtIp : Ipv4Addr) (systemName systemDescr : String) :
    List UInt8 :=
  lldpTlv 1 (4 :: switchMac.bytes) ++ lldpTlv 2 [7, 0x31] ++ lldpTlv 3 (toBeBytes16 120) ++
    lldpTlv 5 (utf8 systemName) ++ lldpTlv 6 (utf8 systemDescr) ++ lldpTlv 8 (mgmtAddress mgmtIp) ++
    lldpTlv 0 []

/-- `lldp::beacon`. -/
def lldpBeacon (switchMac : Mac) (mgmtIp : Ipv4Addr) (systemName systemDescr : String) : Frame :=
  l2Frame switchMac lldpMulticast ethertypeLldp (lldpUnits switchMac mgmtIp systemName systemDescr)

/-! ## CDP -/

/-- `CDP_MULTICAST`. -/
def cdpMulticast : Mac := ⟨0x01, 0x00, 0x0C, 0xCC, 0xCC, 0xCC⟩

/-- `SNAP_OUI_CISCO`. -/
def snapOuiCisco : List UInt8 := [0x00, 0x00, 0x0C]

/-- `CDP_PROTOCOL_ID`. -/
def cdpProtocolId : UInt16 := 0x2000

/-- `snap_frame`: the length of what follows stands where an ethertype would. -/
def snapFrame (srcMac dstMac : Mac) (oui : List UInt8) (protocolId : UInt16)
    (payload : List UInt8) : Frame :=
  dstMac.bytes ++ srcMac.bytes ++ toBeBytes16 (UInt16.ofNat (3 + 5 + payload.length)) ++
    [0xAA, 0xAA, 0x03] ++ oui ++ toBeBytes16 protocolId ++ payload

/-- `tlv` of CDP: the length covers the four bytes of the header. -/
def cdpTlv (t : UInt16) (value : List UInt8) : List UInt8 :=
  toBeBytes16 t ++ toBeBytes16 (UInt16.ofNat (4 + value.length)) ++ value

/-- `addresses`. -/
def cdpAddresses (ip : Ipv4Addr) : List UInt8 :=
  toBeBytes 1 ++ [1, 1, 0xCC] ++ toBeBytes16 4 ++ toBeBytes ip

/-- The sum of the CDP checksum: an odd last byte is sign-extended. -/
def cdpSum : List UInt8 → Nat
  | hi :: lo :: rest => hi.toNat * 256 + lo.toNat + cdpSum rest
  | [b] => if 128 ≤ b.toNat then 0xFF00 ||| b.toNat else b.toNat * 256
  | [] => 0

/-- `checksum` of CDP. -/
def cdpChecksum (data : List UInt8) : UInt16 := UInt16.ofNat (0xffff - fold (cdpSum data))

/-- The message of a CDP beacon: version, time to live, checksum, and the units. -/
def cdpMessage (mgmtIp : Ipv4Addr) (deviceId softwareVersion platform : String) : List UInt8 :=
  let tlvs := cdpTlv 0x0001 (utf8 deviceId) ++ cdpTlv 0x0002 (cdpAddresses mgmtIp) ++
    cdpTlv 0x0005 (utf8 softwareVersion) ++ cdpTlv 0x0006 (utf8 platform)
  let pdu := [2, 180, 0x00, 0x00] ++ tlvs
  write pdu 2 (toBeBytes16 (cdpChecksum pdu))

/-- `cdp::beacon`. -/
def cdpBeacon (switchMac : Mac) (mgmtIp : Ipv4Addr) (deviceId softwareVersion platform : String) :
    Frame :=
  snapFrame switchMac cdpMulticast snapOuiCisco cdpProtocolId
    (cdpMessage mgmtIp deviceId softwareVersion platform)

/-! ## Modbus device identification -/

/-- `ModbusDevId`. -/
structure ModbusDevId where
  vendorName : String
  productCode : String
  revision : String
deriving DecidableEq

/-- `read_device_id_request`. -/
def readDeviceIdRequest (unit : UInt8) : List UInt8 := mbap unit [0x2B, 0x0E, 0x01, 0x00]

/-- One identification object: its id, the length of its text, and the text. -/
def devIdObject (oid : UInt8) (val : String) : List UInt8 :=
  [oid, UInt8.ofNat (utf8 val).length] ++ utf8 val

/-- `read_device_id_response`: the three basic objects. -/
def readDeviceIdResponse (unit : UInt8) (id : ModbusDevId) : List UInt8 :=
  mbap unit ([0x2B, 0x0E, 0x01, 0x01, 0x00, 0x00, 0x03] ++ devIdObject 0 id.vendorName ++
    devIdObject 1 id.productCode ++ devIdObject 2 id.revision)

/-- `modbus_devid::exchange`. -/
def modbusDevidExchange (e : Endpoints) (unit : UInt8) (id : ModbusDevId) : Exchange :=
  requestResponse e modbusPort (readDeviceIdRequest unit) (readDeviceIdResponse unit id)

/-! ## List Identity -/

/-- `enip_identity::exchange`: connectionless, over UDP. -/
def enipIdentityExchange (e : Endpoints) (id : EnipIdentity) : Exchange :=
  .udp e enipPort
    [(.client, EnipIdentity.listIdentityRequest), (.server, id.listIdentityReply)]

/-! ## Beacons are no IPv4 frames -/

/-- A frame whose ethertype is no tag and not that of IPv4 has nothing behind its header. -/
theorem parseLayout_not_ipv4 {buf : List UInt8} (hlen : 14 ≤ buf.length)
    (htag : be16 buf 12 ≠ 0x8100 ∧ be16 buf 12 ≠ 0x88a8) (hether : be16 buf 12 ≠ 0x0800) :
    parseLayout buf = some { l3 := 14, l3Kind := .other, ihl := 0, l4 := 14, l4Kind := .other,
                             payload := 14, stop := buf.length } := by
  unfold parseLayout
  rw [if_neg (by omega), skipVlan, if_neg (by rw [not_or]; exact htag)]
  exact if_neg hether

/-- The word behind two hardware addresses. -/
theorem be16_front (a b : Mac) (x : UInt16) (rest : List UInt8) :
    be16 (a.bytes ++ b.bytes ++ toBeBytes16 x ++ rest) 12 = x.toNat := by
  refine be16_of_bytes ?_ ?_
  · rfl
  · rfl

/-- **An LLDP beacon is no IPv4 frame.** -/
theorem parseLayout_lldpBeacon (switchMac : Mac) (mgmtIp : Ipv4Addr)
    (systemName systemDescr : String) :
    ∃ l, parseLayout (lldpBeacon switchMac mgmtIp systemName systemDescr) = some l ∧
      l.l3Kind = .other := by
  have hether := be16_front lldpMulticast switchMac ethertypeLldp
    (lldpUnits switchMac mgmtIp systemName systemDescr)
  refine ⟨_, parseLayout_not_ipv4 ?_ ?_ ?_, rfl⟩
  · simp [lldpBeacon, l2Frame, ethernetHeader, toBeBytes16]
    omega
  · exact ⟨by rw [lldpBeacon, l2Frame, ethernetHeader, hether]; decide,
      by rw [lldpBeacon, l2Frame, ethernetHeader, hether]; decide⟩
  · rw [lldpBeacon, l2Frame, ethernetHeader, hether]
    decide

/-- **A CDP beacon that fits the link is none either**: its length is below every ethertype. -/
theorem parseLayout_cdpBeacon (switchMac : Mac) (mgmtIp : Ipv4Addr)
    (deviceId softwareVersion platform : String)
    (hlen : (cdpBeacon switchMac mgmtIp deviceId softwareVersion platform).length ≤ 1514) :
    ∃ l, parseLayout (cdpBeacon switchMac mgmtIp deviceId softwareVersion platform) = some l ∧
      l.l3Kind = .other := by
  have hfront : cdpBeacon switchMac mgmtIp deviceId softwareVersion platform =
      cdpMulticast.bytes ++ switchMac.bytes ++ toBeBytes16 (UInt16.ofNat (3 + 5 +
        (cdpMessage mgmtIp deviceId softwareVersion platform).length)) ++
        ([0xAA, 0xAA, 0x03] ++ snapOuiCisco ++ toBeBytes16 cdpProtocolId ++
          cdpMessage mgmtIp deviceId softwareVersion platform) := by
    simp only [cdpBeacon, snapFrame, List.append_assoc]
  rw [hfront] at hlen ⊢
  generalize cdpMessage mgmtIp deviceId softwareVersion platform = message at hlen ⊢
  have hether := be16_front cdpMulticast switchMac (UInt16.ofNat (3 + 5 + message.length))
    ([0xAA, 0xAA, 0x03] ++ snapOuiCisco ++ toBeBytes16 cdpProtocolId ++ message)
  simp only [List.length_append, Mac.length_bytes, toBeBytes16, snapOuiCisco, List.length_cons,
    List.length_nil] at hlen
  rw [UInt16.toNat_ofNat', Nat.mod_eq_of_lt (by omega)] at hether
  refine ⟨_, parseLayout_not_ipv4 ?_ ?_ ?_, rfl⟩
  · simp [toBeBytes16, snapOuiCisco]
    omega
  · rw [hether]
    omega
  · rw [hether]
    omega

/-! ## Exchanges -/

/-- The ends of an exchange. -/
def Exchange.ends : Exchange → Endpoints
  | .tcp e _ _ => e
  | .udp e _ _ => e

/-- The port its server answers at. -/
def Exchange.serverPort : Exchange → UInt16
  | .tcp _ port _ => port
  | .udp _ port _ => port

/-- The transport it runs over. -/
def Exchange.transport : Exchange → L4Kind
  | .tcp _ _ _ => .tcp
  | .udp _ _ _ => .udp

/-- The payloads of its frames, in send order. -/
def payloadsOf : Exchange → List (List UInt8)
  | .tcp _ _ script => (transcript script).map Said.payload
  | .udp _ _ script => script.map Prod.snd

/-- A frame is read back with a payload, as one from the client to the server, or the other way. -/
def Carries (x : Exchange) (payload : List UInt8) (f : Frame) : Prop :=
  ∃ l,
    ReadsBack f x.transport x.ends.clientMac x.ends.serverMac x.ends.clientIp x.ends.serverIp
        x.ends.clientPort x.serverPort payload l ∨
      ReadsBack f x.transport x.ends.serverMac x.ends.clientMac x.ends.serverIp x.ends.clientIp
        x.serverPort x.ends.clientPort payload l

theorem forall₂_of_mem {α β : Type} {r s : α → β → Prop} {xs : List α} {ys : List β}
    (h : List.Forall₂ r xs ys) (hrs : ∀ x, ∀ y ∈ ys, r x y → s x y) : List.Forall₂ s xs ys := by
  induction h with
  | nil => exact .nil
  | cons hxy _ ih =>
    exact .cons (hrs _ _ List.mem_cons_self hxy) (ih fun x y hy => hrs x y (.tail _ hy))

theorem exists_of_forall₂ {α β : Type} {r : α → β → Prop} {xs : List α} {ys : List β}
    (h : List.Forall₂ r xs ys) {y : β} (hy : y ∈ ys) : ∃ x, r x y := by
  induction h with
  | nil => cases hy
  | cons hxy _ ih =>
    rcases List.mem_cons.mp hy with rfl | hy
    · exact ⟨_, hxy⟩
    · exact ih hy

/-- A segment that fits the link carries what was said. -/
theorem carries_segment {e : Endpoints} {port : UInt16} (script : List (Side × List UInt8))
    {m : Said} {f : Frame} (h : SegmentOf e port m f) (hlen : f.length ≤ 1514) :
    Carries (.tcp e port script) m.payload f := by
  obtain ⟨seq, ack, rfl⟩ := h
  unfold Endpoints.segment at hlen ⊢
  cases hside : m.side with
  | client =>
    rw [hside] at hlen
    exact ⟨_, .inl ((frames_readBack _ _ _ _ _ _ _ seq ack m.flags).2 hlen)⟩
  | server =>
    rw [hside] at hlen
    exact ⟨_, .inr ((frames_readBack _ _ _ _ _ _ _ seq ack m.flags).2 hlen)⟩

/-- So does a datagram. -/
theorem carries_datagram {e : Endpoints} {port : UInt16} (script : List (Side × List UInt8))
    {side : Side} {payload : List UInt8} (hlen : (e.datagram port side payload).length ≤ 1514) :
    Carries (.udp e port script) payload (e.datagram port side payload) := by
  unfold Endpoints.datagram at hlen ⊢
  cases side with
  | client => exact ⟨_, .inl ((frames_readBack _ _ _ _ _ _ _ 0 0 0).1 hlen)⟩
  | server => exact ⟨_, .inr ((frames_readBack _ _ _ _ _ _ _ 0 0 0).1 hlen)⟩

/-- **The frames of an exchange carry its payloads**, one by one. -/
theorem frames_carry (x : Exchange) (hfits : ∀ f ∈ x.frames, f.length ≤ 1514) :
    List.Forall₂ (Carries x) (payloadsOf x) x.frames := by
  cases x with
  | tcp e port script =>
    rw [payloadsOf, List.forall₂_map_left_iff]
    exact forall₂_of_mem (converse_spec e port script) fun _ f hf hsegment =>
      carries_segment script hsegment (hfits f hf)
  | udp e port script =>
    have hframes : (Exchange.udp e port script).frames =
        script.map fun m => e.datagram port m.1 m.2 := rfl
    rw [hframes] at hfits ⊢
    rw [payloadsOf, List.forall₂_map_left_iff, List.forall₂_map_right_iff, List.forall₂_same]
    exact fun m hm => carries_datagram script (hfits _ (List.mem_map_of_mem hm))

end TurboLaser.Synth
