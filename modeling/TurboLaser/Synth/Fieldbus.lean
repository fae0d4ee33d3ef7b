import TurboLaser.Lib.Chunks
import TurboLaser.Synth.Session
import TurboLaser.Text

/-!
# Fieldbus and controller commands

The messages of four protocols, each built as the source builds it, octet by octet, with the lengths
that the source computes:

- Modbus register writes (synth/modbus_write.rs, `mbap` of synth/modbus_devid.rs);
- EtherNet/IP explicit messages (synth/enip_cip.rs): a session is registered, and a service is sent
  to a path of class, instance and attribute;
- the OPC-UA handshake (synth/opcua.rs), hello and acknowledge with their buffers;
- TriStation over UDP (synth/tristation.rs), whose messages end in a sum and whose downloads are
  numbered.

Nothing is proved here. What a dissector makes of these messages is in `Synth.Reference` and
`Synth.TriStation`, how long they are in `Synth.Sizes`.
-/

namespace TurboLaser.Synth

open Lib

/-! ## Modbus -/

/-- `MODBUS_PORT`. -/
def modbusPort : UInt16 := 502

/-- `mbap`: transaction and protocol id, the length of unit id and PDU, the unit id. -/
def mbap (unit : UInt8) (pdu : List UInt8) : List UInt8 :=
  toBeBytes16 0x0001 ++ toBeBytes16 0x0000 ++ toBeBytes16 (UInt16.ofNat (pdu.length + 1)) ++
    [unit] ++ pdu

/-- `write_single_request`. -/
def writeSingleRequest (unit : UInt8) (addr value : UInt16) : List UInt8 :=
  mbap unit ([0x06] ++ toBeBytes16 addr ++ toBeBytes16 value)

/-- `write_single_response`: the request, echoed. -/
def writeSingleResponse (unit : UInt8) (addr value : UInt16) : List UInt8 :=
  writeSingleRequest unit addr value

/-- `write_single_register`. -/
def writeSingleRegister (e : Endpoints) (unit : UInt8) (addr value : UInt16) : Exchange :=
  requestResponse e modbusPort (writeSingleRequest unit addr value)
    (writeSingleResponse unit addr value)

/-! ## EtherNet/IP -/

/-- `ENIP_PORT`. -/
def enipPort : UInt16 := 44818

/-- `CMD_REGISTER_SESSION`. -/
def cmdRegisterSession : UInt16 := 0x0065

/-- `CMD_SEND_RR_DATA`. -/
def cmdSendRrData : UInt16 := 0x006F

/-- `encap`: a 24-byte encapsulation header with a session handle. -/
def encap (command : UInt16) (session : UInt32) (body : List UInt8) : List UInt8 :=
  toLeBytes16 command ++ toLeBytes16 (UInt16.ofNat body.length) ++ toLeBytes32 session ++
    List.replicate 4 0 ++ List.replicate 8 0 ++ List.replicate 4 0 ++ body

/-- `register_body`. -/
def registerBody : List UInt8 := [0x01, 0x00, 0x00, 0x00]

/-- `send_rr_data`: a null address item and an unconnected data item. -/
def sendRrData (session : UInt32) (cip : List UInt8) : List UInt8 :=
  encap cmdSendRrData session
    (toLeBytes32 0 ++ toLeBytes16 0 ++ toLeBytes16 2 ++ toLeBytes16 0x0000 ++ toLeBytes16 0 ++
      toLeBytes16 0x00B2 ++ toLeBytes16 (UInt16.ofNat cip.length) ++ cip)

/-- `epath`: three 8-bit logical segments. -/
def epath (cls inst attr : UInt8) : List UInt8 := [0x20, cls, 0x24, inst, 0x30, attr]

/-- `cip_request`: service, path size in words, path, data. -/
def cipRequest (service : UInt8) (path data : List UInt8) : List UInt8 :=
  [service, UInt8.ofNat (path.length / 2)] ++ path ++ data

/-- `cip_response`. -/
def cipResponse (service : UInt8) (data : List UInt8) : List UInt8 :=
  [service ||| 0x80, 0x00, 0x00, 0x00] ++ data

/-- `cip_exchange`: RegisterSession, then one request and its response. -/
def cipExchange (e : Endpoints) (req resp : List UInt8) : Exchange :=
  let session : UInt32 := 0x00001A2B
  .tcp e enipPort
    [(.client, encap cmdRegisterSession 0 registerBody),
      (.server, encap cmdRegisterSession session registerBody),
      (.client, sendRrData session req),
      (.server, sendRrData session resp)]

/-- `SVC_SET_ATTR_SINGLE`. -/
def svcSetAttrSingle : UInt8 := 0x10

/-- `SVC_GET_ATTR_SINGLE`. -/
def svcGetAttrSingle : UInt8 := 0x0E

/-- `get_attribute`: attribute 1 of the identity object. -/
def getAttribute (e : Endpoints) : Exchange :=
  cipExchange e (cipRequest svcGetAttrSingle (epath 0x01 0x01 0x01) [])
    (cipResponse svcGetAttrSingle (toLeBytes16 1))

/-- `set_attribute`: an attribute of the assembly object. -/
def setAttribute (e : Endpoints) (attr : UInt8) (value : UInt16) : Exchange :=
  cipExchange e (cipRequest svcSetAttrSingle (epath 0x04 0x01 attr) (toLeBytes16 value))
    (cipResponse svcSetAttrSingle [])

/-! ## OPC-UA -/

/-- `OPCUA_PORT`. -/
def opcuaPort : UInt16 := 4840

/-- `message`: type, final-chunk marker, size, body. -/
def opcuaMessage (mtype body : List UInt8) : List UInt8 :=
  mtype ++ [0x46] ++ toLeBytes32 (UInt32.ofNat (8 + body.length)) ++ body

/-- `opcua_string`. -/
def opcuaString (s : String) : List UInt8 := toLeBytes32 (UInt32.ofNat (utf8 s).length) ++ utf8 s

/-- `buffers`. -/
def opcuaBuffers : List UInt8 := ([0, 65535, 65535, 0, 0] : List UInt32).flatMap toLeBytes32

/-- `hello`. -/
def opcuaHello (url : String) : List UInt8 :=
  opcuaMessage (utf8 "HEL") (opcuaBuffers ++ opcuaString url)

/-- `acknowledge`. -/
def opcuaAcknowledge : List UInt8 := opcuaMessage (utf8 "ACK") opcuaBuffers

/-- `opcua::read`. -/
def opcuaRead (e : Endpoints) : Exchange :=
  let url := "opc.tcp://" ++ showIpv4Addr e.serverIp ++ ":4840"
  .tcp e opcuaPort [(.client, opcuaHello url), (.server, opcuaAcknowledge)]

/-! ## TriStation -/

/-- `TRISTATION_PORT`. -/
def tristationPort : UInt16 := 1502

/-- `ts_message`: type, length, body, a 16-bit sum. -/
def tsMessage (msgType : UInt16) (body : List UInt8) : List UInt8 :=
  let m := toLeBytes16 msgType ++ toLeBytes16 (UInt16.ofNat body.length) ++ body
  m ++ toLeBytes16 (m.foldl (fun a b => a + UInt16.ofNat b.toNat) 0)

/-- `get_cp_status`. -/
def getCpStatus (e : Endpoints) : Exchange :=
  .udp e tristationPort
    [(.client, tsMessage 0x0005 []), (.server, tsMessage 0x0105 [0x00, 0x10])]

/-- `tristation::program_download`: allocate, download in chunks, set the program state. -/
def tsProgramDownload (e : Endpoints) (payload : List UInt8) (chunk : Nat) : Exchange :=
  let chunk := max chunk 1
  .udp e tristationPort
    ([(.client, tsMessage 0x0003 (toLeBytes32 (UInt32.ofNat payload.length))),
        (.server, tsMessage 0x0103 [0x00])] ++
      (chunks chunk payload).zipIdx.flatMap (fun c =>
        [(.client, tsMessage 0x000e (toLeBytes16 (UInt16.ofNat c.2) ++ c.1)),
          (.server, tsMessage 0x010e [0x00])]) ++
      [(.client, tsMessage 0x000d [0x01]), (.server, tsMessage 0x010d [0x00])])

end TurboLaser.Synth
