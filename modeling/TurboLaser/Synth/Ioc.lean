import TurboLaser.Synth.Session
import TurboLaser.Text

/-!
# Indicators of compromise (synth/ioc.rs, synth/dns.rs)

The non-OT artifacts around a scenario's actions: a DNS lookup of the actor's domain and an HTTP
contact to its address, an inbound remote-access session, a write to a network share, and a
converter's firmware overwrite. Domains and shares are texts of any length, and go onto the wire in
one frame each.

A playbook may set domain and share, and no check bounds them: a long share makes a frame that is
longer than the link takes, and the daemon then leaves it out of the burst. That is why the sizes of
these messages matter (`Synth.Sizes`, `Scenario.FrameSizes`) and why they are modelled with every
header. The indicators themselves are replaced in stand-in mode, in `Scenario.Render`; the builders
here write what they are given.
-/

namespace TurboLaser.Synth

open Lib

/-! ## DNS -/

/-- `DNS_PORT`. -/
def dnsPort : UInt16 := 53

/-- One label: its length and its bytes, clamped to 63. -/
def encodeLabel (label : List Char) : List UInt8 :=
  let bytes := label.flatMap String.utf8EncodeChar
  let len := min bytes.length 63
  [UInt8.ofNat len] ++ bytes.take len

/-- `encode_name`: the labels between the dots, empty ones left out, and the root label. -/
def encodeName (name : String) : List UInt8 :=
  ((name.toList.splitOn '.').filter fun l => !l.isEmpty).flatMap encodeLabel ++ [0]

/-- `query_payload`. -/
def dnsQueryPayload (qid : UInt16) (hostname : String) : List UInt8 :=
  toBeBytes16 qid ++ toBeBytes16 0x0100 ++ toBeBytes16 1 ++ [0, 0, 0, 0, 0, 0] ++
    encodeName hostname ++ toBeBytes16 1 ++ toBeBytes16 1

/-- `response_payload`: the question, and one answer pointing back to its name. -/
def dnsResponsePayload (qid : UInt16) (hostname : String) (answerIp : Ipv4Addr) : List UInt8 :=
  toBeBytes16 qid ++ toBeBytes16 0x8180 ++ toBeBytes16 1 ++ toBeBytes16 1 ++ [0, 0, 0, 0] ++
    encodeName hostname ++ toBeBytes16 1 ++ toBeBytes16 1 ++ toBeBytes16 0xC00C ++
    toBeBytes16 1 ++ toBeBytes16 1 ++ toBeBytes 300 ++ toBeBytes16 4 ++ toBeBytes answerIp

/-- `dns::query` and `dns::response`. -/
def dnsExchange (e : Endpoints) (qid : UInt16) (hostname : String) (answerIp : Ipv4Addr) :
    Exchange :=
  .udp e dnsPort
    [(.client, dnsQueryPayload qid hostname), (.server, dnsResponsePayload qid hostname answerIp)]

/-! ## Injectors -/

/-- `C2Target`. -/
structure C2Target where
  domain : String
  ip : Ipv4Addr
  port : UInt16

/-- The HTTP request of a beacon. -/
def c2Request (domain : String) : List UInt8 :=
  utf8 ("GET /ping HTTP/1.1\r\nHost: " ++ domain ++ "\r\nUser-Agent: \r\n\r\n")

/-- `c2_beacon`: resolve the actor's domain, then contact its address through the
gateway, from the next client port. -/
def c2Beacon (hostMac : Mac) (hostIp : Ipv4Addr) (resolverMac : Mac) (resolverIp : Ipv4Addr)
    (gatewayMac : Mac) (c2 : C2Target) (clientPort qid : UInt16) : List Exchange :=
  [dnsExchange ⟨hostMac, resolverMac, hostIp, resolverIp, clientPort⟩ qid c2.domain c2.ip,
    .tcp ⟨hostMac, gatewayMac, hostIp, c2.ip, (clientPort + 1) ||| 0xc000⟩ c2.port
      [(.client, c2Request c2.domain),
        (.server, utf8 "HTTP/1.1 200 OK\r\nContent-Length: 0\r\n\r\n")]]

/-- `remote_access`: the external host is the client. -/
def remoteAccess (gatewayMac : Mac) (externalIp : Ipv4Addr) (hostMac : Mac) (hostIp : Ipv4Addr)
    (externalPort accessPort : UInt16) : Exchange :=
  .tcp ⟨gatewayMac, hostMac, externalIp, hostIp, externalPort⟩ accessPort
    [(.client, [0x17, 0x24, 0x00, 0x00] ++ utf8 "remote-control-init"),
      (.server, [0x17, 0x24, 0x00, 0x00] ++ utf8 "remote-control-ack"),
      (.client, [0x17, 0x24, 0x00, 0x00] ++ utf8 "session-active")]

/-- `smb2_header`. -/
def smb2Header (command : UInt16) (flags : UInt32) (messageId : UInt64) : List UInt8 :=
  [0xfe, 0x53, 0x4d, 0x42] ++ toLeBytes16 64 ++ toLeBytes16 0 ++ toLeBytes32 0 ++
    toLeBytes16 command ++ toLeBytes16 1 ++ toLeBytes32 flags ++ toLeBytes32 0 ++
    toLeBytes64 messageId ++ toLeBytes32 0 ++ toLeBytes32 0 ++ toLeBytes64 0 ++
    List.replicate 16 0

/-- `nbss`: type 0 and a 3-byte length. -/
def nbss (smb : List UInt8) : List UInt8 :=
  let len := smb.length
  [0x00] ++ [UInt8.ofNat (len / 65536), UInt8.ofNat (len / 256 % 256), UInt8.ofNat (len % 256)] ++
    smb

/-- `smb2_write`: a WRITE request whose buffer is the share path. -/
def smb2Write (share : String) : List UInt8 :=
  let data := utf8 share
  nbss (smb2Header 0x0009 0 1 ++ toLeBytes16 49 ++ toLeBytes16 (64 + 48) ++
    toLeBytes32 (UInt32.ofNat data.length) ++ toLeBytes64 0 ++ List.replicate 16 0xff ++
    toLeBytes32 0 ++ toLeBytes32 0 ++ toLeBytes16 0 ++ toLeBytes16 0 ++ toLeBytes32 0 ++ data)

/-- `smb2_write_response`. -/
def smb2WriteResponse (count : UInt32) : List UInt8 :=
  nbss (smb2Header 0x0009 0x00000001 1 ++ toLeBytes16 17 ++ toLeBytes16 0 ++ toLeBytes32 count ++
    toLeBytes32 0 ++ toLeBytes16 0 ++ toLeBytes16 0)

/-- `smb_share_write`. -/
def smbShareWrite (e : Endpoints) (share : String) : Exchange :=
  .tcp e 445
    [(.client, smb2Write share),
      (.server, smb2WriteResponse (UInt32.ofNat (utf8 share).length))]

/-- `moxa_brick`: a firmware write to the admin port, and its acknowledgement. -/
def moxaBrick (e : Endpoints) (firmwareChunk : List UInt8) : Exchange :=
  .udp e 4800
    [(.client, [0x19, 0x00] ++ toLeBytes16 (UInt16.ofNat firmwareChunk.length) ++ firmwareChunk),
      (.server, [0x19, 0x80, 0x00, 0x00])]

end TurboLaser.Synth
