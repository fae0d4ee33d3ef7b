import TurboLaser.Synth.Session
import TurboLaser.Text

/-!
# S7comm (synth/s7_common.rs, synth/s7_szl.rs, synth/s7_control.rs)

Every S7 session opens with a COTP connection and a SetupCommunication exchange; what follows are
job and acknowledgement messages framed in TPKT and COTP. The builders are the SZL identity read and
the control-plane actions: PLC STOP, Write-Var and the block program download.

Messages are lists of octets as in the source, where they are literals with a few places overwritten
(`overlay`). The download sends one block between a request and an end, each of the three
acknowledged; the name of the block is laid over a descriptor of nine characters, so a longer name
is cut.

Nothing is proved here but the lengths of the frames around a message. What a dissector reads is in
`Synth.Reference`, the identity in `Synth.Identities`.
-/

namespace TurboLaser.Synth

open Lib

/-! ## Shared framing (s7_common.rs) -/

/-- `S7_PORT`. -/
def s7Port : UInt16 := 102

/-- `COTP_DT`. -/
def cotpDt : List UInt8 := [0x02, 0xf0, 0x80]

/-- `tpkt`. -/
def tpkt (cotp : List UInt8) : List UInt8 :=
  let total := 4 + cotp.length
  [0x03, 0x00, UInt8.ofNat (total / 256), UInt8.ofNat (total % 256)] ++ cotp

/-- `tpkt_cotp`. -/
def tpktCotp (s7 : List UInt8) : List UInt8 := tpkt (cotpDt ++ s7)

/-- `cotp_cr`. -/
def cotpCr : List UInt8 :=
  tpkt [0x11, 0xe0, 0x00, 0x00, 0x00, 0x01, 0x00, 0xc0, 0x01, 0x0a, 0xc1, 0x02, 0x01, 0x00,
    0xc2, 0x02, 0x01, 0x02]

/-- `cotp_cc`. -/
def cotpCc : List UInt8 :=
  tpkt [0x11, 0xd0, 0x00, 0x01, 0x00, 0x02, 0x00, 0xc0, 0x01, 0x0a, 0xc1, 0x02, 0x01, 0x02,
    0xc2, 0x02, 0x01, 0x00]

/-- `s7_setup_request`. -/
def s7SetupRequest : List UInt8 :=
  tpktCotp [0x32, 0x01, 0x00, 0x00, 0x00, 0x00, 0x00, 0x08, 0x00, 0x00, 0xf0, 0x00, 0x00, 0x01,
    0x00, 0x01, 0x01, 0xe0]

/-- `s7_setup_response`. -/
def s7SetupResponse : List UInt8 :=
  tpktCotp [0x32, 0x03, 0x00, 0x00, 0x00, 0x00, 0x00, 0x08, 0x00, 0x00, 0x00, 0x00, 0xf0, 0x00,
    0x00, 0x01, 0x00, 0x01, 0x00, 0xf0]

/-- `s7_session`: the request and response exchanges behind the negotiation. -/
def s7Session (e : Endpoints) (exchanges : List (List UInt8 × List UInt8)) : Exchange :=
  .tcp e s7Port
    ([(.client, cotpCr), (.server, cotpCc), (.client, s7SetupRequest),
      (.server, s7SetupResponse)] ++
      exchanges.flatMap fun x => [(.client, x.1), (.server, x.2)])

/-! ## The identity read (s7_szl.rs) -/

/-- The bytes of a text laid over a template of fixed length. -/
def overlay (template bytes : List UInt8) : List UInt8 :=
  bytes.take template.length ++ template.drop bytes.length

@[simp] theorem length_overlay (template bytes : List UInt8) :
    (overlay template bytes).length = template.length := by
  simp [overlay]
  omega

/-- `read_szl_request`. -/
def readSzlRequest : List UInt8 :=
  tpktCotp ([0x32, 0x07, 0x00, 0x00, 0x00, 0x00, 0x00, 0x08, 0x00, 0x08] ++
    [0x00, 0x01, 0x12, 0x04, 0x11, 0x44, 0x01, 0x00] ++
    [0xff, 0x09, 0x00, 0x04, 0x00, 0x11, 0x00, 0x00])

/-- `read_szl_response`: the order number (20 bytes, space padded) and the version. -/
def readSzlResponse (orderNumber : String) (versionMajor versionMinor : UInt8) : List UInt8 :=
  let mlfb := overlay (List.replicate 20 0x20) (utf8 orderNumber)
  let record := toBeBytes16 0x0001 ++ mlfb ++ toBeBytes16 0x0000 ++
    [versionMajor, versionMinor] ++ toBeBytes16 0x0000
  let szl := toBeBytes16 0x0011 ++ toBeBytes16 0x0000 ++
    toBeBytes16 (UInt16.ofNat record.length) ++ toBeBytes16 0x0001 ++ record
  let data := [0xff, 0x09] ++ toBeBytes16 (UInt16.ofNat szl.length) ++ szl
  let param := [0x00, 0x01, 0x12, 0x08, 0x12, 0x84, 0x01, 0x01, 0x00, 0x00, 0x00, 0x00]
  tpktCotp ([0x32, 0x07, 0x00, 0x00, 0x00, 0x00] ++ toBeBytes16 (UInt16.ofNat param.length) ++
    toBeBytes16 (UInt16.ofNat data.length) ++ param ++ data)

/-- `s7_szl::exchange`. -/
def s7SzlExchange (e : Endpoints) (orderNumber : String) (versionMajor versionMinor : UInt8) :
    Exchange :=
  s7Session e [(readSzlRequest, readSzlResponse orderNumber versionMajor versionMinor)]

/-! ## Control and program download (s7_control.rs) -/

/-- `s7_job`. -/
def s7Job (param data : List UInt8) : List UInt8 :=
  tpktCotp ([0x32, 0x01, 0x00, 0x00, 0x00, 0x00] ++ toBeBytes16 (UInt16.ofNat param.length) ++
    toBeBytes16 (UInt16.ofNat data.length) ++ param ++ data)

/-- `s7_ack_data`. -/
def s7AckData (param data : List UInt8) : List UInt8 :=
  tpktCotp ([0x32, 0x03, 0x00, 0x00, 0x00, 0x00] ++ toBeBytes16 (UInt16.ofNat param.length) ++
    toBeBytes16 (UInt16.ofNat data.length) ++ [0x00, 0x00] ++ param ++ data)

/-- `block_descriptor`: "_0800001P" overlaid with the block id. -/
def blockDescriptor (blockId : String) : List UInt8 := overlay (utf8 "_0800001P") (utf8 blockId)

/-- `plc_stop_request`. -/
def plcStopRequest : List UInt8 :=
  s7Job ([0x29, 0x00, 0x00, 0x00, 0x00, 0x00] ++ [0x09] ++ utf8 "P_PROGRAM") []

/-- `plc_stop_response`. -/
def plcStopResponse : List UInt8 := s7AckData [0x29] []

/-- `write_db_word_request`. -/
def writeDbWordRequest (db byteOffset value : UInt16) : List UInt8 :=
  let bitAddr := byteOffset.toNat * 8
  s7Job
    [0x05, 0x01, 0x12, 0x0a, 0x10, 0x04, 0x00, 0x01, UInt8.ofNat (db.toNat / 256),
      UInt8.ofNat (db.toNat % 256), 0x84, UInt8.ofNat (bitAddr / 65536 % 256),
      UInt8.ofNat (bitAddr / 256 % 256), UInt8.ofNat (bitAddr % 256)]
    [0x00, 0x04, 0x00, 0x10, UInt8.ofNat (value.toNat / 256), UInt8.ofNat (value.toNat % 256)]

/-- `write_var_response`. -/
def writeVarResponse : List UInt8 := s7AckData [0x05, 0x01] [0xff]

/-- `request_download`. -/
def requestDownload (blockId : String) : List UInt8 :=
  let desc := blockDescriptor blockId
  s7Job ([0x1a, 0x00, 0x00, 0x01, 0x00, 0x00, 0x00, 0x00, 0x00] ++ [UInt8.ofNat desc.length] ++
    desc ++ [0x01] ++ utf8 "000420" ++ utf8 "000260") []

/-- `request_download_ack`. -/
def requestDownloadAck : List UInt8 := s7AckData [0x1a] []

/-- `download_block`. -/
def downloadBlock (blockId : String) (mc7 : List UInt8) : List UInt8 :=
  let desc := blockDescriptor blockId
  s7Job ([0x1b, 0x00, 0x00, 0x00, 0x00, 0x00, 0x00, 0x00, 0x00] ++ [UInt8.ofNat desc.length] ++
    desc) mc7

/-- `download_block_ack`: the block bytes are echoed. -/
def downloadBlockAck (mc7 : List UInt8) : List UInt8 := s7AckData [0x1b, 0x00] mc7

/-- `download_ended`. -/
def downloadEnded (blockId : String) : List UInt8 :=
  let desc := blockDescriptor blockId
  s7Job ([0x1c, 0x00, 0x00, 0x01, 0x00, 0x00, 0x00, 0x00, 0x00] ++ [UInt8.ofNat desc.length] ++
    desc) []

/-- `download_ended_ack`. -/
def downloadEndedAck : List UInt8 := s7AckData [0x1c] []

/-- `plc_stop`. -/
def plcStop (e : Endpoints) : Exchange := s7Session e [(plcStopRequest, plcStopResponse)]

/-- `write_db_word`. -/
def writeDbWord (e : Endpoints) (db byteOffset value : UInt16) : Exchange :=
  s7Session e [(writeDbWordRequest db byteOffset value, writeVarResponse)]

/-- `s7_control::program_download`. -/
def s7ProgramDownload (e : Endpoints) (blockId : String) (mc7 : List UInt8) : Exchange :=
  s7Session e
    [(requestDownload blockId, requestDownloadAck),
      (downloadBlock blockId mc7, downloadBlockAck mc7),
      (downloadEnded blockId, downloadEndedAck)]

/-! ## Sizes -/

@[simp] theorem length_toBeBytes16 (x : UInt16) : (toBeBytes16 x).length = 2 := rfl

@[simp] theorem length_tpktCotp (s7 : List UInt8) : (tpktCotp s7).length = 7 + s7.length := by
  simp [tpktCotp, tpkt, cotpDt]
  omega

@[simp] theorem length_s7Job (param data : List UInt8) :
    (s7Job param data).length = 17 + param.length + data.length := by
  simp [s7Job]
  omega

@[simp] theorem length_s7AckData (param data : List UInt8) :
    (s7AckData param data).length = 19 + param.length + data.length := by
  simp [s7AckData]
  omega

@[simp] theorem length_blockDescriptor (blockId : String) :
    (blockDescriptor blockId).length = 9 := by
  rw [blockDescriptor, length_overlay]
  decide

end TurboLaser.Synth
