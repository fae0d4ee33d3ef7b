import TurboLaser.Lib.Chunks
import TurboLaser.Synth.Session

/-!
# Telecontrol commands (synth/iec104.rs, synth/iec101.rs, synth/dnp3.rs)

IEC 60870-5-104 and -101 carry one ASDU, the first in an APCI and the second in an FT1.2 link frame.
DNP3 carries its application layer in a data-link frame whose header and every 16-byte block of user
data are trailed by a CRC. Addresses are written into fields of 24, 16 or 8 bits; what does not fit
is cut off.

The CRC comes from a crate. Here it is any function `crc` on octets, so that nothing that is said
about the frames rests on how it is computed; `crcDnp3` is the one the crate's catalogue describes,
for the runs on fixed inputs. All the builders of DNP3 messages take the function as an argument,
and so does whatever calls them, up to the renderer of a scenario.

The casts of the source are kept: an information object address is a 32-bit parameter in a field of
three octets, the link address of -101 and the index of a DNP3 point are one octet. Results that a
parameter reaches the wire have their conditions from here.
-/

namespace TurboLaser.Synth

open Lib

/-! ## IEC 60870-5-104 -/

/-- `IEC104_PORT`. -/
def iec104Port : UInt16 := 2404

/-- `u_frame`. -/
def uFrame (func : UInt8) : List UInt8 := [0x68, 0x04, func, 0x00, 0x00, 0x00]

/-- `i_frame`: send and receive sequence numbers, shifted left one bit. -/
def iFrame (ns nr : UInt16) (asdu : List UInt8) : List UInt8 :=
  let len := 4 + asdu.length
  [0x68, UInt8.ofNat len] ++ toLeBytes16 (ns <<< (1 : UInt16)) ++ toLeBytes16 (nr <<< (1 : UInt16)) ++ asdu

/-- `s_frame`. -/
def sFrame (nr : UInt16) : List UInt8 := [0x68, 0x04, 0x01, 0x00] ++ toLeBytes16 (nr <<< (1 : UInt16))

/-- `asdu`: one ASDU with a single information object; its address takes three bytes. -/
def asdu (typeId cot : UInt8) (commonAddr : UInt16) (ioa : UInt32) (elements : List UInt8) :
    List UInt8 :=
  [typeId, 0x01, cot, 0x00] ++ toLeBytes16 commonAddr ++
    [UInt8.ofNat (ioa.toNat % 256), UInt8.ofNat (ioa.toNat / 256 % 256),
      UInt8.ofNat (ioa.toNat / 65536 % 256)] ++ elements

/-- `TID_SINGLE_CMD`. -/
def tidSingleCmd : UInt8 := 45

/-- `TID_INTERROGATION`. -/
def tidInterrogation : UInt8 := 100

/-- `COT_ACT`. -/
def cotAct : UInt8 := 6

/-- `COT_ACTCON`. -/
def cotActcon : UInt8 := 7

/-- `COT_ACTTERM`. -/
def cotActterm : UInt8 := 10

/-- `QOI_STATION`. -/
def qoiStation : UInt8 := 20

/-- `start_link`: STARTDT and its confirmation. -/
def startLink : List (Side × List UInt8) := [(.client, uFrame 0x07), (.server, uFrame 0x0b)]

/-- `u8::from` on a boolean. -/
def boolByte (b : Bool) : UInt8 := if b then 1 else 0

/-- `iec104::single_command`. -/
def iec104SingleCommand (e : Endpoints) (commonAddr : UInt16) (ioa : UInt32) (close : Bool) :
    Exchange :=
  let sco := boolByte close
  .tcp e iec104Port
    (startLink ++
      [(.client, iFrame 0 0 (asdu tidSingleCmd cotAct commonAddr ioa [sco])),
        (.server, iFrame 0 1 (asdu tidSingleCmd cotActcon commonAddr ioa [sco])),
        (.server, iFrame 1 1 (asdu tidSingleCmd cotActterm commonAddr ioa [sco])),
        (.client, sFrame 2)])

/-- `iec104::interrogation`. -/
def iec104Interrogation (e : Endpoints) (commonAddr : UInt16) : Exchange :=
  .tcp e iec104Port
    (startLink ++
      [(.client, iFrame 0 0 (asdu tidInterrogation cotAct commonAddr 0 [qoiStation])),
        (.server, iFrame 0 1 (asdu tidInterrogation cotActcon commonAddr 0 [qoiStation])),
        (.server, iFrame 1 1 (asdu tidInterrogation cotActterm commonAddr 0 [qoiStation])),
        (.client, sFrame 2)])

/-! ## IEC 60870-5-101 -/

/-- `IEC101_PORT`. -/
def iec101Port : UInt16 := 2405

/-- `ft12`: control, link address, the ASDU, an 8-bit sum and the end byte. -/
def ft12 (ctrl linkAddr : UInt8) (asdu : List UInt8) : List UInt8 :=
  let l := UInt8.ofNat (2 + asdu.length)
  [0x68, l, l, 0x68, ctrl, linkAddr] ++ asdu ++
    [([ctrl, linkAddr] ++ asdu).foldl (· + ·) 0, 0x16]

/-- `CTRL_SEND`. -/
def ctrlSend : UInt8 := 0x73

/-- `CTRL_CONFIRM`. -/
def ctrlConfirm : UInt8 := 0x00

/-- `iec101::interrogation`: the common address doubles as the link address. -/
def iec101Interrogation (e : Endpoints) (commonAddr : UInt16) : Exchange :=
  let addr := UInt8.ofNat commonAddr.toNat
  .tcp e iec101Port
    [(.client, ft12 ctrlSend addr (asdu tidInterrogation cotAct commonAddr 0 [qoiStation])),
      (.server, ft12 ctrlConfirm addr (asdu tidInterrogation cotActcon commonAddr 0 [qoiStation]))]

/-- `iec101::single_command`. -/
def iec101SingleCommand (e : Endpoints) (commonAddr : UInt16) (ioa : UInt32) (close : Bool) :
    Exchange :=
  let addr := UInt8.ofNat commonAddr.toNat
  let sco := boolByte close
  .tcp e iec101Port
    [(.client, ft12 ctrlSend addr (asdu tidSingleCmd cotAct commonAddr ioa [sco])),
      (.server, ft12 ctrlConfirm addr (asdu tidSingleCmd cotActcon commonAddr ioa [sco]))]

/-! ## DNP3 -/

/-- `DNP3_PORT`. -/
def dnp3Port : UInt16 := 20000

/-- One bit of the CRC, least significant first; the polynomial 0x3d65 reflected. -/
def crcBit (c : UInt16) : UInt16 := if c &&& 1 = 1 then (c >>> 1) ^^^ 0xA6BC else c >>> 1

/-- One byte of the CRC. -/
def crcByte (c : UInt16) (b : UInt8) : UInt16 :=
  crcBit (crcBit (crcBit (crcBit (crcBit (crcBit (crcBit (crcBit (c ^^^ UInt16.ofNat b.toNat))))))))

/-- CRC-16/DNP, as the catalogue entry of `crc::dnp3` gives it. -/
def crcDnp3 (data : List UInt8) : UInt16 := data.foldl crcByte 0 ^^^ 0xFFFF

/-- The check value of the CRC's catalogue entry. -/
example : crcDnp3 [0x31, 0x32, 0x33, 0x34, 0x35, 0x36, 0x37, 0x38, 0x39] = 0xea82 := by
  decide +kernel

section Link

variable (crc : List UInt8 → UInt16)

/-- A block with its CRC behind it, low octet first. -/
def withCrc (block : List UInt8) : List UInt8 := block ++ toLeBytes16 (crc block)

/-- `link_frame`. -/
def linkFrame (ctrl : UInt8) (dest src : UInt16) (user : List UInt8) : List UInt8 :=
  withCrc crc ([0x05, 0x64, UInt8.ofNat (5 + user.length), ctrl] ++ toLeBytes16 dest ++
    toLeBytes16 src) ++ (chunks 16 user).flatMap (withCrc crc)

/-- `CTRL_MASTER`. -/
def ctrlMaster : UInt8 := 0xC4

/-- `CTRL_OUTSTATION`. -/
def ctrlOutstation : UInt8 := 0x44

/-- `integrity_poll_user`. -/
def integrityPollUser : List UInt8 :=
  [0xC0, 0xC0, 0x01] ++ ([0x02, 0x03, 0x04, 0x01] : List UInt8).flatMap fun v => [0x3C, v, 0x06]

/-- `crob_user`: a control-relay-output block for one point, behind its transport header. -/
def crobUser (func seq index : UInt8) (close : Bool) : List UInt8 :=
  let appCtrl := 0xC0 ||| (seq &&& 0x0f)
  let controlCode : UInt8 := if close then 0x41 else 0x81
  let crob := [controlCode, 0x01] ++ toLeBytes32 100 ++ toLeBytes32 0 ++ [0x00]
  [0xC0] ++ [appCtrl, func, 0x0C, 0x01, 0x17, 0x01, index] ++ crob

/-- `response_user`. -/
def responseUser (seq : UInt8) : List UInt8 := [0xC0, 0xC0 ||| (seq &&& 0x0f), 0x81, 0x00, 0x00]

/-- `integrity_poll`: the master's link address is the outstation's plus 1000. -/
def dnp3IntegrityPoll (e : Endpoints) (commonAddr : UInt16) : Exchange :=
  let master := commonAddr + 1000
  .tcp e dnp3Port
    [(.client, linkFrame crc ctrlMaster commonAddr master integrityPollUser),
      (.server, linkFrame crc ctrlOutstation master commonAddr (responseUser 0))]

/-- `APP_SELECT`. -/
def appSelect : UInt8 := 0x03

/-- `APP_OPERATE`. -/
def appOperate : UInt8 := 0x04

/-- `dnp3::operate`: select, echo, operate, confirm. -/
def dnp3Operate (e : Endpoints) (commonAddr : UInt16) (index : UInt8) (close : Bool) : Exchange :=
  let master := commonAddr + 1000
  .tcp e dnp3Port
    [(.client, linkFrame crc ctrlMaster commonAddr master (crobUser appSelect 0 index close)),
      (.server, linkFrame crc ctrlOutstation master commonAddr (responseUser 0)),
      (.client, linkFrame crc ctrlMaster commonAddr master (crobUser appOperate 1 index close)),
      (.server, linkFrame crc ctrlOutstation master commonAddr (responseUser 1))]

end Link

end TurboLaser.Synth
