import TurboLaser.Synth.Fieldbus
import TurboLaser.Synth.S7
import TurboLaser.Synth.Telecontrol

/-!
# Reference decoders

What a dissector makes of a command message, layer by layer: every length, checksum and CRC of a
layer is checked before the layer inside is looked at. The decoders know the protocols and not the
builders; each is followed by what it makes of the builder's messages.

A command is what an operator would read off the wire: a write to a register, a point or an
attribute, with the parameters that the wire carries. Parameters in a playbook are wider than some
of the fields they go to. The decoders report the field, so the results below say what is reported
for any parameter, the one that was meant modulo the width of its field; whether it is the one that
was meant is the question of `Scenario.Parameters`.

- `untpkt`, `s7JobParts`: TPKT, COTP and the S7 job header;
- `unlink`: the DNP3 data link, its CRCs stripped, for any function that computes them;
- `unft12`, `unapci`, `asduCommand`: IEC 60870-5-101 and -104;
- `unencap`: EtherNet/IP.

`decodeCommand` is the dissector of a service port; `filterMap_commandOf_converse` says that the
commands it finds in the frames of a conversation are those of the client's messages, in their
order.
-/

namespace TurboLaser.Synth

open Lib

/-- A command, as a dissector reports it. -/
inductive Command where
  | s7WriteWord (db offset value : Nat)
  | modbusWriteSingle (unit register value : Nat)
  | dnp3Read (dest : Nat)
  | dnp3Control (func dest point : Nat) (close : Bool)
  | iec104Single (commonAddr ioa : Nat) (close : Bool)
  | iec101Single (linkAddr commonAddr ioa : Nat) (close : Bool)
  | iec101Interrogation (linkAddr commonAddr : Nat)
  | cipSetAttribute (attr value : Nat)
deriving DecidableEq

/-- Two bytes, most significant first. -/
def beWord (hi lo : UInt8) : Nat := hi.toNat * 256 + lo.toNat

/-- Two bytes, least significant first. -/
def leWord (lo hi : UInt8) : Nat := hi.toNat * 256 + lo.toNat

theorem beWord_ofNat {n : Nat} (h : n < 65536) :
    beWord (UInt8.ofNat (n / 256)) (UInt8.ofNat (n % 256)) = n := by
  rw [beWord, UInt8.toNat_ofNat', UInt8.toNat_ofNat']
  omega

theorem leWord_ofNat {n : Nat} (h : n < 65536) :
    leWord (UInt8.ofNat (n % 256)) (UInt8.ofNat (n / 256)) = n := by
  rw [leWord, UInt8.toNat_ofNat', UInt8.toNat_ofNat']
  omega

@[simp] theorem beWord_bytes (x : UInt16) :
    beWord (UInt8.ofNat (x.toNat / 256)) (UInt8.ofNat (x.toNat % 256)) = x.toNat :=
  beWord_ofNat x.toNat_lt

@[simp] theorem leWord_bytes (x : UInt16) :
    leWord (UInt8.ofNat (x.toNat % 256)) (UInt8.ofNat (x.toNat / 256)) = x.toNat :=
  leWord_ofNat x.toNat_lt

theorem toNat_ofNat16 {n : Nat} (h : n < 65536) : (UInt16.ofNat n).toNat = n := by
  rw [UInt16.toNat_ofNat']
  exact Nat.mod_eq_of_lt h

/-! ## S7comm -/

/-- The COTP message of a TPKT packet. -/
def untpkt : List UInt8 → Option (List UInt8)
  | 0x03 :: 0x00 :: hi :: lo :: cotp => if beWord hi lo = 4 + cotp.length then some cotp else none
  | _ => none

/-- Parameters and data of an S7 job in a COTP data message. -/
def s7JobParts : List UInt8 → Option (List UInt8 × List UInt8)
  | 0x02 :: 0xf0 :: 0x80 :: 0x32 :: 0x01 :: _ :: _ :: _ :: _ :: p1 :: p0 :: d1 :: d0 :: rest =>
    if rest.length = beWord p1 p0 + beWord d1 d0 then some (rest.splitAt (beWord p1 p0)) else none
  | _ => none

/-- A Write-Var job of one word of a data block. -/
def s7WriteCommand : List UInt8 × List UInt8 → Option Command
  | ([0x05, 0x01, 0x12, 0x0a, 0x10, 0x04, 0x00, 0x01, db1, db0, 0x84, a2, a1, a0],
      [_, 0x04, 0x00, 0x10, v1, v0]) =>
    -- the address counts bits
    some (.s7WriteWord (beWord db1 db0) ((a2.toNat * 65536 + a1.toNat * 256 + a0.toNat) / 8)
      (beWord v1 v0))
  | _ => none

/-- The command of an S7 packet. -/
def decodeS7 (b : List UInt8) : Option Command :=
  ((untpkt b).bind s7JobParts).bind s7WriteCommand

theorem untpkt_tpkt {cotp : List UInt8} (h : cotp.length + 4 < 65536) :
    untpkt (tpkt cotp) = some cotp := by
  simp [untpkt, tpkt, beWord_ofNat (show 4 + cotp.length < 65536 by omega)]

/-- A job is read back, parameters and data apart. -/
theorem s7JobParts_s7Job {param data : List UInt8} (hp : param.length < 32000)
    (hd : data.length < 32000) :
    (untpkt (s7Job param data)).bind s7JobParts = some (param, data) := by
  rw [s7Job, tpktCotp, untpkt_tpkt (by simp [cotpDt, toBeBytes16]; omega), Option.bind_some]
  have hp' : param.length < 65536 := by omega
  have hd' : data.length < 65536 := by omega
  simp [s7JobParts, cotpDt, toBeBytes16, toNat_ofNat16 hp', toNat_ofNat16 hd', beWord_ofNat hp',
    beWord_ofNat hd']

/-- **A word written to a data block is reported as it was built.** -/
theorem decodeS7_writeDbWordRequest (db offset value : UInt16) :
    decodeS7 (writeDbWordRequest db offset value) =
      some (.s7WriteWord db.toNat offset.toNat value.toNat) := by
  have hoff := offset.toNat_lt
  rw [decodeS7, writeDbWordRequest, s7JobParts_s7Job (by simp) (by simp), Option.bind_some]
  simp only [s7WriteCommand, beWord_bytes]
  rw [UInt8.toNat_ofNat', UInt8.toNat_ofNat', UInt8.toNat_ofNat']
  congr 2
  omega

/-! ## Modbus -/

/-- A Write Single Register request. -/
def decodeModbus : List UInt8 → Option Command
  | [_, _, 0x00, 0x00, l1, l0, unit, 0x06, a1, a0, v1, v0] =>
    if beWord l1 l0 = 6 then
      some (.modbusWriteSingle unit.toNat (beWord a1 a0) (beWord v1 v0))
    else none
  | _ => none

/-- **A register write is reported as it was built.** -/
theorem decodeModbus_writeSingleRequest (unit : UInt8) (addr value : UInt16) :
    decodeModbus (writeSingleRequest unit addr value) =
      some (.modbusWriteSingle unit.toNat addr.toNat value.toNat) := by
  simp [decodeModbus, writeSingleRequest, mbap, toBeBytes16]
  decide

/-! ## DNP3 -/

section Link

variable (crc : List UInt8 → UInt16)

/-- The user data of a data-link frame: `n` bytes in blocks of 16, each with its CRC. -/
def unblock : Nat → Nat → List UInt8 → Option (List UInt8)
  | _, 0, b => if b = [] then some [] else none
  | 0, _ + 1, _ => none
  | fuel + 1, n + 1, b =>
    let block := b.take (min (n + 1) 16)
    match b.drop (min (n + 1) 16) with
    | c0 :: c1 :: rest =>
      if leWord c0 c1 = (crc block).toNat then
        (unblock fuel (n + 1 - min (n + 1) 16) rest).map (block ++ ·)
      else none
    | _ => none

/-- A data-link frame, its CRCs checked and stripped. -/
structure Dnp3Frame where
  ctrl : UInt8
  dest : Nat
  src : Nat
  user : List UInt8
deriving DecidableEq

/-- The data link of a DNP3 message. -/
def unlink : List UInt8 → Option Dnp3Frame
  | 0x05 :: 0x64 :: len :: ctrl :: d0 :: d1 :: s0 :: s1 :: c0 :: c1 :: rest =>
    if leWord c0 c1 = (crc [0x05, 0x64, len, ctrl, d0, d1, s0, s1]).toNat ∧ 5 ≤ len.toNat then
      (unblock crc (len.toNat - 5) (len.toNat - 5) rest).map
        (⟨ctrl, leWord d0 d1, leWord s0 s1, ·⟩)
    else none
  | _ => none

/-- Whether a trip/close code closes: 1 closes, 2 trips. -/
def tripCloseCode (code : UInt8) : Option Bool :=
  if code.toNat / 64 = 1 then some true else if code.toNat / 64 = 2 then some false else none

/-- The request of a user message: a read, or a control-relay-output block that is selected or
operated. -/
def dnp3Request (frame : Dnp3Frame) : Option Command :=
  match frame.user with
  | _ :: _ :: 0x01 :: _ => some (.dnp3Read frame.dest)
  | [_, _, func, 0x0C, 0x01, 0x17, 0x01, index, code, _, _, _, _, _, _, _, _, _, _] =>
    if func = 0x03 ∨ func = 0x04 then
      (tripCloseCode code).map (.dnp3Control func.toNat frame.dest index.toNat ·)
    else none
  | _ => none

/-- The command of a DNP3 message. -/
def decodeDnp3 (b : List UInt8) : Option Command := (unlink crc b).bind dnp3Request

/-- Blocks are read back. -/
theorem unblock_chunksUpTo (fuel : Nat) (user : List UInt8) (h : user.length ≤ fuel) :
    unblock crc fuel user.length ((chunksUpTo 16 fuel user).flatMap (withCrc crc)) = some user := by
  induction fuel generalizing user with
  | zero =>
    rw [List.length_eq_zero_iff.mp (Nat.le_zero.mp h)]
    rfl
  | succ fuel ih =>
    cases user with
    | nil => rfl
    | cons x xs =>
      rw [List.length_cons] at h
      have hlen : ((x :: xs).take 16).length = min (xs.length + 1) 16 := by
        rw [List.length_take, List.length_cons, Nat.min_comm]
      have hrest : ((x :: xs).drop 16).length = xs.length + 1 - min (xs.length + 1) 16 := by
        rw [List.length_drop, List.length_cons]
        omega
      have hih := ih ((x :: xs).drop 16) (by omega)
      rw [hrest] at hih
      rw [chunksUpTo, List.flatMap_cons, withCrc, List.append_assoc, List.length_cons, unblock,
        List.take_append_of_le_length (by omega), List.drop_append_of_le_length (by omega), ← hlen,
        List.take_length, List.drop_length, hlen]
      simp only [toLeBytes16, List.nil_append, List.cons_append, leWord_bytes, if_true, hih,
        Option.map_some, List.take_append_drop]

/-- **A data-link frame is read back.** -/
theorem unlink_linkFrame (ctrl : UInt8) (dest src : UInt16) {user : List UInt8}
    (h : user.length + 5 < 256) :
    unlink crc (linkFrame crc ctrl dest src user) = some ⟨ctrl, dest.toNat, src.toNat, user⟩ := by
  have hlen : (UInt8.ofNat (5 + user.length)).toNat = 5 + user.length := by
    rw [UInt8.toNat_ofNat']
    exact Nat.mod_eq_of_lt (by omega)
  have hblocks := unblock_chunksUpTo crc user.length user le_rfl
  rw [← chunks] at hblocks
  simp only [linkFrame, withCrc, toLeBytes16, List.cons_append, List.nil_append, unlink,
    leWord_bytes, hlen, true_and, Nat.le_add_right, if_true, Nat.add_sub_cancel_left, hblocks,
    Option.map_some]

/-- **An integrity poll is reported with the outstation's address.** -/
theorem decodeDnp3_integrityPoll (dest src : UInt16) :
    decodeDnp3 crc (linkFrame crc ctrlMaster dest src integrityPollUser) =
      some (.dnp3Read dest.toNat) := by
  rw [decodeDnp3, unlink_linkFrame _ _ _ _ (by decide)]
  rfl

/-- **A control-relay-output block is reported as it was built.** -/
theorem decodeDnp3_crobUser (dest src : UInt16) {func : UInt8} (seq index : UInt8) (close : Bool)
    (hfunc : func = appSelect ∨ func = appOperate) :
    decodeDnp3 crc (linkFrame crc ctrlMaster dest src (crobUser func seq index close)) =
      some (.dnp3Control func.toNat dest.toNat index.toNat close) := by
  rw [decodeDnp3, unlink_linkFrame _ _ _ _ (by simp [crobUser, toLeBytes32])]
  rcases hfunc with rfl | rfl <;> cases close <;> rfl

end Link

/-! ## IEC 60870-5 -/

/-- The commands of an ASDU with a single information object, activated. -/
inductive AsduCommand where
  | single (commonAddr ioa : Nat) (close : Bool)
  | interrogation (commonAddr : Nat)
deriving DecidableEq

/-- A single command (45) or an interrogation (100), with cause of transmission 6. -/
def asduCommand : List UInt8 → Option AsduCommand
  | [45, 0x01, 6, 0x00, ca0, ca1, i0, i1, i2, sco] =>
    some (.single (leWord ca0 ca1) (i0.toNat + i1.toNat * 256 + i2.toNat * 65536)
      (decide (sco.toNat % 2 = 1)))
  | [100, 0x01, 6, 0x00, ca0, ca1, _, _, _, _] => some (.interrogation (leWord ca0 ca1))
  | _ => none

/-- The ASDU of an I-format APDU. -/
def unapci : List UInt8 → Option (List UInt8)
  | 0x68 :: len :: c0 :: _ :: _ :: _ :: asdu =>
    if len.toNat = 4 + asdu.length ∧ c0.toNat % 2 = 0 then some asdu else none
  | _ => none

/-- The command of a -104 message. -/
def decodeIec104 (b : List UInt8) : Option Command :=
  match (unapci b).bind asduCommand with
  | some (.single ca ioa close) => some (.iec104Single ca ioa close)
  | _ => none

/-- The link address and the ASDU of an FT1.2 frame with variable length. -/
def unft12 : List UInt8 → Option (UInt8 × List UInt8)
  | 0x68 :: l :: l' :: 0x68 :: ctrl :: addr :: rest =>
    if l = l' ∧ rest.length = l.toNat ∧ 2 ≤ l.toNat ∧
        rest.drop (l.toNat - 2) =
          [([ctrl, addr] ++ rest.take (l.toNat - 2)).foldl (· + ·) 0, 0x16] then
      some (addr, rest.take (l.toNat - 2))
    else none
  | _ => none

/-- The command of a -101 message. -/
def decodeIec101 (b : List UInt8) : Option Command :=
  (unft12 b).bind fun x =>
    match asduCommand x.2 with
    | some (.single ca ioa close) => some (.iec101Single x.1.toNat ca ioa close)
    | some (.interrogation ca) => some (.iec101Interrogation x.1.toNat ca)
    | none => none

/-- A single command in an ASDU: its information object address is cut to three bytes. -/
theorem asduCommand_single (ca : UInt16) (ioa : UInt32) (close : Bool) :
    asduCommand (asdu tidSingleCmd cotAct ca ioa [boolByte close]) =
      some (.single ca.toNat (ioa.toNat % 16777216) close) := by
  have hsco : decide ((boolByte close).toNat % 2 = 1) = close := by cases close <;> rfl
  simp [asdu, tidSingleCmd, cotAct, toLeBytes16, asduCommand, hsco]
  omega

theorem asduCommand_interrogation (ca : UInt16) :
    asduCommand (asdu tidInterrogation cotAct ca 0 [qoiStation]) =
      some (.interrogation ca.toNat) := by
  simp [asdu, tidInterrogation, cotAct, toLeBytes16, asduCommand]

theorem unapci_iFrame (nr : UInt16) {asdu : List UInt8} (h : asdu.length + 4 < 256) :
    unapci (iFrame 0 nr asdu) = some asdu := by
  have hlen : (UInt8.ofNat (4 + asdu.length)).toNat = 4 + asdu.length := by
    rw [UInt8.toNat_ofNat']
    exact Nat.mod_eq_of_lt (by omega)
  simp [iFrame, toLeBytes16, unapci]
  omega

/-- **A single command over -104 is reported with its address cut to three bytes.** -/
theorem decodeIec104_single (ca : UInt16) (ioa : UInt32) (close : Bool) :
    decodeIec104 (iFrame 0 0 (asdu tidSingleCmd cotAct ca ioa [boolByte close])) =
      some (.iec104Single ca.toNat (ioa.toNat % 16777216) close) := by
  rw [decodeIec104, unapci_iFrame 0 (by simp [asdu, toLeBytes16]), Option.bind_some,
    asduCommand_single]

theorem unft12_ft12 (ctrl addr : UInt8) {asdu : List UInt8} (h : asdu.length + 2 < 256) :
    unft12 (ft12 ctrl addr asdu) = some (addr, asdu) := by
  have hlen : (UInt8.ofNat (2 + asdu.length)).toNat = 2 + asdu.length := by
    rw [UInt8.toNat_ofNat']
    exact Nat.mod_eq_of_lt (by omega)
  simp only [ft12, List.cons_append, List.nil_append, unft12, hlen, Nat.add_sub_cancel_left,
    List.take_left, List.drop_left, List.length_append, List.length_cons, List.length_nil]
  rw [if_pos ⟨trivial, by omega, by omega, trivial⟩]

/-- **A single command over -101**: the link address is cut to one byte, the object's to three. -/
theorem decodeIec101_single (addr : UInt8) (ca : UInt16) (ioa : UInt32) (close : Bool) :
    decodeIec101 (ft12 ctrlSend addr (asdu tidSingleCmd cotAct ca ioa [boolByte close])) =
      some (.iec101Single addr.toNat ca.toNat (ioa.toNat % 16777216) close) := by
  rw [decodeIec101, unft12_ft12 _ _ (by simp [asdu, toLeBytes16]), Option.bind_some]
  dsimp only
  rw [asduCommand_single]

theorem decodeIec101_interrogation (addr : UInt8) (ca : UInt16) :
    decodeIec101 (ft12 ctrlSend addr (asdu tidInterrogation cotAct ca 0 [qoiStation])) =
      some (.iec101Interrogation addr.toNat ca.toNat) := by
  rw [decodeIec101, unft12_ft12 _ _ (by simp [asdu, toLeBytes16]), Option.bind_some]
  dsimp only
  rw [asduCommand_interrogation]

/-! ## EtherNet/IP -/

/-- The unconnected CIP message of a SendRRData request. -/
def unencap : List UInt8 → Option (List UInt8)
  | 0x6F :: 0x00 :: l0 :: l1 :: _ :: _ :: _ :: _ :: _ :: _ :: _ :: _ :: _ :: _ :: _ :: _ :: _ ::
      _ :: _ :: _ :: _ :: _ :: _ :: _ :: body =>
    if leWord l0 l1 = body.length then
      match body with
      | 0x00 :: 0x00 :: 0x00 :: 0x00 :: _ :: _ :: 0x02 :: 0x00 :: 0x00 :: 0x00 :: 0x00 :: 0x00 ::
          0xB2 :: 0x00 :: c0 :: c1 :: cip => if leWord c0 c1 = cip.length then some cip else none
      | _ => none
    else none
  | _ => none

/-- A Set_Attribute_Single request with a 16-bit value. -/
def cipSetCommand : List UInt8 → Option Command
  | [0x10, 0x03, 0x20, _, 0x24, _, 0x30, attr, v0, v1] =>
    some (.cipSetAttribute attr.toNat (leWord v0 v1))
  | _ => none

/-- The command of an EtherNet/IP message. -/
def decodeEnip (b : List UInt8) : Option Command := (unencap b).bind cipSetCommand

theorem unencap_sendRrData (session : UInt32) {cip : List UInt8} (h : cip.length < 32000) :
    unencap (sendRrData session cip) = some cip := by
  have hword : ∀ {n : Nat}, n < 65536 →
      leWord (UInt8.ofNat (n % 256)) (UInt8.ofNat (n % 65536 / 256)) = n := by
    intro n hn
    rw [Nat.mod_eq_of_lt hn]
    exact leWord_ofNat hn
  simp [sendRrData, encap, cmdSendRrData, toLeBytes16, toLeBytes32, unencap]
  exact ⟨hword (by omega), hword (by omega)⟩

/-- **An attribute write is reported as it was built.** -/
theorem decodeEnip_setAttribute (session : UInt32) (attr : UInt8) (value : UInt16) :
    decodeEnip (sendRrData session
        (cipRequest svcSetAttrSingle (epath 0x04 0x01 attr) (toLeBytes16 value))) =
      some (.cipSetAttribute attr.toNat value.toNat) := by
  rw [decodeEnip, unencap_sendRrData session (by simp [cipRequest, epath, toLeBytes16]),
    Option.bind_some]
  simp [cipRequest, svcSetAttrSingle, epath, toLeBytes16, cipSetCommand]

/-! ## Ports -/

section Ports

variable (crc : List UInt8 → UInt16)

/-- The command of a message to a service port. -/
def decodeCommand (port : Nat) (b : List UInt8) : Option Command :=
  if port = 102 then decodeS7 b
  else if port = 502 then decodeModbus b
  else if port = 2404 then decodeIec104 b
  else if port = 2405 then decodeIec101 b
  else if port = 20000 then decodeDnp3 crc b
  else if port = 44818 then decodeEnip b
  else none

/-- The command of a frame: what the segment says to the port it is sent to. -/
def commandOf (f : Frame) : Option Command :=
  (tcpView f).bind fun v => decodeCommand crc v.dport v.payload

/-- A segment without payload has no command. -/
theorem decodeCommand_nil (port : Nat) : decodeCommand crc port [] = none := by
  unfold decodeCommand
  split
  · rfl
  · split
    · rfl
    · split
      · rfl
      · split
        · rfl
        · split
          · rfl
          · split <;> rfl

/-- An ephemeral port is no service port. -/
theorem decodeCommand_ephemeral {port : Nat} (h : 49152 ≤ port) (b : List UInt8) :
    decodeCommand crc port b = none := by
  simp only [decodeCommand, show ¬ port = 102 by omega, show ¬ port = 502 by omega,
    show ¬ port = 2404 by omega, show ¬ port = 2405 by omega, show ¬ port = 20000 by omega,
    show ¬ port = 44818 by omega, if_false]

/-- **The commands of a conversation** from an ephemeral port are those of the client's messages. -/
theorem filterMap_commandOf_converse (e : Endpoints) (serverPort : UInt16)
    (script : List (Side × List UInt8)) (hport : 49152 ≤ e.clientPort.toNat)
    (hfit : ∀ m ∈ script, m.2.length + 40 < 65536) :
    (converse e serverPort script).filterMap (commandOf crc) =
      script.filterMap fun m =>
        if m.1 = .client then decodeCommand crc serverPort.toNat m.2 else none := by
  have hhear : ∀ m ∈ transcript script, ∀ f, SegmentOf e serverPort m f → commandOf crc f =
      if m.side = .client then decodeCommand crc serverPort.toNat m.payload else none := by
    intro m hm f hf
    -- the segments of the handshake and of the teardown carry nothing
    have hsmall : m.payload.length + 40 < 65536 := by
      simp only [transcript, List.mem_append, List.mem_cons, List.not_mem_nil, or_false,
        List.mem_map] at hm
      rcases hm with (hm | ⟨m', hm', rfl⟩) | hm
      · rcases hm with rfl | rfl | rfl <;> simp
      · exact hfit m' hm'
      · rcases hm with rfl | rfl | rfl | rfl <;> simp
    obtain ⟨seq, ack, rfl⟩ := hf
    unfold commandOf Endpoints.segment
    cases m.side with
    | client =>
      rw [tcpView_tcpSegment _ _ _ _ _ _ _ _ _ _ hsmall]
      rfl
    | server =>
      rw [tcpView_tcpSegment _ _ _ _ _ _ _ _ _ _ hsmall]
      exact decodeCommand_ephemeral crc hport _
  rw [filterMap_converse e serverPort script _ _ hhear, transcript]
  simp only [List.filterMap_append, List.filterMap_cons, List.filterMap_nil, decodeCommand_nil,
    List.filterMap_map, ite_self, List.append_nil, List.nil_append]
  rfl

end Ports

end TurboLaser.Synth
