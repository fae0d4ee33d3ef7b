import Mathlib.Algebra.Ring.Nat
import TurboLaser.Synth.Fieldbus
import TurboLaser.Synth.Ioc
import TurboLaser.Synth.S7
import TurboLaser.Synth.Telecontrol

/-!
# The sizes of the messages

How long each message of the builders is: most have a fixed size, and the others carry a payload, a
share or a domain of any length behind a fixed head. The frames of an exchange are a fixed head
longer than its messages (`Exchange.sizes`), so this says which events can outgrow a link, and by
what.

There is one lemma for each builder of a message, an equation where the size is known and a bound
where only a bound is needed. They are a simp set: the size of an exchange is found by rewriting
with them, and none of them is of interest by itself. The bounds on texts count octets and not
characters; an address is written in at most 15, a UTF-8 character in at most four.
-/

namespace TurboLaser.Synth

open Lib

@[simp] theorem length_toLeBytes16 (x : UInt16) : (toLeBytes16 x).length = 2 := rfl

@[simp] theorem length_toLeBytes32 (x : UInt32) : (toLeBytes32 x).length = 4 := rfl

@[simp] theorem length_toLeBytes64 (x : UInt64) : (toLeBytes64 x).length = 8 := rfl

/-! ## S7comm -/

@[simp] theorem length_readSzlRequest : readSzlRequest.length = 33 := by decide

@[simp] theorem length_readSzlResponse (order : String) (major minor : UInt8) :
    (readSzlResponse order major minor).length = 69 := by
  simp [readSzlResponse]

@[simp] theorem length_plcStopRequest : plcStopRequest.length = 33 := by decide

@[simp] theorem length_plcStopResponse : plcStopResponse.length = 20 := by decide

@[simp] theorem length_writeDbWordRequest (db byteOffset value : UInt16) :
    (writeDbWordRequest db byteOffset value).length = 37 := by
  simp [writeDbWordRequest]

@[simp] theorem length_writeVarResponse : writeVarResponse.length = 22 := by decide

@[simp] theorem length_requestDownload (blockId : String) :
    (requestDownload blockId).length = 49 := by
  have h1 : (utf8 "000420").length = 6 := by decide
  have h2 : (utf8 "000260").length = 6 := by decide
  simp [requestDownload, h1, h2]

@[simp] theorem length_requestDownloadAck : requestDownloadAck.length = 20 := by decide

@[simp] theorem length_downloadBlock (blockId : String) (mc7 : List UInt8) :
    (downloadBlock blockId mc7).length = 36 + mc7.length := by
  simp [downloadBlock]

@[simp] theorem length_downloadBlockAck (mc7 : List UInt8) :
    (downloadBlockAck mc7).length = 21 + mc7.length := by
  simp [downloadBlockAck]

@[simp] theorem length_downloadEnded (blockId : String) : (downloadEnded blockId).length = 36 := by
  simp [downloadEnded]

@[simp] theorem length_downloadEndedAck : downloadEndedAck.length = 20 := by decide

/-! ## Fieldbus and controllers -/

@[simp] theorem length_writeSingleRequest (unit : UInt8) (addr value : UInt16) :
    (writeSingleRequest unit addr value).length = 12 := by
  simp [writeSingleRequest, mbap]

@[simp] theorem length_writeSingleResponse (unit : UInt8) (addr value : UInt16) :
    (writeSingleResponse unit addr value).length = 12 :=
  length_writeSingleRequest unit addr value

@[simp] theorem length_encap (command : UInt16) (session : UInt32) (body : List UInt8) :
    (encap command session body).length = 24 + body.length := by
  simp [encap]
  omega

@[simp] theorem length_sendRrData (session : UInt32) (cip : List UInt8) :
    (sendRrData session cip).length = 40 + cip.length := by
  simp [sendRrData]
  omega

@[simp] theorem length_cipRequest (service : UInt8) (path data : List UInt8) :
    (cipRequest service path data).length = 2 + path.length + data.length := by
  simp [cipRequest]
  omega

@[simp] theorem length_cipResponse (service : UInt8) (data : List UInt8) :
    (cipResponse service data).length = 4 + data.length := by
  simp [cipResponse]
  omega

@[simp] theorem length_epath (cls inst attr : UInt8) : (epath cls inst attr).length = 6 := rfl

@[simp] theorem length_opcuaAcknowledge : opcuaAcknowledge.length = 28 := by decide

theorem utf8_append (s t : String) : utf8 (s ++ t) = utf8 s ++ utf8 t := by
  simp [utf8]

/-- A character takes four bytes at most. -/
theorem length_utf8_le (s : String) : (utf8 s).length ≤ 4 * s.toList.length := by
  unfold utf8
  induction s.toList with
  | nil => exact le_rfl
  | cons c cs ih =>
    have hc := c.utf8Size_le_four
    rw [List.flatMap_cons, List.length_append, String.length_utf8EncodeChar, List.length_cons]
    omega

/-- The text of an address is short. -/
theorem length_utf8_showIpv4Addr_le (a : Ipv4Addr) : (utf8 (showIpv4Addr a)).length ≤ 60 := by
  have hchars := length_ipv4Chars a
  have hbytes := length_utf8_le (showIpv4Addr a)
  rw [showIpv4Addr, String.toList_ofList] at hbytes
  exact hbytes.trans (by omega)

/-- The endpoint URL of an OPC-UA server fits a small message. -/
theorem length_opcuaHello_le (a : Ipv4Addr) :
    (opcuaHello ("opc.tcp://" ++ showIpv4Addr a ++ ":4840")).length ≤ 200 := by
  have haddr := length_utf8_showIpv4Addr_le a
  have h1 : (utf8 "opc.tcp://").length = 10 := by decide
  have h2 : (utf8 ":4840").length = 5 := by decide
  have h3 : (utf8 "HEL").length = 3 := by decide
  have h4 : opcuaBuffers.length = 20 := by decide
  simp [opcuaHello, opcuaMessage, opcuaString, utf8_append, h1, h2, h3, h4]
  omega

@[simp] theorem length_tsMessage (msgType : UInt16) (body : List UInt8) :
    (tsMessage msgType body).length = 6 + body.length := by
  simp [tsMessage]
  omega

/-! ## Telecontrol -/

@[simp] theorem length_uFrame (func : UInt8) : (uFrame func).length = 6 := rfl

@[simp] theorem length_sFrame (nr : UInt16) : (sFrame nr).length = 6 := rfl

@[simp] theorem length_asdu (typeId cot : UInt8) (ca : UInt16) (ioa : UInt32)
    (elements : List UInt8) : (asdu typeId cot ca ioa elements).length = 9 + elements.length := by
  simp [asdu]
  omega

@[simp] theorem length_iFrame (ns nr : UInt16) (asdu : List UInt8) :
    (iFrame ns nr asdu).length = 6 + asdu.length := by
  simp [iFrame]
  omega

@[simp] theorem length_ft12 (ctrl addr : UInt8) (asdu : List UInt8) :
    (ft12 ctrl addr asdu).length = 8 + asdu.length := by
  simp [ft12]
  omega

/-- A frame of few blocks is small: the CRCs at most triple the user data. -/
theorem length_linkFrame_le (crc : List UInt8 → UInt16) (ctrl : UInt8) (dest src : UInt16)
    (user : List UInt8) : (linkFrame crc ctrl dest src user).length ≤ 10 + 3 * user.length := by
  have hblocks : ∀ fuel (user : List UInt8),
      ((chunksUpTo 16 fuel user).flatMap (withCrc crc)).length ≤ 3 * user.length := by
    intro fuel
    induction fuel with
    | zero => exact fun user => Nat.zero_le _
    | succ fuel ih =>
      intro user
      cases user with
      | nil => exact le_rfl
      | cons x xs =>
        have hrest := ih ((x :: xs).drop 16)
        rw [List.length_drop, List.length_cons] at hrest
        rw [chunksUpTo, List.flatMap_cons, withCrc, List.length_append, List.length_append,
          List.length_take, length_toLeBytes16, List.length_cons]
        omega
  have hchunks := hblocks user.length user
  rw [← chunks] at hchunks
  simp only [linkFrame, withCrc, List.length_append, List.length_cons, List.length_nil,
    length_toLeBytes16]
  omega

@[simp] theorem length_crobUser (func seq index : UInt8) (close : Bool) :
    (crobUser func seq index close).length = 19 := by
  simp [crobUser]

@[simp] theorem length_integrityPollUser : integrityPollUser.length = 15 := by decide

@[simp] theorem length_responseUser (seq : UInt8) : (responseUser seq).length = 5 := rfl

/-! ## Indicators -/

@[simp] theorem length_nbss (smb : List UInt8) : (nbss smb).length = 4 + smb.length := by
  simp [nbss]
  omega

@[simp] theorem length_smb2Header (command : UInt16) (flags : UInt32) (messageId : UInt64) :
    (smb2Header command flags messageId).length = 64 := by
  simp [smb2Header]

@[simp] theorem length_smb2Write (share : String) :
    (smb2Write share).length = 116 + (utf8 share).length := by
  simp [smb2Write]
  omega

@[simp] theorem length_smb2WriteResponse (count : UInt32) :
    (smb2WriteResponse count).length = 84 := by
  simp [smb2WriteResponse]

@[simp] theorem length_dnsQueryPayload (qid : UInt16) (hostname : String) :
    (dnsQueryPayload qid hostname).length = 16 + (encodeName hostname).length := by
  simp [dnsQueryPayload]
  omega

@[simp] theorem length_dnsResponsePayload (qid : UInt16) (hostname : String) (ip : Ipv4Addr) :
    (dnsResponsePayload qid hostname ip).length = 32 + (encodeName hostname).length := by
  simp [dnsResponsePayload]
  omega

@[simp] theorem length_c2Request (domain : String) :
    (c2Request domain).length = 44 + (utf8 domain).length := by
  have h1 : (utf8 "GET /ping HTTP/1.1\r\nHost: ").length = 26 := by decide
  have h2 : (utf8 "\r\nUser-Agent: \r\n\r\n").length = 18 := by decide
  rw [c2Request, utf8_append, utf8_append, List.length_append, List.length_append, h1, h2]
  omega

/-- The bytes of a text, cut at its dots: a label costs its bytes and a length. -/
theorem sum_labels_le (cs : List Char) :
    ((cs.splitOn '.').map fun l => (l.flatMap String.utf8EncodeChar).length + 1).sum ≤
      (cs.flatMap String.utf8EncodeChar).length + 1 := by
  induction cs with
  | nil => exact le_rfl
  | cons c cs ih =>
    have hc : 1 ≤ (String.utf8EncodeChar c).length := by
      rw [String.length_utf8EncodeChar]
      exact c.utf8Size_pos
    rw [List.splitOn, List.splitOnP_cons_eq_if_modifyHead, List.flatMap_cons, List.length_append]
    rw [List.splitOn] at ih
    split
    · rw [List.map_cons, List.sum_cons, List.flatMap_nil, List.length_nil]
      omega
    · obtain ⟨l, ls, hls⟩ := List.exists_cons_of_ne_nil (List.splitOnP_ne_nil (· == '.') cs)
      rw [hls] at ih ⊢
      simp only [List.modifyHead_cons, List.map_cons, List.sum_cons, List.flatMap_cons,
        List.length_append] at ih ⊢
      omega

/-- An encoded name is hardly longer than its text. -/
theorem length_encodeName_le (name : String) :
    (encodeName name).length ≤ (utf8 name).length + 2 := by
  have hlabels : ∀ ls : List (List Char),
      ((ls.filter fun l => !l.isEmpty).flatMap encodeLabel).length ≤
        (ls.map fun l => (l.flatMap String.utf8EncodeChar).length + 1).sum := by
    intro ls
    induction ls with
    | nil => exact le_rfl
    | cons l ls ih =>
      have hlabel : (encodeLabel l).length ≤ (l.flatMap String.utf8EncodeChar).length + 1 := by
        simp only [encodeLabel, List.length_append, List.length_take, List.length_singleton]
        omega
      rw [List.map_cons, List.sum_cons, List.filter_cons]
      split
      · rw [List.flatMap_cons, List.length_append]
        omega
      · omega
  have htotal := (hlabels (name.toList.splitOn '.')).trans (sum_labels_le name.toList)
  rw [encodeName, List.length_append, List.length_singleton, utf8]
  omega

end TurboLaser.Synth
