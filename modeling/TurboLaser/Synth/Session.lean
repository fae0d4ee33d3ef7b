import TurboLaser.Synth.Eth

/-!
# A synthesized TCP session (synth/session.rs)

`TcpSession` emits a complete connection: handshake, application messages and a graceful close, with
the sequence numbers of both sides tracked. Every builder of an OT conversation opens a session,
runs a script of messages and closes it; `converse` is that shape, and an `Exchange` what such a
builder emits.

Thirty builders of frames, then, are thirty scripts: two ends, a port, and who says what in which
order. Facts about all of them are facts about `converse`, proved once by induction on the script.
`Said` is what a segment says, without the numbers it says it at, and the transcript of a
conversation is the list of these; most questions about a conversation (who talks to whom, which
payloads, how long the frames) are questions about its transcript.

- `SegmentOf`: a frame is a segment of the conversation that says a given thing;
- `converse_spec`: **a conversation puts its transcript on the wire**, segment by segment: three of
  the handshake, one a message, four of the close;
- `filterMap_converse`: so what an observer collects from the frames is what it collects from the
  transcript;
- `lengths_frames`: the sizes of the frames of an exchange are those of its messages.
-/

namespace TurboLaser.Synth

open Lib

/-- Who talks to whom: the five arguments every builder of a conversation starts with. -/
structure Endpoints where
  clientMac : Mac
  serverMac : Mac
  clientIp : Ipv4Addr
  serverIp : Ipv4Addr
  clientPort : UInt16
deriving DecidableEq

/-- `Side`: one side of the conversation. -/
inductive Side where
  | client
  | server
deriving DecidableEq

/-- A segment from one side to the other. -/
def Endpoints.segment (e : Endpoints) (serverPort : UInt16) (side : Side) (seq ack : UInt32)
    (flags : UInt8) (payload : List UInt8) : Frame :=
  match side with
  | .client =>
    tcpSegment e.clientMac e.serverMac e.clientIp e.serverIp e.clientPort serverPort seq ack
      flags payload
  | .server =>
    tcpSegment e.serverMac e.clientMac e.serverIp e.clientIp serverPort e.clientPort seq ack
      flags payload

/-- `TcpSession`: the sequence number each side sends next, and the frames so far. -/
structure TcpSession where
  ends : Endpoints
  serverPort : UInt16
  clientSnd : UInt32
  serverSnd : UInt32
  frames : List Frame

namespace TcpSession

/-- `TcpSession::new`: initial sequence numbers derived from the endpoints. -/
def new (e : Endpoints) (serverPort : UInt16) : TcpSession :=
  { ends := e
    serverPort
    clientSnd := e.clientIp * 2654435761 + UInt32.ofNat e.clientPort.toNat
    serverSnd := e.serverIp * 40503 + 0x5EED0000
    frames := [] }

/-- The sequence numbers a segment consumes: its payload, and one for a SYN or FIN. -/
def consumed (flags : UInt8) (payload : List UInt8) : UInt32 :=
  UInt32.ofNat payload.length + if flags &&& (tcpSyn ||| tcpFin) ≠ 0 then 1 else 0

/-- `segment`: emit one segment and advance the sender's sequence. -/
def segment (s : TcpSession) (side : Side) (flags : UInt8) (payload : List UInt8) : TcpSession :=
  match side with
  | .client =>
    { s with
      frames := s.frames ++
        [s.ends.segment s.serverPort .client s.clientSnd s.serverSnd flags payload]
      clientSnd := s.clientSnd + consumed flags payload }
  | .server =>
    { s with
      frames := s.frames ++
        [s.ends.segment s.serverPort .server s.serverSnd s.clientSnd flags payload]
      serverSnd := s.serverSnd + consumed flags payload }

/-- `open`: SYN, SYN+ACK, ACK. -/
def handshake (s : TcpSession) : TcpSession :=
  ((s.segment .client tcpSyn []).segment .server (tcpSyn ||| tcpAck) []).segment .client tcpAck []

/-- `client_says` and `server_says`: an application message. -/
def say (s : TcpSession) (side : Side) (payload : List UInt8) : TcpSession :=
  s.segment side (tcpPsh ||| tcpAck) payload

/-- The messages of a script, in order. -/
def run (s : TcpSession) (script : List (Side × List UInt8)) : TcpSession :=
  script.foldl (fun s m => s.say m.1 m.2) s

/-- `close`: a four-way close initiated by the client. -/
def close (s : TcpSession) : TcpSession :=
  (((s.segment .client (tcpFin ||| tcpAck) []).segment .server tcpAck []).segment .server
    (tcpFin ||| tcpAck) []).segment .client tcpAck []

end TcpSession

/-- A session that is opened, runs a script and is closed. -/
def converse (e : Endpoints) (serverPort : UInt16) (script : List (Side × List UInt8)) :
    List Frame :=
  ((TcpSession.new e serverPort).handshake.run script).close.frames

/-- A datagram from one side to the other. -/
def Endpoints.datagram (e : Endpoints) (serverPort : UInt16) (side : Side) (payload : List UInt8) :
    Frame :=
  match side with
  | .client =>
    udpFrame e.clientMac e.serverMac e.clientIp e.serverIp e.clientPort serverPort payload
  | .server =>
    udpFrame e.serverMac e.clientMac e.serverIp e.clientIp serverPort e.clientPort payload

/-- What a builder emits, before it is laid out in frames: a TCP conversation or a run of
datagrams. The builders of the source return the frames, `Exchange.frames`. -/
inductive Exchange where
  | tcp (e : Endpoints) (serverPort : UInt16) (script : List (Side × List UInt8))
  | udp (e : Endpoints) (serverPort : UInt16) (script : List (Side × List UInt8))

/-- The frames of an exchange, in send order. -/
def Exchange.frames : Exchange → List Frame
  | .tcp e serverPort script => converse e serverPort script
  | .udp e serverPort script => script.map fun m => e.datagram serverPort m.1 m.2

/-- `request_response`: one request and its response. -/
def requestResponse (e : Endpoints) (serverPort : UInt16) (request response : List UInt8) :
    Exchange :=
  .tcp e serverPort [(.client, request), (.server, response)]

/-! ## The transcript

What a conversation puts on the wire is said as a list of segments without bytes: who speaks, the
flags, the numbers and the payload. A session is followed by what it has said so far. Everything
that an observer collects from the frames it collects from this list.
-/

/-- What one segment says. -/
structure Said where
  side : Side
  flags : UInt8
  payload : List UInt8
deriving DecidableEq

/-- The frame is a segment of the conversation, and says `m`. -/
def SegmentOf (e : Endpoints) (serverPort : UInt16) (m : Said) (f : Frame) : Prop :=
  ∃ seq ack, f = e.segment serverPort m.side seq ack m.flags m.payload

/-- The segments of a conversation: handshake, messages, close. -/
def transcript (script : List (Side × List UInt8)) : List Said :=
  [⟨.client, tcpSyn, []⟩, ⟨.server, tcpSyn ||| tcpAck, []⟩, ⟨.client, tcpAck, []⟩] ++
    script.map (fun m => ⟨m.1, tcpPsh ||| tcpAck, m.2⟩) ++
    [⟨.client, tcpFin ||| tcpAck, []⟩, ⟨.server, tcpAck, []⟩, ⟨.server, tcpFin ||| tcpAck, []⟩,
      ⟨.client, tcpAck, []⟩]

section

variable {e : Endpoints} {serverPort : UInt16}

/-- The session is between `e` and what it has said so far is `log`. -/
structure TcpSession.HasSaid (e : Endpoints) (serverPort : UInt16) (s : TcpSession)
    (log : List Said) : Prop where
  ends_eq : s.ends = e
  port_eq : s.serverPort = serverPort
  said : List.Forall₂ (SegmentOf e serverPort) log s.frames

theorem TcpSession.hasSaid_new (e : Endpoints) (serverPort : UInt16) :
    (TcpSession.new e serverPort).HasSaid e serverPort [] :=
  ⟨rfl, rfl, .nil⟩

/-- One segment says one thing more. -/
theorem TcpSession.HasSaid.segment {s : TcpSession} {log : List Said}
    (h : s.HasSaid e serverPort log) (side : Side) (flags : UInt8) (payload : List UInt8) :
    (s.segment side flags payload).HasSaid e serverPort (log ++ [⟨side, flags, payload⟩]) := by
  obtain ⟨rfl, rfl, hframes⟩ := h
  cases side with
  | client => exact ⟨rfl, rfl, List.rel_append hframes (.cons ⟨_, _, rfl⟩ .nil)⟩
  | server => exact ⟨rfl, rfl, List.rel_append hframes (.cons ⟨_, _, rfl⟩ .nil)⟩

/-- A script says its messages. -/
theorem TcpSession.HasSaid.run {s : TcpSession} {log : List Said}
    (h : s.HasSaid e serverPort log) (script : List (Side × List UInt8)) :
    (s.run script).HasSaid e serverPort
      (log ++ script.map fun m => ⟨m.1, tcpPsh ||| tcpAck, m.2⟩) := by
  induction script generalizing s log with
  | nil => simpa [TcpSession.run] using h
  | cons m script ih =>
    have hnext := ih (h.segment m.1 (tcpPsh ||| tcpAck) m.2)
    rw [List.append_assoc] at hnext
    exact hnext

/-- **A conversation puts its transcript on the wire.** -/
theorem converse_spec (e : Endpoints) (serverPort : UInt16) (script : List (Side × List UInt8)) :
    List.Forall₂ (SegmentOf e serverPort) (transcript script) (converse e serverPort script) := by
  have hopen := ((TcpSession.hasSaid_new e serverPort).segment .client
    tcpSyn []).segment .server (tcpSyn ||| tcpAck) [] |>.segment .client tcpAck []
  have hclose := (((hopen.run script).segment .client (tcpFin ||| tcpAck) []).segment .server
    tcpAck []).segment .server (tcpFin ||| tcpAck) [] |>.segment .client tcpAck []
  simpa [transcript, converse, TcpSession.handshake, TcpSession.close] using hclose.said

/-- What an observer collects from the frames, it collects from the transcript. -/
theorem filterMap_converse {α : Type} (e : Endpoints) (serverPort : UInt16)
    (script : List (Side × List UInt8)) (observe : Frame → Option α) (hear : Said → Option α)
    (h : ∀ m ∈ transcript script, ∀ f, SegmentOf e serverPort m f → observe f = hear m) :
    (converse e serverPort script).filterMap observe = (transcript script).filterMap hear := by
  have hspec := converse_spec e serverPort script
  generalize converse e serverPort script = frames at hspec
  generalize transcript script = log at hspec h
  induction hspec with
  | nil => rfl
  | @cons m f log frames hmf _ ih =>
    rw [List.filterMap_cons, List.filterMap_cons, h m List.mem_cons_self f hmf,
      ih fun m' hm' => h m' (List.mem_cons_of_mem _ hm')]

/-- The size of a segment. -/
theorem SegmentOf.length {m : Said} {f : Frame} (h : SegmentOf e serverPort m f) :
    f.length = 54 + m.payload.length := by
  obtain ⟨seq, ack, rfl⟩ := h
  unfold Endpoints.segment
  split
  · exact length_tcpSegment _ _ _ _ _ _ _ _ _ _
  · exact length_tcpSegment _ _ _ _ _ _ _ _ _ _

/-- **The sizes of a conversation** depend on its messages only. -/
theorem lengths_converse (e : Endpoints) (serverPort : UInt16)
    (script : List (Side × List UInt8)) :
    (converse e serverPort script).map List.length =
      [54, 54, 54] ++ script.map (fun m => 54 + m.2.length) ++ [54, 54, 54, 54] := by
  have hlengths := filterMap_converse e serverPort script (fun f => some f.length)
    (fun m => some (54 + m.payload.length)) fun m _ f hf => congrArg some hf.length
  rw [List.filterMap_eq_map', List.filterMap_eq_map'] at hlengths
  rw [hlengths]
  simp [transcript]

/-- The sizes of the frames of an exchange. -/
def Exchange.sizes : Exchange → List Nat
  | .tcp _ _ script => [54, 54, 54] ++ script.map (fun m => 54 + m.2.length) ++ [54, 54, 54, 54]
  | .udp _ _ script => script.map fun m => 42 + m.2.length

/-- **The sizes of an exchange** are those of its messages, whoever talks. -/
theorem Exchange.lengths_frames (x : Exchange) : x.frames.map List.length = x.sizes := by
  cases x with
  | tcp e serverPort script => exact lengths_converse e serverPort script
  | udp e serverPort script =>
    simp only [frames, sizes, List.map_map]
    refine List.map_congr_left fun m _ => ?_
    simp only [Function.comp, Endpoints.datagram]
    split
    · exact length_udpFrame _ _ _ _ _ _ _
    · exact length_udpFrame _ _ _ _ _ _ _

end

end TurboLaser.Synth
