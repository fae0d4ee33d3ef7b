import TurboLaser.Lib.TcpStream
import TurboLaser.Proto.RewriteFacts
import TurboLaser.Synth.Builders
import TurboLaser.Synth.Session

/-!
# TCP sessions reassemble (synth/session.rs)

`TcpSession` keeps the sequence numbers of both sides in step. An observer that knows the two ends
reads the frames of a session back into segments and puts the streams together.

The observer is in two layers. `readSegment` takes a frame to a segment, through the parser, and
refuses what has a wrong checksum or belongs to another conversation; `Lib.TcpStream` takes segments
to streams, and refuses what is out of place. A session is then followed at the level of what it
says: a log of things said, with the counters before and after, from which both its frames and its
segments are read off.

- `readSegment`: what the observer reads off a frame; it wants the checksums right and the ends of
  the conversation, and tells the sides apart by hardware address, address and port;
- `readSegment_segment`: **a segment is read back** with its numbers, flags and payload;
- `contiguous_heard`: **every segment is where the ones before it left off**, and acknowledges all
  of the other side;
- `converse_reassembles`: **a session between two different ends is reassembled** from its frames,
  whatever the sides say and wherever their numbers start;
- `converse_ambiguous`: between two ends that are one and the same it is not: two sessions in which
  the sides say different things have the same frames. No observer could tell, so the difference of
  the ends is needed.
-/

namespace TurboLaser.Synth

open Lib

/-! ## What an observer reads -/

/-- One end of a conversation: hardware address, address and port. -/
abbrev End := Mac × Ipv4Addr × Nat

/-- The end that opens the conversation. -/
def Endpoints.near (e : Endpoints) : End := (e.clientMac, e.clientIp, e.clientPort.toNat)

/-- The other end. -/
def Endpoints.far (e : Endpoints) (serverPort : UInt16) : End :=
  (e.serverMac, e.serverIp, serverPort.toNat)

/-- The end a frame comes from. -/
def sourceEnd (f : Frame) (l : FrameLayout) : End := (macAt f 6, be32 f (l.l3 + 12), be16 f l.l4)

/-- The end it goes to. -/
def targetEnd (f : Frame) (l : FrameLayout) : End :=
  (macAt f 0, be32 f (l.l3 + 16), be16 f (l.l4 + 2))

/-- Who sent a frame of the conversation. -/
def senderOf (e : Endpoints) (serverPort : UInt16) (f : Frame) (l : FrameLayout) :
    Option Tcp.Sender :=
  if sourceEnd f l = e.near ∧ targetEnd f l = e.far serverPort then some .opener
  else if sourceEnd f l = e.far serverPort ∧ targetEnd f l = e.near then some .peer
  else none

/-- A segment of the conversation, with valid checksums; `none` for any other frame. -/
def readSegment (e : Endpoints) (serverPort : UInt16) (f : Frame) : Option Tcp.Segment :=
  match parseLayout f with
  | some l =>
    if l.l4Kind = .tcp ∧ checksumsValid f l = true then
      (senderOf e serverPort f l).map fun sender =>
        { sender
          seq := be32 f (l.l4 + 4)
          ack := be32 f (l.l4 + 8)
          syn := decide (byte f (l.l4 + 13) &&& tcpSyn ≠ 0)
          hasAck := decide (byte f (l.l4 + 13) &&& tcpAck ≠ 0)
          fin := decide (byte f (l.l4 + 13) &&& tcpFin ≠ 0)
          payload := slice f l.payload l.stop }
    else none
  | none => none

/-- The side of the conversation, to the observer. -/
def Side.sender : Side → Tcp.Sender
  | .client => .opener
  | .server => .peer

/-! ## A segment read back

The observer reads addresses, ports, numbers, flags and payload off a frame, and tells the sides
apart by the ends. The payload is what the lengths of the packet leave behind the headers; for a
segment that fits an IP packet that is what was put in.
-/

section

variable (srcMac dstMac : Mac) (src dst : Ipv4Addr) (sport dport : UInt16) (seq ack : UInt32)
  (flags : UInt8) (payload : List UInt8)

/-- The other fields of a segment's buffer. -/
theorem numbers_tcpBuffer :
    let b := tcpBuffer srcMac dstMac src dst sport dport seq ack flags payload
    macAt b 0 = dstMac ∧ macAt b 6 = srcMac ∧ be32 b 38 = seq ∧ be32 b 42 = ack := by
  intro b
  have hb : b = tcpBuffer srcMac dstMac src dst sport dport seq ack flags payload := rfl
  simp only [tcpBuffer, ethernetHeader, ipv4Header, Mac.bytes, toBeBytes16, toBeBytes,
    List.cons_append, List.nil_append] at hb
  refine ⟨?_, ?_, be32_of_bytes ?_ ?_ ?_ ?_, be32_of_bytes ?_ ?_ ?_ ?_⟩
  all_goals simp only [macAt, hb, byte_cons_succ, byte_cons_zero]

/-- **A segment that fits an IP packet is parsed**, has valid checksums, and its fields are
those it was built with. -/
theorem tcpSegment_fields (hfit : payload.length + 40 < 65536) :
    let f := tcpSegment srcMac dstMac src dst sport dport seq ack flags payload
    let l := laidLayout .tcp 20 (54 + payload.length)
    parseLayout f = some l ∧ checksumsValid f l = true ∧
      sourceEnd f l = (srcMac, src, sport.toNat) ∧ targetEnd f l = (dstMac, dst, dport.toNat) ∧
      be32 f 38 = seq ∧ be32 f 42 = ack ∧ byte f 47 = flags ∧
      slice f 54 (54 + payload.length) = payload := by
  intro f l
  have hlaid := laid_tcpBuffer srcMac dstMac src dst sport dport payload seq ack flags hfit
  have hlen := length_tcpBuffer srcMac dstMac src dst sport dport seq ack flags payload
  obtain ⟨hdstMac, hsrcMac, hseq, hack⟩ :=
    numbers_tcpBuffer srcMac dstMac src dst sport dport seq ack flags payload
  obtain ⟨-, -, -, -, -, -, -, -, -, hflags, -⟩ :=
    bytes_tcpBuffer srcMac dstMac src dst sport dport seq ack flags payload
  have hf : f = finish (tcpBuffer srcMac dstMac src dst sport dport seq ack flags payload) := by
    show tcpSegment srcMac dstMac src dst sport dport seq ack flags payload = _
    unfold tcpSegment
    rfl
  have hparse := hlaid.parse
  have hvalid := hlaid.valid
  have hrest := drop_tcpSegment srcMac dstMac src dst sport dport seq ack flags payload
  have hsize := length_tcpSegment srcMac dstMac src dst sport dport seq ack flags payload
  have hbyte := fun i => byte_tcpSegment srcMac dstMac src dst sport dport seq ack flags payload
    (i := i)
  rw [hlen, ← hf] at hparse hvalid
  change f.drop 54 = payload at hrest
  change f.length = _ at hsize
  -- the checksums are at 24 and at 50; every other field is as it was laid
  have hword : ∀ off, off + 2 ≤ 24 ∨ (26 ≤ off ∧ off + 2 ≤ 50) →
      be16 f off = be16 (tcpBuffer srcMac dstMac src dst sport dport seq ack flags payload) off :=
    fun off hoff => be16_congr fun k hk hk' => hbyte k (by omega)
  have haddr : ∀ off, 26 ≤ off ∧ off + 4 ≤ 50 →
      be32 f off = be32 (tcpBuffer srcMac dstMac src dst sport dport seq ack flags payload) off :=
    fun off hoff => be32_congr fun k hk hk' => hbyte k (by omega)
  have hmac : ∀ off, off + 6 ≤ 24 →
      macAt f off = macAt (tcpBuffer srcMac dstMac src dst sport dport seq ack flags payload) off :=
    fun off hoff => macAt_congr fun k hk hk' => hbyte k (by omega)
  refine ⟨hparse, hvalid, ?_, ?_, ?_, ?_, ?_, ?_⟩
  · exact Prod.ext ((hmac 6 (by decide)).trans hsrcMac)
      (Prod.ext ((haddr 26 (by decide)).trans hlaid.src_eq)
        ((hword 34 (by decide)).trans hlaid.sport_eq))
  · exact Prod.ext ((hmac 0 (by decide)).trans hdstMac)
      (Prod.ext ((haddr 30 (by decide)).trans hlaid.dst_eq)
        ((hword 36 (by decide)).trans hlaid.dport_eq))
  · exact (haddr 38 (by decide)).trans hseq
  · exact (haddr 42 (by decide)).trans hack
  · exact (hbyte 47 (by decide)).trans hflags
  · rw [slice, List.take_of_length_le (by omega), hrest]

end

/-- What the observer makes of a segment that one side sends. -/
def segmentSaid (side : Side) (seq ack : UInt32) (flags : UInt8) (payload : List UInt8) :
    Tcp.Segment :=
  { sender := side.sender
    seq
    ack
    syn := decide (flags &&& tcpSyn ≠ 0)
    hasAck := decide (flags &&& tcpAck ≠ 0)
    fin := decide (flags &&& tcpFin ≠ 0)
    payload }

/-- **A segment is read back** with its numbers, flags and payload, when the two ends differ. -/
theorem readSegment_segment {e : Endpoints} {serverPort : UInt16} (hends : e.near ≠ e.far serverPort)
    (side : Side) (seq ack : UInt32) (flags : UInt8) {payload : List UInt8}
    (hfit : payload.length + 40 < 65536) :
    readSegment e serverPort (e.segment serverPort side seq ack flags payload) =
      some (segmentSaid side seq ack flags payload) := by
  cases side with
  | client =>
    obtain ⟨hparse, hvalid, hsource, htarget, hseq, hack, hflags, hpayload⟩ :=
      tcpSegment_fields e.clientMac e.serverMac e.clientIp e.serverIp e.clientPort serverPort seq
        ack flags payload hfit
    unfold readSegment Endpoints.segment
    rw [hparse]
    dsimp only
    rw [if_pos ⟨rfl, hvalid⟩, senderOf, if_pos ⟨hsource, htarget⟩]
    simp only [laidLayout, hseq, hack, hflags, hpayload]
    rfl
  | server =>
    obtain ⟨hparse, hvalid, hsource, htarget, hseq, hack, hflags, hpayload⟩ :=
      tcpSegment_fields e.serverMac e.clientMac e.serverIp e.clientIp serverPort e.clientPort seq
        ack flags payload hfit
    unfold readSegment Endpoints.segment
    rw [hparse]
    dsimp only
    rw [if_pos ⟨rfl, hvalid⟩, senderOf, if_neg, if_pos ⟨hsource, htarget⟩]
    · simp only [laidLayout, hseq, hack, hflags, hpayload]
      rfl
    -- were it taken for the client's, the two ends would be one
    · rintro ⟨hnear, -⟩
      exact hends (hnear.symm.trans hsource)

/-! ## The session, segment by segment

The session keeps two counters and the observer two, one for each side. They agree before every
segment and advance by the same amount: by the payload, and by one for a SYN or a FIN. The numbers
wrap, on both sides alike.
-/

/-- The session says one thing more. -/
def TcpSession.emit (s : TcpSession) (m : Said) : TcpSession := s.segment m.side m.flags m.payload

/-- The numbers the two sides send next. -/
def TcpSession.counters (s : TcpSession) : Tcp.Counters := ⟨s.clientSnd, s.serverSnd⟩

/-- What the observer makes of the next thing that is said. -/
def TcpSession.heard (s : TcpSession) (m : Said) : Tcp.Segment :=
  segmentSaid m.side (s.counters.get m.side.sender) (s.counters.get m.side.sender.other) m.flags
    m.payload

/-- What it makes of a whole log. -/
def TcpSession.heardAll (s : TcpSession) : List Said → List Tcp.Segment
  | [] => []
  | m :: log => s.heard m :: (s.emit m).heardAll log

/-- The flags a session uses: a SYN and a FIN never come together. -/
def SessionFlags (flags : UInt8) : Prop :=
  flags = tcpSyn ∨ flags = tcpSyn ||| tcpAck ∨ flags = tcpAck ∨ flags = tcpPsh ||| tcpAck ∨
    flags = tcpFin ||| tcpAck

theorem heardAll_append (s : TcpSession) (xs ys : List Said) :
    s.heardAll (xs ++ ys) = s.heardAll xs ++ (xs.foldl TcpSession.emit s).heardAll ys := by
  induction xs generalizing s with
  | nil => rfl
  | cons m xs ih =>
    rw [List.cons_append, TcpSession.heardAll, ih]
    rfl

/-- A conversation says its transcript. -/
theorem converse_eq (e : Endpoints) (serverPort : UInt16) (script : List (Side × List UInt8)) :
    converse e serverPort script =
      ((transcript script).foldl TcpSession.emit (TcpSession.new e serverPort)).frames := by
  unfold converse transcript
  rw [List.foldl_append, List.foldl_append, List.foldl_map]
  rfl

/-- The numbers a segment takes are those the session counts. -/
theorem size_heard (s : TcpSession) {m : Said} (h : SessionFlags m.flags) :
    (s.heard m).size = TcpSession.consumed m.flags m.payload := by
  obtain ⟨side, flags, payload⟩ := m
  show UInt32.ofNat payload.length + (if decide (flags &&& tcpSyn ≠ 0) = true then 1 else 0) +
    (if decide (flags &&& tcpFin ≠ 0) = true then 1 else 0) =
      UInt32.ofNat payload.length + if flags &&& (tcpSyn ||| tcpFin) ≠ 0 then 1 else 0
  have hnone : ∀ x : UInt32, x + 0 = x := fun x => UInt32.add_zero x
  rcases h with rfl | rfl | rfl | rfl | rfl
  · rw [if_pos (by decide), if_neg (by decide), if_pos (by decide), hnone]
  · rw [if_pos (by decide), if_neg (by decide), if_pos (by decide), hnone]
  · rw [if_neg (by decide), if_neg (by decide), if_neg (by decide), hnone, hnone]
  · rw [if_neg (by decide), if_neg (by decide), if_neg (by decide), hnone, hnone]
  · rw [if_neg (by decide), if_pos (by decide), if_pos (by decide), hnone]

/-- The counters of the session advance by what was said. -/
theorem counters_emit (s : TcpSession) {m : Said} (h : SessionFlags m.flags) :
    (s.emit m).counters = s.counters.advance m.side.sender (s.heard m).size := by
  rw [size_heard s h]
  obtain ⟨side, flags, payload⟩ := m
  cases side with
  | client => rfl
  | server => rfl

/-- **Every segment is where the ones before it left off**, and acknowledges all of the other
side. -/
theorem contiguous_heard (s : TcpSession) {log : List Said} (h : ∀ m ∈ log, SessionFlags m.flags) :
    Tcp.Contiguous s.counters (s.heardAll log) := by
  induction log generalizing s with
  | nil => trivial
  | cons m log ih =>
    refine ⟨rfl, rfl, ?_⟩
    have hrest := ih (s.emit m) fun m' hm' => h m' (List.mem_cons_of_mem _ hm')
    rwa [counters_emit s (h m List.mem_cons_self)] at hrest

section

variable {e : Endpoints} {serverPort : UInt16}

/-- What the observer reads is what was said. -/
theorem readSegment_emit (hends : e.near ≠ e.far serverPort) {s : TcpSession}
    (hs : s.ends = e ∧ s.serverPort = serverPort) {m : Said} (hfit : m.payload.length + 40 < 65536) :
    (s.emit m).frames.map (readSegment e serverPort) =
      s.frames.map (readSegment e serverPort) ++ [some (s.heard m)] := by
  obtain ⟨rfl, rfl⟩ := hs
  obtain ⟨side, flags, payload⟩ := m
  have hread := fun seq ack => readSegment_segment hends side seq ack flags hfit
  cases side with
  | client =>
    show (s.frames ++ [_]).map _ = _
    rw [List.map_append, List.map_singleton, hread]
    rfl
  | server =>
    show (s.frames ++ [_]).map _ = _
    rw [List.map_append, List.map_singleton, hread]
    rfl

theorem ends_emit {s : TcpSession} (hs : s.ends = e ∧ s.serverPort = serverPort) (m : Said) :
    (s.emit m).ends = e ∧ (s.emit m).serverPort = serverPort := by
  obtain ⟨side, flags, payload⟩ := m
  cases side with
  | client => exact hs
  | server => exact hs

/-- **The frames of a log are read back** as it. -/
theorem readSegment_log (hends : e.near ≠ e.far serverPort) {s : TcpSession}
    (hs : s.ends = e ∧ s.serverPort = serverPort) {log : List Said}
    (hfit : ∀ m ∈ log, m.payload.length + 40 < 65536) :
    (log.foldl TcpSession.emit s).frames.map (readSegment e serverPort) =
      s.frames.map (readSegment e serverPort) ++ (s.heardAll log).map some := by
  induction log generalizing s with
  | nil => exact (List.append_nil _).symm
  | cons m log ih =>
    rw [List.foldl_cons, ih (ends_emit hs m) fun m' hm' => hfit m' (List.mem_cons_of_mem _ hm'),
      readSegment_emit hends hs (hfit m List.mem_cons_self), List.append_assoc]
    rfl

end

/-! ## A whole session

The observer is told which end is which by the addresses, so the ends have to differ in one. A
script is a list of messages with their sides. Handshake and close carry no data, so the streams are
the messages of each side, and the counters of the observer are those of the session all the way.
-/

/-- What one side says in a script. -/
def saidBy (side : Side) (script : List (Side × List UInt8)) : List UInt8 :=
  script.flatMap fun m => if m.1 = side then m.2 else []

/-- The messages of a script. -/
def messages (script : List (Side × List UInt8)) : List Said :=
  script.map fun m => ⟨m.1, tcpPsh ||| tcpAck, m.2⟩

/-- A message is data. -/
theorem isData_heard (s : TcpSession) {m : Said} (h : m.flags = tcpPsh ||| tcpAck) :
    Tcp.IsData (s.heard m) := by
  refine ⟨?_, ?_, ?_⟩
  · show decide (m.flags &&& tcpSyn ≠ 0) = false
    rw [h]
    decide
  · show decide (m.flags &&& tcpAck ≠ 0) = true
    rw [h]
    decide
  · show decide (m.flags &&& tcpFin ≠ 0) = false
    rw [h]
    decide

/-- Messages are data. -/
theorem isData_messages (s : TcpSession) (script : List (Side × List UInt8)) :
    ∀ segment ∈ s.heardAll (messages script), Tcp.IsData segment := by
  induction script generalizing s with
  | nil => nofun
  | cons m script ih =>
    intro segment hsegment
    rcases List.mem_cons.mp hsegment with rfl | hsegment
    · exact isData_heard s rfl
    · exact ih _ segment hsegment

/-- The streams of the messages are what the sides say. -/
theorem stream_messages (s : TcpSession) (script : List (Side × List UInt8)) (side : Side) :
    Tcp.stream side.sender (s.heardAll (messages script)) = saidBy side script := by
  induction script generalizing s with
  | nil => rfl
  | cons m script ih =>
    obtain ⟨speaker, payload⟩ := m
    have hhead : (if (s.heard ⟨speaker, tcpPsh ||| tcpAck, payload⟩).sender = side.sender
        then payload else []) = if speaker = side then payload else [] := by
      cases speaker with
      | client => cases side <;> rfl
      | server => cases side <;> rfl
    have htail := ih (s.emit ⟨speaker, tcpPsh ||| tcpAck, payload⟩)
    unfold Tcp.stream at htail
    unfold Tcp.stream saidBy
    rw [messages, List.map_cons, TcpSession.heardAll, List.flatMap_cons, List.flatMap_cons]
    exact congrArg₂ (· ++ ·) hhead htail

/-- The flags of a transcript. -/
theorem sessionFlags_transcript (script : List (Side × List UInt8)) :
    ∀ m ∈ transcript script, SessionFlags m.flags := by
  intro m hm
  rw [transcript, List.mem_append, List.mem_append] at hm
  rcases hm with (hm | hm) | hm
  · simp only [List.mem_cons, List.not_mem_nil, or_false] at hm
    rcases hm with rfl | rfl | rfl
    · exact .inl rfl
    · exact .inr (.inl rfl)
    · exact .inr (.inr (.inl rfl))
  · obtain ⟨m', -, rfl⟩ := List.mem_map.mp hm
    exact .inr (.inr (.inr (.inl rfl)))
  · simp only [List.mem_cons, List.not_mem_nil, or_false] at hm
    rcases hm with rfl | rfl | rfl | rfl
    · exact .inr (.inr (.inr (.inr rfl)))
    · exact .inr (.inr (.inl rfl))
    · exact .inr (.inr (.inr (.inr rfl)))
    · exact .inr (.inr (.inl rfl))

/-- The segments of a conversation, as the observer hears them. -/
def sessionSegments (e : Endpoints) (serverPort : UInt16) (script : List (Side × List UInt8)) :
    List Tcp.Segment :=
  (TcpSession.new e serverPort).heardAll (transcript script)

/-- **They are reassembled** into what the sides say, and a clean close. -/
theorem reassemble_sessionSegments (e : Endpoints) (serverPort : UInt16)
    (script : List (Side × List UInt8)) :
    Tcp.reassemble (sessionSegments e serverPort script) =
      some (saidBy .client script, saidBy .server script) := by
  have hcont := contiguous_heard (TcpSession.new e serverPort) (sessionFlags_transcript script)
  have hstream := fun s => stream_messages s script
  have hdata := fun s => isData_messages s script
  unfold sessionSegments
  unfold transcript at hcont ⊢
  rw [heardAll_append, heardAll_append] at hcont ⊢
  rw [← hstream _ .client, ← hstream _ .server]
  exact Tcp.reassemble_session
    ⟨⟨rfl, rfl, rfl⟩, ⟨rfl, rfl, rfl⟩, ⟨rfl, rfl, rfl⟩, ⟨rfl, rfl, rfl⟩, ⟨rfl, rfl, rfl⟩⟩
    (hdata _)
    ⟨⟨rfl, rfl, rfl, rfl⟩, ⟨rfl, rfl, rfl, rfl⟩, ⟨rfl, rfl, rfl, rfl⟩, ⟨rfl, rfl, rfl, rfl⟩,
      ⟨rfl, rfl, rfl, rfl⟩⟩ hcont

/-- **A session between two different ends is reassembled from its frames**: each frame is a
segment with valid checksums, each segment continues its sender's stream and acknowledges all of
the other one, and what comes out is what either side said, and a clean four-way close. -/
theorem converse_reassembles {e : Endpoints} {serverPort : UInt16}
    (hends : e.near ≠ e.far serverPort) {script : List (Side × List UInt8)}
    (hfit : ∀ m ∈ script, m.2.length + 40 < 65536) :
    ∃ segments,
      (converse e serverPort script).map (readSegment e serverPort) = segments.map some ∧
      (∀ f ∈ converse e serverPort script, ∃ l, parseLayout f = some l ∧ l.l4Kind = .tcp ∧
        checksumsValid f l = true) ∧
      Tcp.Contiguous (TcpSession.new e serverPort).counters segments ∧
      Tcp.reassemble segments = some (saidBy .client script, saidBy .server script) := by
  have hlog : ∀ m ∈ transcript script, m.payload.length + 40 < 65536 := by
    intro m hm
    rw [transcript, List.mem_append, List.mem_append] at hm
    rcases hm with (hm | hm) | hm
    · simp only [List.mem_cons, List.not_mem_nil, or_false] at hm
      rcases hm with rfl | rfl | rfl <;> decide
    · obtain ⟨m', hm', rfl⟩ := List.mem_map.mp hm
      exact hfit m' hm'
    · simp only [List.mem_cons, List.not_mem_nil, or_false] at hm
      rcases hm with rfl | rfl | rfl | rfl <;> decide
  have hread : (converse e serverPort script).map (readSegment e serverPort) =
      (sessionSegments e serverPort script).map some := by
    rw [converse_eq]
    exact readSegment_log hends (s := TcpSession.new e serverPort) ⟨rfl, rfl⟩ hlog
  refine ⟨sessionSegments e serverPort script, hread, ?_,
    contiguous_heard _ (sessionFlags_transcript script),
    reassemble_sessionSegments e serverPort script⟩
  -- a frame that is read as a segment parses, and is valid
  intro f hf
  have hsome : readSegment e serverPort f ∈
      (sessionSegments e serverPort script).map some := by
    rw [← hread]
    exact List.mem_map_of_mem hf
  obtain ⟨segment, -, hsegment⟩ := List.mem_map.mp hsome
  unfold readSegment at hsegment
  split at hsegment
  · next l hparse =>
    split at hsegment
    · next hvalid => exact ⟨l, hparse, hvalid.1, hvalid.2⟩
    · cases hsegment
  · cases hsegment

/-- A poll, its answer, and an empty message. -/
theorem converse_reassembles_poll :
    ∃ segments,
      (converse ⟨⟨0, 0, 0xBC, 1, 2, 3⟩, ⟨0, 0, 0xBC, 4, 5, 6⟩, 0x0A0000FA, 0x0A000005, 50000⟩ 502
          [(.client, [1, 2]), (.server, [3]), (.server, [])]).map
        (readSegment ⟨⟨0, 0, 0xBC, 1, 2, 3⟩, ⟨0, 0, 0xBC, 4, 5, 6⟩, 0x0A0000FA, 0x0A000005,
          50000⟩ 502) = segments.map some ∧
      (∀ f ∈ converse ⟨⟨0, 0, 0xBC, 1, 2, 3⟩, ⟨0, 0, 0xBC, 4, 5, 6⟩, 0x0A0000FA, 0x0A000005,
          50000⟩ 502 [(.client, [1, 2]), (.server, [3]), (.server, [])],
        ∃ l, parseLayout f = some l ∧ l.l4Kind = .tcp ∧ checksumsValid f l = true) ∧
      Tcp.Contiguous (TcpSession.new ⟨⟨0, 0, 0xBC, 1, 2, 3⟩, ⟨0, 0, 0xBC, 4, 5, 6⟩, 0x0A0000FA,
        0x0A000005, 50000⟩ 502).counters segments ∧
      Tcp.reassemble segments = some ([1, 2], [3]) :=
  @converse_reassembles ⟨⟨0, 0, 0xBC, 1, 2, 3⟩, ⟨0, 0, 0xBC, 4, 5, 6⟩, 0x0A0000FA, 0x0A000005,
      50000⟩ 502 (by decide) [(.client, [1, 2]), (.server, [3]), (.server, [])] (by decide)

/-- **Between two ends that are one and the same, nothing can tell the sides apart**: where
their initial sequence numbers coincide too, two sessions in which the sides say different things
have the same frames. -/
theorem converse_ambiguous :
    ¬ ∃ reassembler : List Frame → Option (List UInt8 × List UInt8),
      ∀ (e : Endpoints) (serverPort : UInt16) (script : List (Side × List UInt8)),
        (∀ m ∈ script, m.2.length + 40 < 65536) →
        reassembler (converse e serverPort script) =
          some (saidBy .client script, saidBy .server script) := by
  rintro ⟨reassembler, h⟩
  have hsame : converse ⟨⟨0, 0, 0xBC, 1, 2, 3⟩, ⟨0, 0, 0xBC, 1, 2, 3⟩, 0x0AFB73B0, 0x0AFB73B0,
        20000⟩ 20000 [(.client, [1]), (.server, [2])] =
      converse ⟨⟨0, 0, 0xBC, 1, 2, 3⟩, ⟨0, 0, 0xBC, 1, 2, 3⟩, 0x0AFB73B0, 0x0AFB73B0,
        20000⟩ 20000 [(.server, [1]), (.client, [2])] := by
    decide +kernel
  have hone := h ⟨⟨0, 0, 0xBC, 1, 2, 3⟩, ⟨0, 0, 0xBC, 1, 2, 3⟩, 0x0AFB73B0, 0x0AFB73B0, 20000⟩
    20000 [(.client, [1]), (.server, [2])] (by decide)
  have htwo := h ⟨⟨0, 0, 0xBC, 1, 2, 3⟩, ⟨0, 0, 0xBC, 1, 2, 3⟩, 0x0AFB73B0, 0x0AFB73B0, 20000⟩
    20000 [(.server, [1]), (.client, [2])] (by decide)
  rw [hsame, htwo] at hone
  exact absurd hone (by decide)

end TurboLaser.Synth
