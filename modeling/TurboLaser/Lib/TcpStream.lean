import Mathlib.Data.List.Basic

/-!
# TCP streams, reassembled

A passive observer of one TCP connection, as an intrusion sensor is one: it sees the segments of
both sides in their order and puts together what each side sent. It is strict. A segment that is not
where the counters say, or that does not acknowledge everything seen so far, has no place, and one
such segment ends the observation.

Sequence numbers are 32-bit words and wrap around, so nothing here compares them by size; a segment
is expected at exactly one number. The SYN and the FIN take a number each, as a byte of payload
does.

- `Contiguous`: every segment is at its place, for given counters. It is a property of a list of
  segments, without the state of an observer, and splits over concatenation;
- `Phase`, `step`, `observe`: the observer, from the handshake through the data to the close, in the
  orders of FINs and ACKs that the protocol allows;
- `run_data`, `run_close`: what a run of data and the four closing segments do to it;
- `reassemble_session`: **a contiguous session of handshake, data and close is reassembled**: each
  side's stream is what it sent, byte for byte, and the connection ends closed. It holds whatever
  the initial numbers are.
-/

namespace TurboLaser.Lib.Tcp

/-- The side that opens a connection, and the other one. -/
inductive Sender where
  | opener
  | peer
deriving DecidableEq

/-- The other side. -/
def Sender.other : Sender → Sender
  | .opener => .peer
  | .peer => .opener

/-- A segment, as far as the stream goes. -/
structure Segment where
  sender : Sender
  seq : UInt32
  ack : UInt32
  syn : Bool
  hasAck : Bool
  fin : Bool
  payload : List UInt8
deriving DecidableEq

/-- The sequence numbers a segment takes. -/
def Segment.size (s : Segment) : UInt32 :=
  UInt32.ofNat s.payload.length + (if s.syn then 1 else 0) + (if s.fin then 1 else 0)

/-- The sequence number each side sends next. -/
structure Counters where
  opener : UInt32
  peer : UInt32
deriving DecidableEq

/-- The number of one side. -/
def Counters.get (n : Counters) : Sender → UInt32
  | .opener => n.opener
  | .peer => n.peer

/-- One side has sent `k` numbers more. -/
def Counters.advance (n : Counters) (sender : Sender) (k : UInt32) : Counters :=
  match sender with
  | .opener => { n with opener := n.opener + k }
  | .peer => { n with peer := n.peer + k }

/-- Every segment is at its place, and acknowledges all there is. -/
def Contiguous : Counters → List Segment → Prop
  | _, [] => True
  | n, s :: rest =>
    s.seq = n.get s.sender ∧ s.ack = n.get s.sender.other ∧
      Contiguous (n.advance s.sender s.size) rest

/-! ## The observer -/

/-- Where a connection is, and who closes it. -/
inductive Phase where
  | established
  | finWait (closer : Sender)
  | halfClosed (closer : Sender)
  | lastAck (closer : Sender)
  | closed
deriving DecidableEq

/-- A connection: what is expected next, and what either side has sent. -/
structure Conn where
  phase : Phase
  next : Counters
  opener : List UInt8
  peer : List UInt8
deriving DecidableEq

/-- What a segment does to the phase; `none` where it has no place. -/
def nextPhase (s : Segment) : Phase → Option Phase
  | .established => some (if s.fin then .finWait s.sender else .established)
  | .finWait closer =>
    if s.sender = closer ∨ s.fin = true then none else some (.halfClosed closer)
  | .halfClosed closer =>
    if s.sender = closer then none
    else some (if s.fin then .lastAck closer else .halfClosed closer)
  | .lastAck closer =>
    if s.sender = closer ∧ s.fin = false ∧ s.payload = [] then some .closed else none
  | .closed => none

/-- The segment has its place in the stream. -/
def InOrder (n : Counters) (s : Segment) : Prop :=
  s.syn = false ∧ s.hasAck = true ∧ s.seq = n.get s.sender ∧ s.ack = n.get s.sender.other

instance (n : Counters) (s : Segment) : Decidable (InOrder n s) :=
  inferInstanceAs (Decidable (_ ∧ _))

/-- One segment of an open connection. -/
def step (c : Conn) (s : Segment) : Option Conn :=
  if InOrder c.next s then
    (nextPhase s c.phase).map fun phase =>
      { phase
        next := c.next.advance s.sender s.size
        opener := if s.sender = .opener then c.opener ++ s.payload else c.opener
        peer := if s.sender = .peer then c.peer ++ s.payload else c.peer }
  else none

/-- The three segments that open a connection: SYN, SYN and ACK, ACK. -/
structure Opens (a b c : Segment) : Prop where
  senders : a.sender = .opener ∧ b.sender = .peer ∧ c.sender = .opener
  syns : a.syn = true ∧ b.syn = true ∧ c.syn = false
  acks : a.hasAck = false ∧ b.hasAck = true ∧ c.hasAck = true
  fins : a.fin = false ∧ b.fin = false ∧ c.fin = false
  payloads : a.payload = [] ∧ b.payload = [] ∧ c.payload = []

/-- The numbers of a handshake. -/
def Answers (a b c : Segment) : Prop :=
  b.ack = a.seq + 1 ∧ c.seq = a.seq + 1 ∧ c.ack = b.seq + 1

instance (a b c : Segment) : Decidable (Opens a b c) :=
  decidable_of_iff
    ((a.sender = .opener ∧ b.sender = .peer ∧ c.sender = .opener) ∧
      (a.syn = true ∧ b.syn = true ∧ c.syn = false) ∧
      (a.hasAck = false ∧ b.hasAck = true ∧ c.hasAck = true) ∧
      (a.fin = false ∧ b.fin = false ∧ c.fin = false) ∧
      (a.payload = [] ∧ b.payload = [] ∧ c.payload = []))
    ⟨fun h => ⟨h.1, h.2.1, h.2.2.1, h.2.2.2.1, h.2.2.2.2⟩,
      fun h => ⟨h.senders, h.syns, h.acks, h.fins, h.payloads⟩⟩

instance (a b c : Segment) : Decidable (Answers a b c) := inferInstanceAs (Decidable (_ ∧ _))

/-- The connection the segments make up, from the handshake on. -/
def observe : List Segment → Option Conn
  | a :: b :: c :: rest =>
    if Opens a b c ∧ Answers a b c then
      rest.foldlM step ⟨.established, ⟨a.seq + 1, b.seq + 1⟩, [], []⟩
    else none
  | _ => none

/-- What each side sent, when the connection was opened and closed cleanly. -/
def reassemble (segments : List Segment) : Option (List UInt8 × List UInt8) :=
  match observe segments with
  | some c => if c.phase = .closed then some (c.opener, c.peer) else none
  | none => none

/-- The payloads of one sender. -/
def stream (sender : Sender) (segments : List Segment) : List UInt8 :=
  segments.flatMap fun s => if s.sender = sender then s.payload else []

/-! ## Sessions

A connection is followed by the counters of its two sides. A segment has its place if it starts
where its sender stopped and acknowledges all that the other side sent. Data leaves the connection
open and adds to a stream, and the close is four segments that add nothing. A whole session is data
and then a close, in any order of the sides.
-/

/-- A segment of data. -/
structure IsData (s : Segment) : Prop where
  syn : s.syn = false
  hasAck : s.hasAck = true
  fin : s.fin = false

/-- The four segments that close it: FIN, ACK, FIN, ACK. -/
structure Closes (a b c d : Segment) : Prop where
  senders : a.sender = .opener ∧ b.sender = .peer ∧ c.sender = .peer ∧ d.sender = .opener
  syns : a.syn = false ∧ b.syn = false ∧ c.syn = false ∧ d.syn = false
  acks : a.hasAck = true ∧ b.hasAck = true ∧ c.hasAck = true ∧ d.hasAck = true
  fins : a.fin = true ∧ b.fin = false ∧ c.fin = true ∧ d.fin = false
  payloads : a.payload = [] ∧ b.payload = [] ∧ c.payload = [] ∧ d.payload = []

/-- The counters behind some segments. -/
def Counters.after (n : Counters) (segments : List Segment) : Counters :=
  segments.foldl (fun n s => n.advance s.sender s.size) n

/-- A list of segments is contiguous when its beginning is, and its rest from the counters there. -/
theorem contiguous_append {n : Counters} {xs ys : List Segment} :
    Contiguous n (xs ++ ys) ↔ Contiguous n xs ∧ Contiguous (n.after xs) ys := by
  induction xs generalizing n with
  | nil => exact ⟨fun h => ⟨trivial, h⟩, fun h => h.2⟩
  | cons s xs ih =>
    rw [List.cons_append, Contiguous, Contiguous, ih, and_assoc, and_assoc]
    rfl

/-- One segment that has its place. -/
theorem step_of_inOrder {c : Conn} {s : Segment} {phase : Phase}
    (h : s.syn = false ∧ s.hasAck = true) (hseq : s.seq = c.next.get s.sender)
    (hack : s.ack = c.next.get s.sender.other) (hphase : nextPhase s c.phase = some phase) :
    step c s =
      some
        { phase
          next := c.next.advance s.sender s.size
          opener := c.opener ++ stream .opener [s]
          peer := c.peer ++ stream .peer [s] } := by
  unfold step
  rw [if_pos ⟨h.1, h.2, hseq, hack⟩, hphase]
  simp only [Option.map_some, stream, List.flatMap_cons, List.flatMap_nil, List.append_nil]
  cases s.sender with
  | opener => simp
  | peer => simp

/-- What a side sent in two stretches is what it sent in the one and in the other. -/
theorem stream_append (sender : Sender) (xs ys : List Segment) :
    stream sender (xs ++ ys) = stream sender xs ++ stream sender ys :=
  List.flatMap_append

/-- **Data is taken in order**, and leaves the connection open. -/
theorem run_data {data : List Segment} {c : Conn} (hphase : c.phase = .established)
    (hdata : ∀ s ∈ data, IsData s) (h : Contiguous c.next data) :
    data.foldlM step c =
      some
        { phase := .established
          next := c.next.after data
          opener := c.opener ++ stream .opener data
          peer := c.peer ++ stream .peer data } := by
  induction data generalizing c with
  | nil =>
    obtain ⟨phase, next, opener, peer⟩ := c
    cases hphase
    simp [stream, Counters.after]
  | cons s data ih =>
    obtain ⟨hseq, hack, hrest⟩ := h
    have hs := hdata s List.mem_cons_self
    -- data moves the counters and the streams, and not the phase
    have hnext : nextPhase s c.phase = some .established := by
      rw [hphase, nextPhase, hs.fin]
      rfl
    rw [List.foldlM_cons, step_of_inOrder ⟨hs.syn, hs.hasAck⟩ hseq hack hnext]
    refine (ih rfl (fun t ht => hdata t (List.mem_cons_of_mem _ ht)) hrest).trans ?_
    have hsplit : ∀ sender, stream sender (s :: data) = stream sender [s] ++ stream sender data :=
      fun sender => stream_append sender [s] data
    rw [hsplit, hsplit, List.append_assoc, List.append_assoc]
    rfl

/-- **Four segments close the connection**, and carry nothing. -/
theorem run_close {a b c d : Segment} {conn : Conn} (hphase : conn.phase = .established)
    (hclose : Closes a b c d) (h : Contiguous conn.next [a, b, c, d]) :
    ∃ next, [a, b, c, d].foldlM step conn = some ⟨.closed, next, conn.opener, conn.peer⟩ := by
  obtain ⟨⟨ha, hb, hc, hd⟩, ⟨hsa, hsb, hsc, hsd⟩, ⟨hka, hkb, hkc, hkd⟩, ⟨hfa, hfb, hfc, hfd⟩,
    ⟨hpa, hpb, hpc, hpd⟩⟩ := hclose
  obtain ⟨hseqa, hacka, hseqb, hackb, hseqc, hackc, hseqd, hackd, -⟩ := h
  have hempty : ∀ (s : Segment) (sender : Sender) (bytes : List UInt8), s.payload = [] →
      bytes ++ stream sender [s] = bytes := by
    intro s sender bytes hs
    simp [stream, hs]
  -- the four segments take the connection through its last four phases
  have hphasea : nextPhase a conn.phase = some (.finWait .opener) := by
    rw [hphase, nextPhase, hfa, ha]
    rfl
  have hphaseb : nextPhase b (.finWait .opener) = some (.halfClosed .opener) := by
    rw [nextPhase, hfb, hb]
    rfl
  have hphasec : nextPhase c (.halfClosed .opener) = some (.lastAck .opener) := by
    rw [nextPhase, hfc, hc]
    rfl
  have hphased : nextPhase d (.lastAck .opener) = some .closed := by
    rw [nextPhase, hfd, hd, hpd]
    rfl
  refine ⟨conn.next.after [a, b, c, d], ?_⟩
  rw [List.foldlM_cons, step_of_inOrder ⟨hsa, hka⟩ hseqa hacka hphasea, hempty a _ _ hpa,
    hempty a _ _ hpa]
  show [b, c, d].foldlM step _ = _
  rw [List.foldlM_cons, step_of_inOrder ⟨hsb, hkb⟩ hseqb hackb hphaseb, hempty b _ _ hpb,
    hempty b _ _ hpb]
  show [c, d].foldlM step _ = _
  rw [List.foldlM_cons, step_of_inOrder ⟨hsc, hkc⟩ hseqc hackc hphasec, hempty c _ _ hpc,
    hempty c _ _ hpc]
  show [d].foldlM step _ = _
  rw [List.foldlM_cons, step_of_inOrder ⟨hsd, hkd⟩ hseqd hackd hphased, hempty d _ _ hpd,
    hempty d _ _ hpd]
  rfl

/-- **A contiguous session is reassembled.** -/
theorem reassemble_session {n : Counters} {a b c : Segment} {data : List Segment}
    {w x y z : Segment} (hopen : Opens a b c) (hdata : ∀ s ∈ data, IsData s)
    (hclose : Closes w x y z) (h : Contiguous n ([a, b, c] ++ data ++ [w, x, y, z])) :
    reassemble ([a, b, c] ++ data ++ [w, x, y, z]) =
      some (stream .opener data, stream .peer data) := by
  rw [contiguous_append, contiguous_append] at h
  obtain ⟨⟨⟨hseqa, -, hseqb, hackb, hseqc, hackc, -⟩, hrun⟩, hend⟩ := h
  obtain ⟨⟨ha, hb, hc⟩, ⟨hsa, hsb, hsc⟩, -, ⟨hfa, hfb, hfc⟩, ⟨hpa, hpb, hpc⟩⟩ := id hopen
  -- the counters behind the handshake are the sequence numbers of the SYNs, and one
  have hsize : a.size = 1 ∧ b.size = 1 ∧ c.size = 0 := by
    simp [Segment.size, hsa, hsb, hsc, hfa, hfb, hfc, hpa, hpb, hpc]
  have hafter : n.after [a, b, c] = ⟨a.seq + 1, b.seq + 1⟩ := by
    simp [Counters.after, Counters.advance, Counters.get, hsize, ha, hb, hc, hseqa, hseqb]
  -- the numbers that the handshake acknowledges are those the counters have
  have hanswers : Answers a b c := by
    unfold Answers
    simp [hackb, hseqc, hackc, Counters.advance, Counters.get, Sender.other, hsize, ha, hb, hc,
      hseqa, hseqb]
  -- behind the handshake both streams are empty, and the data is taken from there
  have hall := run_data (c := ⟨.established, n.after [a, b, c], [], []⟩) rfl hdata hrun
  have hcounters : (n.after ([a, b, c] ++ data)) = (n.after [a, b, c]).after data :=
    List.foldl_append
  rw [hcounters] at hend
  obtain ⟨next, hclosed⟩ := @run_close w x y z
    ⟨.established, (n.after [a, b, c]).after data, stream .opener data, stream .peer data⟩
    rfl hclose hend
  have hobserve : observe ([a, b, c] ++ data ++ [w, x, y, z]) =
      some ⟨.closed, next, stream .opener data, stream .peer data⟩ := by
    rw [List.append_assoc]
    show (if Opens a b c ∧ Answers a b c then
      (data ++ [w, x, y, z]).foldlM step ⟨.established, ⟨a.seq + 1, b.seq + 1⟩, [], []⟩
      else none) = _
    rw [if_pos ⟨hopen, hanswers⟩, List.foldlM_append, ← hafter, hall]
    exact hclosed
  rw [reassemble, hobserve]
  rfl

end TurboLaser.Lib.Tcp
