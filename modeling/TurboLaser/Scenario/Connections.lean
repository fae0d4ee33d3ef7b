import TurboLaser.Scenario.Emissions
import TurboLaser.Scenario.Render

/-!
# The connections an attack opens

A TCP-based event opens one connection, from a client port taken from its nonce. The nonce is that
of the burst that starts the event plus the event's index, so an event with index `i` in burst `k`
takes port number `k + i` of the ephemeral range: an event of a later burst with a smaller index can
take the same port again.

A connection is known by its two ends, and a sensor that sees a SYN for one it knows takes it for a
retransmission. `opens` reads a connection off a frame, so the statement is about what is on the
wire. Where an event goes to is decided by the plant and the event, and the port by its slot, the
sum of burst and index; some events add a constant to it. So two emissions open the same connection
exactly if they have the same peers and the same slot.

- `opens`: the connection a frame opens, read off the frame (a SYN without ACK);
- `conns_exchanges`: what an event opens, by its peers and its nonce;
- `fresh_connections_iff`: **in a run with fewer than 16384 bursts and events, no two emissions open
  the same connection exactly when no two emissions with the same peers have the same slot.** Beyond
  that number ports come around again whatever one does.
-/

namespace TurboLaser.Scenario

open Lib Synth

/-- A TCP connection: client and server address and port. -/
structure Conn where
  clientIp : Ipv4Addr
  clientPort : Nat
  serverIp : Ipv4Addr
  serverPort : Nat
deriving DecidableEq

/-- The connection a frame opens: a segment with SYN and without ACK. -/
def opens (f : Frame) : Option Conn :=
  (tcpView f).bind fun v =>
    if v.flags &&& (tcpSyn ||| tcpAck) = tcpSyn then some ⟨v.src, v.sport, v.dst, v.dport⟩
    else none

/-- The connections some frames open, in order. -/
def opened (frames : List Frame) : List Conn := frames.filterMap opens

/-- The connection of an exchange: one for a conversation, none for datagrams. -/
def conns : Exchange → List Conn
  | .tcp e serverPort _ =>
    [⟨e.clientIp, e.clientPort.toNat, e.serverIp, serverPort.toNat⟩]
  | .udp _ _ _ => []

/-! ## Conversations -/

/-- A segment opens a connection only by its flags. -/
theorem opens_of_segmentOf {e : Endpoints} {serverPort : UInt16} {m : Said} {f : Frame}
    (h : SegmentOf e serverPort m f) (hm : m.flags &&& (tcpSyn ||| tcpAck) ≠ tcpSyn) :
    opens f = none := by
  obtain ⟨seq, ack, rfl⟩ := h
  unfold opens
  rw [Option.bind_eq_none_iff]
  intro v hv
  refine if_neg fun hflags => hm ?_
  have hsame : v.flags = m.flags := by
    unfold Endpoints.segment at hv
    split at hv
    · exact (tcpView_some _ _ _ _ _ _ _ _ _ _ hv).2.2.2.2
    · exact (tcpView_some _ _ _ _ _ _ _ _ _ _ hv).2.2.2.2
  rw [← hsame]
  exact hflags

/-- The client's SYN opens the connection. -/
theorem opens_syn {e : Endpoints} {serverPort : UInt16} {f : Frame}
    (h : SegmentOf e serverPort ⟨.client, tcpSyn, []⟩ f) :
    opens f = some ⟨e.clientIp, e.clientPort.toNat, e.serverIp, serverPort.toNat⟩ := by
  obtain ⟨seq, ack, rfl⟩ := h
  have hview := tcpView_tcpSegment e.clientMac e.serverMac e.clientIp e.serverIp e.clientPort
    serverPort seq ack tcpSyn [] (by decide)
  unfold opens Endpoints.segment
  dsimp only
  rw [hview]
  exact if_pos (show tcpSyn &&& (tcpSyn ||| tcpAck) = tcpSyn by decide)

/-- **A conversation opens one connection**, and datagrams none. -/
theorem opened_frames (x : Exchange) : opened x.frames = conns x := by
  cases x with
  | udp e serverPort script =>
    refine List.filterMap_eq_nil_iff.mpr fun f hf => ?_
    obtain ⟨m, -, rfl⟩ := List.mem_map.mp hf
    unfold opens Endpoints.datagram
    split
    · rw [tcpView_udpFrame]
      rfl
    · rw [tcpView_udpFrame]
      rfl
  | tcp e serverPort script =>
    have hhear : ∀ m ∈ transcript script, ∀ f, SegmentOf e serverPort m f → opens f =
        if m = ⟨.client, tcpSyn, []⟩ then
          some ⟨e.clientIp, e.clientPort.toNat, e.serverIp, serverPort.toNat⟩
        else none := by
      intro m hm f hf
      split
      · next heq =>
        subst heq
        exact opens_syn hf
      · next hne =>
        refine opens_of_segmentOf hf ?_
        simp only [transcript, List.mem_append, List.mem_cons, List.not_mem_nil, or_false,
          List.mem_map] at hm
        rcases hm with (hm | ⟨m', -, rfl⟩) | hm
        · rcases hm with rfl | rfl | rfl
          · exact absurd rfl hne
          · decide
          · decide
        · show (tcpPsh ||| tcpAck) &&& (tcpSyn ||| tcpAck) ≠ tcpSyn
          decide
        · rcases hm with rfl | rfl | rfl | rfl
          · decide
          · decide
          · decide
          · decide
    -- no message of the script is a SYN
    have hmsgs : (script.map fun m => (⟨m.1, tcpPsh ||| tcpAck, m.2⟩ : Said)).filterMap (fun m =>
        if m = ⟨.client, tcpSyn, []⟩ then
          some (⟨e.clientIp, e.clientPort.toNat, e.serverIp, serverPort.toNat⟩ : Conn)
        else none) = [] := by
      refine List.filterMap_eq_nil_iff.mpr fun m hm => if_neg ?_
      obtain ⟨m', -, rfl⟩ := List.mem_map.mp hm
      rintro h
      have hflags : tcpPsh ||| tcpAck = tcpSyn := congrArg Said.flags h
      exact absurd hflags (by decide)
    rw [opened, Exchange.frames, filterMap_converse e serverPort script _ _ hhear, transcript,
      List.filterMap_append, List.filterMap_append, hmsgs]
    have hack : tcpAck ≠ tcpSyn := by decide
    have hfin : tcpFin ||| tcpAck ≠ tcpSyn := by decide
    simp [conns, hack, hfin]

/-! ## Events -/

/-- Who an event connects to whom. -/
structure Peers where
  clientIp : Ipv4Addr
  serverIp : Ipv4Addr
  serverPort : UInt16
deriving DecidableEq

/-- The server port of a TCP-based event; none for the events sent as datagrams. -/
def servicePort (ev : Event) : Option UInt16 :=
  match ev.emit with
  | .s7Read | .s7ProgramDownload | .s7Write | .s7Stop => some s7Port
  | .modbusWrite => some modbusPort
  | .iec104Interrogation | .iec104Command => some iec104Port
  | .iec101Interrogation | .iec101Command => some iec101Port
  | .dnp3Read | .dnp3Operate => some dnp3Port
  | .cipRead | .cipWrite => some enipPort
  | .opcuaRead => some opcuaPort
  | .wiper => some 445
  | .remoteAccess => some (ev.port.getD 5938)
  | .c2Beacon => some (ev.port.getD 80)
  | .tristationStatus | .tristationDownload | .moxaBrick => none

/-- The peers of an event: the station and the device, except that a beacon comes from
the infected host and a remote access from the external actor. -/
def Renderer.peers (r : Renderer) (ev : Event) (ledger : PlantLedger) : Option Peers :=
  (servicePort ev).bind fun port =>
    match ev.emit with
    | .c2Beacon =>
      (beaconHost ledger ev.target).bind fun host =>
        (endpoint host).map fun h => ⟨h.1, r.c2Ip ev, port⟩
    | .remoteAccess =>
      (resolve ledger ev.target).bind fun dev =>
        (endpoint dev).map fun h => ⟨r.externalIp, h.1, port⟩
    | _ =>
      (resolve ledger ev.target).bind fun dev =>
        (endpoint dev).map fun h => ⟨(r.station dev).1, h.1, port⟩

/-- How far an event's client port is from the one of its nonce: a beacon contacts its
address from the port behind the one of the lookup. -/
def slotShift (ev : Event) : Nat := if ev.emit = .c2Beacon then 1 else 0

/-- The connection to some peers under ephemeral port number `slot`. -/
def Peers.conn (p : Peers) (slot : Nat) : Conn :=
  ⟨p.clientIp, 49152 + slot % 16384, p.serverIp, p.serverPort.toNat⟩

/-! ## The port of a nonce -/

/-- The client port of a nonce is its place in the ephemeral range. -/
theorem toNat_clientPort (nonce : UInt64) :
    (Renderer.clientPort nonce).toNat = 49152 + nonce.toNat % 16384 := by
  rw [Renderer.clientPort, UInt16.toNat_ofNat']
  omega

/-- The port behind it, wrapped back into the range. -/
theorem toNat_nextPort (nonce : UInt64) :
    ((Renderer.clientPort nonce + 1) ||| 0xc000).toNat = 49152 + (nonce.toNat + 1) % 16384 := by
  have hsucc : (Renderer.clientPort nonce + 1).toNat = (49152 + nonce.toNat % 16384 + 1) % 65536 := by
    rw [UInt16.toNat_add, toNat_clientPort]
    rfl
  have hor : ∀ y < 16384, (49152 + y) ||| 49152 = 49152 + y := by
    intro y hy
    have hsplit : 2 ^ 14 * 3 + y = 2 ^ 14 * 3 ||| y := Nat.two_pow_add_eq_or_of_lt hy 3
    change 49152 + y = 49152 ||| y at hsplit
    rw [hsplit, Nat.or_assoc, Nat.or_comm y, ← Nat.or_assoc, Nat.or_self]
  rw [UInt16.toNat_or, hsucc]
  change (49152 + nonce.toNat % 16384 + 1) % 65536 ||| 49152 = _
  by_cases hlast : nonce.toNat % 16384 = 16383
  · rw [hlast, show (nonce.toNat + 1) % 16384 = 0 by omega]
    rfl
  · rw [Nat.mod_eq_of_lt (by omega), Nat.add_assoc, hor _ (by omega)]
    omega

/-! ## What an event opens -/

/-- An action of the station opens what its synth call opens. -/
theorem conns_onTarget (r : Renderer) (ledger : PlantLedger) (t : Option DeviceRef) (nonce : UInt64)
    {f : LedgerEntry → Endpoints → List Exchange} {port : UInt16}
    (h : ∀ dev e, (f dev e).flatMap conns =
      [⟨e.clientIp, e.clientPort.toNat, e.serverIp, port.toNat⟩]) :
    (r.onTarget ledger t (Renderer.clientPort nonce) f).flatMap conns =
      ((resolve ledger t).bind fun dev => (endpoint dev).map fun h =>
        (⟨(r.station dev).1, h.1, port⟩ : Peers)).toList.map fun p => p.conn nonce.toNat := by
  unfold Renderer.onTarget
  cases resolve ledger t with
  | none => rfl
  | some dev =>
    cases hend : endpoint dev with
    | none => simp [hend]
    | some h' =>
      simp only [hend, h, Option.bind_some, Option.map_some, Option.toList_some, List.map_cons,
        List.map_nil, Peers.conn, toNat_clientPort]

/-- An action sent as datagrams opens nothing. -/
theorem conns_onTarget_nil (r : Renderer) (ledger : PlantLedger) (t : Option DeviceRef)
    (port : UInt16) {f : LedgerEntry → Endpoints → List Exchange}
    (h : ∀ dev e, (f dev e).flatMap conns = []) :
    (r.onTarget ledger t port f).flatMap conns = [] := by
  unfold Renderer.onTarget
  split
  · rfl
  · split
    · rfl
    · exact h _ _

/-- **What an event opens**: one connection between its peers, from the port of its nonce. -/
theorem conns_exchanges (r : Renderer) (ev : Event) (ledger : PlantLedger) (vuln : VulnDb)
    (nonce : UInt64) :
    (r.exchanges ev ledger vuln nonce).flatMap conns =
      (r.peers ev ledger).toList.map fun p => p.conn (nonce.toNat + slotShift ev) := by
  -- most kinds: the station opens a connection to the target, at the port of the service
  have hstation : ∀ {f : LedgerEntry → Endpoints → List Exchange} {port : UInt16},
      ev.emit ≠ .c2Beacon →
      (∀ dev e, (f dev e).flatMap conns =
        [⟨e.clientIp, e.clientPort.toNat, e.serverIp, port.toNat⟩]) →
      (r.onTarget ledger ev.target (Renderer.clientPort nonce) f).flatMap conns =
        ((resolve ledger ev.target).bind fun dev => (endpoint dev).map fun h =>
          (⟨(r.station dev).1, h.1, port⟩ : Peers)).toList.map fun p =>
            p.conn (nonce.toNat + slotShift ev) := by
    intro f port hne h
    rw [slotShift, if_neg hne]
    exact conns_onTarget r ledger ev.target nonce h
  unfold Renderer.exchanges Renderer.peers servicePort
  cases hk : ev.emit with
  | tristationStatus => exact conns_onTarget_nil _ _ _ _ fun _ _ => rfl
  | tristationDownload => exact conns_onTarget_nil _ _ _ _ fun _ _ => rfl
  | moxaBrick => exact conns_onTarget_nil _ _ _ _ fun _ _ => rfl
  -- the host calls out, one nonce later than the lookup before it; two kinds below open nothing by
  -- TCP
  | c2Beacon =>
    dsimp only [Option.bind_some]
    cases Renderer.beaconHost ledger ev.target with
    | none => rfl
    | some host =>
      cases hend : endpoint host with
      | none => simp [hend]
      | some h' =>
        have hport := toNat_nextPort nonce
        simp only [hend, c2Beacon, dnsExchange, conns, Peers.conn, slotShift, hk, if_true,
          List.flatMap_cons, List.flatMap_nil, List.nil_append, List.append_nil, hport,
          Option.bind_some, Option.map_some, Option.toList_some, List.map_cons, List.map_nil]
  | remoteAccess =>
    dsimp only [Option.bind_some]
    unfold Renderer.onTarget
    cases resolve ledger ev.target with
    | none => rfl
    | some dev =>
      cases hend : endpoint dev with
      | none => simp [hend]
      | some h' => simp [hend, remoteAccess, conns, Peers.conn, toNat_clientPort, slotShift, hk]
  | _ => exact hstation (by rw [hk]; decide) fun _ _ => rfl

/-! ## Runs

The client port of an event is a function of a nonce and the target, and the nonce of an emission is
that of its burst plus its index in the phase. So two emissions to the same peers share a port
exactly if these sums agree, within a window of as many as there are ports.
-/

/-- The nonces of consecutive announce bursts, as `red_tick` counts them. -/
def consecutive (n : UInt64) (bursts : Nat) : List UInt64 :=
  (List.range bursts).map fun k => n + UInt64.ofNat k

/-- The slot of an emission: the number of the burst that starts it plus its index in the
phase, and one more for a beacon. -/
def slot (e : Emission Event) : Nat := e.burst + e.cursor + slotShift e.event

/-- What the event of an emission opens, read off the frames it renders to. -/
def Renderer.opensOf (r : Renderer) (ledger : PlantLedger) (vuln : VulnDb) (e : Emission Event) :
    List Conn :=
  opened (r.renderEvent e.event ledger vuln e.nonce)

/-- No two emissions open the same connection. -/
def Renderer.Fresh (r : Renderer) (ledger : PlantLedger) (vuln : VulnDb)
    (es : List (Emission Event)) : Prop :=
  es.Pairwise fun e e' => ∀ c ∈ r.opensOf ledger vuln e, c ∉ r.opensOf ledger vuln e'

/-- No two emissions with the same peers have the same slot. -/
def Renderer.SlotsApart (r : Renderer) (ledger : PlantLedger) (es : List (Emission Event)) :
    Prop :=
  es.Pairwise fun e e' => ∀ p ∈ r.peers e.event ledger, p ∈ r.peers e'.event ledger →
    slot e ≠ slot e'

theorem opened_flatMap_frames (xs : List Exchange) :
    opened (xs.flatMap Exchange.frames) = xs.flatMap conns := by
  rw [opened, List.filterMap_flatMap]
  exact List.flatMap_congr fun x _ => opened_frames x

/-- In a run with consecutive nonces, the connection of an emission is that of its slot,
counted from the first nonce. -/
theorem opensOf_emission {r : Renderer} {ledger : PlantLedger} {vuln : VulnDb}
    {playbook : Playbook Event} {campaign : Campaign} {cap : Nat} {n : UInt64} {bursts : Nat}
    {log : List (Burst Event Frame)}
    (hrun : timeline (fun ev nonce => r.renderEvent ev ledger vuln nonce)
      (ScenarioEngine.load playbook campaign cap) (consecutive n bursts) = some log)
    {e : Emission Event} (he : e ∈ emissions log) :
    r.opensOf ledger vuln e =
        (r.peers e.event ledger).toList.map (fun p => p.conn (n.toNat + slot e)) ∧
      e.burst < bursts ∧ e.cursor < min (emissions log).length playbook.eventCount := by
  obtain ⟨nonce, hnonce, hen, hcount⟩ := source_of_mem_emissions hrun he
  rw [consecutive, List.getElem?_map, Option.map_eq_some_iff] at hnonce
  obtain ⟨k, hk, rfl⟩ := hnonce
  obtain ⟨hlt, rfl⟩ := List.getElem?_eq_some_iff.mp hk
  rw [List.getElem_range] at hen
  rw [List.length_range] at hlt
  refine ⟨?_, hlt, Nat.lt_min.mpr ⟨cursor_lt_of_mem_emissions hrun he, hcount⟩⟩
  have hmod : (e.nonce.toNat + slotShift e.event) % 16384 = (n.toNat + slot e) % 16384 := by
    rw [hen, UInt64.toNat_add, UInt64.toNat_add, UInt64.toNat_ofNat', UInt64.toNat_ofNat', slot]
    omega
  rw [Renderer.opensOf, Renderer.renderEvent, opened_flatMap_frames, conns_exchanges]
  refine List.map_congr_left fun p _ => ?_
  rw [Peers.conn, Peers.conn, hmod]

/-- **Fresh connections.** In a run over consecutive nonces with fewer than 16384 bursts
and events, no two emissions open the same connection exactly when no two emissions with
the same peers have the same slot; and then no connection is opened twice on the wire. -/
theorem fresh_connections_iff (r : Renderer) (ledger : PlantLedger) (vuln : VulnDb)
    (playbook : Playbook Event) (campaign : Campaign) (cap : Nat) (n : UInt64) (bursts : Nat)
    (log : List (Burst Event Frame))
    (hrun : timeline (fun ev nonce => r.renderEvent ev ledger vuln nonce)
      (ScenarioEngine.load playbook campaign cap) (consecutive n bursts) = some log)
    (hfew : bursts + min (emissions log).length playbook.eventCount < 16384) :
    (r.Fresh ledger vuln (emissions log) ↔ r.SlotsApart ledger (emissions log)) ∧
      (r.SlotsApart ledger (emissions log) → (opened (log.flatMap Burst.frames)).Nodup) := by
  have hiff : r.Fresh ledger vuln (emissions log) ↔ r.SlotsApart ledger (emissions log) := by
    refine List.Pairwise.iff_of_mem fun {e e'} he he' => ?_
    obtain ⟨hopens, hburst, hcursor⟩ := opensOf_emission hrun he
    obtain ⟨hopens', hburst', hcursor'⟩ := opensOf_emission hrun he'
    rw [hopens, hopens']
    -- slots stay below 16384 apart, so ports that agree come from slots that agree
    have hshift : slotShift e.event ≤ 1 ∧ slotShift e'.event ≤ 1 := by
      unfold slotShift
      constructor
      · split <;> omega
      · split <;> omega
    constructor
    · intro hfresh p hp hp' hslot
      refine hfresh (p.conn (n.toNat + slot e)) ?_ ?_
      · exact List.mem_map_of_mem (Option.mem_toList.mpr hp)
      · rw [hslot]
        exact List.mem_map_of_mem (Option.mem_toList.mpr hp')
    · intro hapart c hc hc'
      obtain ⟨p, hp, rfl⟩ := List.mem_map.mp hc
      obtain ⟨p', hp', hconn⟩ := List.mem_map.mp hc'
      rw [Option.mem_toList] at hp hp'
      have hslot : (n.toNat + slot e') % 16384 = (n.toNat + slot e) % 16384 := by
        have := congrArg Conn.clientPort hconn
        simp only [Peers.conn] at this
        omega
      -- and connections that agree have the same peers
      have hpeers : p' = p := by
        have hclient := congrArg Conn.clientIp hconn
        have hserver := congrArg Conn.serverIp hconn
        have hport := congrArg Conn.serverPort hconn
        simp only [Peers.conn] at hclient hserver hport
        cases p
        cases p'
        simp only [Peers.mk.injEq]
        exact ⟨hclient, hserver, UInt16.toNat_inj.mp hport⟩
      subst hpeers
      refine hapart p' hp hp' ?_
      unfold slot at hslot ⊢
      omega
  refine ⟨hiff, fun hapart => ?_⟩
  obtain ⟨rest, hrest⟩ := timeline_sends hrun
  -- what the emissions open is opened on the wire, or is left to send
  have hwire : opened (log.flatMap Burst.frames) ++ opened rest =
      (emissions log).flatMap (r.opensOf ledger vuln) := by
    unfold opened
    rw [← List.filterMap_append, hrest, List.filterMap_flatMap]
    rfl
  have hnodup : ((emissions log).flatMap (r.opensOf ledger vuln)).Nodup := by
    rw [List.nodup_flatMap]
    refine ⟨fun e he => ?_, (hiff.mpr hapart).imp fun h c hc hc' => h c hc hc'⟩
    rw [(opensOf_emission hrun he).1]
    cases r.peers e.event ledger with
    | none => exact List.nodup_nil
    | some p => exact List.nodup_singleton _
  rw [← hwire] at hnodup
  exact hnodup.of_append_left

/-! ## A phase that is held -/

/-- A plant of one S7 CPU. -/
def onePlcLedger : PlantLedger :=
  [{ ip := "10.20.10.11", mac := "00:0e:8c:11:22:33", model := "SIMATIC S7-300", firmware := "V3.2",
     subnetCidr := "10.20.10.0/24", assetType := some "Controller" }]

/-- A renderer with stand-in indicators. -/
def standinRenderer : Renderer := ⟨{}, .standin, 7, crcDnp3⟩

/-- One phase that stops the CPU twice. -/
def stopTwice : Playbook Event :=
  ⟨[⟨1, [{ emit := .s7Stop, target := some { model := some "SIMATIC S7-300" } },
      { emit := .s7Stop, target := some { model := some "SIMATIC S7-300" } }]⟩],
    List.cons_ne_nil _ _⟩

/-- A run of that playbook from nonce 0, with room for both events in a burst. -/
def stopTwiceRun (bursts : Nat) : Option (List (Burst Event Frame)) :=
  timeline (fun ev nonce => standinRenderer.renderEvent ev onePlcLedger [] nonce)
    (ScenarioEngine.load stopTwice .oneshot 100) (consecutive 0 bursts)

/-- A one-shot campaign holds its last phase: the second event of the first burst and the
first event of the second burst open the same connection. -/
theorem held_phase_reuses_connection :
    ∃ log, stopTwiceRun 2 = some log ∧
      2 + min (emissions log).length stopTwice.eventCount < 16384 ∧
      ¬ standinRenderer.Fresh onePlcLedger [] (emissions log) := by
  have h : (stopTwiceRun 2).map (fun log =>
      decide (2 + min (emissions log).length stopTwice.eventCount < 16384) &&
        !decide ((emissions log).Pairwise fun e e' =>
          ∀ c ∈ standinRenderer.opensOf onePlcLedger [] e,
            c ∉ standinRenderer.opensOf onePlcLedger [] e')) = some true := by
    decide +kernel
  obtain ⟨log, hlog, hprop⟩ := Option.map_eq_some_iff.mp h
  rw [Bool.and_eq_true, decide_eq_true_iff, Bool.not_eq_true', decide_eq_false_iff_not] at hprop
  exact ⟨log, hlog, hprop⟩

/-- A single burst of the same playbook. -/
theorem fresh_connections_one_burst :
    ∃ log, stopTwiceRun 1 = some log ∧
      (standinRenderer.Fresh onePlcLedger [] (emissions log) ↔
        standinRenderer.SlotsApart onePlcLedger (emissions log)) := by
  have h : (stopTwiceRun 1).map (fun log =>
      decide (1 + min (emissions log).length stopTwice.eventCount < 16384)) = some true := by
    decide +kernel
  obtain ⟨log, hlog, hfew⟩ := Option.map_eq_some_iff.mp h
  exact ⟨log, hlog, (fresh_connections_iff standinRenderer onePlcLedger [] stopTwice .oneshot 100 0 1
    log hlog (of_decide_eq_true hfew)).1⟩

end TurboLaser.Scenario
