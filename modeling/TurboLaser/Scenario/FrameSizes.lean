import Mathlib.Algebra.Ring.Nat
import TurboLaser.Scenario.Render
import TurboLaser.Synth.Sizes

/-!
# The sizes of an event's frames

An event renders to exchanges whose messages do not depend on the nonce, only their ports and
sequence numbers do. So how large its frames are can be told before it is sent, and from the event
alone.

Most messages have a fixed size far below what the link takes. The exceptions are those that carry
something of the playbook's own: a payload of a download or a write, the path of a share, the domain
of an indicator. Whether these fit is a bound on their length in octets, and the bound differs with
what stands around them; `Event.FitsLink` lists it kind by kind, and `forall_exchanges_fit_iff` is
the computation behind it, one case for each kind.

- `lengths_renderEvent`: **the sizes of an event's frames are the same for all nonces**;
- `Event.FitsLink`: the events none of whose frames is over the size of the link, by what they say:
  a payload, a share or a domain can be too long, and nothing else;
- `forall_renderEvent_le_iff`: **these are exactly the events that say so.**
-/

namespace TurboLaser.Scenario

open Lib Synth

/-- `STANDARD_FRAME_BYTES`. -/
def standardFrameBytes : Nat := 1514

/-! ## Nonces -/

section

variable (r : Renderer) (ledger : PlantLedger)

/-- What is sent between the station and a target has the same sizes from every port. -/
theorem sizes_onTarget (t : Option DeviceRef) {port port' : UInt16}
    {f f' : LedgerEntry → Endpoints → List Exchange}
    (h : ∀ dev cmac smac cip sip, (f dev ⟨cmac, smac, cip, sip, port⟩).map Exchange.sizes =
      (f' dev ⟨cmac, smac, cip, sip, port'⟩).map Exchange.sizes) :
    (r.onTarget ledger t port f).map Exchange.sizes =
      (r.onTarget ledger t port' f').map Exchange.sizes := by
  unfold Renderer.onTarget
  cases resolve ledger t with
  | none => rfl
  | some dev =>
    dsimp only
    cases endpoint dev with
    | none => rfl
    | some ends => exact h _ _ _ _ _

/-- The sizes of an event's messages do not depend on the nonce. -/
theorem sizes_exchanges (vuln : VulnDb) (ev : Event) (nonce nonce' : UInt64) :
    (r.exchanges ev ledger vuln nonce).map Exchange.sizes =
      (r.exchanges ev ledger vuln nonce').map Exchange.sizes := by
  unfold Renderer.exchanges
  cases ev.emit with
  | c2Beacon =>
    dsimp only
    cases Renderer.beaconHost ledger ev.target with
    | none => rfl
    | some host =>
      dsimp only
      cases endpoint host with
      | none => rfl
      | some ends => simp [c2Beacon, dnsExchange, Exchange.sizes]
  | _ => exact sizes_onTarget r ledger ev.target fun dev cmac smac cip sip => rfl

theorem lengths_flatMap_frames (xs : List Exchange) :
    (xs.flatMap Exchange.frames).map List.length = (xs.map Exchange.sizes).flatten := by
  rw [List.map_flatMap, ← List.flatMap_def]
  exact List.flatMap_congr fun x _ => x.lengths_frames

/-- **The sizes of an event's frames are the same for all nonces.** -/
theorem lengths_renderEvent (vuln : VulnDb) (ev : Event) (nonce nonce' : UInt64) :
    (r.renderEvent ev ledger vuln nonce).map List.length =
      (r.renderEvent ev ledger vuln nonce').map List.length := by
  unfold Renderer.renderEvent
  rw [lengths_flatMap_frames, lengths_flatMap_frames, sizes_exchanges]

end

/-! ## The size of the link

Frames over the size of the link are not written, so an event loses the frames that are too long.
Most kinds have frames of a fixed size, and fit. The others carry a text or a payload from the
playbook, and there a bound on its length is the exact condition: it is computed kind by kind, over
every exchange of the event.
-/

/-- No frame of the exchange is over the size of the link. -/
def Exchange.Fits (x : Exchange) : Prop := ∀ n ∈ x.sizes, n ≤ standardFrameBytes

theorem fits_tcp (e : Endpoints) (serverPort : UInt16) (script : List (Side × List UInt8)) :
    Exchange.Fits (.tcp e serverPort script) ↔ ∀ m ∈ script, m.2.length ≤ 1460 := by
  unfold Exchange.Fits Exchange.sizes standardFrameBytes
  simp only [List.mem_append, List.mem_map, List.mem_cons, List.not_mem_nil, or_false]
  constructor
  · intro h m hm
    have := h _ (.inl (.inr ⟨m, hm, rfl⟩))
    omega
  · rintro h n ((hn | ⟨m, hm, rfl⟩) | hn)
    · omega
    · have := h m hm
      omega
    · omega

theorem fits_udp (e : Endpoints) (serverPort : UInt16) (script : List (Side × List UInt8)) :
    Exchange.Fits (.udp e serverPort script) ↔ ∀ m ∈ script, m.2.length ≤ 1472 := by
  unfold Exchange.Fits Exchange.sizes standardFrameBytes
  rw [List.forall_mem_map]
  refine forall₂_congr fun m _ => ?_
  omega

/-- An S7 session is no larger than what it carries. -/
theorem fits_s7Session (e : Endpoints) (exchanges : List (List UInt8 × List UInt8)) :
    Exchange.Fits (s7Session e exchanges) ↔
      ∀ x ∈ exchanges, x.1.length ≤ 1460 ∧ x.2.length ≤ 1460 := by
  have hsetup : ∀ m ∈ [(Side.client, cotpCr), (.server, cotpCc), (.client, s7SetupRequest),
      (.server, s7SetupResponse)], m.2.length ≤ 1460 := by decide
  rw [s7Session, fits_tcp, List.forall_mem_append]
  constructor
  · rintro ⟨-, h⟩ x hx
    exact ⟨h (.client, x.1) (List.mem_flatMap.mpr ⟨x, hx, List.mem_cons_self⟩),
      h (.server, x.2) (List.mem_flatMap.mpr ⟨x, hx, by simp⟩)⟩
  · intro h
    refine ⟨hsetup, fun m hm => ?_⟩
    obtain ⟨x, hx, hm⟩ := List.mem_flatMap.mp hm
    simp only [List.mem_cons, List.not_mem_nil, or_false] at hm
    rcases hm with rfl | rfl
    · exact (h x hx).1
    · exact (h x hx).2

/-- A transaction with a CIP device. -/
theorem fits_cipExchange (e : Endpoints) {req resp : List UInt8} (hreq : req.length ≤ 100)
    (hresp : resp.length ≤ 100) : Exchange.Fits (cipExchange e req resp) := by
  have hregister : registerBody.length = 4 := rfl
  rw [cipExchange, fits_tcp]
  simp [hregister]
  omega

/-- A TriStation download is as large as its first chunk. -/
theorem fits_tsProgramDownload (e : Endpoints) {payload : List UInt8} (hne : payload ≠ [])
    (chunk : Nat) : Exchange.Fits (tsProgramDownload e payload chunk) ↔
      min payload.length (max chunk 1) ≤ 1464 := by
  have hends : ∀ m ∈ [(Side.client, tsMessage 0x000d [0x01]), (.server, tsMessage 0x010d [0x00])],
      m.2.length ≤ 1472 := by decide
  rw [tsProgramDownload, fits_udp, List.forall_mem_append, List.forall_mem_append]
  constructor
  · rintro ⟨⟨-, h⟩, -⟩
    obtain ⟨i, hi⟩ := List.mem_iff_getElem?.mp (take_mem_chunks (n := max chunk 1) hne)
    have hfirst := h (.client, tsMessage 0x000e
        (toLeBytes16 (UInt16.ofNat i) ++ payload.take (max chunk 1)))
      (List.mem_flatMap.mpr ⟨_, List.mk_mem_zipIdx_iff_getElem?.mpr hi, List.mem_cons_self⟩)
    simp at hfirst
    omega
  · intro h
    refine ⟨⟨by simp, fun m hm => ?_⟩, hends⟩
    obtain ⟨c, hc, hm⟩ := List.mem_flatMap.mp hm
    have hlen := length_le_of_mem_chunks (List.fst_mem_of_mem_zipIdx hc)
    simp only [List.mem_cons, List.not_mem_nil, or_false] at hm
    rcases hm with rfl | rfl
    · simp
      omega
    · simp

section

variable (r : Renderer) (ledger : PlantLedger)

/-- The event reaches an asset: its target resolves and has an address. -/
def Event.OnPlant (ev : Event) : Prop := ((resolve ledger ev.target).bind endpoint).isSome = true

instance (ev : Event) : Decidable (ev.OnPlant ledger) := inferInstanceAs (Decidable (_ = true))

/-- No frame of the event is over the size of the link: what it carries from the playbook
is short enough, or it reaches no asset. -/
def Event.FitsLink (ev : Event) : Prop :=
  match ev.emit with
  | .s7ProgramDownload =>
    ev.OnPlant ledger → (payloadBytes ev.payloadHex Renderer.s7Implant).length ≤ 1424
  | .tristationDownload =>
    ev.OnPlant ledger →
      min (payloadBytes ev.payloadHex Renderer.tristationImplant).length
        (max (ev.chunk.getD 8) 1) ≤ 1464
  | .moxaBrick =>
    ev.OnPlant ledger → (payloadBytes ev.payloadHex Renderer.moxaFirmware).length ≤ 1468
  | .wiper => ev.OnPlant ledger → ∀ share, ev.share = some share → (utf8 share).length ≤ 1344
  | .c2Beacon =>
    ((Renderer.beaconHost ledger ev.target).bind endpoint).isSome = true →
      (utf8 (r.c2Domain ev)).length ≤ 1416
  | _ => True

/-- An event at a target fits when its exchanges with the target do. -/
theorem forall_onTarget (ev : Event) (port : UInt16) {f : LedgerEntry → Endpoints → List Exchange}
    {p : Prop} (h : ∀ dev e, (∀ x ∈ f dev e, Exchange.Fits x) ↔ p) :
    (∀ x ∈ r.onTarget ledger ev.target port f, Exchange.Fits x) ↔ (ev.OnPlant ledger → p) := by
  unfold Renderer.onTarget Event.OnPlant
  cases resolve ledger ev.target with
  | none => simp
  | some dev =>
    dsimp only
    rw [Option.bind_some]
    cases endpoint dev with
    | none => simp
    | some ends => simp [h]

/-- An event of a kind that always fits. -/
theorem forall_onTarget_true (ev : Event) (port : UInt16) {x : LedgerEntry → Endpoints → Exchange}
    (h : ∀ dev e, Exchange.Fits (x dev e)) :
    (∀ y ∈ r.onTarget ledger ev.target port fun dev e => [x dev e], Exchange.Fits y) ↔ True := by
  rw [forall_onTarget (p := True) r ledger ev port fun dev e => by simpa using h dev e]
  simp

/-- **What fits the link**, by kind of event. -/
theorem forall_exchanges_fit_iff (vuln : VulnDb) (ev : Event) (nonce : UInt64) :
    (∀ x ∈ r.exchanges ev ledger vuln nonce, Exchange.Fits x) ↔ ev.FitsLink r ledger := by
  have hblocks : ∀ {ctrl : UInt8} {dest src : UInt16} (user : List UInt8), user.length ≤ 19 →
      (linkFrame r.crc ctrl dest src user).length ≤ 1460 := by
    intro ctrl dest src user huser
    have hlen := length_linkFrame_le r.crc ctrl dest src user
    omega
  unfold Renderer.exchanges Event.FitsLink
  cases ev.emit with
  | s7Read =>
    refine forall_onTarget_true r ledger ev _ fun dev e => ?_
    rw [s7SzlExchange, fits_s7Session]
    simp
  | s7ProgramDownload =>
    refine forall_onTarget r ledger ev _ fun dev e => ?_
    rw [List.forall_mem_singleton, s7ProgramDownload, fits_s7Session]
    simp
    omega
  | s7Write =>
    refine forall_onTarget_true r ledger ev _ fun dev e => ?_
    rw [writeDbWord, fits_s7Session]
    simp
  | s7Stop =>
    refine forall_onTarget_true r ledger ev _ fun dev e => ?_
    rw [plcStop, fits_s7Session]
    simp
  | modbusWrite =>
    refine forall_onTarget_true r ledger ev _ fun dev e => ?_
    rw [writeSingleRegister, requestResponse, fits_tcp]
    simp
  | tristationStatus =>
    refine forall_onTarget_true r ledger ev _ fun dev e => ?_
    rw [getCpStatus, fits_udp]
    simp
  | tristationDownload =>
    refine forall_onTarget r ledger ev _ fun dev e => ?_
    rw [List.forall_mem_singleton]
    exact fits_tsProgramDownload e (payloadBytes_ne_nil _ (by decide)) _
  | iec104Interrogation =>
    refine forall_onTarget_true r ledger ev _ fun dev e => ?_
    rw [iec104Interrogation, fits_tcp]
    simp [startLink]
  | iec104Command =>
    refine forall_onTarget_true r ledger ev _ fun dev e => ?_
    rw [iec104SingleCommand, fits_tcp]
    simp [startLink]
  | dnp3Read =>
    refine forall_onTarget_true r ledger ev _ fun dev e => ?_
    rw [dnp3IntegrityPoll, fits_tcp]
    simp [hblocks, hblocks (responseUser 0) (by decide)]
  | dnp3Operate =>
    refine forall_onTarget_true r ledger ev _ fun dev e => ?_
    rw [dnp3Operate, fits_tcp]
    simp [hblocks, hblocks (responseUser 0) (by decide), hblocks (responseUser 1) (by decide)]
  | cipRead =>
    refine forall_onTarget_true r ledger ev _ fun dev e => ?_
    exact fits_cipExchange e (by simp) (by simp)
  | cipWrite =>
    refine forall_onTarget_true r ledger ev _ fun dev e => ?_
    exact fits_cipExchange e (by simp) (by simp)
  | opcuaRead =>
    refine forall_onTarget_true r ledger ev _ fun dev e => ?_
    have hhello := length_opcuaHello_le e.serverIp
    rw [opcuaRead, fits_tcp]
    simp
    omega
  | iec101Interrogation =>
    refine forall_onTarget_true r ledger ev _ fun dev e => ?_
    rw [iec101Interrogation, fits_tcp]
    simp
  | iec101Command =>
    refine forall_onTarget_true r ledger ev _ fun dev e => ?_
    rw [iec101SingleCommand, fits_tcp]
    simp
  | wiper =>
    refine forall_onTarget r ledger ev _ fun dev e => ?_
    -- the share of a wiper is a text of the playbook, or made of the address
    have haddr := length_utf8_showIpv4Addr_le e.serverIp
    have hhead : (utf8 "\\\\").length = 2 := by decide
    have htail : (utf8 "\\ADMIN$\\update.dll").length = 18 := by decide
    rw [List.forall_mem_singleton, smbShareWrite, fits_tcp, Renderer.wiperShare]
    cases ev.share with
    | none =>
      simp [utf8_append, hhead, htail]
      omega
    | some share =>
      simp
      omega
  | moxaBrick =>
    refine forall_onTarget r ledger ev _ fun dev e => ?_
    rw [List.forall_mem_singleton, moxaBrick, fits_udp]
    simp
    omega
  | remoteAccess =>
    refine forall_onTarget_true r ledger ev _ fun dev e => ?_
    rw [remoteAccess, fits_tcp]
    decide
  | c2Beacon =>
    dsimp only
    cases Renderer.beaconHost ledger ev.target with
    | none => simp
    | some host =>
      dsimp only
      rw [Option.bind_some]
      cases endpoint host with
      | none => simp
      | some ends =>
        -- a beacon asks for its domain first, and a name has a greatest length
        have hname := length_encodeName_le (r.c2Domain ev)
        have hreply : (utf8 "HTTP/1.1 200 OK\r\nContent-Length: 0\r\n\r\n").length = 38 := by
          decide
        simp [c2Beacon, dnsExchange, fits_tcp, fits_udp, hreply]
        omega

/-- **The events that keep to the size of the link are those that say so.** -/
theorem forall_renderEvent_le_iff (vuln : VulnDb) (ev : Event) (nonce : UInt64) :
    (∀ f ∈ r.renderEvent ev ledger vuln nonce, f.length ≤ standardFrameBytes) ↔
      ev.FitsLink r ledger := by
  rw [← forall_exchanges_fit_iff r ledger vuln ev nonce, Renderer.renderEvent]
  calc (∀ f ∈ (r.exchanges ev ledger vuln nonce).flatMap Exchange.frames,
          f.length ≤ standardFrameBytes)
      ↔ ∀ n ∈ ((r.exchanges ev ledger vuln nonce).flatMap Exchange.frames).map List.length,
          n ≤ standardFrameBytes := by rw [List.forall_mem_map]
    _ ↔ ∀ x ∈ r.exchanges ev ledger vuln nonce, Exchange.Fits x := by
      rw [lengths_flatMap_frames]
      simp only [List.mem_flatten, List.mem_map]
      constructor
      · intro h x hx n hn
        exact h n ⟨x.sizes, ⟨x, hx, rfl⟩, hn⟩
      · rintro h n ⟨-, ⟨x, hx, rfl⟩, hn⟩
        exact h x hx n hn

end

end TurboLaser.Scenario
