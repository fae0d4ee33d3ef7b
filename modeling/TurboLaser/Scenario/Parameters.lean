import TurboLaser.Scenario.Connections
import TurboLaser.Synth.Reference
import TurboLaser.Synth.Sizes

/-!
# The parameters of an event on the wire

A playbook declares the parameters of a command in fields of fixed width; some protocol fields are
narrower, and what does not fit is cut off. `declared` is what an event says, with the defaults of
the renderer; the reference decoders say what its frames say.

Neither the schema nor the checks of a pack know the widths of the protocols: a DNP3 point is a
`u16` in the schema and an octet on the wire, an information object address a `u32` and three
octets. A playbook with such a value is accepted, and its event is a command on another point.
`Event.Representable` lists the widths that matter, and the theorem says that it lists all of them.

- `Event.Representable`: every parameter fits its field on the wire;
- `commands_renderEvent`: what is decoded from an event's frames, for any parameters;
- `parameters_reach_wire_iff`: **that is what the event declares exactly when its parameters are
  representable**, for all kinds of commands, and whatever the CRC of DNP3 is.
-/

namespace TurboLaser.Scenario

open Lib Synth

/-- The kinds of events that carry the parameters of one command. -/
def commandKinds : List EmitKind :=
  [.s7Write, .modbusWrite, .dnp3Operate, .dnp3Read, .iec104Command, .iec101Command,
    .iec101Interrogation, .cipWrite]

/-- What an event declares. A DNP3 point is selected and then operated; the common address of a
-101 event is its link address too. -/
def Event.declared (ev : Event) : List Command :=
  let commonAddr := (ev.commonAddr.getD 1).toNat
  let close := ev.close.getD false
  match ev.emit with
  | .s7Write =>
    [.s7WriteWord (ev.db.getD 1).toNat (ev.offset.getD 0).toNat (ev.value.getD 0).toNat]
  | .modbusWrite =>
    [.modbusWriteSingle (ev.unit.getD 1).toNat (ev.register.getD 0).toNat (ev.value.getD 0).toNat]
  | .dnp3Read => [.dnp3Read commonAddr]
  | .dnp3Operate =>
    [.dnp3Control 3 commonAddr (ev.point.getD 0).toNat close,
      .dnp3Control 4 commonAddr (ev.point.getD 0).toNat close]
  | .iec104Command => [.iec104Single commonAddr (ev.ioa.getD 1).toNat close]
  | .iec101Command => [.iec101Single commonAddr commonAddr (ev.ioa.getD 1).toNat close]
  | .iec101Interrogation => [.iec101Interrogation commonAddr commonAddr]
  | .cipWrite => [.cipSetAttribute (ev.register.getD 1).toNat (ev.value.getD 0).toNat]
  | _ => []

/-- Every parameter fits its field: a DNP3 point and a CIP attribute have one byte, and so has the
link address of -101; an information object address has three. -/
def Event.Representable (ev : Event) : Prop :=
  match ev.emit with
  | .dnp3Operate => (ev.point.getD 0).toNat < 256
  | .iec104Command => (ev.ioa.getD 1).toNat < 16777216
  | .iec101Command => (ev.ioa.getD 1).toNat < 16777216 ∧ (ev.commonAddr.getD 1).toNat < 256
  | .iec101Interrogation => (ev.commonAddr.getD 1).toNat < 256
  | .cipWrite => (ev.register.getD 1).toNat < 256
  | _ => True

instance (ev : Event) : Decidable ev.Representable := by
  unfold Event.Representable
  split <;> infer_instance

/-- What the frames of an event say: its parameters, cut to their fields. -/
def Event.onWire (ev : Event) : List Command :=
  let commonAddr := (ev.commonAddr.getD 1).toNat
  let ioa := (ev.ioa.getD 1).toNat % 16777216
  let close := ev.close.getD false
  match ev.emit with
  | .dnp3Operate =>
    [.dnp3Control 3 commonAddr ((ev.point.getD 0).toNat % 256) close,
      .dnp3Control 4 commonAddr ((ev.point.getD 0).toNat % 256) close]
  | .iec104Command => [.iec104Single commonAddr ioa close]
  | .iec101Command => [.iec101Single (commonAddr % 256) commonAddr ioa close]
  | .iec101Interrogation => [.iec101Interrogation (commonAddr % 256) commonAddr]
  | .cipWrite =>
    [.cipSetAttribute ((ev.register.getD 1).toNat % 256) (ev.value.getD 0).toNat]
  | _ => ev.declared

/-- Nothing is lost exactly when every parameter fits its field. -/
theorem onWire_eq_declared_iff (ev : Event) : ev.onWire = ev.declared ↔ ev.Representable := by
  have hcut : ∀ n m : Nat, 0 < m → (n % m = n ↔ n < m) := fun n m hm =>
    ⟨fun h => h ▸ Nat.mod_lt n hm, Nat.mod_eq_of_lt⟩
  unfold Event.onWire Event.declared Event.Representable
  cases ev.emit with
  | dnp3Operate => simp [hcut]
  | iec104Command => simp [hcut]
  | iec101Command => simp [hcut, and_comm]
  | iec101Interrogation => simp [hcut]
  | cipWrite => simp [hcut]
  | _ => simp

section Render

variable (r : Renderer) (ledger : PlantLedger) (vuln : VulnDb) (nonce : UInt64)

/-- What is decoded from the frames of one conversation of the station. -/
theorem commands_onTarget {t : Option DeviceRef} {f : LedgerEntry → Endpoints → List Exchange}
    {serverPort : UInt16} {script : List (Side × List UInt8)} {dev : LedgerEntry}
    {ip : Ipv4Addr} {mac : Mac} (hdev : resolve ledger t = some dev)
    (hend : endpoint dev = some (ip, mac)) (hf : ∀ e, f dev e = [.tcp e serverPort script])
    (hfit : ∀ m ∈ script, m.2.length + 40 < 65536) :
    ((r.onTarget ledger t (Renderer.clientPort nonce) f).flatMap Exchange.frames).filterMap
        (commandOf r.crc) =
      script.filterMap fun m =>
        if m.1 = .client then decodeCommand r.crc serverPort.toNat m.2 else none := by
  have hport : 49152 ≤ (Renderer.clientPort nonce).toNat := by
    rw [toNat_clientPort]
    exact Nat.le_add_right _ _
  rw [Renderer.onTarget, hdev]
  dsimp only
  rw [hend]
  dsimp only
  rw [hf, List.flatMap_singleton]
  exact filterMap_commandOf_converse r.crc _ serverPort script hport hfit

/-- **What is decoded from an event's frames.** -/
theorem commands_renderEvent {ev : Event} (hkind : ev.emit ∈ commandKinds) (dev : LedgerEntry)
    (ip : Ipv4Addr) (mac : Mac) (hdev : resolve ledger ev.target = some dev)
    (hend : endpoint dev = some (ip, mac)) :
    (r.renderEvent ev ledger vuln nonce).filterMap (commandOf r.crc) = ev.onWire := by
  have hcut : ∀ n : Nat, (UInt8.ofNat n).toNat = n % 256 := fun n => UInt8.toNat_ofNat'
  have hsays : ∀ {f : LedgerEntry → Endpoints → List Exchange} {serverPort : UInt16}
      {script : List (Side × List UInt8)} {cmds : List Command},
      (∀ e, f dev e = [.tcp e serverPort script]) →
      (∀ m ∈ script, m.2.length + 40 < 65536) →
      (script.filterMap fun m =>
        if m.1 = .client then decodeCommand r.crc serverPort.toNat m.2 else none) = cmds →
      ((r.onTarget ledger ev.target (Renderer.clientPort nonce) f).flatMap
        Exchange.frames).filterMap (commandOf r.crc) = cmds := fun hf hfit hcmds =>
    (commands_onTarget r ledger nonce hdev hend hf hfit).trans hcmds
  have hblocks : ∀ {ctrl : UInt8} {dest src : UInt16} (user : List UInt8), user.length ≤ 19 →
      (linkFrame r.crc ctrl dest src user).length + 40 < 65536 := by
    intro ctrl dest src user huser
    have hlen := length_linkFrame_le r.crc ctrl dest src user
    omega
  unfold Renderer.renderEvent Renderer.exchanges Event.onWire
  cases hk : ev.emit with
  | s7Write =>
    refine hsays (fun e => rfl) (by simp [cotpCr, cotpCc, s7SetupRequest, s7SetupResponse, tpkt]) ?_
    have hdecode : ∀ b, decodeCommand r.crc s7Port.toNat b = decodeS7 b := fun b => rfl
    -- the negotiation in front of the write is no command
    have hnegotiate : decodeS7 cotpCr = none ∧ decodeS7 s7SetupRequest = none := by decide
    simp [hdecode, hnegotiate, decodeS7_writeDbWordRequest, Event.declared, hk]
  | modbusWrite =>
    refine hsays (fun e => rfl) (by simp) ?_
    have hdecode : ∀ b, decodeCommand r.crc modbusPort.toNat b = decodeModbus b := fun b => rfl
    simp [hdecode, decodeModbus_writeSingleRequest, Event.declared, hk]
  | dnp3Operate =>
    refine hsays (fun e => rfl) ?_ ?_
    · simp only [List.forall_mem_cons, List.not_mem_nil, false_imp_iff, implies_true, and_true]
      exact ⟨hblocks _ (by simp), hblocks _ (by simp), hblocks _ (by simp), hblocks _ (by simp)⟩
    have hdecode : ∀ b, decodeCommand r.crc dnp3Port.toNat b = decodeDnp3 r.crc b := fun b => rfl
    simp [hdecode, decodeDnp3_crobUser, appSelect, appOperate]
  | dnp3Read =>
    refine hsays (fun e => rfl) ?_ ?_
    · simp only [List.forall_mem_cons, List.not_mem_nil, false_imp_iff, implies_true, and_true]
      exact ⟨hblocks _ (by simp), hblocks _ (by simp)⟩
    have hdecode : ∀ b, decodeCommand r.crc dnp3Port.toNat b = decodeDnp3 r.crc b := fun b => rfl
    simp [hdecode, decodeDnp3_integrityPoll, Event.declared, hk]
  | iec104Command =>
    refine hsays (fun e => rfl) (by simp [startLink]) ?_
    have hdecode : ∀ b, decodeCommand r.crc iec104Port.toNat b = decodeIec104 b := fun b => rfl
    -- nor are the frames that start and acknowledge the link
    have hlink : decodeIec104 (uFrame 7) = none ∧ decodeIec104 (sFrame 2) = none := by decide
    simp [hdecode, startLink, decodeIec104_single, hlink]
  | iec101Command =>
    refine hsays (fun e => rfl) (by simp) ?_
    have hdecode : ∀ b, decodeCommand r.crc iec101Port.toNat b = decodeIec101 b := fun b => rfl
    simp [hdecode, decodeIec101_single]
  | iec101Interrogation =>
    refine hsays (fun e => rfl) (by simp) ?_
    have hdecode : ∀ b, decodeCommand r.crc iec101Port.toNat b = decodeIec101 b := fun b => rfl
    simp [hdecode, decodeIec101_interrogation]
  | cipWrite =>
    refine hsays (fun e => rfl) (by simp [registerBody]) ?_
    have hdecode : ∀ b, decodeCommand r.crc enipPort.toNat b = decodeEnip b := fun b => rfl
    -- nor is the registration of the session
    have hregister : decodeEnip (encap cmdRegisterSession 0 registerBody) = none := by decide
    simp only [List.filterMap_cons, List.filterMap_nil, hdecode, hregister, decodeEnip_setAttribute,
      hcut, reduceCtorEq, if_true, if_false]
  | _ => simp [hk, commandKinds] at hkind

/-- **The frames of an event say what it declares exactly when its parameters are representable.**
What the frames say is up to a decoder of the protocol; a parameter that is too wide for its field
is cut by the builder, and then they say something else. -/
theorem parameters_reach_wire_iff {ev : Event} (hkind : ev.emit ∈ commandKinds) (dev : LedgerEntry)
    (ip : Ipv4Addr) (mac : Mac) (hdev : resolve ledger ev.target = some dev)
    (hend : endpoint dev = some (ip, mac)) :
    (r.renderEvent ev ledger vuln nonce).filterMap (commandOf r.crc) = ev.declared ↔
      ev.Representable := by
  rw [commands_renderEvent r ledger vuln nonce hkind dev ip mac hdev hend]
  exact onWire_eq_declared_iff ev

end Render

/-! ## A point that is cut off -/

/-- An outstation. -/
def outstation : LedgerEntry :=
  { ip := "10.0.0.9", mac := "00:30:a7:00:00:09", model := "SEL-351", firmware := "1.0",
    subnetCidr := "10.0.0.0/24", assetType := some "RTU" }

/-- A trip of point `point`. -/
def tripEvent (point : UInt16) : Event :=
  { emit := .dnp3Operate, target := some { ip := some "10.0.0.9" }, commonAddr := some 10,
    point := some point }

theorem trip_reaches_wire :
    (Renderer.renderEvent ⟨{}, .real, 7, crcDnp3⟩ (tripEvent 12) [outstation] [] 0).filterMap
          (commandOf crcDnp3) =
        (tripEvent 12).declared ↔ (tripEvent 12).Representable :=
  parameters_reach_wire_iff ⟨{}, .real, 7, crcDnp3⟩ [outstation] [] 0 (by decide) outstation
    (ipv4 10 0 0 9) ⟨0x00, 0x30, 0xa7, 0x00, 0x00, 0x09⟩ rfl (by decide +kernel)

/-- A trip of point 300 trips point 44. -/
theorem point_cut_off :
    ¬ ∀ (r : Renderer) (ledger : PlantLedger) (vuln : VulnDb) (nonce : UInt64) (ev : Event),
      ev.emit ∈ commandKinds →
        (r.renderEvent ev ledger vuln nonce).filterMap (commandOf r.crc) = ev.declared := by
  intro h
  have hall := h ⟨{}, .real, 7, crcDnp3⟩ [outstation] [] 0 (tripEvent 300) (by decide)
  have hkind : (tripEvent 300).emit ∈ commandKinds := by decide
  have hwire := commands_renderEvent ⟨{}, .real, 7, crcDnp3⟩ [outstation] [] 0 hkind outstation
    (ipv4 10 0 0 9) ⟨0x00, 0x30, 0xa7, 0x00, 0x00, 0x09⟩ rfl (by decide +kernel)
  rw [hwire] at hall
  exact absurd hall (by decide)

end TurboLaser.Scenario
