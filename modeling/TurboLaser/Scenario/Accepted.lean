import TurboLaser.Scenario.PreflightFacts

/-!
# What an accepted pack sends

A plant that was built and validated has a target for every event that names one, so every such
event renders frames. The one event that may name no target is a beacon: it comes from the first
device of the plant, and an empty plant has none.

`validate_targets` lets a beacon without a target pass, since any device will do. That there is one
is not checked. A plant without zones, or one with zones but without devices and without the
supporting cast, is accepted and seals to an empty ledger, and its beacons are silent. In every
other case a renderer that finds its target emits at least the three frames of a handshake, or a
datagram, whatever the parameters of the event are.

`preflight_emission_iff`: **in an accepted pack every event renders frames exactly when the plant
has an asset or every beacon names its target**. The plant has an asset when a device is pinned, or
when the supporting cast is added to a zone; that is read off the plant's spec
(`PlantSpec.Populated`), and not off the ledger that is built.
-/

namespace TurboLaser.Scenario

open Lib Synth

/-! ## Events that render -/

/-- The exchange puts something on the wire. -/
def Speaks : Exchange → Prop
  | .tcp _ _ _ => True
  | .udp _ _ script => script ≠ []

theorem Speaks.frames_ne_nil {x : Exchange} (h : Speaks x) : x.frames ≠ [] := by
  have hlen := x.lengths_frames
  intro hnil
  rw [hnil] at hlen
  cases x with
  | tcp e port script => simp [Exchange.sizes] at hlen
  | udp e port script => exact h (by simpa [Exchange.sizes] using hlen.symm)

/-- An exchange that speaks renders frames. -/
theorem flatMap_frames_ne_nil {xs : List Exchange} {x : Exchange} (hx : x ∈ xs) (h : Speaks x) :
    xs.flatMap Exchange.frames ≠ [] := by
  intro hnil
  exact h.frames_ne_nil (List.flatMap_eq_nil_iff.mp hnil x hx)

section Render

variable (r : Renderer) (vuln : VulnDb) (nonce : UInt64) {s : Session}

/-- The entries of a session's ledger have addresses. -/
theorem endpoint_of_mem {dev : LedgerEntry} (h : dev ∈ plantLedger s) :
    ∃ ip mac, endpoint dev = some (ip, mac) := by
  obtain ⟨d, -, rfl⟩ := List.mem_map.mp h
  refine ⟨d.ip, parseMac (entryOf d).mac, ?_⟩
  rw [endpoint, entryOf, parseIpv4Addr_showIpv4Addr]
  rfl

/-- A target resolves to a device of the ledger. -/
theorem mem_of_resolve {ledger : PlantLedger} {t : Option DeviceRef} {dev : LedgerEntry}
    (h : resolve ledger t = some dev) : dev ∈ ledger := by
  cases t with
  | none => cases h
  | some t =>
    rw [resolve, Option.bind_some, Option.or_eq_some_iff, Option.or_eq_some_iff] at h
    obtain h | ⟨-, h | ⟨-, h⟩⟩ := h
    all_goals
      obtain ⟨_, -, hfind⟩ := Option.bind_eq_some_iff.mp h
      exact List.mem_of_find?_eq_some hfind

/-- Between the station and a target that resolves, the builder runs. -/
theorem onTarget_of_resolve {t : Option DeviceRef} (port : UInt16)
    (f : LedgerEntry → Endpoints → List Exchange) {dev : LedgerEntry}
    (h : resolve (plantLedger s) t = some dev) :
    ∃ e, r.onTarget (plantLedger s) t port f = f dev e := by
  obtain ⟨ip, mac, hend⟩ := endpoint_of_mem (mem_of_resolve h)
  refine ⟨⟨(r.station dev).2, mac, (r.station dev).1, ip, port⟩, ?_⟩
  rw [Renderer.onTarget, h]
  dsimp only
  rw [hend]

/-- An event that is no beacon renders frames when its target resolves. -/
theorem renderEvent_ne_nil {ev : Event} {dev : LedgerEntry} (hkind : ev.emit ≠ .c2Beacon)
    (h : resolve (plantLedger s) ev.target = some dev) :
    r.renderEvent ev (plantLedger s) vuln nonce ≠ [] := by
  have hsays : ∀ {port : UInt16} {f : LedgerEntry → Endpoints → List Exchange},
      (∀ dev e, ∃ x, f dev e = [x] ∧ Speaks x) →
        (r.onTarget (plantLedger s) ev.target port f).flatMap Exchange.frames ≠ [] := by
    intro port f hf
    obtain ⟨e, heq⟩ := onTarget_of_resolve r port f h
    obtain ⟨x, hx, hspeaks⟩ := hf dev e
    rw [heq, hx]
    exact flatMap_frames_ne_nil (List.mem_singleton_self x) hspeaks
  unfold Renderer.renderEvent Renderer.exchanges
  cases hemit : ev.emit with
  | c2Beacon => exact absurd hemit hkind
  | tristationStatus | moxaBrick => exact hsays fun _ _ => ⟨_, rfl, List.cons_ne_nil _ _⟩
  | tristationDownload => exact hsays fun _ _ => ⟨_, rfl, by simp [Speaks, tsProgramDownload]⟩
  | _ => exact hsays fun _ _ => ⟨_, rfl, trivial⟩

/-- A beacon renders frames exactly when there is a host for it. -/
theorem renderEvent_c2Beacon {ev : Event} (hkind : ev.emit = .c2Beacon) :
    r.renderEvent ev (plantLedger s) vuln nonce ≠ [] ↔
      Renderer.beaconHost (plantLedger s) ev.target ≠ none := by
  unfold Renderer.renderEvent Renderer.exchanges
  rw [hkind]
  dsimp only
  cases hhost : Renderer.beaconHost (plantLedger s) ev.target with
  | none => simp
  | some host =>
    have hmem : host ∈ plantLedger s := by
      obtain h | ⟨-, h⟩ := Option.or_eq_some_iff.mp hhost
      · exact mem_of_resolve h
      · exact List.mem_of_head? h
    obtain ⟨ip, mac, hend⟩ := endpoint_of_mem hmem
    refine iff_of_true ?_ (Option.some_ne_none _)
    simp only [hend]
    exact flatMap_frames_ne_nil List.mem_cons_self (List.cons_ne_nil _ _)

end Render

/-! ## Plants with an asset

A beacon without a target takes the first asset of the plant. So one has to know which plants have
one: those with a pinned device, and those with a zone that is enriched, because the cast of a zone
begins with a firewall.
-/

theorem length_pinSlots {vuln : VulnDb} {table : ZoneTable} {ds : List DeviceSpec}
    {slots slots' : List Slot} (h : pinSlots vuln table ds slots = .ok slots') :
    slots'.length = slots.length + ds.length := by
  induction ds generalizing slots with
  | nil =>
    cases h
    rfl
  | cons d ds ih =>
    rw [pinSlots] at h
    cases hpin : pinSlot vuln table d slots with
    | error e =>
      rw [hpin] at h
      cases h
    | ok slots₁ =>
      rw [hpin] at h
      -- a device that is refused ends the build, so no turn leaves one out
      have hlen : slots₁.length = slots.length + 1 := by
        unfold pinSlot at hpin
        split at hpin
        · cases hpin
        · split at hpin
          · cases hpin
          · split at hpin
            · cases hpin
            · split at hpin
              · cases hpin
              · cases hpin
                simp
      rw [ih h, hlen, List.length_cons]
      omega

/-- An address given to the supporting cast leaves no empty plant. -/
theorem bomSlot_ne_nil (atype : AssetType) (ip : Ipv4Addr) (slots : List Slot) :
    bomSlot atype ip slots ≠ [] := by
  unfold bomSlot
  split
  · next h =>
    rintro rfl
    exact h.elim (by simp [slotIps]) (by decide)
  · simp

theorem bomClassSlots_ne_nil (net : Ipv4Net) (atype : AssetType) (count : Nat) {slots : List Slot}
    (h : slots ≠ []) : bomClassSlots net atype count slots ≠ [] := by
  induction count generalizing slots with
  | zero => exact h
  | succ count ih =>
    rw [bomClassSlots]
    split
    · exact h
    · exact ih (bomSlot_ne_nil _ _ _)

theorem bomZoneSlots_ne_nil (net : Ipv4Net) (classes : List (AssetType × Nat)) {slots : List Slot}
    (h : slots ≠ []) : bomZoneSlots net classes slots ≠ [] := by
  induction classes generalizing slots with
  | nil => exact h
  | cons c classes ih => exact ih (bomClassSlots_ne_nil net c.1 c.2 h)

/-- Every zone has a firewall, so its supporting cast is not empty. -/
theorem bomZoneSlots_bomFor_ne_nil (net : Ipv4Net) (level : Nat) (slots : List Slot) :
    bomZoneSlots net (bomFor level) slots ≠ [] := by
  obtain ⟨rest, hclasses⟩ : ∃ rest, bomFor level = (.firewall, 1) :: rest := by
    unfold bomFor
    split <;> exact ⟨_, rfl⟩
  rw [hclasses]
  exact bomZoneSlots_ne_nil net rest (bomSlot_ne_nil .firewall (firewallAddr net) slots)

theorem bomSlots_ne_nil (zones : List SubnetRecord) {slots : List Slot}
    (h : zones ≠ [] ∨ slots ≠ []) : bomSlots zones slots ≠ [] := by
  induction zones generalizing slots with
  | nil => exact h.resolve_left (fun hne => hne rfl)
  | cons z zones ih => exact ih (.inr (bomZoneSlots_bomFor_ne_nil _ _ _))

/-- The plant has an asset: a device is pinned, or the supporting cast is added to a zone. -/
def PlantSpec.Populated (spec : PlantSpec) : Prop :=
  spec.devices ≠ [] ∨ (spec.enrich = true ∧ spec.zones ≠ [])

/-- **Which plants have an asset.** -/
theorem skeleton_ne_nil {spec : PlantSpec} {vuln : VulnDb} {slots : List Slot}
    (h : skeleton spec vuln = .ok slots) : slots ≠ [] ↔ spec.Populated := by
  unfold skeleton at h
  cases hzones : addZones spec.zones [] (Session.new 0) with
  | error e =>
    rw [hzones] at h
    cases h
  | ok r =>
    obtain ⟨table, s⟩ := r
    rw [hzones] at h
    dsimp only at h
    cases hpin : pinSlots vuln table spec.devices [] with
    | error e =>
      rw [hpin] at h
      cases h
    | ok pinned =>
      rw [hpin] at h
      cases h
      -- there is a slot for every device, and under `enrich` one at least for every zone
      have hpinned : pinned ≠ [] ↔ spec.devices ≠ [] := by
        have hlen := length_pinSlots hpin
        rw [← List.length_pos_iff, ← List.length_pos_iff, hlen, List.length_nil, Nat.zero_add]
      have hcount : s.subnets ≠ [] ↔ spec.zones ≠ [] := by
        obtain ⟨-, -, hlen, -⟩ := addZones_spec (by decide) hzones
        rw [← List.length_pos_iff, ← List.length_pos_iff, hlen]
        exact iff_of_eq (congrArg (0 < ·) (Nat.zero_add _))
      unfold PlantSpec.Populated
      rw [← hpinned, ← hcount]
      by_cases henrich : spec.enrich = true
      · rw [if_pos henrich]
        constructor
        · intro hne
          by_cases hempty : pinned = []
          · refine .inr ⟨henrich, ?_⟩
            intro hnone
            rw [hempty, hnone] at hne
            exact hne rfl
          · exact .inl hempty
        · exact fun h => bomSlots_ne_nil _ (h.symm.imp_left And.right)
      · rw [if_neg henrich]
        exact ⟨.inl, fun h => h.resolve_right fun h => henrich h.1⟩

/-! ## The verdict and the wire -/

/-- **In an accepted pack every event renders frames, under every nonce, exactly when the plant
has an asset or every beacon names its target.** The plant may be built under any seed and
vendor table; under those of `preflight` there is one. -/
theorem preflight_emission_iff (dec : Decoders) (crc : List UInt8 → UInt16)
    (embeddedOui : OuiDb) (cfg : PackConfig) (t : TargetCfg) (htarget : cfg.target = some t)
    (haccept : preflight dec embeddedOui cfg = some (.ok ())) :
    ∃ pb spec, loadEngine dec t = .ok pb ∧ loadPlant dec t.pack.plant = .ok spec ∧
      Accepted (buildValidatedPlant dec cfg.dnsDomains t embeddedOui (cfg.seed.getD 0)) ∧
      ∀ oui seed s, buildValidatedPlant dec cfg.dnsDomains t oui seed = some (.ok s) →
        ((∀ ph ∈ pb, ∀ ev ∈ ph.events, ∀ nonce,
            (t.renderer crc seed).renderEvent ev (plantLedger s) (loadOverlay dec t.pack.profiles)
              nonce ≠ []) ↔
          spec.Populated ∨ ∀ ph ∈ pb, ∀ ev ∈ ph.events, ev.emit = .c2Beacon → ev.target ≠ none) := by
  have hbuilt :
      Accepted (buildValidatedPlant dec cfg.dnsDomains t embeddedOui (cfg.seed.getD 0)) := by
    unfold preflight at haccept
    rw [htarget] at haccept
    dsimp only at haccept
    split at haccept
    · cases haccept
    · exact (accepted_preflightWith.mp ⟨(), haccept⟩).2
  obtain ⟨-, pb, spec, slots, hengine, hplant, hslots, -⟩ := accepted_buildWith.mp hbuilt
  refine ⟨pb, spec, hengine, hplant, hbuilt, fun oui seed s hs => ?_⟩
  obtain ⟨-, pb', spec', hengine', hplant', hbuild, htargets⟩ := buildWith_eq_ok.mp hs
  rw [hengine] at hengine'
  rw [hplant] at hplant'
  cases hengine'
  cases hplant'
  have hpopulated : s.devices ≠ [] ↔ spec.Populated := by
    have hskel := buildSealedSession_skeleton spec (loadOverlay dec t.pack.profiles) oui seed
      cfg.dnsDomains
    rw [hslots] at hskel
    obtain ⟨s', hs', hshows⟩ := hskel
    rw [hbuild] at hs'
    cases hs'
    rw [← skeleton_ne_nil hslots, ← List.length_pos_iff, ← List.length_pos_iff, hshows.length]
  -- an event that names a target resolves it, and one that does not is a beacon
  have hresolves : ∀ ph ∈ pb, ∀ ev ∈ ph.events, ∀ ref, ev.target = some ref →
      ∃ dev, resolve (plantLedger s) ev.target = some dev := by
    intro ph hph ev hev ref hsome
    have hev' := htargets ph hph ev hev
    rw [Event.Targeted, hsome] at hev'
    rw [hsome]
    exact Option.isSome_iff_exists.mp ((isSome_resolve s ref).mpr hev')
  have hevent : ∀ ph ∈ pb, ∀ ev ∈ ph.events, ∀ nonce,
      ((t.renderer crc seed).renderEvent ev (plantLedger s) (loadOverlay dec t.pack.profiles)
          nonce ≠ [] ↔ spec.Populated ∨ (ev.emit = .c2Beacon → ev.target ≠ none)) := by
    intro ph hph ev hev nonce
    rw [← hpopulated]
    cases htgt : ev.target with
    | some ref =>
      obtain ⟨dev, hdev⟩ := hresolves ph hph ev hev ref htgt
      refine iff_of_true ?_ (.inr fun _ => Option.some_ne_none ref)
      by_cases hkind : ev.emit = .c2Beacon
      · refine (renderEvent_c2Beacon _ _ nonce hkind).mpr ?_
        rw [Renderer.beaconHost, hdev]
        exact Option.some_ne_none dev
      · exact renderEvent_ne_nil _ _ nonce hkind hdev
    | none =>
      have hkind : ev.emit = .c2Beacon := by
        have hev' := htargets ph hph ev hev
        rwa [Event.Targeted, htgt] at hev'
      rw [renderEvent_c2Beacon _ _ nonce hkind, Renderer.beaconHost, htgt]
      cases hdevs : s.devices with
      | nil => simp [plantLedger, hdevs, resolve, hkind]
      | cons d ds => simp [plantLedger, hdevs, resolve]
  constructor
  · intro hall
    by_cases hpop : spec.Populated
    · exact .inl hpop
    · exact .inr fun ph hph ev hev =>
        ((hevent ph hph ev hev 0).mp (hall ph hph ev hev 0)).resolve_left hpop
  · rintro hcond ph hph ev hev nonce
    exact (hevent ph hph ev hev nonce).mpr (hcond.imp_right fun h => h ph hph ev hev)

/-! ## A cell under attack -/

/-- The texts of a plant of one controller, and of a playbook that stops it and then calls home
from no host in particular, and what they decode to. -/
def cellPlantText : String :=
  "zones:\n- cidr: 10.20.10.0/24\n  name: Cell\n  purdue_level: 1\n" ++
    "devices:\n- zone: 10.20.10.0/24\n  ip: 10.20.10.5\n  asset_type: Controller\n" ++
    "  vendor: Siemens\n  protocol: s7\nenrich: false\n"

def cellPlaybookText : String :=
  "phases:\n- id: stop\n  events:\n  - emit: s7_stop\n    target:\n      ip: 10.20.10.5\n" ++
    "  - emit: c2_beacon\n"

def cellPlant : PlantSpec :=
  { zones := [⟨"10.20.10.0/24", "Cell", 1, none⟩]
    devices :=
      [{ zone := "10.20.10.0/24", ip := some "10.20.10.5", assetType := some "Controller",
         vendor := some "Siemens", protocol := some "s7" }]
    enrich := false }

def cellPlaybook : PlaybookSpec :=
  [{ id := "stop"
     events := [{ emit := .s7Stop, target := some { ip := some "10.20.10.5" } },
       { emit := .c2Beacon }] }]

def cellDecoders : Decoders where
  Toml := Empty
  toml := fun _ => none
  profileFile := fun _ => none
  plantSpec := fun text => if text = cellPlantText then some cellPlant else none
  playbook := fun text => if text = cellPlaybookText then some cellPlaybook else none

def cellPack : TargetCfg := { pack := ⟨none, some cellPlantText, some cellPlaybookText⟩ }

/-- `preflight` accepts the pack; its plant has an asset, so the beacon has a host as well. -/
theorem cell_pack_emission :
    ∃ pb spec, loadEngine cellDecoders cellPack = .ok pb ∧
      loadPlant cellDecoders cellPack.pack.plant = .ok spec ∧
      Accepted (buildValidatedPlant cellDecoders [] cellPack ⟨∅, ∅⟩ 0) ∧
      ∀ oui seed s, buildValidatedPlant cellDecoders [] cellPack oui seed = some (.ok s) →
        ((∀ ph ∈ pb, ∀ ev ∈ ph.events, ∀ nonce,
            (cellPack.renderer crcDnp3 seed).renderEvent ev (plantLedger s)
              (loadOverlay cellDecoders none) nonce ≠ []) ↔
          spec.Populated ∨ ∀ ph ∈ pb, ∀ ev ∈ ph.events, ev.emit = .c2Beacon → ev.target ≠ none) :=
  preflight_emission_iff cellDecoders crcDnp3 ⟨∅, ∅⟩ ⟨none, [], some cellPack⟩ cellPack rfl
    (by decide +kernel)

/-! ## A beacon with no host -/

/-- The texts of a plant without zones and of a playbook with one beacon, and what they decode
to. -/
def beaconPlantText : String := "zones: []\n"

def beaconPlaybookText : String := "phases:\n- id: c2\n  events:\n  - emit: c2_beacon\n"

def beaconDecoders : Decoders where
  Toml := Empty
  toml := fun _ => none
  profileFile := fun _ => none
  plantSpec := fun text => if text = beaconPlantText then some { zones := [] } else none
  playbook := fun text =>
    if text = beaconPlaybookText then some [{ id := "c2", events := [{ emit := .c2Beacon }] }]
    else none

def beaconPack : TargetCfg := { pack := ⟨none, some beaconPlantText, some beaconPlaybookText⟩ }

/-- `preflight` accepts a beacon in a plant without assets, and the beacon renders nothing. -/
theorem accepted_beacon_renders_nothing :
    ¬ ∀ (dec : Decoders) (oui : OuiDb) (cfg : PackConfig) (t : TargetCfg), cfg.target = some t →
      preflight dec oui cfg = some (.ok ()) →
        ∀ pb s, loadEngine dec t = .ok pb →
          buildValidatedPlant dec cfg.dnsDomains t oui (cfg.seed.getD 0) = some (.ok s) →
          ∀ ph ∈ pb, ∀ ev ∈ ph.events, ∀ nonce,
            (t.renderer crcDnp3 (cfg.seed.getD 0)).renderEvent ev (plantLedger s)
              (loadOverlay dec t.pack.profiles) nonce ≠ [] := by
  intro h
  exact h beaconDecoders ⟨∅, ∅⟩ ⟨none, [], some beaconPack⟩ beaconPack rfl rfl
    [{ id := "c2", events := [{ emit := .c2Beacon }] }]
    { Session.new 0 with sealed := true } rfl rfl _ List.mem_cons_self _ List.mem_cons_self 0 rfl

end TurboLaser.Scenario
