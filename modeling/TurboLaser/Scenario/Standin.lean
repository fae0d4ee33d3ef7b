import TurboLaser.Scenario.Fidelity
import TurboLaser.Scenario.Lockstep
import TurboLaser.Scenario.Render
import TurboLaser.Synth.Sizes

/-!
# Stand-in fidelity

With `ioc_fidelity = standin` the indicators of the threat actor are to stay off the wire: its
domains, addresses and networks, and the domain, address and share of an event. The fidelity switch
replaces the first ones by documentation values. The share of a wiper is read past the switch.

That something is hidden is a statement about two runs: two playbooks that agree but for their
indicators, on the same plant and with the same nonces, send the same frames. `withoutIndicators` is
what has to agree. The two runs go through their phases together because the cursor and the spill
depend on how many frames an event has, and wipers with shares of different lengths still have
equally many.

- `Event.withoutIndicators`: what an event is but for its indicators;
- `renderEvent_standin`: only a wiper renders differently with other indicators;
- `renderEvent_wiper_eq_iff`: and it does so as soon as the shares differ, since the share is
  written out in full;
- `standin_hides_iff`: **two configurations that differ in indicators only send the same exactly
  when the wipers that reach an asset write to the same shares.**
-/

namespace TurboLaser.Scenario

open Lib Synth

/-- An event without its network indicators. -/
def Event.withoutIndicators (ev : Event) : Event :=
  { ev with domain := none, ip := none, share := none }

/-- A playbook without the network indicators of its events. -/
def PlaybookSpec.withoutIndicators (pb : PlaybookSpec) : PlaybookSpec :=
  pb.map fun ph => { ph with events := ph.events.map Event.withoutIndicators }

/-- The wipers that reach an asset write to the same share in both playbooks. -/
def SharesAgree (ledger : PlantLedger) (p q : Playbook Event) : Prop :=
  ∀ place ev ev', p.eventAt place = some ev → q.eventAt place = some ev' → ev.emit = .wiper →
    ∀ dev ip mac, resolve ledger ev.target = some dev → endpoint dev = some (ip, mac) →
      Renderer.wiperShare ev ip = Renderer.wiperShare ev' ip

section

variable (actors actors' : ActorsCfg) (seed : UInt64) (crc : List UInt8 → UInt16)
  (ledger : PlantLedger) (vuln : VulnDb)

/-- Under stand-in fidelity, all kinds of events but the wiper go by what is left without the
indicators, whatever the actor is. -/
theorem exchanges_withoutIndicators {ev : Event} (hkind : ev.emit ≠ .wiper) (nonce : UInt64) :
    Renderer.exchanges ⟨actors, .standin, seed, crc⟩ ev ledger vuln nonce =
      Renderer.exchanges ⟨actors', .standin, seed, crc⟩ ev.withoutIndicators ledger vuln nonce := by
  unfold Renderer.exchanges
  rw [show ev.withoutIndicators.emit = ev.emit from rfl]
  cases hemit : ev.emit with
  | wiper => exact absurd hemit hkind
  | _ => rfl

theorem renderEvent_standin {ev ev' : Event}
    (hsame : ev.withoutIndicators = ev'.withoutIndicators) (hkind : ev.emit ≠ .wiper)
    (nonce : UInt64) :
    Renderer.renderEvent ⟨actors, .standin, seed, crc⟩ ev ledger vuln nonce =
      Renderer.renderEvent ⟨actors', .standin, seed, crc⟩ ev' ledger vuln nonce := by
  have hkind' : ev'.emit ≠ .wiper := by
    rwa [show ev'.emit = ev.emit from (congrArg Event.emit hsame).symm]
  unfold Renderer.renderEvent
  rw [exchanges_withoutIndicators actors actors' seed crc ledger vuln hkind,
    exchanges_withoutIndicators actors' actors' seed crc ledger vuln hkind', hsame]

/-- A wiper writes its share to the asset it reaches. -/
theorem renderEvent_wiper (r : Renderer) {ev : Event} (hkind : ev.emit = .wiper) (nonce : UInt64) :
    r.renderEvent ev ledger vuln nonce =
      match (resolve ledger ev.target).bind fun dev => (endpoint dev).map (Prod.mk dev) with
      | none => []
      | some (dev, ip, mac) =>
        (smbShareWrite ⟨(r.station dev).2, mac, (r.station dev).1, ip, Renderer.clientPort nonce⟩
          (Renderer.wiperShare ev ip)).frames := by
  unfold Renderer.renderEvent Renderer.exchanges
  rw [hkind]
  dsimp only
  unfold Renderer.onTarget
  cases resolve ledger ev.target with
  | none => rfl
  | some dev =>
    dsimp only
    rw [Option.bind_some]
    cases endpoint dev with
    | none => rfl
    | some ends => exact List.flatMap_singleton _ _

/-- The share is read back from the frames that carry it. -/
theorem smbShareWrite_injective (e : Endpoints) {share share' : String}
    (h : (smbShareWrite e share).frames = (smbShareWrite e share').frames) : share = share' := by
  have hpayloads : ∀ share, (smbShareWrite e share).frames.filterMap (fun f => some (f.drop 54)) =
      (transcript [(.client, smb2Write share),
        (.server, smb2WriteResponse (UInt32.ofNat (utf8 share).length))]).filterMap
          fun m => some m.payload := by
    intro share
    refine filterMap_converse _ _ _ _ _ fun m _ f hf => ?_
    obtain ⟨seq, ack, rfl⟩ := hf
    unfold Endpoints.segment
    split
    · rw [drop_tcpSegment]
    · rw [drop_tcpSegment]
  have hwrite : smb2Write share = smb2Write share' := by
    have hall := (hpayloads share).symm.trans ((congrArg _ h).trans (hpayloads share'))
    simp [transcript] at hall
    exact hall.1
  -- the share is the end of the payload, and payloads of one length have shares of one length
  have hlength := congrArg List.length hwrite
  rw [length_smb2Write, length_smb2Write, Nat.add_left_cancel_iff] at hlength
  have hends : ∀ share, ∃ head, smb2Write share = head ++ utf8 share :=
    fun share => ⟨_, (List.append_assoc _ _ _).symm⟩
  obtain ⟨head, hhead⟩ := hends share
  obtain ⟨head', hhead'⟩ := hends share'
  rw [hhead, hhead'] at hwrite
  exact utf8_injective (List.append_inj_right' hwrite hlength)

/-- Wipers with the same target render alike exactly when they write to the same share. -/
theorem renderEvent_wiper_eq_iff {ev ev' : Event} (hkind : ev.emit = .wiper)
    (hkind' : ev'.emit = .wiper) (htarget : ev.target = ev'.target) (nonce : UInt64) :
    Renderer.renderEvent ⟨actors, .standin, seed, crc⟩ ev ledger vuln nonce =
        Renderer.renderEvent ⟨actors', .standin, seed, crc⟩ ev' ledger vuln nonce ↔
      ∀ dev ip mac, resolve ledger ev.target = some dev → endpoint dev = some (ip, mac) →
        Renderer.wiperShare ev ip = Renderer.wiperShare ev' ip := by
  rw [renderEvent_wiper ledger vuln _ hkind, renderEvent_wiper ledger vuln _ hkind', htarget]
  cases resolve ledger ev'.target with
  | none => simp
  | some dev =>
    cases hend : endpoint dev with
    | none =>
      simp only [Option.bind_some, hend, Option.map_none, true_iff]
      rintro other ip mac hdev hends
      obtain rfl := Option.some.inj hdev
      cases hend.symm.trans hends
    | some ends =>
      simp only [Option.bind_some, hend, Option.map_some]
      constructor
      · rintro h other ip mac hdev hends
        obtain rfl := Option.some.inj hdev
        obtain rfl := Option.some.inj (hend.symm.trans hends)
        exact smbShareWrite_injective _ h
      · intro h
        rw [h dev ends.1 ends.2 rfl hend]
        rfl

/-! ## Two playbooks

Two playbooks that differ in indicators only are compared event by event. In stand-in fidelity an
indicator is replaced before it is rendered, and the twins render alike, with the share of a wiper
as the one exception. As the timeline counts frames only, the runs agree as far as the frames do.
-/

/-- Two events that differ in indicators only. -/
structure EventTwin where
  left : Event
  right : Event
  same : left.withoutIndicators = right.withoutIndicators

theorem EventTwin.emit_eq (t : EventTwin) : t.left.emit = t.right.emit := by
  have hemit := congrArg Event.emit t.same
  exact hemit

theorem EventTwin.target_eq (t : EventTwin) : t.left.target = t.right.target := by
  have htarget := congrArg Event.target t.same
  exact htarget

/-- Twins render to equally many frames. -/
theorem EventTwin.length_renderEvent (t : EventTwin) (nonce : UInt64) :
    (Renderer.renderEvent ⟨actors, .standin, seed, crc⟩ t.left ledger vuln nonce).length =
      (Renderer.renderEvent ⟨actors', .standin, seed, crc⟩ t.right ledger vuln nonce).length := by
  have hnine : ∀ e share, (smbShareWrite e share).frames.length = 9 := by
    intro e share
    rw [← List.length_map List.length, Exchange.lengths_frames]
    rfl
  by_cases hkind : t.left.emit = .wiper
  · have hkind' : t.right.emit = .wiper := t.emit_eq.symm.trans hkind
    rw [renderEvent_wiper ledger vuln _ hkind, renderEvent_wiper ledger vuln _ hkind', t.target_eq]
    split
    · rfl
    · rw [hnine, hnine]
  · rw [renderEvent_standin actors actors' seed crc ledger vuln t.same hkind]

theorem exists_eventTwins {evs evs' : List Event}
    (h : evs.map Event.withoutIndicators = evs'.map Event.withoutIndicators) :
    ∃ ts : List EventTwin, ts.map EventTwin.left = evs ∧ ts.map EventTwin.right = evs' := by
  induction evs generalizing evs' with
  | nil =>
    obtain rfl := List.map_eq_nil_iff.mp h.symm
    exact ⟨[], rfl, rfl⟩
  | cons ev evs ih =>
    obtain ⟨ev', evs', rfl, hev, hevs⟩ := List.map_eq_cons_iff.mp h.symm
    obtain ⟨ts, rfl, rfl⟩ := ih hevs.symm
    exact ⟨⟨ev, ev', hev.symm⟩ :: ts, rfl, rfl⟩

theorem exists_phaseTwins {pb pb' : PlaybookSpec}
    (h : pb.withoutIndicators = pb'.withoutIndicators) :
    ∃ phases : List (Phase EventTwin),
      phases.map (Phase.map EventTwin.left) = pb.map PhaseSpec.timing ∧
        phases.map (Phase.map EventTwin.right) = pb'.map PhaseSpec.timing := by
  induction pb generalizing pb' with
  | nil =>
    obtain rfl := List.map_eq_nil_iff.mp h.symm
    exact ⟨[], rfl, rfl⟩
  | cons ph pb ih =>
    obtain ⟨ph', pb', rfl, hph, hpb⟩ := List.map_eq_cons_iff.mp h.symm
    obtain ⟨phases, hl, hr⟩ := ih hpb.symm
    obtain ⟨-, hdwell, hevents⟩ := PhaseSpec.mk.inj hph
    obtain ⟨ts, hts, hts'⟩ := exists_eventTwins hevents.symm
    refine ⟨⟨ph.dwellRuns, ts⟩ :: phases, ?_, ?_⟩
    · rw [List.map_cons, List.map_cons, hl, Phase.map, hts]
      rfl
    · rw [List.map_cons, List.map_cons, hr, Phase.map, hts', PhaseSpec.timing, hdwell]

/-- **Stand-in fidelity hides all indicators but the shares of wipers.** Two configurations that
differ in indicators only send the same in every run exactly when the wipers that reach an asset
write to the same shares. -/
theorem standin_hides_iff {pb pb' : PlaybookSpec} (h : pb ≠ []) (h' : pb' ≠ [])
    (hsame : pb.withoutIndicators = pb'.withoutIndicators) (campaign : Campaign) (cap : Nat) :
    (∀ nonces,
      sentFrames (fun ev => Renderer.renderEvent ⟨actors, .standin, seed, crc⟩ ev ledger vuln)
          (ScenarioEngine.load (pb.playbook h) campaign cap) nonces =
        sentFrames (fun ev => Renderer.renderEvent ⟨actors', .standin, seed, crc⟩ ev ledger vuln)
          (ScenarioEngine.load (pb'.playbook h') campaign cap) nonces) ↔
      SharesAgree ledger (pb.playbook h) (pb'.playbook h') := by
  obtain ⟨phases, hphases, hphases'⟩ := exists_phaseTwins hsame
  have hne : phases ≠ [] := by
    rintro rfl
    exact h (List.map_eq_nil_iff.mp hphases.symm)
  -- the two playbooks as the two sides of one, so that a run of the one is a run of the other
  set both : Playbook EventTwin := ⟨phases, hne⟩
  have hleft : pb.playbook h = both.map EventTwin.left := by
    unfold PlaybookSpec.playbook Playbook.map
    congr 1
    exact hphases.symm
  have hright : pb'.playbook h' = both.map EventTwin.right := by
    unfold PlaybookSpec.playbook Playbook.map
    congr 1
    exact hphases'.symm
  have hlen := EventTwin.length_renderEvent actors actors' seed crc ledger vuln
  rw [hleft, hright]
  constructor
  · intro heq place ev ev' hev hev' hkind
    rw [Playbook.eventAt_map, Option.map_eq_some_iff] at hev
    obtain ⟨t, ht, rfl⟩ := hev
    rw [Playbook.eventAt_map, ht] at hev'
    obtain rfl := Option.some.inj hev'
    obtain ⟨nonce, hframes⟩ := exists_same_of_sentFrames_eq
      EventTwin.left EventTwin.right
      (fun ev => Renderer.renderEvent ⟨actors, .standin, seed, crc⟩ ev ledger vuln)
      (fun ev => Renderer.renderEvent ⟨actors', .standin, seed, crc⟩ ev ledger vuln) hlen both
      campaign cap heq ht
    exact (renderEvent_wiper_eq_iff actors actors' seed crc ledger vuln hkind
      (t.emit_eq.symm.trans hkind) t.target_eq nonce).mp hframes
  · intro hagree nonces
    refine sentFrames_eq_of_same
      EventTwin.left EventTwin.right
      (fun ev => Renderer.renderEvent ⟨actors, .standin, seed, crc⟩ ev ledger vuln)
      (fun ev => Renderer.renderEvent ⟨actors', .standin, seed, crc⟩ ev ledger vuln) hlen both
      campaign cap (fun phase hphase t ht nonce => ?_) nonces
    by_cases hkind : t.left.emit = .wiper
    -- a wiper that reaches no asset renders nothing on either side, whatever its share
    · obtain ⟨place, hplace⟩ := Playbook.exists_eventAt hphase ht
      refine (renderEvent_wiper_eq_iff actors actors' seed crc ledger vuln hkind
        (t.emit_eq.symm.trans hkind) t.target_eq nonce).mpr ?_
      refine hagree place t.left t.right ?_ ?_ hkind
      · rw [Playbook.eventAt_map, hplace, Option.map_some]
      · rw [Playbook.eventAt_map, hplace, Option.map_some]
    · exact renderEvent_standin actors actors' seed crc ledger vuln t.same hkind nonce

end

/-! ## A share that shows -/

theorem domains_hidden :
    sentFrames (fun ev =>
          Renderer.renderEvent ⟨{ c2Domains := ["a.example"] }, .standin, 7, crcDnp3⟩ ev
            [fileServer] [])
        (ScenarioEngine.load (PlaybookSpec.playbook (wiperPlaybook "a") (by decide)) .loop 4) [0, 1] =
      sentFrames (fun ev =>
          Renderer.renderEvent ⟨{ c2Domains := ["b.example"] }, .standin, 7, crcDnp3⟩ ev
            [fileServer] [])
        (ScenarioEngine.load (PlaybookSpec.playbook (wiperPlaybook "a") (by decide)) .loop 4)
        [0, 1] := by
  refine (standin_hides_iff { c2Domains := ["a.example"] } { c2Domains := ["b.example"] } 7
    crcDnp3 [fileServer] [] (by decide) (by decide) rfl .loop 4).mpr ?_ [0, 1]
  intro place ev ev' hev hev' _ _ ip _ _ _
  rw [Option.some.inj (hev.symm.trans hev')]

/-- Another share is another attack on the wire. -/
theorem share_shows :
    ¬ ∀ (actors actors' : ActorsCfg) (seed : UInt64) (crc : List UInt8 → UInt16)
        (ledger : PlantLedger) (vuln : VulnDb) (pb pb' : PlaybookSpec) (h : pb ≠ []) (h' : pb' ≠ [])
        (campaign : Campaign) (cap : Nat) (nonces : List UInt64),
      pb.withoutIndicators = pb'.withoutIndicators →
      sentFrames (fun ev => Renderer.renderEvent ⟨actors, .standin, seed, crc⟩ ev ledger vuln)
          (ScenarioEngine.load (pb.playbook h) campaign cap) nonces =
        sentFrames (fun ev => Renderer.renderEvent ⟨actors', .standin, seed, crc⟩ ev ledger vuln)
          (ScenarioEngine.load (pb'.playbook h') campaign cap) nonces := by
  intro hall
  have hshares := (standin_hides_iff {} {} 7 crcDnp3 [fileServer] []
    (show wiperPlaybook "a" ≠ [] by decide) (show wiperPlaybook "b" ≠ [] by decide) rfl .loop 4).mp
      fun nonces => hall {} {} 7 crcDnp3 [fileServer] [] _ _ _ _ .loop 4 nonces rfl
  have hsame := hshares ⟨0, 0⟩ _ _ rfl rfl rfl fileServer (ipv4 10 0 0 9)
    ⟨0x00, 0x30, 0xa7, 0x00, 0x00, 0x09⟩ rfl (by decide +kernel)
  exact absurd hsame (by decide)

end TurboLaser.Scenario
