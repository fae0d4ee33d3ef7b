import TurboLaser.Simulate.Preview
import TurboLaser.Threat.Floor

/-!
# Where the preview fails (simulate/mod.rs)

Each condition of `PreviewHolds` is needed, because generators, profiles and numbers of devices are
arbitrary.

For each there is a world in which the plan and the daemon differ. The vendor of the first zone
shows whether a draw came before it: a database of two vendors and a stream whose first two draws
differ will do. For the number of zones the stream has the coin come up every time (`Eager`), so
that every device opens a zone; then the eleventh device is where the caps part, provided that there
may be eleven devices and eleven zones, and that a zone has room for a device at all.

- `enabled_of_previews`: a daemon that does not fabricate has no zone;
- `noDraw_of_previews`: a scheduler that draws shifts every later draw;
- `tenZones_of_previews`: where the coin always asks for another zone, the eleventh device of the
  daemon is in an eleventh zone;
- `preview_iff`: **exactly when the preview holds**;
- `default_preview_diverges`: under the defaults it does not.
-/

namespace TurboLaser

open Lib Scenario

variable {vuln : VulnDb} {params : AllocParams} {seed : UInt64} {rng : Rng}

/-! ## The first zone -/

/-- A turn goes on from the ledger with the zone it chose. -/
theorem fabricateTurn_begins {st : FabState} {net : Option Ipv4Net} {s : Session} {rng : Rng}
    {t : FabTurn}
    (hchoose : chooseOrCreateSubnet st.session vuln params st.used st.rng = some (net, s, rng))
    (h : fabricateTurn vuln params st = some t) : s.Begins t.state.session := by
  unfold fabricateTurn at h
  rw [hchoose] at h
  cases net with
  | none =>
    cases h
    exact .refl s
  | some net =>
    dsimp only at h
    split at h
    · cases h
      exact .refl s
    · split at h
      · cases h
      · split at h
        · cases h
        · split at h
          · cases h
            exact .refl s
          -- of all outcomes only this one adds to the ledger after the choice
          · next hadd =>
            cases h
            obtain ⟨-, rfl⟩ := addDevice_eq_some.mp hadd
            exact ⟨List.prefix_rfl, List.prefix_append _ _⟩

/-- **The first zone of a run**: a fresh network, seeded by the next profile drawn. -/
theorem OneShot.first_zone (hprotos : protocolsPresent vuln ≠ []) (hcap : 0 < params.maxSubnets)
    {target : Nat} (htarget : 0 < target) {st : FabState}
    (h : OneShot vuln params seed rng target st) :
    ∃ proto ∈ protocolsPresent vuln, ∃ profile rng',
      (freshSubnet params.defaultPrefix [] rng).2.pick
          ((vuln.byProtocol proto).filter DeviceProfile.isCore) = some (profile, rng') ∧
        [seededZone (Session.new seed) (freshSubnet params.defaultPrefix [] rng).1 profile] <+:
          st.session.subnets := by
  obtain ⟨proto, hproto, profile, rng', hpick, hcreate⟩ :=
    createZone_eq hprotos params (Session.new seed) rng
  rw [show (Session.new seed).cidrs = [] from rfl] at hpick hcreate
  have hadd := (@addSubnet_eq_some (Session.new seed) _
    (seededZone (Session.new seed) (freshSubnet params.defaultPrefix [] rng).1 profile)).mpr
      ⟨(by decide : 0 < maxSubnets), List.not_mem_nil, rfl⟩
  have hwants : ¬ params.maxSubnets ≤ (Session.new seed).subnets.length := Nat.not_le.mpr hcap
  have hchoose := choose_noRoom vuln params
    (rfl : zonesWithRoom (Session.new seed) (Session.new seed).usedIps = []) rng
  rw [if_neg hwants, hcreate, hadd] at hchoose
  refine ⟨proto, hproto, profile, rng', hpick, ?_⟩
  cases h with
  | reached hdone => exact absurd htarget (Nat.not_lt.mpr hdone)
  | stopped _ hturn => exact (fabricateTurn_begins hchoose hturn).subnets
  | next _ hturn hrest =>
    exact (fabricateTurn_begins hchoose hturn).subnets.trans hrest.begins.subnets

/-! ## A daemon that does not fabricate -/

/-- An engine without zones that does not get any. -/
structure Barren (e : DaemonEngine) : Prop where
  off : e.core.synthEnabled = false ∨ e.core.deviceIdentity = false
  zones : e.core.ledger.subnets = []

/-- A tick leaves it so. -/
theorem Barren.tick {e : DaemonEngine} (h : Barren e) {run : Nat} {io : Io} {file : LedgerFile}
    {out : DaemonEngine × LedgerFile} (htick : e.redTick run io file = some out) :
    Barren out.1 := by
  cases daemonTick_cases htick with
  | off => exact h
  | @grew grown added simRng hon hgrow =>
    have hidentity := h.off.resolve_left fun hdisabled =>
      Bool.false_ne_true (hdisabled.symm.trans hon)
    have hnone : ¬ (e.core.deviceIdentity = true ∧ e.core.sealed = false) :=
      fun hboth => Bool.false_ne_true (hidentity.symm.trans hboth.1)
    have hsame : grown = e.core.ledger := by
      unfold DaemonEngine.growPlant at hgrow
      rw [if_neg hnone] at hgrow
      cases hgrow
      rfl
    have hcore := (persistIfDirty_frame (e.ticked run grown added simRng) io file).1
    have hwire := sameWire_renamed grown (e.core.renameDue run grown added)
    constructor
    · rw [hcore]
      exact .inr hidentity
    · rw [hcore]
      refine List.eq_nil_of_length_eq_zero (hwire.relabelled.length_subnets.trans ?_)
      rw [hsame, h.zones]
      rfl

theorem Barren.ticks {e : DaemonEngine} (h : Barren e) {file : LedgerFile}
    {ticks : List (Nat × Io)} {out : DaemonEngine × LedgerFile}
    (hrun : runTicks (e, file) ticks = some out) : Barren out.1 :=
  @runAll_invariant _ _ _ (fun _ _ => True) (fun st : DaemonEngine × LedgerFile => Barren st.1)
    (fun _ _ _ hst _ htick => hst.tick htick) ticks (e, file) out h
    (everyStep_of_forall (fun _ _ _ => trivial) _) hrun

/-! ## What a preview that holds says -/

/-- The database of a preview, and the draws it is made from. -/
def Boot.of (vuln : VulnDb) : Boot := ⟨vuln, ⟨∅, ∅⟩, 0, ∅⟩

/-- **What a preview that holds says of one database and one stream of draws.** -/
theorem PreviewsDaemon.run {cfg : DaemonConfig} {seed : UInt64} (htarget : cfg.target = none)
    (hseed : cfg.sessionSeed = some seed) (h : PreviewsDaemon cfg) (hvuln : vuln ≠ [])
    (rng : Rng) {n : Nat} (hn : n ≤ cfg.allocParams.maxDevices) :
    ∃ st e k, OneShot vuln cfg.allocParams.fabParams seed rng n st ∧
      e.core = { SimulatorEngine.red cfg.toConfig vuln ⟨∅, ∅⟩ (Session.new seed) with
        cache := ∅ } ∧
      e.simRng = cfg.startRng rng ∧
      ∀ ticks, k ≤ ticks.length → ∃ e' file', runTicks (e, .missing) ticks = some (e', file') ∧
        Previews st.session e'.core.ledger n := by
  obtain ⟨plan, added, rng', e, file, k, hfab, hred, hticks⟩ :=
    h blindDecoders (fun _ => rng) (.of vuln) 0 allWrites n hvuln hn
  obtain ⟨e₀, hred₀, hcore, hrng⟩ :=
    red_generic htarget hseed blindDecoders (fun _ => rng) (.of vuln) 0 allWrites
  rw [hred₀] at hred
  cases hred
  unfold planFabricate at hfab
  rw [if_neg (show ¬ (Boot.of vuln).vuln = [] from hvuln), hseed] at hfab
  obtain ⟨st, hrun, heq⟩ := (fabricate_iff hvuln).mp (Except.ok.inj hfab)
  cases heq
  rw [show min n cfg.allocParams.fabParams.maxDevices = n from Nat.min_eq_left hn] at hrun
  exact ⟨st, e, k, hrun, hcore, hrng, hticks⟩

theorem allocParams_pos (cfg : DaemonConfig) :
    0 < cfg.allocParams.maxSubnets ∧ 0 < cfg.allocParams.maxDevices :=
  ⟨Nat.le_max_right _ _, Nat.le_max_right _ _⟩

/-- **Fabrication is on**, or the plan has a zone that the daemon has not. -/
theorem enabled_of_previews {cfg : DaemonConfig} {seed : UInt64} (htarget : cfg.target = none)
    (hseed : cfg.sessionSeed = some seed) (h : PreviewsDaemon cfg) :
    cfg.synthesis.enabled = true ∧ cfg.synthesis.deviceIdentity = true := by
  obtain ⟨hsubnets, hdevices⟩ := allocParams_pos cfg
  obtain ⟨st, e, k, hrun, hcore, -, hticks⟩ :=
    h.run htarget hseed (List.cons_ne_nil _ _ : onePlc ≠ []) zeroRng hdevices
  by_contra hboth
  have hbarren : Barren e := by
    constructor
    · rw [hcore]
      rwa [not_and_or, Bool.not_eq_true, Bool.not_eq_true] at hboth
    · rw [hcore]
      rfl
  obtain ⟨e', file', hrun', hpreviews⟩ := hticks (List.replicate k (0, allWrites))
    (Nat.le_of_eq (List.length_replicate).symm)
  have hzones := hpreviews.zones
  rw [(hbarren.ticks hrun').zones, List.map_nil, List.prefix_nil, List.map_eq_nil_iff] at hzones
  obtain ⟨-, -, profile, -, -, hfirst⟩ := OneShot.first_zone (by decide)
    (Nat.lt_min.mpr ⟨hsubnets, by decide⟩) Nat.zero_lt_one hrun
  rw [hzones, List.prefix_nil] at hfirst
  cases hfirst

/-- **With fabrication on, both sides are one run each**: towards `n` devices, and towards as
many or more. -/
theorem PreviewsDaemon.oneShots {cfg : DaemonConfig} {seed : UInt64} (htarget : cfg.target = none)
    (hseed : cfg.sessionSeed = some seed) (h : PreviewsDaemon cfg) (hvuln : vuln ≠ [])
    (rng : Rng) {n : Nat} (hn : n ≤ cfg.allocParams.maxDevices) :
    ∃ st target last, OneShot vuln cfg.allocParams.fabParams seed rng n st ∧ n ≤ target ∧
      OneShot vuln cfg.allocParams seed (cfg.startRng rng) target last ∧
      Previews st.session last.session n := by
  obtain ⟨enabled, identity⟩ := enabled_of_previews htarget hseed h
  obtain ⟨st, e, k, hrun, hcore, hrng, hticks⟩ := h.run htarget hseed hvuln rng hn
  obtain ⟨he, hbatched⟩ := @batched_start seed _ cfg (.of vuln) e hcore hrng enabled identity
  have hhard : cfg.allocParams.maxDevices ≤ maxDevices :=
    effectiveCap_le (Nat.le_refl _) (by decide) _
  let ticks : List (Nat × Io) := List.replicate (k + n) (0, allWrites)
  have hlen : ticks.length = k + n := List.length_replicate
  obtain ⟨e', file', hrun', hpreviews⟩ := hticks ticks (by omega)
  obtain ⟨e'', file'', hrun'', hbatched'⟩ :=
    batched_of_ticks hvuln hhard he hbatched .missing ticks
  rw [hrun'] at hrun''
  cases hrun''
  obtain ⟨last, hlast, hwire⟩ := hbatched'.oneShot
  refine ⟨st, _, last, hrun, Nat.le_min.mpr ⟨?_, hn⟩, hlast, ?_, ?_⟩
  · have hone : 1 * ticks.length ≤ fabricateBatch * ticks.length :=
      Nat.mul_le_mul_right _ (by decide)
    omega
  · rw [show last.session.subnets.map SubnetRecord.shape = _ from hwire.zones.symm]
    exact hpreviews.zones
  · rw [← hwire.devices]
    exact hpreviews.devices

/-! ## One draw -/

/-- In an empty 10/8 the first try is free. -/
theorem freshSubnet_nil (prefixLen : Nat) (rng : Rng) :
    (freshSubnet prefixLen [] rng).2 = rng.advance := rfl

/-- Two profiles that differ in their vendor. -/
def twoVendorDb : VulnDb :=
  [{ vendor := "Schneider Electric", model := "Modicon M340", firmware := "3.20",
     protocol := .modbus, purdueLevel := 1, oui := none, cves := [], assetClass := none },
   { vendor := "WAGO", model := "750-8212", firmware := "03.10", protocol := .modbus,
     purdueLevel := 1, oui := none, cves := [], assetClass := none }]

/-- The vendor of the first zone is the second draw. -/
theorem OneShot.first_vendor (hcap : 0 < params.maxSubnets) {target : Nat} (htarget : 0 < target)
    {st : FabState} (h : OneShot twoVendorDb params seed rng target st) :
    (st.session.subnets.map SubnetRecord.shape).head?.map (fun z => z.2.1) =
      some (some (if rng.draw (rng.pos + 1) % 2 = 0 then "Schneider Electric" else "WAGO")) := by
  obtain ⟨proto, hproto, profile, rng', hpick, zones, hzones⟩ :=
    h.first_zone (by decide) hcap htarget
  have hmodbus : proto = .modbus := by
    have hprotos : protocolsPresent twoVendorDb = [.modbus] := by decide
    rwa [hprotos, List.mem_singleton] at hproto
  have hcandidates : (twoVendorDb.byProtocol .modbus).filter DeviceProfile.isCore = twoVendorDb := by
    decide
  rw [hmodbus, hcandidates, freshSubnet_nil] at hpick
  have hdraw : (rng.advance.genRange twoVendorDb.length).1 = rng.draw (rng.pos + 1) % 2 := rfl
  rw [← hzones]
  show some (some profile.vendor) = _
  unfold Rng.pick at hpick
  rw [hdraw] at hpick
  rcases Nat.mod_two_eq_zero_or_one (rng.draw (rng.pos + 1)) with heven | hodd
  · rw [heven] at hpick ⊢
    cases hpick
    rfl
  · rw [hodd] at hpick ⊢
    cases hpick
    rfl

/-- **The scheduler draws nothing**, or the vendor of the first zone is another draw. -/
theorem noDraw_of_previews {cfg : DaemonConfig} {seed : UInt64} (htarget : cfg.target = none)
    (hseed : cfg.sessionSeed = some seed) (h : PreviewsDaemon cfg) : cfg.NoDraw := by
  obtain ⟨hsubnets, hdevices⟩ := allocParams_pos cfg
  obtain ⟨st, target, last, hrun, hle, hlast, hpreviews⟩ :=
    h.oneShots htarget hseed (List.cons_ne_nil _ _ : twoVendorDb ≠ [])
      ⟨fun n => if n = 2 then 1 else 0, 0⟩ hdevices
  by_contra hdraws
  rw [DaemonConfig.startRng, if_neg hdraws] at hlast
  have hplan := OneShot.first_vendor (Nat.lt_min.mpr ⟨hsubnets, by decide⟩) Nat.zero_lt_one hrun
  have hdaemon := OneShot.first_vendor hsubnets hle hlast
  obtain ⟨more, hzones⟩ := hpreviews.zones
  rw [← hzones] at hdaemon
  cases hshapes : st.session.subnets.map SubnetRecord.shape with
  | nil =>
    rw [hshapes] at hplan
    cases hplan
  | cons z zs =>
    rw [hshapes] at hplan hdaemon
    exact absurd (hplan.symm.trans hdaemon) (by decide)

/-! ## One zone for every device

A generator whose coins all come up opens a zone for each device. With such a run the plan, which
stops at ten zones, and the daemon, which does not, part at the eleventh device. That shows the
condition on the cap to be necessary.
-/

theorem draw_of_pick {α : Type} {rng rng' : Rng} {xs : List α} {x : α}
    (h : rng.pick xs = some (x, rng')) : rng'.draw = rng.draw := by
  obtain ⟨y, -, heq⟩ := Option.map_eq_some_iff.mp h
  cases heq
  rfl

theorem draw_freshSubnet (prefixLen : Nat) (nets : List Ipv4Net) (rng : Rng) :
    (freshSubnet prefixLen nets rng).2.draw = rng.draw := by
  have htries : ∀ (p : Nat) (assigned : List Ipv4Net) (tries : Nat) (rng : Rng),
      (drawNet p assigned tries rng).2.draw = rng.draw := by
    intro p assigned tries
    induction tries with
    | zero => exact fun rng => rfl
    | succ tries ih =>
      intro rng
      rw [drawNet]
      dsimp only
      split
      · exact ih _
      · rfl
  unfold freshSubnet pickNewNet
  dsimp only
  split <;> next hdraw => exact (congrArg (fun r => r.2.draw) hdraw).symm.trans (htries _ _ _ _)

theorem draw_of_pickProfile {vendor : Option String} {rng rng' : Rng} {p : DeviceProfile}
    (h : pickProfile vuln vendor rng = some (p, rng')) : rng'.draw = rng.draw := by
  unfold pickProfile at h
  dsimp only at h
  split at h <;> exact draw_of_pick h

/-- **Every coin comes up**, and every zone has one device, in order. -/
structure Eager (params : AllocParams) (seed : UInt64) (st : FabState) : Prop where
  fromNew : FromNew params seed st
  coins : ∀ k, st.rng.draw k = 1
  devices : st.session.devices.map DeviceRecord.subnetCidr = st.session.cidrs

theorem Eager.length_eq {st : FabState} (h : Eager params seed st) :
    st.session.devices.length = st.session.subnets.length := by
  have hlen := congrArg List.length h.devices
  rwa [Session.cidrs, List.length_map, List.length_map] at hlen

/-- Below the caps another zone is created. -/
theorem Eager.chooses {st : FabState} (h : Eager params seed st)
    (hprotos : protocolsPresent vuln ≠ [])
    (hcap : st.session.subnets.length < min params.maxSubnets maxSubnets)
    (hcount : st.session.subnets.length < candidateCount params.defaultPrefix) :
    ∃ rec rng', chooseOrCreateSubnet st.session vuln params st.used st.rng =
        some (some rec.cidr, st.session.pushSubnet rec, rng') ∧ ∀ k, rng'.draw k = 1 := by
  -- no zone has room, or the coin comes up: a zone is wanted in either case
  obtain ⟨rng₀, hwants, hcoins⟩ : ∃ rng₀, wantsZone st.session vuln params
      (zonesWithRoom st.session st.used) st.rng = (true, rng₀) ∧ ∀ k, rng₀.draw k = 1 := by
    unfold wantsZone
    rw [if_neg (by omega)]
    split
    · exact ⟨_, rfl, h.coins⟩
    · refine ⟨st.rng.advance, ?_, h.coins⟩
      show (decide (st.rng.draw st.rng.pos % 2 = 1), st.rng.advance) = _
      rw [h.coins]
      rfl
  obtain ⟨proto, -, profile, rng', hpick, hcreate⟩ := createZone_eq hprotos params st.session rng₀
  have hlen : st.session.cidrs.length = st.session.subnets.length := List.length_map _
  cases hadd : st.session.addSubnet (seededZone st.session (freshSubnet params.defaultPrefix
      st.session.cidrs rng₀).1 profile) with
  | none =>
    rcases (stuck_of_refused rfl hadd).length_ge h.fromNew.allocates with hfull | hfull
    · omega
    · have : candidateCount params.defaultPrefix ≤ st.session.cidrs.length := hfull
      omega
  | some s' =>
    obtain ⟨-, -, rfl⟩ := addSubnet_eq_some.mp hadd
    rw [hadd] at hcreate
    refine ⟨seededZone st.session (freshSubnet params.defaultPrefix st.session.cidrs rng₀).1
      profile, rng', ?_, fun k => by rw [draw_of_pick hpick, draw_freshSubnet, hcoins]⟩
    unfold chooseOrCreateSubnet
    dsimp only
    rw [hwants]
    dsimp only
    rw [if_pos rfl, hcreate]
    rfl

/-- A turn with a zone that has room puts a device in it. -/
theorem fabricateTurn_placed {st : FabState} {net : Ipv4Net} {s : Session} {rng : Rng} {t : FabTurn}
    (hchoose : chooseOrCreateSubnet st.session vuln params st.used st.rng =
      some (some net, s, rng))
    (hip : (nextFreeIn net st.used).isSome) (hroom : s.devices.length < maxDevices)
    (h : fabricateTurn vuln params st = some t) :
    ∃ st' ip mac profile, t = .next st' ∧
      st'.session = s.pushDevice (DeviceProfile.record profile ip mac net) ∧
      st'.rng.draw = rng.draw := by
  obtain ⟨ip, hip⟩ := Option.isSome_iff_exists.mp hip
  unfold fabricateTurn at h
  rw [hchoose] at h
  dsimp only at h
  rw [hip] at h
  dsimp only at h
  split at h
  · cases h
  · next profile rng' hprofile =>
    split at h
    · cases h
    · next mac salt hmac =>
      split at h
      · next hcap => exact absurd hroom (Nat.not_lt.mpr (addDevice_eq_none.mp hcap))
      · next hadd =>
        cases h
        exact ⟨_, ip, mac, profile, rfl, (addDevice_eq_some.mp hadd).2,
          draw_of_pickProfile hprofile⟩

/-- **Below the caps every turn adds a zone and a device in it.** -/
theorem Eager.turn {st : FabState} (h : Eager params seed st)
    (hprotos : protocolsPresent vuln ≠ []) (hp : params.defaultPrefix ≤ 29)
    (hcap : st.session.subnets.length < min params.maxSubnets maxSubnets)
    (hcount : st.session.subnets.length < candidateCount params.defaultPrefix) {t : FabTurn}
    (hturn : fabricateTurn vuln params st = some t) :
    ∃ st', t = .next st' ∧ Eager params seed st' := by
  obtain ⟨rec, rng', hchoose, hcoins⟩ := h.chooses hprotos hcap hcount
  have hroom : (st.session.pushSubnet rec).devices.length < maxDevices := by
    have hlen := h.length_eq
    have hhard : maxSubnets < maxDevices := by decide
    show st.session.devices.length < maxDevices
    omega
  obtain ⟨st', ip, mac, profile, rfl, hsession, hdraw⟩ :=
    fabricateTurn_placed hchoose (h.fromNew.chosen_room hp hchoose) hroom hturn
  refine ⟨st', rfl, h.fromNew.next hturn, fun k => by rw [hdraw, hcoins], ?_⟩
  rw [hsession]
  show (st.session.devices ++ [_]).map DeviceRecord.subnetCidr =
    (st.session.subnets ++ [rec]).map SubnetRecord.cidr
  rw [List.map_append, h.devices, List.map_append]
  rfl

/-- A run with as many zones as devices reaches its target. -/
theorem Eager.run {st st' : FabState} (h : Eager params seed st)
    (hprotos : protocolsPresent vuln ≠ []) (hp : params.defaultPrefix ≤ 29) {target : Nat}
    (hcap : target ≤ min params.maxSubnets maxSubnets)
    (hcount : target ≤ candidateCount params.defaultPrefix)
    (hrun : FabRun vuln params target st st') :
    Eager params seed st' ∧ target ≤ st'.session.devices.length := by
  induction hrun with
  | reached hdone => exact ⟨h, hdone⟩
  | stopped hshort hturn =>
    have hlen := h.length_eq
    obtain ⟨st₁, heq, -⟩ := h.turn hprotos hp (by omega) (by omega) hturn
    cases heq
  | next hshort hturn _ ih =>
    have hlen := h.length_eq
    obtain ⟨st₁, heq, h₁⟩ := h.turn hprotos hp (by omega) (by omega) hturn
    cases heq
    exact ih h₁

/-- A plan of ten zones does not have a device in common with an eleventh zone. -/
theorem Eager.apart {plan : Session} {mid : FabState} {nets : List Ipv4Net}
    (hmid : Eager params seed mid) (hplan : Identities plan) (hten : plan.subnets.length ≤ 10)
    (heleven : 10 < mid.session.devices.length) (hzones : plan.cidrs <+: nets)
    (hzones' : mid.session.cidrs <+: nets) :
    plan.devices.map DeviceRecord.shape ≠ mid.session.devices.map DeviceRecord.shape := by
  intro hshapes
  have heleven' : 10 < mid.session.cidrs.length := by
    rw [← hmid.devices, List.length_map]
    exact heleven
  -- the eleventh device, in the daemon and in the plan
  have hshape := congrArg (fun l => l[10]?) hshapes
  rw [List.getElem?_map, List.getElem?_map, List.getElem?_eq_getElem heleven,
    Option.map_some, Option.map_eq_some_iff] at hshape
  obtain ⟨d, hd, hsame⟩ := hshape
  have hip : d.ip = mid.session.devices[10].ip := congrArg (fun s => s.1) hsame
  obtain ⟨hzone, hin⟩ := hplan.inZone d.asset
    (List.mem_append_left _ (List.mem_map_of_mem (List.mem_of_getElem? hd)))
  obtain ⟨-, hin'⟩ := hmid.fromNew.identities.inZone mid.session.devices[10].asset
    (List.mem_append_left _ (List.mem_map_of_mem (List.getElem_mem heleven)))
  obtain ⟨j, hj, hcidr⟩ := List.getElem_of_mem hzone
  have hjten : j < 10 := by
    have hlen : plan.cidrs.length = plan.subnets.length := List.length_map _
    omega
  have hlisted : mid.session.cidrs[j] = d.subnetCidr := by
    rw [hzones'.getElem (hjten.trans heleven'), ← hzones.getElem hj]
    exact hcidr
  have hlast : mid.session.cidrs[10] = mid.session.devices[10].subnetCidr := by
    have hget := congrArg (fun l => l[10]?) hmid.devices
    rw [List.getElem?_map, List.getElem?_eq_getElem heleven, List.getElem?_eq_getElem heleven',
      Option.map_some, Option.some_inj] at hget
    exact hget.symm
  have hapart := List.pairwise_iff_getElem.mp (SlotFamily.apart_from_nil hmid.fromNew.allocates)
    j 10 (hjten.trans heleven') heleven' hjten d.ip (by rw [hlisted]; exact hin)
  rw [hlast, hip] at hapart
  exact Bool.false_ne_true (hapart.symm.trans hin')

/-- **Ten zones are as good as the cap**, or the eleventh device of the daemon is in its eleventh
zone and that of the plan is not. -/
theorem tenZones_of_previews {cfg : DaemonConfig} {seed : UInt64} (htarget : cfg.target = none)
    (hseed : cfg.sessionSeed = some seed) (h : PreviewsDaemon cfg) :
    cfg.allocParams.TenZones := by
  by_contra hten
  unfold AllocParams.TenZones at hten
  push Not at hten
  obtain ⟨hsubnets, hdevices, hlow, hhigh⟩ := hten
  have hnoDraw := noDraw_of_previews htarget hseed h
  obtain ⟨st, target, last, hrun, hle, hlast, hpreviews⟩ :=
    h.oneShots htarget hseed (List.cons_ne_nil _ _ : onePlc ≠ []) ⟨fun _ => 1, 0⟩
      (Nat.succ_le_of_lt hdevices)
  rw [DaemonConfig.startRng, if_pos hnoDraw] at hlast
  obtain ⟨mid, hmid⟩ := OneShot.exists onePlc cfg.allocParams seed ⟨fun _ => 1, 0⟩
    (by decide : 10 + 1 ≤ maxDevices)
  have hcount : 10 + 1 ≤ candidateCount cfg.allocParams.defaultPrefix := by
    have hclamp : 4 ≤ clampPrefix cfg.allocParams.defaultPrefix - 8 := by
      unfold clampPrefix
      omega
    calc 10 + 1 ≤ 2 ^ 4 := by decide
      _ ≤ _ := Nat.pow_le_pow_right (by decide) hclamp
  have hstart : Eager cfg.allocParams seed (fabricateInit (Session.new seed) ⟨fun _ => 1, 0⟩) :=
    ⟨fromNew_init _ _ _, fun _ => rfl, rfl⟩
  -- one profile, and every draw one: each device of the daemon opens a zone
  obtain ⟨heager, hreached⟩ := hstart.run (by decide) (by omega)
    (Nat.le_min.mpr ⟨hsubnets, by decide⟩) hcount hmid
  obtain ⟨hzones, hfirst⟩ := OneShot.begins hle hmid hlast
  have hfab := (fabricate_iff (List.cons_ne_nil _ _ : onePlc ≠ [])).mpr ⟨st,
    (by rwa [show min (10 + 1) cfg.allocParams.fabParams.maxDevices = 10 + 1 from
      Nat.min_eq_left (Nat.succ_le_of_lt hdevices)]), rfl⟩
  have hplan := (fabricate_grows hfab).identities (identities_new seed)
  -- the plan never has more than ten zones, so its eleventh device is in one of these
  have hcap : st.session.subnets.length ≤ 10 := by
    have hle := SlotFamily.length_le_cap
      (FabRun.allocates ⟨rfl, Nat.min_le_right _ 10⟩ hrun) (Nat.zero_le _)
    rw [Session.cidrs, List.length_map] at hle
    exact hle.trans (Nat.min_le_left _ _)
  have hcidrs : st.session.cidrs <+: last.session.cidrs := by
    have hfst := hpreviews.zones.map Prod.fst
    rwa [List.map_map, List.map_map] at hfst
  refine heager.apart hplan hcap hreached hcidrs (hzones.map SubnetRecord.cidr) ?_
  rw [hpreviews.devices, hfirst, List.map_take]

/-! ## Exactly when the preview holds -/

/-- **Exactly when the preview is what the daemon fabricates**, whatever the profiles, the
generator, the number of devices and the ticks are: fabrication and device identity are on, the
scheduler has nothing to draw, and ten zones are as good as the cap. -/
theorem preview_iff (cfg : DaemonConfig) (seed : UInt64) (htarget : cfg.target = none)
    (hseed : cfg.sessionSeed = some seed) : PreviewsDaemon cfg ↔ PreviewHolds cfg := by
  constructor
  · intro h
    obtain ⟨enabled, identity⟩ := enabled_of_previews htarget hseed h
    exact ⟨enabled, identity, noDraw_of_previews htarget hseed h,
      tenZones_of_previews htarget hseed h⟩
  · exact previews_of_holds htarget hseed

/-- The defaults, with a session seed. -/
def seededConfig : DaemonConfig :=
  { cappedConfig none none with
    sessionSeed := some 7
    threatsEnabled := true
    minIntervalSecs := 172800
    maxIntervalSecs := 1209600
    externalCidrs := ["203.0.113.0/24"]
    dnsDomains := []
    target := none }

/-- With a promotion every two days exactly, and eight zones at most, the preview holds. -/
theorem preview_iff_eight_zones :
    PreviewsDaemon { seededConfig with
      maxIntervalSecs := 172800, zones := ⟨some 8, 24⟩ } :=
  (preview_iff { seededConfig with maxIntervalSecs := 172800, zones := ⟨some 8, 24⟩ } 7 rfl
    rfl).mpr ⟨rfl, rfl, by decide, by decide⟩

/-- **With the defaults it does not**: the scheduler draws an interval first. -/
theorem default_preview_diverges : ¬ PreviewsDaemon seededConfig :=
  fun h => absurd (noDraw_of_previews rfl rfl h) (by decide)

end TurboLaser
