import TurboLaser.Proto.MacRange
import TurboLaser.Simulate.EngineFacts
import TurboLaser.Simulate.ZonesApart

/-!
# Runs of the fabrication loop (simulate/devices.rs)

`FabRun` is the loop of `fabricate` as a relation, without the turns it is given.

- `FabRun.merge`: a run towards a target is the beginning of the run towards a later one;
- `Exhausted`: no zone has room and no zone can be created; `FabRun.exhausted`: a run that
  misses its target leaves such a ledger; `Ended.run`: and there the next one stops at once;
- `fabricate_takesNone`: a plant at its cap, or a full one whose new zones would be full, is given
  no device;
- `FabRun.resume`: a run goes on from the ledger alone;
- `FabRun.exists_iff`: **the loop comes to an end exactly if no turn it comes to fails**, and
  `fabricateTurn_isSome_iff`: a turn fails exactly if the profile it draws has no MAC left.
-/

namespace TurboLaser

open Lib Relation

variable {vuln : VulnDb} {params : AllocParams}

/-- **A run of the fabrication loop towards a target.** -/
inductive FabRun (vuln : VulnDb) (params : AllocParams) (target : Nat) :
    FabState → FabState → Prop
  | reached {st} (hdone : target ≤ st.session.devices.length) : FabRun vuln params target st st
  | stopped {st st'} (hshort : st.session.devices.length < target)
      (hturn : fabricateTurn vuln params st = some (.stop st')) : FabRun vuln params target st st'
  | next {st st₁ st'} (hshort : st.session.devices.length < target)
      (hturn : fabricateTurn vuln params st = some (.next st₁))
      (hrest : FabRun vuln params target st₁ st') : FabRun vuln params target st st'

theorem fabRun_of_loop {target fuel : Nat} {st st' : FabState}
    (h : fabricateLoop vuln params target fuel st = some st') :
    FabRun vuln params target st st' := by
  induction fuel generalizing st with
  | zero => cases h
  | succ fuel ih =>
    rw [fabricateLoop] at h
    split at h
    · next hdone =>
      cases h
      exact .reached hdone
    · next hshort =>
      split at h
      · cases h
      · next hturn =>
        cases h
        exact .stopped (Nat.not_le.mp hshort) hturn
      · next hturn => exact .next (Nat.not_le.mp hshort) hturn (ih h)

/-- The turns `fabricate` gives the loop are enough for a run. -/
theorem FabRun.loop {target : Nat} {st st' : FabState} (h : FabRun vuln params target st st') :
    fabricateLoop vuln params target (fabricateFuel target st.session) st = some st' := by
  induction h with
  | reached hdone => rw [fabricateFuel, fabricateLoop, if_pos hdone]
  | stopped hshort hturn =>
    rw [fabricateFuel, fabricateLoop, if_neg (Nat.not_le.mpr hshort), hturn]
  | @next st st₁ st' hshort hturn hrest ih =>
    have hless := fabricateFuel_next hshort (fabricateTurn_cases hturn)
    rw [fabricateFuel, fabricateLoop, if_neg (Nat.not_le.mpr hshort), hturn]
    dsimp only
    rw [← ih]
    exact fabricateLoop_fuel st₁ (Nat.le_of_lt_succ hless) (Nat.le_refl _)

/-- **`fabricate` is a run**, when the database is not empty. -/
theorem fabricate_iff (hvuln : vuln ≠ []) {s s' : Session} {target added : Nat} {rng rng' : Rng} :
    fabricate s vuln params target rng = some (s', added, rng') ↔
      ∃ st, FabRun vuln params (min target params.maxDevices) (fabricateInit s rng) st ∧
        (s', added, rng') = (st.session, st.added, st.rng) := by
  unfold fabricate
  rw [if_neg hvuln]
  dsimp only
  rw [Option.map_eq_some_iff]
  constructor
  · rintro ⟨st, hloop, heq⟩
    exact ⟨st, fabRun_of_loop hloop, heq.symm⟩
  · rintro ⟨st, hrun, heq⟩
    exact ⟨st, hrun.loop, heq.symm⟩

/-! ## What a run does to the ledger -/

/-- The zones and devices of a ledger are the first ones of another. -/
structure Session.Begins (s s' : Session) : Prop where
  subnets : s.subnets <+: s'.subnets
  devices : s.devices <+: s'.devices

theorem Session.Begins.refl (s : Session) : s.Begins s := ⟨List.prefix_rfl, List.prefix_rfl⟩

theorem Session.Begins.trans {s s' s'' : Session} (h : s.Begins s') (h' : s'.Begins s'') :
    s.Begins s'' :=
  ⟨h.subnets.trans h'.subnets, h.devices.trans h'.devices⟩

theorem ZoneChoice.begins {s s' : Session} {used : Finset Ipv4Addr} {net : Option Ipv4Net}
    (h : ZoneChoice s used net s') : s.Begins s' := by
  cases h with
  | created => exact ⟨List.prefix_append _ _, List.prefix_rfl⟩
  | existing => exact .refl s
  | exhausted => exact .refl s

theorem Turned.begins {st : FabState} {t : FabTurn} (h : Turned st t) :
    st.session.Begins t.state.session := by
  cases h with
  | exhausted hchoice => exact hchoice.begins
  | fullZone hchoice => exact hchoice.begins
  | atCap hchoice => exact hchoice.begins
  | placed hchoice => exact hchoice.begins.trans ⟨List.prefix_rfl, List.prefix_append _ _⟩

/-- A run adds zones and devices behind those there are. -/
theorem FabRun.begins {target : Nat} {st st' : FabState} (h : FabRun vuln params target st st') :
    st.session.Begins st'.session := by
  induction h with
  | reached => exact .refl _
  | stopped _ hturn => exact (fabricateTurn_cases hturn).begins
  | next _ hturn _ ih => exact (fabricateTurn_cases hturn).begins.trans ih

/-- The last turn adds no device. -/
theorem Turned.devices_stop {st st' : FabState} (h : Turned st (.stop st')) :
    st'.session.devices = st.session.devices := by
  cases h with
  | exhausted hchoice => exact hchoice.devices_eq.1
  | atCap hchoice => exact hchoice.devices_eq.1

/-- Another turn adds a device at most. -/
theorem Turned.length_next {st st' : FabState} (h : Turned st (.next st')) :
    st'.session.devices.length ≤ st.session.devices.length + 1 := by
  cases h with
  | fullZone hchoice => exact Nat.le_succ_of_le (Nat.le_of_eq (congrArg _ hchoice.devices_eq.1))
  | @placed net s ip rng mac salt profile hchoice =>
    show (s.devices ++ [profile.record ip mac net]).length ≤ _
    rw [List.length_append, List.length_singleton, hchoice.devices_eq.1]

theorem FabRun.length_le {target : Nat} {st st' : FabState}
    (h : FabRun vuln params target st st') (hle : st.session.devices.length ≤ target) :
    st'.session.devices.length ≤ target := by
  induction h with
  | reached => exact hle
  | stopped _ hturn => rwa [(fabricateTurn_cases hturn).devices_stop]
  | next hshort hturn _ ih =>
    exact ih ((fabricateTurn_cases hturn).length_next.trans hshort)

/-! ## One target after the other -/

theorem FabRun.deterministic {target : Nat} {st st₁ st₂ : FabState}
    (h : FabRun vuln params target st st₁) (h' : FabRun vuln params target st st₂) : st₁ = st₂ :=
  Option.some.inj (h.loop.symm.trans h'.loop)

/-- **A run towards a target is the beginning of the run towards a later one**: it has reached
its target and the later run goes on, or both have stopped short of it. -/
theorem FabRun.merge {target target' : Nat} {st st₁ st₂ : FabState} (hle : target ≤ target')
    (h : FabRun vuln params target st st₁) (h' : FabRun vuln params target' st st₂) :
    (target ≤ st₁.session.devices.length ∧ FabRun vuln params target' st₁ st₂) ∨
      (st₁.session.devices.length < target ∧ st₂ = st₁) := by
  induction h with
  | reached hdone => exact .inl ⟨hdone, h'⟩
  -- both runs take the same turns, so they stop in the same one
  | stopped hshort hturn =>
    refine .inr ⟨by rwa [(fabricateTurn_cases hturn).devices_stop], ?_⟩
    cases h' with
    | reached hdone => omega
    | stopped _ hturn' =>
      rw [hturn] at hturn'
      cases hturn'
      rfl
    | next _ hturn' _ =>
      rw [hturn] at hturn'
      cases hturn'
  | next hshort hturn _ ih =>
    cases h' with
    | reached hdone => omega
    | stopped _ hturn' =>
      rw [hturn] at hturn'
      cases hturn'
    | next _ hturn' hrest' =>
      rw [hturn] at hturn'
      cases hturn'
      exact ih hrest'

/-- Runs one after the other are one run. -/
theorem FabRun.trans {target target' : Nat} {st st₁ st₂ : FabState} (hle : target ≤ target')
    (h : FabRun vuln params target st st₁) (hdone : target ≤ st₁.session.devices.length)
    (h' : FabRun vuln params target' st₁ st₂) : FabRun vuln params target' st st₂ := by
  induction h with
  | reached => exact h'
  | stopped hshort hturn =>
    rw [(fabricateTurn_cases hturn).devices_stop] at hdone
    omega
  | next hshort hturn _ ih => exact .next (by omega) hturn (ih hdone h')

/-- A run that stops short of its target stops there for a later one. -/
theorem FabRun.later {target target' : Nat} {st st' : FabState} (hle : target ≤ target')
    (h : FabRun vuln params target st st') (hmissed : st'.session.devices.length < target) :
    FabRun vuln params target' st st' := by
  induction h with
  | reached hdone => omega
  | stopped hshort hturn => exact .stopped (by omega) hturn
  | next hshort hturn _ ih => exact .next (by omega) hturn (ih hmissed)

/-! ## Going on from the ledger -/

/-- A turn with another count of devices added so far. -/
def FabTurn.addMore (k : Nat) : FabTurn → FabTurn
  | .next st => .next { st with added := st.added + k }
  | .stop st => .stop { st with added := st.added + k }

theorem fabricateTurn_addMore (st : FabState) (k : Nat) :
    fabricateTurn vuln params { st with added := st.added + k } =
      (fabricateTurn vuln params st).map (FabTurn.addMore k) := by
  unfold fabricateTurn
  dsimp only
  split
  · rfl
  · rfl
  · split
    · rfl
    · split
      · rfl
      · split
        · rfl
        · split
          · rfl
          · show some (FabTurn.next _) = some (FabTurn.next _)
            rw [Nat.add_right_comm]

theorem FabRun.addMore {target : Nat} {st st' : FabState} (h : FabRun vuln params target st st')
    (k : Nat) : FabRun vuln params target { st with added := st.added + k }
      { st' with added := st'.added + k } := by
  induction h with
  | reached hdone => exact .reached hdone
  | stopped hshort hturn =>
    exact .stopped hshort ((fabricateTurn_addMore _ k).trans (congrArg _ hturn))
  | next hshort hturn _ ih =>
    exact .next hshort ((fabricateTurn_addMore _ k).trans (congrArg _ hturn)) ih

/-- **A run goes on from the ledger alone**: what `fabricate` builds from it is what the loop had
in hand. -/
theorem FabRun.resume {target : Nat} {s : Session} {st st' : FabState} (hst : Fabricating s st)
    (h : FabRun vuln params target (fabricateInit st.session st.rng) st') :
    FabRun vuln params target st { st' with added := st'.added + st.added } := by
  have hresume := h.addMore st.added
  have hsame : (⟨st.session, st.session.usedIps, st.session.usedMacs, st.rng, 0 + st.added⟩ :
      FabState) = st := by
    rw [Nat.zero_add, ← hst.used, ← hst.usedMacs]
  change FabRun vuln params target ⟨st.session, st.session.usedIps, st.session.usedMacs, st.rng,
    0 + st.added⟩ _ at hresume
  rwa [hsame] at hresume

theorem FabRun.dropAdded {target k : Nat} {st st' : FabState}
    (h : FabRun vuln params target st st') : ∀ st₀ : FabState,
      st = { st₀ with added := st₀.added + k } → ∃ st₁, FabRun vuln params target st₀ st₁ ∧
        st' = { st₁ with added := st₁.added + k } := by
  induction h with
  | reached hdone =>
    rintro st₀ rfl
    exact ⟨st₀, .reached hdone, rfl⟩
  | stopped hshort hturn =>
    rintro st₀ rfl
    -- the counter is carried along and never looked at
    rw [fabricateTurn_addMore, Option.map_eq_some_iff] at hturn
    obtain ⟨t, hturn, ht⟩ := hturn
    cases t with
    | next => cases ht
    | stop st₁ =>
      cases ht
      exact ⟨st₁, .stopped hshort hturn, rfl⟩
  | next hshort hturn _ ih =>
    rintro st₀ rfl
    rw [fabricateTurn_addMore, Option.map_eq_some_iff] at hturn
    obtain ⟨t, hturn, ht⟩ := hturn
    cases t with
    | stop => cases ht
    | next st₁ =>
      cases ht
      obtain ⟨st₂, hrest, heq⟩ := ih st₁ rfl
      exact ⟨st₂, .next hshort hturn hrest, heq⟩

/-- And the other way: the rest of a run is what `fabricate` does from the ledger. -/
theorem FabRun.restart {target : Nat} {s : Session} {st st' : FabState} (hst : Fabricating s st)
    (h : FabRun vuln params target st st') :
    ∃ st₁, FabRun vuln params target (fabricateInit st.session st.rng) st₁ ∧
      st' = { st₁ with added := st₁.added + st.added } := by
  refine h.dropAdded (fabricateInit st.session st.rng) ?_
  unfold fabricateInit
  rw [Nat.zero_add, ← hst.used, ← hst.usedMacs]

theorem fabricating_init (s : Session) (rng : Rng) : Fabricating s (fabricateInit s rng) :=
  ⟨.refl, rfl, rfl⟩

/-- Where a run reaches its target, its copies are those of the ledger. -/
theorem FabRun.fabricating {target : Nat} {s : Session} {st st' : FabState}
    (h : FabRun vuln params target st st') (hst : Fabricating s st)
    (hdone : target ≤ st'.session.devices.length) : Fabricating s st' := by
  induction h with
  | reached => exact hst
  | stopped hshort hturn =>
    rw [(fabricateTurn_cases hturn).devices_stop] at hdone
    omega
  | next _ hturn _ ih => exact ih (hst.next (fabricateTurn_cases hturn)) hdone

/-! ## Creating a zone -/

theorem pick_isSome {α : Type} {xs : List α} (h : xs ≠ []) (rng : Rng) :
    ∃ x rng', rng.pick xs = some (x, rng') := by
  have hlt : (rng.genRange xs.length).1 < xs.length :=
    Nat.mod_lt _ (List.length_pos_iff.mpr h)
  exact ⟨_, _, congrArg (Option.map _) (List.getElem?_eq_getElem hlt)⟩

/-- Where a carrier protocol is present there is a core profile. -/
theorem core_of_protocols (hprotos : protocolsPresent vuln ≠ []) :
    vuln.filter DeviceProfile.isCore ≠ [] := by
  obtain ⟨proto, hproto⟩ := List.exists_mem_of_ne_nil _ hprotos
  obtain ⟨p, hp, hcore⟩ := List.any_eq_true.mp (List.mem_filter.mp hproto).2
  exact List.ne_nil_of_mem (List.mem_filter.mpr ⟨(List.mem_filter.mp hp).1, hcore⟩)

/-- The zone of a new network, seeded by a profile. -/
def seededZone (s : Session) (net : Ipv4Net) (profile : DeviceProfile) : SubnetRecord :=
  { cidr := net
    zoneName := nameZone (some profile.vendor) (some (familyOf profile.model))
      profile.purdueLevel s.subnets.length
    purdueLevel := profile.purdueLevel
    vendor := some profile.vendor
    domain := none }

/-- **`create_zone` comes down to adding a fresh network**, when a carrier protocol is present. -/
theorem createZone_eq (hprotos : protocolsPresent vuln ≠ []) (params : AllocParams) (s : Session)
    (rng : Rng) : ∃ proto ∈ protocolsPresent vuln, ∃ profile rng',
      (freshSubnet params.defaultPrefix s.cidrs rng).2.pick
          ((vuln.byProtocol proto).filter DeviceProfile.isCore) = some (profile, rng') ∧
        createZone s vuln params rng =
          match s.addSubnet
            (seededZone s (freshSubnet params.defaultPrefix s.cidrs rng).1 profile) with
          | none => some (none, s, rng')
          | some s' => some (some (freshSubnet params.defaultPrefix s.cidrs rng).1, s', rng') := by
  have hlt : s.subnets.length % (protocolsPresent vuln).length < (protocolsPresent vuln).length :=
    Nat.mod_lt _ (List.length_pos_iff.mpr hprotos)
  have hproto := List.getElem?_eq_getElem hlt
  have hmem := List.getElem_mem hlt
  generalize (protocolsPresent vuln)[s.subnets.length % (protocolsPresent vuln).length] = proto
    at hproto hmem
  have hcandidates : (vuln.byProtocol proto).filter DeviceProfile.isCore ≠ [] := by
    obtain ⟨p, hp, hcore⟩ := List.any_eq_true.mp (List.mem_filter.mp hmem).2
    exact List.ne_nil_of_mem (List.mem_filter.mpr ⟨hp, hcore⟩)
  obtain ⟨profile, rng', hpick⟩ := pick_isSome hcandidates
    (freshSubnet params.defaultPrefix s.cidrs rng).2
  refine ⟨proto, hmem, profile, rng', hpick, ?_⟩
  unfold createZone
  dsimp only
  rw [hproto]
  dsimp only
  rw [if_neg hcandidates, hpick]
  rfl

/-! ## Ledgers with nothing left

The loop stops early when no zone is found. Below the device cap that means the ledger is exhausted,
and a further call finds no zone either, whatever it draws. So a run that misses its target is not
made up for later, and a batch that was cut into ticks stops where the whole would have stopped.
-/

/-- No zone has room, and no zone can be created. -/
def Exhausted (params : AllocParams) (s : Session) : Prop :=
  zonesWithRoom s s.usedIps = [] ∧
    (candidates params.defaultPrefix).Stuck (min params.maxSubnets maxSubnets) s.cidrs

/-- A ledger that is stuck refuses the next network. -/
theorem addSubnet_of_stuck {s : Session} {rec : SubnetRecord} {rng : Rng}
    (hroom : s.subnets.length < params.maxSubnets)
    (hstuck : (candidates params.defaultPrefix).Stuck (min params.maxSubnets maxSubnets) s.cidrs)
    (hrec : rec.cidr = (freshSubnet params.defaultPrefix s.cidrs rng).1) :
    s.addSubnet rec = none := by
  cases hadd : s.addSubnet rec with
  | none => rfl
  | some s' =>
    have hsame := hstuck.eq_of_run (.single (hands_of_addSubnet ⟨rfl, Nat.le_refl _⟩ hroom hrec
      hadd))
    obtain ⟨-, -, rfl⟩ := addSubnet_eq_some.mp hadd
    rw [Session.cidrs_pushSubnet] at hsame
    exact absurd (List.append_right_eq_self.mp hsame) (List.cons_ne_nil _ _)

/-- Without room, a zone is created or there is none. -/
theorem choose_noRoom (vuln : VulnDb) (params : AllocParams) {s : Session}
    {used : Finset Ipv4Addr} (hroom : zonesWithRoom s used = []) (rng : Rng) :
    chooseOrCreateSubnet s vuln params used rng =
      if params.maxSubnets ≤ s.subnets.length then some (none, s, rng)
      else createZone s vuln params rng := by
  unfold chooseOrCreateSubnet
  rw [hroom]
  dsimp only
  by_cases hcap : params.maxSubnets ≤ s.subnets.length
  · rw [if_pos hcap, show wantsZone s vuln params [] rng = (false, rng) from if_pos hcap]
    rfl
  · have hwants : wantsZone s vuln params [] rng = (true, rng) := by
      rw [wantsZone, if_neg hcap, if_pos (.inr rfl)]
    rw [if_neg hcap, hwants]
    dsimp only
    rw [if_pos rfl]
    rcases createZone s vuln params rng with _ | ⟨_ | net, s', rng'⟩ <;> rfl

/-- No zone was found, so none will be. -/
theorem exhausted_of_choose (hprotos : protocolsPresent vuln ≠ []) {s s' : Session}
    {rng rng' : Rng}
    (h : chooseOrCreateSubnet s vuln params s.usedIps rng = some (none, s', rng')) :
    Exhausted params s ∧ s' = s := by
  cases chooseOrCreateSubnet_cases h with
  | exhausted hroom =>
    refine ⟨⟨hroom, ?_⟩, rfl⟩
    rw [choose_noRoom vuln params hroom] at h
    by_cases hcap : params.maxSubnets ≤ s.subnets.length
    · left
      rw [Session.cidrs, List.length_map]
      omega
    · rw [if_neg hcap] at h
      obtain ⟨-, -, profile, rng₁, -, hcreate⟩ := createZone_eq hprotos params s rng
      rw [hcreate] at h
      cases hadd : s.addSubnet
          (seededZone s (freshSubnet params.defaultPrefix s.cidrs rng).1 profile) with
      | none => exact stuck_of_refused rfl hadd
      | some s₁ =>
        rw [hadd] at h
        cases h

/-- **An exhausted ledger gives no zone**, whatever is drawn. -/
theorem choose_of_exhausted (hprotos : protocolsPresent vuln ≠ []) {s : Session}
    (h : Exhausted params s) (rng : Rng) :
    ∃ rng', chooseOrCreateSubnet s vuln params s.usedIps rng = some (none, s, rng') := by
  obtain ⟨hroom, hstuck⟩ := h
  rw [choose_noRoom vuln params hroom]
  by_cases hcap : params.maxSubnets ≤ s.subnets.length
  · exact ⟨rng, if_pos hcap⟩
  · obtain ⟨-, -, profile, rng', -, hcreate⟩ := createZone_eq hprotos params s rng
    rw [addSubnet_of_stuck (Nat.not_le.mp hcap) hstuck rfl] at hcreate
    rw [if_neg hcap]
    exact ⟨rng', hcreate⟩

/-- **A run that misses its target below the device cap leaves an exhausted ledger.** -/
theorem FabRun.exhausted (hprotos : protocolsPresent vuln ≠ []) {target : Nat} {s : Session}
    {st st' : FabState} (h : FabRun vuln params target st st') (hst : Fabricating s st)
    (hcap : st'.session.devices.length < maxDevices)
    (hmissed : st'.session.devices.length < target) : Exhausted params st'.session := by
  induction h with
  | reached hdone => omega
  | @stopped st st' hshort hturn =>
    have hcases := fabricateTurn_cases hturn
    rw [hcases.devices_stop] at hcap
    unfold fabricateTurn at hturn
    cases hcases with
    | @exhausted s rng hchoice =>
      split at hturn
      · cases hturn
      · next hchoose =>
        cases hturn
        rw [hst.used] at hchoose
        obtain ⟨hexhausted, rfl⟩ := exhausted_of_choose hprotos hchoose
        exact hexhausted
      · next hchoose =>
        -- with a zone in hand the loop stops at the device cap only
        have hzone := (chooseOrCreateSubnet_cases hchoose).devices_eq.1
        split at hturn
        · cases hturn
        · dsimp only at hturn
          split at hturn
          · cases hturn
          · split at hturn
            · cases hturn
            · split at hturn
              · next hrefused =>
                have hfull := addDevice_eq_none.mp hrefused
                rw [hzone] at hfull
                exact absurd hcap (Nat.not_lt.mpr hfull)
              · cases hturn
    | atCap hchoice hfull =>
      rw [hchoice.devices_eq.1] at hfull
      exact absurd hcap (Nat.not_lt.mpr hfull)
  | next _ hturn _ ih => exact ih (hst.next (fabricateTurn_cases hturn)) hcap hmissed

/-- **There is nothing more to find a zone for**: no carrier protocol, or an exhausted ledger. -/
inductive Ended (vuln : VulnDb) (params : AllocParams) (s : Session) : Prop
  | noProfile (hprotos : protocolsPresent vuln = []) (hzones : s.subnets = [])
  | exhausted (hprotos : protocolsPresent vuln ≠ []) (hexhausted : Exhausted params s)

theorem Ended.chooses {s : Session} (h : Ended vuln params s) (rng : Rng) :
    ∃ rng', chooseOrCreateSubnet s vuln params s.usedIps rng = some (none, s, rng') := by
  cases h with
  | noProfile hprotos hzones =>
    refine chooseOrCreateSubnet_saturated rng ?_ (.inr hprotos)
    rw [zonesWithRoom, Session.cidrs, hzones]
    rfl
  | exhausted hprotos hexhausted => exact choose_of_exhausted hprotos hexhausted rng

/-- A turn that finds no zone stops the loop. -/
theorem Ended.turn {s : Session} (h : Ended vuln params s) (rng : Rng) :
    ∃ rng', fabricateTurn vuln params (fabricateInit s rng) =
      some (.stop { fabricateInit s rng with rng := rng' }) := by
  obtain ⟨rng', hchoose⟩ := h.chooses rng
  refine ⟨rng', ?_⟩
  unfold fabricateTurn
  rw [show chooseOrCreateSubnet (fabricateInit s rng).session vuln params
    (fabricateInit s rng).used (fabricateInit s rng).rng = _ from hchoose]
  rfl

/-- From there the loop stops at once. -/
theorem Ended.run {s : Session} (h : Ended vuln params s) (target : Nat) (rng : Rng) :
    ∃ rng', FabRun vuln params target (fabricateInit s rng)
      { fabricateInit s rng with rng := rng' } := by
  by_cases hdone : target ≤ s.devices.length
  · exact ⟨rng, .reached hdone⟩
  · obtain ⟨rng', hturn⟩ := h.turn rng
    exact ⟨rng', .stopped (Nat.not_le.mp hdone) hturn⟩

/-! ## Plants that take no device

A ledger at its hard cap refuses every device, and a /30 has no host off its two slots. In either
case fabrication may still create a zone, and a run of it may create many. But it adds no device,
whatever it draws, so a tick has nothing to record for one.
-/

/-- **The plant takes no device**, although it may still be given a zone: it is at the cap of the
ledger, or no zone has room and a new one has none either, as a /30 has its two reserved slots
only. -/
def TakesNone (params : AllocParams) (s : Session) : Prop :=
  maxDevices ≤ s.devices.length ∨ zonesWithRoom s s.usedIps = [] ∧ 30 ≤ params.defaultPrefix

instance (params : AllocParams) (s : Session) : Decidable (TakesNone params s) :=
  inferInstanceAs (Decidable (_ ∨ _ ∧ _))

/-- The two hosts of a /30 are the gateway and the station. -/
theorem nextFreeIn_of_slash30 {net : Ipv4Net} (hbits : net.prefixLen = 30)
    (used : Finset Ipv4Addr) : nextFreeIn net used = none := by
  unfold nextFreeIn
  refine List.find?_eq_none.mpr fun ip hip hfree => ?_
  rw [Bool.and_eq_true, Bool.and_eq_true, decide_eq_true_iff, decide_eq_true_iff] at hfree
  obtain ⟨⟨hgateway, hstation⟩, -⟩ := hfree
  have hsize : net.size = 4 := by
    rw [Ipv4Net.size, hbits]
    rfl
  have hhost := (Ipv4Net.mem_hosts (by omega)).mp hip
  have hfirst : (firewallAddr net).toNat = net.network.toNat + 1 := toNat_firewallAddr (by omega)
  have hlast : (stationAddrNet net).toNat = net.network.toNat + min 250 (net.size - 2) :=
    toNat_stationAddrNet (by omega) (by omega)
  rw [hsize] at hhost hlast
  rw [Ne, ← UInt32.toNat_inj] at hgateway hstation
  omega

/-- A full plant whose new zones are full stays one, and a turn adds no device. -/
theorem fabricateTurn_cramped (hlen : 30 ≤ params.defaultPrefix) {st : FabState} {t : FabTurn}
    (hroom : zonesWithRoom st.session st.used = [])
    (h : fabricateTurn vuln params st = some t) :
    ∃ s rng, zonesWithRoom s st.used = [] ∧
      (t = .next { st with session := s, rng } ∨ t = .stop { st with session := s, rng }) := by
  unfold fabricateTurn at h
  rw [choose_noRoom vuln params hroom] at h
  by_cases hcap : params.maxSubnets ≤ st.session.subnets.length
  · rw [if_pos hcap] at h
    cases h
    exact ⟨_, _, hroom, .inr rfl⟩
  · rw [if_neg hcap] at h
    rcases hcreate : createZone st.session vuln params st.rng with _ | ⟨net, s, rng⟩
    · rw [hcreate] at h
      cases h
    · rw [hcreate] at h
      obtain ⟨rfl, rfl⟩ | ⟨rec, rfl, -, -, hbits, rfl⟩ := createZone_cases hcreate
      · cases h
        exact ⟨_, _, hroom, .inr rfl⟩
      -- a new zone of prefix 30 has two hosts, and both of them are slots
      · have hfull : nextFreeIn rec.cidr st.used = none := by
          refine nextFreeIn_of_slash30 ?_ _
          rw [hbits, clampPrefix]
          omega
        dsimp only at h
        rw [hfull] at h
        cases h
        refine ⟨_, _, ?_, .inl rfl⟩
        rw [zonesWithRoom, Session.cidrs_pushSubnet, List.filter_append]
        rw [zonesWithRoom] at hroom
        rw [hroom, List.nil_append]
        simp [hfull]

/-- A full plant whose new zones are full is given none by a run. -/
theorem FabRun.cramped (hlen : 30 ≤ params.defaultPrefix) {target : Nat} {st st' : FabState}
    (h : FabRun vuln params target st st') (hroom : zonesWithRoom st.session st.used = []) :
    st'.added = st.added := by
  induction h with
  | reached => rfl
  | stopped _ hturn =>
    obtain ⟨s, rng, -, hnext | hstop⟩ := fabricateTurn_cramped hlen hroom hturn
    · cases hnext
    · cases hstop
      rfl
  | next _ hturn _ ih =>
    obtain ⟨s, rng, hroom', hnext | hstop⟩ := fabricateTurn_cramped hlen hroom hturn
    · cases hnext
      exact ih hroom'
    · cases hstop

/-- A ledger at its cap is given none by a run. -/
theorem FabRun.atCap {target : Nat} {st st' : FabState} (h : FabRun vuln params target st st')
    (hcap : maxDevices ≤ st.session.devices.length) : st'.added = st.added := by
  induction h with
  | reached => rfl
  | stopped _ hturn =>
    cases fabricateTurn_cases hturn with
    | exhausted => rfl
    | atCap => rfl
  | next _ hturn _ ih =>
    cases fabricateTurn_cases hturn with
    | fullZone hchoice => exact ih (by rwa [hchoice.devices_eq.1])
    | placed hchoice _ _ hroom =>
      rw [hchoice.devices_eq.1] at hroom
      exact absurd hcap (Nat.not_le.mpr hroom)

/-- **Fabrication adds no device to such a plant.** -/
theorem fabricate_takesNone {s s' : Session} {target added : Nat} {rng rng' : Rng}
    (hnone : TakesNone params s) (h : fabricate s vuln params target rng = some (s', added, rng')) :
    added = 0 := by
  by_cases hvuln : vuln = []
  · unfold fabricate at h
    rw [if_pos hvuln] at h
    cases h
    rfl
  · obtain ⟨st, hrun, heq⟩ := (fabricate_iff hvuln).mp h
    cases heq
    obtain hcap | ⟨hroom, hlen⟩ := hnone
    · exact hrun.atCap hcap
    · exact hrun.cramped hlen hroom

/-! ## The loop comes to an end

Two loops have to end: the salt loop of a turn, and the loop over the turns. The first ends exactly
if some salt gives the profile a free MAC, which counting provides for every plant below the caps.
The second adds a device or a zone in each turn, or stops; there its measure is the number of turns
that the caps leave.
-/

/-- A device's salt loop ends, with or without a vendor prefix. -/
theorem makeMac_isSome (profile : DeviceProfile) (seed : UInt64) (ip : Ipv4Addr)
    {used : Finset Mac} (hcard : used.card < 2 ^ 24) :
    ∃ r, freshMac (makeMac profile seed ip) used = some r := by
  cases houi : profile.ouiPrefix with
  | some oui =>
    unfold makeMac
    rw [houi]
    exact freshMac_isSome oui seed ip hcard
  | none =>
    -- already three of the six bytes take enough values
    have himage : (used.image (withOui ⟨0, 0, 0⟩)).card < 2 ^ 24 :=
      Nat.lt_of_le_of_lt Finset.card_image_le hcard
    obtain ⟨⟨mac, salt⟩, hfresh⟩ := freshMac_isSome ⟨0, 0, 0⟩ seed ip himage
    obtain ⟨hnew, rfl⟩ := freshMac_spec hfresh
    unfold makeMac
    rw [houi]
    exact freshMac_isSome_of_salt ⟨salt, fun hin => hnew (Finset.mem_image_of_mem _ hin)⟩

/-- Choosing a zone does not panic. -/
theorem chooseOrCreateSubnet_isSome (hprotos : protocolsPresent vuln ≠ []) (params : AllocParams)
    (s : Session) (used : Finset Ipv4Addr) (rng : Rng) :
    ∃ net s' rng', chooseOrCreateSubnet s vuln params used rng = some (net, s', rng') := by
  have hpick : ∀ (s' : Session) (rng : Rng),
      ∃ net s'' rng', pickZone (zonesWithRoom s used) s' rng = some (net, s'', rng') := by
    intro s' rng
    unfold pickZone
    split
    · exact ⟨_, _, _, rfl⟩
    · next hroom =>
      obtain ⟨net, rng', hpick⟩ := pick_isSome hroom rng
      rw [hpick]
      exact ⟨_, _, _, rfl⟩
  unfold chooseOrCreateSubnet
  dsimp only
  split
  · obtain ⟨-, -, profile, rng', -, hcreate⟩ := createZone_eq hprotos params s
      (wantsZone s vuln params (zonesWithRoom s used) rng).2
    rw [hcreate]
    cases s.addSubnet (seededZone s (freshSubnet params.defaultPrefix s.cidrs
        (wantsZone s vuln params (zonesWithRoom s used) rng).2).1 profile) with
    | none => exact hpick s rng'
    | some s' => exact ⟨_, _, _, rfl⟩
  · exact hpick s _

/-- Choosing a zone keeps the seed and the capture hosts. -/
theorem ZoneChoice.seed_hosts {s s' : Session} {used : Finset Ipv4Addr} {net : Option Ipv4Net}
    (h : ZoneChoice s used net s') : s'.seed = s.seed ∧ s'.captureHosts = s.captureHosts := by
  cases h with
  | created => exact ⟨rfl, rfl⟩
  | existing => exact ⟨rfl, rfl⟩
  | exhausted => exact ⟨rfl, rfl⟩

theorem Turned.captureHosts_next {st st' : FabState} (h : Turned st (.next st')) :
    st'.session.captureHosts = st.session.captureHosts := by
  cases h with
  | fullZone hchoice => exact hchoice.seed_hosts.2
  | placed hchoice => exact hchoice.seed_hosts.2

/-- The device a turn is about to add: the profile it drew, and the address. -/
def Drawn (vuln : VulnDb) (params : AllocParams) (st : FabState) (profile : DeviceProfile)
    (ip : Ipv4Addr) : Prop :=
  ∃ net s rng rng',
    chooseOrCreateSubnet st.session vuln params st.used st.rng = some (some net, s, rng) ∧
      nextFreeIn net st.used = some ip ∧
      pickProfile vuln ((s.subnets.find? fun z => decide (z.cidr = net)).bind SubnetRecord.vendor)
        rng = some (profile, rng')

/-- Some salt gives the profile a MAC that is not in use. -/
def MacLeft (seed : UInt64) (profile : DeviceProfile) (ip : Ipv4Addr) (used : Finset Mac) : Prop :=
  ∃ salt, makeMac profile seed ip salt ∉ used

theorem pickProfile_isSome (hcore : vuln.filter DeviceProfile.isCore ≠ []) (vendor : Option String)
    (rng : Rng) : ∃ p rng', pickProfile vuln vendor rng = some (p, rng') := by
  unfold pickProfile
  dsimp only
  split
  · exact pick_isSome hcore rng
  · next hmatching => exact pick_isSome hmatching rng

/-- **A turn does not panic and its salt loop ends**, exactly if the profile it draws has a MAC
left. -/
theorem fabricateTurn_isSome_iff (hprotos : protocolsPresent vuln ≠ []) (params : AllocParams)
    (st : FabState) : (∃ t, fabricateTurn vuln params st = some t) ↔
      ∀ profile ip, Drawn vuln params st profile ip →
        MacLeft st.session.seed profile ip st.usedMacs := by
  obtain ⟨net, s, rng, hchoose⟩ :=
    chooseOrCreateSubnet_isSome hprotos params st.session st.used st.rng
  have hseed := (chooseOrCreateSubnet_cases hchoose).seed_hosts.1
  constructor
  · rintro ⟨t, hturn⟩ profile ip ⟨net, s, rng, rng', hchoose, hip, hprofile⟩
    have hseed := (chooseOrCreateSubnet_cases hchoose).seed_hosts.1
    unfold fabricateTurn at hturn
    rw [hchoose] at hturn
    dsimp only at hturn
    rw [hip] at hturn
    dsimp only at hturn
    rw [hprofile] at hturn
    dsimp only at hturn
    rw [hseed] at hturn
    -- a salt loop without end is no turn
    cases hmac : freshMac (makeMac profile st.session.seed ip) st.usedMacs with
    | none =>
      rw [hmac] at hturn
      cases hturn
    | some r =>
      obtain ⟨mac, salt⟩ := r
      obtain ⟨hnew, rfl⟩ := freshMac_spec hmac
      exact ⟨salt, hnew⟩
  · intro hleft
    unfold fabricateTurn
    rw [hchoose]
    cases net with
    | none => exact ⟨_, rfl⟩
    | some net =>
      dsimp only
      cases hip : nextFreeIn net st.used with
      | none => exact ⟨_, rfl⟩
      | some ip =>
        obtain ⟨profile, rng', hprofile⟩ := pickProfile_isSome (core_of_protocols hprotos)
          ((s.subnets.find? fun z => decide (z.cidr = net)).bind SubnetRecord.vendor) rng
        obtain ⟨⟨mac, salt⟩, hmac⟩ := freshMac_isSome_of_salt
          (hleft profile ip ⟨net, s, rng, rng', hchoose, hip, hprofile⟩)
        dsimp only
        rw [hprofile]
        dsimp only
        rw [hseed, hmac]
        dsimp only
        split <;> exact ⟨_, rfl⟩

/-- A turn towards the target that leads to another one. -/
def FabNext (vuln : VulnDb) (params : AllocParams) (target : Nat) (st st' : FabState) : Prop :=
  st.session.devices.length < target ∧ fabricateTurn vuln params st = some (.next st')

/-- **The loop comes to an end, exactly if no turn it comes to fails.** -/
theorem FabRun.exists_iff {target : Nat} {st : FabState} :
    (∃ st', FabRun vuln params target st st') ↔
      ∀ st', ReflTransGen (FabNext vuln params target) st st' →
        st'.session.devices.length < target → ∃ t, fabricateTurn vuln params st' = some t := by
  constructor
  · rintro ⟨st', hrun⟩ st₁ hcomes hshort
    -- the run from the first state goes through every state on the way
    have hrest : FabRun vuln params target st₁ st' := by
      clear hshort
      induction hcomes with
      | refl => exact hrun
      | tail _ hnext ih =>
        cases ih with
        | reached hdone => exact absurd hnext.1 (Nat.not_lt.mpr hdone)
        | stopped _ hturn =>
          rw [hnext.2] at hturn
          cases hturn
        | next _ hturn hrest =>
          rw [hnext.2] at hturn
          cases hturn
          exact hrest
    cases hrest with
    | reached hdone => exact absurd hshort (Nat.not_lt.mpr hdone)
    | stopped _ hturn => exact ⟨_, hturn⟩
    | next _ hturn _ => exact ⟨_, hturn⟩
  · intro hturns
    induction hfuel : fabricateFuel target st.session using Nat.strong_induction_on generalizing st
      with
    | _ fuel ih =>
      by_cases hdone : target ≤ st.session.devices.length
      · exact ⟨st, .reached hdone⟩
      · have hshort := Nat.not_le.mp hdone
        obtain ⟨t, hturn⟩ := hturns st .refl hshort
        cases t with
        | stop st' => exact ⟨st', .stopped hshort hturn⟩
        | next st₁ =>
          obtain ⟨st', hrest⟩ := ih _
            (hfuel ▸ fabricateFuel_next hshort (fabricateTurn_cases hturn))
            (fun st₂ hcomes => hturns st₂ (.head ⟨hshort, hturn⟩ hcomes)) rfl
          exact ⟨st', .next hshort hturn hrest⟩

/-- On the way to a target, each profile drawn has a MAC left: fewer than `2 ^ 24` assets hold
one. -/
theorem macLeft_of_few {target : Nat} {s : Session} {st st' : FabState} (hst : Fabricating s st)
    (hfew : st.session.captureHosts.length + target ≤ 2 ^ 24)
    (hcomes : ReflTransGen (FabNext vuln params target) st st')
    (hshort : st'.session.devices.length < target) (profile : DeviceProfile) (ip : Ipv4Addr) :
    MacLeft st'.session.seed profile ip st'.usedMacs := by
  obtain ⟨hst', hhosts⟩ : Fabricating s st' ∧
      st'.session.captureHosts = st.session.captureHosts := by
    clear hshort
    induction hcomes with
    | refl => exact ⟨hst, rfl⟩
    | tail _ hnext ih =>
      have hcases := fabricateTurn_cases hnext.2
      exact ⟨ih.1.next hcases, hcases.captureHosts_next.trans ih.2⟩
  have hcard : st'.usedMacs.card < 2 ^ 24 := by
    rw [hst'.usedMacs, Session.usedMacs]
    refine Nat.lt_of_le_of_lt (List.toFinset_card_le _) ?_
    rw [List.length_map, Session.assets, List.length_append, List.length_map, List.length_map,
      hhosts]
    omega
  obtain ⟨⟨mac, salt⟩, hmac⟩ := makeMac_isSome profile st'.session.seed ip hcard
  obtain ⟨hnew, rfl⟩ := freshMac_spec hmac
  exact ⟨salt, hnew⟩

/-- **The loop comes to an end**, with a carrier protocol and no capture host. -/
theorem FabRun.exists (hprotos : protocolsPresent vuln ≠ []) {target : Nat}
    (htarget : target ≤ maxDevices) {s : Session} {st : FabState} (hst : Fabricating s st)
    (hhosts : st.session.captureHosts = []) : ∃ st', FabRun vuln params target st st' := by
  rw [FabRun.exists_iff]
  intro st' hcomes hshort
  refine (fabricateTurn_isSome_iff hprotos params st').mpr fun profile ip _ => ?_
  refine macLeft_of_few hst ?_ hcomes hshort profile ip
  rw [hhosts, List.length_nil, Nat.zero_add]
  exact htarget.trans (by decide)

end TurboLaser
