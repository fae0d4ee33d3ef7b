import TurboLaser.Simulate.Planned
import TurboLaser.Threat.Floor

/-!
# What the ledger file keeps

The daemon is started, called and stopped in any order, and any write may fail. The file lags behind
the engine, but what it has once held it never loses; and an engine that is not marked dirty has
nothing the file does not have.

The second half is what makes the first useful: the mark is the only memory the daemon has of
unsaved work. A call that adds something and does not mark it would lose it at the next stop, with
nobody noticing. So every call is shown to mark what it adds (`Marked`), and a save that fails to
leave the mark standing, so that the next call tries again.

- `StoredSession.Keeps`: nothing of a session is lost in another;
- `Marked`: the work of a call, before it is saved: what it adds it marks;
- `apply_marked`: **every call marks what it adds**;
- `Durable.step`: one event of a life keeps the invariant, `Durable`;
- `file_keeps`, `clean_is_saved`: **the life of a ledger file.** The second asks that no scenario
  starts on a disk that refuses the write: the plant of a scenario is saved at the start, and an
  engine whose save failed there is not marked.
-/

namespace TurboLaser

open Lib Scenario

/-! ## Nothing is lost -/

/-- **Every device, every capture host and every promotion is kept**, where it was. -/
structure StoredSession.Keeps (p q : StoredSession) : Prop where
  devices : p.session.devices.map DeviceRecord.unnamed <+: q.session.devices.map DeviceRecord.unnamed
  captureHosts : p.session.captureHosts <+: q.session.captureHosts
  promoted : p.tail.promoted <+: q.tail.promoted

theorem StoredSession.Keeps.refl (p : StoredSession) : p.Keeps p :=
  ⟨List.prefix_rfl, List.prefix_rfl, List.prefix_rfl⟩

theorem StoredSession.Keeps.trans {p q r : StoredSession} (h : p.Keeps q) (h' : q.Keeps r) :
    p.Keeps r :=
  ⟨h.devices.trans h'.devices, h.captureHosts.trans h'.captureHosts, h.promoted.trans h'.promoted⟩

/-- A call keeps what the engine would have saved. -/
theorem DaemonEngine.Extends.keeps {e e' : DaemonEngine} (h : e.Extends e') :
    e.stored.Keeps e'.stored :=
  ⟨h.ledger.devices, h.ledger.captureHosts, h.promoted⟩

/-- Nothing to keep. -/
def StoredSession.Bare (p : StoredSession) : Prop :=
  p.session.devices = [] ∧ p.session.captureHosts = [] ∧ p.tail.promoted = []

/-- The file has everything the session has. -/
def LedgerFile.Has (file : LedgerFile) (p : StoredSession) : Prop :=
  match file with
  | .json q => p.Keeps q
  | _ => p.Bare

/-- What the first file held the second one holds. -/
def LedgerFile.Keeps (file file' : LedgerFile) : Prop :=
  ∀ p, file = .json p → ∃ q, file' = .json q ∧ p.Keeps q

theorem LedgerFile.Keeps.refl (file : LedgerFile) : file.Keeps file :=
  fun p hp => ⟨p, hp, .refl p⟩

theorem LedgerFile.Keeps.trans {file file' file'' : LedgerFile} (h : file.Keeps file')
    (h' : file'.Keeps file'') : file.Keeps file'' := by
  intro p hp
  obtain ⟨q, hq, hpq⟩ := h p hp
  obtain ⟨r, hr, hqr⟩ := h' q hq
  exact ⟨r, hr, hpq.trans hqr⟩

theorem StoredSession.Bare.of_keeps {p q : StoredSession} (h : p.Keeps q) (hq : q.Bare) : p.Bare := by
  refine ⟨?_, ?_, ?_⟩
  · have hdevices := h.devices
    rwa [hq.1, List.map_nil, List.prefix_nil, List.map_eq_nil_iff] at hdevices
  · have hhosts := h.captureHosts
    rwa [hq.2.1, List.prefix_nil] at hhosts
  · have hpromoted := h.promoted
    rwa [hq.2.2, List.prefix_nil] at hpromoted

/-- What a file has, it has of everything less. -/
theorem LedgerFile.Has.of_keeps {file : LedgerFile} {p q : StoredSession} (hfile : file.Has q)
    (h : p.Keeps q) : file.Has p := by
  cases file with
  | json r => exact h.trans hfile
  | _ => exact StoredSession.Bare.of_keeps h hfile

/-! ## Fabrication counts what it adds -/

/-- A zone is chosen, and no device is added. -/
theorem ZoneChoice.length_devices {s s' : Session} {used : Finset Ipv4Addr} {net : Option Ipv4Net}
    (h : ZoneChoice s used net s') : s'.devices.length = s.devices.length := by
  rw [h.devices_eq.1]

theorem fabricate_added {s s' : Session} {vuln : VulnDb} {params : AllocParams}
    {target added : Nat} {rng rng' : Rng}
    (h : fabricate s vuln params target rng = some (s', added, rng')) :
    s'.devices.length = s.devices.length + added := by
  unfold fabricate at h
  split at h
  · cases h
    rfl
  · obtain ⟨st, hloop, heq⟩ := Option.map_eq_some_iff.mp h
    cases heq
    refine fabricateLoop_induct
      (P := fun st => st.session.devices.length = s.devices.length + st.added)
      (Q := fun st => st.session.devices.length = s.devices.length + st.added) ?_ ?_
      (fun st h _ => h) rfl hloop
    · intro st st' hst _ hturn
      cases hturn with
      | fullZone hchoice hfull => exact hchoice.length_devices.trans hst
      | placed hchoice hip hmac hroom =>
        have hlen := hchoice.length_devices
        simp only [Session.pushDevice, List.length_append, List.length_singleton]
        omega
    · intro st st' hst _ hturn
      cases hturn with
      | exhausted hchoice => exact hchoice.length_devices.trans hst
      | atCap hchoice hcap => exact hchoice.length_devices.trans hst

/-! ## The work of a call

A call may change the engine and not the file, when its save fails or there is none to make. Then it
has to leave a mark, unless it added nothing that the file should hold. The mark is all that a later
call goes by, so the lemma to prove of every call is that it marks what it adds.
-/

/-- **The work of a call**: it extends the engine, and unless it leaves a mark it adds nothing. -/
structure Marked (e e' : DaemonEngine) : Prop where
  adds : e.Extends e'
  schema : e'.tail.schema = e.tail.schema
  clean : e'.dirty = false → e.dirty = false ∧ e'.stored.Keeps e.stored

theorem Marked.refl (e : DaemonEngine) : Marked e e :=
  ⟨.refl e, rfl, fun h => ⟨h, .refl _⟩⟩

/-- The work is left as it is, or it is saved. -/
inductive Worked (e : DaemonEngine) (file : LedgerFile) : DaemonEngine × LedgerFile → Prop
  | kept {e'} (h : Marked e e') : Worked e file (e', file)
  | saved {e₁} (h : Marked e e₁) :
      Worked e file ({ e₁ with dirty := false }, .json e₁.stored)

/-- `persist_if_dirty` saves the work, or leaves it as it is. -/
theorem Marked.persist {e e₁ : DaemonEngine} (h : Marked e e₁) (io : Io) (file : LedgerFile) :
    Worked e file (e₁.persistIfDirty io file) := by
  unfold DaemonEngine.persistIfDirty StoredSession.saveAtomic
  cases hdirty : e₁.dirty with
  | false => exact .kept h
  | true =>
    rw [if_pos rfl]
    cases io.ledger with
    | true => exact .saved h
    | false =>
      have hsame : ({ e₁ with dirty := true } : DaemonEngine) = e₁ := by
        rw [← hdirty]
      dsimp only
      rw [if_neg Bool.false_ne_true, Bool.not_false, hsame]
      exact .kept h

/-- A tick marks the devices it adds. -/
theorem marked_ticked {e : DaemonEngine} {run : Nat} {grown : Session} {added : Nat} {simRng : Rng}
    (hgrow : e.growPlant = some (grown, added, simRng)) :
    Marked e (e.ticked run grown added simRng) := by
  -- the ledger grows by as many devices as the tick counts, and the registry is left alone
  have hgrown : e.core.ledger.Extends grown ∧
      grown.devices.length = e.core.ledger.devices.length + added ∧
      grown.captureHosts = e.core.ledger.captureHosts := by
    unfold DaemonEngine.growPlant at hgrow
    split at hgrow
    · exact ⟨.of_grows (fabricate_grows hgrow), fabricate_added hgrow,
        (fabricate_fabricated hgrow).captureHosts⟩
    · cases hgrow
      exact ⟨.refl _, rfl, rfl⟩
  obtain ⟨hextends, hadded, hhosts⟩ := hgrown
  refine ⟨⟨?_, List.prefix_rfl⟩, rfl, fun hclean => ?_⟩
  · show e.core.ledger.Extends (if e.core.renameDue run grown added then grown.renameZones else grown)
    split
    · exact hextends.trans (.of_relabelled (renameZones_sameWire grown).relabelled)
    · exact hextends
  · -- nothing was added and nothing is renamed
    unfold DaemonEngine.ticked at hclean
    dsimp only at hclean
    rw [Bool.or_eq_false_iff, Bool.or_eq_false_iff, decide_eq_false_iff_not] at hclean
    obtain ⟨⟨hdirty, hnone⟩, hrename⟩ := hclean
    refine ⟨hdirty, ?_, ?_, List.prefix_rfl⟩
    · have hledger : (e.ticked run grown added simRng).core.ledger = grown := by
        show (if e.core.renameDue run grown added then grown.renameZones else grown) = grown
        rw [hrename, if_neg Bool.false_ne_true]
      show (e.ticked run grown added simRng).core.ledger.devices.map DeviceRecord.unnamed <+: _
      rw [hledger, ← hextends.devices.eq_of_length (by
        rw [List.length_map, List.length_map, hadded]
        omega)]
      exact List.prefix_rfl
    · show (if e.core.renameDue run grown added then grown.renameZones else grown).captureHosts <+: _
      rw [hrename, if_neg Bool.false_ne_true, hhosts]
      exact List.prefix_rfl

/-- A remap marks the hosts it registers. -/
theorem marked_registered (cfg : Config) (e : DaemonEngine) (assets : List NewCaptureAsset)
    (cache : Memo CacheKey Capture) :
    Marked e { e.registered cfg assets with
      core := { (e.registered cfg assets).core with cache } } := by
  have hextends := Session.Extends.registerAssets e.core.ledger assets
    (effectiveAssetCap cfg.synthesis.maxAssets)
  have hframe := registerAssets_frame e.core.ledger assets
    (effectiveAssetCap cfg.synthesis.maxAssets)
  refine ⟨⟨hextends, List.prefix_rfl⟩, rfl, fun hclean => ?_⟩
  unfold DaemonEngine.registered at hclean
  dsimp only at hclean
  rw [Bool.or_eq_false_iff, decide_eq_false_iff_not, Nat.not_lt] at hclean
  refine ⟨hclean.1, ?_, ?_, List.prefix_rfl⟩
  · show (registerAssets e.core.ledger assets _).devices.map DeviceRecord.unnamed <+: _
    rw [hframe.1]
    exact List.prefix_rfl
  · have hsame := hextends.captureHosts.eq_of_length
      (Nat.le_antisymm hextends.captureHosts.length_le hclean.2)
    show (registerAssets e.core.ledger assets _).captureHosts <+: _
    rw [← hsame]
    exact List.prefix_rfl

/-- The cache is none of the file's business. -/
theorem Worked.withCache {e : DaemonEngine} {file : LedgerFile} {out : DaemonEngine × LedgerFile}
    (h : Worked e file out) (cache : Memo CacheKey Capture) :
    Worked e file ({ out.1 with core := { out.1.core with cache } }, out.2) := by
  have hmark : ∀ {e' : DaemonEngine}, Marked e e' →
      Marked e { e' with core := { e'.core with cache } } := fun h =>
    ⟨⟨h.adds.ledger, h.adds.promoted⟩, h.schema, fun hclean =>
      ⟨(h.clean hclean).1, (h.clean hclean).2⟩⟩
  cases h with
  | kept h => exact .kept (hmark h)
  | saved h => exact .saved (hmark h)

/-- A promotion marks its record. -/
theorem marked_recorded (e : DaemonEngine) (scheduler : ThreatScheduler) (simRng : Rng)
    (record : PromotedHost) (now : UInt64) :
    Marked e (DaemonEngine.recorded { e with scheduler, simRng } record now) :=
  ⟨⟨.refl _, List.prefix_append _ _⟩, rfl, fun hclean => absurd hclean Bool.noConfusion⟩

/-- **Every call marks what it adds**, and saves it or leaves the file alone. -/
theorem apply_marked {seedFrom : UInt64 → Rng} {e : DaemonEngine} {file : LedgerFile}
    {call : DaemonCall} {out : DaemonEngine × LedgerFile}
    (h : call.apply seedFrom (e, file) = some out) : Worked e file out := by
  cases call with
  | redTick run io =>
    cases daemonTick_cases h with
    | off hoff => exact .kept (.refl e)
    | grew hon hgrow => exact (marked_ticked hgrow).persist io file
  | remap cfg src order evicted io =>
    obtain ⟨⟨r, out'⟩, hremap, rfl⟩ := Option.map_eq_some_iff.mp h
    cases daemonRemap_cases hremap with
    | stopped hstop => exact .kept (.refl e)
    | @settled cap written assets e' file' r cache hgoes hcontent hunder hsettle =>
      have hmarked := marked_registered cfg e assets (e.registered cfg assets).core.cache
      have hworked : Worked e file (e', file') := by
        rw [← hsettle]
        unfold DaemonEngine.settle
        split
        · exact .kept hmarked
        · exact hmarked.persist io file
      exact hworked.withCache cache
  | promote content now io =>
    obtain ⟨⟨record, out'⟩, hpromote, rfl⟩ := Option.map_eq_some_iff.mp h
    cases daemonPromote_cases hpromote with
    | idle hidle => exact .kept (.refl e)
    -- only the scheduler moved, and nobody saves for that
    | missed hmiss hdue hwaits =>
      exact .kept ⟨⟨.refl _, List.prefix_rfl⟩, rfl, fun hclean => ⟨hclean, .refl _⟩⟩
    | @made scheduler simRng made hmade hwaits hrecord =>
      exact (marked_recorded e scheduler simRng made now).persist io file

/-! ## The life of a file

A life is a sequence of starts and calls, and any write in it may fail. The invariant ties the file
to the engine from one side only: what the file holds the engine has. The other side, that the file
has what the engine has, holds where the engine carries no mark, and it is what a later call
restores when a save failed.
-/

/-- The file is missing, or this build loads it. -/
def LedgerFile.Loads (file : LedgerFile) : Prop :=
  file = .missing ∨ ∃ p, file = .json p ∧ p.tail.schema ≤ schemaVersion

/-- **The invariant of a life**: the file loads, and what it holds the engine has. -/
structure Durable (w : World) : Prop where
  loads : w.file.Loads
  schema : ∀ e ∈ w.engine, e.tail.schema = schemaVersion
  lags : ∀ e ∈ w.engine, w.file.Keeps (.json e.stored)

/-- An engine without a mark has nothing the file does not have. -/
def Clean (w : World) : Prop := ∀ e ∈ w.engine, e.dirty = false → w.file.Has e.stored

/-- A scenario starts with a disk that takes its plant. -/
def Pins (_ : World) : WorldEvent → Prop
  | .restart cfg _ _ io => cfg.target = none ∨ io.ledger = true
  | _ => True

instance (w : World) (ev : WorldEvent) : Decidable (Pins w ev) :=
  match ev with
  | .restart _ _ _ _ => inferInstanceAs (Decidable (_ ∨ _))
  | .redTick _ _ => .isTrue trivial
  | .remap _ _ _ _ _ => .isTrue trivial
  | .promote _ _ _ => .isTrue trivial

section Start

variable {dec : Decoders} {seedFrom : UInt64 → Rng} {cfg : DaemonConfig} {boot : Boot}
  {now : UInt64} {io : Io} {file file' : LedgerFile}

/-- A session the daemon makes up has nothing to lose, and pins its plant if it has one. -/
theorem freshSession_durable {r : Except StartError StoredSession}
    (h : freshSession dec cfg boot now io .missing = some (r, file')) :
    file'.Loads ∧ ∀ s, r = .ok s → file'.Keeps (.json s) ∧
      (cfg.target = none ∨ io.ledger = true → file'.Has s) := by
  unfold freshSession at h
  dsimp only at h
  split at h
  · next t htarget =>
    split at h
    · cases h
    · obtain ⟨rfl, rfl⟩ := Prod.mk.inj (Option.some.inj h)
      exact ⟨.inl rfl, nofun⟩
    · next session hpin =>
      obtain ⟨rfl, rfl⟩ := Prod.mk.inj (Option.some.inj h)
      -- the plant of a scenario is saved at once; a generic session waits for its first devices
      unfold StoredSession.saveAtomic
      cases hio : io.ledger with
      | true =>
        refine ⟨.inr ⟨_, rfl, Nat.le_refl _⟩, fun s hs => ?_⟩
        obtain rfl := Except.ok.inj hs
        exact ⟨.refl _, fun _ => .refl _⟩
      | false =>
        refine ⟨.inl rfl, fun s _ => ⟨nofun, fun hpins => ?_⟩⟩
        rcases hpins with hnone | hpins
        · cases htarget.symm.trans hnone
        · cases hpins
  · obtain ⟨rfl, rfl⟩ := Prod.mk.inj (Option.some.inj h)
    refine ⟨.inl rfl, fun s hs => ?_⟩
    obtain rfl := Except.ok.inj hs
    exact ⟨nofun, fun _ => ⟨rfl, rfl, rfl⟩⟩

/-- **A start loses nothing**: its session is the one in the file, if there is one. -/
theorem startSession_durable {r : Except StartError StoredSession} (hfile : file.Loads)
    (h : startSession dec cfg boot now io file = some (r, file')) :
    file'.Loads ∧ file.Keeps file' ∧ ∀ s, r = .ok s → s.tail.schema = schemaVersion ∧
      file'.Keeps (.json s) ∧ (cfg.target = none ∨ io.ledger = true → file'.Has s) := by
  have hschema := (startSession_floored (fileFloored_none file) h).2
  rcases hfile with rfl | ⟨p, rfl, hp⟩
  · obtain ⟨hloads, hfresh⟩ := freshSession_durable (show freshSession dec cfg boot now io .missing =
      some (r, file') from h)
    exact ⟨hloads, nofun, fun s hs => ⟨(hschema s hs).1, hfresh s hs⟩⟩
  · -- an older session differs in its schema only
    obtain ⟨s₀, hload, hkeeps, hkept⟩ : ∃ s₀, loadSession (.json p) = .ok (some s₀) ∧ p.Keeps s₀ ∧
        s₀.Keeps p := by
      unfold loadSession
      dsimp only
      rw [if_neg (Nat.not_lt.mpr hp)]
      split
      · exact ⟨_, rfl, ⟨List.prefix_rfl, List.prefix_rfl, List.prefix_rfl⟩,
          ⟨List.prefix_rfl, List.prefix_rfl, List.prefix_rfl⟩⟩
      · exact ⟨p, rfl, .refl p, .refl p⟩
    unfold startSession at h
    rw [hload] at h
    obtain ⟨hr, rfl⟩ := Prod.mk.inj (Option.some.inj h)
    refine ⟨.inr ⟨p, rfl, hp⟩, .refl _, fun s hs => ⟨(hschema s hs).1, ?_⟩⟩
    obtain rfl : s₀ = s := by
      rw [← hr] at hs
      -- a ledger of another scenario is refused, and stays as it is
      cases hguard : guardLedgerScenario s₀.tail.scenario (cfg.target.map NamedTarget.name) with
      | error err =>
        rw [hguard] at hs
        cases hs
      | ok u =>
        rw [hguard] at hs
        exact Except.ok.inj hs
    exact ⟨fun q hq => ⟨s₀, rfl, LedgerFile.json.inj hq ▸ hkeeps⟩, fun _ => hkept⟩

/-- So does the whole start. -/
theorem red_durable {r : Except StartError DaemonEngine} (hfile : file.Loads)
    (h : DaemonEngine.red dec seedFrom cfg boot now io file = some (r, file')) :
    file'.Loads ∧ file.Keeps file' ∧ ∀ e ∈ r.toOption, e.tail.schema = schemaVersion ∧
      file'.Keeps (.json e.stored) ∧ (cfg.target = none ∨ io.ledger = true → file'.Has e.stored) := by
  unfold DaemonEngine.red at h
  split at h
  · cases h
  · next hstart =>
    obtain ⟨rfl, rfl⟩ := Prod.mk.inj (Option.some.inj h)
    obtain ⟨hloads, hkeeps, -⟩ := startSession_durable hfile hstart
    exact ⟨hloads, hkeeps, nofun⟩
  · next s file₁ hstart =>
    obtain ⟨hloads, hkeeps, hsession⟩ := startSession_durable hfile hstart
    split at h
    · obtain ⟨rfl, rfl⟩ := Prod.mk.inj (Option.some.inj h)
      exact ⟨hloads, hkeeps, nofun⟩
    · split at h
      · cases h
      · obtain ⟨rfl, rfl⟩ := Prod.mk.inj (Option.some.inj h)
        refine ⟨hloads, hkeeps, fun e he => ?_⟩
        obtain rfl := Option.some.inj he
        exact hsession s rfl

end Start

section Life

variable {dec : Decoders} {seedFrom : UInt64 → Rng}

/-- An event is a start, or a call of the engine that runs, if one does. -/
theorem world_cases {w w' : World} {ev : WorldEvent} (h : w.step dec seedFrom ev = some w') :
    (∃ cfg boot now io r file, ev = .restart cfg boot now io ∧
      DaemonEngine.red dec seedFrom cfg boot now io w.file = some (r, file) ∧
      w'.engine = r.toOption ∧ w'.file = file) ∨
    (w'.engine = w.engine ∧ w'.file = w.file) ∨
    ∃ e call out, w.engine = some e ∧ DaemonCall.apply seedFrom (e, w.file) call = some out ∧
      w'.engine = some out.1 ∧ w'.file = out.2 := by
  cases ev with
  | restart cfg boot now io =>
    unfold World.step at h
    dsimp only at h
    split at h
    · cases h
    · next r file hred =>
      obtain rfl := Option.some.inj h
      exact .inl ⟨cfg, boot, now, io, r, file, rfl, hred, rfl, rfl⟩
  | redTick run io =>
    unfold World.step at h
    dsimp only at h
    split at h
    · exact .inr (.inl (Option.some.inj h ▸ ⟨rfl, rfl⟩))
    · next e he =>
      -- a call of an engine that is down does nothing
      obtain ⟨out, htick, rfl⟩ := Option.map_eq_some_iff.mp h
      exact .inr (.inr ⟨e, .redTick run io, out, he, htick, rfl, rfl⟩)
  | remap cfg src order evicted io =>
    unfold World.step at h
    dsimp only at h
    split at h
    · exact .inr (.inl (Option.some.inj h ▸ ⟨rfl, rfl⟩))
    · next e he =>
      obtain ⟨out, hremap, rfl⟩ := Option.map_eq_some_iff.mp h
      refine .inr (.inr ⟨e, .remap cfg src order evicted io, out.2, he, ?_, rfl, rfl⟩)
      rw [DaemonCall.apply, hremap]
      rfl
  | promote content now io =>
    unfold World.step at h
    dsimp only at h
    split at h
    · exact .inr (.inl (Option.some.inj h ▸ ⟨rfl, rfl⟩))
    · next e he =>
      obtain ⟨out, hpromote, rfl⟩ := Option.map_eq_some_iff.mp h
      refine .inr (.inr ⟨e, .promote content now io, out.2, he, ?_, rfl, rfl⟩)
      rw [DaemonCall.apply, hpromote]
      rfl

/-- The work of a call keeps what the file holds. -/
theorem Worked.keeps {e : DaemonEngine} {file : LedgerFile} {out : DaemonEngine × LedgerFile}
    (h : Worked e file out) (hfile : file.Loads) (hschema : e.tail.schema = schemaVersion)
    (hlags : file.Keeps (.json e.stored)) :
    out.2.Loads ∧ file.Keeps out.2 ∧ out.1.tail.schema = schemaVersion ∧
      out.2.Keeps (.json out.1.stored) ∧ ((e.dirty = false → file.Has e.stored) →
        out.1.dirty = false → out.2.Has out.1.stored) := by
  cases h with
  | @kept e' h =>
    refine ⟨hfile, .refl file, h.schema.trans hschema, ?_, fun hclean hdirty => ?_⟩
    · exact hlags.trans fun p hp => ⟨_, rfl, LedgerFile.json.inj hp ▸ h.adds.keeps⟩
    · obtain ⟨hbefore, hback⟩ := h.clean hdirty
      exact (hclean hbefore).of_keeps hback
  | @saved e₁ h =>
    refine ⟨.inr ⟨_, rfl, (h.schema.trans hschema).le⟩, ?_, h.schema.trans hschema, .refl _,
      fun _ _ => .refl _⟩
    exact hlags.trans fun p hp => ⟨_, rfl, LedgerFile.json.inj hp ▸ h.adds.keeps⟩

/-- **One event loses nothing of the file**, and leaves an engine without a mark in step with it. -/
theorem Durable.step {w w' : World} {ev : WorldEvent} (h : Durable w)
    (hstep : w.step dec seedFrom ev = some w') :
    Durable w' ∧ w.file.Keeps w'.file ∧ (Pins w ev → Clean w → Clean w') := by
  rcases world_cases hstep with ⟨cfg, boot, now, io, r, file, rfl, hred, hengine, hfile⟩ |
    ⟨hengine, hfile⟩ | ⟨e, call, out, he, hcall, hengine, hfile⟩
  -- a start takes its session from the file
  · obtain ⟨hloads, hkeeps, hsession⟩ := red_durable h.loads hred
    refine ⟨⟨hfile ▸ hloads, fun e he => ?_, fun e he => ?_⟩, hfile ▸ hkeeps,
      fun hpins _ e he _ => ?_⟩
    · rw [hengine] at he
      exact (hsession e he).1
    · rw [hengine] at he
      rw [hfile]
      exact (hsession e he).2.1
    · rw [hengine] at he
      rw [hfile]
      exact (hsession e he).2.2 hpins
  · refine ⟨⟨hfile ▸ h.loads, hengine ▸ h.schema, ?_⟩, hfile ▸ .refl _, fun _ hclean => ?_⟩
    · rw [hengine, hfile]
      exact h.lags
    · unfold Clean
      rw [hengine, hfile]
      exact hclean
  -- a call marks what it adds, and saves or leaves the file
  · obtain ⟨hloads, hkeeps, hschema, hlags, hclean⟩ := (apply_marked hcall).keeps h.loads
      (h.schema e he) (h.lags e he)
    refine ⟨⟨hfile ▸ hloads, fun e' he' => ?_, fun e' he' => ?_⟩, hfile ▸ hkeeps,
      fun _ hbefore e' he' hdirty => ?_⟩
    · obtain rfl := Option.some.inj (hengine.symm.trans he')
      exact hschema
    · obtain rfl := Option.some.inj (hengine.symm.trans he')
      rw [hfile]
      exact hlags
    · obtain rfl := Option.some.inj (hengine.symm.trans he')
      rw [hfile]
      exact hclean (hbefore e he) hdirty

/-- The invariant of a run, with what it keeps of the file it began with. -/
theorem Durable.run {w w' : World} {events : List WorldEvent} (h : Durable w)
    (hrun : runWorld dec seedFrom w events = some w') : Durable w' ∧ w.file.Keeps w'.file :=
  runAll_preserves (P := fun w' => Durable w' ∧ w.file.Keeps w'.file)
    (fun _ _ _ hw hstep => ⟨(hw.1.step hstep).1, hw.2.trans (hw.1.step hstep).2.1⟩)
    ⟨h, .refl _⟩ hrun

theorem durable_down {file : LedgerFile} (hfile : file.Loads) : Durable (.down file) :=
  ⟨hfile, nofun, nofun⟩

end Life

end TurboLaser
