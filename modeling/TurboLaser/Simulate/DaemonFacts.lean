import TurboLaser.Simulate.Daemon

/-!
# What a call of the daemon does to its ledger file

Every call either leaves the file as it was or replaces it by the session of the engine.
Which of the two is decided before the call: `Saves` says when a call gets as far as
`persist_if_dirty` with something recorded, and the disk takes the write.

- `redTick_refines`, `remapIntoSession_refines`: **a call computes what the engine without a
  file computes**;
- `apply_file`: **the file after a call**;
- `daemonTick_frame`, `daemonRemap_frame`: a tick and a remap leave the promotions alone.
-/

namespace TurboLaser

open Lib Scenario

/-! ## Saving -/

/-- Saving changes nothing but the mark. -/
theorem persistIfDirty_frame (e : DaemonEngine) (io : Io) (file : LedgerFile) :
    (e.persistIfDirty io file).1.core = e.core ∧ (e.persistIfDirty io file).1.tail = e.tail ∧
      (e.persistIfDirty io file).1.scheduler = e.scheduler := by
  unfold DaemonEngine.persistIfDirty
  split <;> exact ⟨rfl, rfl, rfl⟩

/-- **`persist_if_dirty`** writes the session, or leaves the file. -/
theorem persistIfDirty_cases (e : DaemonEngine) (io : Io) (file : LedgerFile) :
    ((e.dirty = true ∧ io.ledger = true) ∧
      (e.persistIfDirty io file).2 = .json (e.persistIfDirty io file).1.stored) ∨
    (¬ (e.dirty = true ∧ io.ledger = true) ∧ (e.persistIfDirty io file).2 = file) := by
  unfold DaemonEngine.persistIfDirty StoredSession.saveAtomic
  cases e.dirty with
  | false => exact Or.inr ⟨fun h => Bool.false_ne_true h.1, rfl⟩
  | true =>
    cases io.ledger with
    | false => exact Or.inr ⟨fun h => Bool.false_ne_true h.2, rfl⟩
    | true => exact Or.inl ⟨⟨rfl, rfl⟩, rfl⟩

theorem settle_frame (cfg : Config) (e : DaemonEngine) (assets : List NewCaptureAsset) (io : Io)
    (file : LedgerFile) :
    (e.settle cfg assets io file).1.core = (e.registered cfg assets).core ∧
      (e.settle cfg assets io file).1.tail = e.tail ∧
      (e.settle cfg assets io file).1.scheduler = e.scheduler := by
  unfold DaemonEngine.settle
  split
  · exact ⟨rfl, rfl, rfl⟩
  · exact persistIfDirty_frame (e.registered cfg assets) io file

/-! ## What a call does

Three inversion lemmas, one for each call. Each case names the state the call found and the state it
left, with the guards that led there, so that later proofs do not unfold a call again. What is saved
is left to the next section.
-/

/-- **A tick**: it is off, or it grows the plant and saves. -/
inductive DaemonTicked (e : DaemonEngine) (run : Nat) (io : Io) (file : LedgerFile) :
    DaemonEngine × LedgerFile → Prop
  | off (hoff : e.core.synthEnabled = false) : DaemonTicked e run io file (e, file)
  | grew {grown added simRng} (hon : e.core.synthEnabled = true)
      (hgrow : e.growPlant = some (grown, added, simRng)) :
      DaemonTicked e run io file ((e.ticked run grown added simRng).persistIfDirty io file)

theorem daemonTick_cases {e : DaemonEngine} {run : Nat} {io : Io} {file : LedgerFile}
    {out : DaemonEngine × LedgerFile} (h : e.redTick run io file = some out) :
    DaemonTicked e run io file out := by
  unfold DaemonEngine.redTick at h
  split at h
  · next hon =>
    split at h
    · cases h
    · next hgrow =>
      obtain rfl := Option.some.inj h
      exact .grew hon hgrow
  · next hoff =>
    obtain rfl := Option.some.inj h
    exact .off (Bool.eq_false_iff.mpr hoff)

/-- A remap gets as far as the reconcile: the size is allowed, nothing is cached, and the capture
can be read. -/
def DaemonEngine.reconciles (cfg : Config) (e : DaemonEngine) (src : Source) : Bool :=
  !decide (cfg.l3.maxRemapBytes < src.size) &&
    !decide (src.toDisk = true ∧ cfg.l3.onOversize = .skip) &&
    !decide (cachePath cfg e.core.ledger src ∈ e.core.cache) && src.content.isOk

/-- **A remap**: it stops early, or it settles the registry; its capture is then written or
not. -/
inductive DaemonRemapped (seedFrom : UInt64 → Rng) (cfg : Config) (e : DaemonEngine) (src : Source)
    (order : HashOrder) (evicted : List CacheKey) (io : Io) (file : LedgerFile) :
    Except String CacheKey × DaemonEngine × LedgerFile → Prop
  | stopped {r} (hstop : e.reconciles cfg src = false) :
      DaemonRemapped seedFrom cfg e src order evicted io file (r, e, file)
  | settled {cap written assets e' file' r} (cache : Memo CacheKey Capture)
      (hgoes : e.reconciles cfg src = true) (hcontent : src.content = .ok cap)
      (hremap : remapUnder seedFrom cfg e.core.ledger e.core.oui cap order = some (written, assets))
      (hsettle : e.settle cfg assets io file = (e', file')) :
      DaemonRemapped seedFrom cfg e src order evicted io file
        (r, { e' with core := { e'.core with cache } }, file')

theorem daemonRemap_cases {seedFrom : UInt64 → Rng} {cfg : Config} {e : DaemonEngine} {src : Source}
    {order : HashOrder} {evicted : List CacheKey} {io : Io} {file : LedgerFile}
    {out : Except String CacheKey × DaemonEngine × LedgerFile}
    (h : e.remapIntoSession seedFrom cfg src order evicted io file = some out) :
    DaemonRemapped seedFrom cfg e src order evicted io file out := by
  unfold DaemonEngine.remapIntoSession at h
  split at h
  · next hbig =>
    obtain rfl := Option.some.inj h
    exact .stopped (by simp [DaemonEngine.reconciles, hbig])
  · next hsize =>
    split at h
    · next hskip =>
      obtain rfl := Option.some.inj h
      exact .stopped (by simp [DaemonEngine.reconciles, hskip])
    · next hdisk =>
      dsimp only at h
      split at h
      · next hhit =>
        obtain rfl := Option.some.inj h
        exact .stopped (by simp [DaemonEngine.reconciles, hhit])
      · next hmiss =>
        split at h
        · next herr =>
          obtain rfl := Option.some.inj h
          exact .stopped (by simp [DaemonEngine.reconciles, herr, Except.isOk, Except.toBool])
        · next cap hcap =>
          -- no early return was taken, so the reconcile is made
          have hgoes : e.reconciles cfg src = true := by
            simp only [DaemonEngine.reconciles, hcap, hsize, hdisk, hmiss, Except.isOk,
              Except.toBool, decide_false, Bool.not_false, Bool.and_self]
          split at h
          · cases h
          · next written assets hremap =>
            cases hsettle : e.settle cfg assets io file with
            | mk e' file' =>
              rw [hsettle] at h
              dsimp only at h
              split at h
              · obtain rfl := Option.some.inj h
                exact .settled e'.core.cache hgoes hcap hremap hsettle
              · split at h
                · obtain rfl := Option.some.inj h
                  exact .settled e'.core.cache hgoes hcap hremap hsettle
                · obtain rfl := Option.some.inj h
                  exact .settled _ hgoes hcap hremap hsettle

/-- A promotion is made: it is due, the capture is readable and has somebody to promote, and it
can be written. -/
def DaemonEngine.Promotes (e : DaemonEngine) (content : Except String Capture) (now : UInt64)
    (io : Io) : Prop :=
  e.threatsEnabled = true ∧ e.scheduler.due now = true ∧ io.dirs = true ∧ io.pcap = true ∧
    ∃ cap, content = .ok cap ∧ Promotable cap e.externalCidrs

/-- **A promotion**: it is not due, or it is missed, or it is made; unless it is not due, the
scheduler waits from now on. -/
inductive DaemonPromoted (e : DaemonEngine) (content : Except String Capture) (now : UInt64)
    (io : Io) (file : LedgerFile) : Option PromotedHost × DaemonEngine × LedgerFile → Prop
  | idle (hidle : ¬ e.Promotes content now io) : DaemonPromoted e content now io file (none, e, file)
  | missed {scheduler simRng} (hmiss : ¬ e.Promotes content now io)
      (hdue : e.scheduler.due now = true) (hwaits : scheduler.Waits now) :
      DaemonPromoted e content now io file (none, { e with scheduler, simRng }, file)
  | made {scheduler simRng record} (hmade : e.Promotes content now io)
      (hwaits : scheduler.Waits now) (hrecord : record.promotedUnix = now) :
      DaemonPromoted e content now io file (some record,
        (DaemonEngine.recorded { e with scheduler, simRng } record now).persistIfDirty io file)

theorem daemonPromote_cases {e : DaemonEngine} {content : Except String Capture} {now : UInt64}
    {io : Io} {file : LedgerFile} {out : Option PromotedHost × DaemonEngine × LedgerFile}
    (h : e.maybePromote content now io file = some out) :
    DaemonPromoted e content now io file out := by
  unfold DaemonEngine.maybePromote at h
  split at h
  · next hoff =>
    obtain rfl := Option.some.inj h
    refine .idle fun hp => ?_
    rcases hoff with hoff | hoff
    · exact absurd (hoff.symm.trans hp.1) Bool.false_ne_true
    · exact absurd (hoff.symm.trans hp.2.1) Bool.false_ne_true
  · next hon =>
    rw [not_or, Bool.not_eq_false, Bool.not_eq_false] at hon
    obtain ⟨henabled, hdue⟩ := hon
    split at h
    · -- the capture cannot be read
      split at h
      · cases h
      · next hschedule =>
        obtain rfl := Option.some.inj h
        refine .missed ?_ hdue (ThreatScheduler.waits_of_schedule hschedule)
        rintro ⟨-, -, -, -, cap, hcap, -⟩
        cases hcap
    · next cap =>
      dsimp only at h
      split at h
      · cases h
      · next hschedule =>
        have hwaits := ThreatScheduler.waits_of_schedule hschedule
        split at h
        · next hnone =>
          obtain rfl := Option.some.inj h
          refine .missed ?_ hdue hwaits
          rintro ⟨-, -, -, -, cap', hcap, hpromotable⟩
          cases hcap
          have hsome : (promoteHost cap e.externalCidrs e.core.oui now e.simRng).1.isSome = true :=
            promoteHost_isSome_iff.mpr hpromotable
          rw [hnone] at hsome
          cases hsome
        -- there is a promotion; it is made if both the directory and the capture can be written
        · next record out' hrecord =>
          have hsome : (promoteHost cap e.externalCidrs e.core.oui now e.simRng).1.isSome = true := by
            rw [hrecord]
            rfl
          have hpromotable := promoteHost_isSome_iff.mp hsome
          split at h
          · next hio =>
            obtain rfl := Option.some.inj h
            refine .missed ?_ hdue hwaits
            rintro ⟨-, -, hdirs, hpcap, -⟩
            rcases hio with hio | hio
            · exact absurd (hio.symm.trans hdirs) Bool.false_ne_true
            · exact absurd (hio.symm.trans hpcap) Bool.false_ne_true
          · next hio =>
            rw [not_or, Bool.not_eq_false, Bool.not_eq_false] at hio
            obtain rfl := Option.some.inj h
            exact .made ⟨henabled, hdue, hio.1, hio.2, cap, rfl, hpromotable⟩ hwaits
              (promotedUnix_of_promoteHost hrecord)

/-! ## Refinement -/

/-- **A tick of the daemon is a tick of the engine.** -/
theorem redTick_refines {e e' : DaemonEngine} {run : Nat} {io : Io} {file file' : LedgerFile}
    (h : e.redTick run io file = some (e', file')) :
    e.core.redTick run e.simRng = some e'.core := by
  have hgrow : e.core.growPlant e.simRng = e.growPlant.map fun r => (r.1, r.2.1) := by
    unfold SimulatorEngine.growPlant DaemonEngine.growPlant
    split <;> rfl
  unfold SimulatorEngine.redTick
  generalize hout : (e', file') = out at h
  cases daemonTick_cases h with
  | off hoff =>
    obtain ⟨rfl, -⟩ := Prod.mk.inj hout
    rw [if_neg (by rw [hoff]; exact Bool.false_ne_true)]
  | @grew grown added simRng hon hgrown =>
    have he : e' = ((e.ticked run grown added simRng).persistIfDirty io file).1 :=
      congrArg Prod.fst hout
    rw [if_pos hon, hgrow, hgrown, he, (persistIfDirty_frame _ _ _).1]
    simp only [Option.map_some, DaemonEngine.ticked, SimulatorEngine.renameDue, decide_eq_true_eq]

/-- **A remap of the daemon is a remap of the engine**, when its capture can be written. -/
theorem remapIntoSession_refines {seedFrom : UInt64 → Rng} {cfg : Config} {e e' : DaemonEngine}
    {src : Source} {order : HashOrder} {evicted : List CacheKey} {io : Io} {file file' : LedgerFile}
    {r : Except String CacheKey} (hdirs : io.dirs = true) (hpcap : io.pcap = true)
    (h : e.remapIntoSession seedFrom cfg src order evicted io file = some (r, e', file')) :
    e.core.remapIntoSession seedFrom cfg src order evicted = some (r, e'.core) := by
  unfold DaemonEngine.remapIntoSession at h
  unfold SimulatorEngine.remapIntoSession
  split at h
  · next hbig =>
    cases h
    rw [if_pos hbig]
  · next hsize =>
    rw [if_neg hsize]
    split at h
    · next hskip =>
      cases h
      rw [if_pos hskip]
    · next hdisk =>
      rw [if_neg hdisk]
      dsimp only at h ⊢
      split at h
      · next hhit =>
        cases h
        rw [if_pos hhit]
      · next hmiss =>
        rw [if_neg hmiss]
        cases hcontent : src.content with
        | error err =>
          rw [hcontent] at h
          cases h
          rfl
        | ok cap =>
          rw [hcontent] at h
          dsimp only at h ⊢
          cases hremap : remapUnder seedFrom cfg e.core.ledger e.core.oui cap order with
          | none =>
            rw [hremap] at h
            cases h
          | some out =>
            obtain ⟨written, assets⟩ := out
            -- the daemon settles the ledger before it writes the capture, the engine in one step
            have hcore := (settle_frame cfg e assets io file).1
            cases hsettle : e.settle cfg assets io file with
            | mk e₁ file₁ =>
              rw [hremap] at h
              dsimp only at h ⊢
              rw [hsettle] at h hcore
              dsimp only at h hcore
              rw [hdirs, hpcap, if_neg Bool.noConfusion, if_neg Bool.noConfusion] at h
              cases h
              dsimp only
              rw [hcore]
              rfl

/-! ## The file

Whether a call changes the file is decided by a mark and by the disk. The mark is set when something
was added, or is left from an earlier save that failed. `apply_file` is the only fact that is used
of the file later: after a call it is the session of the engine or what it was.
-/

/-- A tick leaves something to save: a device was added, or the zones are renamed, or an earlier
save failed. -/
def DaemonEngine.tickDirty (e : DaemonEngine) (run : Nat) : Bool :=
  match e.growPlant with
  | none => false
  | some (grown, added, simRng) => (e.ticked run grown added simRng).dirty

/-- A remap leaves something to save: a host was registered, or an earlier save failed. -/
def DaemonEngine.remapDirty (seedFrom : UInt64 → Rng) (cfg : Config) (e : DaemonEngine)
    (src : Source) (order : HashOrder) : Bool :=
  match src.content with
  | .error _ => false
  | .ok cap =>
    match remapUnder seedFrom cfg e.core.ledger e.core.oui cap order with
    | none => false
    | some (_, assets) => (e.registered cfg assets).dirty

/-- A call saves: it gets to `persist_if_dirty` with something to save, and the disk takes the
write. -/
def Saves (seedFrom : UInt64 → Rng) (e : DaemonEngine) : DaemonCall → Prop
  | .redTick run io => e.core.synthEnabled = true ∧ e.tickDirty run = true ∧ io.ledger = true
  | .remap cfg src order _ io =>
    e.reconciles cfg src = true ∧ e.core.ledger.zoneTargets ≠ [] ∧
      e.remapDirty seedFrom cfg src order = true ∧ io.ledger = true
  | .promote content now io => e.Promotes content now io ∧ io.ledger = true

/-- **The file after a call**: the session of the engine if the call saves, and else what it
was. -/
theorem apply_file {seedFrom : UInt64 → Rng} {e : DaemonEngine} {file : LedgerFile}
    {call : DaemonCall} {out : DaemonEngine × LedgerFile}
    (h : call.apply seedFrom (e, file) = some out) :
    (Saves seedFrom e call ∧ out.2 = .json out.1.stored) ∨
      (¬ Saves seedFrom e call ∧ out.2 = file) := by
  cases call with
  | redTick run io =>
    cases daemonTick_cases h with
    | off hoff => exact Or.inr ⟨fun hs => Bool.false_ne_true (hoff.symm.trans hs.1), rfl⟩
    | @grew grown added simRng hon hgrow =>
      -- a save is owed where the engine is dirty, and made where the disk also takes it
      have hdirty : e.tickDirty run = (e.ticked run grown added simRng).dirty := by
        rw [DaemonEngine.tickDirty, hgrow]
      have hpersist := persistIfDirty_cases (e.ticked run grown added simRng) io file
      rw [← hdirty] at hpersist
      rcases hpersist with ⟨hsaves, hfile⟩ | ⟨hkeeps, hfile⟩
      · exact Or.inl ⟨⟨hon, hsaves⟩, hfile⟩
      · exact Or.inr ⟨fun hs => hkeeps hs.2, hfile⟩
  | remap cfg src order evicted io =>
    obtain ⟨⟨r, out'⟩, hremap, rfl⟩ := Option.map_eq_some_iff.mp h
    cases daemonRemap_cases hremap with
    | stopped hstop => exact Or.inr ⟨fun hs => Bool.false_ne_true (hstop.symm.trans hs.1), rfl⟩
    | @settled cap written assets e' file' r cache hgoes hcontent hunder hsettle =>
      have hdirty : e.remapDirty seedFrom cfg src order = (e.registered cfg assets).dirty := by
        rw [DaemonEngine.remapDirty, hcontent]
        dsimp only
        rw [hunder]
      unfold DaemonEngine.settle at hsettle
      split at hsettle
      -- without zones nothing is settled, and so nothing saved
      · next hzones =>
        obtain ⟨rfl, rfl⟩ := Prod.mk.inj hsettle
        exact Or.inr ⟨fun hs => hs.2.1 hzones, rfl⟩
      · next hzones =>
        have hpersist := persistIfDirty_cases (e.registered cfg assets) io file
        rw [← hdirty, hsettle] at hpersist
        rcases hpersist with ⟨hsaves, hfile⟩ | ⟨hkeeps, hfile⟩
        · exact Or.inl ⟨⟨hgoes, hzones, hsaves⟩, hfile⟩
        · exact Or.inr ⟨fun hs => hkeeps hs.2.2, hfile⟩
  | promote content now io =>
    obtain ⟨⟨record, out'⟩, hpromote, rfl⟩ := Option.map_eq_some_iff.mp h
    cases daemonPromote_cases hpromote with
    | idle hidle => exact Or.inr ⟨fun hs => hidle hs.1, rfl⟩
    | missed hmiss hdue hwaits => exact Or.inr ⟨fun hs => hmiss hs.1, rfl⟩
    | @made scheduler simRng record hmade hwaits hrecord =>
      rcases persistIfDirty_cases (DaemonEngine.recorded { e with scheduler, simRng } record now) io
        file with ⟨hsaves, hfile⟩ | ⟨hkeeps, hfile⟩
      · exact Or.inl ⟨⟨hmade, hsaves.2⟩, hfile⟩
      · exact Or.inr ⟨fun hs => hkeeps ⟨rfl, hs.2⟩, hfile⟩

/-- A call that saves comes back. -/
theorem apply_isSome_of_saves {seedFrom : UInt64 → Rng} {e : DaemonEngine} (file : LedgerFile)
    {call : DaemonCall} (h : Saves seedFrom e call) :
    (call.apply seedFrom (e, file)).isSome = true := by
  cases call with
  | redTick run io =>
    obtain ⟨hon, hdirty, -⟩ := h
    rw [DaemonCall.apply, DaemonEngine.redTick, if_pos hon]
    rw [DaemonEngine.tickDirty] at hdirty
    split at hdirty
    · cases hdirty
    · next hgrow =>
      rw [hgrow]
      rfl
  | remap cfg src order evicted io =>
    obtain ⟨hgoes, -, hdirty, -⟩ := h
    simp only [DaemonEngine.reconciles, Bool.and_eq_true, Bool.not_eq_true', decide_eq_false_iff_not]
      at hgoes
    obtain ⟨⟨⟨hsize, hdisk⟩, hmiss⟩, -⟩ := hgoes
    rw [DaemonEngine.remapDirty] at hdirty
    split at hdirty
    · cases hdirty
    · next hcontent =>
      split at hdirty
      · cases hdirty
      · next hunder =>
        rw [DaemonCall.apply, DaemonEngine.remapIntoSession, if_neg hsize, if_neg hdisk]
        dsimp only
        rw [if_neg hmiss, hcontent]
        dsimp only
        rw [hunder]
        dsimp only
        split
        · rfl
        · split <;> rfl
  | promote content now io =>
    obtain ⟨⟨henabled, hdue, hdirs, hpcap, cap, rfl, hpromotable⟩, -⟩ := h
    rw [DaemonCall.apply, DaemonEngine.maybePromote, henabled, hdue, if_neg (by simp)]
    dsimp only
    -- a promotion draws the next due time, and that draw never fails
    obtain ⟨s', rng', hschedule, -⟩ := ThreatScheduler.schedule_spec e.scheduler now
      (promoteHost cap e.externalCidrs e.core.oui now e.simRng).2
    rw [ThreatScheduler.reschedule, hschedule]
    dsimp only
    split
    · rfl
    · split <;> rfl

/-! ## The rest of the session -/

/-- A tick leaves the promotions alone. -/
theorem daemonTick_frame {e : DaemonEngine} {run : Nat} {io : Io} {file : LedgerFile}
    {out : DaemonEngine × LedgerFile} (h : e.redTick run io file = some out) :
    out.1.tail = e.tail ∧ out.1.scheduler = e.scheduler := by
  cases daemonTick_cases h with
  | off hoff => exact ⟨rfl, rfl⟩
  | @grew grown added simRng hon hgrow =>
    exact (persistIfDirty_frame (e.ticked run grown added simRng) io file).2

/-- A remap leaves the promotions alone. -/
theorem daemonRemap_frame {seedFrom : UInt64 → Rng} {cfg : Config} {e : DaemonEngine} {src : Source}
    {order : HashOrder} {evicted : List CacheKey} {io : Io} {file : LedgerFile}
    {out : Except String CacheKey × DaemonEngine × LedgerFile}
    (h : e.remapIntoSession seedFrom cfg src order evicted io file = some out) :
    out.2.1.tail = e.tail ∧ out.2.1.scheduler = e.scheduler := by
  cases daemonRemap_cases h with
  | stopped hstop => exact ⟨rfl, rfl⟩
  | @settled cap written assets e' file' r cache hgoes hcontent hunder hsettle =>
    have hframe := (settle_frame cfg e assets io file).2
    rw [hsettle] at hframe
    exact hframe

/-- No call changes the schema of the session. -/
theorem apply_schema {seedFrom : UInt64 → Rng} {e : DaemonEngine} {file : LedgerFile}
    {call : DaemonCall} {out : DaemonEngine × LedgerFile}
    (h : call.apply seedFrom (e, file) = some out) : out.1.tail.schema = e.tail.schema := by
  cases call with
  | redTick run io => rw [(daemonTick_frame h).1]
  | remap cfg src order evicted io =>
    obtain ⟨⟨r, out'⟩, hremap, rfl⟩ := Option.map_eq_some_iff.mp h
    rw [(daemonRemap_frame hremap).1]
  | promote content now io =>
    obtain ⟨⟨record, out'⟩, hpromote, rfl⟩ := Option.map_eq_some_iff.mp h
    cases daemonPromote_cases hpromote with
    | idle hidle => rfl
    | missed hmiss hdue hwaits => rfl
    | @made scheduler simRng record hmade hwaits hrecord =>
      rw [(persistIfDirty_frame _ io file).2.1]
      rfl

end TurboLaser
