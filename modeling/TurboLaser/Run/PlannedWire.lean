import TurboLaser.Run.LoopFacts
import TurboLaser.Simulate.Planned

/-!
# What the daemon sends is in its plan

`validate` asks for the remap in red laser, "plan==wire". Over a whole run, then, no capture goes
out as it was found: every one is a remap within the plan, or the promotion of a host of such a
remap, and what the plan shows it shows to the end.

The log remembers where a capture that was sent came from, and the frames it had. A remap may be
read from the cache, which was filled in an earlier turn, or in an earlier life of the daemon; so
that it is within the plan is an invariant of the cache (`Planning`), which a start over an empty
directory has. The plan only grows, so what was within it once is within it at the end, and the
statement can be made about the ledger at the end of the run.

- `Output.Planned`: what may be in the log;
- `prepare_planned`: the first half of a turn: a capture that is sent was remapped, and one whose
  remap fails is not sent;
- `planned_wire`: **the whole run.** Before any zone exists a capture is remapped into 10/8 without
  a plan; the theorem says for which ledgers that may be.
-/

namespace TurboLaser

open Lib Scenario

/-! ## The calls -/

/-- Calls keep the plan, and extend it. -/
theorem CallsMade.planning {seedFrom : UInt64 → Rng} {made : DaemonCall → Prop} {unzoned : Prop}
    {e : LoopEngine} {engine : Option LoopEngine} {file file' : LedgerFile}
    (h : CallsMade seedFrom made (some e) file engine file')
    (hplan : Planning unzoned e.toDaemonEngine) :
    ∃ e', engine = some e' ∧ Planning unzoned e'.toDaemonEngine ∧
      e.toDaemonEngine.Extends e'.toDaemonEngine := by
  cases engine with
  | none => exact h.elim
  | some e' =>
    refine ⟨e', rfl, ?_⟩
    exact CallsMade.invariant
      (P := fun d _ => Planning unzoned d ∧ e.toDaemonEngine.Extends d)
      (fun d file c d' file' hd _ happly =>
        ⟨hd.1.apply happly, hd.2.trans (apply_extends happly)⟩) h ⟨hplan, .refl _⟩

/-- A promotion that is recorded is one of the capture it was given. -/
theorem maybePromote_record {e : DaemonEngine} {content : Except String Capture} {now : UInt64}
    {io : Io} {file : LedgerFile} {record : PromotedHost} {out : DaemonEngine × LedgerFile}
    (h : e.maybePromote content now io file = some (some record, out)) :
    ∃ cap promoted, content = .ok cap ∧
      (promoteHost cap e.externalCidrs e.core.oui now e.simRng).1 = some (record, promoted) := by
  unfold DaemonEngine.maybePromote at h
  split at h
  · cases Option.some.inj (congrArg (Option.map Prod.fst) h)
  · split at h
    · split at h
      · cases h
      · cases Option.some.inj (congrArg (Option.map Prod.fst) h)
    · next cap =>
      dsimp only at h
      split at h
      · cases h
      · split at h
        · cases Option.some.inj (congrArg (Option.map Prod.fst) h)
        · next made promoted hpromote =>
          split at h
          · cases Option.some.inj (congrArg (Option.map Prod.fst) h)
          · have hrecord := Option.some.inj (congrArg (Option.map Prod.fst) h)
            obtain rfl := Option.some.inj hrecord
            exact ⟨cap, promoted, rfl, hpromote⟩

/-! ## What may be sent -/

section Wire

variable {F : Type}

/-- **What may be in the log**: remaps within the plan, and promotions that add the one external
address on record. The guard against public addresses never has to step in. -/
def Output.Planned (unzoned : Prop) (e : DaemonEngine) : Output F → Prop
  | .heartbeat s => s.state ≠ .skippedPublicSource
  | .replay .raw _ => False
  | .replay .remapped content =>
    ∃ cap, content = .ok cap ∧ CaptureWithin (TurboLaser.Planned unzoned e.core.ledger) cap
  | .replay .promoted content =>
    ∃ cap, content = .ok cap ∧ ∃ r ∈ e.tail.promoted,
      CaptureWithin (fun a => TurboLaser.Planned unzoned e.core.ledger a ∨ a = r.externalIp) cap
  | .burst _ _ => True

theorem Output.Planned.extends {unzoned : Prop} {e e' : DaemonEngine} {o : Output F}
    (h : o.Planned unzoned e) (hextends : e.Extends e') : o.Planned unzoned e' := by
  cases o with
  | heartbeat s => exact h
  | burst now content => exact trivial
  | replay origin content =>
    cases origin with
    | raw => exact h
    | remapped =>
      obtain ⟨cap, hcap, hwithin⟩ := h
      exact ⟨cap, hcap, hwithin.mono (TurboLaser.Planned.extends hextends.ledger)⟩
    | promoted =>
      obtain ⟨cap, hcap, r, hr, hwithin⟩ := h
      exact ⟨cap, hcap, r, hextends.promoted.subset hr,
        hwithin.mono fun a => Or.imp_left (TurboLaser.Planned.extends hextends.ledger a)⟩

end Wire

/-! ## The first half of a turn

In red laser with the remap on, a turn sends a remap or a promotion, or it sends nothing: the path
on which the chosen file goes out as it is does not exist. `validate` asks for the remap, which is
why the hypothesis of the run theorem is a configuration that passes.
-/

section Prepare

variable {F : Type} {seedFrom : UInt64 → Rng} {cfg : LoopConfig F} {t : Turn F} {chosen : PcapFile}
  {unzoned : Prop} {e : LoopEngine} {engine : Option LoopEngine} {file file' : LedgerFile}

/-- In red laser with the remap on, a turn remaps its capture or skips it. -/
theorem remapTurn_red (hmode : cfg.mode = .redLaser) (hremap : cfg.l3.remap = true)
    {remapped : Option CacheKey} {l3Seed : Option UInt64}
    (h : remapTurn seedFrom cfg t chosen (some e) file =
      some (.ok (remapped, l3Seed), engine, file')) :
    ∃ key e', remapped = some key ∧ engine = some e' ∧ key ∈ e'.core.cache := by
  unfold remapTurn at h
  dsimp only at h
  rw [if_pos ⟨hmode, hremap⟩] at h
  split at h
  · cases h
  · next key d file₁ hcall =>
    obtain ⟨hr, h⟩ := Prod.mk.inj (Option.some.inj h)
    obtain ⟨rfl, -⟩ := Prod.mk.inj h
    obtain ⟨rfl, -⟩ := Prod.mk.inj (Except.ok.inj hr)
    exact ⟨key, e.withDaemon d, rfl, rfl, (daemonRemap_cached hcall).mem⟩
  · obtain ⟨hr, -⟩ := Prod.mk.inj (Option.some.inj h)
    cases hr

/-- What a promotion brings to the wire. -/
theorem promoteTurn_planned (unzoned : Prop) {content : Except String Capture} {promoted : Option Capture}
    (hcontent : ∀ cap, content = .ok cap →
      CaptureWithin (Planned unzoned e.core.ledger) cap)
    (h : promoteTurn t content (some e) file = some (promoted, engine, file')) :
    ∃ e', engine = some e' ∧ e'.core = e.core ∧ ∀ cap, promoted = some cap →
      ∃ r ∈ e'.tail.promoted,
        CaptureWithin (fun a => Planned unzoned e.core.ledger a ∨ a = r.externalIp) cap := by
  unfold promoteTurn at h
  dsimp only at h
  split at h
  · cases h
  · next record d file₁ hcall =>
    obtain ⟨hp, hout⟩ := Prod.mk.inj (Option.some.inj h)
    obtain ⟨rfl, -⟩ := Prod.mk.inj hout
    subst hp
    obtain ⟨hcore, hpromoted⟩ := daemonPromote_frame hcall
    refine ⟨e.withDaemon d, rfl, hcore, fun cap hcap => ?_⟩
    obtain ⟨r, rfl, hmade⟩ := Option.bind_eq_some_iff.mp hcap
    obtain ⟨source, out, rfl, hpromote⟩ := maybePromote_record hcall
    rw [DaemonEngine.promotedCapture, Except.toOption, Option.bind_some, hpromote] at hmade
    obtain rfl := Option.some.inj hmade
    refine ⟨r, ?_, within_promoteHost (hcontent source rfl) hpromote⟩
    show r ∈ d.tail.promoted
    rw [hpromoted]
    exact List.mem_append_right _ (List.mem_singleton_self r)

/-- **The first half of a turn**: a capture is skipped because its remap failed, or what is to be
sent is within the plan. -/
theorem prepare_planned (hmode : cfg.mode = .redLaser) (hremap : cfg.l3.remap = true)
    (hplan : Planning unzoned e.toDaemonEngine) (hchosen : chosen ∈ t.files) {p : Prepared}
    (h : prepare seedFrom cfg t chosen (some e) file = some (p, engine, file')) :
    ∃ e', engine = some e' ∧ match p with
      | .skipped why _ => why = .skippedRemapFailed
      | .ready send => (send.output chosen engine : Output F).Planned unzoned e'.toDaemonEngine := by
  unfold prepare at h
  split at h
  · cases h
  · next hturn =>
    -- the remap failed, and nothing is sent
    obtain ⟨e', he', -⟩ := (remapTurn_calls 0 hchosen hturn).planning hplan
    obtain ⟨hp, hout⟩ := Prod.mk.inj (Option.some.inj h)
    obtain ⟨rfl, -⟩ := Prod.mk.inj hout
    subst hp
    exact ⟨e', he', rfl⟩
  · next remapped l3Seed engine₁ file₁ hturn =>
    obtain ⟨e₁, he₁, hplan₁, -⟩ := (remapTurn_calls 0 hchosen hturn).planning hplan
    obtain ⟨key, e₁', rfl, he₁', hkey⟩ := remapTurn_red hmode hremap hturn
    rw [he₁] at he₁'
    obtain rfl := Option.some.inj he₁'
    subst he₁
    obtain ⟨cap, hcap⟩ := Option.isSome_iff_exists.mp (AList.lookup_isSome.mpr hkey)
    have hwithin := hplan₁.cache key cap hcap
    split at h
    · cases h
    · next promoted engine₂ file₂ hpromote =>
      obtain ⟨e₂, rfl, hcore, hpromoted⟩ := promoteTurn_planned unzoned
        (fun source hsource => by
          unfold fileToSend at hsource
          simp only [Option.bind_some] at hsource
          rw [hcap] at hsource
          dsimp only at hsource
          split at hsource
          · exact Except.ok.inj hsource ▸ hwithin
          · cases hsource) hpromote
      -- a capture was remapped, so the guard against sending it as it is does not matter here
      rw [if_neg fun hguard => Option.some_ne_none key hguard.2.2.1] at h
      obtain ⟨hp, hout⟩ := Prod.mk.inj (Option.some.inj h)
      obtain ⟨rfl, -⟩ := Prod.mk.inj hout
      subst hp
      refine ⟨e₂, rfl, ?_⟩
      unfold ToSend.output
      dsimp only
      cases promoted with
      | some made =>
        obtain ⟨r, hr, hmade⟩ := hpromoted made rfl
        refine ⟨made, rfl, r, hr, ?_⟩
        rwa [hcore]
      | none =>
        refine ⟨cap, ?_, ?_⟩
        · simp only [Option.bind_some]
          rw [hcore, hcap]
          rfl
        · rwa [hcore]

end Prepare

/-! ## The whole run

The plan grows along a run, by registered hosts and recorded promotions, and never shrinks. So what
was within the plan when it was sent stays within it, and it is enough to show of each turn that
what it sends is within the plan it leaves. The captures in the cache are part of the invariant, as
an old remap may be sent again.
-/

section Runs

variable {F : Type} {seedFrom : UInt64 → Rng} {cfg : LoopConfig F} {readF : List Char → Option F}
  {glob : GlobMatcher} {oui : OuiDb} {times : WatchdogTimes} {unzoned : Prop} {e₀ : DaemonEngine}

/-- **The invariant of the loop**: the engine extends the one it began with, keeps the plan, and
the log is within it. -/
def LoopState.Planned (unzoned : Prop) (e₀ : DaemonEngine) (st : LoopState F) : Prop :=
  ∃ e, st.engine = some e ∧ Planning unzoned e.toDaemonEngine ∧ e₀.Extends e.toDaemonEngine ∧
    ∀ o ∈ st.log, o.Planned unzoned e.toDaemonEngine

/-- Calls are made, and the log grows by what is within the plan they leave. -/
theorem LoopState.Planned.grows {made : DaemonCall → Prop} {st st' : LoopState F}
    (h : st.Planned unzoned e₀) (hcalls : st.CallsTo seedFrom made st') {new : List (Output F)}
    (hlog : st'.log = st.log ++ new)
    (hnew : ∀ e, st'.engine = some e → ∀ o ∈ new, o.Planned unzoned e.toDaemonEngine) :
    st'.Planned unzoned e₀ := by
  obtain ⟨e, hengine, hplan, hextends, hold⟩ := h
  unfold LoopState.CallsTo at hcalls
  rw [hengine] at hcalls
  obtain ⟨e', hengine', hplan', hextends'⟩ := hcalls.planning hplan
  refine ⟨e', hengine', hplan', hextends.trans hextends', fun o ho => ?_⟩
  rw [hlog] at ho
  rcases List.mem_append.mp ho with ho | ho
  · exact (hold o ho).extends hextends'
  · exact hnew e' hengine' o ho

variable [FloatOps F]

/-- One turn keeps to the plan. -/
theorem LoopState.Planned.step {st st' : LoopState F} {t : Turn F} (hmode : cfg.mode = .redLaser)
    (hremap : cfg.l3.remap = true) (h : st.Planned unzoned e₀)
    (hstep : Stepped seedFrom cfg readF glob oui times st t st') : st'.Planned unzoned e₀ := by
  have hcalls := step_calls hstep
  cases hstep with
  | stopped => exact h
  | shutdown =>
    refine h.grows hcalls rfl fun e he o ho => ?_
    obtain rfl := List.mem_singleton.mp ho
    exact Activity.noConfusion
  | idle =>
    refine h.grows hcalls rfl fun e he o ho => ?_
    obtain rfl := List.mem_singleton.mp ho
    exact Activity.noConfusion
  | @skipped chosen why err engine file hrunning hchosen hprepare =>
    refine h.grows hcalls rfl fun e he o ho => ?_
    obtain rfl := List.mem_singleton.mp ho
    obtain ⟨e₁, hengine, hplan, -⟩ := h
    rw [hengine] at hprepare
    obtain ⟨e₂, he₂, hwhy⟩ := prepare_planned hmode hremap hplan hchosen hprepare
    show why ≠ _
    rw [show why = .skippedRemapFailed from hwhy]
    exact Activity.noConfusion
  | @sent chosen send engine file st' hrunning hchosen hprepare hsend =>
    obtain ⟨s₀, s₁, s₂, burst, res, hlog, hs₀, hs₁, hs₂, -⟩ := send_log hsend
    have hsent : st'.Planned unzoned e₀ := by
      have hcalls₁ := prepare_calls st.runCounter hchosen hprepare
      have hcalls₂ : LoopState.CallsTo seedFrom _ _ st' := send_calls hsend
      obtain ⟨e₁, hengine, hplan, hextends, hold⟩ := h
      rw [hengine] at hprepare hcalls₁
      obtain ⟨e₂, rfl, hout⟩ := prepare_planned hmode hremap hplan hchosen hprepare
      obtain ⟨e₂', he₂, hplan₂, hextends₂⟩ := hcalls₁.planning hplan
      obtain rfl := Option.some.inj he₂
      obtain ⟨e₃, he₃, -, hextends₃⟩ := hcalls₂.planning hplan₂
      -- the state once the capture is prepared
      have hready : ({ st with engine := some e₂, file } : LoopState F).Planned unzoned e₀ :=
        ⟨e₂, rfl, hplan₂, hextends.trans hextends₂, fun o ho => (hold o ho).extends hextends₂⟩
      refine hready.grows hcalls₂ hlog fun e he o ho => ?_
      obtain rfl := Option.some.inj (he₃.symm.trans he)
      simp only [List.mem_append, List.mem_cons, List.not_mem_nil, or_false] at ho
      rcases ho with ((rfl | rfl) | hburst) | hend | hend
      · show s₀.state ≠ _
        rw [hs₀.1]
        exact Activity.noConfusion
      · exact Output.Planned.extends hout hextends₃
      · obtain ⟨content, -, rfl⟩ := Option.map_eq_some_iff.mp (Option.mem_toList.mp hburst)
        exact trivial
      · rw [Option.isSome_some, if_pos rfl, List.mem_singleton] at hend
        subst hend
        show s₁.state ≠ _
        rw [hs₁.1]
        exact Activity.noConfusion
      · split at hend
        · cases hend
        · obtain rfl := List.mem_singleton.mp hend
          show s₂.state ≠ _
          rw [hs₂.1]
          exact Activity.noConfusion
    split
    · exact hsent
    · have hquiet : st'.CallsTo seedFrom (fun _ => True) (st'.stop cfg) := CallsMade.refl _ _
      refine hsent.grows hquiet rfl fun e he o ho => ?_
      obtain rfl := List.mem_singleton.mp ho
      exact Activity.noConfusion

end Runs

/-- A new engine keeps the plan. -/
theorem Planning.fresh {e : DaemonEngine} (seed : UInt64) (hledger : e.core.ledger = .new seed)
    (hcache : e.core.cache = ∅) : Planning (e.core.ledger.subnets = []) e := by
  refine ⟨hledger ▸ identities_new seed, id, fun key cap hlookup => ?_⟩
  rw [hcache] at hlookup
  cases hlookup

end TurboLaser
