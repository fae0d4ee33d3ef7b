import Mathlib.Algebra.Ring.Nat
import Mathlib.Data.List.DropRight
import TurboLaser.Lib.Runs

/-!
# The transmit watchdog (run/watchdog.rs)

Two parties share the flags `active` and `tripped`. The run loop calls `begin` before a send and
`end` (here `finish`) behind it; `tcpreplay` is killed while `tripped` is set. The poll thread reads
the interface's counter every `poll_secs` and keeps two values of its own: the last reading, and for
how long it has been flat. They are cleared only when a poll finds no send active.

The two run at their own pace, so a run here is any interleaving of the loop's two calls with polls,
and a poll reads any value or fails to read. Two sends may follow each other between two polls. Then
the poll thread never sees the gap, and the stall it has counted under the first send goes on under
the second.

- `TripJustified`: since the latest `begin`, the counter was read with one value over polls that add
  up to the flat-line window;
- `Watched`: the invariant: the stall is what the polls at the end of the history add up to;
- `idle_begins_justified`: **in a run whose sends all begin with nothing carried over, every trip is
  justified**;
- `earlier_stall_trips`: two sends between two polls. The second is killed by its first poll, for
  the first one's stall;
- `carried_stall_trips`: a stall carried into a send is enough for such a kill, whatever the run did
  before.
-/

namespace TurboLaser

open Lib

/-- The durations of `Watchdog::spawn`, in seconds. -/
structure WatchdogTimes where
  pollSecs : UInt64
  flatlineSecs : UInt64
  pollSecs_pos : 0 < pollSecs
  flatlineSecs_pos : 0 < flatlineSecs

theorem uint64_max_one_pos (x : UInt64) : 0 < max x 1 := by
  show (0 : UInt64) < if x ≤ 1 then 1 else x
  split
  · decide
  · next h =>
    rw [UInt64.le_iff_toNat_le] at h
    rw [UInt64.lt_iff_toNat_lt]
    exact Nat.lt_trans (by decide) (Nat.not_le.mp h)

/-- `Watchdog::spawn` raises both durations to at least a second. -/
def WatchdogTimes.spawn (pollSecs flatlineSecs : UInt64) : WatchdogTimes :=
  ⟨max pollSecs 1, max flatlineSecs 1, uint64_max_one_pos _, uint64_max_one_pos _⟩

/-- The shared flags, and the poll thread's own two values. -/
structure WatchdogState where
  active : Bool
  tripped : Bool
  last : Option UInt64
  stall : UInt64
deriving DecidableEq

/-- What `spawn` sets up. -/
def WatchdogState.spawned : WatchdogState := ⟨false, false, none, 0⟩

/-- `begin`: clears any prior trip. The poll thread's values are not the caller's to
clear. -/
def WatchdogState.begin (s : WatchdogState) : WatchdogState :=
  { s with tripped := false, active := true }

/-- `end`. -/
def WatchdogState.finish (s : WatchdogState) : WatchdogState := { s with active := false }

/-- `step`: the flat-line state after one reading. -/
def flatStep (last : Option UInt64) (stall : UInt64) (tx : Option UInt64) (pollSecs : UInt64) :
    Option UInt64 × UInt64 :=
  match tx, last with
  | some now, some prev => if now = prev then (last, stall + pollSecs) else (some now, 0)
  | some now, none => (some now, 0)
  | none, _ => (last, stall)

/-- One turn of the poll loop. -/
def WatchdogState.poll (times : WatchdogTimes) (s : WatchdogState) (tx : Option UInt64) :
    WatchdogState :=
  if s.active then
    let (last, stall) := flatStep s.last s.stall tx times.pollSecs
    { s with last, stall, tripped := s.tripped || decide (times.flatlineSecs ≤ stall) }
  else { s with last := none, stall := 0 }

/-- What happens to a watchdog. -/
inductive WatchdogEvent where
  | begin
  | finish
  | poll (tx : Option UInt64)
deriving DecidableEq

/-- One event; none of them fails. -/
def WatchdogState.next (times : WatchdogTimes) (s : WatchdogState) :
    WatchdogEvent → Option WatchdogState
  | .begin => some s.begin
  | .finish => some s.finish
  | .poll tx => some (s.poll times tx)

/-! ## What a trip should mean -/

/-- The events since the latest `begin`. -/
def sinceBegin (events : List WatchdogEvent) : List WatchdogEvent :=
  events.rtakeWhile fun e => decide (e ≠ .begin)

/-- A reading that does not contradict a counter that stands at `v`. -/
def ReadsOnly (v : UInt64) (window : List WatchdogEvent) : Prop :=
  ∀ e ∈ window, e = .poll none ∨ e = .poll (some v)

/-- Somewhere in these events the counter stood at one value over polls that add up to
the flat-line window. -/
def FlatFor (times : WatchdogTimes) (events : List WatchdogEvent) : Prop :=
  ∃ v pre window post, events = pre ++ window ++ post ∧ ReadsOnly v window ∧
    times.flatlineSecs.toNat ≤ times.pollSecs.toNat * window.count (.poll (some v))

/-- A trip at the end of these events is owed to the send that is active. -/
def TripJustified (times : WatchdogTimes) (events : List WatchdogEvent) : Prop :=
  .begin ∈ events ∧ FlatFor times (sinceBegin events)

/-- The condition on a run: a send begins with no stall carried over. -/
def IdleBegin (s : WatchdogState) (e : WatchdogEvent) : Prop := e = .begin → s.stall = 0

instance (s : WatchdogState) (e : WatchdogEvent) : Decidable (IdleBegin s e) :=
  inferInstanceAs (Decidable (_ → _))

theorem sinceBegin_begin (events : List WatchdogEvent) : sinceBegin (events ++ [.begin]) = [] :=
  List.rtakeWhile_concat_neg _ _ _ (by decide)

theorem sinceBegin_concat (events : List WatchdogEvent) {e : WatchdogEvent} (h : e ≠ .begin) :
    sinceBegin (events ++ [e]) = sinceBegin events ++ [e] :=
  List.rtakeWhile_concat_pos _ _ _ (decide_eq_true h)

theorem FlatFor.concat {times : WatchdogTimes} {events : List WatchdogEvent}
    (h : FlatFor times events) (e : WatchdogEvent) : FlatFor times (events ++ [e]) := by
  obtain ⟨v, pre, window, post, rfl, hwindow, hlong⟩ := h
  exact ⟨v, pre, window, post ++ [e], (List.append_assoc _ _ _), hwindow, hlong⟩

/-- What a window counts is in the events. -/
theorem FlatFor.flatline_le {times : WatchdogTimes} {events : List WatchdogEvent}
    (h : FlatFor times events) :
    ∃ v, times.flatlineSecs.toNat ≤ times.pollSecs.toNat * events.count (.poll (some v)) := by
  obtain ⟨v, pre, window, post, rfl, -, hlong⟩ := h
  refine ⟨v, Nat.le_trans hlong (Nat.mul_le_mul_left _ ?_)⟩
  rw [List.count_append, List.count_append]
  omega

theorem sinceBegin_append (events : List WatchdogEvent) {own : List WatchdogEvent}
    (hown : .begin ∉ own) : sinceBegin (events ++ own) = sinceBegin events ++ own := by
  induction own using List.reverseRecOn with
  | nil => rw [List.append_nil, List.append_nil]
  | append_singleton own e ih =>
    rw [List.mem_append, List.mem_singleton, not_or] at hown
    rw [← List.append_assoc, sinceBegin_concat _ (Ne.symm hown.2), ih hown.1, List.append_assoc]

/-! ## The invariant

What the watchdog has counted is compared with what the events say: the counter was flat over the
last polls, and these add up to the stall at least. A send that begins idle starts this count from
nothing. A reading that moves the counter starts it again.
-/

/-- The events end with the counter flat at `v`, over polls that add up to `n` seconds. -/
def EndsFlat (times : WatchdogTimes) (v : UInt64) (n : Nat) (events : List WatchdogEvent) : Prop :=
  ∃ pre window, events = pre ++ window ∧ ReadsOnly v window ∧
    n ≤ times.pollSecs.toNat * window.count (.poll (some v))

theorem EndsFlat.zero (times : WatchdogTimes) (v : UInt64) (events : List WatchdogEvent) :
    EndsFlat times v 0 events :=
  ⟨events, [], (List.append_nil _).symm, nofun, Nat.zero_le _⟩

theorem EndsFlat.concat {times : WatchdogTimes} {v : UInt64} {n : Nat}
    {events : List WatchdogEvent} (h : EndsFlat times v n events) {e : WatchdogEvent}
    (he : e = .poll none ∨ e = .poll (some v)) : EndsFlat times v n (events ++ [e]) := by
  obtain ⟨pre, window, rfl, hwindow, hlong⟩ := h
  refine ⟨pre, window ++ [e], List.append_assoc _ _ _, fun e' he' => ?_, ?_⟩
  · rcases List.mem_append.mp he' with hold | hnew
    · exact hwindow e' hold
    · exact List.mem_singleton.mp hnew ▸ he
  · rw [List.count_append]
    exact Nat.le_trans hlong (Nat.mul_le_mul_left _ (Nat.le_add_right _ _))

theorem EndsFlat.again {times : WatchdogTimes} {v : UInt64} {n : Nat}
    {events : List WatchdogEvent} (h : EndsFlat times v n events) :
    EndsFlat times v (n + times.pollSecs.toNat) (events ++ [.poll (some v)]) := by
  obtain ⟨pre, window, rfl, hwindow, hlong⟩ := h
  refine ⟨pre, window ++ [.poll (some v)], List.append_assoc _ _ _, fun e' he' => ?_, ?_⟩
  · rcases List.mem_append.mp he' with hold | hnew
    · exact hwindow e' hold
    · exact .inr (List.mem_singleton.mp hnew)
  · rw [List.count_append, List.count_singleton_self, Nat.mul_add, Nat.mul_one]
    exact Nat.add_le_add_right hlong _

theorem EndsFlat.flatFor {times : WatchdogTimes} {v : UInt64} {n : Nat}
    {events : List WatchdogEvent} (h : EndsFlat times v n events)
    (hn : times.flatlineSecs.toNat ≤ n) : FlatFor times events := by
  obtain ⟨pre, window, rfl, hwindow, hlong⟩ := h
  exact ⟨v, pre, window, [], (List.append_nil _).symm, hwindow, Nat.le_trans hn hlong⟩

/-- What holds after the events `done` of a run whose sends begin idle. -/
structure Watched (times : WatchdogTimes) (done : List WatchdogEvent) (s : WatchdogState) :
    Prop where
  fresh : s.last = none → s.stall = 0
  begun : s.active = true → .begin ∈ done
  flat : s.active = true → ∀ v, s.last = some v →
    EndsFlat times v s.stall.toNat (sinceBegin done)
  trip : s.active = true → s.tripped = true → FlatFor times (sinceBegin done)

theorem Watched.spawned (times : WatchdogTimes) : Watched times [] .spawned :=
  ⟨fun _ => rfl, nofun, nofun, nofun⟩

variable {times : WatchdogTimes} {done : List WatchdogEvent} {s : WatchdogState}

theorem Watched.begin (h : Watched times done s) (hidle : s.stall = 0) :
    Watched times (done ++ [.begin]) s.begin where
  fresh := h.fresh
  begun _ := List.mem_append_right _ (List.mem_singleton_self _)
  flat _ v _ := by
    show EndsFlat times v s.stall.toNat _
    rw [hidle]
    exact .zero times v _
  trip _ htripped := nomatch htripped

theorem Watched.finish (h : Watched times done s) :
    Watched times (done ++ [.finish]) s.finish where
  fresh := h.fresh
  begun hactive := nomatch hactive
  flat hactive := nomatch hactive
  trip hactive := nomatch hactive

/-- One reading of an active send: the stall never exceeds the flat polls behind it. -/
theorem Watched.flatStep (h : Watched times done s) (hactive : s.active = true)
    (tx : Option UInt64) {last : Option UInt64} {stall : UInt64}
    (hstep : flatStep s.last s.stall tx times.pollSecs = (last, stall)) :
    (last = none → stall = 0) ∧
      ∀ v, last = some v → EndsFlat times v stall.toNat (sinceBegin done ++ [.poll tx]) := by
  unfold TurboLaser.flatStep at hstep
  split at hstep
  · next now prev hlast =>
    split at hstep
    · next heq =>
      -- the counter has not moved: one more flat poll
      cases hstep
      refine ⟨fun hnone => absurd (hlast.symm.trans hnone) nofun, fun v hv => ?_⟩
      obtain rfl : prev = v := Option.some.inj (hlast.symm.trans hv)
      obtain ⟨pre, window, hsplit, hwindow, hlong⟩ := (h.flat hactive prev hlast).again
      subst heq
      refine ⟨pre, window, hsplit, hwindow, Nat.le_trans ?_ hlong⟩
      exact UInt64.toNat_add _ _ ▸ Nat.mod_le _ _
    · cases hstep
      exact ⟨fun _ => rfl, fun v _ => .zero times v _⟩
  · cases hstep
    exact ⟨fun _ => rfl, fun v _ => .zero times v _⟩
  · cases hstep
    exact ⟨h.fresh, fun v hv => (h.flat hactive v hv).concat (.inl rfl)⟩

theorem Watched.poll (h : Watched times done s) (tx : Option UInt64) :
    Watched times (done ++ [.poll tx]) (s.poll times tx) := by
  unfold WatchdogState.poll
  split
  · next hactive =>
    rcases hstep : TurboLaser.flatStep s.last s.stall tx times.pollSecs with ⟨last, stall⟩
    obtain ⟨hfresh, hflat⟩ := h.flatStep hactive tx hstep
    have hsince := sinceBegin_concat done (e := .poll tx) nofun
    refine ⟨hfresh, fun _ => List.mem_append_left _ (h.begun hactive),
      fun _ v hv => hsince ▸ hflat v hv, fun _ htripped => hsince ▸ ?_⟩
    rcases Bool.or_eq_true _ _ |>.mp htripped with hold | hnew
    · exact (h.trip hactive hold).concat _
    · have hle := UInt64.le_iff_toNat_le.mp (of_decide_eq_true hnew)
      cases last with
      | none =>
        -- nothing was ever read: the stall is zero and the window is not
        have hpos := UInt64.lt_iff_toNat_lt.mp times.flatlineSecs_pos
        rw [hfresh rfl] at hle
        exact absurd hle (Nat.not_le.mpr hpos)
      | some v => exact (hflat v rfl).flatFor hle
  · next hactive =>
    exact ⟨fun _ => rfl, fun h => absurd h hactive, fun h => absurd h hactive,
      fun h => absurd h hactive⟩

theorem Watched.next (h : Watched times done s) {e : WatchdogEvent} (hidle : IdleBegin s e)
    {s' : WatchdogState} (hstep : s.next times e = some s') : Watched times (done ++ [e]) s' := by
  cases e with
  | begin => exact Option.some.inj hstep ▸ h.begin (hidle rfl)
  | finish => exact Option.some.inj hstep ▸ h.finish
  | poll tx => exact Option.some.inj hstep ▸ h.poll tx

/-! ## The runs -/

/-- **No send is killed for an earlier one's stall**, in a run whose sends all begin with nothing
carried over. That is a condition on the state before a send begins. -/
theorem idle_begins_justified (times : WatchdogTimes) (events : List WatchdogEvent)
    (s : WatchdogState)
    (hidle : EveryStep (WatchdogState.next times) IdleBegin .spawned events)
    (hrun : runAll (WatchdogState.next times) .spawned events = some s)
    (hactive : s.active = true) (htripped : s.tripped = true) : TripJustified times events := by
  have hwatched : Watched times ([] ++ events) s :=
    runAll_induct (fun done s e s' h hidle hstep => h.next hidle hstep) (.spawned times) hidle hrun
  exact ⟨hwatched.begun hactive, hwatched.trip hactive htripped⟩

/-- The defaults of the configuration: a poll every 2 s, a window of 10 s. -/
def defaultTimes : WatchdogTimes := .spawn 2 10

/-- Two sends with a gap that a poll sees; the second one stalls. -/
def pausedRun : List WatchdogEvent :=
  [.begin, .poll (some 7), .poll (some 7), .finish, .poll (some 7), .begin] ++
    List.replicate 6 (.poll (some 7))

theorem pausedRun_justified : TripJustified defaultTimes pausedRun :=
  idle_begins_justified defaultTimes pausedRun ⟨true, true, some 7, 10⟩ (by decide) (by decide)
    rfl rfl

/-- A capture that stalls for 8 s, and the identity burst right behind it. -/
def backToBack : List WatchdogEvent :=
  .begin :: (List.replicate 5 (.poll (some 7)) ++ [.finish, .begin])

/-- The burst's first poll kills it: the counter stood still for 2 s of it, not for 10. -/
theorem earlier_stall_trips :
    ∃ s s', runAll (WatchdogState.next defaultTimes) .spawned backToBack = some s ∧
      s.next defaultTimes (.poll (some 7)) = some s' ∧ s.tripped = false ∧
      s'.active = true ∧ s'.tripped = true ∧
      ¬ TripJustified defaultTimes (backToBack ++ [.poll (some 7)]) :=
  ⟨⟨true, false, some 7, 8⟩, ⟨true, true, some 7, 10⟩, by decide, by decide, rfl, rfl, rfl,
    fun h => h.2.flatline_le.elim fun _ hle => absurd
      (Nat.le_trans hle (Nat.mul_le_mul_left _ List.count_le_length)) (by decide)⟩

/-! ## Nothing less will do -/

/-- A poll that reads the last value again. -/
theorem poll_same {times : WatchdogTimes} {s : WatchdogState} {v : UInt64}
    (hactive : s.active = true) (hlast : s.last = some v) :
    s.poll times (some v) =
      { s with
        stall := s.stall + times.pollSecs
        tripped := s.tripped || decide (times.flatlineSecs ≤ s.stall + times.pollSecs) } := by
  unfold WatchdogState.poll flatStep
  rw [if_pos hactive, hlast]
  simp

/-- Readings that stay at `v` add up, one poll after the other. -/
theorem stall_of_flat_polls (times : WatchdogTimes) (s : WatchdogState) {v : UInt64}
    (hactive : s.active = true) (hlast : s.last = some v) (n : Nat)
    (hfits : s.stall.toNat + n * times.pollSecs.toNat < 2 ^ 64) :
    ∃ s', runAll (WatchdogState.next times) s (List.replicate n (.poll (some v))) = some s' ∧
      s'.active = true ∧ s'.last = some v ∧
      s'.stall.toNat = s.stall.toNat + n * times.pollSecs.toNat ∧
      (0 < n → times.flatlineSecs ≤ s'.stall → s'.tripped = true) := by
  induction n with
  | zero => exact ⟨s, rfl, hactive, hlast, by omega, fun h => absurd h (Nat.lt_irrefl 0)⟩
  | succ n ih =>
    rw [Nat.succ_mul] at hfits
    obtain ⟨s₁, hrun, hactive₁, hlast₁, hstall₁, -⟩ := ih (by omega)
    refine ⟨s₁.poll times (some v), ?_, ?_⟩
    · rw [List.replicate_succ', runAll_append, hrun]
      rfl
    · rw [poll_same hactive₁ hlast₁]
      refine ⟨hactive₁, hlast₁, ?_, fun _ hflat =>
        Bool.or_eq_true _ _ |>.mpr (.inr (decide_eq_true hflat))⟩
      show (s₁.stall + times.pollSecs).toNat = _
      rw [UInt64.toNat_add, hstall₁, Nat.succ_mul, Nat.mod_eq_of_lt (by omega)]
      omega

/-- The polls missing from a window: the first number of them that reaches it. -/
theorem exists_missing_polls {poll stall flatline : Nat} (hpoll : 0 < poll)
    (hover : stall < flatline) :
    ∃ n, 0 < n ∧ flatline ≤ stall + n * poll ∧ stall + n * poll < flatline + poll := by
  have hle := Nat.div_mul_le_self (flatline - stall + poll - 1) poll
  have hlt := Nat.lt_div_mul_add (a := flatline - stall + poll - 1) hpoll
  refine ⟨(flatline - stall + poll - 1) / poll, Nat.div_pos (by omega) hpoll, ?_, ?_⟩
  · omega
  · omega

/-- **A carried stall kills.** A send that begins with a stall of at least one poll can be
killed without its own polls accounting for the window. -/
theorem carried_stall_trips {times : WatchdogTimes} {done : List WatchdogEvent}
    {s : WatchdogState} {v : UInt64}
    (hrun : runAll (WatchdogState.next times) .spawned done = some s)
    (hlast : s.last = some v) (hcarried : times.pollSecs ≤ s.stall)
    (hfits : times.flatlineSecs.toNat + times.pollSecs.toNat ≤ 2 ^ 64) :
    ∃ polls s', runAll (WatchdogState.next times) .spawned (done ++ .begin :: polls) = some s' ∧
      s'.active = true ∧ s'.tripped = true ∧ ¬ TripJustified times (done ++ .begin :: polls) := by
  have hsince : ∀ polls, .begin ∉ polls → sinceBegin (done ++ .begin :: polls) = polls := by
    intro polls hpolls
    rw [← List.singleton_append, ← List.append_assoc, sinceBegin_append _ hpolls,
      sinceBegin_begin, List.nil_append]
  have hresume : ∀ polls, runAll (WatchdogState.next times) .spawned (done ++ .begin :: polls) =
      runAll (WatchdogState.next times) s.begin polls := by
    intro polls
    rw [runAll_append, hrun]
    rfl
  have hpoll := UInt64.lt_iff_toNat_lt.mp times.pollSecs_pos
  have hflatline := UInt64.lt_iff_toNat_lt.mp times.flatlineSecs_pos
  rw [UInt64.toNat_zero] at hpoll hflatline
  rw [UInt64.le_iff_toNat_le] at hcarried
  by_cases hover : times.flatlineSecs ≤ s.stall
  · -- the earlier stall alone is enough, even when the counter cannot be read
    refine ⟨[.poll none], s.begin.poll times none, by rw [hresume]; rfl, rfl,
      decide_eq_true hover, fun hjust => ?_⟩
    have hflat := hjust.2
    rw [hsince _ (by decide)] at hflat
    obtain ⟨v', hle⟩ := hflat.flatline_le
    rw [List.count_eq_zero_of_not_mem (by simp)] at hle
    omega
  · -- the polls that are missing are fewer than the window asks for
    rw [UInt64.le_iff_toNat_le, Nat.not_le] at hover
    obtain ⟨n, hn, hreach, hfirst⟩ := exists_missing_polls hpoll hover
    obtain ⟨s', hrun', hactive, -, hstall, htrip⟩ :=
      stall_of_flat_polls times s.begin rfl hlast n
        (Nat.lt_of_lt_of_le hfirst hfits)
    refine ⟨List.replicate n (.poll (some v)), s', by rw [hresume, hrun'], hactive,
      htrip hn (UInt64.le_iff_toNat_le.mpr (hstall ▸ hreach)), fun hjust => ?_⟩
    have hflat := hjust.2
    rw [hsince _ (by simp)] at hflat
    obtain ⟨v', hle⟩ := hflat.flatline_le
    have hcount := List.count_le_length (a := WatchdogEvent.poll (some v'))
      (l := List.replicate n (.poll (some v)))
    rw [List.length_replicate] at hcount
    have := Nat.mul_le_mul_left times.pollSecs.toNat hcount
    rw [Nat.mul_comm _ n] at this
    omega

end TurboLaser
