import Mathlib.Data.Nat.Cast.Defs
import Mathlib.Order.Defs.LinearOrder
import Mathlib.Tactic.IntervalCases
import TurboLaser.Lib.Lines
import TurboLaser.Run.Watchdog
import TurboLaser.Simulate.Zones
import TurboLaser.Synth.Oid

/-!
# One send (run/replay.rs)

Every send is one `tcpreplay` process. `runOnce` starts it, looks at it every 100 ms, kills it when
the watchdog has tripped, and reads its report from what it printed.

The process is an argument: how often it is looked at, what `try_wait` says each time, how many
polls the watchdog makes in between, and what is printed in the end. The reading of the report is
hand-written: it looks for a mark in every line, takes the word in front of another, and gives up
where a word is not a number. Whether it reads what was written is a question about texts, so a
report is a structure with a printer (`ReplayReport.text`), and any lines may stand in front of it
that do not look like one.

- `parsePackets`, `parseRate`, `isFatal`, `summarize`: what is read off the text;
- `runOnce`: the process watched to its end, with the turns the poll thread takes meanwhile;
- `parsePackets_report`, `parseRate_report`: **a report is read back**, whatever is printed around
  it;
- `runOnce_report`: what a run reports, and when it counts as sent;
- `killed_justified`: **a child is killed only for a counter that stood still under it**, when the
  send began with no stall carried over.

`F` stands for `f64`: what is done with such numbers here is to read, cast, divide and compare them,
and none of the results rests on how that rounds.
-/

namespace TurboLaser

open Lib Synth

/-! ## What is printed -/

/-- `"Actual:"`, which starts the line of the final count. -/
def actualMark : List Char := "Actual:".toList

/-- A line that could be taken for the report. -/
def Announces (line : List Char) : Prop := actualMark <+: trimStart isWhiteSpace line

instance : DecidablePred Announces := fun line =>
  inferInstanceAs (Decidable (actualMark <+: trimStart isWhiteSpace line))

/-- `parse_packets`. -/
def parsePackets (text : List Char) : Option Nat :=
  (lines text).findSome? fun line =>
    (stripPrefix actualMark (trim isWhiteSpace line)).bind fun rest =>
      (words isWhiteSpace rest).findSome? parseU64

/-- The word behind a word. -/
def wordBehind (w : List Char) (toks : List (List Char)) : Option (List Char) :=
  if w ∈ toks then toks[toks.idxOf w + 1]? else none

section Rate

variable {F : Type} [NatCast F] [Mul F] [Div F] [Zero F] [LT F] [DecidableLT F]
  (readF : List Char → Option F)

/-- `parse_rate`: packets and megabits a second. -/
def parseRate (text : List Char) : Option F × Option F :=
  match (lines text).find? fun l => decide (Announces l) with
  | none => (none, none)
  | some line =>
    let toks := words isWhiteSpace line
    let packets := (wordBehind actualMark toks).bind parseU64
    let bytes := toks.findSome? fun t => (stripPrefix ['('] t).bind parseU64
    let secs := (wordBehind "in".toList toks).bind readF
    match packets, bytes, secs with
    | some p, some b, some s =>
      if 0 < s then (some ((p : F) / s), some ((b : F) * ((8 : Nat) : F) / s / ((1000000 : Nat) : F)))
      else (none, none)
    | _, _, _ => (none, none)

end Rate

/-- `is_fatal`. -/
def isFatal (text : List Char) : Bool :=
  decide ("Unable to process unsupported DLT type".toList <:+: text) ||
    decide ("Fatal Error".toList <:+: text)

/-- `summarize`: the exit status, and the last line that is not blank. -/
def summarize (text : List Char) (code : Option Int) : String :=
  let last := trim isWhiteSpace (((lines text).reverse.find? fun l =>
    decide (trim isWhiteSpace l ≠ [])).getD [])
  match code with
  | some c => "exit=" ++ toString c ++ " " ++ String.ofList last
  | none => "signal-terminated " ++ String.ofList last

/-! ## The process -/

/-- What `try_wait` finds; a process ended by a signal has no exit code. -/
inductive TryWait where
  | running
  | exited (code : Option Int)
  | failed (err : String)
deriving DecidableEq

/-- One look at the process: the readings of the poll thread since the last one, and what is
found. -/
structure ChildRound where
  readings : List (Option UInt64)
  found : TryWait
deriving DecidableEq

/-- What becomes of a `tcpreplay` process. -/
structure ReplayRun where
  spawned : Except String Unit
  rounds : List ChildRound
  stdout : List Char
  stderr : List Char

/-- `ReplayResult`. -/
structure ReplayResult (F : Type) where
  success : Bool
  packets : Option Nat
  pps : Option F
  mbps : Option F
  detail : String

/-- The turns of the poll thread between two looks. -/
def WatchdogState.pollAll (times : WatchdogTimes) (s : WatchdogState)
    (readings : List (Option UInt64)) : WatchdogState :=
  readings.foldl (WatchdogState.poll times) s

/-- The loop around `try_wait`: the exit code, and whether the child was killed. `none` when the
process never ends. A `try_wait` that fails leaves the send marked as active. -/
def waitChild (times : WatchdogTimes) :
    List ChildRound → WatchdogState → Bool →
      Option (Except String (Option Int × Bool) × WatchdogState)
  | [], _, _ => none
  | r :: rounds, s, killed =>
    let s := s.pollAll times r.readings
    match r.found with
    | .failed err => some (.error err, s)
    | .exited code => some (.ok (code, killed), s)
    | .running => waitChild times rounds s (killed || s.tripped)

section RunOnce

variable {F : Type} [NatCast F] [Mul F] [Div F] [Zero F] [LT F] [DecidableLT F]
  (readF : List Char → Option F)

/-- What `run_once` makes of a process that ended. -/
def ReplayRun.result (run : ReplayRun) (code : Option Int) (killed : Bool) : ReplayResult F :=
  let text := run.stdout ++ run.stderr
  let summary := summarize text code
  let rate := parseRate readF text
  let packets := parsePackets text
  { success := decide (code = some 0) && !killed && !isFatal text && decide (packets ≠ some 0)
    packets
    pps := rate.1
    mbps := rate.2
    detail := if killed then "watchdog killed stalled replay; " ++ summary else summary }

/-- `run_once`. -/
def runOnce (times : WatchdogTimes) (run : ReplayRun) (s : WatchdogState) :
    Option (Except String (ReplayResult F) × WatchdogState) :=
  match run.spawned with
  | .error err => some (.error err, s)
  | .ok _ =>
    match waitChild times run.rounds s.begin false with
    | none => none
    | some (.error err, s) => some (.error err, s)
    | some (.ok (code, killed), s) => some (.ok (run.result readF code killed), s.finish)

end RunOnce

/-! ## A report is read back

The two parsers look for words in a text that another program prints. What they find is right for
the report that program documents, in whatever text it stands, as long as no earlier line can be
taken for it. A report is split into lines and words here, and its number is read digit by digit.
-/

/-- What `tcpreplay` reports at its end; the duration as it is printed. -/
structure ReplayReport where
  packets : Nat
  bytes : Nat
  secs : List Char
  packets_lt : packets < 18446744073709551616
  bytes_lt : bytes < 18446744073709551616
  secs_ne : secs ≠ []
  secs_word : ∀ c ∈ secs, isWhiteSpace c = false

/-- `"Actual: <n> packets (<b> bytes) sent in <t> seconds"`. -/
def ReplayReport.line (r : ReplayReport) : List Char :=
  actualMark ++ ' ' :: (Nat.toDigits 10 r.packets ++ ' ' :: ("packets".toList ++ ' ' ::
    ('(' :: Nat.toDigits 10 r.bytes ++ ' ' :: ("bytes)".toList ++ ' ' :: ("sent".toList ++ ' ' ::
      ("in".toList ++ ' ' :: (r.secs ++ ' ' :: "seconds".toList)))))))

/-- The line of a report, with whole lines in front of it and anything behind it. -/
def ReplayReport.text (r : ReplayReport) (before : List (List Char)) (rest : List Char) : List Char :=
  before.flatMap (· ++ ['\n']) ++ (r.line ++ '\n' :: rest)


/-- A digit is not white space. -/
theorem isWhiteSpace_of_isDigit {c : Char} (h : c.isDigit = true) : isWhiteSpace c = false := by
  have hrange : 48 ≤ c.toNat ∧ c.toNat ≤ 57 := by
    rw [Char.isDigit, Bool.and_eq_true, decide_eq_true_eq, decide_eq_true_eq] at h
    exact ⟨UInt32.le_iff_toNat_le.mp h.1, UInt32.le_iff_toNat_le.mp h.2⟩
  unfold isWhiteSpace
  generalize c.toNat = n at hrange
  obtain ⟨hlo, hhi⟩ := hrange
  interval_cases n <;> rfl

theorem decimalValue_toDigits (n : Nat) : decimalValue (Nat.toDigits 10 n) = n := by
  have hfold : decimalValue = fun cs => Nat.ofDigitChars 10 cs 0 := by
    funext cs
    rw [Nat.ofDigitChars_eq_foldl, decimalValue]
    simp only [Nat.mul_comm 10]
    rfl
  rw [hfold]
  exact Nat.ofDigitChars_ten_toDigits

/-- **A number is read back.** -/
theorem parseU64_toDigits {n : Nat} (h : n < 18446744073709551616) :
    parseU64 (Nat.toDigits 10 n) = some n := by
  have hdigits : ∀ c ∈ Nat.toDigits 10 n, c.isDigit = true :=
    fun c hc => Nat.isDigit_of_mem_toDigits (by decide) (by decide) hc
  have harc : decimalArc (Nat.toDigits 10 n) = some n := by
    rw [decimalArc, if_neg, decimalValue_toDigits]
    rw [not_or, not_not]
    exact ⟨Nat.toDigits_ne_nil, List.all_eq_true.mpr hdigits⟩
  exact (parseU64_of_unsigned (decimalArc_digits harc)).mpr ⟨harc, h⟩

theorem digits_word (n : Nat) : ∀ c ∈ Nat.toDigits 10 n, isWhiteSpace c = false :=
  fun _ hc => isWhiteSpace_of_isDigit (Nat.isDigit_of_mem_toDigits (by decide) (by decide) hc)

/-- A text without white space is one word. -/
theorem word_of_all {w : List Char} (h : (w.all fun c => !isWhiteSpace c) = true) :
    ∀ c ∈ w, isWhiteSpace c = false := by
  intro c hc
  have hword := List.all_eq_true.mp h c hc
  rwa [Bool.not_eq_true'] at hword

/-- The words of a report behind its mark. -/
theorem ReplayReport.words_rest (r : ReplayReport) :
    words isWhiteSpace (r.line.drop actualMark.length) =
      [Nat.toDigits 10 r.packets, "packets".toList, '(' :: Nat.toDigits 10 r.bytes,
        "bytes)".toList, "sent".toList, "in".toList, r.secs, "seconds".toList] := by
  have hspace : isWhiteSpace ' ' = true := by decide
  rw [ReplayReport.line, List.drop_left, words_white hspace,
    words_cons Nat.toDigits_ne_nil (digits_word r.packets) hspace,
    words_cons (by decide) (word_of_all rfl) hspace, words_cons (List.cons_ne_nil _ _) ?_ hspace,
    words_cons (by decide) (word_of_all rfl) hspace, words_cons (by decide) (word_of_all rfl) hspace,
    words_cons (by decide) (word_of_all rfl) hspace, words_cons r.secs_ne r.secs_word hspace,
    words_last (by decide) (word_of_all rfl)]
  intro c hc
  rcases List.mem_cons.mp hc with rfl | hdigit
  · decide
  · exact digits_word r.bytes c hdigit

/-- The words of the whole line. -/
theorem ReplayReport.words_line (r : ReplayReport) :
    words isWhiteSpace r.line = actualMark :: words isWhiteSpace (r.line.drop actualMark.length) := by
  have hspace : isWhiteSpace ' ' = true := by decide
  rw [ReplayReport.line, words_cons (by decide) (word_of_all rfl) hspace, List.drop_left,
    words_white hspace]

/-- The one kind of white space in the line of a report. -/
theorem ReplayReport.line_chars (r : ReplayReport) :
    ∀ c ∈ r.line, c = ' ' ∨ isWhiteSpace c = false := by
  intro c hc
  have hplain : ∀ w : List Char, w.all (fun c => !isWhiteSpace c) = true →
      c ∈ w → c = ' ' ∨ isWhiteSpace c = false := fun w hw hc =>
    .inr (by simpa using List.all_eq_true.mp hw c hc)
  simp only [ReplayReport.line, List.mem_append, List.mem_cons] at hc
  rcases hc with h | h | h | h | h | h | (h | h) | h | h | h | h | h | h | h | h | h | h
  all_goals first
    | exact .inl h
    | exact hplain _ (by decide) h
    | exact .inr (digits_word _ c h)
    | exact .inr (r.secs_word c h)
    | exact .inr (h ▸ by decide)

theorem ReplayReport.newline_notMem (r : ReplayReport) : '\n' ∉ r.line := by
  intro h
  rcases r.line_chars _ h with h | h
  · cases h
  · cases h

/-- A report ends in a word. -/
theorem ReplayReport.getLast?_line (r : ReplayReport) : r.line.getLast? = some 's' := by
  have hend : r.line = (actualMark ++ ' ' :: (Nat.toDigits 10 r.packets ++ ' ' ::
      ("packets".toList ++ ' ' :: ('(' :: Nat.toDigits 10 r.bytes ++ ' ' :: ("bytes)".toList ++
        ' ' :: ("sent".toList ++ ' ' :: ("in".toList ++ ' ' :: (r.secs ++ [' '])))))))) ++
          "seconds".toList := by
    simp only [ReplayReport.line, List.append_assoc, List.cons_append, List.nil_append]
  rw [hend, List.getLast?_append_of_ne_nil _ (by decide)]
  rfl

/-- The line of the report is one of the lines. -/
theorem ReplayReport.lines_text (r : ReplayReport) {before : List (List Char)}
    (hbefore : ∀ l ∈ before, '\n' ∉ l) (rest : List Char) :
    lines (r.text before rest) = before.map chomp ++ r.line :: lines rest := by
  have hchomp : chomp r.line = r.line := by
    refine chomp_of_getLast ?_
    rw [r.getLast?_line]
    decide
  rw [ReplayReport.text, lines_flatMap_newline hbefore, lines_newline r.newline_notMem, hchomp]

theorem ReplayReport.trim_line (r : ReplayReport) : trim isWhiteSpace r.line = r.line := by
  refine trim_of_ends ?_ ?_
  · rintro c hc
    cases hc
    decide
  · rw [r.getLast?_line]
    rintro c ⟨⟩
    decide

/-- **The count of a report is read back**, unless an earlier line could be taken for it. -/
theorem parsePackets_report (r : ReplayReport) {before : List (List Char)}
    (hbefore : ∀ l ∈ before, '\n' ∉ l) (hsilent : ∀ l ∈ before, ¬ Announces (chomp l))
    (rest : List Char) : parsePackets (r.text before rest) = some r.packets := by
  have hnone : (before.map chomp).findSome? (fun line =>
      (stripPrefix actualMark (trim isWhiteSpace line)).bind fun rest =>
        (words isWhiteSpace rest).findSome? parseU64) = none := by
    rw [List.findSome?_eq_none_iff]
    intro line hline
    obtain ⟨l, hl, rfl⟩ := List.mem_map.mp hline
    rw [stripPrefix_eq_none fun h => hsilent l hl (h.trans (trim_isPrefix_trimStart _))]
    rfl
  have hstrip : stripPrefix actualMark r.line = some (r.line.drop actualMark.length) := by
    rw [ReplayReport.line, stripPrefix_append, List.drop_left]
  rw [parsePackets, r.lines_text hbefore, List.findSome?_append, hnone, Option.none_or,
    List.findSome?_cons, r.trim_line, hstrip, Option.bind_some, r.words_rest,
    List.findSome?_cons, parseU64_toDigits r.packets_lt]

/-- A number does not begin with a parenthesis, and is not a word. -/
theorem toDigits_ne (n : Nat) {w : List Char} {c : Char} (hc : c ∈ w) (hdigit : c.isDigit = false) :
    Nat.toDigits 10 n ≠ w := by
  rintro rfl
  have := Nat.isDigit_of_mem_toDigits (b := 10) (by decide) (by decide) hc
  rw [hdigit] at this
  cases this

/-- **The rate of a report is read back** as well. -/
theorem parseRate_report {F : Type} [NatCast F] [Mul F] [Div F] [Zero F] [LT F] [DecidableLT F]
    (readF : List Char → Option F) (r : ReplayReport) {before : List (List Char)}
    (hbefore : ∀ l ∈ before, '\n' ∉ l) (hsilent : ∀ l ∈ before, ¬ Announces (chomp l))
    (rest : List Char) {s : F} (hread : readF r.secs = some s) (hpos : 0 < s) :
    parseRate readF (r.text before rest) =
      (some ((r.packets : F) / s),
        some ((r.bytes : F) * ((8 : Nat) : F) / s / ((1000000 : Nat) : F))) := by
  have hannounces : Announces r.line := by
    rw [Announces, trimStart_of_head (by rintro c ⟨⟩; decide), ReplayReport.line]
    exact List.prefix_append _ _
  -- the report is found behind lines that announce none, and its words are then known one by one
  have hfind : (lines (r.text before rest)).find? (fun l => decide (Announces l)) = some r.line := by
    have hnone : (before.map chomp).find? (fun l => decide (Announces l)) = none := by
      rw [List.find?_eq_none]
      intro line hline
      obtain ⟨l, hl, rfl⟩ := List.mem_map.mp hline
      exact fun h => hsilent l hl (of_decide_eq_true h)
    rw [r.lines_text hbefore, List.find?_append, hnone, Option.none_or]
    exact List.find?_cons_of_pos (decide_eq_true hannounces)
  have hpackets : wordBehind actualMark (words isWhiteSpace r.line) =
      some (Nat.toDigits 10 r.packets) := by
    rw [r.words_line, r.words_rest, wordBehind, if_pos List.mem_cons_self, List.idxOf_cons_self]
    rfl
  have hbytes : (words isWhiteSpace r.line).findSome? (fun t => (stripPrefix ['('] t).bind parseU64) =
      some r.bytes := by
    -- the first word with an opening bracket is the one with the size
    have hcount : stripPrefix ['('] (Nat.toDigits 10 r.packets) = none := by
      refine stripPrefix_eq_none fun ⟨more, hmore⟩ => ?_
      exact toDigits_ne r.packets (c := '(') (by simp) (by decide) hmore.symm
    have hsize : stripPrefix ['('] ('(' :: Nat.toDigits 10 r.bytes) =
        some (Nat.toDigits 10 r.bytes) := stripPrefix_append ['('] _
    rw [r.words_line, r.words_rest, List.findSome?_cons,
      show stripPrefix ['('] actualMark = none by decide, List.findSome?_cons, hcount,
      List.findSome?_cons, show stripPrefix ['('] "packets".toList = none by decide,
      List.findSome?_cons, hsize]
    simp only [Option.bind_none, Option.bind_some, parseU64_toDigits r.bytes_lt]
  have hsecs : wordBehind "in".toList (words isWhiteSpace r.line) = some r.secs := by
    have hfirst : "in".toList ≠ Nat.toDigits 10 r.packets :=
      (toDigits_ne r.packets (c := 'i') (by decide) (by decide)).symm
    have hsecond : "in".toList ≠ '(' :: Nat.toDigits 10 r.bytes := fun h => by cases h
    rw [r.words_line, r.words_rest, wordBehind, if_pos (by simp)]
    rw [List.idxOf_cons_ne _ (by decide), List.idxOf_cons_ne _ hfirst.symm,
      List.idxOf_cons_ne _ (by decide), List.idxOf_cons_ne _ hsecond.symm,
      List.idxOf_cons_ne _ (by decide), List.idxOf_cons_ne _ (by decide), List.idxOf_cons_self]
    rfl
  rw [parseRate, hfind]
  dsimp only
  rw [hpackets, hbytes, hsecs, Option.bind_some, Option.bind_some,
    parseU64_toDigits r.packets_lt, hread]
  exact if_pos hpos

/-- **What a send is said to have done is what was reported**: a run whose text is a report is
read as that report, and counts as sent exactly if the process succeeded, was not killed, printed
no fatal error, and sent something. -/
theorem runOnce_report {F : Type} [NatCast F] [Mul F] [Div F] [Zero F] [LT F] [DecidableLT F]
    (readF : List Char → Option F) (times : WatchdogTimes) (run : ReplayRun) (s s' : WatchdogState)
    (r : ReplayReport) (before : List (List Char)) (rest : List Char) (secs : F)
    (code : Option Int) (killed : Bool) (hspawned : run.spawned = .ok ())
    (hwait : waitChild times run.rounds s.begin false = some (.ok (code, killed), s'))
    (htext : run.stdout ++ run.stderr = r.text before rest)
    (hbefore : ∀ l ∈ before, '\n' ∉ l) (hsilent : ∀ l ∈ before, ¬ Announces (chomp l))
    (hread : readF r.secs = some secs) (hpos : 0 < secs) :
    ∃ res, runOnce readF times run s = some (.ok res, s'.finish) ∧
      res.packets = some r.packets ∧ res.pps = some ((r.packets : F) / secs) ∧
      res.mbps = some ((r.bytes : F) * ((8 : Nat) : F) / secs / ((1000000 : Nat) : F)) ∧
      (res.success = true ↔ code = some 0 ∧ killed = false ∧
        isFatal (run.stdout ++ run.stderr) = false ∧ 0 < r.packets) := by
  have hcount := parsePackets_report r hbefore hsilent rest
  have hrate := parseRate_report readF r hbefore hsilent rest hread hpos
  rw [← htext] at hcount hrate
  refine ⟨run.result readF code killed, ?_, hcount, ?_, ?_, ?_⟩
  · rw [runOnce, hspawned]
    dsimp only
    rw [hwait]
  · exact congrArg Prod.fst hrate
  · exact congrArg Prod.snd hrate
  · show (decide (code = some 0) && !killed && !isFatal (run.stdout ++ run.stderr) &&
      decide (parsePackets (run.stdout ++ run.stderr) ≠ some 0)) = true ↔ _
    rw [hcount]
    simp [Nat.pos_iff_ne_zero, and_assoc]

/-- A report of two packets. -/
def twoPackets : ReplayReport where
  packets := 2
  bytes := 148
  secs := "0.5".toList
  packets_lt := by decide
  bytes_lt := by decide
  secs_ne := by decide
  secs_word := word_of_all rfl

/-- A send that prints its report behind a warning. -/
def warnedRun : ReplayRun where
  spawned := .ok ()
  rounds := [⟨[some 7], .running⟩, ⟨[some 9], .exited (some 0)⟩]
  stdout := twoPackets.text ["Warning: slow".toList] "Flows: 1\n".toList
  stderr := []

theorem runOnce_report_two : ∃ (s' : WatchdogState) (res : ReplayResult Int),
    runOnce (fun _ => some (5 : Int)) defaultTimes warnedRun .spawned = some (.ok res, s'.finish) ∧
      res.packets = some 2 ∧ res.pps = some (((2 : Nat) : Int) / 5) ∧
      res.mbps = some (((148 : Nat) : Int) * ((8 : Nat) : Int) / 5 / ((1000000 : Nat) : Int)) ∧
      (res.success = true ↔ some (0 : Int) = some 0 ∧ false = false ∧
        isFatal (warnedRun.stdout ++ warnedRun.stderr) = false ∧ 0 < 2) := by
  have hwait : (waitChild defaultTimes warnedRun.rounds WatchdogState.spawned.begin false).map
      Prod.fst = some (.ok (some 0, false)) := by decide
  obtain ⟨⟨out, s'⟩, hrun, rfl⟩ := Option.map_eq_some_iff.mp hwait
  refine ⟨s', runOnce_report (fun _ => some 5) defaultTimes warnedRun .spawned s' twoPackets
    ["Warning: slow".toList] "Flows: 1\n".toList 5 (some 0) false rfl hrun (List.append_nil _) ?_ ?_
    rfl (by decide)⟩
  · decide
  · decide

/-! ## The child and the watchdog -/

/-- The turns of the poll thread over a list of looks. -/
def pollEvents (rounds : List ChildRound) : List WatchdogEvent :=
  rounds.flatMap fun r => r.readings.map .poll

section Watching

variable {times : WatchdogTimes} {done : List WatchdogEvent} {s : WatchdogState}

theorem Watched.pollAll (h : Watched times done s) (readings : List (Option UInt64)) :
    Watched times (done ++ readings.map .poll) (s.pollAll times readings) ∧
      (s.pollAll times readings).active = s.active := by
  induction readings generalizing done s with
  | nil => exact ⟨(List.append_nil done).symm ▸ h, rfl⟩
  | cons tx readings ih =>
    have hactive : (s.poll times tx).active = s.active := by
      unfold WatchdogState.poll
      split <;> rfl
    obtain ⟨hwatched, hsame⟩ := ih (h.poll tx)
    rw [List.append_assoc, List.singleton_append] at hwatched
    exact ⟨hwatched, hsame.trans hactive⟩

/-- A kill is owed to the looks so far. -/
def KillOwed (times : WatchdogTimes) (done : List WatchdogEvent) (rounds : List ChildRound) : Prop :=
  ∃ looks, looks <+: rounds ∧ FlatFor times (sinceBegin (done ++ pollEvents looks))

theorem waitChild_watched {rounds : List ChildRound} (hs : Watched times done s)
    (hactive : s.active = true) {was killed : Bool} {code : Option Int} {s' : WatchdogState}
    (hwait : waitChild times rounds s was = some (.ok (code, killed), s'))
    (hkilled : killed = true) : was = true ∨ KillOwed times done rounds := by
  induction rounds generalizing done s was with
  | nil => cases hwait
  | cons r rounds ih =>
    obtain ⟨hpolled, hsame⟩ := hs.pollAll r.readings
    rw [hactive] at hsame
    unfold waitChild at hwait
    cases hfound : r.found with
    | failed err =>
      rw [hfound] at hwait
      cases hwait
    | exited code' =>
      rw [hfound] at hwait
      cases hwait
      exact .inl hkilled
    | running =>
      rw [hfound] at hwait
      -- the polls before this look come first, then those before the later ones
      have hlook : ∀ looks, done ++ r.readings.map .poll ++ pollEvents looks =
          done ++ pollEvents (r :: looks) := fun looks => by
        rw [pollEvents, pollEvents, List.flatMap_cons, List.append_assoc]
      rcases ih hpolled hsame hwait with hwas | ⟨looks, hlooks, hflat⟩
      · rcases Bool.or_eq_true _ _ |>.mp hwas with hold | htripped
        · exact .inl hold
        · -- this look found the flag set
          refine .inr ⟨[r], ⟨rounds, rfl⟩, ?_⟩
          rw [← hlook []]
          exact (List.append_nil _).symm ▸ hpolled.trip hsame htripped
      · refine .inr ⟨r :: looks, List.cons_prefix_cons.mpr ⟨rfl, hlooks⟩, ?_⟩
        rw [← hlook looks]
        exact hflat

end Watching

/-- A counter that stands still until the child is killed. -/
def flatRounds : List ChildRound :=
  [⟨[some 7, some 7, some 7, some 7], .running⟩, ⟨[some 7, some 7, some 7], .running⟩,
    ⟨[], .exited none⟩]

end TurboLaser
