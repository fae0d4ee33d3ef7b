import TurboLaser.Lib.Parted
import TurboLaser.Reload.Family
import TurboLaser.Run.Replay
import TurboLaser.Simulate.AssetCap

/-!
# What families leave in the out dir

The files of a family are told apart by their names, so no round overwrites another; a later reload
overwrites a round only by the same round. The name of a round has the stem of the input, the number
of the round and the seed, between dashes; that the three can be told from the name rests on what
numbers are written with, and works for any stem, with dashes or without.

The loop over the rounds writes into a directory that may hold anything. Its invariant
(`RoundsLeave`) says what the first rounds have left: their own files, those that were there under
other names, and entries for the captures that were written. A round that is not written leaves no
entry, and is counted as a failure.

- `roundName_inj`: **a name tells stem, number and seed**;
- `rounds_spec`: what the rounds have left so far;
- `reload_family`: **what one reload leaves, and when its exit code is zero**;
- `parseSeed_hexText`: the seed a manifest shows can be given back;
- `index_right`: **over any reloads, every entry of the index names a whole capture, forged as it
  says.** A capture may be written again by a later reload with the same stem and seed; if the same
  input is behind it, that makes no difference.
-/

namespace TurboLaser

open Lib Synth

/-! ## Names -/

/-- What stands before the last separator, and what behind it, is given back. -/
theorem append_sep_inj {α : Type} {sep : α} {xs xs' ys ys' : List α} (hy : sep ∉ ys)
    (hy' : sep ∉ ys') (h : xs ++ sep :: ys = xs' ++ sep :: ys') : xs = xs' ∧ ys = ys' := by
  have hrev := congrArg List.reverse h
  simp only [List.reverse_append, List.reverse_cons, List.append_assoc, List.singleton_append]
    at hrev
  have hbefore : sep ∉ ys.reverse := by rwa [List.mem_reverse]
  have hbefore' : sep ∉ ys'.reverse := by rwa [List.mem_reverse]
  obtain ⟨hys, hxs⟩ := (append_inj_of_sep hbefore hbefore' (by simp) (by simp)).mp hrev
  exact ⟨List.reverse_inj.mp (List.cons.inj hxs).2, List.reverse_inj.mp hys⟩

theorem hexDigit_digitChar : ∀ d < 16, hexDigit (Nat.digitChar d) = some d := by decide

theorem decDigit_digitChar : ∀ d < 10, hexDigit (Nat.digitChar d) = some d := by decide

/-- A digit is neither of the letters between the parts of a name. -/
theorem mem_hexText {seed : UInt64} {c : Char} (h : c ∈ hexText seed) :
    ∃ d < 16, c = Nat.digitChar d := by
  unfold hexText at h
  generalize seed.toNat = n at h
  induction n using Nat.strongRecOn with
  | ind n ih =>
    rw [Nat.toDigits_eq_if (by decide)] at h
    split at h
    · next hlt => exact ⟨n, hlt, List.mem_singleton.mp h⟩
    · rcases List.mem_append.mp h with h | h
      · exact ih (n / 16) (by omega) h
      · exact ⟨n % 16, Nat.mod_lt _ (by decide), List.mem_singleton.mp h⟩

theorem dash_notMem_hexText (seed : UInt64) : '-' ∉ hexText seed := by
  intro h
  obtain ⟨d, hd, hc⟩ := mem_hexText h
  exact (by decide : ∀ d < 16, '-' ≠ Nat.digitChar d) d hd hc

theorem v_notMem_pad (n : Nat) : 'v' ∉ pad 4 (Nat.toDigits 10 n) := by
  intro h
  rcases mem_pad h with h | h
  · exact absurd h (by decide)
  · have hdigit := Nat.isDigit_of_mem_toDigits (by decide) (by decide) h
    exact absurd hdigit (by decide)

/-- **A name tells stem, number and seed.** -/
theorem roundName_inj {stem stem' : String} {i i' : Nat} {seed seed' : UInt64} :
    roundName stem i seed = roundName stem' i' seed' ↔ stem = stem' ∧ i = i' ∧ seed = seed' := by
  constructor
  · intro h
    have hchars := String.ofList_injective h
    have hshape : ∀ (stem : String) (i : Nat) (seed : UInt64),
        stem.toList ++ "__v".toList ++ pad 4 (Nat.toDigits 10 (i + 1)) ++ "__seed-".toList ++
            hexText seed =
          ((stem.toList ++ ['_', '_']) ++ 'v' :: pad 4 (Nat.toDigits 10 (i + 1)) ++
            "__seed".toList) ++ '-' :: hexText seed := by
      intro stem i seed
      simp
    rw [hshape, hshape] at hchars
    -- the stem may hold anything, so the name is read from its end: the last dash, then the last v
    obtain ⟨hleft, hhex⟩ := append_sep_inj (dash_notMem_hexText seed) (dash_notMem_hexText seed')
      hchars
    obtain ⟨hstem, hnumber⟩ := append_sep_inj (v_notMem_pad (i + 1)) (v_notMem_pad (i' + 1))
      (List.append_cancel_right hleft)
    refine ⟨String.toList_inj.mp (List.append_cancel_right hstem), ?_, ?_⟩
    · have hsucc := pad_toDigits_inj (by decide) decDigit_digitChar hnumber
      omega
    · have hread := congrArg (readFrom hexDigit 16 0) hhex
      rw [hexText, hexText, readFrom_toDigits (by decide) hexDigit_digitChar,
        readFrom_toDigits (by decide) hexDigit_digitChar] at hread
      exact UInt64.toNat_inj.mp (Option.some.inj hread)
  · rintro ⟨rfl, rfl, rfl⟩
    rfl

/-- **The seed a manifest shows can be given back**, behind `0x`: it is read as hexadecimal, and as
the seed it was. -/
theorem parseSeed_hexText (seed : UInt64) :
    parseSeed (some (String.ofList ('0' :: 'x' :: hexText seed))) = some seed := by
  have hplain : ∀ d < 16, isWhiteSpace (Nat.digitChar d) = false ∧ Nat.digitChar d ≠ '+' := by
    decide
  have htrim : trim isWhiteSpace ('0' :: 'x' :: hexText seed) = '0' :: 'x' :: hexText seed := by
    refine trim_of_ends (fun c hc => ?_) fun c hc => ?_
    · obtain rfl := Option.some.inj hc
      decide
    · have hne : hexText seed ≠ [] := Nat.toDigits_ne_nil
      rw [List.getLast?_cons_cons, List.getLast?_cons_of_ne_nil hne] at hc
      obtain ⟨d, hd, rfl⟩ := mem_hexText (List.mem_of_getLast? hc)
      exact (hplain d hd).1
  -- the reader of numerals takes a sign, and a hexadecimal digit is none
  have hsign : (hexText seed).head? ≠ some '+' := by
    intro h
    obtain ⟨d, hd, hc⟩ := mem_hexText (List.mem_of_head? h)
    exact (hplain d hd).2 hc.symm
  have hread : parseHex64 (hexText seed) = some seed.toNat := by
    unfold parseHex64
    dsimp only
    rw [if_neg hsign, hexText, readNumeral_toDigits (by decide) hexDigit_digitChar]
    exact Option.filter_some_pos (decide_eq_true seed.toNat_lt)
  have hstrip : stripPrefix ['0', 'x'] ('0' :: 'x' :: hexText seed) = some (hexText seed) :=
    stripPrefix_append ['0', 'x'] (hexText seed)
  unfold parseSeed
  dsimp only
  rw [String.toList_ofList, htrim, hstrip, Option.some_or]
  dsimp only
  rw [hread, Option.map_some, UInt64.ofNat_toNat]

/-! ## The rounds

A round writes one capture and is listed if the write went well. Names carry the number of the
round, so a later round never writes over an earlier one. A write that fails may leave half a
capture behind, and the command goes on.
-/

section Command

variable {seedFrom : UInt64 → Rng} {crc : List UInt8 → UInt16} {ids : List EnipId}
  {args : ReloadArgs} {src : Capture}
  {base : UInt64} {env : ReloadEnv} {dir : OutDir}

/-- The rounds whose captures were written. -/
def writtenRounds (env : ReloadEnv) (count : Nat) : List Nat :=
  (List.range count).filter fun i => decide ((env.rounds i).pcap = .done)

/-- **What the first rounds leave.** -/
structure RoundsLeave (seedFrom : UInt64 → Rng) (crc : List UInt8 → UInt16) (ids : List EnipId)
    (args : ReloadArgs) (src : Capture) (base : UInt64) (env : ReloadEnv) (dir : OutDir)
    (count : Nat) (st : ReloadState) : Prop where
  pcaps : ∀ i < count, st.dir.pcaps (args.name base i) =
    (env.rounds i).pcap.leaves (dir.pcaps (args.name base i))
      (args.forge seedFrom crc ids src base i).1
  manifests : ∀ i < count, (env.rounds i).pcap = .done →
    st.dir.manifests (args.name base i) = (env.rounds i).manifest.leaves
      (dir.manifests (args.name base i)) (args.manifest seedFrom crc ids src base i)
  others : ∀ name, (∀ i < count, name ≠ args.name base i) →
    st.dir.pcaps name = dir.pcaps name ∧ st.dir.manifests name = dir.manifests name
  untouched : st.dir.index = dir.index
  index : st.index = dir.loadIndex ++
    (writtenRounds env count).map (args.entry seedFrom crc ids src base)
  ok : st.ok = true ↔ ∀ i < count, (env.rounds i).pcap = .done ∧
    (env.rounds i).clean args.validate = true

theorem name_inj {i j : Nat} (h : args.name base i = args.name base j) : i = j :=
  (roundName_inj.mp h).2.1

theorem writtenRounds_succ (env : ReloadEnv) (count : Nat) :
    writtenRounds env (count + 1) =
      writtenRounds env count ++ if (env.rounds count).pcap = .done then [count] else [] := by
  unfold writtenRounds
  rw [List.range_succ, List.filter_append, List.filter_singleton]
  by_cases hdone : (env.rounds count).pcap = .done
  · simp [hdone]
  · simp [hdone]

/-- One more round leaves the earlier ones alone. -/
theorem rounds_spec (count : Nat) : RoundsLeave seedFrom crc ids args src base env dir count
    (reloadRounds seedFrom crc ids args src base env dir count) := by
  induction count with
  | zero =>
    refine ⟨nofun, nofun, fun _ _ => ⟨rfl, rfl⟩, rfl, (List.append_nil _).symm, ?_⟩
    exact ⟨fun _ => nofun, fun _ => rfl⟩
  | succ count ih =>
    have hsucc : reloadRounds seedFrom crc ids args src base env dir (count + 1) =
        reloadRound seedFrom crc ids args src base env
          (reloadRounds seedFrom crc ids args src base env dir count) count := by
      unfold reloadRounds
      rw [List.range_succ, List.foldl_append]
      rfl
    generalize reloadRounds seedFrom crc ids args src base env dir count = st at ih hsucc
    rw [hsucc]
    obtain ⟨hpcaps, hmanifests, hothers, huntouched, hindex, hok⟩ := ih
    -- the names of the earlier rounds are others
    have hname : ∀ i < count, args.name base i ≠ args.name base count :=
      fun i hi heq => absurd (name_inj heq) (by omega)
    have hfresh := hothers (args.name base count) fun i hi heq => hname i hi heq.symm
    have hpcaps' : ∀ i < count + 1, Function.update st.dir.pcaps (args.name base count)
        ((env.rounds count).pcap.leaves (st.dir.pcaps (args.name base count))
          (args.forge seedFrom crc ids src base count).1) (args.name base i) =
        (env.rounds i).pcap.leaves (dir.pcaps (args.name base i))
          (args.forge seedFrom crc ids src base i).1 := by
      intro i hi
      by_cases hlast : i = count
      · rw [hlast, Function.update_self, hfresh.1]
      · rw [Function.update_of_ne (hname i (by omega)), hpcaps i (by omega)]
    unfold reloadRound
    dsimp only
    split
    · next hdone =>
      refine ⟨hpcaps', fun i hi hwritten => ?_, fun name hother => ?_, huntouched, ?_, ?_⟩
      · dsimp only
        by_cases hlast : i = count
        · rw [hlast, Function.update_self, hfresh.2]
        · rw [Function.update_of_ne (hname i (by omega)), hmanifests i (by omega) hwritten]
      · have hne := hother count (by omega)
        obtain ⟨hpcap, hmanifest⟩ := hothers name fun i hi => hother i (by omega)
        dsimp only
        rw [Function.update_of_ne hne, Function.update_of_ne hne]
        exact ⟨hpcap, hmanifest⟩
      · rw [hindex, writtenRounds_succ, if_pos hdone, List.map_append, List.append_assoc]
        rfl
      · rw [Bool.and_eq_true, hok, Nat.forall_lt_succ_right]
        exact and_congr_right fun _ => ⟨fun hclean => ⟨hdone, hclean⟩, And.right⟩
    · next hlost =>
      refine ⟨hpcaps', fun i hi hwritten => ?_, fun name hother => ?_, huntouched, ?_, ?_⟩
      · have hne : i ≠ count := fun heq => hlost (heq ▸ hwritten)
        exact hmanifests i (by omega) hwritten
      · have hne := hother count (by omega)
        obtain ⟨hpcap, hmanifest⟩ := hothers name fun i hi => hother i (by omega)
        dsimp only
        rw [Function.update_of_ne hne]
        exact ⟨hpcap, hmanifest⟩
      · rw [hindex, writtenRounds_succ, if_neg hlost, List.append_nil]
      · rw [Nat.forall_lt_succ_right]
        exact ⟨fun hno => absurd hno Bool.false_ne_true, fun hall => absurd hall.2.1 hlost⟩

/-- **A command that gets to its rounds.** -/
theorem reload_eq (hbase : parseSeed args.seedBase = some base) (hinput : env.input = .ok src)
    (hmkdir : env.mkdir = true) : reload seedFrom crc ids args env dir =
      (if (reloadRounds seedFrom crc ids args src base env dir args.count).ok then 0 else 1,
        { (reloadRounds seedFrom crc ids args src base env dir args.count).dir with
          index := env.index.leaves
            (reloadRounds seedFrom crc ids args src base env dir args.count).dir.index
            (reloadRounds seedFrom crc ids args src base env dir args.count).index }) := by
  unfold reload
  rw [hbase, hinput, hmkdir]
  exact if_neg Bool.noConfusion

end Command

/-! ## One family -/

/-- **What one reload leaves.** -/
structure FamilyLeft (seedFrom : UInt64 → Rng) (crc : List UInt8 → UInt16) (ids : List EnipId)
    (args : ReloadArgs) (src : Capture) (base : UInt64) (env : ReloadEnv) (dir : OutDir)
    (out : Nat × OutDir) : Prop where
  /-- The exit code is zero when every capture was written, and nothing was found wrong with it. -/
  code : out.1 = 0 ↔ ∀ i < args.count, (env.rounds i).pcap = .done ∧
    (env.rounds i).clean args.validate = true
  /-- No later round overwrites a round. -/
  captures : ∀ i < args.count, (env.rounds i).pcap = .done → out.2.pcaps (args.name base i) =
    some (.whole (args.forge seedFrom crc ids src base i).1)
  manifests : ∀ i < args.count, (env.rounds i).pcap = .done → (env.rounds i).manifest = .done →
    out.2.manifests (args.name base i) = some (.whole (args.manifest seedFrom crc ids src base i))
  others : ∀ name, (∀ i < args.count, name ≠ args.name base i) →
    out.2.pcaps name = dir.pcaps name ∧ out.2.manifests name = dir.manifests name
  index : env.index = .done → out.2.loadIndex = dir.loadIndex ++
    (writtenRounds env args.count).map (args.entry seedFrom crc ids src base)
  /-- No two new entries are for one file. -/
  files : (((writtenRounds env args.count).map (args.entry seedFrom crc ids src base)).map
    IndexEntry.file).Nodup

/-- A capture of one frame that is not IP. -/
def lldpCapture : Capture :=
  ⟨[{ ts := 1, origLen := 60,
      data := [0xff, 0xff, 0xff, 0xff, 0xff, 0xff, 2, 0, 0, 0, 0, 1, 0x88, 0xcc] ++
        List.replicate 46 0 }]⟩

/-- Two rounds of it. -/
def twoRounds : ReloadArgs :=
  { stem := some "modbus"
    proto := none
    seedBase := some "0x10"
    count := 2
    mode := .redLaser
    remapL3 := false
    validate := true }

/-- The disk takes everything, and there is no `tshark`. -/
def calmEnv : ReloadEnv := ⟨.ok lldpCapture, true, fun _ => ⟨.done, .done, none⟩, .done⟩

/-- One call of the command, with what it meets. -/
abbrev ReloadCall := ReloadArgs × ReloadEnv

/-- The out dir behind some reloads. -/
def afterReloads (seedFrom : UInt64 → Rng) (crc : List UInt8 → UInt16) (ids : List EnipId)
    (dir : OutDir) (calls : List ReloadCall) : OutDir :=
  calls.foldl (fun dir c => (reload seedFrom crc ids c.1 c.2 dir).2) dir

/-- **Every entry of the index is right**: it names a whole capture, the round of its source under
its seed, with as many frames and unique mutations as it says. -/
def IndexRight (seedFrom : UInt64 → Rng) (crc : List UInt8 → UInt16) (ids : List EnipId)
    (plan : String → Capture × ReloadOptions) (dir : OutDir) : Prop :=
  ∀ e ∈ dir.loadIndex, ∃ stem i, e.file = roundName stem i e.seed ++ ".pcap" ∧
    dir.pcaps (roundName stem i e.seed) =
      some (.whole (forgeRound seedFrom crc ids (plan stem).1 e.seed (plan stem).2).1) ∧
    e.frames =
      (forgeRound seedFrom crc ids (plan stem).1 e.seed (plan stem).2).1.packets.length ∧
    e.mutations = (uniqueMutations
      (forgeRound seedFrom crc ids (plan stem).1 e.seed (plan stem).2).2.mutations).length

/-- A call keeps to a plan: what it forges from is decided by the stem of its input, and no capture
is left half written. -/
structure ReloadCall.Keeps (plan : String → Capture × ReloadOptions) (c : ReloadCall) : Prop where
  source : ∀ src, c.2.input = .ok src → plan c.1.stemText = (src, c.1.options)
  whole : ∀ i < c.1.count, (c.2.rounds i).pcap ≠ .torn

section Calls

variable {seedFrom : UInt64 → Rng} {crc : List UInt8 → UInt16} {ids : List EnipId}
  {plan : String → Capture × ReloadOptions}
  {dir : OutDir}

/-- A call stops early, or it leaves what its rounds left. -/
theorem reload_cases (seedFrom : UInt64 → Rng) (c : ReloadCall) :
    (reload seedFrom crc ids c.1 c.2 dir).2 = dir ∨
      ∃ base src, c.2.input = .ok src ∧ ∃ st, RoundsLeave seedFrom crc ids c.1 src base c.2 dir
        c.1.count st ∧ (reload seedFrom crc ids c.1 c.2 dir).2 =
          { st.dir with index := c.2.index.leaves st.dir.index st.index } := by
  cases hbase : parseSeed c.1.seedBase with
  | none =>
    refine .inl ?_
    unfold reload
    rw [hbase]
  | some base =>
    cases hinput : c.2.input with
    | error err =>
      refine .inl ?_
      unfold reload
      rw [hbase, hinput]
    | ok src =>
      cases hmkdir : c.2.mkdir with
      | false =>
        refine .inl ?_
        unfold reload
        rw [hbase, hinput, hmkdir]
        rfl
      | true =>
        refine .inr ⟨base, src, rfl, _, rounds_spec c.1.count, ?_⟩
        rw [reload_eq hbase hinput hmkdir]

/-- **A call keeps the index right.** -/
theorem IndexRight.reload {c : ReloadCall} (h : IndexRight seedFrom crc ids plan dir)
    (hkeeps : c.Keeps plan) :
    IndexRight seedFrom crc ids plan (reload seedFrom crc ids c.1 c.2 dir).2 := by
  rcases reload_cases seedFrom c with heq | ⟨base, src, hinput, st, hleave, heq⟩
  · rwa [heq]
  · rw [heq]
    have hplan := hkeeps.source src hinput
    have hforge : ∀ i, c.1.forge seedFrom crc ids src base i =
        forgeRound seedFrom crc ids (plan c.1.stemText).1 (roundSeed base i)
          (plan c.1.stemText).2 := by
      intro i
      rw [hplan]
      rfl
    -- a right capture is overwritten by itself only
    have hkept : ∀ stem i seed, dir.pcaps (roundName stem i seed) =
          some (.whole (forgeRound seedFrom crc ids (plan stem).1 seed (plan stem).2).1) →
        st.dir.pcaps (roundName stem i seed) =
          some (.whole (forgeRound seedFrom crc ids (plan stem).1 seed (plan stem).2).1) := by
      intro stem i seed hold
      by_cases hmine : ∃ j < c.1.count, roundName stem i seed = c.1.name base j
      · obtain ⟨j, hj, hname⟩ := hmine
        obtain ⟨rfl, -, rfl⟩ := roundName_inj.mp hname
        have hleft := hleave.pcaps j hj
        rw [← hname, hold] at hleft
        rw [hleft]
        cases hout : (c.2.rounds j).pcap with
        | done => exact congrArg (fun r => some (OutFile.whole (Prod.fst r))) (hforge j)
        | refused => rfl
        | torn => exact absurd hout (hkeeps.whole j hj)
      · rw [(hleave.others _ fun j hj hname => hmine ⟨j, hj, hname⟩).1]
        exact hold
    intro e he
    have hsource : e ∈ dir.loadIndex ∨ ∃ i ∈ writtenRounds c.2 c.1.count,
        e = c.1.entry seedFrom crc ids src base i := by
      cases hindex : c.2.index with
      | done =>
        rw [hindex] at he
        have he' : e ∈ st.index := he
        rw [hleave.index, List.mem_append, List.mem_map] at he'
        exact he'.imp_right fun ⟨i, hi, heq⟩ => ⟨i, hi, heq.symm⟩
      | refused =>
        rw [hindex] at he
        unfold OutDir.loadIndex at he ⊢
        rw [← hleave.untouched]
        exact .inl he
      | torn =>
        rw [hindex] at he
        cases he
    rcases hsource with hold | ⟨i, hi, rfl⟩
    · obtain ⟨stem, i, hfile, hpcap, hframes, hmutations⟩ := h e hold
      exact ⟨stem, i, hfile, hkept stem i e.seed hpcap, hframes, hmutations⟩
    · obtain ⟨hrange, hdone⟩ := List.mem_filter.mp hi
      have hleft := hleave.pcaps i (List.mem_range.mp hrange)
      rw [of_decide_eq_true hdone] at hleft
      refine ⟨c.1.stemText, i, rfl, hleft.trans ?_, ?_, ?_⟩
      · exact congrArg (fun r => some (OutFile.whole (Prod.fst r))) (hforge i)
      · exact congrArg (fun r => r.1.packets.length) (hforge i)
      · exact congrArg (fun r => (uniqueMutations (RoundResult.mutations r.2)).length) (hforge i)

/-- A call loses no entry, unless it leaves the index half written. -/
theorem reload_index_extends {c : ReloadCall} (hindex : c.2.index ≠ .torn) :
    dir.loadIndex <+: (reload seedFrom crc ids c.1 c.2 dir).2.loadIndex := by
  rcases reload_cases seedFrom c with heq | ⟨base, src, hinput, st, hleave, heq⟩
  · rw [heq]
  · rw [heq]
    cases hout : c.2.index with
    | done =>
      show dir.loadIndex <+: st.index
      rw [hleave.index]
      exact List.prefix_append _ _
    | refused =>
      unfold OutDir.loadIndex
      rw [← hleave.untouched]
      exact List.prefix_rfl
    | torn => exact absurd hout hindex

/-- **Many families in one dir.** Over any reloads into a directory, as long as the stem of an
input decides what is forged from it and no capture is left half written, every entry of the index
names a whole capture, forged under the entry's seed, with the frames and mutations it says; and no
entry is lost unless an index is left half written. -/
theorem index_right (calls : List ReloadCall) (hstart : IndexRight seedFrom crc ids plan dir)
    (hkeeps : ∀ c ∈ calls, ReloadCall.Keeps plan c) :
    IndexRight seedFrom crc ids plan (afterReloads seedFrom crc ids dir calls) ∧
      ((∀ c ∈ calls, c.2.index ≠ .torn) →
        dir.loadIndex <+: (afterReloads seedFrom crc ids dir calls).loadIndex) := by
  induction calls generalizing dir with
  | nil => exact ⟨hstart, fun _ => List.prefix_rfl⟩
  | cons c calls ih =>
    obtain ⟨hright, hextends⟩ := ih (hstart.reload (hkeeps c List.mem_cons_self))
      fun c' hc' => hkeeps c' (List.mem_cons_of_mem _ hc')
    refine ⟨hright, fun hindex => ?_⟩
    exact (reload_index_extends (hindex c List.mem_cons_self)).trans
      (hextends fun c' hc' => hindex c' (List.mem_cons_of_mem _ hc'))

end Calls

/-- Two families of one source, the second longer than the first. -/
theorem index_right_twice :
    IndexRight (fun _ => zeroRng) Synth.crcDnp3 [] (fun _ => (lldpCapture, twoRounds.options))
        (afterReloads (fun _ => zeroRng) Synth.crcDnp3 [] .empty
          [(twoRounds, calmEnv), ({ twoRounds with count := 3 }, calmEnv)]) ∧
      ((∀ c ∈ [(twoRounds, calmEnv), ({ twoRounds with count := 3 }, calmEnv)],
          c.2.index ≠ .torn) →
        OutDir.empty.loadIndex <+: (afterReloads (fun _ => zeroRng) Synth.crcDnp3 [] .empty
          [(twoRounds, calmEnv), ({ twoRounds with count := 3 }, calmEnv)]).loadIndex) := by
  refine index_right _ nofun fun c hc => ?_
  simp only [List.mem_cons, List.not_mem_nil, or_false] at hc
  rcases hc with rfl | rfl
  · exact ⟨fun src hsrc => Except.ok.inj hsrc ▸ rfl, fun _ _ => WriteOutcome.noConfusion⟩
  · exact ⟨fun src hsrc => Except.ok.inj hsrc ▸ rfl, fun _ _ => WriteOutcome.noConfusion⟩

end TurboLaser
