import Mathlib.Data.List.Induction
import TurboLaser.Proto.Mapper

/-!
# Sequences of mapped identifiers (proto/mapper.rs)

`map_range` draws a value that its domain has not given out yet. It draws at most 65 times: "if the
space is nearly full we accept whatever we drew rather than loop forever". So two originals can get
one value, and they do exactly where a new original has drawn used values only.

A mapper serves several domains with one generator, so whether a call draws an unused value depends
on every call before it, in any domain: they all move the stream on. The statement is therefore
about a whole sequence of calls. `drawAt` names the draw of the stream that a call sees first, which
makes the condition one on the stream and the calls, without a mapper in it.

- `Told`: what a mapper has on record after a sequence of calls, and what its domains have used. It
  is the invariant: the answers on record are the answers that were given, and the used values of a
  domain are exactly these;
- `mem_used_drawUnused`: a used value is returned exactly if all 65 draws are used;
- `mapCalls_distinct_iff`: **distinct originals of a domain get distinct values exactly if each new
  one draws an unused value among its 65**; and in any case every value is in the range and an
  original gets its value again.
-/

namespace TurboLaser

/-- The arguments of one call of `map_range`. -/
structure MapCall where
  domain : Domain
  orig : UInt64
  lo : UInt64
  hi : UInt64
deriving DecidableEq

/-- Calls of `map_range` one after the other, each with its answer. -/
def SeededMapper.mapCalls (m : SeededMapper) :
    List MapCall → List (MapCall × UInt64) × SeededMapper
  | [] => ([], m)
  | c :: calls =>
    let (v, m) := m.mapRange c.domain c.orig c.lo c.hi
    let (answers, m) := m.mapCalls calls
    ((c, v) :: answers, m)

/-- The draws of a generator from here on, for a range. -/
def Rng.drawAt (rng : Rng) (lo hi : UInt64) (k : Nat) : UInt64 :=
  (Rng.genRangeIncl ⟨rng.draw, rng.pos + k⟩ lo hi).1

/-! ## One draw -/

theorem Rng.genRangeIncl_mem (rng : Rng) {lo hi : UInt64} (hle : lo ≤ hi) :
    lo ≤ (rng.genRangeIncl lo hi).1 ∧ (rng.genRangeIncl lo hi).1 ≤ hi := by
  have hhi := hi.toNat_lt
  rw [UInt64.le_iff_toNat_le] at hle
  have hmod : rng.draw rng.pos % (hi.toNat - lo.toNat + 1) < hi.toNat - lo.toNat + 1 :=
    Nat.mod_lt _ (Nat.succ_pos _)
  have hvalue : (rng.genRangeIncl lo hi).1.toNat =
      lo.toNat + rng.draw rng.pos % (hi.toNat - lo.toNat + 1) := by
    show (UInt64.ofNat (lo.toNat + rng.draw rng.pos % (hi.toNat - lo.toNat + 1))).toNat = _
    rw [UInt64.toNat_ofNat', Nat.mod_eq_of_lt (by omega)]
  rw [UInt64.le_iff_toNat_le, UInt64.le_iff_toNat_le, hvalue]
  omega

theorem redraw_mem {lo hi : UInt64} (hle : lo ≤ hi) (used : Finset UInt64) (tries : Nat)
    {candidate : UInt64} (hcandidate : lo ≤ candidate ∧ candidate ≤ hi) (rng : Rng) :
    lo ≤ (redraw used lo hi tries candidate rng).1 ∧
      (redraw used lo hi tries candidate rng).1 ≤ hi := by
  induction tries generalizing candidate rng with
  | zero => exact hcandidate
  | succ tries ih =>
    unfold redraw
    split
    · exact hcandidate
    · exact ih (rng.genRangeIncl_mem hle) _

/-- The retries return a used value exactly if the candidate and every retry is used. -/
theorem mem_used_redraw {lo hi : UInt64} {used : Finset UInt64} {tries : Nat} {candidate : UInt64}
    {rng : Rng} : (redraw used lo hi tries candidate rng).1 ∈ used ↔
      candidate ∈ used ∧ ∀ k < tries, rng.drawAt lo hi k ∈ used := by
  induction tries generalizing candidate rng with
  | zero =>
    constructor
    · exact fun h => ⟨h, fun k hk => absurd hk (Nat.not_lt_zero k)⟩
    · exact And.left
  | succ tries ih =>
    unfold redraw
    by_cases hcandidate : candidate ∈ used
    · rw [if_neg (not_not_intro hcandidate)]
      dsimp only
      rw [ih]
      -- the retries after the first one draw from the next position on
      have hnext : ∀ k, (rng.genRangeIncl lo hi).2.drawAt lo hi k = rng.drawAt lo hi (k + 1) := by
        intro k
        show (Rng.genRangeIncl ⟨rng.draw, rng.pos + 1 + k⟩ lo hi).1 = _
        rw [Nat.add_assoc, Nat.add_comm 1 k]
        rfl
      constructor
      · rintro ⟨hfirst, hrest⟩
        refine ⟨hcandidate, fun k hk => ?_⟩
        cases k with
        | zero => exact hfirst
        | succ k => exact hnext k ▸ hrest k (Nat.lt_of_succ_lt_succ hk)
      · rintro ⟨-, hall⟩
        exact ⟨hall 0 (Nat.succ_pos _), fun k hk => hnext k ▸ hall (k + 1) (Nat.succ_lt_succ hk)⟩
    · rw [if_pos hcandidate]
      exact iff_of_false hcandidate fun h => hcandidate h.1

theorem drawUnused_mem (m : SeededMapper) (domain : Domain) {lo hi : UInt64} (hlt : lo < hi) :
    lo ≤ (m.drawUnused domain lo hi).1 ∧ (m.drawUnused domain lo hi).1 ≤ hi := by
  have hle := UInt64.le_of_lt hlt
  unfold SeededMapper.drawUnused
  rw [if_neg (UInt64.not_le.mpr hlt)]
  exact redraw_mem hle _ _ (m.rng.genRangeIncl_mem hle) _

/-- **A used value is returned exactly if all 65 draws are used.** -/
theorem mem_used_drawUnused {m : SeededMapper} {domain : Domain} {lo hi : UInt64} (hlt : lo < hi) :
    (m.drawUnused domain lo hi).1 ∈ m.usedIn domain ↔
      ∀ k ≤ 64, m.rng.drawAt lo hi k ∈ m.usedIn domain := by
  unfold SeededMapper.drawUnused
  rw [if_neg (UInt64.not_le.mpr hlt)]
  dsimp only
  rw [mem_used_redraw]
  have hnext : ∀ k, (m.rng.genRangeIncl lo hi).2.drawAt lo hi k = m.rng.drawAt lo hi (k + 1) := by
    intro k
    show (Rng.genRangeIncl ⟨m.rng.draw, m.rng.pos + 1 + k⟩ lo hi).1 = _
    rw [Nat.add_assoc, Nat.add_comm 1 k]
    rfl
  constructor
  · rintro ⟨hfirst, hrest⟩ k hk
    cases k with
    | zero => exact hfirst
    | succ k => exact hnext k ▸ hrest k hk
  · intro hall
    exact ⟨hall 0 (Nat.zero_le _), fun k hk => hnext k ▸ hall (k + 1) hk⟩

/-! ## One call -/

theorem drawUnused_used (m : SeededMapper) (domain : Domain) (lo hi : UInt64) :
    (m.drawUnused domain lo hi).2.used = m.used := by
  unfold SeededMapper.drawUnused
  split
  · rfl
  · rfl

theorem mapRange_of_unknown {m : SeededMapper} {domain : Domain} {orig : UInt64} (lo hi : UInt64)
    (h : m.known (domain, orig) = none) :
    (m.mapRange domain orig lo hi).1 = (m.drawUnused domain lo hi).1 ∧
      (m.mapRange domain orig lo hi).2.usedIn domain =
        insert (m.drawUnused domain lo hi).1 (m.usedIn domain) := by
  unfold SeededMapper.mapRange
  rw [show m.fwd.lookup (domain, orig) = none from h]
  refine ⟨rfl, ?_⟩
  show (AList.lookup domain (AList.insert domain _ (m.drawUnused domain lo hi).2.used)).getD ∅ = _
  rw [AList.lookup_insert, Option.getD_some, SeededMapper.usedIn, drawUnused_used]
  rfl

/-- A call in one domain uses no value of another. -/
theorem usedIn_mapRange_of_ne {m : SeededMapper} {domain domain' : Domain} (orig lo hi : UInt64)
    (h : domain' ≠ domain) : (m.mapRange domain orig lo hi).2.usedIn domain' = m.usedIn domain' := by
  unfold SeededMapper.mapRange
  split
  · rfl
  · show (AList.lookup domain' (AList.insert domain _ (m.drawUnused domain lo hi).2.used)).getD ∅ = _
    rw [AList.lookup_insert_ne h, drawUnused_used]
    rfl

/-! ## A sequence of calls

Answers are recorded by domain and original, and the values in use by domain. `Told` ties the two:
after some calls the record of a domain is what was answered there. A call in another domain touches
neither; so domains can be looked at one at a time.
-/

theorem mapCalls_append (m : SeededMapper) (calls : List MapCall) (c : MapCall) :
    m.mapCalls (calls ++ [c]) =
      ((m.mapCalls calls).1 ++
          [(c, ((m.mapCalls calls).2.mapRange c.domain c.orig c.lo c.hi).1)],
        ((m.mapCalls calls).2.mapRange c.domain c.orig c.lo c.hi).2) := by
  induction calls generalizing m with
  | nil => rfl
  | cons c' calls ih =>
    rw [List.cons_append, SeededMapper.mapCalls]
    dsimp only
    rw [ih]
    rfl

theorem mapCalls_calls (m : SeededMapper) (calls : List MapCall) :
    (m.mapCalls calls).1.map Prod.fst = calls := by
  induction calls generalizing m with
  | nil => rfl
  | cons c calls ih =>
    rw [SeededMapper.mapCalls]
    dsimp only
    rw [List.map_cons, ih]

/-- **What is on record for a domain**: the answers given, and the values used. -/
structure Told (domain : Domain) (answers : List (MapCall × UInt64)) (m : SeededMapper) : Prop where
  known : ∀ orig v, m.known (domain, orig) = some v ↔
    ∃ e ∈ answers, e.1.domain = domain ∧ e.1.orig = orig ∧ e.2 = v
  used : ∀ v, v ∈ m.usedIn domain ↔ ∃ e ∈ answers, e.1.domain = domain ∧ e.2 = v

theorem told_fromSeed (domain : Domain) (rng : Rng) : Told domain [] (.fromSeed rng) := by
  constructor
  · intro orig v
    constructor
    · rintro ⟨⟩
    · rintro ⟨e, ⟨⟩, -⟩
  · intro v
    constructor
    · intro h
      exact absurd h (Finset.notMem_empty v)
    · rintro ⟨e, ⟨⟩, -⟩

theorem exists_concat {α : Type} {l : List α} {a : α} {P : α → Prop} :
    (∃ e ∈ l ++ [a], P e) ↔ (∃ e ∈ l, P e) ∨ P a := by
  constructor
  · rintro ⟨e, he, hp⟩
    rcases List.mem_append.mp he with he | he
    · exact .inl ⟨e, he, hp⟩
    · exact .inr (List.mem_singleton.mp he ▸ hp)
  · rintro (⟨e, he, hp⟩ | hp)
    · exact ⟨e, List.mem_append_left _ he, hp⟩
    · exact ⟨a, List.mem_append_right _ (List.mem_singleton_self a), hp⟩

/-- A call in another domain changes nothing. -/
theorem Told.other {domain : Domain} {answers : List (MapCall × UInt64)} {m : SeededMapper}
    (h : Told domain answers m) {c : MapCall} (hdomain : c.domain ≠ domain) (v : UInt64) :
    Told domain (answers ++ [(c, v)]) (m.mapRange c.domain c.orig c.lo c.hi).2 := by
  constructor
  · intro orig w
    rw [known_mapRange_of_ne c.lo c.hi fun heq => hdomain (congrArg Prod.fst heq).symm, h.known,
      exists_concat]
    exact (or_iff_left fun hin => hdomain hin.1).symm
  · intro w
    rw [usedIn_mapRange_of_ne c.orig c.lo c.hi (Ne.symm hdomain), h.used, exists_concat]
    exact (or_iff_left fun hin => hdomain hin.1).symm

/-- An answer that was on record is given again. -/
theorem Told.again {answers : List (MapCall × UInt64)} {m : SeededMapper} {c : MapCall} {v : UInt64}
    (h : Told c.domain answers m) (hknown : m.known (c.domain, c.orig) = some v) :
    Told c.domain (answers ++ [(c, v)]) m := by
  obtain ⟨e, he, hin, horig, hv⟩ := (h.known c.orig v).mp hknown
  constructor
  · intro orig w
    rw [h.known, exists_concat]
    refine (or_iff_left_of_imp ?_).symm
    rintro ⟨-, rfl, rfl⟩
    exact ⟨e, he, hin, horig, hv⟩
  · intro w
    rw [h.used, exists_concat]
    refine (or_iff_left_of_imp ?_).symm
    rintro ⟨-, rfl⟩
    exact ⟨e, he, hin, hv⟩

/-- A new original is put on record with the value drawn. -/
theorem Told.first {answers : List (MapCall × UInt64)} {m : SeededMapper} {c : MapCall}
    (h : Told c.domain answers m) (hknown : m.known (c.domain, c.orig) = none) :
    Told c.domain (answers ++ [(c, (m.mapRange c.domain c.orig c.lo c.hi).1)])
      (m.mapRange c.domain c.orig c.lo c.hi).2 := by
  obtain ⟨hvalue, hused⟩ := mapRange_of_unknown c.lo c.hi hknown
  have htold := (mapRange_remembers c.lo c.hi).told m (c.domain, c.orig)
  constructor
  · intro orig v
    rw [exists_concat]
    -- either the key that was just answered, or one whose record did not change
    by_cases horig : orig = c.orig
    · subst horig
      rw [htold, Option.some.injEq, ← h.known, hknown]
      constructor
      · rintro rfl
        exact .inr ⟨rfl, rfl, rfl⟩
      · rintro (hsome | ⟨-, -, rfl⟩)
        · cases hsome
        · rfl
    · rw [known_mapRange_of_ne c.lo c.hi fun heq => horig (congrArg Prod.snd heq), h.known]
      exact (or_iff_left fun hin => horig hin.2.1.symm).symm
  · intro v
    rw [hused, Finset.mem_insert, h.used, exists_concat, ← hvalue, or_comm]
    refine or_congr_right ?_
    constructor
    · rintro rfl
      exact ⟨rfl, rfl⟩
    · rintro ⟨-, rfl⟩
      rfl

/-- **One more call puts its answer on record.** -/
theorem Told.call {domain : Domain} {answers : List (MapCall × UInt64)} {m : SeededMapper}
    (h : Told domain answers m) (c : MapCall) :
    Told domain (answers ++ [(c, (m.mapRange c.domain c.orig c.lo c.hi).1)])
      (m.mapRange c.domain c.orig c.lo c.hi).2 := by
  by_cases hdomain : c.domain = domain
  · subst hdomain
    cases hknown : m.known (c.domain, c.orig) with
    | some v =>
      rw [mapRange_of_known hknown]
      exact h.again hknown
    | none => exact h.first hknown
  · exact h.other hdomain _

/-- The record after a sequence of calls. -/
theorem told_mapCalls (domain : Domain) (rng : Rng) (calls : List MapCall) :
    Told domain ((SeededMapper.fromSeed rng).mapCalls calls).1
      ((SeededMapper.fromSeed rng).mapCalls calls).2 := by
  induction calls using List.reverseRecOn with
  | nil => exact told_fromSeed domain rng
  | append_singleton calls c ih =>
    rw [mapCalls_append]
    exact ih.call c

/-! ## Exactly when values are distinct

The calls are added one at a time, and a call for a known original changes nothing. So distinctness
fails at the first call for a new original that finds no unused value among its draws; before that
the mapper is in a state where every value it gave out is recorded. Other domains may ask in
between, as a domain reads its own values only.
-/

section Runs

variable {rng : Rng} {domain : Domain} {lo hi : UInt64} {calls : List MapCall}

/-- The answers of a fresh mapper. -/
abbrev answersOf (rng : Rng) (calls : List MapCall) : List (MapCall × UInt64) :=
  ((SeededMapper.fromSeed rng).mapCalls calls).1

/-- The mapper after the calls. -/
abbrev mapperAfter (rng : Rng) (calls : List MapCall) : SeededMapper :=
  ((SeededMapper.fromSeed rng).mapCalls calls).2

/-- Every call in the domain asks for the one range. -/
def FixedRange (domain : Domain) (lo hi : UInt64) (calls : List MapCall) : Prop :=
  ∀ c ∈ calls, c.domain = domain → c.lo = lo ∧ c.hi = hi

/-- Distinct originals of the domain have distinct values. -/
def DistinctValues (domain : Domain) (answers : List (MapCall × UInt64)) : Prop :=
  ∀ e ∈ answers, ∀ e' ∈ answers, e.1.domain = domain → e'.1.domain = domain →
    e.1.orig ≠ e'.1.orig → e.2 ≠ e'.2

/-- One of the 65 draws from here on is a value not given out for the domain before. -/
def DrawsUnused (rng : Rng) (domain : Domain) (lo hi : UInt64) (calls : List MapCall) : Prop :=
  ∃ k ≤ 64, ∀ e ∈ answersOf rng calls, e.1.domain = domain →
    e.2 ≠ (mapperAfter rng calls).rng.drawAt lo hi k

theorem FixedRange.init {c : MapCall} (h : FixedRange domain lo hi (calls ++ [c])) :
    FixedRange domain lo hi calls :=
  fun c' hc' => h c' (List.mem_append_left _ hc')

theorem FixedRange.last {c : MapCall} (h : FixedRange domain lo hi (calls ++ [c]))
    (hdomain : c.domain = domain) : c.lo = lo ∧ c.hi = hi :=
  h c (List.mem_append_right _ (List.mem_singleton_self c)) hdomain

/-- A new original is one that no call before asked for. -/
theorem known_mapperAfter {c : MapCall} :
    (mapperAfter rng calls).known (c.domain, c.orig) = none ↔
      ∀ c' ∈ calls, c'.domain = c.domain → c'.orig ≠ c.orig := by
  have htold := told_mapCalls c.domain rng calls
  constructor
  · intro hnone c' hc' hdomain horig
    rw [← mapCalls_calls (.fromSeed rng) calls, List.mem_map] at hc'
    obtain ⟨e, he, rfl⟩ := hc'
    have hsome := (htold.known c.orig e.2).mpr ⟨e, he, hdomain, horig, rfl⟩
    rw [hnone] at hsome
    cases hsome
  · intro hnew
    refine Option.eq_none_iff_forall_ne_some.mpr fun v hsome => ?_
    obtain ⟨e, he, hdomain, horig, -⟩ := (htold.known c.orig v).mp hsome
    refine hnew e.1 ?_ hdomain horig
    rw [← mapCalls_calls (.fromSeed rng) calls]
    exact List.mem_map_of_mem he

/-- A new original gets a new value exactly if it draws one. -/
theorem drawUnused_new_iff (hlt : lo < hi) :
    ((mapperAfter rng calls).drawUnused domain lo hi).1 ∉ (mapperAfter rng calls).usedIn domain ↔
      DrawsUnused rng domain lo hi calls := by
  rw [mem_used_drawUnused hlt]
  simp only [(told_mapCalls domain rng calls).used, not_forall, exists_prop, not_exists, not_and]
  rfl

/-- Every value lies in the range. -/
theorem mapCalls_mem (hlt : lo < hi) (hrange : FixedRange domain lo hi calls) :
    ∀ e ∈ answersOf rng calls, e.1.domain = domain → lo ≤ e.2 ∧ e.2 ≤ hi := by
  induction calls using List.reverseRecOn with
  | nil =>
    rintro e ⟨⟩
  | append_singleton calls c ih =>
    intro e he hdomain
    rw [answersOf, mapCalls_append, List.mem_append, List.mem_singleton] at he
    rcases he with he | rfl
    · exact ih hrange.init e he hdomain
    · obtain ⟨hlo, hhi⟩ := hrange.last hdomain
      dsimp only
      cases hknown : (mapperAfter rng calls).known (c.domain, c.orig) with
      | some v =>
        -- the value was given before
        obtain ⟨e, he, hin, -, rfl⟩ := ((told_mapCalls _ rng calls).known c.orig v).mp hknown
        rw [mapRange_of_known hknown]
        exact ih hrange.init e he (hin.trans hdomain)
      | none =>
        rw [(mapRange_of_unknown c.lo c.hi hknown).1, hlo, hhi]
        exact drawUnused_mem _ _ hlt

/-- An original has one value. -/
theorem mapCalls_repeated {e e' : MapCall × UInt64} (he : e ∈ answersOf rng calls)
    (he' : e' ∈ answersOf rng calls) (hdomain : e.1.domain = domain) (hdomain' : e'.1.domain = domain)
    (horig : e.1.orig = e'.1.orig) : e.2 = e'.2 := by
  have htold := told_mapCalls domain rng calls
  have hknown := (htold.known e.1.orig e.2).mpr ⟨e, he, hdomain, rfl, rfl⟩
  rw [(htold.known e.1.orig e'.2).mpr ⟨e', he', hdomain', horig.symm, rfl⟩] at hknown
  exact (Option.some.inj hknown).symm

/-- Distinctness, one call further. -/
theorem distinctValues_concat {c : MapCall} (hlt : lo < hi)
    (hrange : FixedRange domain lo hi (calls ++ [c])) :
    DistinctValues domain (answersOf rng (calls ++ [c])) ↔
      DistinctValues domain (answersOf rng calls) ∧
        (c.domain = domain → (∀ c' ∈ calls, c'.domain = domain → c'.orig ≠ c.orig) →
          DrawsUnused rng domain lo hi calls) := by
  have hold : ∀ e ∈ answersOf rng calls, e ∈ answersOf rng (calls ++ [c]) := by
    intro e he
    rw [answersOf, mapCalls_append]
    exact List.mem_append_left _ he
  have htold := told_mapCalls domain rng calls
  constructor
  · intro hdistinct
    refine ⟨fun e he e' he' => hdistinct e (hold e he) e' (hold e' he'), ?_⟩
    rintro rfl hnew
    obtain ⟨rfl, rfl⟩ := hrange.last rfl
    have hknown := (@known_mapperAfter rng calls c).mpr hnew
    have hvalue := (mapRange_of_unknown c.lo c.hi hknown).1
    rw [← drawUnused_new_iff hlt, ← hvalue]
    intro hused
    obtain ⟨e, he, hin, heq⟩ := (htold.used _).mp hused
    refine hdistinct e (hold e he)
      (c, ((mapperAfter rng calls).mapRange c.domain c.orig c.lo c.hi).1) ?_ hin rfl ?_ heq
    · rw [answersOf, mapCalls_append]
      exact List.mem_append_right _ (List.mem_singleton_self _)
    · refine hnew e.1 ?_ hin
      rw [← mapCalls_calls (.fromSeed rng) calls]
      exact List.mem_map_of_mem he
  · rintro ⟨hdistinct, hlast⟩
    -- the last answer differs from every earlier one of another original
    have hfresh : c.domain = domain → ∀ e ∈ answersOf rng calls, e.1.domain = domain →
        e.1.orig ≠ c.orig →
          e.2 ≠ ((mapperAfter rng calls).mapRange c.domain c.orig c.lo c.hi).1 := by
      rintro rfl e he hin horig
      cases hknown : (mapperAfter rng calls).known (c.domain, c.orig) with
      | some v =>
        obtain ⟨e', he', hin', horig', rfl⟩ := (htold.known c.orig v).mp hknown
        rw [mapRange_of_known hknown]
        exact hdistinct e he e' he' hin hin' (horig'.symm ▸ horig)
      | none =>
        obtain ⟨rfl, rfl⟩ := hrange.last rfl
        have hunused := (drawUnused_new_iff hlt).mpr (hlast rfl (known_mapperAfter.mp hknown))
        rw [(mapRange_of_unknown c.lo c.hi hknown).1]
        rintro heq
        exact hunused ((htold.used _).mpr ⟨e, he, hin, heq⟩)
    intro e he e' he' hin hin' horig
    rw [answersOf, mapCalls_append, List.mem_append, List.mem_singleton] at he he'
    rcases he with he | rfl
    · rcases he' with he' | rfl
      · exact hdistinct e he e' he' hin hin' horig
      · exact hfresh hin' e he hin horig
    · rcases he' with he' | rfl
      · exact (hfresh hin e' he' hin' horig.symm).symm
      · exact absurd rfl horig

/-- **Distinct originals get distinct values exactly if each new one draws an unused value.** -/
theorem distinctValues_iff (hlt : lo < hi) (hrange : FixedRange domain lo hi calls) :
    DistinctValues domain (answersOf rng calls) ↔
      ∀ earlier c, earlier ++ [c] <+: calls → c.domain = domain →
        (∀ c' ∈ earlier, c'.domain = domain → c'.orig ≠ c.orig) →
          DrawsUnused rng domain lo hi earlier := by
  induction calls using List.reverseRecOn with
  | nil =>
    refine iff_of_true ?_ ?_
    · rintro e ⟨⟩
    · intro earlier c hfront
      exact absurd (List.prefix_nil.mp hfront) (List.append_ne_nil_of_right_ne_nil _
        (List.cons_ne_nil _ _))
  | append_singleton calls c ih =>
    rw [distinctValues_concat hlt hrange, ih hrange.init]
    constructor
    · rintro ⟨hbefore, hlast⟩ earlier c' hfront
      rcases List.prefix_concat_iff.mp hfront with heq | hfront
      · obtain ⟨rfl, hc⟩ := List.append_inj' heq rfl
        obtain rfl := List.cons.inj hc |>.1
        exact hlast
      · exact hbefore earlier c' hfront
    · intro hall
      exact ⟨fun earlier c' hfront => hall earlier c' (hfront.trans (List.prefix_append _ _)),
        hall calls c List.prefix_rfl⟩

/-- **What a sequence of calls gives**, whatever is drawn and whatever other domains ask in between:
values in the range, one value for an original, and nothing of it touched by another domain. Distinct
originals get distinct values exactly if each new one finds an unused value among its 65 draws. -/
theorem mapCalls_distinct_iff (rng : Rng) (domain : Domain) (hlt : lo < hi)
    (hrange : FixedRange domain lo hi calls) :
    (∀ e ∈ answersOf rng calls, e.1.domain = domain → lo ≤ e.2 ∧ e.2 ≤ hi) ∧
      (∀ e ∈ answersOf rng calls, ∀ e' ∈ answersOf rng calls, e.1.domain = domain →
        e'.1.domain = domain → e.1.orig = e'.1.orig → e.2 = e'.2) ∧
      (∀ c : MapCall, c.domain ≠ domain →
        ((mapperAfter rng calls).mapRange c.domain c.orig c.lo c.hi).2.usedIn domain =
            (mapperAfter rng calls).usedIn domain ∧
          ∀ orig, ((mapperAfter rng calls).mapRange c.domain c.orig c.lo c.hi).2.known
            (domain, orig) = (mapperAfter rng calls).known (domain, orig)) ∧
      (DistinctValues domain (answersOf rng calls) ↔
        ∀ earlier c, earlier ++ [c] <+: calls → c.domain = domain →
          (∀ c' ∈ earlier, c'.domain = domain → c'.orig ≠ c.orig) →
            DrawsUnused rng domain lo hi earlier) := by
  refine ⟨mapCalls_mem hlt hrange, fun e he e' he' hin hin' => mapCalls_repeated he he' hin hin', ?_,
    distinctValues_iff hlt hrange⟩
  intro c hdomain
  exact ⟨usedIn_mapRange_of_ne c.orig c.lo c.hi (Ne.symm hdomain), fun orig =>
    known_mapRange_of_ne c.lo c.hi fun heq => hdomain (congrArg Prod.fst heq).symm⟩

end Runs

instance (domain : Domain) (answers : List (MapCall × UInt64)) :
    Decidable (DistinctValues domain answers) :=
  inferInstanceAs (Decidable (∀ e ∈ answers, ∀ e' ∈ answers, e.1.domain = domain →
    e'.1.domain = domain → e.1.orig ≠ e'.1.orig → e.2 ≠ e'.2))

instance (domain : Domain) (lo hi : UInt64) (calls : List MapCall) :
    Decidable (FixedRange domain lo hi calls) :=
  inferInstanceAs (Decidable (∀ c ∈ calls, c.domain = domain → c.lo = lo ∧ c.hi = hi))

/-- Two originals of one domain, and one of another between them. -/
def mixedCalls : List MapCall :=
  [⟨.enipVendor, 1, 0, 1⟩, ⟨.s7Serial, 9, 0, 255⟩, ⟨.enipVendor, 2, 0, 1⟩]

/-- With draws that alternate, both values of the range are given. -/
theorem mixedCalls_distinct :
    (∀ e ∈ answersOf ⟨id, 0⟩ mixedCalls, e.1.domain = .enipVendor → 0 ≤ e.2 ∧ e.2 ≤ 1) ∧
      ∀ earlier c, earlier ++ [c] <+: mixedCalls → c.domain = .enipVendor →
        (∀ c' ∈ earlier, c'.domain = .enipVendor → c'.orig ≠ c.orig) →
          DrawsUnused ⟨id, 0⟩ .enipVendor 0 1 earlier := by
  have hcalls := @mapCalls_distinct_iff 0 1 mixedCalls ⟨id, 0⟩ .enipVendor (by decide) (by decide)
  exact ⟨hcalls.1, hcalls.2.2.2.mp (by decide +kernel)⟩

/-- The range has two values, and 65 draws miss the second one. -/
theorem two_originals_one_value :
    answersOf ⟨fun _ => 0, 0⟩ mixedCalls = [(⟨.enipVendor, 1, 0, 1⟩, 0),
        (⟨.s7Serial, 9, 0, 255⟩, 0), (⟨.enipVendor, 2, 0, 1⟩, 0)] ∧
      ¬ ∀ (rng : Rng) (domain : Domain) (lo hi : UInt64) (calls : List MapCall), lo < hi →
        FixedRange domain lo hi calls →
          ((calls.filter fun c => decide (c.domain = domain)).map MapCall.orig).dedup.length ≤
            hi.toNat - lo.toNat + 1 → DistinctValues domain (answersOf rng calls) := by
  refine ⟨by decide +kernel, fun h => ?_⟩
  have hdistinct := h ⟨fun _ => 0, 0⟩ .enipVendor 0 1 mixedCalls (by decide) (by decide)
    (by decide +kernel)
  revert hdistinct
  decide +kernel

end TurboLaser
