import TurboLaser.Lib.Remember
import TurboLaser.Proto.Remap

/-!
# Seeded identifier mapping (proto/mapper.rs)

A `SeededMapper` gives every original value of a domain a random new one and remembers it. `map_u8`,
`map_u16` and `map_u32` are one definition, `mapWord`, at three widths.

The random generator is an arbitrary stream (`Rng`), so what is proved of a mapper holds whatever it
draws, and for every seed. A new value is drawn until it is one that the domain has not used, at
most 65 times; then the last draw is taken all the same. So a mapper is a function on each domain,
but not always an injective one, and what can be said of it is said in two steps: here that it is a
function, in `Proto.MapperRuns` when it is injective.

- `mapRange_remembers`: a mapper remembers its answers, whatever its generator draws;
- `SeededMapper.Consistent`: from one state to a later one, some values were mapped by one function,
  and every state from there on maps them by it. It is the form in which the payload mutators use
  the mapper: they thread it through a whole capture, and what they rewrote in one frame has to be
  what they rewrite in the next.
- `SeededMapper.Stuck`: a mapper whose generator always delivers one value. It answers every new
  original of a domain with that value, so it writes what one likes wherever a mutator writes, which
  is what the converses of frame conditions need.
-/

namespace TurboLaser

open Lib

/-- `Domain`: the kinds of identifiers, each mapped apart from the others. -/
inductive Domain where
  | modbusUnitId
  | enipVendor
  | enipDeviceType
  | enipProductCode
  | enipSerial
  | s7ModuleId
  | s7Serial
  | dnp3Addr
deriving DecidableEq

/-- `SeededMapper`. -/
structure SeededMapper where
  rng : Rng
  fwd : AList fun _ : Domain × UInt64 => UInt64
  used : AList fun _ : Domain => Finset UInt64

/-- `from_seed`, given the generator that the seed makes. -/
def SeededMapper.fromSeed (rng : Rng) : SeededMapper := ⟨rng, ∅, ∅⟩

/-- `gen_range(lo..=hi)`, for `lo ≤ hi`. -/
def Rng.genRangeIncl (rng : Rng) (lo hi : UInt64) : UInt64 × Rng :=
  let (draw, rng) := rng.genRange (hi.toNat - lo.toNat + 1)
  (UInt64.ofNat (lo.toNat + draw), rng)

/-- The retries of `draw_unused`, at most `tries` of them. -/
def redraw (used : Finset UInt64) (lo hi : UInt64) : Nat → UInt64 → Rng → UInt64 × Rng
  | 0, candidate, rng => (candidate, rng)
  | tries + 1, candidate, rng =>
    if candidate ∉ used then (candidate, rng)
    else
      let (candidate, rng) := rng.genRangeIncl lo hi
      redraw used lo hi tries candidate rng

/-- The values a domain has given out. -/
def SeededMapper.usedIn (m : SeededMapper) (domain : Domain) : Finset UInt64 :=
  (m.used.lookup domain).getD ∅

/-- `draw_unused`. -/
def SeededMapper.drawUnused (m : SeededMapper) (domain : Domain) (lo hi : UInt64) :
    UInt64 × SeededMapper :=
  if hi ≤ lo then (lo, m)
  else
    let (candidate, rng) := m.rng.genRangeIncl lo hi
    let (v, rng) := redraw (m.usedIn domain) lo hi 64 candidate rng
    (v, { m with rng })

/-- `map_range`. -/
def SeededMapper.mapRange (m : SeededMapper) (domain : Domain) (orig lo hi : UInt64) :
    UInt64 × SeededMapper :=
  match m.fwd.lookup (domain, orig) with
  | some v => (v, m)
  | none =>
    let (v, m) := m.drawUnused domain lo hi
    (v, { m with
      fwd := m.fwd.insert (domain, orig) v
      used := m.used.insert domain (insert v (m.usedIn domain)) })

/-- What a mapper has on record. -/
def SeededMapper.known (m : SeededMapper) (key : Domain × UInt64) : Option UInt64 :=
  m.fwd.lookup key

theorem mapRange_of_known {m : SeededMapper} {domain : Domain} {orig lo hi v : UInt64}
    (h : m.known (domain, orig) = some v) : m.mapRange domain orig lo hi = (v, m) := by
  unfold SeededMapper.mapRange
  unfold SeededMapper.known at h
  rw [h]

/-- Drawing puts nothing on record. -/
theorem drawUnused_fwd (m : SeededMapper) (domain : Domain) (lo hi : UInt64) :
    (m.drawUnused domain lo hi).2.fwd = m.fwd := by
  unfold SeededMapper.drawUnused
  split
  · rfl
  · rfl

/-- **A mapper remembers.** -/
theorem mapRange_remembers (lo hi : UInt64) :
    Remembers (fun m key => m.mapRange key.1 key.2 lo hi) SeededMapper.known where
  told m key := by
    unfold SeededMapper.mapRange
    cases hknown : m.fwd.lookup (key.1, key.2) with
    | some v => exact hknown
    | none => exact AList.lookup_insert _
  kept m key key' v h := by
    unfold SeededMapper.mapRange
    cases hknown : m.fwd.lookup (key.1, key.2) with
    | some v' => exact h
    | none =>
      -- the key asked about is not on record, so it is not this one
      have hne : key' ≠ (key.1, key.2) := by
        rintro rfl
        cases hknown.symm.trans h
      show AList.lookup key' (AList.insert _ _ (m.drawUnused key.1 lo hi).2.fwd) = some v
      rw [AList.lookup_insert_ne hne, drawUnused_fwd]
      exact h

/-! ## The three widths -/

/-- The integers that are mapped: cast up to `u64`, cast down again, and the largest. -/
structure IdWord (ω : Type) where
  widen : ω → UInt64
  narrow : UInt64 → ω
  hi : UInt64

def idU8 : IdWord UInt8 := ⟨UInt8.toUInt64, UInt64.toUInt8, 0xff⟩

def idU16 : IdWord UInt16 := ⟨UInt16.toUInt64, UInt64.toUInt16, 0xffff⟩

def idU32 : IdWord UInt32 := ⟨UInt32.toUInt64, UInt64.toUInt32, 0xffffffff⟩

variable {ω : Type}

/-- The mapping of one width. -/
def SeededMapper.mapWord (word : IdWord ω) (m : SeededMapper) (domain : Domain) (orig : ω) :
    ω × SeededMapper :=
  let (v, m) := m.mapRange domain (word.widen orig) 0 word.hi
  (word.narrow v, m)

/-- `map_u8`. -/
def SeededMapper.mapU8 := SeededMapper.mapWord idU8

/-- `map_u16`. -/
def SeededMapper.mapU16 := SeededMapper.mapWord idU16

/-- `map_u32`. -/
def SeededMapper.mapU32 := SeededMapper.mapWord idU32

/-- The words a function on the record gives. -/
def IdWord.through (word : IdWord ω) (f : Domain × UInt64 → UInt64) (domain : Domain) (x : ω) : ω :=
  word.narrow (f (domain, word.widen x))

/-- A later state of a mapper. -/
abbrev SeededMapper.Extends (m m' : SeededMapper) : Prop := Lib.Extends SeededMapper.known m m'

/-- A function that gives all a mapper has on record. -/
abbrev SeededMapper.Agrees (m : SeededMapper) (f : Domain × UInt64 → UInt64) : Prop :=
  Lib.Agrees SeededMapper.known m f

variable (word : IdWord ω) (m : SeededMapper) (domain : Domain) (x : ω)

theorem mapWord_extends : m.Extends (m.mapWord word domain x).2 :=
  (mapRange_remembers 0 word.hi).extends m (domain, word.widen x)

theorem mapWord_known :
    ((m.mapWord word domain x).2.known (domain, word.widen x)).isSome = true := by
  rw [show (m.mapWord word domain x).2 = (m.mapRange domain (word.widen x) 0 word.hi).2 from rfl,
    (mapRange_remembers 0 word.hi).told m (domain, word.widen x)]
  rfl

variable {word m domain x}

/-- The word is the one that any function agreeing with the record behind it gives. -/
theorem mapWord_eq {f : Domain × UInt64 → UInt64} (hf : (m.mapWord word domain x).2.Agrees f) :
    (m.mapWord word domain x).1 = word.through f domain x :=
  congrArg word.narrow
    (Lib.Agrees.answer (mapRange_remembers 0 word.hi) (k := (domain, word.widen x)) hf)

/-! ## A generator that repeats itself -/

/-- The generator always delivers `v`, and a domain has been given nothing else. -/
structure SeededMapper.Stuck (domain : Domain) (v : UInt32) (m : SeededMapper) : Prop where
  draw : ∀ k, m.rng.draw k = v.toNat
  known : ∀ x w, m.known (domain, x) = some w → w = v.toUInt64

theorem redraw_draw (used : Finset UInt64) (lo hi : UInt64) (tries : Nat) (candidate : UInt64)
    (rng : Rng) : (redraw used lo hi tries candidate rng).2.draw = rng.draw := by
  induction tries generalizing candidate rng with
  | zero => rfl
  | succ tries ih =>
    unfold redraw
    split
    · rfl
    · exact ih _ _

theorem redraw_stuck (rng : Rng) {lo hi w : UInt64}
    (h : ∀ k, (Rng.genRangeIncl ⟨rng.draw, k⟩ lo hi).1 = w) (used : Finset UInt64) (tries : Nat) :
    (redraw used lo hi tries w rng).1 = w := by
  induction tries generalizing rng with
  | zero => rfl
  | succ tries ih =>
    unfold redraw
    split
    · rfl
    · have hagain : (rng.genRangeIncl lo hi).1 = w := h rng.pos
      dsimp only
      rw [hagain]
      exact ih _ h

theorem drawUnused_draw (m : SeededMapper) (domain : Domain) (lo hi : UInt64) :
    (m.drawUnused domain lo hi).2.rng.draw = m.rng.draw := by
  unfold SeededMapper.drawUnused
  split
  · rfl
  · exact redraw_draw ..

theorem mapRange_draw (m : SeededMapper) (domain : Domain) (orig lo hi : UInt64) :
    (m.mapRange domain orig lo hi).2.rng.draw = m.rng.draw := by
  unfold SeededMapper.mapRange
  split
  · rfl
  · exact drawUnused_draw ..

/-- Mapping one value changes the record of no other. -/
theorem known_mapRange_of_ne {m : SeededMapper} {domain : Domain} {orig : UInt64} (lo hi : UInt64)
    {key : Domain × UInt64} (h : key ≠ (domain, orig)) :
    (m.mapRange domain orig lo hi).2.known key = m.known key := by
  unfold SeededMapper.mapRange
  split
  · rfl
  · show AList.lookup key (AList.insert _ _ (m.drawUnused domain lo hi).2.fwd) = m.fwd.lookup key
    rw [AList.lookup_insert_ne h, drawUnused_fwd]

theorem drawUnused_stuck {m : SeededMapper} {domain : Domain} {v : UInt32}
    (h : m.Stuck domain v) : (m.drawUnused domain 0 0xffffffff).1 = v.toUInt64 := by
  have hv := v.toNat_lt
  have hdraw : ∀ k, (Rng.genRangeIncl ⟨m.rng.draw, k⟩ 0 0xffffffff).1 = v.toUInt64 := by
    intro k
    show UInt64.ofNat (0 + m.rng.draw k % (4294967295 - 0 + 1)) = _
    rw [h.draw, Nat.mod_eq_of_lt (by omega), Nat.zero_add]
    exact UInt64.toNat_inj.mp (by rw [UInt64.toNat_ofNat', UInt32.toNat_toUInt64]; omega)
  unfold SeededMapper.drawUnused
  rw [if_neg (by decide)]
  dsimp only
  rw [show (m.rng.genRangeIncl 0 0xffffffff).1 = v.toUInt64 from hdraw m.rng.pos]
  exact redraw_stuck (m.rng.genRangeIncl 0 0xffffffff).2 hdraw _ _

/-- Mapping in another domain gives this one nothing. -/
theorem SeededMapper.Stuck.other {domain domain' : Domain} {v : UInt32} {m : SeededMapper}
    (h : m.Stuck domain v) (hne : domain' ≠ domain) (orig lo hi : UInt64) :
    (m.mapRange domain' orig lo hi).2.Stuck domain v := by
  refine ⟨fun k => ?_, fun x w hw => h.known x w ?_⟩
  · rw [mapRange_draw]
    exact h.draw k
  · rwa [known_mapRange_of_ne lo hi fun heq => hne (congrArg Prod.fst heq).symm] at hw

/-- Mapping in the domain gives the one value again. -/
theorem SeededMapper.Stuck.same {domain : Domain} {v : UInt32} {m : SeededMapper}
    (h : m.Stuck domain v) (orig : UInt64) :
    (m.mapRange domain orig 0 0xffffffff).1 = v.toUInt64 ∧
      (m.mapRange domain orig 0 0xffffffff).2.Stuck domain v := by
  have hvalue : (m.mapRange domain orig 0 0xffffffff).1 = v.toUInt64 := by
    unfold SeededMapper.mapRange
    cases hknown : m.fwd.lookup (domain, orig) with
    | some w => exact h.known orig w hknown
    | none => exact drawUnused_stuck h
  refine ⟨hvalue, fun k => ?_, fun x w hw => ?_⟩
  · rw [mapRange_draw]
    exact h.draw k
  · by_cases hx : x = orig
    · rw [hx, (mapRange_remembers 0 0xffffffff).told m (domain, orig)] at hw
      exact (Option.some.inj hw).symm.trans hvalue
    · rw [known_mapRange_of_ne _ _ fun heq => hx (congrArg Prod.snd heq)] at hw
      exact h.known x w hw

/-! ## Consistency -/

/-- `m'` comes after `m`, and from `m'` on the words `xs` are mapped by `g`. -/
def SeededMapper.Consistent (word : IdWord ω) (domain : Domain) (m m' : SeededMapper)
    (xs : List ω) (g : ω → ω) : Prop :=
  m.Extends m' ∧ ∀ m'', m'.Extends m'' → ∀ x ∈ xs, (m''.mapWord word domain x).1 = g x

theorem consistent_of_known {m m' : SeededMapper} {f : Domain × UInt64 → UInt64} {xs : List ω}
    (hext : m.Extends m') (hf : m'.Agrees f)
    (hknown : ∀ x ∈ xs, (m'.known (domain, word.widen x)).isSome = true) :
    SeededMapper.Consistent word domain m m' xs (word.through f domain) := by
  refine ⟨hext, fun m'' hlater x hx => ?_⟩
  obtain ⟨v, hv⟩ := Option.isSome_iff_exists.mp (hknown x hx)
  show word.narrow (m''.mapRange domain (word.widen x) 0 word.hi).1 = _
  rw [mapRange_of_known (hlater _ v hv)]
  exact congrArg word.narrow (hf _ v hv).symm

end TurboLaser
