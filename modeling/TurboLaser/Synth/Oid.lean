import TurboLaser.Lib.Ber
import TurboLaser.Text

/-!
# Object identifiers (synth/snmp.rs)

`encode_oid` turns a dotted text into the content of an OBJECT IDENTIFIER. Its components are read
by the standard library, which allows a leading `+`; the first two are folded into one byte, and
every other one is written in groups of seven bits.

The reference is what the text means as an OID, and whether BER can encode that: `oidOfText` is
written from the standard, with digits only, two arcs at least, a first arc of at most two and a
second below 40 unless the first is two. The encoder is exact on a text if it accepts it exactly
when it is an OID, and then its content decodes to the arcs. It is lenient in two ways and lossy in
one, and each is visible in a decoder: a sign is accepted, a second arc of 40 or more is accepted
where it stands for another pair, and a first number from 128 on is cut to one byte, which reads as
another number, or as an arc too few.

- `oidOfText`: what the text says, when it is an OID that BER can encode;
- `subIds_arcBytes`: **an arc is read back**, with the arcs behind it, however large it is;
- `encodesExactly_iff`: **the content decodes to the arcs of the text exactly when no component is
  signed and the first two arcs fit one byte.** That a cut first byte never decodes rightly by
  accident is a count of the bytes without the continuation bit.
-/

namespace TurboLaser.Synth

open Lib

/-- The value of a run of decimal digits. -/
def decimalValue (digits : List Char) : Nat :=
  digits.foldl (fun acc c => acc * 10 + (c.toNat - 48)) 0

/-- `u64::from_str`: a sign is allowed, and any number of leading zeros. -/
def parseU64 (cs : List Char) : Option Nat :=
  let digits := if cs.head? = some '+' then cs.drop 1 else cs
  if digits = [] ∨ ¬ digits.all Char.isDigit then none
  else if decimalValue digits < 18446744073709551616 then some (decimalValue digits)
  else none

/-- The `while` loop over an arc: its groups behind the first, least significant first, each
with the continuation bit. `places` is what is left of the array. -/
def moreGroups : Nat → Nat → List UInt8
  | 0, _ => []
  | places + 1, v =>
    if 0 < v then UInt8.ofNat (v % 128 + 128) :: moreGroups places (v / 128) else []

/-- One arc: its ten groups at most, last to first. -/
def arcBytes (arc : Nat) : List UInt8 :=
  (UInt8.ofNat (arc % 128) :: moreGroups 9 (arc / 128)).reverse

/-- The arcs as the source reads them. -/
def parseArcs (s : String) : Option (List Nat) := (s.toList.splitOn '.').mapM parseU64

/-- `encode_oid`. The first two arcs are folded in 64 bits and cut to a byte. -/
def encodeOid (s : String) : Option (List UInt8) :=
  match parseArcs s with
  | some (a :: b :: arcs) =>
    if 2 < a then none
    else some (UInt8.ofNat ((a * 40 + b) % 18446744073709551616) :: arcs.flatMap arcBytes)
  | _ => none

/-- The fold of the first two arcs overflows 64 bits. -/
def foldOverflows (s : String) : Bool :=
  match parseArcs s with
  | some (a :: b :: _) => decide (a ≤ 2 ∧ 18446744073709551616 ≤ a * 40 + b)
  | _ => false

/-! ## What a text says -/

/-- A component of a dotted decimal OID: digits, one at least. -/
def decimalArc (cs : List Char) : Option Nat :=
  if cs = [] ∨ ¬ cs.all Char.isDigit then none else some (decimalValue cs)

/-- The arcs a text names, when it is an OID that BER can encode. -/
def oidOfText (s : String) : Option (List Nat) :=
  match (s.toList.splitOn '.').mapM decimalArc with
  | some (a :: b :: arcs) =>
    if a ≤ 2 ∧ (a < 2 → b ≤ 39) then some (a :: b :: arcs) else none
  | _ => none

/-- A run of digits carries no sign. -/
theorem head_ne_plus {cs : List Char} (h : cs.all Char.isDigit) : cs.head? ≠ some '+' := by
  cases cs with
  | nil => nofun
  | cons c cs =>
    rw [List.all_cons, Bool.and_eq_true] at h
    rintro ⟨⟩
    exact absurd h.1 (by decide)

/-- Without a sign, a component is read as its digits say, as far as 64 bits go. -/
theorem parseU64_of_unsigned {cs : List Char} (h : cs.head? ≠ some '+') {n : Nat} :
    parseU64 cs = some n ↔ decimalArc cs = some n ∧ n < 18446744073709551616 := by
  unfold parseU64 decimalArc
  simp only [h, if_false]
  split
  · simp
  · constructor
    · intro hn
      split at hn
      · next hlt =>
        cases hn
        exact ⟨rfl, hlt⟩
      · cases hn
    · rintro ⟨hn, hlt⟩
      cases hn
      rw [if_pos hlt]

theorem decimalArc_digits {cs : List Char} {n : Nat} (h : decimalArc cs = some n) :
    cs.head? ≠ some '+' := by
  unfold decimalArc at h
  split at h
  · cases h
  · next hne => exact head_ne_plus (by simpa using fun hall => hne (.inr hall))

/-- Lists of components that are read one by one. -/
theorem mapM_eq_some_iff {α β : Type} {f : α → Option β} {xs : List α} {ys : List β} :
    xs.mapM f = some ys ↔ List.Forall₂ (fun x y => f x = some y) xs ys := by
  induction xs generalizing ys with
  | nil =>
    rw [List.mapM_nil]
    constructor
    · rintro ⟨⟩
      exact .nil
    · rintro ⟨⟩
      rfl
  | cons x xs ih =>
    rw [List.mapM_cons]
    constructor
    · intro h
      obtain ⟨y, hy, h⟩ := Option.bind_eq_some_iff.mp h
      obtain ⟨ys', hys, h⟩ := Option.bind_eq_some_iff.mp h
      cases h
      exact .cons hy (ih.mp hys)
    · rintro (_ | ⟨hy, hys⟩)
      exact Option.bind_eq_some_iff.mpr
        ⟨_, hy, Option.bind_eq_some_iff.mpr ⟨_, ih.mpr hys, rfl⟩⟩

/-! ## Arcs read back

An arc is written in groups of seven bits, the most significant first, and all but the last carry a
continuation bit. The reader is told where an arc ends by that bit alone. The first byte folds two
arcs, and a byte that was cut is read as two others.
-/

/-- Every group behind the first continues the number. -/
theorem continues_moreGroups {places v : Nat} : ∀ b ∈ moreGroups places v, 128 ≤ b.toNat := by
  induction places generalizing v with
  | zero => nofun
  | succ places ih =>
    rw [moreGroups]
    split
    · rintro b hb
      rcases List.mem_cons.mp hb with rfl | hb
      · rw [UInt8.toNat_ofNat']
        omega
      · exact ih b hb
    · nofun

/-- A number that fits one group more. -/
theorem div_lt_groups {places v : Nat} (h : v < Nat.pow 128 (places + 1)) :
    v / 128 < Nat.pow 128 places :=
  Nat.div_lt_of_lt_mul (Nat.mul_comm (Nat.pow 128 places) 128 ▸ h)

/-- The most significant group is not empty, as far as the array reaches. -/
theorem getLast_moreGroups {places v : Nat} (h : v < Nat.pow 128 places) :
    (moreGroups places v).getLast? ≠ some 0x80 := by
  induction places generalizing v with
  | zero => nofun
  | succ places ih =>
    rw [moreGroups]
    split
    · next hpos =>
      have hrest := div_lt_groups h
      -- the last group is what is left of a number that is not zero, so more than its marker bit
      by_cases hzero : v / 128 = 0
      · have hnil : moreGroups places 0 = [] := by
          cases places with
          | zero => rfl
          | succ places => rfl
        rw [hzero, hnil]
        rintro heq
        have hb : (UInt8.ofNat (v % 128 + 128)).toNat = (0x80 : UInt8).toNat :=
          congrArg UInt8.toNat (Option.some.inj heq)
        rw [UInt8.toNat_ofNat'] at hb
        have hword : (0x80 : UInt8).toNat = 128 := rfl
        omega
      · have hmore : moreGroups places (v / 128) ≠ [] := by
          cases places with
          | zero =>
            simp only [Nat.pow_eq, Nat.pow_zero] at hrest
            omega
          | succ places =>
            rw [moreGroups, if_pos (by omega)]
            exact List.cons_ne_nil _ _
        rw [List.getLast?_cons_of_ne_nil hmore]
        exact ih hrest
    · nofun

/-- The groups make up the number. -/
theorem foldl_moreGroups {places v : Nat} (h : v < Nat.pow 128 places) :
    (moreGroups places v).reverse.foldl (fun acc b => acc * 128 + (b.toNat - 128)) 0 = v := by
  induction places generalizing v with
  | zero =>
    have hv : v = 0 := by
      simp only [Nat.pow_eq, Nat.pow_zero] at h
      omega
    rw [hv]
    rfl
  | succ places ih =>
    rw [moreGroups]
    split
    · rw [List.reverse_cons, List.foldl_append, ih (div_lt_groups h), List.foldl_cons, List.foldl_nil,
        UInt8.toNat_ofNat']
      omega
    · next hzero =>
      show 0 = v
      omega

/-- **An arc is read back**, with the arcs behind it. -/
theorem subIds_arcBytes {arc : Nat} (h : arc < 18446744073709551616) (rest : List UInt8) :
    Ber.subIds none (arcBytes arc ++ rest) = (Ber.subIds none rest).map (arc :: ·) := by
  -- ten groups of seven bits hold 64 bits
  have hplaces : arc / 128 < Nat.pow 128 9 := by
    show arc / 128 < 9223372036854775808
    omega
  have hlow : (UInt8.ofNat (arc % 128)).toNat = arc % 128 := by
    rw [UInt8.toNat_ofNat']
    omega
  have hread := Ber.subIds_number (moreGroups 9 (arc / 128)).reverse
    (fun b hb => continues_moreGroups b (List.mem_reverse.mp hb))
    (show (UInt8.ofNat (arc % 128)).toNat < 128 by omega)
    (by rw [List.head?_reverse]; exact getLast_moreGroups hplaces) rest
  rw [arcBytes, List.reverse_cons, List.append_assoc, List.singleton_append, hread, hlow,
    foldl_moreGroups hplaces]
  congr 2
  funext arcs
  congr 1
  omega

theorem subIds_arcs {arcs : List Nat} (h : ∀ arc ∈ arcs, arc < 18446744073709551616) :
    Ber.subIds none (arcs.flatMap arcBytes) = some arcs := by
  induction arcs with
  | nil => rfl
  | cons arc arcs ih =>
    rw [List.flatMap_cons, subIds_arcBytes (h arc List.mem_cons_self),
      ih fun x hx => h x (List.mem_cons_of_mem _ hx)]
    rfl

theorem count_arcs {arcs : List Nat} (h : ∀ arc ∈ arcs, arc < 18446744073709551616) :
    (arcs.flatMap arcBytes).countP Ber.isLast = arcs.length :=
  (Ber.subIds_count (subIds_arcs h)).symm

/-- A first byte that is not cut is taken apart into its two arcs. -/
theorem oidArcs_of_fits {a b : Nat} {arcs : List Nat} (ha : a ≤ 2) (hsmall : a < 2 → b ≤ 39)
    (hlarge : a = 2 → b ≤ 47) (h : ∀ arc ∈ arcs, arc < 18446744073709551616) :
    Ber.oidArcs (UInt8.ofNat ((a * 40 + b) % 18446744073709551616) :: arcs.flatMap arcBytes) =
      some (a :: b :: arcs) := by
  have hfirst : (UInt8.ofNat ((a * 40 + b) % 18446744073709551616)).toNat = a * 40 + b := by
    rw [UInt8.toNat_ofNat']
    omega
  have hread := Ber.subIds_number [] (by nofun)
    (show (UInt8.ofNat ((a * 40 + b) % 18446744073709551616)).toNat < 128 by omega) nofun
    (arcs.flatMap arcBytes)
  rw [subIds_arcs h, List.nil_append, hfirst, List.foldl_nil, Nat.zero_mul, Nat.zero_add] at hread
  rw [Ber.oidArcs, hread]
  show some ((Ber.splitFirst (a * 40 + b)).1 :: (Ber.splitFirst (a * 40 + b)).2 :: arcs) = _
  rw [Ber.splitFirst_fold ha hsmall]

/-- **A first byte that was cut is not**: the arcs behind it do not come out with the second
one. -/
theorem fits_of_oidArcs {b : Nat} {arcs : List Nat}
    (h : ∀ arc ∈ arcs, arc < 18446744073709551616)
    (hread : Ber.oidArcs (UInt8.ofNat ((2 * 40 + b) % 18446744073709551616) ::
      arcs.flatMap arcBytes) = some (2 :: b :: arcs)) : b ≤ 47 := by
  unfold Ber.oidArcs at hread
  split at hread
  · next v arcs' hsub =>
    simp only [Option.some.injEq, List.cons.injEq] at hread
    obtain ⟨hv1, hv2, rfl⟩ := hread
    have hv := Ber.fold_splitFirst v
    rw [hv1, hv2] at hv
    -- a byte with the continuation bit would swallow the arc behind it
    have hcount := Ber.subIds_count hsub
    rw [List.countP_cons, count_arcs h, List.length_cons] at hcount
    have hlast : Ber.isLast (UInt8.ofNat ((2 * 40 + b) % 18446744073709551616)) = true := by
      by_contra hmore
      rw [if_neg hmore] at hcount
      omega
    have hlt : (UInt8.ofNat ((2 * 40 + b) % 18446744073709551616)).toNat < 128 :=
      of_decide_eq_true hlast
    have hnumber := Ber.subIds_number [] (by nofun) hlt nofun (arcs'.flatMap arcBytes)
    rw [List.nil_append, hsub, subIds_arcs h] at hnumber
    cases Option.some.inj hnumber
    simp only [List.foldl_nil, Nat.zero_mul, Nat.zero_add] at hv
    omega
  · cases hread

/-! ## Exactness

A text is judged by `oidOfText`, which reads decimal arcs without a bound and without signs. The
source reads 64-bit arcs, accepts a plus sign, and folds the first two arcs into a byte. So the two
agree where no sign is there and the fold fits; beyond 64 bits the source may refuse, which it is
allowed to.
-/

/-- What `encode_oid` promises of a text: what it accepts is an OID and decodes to it, what is
no OID is refused, an OID of 64-bit arcs is accepted, and nothing overflows. -/
structure EncodesExactly (s : String) : Prop where
  decodes : ∀ content, encodeOid s = some content →
    ∃ arcs, oidOfText s = some arcs ∧ Ber.oidArcs content = some arcs
  refuses : oidOfText s = none → encodeOid s = none
  accepts : ∀ arcs, oidOfText s = some arcs → (∀ arc ∈ arcs, arc < 18446744073709551616) →
    (encodeOid s).isSome
  noOverflow : foldOverflows s = false

/-- Where the source reads arcs of which the first is 0, 1 or 2, no component has a sign, and
the second arc is at most 39, or at most 47 behind a 2. -/
def FitsFirstByte (s : String) : Prop :=
  ∀ a b arcs, parseArcs s = some (a :: b :: arcs) → a ≤ 2 →
    (∀ component ∈ s.toList.splitOn '.', component.head? ≠ some '+') ∧
      (a < 2 → b ≤ 39) ∧ (a = 2 → b ≤ 47)

theorem parseU64_lt {cs : List Char} {n : Nat} (h : parseU64 cs = some n) :
    n < 18446744073709551616 := by
  unfold parseU64 at h
  dsimp only at h
  generalize (if cs.head? = some '+' then cs.drop 1 else cs) = digits at h
  split at h
  · cases h
  · split at h
    · next hlt =>
      cases h
      exact hlt
    · cases h

/-- Every arc the source reads fits 64 bits. -/
theorem parseArcs_lt {s : String} {arcs : List Nat} (h : parseArcs s = some arcs) :
    ∀ arc ∈ arcs, arc < 18446744073709551616 := by
  have hread := mapM_eq_some_iff.mp h
  generalize s.toList.splitOn '.' = components at hread
  clear h
  induction hread with
  | nil => nofun
  | cons hcomponent _ ih =>
    intro arc harc
    rcases List.mem_cons.mp harc with rfl | harc
    · exact parseU64_lt hcomponent
    · exact ih arc harc

/-- Where no component has a sign, the source reads what the text says, as far as 64 bits go. -/
theorem parseArcs_of_unsigned {s : String} {arcs : List Nat}
    (hsign : ∀ component ∈ s.toList.splitOn '.', component.head? ≠ some '+') :
    parseArcs s = some arcs ↔ (s.toList.splitOn '.').mapM decimalArc = some arcs ∧
      ∀ arc ∈ arcs, arc < 18446744073709551616 := by
  constructor
  · intro h
    refine ⟨mapM_eq_some_iff.mpr ?_, parseArcs_lt h⟩
    have hread := mapM_eq_some_iff.mp h
    clear h
    -- component by component: a sign is the only thing the two readers disagree on
    generalize s.toList.splitOn '.' = components at hread hsign
    induction hread with
    | nil => exact .nil
    | cons hcomponent _ ih =>
      exact .cons ((parseU64_of_unsigned (hsign _ List.mem_cons_self)).mp hcomponent).1
        (ih fun c hc => hsign c (List.mem_cons_of_mem _ hc))
  · rintro ⟨h, hlt⟩
    refine mapM_eq_some_iff.mpr ?_
    have hread := mapM_eq_some_iff.mp h
    clear h
    generalize s.toList.splitOn '.' = components at hread hsign
    induction hread with
    | nil => exact .nil
    | cons hcomponent _ ih =>
      exact .cons ((parseU64_of_unsigned (hsign _ List.mem_cons_self)).mpr
          ⟨hcomponent, hlt _ List.mem_cons_self⟩)
        (ih (fun arc harc => hlt arc (List.mem_cons_of_mem _ harc))
          fun c hc => hsign c (List.mem_cons_of_mem _ hc))

/-- A text of digits has no sign. -/
theorem unsigned_of_decimal {s : String} {arcs : List Nat}
    (h : (s.toList.splitOn '.').mapM decimalArc = some arcs) :
    ∀ component ∈ s.toList.splitOn '.', component.head? ≠ some '+' := by
  have hread := mapM_eq_some_iff.mp h
  clear h
  generalize s.toList.splitOn '.' = components at hread
  induction hread with
  | nil => nofun
  | cons hcomponent _ ih =>
    intro c hc
    rcases List.mem_cons.mp hc with rfl | hc
    · exact decimalArc_digits hcomponent
    · exact ih c hc

/-- What `oidOfText` finds. -/
theorem oidOfText_eq_some {s : String} {arcs : List Nat} (h : oidOfText s = some arcs) :
    (s.toList.splitOn '.').mapM decimalArc = some arcs ∧
      ∃ a b rest, arcs = a :: b :: rest ∧ a ≤ 2 ∧ (a < 2 → b ≤ 39) := by
  unfold oidOfText at h
  split at h
  · next a b rest hread =>
    split at h
    · next hfits =>
      cases h
      exact ⟨hread, a, b, rest, rfl, hfits⟩
    · cases h
  · cases h

/-- What the source accepts. -/
theorem encodeOid_eq_some {s : String} {content : List UInt8} (h : encodeOid s = some content) :
    ∃ a b arcs, parseArcs s = some (a :: b :: arcs) ∧ a ≤ 2 ∧ content =
      UInt8.ofNat ((a * 40 + b) % 18446744073709551616) :: arcs.flatMap arcBytes := by
  unfold encodeOid at h
  split at h
  · next a b arcs hread =>
    split at h
    · cases h
    · cases h
      exact ⟨a, b, arcs, hread, by omega, rfl⟩
  · cases h

theorem encodeOid_of_parse {s : String} {a b : Nat} {arcs : List Nat}
    (h : parseArcs s = some (a :: b :: arcs)) (ha : a ≤ 2) :
    encodeOid s =
      some (UInt8.ofNat ((a * 40 + b) % 18446744073709551616) :: arcs.flatMap arcBytes) := by
  unfold encodeOid
  rw [h]
  exact if_neg (by omega)

/-- **`encode_oid` is exact just where no component is signed and the first two arcs fit their
byte.** Exact means that it accepts the texts which denote an object identifier of 64-bit arcs, and
that the octets decode to what they denote. -/
theorem encodesExactly_iff (s : String) : EncodesExactly s ↔ FitsFirstByte s := by
  constructor
  · intro hexact a b arcs hparse ha
    obtain ⟨arcs', hoid, hread⟩ := hexact.decodes _ (encodeOid_of_parse hparse ha)
    obtain ⟨hdigits, a', b', rest, rfl, -, hsmall⟩ := oidOfText_eq_some hoid
    have hsign := unsigned_of_decimal hdigits
    -- the text says what the source read
    have hsame := ((parseArcs_of_unsigned hsign).mp hparse).1
    rw [hdigits] at hsame
    cases Option.some.inj hsame
    refine ⟨hsign, hsmall, ?_⟩
    rintro rfl
    exact fits_of_oidArcs (fun arc harc => parseArcs_lt hparse arc
      (List.mem_cons_of_mem _ (List.mem_cons_of_mem _ harc))) hread
  · intro hfits
    have haccepted : ∀ content, encodeOid s = some content →
        ∃ arcs, oidOfText s = some arcs ∧ Ber.oidArcs content = some arcs := by
      intro content hcontent
      obtain ⟨a, b, arcs, hparse, ha, rfl⟩ := encodeOid_eq_some hcontent
      obtain ⟨hsign, hsmall, hlarge⟩ := hfits a b arcs hparse ha
      refine ⟨a :: b :: arcs, ?_, oidArcs_of_fits ha hsmall hlarge fun arc harc =>
        parseArcs_lt hparse arc (List.mem_cons_of_mem _ (List.mem_cons_of_mem _ harc))⟩
      rw [oidOfText, ((parseArcs_of_unsigned hsign).mp hparse).1]
      exact if_pos ⟨ha, hsmall⟩
    refine ⟨haccepted, ?_, ?_, ?_⟩
    · intro hnone
      cases hcontent : encodeOid s with
      | none => rfl
      | some content =>
        obtain ⟨arcs, hoid, -⟩ := haccepted content hcontent
        rw [hnone] at hoid
        cases hoid
    · intro arcs hoid hlt
      obtain ⟨hdigits, a, b, rest, rfl, ha, -⟩ := oidOfText_eq_some hoid
      have hparse := (parseArcs_of_unsigned (unsigned_of_decimal hdigits)).mpr ⟨hdigits, hlt⟩
      rw [encodeOid_of_parse hparse ha]
      rfl
    · unfold foldOverflows
      split
      · next a b arcs hparse =>
        refine decide_eq_false ?_
        rintro ⟨ha, hover⟩
        obtain ⟨-, hsmall, hlarge⟩ := hfits a b arcs hparse ha
        omega
      · rfl

/-- `1.200` is no OID, and is accepted. -/
theorem oid_beyond_fold :
    encodeOid "1.200" = some [240] ∧ oidOfText "1.200" = none ∧ ¬ EncodesExactly "1.200" := by
  have haccepted : encodeOid "1.200" = some [240] := by decide
  have hnone : oidOfText "1.200" = none := by decide
  refine ⟨haccepted, hnone, fun hexact => ?_⟩
  have hrefused := hexact.refuses hnone
  rw [haccepted] at hrefused
  cases hrefused

example : encodeOid "1.3.6.1.4.1.8691.7.50" =
    some [0x2b, 0x06, 0x01, 0x04, 0x01, 0xc3, 0x73, 0x07, 0x32] := by decide

end TurboLaser.Synth
