import TurboLaser.Lib.Readers

/-!
# BER, read

The other end of an encoder: a decoder for the basic encoding rules as far as object identifiers,
definite lengths, integers and octet strings go. It is strict: what is not minimal is refused.

Strictness is what makes it a check. A lenient decoder reads most mistakes of an encoder as
something, and then agrees with it; here a number with a redundant leading byte, an arc with a
leading continuation of zero, an indefinite length or a length that does not match its content is
refused. (Lengths in the long form are accepted with any number of length bytes, as the basic rules
allow.)

- `subIds`: the numbers of an object identifier, seven bits a byte, the last byte of each without
  the continuation bit; `splitFirst` takes the first two arcs apart again, and `splitFirst_fold` and
  `fold_splitFirst` say that it is the inverse of putting them together where that is allowed;
- `berLength`: the short form, or the number of length bytes and the bytes;
- `element`: a tag, a length and a content; `tlv` where the tag is known;
- `signedInt`: a two's complement integer.

`subIds_count`: **an object identifier has one number for each byte without the continuation bit**,
so bytes that were encoded as something else are not read as it. With it one refutes that a given
encoding decodes to the identifier it was made from, without evaluating the decoder.
-/

namespace TurboLaser.Lib.Ber

/-! ## Object identifiers

The contents of an object identifier are numbers in groups of seven bits, and the first number holds
two arcs. Reading it is a fold that keeps the part of a number read so far. There is one number for
each byte without the continuation bit, whatever the bytes are.
-/

/-- The numbers of an object identifier; `acc` is the part of a number that was read already. -/
def subIds : Option Nat → List UInt8 → Option (List Nat)
  | none, [] => some []
  | some _, [] => none
  | acc, b :: rest =>
    if acc = none ∧ b = 0x80 then none
    else if b.toNat < 128 then
      (subIds none rest).map ((acc.getD 0 * 128 + b.toNat) :: ·)
    else subIds (some (acc.getD 0 * 128 + (b.toNat - 128))) rest

/-- The first number holds two arcs: `40 * a + b`, where `a` is 2 when `b` is large. -/
def splitFirst (v : Nat) : Nat × Nat :=
  if v < 40 then (0, v) else if v < 80 then (1, v - 40) else (2, v - 80)

/-- The arcs of an object identifier. -/
def oidArcs (content : List UInt8) : Option (List Nat) :=
  match subIds none content with
  | some (v :: arcs) => some ((splitFirst v).1 :: (splitFirst v).2 :: arcs)
  | _ => none

/-- The byte has no continuation bit: a number ends here. -/
def isLast (b : UInt8) : Bool := decide (b.toNat < 128)

/-- **One number for each byte without the continuation bit.** -/
theorem subIds_count {acc : Option Nat} {bytes : List UInt8} {arcs : List Nat}
    (h : subIds acc bytes = some arcs) : arcs.length = bytes.countP isLast := by
  induction bytes generalizing acc arcs with
  | nil =>
    cases acc with
    | none =>
      cases h
      rfl
    | some v => cases h
  | cons b rest ih =>
    rw [subIds] at h
    split at h
    · cases h
    · split at h
      · next hlast =>
        obtain ⟨arcs', harcs', rfl⟩ := Option.map_eq_some_iff.mp h
        have hb : isLast b = true := decide_eq_true hlast
        rw [List.length_cons, ih harcs', List.countP_cons_of_pos hb]
      · next hmore =>
        have hb : ¬ isLast b = true := by rwa [isLast, decide_eq_true_iff]
        rw [ih h, List.countP_cons_of_neg hb]

/-- The bytes of one number: every byte but the last continues, and the first is not empty. -/
theorem subIds_number (digits : List UInt8) {last : UInt8} (hmore : ∀ b ∈ digits, 128 ≤ b.toNat)
    (hlast : last.toNat < 128) (hfirst : digits.head? ≠ some 0x80) (rest : List UInt8) :
    subIds none (digits ++ last :: rest) =
      (subIds none rest).map
        ((digits.foldl (fun acc b => acc * 128 + (b.toNat - 128)) 0 * 128 + last.toNat) :: ·) := by
  -- behind the first byte every further one continues the number
  have hrun : ∀ (ds : List UInt8) (v : Nat), (∀ b ∈ ds, 128 ≤ b.toNat) →
      subIds (some v) (ds ++ last :: rest) = (subIds none rest).map
        ((ds.foldl (fun acc b => acc * 128 + (b.toNat - 128)) v * 128 + last.toNat) :: ·) := by
    intro ds
    induction ds with
    | nil =>
      intro v _
      rw [List.nil_append, subIds, if_neg (by rintro ⟨h, -⟩; cases h), if_pos hlast,
        Option.getD_some, List.foldl_nil]
    | cons d ds ih =>
      intro v hds
      have hd := hds d List.mem_cons_self
      rw [List.cons_append, subIds, if_neg (by rintro ⟨h, -⟩; cases h), if_neg (by omega),
        ih _ fun b hb => hds b (List.mem_cons_of_mem _ hb), Option.getD_some, List.foldl_cons]
  cases digits with
  | nil =>
    -- a number of one byte is below 128, so it is not the refused leading byte
    have hne : ¬ (none = (none : Option Nat) ∧ last = 0x80) := by
      rintro ⟨-, rfl⟩
      exact absurd hlast (by decide)
    rw [List.nil_append, subIds, if_neg hne, if_pos hlast, Option.getD_none, List.foldl_nil]
  | cons d ds =>
    have hd := hmore d List.mem_cons_self
    have hne : ¬ (none = (none : Option Nat) ∧ d = 0x80) := by
      rintro ⟨-, rfl⟩
      exact hfirst rfl
    rw [List.cons_append, subIds, if_neg hne, if_neg (by omega),
      hrun ds _ fun b hb => hmore b (List.mem_cons_of_mem _ hb), Option.getD_none, List.foldl_cons]

/-- The two arcs of a first number. -/
theorem splitFirst_fold {a b : Nat} (ha : a ≤ 2) (hb : a < 2 → b ≤ 39) :
    splitFirst (a * 40 + b) = (a, b) := by
  unfold splitFirst
  obtain rfl | rfl | rfl : a = 0 ∨ a = 1 ∨ a = 2 := by omega
  · have := hb (by omega)
    rw [if_pos (by omega), Nat.zero_mul, Nat.zero_add]
  · have := hb (by omega)
    rw [if_neg (by omega), if_pos (by omega), Nat.one_mul, Nat.add_sub_cancel_left]
  · rw [if_neg (by omega), if_neg (by omega), Nat.add_sub_cancel_left]

/-- Which first number two arcs came from. -/
theorem fold_splitFirst (v : Nat) : (splitFirst v).1 * 40 + (splitFirst v).2 = v := by
  unfold splitFirst
  split
  · simp
  · split
    · simp only
      omega
    · simp only
      omega

/-! ## Lengths, contents and integers -/

/-- A definite length: below 128 in one byte, or a count of bytes and the bytes. -/
def berLength : Reader Nat := do
  let b ← Reader.anyByte
  if b.toNat < 128 then return b.toNat
  else
    Reader.guard (b ≠ 0x80)
    Reader.number (b.toNat - 128)

/-- A tag and its content. -/
def element : Reader (UInt8 × List UInt8) := do
  let tag ← Reader.anyByte
  let n ← berLength
  let body ← Reader.bytes n
  return (tag, body)

/-- An element with this tag, and a content that makes sense. -/
def tlv {α : Type} (tag : UInt8) (content : List UInt8 → Option α) : Reader α := do
  let found ← element
  Reader.guard (found.1 = tag)
  Reader.ofOption (content found.2)

/-- The sign is in the first bit of the first byte. -/
def signedByte (b : UInt8) : Int := if b.toNat < 128 then b.toNat else (b.toNat : Int) - 256

/-- A first byte that only repeats the sign of the second. -/
def Redundant (b : UInt8) : List UInt8 → Prop
  | [] => False
  | c :: _ => (b = 0 ∧ c.toNat < 128) ∨ (b = 0xff ∧ 128 ≤ c.toNat)

instance (b : UInt8) (rest : List UInt8) : Decidable (Redundant b rest) := by
  cases rest
  · exact inferInstanceAs (Decidable False)
  · exact inferInstanceAs (Decidable (_ ∨ _))

/-- A two's complement integer, in as few bytes as it takes. -/
def signedInt : List UInt8 → Option Int
  | [] => none
  | b :: rest =>
    if Redundant b rest then none
    else some (rest.foldl (fun acc x => acc * 256 + (x.toNat : Int)) (signedByte b))

/-- The whole content, as it is. -/
def octets (content : List UInt8) : Option (List UInt8) := some content

/-- No content. -/
def null : List UInt8 → Option Unit
  | [] => some ()
  | _ :: _ => none

/-- A length below 128 is its own byte. -/
theorem reads_berLength_short {b : UInt8} (h : b.toNat < 128) : Reads berLength [b] b.toNat := by
  refine Reads.bind (x := [b]) (y := []) (Reads.anyByte b) ?_
  rw [if_pos h]
  exact Reads.pure _

/-- A longer one says how many bytes it has, and then what it is. -/
theorem reads_berLength_long {b : UInt8} (digits : List UInt8) (h : 0 < digits.length)
    (hb : b.toNat = 128 + digits.length) :
    Reads berLength (b :: digits) (digits.foldl (fun acc x => acc * 256 + x.toNat) 0) := by
  refine Reads.bind (x := [b]) (y := digits) (Reads.anyByte b) ?_
  rw [if_neg (by omega)]
  have hne : b ≠ 0x80 := by
    rintro rfl
    have hlen : (0x80 : UInt8).toNat = 128 := rfl
    omega
  exact Reads.bind (x := []) (y := digits) (Reads.guard hne) (Reads.number (by omega))

/-- A number that is not negative is read as the digits say. -/
theorem foldl_digits (digits : List UInt8) (n : Nat) :
    digits.foldl (fun acc x => acc * 256 + (x.toNat : Int)) (n : Int) =
      (digits.foldl (fun acc b => acc * 256 + b.toNat) n : Nat) := by
  induction digits generalizing n with
  | nil => rfl
  | cons d digits ih =>
    rw [List.foldl_cons, List.foldl_cons, ← ih, Int.natCast_add, Int.natCast_mul]
    rfl

/-- Digits behind a first byte below 128. -/
theorem signedInt_of_small {b : UInt8} {rest : List UInt8} (hb : b.toNat < 128)
    (h : ¬ Redundant b rest) :
    signedInt (b :: rest) =
      some (((b :: rest).foldl (fun acc x => acc * 256 + x.toNat) 0 : Nat) : Int) := by
  rw [signedInt, if_neg h, signedByte, if_pos hb, foldl_digits, List.foldl_cons, Nat.zero_mul,
    Nat.zero_add]

/-- **A tag, a length and a content are read.** -/
theorem reads_element (tag : UInt8) {len body : List UInt8}
    (hlen : Reads berLength len body.length) :
    Reads element (tag :: (len ++ body)) (tag, body) :=
  Reads.bind (x := [tag]) (Reads.anyByte tag) (hlen.bind (Reads.bytes rfl).bind_pure)

/-- So is what the content says. -/
theorem reads_tlv {α : Type} (tag : UInt8) {len body : List UInt8}
    {content : List UInt8 → Option α} {a : α} (hlen : Reads berLength len body.length)
    (hbody : content body = some a) : Reads (tlv tag content) (tag :: (len ++ body)) a := by
  have hall := (reads_element tag hlen).bind
    (f := fun found => (do
      Reader.guard (found.1 = tag)
      Reader.ofOption (content found.2) : Reader α))
    (Reads.bind (x := []) (y := []) (Reads.guard rfl) (Reads.ofOption hbody))
  rwa [List.append_nil, List.append_nil] at hall

end TurboLaser.Lib.Ber
