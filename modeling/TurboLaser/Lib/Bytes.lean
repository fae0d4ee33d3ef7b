import Mathlib.Data.List.Basic
import Mathlib.Tactic.Ring

/-!
# Byte buffers edited in place

A buffer is a list of bytes. Reads outside it are zero and writes outside it do nothing, so a
program that checks its bounds reads and writes exactly what it would in a language that faults.
(`Lib.Panics` is the language that faults; that the two agree on a program that checks its bounds is
proved there, once, for each operation.)

Total operations keep the programs plain functions: a rewrite of a frame is a chain of `write`s with
no error path of its own, and what it leaves at an index is computed by rewriting with the lemmas
below. The facts a verifier needs are here once:

- `byte_write`: what a write of a run of bytes leaves at every index. All facts about writes go
  through it: the written byte inside the run, the old byte outside;
- `be32_write_self`, `toBeBytes_be32`: a big-endian word that was just written reads back, and the
  four bytes of a word are the window it was read from;
- `be16_of_bytes`, `le16_of_bytes`, `be32_of_bytes`: a word from the bytes it was split into, when
  these are known one by one;
- `AgreeOn`: two buffers that agree on a set of indices, which is what a parser that looks at those
  indices only can see. Frame conditions of rewrites are stated with it: the headers are read the
  same before and after.
-/

namespace TurboLaser.Lib

/-- The byte at index `i`; zero past the end. -/
def byte (buf : List UInt8) (i : Nat) : UInt8 := buf.getD i 0

/-- Copy `xs` into the buffer from offset `off` on. The length of the buffer never changes; what
would fall behind its end is dropped. -/
def write : List UInt8 → Nat → List UInt8 → List UInt8
  | buf, _, [] => buf
  | buf, off, x :: xs => write (buf.set off x) (off + 1) xs

/-- The big-endian 16-bit word at `i`, as a number, since lengths and offsets are computed from it.
-/
def be16 (buf : List UInt8) (i : Nat) : Nat :=
  (byte buf i).toNat * 256 + (byte buf (i + 1)).toNat

/-- The big-endian 32-bit word at `i`, as a machine word, since addresses are compared and masked.
-/
def be32 (buf : List UInt8) (i : Nat) : UInt32 :=
  UInt32.ofNat
    ((byte buf i).toNat * 16777216 + (byte buf (i + 1)).toNat * 65536 +
      (byte buf (i + 2)).toNat * 256 + (byte buf (i + 3)).toNat)

/-- The four bytes of a word, most significant first. -/
def toBeBytes (a : UInt32) : List UInt8 :=
  [UInt8.ofNat (a.toNat / 16777216), UInt8.ofNat (a.toNat / 65536 % 256),
    UInt8.ofNat (a.toNat / 256 % 256), UInt8.ofNat (a.toNat % 256)]

/-- The two bytes of a 16-bit word, most significant first. -/
def toBeBytes16 (x : UInt16) : List UInt8 :=
  [UInt8.ofNat (x.toNat / 256), UInt8.ofNat (x.toNat % 256)]

/-- The two bytes of a 16-bit word, least significant first. -/
def toLeBytes16 (x : UInt16) : List UInt8 :=
  [UInt8.ofNat (x.toNat % 256), UInt8.ofNat (x.toNat / 256)]

/-- The four bytes of a word, least significant first. -/
def toLeBytes32 (x : UInt32) : List UInt8 :=
  [UInt8.ofNat (x.toNat % 256), UInt8.ofNat (x.toNat / 256 % 256),
    UInt8.ofNat (x.toNat / 65536 % 256), UInt8.ofNat (x.toNat / 16777216)]

/-- The eight bytes of a 64-bit word, least significant first. -/
def toLeBytes64 (x : UInt64) : List UInt8 :=
  toLeBytes32 (UInt32.ofNat (x.toNat % 4294967296)) ++
    toLeBytes32 (UInt32.ofNat (x.toNat / 4294967296))

/-- The little-endian 16-bit word at `i`. -/
def le16 (buf : List UInt8) (i : Nat) : Nat :=
  (byte buf i).toNat + (byte buf (i + 1)).toNat * 256

/-- Every run of four consecutive bytes, at every offset: what a scan for an address looks at. -/
def windows4 : List UInt8 → List (List UInt8)
  | a :: b :: c :: d :: rest => [a, b, c, d] :: windows4 (b :: c :: d :: rest)
  | _ => []

/-! ## Writes -/

/-- A write never changes the length. -/
@[simp] theorem length_write (buf : List UInt8) (off : Nat) (xs : List UInt8) :
    (write buf off xs).length = buf.length := by
  induction xs generalizing buf off with
  | nil => rfl
  | cons x xs ih => rw [write, ih, List.length_set]

@[simp] theorem byte_cons_zero (x : UInt8) (buf : List UInt8) : byte (x :: buf) 0 = x := rfl

@[simp] theorem byte_cons_succ (x : UInt8) (buf : List UInt8) (i : Nat) :
    byte (x :: buf) (i + 1) = byte buf i := rfl

/-- The byte at an index after one byte was set. -/
theorem byte_set (buf : List UInt8) (off : Nat) (x : UInt8) (i : Nat) :
    byte (buf.set off x) i = if i = off ∧ i < buf.length then x else byte buf i := by
  unfold byte
  rw [List.getD_eq_getElem?_getD, List.getD_eq_getElem?_getD, List.getElem?_set]
  by_cases hi : off = i
  · subst hi
    by_cases hlt : off < buf.length
    · simp [hlt]
    · simp [hlt]
  · have hne : ¬ i = off := fun h => hi h.symm
    simp [hi, hne]

/-- What a write leaves at index `i`: the written byte inside the run, the old
byte outside it. -/
theorem byte_write (buf : List UInt8) (off : Nat) (xs : List UInt8) (i : Nat) :
    byte (write buf off xs) i =
      if off ≤ i ∧ i < off + xs.length ∧ i < buf.length then xs.getD (i - off) 0
      else byte buf i := by
  induction xs generalizing buf off with
  | nil =>
    have hne : ¬ (off ≤ i ∧ i < off + ([] : List UInt8).length ∧ i < buf.length) := by
      rintro ⟨h₁, h₂, -⟩
      exact absurd h₂ (Nat.not_lt.mpr h₁)
    rw [write, if_neg hne]
  | cons x xs ih =>
    -- at `i = off` the head decides, and the rest of the run is written behind it
    rw [write, ih, byte_set, List.length_set, List.length_cons]
    by_cases hhead : i = off
    · subst hhead
      by_cases hlt : i < buf.length
      · rw [if_neg (by omega), if_pos ⟨rfl, hlt⟩, if_pos (by omega)]
        simp
      · rw [if_neg (by omega), if_neg (by omega), if_neg (by omega)]
    · rw [if_neg (c := i = off ∧ i < buf.length) (by omega)]
      by_cases hin : off + 1 ≤ i ∧ i < off + 1 + xs.length ∧ i < buf.length
      · rw [if_pos hin, if_pos (by omega)]
        obtain ⟨k, hk⟩ : ∃ k, i - off = k + 1 := ⟨i - off - 1, by omega⟩
        rw [hk, List.getD_cons_succ, show i - (off + 1) = k by omega]
      · rw [if_neg hin, if_neg (by omega)]

/-- In front of the run nothing changes. -/
theorem byte_write_of_lt {buf : List UInt8} {off : Nat} {xs : List UInt8} {i : Nat}
    (h : i < off) : byte (write buf off xs) i = byte buf i := by
  rw [byte_write, if_neg (by omega)]

/-- Nor does it behind the run. -/
theorem byte_write_of_ge {buf : List UInt8} {off : Nat} {xs : List UInt8} {i : Nat}
    (h : off + xs.length ≤ i) : byte (write buf off xs) i = byte buf i := by
  rw [byte_write, if_neg (by omega)]

/-! ## Words -/

@[simp] theorem length_toBeBytes (a : UInt32) : (toBeBytes a).length = 4 := rfl

/-- A 32-bit word is its four bytes: buffers that agree on them agree on the word. -/
theorem be32_congr {b b' : List UInt8} {i : Nat}
    (h : ∀ k, i ≤ k → k < i + 4 → byte b k = byte b' k) : be32 b i = be32 b' i := by
  unfold be32
  rw [h i (by omega) (by omega), h (i + 1) (by omega) (by omega),
    h (i + 2) (by omega) (by omega), h (i + 3) (by omega) (by omega)]

/-- A 16-bit word is its two bytes. -/
theorem be16_congr {b b' : List UInt8} {i : Nat}
    (h : ∀ k, i ≤ k → k < i + 2 → byte b k = byte b' k) : be16 b i = be16 b' i := by
  unfold be16
  rw [h i (by omega) (by omega), h (i + 1) (by omega) (by omega)]

/-- A word that was just written reads back. -/
theorem be32_write_self {buf : List UInt8} {off : Nat} (a : UInt32)
    (h : off + 4 ≤ buf.length) : be32 (write buf off (toBeBytes a)) off = a := by
  have hbyte : ∀ k < 4, byte (write buf off (toBeBytes a)) (off + k) = (toBeBytes a).getD k 0 := by
    intro k hk
    rw [byte_write, if_pos ⟨by omega, by rw [length_toBeBytes]; omega, by omega⟩,
      Nat.add_sub_cancel_left]
  have h0 := hbyte 0 (by decide)
  rw [Nat.add_zero] at h0
  have ha : a.toNat < 4294967296 := a.toNat_lt
  unfold be32
  rw [h0, hbyte 1 (by decide), hbyte 2 (by decide), hbyte 3 (by decide)]
  -- the four bytes are the digits of `a` in base 256
  apply UInt32.toNat_inj.mp
  simp only [toBeBytes, List.getD_cons_zero, List.getD_cons_succ, UInt8.toNat_ofNat',
    UInt32.toNat_ofNat']
  omega

/-- The bytes of a word are the window it was read from. -/
theorem toBeBytes_be32 (buf : List UInt8) (i : Nat) :
    toBeBytes (be32 buf i) =
      [byte buf i, byte buf (i + 1), byte buf (i + 2), byte buf (i + 3)] := by
  have h0 := (byte buf i).toNat_lt
  have h1 := (byte buf (i + 1)).toNat_lt
  have h2 := (byte buf (i + 2)).toNat_lt
  have h3 := (byte buf (i + 3)).toNat_lt
  have hn : (be32 buf i).toNat =
      (byte buf i).toNat * 16777216 + (byte buf (i + 1)).toNat * 65536 +
        (byte buf (i + 2)).toNat * 256 + (byte buf (i + 3)).toNat := by
    unfold be32
    rw [UInt32.toNat_ofNat']
    exact Nat.mod_eq_of_lt (by omega)
  -- the digits of the word are the bytes, so each byte is found by arithmetic
  have key : ∀ {n : Nat} {x : UInt8}, n = x.toNat → UInt8.ofNat n = x := by
    rintro n x rfl
    exact UInt8.ofNat_toNat
  unfold toBeBytes
  rw [hn]
  refine List.cons_eq_cons.mpr ⟨key (by omega), List.cons_eq_cons.mpr ⟨key (by omega),
    List.cons_eq_cons.mpr ⟨key (by omega), List.cons_eq_cons.mpr ⟨key (by omega), rfl⟩⟩⟩⟩

/-- A 16-bit word reads back from the two bytes it was split into. -/
theorem be16_of_bytes {buf : List UInt8} {i : Nat} {x : UInt16}
    (h0 : byte buf i = UInt8.ofNat (x.toNat / 256))
    (h1 : byte buf (i + 1) = UInt8.ofNat (x.toNat % 256)) : be16 buf i = x.toNat := by
  have hx := x.toNat_lt
  rw [be16, h0, h1, UInt8.toNat_ofNat', UInt8.toNat_ofNat']
  omega

/-- So does one that was split least significant byte first. -/
theorem le16_of_bytes {buf : List UInt8} {i : Nat} {x : UInt16}
    (h0 : byte buf i = UInt8.ofNat (x.toNat % 256))
    (h1 : byte buf (i + 1) = UInt8.ofNat (x.toNat / 256)) : le16 buf i = x.toNat := by
  have hx := x.toNat_lt
  rw [le16, h0, h1, UInt8.toNat_ofNat', UInt8.toNat_ofNat']
  omega

/-- A word reads back from its four bytes. -/
theorem be32_of_bytes {buf : List UInt8} {i : Nat} {x : UInt32}
    (h0 : byte buf i = UInt8.ofNat (x.toNat / 16777216))
    (h1 : byte buf (i + 1) = UInt8.ofNat (x.toNat / 65536 % 256))
    (h2 : byte buf (i + 2) = UInt8.ofNat (x.toNat / 256 % 256))
    (h3 : byte buf (i + 3) = UInt8.ofNat (x.toNat % 256)) : be32 buf i = x := by
  have hx : x.toNat < 4294967296 := x.toNat_lt
  apply UInt32.toNat_inj.mp
  rw [be32, h0, h1, h2, h3]
  simp only [UInt8.toNat_ofNat', UInt32.toNat_ofNat']
  omega

/-! ## Agreement on a range -/

/-- The buffers have one length and the same bytes at the indices of `P`. It is a parser's view of a
buffer: a function that reads only at indices of `P` takes the same value on both. -/
def AgreeOn (P : Nat → Prop) (b b' : List UInt8) : Prop :=
  b.length = b'.length ∧ ∀ i, P i → byte b i = byte b' i

theorem AgreeOn.refl (P : Nat → Prop) (b : List UInt8) : AgreeOn P b b :=
  ⟨rfl, fun _ _ => rfl⟩

/-- Agreement is transitive, so the steps of a rewrite may be followed one by one. -/
theorem AgreeOn.trans {P : Nat → Prop} {b b' b'' : List UInt8} (h : AgreeOn P b b')
    (h' : AgreeOn P b' b'') : AgreeOn P b b'' :=
  ⟨h.1.trans h'.1, fun i hi => (h.2 i hi).trans (h'.2 i hi)⟩

theorem AgreeOn.symm {P : Nat → Prop} {b b' : List UInt8} (h : AgreeOn P b b') :
    AgreeOn P b' b :=
  ⟨h.1.symm, fun i hi => (h.2 i hi).symm⟩

/-- Buffers that agree on more indices agree on fewer. -/
theorem AgreeOn.mono {P Q : Nat → Prop} {b b' : List UInt8} (h : AgreeOn P b b')
    (hPQ : ∀ i, Q i → P i) : AgreeOn Q b b' :=
  ⟨h.1, fun i hi => h.2 i (hPQ i hi)⟩

/-- Where the buffers agree on the four bytes, the word is the same. -/
theorem AgreeOn.be32_eq {P : Nat → Prop} {b b' : List UInt8} (h : AgreeOn P b b') {i : Nat}
    (hP : ∀ k, i ≤ k → k < i + 4 → P k) : be32 b i = be32 b' i :=
  be32_congr fun k hk hk' => h.2 k (hP k hk hk')

/-- Where the buffers agree on the two bytes, the word is the same. -/
theorem AgreeOn.be16_eq {P : Nat → Prop} {b b' : List UInt8} (h : AgreeOn P b b') {i : Nat}
    (hP : ∀ k, i ≤ k → k < i + 2 → P k) : be16 b i = be16 b' i :=
  be16_congr fun k hk hk' => h.2 k (hP k hk hk')

/-- Buffers that agree from `k` on have the same rest. -/
theorem AgreeOn.drop_eq {P : Nat → Prop} {b b' : List UInt8} (h : AgreeOn P b b') {k : Nat}
    (hP : ∀ i, k ≤ i → P i) : b.drop k = b'.drop k := by
  refine List.ext_getElem ?_ fun i hi hi' => ?_
  · rw [List.length_drop, List.length_drop, h.1]
  · have hbyte := h.2 (k + i) (hP _ (Nat.le_add_right k i))
    rw [List.length_drop] at hi hi'
    rw [List.getElem_drop, List.getElem_drop]
    simpa [byte, List.getD_eq_getElem?_getD, show k + i < b.length by omega,
      show k + i < b'.length by omega] using hbyte

/-- A write agrees with the old buffer outside the run it covers. -/
theorem agreeOn_write (buf : List UInt8) (off : Nat) (xs : List UInt8) :
    AgreeOn (fun i => i < off ∨ off + xs.length ≤ i) (write buf off xs) buf := by
  refine ⟨length_write buf off xs, fun i hi => ?_⟩
  rcases hi with hi | hi
  · exact byte_write_of_lt hi
  · exact byte_write_of_ge hi

end TurboLaser.Lib
