import Mathlib.Data.List.GetD
import TurboLaser.Lib.Bytes

/-!
# Fixed-width fields of a buffer

A `FixedField` is a way to write a value into a fixed number of bytes and to read it back. A buffer
that is built by appending is edited field by field: `read_append` reads the field behind a known
beginning, `write_append` replaces it and leaves everything else, and `write_read` says that writing
what is already there changes nothing, so a program that writes only what differs writes as if it
always did.

The structure carries its two laws, that a value reads back and that a field has only its own bytes,
so every fact about reads and writes is proved once for all widths and byte orders. The instances
are the fields that wire formats use: `u8Field`, `le16Field`, `be16Field` and `le32Field`.

The first part is about buffers as concatenations, `pre ++ (field ++ rest)`, which is how messages
are built; the second is about buffers of which only the length is known, which is how a rewrite
meets them. There

- `read_write`, `write_write`, `read_write_of_disjoint`: the laws of an array with cells of several
  bytes;
- `write_eq_self_iff`: **a write changes nothing exactly when the field has that value already**;
- `read_congr`: buffers that agree on the bytes of a field agree on its value, so that agreement on
  a set of indices (`Lib.AgreeOn`) is enough to read the same fields.
-/

namespace TurboLaser.Lib

/-- Values of `ω` in `width` bytes. `decode_bytes` says that a value reads back, whatever stands
behind it; `bytes_decode` that reading loses nothing, so two values in a field differ only if its
bytes do. -/
structure FixedField (ω : Type) where
  width : Nat
  bytes : ω → List UInt8
  decode : List UInt8 → ω
  length_bytes : ∀ x, (bytes x).length = width
  decode_bytes : ∀ x rest, decode (bytes x ++ rest) = x
  bytes_decode : ∀ {buf}, width ≤ buf.length → bytes (decode buf) = buf.take width

variable {ω : Type}

/-- The value of the field at offset `off`. -/
def FixedField.read (field : FixedField ω) (buf : List UInt8) (off : Nat) : ω :=
  field.decode (buf.drop off)

/-- Overwrite the field at offset `off`. -/
def FixedField.write (field : FixedField ω) (buf : List UInt8) (off : Nat) (x : ω) : List UInt8 :=
  Lib.write buf off (field.bytes x)

/-! ## Buffers built by appending -/

/-- A write behind a prefix leaves the prefix alone. -/
theorem write_append_right (pre buf : List UInt8) (i : Nat) (xs : List UInt8) :
    write (pre ++ buf) (pre.length + i) xs = pre ++ write buf i xs := by
  induction xs generalizing buf i with
  | nil => rfl
  | cons x xs ih =>
    rw [write, write, List.set_append_right _ _ (Nat.le_add_right _ _), Nat.add_sub_cancel_left,
      Nat.add_assoc, ih]

/-- A run of bytes at the front is replaced by one of the same length. -/
theorem write_over {old new : List UInt8} (rest : List UInt8) (h : old.length = new.length) :
    write (old ++ rest) 0 new = new ++ rest := by
  induction new generalizing old with
  | nil =>
    obtain rfl : old = [] := List.eq_nil_of_length_eq_zero h
    rfl
  | cons x new ih =>
    cases old with
    | nil => cases h
    | cons y old =>
      rw [List.cons_append, write, List.set_cons_zero]
      have hone : write (x :: (old ++ rest)) (0 + 1) new = [x] ++ write (old ++ rest) 0 new :=
        write_append_right [x] (old ++ rest) 0 new
      rw [hone, ih (Nat.succ.inj h)]
      rfl

/-- Replace a run of bytes in the middle of a buffer. -/
theorem write_append {pre old new : List UInt8} (rest : List UInt8)
    (h : old.length = new.length) :
    write (pre ++ (old ++ rest)) pre.length new = pre ++ (new ++ rest) := by
  have hright := write_append_right pre (old ++ rest) 0 new
  rw [Nat.add_zero] at hright
  rw [hright, write_over rest h]

/-- A byte behind a prefix. -/
theorem byte_append_right (pre buf : List UInt8) (i : Nat) :
    byte (pre ++ buf) (pre.length + i) = byte buf i := by
  unfold byte
  rw [List.getD_append_right _ _ _ _ (Nat.le_add_right _ _), Nat.add_sub_cancel_left]

/-- A byte of what is left when `off` bytes are dropped. -/
theorem byte_drop (buf : List UInt8) (off i : Nat) :
    byte (buf.drop off) i = byte buf (off + i) := by
  unfold byte
  rw [List.getD_eq_getElem?_getD, List.getD_eq_getElem?_getD, List.getElem?_drop]

/-- Two buffers of one length with the same bytes are one. -/
theorem ext_byte {b b' : List UInt8} (hlen : b.length = b'.length)
    (h : ∀ i < b.length, byte b i = byte b' i) : b = b' := by
  refine List.ext_getElem hlen fun i hi hi' => ?_
  have hbyte := h i hi
  unfold byte at hbyte
  rwa [List.getD_eq_getElem _ _ hi, List.getD_eq_getElem _ _ hi'] at hbyte

/-- The bytes of a buffer from `off` on, `n` of them. -/
theorem byte_take_drop (buf : List UInt8) (off : Nat) {n i : Nat} (hi : i < n) :
    byte ((buf.drop off).take n) i = byte buf (off + i) := by
  rw [← byte_drop]
  unfold byte
  rw [List.getD_eq_getElem?_getD, List.getD_eq_getElem?_getD, List.getElem?_take_of_lt hi]

/-- Writing what is there changes nothing. -/
theorem write_self (buf : List UInt8) (off n : Nat) :
    write buf off ((buf.drop off).take n) = buf := by
  -- inside the run the byte that is written is the one that was taken from there
  refine ext_byte (length_write _ _ _) fun i _ => ?_
  rw [byte_write]
  split
  · next h =>
    obtain ⟨hle, hlt, -⟩ := h
    rw [List.length_take, List.length_drop] at hlt
    have hbyte : byte ((buf.drop off).take n) (i - off) = byte buf (off + (i - off)) :=
      byte_take_drop buf off (by omega)
    rwa [show off + (i - off) = i by omega] at hbyte
  · rfl

/-! ## Reading and writing fields -/

namespace FixedField

variable (field : FixedField ω)

/-- A field behind a known beginning is read. -/
theorem read_append (pre rest : List UInt8) (x : ω) :
    field.read (pre ++ (field.bytes x ++ rest)) pre.length = x := by
  unfold read
  rw [List.drop_left]
  exact field.decode_bytes x rest

/-- **A field behind a known beginning is replaced**, and nothing else is. -/
theorem write_append (pre rest : List UInt8) (x y : ω) :
    field.write (pre ++ (field.bytes x ++ rest)) pre.length y = pre ++ (field.bytes y ++ rest) :=
  Lib.write_append rest (by rw [field.length_bytes, field.length_bytes])

@[simp] theorem length_write (buf : List UInt8) (off : Nat) (x : ω) :
    (field.write buf off x).length = buf.length :=
  Lib.length_write _ _ _

/-- **Writing what is there changes nothing.** -/
theorem write_read {buf : List UInt8} {off : Nat} (h : off + field.width ≤ buf.length) :
    field.write buf off (field.read buf off) = buf := by
  unfold write read
  rw [field.bytes_decode (by rw [List.length_drop]; omega)]
  exact write_self buf off _

/-- A field has the bytes it was read from. -/
theorem byte_bytes_read {buf : List UInt8} {off i : Nat} (h : off + field.width ≤ buf.length)
    (hi : i < field.width) : byte (field.bytes (field.read buf off)) i = byte buf (off + i) := by
  unfold read
  rw [field.bytes_decode (by rw [List.length_drop]; omega), byte_take_drop _ _ hi]

/-- What a write of a field leaves at every index. -/
theorem byte_write (buf : List UInt8) (off : Nat) (x : ω) (i : Nat) :
    byte (field.write buf off x) i =
      if off ≤ i ∧ i < off + field.width ∧ i < buf.length then byte (field.bytes x) (i - off)
      else byte buf i := by
  unfold write
  rw [Lib.byte_write, field.length_bytes]
  rfl

/-- A write leaves the other bytes alone. -/
theorem byte_write_of_outside {buf : List UInt8} {off i : Nat} (x : ω)
    (h : i < off ∨ off + field.width ≤ i) : byte (field.write buf off x) i = byte buf i := by
  rw [byte_write, if_neg (by omega)]

/-- The last write of a field stands. -/
@[simp] theorem write_write (buf : List UInt8) (off : Nat) (x y : ω) :
    field.write (field.write buf off x) off y = field.write buf off y := by
  refine ext_byte (by rw [length_write, length_write, length_write]) fun i _ => ?_
  rw [byte_write, field.byte_write buf off y, length_write]
  split
  · rfl
  · next hout => rw [byte_write, if_neg hout]

/-- A field that was written reads back. -/
theorem read_write {buf : List UInt8} {off : Nat} (h : off + field.width ≤ buf.length) (x : ω) :
    field.read (field.write buf off x) off = x := by
  -- the bytes of the field are those of `x`; what stands behind them does not matter
  have hbytes : ((field.write buf off x).drop off).take field.width = field.bytes x := by
    have hlen : ((field.write buf off x).drop off).length = buf.length - off := by
      rw [List.length_drop, length_write]
    refine ext_byte ?_ fun i hi => ?_
    · rw [List.length_take, hlen, field.length_bytes]
      omega
    · rw [List.length_take, hlen] at hi
      rw [byte_take_drop _ _ (by omega), byte_write, if_pos (by omega), Nat.add_sub_cancel_left]
  unfold read
  rw [← List.take_append_drop field.width ((field.write buf off x).drop off), hbytes]
  exact field.decode_bytes x _

/-- A field stays as it is exactly when what is written is what it has. -/
theorem write_eq_self_iff {buf : List UInt8} {off : Nat} (h : off + field.width ≤ buf.length)
    {x : ω} : field.write buf off x = buf ↔ field.read buf off = x := by
  constructor
  · intro hsame
    rw [← field.read_write h x, hsame]
  · rintro rfl
    exact field.write_read h

/-- Buffers that agree on the field have the same value in it. -/
theorem read_congr {b b' : List UInt8} {off : Nat} (hlen : off + field.width ≤ b.length)
    (hlen' : off + field.width ≤ b'.length)
    (h : ∀ i, off ≤ i → i < off + field.width → byte b i = byte b' i) :
    field.read b off = field.read b' off := by
  -- the two values have the same bytes, and bytes decode to one value
  have hbytes : field.bytes (field.read b off) = field.bytes (field.read b' off) := by
    refine ext_byte (by rw [field.length_bytes, field.length_bytes]) fun i hi => ?_
    rw [field.length_bytes] at hi
    rw [field.byte_bytes_read hlen hi, field.byte_bytes_read hlen' hi,
      h _ (Nat.le_add_right _ _) (by omega)]
  have hdecode := congrArg (fun bytes => field.decode (bytes ++ [])) hbytes
  simpa only [field.decode_bytes] using hdecode

/-- A field elsewhere is not read differently. -/
theorem read_write_of_disjoint {ω' : Type} (field' : FixedField ω') {buf : List UInt8}
    {off off' : Nat} (y : ω') (hlen : off + field.width ≤ buf.length)
    (h : off + field.width ≤ off' ∨ off' + field'.width ≤ off) :
    field.read (field'.write buf off' y) off = field.read buf off := by
  refine field.read_congr ?_ hlen fun i hi hi' => ?_
  · rwa [length_write]
  · exact field'.byte_write_of_outside y (by omega)

end FixedField

/-! ## The fields -/

/-- A byte from its value. -/
theorem uint8_ofNat_of_eq {n : Nat} {x : UInt8} (h : n = x.toNat) : UInt8.ofNat n = x := by
  rw [h, UInt8.ofNat_toNat]

/-- One byte. -/
def u8Field : FixedField UInt8 where
  width := 1
  bytes x := [x]
  decode buf := byte buf 0
  length_bytes _ := rfl
  decode_bytes _ _ := rfl
  bytes_decode {buf} h := by
    obtain ⟨a, rest, rfl⟩ := List.exists_cons_of_length_pos h
    rfl

/-- A 16-bit word, least significant byte first. -/
def le16Field : FixedField UInt16 where
  width := 2
  bytes := toLeBytes16
  decode buf := UInt16.ofNat (le16 buf 0)
  length_bytes _ := rfl
  decode_bytes x rest := by
    have hword : le16 (toLeBytes16 x ++ rest) 0 = x.toNat := le16_of_bytes rfl rfl
    rw [hword, UInt16.ofNat_toNat]
  bytes_decode {buf} h := by
    match buf, h with
    | a :: b :: rest, _ =>
      have ha := a.toNat_lt
      have hb := b.toNat_lt
      have hword : (UInt16.ofNat (a.toNat + b.toNat * 256)).toNat = a.toNat + b.toNat * 256 := by
        rw [UInt16.toNat_ofNat']
        omega
      show toLeBytes16 (UInt16.ofNat (a.toNat + b.toNat * 256)) = [a, b]
      rw [toLeBytes16, hword, uint8_ofNat_of_eq (x := a) (by omega),
        uint8_ofNat_of_eq (x := b) (by omega)]

/-- A 16-bit word, most significant byte first. -/
def be16Field : FixedField UInt16 where
  width := 2
  bytes := toBeBytes16
  decode buf := UInt16.ofNat (be16 buf 0)
  length_bytes _ := rfl
  decode_bytes x rest := by
    have hword : be16 (toBeBytes16 x ++ rest) 0 = x.toNat := be16_of_bytes rfl rfl
    rw [hword, UInt16.ofNat_toNat]
  bytes_decode {buf} h := by
    match buf, h with
    | a :: b :: rest, _ =>
      have ha := a.toNat_lt
      have hb := b.toNat_lt
      have hword : (UInt16.ofNat (a.toNat * 256 + b.toNat)).toNat = a.toNat * 256 + b.toNat := by
        rw [UInt16.toNat_ofNat']
        omega
      show toBeBytes16 (UInt16.ofNat (a.toNat * 256 + b.toNat)) = [a, b]
      rw [toBeBytes16, hword, uint8_ofNat_of_eq (x := a) (by omega),
        uint8_ofNat_of_eq (x := b) (by omega)]

/-- The little-endian 32-bit word at the beginning of a buffer. -/
def le32 (buf : List UInt8) : Nat :=
  (byte buf 0).toNat + (byte buf 1).toNat * 256 + (byte buf 2).toNat * 65536 +
    (byte buf 3).toNat * 16777216

/-- A 32-bit word, least significant byte first. -/
def le32Field : FixedField UInt32 where
  width := 4
  bytes := toLeBytes32
  decode buf := UInt32.ofNat (le32 buf)
  length_bytes _ := rfl
  decode_bytes x rest := by
    have hx := x.toNat_lt
    have hword : le32 (toLeBytes32 x ++ rest) = x.toNat := by
      show (UInt8.ofNat _).toNat + (UInt8.ofNat _).toNat * 256 +
        (UInt8.ofNat _).toNat * 65536 + (UInt8.ofNat _).toNat * 16777216 = _
      rw [UInt8.toNat_ofNat', UInt8.toNat_ofNat', UInt8.toNat_ofNat', UInt8.toNat_ofNat']
      omega
    rw [hword, UInt32.ofNat_toNat]
  bytes_decode {buf} h := by
    match buf, h with
    | a :: b :: c :: d :: rest, _ =>
      have ha := a.toNat_lt
      have hb := b.toNat_lt
      have hc := c.toNat_lt
      have hd := d.toNat_lt
      have hword : (UInt32.ofNat (le32 (a :: b :: c :: d :: rest))).toNat =
          a.toNat + b.toNat * 256 + c.toNat * 65536 + d.toNat * 16777216 := by
        show (UInt32.ofNat (a.toNat + b.toNat * 256 + c.toNat * 65536 +
          d.toNat * 16777216)).toNat = _
        rw [UInt32.toNat_ofNat']
        omega
      show toLeBytes32 (UInt32.ofNat (le32 (a :: b :: c :: d :: rest))) = [a, b, c, d]
      rw [toLeBytes32, hword, uint8_ofNat_of_eq (x := a) (by omega),
        uint8_ofNat_of_eq (x := b) (by omega), uint8_ofNat_of_eq (x := c) (by omega),
        uint8_ofNat_of_eq (x := d) (by omega)]

end TurboLaser.Lib
