import TurboLaser.Lib.Bytes
import TurboLaser.Lib.Readers

/-!
# Words, read

The words of 16 and 32 bits that `Lib.Bytes` writes out, in either order of the bytes, are read back
by a number of as many bytes.

Writers of binary formats fix the width and the byte order of a field and fill it with a machine
word; readers take so many bytes and make a number of them. The facts here join the two sides. Each
of them has the form `Reads r (bytes of x) x.toNat`, so that it is a step of a longer reading, and
says nothing of what stands behind the word.

- `reads_be16`, `reads_be32`: a word, most significant byte first;
- `reads_le16`, `reads_le32`: a word, least significant byte first;
- `reads_be16_ofNat`, `reads_le16_ofNat`: a length that fits its field comes back as the number it
  was, which is what a format with length fields needs to be cut up again. A length that does not
  fit is truncated by the writer and is not recovered; the bound is the hypothesis.
-/

namespace TurboLaser.Lib

open Reader

/-- A number of `n` bytes, least significant byte first. `Reader.number` is the one of the other
order; the fold runs from the right, so that the last byte weighs most. -/
def Reader.leNumber (n : Nat) : Reader Nat := do
  let digits ← bytes n
  return digits.foldr (fun b acc => b.toNat + acc * 256) 0

/-- A number is read from its bytes, backwards. -/
theorem Reads.leNumber {n : Nat} {xs : List UInt8} (h : xs.length = n) :
    Reads (Reader.leNumber n) xs (xs.foldr (fun b acc => b.toNat + acc * 256) 0) :=
  (Reads.bytes h).bind_pure

/-- Two bytes in network order are the word they were written from. -/
theorem reads_be16 (x : UInt16) : Reads (number 2) (toBeBytes16 x) x.toNat := by
  have h := Reads.number (show (toBeBytes16 x).length = 2 from rfl)
  have hx := x.toNat_lt
  have hvalue : (toBeBytes16 x).foldl (fun acc b => acc * 256 + b.toNat) 0 = x.toNat := by
    simp only [toBeBytes16, List.foldl_cons, List.foldl_nil, UInt8.toNat_ofNat']
    omega
  rwa [hvalue] at h

/-- Four bytes in network order are the word they were written from. -/
theorem reads_be32 (a : UInt32) : Reads (number 4) (toBeBytes a) a.toNat := by
  have h := Reads.number (length_toBeBytes a)
  have ha : a.toNat < 4294967296 := a.toNat_lt
  have hvalue : (toBeBytes a).foldl (fun acc b => acc * 256 + b.toNat) 0 = a.toNat := by
    simp only [toBeBytes, List.foldl_cons, List.foldl_nil, UInt8.toNat_ofNat']
    omega
  rwa [hvalue] at h

/-- Two bytes in little-endian order are the word they were written from. -/
theorem reads_le16 (x : UInt16) : Reads (leNumber 2) (toLeBytes16 x) x.toNat := by
  have h := Reads.leNumber (show (toLeBytes16 x).length = 2 from rfl)
  have hx := x.toNat_lt
  have hvalue : (toLeBytes16 x).foldr (fun b acc => b.toNat + acc * 256) 0 = x.toNat := by
    simp only [toLeBytes16, List.foldr_cons, List.foldr_nil, UInt8.toNat_ofNat']
    omega
  rwa [hvalue] at h

/-- Four bytes in little-endian order are the word they were written from. -/
theorem reads_le32 (a : UInt32) : Reads (leNumber 4) (toLeBytes32 a) a.toNat := by
  have h := Reads.leNumber (show (toLeBytes32 a).length = 4 from rfl)
  have ha : a.toNat < 4294967296 := a.toNat_lt
  have hvalue : (toLeBytes32 a).foldr (fun b acc => b.toNat + acc * 256) 0 = a.toNat := by
    simp only [toLeBytes32, List.foldr_cons, List.foldr_nil, UInt8.toNat_ofNat']
    omega
  rwa [hvalue] at h

/-- A length that fits 16 bits is read back as the number it was written from. -/
theorem reads_be16_ofNat {n : Nat} (h : n < 65536) :
    Reads (number 2) (toBeBytes16 (UInt16.ofNat n)) n := by
  have hread := reads_be16 (UInt16.ofNat n)
  rwa [UInt16.toNat_ofNat', Nat.mod_eq_of_lt h] at hread

/-- The same for a field of the other byte order. -/
theorem reads_le16_ofNat {n : Nat} (h : n < 65536) :
    Reads (leNumber 2) (toLeBytes16 (UInt16.ofNat n)) n := by
  have hread := reads_le16 (UInt16.ofNat n)
  rwa [UInt16.toNat_ofNat', Nat.mod_eq_of_lt h] at hread

end TurboLaser.Lib
