import TurboLaser.Lib.Fields

/-!
# A buffer with fields laid over it

An editor goes over a buffer in several passes, and a later pass may read what an
earlier one wrote. What it leaves is often simpler to say than what it does: the old
buffer with some fields laid over it. `patched` is that description, a list of fields
at their offsets, with no order of writes in it.

- `Holds out p`: the buffer has the bytes of the field where the field is;
- `eq_patched`: **a buffer is the patched one when it has the bytes of every field, and
  the old bytes where there is no field**. Each half is a fact about single bytes, so
  it can be collected write by write from what the passes are known to do.
-/

namespace TurboLaser.Lib

/-- A field to lay over a buffer. -/
structure Patch where
  off : Nat
  bytes : List UInt8
deriving DecidableEq

/-- The field covers the index. -/
def Patch.Covers (p : Patch) (i : Nat) : Prop := p.off ≤ i ∧ i < p.off + p.bytes.length

instance (p : Patch) (i : Nat) : Decidable (p.Covers i) := inferInstanceAs (Decidable (_ ∧ _))

/-- The byte at an index: that of the first field that covers it, or the old one. -/
def patchedByte (buf : List UInt8) (ps : List Patch) (i : Nat) : UInt8 :=
  match ps.find? fun p => decide (p.Covers i) with
  | some p => byte p.bytes (i - p.off)
  | none => byte buf i

/-- The buffer with the fields laid over it. -/
def patched (buf : List UInt8) (ps : List Patch) : List UInt8 :=
  (List.range buf.length).map (patchedByte buf ps)

@[simp] theorem length_patched (buf : List UInt8) (ps : List Patch) :
    (patched buf ps).length = buf.length := by
  rw [patched, List.length_map, List.length_range]

theorem byte_patched {buf : List UInt8} (ps : List Patch) {i : Nat} (hi : i < buf.length) :
    byte (patched buf ps) i = patchedByte buf ps i := by
  have hlen : i < (patched buf ps).length := by rwa [length_patched]
  rw [byte, List.getD_eq_getElem?_getD, List.getElem?_eq_getElem hlen, Option.getD_some]
  simp only [patched, List.getElem_map, List.getElem_range]

/-- The buffer has the bytes of the field where the field is. -/
def Holds (out : List UInt8) (p : Patch) : Prop :=
  ∀ i, p.Covers i → byte out i = byte p.bytes (i - p.off)

/-- **What a buffer with every field and the old bytes elsewhere is.** -/
theorem eq_patched {buf out : List UInt8} {ps : List Patch} (hlen : out.length = buf.length)
    (hfields : ∀ p ∈ ps, Holds out p)
    (hrest : ∀ i, (∀ p ∈ ps, ¬ p.Covers i) → byte out i = byte buf i) : out = patched buf ps := by
  refine ext_byte (by rw [hlen, length_patched]) fun i hi => ?_
  rw [byte_patched ps (by omega)]
  -- byte by byte: the first field that covers the index has its byte there, or no field does
  unfold patchedByte
  split
  · next p hfind =>
    have hcovers : p.Covers i := by simpa using List.find?_some hfind
    exact hfields p (List.mem_of_find?_eq_some hfind) i hcovers
  · next hfind =>
    exact hrest i fun p hp hcovers => List.find?_eq_none.mp hfind p hp (decide_eq_true hcovers)

/-- Where no field is, the patched buffer is the old one. -/
theorem patched_agree (buf : List UInt8) (ps : List Patch) :
    AgreeOn (fun i => ∀ p ∈ ps, ¬ p.Covers i) (patched buf ps) buf := by
  refine ⟨length_patched buf ps, fun i hi => ?_⟩
  by_cases hlt : i < buf.length
  · rw [byte_patched ps hlt, patchedByte, List.find?_eq_none.mpr]
    exact fun p hp hcovers => hi p hp (of_decide_eq_true hcovers)
  · have hout : ∀ b : List UInt8, b.length = buf.length → byte b i = 0 := by
      intro b hb
      rw [byte, List.getD_eq_getElem?_getD, List.getElem?_eq_none (by omega), Option.getD_none]
    rw [hout buf rfl, hout _ (length_patched buf ps)]

/-! ## Fields that were written -/

/-- A buffer has the fields of one that it agrees with. -/
theorem Holds.of_agree {P : Nat → Prop} {out out' : List UInt8} {p : Patch}
    (h : AgreeOn P out out') (hP : ∀ i, p.Covers i → P i) (hp : Holds out' p) : Holds out p :=
  fun i hi => (h.2 i (hP i hi)).trans (hp i hi)

/-- A field that was written is there. -/
theorem holds_write {buf : List UInt8} {off : Nat} {xs : List UInt8}
    (hfits : off + xs.length ≤ buf.length) : Holds (write buf off xs) ⟨off, xs⟩ := by
  rintro i ⟨hlo, hhi⟩
  dsimp only at hlo hhi ⊢
  rw [byte_write, if_pos ⟨hlo, hhi, by omega⟩]
  rfl

/-- A word that reads as `a` is the field of `a`. -/
theorem holds_word {out : List UInt8} {off : Nat} {a : UInt32} (h : be32 out off = a) :
    Holds out ⟨off, toBeBytes a⟩ := by
  rintro i ⟨hlo, hhi⟩
  dsimp only at hlo hhi ⊢
  rw [length_toBeBytes] at hhi
  rw [← h, toBeBytes_be32]
  obtain ⟨k, rfl⟩ : ∃ k, i = off + k := ⟨i - off, by omega⟩
  rw [Nat.add_sub_cancel_left]
  have hk : k = 0 ∨ k = 1 ∨ k = 2 ∨ k = 3 := by omega
  obtain rfl | rfl | rfl | rfl := hk <;> rfl

end TurboLaser.Lib
