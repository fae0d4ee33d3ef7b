import TurboLaser.Lib.Fields
import TurboLaser.Lib.Scan
import TurboLaser.Proto.Mapper

/-!
# Payload mutators (proto/mod.rs)

A mutator edits identity fields of fixed width in a payload, asks the mapper for the new values and
reports what changed. Every edit is one of two: `Mutation.put` writes a given value over a field,
`Mutation.remap` asks the mapper for it. Both leave a field alone whose value stays, which is the
same as writing it (`put_payload`, `remap_payload`).

A `Mutation` is the state of a mutator while it goes over one payload: the bytes, the mapper and the
reports so far. The mutators of the protocols are functions on it, so an edit is a step of that
state, and facts about edits compose. Since no edit changes the length of the payload or any byte
outside its field, offsets that were computed before an edit are good after it.

`run_items` is what the walking mutators rest on: a payload that is a concatenation of encoded items
is walked item by item, and **one function rewrites all of them**, the one that the mapper has on
record when the walk is over. So a result about a protocol has two parts, that its loop walks its
items, and that it rewrites one item rightly (`RewritesItem`); the loop itself is a `Lib.Scan`.
-/

namespace TurboLaser

open Lib

/-- `Protocol`. -/
inductive Protocol where
  | modbus
  | enip
  | s7
  | dnp3
deriving DecidableEq

/-- `MutationReport`. -/
structure MutationReport where
  protocol : Protocol
  field : String
  original : UInt64
  new : UInt64
deriving DecidableEq

/-- What `mutate` works on: the payload, the mapper and the reports so far. -/
structure Mutation where
  payload : List UInt8
  mapper : SeededMapper
  reports : List MutationReport

/-- `ParsedFrame`: a buffer with its layout. -/
structure ParsedFrame where
  buf : List UInt8
  layout : FrameLayout

/-- `payload`. -/
def ParsedFrame.payload (f : ParsedFrame) : List UInt8 :=
  slice f.buf f.layout.payload f.layout.stop

/-- The port at an offset of the transport header; other transports have none. -/
def ParsedFrame.port (f : ParsedFrame) (off : Nat) : Option UInt16 :=
  match f.layout.l4Kind with
  | .tcp | .udp => some (be16Field.read f.buf (f.layout.l4 + off))
  | .other => none

/-- `src_port`. -/
def ParsedFrame.srcPort (f : ParsedFrame) : Option UInt16 := f.port 0

/-- `dst_port`. -/
def ParsedFrame.dstPort (f : ParsedFrame) : Option UInt16 := f.port 2

/-- One end of the frame is on one of these ports. -/
def ParsedFrame.onPort (f : ParsedFrame) (ports : List UInt16) : Bool :=
  f.srcPort.any (· ∈ ports) || f.dstPort.any (· ∈ ports)

/-! ## The two edits

The mutators edit fields in two ways: they put a given value, or ask the mapper for one. Each
reports the field if its value changes. For a payload that is built by appending, an edit of the
field behind a beginning is an edit of that field alone, which is the form in which the encoders'
messages are followed.
-/

variable {ω : Type} [DecidableEq ω]

/-- What is reported about a field: nothing when it keeps its value. -/
def changeReport (word : IdWord ω) (protocol : Protocol) (name : String) (orig new : ω) :
    List MutationReport :=
  if new = orig then [] else [⟨protocol, name, word.widen orig, word.widen new⟩]

/-- Write a value over a field and report it, unless the field has it. -/
def Mutation.put (word : IdWord ω) (field : FixedField ω) (protocol : Protocol) (name : String)
    (off : Nat) (new : ω) (s : Mutation) : Mutation :=
  let orig := field.read s.payload off
  if new = orig then s
  else
    { s with
      payload := field.write s.payload off new
      reports := s.reports ++ [⟨protocol, name, word.widen orig, word.widen new⟩] }

/-- Ask the mapper for the new value of a field. -/
def Mutation.remap (word : IdWord ω) (field : FixedField ω) (protocol : Protocol) (domain : Domain)
    (name : String) (off : Nat) (s : Mutation) : Mutation :=
  let (new, mapper) := s.mapper.mapWord word domain (field.read s.payload off)
  Mutation.put word field protocol name off new { s with mapper }

variable (word : IdWord ω) (field : FixedField ω) (protocol : Protocol) (domain : Domain)
  (name : String) (off : Nat) (s : Mutation)

@[simp] theorem put_mapper (new : ω) :
    (s.put word field protocol name off new).mapper = s.mapper := by
  unfold Mutation.put
  dsimp only
  split
  · rfl
  · rfl

theorem put_reports (new : ω) :
    (s.put word field protocol name off new).reports =
      s.reports ++ changeReport word protocol name (field.read s.payload off) new := by
  unfold Mutation.put changeReport
  dsimp only
  split
  · rw [List.append_nil]
  · rfl

/-- An edit writes the field, whether it changes or not. -/
theorem put_payload (new : ω) (h : off + field.width ≤ s.payload.length) :
    (s.put word field protocol name off new).payload = field.write s.payload off new := by
  unfold Mutation.put
  dsimp only
  split
  · next hsame => rw [hsame, field.write_read h]
  · rfl

/-- An edit keeps the length, and every byte outside its field. -/
theorem put_agreeOn (new : ω) :
    AgreeOn (fun i => i < off ∨ off + field.width ≤ i)
      (s.put word field protocol name off new).payload s.payload := by
  unfold Mutation.put
  dsimp only
  split
  · exact .refl _ _
  · exact ⟨field.length_write _ _ _, fun i hi => field.byte_write_of_outside new hi⟩

theorem remap_mapper : (s.remap word field protocol domain name off).mapper =
    (s.mapper.mapWord word domain (field.read s.payload off)).2 :=
  put_mapper ..

theorem remap_extends :
    s.mapper.Extends (s.remap word field protocol domain name off).mapper := by
  rw [remap_mapper]
  exact mapWord_extends word s.mapper domain _

theorem remap_known :
    ((s.remap word field protocol domain name off).mapper.known
      (domain, word.widen (field.read s.payload off))).isSome = true := by
  rw [remap_mapper]
  exact mapWord_known word s.mapper domain _

theorem remap_agreeOn :
    AgreeOn (fun i => i < off ∨ off + field.width ≤ i)
      (s.remap word field protocol domain name off).payload s.payload :=
  put_agreeOn ..

theorem remap_payload (h : off + field.width ≤ s.payload.length) :
    (s.remap word field protocol domain name off).payload =
      field.write s.payload off (s.mapper.mapWord word domain (field.read s.payload off)).1 :=
  put_payload word field protocol name off { s with mapper := _ } _ h

theorem remap_reports :
    (s.remap word field protocol domain name off).reports =
      s.reports ++ changeReport word protocol name (field.read s.payload off)
        (s.mapper.mapWord word domain (field.read s.payload off)).1 :=
  put_reports word field protocol name off { s with mapper := _ } _

variable {field off s}

/-- A given value for the field that follows `pre`. -/
theorem put_append {pre rest : List UInt8} {x : ω} (new : ω)
    (hpayload : s.payload = pre ++ (field.bytes x ++ rest)) (hoff : off = pre.length) :
    (s.put word field protocol name off new).payload = pre ++ (field.bytes new ++ rest) ∧
      (s.put word field protocol name off new).reports =
        s.reports ++ changeReport word protocol name x new := by
  have hread : field.read s.payload off = x := by
    rw [hpayload, hoff, field.read_append]
  have hfits : off + field.width ≤ s.payload.length := by
    rw [hpayload, hoff, List.length_append, List.length_append, field.length_bytes]
    omega
  constructor
  · rw [put_payload _ _ _ _ _ _ _ hfits, hpayload, hoff, field.write_append]
  · rw [put_reports, hread]

/-- **One edit of a payload built by appending**: the field that follows `pre` gets the
value that any function agreeing with the mapper's record behind it gives. -/
theorem remap_append {pre rest : List UInt8} {x : ω}
    (hpayload : s.payload = pre ++ (field.bytes x ++ rest)) (hoff : off = pre.length) :
    ∃ y, (s.remap word field protocol domain name off).payload = pre ++ (field.bytes y ++ rest) ∧
      ((s.remap word field protocol domain name off).mapper.known
        (domain, word.widen x)).isSome = true ∧
      ∀ f, (s.remap word field protocol domain name off).mapper.Agrees f →
        y = word.through f domain x ∧
        (s.remap word field protocol domain name off).reports =
          s.reports ++ changeReport word protocol name x (word.through f domain x) := by
  have hread : field.read s.payload off = x := by
    rw [hpayload, hoff, field.read_append]
  have hfits : off + field.width ≤ s.payload.length := by
    rw [hpayload, hoff, List.length_append, List.length_append, field.length_bytes]
    omega
  have hknown := remap_known word field protocol domain name off s
  have hpayload' := remap_payload word field protocol domain name off s hfits
  have hreports := remap_reports word field protocol domain name off s
  have hmapper := remap_mapper word field protocol domain name off s
  rw [hread] at hknown hpayload' hreports hmapper
  rw [hpayload, hoff, field.write_append] at hpayload'
  subst hoff
  refine ⟨_, hpayload', hknown, fun f hf => ?_⟩
  rw [hmapper] at hf
  exact ⟨mapWord_eq hf, mapWord_eq hf ▸ hreports⟩

/-! ## Walking a concatenation of items -/

/-- From `s` to `t` the payload keeps its length, the mapper has grown, and it knows the keys
of the item. -/
structure MappedItem {α : Type} (keys : α → List (Domain × UInt64)) (a : α) (s t : Mutation) :
    Prop where
  length : t.payload.length = s.payload.length
  grown : s.mapper.Extends t.mapper
  known : ∀ k ∈ keys a, (t.mapper.known k).isSome = true

/-- In a payload of `size` bytes of which the last `behind` are not walked, one turn rewrites
one encoded item through any function that agrees with the mapper's record behind it, and moves
behind the item. -/
def RewritesItem {α : Type} (size behind : Nat) (scan : Scan Mutation) (enc : α → List UInt8)
    (keys : α → List (Domain × UInt64)) (through : (Domain × UInt64 → UInt64) → α → α)
    (reports : (Domain × UInt64 → UInt64) → α → List MutationReport) (a : α) : Prop :=
  ∀ s pre rest, s.payload = pre ++ (enc a ++ rest) → s.payload.length = size →
    behind ≤ rest.length →
    ∃ t a', scan.step s pre.length = some (t, (pre ++ enc a').length) ∧
      t.payload = (pre ++ enc a') ++ rest ∧ MappedItem keys a s t ∧
      ∀ f, t.mapper.Agrees f → a' = through f a ∧ t.reports = s.reports ++ reports f a

theorem run_items {α : Type} {scan : Scan Mutation} {enc : α → List UInt8}
    {keys : α → List (Domain × UInt64)} {through : (Domain × UInt64 → UInt64) → α → α}
    {reports : (Domain × UInt64 → UInt64) → α → List MutationReport} {items : List α}
    (s : Mutation) (pre rest : List UInt8)
    (hitem : ∀ a ∈ items,
      RewritesItem s.payload.length rest.length scan enc keys through reports a)
    (hpayload : s.payload = pre ++ (items.flatMap enc ++ rest)) :
    ∃ t items', scan.run s pre.length = scan.run t (pre ++ items'.flatMap enc).length ∧
      t.payload = (pre ++ items'.flatMap enc) ++ rest ∧
      t.payload.length = s.payload.length ∧ s.mapper.Extends t.mapper ∧
      (∀ a ∈ items, ∀ k ∈ keys a, (t.mapper.known k).isSome = true) ∧
      ∀ f, t.mapper.Agrees f → items' = items.map (through f) ∧
        t.reports = s.reports ++ items.flatMap (reports f) := by
  induction items generalizing s pre with
  | nil =>
    refine ⟨s, [], by rw [List.flatMap_nil, List.append_nil], ?_, rfl, .refl _ _, nofun,
      fun f _ => ?_⟩
    · rw [hpayload, List.flatMap_nil, List.nil_append, List.append_nil]
    · exact ⟨rfl, (List.append_nil _).symm⟩
  | cons a items ih =>
    rw [List.flatMap_cons, List.append_assoc] at hpayload
    -- one turn rewrites the first item in place; what follows it is still what was encoded
    obtain ⟨t₁, a', hstep, hpayload₁, hitem₁, hthrough₁⟩ :=
      hitem a List.mem_cons_self s pre _ hpayload rfl
        (List.length_append ▸ Nat.le_add_left _ _)
    obtain ⟨t, items', hrun, hpayload', hlen, hgrown, hknown, hthrough⟩ :=
      ih t₁ _ (fun b hb => hitem₁.length ▸ hitem b (List.mem_cons_of_mem _ hb)) hpayload₁
    refine ⟨t, a' :: items', ?_, ?_, hlen.trans hitem₁.length, hitem₁.grown.trans hgrown, ?_,
      fun f hf => ?_⟩
    · rw [Scan.run_of_some hstep, hrun, List.flatMap_cons, List.append_assoc]
    · rw [hpayload', List.flatMap_cons, List.append_assoc pre]
    · intro b hb k hk
      rcases List.mem_cons.mp hb with rfl | hb
      · -- what the first turn put on record stays there
        obtain ⟨v, hv⟩ := Option.isSome_iff_exists.mp (hitem₁.known k hk)
        rw [hgrown k v hv]
        rfl
      · exact hknown b hb k hk
    · obtain ⟨ha', hreports₁⟩ := hthrough₁ f (hf.mono hgrown)
      obtain ⟨hitems', hreports⟩ := hthrough f hf
      refine ⟨by rw [ha', hitems', List.map_cons], ?_⟩
      rw [hreports, hreports₁, List.flatMap_cons, List.append_assoc]

end TurboLaser
