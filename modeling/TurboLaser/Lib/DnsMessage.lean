import TurboLaser.Lib.Words

/-!
# DNS messages, read

The other end of a resolver: a header, questions and resource records, with names as lists of
labels. A name ends at the root label or continues elsewhere in the message, where a pointer says;
labels have 63 bytes at most and a name has 255.

A pointer makes the reading of a name depend on the whole message and not only on what is left of
it, so the readers here take the message as an argument. Pointers may form a circle; a name of 255
bytes has fewer than 256 labels and pointers, so that bound on the steps refuses nothing that the
format allows. What the format does not say, whether a type or a class exists, is not looked at: the
fields come out as numbers.

- `reads_labels`: labels that are written one behind the other are read;
- `reads_pointer`: **a pointer stands for the name it points at**, when what it points at is a name
  written out. This is how an answer repeats the name of its question;
- `reads_question`, `reads_record`, `reads_message`: what follows a name, and the whole. The four
  counts of the header have to be those of the sections, and `decode` refuses a message with bytes
  behind it.
-/

namespace TurboLaser.Lib.Dns

open Reader

/-- The labels of a name. -/
abbrev Name := List (List UInt8)

/-- The labels from here on, in at most `fuel` steps; a step is a label or a pointer. -/
def labelsUpTo (msg : List UInt8) : Nat → Reader Name
  | 0 => refuse
  | fuel + 1 => do
    let b ← anyByte
    if b = 0 then return []
    else if b.toNat < 64 then
      let label ← bytes b.toNat
      let labels ← labelsUpTo msg fuel
      return label :: labels
    else
      Reader.guard (192 ≤ b.toNat)
      let low ← anyByte
      -- the name goes on at an offset into the message
      match labelsUpTo msg fuel (msg.drop ((b.toNat - 192) * 256 + low.toNat)) with
      | some found => return found.1
      | none => refuse

/-- The bytes of a name that is written out: a length before each label, and the root. -/
def nameLength : Name → Nat
  | [] => 1
  | label :: name => label.length + 1 + nameLength name

/-- A name of 255 bytes at most. -/
def name (msg : List UInt8) : Reader Name := do
  let labels ← labelsUpTo msg 256
  Reader.guard (nameLength labels ≤ 255)
  return labels

/-- A question. -/
structure Question where
  name : Name
  qtype : Nat
  qclass : Nat
deriving DecidableEq

/-- A resource record. -/
structure Record where
  name : Name
  rtype : Nat
  rclass : Nat
  ttl : Nat
  data : List UInt8
deriving DecidableEq

/-- A message. -/
structure Message where
  id : Nat
  flags : Nat
  questions : List Question
  answers : List Record
  authority : List Record
  additional : List Record
deriving DecidableEq

/-- A question: a name, a type and a class. -/
def question (msg : List UInt8) : Reader Question := do
  let owner ← name msg
  let qtype ← number 2
  let qclass ← number 2
  return ⟨owner, qtype, qclass⟩

/-- A record: a name, a type, a class, a time to live, and data of the length it states. -/
def record (msg : List UInt8) : Reader Record := do
  let owner ← name msg
  let rtype ← number 2
  let rclass ← number 2
  let ttl ← number 4
  let len ← number 2
  let data ← bytes len
  return ⟨owner, rtype, rclass, ttl, data⟩

/-- The header with its four counts, and the sections. -/
def message (msg : List UInt8) : Reader Message := do
  let id ← number 2
  let flags ← number 2
  let qdcount ← number 2
  let ancount ← number 2
  let nscount ← number 2
  let arcount ← number 2
  let questions ← times (question msg) qdcount
  let answers ← times (record msg) ancount
  let authority ← times (record msg) nscount
  let additional ← times (record msg) arcount
  return ⟨id, flags, questions, answers, authority, additional⟩

/-- A buffer that is one message. -/
def decode (msg : List UInt8) : Option Message := (message msg).whole msg

/-! ## Names -/

/-- A label that can be written: not empty, and not too long. -/
def LabelOk (label : List UInt8) : Prop := 0 < label.length ∧ label.length ≤ 63

/-- The name written out. -/
def writeName (name : Name) : List UInt8 :=
  name.flatMap (fun label => UInt8.ofNat label.length :: label) ++ [0]

/-- A name that is written out has the bytes that its length says. -/
theorem length_writeName (name : Name) : (writeName name).length = nameLength name := by
  induction name with
  | nil => rfl
  | cons label name ih =>
    rw [nameLength, ← ih]
    simp [writeName]
    omega

/-- There are fewer labels than bytes. -/
theorem length_lt_nameLength (name : Name) : name.length < nameLength name := by
  induction name with
  | nil => exact Nat.zero_lt_one
  | cons label name ih =>
    rw [nameLength, List.length_cons]
    omega

/-- **Labels are read**, one behind the other. -/
theorem reads_labels (msg : List UInt8) {name : Name} (h : ∀ label ∈ name, LabelOk label)
    {fuel : Nat} (hfuel : name.length < fuel) :
    Reads (labelsUpTo msg fuel) (writeName name) name := by
  induction name generalizing fuel with
  | nil =>
    obtain ⟨fuel, rfl⟩ : ∃ k, fuel = k + 1 := ⟨fuel - 1, by simp at hfuel; omega⟩
    exact Reads.bind (x := [0]) (y := []) (Reads.anyByte 0) (Reads.pure [])
  | cons label name ih =>
    rw [List.length_cons] at hfuel
    obtain ⟨fuel, rfl⟩ : ∃ k, fuel = k + 1 := ⟨fuel - 1, by omega⟩
    obtain ⟨hpos, hle⟩ := h label List.mem_cons_self
    have hlen : (UInt8.ofNat label.length).toNat = label.length := by
      rw [UInt8.toNat_ofNat']
      omega
    have hne : UInt8.ofNat label.length ≠ 0 := by
      intro hzero
      rw [hzero] at hlen
      have : (0 : UInt8).toNat = 0 := rfl
      omega
    -- the first label with its length byte, and the others behind it
    have hwrite : writeName (label :: name) =
        [UInt8.ofNat label.length] ++ (label ++ writeName name) := by
      simp [writeName]
    rw [hwrite, labelsUpTo]
    refine (Reads.anyByte _).bind ?_
    rw [if_neg hne, if_pos (by omega), hlen]
    exact (Reads.bytes rfl).bind
      (ih (fun l hl => h l (List.mem_cons_of_mem _ hl)) (by omega)).bind_pure

/-- A name that is written out is read. -/
theorem reads_name (msg : List UInt8) {owner : Name} (h : ∀ label ∈ owner, LabelOk label)
    (hlen : nameLength owner ≤ 255) : Reads (name msg) (writeName owner) owner := by
  have hlabels := reads_labels msg h
    (show owner.length < 256 by have := length_lt_nameLength owner; omega)
  have hall := hlabels.bind (f := fun labels => (do
    Reader.guard (nameLength labels ≤ 255)
    return labels : Reader Name)) (Reads.guard hlen).bind_pure
  rwa [List.append_nil] at hall

/-- **A pointer stands for the name it points at.** -/
theorem reads_pointer {msg : List UInt8} {owner : Name} {rest : List UInt8} (offset : UInt8)
    (h : ∀ label ∈ owner, LabelOk label) (hlen : nameLength owner ≤ 255)
    (htarget : msg.drop offset.toNat = writeName owner ++ rest) :
    Reads (name msg) [0xC0, offset] owner := by
  have hfound := reads_labels msg h
    (show owner.length < 255 by have := length_lt_nameLength owner; omega) rest
  have hlabels : Reads (labelsUpTo msg 256) [0xC0, offset] owner := by
    -- two bytes are taken; the labels are read where the pointer says, not behind it
    show Reads (labelsUpTo msg (255 + 1)) ([0xC0] ++ ([] ++ ([offset] ++ []))) owner
    rw [labelsUpTo]
    refine (Reads.anyByte 0xC0).bind ?_
    rw [if_neg (by decide), if_neg (by decide)]
    refine (Reads.guard (by decide)).bind ((Reads.anyByte offset).bind ?_)
    have hoffset : ((0xC0 : UInt8).toNat - 192) * 256 + offset.toNat = offset.toNat := by
      show 0 * 256 + offset.toNat = offset.toNat
      omega
    rw [hoffset, htarget, hfound]
    exact Reads.pure owner
  have hall := hlabels.bind (f := fun labels => (do
    Reader.guard (nameLength labels ≤ 255)
    return labels : Reader Name)) (Reads.guard hlen).bind_pure
  rwa [List.append_nil] at hall

/-! ## Questions and records -/

/-- A question, whichever way its name is written. -/
theorem reads_question {msg xs : List UInt8} {owner : Name} (qtype qclass : UInt16)
    (h : Reads (name msg) xs owner) :
    Reads (question msg) (xs ++ (toBeBytes16 qtype ++ toBeBytes16 qclass))
      ⟨owner, qtype.toNat, qclass.toNat⟩ :=
  h.bind ((reads_be16 qtype).bind (reads_be16 qclass).bind_pure)

/-- A record, whichever way its name is written. -/
theorem reads_record {msg xs data : List UInt8} {owner : Name} (rtype rclass len : UInt16)
    (ttl : UInt32) (h : Reads (name msg) xs owner) (hlen : data.length = len.toNat) :
    Reads (record msg)
      (xs ++ (toBeBytes16 rtype ++ (toBeBytes16 rclass ++ (toBeBytes ttl ++
        (toBeBytes16 len ++ data)))))
      ⟨owner, rtype.toNat, rclass.toNat, ttl.toNat, data⟩ :=
  h.bind ((reads_be16 rtype).bind ((reads_be16 rclass).bind ((reads_be32 ttl).bind
    ((reads_be16 len).bind (Reads.bytes hlen).bind_pure))))

/-- **A header and its sections.** -/
theorem reads_message {msg q a n x : List UInt8} (id flags qdcount ancount nscount arcount : UInt16)
    {questions : List Question} {answers authority additional : List Record}
    (hq : Reads (times (question msg) qdcount.toNat) q questions)
    (ha : Reads (times (record msg) ancount.toNat) a answers)
    (hn : Reads (times (record msg) nscount.toNat) n authority)
    (hx : Reads (times (record msg) arcount.toNat) x additional) :
    Reads (message msg)
      (toBeBytes16 id ++ (toBeBytes16 flags ++ (toBeBytes16 qdcount ++ (toBeBytes16 ancount ++
        (toBeBytes16 nscount ++ (toBeBytes16 arcount ++ (q ++ (a ++ (n ++ x)))))))))
      ⟨id.toNat, flags.toNat, questions, answers, authority, additional⟩ :=
  (reads_be16 id).bind ((reads_be16 flags).bind ((reads_be16 qdcount).bind
    ((reads_be16 ancount).bind ((reads_be16 nscount).bind ((reads_be16 arcount).bind
      (hq.bind (ha.bind (hn.bind hx.bind_pure))))))))

end TurboLaser.Lib.Dns
