import Mathlib.Data.List.Basic

/-!
# The sensor's table (validate/sensor_csv.rs)

`parse_records` reads the sensor's CSV export character by character. A field may be quoted; in
quotes a comma or a newline is text, and a doubled quote stands for one.

The reader is a loop with five variables and a one-character lookahead. It is compared with a
writer: a table is a list of records of fields, each of which says how it is written, quoted or not
and with which newline, and `encodeCsv` writes it. Then reading is the inverse of writing, for every
table and every way to write it down that the format allows. The types carry what the format asks
for: a field that is not quoted has no character that needs quotes, and a record has a field.

- `CsvField`, `CsvRecord`: **a table as RFC 4180 writes it**; a field that needs quotes has them,
  any other field may have them, and every record has its own newline;
- `csvLoop_plain`, `csvLoop_quoted`: what one field leaves behind;
- `csvLoop_records`: the invariant between two records, from which the loop goes on;
- `parseRecords_encodeCsv`: **reading what was written gives the table back**, with the last newline
  or without it.
-/

namespace TurboLaser

/-! ## The reader -/

/-- The variables of `parse_records`. -/
structure CsvState where
  records : List (List String)
  field : String
  record : List String
  inQuotes : Bool
deriving DecidableEq

/-- The end of a record, at a newline or at the end of the text; a blank line is no record. -/
def CsvState.endRecord (s : CsvState) : CsvState :=
  if s.field.isEmpty ∧ s.record.isEmpty then s
  else { s with records := s.records ++ [s.record ++ [s.field]], field := "", record := [] }

/-- One character, when no quote is doubled here. -/
def CsvState.step (s : CsvState) (c : Char) : CsvState :=
  if c = '"' then
    if s.inQuotes then { s with inQuotes := false } else { s with inQuotes := true }
  else if c = ',' ∧ ¬ s.inQuotes then { s with record := s.record ++ [s.field], field := "" }
  else if (c = '\n' ∨ c = '\r') ∧ ¬ s.inQuotes then s.endRecord
  else { s with field := s.field.push c }

/-- The loop of `parse_records`, which looks one character ahead. -/
def csvLoop : CsvState → List Char → CsvState
  | s, [] => s
  | s, [c] => s.step c
  | s, c :: next :: rest =>
    if c = '"' ∧ s.inQuotes ∧ next = '"' then
      csvLoop { s with field := s.field.push '"' } rest
    else csvLoop (s.step c) (next :: rest)

/-- `parse_records`. -/
def parseRecords (text : String) : List (List String) :=
  (csvLoop ⟨[], "", [], false⟩ text.toList).endRecord.records

/-! ## The writer -/

/-- A field that is written as it is has none of these. -/
def NeedsNoQuotes (text : String) : Prop := ∀ c ∈ text.toList, c ≠ ',' ∧ c ≠ '"' ∧ c ≠ '\n' ∧ c ≠ '\r'

/-- A field of a table, and whether it is quoted. -/
structure CsvField where
  text : String
  quoted : Bool
  plain : quoted = false → NeedsNoQuotes text

/-- The text of a field; in quotes a quote is doubled. -/
def CsvField.encode (f : CsvField) : List Char :=
  if f.quoted then
    '"' :: f.text.toList.flatMap (fun c => if c = '"' then ['"', '"'] else [c]) ++ ['"']
  else f.text.toList

/-- How a record may end. -/
inductive Newline where
  | lf
  | crlf

/-- The characters of a newline. -/
def Newline.encode : Newline → List Char
  | .lf => ['\n']
  | .crlf => ['\r', '\n']

/-- A record of two fields at least, and the newline between it and the next one. -/
structure CsvRecord where
  fields : List CsvField
  newline : Newline
  two : 2 ≤ fields.length

/-- The fields of a record, with commas between them. -/
def encodeFields : List CsvField → List Char
  | [] => []
  | [f] => f.encode
  | f :: fields => f.encode ++ ',' :: encodeFields fields

/-- The records with their newlines between them, and perhaps one behind the last. -/
def encodeRecords (final : Option Newline) : List CsvRecord → List Char
  | [] => (final.map Newline.encode).getD []
  | [r] => encodeFields r.fields ++ (final.map Newline.encode).getD []
  | r :: records =>
    encodeFields r.fields ++ r.newline.encode ++ encodeRecords final records

/-- The table written out. -/
def encodeCsv (final : Option Newline) (records : List CsvRecord) : String :=
  String.ofList (encodeRecords final records)

/-- The table itself. -/
def table (records : List CsvRecord) : List (List String) :=
  records.map fun r => r.fields.map CsvField.text

/-! ## One field -/

/-- A character that is not the first of two quotes is one step. -/
theorem csvLoop_cons {s : CsvState} {c : Char} {rest : List Char}
    (hsingle : c = '"' → s.inQuotes = true → rest.head? ≠ some '"') :
    csvLoop s (c :: rest) = csvLoop (s.step c) rest := by
  cases rest with
  | nil => rfl
  | cons next rest =>
    rw [csvLoop, if_neg]
    rintro ⟨hc, hquotes, hnext⟩
    exact hsingle hc hquotes (congrArg some hnext)

/-- Characters of a field that is not quoted. -/
theorem csvLoop_plain {s : CsvState} (hopen : s.inQuotes = false) {cs : List Char}
    (hplain : ∀ c ∈ cs, c ≠ ',' ∧ c ≠ '"' ∧ c ≠ '\n' ∧ c ≠ '\r') (rest : List Char) :
    csvLoop s (cs ++ rest) = csvLoop { s with field := s.field ++ String.ofList cs } rest := by
  induction cs generalizing s with
  | nil => simp
  | cons c cs ih =>
    obtain ⟨hcomma, hquote, hlf, hcr⟩ := hplain c List.mem_cons_self
    have hstep : s.step c = { s with field := s.field.push c } := by
      rw [CsvState.step, if_neg hquote, if_neg (fun h => hcomma h.1),
        if_neg (fun h => h.1.elim hlf hcr)]
    have hfield : s.field.push c ++ String.ofList cs = s.field ++ String.ofList (c :: cs) := by
      rw [← String.toList_inj]
      simp
    rw [List.cons_append, csvLoop_cons fun h => absurd h hquote, hstep,
      @ih { s with field := s.field.push c } hopen fun c' hc' => hplain c' (.tail _ hc')]
    exact congrArg (fun field => csvLoop { s with field } rest) hfield

/-- The inside of a quoted field, up to the quote that closes it. -/
theorem csvLoop_quoted {s : CsvState} (hquotes : s.inQuotes = true) (cs : List Char)
    {rest : List Char} (hrest : rest.head? ≠ some '"') :
    csvLoop s (cs.flatMap (fun c => if c = '"' then ['"', '"'] else [c]) ++ '"' :: rest) =
      csvLoop { s with field := s.field ++ String.ofList cs, inQuotes := false } rest := by
  induction cs generalizing s with
  | nil =>
    rw [List.flatMap_nil, List.nil_append, csvLoop_cons fun _ _ => hrest]
    simp [CsvState.step, hquotes]
  | cons c cs ih =>
    have hfield : s.field.push c ++ String.ofList cs = s.field ++ String.ofList (c :: cs) := by
      rw [← String.toList_inj]
      simp
    have htail := @ih { s with field := s.field.push c } hquotes
    dsimp only at htail
    rw [hfield] at htail
    rw [List.flatMap_cons]
    by_cases hc : c = '"'
    · -- two quotes, of which one is kept
      subst hc
      rw [if_pos rfl, List.append_assoc, List.cons_append, List.cons_append, List.nil_append,
        csvLoop, if_pos ⟨rfl, hquotes, rfl⟩]
      exact htail
    -- in quotes a comma and a newline are text like any other
    · have hstep : s.step c = { s with field := s.field.push c } := by
        rw [CsvState.step, if_neg hc, if_neg (fun h => h.2 hquotes), if_neg (fun h => h.2 hquotes)]
      rw [if_neg hc, List.append_assoc, List.cons_append, List.nil_append,
        csvLoop_cons fun h => absurd h hc, hstep]
      exact htail

/-- **One field, up to what stands behind it.** -/
theorem csvLoop_field (f : CsvField) {s : CsvState} (hopen : s.inQuotes = false)
    (hempty : s.field = "") {rest : List Char} (hrest : rest.head? ≠ some '"') :
    csvLoop s (f.encode ++ rest) = csvLoop { s with field := f.text } rest := by
  have htext : s.field ++ String.ofList f.text.toList = f.text := by
    rw [hempty, ← String.toList_inj]
    simp
  rw [CsvField.encode]
  cases hquoted : f.quoted with
  | false =>
    rw [if_neg (by decide), csvLoop_plain hopen (f.plain hquoted), htext]
  | true =>
    rw [if_pos rfl, List.append_assoc, List.cons_append, List.cons_append, List.nil_append,
      csvLoop_cons fun _ h => absurd (hopen.symm.trans h) (by decide)]
    have hstep : s.step '"' = { s with inQuotes := true } := by
      simp [CsvState.step, hopen]
    rw [hstep, @csvLoop_quoted { s with inQuotes := true } rfl f.text.toList rest hrest]
    dsimp only
    rw [htext, ← hopen]

/-! ## One record -/

/-- **One record**: its last field is still being read, the others have been. -/
theorem csvLoop_fields {fields : List CsvField} {f : CsvField} {s : CsvState}
    (hopen : s.inQuotes = false) (hempty : s.field = "") {rest : List Char}
    (hrest : rest.head? ≠ some '"') :
    csvLoop s (encodeFields (fields ++ [f]) ++ rest) =
      csvLoop { s with record := s.record ++ fields.map CsvField.text, field := f.text } rest := by
  induction fields generalizing s with
  | nil =>
    rw [List.nil_append, encodeFields, csvLoop_field f hopen hempty hrest, List.map_nil,
      List.append_nil]
  | cons f' fields ih =>
    have hcons : encodeFields (f' :: fields ++ [f]) =
        f'.encode ++ ',' :: encodeFields (fields ++ [f]) := by
      cases fields with
      | nil => rfl
      | cons f'' fields => rfl
    have hstep : CsvState.step { s with field := f'.text } ',' =
        { s with record := s.record ++ [f'.text], field := "" } := by
      simp [CsvState.step, hopen]
    -- a quote behind the field would be taken for the second of two
    have hcomma : (',' :: (encodeFields (fields ++ [f]) ++ rest)).head? ≠ some '"' :=
      fun h => absurd (Option.some_inj.mp h) (by decide)
    rw [hcons, List.append_assoc, List.cons_append, csvLoop_field f' hopen hempty hcomma,
      csvLoop_cons fun h => absurd h (by decide), hstep,
      @ih { s with record := s.record ++ [f'.text], field := "" } hopen rfl]
    dsimp only
    rw [List.append_assoc, List.map_cons]
    rfl

/-- Between two records. -/
def CsvState.between (records : List (List String)) : CsvState := ⟨records, "", [], false⟩

theorem endRecord_of_record {s : CsvState} (hrecord : s.record ≠ []) (hopen : s.inQuotes = false) :
    s.endRecord = .between (s.records ++ [s.record ++ [s.field]]) := by
  rw [CsvState.endRecord, if_neg fun h => hrecord (List.isEmpty_iff.mp h.2), hopen]
  rfl

theorem Newline.head?_encode (newline : Newline) (rest : List Char) :
    (newline.encode ++ rest).head? ≠ some '"' := by
  cases newline with
  | lf => exact fun h => absurd (Option.some_inj.mp h) (by decide)
  | crlf => exact fun h => absurd (Option.some_inj.mp h) (by decide)

/-- **A newline ends a record**, in one character or in two. -/
theorem csvLoop_newline (newline : Newline) {s : CsvState} {records : List (List String)}
    (hopen : s.inQuotes = false) (hend : s.endRecord = .between records) (rest : List Char) :
    csvLoop s (newline.encode ++ rest) = csvLoop (.between records) rest := by
  have hlf : s.step '\n' = .between records := by
    rw [← hend]
    simp [CsvState.step, hopen]
  have hcr : s.step '\r' = .between records := by
    rw [← hend]
    simp [CsvState.step, hopen]
  -- the second character of CRLF ends no record of its own
  have hsecond : (CsvState.between records).step '\n' = .between records := rfl
  cases newline with
  | lf =>
    rw [Newline.encode, List.cons_append, List.nil_append,
      csvLoop_cons fun h => absurd h (by decide), hlf]
  | crlf =>
    rw [Newline.encode, List.cons_append, List.cons_append, List.nil_append,
      csvLoop_cons fun h => absurd h (by decide), hcr,
      csvLoop_cons fun h => absurd h (by decide), hsecond]

/-- A record that has been read to the end of its last field. -/
structure ReadTo (records : List (List String)) (fields : List String) (s : CsvState) : Prop where
  inQuotes : s.inQuotes = false
  endRecord : s.endRecord = .between (records ++ [fields])

theorem csvLoop_record (r : CsvRecord) (records : List (List String)) {rest : List Char}
    (hrest : rest.head? ≠ some '"') :
    ∃ s, csvLoop (.between records) (encodeFields r.fields ++ rest) = csvLoop s rest ∧
      ReadTo records (r.fields.map CsvField.text) s := by
  have htwo := r.two
  obtain hnil | ⟨fields, f, hfields⟩ := List.eq_nil_or_concat' r.fields
  · rw [hnil] at htwo
    exact absurd htwo (by decide)
  rw [hfields] at htwo ⊢
  -- a record of one empty field would be passed over as a blank line
  have hmany : fields.map CsvField.text ≠ [] := by
    rw [List.length_append, List.length_singleton] at htwo
    exact List.ne_nil_of_length_pos (by rw [List.length_map]; omega)
  refine ⟨_, @csvLoop_fields fields f (.between records) rfl rfl rest hrest, rfl, ?_⟩
  rw [endRecord_of_record (List.append_ne_nil_of_right_ne_nil _ hmany) rfl, List.map_append]
  rfl

/-! ## The whole text -/

/-- **A text that starts between two records** adds the records that were written. -/
theorem csvLoop_records (final : Option Newline) (written : List CsvRecord)
    (records : List (List String)) :
    (csvLoop (.between records) (encodeRecords final written)).endRecord =
      .between (records ++ table written) := by
  -- what follows a field is no quote, so a field ends where it was written to end
  have hfinal : ((final.map Newline.encode).getD []).head? ≠ some '"' := by
    cases final with
    | none => decide
    | some newline =>
      have hhead := newline.head?_encode []
      rwa [List.append_nil] at hhead
  induction written generalizing records with
  | nil =>
    rw [encodeRecords, table, List.map_nil, List.append_nil]
    cases final with
    | none => rfl
    | some newline =>
      have hread := csvLoop_newline newline (s := .between records) rfl rfl []
      rw [List.append_nil] at hread
      rw [Option.map_some, Option.getD_some, hread]
      rfl
  | cons r written ih =>
    cases written with
    | nil =>
      obtain ⟨s, hread, hs⟩ := csvLoop_record r records hfinal
      rw [encodeRecords, hread]
      cases final with
      | none => exact hs.endRecord
      | some newline =>
        have hnewline := csvLoop_newline newline hs.inQuotes hs.endRecord []
        rw [List.append_nil] at hnewline
        rw [Option.map_some, Option.getD_some, hnewline]
        rfl
    | cons r' written =>
      have hcons : encodeRecords final (r :: r' :: written) =
          encodeFields r.fields ++ r.newline.encode ++ encodeRecords final (r' :: written) := rfl
      obtain ⟨s, hread, hs⟩ := csvLoop_record r records (r.newline.head?_encode _)
      rw [hcons, List.append_assoc, hread,
        csvLoop_newline r.newline hs.inQuotes hs.endRecord, ih, List.append_assoc]
      rfl

/-- **Reading inverts writing.** Whatever is quoted, whichever newlines are used and whether the
last record has one: a table that was written is read as that table. -/
theorem parseRecords_encodeCsv (final : Option Newline) (records : List CsvRecord) :
    parseRecords (encodeCsv final records) = table records := by
  have hread := csvLoop_records final records []
  rw [List.nil_append] at hread
  rw [parseRecords, encodeCsv, String.toList_ofList]
  exact congrArg CsvState.records hread

/-- Blank lines are passed over, though nothing writes them. -/
example : parseRecords "a,\"b\"\"\n\",\r\n\r\n,c" = [["a", "b\"\n", ""], ["", "c"]] := by decide

end TurboLaser
