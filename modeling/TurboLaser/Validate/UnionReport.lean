import Mathlib.Data.Finset.Image
import TurboLaser.Lib.Lines
import TurboLaser.Lib.Parted
import TurboLaser.Run.Replay
import TurboLaser.Scenario.Preflight
import TurboLaser.Simulate.ArpGraph
import TurboLaser.Validate.SensorCsv

/-!
# The score of a sensor's export (validate/sensor_csv.rs)

The sensor exports one record an asset. A record with an address and a MAC is a union, and a planned
asset has unioned if its address is in one. A cell may list several addresses, and where the columns
stand is up to the export.

What the report should say is a matter of records and of the plan, and can be said without a table
in it: `SensorRecord` is what the sensor has to say of an asset, `Shows` relates it to a row, and
`Scores` is the report that one would write down by hand. The theorem goes from the records through
any export of them to the report: the columns may come in any order and among others, cells may be
quoted or not, and addresses in a cell may be separated by whatever `isSeparator` takes.

- `tokens`, `findColumns`, `UnionTally.observe`: the readers of a cell, of the header and of a row;
- `Tallied`: the invariant of the loop over the rows;
- `analyzeExport`: the report; `SensorRecord`: what the sensor has to say;
- `analyzeExport_scores`: **the report on an export scores the records that were written.**

The rates in the report are floating-point numbers made of its counts, and are left out.
-/

namespace TurboLaser

open Lib Scenario

/-! ## The report -/

/-- What stands between two addresses of a cell. -/
def isSeparator (c : Char) : Bool := c == ',' || c == ' ' || c == ';'

/-- `tokens`. -/
def tokens (field : String) : List String :=
  (((field.toList.splitOnP isSeparator).map (trim isWhiteSpace)).filter (· ≠ [])).map String.ofList

/-- `UnionReport`, without its rates. -/
structure UnionReport where
  totalRecords : Nat
  unioned : Nat
  ipOnly : Nat
  macOnly : Nat
  neither : Nat
  planned : Nat
  plannedUnioned : Nat
  stragglers : List Ipv4Addr
  plannedNamed : Nat
  plannedNamedResolved : Nat
deriving DecidableEq

/-- Where the columns are that the report reads; that of the hostnames may be missing. -/
structure Columns where
  ip : Nat
  mac : Nat
  host : Option Nat
deriving DecidableEq

/-- The columns of a header, by name; of several the first. -/
def findColumns (header : List String) : Except String Columns :=
  match header.idxOf? "addresses.ip" with
  | none => .error "CSV has no 'addresses.ip' column"
  | some ip =>
    match header.idxOf? "addresses.mac" with
    | none => .error "CSV has no 'addresses.mac' column"
    | some mac => .ok ⟨ip, mac, header.idxOf? "addresses.hostname"⟩

/-- What the loop over the rows has counted. -/
structure UnionTally where
  totalRecords : Nat
  unioned : Nat
  ipOnly : Nat
  macOnly : Nat
  neither : Nat
  unionedIps : Finset Ipv4Addr
  namedIps : Finset Ipv4Addr
deriving DecidableEq

/-- Nothing counted. -/
def UnionTally.empty : UnionTally := ⟨0, 0, 0, 0, 0, ∅, ∅⟩

/-- The addresses that a cell lists. -/
def cellAddrs (field : String) : Finset Ipv4Addr := ((tokens field).filterMap parseIpv4Addr).toFinset

/-- A row has a hostname. -/
def rowNamed (cols : Columns) (row : List String) : Bool :=
  ((cols.host.bind fun i => row[i]?).map fun s => !isBlank s).getD false

/-- The body of the row loop. -/
def UnionTally.observe (cols : Columns) (t : UnionTally) (row : List String) : UnionTally :=
  let ipField := row.getD cols.ip ""
  let hasIp := decide (tokens ipField ≠ [])
  let hasMac := decide (tokens (row.getD cols.mac "") ≠ [])
  let t := { t with totalRecords := t.totalRecords + 1 }
  let t :=
    match hasIp, hasMac with
    | true, true =>
      { t with unioned := t.unioned + 1, unionedIps := t.unionedIps ∪ cellAddrs ipField }
    | true, false => { t with ipOnly := t.ipOnly + 1 }
    | false, true => { t with macOnly := t.macOnly + 1 }
    | false, false => { t with neither := t.neither + 1 }
  if hasIp && rowNamed cols row then { t with namedIps := t.namedIps ∪ cellAddrs ipField } else t

/-- The body of the loop over the planned addresses. -/
def UnionReport.crossReference (unionedIps : Finset Ipv4Addr) (r : UnionReport) (ip : Ipv4Addr) :
    UnionReport :=
  if ip ∈ unionedIps then { r with plannedUnioned := r.plannedUnioned + 1 }
  else if r.stragglers.length < 50 then { r with stragglers := r.stragglers ++ [ip] }
  else r

/-- The body of the loop over the devices. -/
def UnionReport.resolveName (namedIps : Finset Ipv4Addr) (r : UnionReport) (d : DeviceRecord) :
    UnionReport :=
  if d.hostname.isSome then
    { r with
      plannedNamed := r.plannedNamed + 1
      plannedNamedResolved := r.plannedNamedResolved + if d.ip ∈ namedIps then 1 else 0 }
  else r

/-- `sensor_csv::analyze`. -/
def analyzeExport (text : String) (ledger : Session) : Except String UnionReport :=
  match parseRecords text with
  | [] => .error "empty CSV (no header row)"
  | header :: rows =>
    match findColumns header with
    | .error err => .error err
    | .ok cols =>
      let t := rows.foldl (UnionTally.observe cols) .empty
      let planned := (assetTexts ledger).filterMap fun a => parseIpv4Addr a.ip
      let r : UnionReport :=
        { totalRecords := t.totalRecords, unioned := t.unioned, ipOnly := t.ipOnly
          macOnly := t.macOnly, neither := t.neither, planned := planned.length
          plannedUnioned := 0, stragglers := [], plannedNamed := 0, plannedNamedResolved := 0 }
      let r := planned.foldl (UnionReport.crossReference t.unionedIps) r
      .ok (ledger.devices.foldl (UnionReport.resolveName t.namedIps) r)

/-! ## What the sensor has to say -/

/-- A record of the sensor: the addresses and MACs it put together, and whether it has a name. -/
structure SensorRecord where
  ips : List Ipv4Addr
  macs : List Mac
  named : Bool

/-- The address and a MAC are put together. -/
def SensorRecord.Unites (r : SensorRecord) (ip : Ipv4Addr) : Prop := r.macs ≠ [] ∧ ip ∈ r.ips

/-- The address has a name. -/
def SensorRecord.Names (r : SensorRecord) (ip : Ipv4Addr) : Prop := r.named = true ∧ ip ∈ r.ips

instance (r : SensorRecord) (ip : Ipv4Addr) : Decidable (r.Unites ip) :=
  inferInstanceAs (Decidable (_ ∧ _))

instance (r : SensorRecord) (ip : Ipv4Addr) : Decidable (r.Names ip) :=
  inferInstanceAs (Decidable (_ ∧ _))

/-- A row of the export shows a record: its cells list the addresses and the MACs, separated in
any way. -/
structure Shows (cols : Columns) (row : List String) (r : SensorRecord) : Prop where
  ips : Spread isSeparator (r.ips.map ipv4Chars) (row.getD cols.ip "").toList
  macs : Spread isSeparator (r.macs.map fun m => (fmtMac m).toList) (row.getD cols.mac "").toList
  named : rowNamed cols row = r.named

/-- **What the report on a plan should say of some records.** -/
structure Scores (records : List SensorRecord) (ledger : Session) (r : UnionReport) : Prop where
  totalRecords : r.totalRecords = records.length
  unioned : r.unioned = records.countP fun r => decide (r.ips ≠ [] ∧ r.macs ≠ [])
  ipOnly : r.ipOnly = records.countP fun r => decide (r.ips ≠ [] ∧ r.macs = [])
  macOnly : r.macOnly = records.countP fun r => decide (r.ips = [] ∧ r.macs ≠ [])
  neither : r.neither = records.countP fun r => decide (r.ips = [] ∧ r.macs = [])
  planned : r.planned = ledger.totalWireAssets
  plannedUnioned : r.plannedUnioned =
    (ledger.assets.map Asset.ip).countP fun ip => decide (∃ r ∈ records, r.Unites ip)
  stragglers : r.stragglers =
    ((ledger.assets.map Asset.ip).filter fun ip => decide (¬ ∃ r ∈ records, r.Unites ip)).take 50
  plannedNamed : r.plannedNamed = ledger.devices.countP fun d => d.hostname.isSome
  plannedNamedResolved : r.plannedNamedResolved =
    ledger.devices.countP fun d => decide (d.hostname.isSome = true ∧ ∃ r ∈ records, r.Names d.ip)

/-! ## Cells -/

/-- **What a cell lists is read back**, whatever stands between. -/
theorem tokens_of_spread {texts : List (List Char)} {cell : String}
    (h : Spread isSeparator texts cell.toList)
    (hplain : ∀ t ∈ texts, ∀ c ∈ t, isWhiteSpace c = false) :
    tokens cell = texts.map String.ofList := by
  have htrim : ∀ part ∈ cell.toList.splitOnP isSeparator, trim isWhiteSpace part = part := by
    intro part hpart
    by_cases hnone : part = []
    · rw [hnone]
      rfl
    · have hword : part ∈ words isSeparator cell.toList :=
        List.mem_filter.mpr ⟨hpart, decide_eq_true hnone⟩
      rw [h.words] at hword
      exact trim_of_ends (fun c hc => hplain part hword c (List.mem_of_mem_head? hc))
        fun c hc => hplain part hword c (List.mem_of_mem_getLast? hc)
  unfold tokens
  rw [List.map_congr_left htrim, List.map_id']
  exact congrArg (List.map String.ofList) h.words

/-- The characters of an address: its dots and digits. -/
theorem ipv4Chars_avoids {p : Char → Bool} (hdot : p '.' = false)
    (hdigit : ∀ c, c.isDigit = true → p c = false) (a : Ipv4Addr) :
    ∀ c ∈ ipv4Chars a, p c = false := by
  intro c hc
  by_contra hin
  change c ∈ ['.'].intercalate (_ : List (List Char)) at hc
  refine not_mem_intercalate (fun heq => ?_) (fun part hpart hmem => ?_) hc
  · exact hin (heq ▸ hdot)
  · obtain ⟨n, -, rfl⟩ := List.mem_map.mp hpart
    exact hin (hdigit c (Nat.isDigit_of_mem_toDigits (by decide) (by decide) hmem))

/-- The characters of a MAC: its colons and hexadecimal digits. -/
theorem fmtMac_avoids {p : Char → Bool} (hcolon : p ':' = false)
    (hdigit : ∀ k < 16, p (Nat.digitChar k) = false) (m : Mac) :
    ∀ c ∈ (fmtMac m).toList, p c = false := by
  intro c hc
  rw [fmtMac, String.toList_ofList] at hc
  by_contra hin
  refine not_mem_intercalate (fun heq => ?_) (fun part hpart hmem => ?_) hc
  · exact hin (heq ▸ hcolon)
  · obtain ⟨b, -, rfl⟩ := List.mem_map.mp hpart
    have hb := b.toNat_lt
    rcases List.mem_cons.mp hmem with rfl | hmem
    · exact hin (hdigit _ (by omega))
    · obtain rfl := List.mem_singleton.mp hmem
      exact hin (hdigit _ (by omega))

section Rows

variable {cols : Columns} {row : List String} {r : SensorRecord}

theorem Shows.tokens_ip (h : Shows cols row r) :
    tokens (row.getD cols.ip "") = r.ips.map showIpv4Addr := by
  have hread := tokens_of_spread h.ips (by
    intro t ht
    obtain ⟨a, -, rfl⟩ := List.mem_map.mp ht
    exact ipv4Chars_avoids rfl (fun _ => isWhiteSpace_of_isDigit) a)
  rw [List.map_map] at hread
  exact hread

theorem Shows.tokens_mac (h : Shows cols row r) :
    tokens (row.getD cols.mac "") = r.macs.map fmtMac := by
  have hread := tokens_of_spread h.macs (by
    intro t ht
    obtain ⟨m, -, rfl⟩ := List.mem_map.mp ht
    exact fmtMac_avoids rfl (by decide) m)
  rw [List.map_map] at hread
  rw [hread]
  exact List.map_congr_left fun m _ => String.ofList_toList

/-- The addresses of a cell are those of the record. -/
theorem Shows.cellAddrs (h : Shows cols row r) :
    cellAddrs (row.getD cols.ip "") = r.ips.toFinset := by
  unfold TurboLaser.cellAddrs
  rw [h.tokens_ip, List.filterMap_map]
  refine congrArg List.toFinset ((List.filterMap_congr fun a _ => ?_).trans List.filterMap_some)
  exact parseIpv4Addr_showIpv4Addr a

/-- **What a row is counted as.** -/
theorem Shows.observe (h : Shows cols row r) (t : UnionTally) :
    t.observe cols row =
      { totalRecords := t.totalRecords + 1
        unioned := t.unioned + if r.ips ≠ [] ∧ r.macs ≠ [] then 1 else 0
        ipOnly := t.ipOnly + if r.ips ≠ [] ∧ r.macs = [] then 1 else 0
        macOnly := t.macOnly + if r.ips = [] ∧ r.macs ≠ [] then 1 else 0
        neither := t.neither + if r.ips = [] ∧ r.macs = [] then 1 else 0
        unionedIps := t.unionedIps ∪ if r.macs ≠ [] then r.ips.toFinset else ∅
        namedIps := t.namedIps ∪ if r.named = true then r.ips.toFinset else ∅ } := by
  unfold UnionTally.observe
  dsimp only
  rw [h.tokens_ip, h.tokens_mac, h.cellAddrs, h.named]
  obtain ⟨ips, macs, named⟩ := r
  cases ips <;> cases macs <;> cases named <;> simp

end Rows

/-! ## The table

The report goes over the rows of a table and marks what each row shows of the planned addresses and
names. What it has counted after some rows is said of the records that were written, and not of the
cells: `Tallied`. The order of the columns, quotes and separators are gone by then.
-/

/-- **What the row loop has counted of some records.** -/
structure Tallied (records : List SensorRecord) (t : UnionTally) : Prop where
  totalRecords : t.totalRecords = records.length
  unioned : t.unioned = records.countP fun r => decide (r.ips ≠ [] ∧ r.macs ≠ [])
  ipOnly : t.ipOnly = records.countP fun r => decide (r.ips ≠ [] ∧ r.macs = [])
  macOnly : t.macOnly = records.countP fun r => decide (r.ips = [] ∧ r.macs ≠ [])
  neither : t.neither = records.countP fun r => decide (r.ips = [] ∧ r.macs = [])
  unionedIps : ∀ ip, ip ∈ t.unionedIps ↔ ∃ r ∈ records, r.Unites ip
  namedIps : ∀ ip, ip ∈ t.namedIps ↔ ∃ r ∈ records, r.Names ip

theorem tallied_empty : Tallied [] .empty :=
  ⟨rfl, rfl, rfl, rfl, rfl, fun _ => by simp [UnionTally.empty], fun _ => by simp [UnionTally.empty]⟩

/-- One more row. -/
theorem Tallied.observe {records : List SensorRecord} {t : UnionTally} (h : Tallied records t)
    {cols : Columns} {row : List String} {r : SensorRecord} (hrow : Shows cols row r) :
    Tallied (records ++ [r]) (t.observe cols row) := by
  -- every tally is a count over the records or a set of addresses, and one more row adds to it
  have hcount : ∀ (p : SensorRecord → Bool),
      (records ++ [r]).countP p = records.countP p + if p r = true then 1 else 0 := by
    intro p
    rw [List.countP_append, List.countP_singleton]
  have hin : ∀ (ip : Ipv4Addr) (p : SensorRecord → Prop),
      (∃ r' ∈ records ++ [r], p r') ↔ (∃ r' ∈ records, p r') ∨ p r := by
    intro ip p
    simp only [List.mem_append, List.mem_singleton, or_and_right, exists_or, exists_eq_left]
  rw [hrow.observe]
  refine ⟨?_, ?_, ?_, ?_, ?_, fun ip => ?_, fun ip => ?_⟩
  · rw [h.totalRecords, List.length_append, List.length_singleton]
  · simp only [hcount, h.unioned, decide_eq_true_iff]
  · simp only [hcount, h.ipOnly, decide_eq_true_iff]
  · simp only [hcount, h.macOnly, decide_eq_true_iff]
  · simp only [hcount, h.neither, decide_eq_true_iff]
  · rw [hin ip, Finset.mem_union, h.unionedIps]
    refine or_congr_right ?_
    unfold SensorRecord.Unites
    by_cases hmacs : r.macs = []
    · simp [hmacs]
    · simp [hmacs]
  · rw [hin ip, Finset.mem_union, h.namedIps]
    refine or_congr_right ?_
    unfold SensorRecord.Names
    by_cases hnamed : r.named = true
    · simp [hnamed]
    · simp [hnamed]

/-- **All rows.** -/
theorem Tallied.foldl {cols : Columns} {rows : List (List String)} {records : List SensorRecord}
    (hrows : List.Forall₂ (Shows cols) rows records) {done : List SensorRecord} {t : UnionTally}
    (h : Tallied done t) :
    Tallied (done ++ records) (rows.foldl (UnionTally.observe cols) t) := by
  induction hrows generalizing done t with
  | nil => rwa [List.append_nil]
  | cons hrow _ ih =>
    have hnext := ih (h.observe hrow)
    rwa [List.append_assoc] at hnext

/-- The loop over the planned addresses. -/
theorem foldl_crossReference (unionedIps : Finset Ipv4Addr) (ips : List Ipv4Addr)
    (r : UnionReport) (hroom : r.stragglers.length ≤ 50) :
    ips.foldl (UnionReport.crossReference unionedIps) r =
      { r with
        plannedUnioned := r.plannedUnioned + ips.countP fun ip => decide (ip ∈ unionedIps)
        stragglers := (r.stragglers ++ ips.filter fun ip => decide (ip ∉ unionedIps)).take 50 } := by
  induction ips generalizing r with
  | nil =>
    rw [List.filter_nil, List.append_nil, List.take_of_length_le hroom]
    rfl
  | cons ip ips ih =>
    rw [List.foldl_cons]
    by_cases hin : ip ∈ unionedIps
    · rw [UnionReport.crossReference, if_pos hin,
        ih { r with plannedUnioned := r.plannedUnioned + 1 } hroom,
        List.countP_cons_of_pos (by simpa using hin), List.filter_cons_of_neg (by simpa using hin)]
      simp only [UnionReport.mk.injEq, and_true, true_and]
      omega
    · rw [UnionReport.crossReference, if_neg hin, List.countP_cons_of_neg (by simpa using hin),
        List.filter_cons_of_pos (by simpa using hin)]
      split
      · next hlt =>
        rw [ih _ (by rwa [List.length_append, List.length_singleton]), List.append_assoc,
          List.singleton_append]
      · next hfull =>
        -- the list of stragglers is full
        have hlen : r.stragglers.length = 50 := Nat.le_antisymm hroom (Nat.not_lt.mp hfull)
        rw [ih _ hroom, List.take_append_of_le_length hlen.ge,
          List.take_append_of_le_length hlen.ge]

/-- The loop over the devices. -/
theorem foldl_resolveName (namedIps : Finset Ipv4Addr) (devices : List DeviceRecord)
    (r : UnionReport) :
    devices.foldl (UnionReport.resolveName namedIps) r =
      { r with
        plannedNamed := r.plannedNamed + devices.countP fun d => d.hostname.isSome
        plannedNamedResolved := r.plannedNamedResolved +
          devices.countP fun d => decide (d.hostname.isSome = true ∧ d.ip ∈ namedIps) } := by
  induction devices generalizing r with
  | nil => rfl
  | cons d devices ih =>
    rw [List.foldl_cons, ih]
    unfold UnionReport.resolveName
    rw [List.countP_cons, List.countP_cons]
    by_cases hnamed : d.hostname.isSome = true
    · by_cases hin : d.ip ∈ namedIps
      · simp [hnamed, hin]
        omega
      · simp [hnamed, hin]
        omega
    · simp [hnamed]

/-- Every record is of one kind. -/
theorem countP_kinds (records : List SensorRecord) :
    (records.countP fun r => decide (r.ips ≠ [] ∧ r.macs ≠ [])) +
        (records.countP fun r => decide (r.ips ≠ [] ∧ r.macs = [])) +
        (records.countP fun r => decide (r.ips = [] ∧ r.macs ≠ [])) +
        (records.countP fun r => decide (r.ips = [] ∧ r.macs = [])) = records.length := by
  induction records with
  | nil => rfl
  | cons r records ih =>
    have hone : (if decide (r.ips ≠ [] ∧ r.macs ≠ []) = true then 1 else 0) +
        (if decide (r.ips ≠ [] ∧ r.macs = []) = true then 1 else 0) +
        (if decide (r.ips = [] ∧ r.macs ≠ []) = true then 1 else 0) +
        (if decide (r.ips = [] ∧ r.macs = []) = true then 1 else 0) = 1 := by
      cases r.ips <;> cases r.macs <;> rfl
    rw [List.countP_cons, List.countP_cons, List.countP_cons, List.countP_cons, List.length_cons]
    omega

/-- **The report on an export scores the records that were written.** Whatever the order of the
columns, the quotes, the newlines and the separators in a cell: a table whose rows show some
records is reported on as those records, their kinds adding up, every planned address counted as
unioned or else a straggler, the first fifty of which are listed. -/
theorem analyzeExport_scores (final : Option Newline) (header : CsvRecord)
    (written : List CsvRecord) (cols : Columns) (records : List SensorRecord) (ledger : Session)
    (hcols : findColumns (header.fields.map CsvField.text) = .ok cols)
    (hshows : List.Forall₂ (Shows cols) (table written) records) :
    ∃ r, analyzeExport (encodeCsv final (header :: written)) ledger = .ok r ∧
      Scores records ledger r ∧ r.unioned + r.ipOnly + r.macOnly + r.neither = r.totalRecords ∧
      r.plannedUnioned ≤ r.planned ∧ r.stragglers.length = min 50 (r.planned - r.plannedUnioned) := by
  have hread : parseRecords (encodeCsv final (header :: written)) =
      header.fields.map CsvField.text :: table written := by
    have hloop := csvLoop_records final (header :: written) []
    rw [List.nil_append] at hloop
    rw [parseRecords, encodeCsv, String.toList_ofList]
    exact congrArg CsvState.records hloop
  -- the planned addresses are read from the texts of the ledger, which reads what it wrote
  have hplanned : ((assetTexts ledger).filterMap fun a => parseIpv4Addr a.ip) =
      ledger.assets.map Asset.ip := by
    rw [assetTexts, List.filterMap_map, ← List.filterMap_eq_map]
    exact List.filterMap_congr fun a _ => parseIpv4Addr_showIpv4Addr a.ip
  have htally := Tallied.foldl hshows tallied_empty
  rw [List.nil_append] at htally
  unfold analyzeExport
  rw [hread]
  dsimp only
  rw [hcols]
  dsimp only
  rw [hplanned, foldl_crossReference _ _ _ (by exact Nat.zero_le _), foldl_resolveName]
  generalize (table written).foldl (UnionTally.observe cols) .empty = t at htally
  have hassets : (ledger.assets.map Asset.ip).length = ledger.totalWireAssets := by
    simp [Session.assets, Session.totalWireAssets]
  refine ⟨_, rfl, ?_, ?_, ?_, ?_⟩
  · refine ⟨htally.totalRecords, htally.unioned, htally.ipOnly, htally.macOnly, htally.neither,
      hassets, ?_, ?_, Nat.zero_add _, ?_⟩
    · simp only [Nat.zero_add, htally.unionedIps]
    · simp only [List.nil_append, htally.unionedIps]
    · simp only [Nat.zero_add, htally.namedIps]
  · dsimp only
    rw [htally.unioned, htally.ipOnly, htally.macOnly, htally.neither, htally.totalRecords,
      countP_kinds]
  · dsimp only
    rw [Nat.zero_add]
    exact List.countP_le_length
  · have hsplit := List.length_eq_length_filter_add (l := ledger.assets.map Asset.ip)
      fun ip => decide (ip ∈ t.unionedIps)
    dsimp only
    rw [Nat.zero_add, List.nil_append, List.length_take, hsplit, List.countP_eq_length_filter,
      Nat.add_sub_cancel_left]
    simp only [decide_not]

/-! ## An export -/

theorem isSeparator_of_isDigit {c : Char} (h : c.isDigit = true) : isSeparator c = false := by
  by_contra hsep
  rw [Bool.not_eq_false, isSeparator, Bool.or_eq_true, Bool.or_eq_true, beq_iff_eq, beq_iff_eq,
    beq_iff_eq] at hsep
  rcases hsep with (rfl | rfl) | rfl <;> cases h

/-- A quoted field. -/
def quotedField (cs : List Char) : CsvField := ⟨String.ofList cs, true, nofun⟩

/-- The MACs stand in front of the addresses, and there are no names. -/
def exportHeader : CsvRecord :=
  ⟨[quotedField "addresses.mac".toList, quotedField "addresses.ip".toList], .crlf, by decide⟩

/-- Two addresses under one MAC, and an address alone. -/
def exportRows : List CsvRecord :=
  [⟨[quotedField (fmtMac ⟨0, 14, 140, 1, 2, 3⟩).toList,
      quotedField (ipv4Chars 0x0A000005 ++ ';' :: ' ' :: ipv4Chars 0x0A000006)], .crlf, by decide⟩,
    ⟨[quotedField [], quotedField (ipv4Chars 0x0A000007)], .lf, by decide⟩]

def exportRecords : List SensorRecord :=
  [⟨[0x0A000005, 0x0A000006], [⟨0, 14, 140, 1, 2, 3⟩], false⟩, ⟨[0x0A000007], [], false⟩]

/-- The text of an address is a word of a cell. -/
theorem ipv4Chars_word (a : Ipv4Addr) :
    ipv4Chars a ≠ [] ∧ ∀ c ∈ ipv4Chars a, isSeparator c = false := by
  refine ⟨fun hnone => ?_, ipv4Chars_avoids rfl (fun _ => isSeparator_of_isDigit) a⟩
  have hread := parseIpv4Addr_showIpv4Addr a
  rw [showIpv4Addr, hnone] at hread
  cases hread

/-- The score of that export. -/
theorem analyzeExport_scores_two :
    ∃ r, analyzeExport (encodeCsv none (exportHeader :: exportRows)) (.new 7) = .ok r ∧
      Scores exportRecords (.new 7) r := by
  obtain ⟨r, hr, hscores, -⟩ := analyzeExport_scores none exportHeader exportRows ⟨1, 0, none⟩
    exportRecords (.new 7) (by decide) (by
      refine .cons ⟨?_, ?_, rfl⟩ (.cons ⟨?_, ?_, rfl⟩ .nil)
      · show Spread isSeparator _ (String.ofList _).toList
        rw [String.toList_ofList]
        obtain ⟨hne, hword⟩ := ipv4Chars_word 0x0A000006
        exact .word (ipv4Chars_word 0x0A000005).1 (ipv4Chars_word 0x0A000005).2 rfl
          (.white rfl (.last hne hword))
      · show Spread isSeparator _ (String.ofList _).toList
        rw [String.toList_ofList]
        exact .last (by decide) (fmtMac_avoids rfl (by decide) _)
      · show Spread isSeparator _ (String.ofList _).toList
        rw [String.toList_ofList]
        obtain ⟨hne, hword⟩ := ipv4Chars_word 0x0A000007
        exact .last hne hword
      · exact .blank)
  exact ⟨r, hr, hscores⟩

end TurboLaser
