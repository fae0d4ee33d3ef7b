import TurboLaser.Proto.Mutation

/-!
# The S7 mutator (proto/mutators/s7comm.rs)

`mutate` edits COTP connection requests and confirms only. It walks the parameters behind the fixed
part, up to the end that the length octet declares or the end of the payload, and maps the two-octet
values of the called and of the calling TSAP, each in its own domain.

Two kinds of statement are needed of it. On messages that are well formed one wants to know that
everything that should change does. On arbitrary payloads, which a capture may hold as well, one
wants to know that nothing else changes. For the first the message is written down as a list of
encoded parameters and the walk goes along that list; for the second the parameters are delimited by
a function of the original payload, and the invariant of the walk (`TsapsBefore`) says that what has
changed so far lies in them. Since edits never touch a length octet, the payload being edited is
delimited as the original.

- `mutate_encode`: in a message with correct lengths **both kinds of TSAP are replaced, each through
  one function**, and nothing else changes;
- `changed_inside_tsap`: in any payload at all, **every octet that changes lies in the value of a
  TSAP** that the declared lengths of the original delimit;
- `tsaps_only` puts both together.
-/

namespace TurboLaser

open Lib

namespace S7

/-- `S7_PORT`. -/
def port : UInt16 := 102

/-- `COTP_CR`. -/
def cotpCr : UInt8 := 0xE0

/-- `COTP_CC`. -/
def cotpCc : UInt8 := 0xD0

/-- `PARAM_CALLING_TSAP`. -/
def paramCallingTsap : UInt8 := 0xC1

/-- `PARAM_CALLED_TSAP`. -/
def paramCalledTsap : UInt8 := 0xC2

/-- `matches`. -/
def «matches» (f : ParsedFrame) : Bool :=
  decide (f.layout.l4Kind = .tcp) && f.onPort [port] && decide (6 ≤ f.payload.length) &&
    decide (byte f.payload 0 = 0x03)

/-- The edit of a parameter whose value begins at `val`. -/
def retsapAt (s : Mutation) (code : UInt8) (plen val : Nat) : Mutation :=
  if (code = paramCalledTsap ∨ code = paramCallingTsap) ∧ plen = 2 then
    if code = paramCalledTsap then
      s.remap idU16 be16Field .s7 .s7ModuleId "called_tsap" val
    else s.remap idU16 be16Field .s7 .s7Serial "calling_tsap" val
  else s

/-- One turn of the loop over the parameters in front of `cotpEnd`. -/
def step (cotpEnd : Nat) (s : Mutation) (k : Nat) : Option (Mutation × Nat) :=
  if cotpEnd < k + 2 then none
  else
    let code := byte s.payload k
    let plen := (byte s.payload (k + 1)).toNat
    let val := k + 2
    if cotpEnd < val + plen then none else some (retsapAt s code plen val, val + plen)

/-- What a turn does, when there is one. -/
theorem step_some {cotpEnd : Nat} {s t : Mutation} {k k' : Nat}
    (h : step cotpEnd s k = some (t, k')) :
    k' ≤ cotpEnd ∧ k' = k + 2 + (byte s.payload (k + 1)).toNat ∧
      t = retsapAt s (byte s.payload k) (byte s.payload (k + 1)).toNat (k + 2) := by
  unfold step at h
  dsimp only at h
  split at h
  · cases h
  · split at h
    · cases h
    · next hend =>
      cases h
      exact ⟨Nat.not_lt.mp hend, rfl, rfl⟩

/-- The loop: each turn moves on by two octets at least. -/
def walk (cotpEnd : Nat) : Scan Mutation where
  step := step cotpEnd
  size _ := cotpEnd
  forward h := by
    obtain ⟨-, hnext, -⟩ := step_some h
    omega
  inside h := by
    obtain ⟨hend, hnext, -⟩ := step_some h
    omega
  size_eq _ := rfl

/-- The payload is a connection request or confirm. -/
def isSetup (payload : List UInt8) : Bool :=
  decide (7 ≤ payload.length) && decide (byte payload 0 = 0x03) &&
    (decide (byte payload 5 = cotpCr) || decide (byte payload 5 = cotpCc))

/-- The end of the parameters: the declared one, or that of the payload. -/
def cotpEnd (payload : List UInt8) : Nat := min (5 + (byte payload 4).toNat) payload.length

/-- `mutate`. -/
def mutate (payload : List UInt8) (mapper : SeededMapper) : Mutation :=
  let s : Mutation := ⟨payload, mapper, []⟩
  if isSetup payload then (walk (cotpEnd payload)).run s 11 else s

end S7

/-! ## Messages with correct lengths

A setup message is a fixed part and a list of parameters. The encoder here is the format and not the
code, so that the walk is compared with something it did not compute: on an encoded message it takes
one turn for each parameter, and what it leaves is the encoding of the message with its TSAPs
replaced.
-/

/-- A parameter of the variable part. -/
structure CotpParam where
  code : UInt8
  value : List UInt8

namespace CotpParam

/-- Code, length, value. -/
def encode (param : CotpParam) : List UInt8 :=
  [param.code, UInt8.ofNat param.value.length] ++ param.value

/-- The TSAP of a parameter of a given kind. -/
def tsap (kind : UInt8) (param : CotpParam) : Option UInt16 :=
  if param.code = kind ∧ param.value.length = 2 then some (be16Field.decode param.value) else none

/-- The parameter with its TSAP replaced, if it is one. -/
def retsap (called calling : UInt16 → UInt16) (param : CotpParam) : CotpParam :=
  match param.tsap S7.paramCalledTsap, param.tsap S7.paramCallingTsap with
  | some tsap, _ => { param with value := toBeBytes16 (called tsap) }
  | none, some tsap => { param with value := toBeBytes16 (calling tsap) }
  | none, none => param

/-- The keys under which the mapper records a parameter. -/
def keys (param : CotpParam) : List (Domain × UInt64) :=
  (param.tsap S7.paramCalledTsap).toList.map (fun tsap => (.s7ModuleId, tsap.toUInt64)) ++
    (param.tsap S7.paramCallingTsap).toList.map fun tsap => (.s7Serial, tsap.toUInt64)

/-- What is reported about a parameter. -/
def reports (called calling : UInt16 → UInt16) (param : CotpParam) : List MutationReport :=
  (param.tsap S7.paramCalledTsap).toList.flatMap
      (fun tsap => changeReport idU16 .s7 "called_tsap" tsap (called tsap)) ++
    (param.tsap S7.paramCallingTsap).toList.flatMap
      fun tsap => changeReport idU16 .s7 "calling_tsap" tsap (calling tsap)

end CotpParam

/-- A connection request or confirm. The mutator does not read the octets of the TPKT header
behind the version, nor the references and the class of the fixed part. -/
structure CotpSetup where
  confirm : Bool
  reserved : UInt8
  tpktLength : UInt16
  dstRef : UInt16
  srcRef : UInt16
  cotpClass : UInt8
  params : List CotpParam

namespace CotpSetup

/-- The octets behind the length octet. -/
def cotpLength (msg : CotpSetup) : Nat := 6 + (msg.params.flatMap CotpParam.encode).length

/-- TPKT header and fixed part. -/
def fixed (msg : CotpSetup) : List UInt8 :=
  [0x03, msg.reserved] ++ toBeBytes16 msg.tpktLength ++
    [UInt8.ofNat msg.cotpLength, if msg.confirm then S7.cotpCc else S7.cotpCr] ++
    toBeBytes16 msg.dstRef ++ toBeBytes16 msg.srcRef ++ [msg.cotpClass]

/-- The whole message. -/
def encode (msg : CotpSetup) : List UInt8 := msg.fixed ++ msg.params.flatMap CotpParam.encode

/-- The message with its TSAPs replaced. -/
def retsap (called calling : UInt16 → UInt16) (msg : CotpSetup) : CotpSetup :=
  { msg with params := msg.params.map (CotpParam.retsap called calling) }

/-- The TSAPs of a kind in a message. -/
def tsaps (kind : UInt8) (msg : CotpSetup) : List UInt16 :=
  msg.params.filterMap (CotpParam.tsap kind)

end CotpSetup

namespace S7

/-- The called TSAPs that `f` gives. -/
def calledOf (f : Domain × UInt64 → UInt64) : UInt16 → UInt16 := idU16.through f .s7ModuleId

/-- The calling TSAPs that `f` gives. -/
def callingOf (f : Domain × UInt64 → UInt64) : UInt16 → UInt16 := idU16.through f .s7Serial

/-- On an encoded parameter in front of the end, the loop takes a turn. -/
theorem step_encode {param : CotpParam} (hvalue : param.value.length < 256) {s : Mutation}
    {pre rest : List UInt8} (hpayload : s.payload = pre ++ (param.encode ++ rest)) {cotpEnd : Nat}
    (hend : pre.length + param.encode.length ≤ cotpEnd) :
    step cotpEnd s pre.length =
      some (retsapAt s param.code param.value.length (pre.length + 2),
        pre.length + param.encode.length) := by
  have hlen : param.encode.length = 2 + param.value.length := by
    rw [CotpParam.encode, List.length_append]
    rfl
  have hbyte : ∀ i, byte s.payload (pre.length + i) = byte (param.encode ++ rest) i := fun i => by
    rw [hpayload, byte_append_right]
  have hcode : byte s.payload pre.length = param.code := hbyte 0
  have hplen : (byte s.payload (pre.length + 1)).toNat = param.value.length := by
    rw [hbyte 1]
    show (UInt8.ofNat param.value.length).toNat = _
    rw [UInt8.toNat_ofNat', Nat.mod_eq_of_lt hvalue]
  unfold step
  dsimp only
  rw [if_neg (by omega), hcode, hplen, if_neg (by omega), hlen, Nat.add_assoc]

/-- A TSAP is replaced in place. -/
theorem remap_tsap {param : CotpParam} (hvalue : param.value.length = 2) {s : Mutation}
    {pre rest : List UInt8} (hpayload : s.payload = pre ++ (param.encode ++ rest))
    (domain : Domain) (name : String) :
    ∃ tsap, (s.remap idU16 be16Field .s7 domain name (pre.length + 2)).payload =
        (pre ++ CotpParam.encode { param with value := toBeBytes16 tsap }) ++ rest ∧
      ((s.remap idU16 be16Field .s7 domain name (pre.length + 2)).mapper.known
        (domain, (be16Field.decode param.value).toUInt64)).isSome = true ∧
      ∀ f, (s.remap idU16 be16Field .s7 domain name (pre.length + 2)).mapper.Agrees f →
        tsap = idU16.through f domain (be16Field.decode param.value) ∧
        (s.remap idU16 be16Field .s7 domain name (pre.length + 2)).reports =
          s.reports ++ changeReport idU16 .s7 name (be16Field.decode param.value)
            (idU16.through f domain (be16Field.decode param.value)) := by
  have hbytes : param.value = be16Field.bytes (be16Field.decode param.value) := by
    rw [be16Field.bytes_decode (Nat.le_of_eq hvalue.symm)]
    exact (List.take_of_length_le (Nat.le_of_eq hvalue)).symm
  have hsplit : s.payload = (pre ++ [param.code, 2]) ++
      (be16Field.bytes (be16Field.decode param.value) ++ rest) := by
    rw [← hbytes, hpayload, CotpParam.encode, hvalue]
    simp
  have hoff : pre.length + 2 = (pre ++ [param.code, 2]).length := by
    rw [List.length_append]
    rfl
  obtain ⟨tsap, hpayload', hknown, hthrough⟩ := remap_append idU16 .s7 domain name hsplit hoff
  refine ⟨tsap, ?_, hknown, hthrough⟩
  rw [hpayload', CotpParam.encode]
  simp [be16Field, toBeBytes16]

theorem length_encode_value (param : CotpParam) {value : List UInt8}
    (h : value.length = param.value.length) :
    (CotpParam.encode { param with value }).length = param.encode.length := by
  rw [CotpParam.encode, CotpParam.encode, List.length_append, List.length_append, h]

/-- A parameter that is a TSAP of the one or of the other kind. -/
theorem rewrites_tsap {param : CotpParam} (hvalue : param.value.length = 2) (domain : Domain)
    (name : String)
    (hedit : ∀ s val, retsapAt s param.code param.value.length val =
      s.remap idU16 be16Field .s7 domain name val)
    (hkeys : param.keys = [(domain, (be16Field.decode param.value).toUInt64)])
    (hretsap : ∀ f, param.retsap (calledOf f) (callingOf f) =
      { param with
        value := toBeBytes16 (idU16.through f domain (be16Field.decode param.value)) })
    (hreports : ∀ f, param.reports (calledOf f) (callingOf f) =
      changeReport idU16 .s7 name (be16Field.decode param.value)
        (idU16.through f domain (be16Field.decode param.value)))
    (size behind : Nat) :
    RewritesItem size behind (walk (size - behind)) CotpParam.encode CotpParam.keys
      (fun f => CotpParam.retsap (calledOf f) (callingOf f))
      (fun f => CotpParam.reports (calledOf f) (callingOf f)) param := by
  intro s pre rest hpayload hsize hbehind
  have hend : pre.length + param.encode.length ≤ size - behind := by
    rw [← hsize, hpayload, List.length_append, List.length_append]
    omega
  have hstep := step_encode (by rw [hvalue]; decide) hpayload hend
  rw [hedit] at hstep
  -- code and length stay, so the walk finds the next parameter where it was
  obtain ⟨tsap, hpayload', hknown, hthrough⟩ := remap_tsap hvalue hpayload domain name
  have hgrown := remap_extends idU16 be16Field .s7 domain name (pre.length + 2) s
  refine ⟨_, { param with value := toBeBytes16 tsap }, ?_, hpayload',
    ⟨(remap_agreeOn ..).1, hgrown, fun k hk => ?_⟩, fun f hf => ?_⟩
  · rw [List.length_append, length_encode_value param (hvalue ▸ rfl)]
    exact hstep
  · rw [hkeys] at hk
    exact List.mem_singleton.mp hk ▸ hknown
  · obtain ⟨rfl, hreports'⟩ := hthrough f hf
    exact ⟨(hretsap f).symm, hreports'.trans (congrArg (s.reports ++ ·) (hreports f).symm)⟩

theorem rewritesItem {param : CotpParam} (hvalue : param.value.length < 256) (size behind : Nat) :
    RewritesItem size behind (walk (size - behind)) CotpParam.encode CotpParam.keys
      (fun f => CotpParam.retsap (calledOf f) (callingOf f))
      (fun f => CotpParam.reports (calledOf f) (callingOf f)) param := by
  -- a called TSAP, a calling one, or neither: a parameter of the code and another length is neither
  by_cases hcalled : param.code = paramCalledTsap ∧ param.value.length = 2
  · have htsap : param.tsap paramCalledTsap = some (be16Field.decode param.value) := if_pos hcalled
    have hother : param.tsap paramCallingTsap = none :=
      if_neg fun h => absurd (hcalled.1.symm.trans h.1) (by decide)
    refine rewrites_tsap hcalled.2 .s7ModuleId "called_tsap" (fun s val => ?_)
      ?_ (fun f => ?_) (fun f => ?_) size behind
    · unfold retsapAt
      rw [if_pos ⟨.inl hcalled.1, hcalled.2⟩, if_pos hcalled.1]
    · rw [CotpParam.keys, htsap, hother]
      rfl
    · rw [CotpParam.retsap, htsap]
      rfl
    · rw [CotpParam.reports, htsap, hother]
      exact (List.append_nil _).trans (List.append_nil _)
  · have hnot : param.tsap paramCalledTsap = none := if_neg hcalled
    by_cases hcalling : param.code = paramCallingTsap ∧ param.value.length = 2
    · have htsap : param.tsap paramCallingTsap = some (be16Field.decode param.value) :=
        if_pos hcalling
      have hcode : param.code ≠ paramCalledTsap := fun h => hcalled ⟨h, hcalling.2⟩
      refine rewrites_tsap hcalling.2 .s7Serial "calling_tsap"
        (fun s val => ?_) ?_ (fun f => ?_) (fun f => ?_) size behind
      · unfold retsapAt
        rw [if_pos ⟨.inr hcalling.1, hcalling.2⟩, if_neg hcode]
      · rw [CotpParam.keys, htsap, hnot]
        rfl
      · rw [CotpParam.retsap, htsap, hnot]
        rfl
      · rw [CotpParam.reports, htsap, hnot]
        exact List.append_nil _
    · -- any other parameter is passed over
      have hnone : param.tsap paramCallingTsap = none := if_neg hcalling
      intro s pre rest hpayload hsize hbehind
      have hend : pre.length + param.encode.length ≤ size - behind := by
        rw [← hsize, hpayload, List.length_append, List.length_append]
        omega
      have hstep := step_encode hvalue hpayload hend
      have hedit : retsapAt s param.code param.value.length (pre.length + 2) = s := by
        refine if_neg fun h => ?_
        rcases h.1 with hcode | hcode
        · exact hcalled ⟨hcode, h.2⟩
        · exact hcalling ⟨hcode, h.2⟩
      rw [hedit] at hstep
      refine ⟨s, param, by rw [List.length_append]; exact hstep,
        by rw [hpayload, List.append_assoc], ⟨rfl, .refl _ _, ?_⟩, fun f _ => ⟨?_, ?_⟩⟩
      · rw [CotpParam.keys, hnot, hnone]
        nofun
      · show param = param.retsap _ _
        rw [CotpParam.retsap, hnot, hnone]
      · show s.reports = s.reports ++ param.reports _ _
        rw [CotpParam.reports, hnot, hnone]
        exact (List.append_nil _).symm

theorem length_encode_retsap (called calling : UInt16 → UInt16) (param : CotpParam) :
    (param.retsap called calling).encode.length = param.encode.length := by
  have htwo : ∀ {kind tsap}, param.tsap kind = some tsap → param.value.length = 2 := by
    intro kind tsap h
    unfold CotpParam.tsap at h
    split at h
    · next hkind => exact hkind.2
    · cases h
  unfold CotpParam.retsap
  cases hcalled : param.tsap paramCalledTsap with
  | some tsap => exact length_encode_value param (htwo hcalled).symm
  | none =>
    cases hcalling : param.tsap paramCallingTsap with
    | some tsap => exact length_encode_value param (htwo hcalling).symm
    | none => rfl

/-- Replacing TSAPs leaves the fixed part alone, its length octet included. -/
theorem fixed_retsap (called calling : UInt16 → UInt16) (msg : CotpSetup) :
    (msg.retsap called calling).fixed = msg.fixed := by
  have hlen : (msg.retsap called calling).cotpLength = msg.cotpLength := by
    unfold CotpSetup.cotpLength CotpSetup.retsap
    rw [List.flatMap_map, List.length_flatMap, List.length_flatMap]
    exact congrArg (6 + List.sum ·)
      (List.map_congr_left fun param _ => length_encode_retsap called calling param)
  unfold CotpSetup.fixed
  rw [hlen]
  rfl

theorem mem_keys_of_tsap {param : CotpParam} {kind : UInt8} {tsap : UInt16}
    (h : param.tsap kind = some tsap) :
    (kind = paramCalledTsap → ((.s7ModuleId, tsap.toUInt64) : Domain × UInt64) ∈ param.keys) ∧
      (kind = paramCallingTsap → ((.s7Serial, tsap.toUInt64) : Domain × UInt64) ∈ param.keys) := by
  constructor
  · rintro rfl
    rw [CotpParam.keys, h]
    exact List.mem_append_left _ (List.mem_singleton_self _)
  · rintro rfl
    rw [CotpParam.keys, h]
    exact List.mem_append_right _ (List.mem_singleton_self _)

/-- **In a message with correct lengths both kinds of TSAP are replaced**, each through one
function, which every later state of the mapper goes by. -/
theorem mutate_encode (mapper : SeededMapper) (msg : CotpSetup) (trailing : List UInt8)
    (hlen : msg.cotpLength ≤ 254) :
    ∃ called calling : UInt16 → UInt16,
      (mutate (msg.encode ++ trailing) mapper).payload =
        (msg.retsap called calling).encode ++ trailing ∧
      (mutate (msg.encode ++ trailing) mapper).reports =
        msg.params.flatMap (CotpParam.reports called calling) ∧
      SeededMapper.Consistent idU16 .s7ModuleId mapper
        (mutate (msg.encode ++ trailing) mapper).mapper (msg.tsaps paramCalledTsap) called ∧
      SeededMapper.Consistent idU16 .s7Serial mapper
        (mutate (msg.encode ++ trailing) mapper).mapper (msg.tsaps paramCallingTsap) calling := by
  have hpayload : msg.encode ++ trailing =
      msg.fixed ++ (msg.params.flatMap CotpParam.encode ++ trailing) := List.append_assoc _ _ _
  have hsize : (msg.encode ++ trailing).length =
      5 + msg.cotpLength + trailing.length := by
    rw [hpayload, List.length_append, List.length_append, CotpSetup.cotpLength]
    show 11 + _ = _
    omega
  have hsetup : isSetup (msg.encode ++ trailing) = true := by
    have htype : byte (msg.encode ++ trailing) 5 = if msg.confirm then cotpCc else cotpCr := rfl
    unfold isSetup
    rw [htype, hsize, show byte (msg.encode ++ trailing) 0 = 0x03 from rfl, CotpSetup.cotpLength,
      decide_eq_true (by omega)]
    cases msg.confirm with
    | false => rfl
    | true => rfl
  -- the length octet counts what is behind itself, so the walk ends where the trailing bytes begin
  have hend :
      cotpEnd (msg.encode ++ trailing) = (msg.encode ++ trailing).length - trailing.length := by
    have hoctet : (byte (msg.encode ++ trailing) 4).toNat = msg.cotpLength := by
      show (UInt8.ofNat msg.cotpLength).toNat = _
      rw [UInt8.toNat_ofNat']
      omega
    unfold cotpEnd
    rw [hoctet, hsize]
    omega
  have hvalue : ∀ param ∈ msg.params, param.value.length < 256 := by
    intro param hparam
    obtain ⟨before, behind, hsplit⟩ := List.append_of_mem hparam
    rw [CotpSetup.cotpLength, hsplit, List.flatMap_append, List.flatMap_cons, List.length_append,
      List.length_append, CotpParam.encode, List.length_append] at hlen
    omega
  -- the walk takes the parameters one by one
  obtain ⟨t, params', hrun, hpayload', hlen', hgrown, hknown, hthrough⟩ :=
    run_items ⟨msg.encode ++ trailing, mapper, []⟩ msg.fixed trailing
      (fun param hparam => rewritesItem (hvalue param hparam) _ _) hpayload
  have hmutate : mutate (msg.encode ++ trailing) mapper = t := by
    unfold mutate
    rw [if_pos hsetup, hend]
    refine hrun.trans (Scan.run_of_none (if_pos ?_))
    rw [hpayload', List.length_append] at hlen'
    show (msg.encode ++ trailing).length - trailing.length < _
    rw [← hlen']
    omega
  rw [hmutate]
  obtain ⟨f, hf⟩ := exists_agrees SeededMapper.known t.mapper
  obtain ⟨rfl, hreports⟩ := hthrough f hf
  refine ⟨calledOf f, callingOf f, ?_, hreports, ?_, ?_⟩
  · rw [hpayload', CotpSetup.encode, fixed_retsap]
    rfl
  · refine consistent_of_known hgrown hf fun tsap htsap => ?_
    obtain ⟨param, hparam, htsap⟩ := List.mem_filterMap.mp htsap
    exact hknown param hparam _ ((mem_keys_of_tsap htsap).1 rfl)
  · refine consistent_of_known hgrown hf fun tsap htsap => ?_
    obtain ⟨param, hparam, htsap⟩ := List.mem_filterMap.mp htsap
    exact hknown param hparam _ ((mem_keys_of_tsap htsap).2 rfl)

/-! ## Any payload at all

Nothing is known of the payload here but its bytes, and the walk follows the lengths that it
declares. The invariant is that all that has changed so far lies in TSAPs in front of the walk; so
the parameters from there on are still those of the original, and a parameter that claims more than
there is ends the walk.
-/

/-- A parameter as the declared lengths delimit it. -/
structure ParamAt where
  code : UInt8
  val : Nat
  plen : Nat

/-- The parameters from offset `k` on. -/
def paramsFrom (payload : List UInt8) (cotpEnd k : Nat) : List ParamAt :=
  if cotpEnd < k + 2 then []
  else
    let plen := (byte payload (k + 1)).toNat
    if cotpEnd < k + 2 + plen then []
    else ⟨byte payload k, k + 2, plen⟩ :: paramsFrom payload cotpEnd (k + 2 + plen)
termination_by cotpEnd - k

/-- The parameters of a payload; only a connection request or confirm has any. -/
def paramsOf (payload : List UInt8) : List ParamAt :=
  if isSetup payload then paramsFrom payload (cotpEnd payload) 11 else []

/-- Octet `i` belongs to the value of a TSAP. -/
def InTsap (params : List ParamAt) (i : Nat) : Prop :=
  ∃ q ∈ params, (q.code = paramCalledTsap ∨ q.code = paramCallingTsap) ∧ q.plen = 2 ∧
    q.val ≤ i ∧ i < q.val + 2

theorem paramsFrom_of_fits {payload : List UInt8} {cotpEnd k : Nat}
    (h : k + 2 + (byte payload (k + 1)).toNat ≤ cotpEnd) :
    paramsFrom payload cotpEnd k =
      ⟨byte payload k, k + 2, (byte payload (k + 1)).toNat⟩ ::
        paramsFrom payload cotpEnd (k + 2 + (byte payload (k + 1)).toNat) := by
  rw [paramsFrom, if_neg (by omega)]
  exact if_neg (by omega)

/-- An edit touches the value of a TSAP, or nothing. -/
theorem retsapAt_changes (s : Mutation) (code : UInt8) (plen val : Nat) :
    (retsapAt s code plen val).payload.length = s.payload.length ∧
      ∀ i, byte (retsapAt s code plen val).payload i ≠ byte s.payload i →
        (code = paramCalledTsap ∨ code = paramCallingTsap) ∧ plen = 2 ∧ val ≤ i ∧ i < val + 2 := by
  have hremap : ∀ domain name,
      (s.remap idU16 be16Field .s7 domain name val).payload.length = s.payload.length ∧
        ∀ i, byte (s.remap idU16 be16Field .s7 domain name val).payload i ≠ byte s.payload i →
          val ≤ i ∧ i < val + 2 := by
    intro domain name
    obtain ⟨hlen, hagree⟩ := remap_agreeOn idU16 be16Field .s7 domain name val s
    refine ⟨hlen, fun i hi => ?_⟩
    by_contra hout
    refine hi (hagree i ?_)
    show i < val ∨ val + 2 ≤ i
    omega
  unfold retsapAt
  split
  · next htsap =>
    split
    · exact ⟨(hremap _ _).1, fun i hi => ⟨htsap.1, htsap.2, (hremap _ _).2 i hi⟩⟩
    · exact ⟨(hremap _ _).1, fun i hi => ⟨htsap.1, htsap.2, (hremap _ _).2 i hi⟩⟩
  · exact ⟨rfl, fun i hi => absurd rfl hi⟩

/-- What holds of the state in front of offset `k`: what has changed lies in TSAPs before `k`,
so the parameters from `k` on are still the original ones. -/
structure TsapsBefore (payload : List UInt8) (cotpEnd : Nat) (s : Mutation) (k : Nat) : Prop where
  length : s.payload.length = payload.length
  suffix : ∀ q ∈ paramsFrom payload cotpEnd k, q ∈ paramsFrom payload cotpEnd 11
  changed : ∀ i, byte s.payload i ≠ byte payload i →
    i < k ∧ InTsap (paramsFrom payload cotpEnd 11) i

theorem TsapsBefore.step {payload : List UInt8} {cotpEnd : Nat} {s t : Mutation} {k k' : Nat}
    (h : TsapsBefore payload cotpEnd s k) (hstep : step cotpEnd s k = some (t, k')) :
    TsapsBefore payload cotpEnd t k' := by
  have hsame : ∀ i, k ≤ i → byte s.payload i = byte payload i := by
    intro i hi
    by_contra hne
    exact absurd (h.changed i hne).1 (Nat.not_lt.mpr hi)
  obtain ⟨hend, hnext, rfl⟩ := step_some hstep
  rw [hsame k (Nat.le_refl k), hsame (k + 1) (Nat.le_succ k)] at *
  subst hnext
  have hparams := paramsFrom_of_fits hend
  obtain ⟨hlen, hchanges⟩ :=
    retsapAt_changes s (byte payload k) (byte payload (k + 1)).toNat (k + 2)
  refine ⟨hlen.trans h.length, fun q hq => ?_, fun i hi => ?_⟩
  · exact h.suffix q (hparams ▸ List.mem_cons_of_mem _ hq)
  · by_cases hold : byte s.payload i = byte payload i
    · -- changed by this turn
      rw [← hold] at hi
      obtain ⟨hcode, hplen, hge, hlt⟩ := hchanges i hi
      refine ⟨by omega, _, h.suffix _ (hparams ▸ List.mem_cons_self), hcode, hplen, hge, hlt⟩
    · obtain ⟨hlt, hin⟩ := h.changed i hold
      exact ⟨by omega, hin⟩

/-- **Nothing else changes**, whatever the payload: the length stays, and every octet that
changes lies in the value of a TSAP. -/
theorem changed_inside_tsap (mapper : SeededMapper) (payload : List UInt8) :
    (mutate payload mapper).payload.length = payload.length ∧
      ∀ i, byte (mutate payload mapper).payload i ≠ byte payload i →
        InTsap (paramsOf payload) i := by
  unfold mutate paramsOf
  split
  · have hinit : TsapsBefore payload (cotpEnd payload) ⟨payload, mapper, []⟩ 11 :=
      ⟨rfl, fun _ h => h, fun i hi => absurd rfl hi⟩
    obtain ⟨k, hlast⟩ := (walk (cotpEnd payload)).run_invariant
      (fun s k t k' h hstep => h.step hstep) hinit
    exact ⟨hlast.length, fun i hi => (hlast.changed i hi).2⟩
  · exact ⟨rfl, fun i hi => absurd rfl hi⟩

/-- **Mutation touches exactly the TSAPs**: all of them in a message with correct lengths, and
nothing outside them in any payload. Equal TSAPs get equal values, under the mapper the round has
built up so far. -/
theorem tsaps_only (mapper : SeededMapper) (msg : CotpSetup) (trailing : List UInt8)
    (hlen : msg.cotpLength ≤ 254) (payload : List UInt8) :
    (∃ called calling : UInt16 → UInt16,
      (mutate (msg.encode ++ trailing) mapper).payload =
        (msg.retsap called calling).encode ++ trailing ∧
      (mutate (msg.encode ++ trailing) mapper).reports =
        msg.params.flatMap (CotpParam.reports called calling) ∧
      SeededMapper.Consistent idU16 .s7ModuleId mapper
        (mutate (msg.encode ++ trailing) mapper).mapper (msg.tsaps paramCalledTsap) called ∧
      SeededMapper.Consistent idU16 .s7Serial mapper
        (mutate (msg.encode ++ trailing) mapper).mapper (msg.tsaps paramCallingTsap) calling) ∧
    (mutate payload mapper).payload.length = payload.length ∧
    ∀ i, byte (mutate payload mapper).payload i ≠ byte payload i → InTsap (paramsOf payload) i :=
  ⟨mutate_encode mapper msg trailing hlen, changed_inside_tsap mapper payload⟩

/-- A request for rack 0, slot 2, with the size parameter behind the TSAPs. -/
def rackSlotRequest : CotpSetup :=
  ⟨false, 0, 22, 0, 1, 0, [⟨0xC1, [0x01, 0x00]⟩, ⟨0xC2, [0x01, 0x02]⟩, ⟨0xC0, [0x0a]⟩]⟩

/-- A generator that counts. -/
def countingRng : Rng := ⟨fun n => n + 5, 0⟩

theorem tsaps_only_rackSlot :
    (∃ called calling : UInt16 → UInt16,
      (mutate (rackSlotRequest.encode ++ [0xff]) (.fromSeed countingRng)).payload =
        (rackSlotRequest.retsap called calling).encode ++ [0xff]) ∧
    (mutate [0x03] (.fromSeed countingRng)).payload.length = 1 :=
  have h := tsaps_only (.fromSeed countingRng) rackSlotRequest [0xff] (by decide) [0x03]
  ⟨h.1.imp fun _ h => h.imp fun _ h => h.1, h.2.1⟩

end S7

end TurboLaser
