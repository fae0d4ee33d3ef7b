import TurboLaser.Reload.Pipeline

/-!
# Frames that nothing is reported about

The forge recomputes checksums only where a mutator reports a change, so a mutator that reports
nothing must not have touched the frame. Three mutators keep this by their two edits (`Quiet`):
`put` and `remap` write where they report. DNP3 also writes the CRC of every link header it walks,
and reports nothing about it.

A link header whose CRC is right gets the same CRC again. Where it is wrong the mutator repairs it
silently; if it then reports nothing, because the mapper happens to map both addresses to
themselves, the frame goes out with a changed payload and the old transport checksum. Mappers that
map an address to itself are rare and exist: to show that the condition is needed one is built that
maps every address of a payload to itself (`exists_keepsAddresses`), which takes a generator that
delivers the right values in the right order.

- `quiet_mutate`: an edit of the other three that is not reported changes nothing;
- `dnp3_untouched_iff`: **a DNP3 payload is safe exactly when the CRCs of its link headers are
  right**, because some mapper maps every address to itself;
- `untouched_iff`: **over whole captures and whole forge rounds, exactly those with right CRCs keep
  what the forge relies on.** The CRC is any function here; the right CRC is the one it computes.
-/

namespace TurboLaser

open Lib

/-! ## Edits that are reported

An edit is quiet when nothing changes unless something is reported. Both kinds of edit are, and
quiet edits compose, so three of the mutators are quiet as a whole. DNP3 is not, for the CRCs it
writes.
-/

/-- From `s` to `t`, the payload keeps its length, and changes only if something is reported. -/
def Quiet (s t : Mutation) : Prop :=
  t.payload.length = s.payload.length ∧
    ∃ more, t.reports = s.reports ++ more ∧ (more = [] → t.payload = s.payload)

theorem Quiet.refl (s : Mutation) : Quiet s s := ⟨rfl, [], (List.append_nil _).symm, fun _ => rfl⟩

theorem Quiet.trans {s t u : Mutation} (h : Quiet s t) (h' : Quiet t u) : Quiet s u := by
  obtain ⟨hlen, more, hmore, hsilent⟩ := h
  obtain ⟨hlen', more', hmore', hsilent'⟩ := h'
  refine ⟨hlen'.trans hlen, more ++ more', ?_, fun hnone => ?_⟩
  · rw [hmore', hmore, List.append_assoc]
  · obtain ⟨hnil, hnil'⟩ := List.append_eq_nil_iff.mp hnone
    rw [hsilent' hnil', hsilent hnil]

/-- A new mapper is no edit. -/
theorem Quiet.mapped {s t : Mutation} {mapper : SeededMapper} (h : Quiet { s with mapper } t) :
    Quiet s t := h

section Edits

variable {ω : Type} [DecidableEq ω] (word : IdWord ω) (field : FixedField ω) (protocol : Protocol)
  (domain : Domain) (name : String) (off : Nat) (s : Mutation)

theorem quiet_put (new : ω) : Quiet s (s.put word field protocol name off new) := by
  refine ⟨(put_agreeOn ..).1, changeReport word protocol name (field.read s.payload off) new,
    put_reports .., fun hnone => ?_⟩
  unfold changeReport at hnone
  unfold Mutation.put
  dsimp only
  split at hnone
  · next hsame => rw [if_pos hsame]
  · cases hnone

theorem quiet_remap : Quiet s (s.remap word field protocol domain name off) :=
  Quiet.mapped (quiet_put word field protocol name off { s with mapper := _ } _)

end Edits

namespace Modbus

theorem quiet_mutate (payload : List UInt8) (mapper : SeededMapper) :
    Quiet ⟨payload, mapper, []⟩ (mutate payload mapper) := by
  have hrule := walk.run_invariant (s := ⟨payload, mapper, []⟩) (o := 0)
    (P := fun t _ => Quiet ⟨payload, mapper, []⟩ t) ?_ (.refl _)
  · exact hrule.choose_spec
  · intro s o t o' hs hstep
    obtain ⟨-, rfl, -⟩ := step_some hstep
    exact hs.trans (quiet_remap ..)

end Modbus

namespace S7

theorem quiet_retsapAt (s : Mutation) (code : UInt8) (plen val : Nat) :
    Quiet s (retsapAt s code plen val) := by
  unfold retsapAt
  split
  · split
    · exact quiet_remap ..
    · exact quiet_remap ..
  · exact .refl s

theorem quiet_mutate (payload : List UInt8) (mapper : SeededMapper) :
    Quiet ⟨payload, mapper, []⟩ (mutate payload mapper) := by
  unfold mutate
  dsimp only
  split
  · have hrule := (walk (cotpEnd payload)).run_invariant (s := ⟨payload, mapper, []⟩) (o := 11)
      (P := fun t _ => Quiet ⟨payload, mapper, []⟩ t) ?_ (.refl _)
    · exact hrule.choose_spec
    · intro s k t k' hs hstep
      obtain ⟨-, -, rfl⟩ := step_some hstep
      exact hs.trans (quiet_retsapAt ..)
  · exact .refl _

end S7

namespace Enip

theorem quiet_setU16Le (s : Mutation) (off : Nat) (new : UInt16) (name : String) :
    Quiet s (setU16Le s off new name) := by
  unfold setU16Le
  split
  · exact .refl s
  · exact quiet_put ..

theorem quiet_profileAt (ids : List EnipId) (s : Mutation) (data : Nat) :
    Quiet s (profileAt ids s data) := by
  by_cases hids : ids = []
  · unfold profileAt
    rw [if_pos hids]
    exact .refl s
  · obtain ⟨id, -, heq⟩ := profileAt_eq hids s data
    rw [heq]
    have hvendor : Quiet s (vendorMapped s data) := Quiet.mapped (.refl _)
    exact hvendor.trans (((quiet_setU16Le ..).trans (quiet_setU16Le ..)).trans
      (quiet_setU16Le ..))

theorem quiet_identityAt (ids : List EnipId) (s : Mutation) (data : Nat) :
    Quiet s (identityAt ids s data) := by
  refine (quiet_profileAt ids s data).trans ?_
  unfold identityAt remapU32Le
  split
  · exact .refl _
  · exact quiet_remap ..

theorem quiet_items (ids : List EnipId) (count off : Nat) (s : Mutation) :
    Quiet s (items ids count off s) := by
  induction count generalizing off s with
  | zero => exact .refl s
  | succ count ih =>
    unfold items
    split
    · exact .refl s
    · dsimp only
      split
      · exact (quiet_identityAt ids s (off + 4)).trans (ih _ _)
      · exact ih _ _

theorem quiet_mutate (ids : List EnipId) (payload : List UInt8) (mapper : SeededMapper) :
    Quiet ⟨payload, mapper, []⟩ (mutate ids payload mapper) := by
  unfold mutate
  dsimp only
  split
  · exact quiet_items ..
  · exact .refl _

end Enip

/-! ## The CRCs that DNP3 writes

The walk goes from header to header by the lengths they declare. Reports are only ever added, so a
walk that reports nothing had no turn that reported. Such a turn kept both addresses and wrote a CRC
over the bytes that were there, which changes nothing if it was right.
-/

namespace Dnp3

/-- Where the link headers stand that the loop walks from `o` on. -/
def headersFrom (payload : List UInt8) (o : Nat) : List Nat :=
  if payload.length < o + 10 then []
  else if byte payload o ≠ 0x05 ∨ byte payload (o + 1) ≠ 0x64 then []
  else
    let len := (byte payload (o + 2)).toNat
    if len < 5 then []
    else
      let user := len - 5
      let blocks := (user + 15) / 16
      o :: headersFrom payload (o + (10 + user + 2 * blocks))
termination_by payload.length - o

/-- The header at `o` is trailed by its CRC. -/
def CrcRight (crc : List UInt8 → UInt16) (payload : List UInt8) (o : Nat) : Prop :=
  le16Field.read payload (o + 8) = crc (slice payload o (o + 8))

/-- So is every header that is walked. -/
def CrcsRight (crc : List UInt8 → UInt16) (payload : List UInt8) : Prop :=
  ∀ o ∈ headersFrom payload 0, CrcRight crc payload o

variable {crc : List UInt8 → UInt16} {s t : Mutation} {o o' : Nat}

theorem headersFrom_of_none (h : step crc s o = none) : headersFrom s.payload o = [] := by
  unfold step at h
  rw [headersFrom]
  dsimp only at h ⊢
  split at h
  · next hlen => rw [if_pos hlen]
  · next hlen =>
    rw [if_neg hlen]
    split at h
    · next hstart => rw [if_pos hstart]
    · next hstart =>
      rw [if_neg hstart]
      split at h
      · next hshort => rw [if_pos hshort]
      · cases h

theorem headersFrom_of_some (h : step crc s o = some (t, o')) :
    headersFrom s.payload o = o :: headersFrom s.payload o' := by
  unfold step at h
  rw [headersFrom]
  dsimp only at h ⊢
  split at h
  · cases h
  · next hlen =>
    rw [if_neg hlen]
    split at h
    · cases h
    · next hstart =>
      rw [if_neg hstart]
      split at h
      · cases h
      · next hshort =>
        rw [if_neg hshort]
        cases h
        rfl

/-- The two edits of a turn, before the CRC. -/
def addressed (s : Mutation) (o : Nat) : Mutation :=
  (s.remap idU16 le16Field .dnp3 .dnp3Addr "dst" (o + 4)).remap idU16 le16Field .dnp3 .dnp3Addr
    "src" (o + 6)

theorem readdressAt_eq (crc : List UInt8 → UInt16) (s : Mutation) (o : Nat) :
    readdressAt crc s o =
      { addressed s o with
        payload := le16Field.write (addressed s o).payload (o + 8)
          (crc (slice (addressed s o).payload o (o + 8))) } :=
  rfl

theorem quiet_addressed (s : Mutation) (o : Nat) : Quiet s (addressed s o) :=
  (quiet_remap ..).trans (quiet_remap ..)

/-- A turn that reports nothing leaves a header alone whose CRC is right. -/
theorem readdressAt_silent {s : Mutation} {o : Nat} (hinside : o + 10 ≤ s.payload.length)
    (hcrc : CrcRight crc s.payload o) : Quiet s (readdressAt crc s o) := by
  obtain ⟨hlen, more, hmore, hsilent⟩ := quiet_addressed s o
  refine ⟨length_readdressAt crc s o, more, hmore, fun hnone => ?_⟩
  rw [readdressAt_eq]
  dsimp only
  rw [hsilent hnone]
  exact (le16Field.write_eq_self_iff hinside).mpr hcrc

/-- Reports are added only. -/
theorem run_reports (crc : List UInt8 → UInt16) (s : Mutation) (o : Nat) :
    ∃ more, ((walk crc).run s o).reports = s.reports ++ more := by
  have hrule := (walk crc).run_invariant (s := s) (o := o)
    (P := fun t _ => ∃ more, t.reports = s.reports ++ more) ?_ ⟨[], (List.append_nil _).symm⟩
  · exact hrule.choose_spec
  · rintro t o t' o' ⟨more, hmore⟩ hstep
    obtain ⟨-, rfl, -⟩ := step_some hstep
    obtain ⟨-, more', hmore', -⟩ := quiet_addressed t o
    exact ⟨more ++ more', by rw [readdressAt_eq, hmore', hmore, List.append_assoc]⟩

/-- **Where all CRCs are right, a walk that reports nothing changes nothing.** -/
theorem run_silent (s : Mutation) (o : Nat)
    (hcrcs : ∀ k ∈ headersFrom s.payload o, CrcRight crc s.payload k)
    (hsilent : ((walk crc).run s o).reports = s.reports) :
    ((walk crc).run s o).payload = s.payload := by
  induction s, o using Scan.run.induct (walk crc) with
  | case1 s o hnone => rw [Scan.run_of_none hnone]
  | case2 s o t o' hsome ih =>
    rw [Scan.run_of_some hsome] at hsilent ⊢
    rw [headersFrom_of_some hsome] at hcrcs
    obtain ⟨hinside, rfl, -⟩ := step_some hsome
    obtain ⟨-, more, hmore, hsame⟩ := readdressAt_silent hinside (hcrcs o List.mem_cons_self)
    -- nothing is reported from here on, so nothing was reported in this turn
    obtain ⟨later, hlater⟩ := run_reports crc (readdressAt crc s o) o'
    have hnone : more = [] ∧ later = [] := by
      rw [hlater, hmore, List.append_assoc] at hsilent
      exact List.append_eq_nil_iff.mp (List.append_right_eq_self.mp hsilent)
    have hpayload := hsame hnone.1
    rw [ih (hpayload.symm ▸ fun k hk => hcrcs k (List.mem_cons_of_mem o hk)) ?_, hpayload]
    rw [hlater, hnone.2, List.append_nil]

/-! ## A mapper that maps every address to itself

Whether a payload is safe from every mapper is asked, and a mapper that changes an address says
nothing about CRCs. The identity is reached by a generator that counts: the first address asked for
gets the first value, and so on. Under it nothing is reported, and the CRCs are all that can change.
-/

/-- Every address is on record with itself. -/
def KeepsAddresses (mapper : SeededMapper) : Prop :=
  ∀ x : UInt16, mapper.known (.dnp3Addr, x.toUInt64) = some x.toUInt64

/-- The mapper of a generator that counts, behind the first `n` addresses. -/
def countingMapper : Nat → SeededMapper
  | 0 => .fromSeed ⟨fun k => k, 0⟩
  | n + 1 => ((countingMapper n).mapU16 .dnp3Addr (UInt16.ofNat n)).2

/-- Behind the first `n` addresses, exactly these are on record, with themselves. -/
structure Counted (n : Nat) (mapper : SeededMapper) : Prop where
  rng : mapper.rng = ⟨fun k => k, n⟩
  known : ∀ x : UInt16, mapper.known (.dnp3Addr, x.toUInt64) =
    if x.toNat < n then some x.toUInt64 else none
  used : ∀ v ∈ mapper.usedIn .dnp3Addr, v.toNat < n

theorem counted_countingMapper {n : Nat} (hn : n ≤ 65536) : Counted n (countingMapper n) := by
  induction n with
  | zero => exact ⟨rfl, fun x => rfl, fun v hv => absurd hv (Finset.notMem_empty v)⟩
  | succ n ih =>
    obtain ⟨hrng, hknown, hused⟩ := ih (by omega)
    have hword : (UInt16.ofNat n).toNat = n := by
      rw [UInt16.toNat_ofNat']
      omega
    have hwide : (UInt16.ofNat n).toUInt64 = UInt64.ofNat n := by
      rw [← UInt64.toNat_inj, UInt16.toNat_toUInt64, hword, UInt64.toNat_ofNat']
      omega
    have hnew := hknown (UInt16.ofNat n)
    rw [hword, if_neg (Nat.lt_irrefl n)] at hnew
    -- the next draw is the next number, which nobody uses yet
    have hdraw : (countingMapper n).drawUnused .dnp3Addr 0 idU16.hi =
        (UInt64.ofNat n, { countingMapper n with rng := ⟨fun k => k, n + 1⟩ }) := by
      have hcandidate : (countingMapper n).rng.genRangeIncl 0 idU16.hi =
          (UInt64.ofNat n, ⟨fun k => k, n + 1⟩) := by
        rw [hrng]
        show (UInt64.ofNat (0 + n % (65535 - 0 + 1)), _) = _
        rw [Nat.mod_eq_of_lt (by omega), Nat.zero_add]
        rfl
      unfold SeededMapper.drawUnused
      rw [if_neg (by decide), hcandidate]
      dsimp only
      unfold redraw
      rw [if_pos]
      intro hmem
      have hlt := hused _ hmem
      rw [UInt64.toNat_ofNat'] at hlt
      omega
    -- so it is entered for the address of that number, and nothing else changes
    have hstep : countingMapper (n + 1) =
        { countingMapper n with
          rng := ⟨fun k => k, n + 1⟩
          fwd := (countingMapper n).fwd.insert (.dnp3Addr, UInt64.ofNat n) (UInt64.ofNat n)
          used := (countingMapper n).used.insert .dnp3Addr
            (insert (UInt64.ofNat n) ((countingMapper n).usedIn .dnp3Addr)) } := by
      show ((countingMapper n).mapRange .dnp3Addr (UInt16.ofNat n).toUInt64 0 idU16.hi).2 = _
      unfold SeededMapper.mapRange
      unfold SeededMapper.known at hnew
      rw [hnew, hdraw, hwide]
      rfl
    rw [hstep]
    refine ⟨rfl, fun x => ?_, fun v hv => ?_⟩
    · show AList.lookup _ (AList.insert _ _ (countingMapper n).fwd) = _
      by_cases hx : x = UInt16.ofNat n
      · rw [hx, hword, if_pos (Nat.lt_succ_self n), hwide]
        exact AList.lookup_insert _
      · have hne : x.toUInt64 ≠ UInt64.ofNat n := by
          intro heq
          rw [← hwide] at heq
          exact hx (UInt16.toUInt64_inj.mp heq)
        rw [AList.lookup_insert_ne fun heq => hne (congrArg Prod.snd heq)]
        refine (hknown x).trans (if_congr ?_ rfl rfl)
        have hx' : x.toNat ≠ n := by
          rintro rfl
          exact hx UInt16.ofNat_toNat.symm
        omega
    · have hlookup : v = UInt64.ofNat n ∨ v ∈ (countingMapper n).usedIn .dnp3Addr := by
        unfold SeededMapper.usedIn at hv
        rw [AList.lookup_insert] at hv
        exact Finset.mem_insert.mp hv
      rcases hlookup with rfl | hold
      · rw [UInt64.toNat_ofNat']
        omega
      · have := hused v hold
        omega

/-- Such a mapper is one that a run of the mapper reaches. -/
theorem exists_keepsAddresses : ∃ n, KeepsAddresses (countingMapper n) := by
  refine ⟨65536, fun x => ?_⟩
  have hx := x.toNat_lt
  rw [(counted_countingMapper (Nat.le_refl 65536)).known x, if_pos (by omega)]

theorem remap_of_keeps {s : Mutation} (h : KeepsAddresses s.mapper) (name : String) (off : Nat) :
    s.remap idU16 le16Field .dnp3 .dnp3Addr name off = s := by
  have hmap : s.mapper.mapWord idU16 .dnp3Addr (le16Field.read s.payload off) =
      (le16Field.read s.payload off, s.mapper) := by
    have hknown : s.mapper.known (.dnp3Addr, idU16.widen (le16Field.read s.payload off)) =
        some (idU16.widen (le16Field.read s.payload off)) := h _
    unfold SeededMapper.mapWord
    rw [mapRange_of_known hknown]
    exact congrArg (·, s.mapper) (UInt16.toUInt16_toUInt64 _)
  unfold Mutation.remap
  rw [hmap]
  exact if_pos rfl

theorem addressed_of_keeps {s : Mutation} (h : KeepsAddresses s.mapper) (o : Nat) :
    addressed s o = s := by
  unfold addressed
  rw [remap_of_keeps h, remap_of_keeps h]

/-- Under such a mapper a walk reports nothing and writes CRCs, and a payload that it leaves alone
has had the right ones. -/
theorem run_of_keeps (s : Mutation) (o : Nat) (h : KeepsAddresses s.mapper) :
    ((walk crc).run s o).reports = s.reports ∧
      AgreeOn (· < o) ((walk crc).run s o).payload s.payload ∧
      (((walk crc).run s o).payload = s.payload →
        ∀ k ∈ headersFrom s.payload o, CrcRight crc s.payload k) := by
  induction s, o using Scan.run.induct (walk crc) with
  | case1 s o hnone =>
    rw [Scan.run_of_none hnone, headersFrom_of_none hnone]
    exact ⟨rfl, .refl _ _, fun _ _ hk => absurd hk List.not_mem_nil⟩
  | case2 s o t o' hsome ih =>
    rw [Scan.run_of_some hsome, headersFrom_of_some hsome]
    obtain ⟨hinside, rfl, hforward⟩ := step_some hsome
    rw [readdressAt_eq, addressed_of_keeps h] at ih ⊢
    obtain ⟨hreports, hagree, hright⟩ := ih h
    -- the addresses stay, so a turn is nothing but the write of a CRC
    have hwrite : AgreeOn (fun i => i < o + 8 ∨ o + 8 + 2 ≤ i)
        (le16Field.write s.payload (o + 8) (crc (slice s.payload o (o + 8)))) s.payload :=
      agreeOn_write _ _ _
    refine ⟨hreports, ?_, fun hsame => ?_⟩
    · refine (hagree.mono fun i hi => ?_).trans (hwrite.mono fun i hi => .inl ?_)
      · omega
      · omega
    · -- the CRC is behind the walk, so it is what it was before
      have hkept : le16Field.write s.payload (o + 8) (crc (slice s.payload o (o + 8))) =
          s.payload := by
        refine ext_byte hwrite.1 fun i _ => ?_
        by_cases hi : i < o'
        · rw [← hagree.2 i hi, hsame]
        · exact hwrite.2 i (.inr (by omega))
      rintro k (_ | ⟨_, hk⟩)
      · exact (le16Field.write_eq_self_iff hinside).mp hkept
      · dsimp only at hright
        rw [hkept] at hright hsame
        exact hright hsame k hk

/-- **A payload that is safe from every mapper is one whose CRCs are right.** -/
theorem dnp3_untouched_iff (payload : List UInt8) :
    (∀ mapper, (mutate crc payload mapper).reports = [] →
        (mutate crc payload mapper).payload = payload) ↔ CrcsRight crc payload := by
  constructor
  · intro huntouched
    obtain ⟨n, hkeeps⟩ := exists_keepsAddresses
    obtain ⟨hreports, -, hright⟩ := @run_of_keeps crc ⟨payload, countingMapper n, []⟩ 0 hkeeps
    exact hright (huntouched _ hreports)
  · intro hcrcs mapper hsilent
    exact run_silent ⟨payload, mapper, []⟩ 0 hcrcs hsilent

end Dnp3

/-! ## Whole captures

Both properties of a capture come down to one of its DNP3 frames. Three mutators report every edit.
The fourth rewrites the CRCs of a link header whether or not it changed an address, so it leaves a
frame untouched exactly when the CRCs were right; a frame that it leaves untouched keeps its
checksums, and one that it reports gets new ones.
-/

/-- A frame whose checksums pass, as far as it has any. -/
def FrameValid (data : List UInt8) : Prop :=
  ∀ l, parseLayout data = some l → checksumsValid data l = true

/-- A frame whose transport header lies inside the declared IP length, if it has one. -/
def CarriesHeader (data : List UInt8) : Prop :=
  ∀ l, parseLayout data = some l → l.l4Kind ≠ .other → HeaderInside data l

/-- A mutator that matches a frame of the capture and reports nothing leaves the frame alone. -/
def SilentUntouched (crc : List UInt8 → UInt16) (ids : List EnipId) (cap : Capture) : Prop :=
  ∀ p ∈ cap.packets, ∀ l, parseLayout p.data = some l → ∀ m : Protocol,
    m.matches ⟨p.data, l⟩ = true → ∀ mapper : SeededMapper,
      (ParsedFrame.mutate crc ids ⟨p.data, l⟩ m mapper).2.reports = [] →
        (ParsedFrame.mutate crc ids ⟨p.data, l⟩ m mapper).1 = p.data

/-- A forge round keeps valid frames valid, frame by frame of what is small enough to be sent. -/
def ValidKept (crc : List UInt8 → UInt16) (ids : List EnipId) (cap : Capture) : Prop :=
  ∀ (seedFrom : UInt64 → Rng) (seed : UInt64) (opts : ReloadOptions), opts.remapL3 = false →
    List.Forall₂ (fun p q => CarriesHeader p.data → FrameValid p.data → FrameValid q.data)
      (dropOversizeFrames cap Scenario.standardFrameBytes).packets
      (forgeRound seedFrom crc ids cap seed opts).1.packets

/-- The DNP3 frames of a capture have the right CRCs in the link headers that are walked. -/
def LinkCrcsRight (crc : List UInt8 → UInt16) (cap : Capture) : Prop :=
  ∀ p ∈ cap.packets, ∀ l, parseLayout p.data = some l → Dnp3.matches ⟨p.data, l⟩ = true →
    Dnp3.CrcsRight crc (ParsedFrame.payload ⟨p.data, l⟩)

theorem length_mutate (crc : List UInt8 → UInt16) (ids : List EnipId) (m : Protocol)
    (payload : List UInt8) (mapper : SeededMapper) :
    (m.mutate crc ids payload mapper).payload.length = payload.length := by
  cases m with
  | modbus => exact (Modbus.quiet_mutate payload mapper).1
  | enip => exact (Enip.quiet_mutate ids payload mapper).1
  | s7 => exact (S7.quiet_mutate payload mapper).1
  | dnp3 =>
    have hrule := (Dnp3.walk crc).run_invariant (s := ⟨payload, mapper, []⟩) (o := 0)
      (P := fun t _ => t.payload.length = payload.length) ?_ rfl
    · exact hrule.choose_spec
    · intro s o t o' hs hstep
      obtain ⟨-, rfl, -⟩ := Dnp3.step_some hstep
      exact (Dnp3.length_readdressAt ..).trans hs

/-- A mutator that reports nothing leaves the payload alone, the CRCs of DNP3 apart. -/
theorem mutate_silent {crc : List UInt8 → UInt16} {ids : List EnipId} {m : Protocol}
    {payload : List UInt8} {mapper : SeededMapper} (hcrcs : m = .dnp3 → Dnp3.CrcsRight crc payload)
    (hsilent : (m.mutate crc ids payload mapper).reports = []) :
    (m.mutate crc ids payload mapper).payload = payload := by
  have hquiet : ∀ t, Quiet ⟨payload, mapper, []⟩ t → t.reports = [] → t.payload = payload := by
    rintro t ⟨-, more, hmore, hsame⟩ hnone
    exact hsame (hmore.symm.trans hnone)
  cases m with
  | modbus => exact hquiet _ (Modbus.quiet_mutate payload mapper) hsilent
  | enip => exact hquiet _ (Enip.quiet_mutate ids payload mapper) hsilent
  | s7 => exact hquiet _ (S7.quiet_mutate payload mapper) hsilent
  | dnp3 => exact (Dnp3.dnp3_untouched_iff payload).mpr (hcrcs rfl) mapper hsilent

section Frame

variable {crc : List UInt8 → UInt16} {ids : List EnipId} {data : List UInt8} {l : FrameLayout}
  {m : Protocol}
  (h : parseLayout data = some l) (hm : m.matches ⟨data, l⟩ = true) (mapper : SeededMapper)

include h hm

theorem length_mutate_payload :
    (m.mutate crc ids (ParsedFrame.payload ⟨data, l⟩) mapper).payload.length =
      l.stop - l.payload := by
  obtain ⟨-, hl⟩ := packet_of_matches h hm
  rw [length_mutate]
  exact length_slice hl.stop_le

/-- A frame is left alone exactly when its payload is. -/
theorem frame_untouched_iff :
    (ParsedFrame.mutate crc ids ⟨data, l⟩ m mapper).1 = data ↔
      (m.mutate crc ids (ParsedFrame.payload ⟨data, l⟩) mapper).payload =
        ParsedFrame.payload ⟨data, l⟩ := by
  obtain ⟨-, hl⟩ := packet_of_matches h hm
  exact write_payload_eq_self_iff hl.stop_le (length_mutate_payload h hm mapper)

/-- **A frame behind its turn is valid if it was before**: either it was left alone, or its
checksums were recomputed. -/
theorem mutated_valid (hcrcs : m = .dnp3 →
      Dnp3.CrcsRight crc (ParsedFrame.payload ⟨data, l⟩))
    (hheader : CarriesHeader data) (hvalid : FrameValid data) :
    FrameValid (if (ParsedFrame.mutate crc ids ⟨data, l⟩ m mapper).2.reports = [] then
        (ParsedFrame.mutate crc ids ⟨data, l⟩ m mapper).1
      else recomputeChecksums (ParsedFrame.mutate crc ids ⟨data, l⟩ m mapper).1 l) := by
  split
  · next hsilent => rwa [(frame_untouched_iff h hm mapper).mpr (mutate_silent hcrcs hsilent)]
  · obtain ⟨hk, -⟩ := packet_of_matches h hm
    obtain ⟨hlayout, hlen⟩ :=
      parseLayout_payload h hk (@length_mutate_payload crc ids data l m h hm mapper)
    have hin : HeaderInside (ParsedFrame.mutate crc ids ⟨data, l⟩ m mapper).1 l :=
      (congrArg (l.l4 + ·) hlen).trans_le (hheader l h (l4Kind_of_matches hm))
    obtain ⟨hsummed, -, -, hsame, -⟩ := recompute_correct hlayout hk hin
    intro l' hl'
    obtain rfl : l = l' := Option.some.inj (hsame.symm.trans hl')
    exact hsummed

end Frame

/-- The CRCs of one frame. -/
def FrameCrcsRight (crc : List UInt8 → UInt16) (data : List UInt8) : Prop :=
  ∀ l, parseLayout data = some l → Dnp3.matches ⟨data, l⟩ = true →
    Dnp3.CrcsRight crc (ParsedFrame.payload ⟨data, l⟩)

/-- What a round does to one frame. -/
def Forged (data data' : List UInt8) : Prop :=
  data'.length = data.length ∧ (CarriesHeader data → FrameValid data → FrameValid data')

theorem forgeFrame_forged {crc : List UInt8 → UInt16} {ids : List EnipId}
    (mutators : List Protocol) (mapper : SeededMapper) {data : List UInt8}
    (hcrcs : FrameCrcsRight crc data) :
    Forged data (forgeFrame crc ids mutators mapper data).1 := by
  unfold forgeFrame
  cases h : parseLayout data with
  | none => exact ⟨rfl, fun _ hvalid => hvalid⟩
  | some l =>
    dsimp only
    cases hfind : mutators.find? fun m => m.matches ⟨data, l⟩ with
    | none => exact ⟨rfl, fun _ hvalid => hvalid⟩
    | some m =>
      have hm := List.find?_some hfind
      have hvalid := @mutated_valid crc ids data l m h hm mapper fun hdnp3 =>
        hcrcs l h (by rw [hdnp3] at hm; exact hm)
      have hlen : (ParsedFrame.mutate crc ids ⟨data, l⟩ m mapper).1.length = data.length :=
        length_write _ _ _
      dsimp only
      split
      · next hsilent =>
        rw [if_pos hsilent] at hvalid
        exact ⟨hlen, hvalid⟩
      · next hreported =>
        rw [if_neg hreported] at hvalid
        exact ⟨(recomputeChecksums_agree ..).1.trans hlen, hvalid⟩

theorem forgePackets_forged {crc : List UInt8 → UInt16} {ids : List EnipId}
    (mutators : List Protocol) (mapper : SeededMapper) {packets : List OwnedPacket}
    (hcrcs : ∀ p ∈ packets, FrameCrcsRight crc p.data) :
    List.Forall₂ (fun p q => Forged p.data q.data) packets
      (forgePackets crc ids mutators mapper packets).1 := by
  induction packets generalizing mapper with
  | nil => exact .nil
  | cons p packets ih =>
    exact .cons (forgeFrame_forged mutators mapper (hcrcs p List.mem_cons_self))
      (ih _ fun q hq => hcrcs q (List.mem_cons_of_mem p hq))

/-- A filter by length takes the two sides of a correspondence alike. -/
theorem forged_filter {packets packets' : List OwnedPacket} (maxFrame : Nat)
    (h : List.Forall₂ (fun p q => Forged p.data q.data) packets packets') :
    List.Forall₂ (fun p q => Forged p.data q.data)
      (packets.filter fun p => decide (p.data.length ≤ maxFrame))
      (packets'.filter fun p => decide (p.data.length ≤ maxFrame)) := by
  induction h with
  | nil => exact .nil
  | @cons p q packets packets' hpq _ ih =>
    rw [List.filter_cons, List.filter_cons, hpq.1]
    split
    · exact .cons hpq ih
    · exact ih

theorem validKept_of_crcs {crc : List UInt8 → UInt16} {ids : List EnipId} {cap : Capture}
    (hcrcs : LinkCrcsRight crc cap) : ValidKept crc ids cap := by
  intro seedFrom seed opts hremap
  have hforged := forged_filter Scenario.standardFrameBytes
    (@forgePackets_forged crc ids opts.mutators (.fromSeed (seedFrom seed)) cap.packets hcrcs)
  unfold forgeRound
  rw [hremap]
  exact hforged.imp fun _ _ h => h.2

theorem silentUntouched_iff {crc : List UInt8 → UInt16} {ids : List EnipId} {cap : Capture} :
    SilentUntouched crc ids cap ↔ LinkCrcsRight crc cap := by
  constructor
  · intro huntouched p hp l h hm
    refine (Dnp3.dnp3_untouched_iff _).mp fun mapper hsilent => ?_
    exact (@frame_untouched_iff crc ids p.data l .dnp3 h hm mapper).mp
      (huntouched p hp l h .dnp3 hm mapper hsilent)
  · intro hcrcs p hp l h m hm mapper hsilent
    refine (frame_untouched_iff h hm mapper).mpr (mutate_silent ?_ hsilent)
    rintro rfl
    exact hcrcs p hp l h hm

/-- **An empty report means an untouched frame, and a round keeps valid frames valid, exactly in the
captures whose DNP3 link headers have the right CRCs.** The other three mutators report all they
write; DNP3 also writes CRCs. -/
theorem untouched_iff (crc : List UInt8 → UInt16) (ids : List EnipId) (cap : Capture) :
    SilentUntouched crc ids cap ∧ ValidKept crc ids cap ↔ LinkCrcsRight crc cap := by
  constructor
  · rintro ⟨huntouched, -⟩
    exact silentUntouched_iff.mp huntouched
  · intro hcrcs
    exact ⟨silentUntouched_iff.mpr hcrcs, validKept_of_crcs hcrcs⟩

/-- A valid datagram with a DNP3 link header from 1 to 4 whose CRC is zero. -/
def zeroCrcFrame : List UInt8 :=
  [0x02, 0, 0, 0, 0, 1, 0x02, 0, 0, 0, 0, 2, 0x08, 0x00,
    0x45, 0, 0, 38, 0, 1, 0, 0, 64, 17, 0x52, 0x94, 10, 20, 10, 5, 10, 20, 10, 6,
    0x9c, 0x40, 0x4e, 0x20, 0, 18, 0xdd, 0x0e,
    0x05, 0x64, 0x05, 0xc4, 4, 0, 1, 0, 0, 0]

def zeroCrcLayout : FrameLayout := ⟨14, .ipv4, 20, 34, .udp, 42, 52⟩

def zeroCrcCapture : Capture := ⟨[⟨0, 52, zeroCrcFrame⟩]⟩

/-- A generator that draws the two addresses of the header. -/
def fourThenOne : Rng := ⟨fun k => if k = 0 then 4 else 1, 0⟩

/-- The frame that a round makes of it. -/
def rewrittenFrame : List UInt8 :=
  (forgeFrame Synth.crcDnp3 [] allMutators (.fromSeed fourThenOne) zeroCrcFrame).1

/-- Both addresses are mapped to themselves, the CRC is written, and the UDP checksum is stale. -/
theorem zero_crc_rewritten :
    ¬ SilentUntouched Synth.crcDnp3 [] zeroCrcCapture ∧
      ¬ ValidKept Synth.crcDnp3 [] zeroCrcCapture := by
  have hlayout : parseLayout zeroCrcFrame = some zeroCrcLayout := by decide +kernel
  constructor
  · intro huntouched
    have hsame := huntouched ⟨0, 52, zeroCrcFrame⟩ List.mem_cons_self zeroCrcLayout hlayout .dnp3
      (by decide +kernel) (.fromSeed fourThenOne) (by decide +kernel)
    exact absurd hsame (by decide +kernel)
  · intro hkept
    have hround : (forgeRound (fun _ => fourThenOne) Synth.crcDnp3 [] zeroCrcCapture 0
        ⟨false, [], allMutators⟩).1.packets = [⟨0, 52, rewrittenFrame⟩] := by
      decide +kernel
    have hrelated := hkept (fun _ => fourThenOne) 0 ⟨false, [], allMutators⟩ rfl
    rw [hround, show (dropOversizeFrames zeroCrcCapture Scenario.standardFrameBytes).packets =
      [⟨0, 52, zeroCrcFrame⟩] by decide +kernel] at hrelated
    obtain ⟨hvalid, -⟩ := List.forall₂_cons.mp hrelated
    -- the frame came in with right checksums, and leaves with a wrong one
    have hrewritten := hvalid
      (fun l hl _ => by
        obtain rfl : zeroCrcLayout = l := Option.some.inj (hlayout.symm.trans hl)
        decide +kernel)
      (fun l hl => by
        obtain rfl : zeroCrcLayout = l := Option.some.inj (hlayout.symm.trans hl)
        decide +kernel)
    exact absurd (hrewritten zeroCrcLayout (by decide +kernel)) (by decide +kernel)

end TurboLaser
