import TurboLaser.Lib.Entries

/-!
# A scenario laid over the base configuration (config.rs)

`deep_merge` lays the YAML of a scenario over that of the base configuration. Two mappings are
merged key by key; anything else is replaced by the overlay. Which keys are the same is decided by
the YAML library and is an argument here, an equivalence.

A mapping of the library has each key once. The model of one is a list of entries, so that has to be
said (`Value.Keyed`), and it is kept by the merge. A list in particular is anything else: the
overlay's list replaces the base's, and nothing of the old one is left.

- `Value.get?`: the value at a path of keys;
- `get?_deepMerge`: **what stands at a path of the overlay afterwards**;
- `get?_deepMerge_base`: what the overlay does not reach stays as it was;
- `deepMerge_deepMerge`: to lay the same overlay over it again changes nothing;
- `deepMerge_overlaid`: the three together, which say what a merged configuration is, path by path.
-/

namespace TurboLaser.Config

open Lib

/-! ## Values -/

/-- `Value`, without tags; `ν` is the type of numbers. -/
inductive Value (ν : Type) where
  | null
  | bool (b : Bool)
  | number (n : ν)
  | string (s : String)
  | sequence (items : List (Value ν))
  | mapping (entries : List (Value ν × Value ν))

variable {ν : Type} [BEq (Value ν)]

mutual

/-- `deep_merge`. -/
def deepMerge : Value ν → Value ν → Value ν
  | base, .mapping layer =>
    match base with
    | .mapping map => .mapping (mergeEntries map layer)
    | _ => .mapping layer
  | _, other => other

/-- The loop of `deep_merge` over the entries of the overlay. -/
def mergeEntries :
    List (Value ν × Value ν) → List (Value ν × Value ν) → List (Value ν × Value ν)
  | map, [] => map
  | map, (k, ov) :: layer =>
    mergeEntries (upsert (fun v => deepMerge v ov) ov k map) layer

end

/-- The value at a path of keys. -/
def Value.get? : Value ν → List (Value ν) → Option (Value ν)
  | v, [] => some v
  | .mapping entries, k :: path => (entries.lookup k).bind fun v => v.get? path
  | _, _ :: _ => none

/-- A value that replaces what it is laid over. -/
def Value.isMapping : Value ν → Bool
  | .mapping _ => true
  | _ => false

/-- A value whose mappings have every key once, wherever a path of keys leads. -/
inductive Value.Keyed : Value ν → Prop
  | leaf {v : Value ν} (h : v.isMapping = false) : Keyed v
  | mapping {entries : List (Value ν × Value ν)} (distinct : DistinctKeys entries)
      (values : ∀ e ∈ entries, Keyed e.2) : Keyed (.mapping entries)

/-! ## One mapping over another -/

theorem deepMerge_mapping (map layer : List (Value ν × Value ν)) :
    deepMerge (.mapping map) (.mapping layer) = .mapping (mergeEntries map layer) := by
  rw [deepMerge]

/-- Anything but a mapping replaces what it is laid over. -/
theorem deepMerge_leaf (base : Value ν) {overlay : Value ν} (h : overlay.isMapping = false) :
    deepMerge base overlay = overlay := by
  rw [deepMerge]
  rintro layer rfl
  cases h

/-- Anything but a mapping is replaced by what is laid over it. -/
theorem deepMerge_of_leaf {base : Value ν} (h : base.isMapping = false) (overlay : Value ν) :
    deepMerge base overlay = overlay := by
  cases hlayer : overlay.isMapping with
  | false => exact deepMerge_leaf base hlayer
  | true =>
    cases overlay with
    | mapping layer =>
      rw [deepMerge]
      rintro map rfl
      cases h
    | null | bool b | number n | string s | sequence items => cases hlayer

variable [EquivBEq (Value ν)]

/-- **What stands under a key afterwards**: what the overlay has there, laid over what the base
has, or what the base has. -/
theorem lookup_mergeEntries {layer : List (Value ν × Value ν)} (hlayer : DistinctKeys layer)
    (map : List (Value ν × Value ν)) (k : Value ν) :
    (mergeEntries map layer).lookup k =
      match layer.lookup k with
      | none => map.lookup k
      | some ov => some (((map.lookup k).map fun v => deepMerge v ov).getD ov) := by
  induction layer generalizing map with
  | nil => rw [mergeEntries]; rfl
  | cons e layer ih =>
    have htail := ih (List.pairwise_cons.mp hlayer).2
    rw [mergeEntries, htail, lookup_upsert, List.lookup_cons]
    cases hk : k == e.1 with
    | true =>
      have hsame : map.lookup k = map.lookup e.1 := lookup_congr hk map
      rw [lookup_tail_of_distinctKeys hlayer hk, hsame]
      rfl
    | false => rfl

omit [EquivBEq (Value ν)] in
/-- A mapping whose entries all stand in it already, and merge to what they are, changes nothing. -/
theorem mergeEntries_absorbed {map layer : List (Value ν × Value ν)}
    (h : ∀ e ∈ layer, ∃ v, map.lookup e.1 = some v ∧ deepMerge v e.2 = v) :
    mergeEntries map layer = map := by
  induction layer with
  | nil => rw [mergeEntries]
  | cons e layer ih =>
    obtain ⟨v, hv, hself⟩ := h e List.mem_cons_self
    rw [mergeEntries, upsert_self hv hself]
    exact ih fun e' he' => h e' (List.mem_cons_of_mem _ he')

/-! ## Paths -/

omit [EquivBEq (Value ν)] in
theorem get?_mapping (entries : List (Value ν × Value ν)) (k : Value ν) (path : List (Value ν)) :
    (Value.mapping entries).get? (k :: path) =
      (entries.lookup k).bind fun v => v.get? path := by
  rw [Value.get?]

omit [EquivBEq (Value ν)] in
/-- A path of keys leads through mappings. -/
theorem exists_mapping_of_get? {v w : Value ν} {k : Value ν} {path : List (Value ν)}
    (h : v.get? (k :: path) = some w) :
    ∃ entries next, v = .mapping entries ∧ entries.lookup k = some next ∧
      next.get? path = some w := by
  cases v with
  | mapping entries =>
    rw [get?_mapping] at h
    obtain ⟨next, hnext, hw⟩ := Option.bind_eq_some_iff.mp h
    exact ⟨entries, next, rfl, hnext, hw⟩
  | null | bool b | number n | string s | sequence items => cases h

/-- **What stands at a path of the overlay afterwards**: what the overlay has there, laid over what
the base has there, if it has anything. -/
theorem get?_deepMerge {overlay ov : Value ν} (hkeyed : overlay.Keyed) (base : Value ν)
    {path : List (Value ν)} (hov : overlay.get? path = some ov) :
    (deepMerge base overlay).get? path =
      some (((base.get? path).map fun v => deepMerge v ov).getD ov) := by
  induction path generalizing base overlay with
  | nil =>
    obtain rfl := Option.some_inj.mp hov
    rfl
  | cons k path ih =>
    obtain ⟨layer, next, rfl, hnext, hrest⟩ := exists_mapping_of_get? hov
    cases hkeyed with
    | leaf h => cases h
    | mapping distinct values =>
      have hkeyed' : next.Keyed := by
        obtain ⟨e, he, rfl⟩ := mem_of_lookup hnext
        exact values e he
      cases hbase : base.isMapping with
      | false =>
        -- no path leads into a base that is replaced
        have hnone : base.get? (k :: path) = none := by
          cases base with
          | mapping map => cases hbase
          | null | bool b | number n | string s | sequence items => rfl
        rw [deepMerge_of_leaf hbase, hnone, hov]
        rfl
      | true =>
        cases base with
        | mapping map =>
          rw [deepMerge_mapping, get?_mapping, get?_mapping, lookup_mergeEntries distinct, hnext]
          cases map.lookup k with
          | none => exact hrest
          | some v => exact ih hkeyed' v hrest
        | null | bool b | number n | string s | sequence items => cases hbase

/-- **What the overlay does not reach stays as it was.** -/
theorem get?_deepMerge_base {overlay base : Value ν} (hkeyed : overlay.Keyed)
    {path : List (Value ν)} (hway : ∀ q k rest, path = q ++ k :: rest →
      (∃ map, base.get? q = some (.mapping map)) ∧ ∃ layer, overlay.get? q = some (.mapping layer))
    (habsent : overlay.get? path = none) : (deepMerge base overlay).get? path = base.get? path := by
  induction path generalizing base overlay with
  | nil => cases habsent
  | cons k path ih =>
    obtain ⟨⟨map, hmap⟩, layer, hlayer⟩ := hway [] k path rfl
    obtain rfl := Option.some_inj.mp hmap
    obtain rfl := Option.some_inj.mp hlayer
    cases hkeyed with
    | leaf h => cases h
    | mapping distinct values =>
      rw [deepMerge_mapping, get?_mapping, get?_mapping, lookup_mergeEntries distinct]
      rw [get?_mapping] at habsent
      cases hnext : layer.lookup k with
      | none => rfl
      | some ov =>
        rw [hnext, Option.bind_some] at habsent
        dsimp only
        cases hbelow : map.lookup k with
        | none =>
          -- the path goes on in the overlay, and so it would in the base
          cases path with
          | nil => cases habsent
          | cons k' path =>
            obtain ⟨⟨map', hmap'⟩, -⟩ := hway [k] k' path rfl
            rw [get?_mapping, hbelow] at hmap'
            cases hmap'
        | some v =>
          obtain ⟨e, he, rfl⟩ := mem_of_lookup hnext
          refine ih (values e he) (fun q k' rest hq => ?_) habsent
          have hboth := hway (k :: q) k' rest (by rw [hq]; rfl)
          rwa [get?_mapping, get?_mapping, hbelow, hnext, Option.bind_some, Option.bind_some]
            at hboth

/-! ## Twice -/

/-- **To lay the same overlay over it again changes nothing.** -/
theorem deepMerge_deepMerge {overlay : Value ν} (hkeyed : overlay.Keyed) (base : Value ν) :
    deepMerge (deepMerge base overlay) overlay = deepMerge base overlay := by
  induction hkeyed generalizing base with
  | leaf h => rw [deepMerge_leaf _ h, deepMerge_leaf _ h]
  | @mapping layer distinct values ih =>
    -- what stands in the merged mapping under a key of the overlay is the overlay's own value, or
    -- a value it was laid over
    have habsorbed : ∀ map, (∀ e ∈ layer, ∃ v, map.lookup e.1 = some v ∧
        (v = e.2 ∨ ∃ old, v = deepMerge old e.2)) → mergeEntries map layer = map := by
      intro map hmap
      refine mergeEntries_absorbed fun e he => ?_
      obtain ⟨v, hv, rfl | ⟨old, rfl⟩⟩ := hmap e he
      · have hnull : deepMerge .null e.2 = e.2 := deepMerge_of_leaf rfl _
        -- a value merged over nothing is itself
        have hself := ih e he .null
        rw [hnull] at hself
        exact ⟨_, hv, hself⟩
      · exact ⟨_, hv, ih e he old⟩
    cases hbase : base.isMapping with
    | false =>
      rw [deepMerge_of_leaf hbase, deepMerge_mapping]
      exact congrArg Value.mapping (habsorbed layer fun e he =>
        ⟨e.2, lookup_of_distinctKeys distinct he, .inl rfl⟩)
    | true =>
      cases base with
      | mapping map =>
        -- the second merge finds the first one's value under every key
        rw [deepMerge_mapping, deepMerge_mapping]
        refine congrArg Value.mapping (habsorbed _ fun e he => ?_)
        rw [lookup_mergeEntries distinct, lookup_of_distinctKeys distinct he]
        cases map.lookup e.1 with
        | none => exact ⟨_, rfl, .inl rfl⟩
        | some old => exact ⟨_, rfl, .inr ⟨old, rfl⟩⟩
      | null | bool b | number n | string s | sequence items => cases hbase

/-! ## The law -/

omit [EquivBEq (Value ν)] in
/-- What a path leads to has its keys once, too. -/
theorem Value.Keyed.get? {v w : Value ν} (h : v.Keyed) {path : List (Value ν)}
    (hw : v.get? path = some w) : w.Keyed := by
  induction path generalizing v with
  | nil =>
    obtain rfl := Option.some_inj.mp hw
    exact h
  | cons k path ih =>
    obtain ⟨entries, next, rfl, hnext, hrest⟩ := exists_mapping_of_get? hw
    obtain ⟨e, he, rfl⟩ := mem_of_lookup hnext
    cases h with
    | leaf h => cases h
    | mapping distinct values => exact ih (values e he) hrest

/-- Every mapping still has its keys once. -/
theorem Value.Keyed.deepMerge {base overlay : Value ν} (hbase : base.Keyed)
    (hoverlay : overlay.Keyed) : (deepMerge base overlay).Keyed := by
  induction hoverlay generalizing base with
  | leaf h =>
    rw [deepMerge_leaf base h]
    exact .leaf h
  | @mapping layer distinct values ih =>
    cases hbase with
    | leaf h =>
      rw [deepMerge_of_leaf h]
      exact .mapping distinct values
    | @mapping map distinct' values' =>
      rw [deepMerge_mapping]
      -- the loop keeps the keys of the base distinct, entry by entry
      clear distinct
      induction layer generalizing map with
      | nil =>
        rw [mergeEntries]
        exact .mapping distinct' values'
      | cons e layer iho =>
        rw [mergeEntries]
        refine iho (fun e' he' => values e' (.tail _ he')) (fun e' he' => ih e' (.tail _ he'))
          (distinct'.upsert _ _ _) fun e' he' => ?_
        rcases mem_upsert he' with hold | ⟨e'', he'', rfl⟩ | ⟨rfl, -⟩
        · exact values' e' hold
        · exact ih e List.mem_cons_self (values' e'' he'')
        · exact values e List.mem_cons_self

/-- **What a merged configuration is**, path by path. -/
structure Overlaid (base overlay merged : Value ν) : Prop where
  /-- What is no mapping in the overlay is taken from it as it is. -/
  leaf : ∀ path v, overlay.get? path = some v → v.isMapping = false → merged.get? path = some v
  /-- Two mappings are a mapping with the keys of both. -/
  union : ∀ path map layer, base.get? path = some (.mapping map) →
    overlay.get? path = some (.mapping layer) →
    ∃ entries, merged.get? path = some (.mapping entries) ∧
      ∀ k, (entries.lookup k).isSome ↔ (map.lookup k).isSome ∨ (layer.lookup k).isSome
  /-- What the overlay says nothing of is taken from the base. -/
  kept : ∀ path, (∀ q k rest, path = q ++ k :: rest → (∃ map, base.get? q = some (.mapping map)) ∧
    ∃ layer, overlay.get? q = some (.mapping layer)) → overlay.get? path = none →
    merged.get? path = base.get? path
  /-- A mapping that lies over none is taken from the overlay as it is. -/
  subtree : ∀ path layer, overlay.get? path = some (.mapping layer) →
    (∀ map, base.get? path ≠ some (.mapping map)) → merged.get? path = some (.mapping layer)

/-- **The overlay law**: what a merged configuration has at each path, of the overlay, of both, or
of the base alone; and that an overlay is laid over once. -/
theorem deepMerge_overlaid {base overlay : Value ν} (hkeyed : overlay.Keyed) :
    Overlaid base overlay (deepMerge base overlay) ∧
      deepMerge (deepMerge base overlay) overlay = deepMerge base overlay := by
  refine ⟨⟨?_, ?_, ?_, ?_⟩, deepMerge_deepMerge hkeyed base⟩
  · intro path v hv hleaf
    rw [get?_deepMerge hkeyed base hv]
    cases base.get? path with
    | none => rfl
    | some old => exact congrArg some (deepMerge_leaf old hleaf)
  · intro path map layer hmap hlayer
    -- two mappings that meet are merged; a key is looked up in the overlay first
    refine ⟨mergeEntries map layer, ?_, fun k => ?_⟩
    · rw [get?_deepMerge hkeyed base hlayer, hmap, Option.map_some, Option.getD_some,
        deepMerge_mapping]
    · have hdistinct : DistinctKeys layer := by
        cases hkeyed.get? hlayer with
        | leaf h => cases h
        | mapping distinct values => exact distinct
      rw [lookup_mergeEntries hdistinct]
      cases layer.lookup k with
      | none => simp
      | some ov => simp
  -- what the overlay has no path to is the base's
  · exact fun path hway habsent => get?_deepMerge_base hkeyed hway habsent
  · intro path layer hlayer hnone
    rw [get?_deepMerge hkeyed base hlayer]
    cases hold : base.get? path with
    | none => rfl
    | some old =>
      have hleaf : old.isMapping = false := by
        cases old with
        | mapping map => exact absurd hold (hnone map)
        | null | bool b | number n | string s | sequence items => rfl
      exact congrArg some (deepMerge_of_leaf hleaf _)

/-! ## String keys -/

/-- The text of a key that is a string. -/
def Value.text {ν : Type} : Value ν → Option String
  | .string s => some s
  | _ => none

/-- Keys that are strings are the same if their texts are. -/
instance : BEq (Value Int) := ⟨fun a b => a.text == b.text⟩

instance : EquivBEq (Value Int) where
  symm {a b} h := BEq.symm (a := a.text) (b := b.text) h
  trans {a b c} h h' := BEq.trans (a := a.text) (b := b.text) (c := c.text) h h'
  rfl {a} := BEq.refl a.text

/-- A configuration with a section and a list. -/
def siteConfig : Value Int :=
  .mapping [(.string "a", .number 1),
    (.string "b", .mapping [(.string "c", .number 2), (.string "d", .number 3)]),
    (.string "list", .sequence [.number 1, .number 2, .number 3])]

/-- A scenario that overrides a number, a part of the section and the list, and adds a number. -/
def scenarioOverlay : Value Int :=
  .mapping [(.string "a", .number 9), (.string "b", .mapping [(.string "c", .number 20)]),
    (.string "list", .sequence [.number 7]), (.string "e", .number 5)]

theorem keyed_scenarioOverlay : scenarioOverlay.Keyed := by
  refine .mapping ?_ ?_
  · unfold DistinctKeys
    decide
  · have hsection : (Value.mapping [(.string "c", .number 20)] : Value Int).Keyed :=
      .mapping (List.pairwise_singleton _ _) (List.forall_mem_singleton.mpr (.leaf rfl))
    simp only [List.forall_mem_cons]
    exact ⟨.leaf rfl, hsection, .leaf rfl, .leaf rfl, nofun⟩

/-- The scenario over the configuration. -/
theorem deepMerge_overlaid_scenario :
    Overlaid siteConfig scenarioOverlay (deepMerge siteConfig scenarioOverlay) ∧
      deepMerge (deepMerge siteConfig scenarioOverlay) scenarioOverlay =
        deepMerge siteConfig scenarioOverlay :=
  deepMerge_overlaid keyed_scenarioOverlay

example : deepMerge siteConfig scenarioOverlay =
    .mapping [(.string "a", .number 9),
      (.string "b", .mapping [(.string "c", .number 20), (.string "d", .number 3)]),
      (.string "list", .sequence [.number 7]), (.string "e", .number 5)] := rfl

end TurboLaser.Config
