import TurboLaser.Lib.Parted
import TurboLaser.Simulate.Bom

/-!
# What a hostname gives away (simulate/bom.rs)

`hostname_for` writes a name from a vendor, an asset class, the index of a zone and the index of a
device in it, and puts the domain of the zone behind it. Read backwards:

- `pad2_inj`: a padded index is the index, also from 100 on;
- `hostParts`: the parts of the host, which no dash and no dot is in;
- `hostParts_inj`: the parts give class, zone index and device index back;
- `hostnameFor_eq_iff`: **two names agree exactly if zone, class and domain do, and the device index
  unless the class is one the name has no index for.** The vendor counts for controllers only, and
  only by the style it has.

A name is a text, so this is unique reading: the host ends at the first dot, since none of its parts
has one, and it falls into its parts at the dashes. A domain may have dots and dashes of its own; it
is compared as a whole.
-/

namespace TurboLaser

open Lib

/-! ## Indices -/

theorem toList_pad2 (n : Nat) :
    (pad2 n).toList = (if n < 10 then ['0'] else []) ++ Nat.toDigits 10 n := by
  unfold pad2
  split <;> simp

/-- A leading zero does not change the number. -/
theorem ofDigitChars_pad2 (n : Nat) : Nat.ofDigitChars 10 (pad2 n).toList 0 = n := by
  rw [toList_pad2, Nat.ofDigitChars_append]
  split <;> simp [Nat.ofDigitChars_cons]

/-- **An index is read back from its text.** -/
theorem pad2_inj {m n : Nat} : pad2 m = pad2 n ↔ m = n := by
  constructor
  · intro h
    rw [← ofDigitChars_pad2 m, h, ofDigitChars_pad2]
  · rintro rfl
    rfl

/-- An index is written with digits. -/
theorem isDigit_of_mem_pad2 {n : Nat} {c : Char} (h : c ∈ (pad2 n).toList) : c.isDigit := by
  rw [toList_pad2, List.mem_append] at h
  rcases h with hzero | hdigit
  · have : c = '0' := by
      split at hzero
      · simpa using hzero
      · simp at hzero
    subst this
    decide
  · exact Nat.isDigit_of_mem_toDigits (by decide) (by decide) hdigit

/-! ## Hosts

A name is put together from tokens with dashes between them, and none of the tokens has a dash. So a
name is taken apart in one way, and two names agree exactly if all of their parts do. A domain is
compared as it is written into the name, since two domains can be written alike.
-/

namespace AssetType

/-- A name of the class has no device index: one per zone is expected. -/
def perZone : AssetType → Bool
  | firewall | historian => true
  | _ => false

theorem hostToken_inj {t t' : AssetType} : t.hostToken = t'.hostToken ↔ t = t' := by
  constructor
  · intro h
    cases t <;> cases t' <;> first | rfl | exact absurd h (by decide)
  · rintro rfl
    rfl

end AssetType

/-- The parts of a host, which dashes stand between. -/
def hostParts (vendor : Option String) (t : AssetType) (areaIdx devIdx : Nat) : List String :=
  if t = .controller then
    [(vendorStyle vendor).1, pad2 (areaIdx + 1), (vendorStyle vendor).2, pad2 (devIdx + 1)]
  else
    t.hostToken :: pad2 (areaIdx + 1) :: if t.perZone then [] else [pad2 (devIdx + 1)]

/-- What is put behind the host: nothing for a domain without a letter. -/
def domainSuffix (domain : Option String) : String :=
  domain.elim "" fun d => if d = "" then "" else "." ++ d

/-- A name is its parts, with dashes between them, and the domain behind. -/
theorem toList_hostnameFor (vendor : Option String) (t : AssetType) (areaIdx devIdx : Nat)
    (domain : Option String) :
    (hostnameFor vendor t areaIdx devIdx domain).toList =
      ['-'].intercalate ((hostParts vendor t areaIdx devIdx).map String.toList) ++
        (domainSuffix domain).toList := by
  have hhost : hostnameFor vendor t areaIdx devIdx domain =
      hostnameFor vendor t areaIdx devIdx none ++ domainSuffix domain := by
    cases domain with
    | none => simp [domainSuffix]
    | some d =>
      by_cases hd : d = ""
      · simp [hostnameFor, domainSuffix, hd]
      · simp [hostnameFor, domainSuffix, hd, String.append_assoc]
  rw [hhost, String.toList_append]
  congr 1
  cases t <;> simp [hostnameFor, hostParts, AssetType.perZone, AssetType.hostToken]

/-- Letters and digits only. -/
def Plain (s : String) : Prop := s.toList.all Char.isAlphanum = true

theorem plain_pad2 (n : Nat) : Plain (pad2 n) := by
  refine List.all_eq_true.mpr fun c hc => ?_
  rw [Char.isAlphanum, isDigit_of_mem_pad2 hc, Bool.or_true]

theorem plain_vendorStyle (vendor : Option String) :
    Plain (vendorStyle vendor).1 ∧ Plain (vendorStyle vendor).2 := by
  unfold vendorStyle Plain
  dsimp only
  repeat' split
  all_goals exact ⟨by decide, by decide⟩

theorem plain_hostToken (t : AssetType) : Plain t.hostToken := by
  unfold Plain
  cases t <;> decide

theorem plain_hostParts (vendor : Option String) (t : AssetType) (areaIdx devIdx : Nat) :
    ∀ p ∈ hostParts vendor t areaIdx devIdx, Plain p := by
  obtain ⟨hhead, htoken⟩ := plain_vendorStyle vendor
  unfold hostParts
  split
  · simp [hhead, htoken, plain_pad2]
  · split <;> simp [plain_hostToken, plain_pad2]

/-- A letter that is neither stands in no part. -/
theorem not_mem_hostParts {x : Char} (hx : x.isAlphanum = false) (vendor : Option String)
    (t : AssetType) (areaIdx devIdx : Nat) :
    ∀ p ∈ (hostParts vendor t areaIdx devIdx).map String.toList, x ∉ p := by
  intro p hp hmem
  obtain ⟨text, htext, rfl⟩ := List.mem_map.mp hp
  rw [List.all_eq_true.mp (plain_hostParts vendor t areaIdx devIdx text htext) x hmem] at hx
  cases hx

theorem hostParts_ne_nil (vendor : Option String) (t : AssetType) (areaIdx devIdx : Nat) :
    (hostParts vendor t areaIdx devIdx).map String.toList ≠ [] := by
  unfold hostParts
  split <;> simp

/-- **The parts of a host give its class, zone and device index.** -/
theorem hostParts_inj {vendor vendor' : Option String} {t t' : AssetType} {i i' n n' : Nat} :
    hostParts vendor t i n = hostParts vendor' t' i' n' ↔
      t = t' ∧ i = i' ∧ (t.perZone = false → n = n') ∧
        (t = .controller → vendorStyle vendor = vendorStyle vendor') := by
  -- a controller has a part more than the others, for the style of its vendor
  by_cases ht : t = .controller
  · subst ht
    by_cases ht' : t' = .controller
    · subst ht'
      simp [hostParts, pad2_inj, AssetType.perZone, Prod.ext_iff]
      tauto
    · -- four parts and at most three
      refine iff_of_false (fun h => ?_) fun h => ht' h.1.symm
      have hlen := congrArg List.length h
      rw [hostParts, hostParts, if_pos rfl, if_neg ht'] at hlen
      split at hlen <;> simp at hlen
  · by_cases ht' : t' = .controller
    · refine iff_of_false (fun h => ?_) fun h => ht (h.1.trans ht')
      have hlen := congrArg List.length h
      rw [hostParts, hostParts, if_neg ht, if_pos ht'] at hlen
      split at hlen <;> simp at hlen
    · rw [hostParts, hostParts, if_neg ht, if_neg ht', List.cons.injEq, List.cons.injEq,
        AssetType.hostToken_inj, pad2_inj, Nat.succ_inj]
      by_cases hsame : t = t'
      · subst hsame
        cases hper : t.perZone <;> simp [ht, pad2_inj]
      · simp [hsame]

/-- **Two names agree exactly if** their domains are written the same, and so are their zones
and classes, and their device indices where the class has one. -/
theorem hostnameFor_eq_iff {vendor vendor' : Option String} {t t' : AssetType} {i i' n n' : Nat}
    {domain domain' : Option String} :
    hostnameFor vendor t i n domain = hostnameFor vendor' t' i' n' domain' ↔
      domainSuffix domain = domainSuffix domain' ∧ t = t' ∧ i = i' ∧
        (t.perZone = false → n = n') ∧
        (t = .controller → vendorStyle vendor = vendorStyle vendor') := by
  have hdot (domain : Option String) : ∀ a ∈ (domainSuffix domain).toList.head?, a = '.' := by
    intro a ha
    cases domain with
    | none => simp [domainSuffix] at ha
    | some d =>
      by_cases hd : d = ""
      · simp [domainSuffix, hd] at ha
      · simp [domainSuffix, hd] at ha
        exact ha.symm
  rw [← String.toList_inj, toList_hostnameFor, toList_hostnameFor,
    append_inj_of_sep (not_mem_intercalate (by decide) (not_mem_hostParts (by decide) _ _ _ _))
      (not_mem_intercalate (by decide) (not_mem_hostParts (by decide) _ _ _ _)) (hdot _) (hdot _),
    intercalate_inj (hostParts_ne_nil _ _ _ _) (hostParts_ne_nil _ _ _ _)
      (not_mem_hostParts (by decide) _ _ _ _) (not_mem_hostParts (by decide) _ _ _ _),
    List.map_inj_right fun _ _ => String.toList_inj.mp, hostParts_inj, String.toList_inj]
  tauto

end TurboLaser
