import Mathlib.Data.List.Basic

/-!
# Paths as texts

A path is a text of segments between slashes. A slash in front stands for the root and a leading dot
for the directory one is in; any other empty segment or dot stands for nothing, and two dots for the
parent. Two texts are the same path when they have the same components.

That is how the standard library of a systems language reads paths on a Unix, and a program that
checks a path checks its components. Whether such a check keeps the program in a directory is then a
question about texts: what the components of a joined path are, what those of a parent are, and
where a list of components leads. The file system itself does not come in, so links are not
followed; a caller that cares about links canonicalizes first.

- `components`: what a path says; `join`, `parent`: the paths made of a path;
- `components_join`: **the components of a joined path are those of both**, unless the second is
  absolute, when it replaces the first;
- `components_parent`: **the parent has all components but the last**; the path is written from its
  components, so this rests on `components_ofComponents`, that a path with given components has
  them;
- `walk`: where a path leads from a directory, when directories are no links;
- `walk_names`: **a path of names leads down**, to a place below where it started.
-/

namespace TurboLaser.Lib

/-- A step of a path. -/
inductive Component where
  | root
  | here
  | up
  | name (text : List Char)
deriving DecidableEq

namespace Path

/-- What a segment stands for. -/
def segment : List Char → Option Component
  | [] => none
  | ['.'] => none
  | ['.', '.'] => some .up
  | text => some (.name text)

/-- The path begins at the root. -/
def isAbsolute (p : List Char) : Bool := p.head? == some '/'

/-- The path begins with the directory one is in. -/
def startsHere (p : List Char) : Bool := (p.splitOn '/').head? == some ['.']

/-- The beginning of a path. -/
def front (p : List Char) : List Component :=
  if isAbsolute p then [.root] else if startsHere p then [.here] else []

/-- The steps of a path behind its beginning. -/
def steps (p : List Char) : List Component := (p.splitOn '/').filterMap segment

/-- The components of a path. -/
def components (p : List Char) : List Component := front p ++ steps p

/-- One path behind another; an absolute one replaces it. -/
def join (a b : List Char) : List Char :=
  if isAbsolute b then b
  else if a.getLast?.any (· != '/') then a ++ '/' :: b
  else a ++ b

/-- The segment a component is written as. -/
def text : Component → List Char
  | .root => []
  | .here => ['.']
  | .up => ['.', '.']
  | .name text => text

/-- A path with the given components. -/
def ofComponents (cs : List Component) : List Char :=
  if cs = [.root] then ['/'] else ['/'].intercalate (cs.map text)

/-- The path without its last component, unless that is the root. -/
def parent (p : List Char) : Option (List Char) :=
  match (components p).getLast? with
  | none => none
  | some .root => none
  | some _ => some (ofComponents (components p).dropLast)

/-- Where the components lead from a directory. -/
def walk (cwd : List (List Char)) : List Component → List (List Char)
  | [] => cwd
  | .root :: cs => walk [] cs
  | .here :: cs => walk cwd cs
  | .up :: cs => walk cwd.dropLast cs
  | .name text :: cs => walk (cwd ++ [text]) cs

/-! ## Segments -/

/-- A segment is the text of what it stands for. -/
theorem text_of_segment {t : List Char} {c : Component} (h : segment t = some c) : t = text c := by
  unfold segment at h
  split at h
  · cases h
  · cases h
  · cases h
    rfl
  · cases h
    rfl

/-- The parts of a split text do not contain the separator. -/
theorem not_mem_of_mem_splitOn {p t : List Char} (h : t ∈ p.splitOn '/') : '/' ∉ t := by
  induction p generalizing t with
  | nil =>
    rw [List.splitOn_nil, List.mem_singleton] at h
    rw [h]
    exact List.not_mem_nil
  | cons c p ih =>
    obtain ⟨first, rest, hsplit⟩ := List.exists_cons_of_ne_nil (List.splitOn_ne_nil '/' p)
    rw [hsplit] at ih
    rw [List.splitOn_cons_eq_if_modifyHead, hsplit] at h
    split at h
    · rcases List.mem_cons.mp h with rfl | h
      · exact List.not_mem_nil
      · exact ih h
    · next hc =>
      rw [List.modifyHead_cons] at h
      rcases List.mem_cons.mp h with rfl | h
      · intro hmem
        rcases List.mem_cons.mp hmem with heq | hmem
        · exact hc (by rw [← heq]; rfl)
        · exact ih List.mem_cons_self hmem
      · exact ih (List.mem_cons_of_mem _ h)

/-- A component behind the beginning of a path. -/
def IsStep (c : Component) : Prop := '/' ∉ text c ∧ segment (text c) = some c

/-- What stands behind the beginning of a path is a step: it has a text without slashes that reads
as it. -/
theorem isStep_of_mem_steps {p : List Char} {c : Component} (h : c ∈ steps p) : IsStep c := by
  obtain ⟨t, ht, hseg⟩ := List.mem_filterMap.mp h
  have htext : t = text c := text_of_segment hseg
  exact ⟨htext ▸ not_mem_of_mem_splitOn ht, htext ▸ hseg⟩

/-! ## Joined paths -/

/-- A slash parts the steps. -/
theorem steps_append_slash (a b : List Char) : steps (a ++ '/' :: b) = steps a ++ steps b := by
  unfold steps
  rw [List.splitOn_append_cons_self, List.filterMap_append]

/-- A text without slashes is one segment. -/
theorem steps_segment {t : List Char} (h : '/' ∉ t) : steps t = (segment t).toList := by
  unfold steps
  rw [List.splitOn_eq_singleton h]
  cases hs : segment t with
  | none =>
    rw [List.filterMap_cons_none hs]
    rfl
  | some c =>
    rw [List.filterMap_cons_some hs]
    rfl

/-- Behind a slash the beginning of a path is settled. -/
theorem front_append_slash (a b c : List Char) : front (a ++ '/' :: b) = front (a ++ '/' :: c) := by
  have hhead : ∀ b : List Char, ((a ++ '/' :: b).splitOn '/').head? = (a.splitOn '/').head? := by
    intro b
    rw [List.splitOn_append_cons_self, List.head?_append_of_ne_nil _ (List.splitOn_ne_nil '/' a)]
  have habs : ∀ b : List Char, isAbsolute (a ++ '/' :: b) = (a == [] || isAbsolute a) := by
    intro b
    cases a <;> rfl
  unfold front startsHere
  rw [habs, habs, hhead, hhead]

/-- A slash at its end leaves the beginning of a path alone. -/
theorem front_slash {a : List Char} (ha : a ≠ []) (b : List Char) :
    front (a ++ '/' :: b) = front a := by
  obtain ⟨c, rest, rfl⟩ := List.exists_cons_of_ne_nil ha
  unfold front startsHere
  rw [List.splitOn_append_cons_self, List.head?_append_of_ne_nil _ (List.splitOn_ne_nil '/' _)]
  rfl

/-- **The components of a joined path are those of both.** A dot at the beginning of the second one
stands for nothing, unless the first is empty. -/
theorem components_join {a b : List Char} (h : isAbsolute b = false) :
    components (join a b) = if a = [] then components b else components a ++ steps b := by
  unfold join
  rw [if_neg (ne_true_of_eq_false h)]
  rcases List.eq_nil_or_concat a with rfl | ⟨init, c, rfl⟩
  · rfl
  · have hne : init ++ [c] ≠ [] := List.append_ne_nil_of_right_ne_nil init (List.cons_ne_nil c [])
    rw [List.concat_eq_append, if_neg hne, List.getLast?_append, List.getLast?_singleton]
    unfold components
    by_cases hc : c = '/'
    · subst hc
      rw [if_neg (by simp), List.append_assoc, List.singleton_append, front_append_slash init b [],
        steps_append_slash, steps_append_slash, List.append_assoc, show steps [] = [] from rfl,
        List.append_nil]
    · rw [if_pos (by simpa using hc), front_slash hne, steps_append_slash, List.append_assoc]

/-! ## The parent

A path is written by its components, and the components of a path are of few forms: a root in front
or not, and a leading dot or not. The parent drops the last component and writes the rest. That the
rest is read back needs a case for each form, as a root alone has no parent and a single name has
the empty one.
-/

/-- A step is written as something. -/
theorem text_ne_nil {c : Component} (h : IsStep c) : text c ≠ [] := by
  intro hnil
  have := h.2
  rw [hnil] at this
  cases this

/-- A step is not written as a dot. -/
theorem text_ne_here {c : Component} (h : IsStep c) : text c ≠ ['.'] := by
  intro hhere
  have := h.2
  rw [hhere] at this
  cases this

/-- What is written is read, behind the beginning. -/
theorem filterMap_text {cs : List Component} (h : ∀ c ∈ cs, IsStep c) :
    (cs.map text).filterMap segment = cs := by
  rw [List.filterMap_map]
  induction cs with
  | nil => rfl
  | cons c cs ih =>
    have hc : (segment ∘ text) c = some c := (h c List.mem_cons_self).2
    rw [List.filterMap_cons_some hc, ih fun c hc => h c (List.mem_cons_of_mem _ hc)]

/-- The components that a path can have. -/
inductive Spelled : List Component → Prop
  | relative {cs : List Component} (h : ∀ c ∈ cs, IsStep c) : Spelled cs
  | absolute {cs : List Component} (h : ∀ c ∈ cs, IsStep c) : Spelled (.root :: cs)
  | here {cs : List Component} (h : ∀ c ∈ cs, IsStep c) : Spelled (.here :: cs)

/-- The components of a path are of one of the three forms. -/
theorem spelled_components (p : List Char) : Spelled (components p) := by
  have hsteps : ∀ c ∈ steps p, IsStep c := fun c hc => isStep_of_mem_steps hc
  unfold components front
  split
  · exact .absolute hsteps
  · split
    · exact .here hsteps
    · exact .relative hsteps

/-- So are they without the last. -/
theorem Spelled.dropLast {cs : List Component} (h : Spelled cs) : Spelled cs.dropLast := by
  have hsub : ∀ cs : List Component, (∀ c ∈ cs, IsStep c) → ∀ c ∈ cs.dropLast, IsStep c :=
    fun cs h c hc => h c ((List.dropLast_sublist cs).subset hc)
  cases h with
  | relative h => exact .relative (hsub _ h)
  | @absolute cs h =>
    cases cs with
    | nil => exact .relative (fun c hc => absurd hc List.not_mem_nil)
    | cons c cs => exact .absolute (hsub _ h)
  | @here cs h =>
    cases cs with
    | nil => exact .relative (fun c hc => absurd hc List.not_mem_nil)
    | cons c cs => exact .here (hsub _ h)

/-- The first segment of an absolute path is empty. -/
theorem head_of_isAbsolute {p : List Char} (h : isAbsolute p = true) :
    (p.splitOn '/').head? = some [] := by
  cases p with
  | nil => cases h
  | cons c p =>
    obtain rfl : c = '/' := Option.some.inj (eq_of_beq h)
    rw [show '/' :: p = [] ++ '/' :: p from rfl, List.splitOn_append_cons_self]
    rfl

/-- Parts between slashes are the segments. -/
theorem splitOn_ofComponents {cs : List Component} (h : Spelled cs) (hne : cs ≠ []) :
    (['/'].intercalate (cs.map text)).splitOn '/' = cs.map text := by
  have hslash : ∀ cs : List Component, (∀ c ∈ cs, IsStep c) → ∀ t ∈ cs.map text, '/' ∉ t := by
    intro cs h t ht
    obtain ⟨c, hc, rfl⟩ := List.mem_map.mp ht
    exact (h c hc).1
  refine List.splitOn_intercalate '/' ?_ fun hnil => hne (List.map_eq_nil_iff.mp hnil)
  cases h with
  | relative h => exact hslash _ h
  | absolute h => exact List.forall_mem_cons.mpr ⟨List.not_mem_nil, hslash _ h⟩
  | here h => exact List.forall_mem_cons.mpr ⟨by decide, hslash _ h⟩

/-- **A path with given components has them.** -/
theorem components_ofComponents {cs : List Component} (h : Spelled cs) :
    components (ofComponents cs) = cs := by
  by_cases hroot : cs = [.root]
  · rw [hroot]
    rfl
  by_cases hne : cs = []
  · rw [hne]
    rfl
  -- what is split at the slashes are the texts of the components
  have hsplit := splitOn_ofComponents h hne
  unfold ofComponents
  rw [if_neg hroot]
  generalize hp : ['/'].intercalate (cs.map text) = p at hsplit ⊢
  unfold components front steps
  cases h with
  | relative h =>
    obtain ⟨c, rest, rfl⟩ := List.exists_cons_of_ne_nil hne
    have hc := h c List.mem_cons_self
    have hhead : (p.splitOn '/').head? = some (text c) := by
      rw [hsplit]
      rfl
    rw [if_neg, if_neg, hsplit, filterMap_text h, List.nil_append]
    · unfold startsHere
      rw [hhead]
      exact fun hhere => text_ne_here hc (Option.some.inj (eq_of_beq hhere))
    · intro habs
      exact text_ne_nil hc (Option.some.inj (hhead.symm.trans (head_of_isAbsolute habs)))
  | @absolute cs h =>
    have hcs : cs ≠ [] := fun hnil => hroot (by rw [hnil])
    obtain ⟨c, rest, rfl⟩ := List.exists_cons_of_ne_nil hcs
    have habs : isAbsolute p = true := by
      rw [← hp, List.map_cons, List.map_cons, List.intercalate_cons_cons]
      rfl
    rw [if_pos habs, hsplit, List.map_cons, List.filterMap_cons_none rfl, filterMap_text h]
    rfl
  | @here cs h =>
    have hhead : (p.splitOn '/').head? = some ['.'] := by
      rw [hsplit]
      rfl
    have hhere : startsHere p = true := by
      unfold startsHere
      rw [hhead]
      rfl
    rw [if_neg, if_pos hhere, hsplit, List.map_cons, List.filterMap_cons_none rfl,
      filterMap_text h]
    · rfl
    · intro habs
      cases hhead.symm.trans (head_of_isAbsolute habs)

/-- **The parent has all components but the last.** -/
theorem components_parent {p d : List Char} (h : parent p = some d) :
    components d = (components p).dropLast := by
  unfold parent at h
  split at h
  · cases h
  · cases h
  · rw [← Option.some.inj h, components_ofComponents (spelled_components p).dropLast]

/-- A root is the last component only of the path that is the root. -/
theorem dropLast_of_root {p : List Char} (h : (components p).getLast? = some .root) :
    (components p).dropLast = [] := by
  have hstep : ∀ cs : List Component, (∀ c ∈ cs, IsStep c) → cs.getLast? ≠ some .root := by
    intro cs hcs hlast
    exact absurd (hcs _ (List.mem_of_getLast? hlast)).2 (by decide)
  -- a root stands at the beginning or nowhere
  have hspelled := spelled_components p
  generalize components p = all at h hspelled
  -- behind its beginning a path has no root, so a last one is the beginning
  have hbegin : ∀ (c : Component) (cs : List Component), (∀ c ∈ cs, IsStep c) →
      (c :: cs).getLast? = some .root → (c :: cs).dropLast = [] := by
    intro c cs hcs hlast
    cases cs with
    | nil => rfl
    | cons d cs =>
      rw [List.getLast?_cons_cons] at hlast
      exact absurd hlast (hstep _ hcs)
  cases hspelled with
  | relative hcs => exact absurd h (hstep _ hcs)
  | absolute hcs => exact hbegin _ _ hcs h
  | here hcs => exact hbegin _ _ hcs h

/-! ## Walks -/

/-- A walk may be followed in two pieces. -/
theorem walk_append (cwd : List (List Char)) (cs cs' : List Component) :
    walk cwd (cs ++ cs') = walk (walk cwd cs) cs' := by
  induction cs generalizing cwd with
  | nil => rfl
  | cons c cs ih => cases c <;> exact ih _

/-- **Names lead down.** -/
theorem walk_names (cwd names : List (List Char)) :
    walk cwd (names.map .name) = cwd ++ names := by
  induction names generalizing cwd with
  | nil => exact (List.append_nil cwd).symm
  | cons n names ih =>
    rw [List.map_cons]
    show walk (cwd ++ [n]) (names.map .name) = cwd ++ n :: names
    rw [ih, List.append_assoc, List.singleton_append]

end Path

end TurboLaser.Lib
