import Mathlib.Data.List.Basic

/-!
# Lines and words of a text

A report that another program prints is read line by line and word by word. These are the line and
word iterators such readers are written with, and the rules by which a text that is put together
from lines and words is taken apart again.

The definitions follow the iterators of the standard library, with the corners that matter to a
reader: a carriage return goes with its newline, a text that ends in a newline has no empty last
line, and words are never empty. What counts as white space is a parameter of the words, because it
is a table of the library and none of the rules depends on it beyond the characters at hand.

- `lines`: every newline ends a line, a carriage return in front of it belongs to it, and what is
  behind the last newline is a line if it is not empty;
- `words`: the runs between white space;
- `lines_newline`, `words_cons`: **one more line, one more word**, by which a printed text is
  followed from its front;
- `Spread`: words with white space around and between them, any amount of it; `Spread.words`: **they
  are read back**;
- `trim`, `stripPrefix`: the other two things that line readers do, with the cases in which they do
  nothing.
-/

namespace TurboLaser.Lib

/-- A line without the carriage return in front of its newline. -/
def chomp (line : List Char) : List Char :=
  if line.getLast? = some '\r' then line.dropLast else line

/-- The lines of a text. -/
def lines (cs : List Char) : List (List Char) :=
  (cs.splitOn '\n').dropLast.map chomp ++ (cs.splitOn '\n').getLast?.toList.filter (· ≠ [])

section

variable (white : Char → Bool)

/-- The words of a text. -/
def words (cs : List Char) : List (List Char) := (cs.splitOnP white).filter (· ≠ [])

/-- A text without the white space at its front. -/
def trimStart (cs : List Char) : List Char := cs.dropWhile white

/-- A text without the white space at both ends. -/
def trim (cs : List Char) : List Char := ((trimStart white cs).reverse.dropWhile white).reverse

end

/-- What is behind a prefix. -/
def stripPrefix (start cs : List Char) : Option (List Char) :=
  if start <+: cs then some (cs.drop start.length) else none

/-! ## One more line, one more word -/

/-- **A newline ends a line.** -/
theorem lines_newline {line : List Char} (hline : '\n' ∉ line) (rest : List Char) :
    lines (line ++ '\n' :: rest) = chomp line :: lines rest := by
  have hrest := List.splitOn_ne_nil '\n' rest
  unfold lines
  rw [List.splitOn_append_cons_self_of_not_mem hline, List.dropLast_cons_of_ne_nil hrest,
    List.getLast?_cons_of_ne_nil hrest, List.map_cons, List.cons_append]

/-- Whole lines in front of a text. -/
theorem lines_flatMap_newline {before : List (List Char)} (hbefore : ∀ l ∈ before, '\n' ∉ l)
    (rest : List Char) :
    lines (before.flatMap (· ++ ['\n']) ++ rest) = before.map chomp ++ lines rest := by
  induction before with
  | nil => rfl
  | cons l before ih =>
    have hlines := lines_newline (hbefore l List.mem_cons_self)
      (before.flatMap (· ++ ['\n']) ++ rest)
    rw [ih fun l' hl' => hbefore l' (List.mem_cons_of_mem _ hl')] at hlines
    rw [List.flatMap_cons, List.append_assoc, List.append_assoc, List.singleton_append]
    exact hlines

/-- A line without a carriage return is left as it is. -/
theorem chomp_of_getLast {line : List Char} (h : line.getLast? ≠ some '\r') : chomp line = line :=
  if_neg h

variable {white : Char → Bool}

/-- **A word, up to the white space behind it.** -/
theorem words_cons {w : List Char} (hne : w ≠ []) (hw : ∀ c ∈ w, white c = false) {c : Char}
    (hc : white c = true) (rest : List Char) :
    words white (w ++ c :: rest) = w :: words white rest := by
  rw [words, List.splitOnP_append_cons_of_forall_mem hw c hc, List.filter_cons_of_pos (by simpa)]
  rfl

/-- White space between words is no word. -/
theorem words_white {c : Char} (hc : white c = true) (rest : List Char) :
    words white (c :: rest) = words white rest := by
  have hsplit := @List.splitOnP_append_cons_of_forall_mem _ white [] nofun c hc rest
  rw [List.nil_append] at hsplit
  rw [words, hsplit, List.filter_cons_of_neg (by simp)]
  rfl

/-- The last word. -/
theorem words_last {w : List Char} (hne : w ≠ []) (hw : ∀ c ∈ w, white c = false) :
    words white w = [w] := by
  rw [words, List.splitOnP_eq_singleton hw, List.filter_cons_of_pos (by simpa), List.filter_nil]

/-- Words, with white space around and between them. -/
inductive Spread (white : Char → Bool) : List (List Char) → List Char → Prop
  | blank : Spread white [] []
  | white {c ws cs} (hc : white c = true) (h : Spread white ws cs) : Spread white ws (c :: cs)
  | word {w c ws cs} (hne : w ≠ []) (hw : ∀ c ∈ w, white c = false) (hc : white c = true)
      (h : Spread white ws cs) : Spread white (w :: ws) (w ++ c :: cs)
  | last {w} (hne : w ≠ []) (hw : ∀ c ∈ w, white c = false) : Spread white [w] w

/-- **Words that were spread over a text are its words.** -/
theorem Spread.words {ws : List (List Char)} {cs : List Char} (h : Spread white ws cs) :
    words white cs = ws := by
  induction h with
  | blank => rfl
  | white hc _ ih => rw [words_white hc, ih]
  | word hne hw hc _ ih => rw [words_cons hne hw hc, ih]
  | last hne hw => exact words_last hne hw

/-- A text that does not begin with white space is left as it is. -/
theorem trimStart_of_head {cs : List Char} (h : ∀ c ∈ cs.head?, white c = false) :
    trimStart white cs = cs := by
  cases cs with
  | nil => rfl
  | cons c cs => exact List.dropWhile_cons_of_neg (by simpa using h c rfl)

/-- A text that neither begins nor ends with white space is trimmed already. -/
theorem trim_of_ends {cs : List Char} (hhead : ∀ c ∈ cs.head?, white c = false)
    (hlast : ∀ c ∈ cs.getLast?, white c = false) : trim white cs = cs := by
  have hreverse : ∀ c ∈ cs.reverse.head?, white c = false := by
    rwa [List.head?_reverse]
  rw [trim, trimStart_of_head hhead]
  exact (congrArg List.reverse (trimStart_of_head hreverse)).trans (List.reverse_reverse cs)

/-- Trimming the end as well takes nothing from the front. -/
theorem trim_isPrefix_trimStart (cs : List Char) : trim white cs <+: trimStart white cs := by
  have hsuffix := List.dropWhile_suffix (l := (trimStart white cs).reverse) white
  rw [← List.reverse_prefix, List.reverse_reverse] at hsuffix
  exact hsuffix

/-- Nothing is stripped from a text that begins otherwise. -/
theorem stripPrefix_eq_none {start cs : List Char} (h : ¬ start <+: cs) :
    stripPrefix start cs = none :=
  if_neg h

/-- What is behind the prefix. -/
theorem stripPrefix_append (start rest : List Char) :
    stripPrefix start (start ++ rest) = some rest := by
  rw [stripPrefix, if_pos (List.prefix_append start rest), List.drop_left]

end TurboLaser.Lib
