import Placement.Proofs.LinePlace
import Placement.Proofs.Slices

/-!
Line breaks as words that a search from left to right meets; a pair of a carriage return and a line feed is
tried before its halves. The line table tells where the words met end, and the lines of a text are what
stands between them.
-/

namespace Placement.Text

variable {c : Char} {rest text word : Text} {offset : Nat}

structure Pattern where
  words : List Text
  words_ne_nil : ∀ word ∈ words, word ≠ []

namespace Pattern

variable {pattern : Pattern}

def wordAt? (pattern : Pattern) (text : Text) : Option Text :=
  pattern.words.find? fun word => word.isPrefixOf text

theorem length_pos_of_wordAt? (found : pattern.wordAt? text = some word) : 0 < word.length :=
  List.length_pos_iff.2 (pattern.words_ne_nil word (List.mem_of_find?_eq_some found))

/-- Ranges of the words met from an offset on, from left to right. A word that is met is passed over as a
whole. -/
def search (pattern : Pattern) (text : Text) (offset : Nat) : List (Nat × Nat) :=
  if offset < text.length then
    match found : pattern.wordAt? (text.drop offset) with
    | none => pattern.search text (offset + 1)
    | some word => (offset, offset + word.length) :: pattern.search text (offset + word.length)
  else []
termination_by text.length - offset
decreasing_by
  · omega
  · have := length_pos_of_wordAt? found
    omega

theorem le_of_mem_search (pattern : Pattern) (text : Text) (offset : Nat) :
    ∀ range ∈ pattern.search text offset, offset ≤ range.1 := by
  fun_induction search pattern text offset with
  | case1 offset inside none ih =>
      intro range member
      have := ih range member
      omega
  | case2 offset inside word found ih =>
      intro range member
      rcases List.mem_cons.1 member with rfl | later
      · exact Nat.le_refl _
      · have := ih range later
        omega
  | case3 => simp

theorem search_of_none (standing : text.drop offset = c :: rest)
    (none : pattern.wordAt? (c :: rest) = none) :
    pattern.search text offset = pattern.search text (offset + 1) := by
  rw [search, if_pos (lt_length_of_drop standing)]
  split
  next => rfl
  next word found => cases (standing ▸ found).symm.trans none

theorem search_of_some (standing : text.drop offset = c :: rest)
    (found : pattern.wordAt? (c :: rest) = some word) :
    pattern.search text offset =
      (offset, offset + word.length) :: pattern.search text (offset + word.length) := by
  rw [search, if_pos (lt_length_of_drop standing)]
  split
  next none => cases (standing ▸ none).symm.trans found
  next other foundOther =>
    cases (standing ▸ foundOther).symm.trans found
    rfl

theorem search_of_nil (ended : text.drop offset = []) : pattern.search text offset = [] := by
  rw [search, if_neg]
  have beyond := List.drop_eq_nil_iff.1 ended
  omega

def between (text : Text) : Nat → List (Nat × Nat) → List Text
  | start, [] => [text.drop start]
  | start, (first, past) :: later => text.slice start first :: between text past later

def split (pattern : Pattern) (text : Text) : List Text :=
  between text 0 (pattern.search text 0)

end Pattern

open Pattern

def lineBreaks : Pattern where
  words := [['\r', '\n'], ['\r'], ['\n'], ['\u2028'], ['\u2029']]
  words_ne_nil := by decide

theorem wordAt?_pair (rest : Text) :
    lineBreaks.wordAt? ('\r' :: '\n' :: rest) = some ['\r', '\n'] := by
  simp [wordAt?, lineBreaks]

theorem wordAt?_single (single : ∀ later, c = '\r' → rest = '\n' :: later → False) :
    lineBreaks.wordAt? (c :: rest) = if isLineBreak c then some [c] else none := by
  have unpaired : ['\r', '\n'].isPrefixOf (c :: rest) = false := by
    rw [Bool.eq_false_iff]
    intro paired
    obtain ⟨later, same⟩ := List.isPrefixOf_iff_prefix.1 paired
    cases same
    exact single later rfl rfl
  by_cases ends : isLineBreak c = true
  · rw [if_pos ends]
    simp only [isLineBreak, Bool.or_eq_true, beq_iff_eq] at ends
    rw [wordAt?, lineBreaks, List.find?_cons_of_neg (by simp [unpaired])]
    rcases ends with ((rfl | rfl) | rfl) | rfl <;> rfl
  · rw [if_neg ends]
    simp only [isLineBreak, Bool.or_eq_true, beq_iff_eq, not_or] at ends
    obtain ⟨⟨⟨notFeed, notReturn⟩, notLine⟩, notParagraph⟩ := ends
    rw [wordAt?, List.find?_eq_none]
    simp [lineBreaks, Ne.symm notFeed, Ne.symm notReturn, Ne.symm notLine, Ne.symm notParagraph]

theorem map_snd_search (standing : text.drop offset = rest) :
    (lineBreaks.search text offset).map Prod.snd = breakEnds offset rest := by
  fun_induction breakEnds offset rest with
  | case1 offset => rw [search_of_nil standing, List.map_nil]
  | case2 offset rest ih =>
      rw [search_of_some standing (wordAt?_pair rest), List.map_cons,
        ← ih (drop_succ (drop_succ standing))]
      rfl
  | case3 offset c rest single ends ih =>
      have found := wordAt?_single single
      rw [if_pos ends] at found
      rw [search_of_some standing found, List.map_cons, ← ih (drop_succ standing)]
      rfl
  | case4 offset c rest single plain ih =>
      have none := wordAt?_single single
      rw [if_neg plain] at none
      rw [search_of_none standing none]
      exact ih (drop_succ standing)

theorem between_of_drop (standing : text.drop offset = c :: rest) {ranges : List (Nat × Nat)}
    (later : ∀ range ∈ ranges, offset < range.1) {line : Text} {lines : List Text}
    (cut : between text (offset + 1) ranges = line :: lines) :
    between text offset ranges = (c :: line) :: lines := by
  cases ranges with
  | nil =>
      rw [between, drop_succ standing] at cut
      rw [between, standing]
      cases cut
      rfl
  | cons range ranges =>
      rw [between] at cut
      rw [between, slice_of_drop standing (later range List.mem_cons_self)]
      cases cut
      rfl

theorem splitLines_eq_between (standing : text.drop offset = rest) :
    splitLines rest = between text offset (lineBreaks.search text offset) := by
  fun_induction splitLines rest generalizing offset with
  | case1 => rw [search_of_nil standing, between, standing]
  | case2 rest ih =>
      rw [search_of_some standing (wordAt?_pair rest), between, slice_self,
        ih (drop_succ (drop_succ standing))]
      rfl
  | case3 c rest single ends ih =>
      have found := wordAt?_single single
      rw [if_pos ends] at found
      rw [search_of_some standing found, between, slice_self, ih (drop_succ standing)]
      rfl
  | case4 c rest single plain empty ih => exact absurd empty (splitLines_ne_nil rest)
  | case5 c rest single plain line lines cut ih =>
      have none := wordAt?_single single
      rw [if_neg plain] at none
      have pieces := ih (drop_succ standing)
      rw [cut] at pieces
      rw [search_of_none standing none]
      refine (between_of_drop standing ?_ pieces.symm).symm
      intro range member
      exact le_of_mem_search lineBreaks text (offset + 1) range member

theorem splitLines_eq_split (text : Text) : splitLines text = lineBreaks.split text :=
  splitLines_eq_between List.drop_zero

theorem lineStarts_eq_search (text : Text) :
    lineStarts text = 0 :: (lineBreaks.search text 0).map Prod.snd := by
  rw [lineStarts, map_snd_search List.drop_zero]

end Placement.Text
