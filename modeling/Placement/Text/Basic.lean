import Placement.Text.CharacterClass

/-!
Source text as the sequence of its code points. An offset is an index into the sequence, and every
length and column counts code points.
-/

namespace Placement

abbrev Text := List Char

namespace Text

def occurs (word : Text) : Text → Bool
  | [] => word.isEmpty
  | c :: rest => word.isPrefixOf (c :: rest) || occurs word rest

theorem occurs_iff (word text : Text) : occurs word text = true ↔ word <:+: text := by
  induction text with
  | nil => simp [occurs]
  | cons c rest ih => simp [occurs, ih, List.infix_cons_iff]

def trimEnd (text : Text) : Text :=
  (text.reverse.dropWhile isBlank).reverse

def spaces (count : Nat) : Text :=
  List.replicate count ' '

def padLeft (width : Nat) (text : Text) : Text :=
  spaces (width - text.length) ++ text

theorem length_padLeft (width : Nat) (text : Text) (fits : text.length ≤ width) :
    (padLeft width text).length = width := by
  simp [padLeft, spaces]
  omega

end Text

end Placement
