/-!
Classes of characters, given as ascending inclusive ranges of code points.
-/

namespace Placement.Text

def inRanges (ranges : List (Nat × Nat)) (c : Char) : Bool :=
  ranges.any fun range => range.1 ≤ c.toNat && c.toNat ≤ range.2

theorem inRanges_eq_false_of_below (ranges : List (Nat × Nat)) (bound : Nat) (c : Char)
    (above : ranges.all (fun range => bound ≤ range.1) = true) (low : c.toNat < bound) :
    inRanges ranges c = false := by
  simp only [List.all_eq_true, decide_eq_true_eq] at above
  simp only [inRanges, List.any_eq_false, Bool.and_eq_true, decide_eq_true_eq, not_and]
  intro range member reached
  have := above range member
  omega

/-- Space separators and the characters that Unicode's bidirectional algorithm treats as white
space, segment separators or paragraph separators. -/
def blankRanges : List (Nat × Nat) :=
  [ (0x09, 0x0D), (0x1C, 0x20), (0x85, 0x85), (0xA0, 0xA0), (0x1680, 0x1680), (0x2000, 0x200A),
    (0x2028, 0x2029), (0x202F, 0x202F), (0x205F, 0x205F), (0x3000, 0x3000)]

def isBlank (c : Char) : Bool :=
  inRanges blankRanges c

/-- A line ends at a line feed, a carriage return, or Unicode's line or paragraph separator. -/
def isLineBreak (c : Char) : Bool :=
  c == '\n' || c == '\r' || c == '\u2028' || c == '\u2029'

theorem isBlank_of_isLineBreak (c : Char) (ends : isLineBreak c = true) : isBlank c = true := by
  simp only [isLineBreak, Bool.or_eq_true, beq_iff_eq] at ends
  rcases ends with ((rfl | rfl) | rfl) | rfl <;> decide

end Placement.Text
