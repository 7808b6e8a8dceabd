import Placement.Proofs.Faithful
import Placement.Proofs.FrameLines
import Placement.Proofs.LocatedFailure

/-!
Carets under keywords. A keyword that stands in the text as it is spelled stands on one line, so the
excerpt around it has one marked line, and the report has as many carets below the keyword as it has
characters, each in a column of the keyword.
-/

namespace Placement

namespace Text

variable {text word : Text} {start : Nat}

theorem prefix_trimEnd {last : Char} (visible : ¬isBlank last = true) (kept rest : Text) :
    kept ++ [last] <+: trimEnd (kept ++ [last] ++ rest) := by
  have stays : (last :: kept.reverse).dropWhile isBlank = last :: kept.reverse :=
    List.dropWhile_cons_of_neg visible
  simp only [trimEnd, List.reverse_append, List.reverse_singleton, List.singleton_append,
    List.dropWhile_append, stays]
  split
  · simp
  · simp only [List.reverse_append, List.reverse_cons, List.reverse_reverse]
    exact List.prefix_append _ _

end Text

namespace PlainReport

variable {gutter column : Nat} {word : Text}

theorem getElem?_caretRow (gutter : Nat) (marker : Marker) (index : Nat) :
    (caretRow gutter marker)[index]? = some '^' ↔
      gutter + 5 + marker.blanks ≤ index ∧
        index < gutter + 5 + marker.blanks + marker.carets := by
  let lead := Text.spaces (gutter + 2) ++ " | ".toList
  have leadLength : lead.length = gutter + 5 := by
    simp [lead, Text.spaces]
  have noCaret : '^' ∉ lead := by
    simp [lead, Text.spaces]
  have rowEq : caretRow gutter marker = lead ++ marker.text := rfl
  rw [rowEq, List.getElem?_append, leadLength]
  split
  next inLead =>
    refine ⟨fun found => absurd (List.mem_of_getElem? found) noCaret, fun _ => ?_⟩
    omega
  next =>
    rw [Marker.getElem?_text]
    omega

def lineRows (gutter : Nat) (line : FrameLine) : List Text :=
  row gutter line :: (line.marker.map (caretRow gutter)).toList

end PlainReport

namespace Check

variable {violation : Violation} {rule : ModifierRule} {spelling : String}

end Check

/-- An excerpt of which only one line is marked, with carets under a word of that line. -/
structure Frame.MarksWord (frame : Frame) (location : Location) (word : Text)
    (above : List FrameLine) (line : FrameLine) (below : List FrameLine) : Prop where
  split : frame = above ++ line :: below
  unmarked : ∀ other ∈ above ++ below, other.marker = none
  number : line.number = location.start.line
  marker : line.marker = some ⟨location.start.column, word.length⟩
  word : line.text.slice location.start.column location.stop.column = word

theorem Frame.MarksWord.mem {frame : Frame} {location : Location} {word : Text}
    {above below : List FrameLine} {line : FrameLine}
    (marks : frame.MarksWord location word above line below) : line ∈ frame := by
  rw [marks.split]
  exact List.mem_append_right _ List.mem_cons_self

namespace Location.Encloses

variable {location : Location} {text word line : Text}

end Location.Encloses

end Placement
