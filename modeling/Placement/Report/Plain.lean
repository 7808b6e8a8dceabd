import Placement.Failure
import Placement.Report.Frame

/-!
The plain report of a violation: a header as of a syntax error, then the source excerpt with line
numbers, and carets below each line of the location.
-/

namespace Placement

namespace PlainReport

def header (violation : Violation) : Text :=
  "SyntaxError: ".toList ++ violation.message.toList

def row (gutter : Nat) (line : FrameLine) : Text :=
  let pointer := if line.marker.isSome then '>' else ' '
  Text.trimEnd (pointer :: ' ' :: Text.padLeft gutter (Nat.toDigits 10 line.number) ++
    " | ".toList ++ line.text)

def caretRow (gutter : Nat) (marker : Marker) : Text :=
  Text.spaces (gutter + 2) ++ " | ".toList ++ marker.text

def rows (frame : Frame) : List Text :=
  let gutter := frame.gutterWidth
  frame.flatMap fun line => row gutter line :: (line.marker.map (caretRow gutter)).toList

def written (lines : List Text) : Text :=
  lines.flatMap fun line => line ++ ['\n']

end PlainReport

structure PlainReport where
  output : Text
  fault : Option Fault

namespace PlainReport

/-- The header is written before the excerpt is built. -/
def write (context : Int) (violation : Violation) (text : Text) : PlainReport :=
  match Frame.build? text (some violation.location) context with
  | .error fault => ⟨written [header violation], some fault⟩
  | .ok frame => ⟨written (header violation :: rows frame), none⟩

end PlainReport

end Placement
