import Placement.Failure
import Placement.Report.Frame
import Placement.Report.StyledText

/-!
The report of a violation on a console: the plain report with the header, the pointers, the gutter and
the carets in styles of their own.
-/

namespace Placement

structure ConsoleConfig where
  color : Bool
  width : Nat
  context : Nat
  width_ge : 20 ≤ width

namespace ConsoleConfig

def build? (color : Bool) (width context : Int) : Except Fault ConsoleConfig :=
  if wide : 20 ≤ width then
    if context < 0 then .error (.negativeContext context)
    else .ok ⟨color, width.toNat, context.toNat, by omega⟩
  else .error (.narrowConsole width)

def default : ConsoleConfig where
  color := true
  width := 120
  context := defaultContext
  width_ge := by decide

end ConsoleConfig

namespace ConsoleReport

def header (violation : Violation) : StyledText :=
  [⟨.boldRed, "SyntaxError".toList⟩, ⟨.plain, ": ".toList ++ violation.message.toList⟩]

def row (gutter : Nat) (line : FrameLine) : StyledText :=
  [ if line.marker.isSome then ⟨.boldRed, ['>']⟩ else ⟨.plain, [' ']⟩,
    ⟨.dim, ' ' :: Text.padLeft gutter (Nat.toDigits 10 line.number) ++ " | ".toList⟩,
    ⟨.plain, line.text⟩]

def caretRow (gutter : Nat) (marker : Marker) : StyledText :=
  [⟨.dim, Text.spaces (gutter + 2) ++ " | ".toList⟩, ⟨.boldDimRed, marker.text⟩]

/-- Blanks at the end of a source line are not shown; the carets keep theirs. -/
def rows (frame : Frame) : List StyledText :=
  let gutter := frame.gutterWidth
  frame.flatMap fun line =>
    (row gutter line).dropControls.trimEnd :: (line.marker.map (caretRow gutter)).toList

/-- The report as one text. It never wraps, whatever the width. -/
def render (config : ConsoleConfig) (violation : Violation) (text : Text) : Text :=
  let frame := Frame.build text violation.location config.context
  ((header violation).dropControls :: rows frame).flatMap (StyledText.printLine config.color)

end ConsoleReport

end Placement
