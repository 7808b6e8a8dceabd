import Placement.Location
import Placement.Text.Lines

/-!
The excerpt of a source text around a location. Lines of the location carry a marker under the located
columns; lines before and after it give the context.
-/

namespace Placement

structure Marker where
  blanks : Nat
  carets : Nat
  deriving DecidableEq, Repr

def Marker.text (marker : Marker) : Text :=
  Text.spaces marker.blanks ++ List.replicate marker.carets '^'

structure FrameLine where
  number : Nat
  text : Text
  marker : Option Marker
  deriving DecidableEq, Repr

def defaultContext : Nat :=
  2

namespace FrameLine

/-- The marker of a line of the location: from the start column on its first line and up to the end
column on its last, with at least one caret. -/
def markerAt (location : Location) (number length : Nat) : Option Marker :=
  if location.start.line ≤ number ∧ number ≤ location.stop.line then
    let first := if number = location.start.line then location.start.column else 0
    let past := if number = location.stop.line then location.stop.column else length
    some ⟨first, max (past - first) 1⟩
  else none

def ofLine (location : Location) (number : Nat) (text : Text) : FrameLine :=
  ⟨number, text, markerAt location number text.length⟩

end FrameLine

abbrev Frame := List FrameLine

namespace Frame

def firstNumber (location : Location) (context : Nat) : Nat :=
  max (location.start.line - context) 1

def build (text : Text) (location : Location) (context : Nat) : Frame :=
  let first := firstNumber location context
  let shown := ((Text.splitLines text).drop (first - 1)).take
    (location.stop.line + context + 1 - first)
  shown.mapIdx fun index line => FrameLine.ofLine location (first + index) line

/-- The number of context lines, which must not be negative, is checked before the location. -/
def build? (text : Text) (location : Option Location) (context : Int) : Except Fault Frame :=
  if context < 0 then .error (.negativeContext context)
  else
    match location with
    | none => .error .unlocated
    | some location => .ok (build text location context.toNat)

def gutterWidth (frame : Frame) : Nat :=
  match frame.getLast? with
  | none => 1
  | some line => (Nat.toDigits 10 line.number).length

end Frame

end Placement
