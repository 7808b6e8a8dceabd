import Placement.Fault

/-!
Ranges in a source text, between two positions of which the second does not precede the first.
-/

namespace Placement

def Position.build? (line column : Int) : Except Fault Position :=
  if positive : 0 < line then
    if column < 0 then .error (.negativeColumn column)
    else .ok ⟨line.toNat, column.toNat, by omega⟩
  else .error (.lineNotPositive line)

structure Location where
  start : Position
  stop : Position
  ordered : start ≤ stop
  deriving DecidableEq

namespace Location

def between? (start stop : Position) : Except Fault Location :=
  if ordered : start ≤ stop then .ok ⟨start, stop, ordered⟩
  else .error (.endPrecedesStart start stop)

def build? : Option Position → Option Position → Except Fault Location
  | some start, some stop => between? start stop
  | _, _ => .error (.absent .endpoints)

theorem between?_eq_ok_iff (start stop : Position) (location : Location) :
    between? start stop = .ok location ↔ location.start = start ∧ location.stop = stop := by
  cases location with
  | mk first last ordered =>
      simp only [between?]
      split
      next => simp [eq_comm]
      next reversed =>
        simp only [reduceCtorEq, false_iff, not_and]
        rintro rfl rfl
        exact reversed ordered

def render (location : Location) : String :=
  location.start.render ++ "-" ++ location.stop.render

end Location

end Placement
