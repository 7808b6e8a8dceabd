/-!
Points in a source text: lines count from one and columns from zero. Points are ordered by line and
then by column.
-/

namespace Placement

structure Position where
  line : Nat
  column : Nat
  line_pos : 0 < line
  deriving DecidableEq, Repr

namespace Position

instance : LE Position where
  le first second :=
    first.line < second.line ∨ first.line = second.line ∧ first.column ≤ second.column

theorem le_iff (first second : Position) :
    first ≤ second ↔
      first.line < second.line ∨ first.line = second.line ∧ first.column ≤ second.column :=
  Iff.rfl

instance (first second : Position) : Decidable (first ≤ second) :=
  decidable_of_iff _ (le_iff first second).symm

def render (position : Position) : String :=
  toString position.line ++ ":" ++ toString position.column

end Position

end Placement
