/-!
Names of the three built-in checks, in the order in which they run on a node.
-/

namespace Placement

inductive CheckName where
  | decorators
  | abstractProperty
  | modifiers
  deriving DecidableEq, Repr

namespace CheckName

def all : List CheckName :=
  [.decorators, .abstractProperty, .modifiers]

def text : CheckName → String
  | .decorators => "decorators"
  | .abstractProperty => "abstract_property"
  | .modifiers => "modifiers"

def named? (text : String) : Option CheckName :=
  all.find? fun name => name.text == text

theorem mem_all (name : CheckName) : name ∈ all := by
  cases name <;> decide

theorem named?_text (name : CheckName) : named? name.text = some name := by
  cases name <;> decide

end CheckName

end Placement
