import Placement.Tree.Raw

/-!
Parents of the nodes below a root. The index is built by a walk that visits the node recorded last,
and it exists only where no node is met twice.
-/

namespace Placement

/-- Pairs of a node and its parent, newest first. -/
abbrev ParentIndex := List (RawId × RawId)

namespace ParentIndex

def recordChildren (forest : RawForest) (root parent : RawId) :
    List RawId → ParentIndex → Except Fault ParentIndex
  | [], index => .ok index
  | child :: rest, index =>
      if child = root ∨ (index.lookup child).isSome then
        .error (.reachableTwice (forest.node child).kind (forest.node child).pos)
      else recordChildren forest root parent rest ((child, parent) :: index)

def recordFrom (forest : RawForest) (root : RawId) :
    List RawId → ParentIndex → Except Fault ParentIndex
  | [], index => .ok index
  | parent :: rest, index =>
      match recordChildren forest root parent (forest.children parent) index with
      | .error fault => .error fault
      | .ok extended => recordFrom forest root ((forest.children parent).reverse ++ rest) extended
termination_by stack => forest.descent.stackWeight stack
decreasing_by exact forest.descent.stackWeight_lt parent _ rest (List.reverse_perm _)

def build? (forest : RawForest) (root : RawId) : Except Fault ParentIndex :=
  recordFrom forest root [root] []

def parentOf (index : ParentIndex) (id : RawId) : Option RawId :=
  index.lookup id

end ParentIndex

end Placement
