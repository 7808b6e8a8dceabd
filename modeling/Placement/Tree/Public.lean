import Placement.Fault
import Placement.Tree.Descent

/-!
The public tree that tools consume, normalized from the raw one. It is built front to back like the
raw tree, and nothing forbids a node from standing in it several times.
-/

namespace Placement

abbrev PublicId := Nat

/-- The offset `start` stands at the first token. The value, where there is one, is among the
children. -/
structure PublicNode where
  type : String
  start : Nat
  stop : Nat
  children : List PublicId
  value : Option PublicId
  type_ne_empty : type ≠ ""
  start_le_stop : start ≤ stop
  value_mem_children : ∀ id ∈ value, id ∈ children

namespace PublicNode

instance : Inhabited PublicNode :=
  ⟨⟨"Identifier", 0, 0, [], none, by decide, Nat.le_refl 0, by simp⟩⟩

def lookup (nodes : Array PublicNode) (id : PublicId) : PublicNode :=
  nodes[id]?.getD default

end PublicNode

structure PublicForest where
  nodes : Array PublicNode
  children_lt : ∀ id, ∀ child ∈ (PublicNode.lookup nodes id).children, child < id

structure PublicDraft where
  type : String
  start : Int
  stop : Int
  children : List PublicId
  value : Option PublicId

namespace PublicForest

def empty : PublicForest :=
  ⟨#[], by simp [PublicNode.lookup, Inhabited.default]⟩

def size (forest : PublicForest) : Nat :=
  forest.nodes.size

def node (forest : PublicForest) (id : PublicId) : PublicNode :=
  PublicNode.lookup forest.nodes id

def children (forest : PublicForest) (id : PublicId) : List PublicId :=
  (forest.node id).children

def push (forest : PublicForest) (node : PublicNode)
    (earlier : ∀ child ∈ node.children, child < forest.size) : PublicForest :=
  ⟨forest.nodes.push node, by
    intro id
    have kept := forest.children_lt id
    simp only [PublicNode.lookup, Array.getElem?_push] at kept ⊢
    split
    next last => subst last; exact earlier
    next => exact kept⟩

def span? (start stop : Int) : Except Fault { span : Nat × Nat // span.1 ≤ span.2 } :=
  if start < 0 then .error (.negativeStart start)
  else if ordered : start ≤ stop then .ok ⟨(start.toNat, stop.toNat), Int.toNat_le_toNat ordered⟩
  else .error (.endBeforeStart stop start)

def checkReferences (forest : PublicForest) (slots : List PublicId) :
    Except Fault (PLift (∀ slot ∈ slots, slot < forest.size)) :=
  match found : slots.find? fun slot => forest.size ≤ slot with
  | some slot => .error (.unknownNode slot)
  | none =>
      .ok ⟨by
        rw [List.find?_eq_none] at found
        exact fun slot member => by simpa using found slot member⟩

def push? (forest : PublicForest) (draft : PublicDraft) : Except Fault PublicForest := do
  let ⟨earlier⟩ ← forest.checkReferences (draft.children ++ draft.value.toList)
  if named : draft.type ≠ "" then
    let ⟨span, ordered⟩ ← span? draft.start draft.stop
    if inside : ∀ id ∈ draft.value, id ∈ draft.children then
      let node : PublicNode :=
        ⟨draft.type, span.1, span.2, draft.children, draft.value, named, ordered, inside⟩
      return forest.push node fun child member => earlier child (List.mem_append_left _ member)
    else throw .valueNotAChild
  else throw .emptyType

/-- The forest of nodes built front to back, without any if one of them is refused. -/
def ofDrafts (drafts : List PublicDraft) : PublicForest :=
  (drafts.foldlM push? empty).toOption.getD empty

def descent (forest : PublicForest) : Descent where
  next := forest.children
  next_lt := forest.children_lt

def walkFrom (forest : PublicForest) : List PublicId → List PublicId
  | [] => []
  | id :: rest => id :: walkFrom forest (forest.children id ++ rest)
termination_by stack => forest.descent.stackWeight stack
decreasing_by exact forest.descent.stackWeight_lt id _ rest (.refl _)

def walk (forest : PublicForest) (root : PublicId) : List PublicId :=
  forest.walkFrom [root]

end PublicForest

end Placement
