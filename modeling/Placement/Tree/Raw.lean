import Placement.Fault
import Placement.Tree.Descent

/-!
The raw tree of a permissive parser. Nodes are built one after another and refer to earlier nodes only,
so a node is named by its place in the order and shared nodes keep their identity. A forest holds what
has been built; each of its nodes has passed the checks of `push?`.
-/

namespace Placement

abbrev RawId := Nat

/-- The offset `pos` may stand before trivia and `stop` stands just past the node. Absent modifiers and
absent illegal decorators are empty lists. -/
structure RawNode where
  kind : NodeKind
  pos : Nat
  stop : Nat
  modifiers : List RawId
  illegalDecorators : List RawId
  initializer : Option RawId
  expression : Option RawId
  children : List RawId
  pos_le_stop : pos ≤ stop

namespace RawNode

def blank (offset : Nat) : RawNode :=
  ⟨.identifier, offset, offset, [], [], none, none, [], Nat.le_refl offset⟩

instance : Inhabited RawNode :=
  ⟨blank 0⟩

def slots (node : RawNode) : List RawId :=
  node.illegalDecorators ++ node.modifiers ++ node.expression.toList ++ node.children ++
    node.initializer.toList

def lookup (nodes : Array RawNode) (id : RawId) : RawNode :=
  nodes[id]?.getD default

theorem lookup_push_of_lt {nodes : Array RawNode} {id : RawId} (last : RawNode)
    (earlier : id < nodes.size) : lookup (nodes.push last) id = lookup nodes id := by
  simp [lookup, Array.getElem?_push, Nat.ne_of_lt earlier]

theorem lookup_push_size (nodes : Array RawNode) (last : RawNode) :
    lookup (nodes.push last) nodes.size = last := by
  simp [lookup]

theorem lookup_of_size_le {nodes : Array RawNode} {id : RawId} (beyond : nodes.size ≤ id) :
    lookup nodes id = default := by
  simp [lookup, beyond]

def IsModifier (node : RawNode) : Prop :=
  node.kind = .decorator ∨ node.kind.isModifierKeyword = true

instance (node : RawNode) : Decidable node.IsModifier :=
  inferInstanceAs (Decidable (_ ∨ _))

def IsIllegalDecorator (node : RawNode) : Prop :=
  node.kind = .decorator ∧ node.expression ≠ none

instance (node : RawNode) : Decidable node.IsIllegalDecorator :=
  inferInstanceAs (Decidable (_ ∧ _))

def InSourceOrder (nodes : Array RawNode) (ids : List RawId) : Prop :=
  ids.Pairwise fun first second => (lookup nodes first).pos ≤ (lookup nodes second).pos

instance (nodes : Array RawNode) (ids : List RawId) : Decidable (InSourceOrder nodes ids) :=
  inferInstanceAs (Decidable (List.Pairwise _ _))

structure FitsAt (nodes : Array RawNode) (id : RawId) (node : RawNode) : Prop where
  slots_lt : ∀ slot ∈ node.slots, slot < id
  modifiers_valid : ∀ modifier ∈ node.modifiers, (lookup nodes modifier).IsModifier
  modifiers_ordered : InSourceOrder nodes node.modifiers
  decorators_valid : ∀ decorator ∈ node.illegalDecorators,
    (lookup nodes decorator).IsIllegalDecorator

theorem FitsAt.default (nodes : Array RawNode) (id : RawId) : FitsAt nodes id default := by
  refine ⟨?_, ?_, ?_, ?_⟩ <;> simp [slots, Inhabited.default, blank, InSourceOrder]

theorem FitsAt.push {nodes : Array RawNode} {id : RawId} {node : RawNode} (last : RawNode)
    (fits : FitsAt nodes id node) (bound : id ≤ nodes.size) :
    FitsAt (nodes.push last) id node := by
  have kept : ∀ slot ∈ node.slots, lookup (nodes.push last) slot = lookup nodes slot :=
    fun slot member => lookup_push_of_lt last (Nat.lt_of_lt_of_le (fits.slots_lt slot member) bound)
  have modifier : ∀ slot ∈ node.modifiers, slot ∈ node.slots := by
    intro slot member
    simp [slots, member]
  have decorator : ∀ slot ∈ node.illegalDecorators, slot ∈ node.slots := by
    intro slot member
    simp [slots, member]
  refine ⟨fits.slots_lt, ?_, ?_, ?_⟩
  · intro slot member
    rw [kept slot (modifier slot member)]
    exact fits.modifiers_valid slot member
  · refine List.Pairwise.imp_of_mem ?_ fits.modifiers_ordered
    intro first second firstMember secondMember ordered
    rw [kept first (modifier first firstMember), kept second (modifier second secondMember)]
    exact ordered
  · intro slot member
    rw [kept slot (decorator slot member)]
    exact fits.decorators_valid slot member

end RawNode

structure RawForest where
  nodes : Array RawNode
  fits : ∀ id, RawNode.FitsAt nodes id (RawNode.lookup nodes id)

structure RawDraft where
  kind : Option NodeKind
  pos : Int
  stop : Int
  modifiers : Option (List RawId)
  illegalDecorators : Option (List RawId)
  initializer : Option RawId
  expression : Option RawId
  children : List RawId

namespace RawForest

def empty : RawForest :=
  ⟨#[], fun id => by rw [RawNode.lookup_of_size_le (by simp)]; exact RawNode.FitsAt.default _ _⟩

def size (forest : RawForest) : Nat :=
  forest.nodes.size

def node (forest : RawForest) (id : RawId) : RawNode :=
  RawNode.lookup forest.nodes id

def push (forest : RawForest) (node : RawNode)
    (fits : RawNode.FitsAt forest.nodes forest.size node) : RawForest :=
  ⟨forest.nodes.push node, by
    intro id
    rcases Nat.lt_trichotomy id forest.nodes.size with earlier | rfl | beyond
    · rw [RawNode.lookup_push_of_lt node earlier]
      exact (forest.fits id).push node (Nat.le_of_lt earlier)
    · rw [RawNode.lookup_push_size]
      exact fits.push node (Nat.le_refl _)
    · rw [RawNode.lookup_of_size_le (by rw [Array.size_push]; exact beyond)]
      exact RawNode.FitsAt.default _ _⟩

def span? (pos stop : Int) : Except Fault { span : Nat × Nat // span.1 ≤ span.2 } :=
  if pos < 0 then .error (.negativePos pos)
  else if ordered : pos ≤ stop then .ok ⟨(pos.toNat, stop.toNat), Int.toNat_le_toNat ordered⟩
  else .error (.endBeforePos stop pos)

def checkModifiers (forest : RawForest) : (given : Option (List RawId)) →
    Except Fault (PLift ((∀ id ∈ given.getD [], (forest.node id).IsModifier) ∧
      RawNode.InSourceOrder forest.nodes (given.getD [])))
  | none => .ok ⟨by simp, .nil⟩
  | some [] => .error .noModifiers
  | some (first :: rest) =>
      match found : (first :: rest).find? fun id => !decide (forest.node id).IsModifier with
      | some id => .error (.notAModifier (forest.node id).kind)
      | none =>
          if ordered : RawNode.InSourceOrder forest.nodes (first :: rest) then
            .ok ⟨by
              rw [List.find?_eq_none] at found
              exact ⟨fun id member => by simpa using found id member, ordered⟩⟩
          else .error .modifiersOutOfOrder

def decoratorFault (node : RawNode) : Fault :=
  if node.kind = .decorator then .illegalDecoratorWithoutExpression
  else .illegalDecoratorKind node.kind

def checkIllegalDecorators (forest : RawForest) : (given : Option (List RawId)) →
    Except Fault (PLift (∀ id ∈ given.getD [], (forest.node id).IsIllegalDecorator))
  | none => .ok ⟨by simp⟩
  | some [] => .error .noIllegalDecorators
  | some (first :: rest) =>
      match found : (first :: rest).find? fun id =>
          !decide (forest.node id).IsIllegalDecorator with
      | some id => .error (decoratorFault (forest.node id))
      | none =>
          .ok ⟨by
            rw [List.find?_eq_none] at found
            exact fun id member => by simpa using found id member⟩

def checkReferences (forest : RawForest) (slots : List RawId) :
    Except Fault (PLift (∀ slot ∈ slots, slot < forest.size)) :=
  match found : slots.find? fun slot => forest.size ≤ slot with
  | some slot => .error (.unknownNode slot)
  | none =>
      .ok ⟨by
        rw [List.find?_eq_none] at found
        exact fun slot member => by simpa using found slot member⟩

def push? (forest : RawForest) (draft : RawDraft) : Except Fault RawForest := do
  let modifiers := draft.modifiers.getD []
  let decorators := draft.illegalDecorators.getD []
  let ⟨earlier⟩ ← forest.checkReferences (decorators ++ modifiers ++ draft.expression.toList ++
    draft.children ++ draft.initializer.toList)
  let some kind := draft.kind | throw (.absent .kind)
  let ⟨span, ordered⟩ ← span? draft.pos draft.stop
  let ⟨valid⟩ ← forest.checkModifiers draft.modifiers
  let ⟨illegal⟩ ← forest.checkIllegalDecorators draft.illegalDecorators
  let node : RawNode :=
    ⟨kind, span.1, span.2, modifiers, decorators, draft.initializer, draft.expression,
      draft.children, ordered⟩
  return forest.push node ⟨earlier, valid.1, valid.2, illegal⟩

/-- The forest of nodes built front to back, without any if one of them is refused. -/
def ofDrafts (drafts : List RawDraft) : RawForest :=
  (drafts.foldlM push? empty).toOption.getD empty

/-- All direct sub-nodes in document order; nodes at one offset keep the order of their slots. -/
def children (forest : RawForest) (id : RawId) : List RawId :=
  (forest.node id).slots.mergeSort fun first second =>
    (forest.node first).pos ≤ (forest.node second).pos

theorem children_perm (forest : RawForest) (id : RawId) :
    (forest.children id).Perm (forest.node id).slots :=
  List.mergeSort_perm _ _

theorem mem_children_iff (forest : RawForest) (id child : RawId) :
    child ∈ forest.children id ↔ child ∈ (forest.node id).slots :=
  (forest.children_perm id).mem_iff

def descent (forest : RawForest) : Descent where
  next := forest.children
  next_lt id child linked := (forest.fits id).slots_lt child ((forest.mem_children_iff id child).1 linked)

def hasModifier (forest : RawForest) (id : RawId) (kind : NodeKind) : Bool :=
  (forest.node id).modifiers.any fun modifier => (forest.node modifier).kind == kind

end RawForest

end Placement
