import Placement.Proofs.FirstFailure
import Placement.Proofs.LinePlace
import Placement.Proofs.ParentSlots
import Placement.Proofs.PassingChecks

/-!
One parse result in two texts. Offsets of the first text are mapped to offsets of the second in the same
order, so that trivia end and positions stand where they should; the trees and the correlation stay as they
are. The checks then find the same in both texts, and differ in where they locate it as the map says.
-/

namespace Placement

/-- A map of the offsets of one text to those of another, and of positions to positions. -/
structure Reoffset (text other : Text) where
  move : Nat → Nat
  place : Position → Position
  move_lt_move : ∀ {first second : Nat}, first < second → move first < move second
  place_le_place : ∀ {first second : Position}, first ≤ second → place first ≤ place second
  move_length : move text.length = other.length
  skipTrivia_move : ∀ offset,
    Text.skipTrivia other (move offset) = move (Text.skipTrivia text offset)
  position_move : ∀ offset, offset ≤ text.length →
    Text.position other (move offset) = place (Text.position text offset)

namespace Reoffset

variable {text other : Text} (map : Reoffset text other)

theorem move_le_move {first second : Nat} (before : first ≤ second) :
    map.move first ≤ map.move second := by
  rcases Nat.lt_or_eq_of_le before with less | rfl
  · exact Nat.le_of_lt (map.move_lt_move less)
  · exact Nat.le_refl _

theorem move_le_iff (first second : Nat) : map.move first ≤ map.move second ↔ first ≤ second := by
  by_cases before : first ≤ second
  · exact iff_of_true (map.move_le_move before) before
  · have reversed := map.move_lt_move (Nat.lt_of_not_le before)
    exact iff_of_false (Nat.not_le_of_lt reversed) before

theorem move_lt_iff (first second : Nat) : map.move first < map.move second ↔ first < second := by
  rw [← Nat.not_le, ← Nat.not_le, map.move_le_iff]

theorem move_min (first second : Nat) :
    map.move (min first second) = min (map.move first) (map.move second) := by
  rcases Nat.le_total first second with before | before
  · rw [Nat.min_eq_left before, Nat.min_eq_left (map.move_le_move before)]
  · rw [Nat.min_eq_right before, Nat.min_eq_right (map.move_le_move before)]

def onLocation (location : Location) : Location :=
  ⟨map.place location.start, map.place location.stop, map.place_le_place location.ordered⟩

def onFault : Fault → Fault
  | .offsetOutOfRange offset length =>
      .offsetOutOfRange (map.move offset.toNat) (map.move length)
  | fault => fault

def onLocated : Except Fault Location → Except Fault Location
  | .error fault => .error (map.onFault fault)
  | .ok location => .ok (map.onLocation location)

def onViolation (violation : Violation) : Violation :=
  { violation with location := map.onLocation violation.location }

def onFailure : Failure → Failure
  | .fault fault => .fault (map.onFault fault)
  | .violation violation => .violation (map.onViolation violation)
  | failure => failure

end Reoffset

theorem field_getD_map {Node Field : Type} {change : Node → Node} (field : Node → Field)
    (kept : ∀ node, field (change node) = field node) (nodes : Array Node) (id : Nat)
    (fallback : Node) :
    field ((nodes.map change)[id]?.getD fallback) = field (nodes[id]?.getD fallback) := by
  by_cases inside : id < nodes.size
  · simp [inside, kept]
  · simp [Nat.le_of_not_lt inside]

namespace RawNode

variable {text other : Text} (map : Reoffset text other)

def moved (node : RawNode) : RawNode :=
  { node with
    pos := map.move node.pos
    stop := map.move node.stop
    pos_le_stop := map.move_le_move node.pos_le_stop }

theorem lookup_moved_of_lt {nodes : Array RawNode} {id : RawId} (inside : id < nodes.size) :
    lookup (nodes.map (moved map)) id = (lookup nodes id).moved map := by
  simp [lookup, inside]

theorem lookup_moved_eq {Field : Type} (field : RawNode → Field)
    (kept : ∀ node : RawNode, field (node.moved map) = field node) (nodes : Array RawNode)
    (id : RawId) : field (lookup (nodes.map (moved map)) id) = field (lookup nodes id) :=
  field_getD_map field kept nodes id default

end RawNode

namespace RawForest

variable {text other : Text} (map : Reoffset text other)

theorem lt_size_of_mem_slots {forest : RawForest} (id : RawId) {slot : RawId}
    (member : slot ∈ (forest.node id).slots) : slot < forest.size := by
  by_cases inside : id < forest.size
  · exact Nat.lt_trans ((forest.fits id).slots_lt slot member) inside
  · rw [node, RawNode.lookup_of_size_le (Nat.le_of_not_lt inside)] at member
    cases member

theorem fits_moved (forest : RawForest) (id : RawId) :
    RawNode.FitsAt (forest.nodes.map (RawNode.moved map)) id
      (RawNode.lookup (forest.nodes.map (RawNode.moved map)) id) := by
  have fits := forest.fits id
  have slotsEq := RawNode.lookup_moved_eq map RawNode.slots (fun _ => rfl) forest.nodes id
  have modifiersEq := RawNode.lookup_moved_eq map RawNode.modifiers (fun _ => rfl) forest.nodes id
  have decoratorsEq :=
    RawNode.lookup_moved_eq map RawNode.illegalDecorators (fun _ => rfl) forest.nodes id
  have modifierIff := RawNode.lookup_moved_eq map RawNode.IsModifier (fun _ => rfl) forest.nodes
  have decoratorIff :=
    RawNode.lookup_moved_eq map RawNode.IsIllegalDecorator (fun _ => rfl) forest.nodes
  refine ⟨?_, ?_, ?_, ?_⟩
  · rw [slotsEq]
    exact fits.slots_lt
  · rw [modifiersEq]
    intro modifier member
    have valid := fits.modifiers_valid modifier member
    rwa [modifierIff]
  · rw [modifiersEq]
    refine List.Pairwise.imp_of_mem ?_ fits.modifiers_ordered
    intro first second firstMember secondMember ordered
    have inside : ∀ modifier ∈ (forest.node id).modifiers, modifier < forest.nodes.size :=
      fun modifier member => lt_size_of_mem_slots id (by simp [RawNode.slots, member])
    rw [RawNode.lookup_moved_of_lt map (inside first firstMember),
      RawNode.lookup_moved_of_lt map (inside second secondMember)]
    exact map.move_le_move ordered
  · rw [decoratorsEq]
    intro decorator member
    have valid := fits.decorators_valid decorator member
    rwa [decoratorIff]

def moved (forest : RawForest) : RawForest :=
  ⟨forest.nodes.map (RawNode.moved map), forest.fits_moved map⟩

theorem node_moved_of_lt {forest : RawForest} {id : RawId} (inside : id < forest.size) :
    (forest.moved map).node id = (forest.node id).moved map :=
  RawNode.lookup_moved_of_lt map inside

variable (forest : RawForest) (id : RawId)

@[simp] theorem kind_moved : ((forest.moved map).node id).kind = (forest.node id).kind :=
  RawNode.lookup_moved_eq map RawNode.kind (fun _ => rfl) forest.nodes id

@[simp] theorem modifiers_moved :
    ((forest.moved map).node id).modifiers = (forest.node id).modifiers :=
  RawNode.lookup_moved_eq map RawNode.modifiers (fun _ => rfl) forest.nodes id

@[simp] theorem illegalDecorators_moved :
    ((forest.moved map).node id).illegalDecorators = (forest.node id).illegalDecorators :=
  RawNode.lookup_moved_eq map RawNode.illegalDecorators (fun _ => rfl) forest.nodes id

@[simp] theorem initializer_moved :
    ((forest.moved map).node id).initializer = (forest.node id).initializer :=
  RawNode.lookup_moved_eq map RawNode.initializer (fun _ => rfl) forest.nodes id

@[simp] theorem expression_moved :
    ((forest.moved map).node id).expression = (forest.node id).expression :=
  RawNode.lookup_moved_eq map RawNode.expression (fun _ => rfl) forest.nodes id

@[simp] theorem slots_moved : ((forest.moved map).node id).slots = (forest.node id).slots :=
  RawNode.lookup_moved_eq map RawNode.slots (fun _ => rfl) forest.nodes id

@[simp] theorem hasModifier_moved (kind : NodeKind) :
    (forest.moved map).hasModifier id kind = forest.hasModifier id kind := by
  simp only [hasModifier, modifiers_moved, kind_moved]

theorem mergeSort_congr {first second : RawId → RawId → Bool} {ids : List RawId}
    (same : ∀ id ∈ ids, ∀ other ∈ ids, first id other = second id other) :
    ids.mergeSort first = ids.mergeSort second := by
  have sorted := List.map_mergeSort (f := fun id => id) same
  rwa [List.map_id', List.map_id'] at sorted

theorem children_moved : (forest.moved map).children = forest.children := by
  funext id
  rw [children, slots_moved, children]
  refine mergeSort_congr fun first firstMember second secondMember => ?_
  rw [node_moved_of_lt map (lt_size_of_mem_slots id firstMember),
    node_moved_of_lt map (lt_size_of_mem_slots id secondMember)]
  exact decide_eq_decide.2 (map.move_le_iff _ _)

end RawForest

namespace ParentIndex

theorem build?_of_children {forest other : RawForest} {root : RawId} {index : ParentIndex}
    (same : other.children = forest.children) (built : build? forest root = .ok index) :
    build? other root = .ok index := by
  have descentEq : other.descent = forest.descent := by
    simp only [RawForest.descent, same]
  have childEntriesEq : childEntries other = childEntries forest := by
    funext parent
    simp only [childEntries, same]
  have entriesEq : slotEntries other = slotEntries forest := by
    funext parents
    simp only [slotEntries, childEntriesEq]
  rw [build?_eq_ok_iff] at built ⊢
  rwa [descentEq, entriesEq]

end ParentIndex

namespace PublicNode

variable {text other : Text} (map : Reoffset text other)

def moved (node : PublicNode) : PublicNode :=
  { node with
    start := map.move node.start
    stop := map.move node.stop
    start_le_stop := map.move_le_move node.start_le_stop }

theorem lookup_moved_of_lt {nodes : Array PublicNode} {id : PublicId} (inside : id < nodes.size) :
    lookup (nodes.map (moved map)) id = (lookup nodes id).moved map := by
  simp [lookup, inside]

theorem lookup_moved_of_size_le {nodes : Array PublicNode} {id : PublicId}
    (beyond : nodes.size ≤ id) : lookup (nodes.map (moved map)) id = lookup nodes id := by
  simp [lookup, beyond]

theorem lookup_moved_eq {Field : Type} (field : PublicNode → Field)
    (kept : ∀ node : PublicNode, field (node.moved map) = field node) (nodes : Array PublicNode)
    (id : PublicId) : field (lookup (nodes.map (moved map)) id) = field (lookup nodes id) :=
  field_getD_map field kept nodes id default

end PublicNode

namespace PublicForest

variable {text other : Text} (map : Reoffset text other) (forest : PublicForest)

def moved : PublicForest :=
  ⟨forest.nodes.map (PublicNode.moved map), fun id => by
    have childrenEq := PublicNode.lookup_moved_eq map PublicNode.children (fun _ => rfl)
      forest.nodes id
    rw [childrenEq]
    exact forest.children_lt id⟩

@[simp] theorem value_moved (id : PublicId) :
    ((forest.moved map).node id).value = (forest.node id).value :=
  PublicNode.lookup_moved_eq map PublicNode.value (fun _ => rfl) forest.nodes id

theorem children_moved : (forest.moved map).children = forest.children := by
  funext id
  exact PublicNode.lookup_moved_eq map PublicNode.children (fun _ => rfl) forest.nodes id

theorem descent_moved : (forest.moved map).descent = forest.descent := by
  simp only [descent, children_moved]

end PublicForest

namespace SourceFile

variable {other : Text} (file : SourceFile) (map : Reoffset file.text other)

theorem root_lt_size : file.root < file.forest.size := by
  by_cases inside : file.root < file.forest.size
  · exact inside
  · have kind := file.root_kind
    rw [RawForest.node, RawNode.lookup_of_size_le (Nat.le_of_not_lt inside)] at kind
    cases kind

theorem root_kind_moved : ((file.forest.moved map).node file.root).kind = .sourceFile := by
  rw [RawForest.kind_moved, file.root_kind]

theorem root_inside_moved : ((file.forest.moved map).node file.root).stop ≤ other.length := by
  rw [RawForest.node_moved_of_lt map file.root_lt_size, ← map.move_length]
  exact map.move_le_move file.root_inside

theorem parents_moved :
    ParentIndex.build? (file.forest.moved map) file.root = .ok file.parents :=
  ParentIndex.build?_of_children (file.forest.children_moved map) file.parents_eq

def moved : SourceFile where
  forest := file.forest.moved map
  root := file.root
  text := other
  length := map.move file.text.length
  lineStarts := ⟨Text.lineStarts other⟩
  parents := file.parents
  root_kind := file.root_kind_moved map
  root_inside := file.root_inside_moved map
  length_eq := map.move_length
  lineStarts_eq := rfl
  parents_eq := file.parents_moved map

@[simp] theorem forest_moved : (file.moved map).forest = file.forest.moved map := rfl

theorem parentOf_moved (id : RawId) : (file.moved map).parentOf id = file.parentOf id := rfl

theorem rawRange_moved {id : RawId} (inside : id < file.forest.size) :
    (file.moved map).rawRange id =
      (map.move (file.rawRange id).1, map.move (file.rawRange id).2) := by
  have nodeEq := RawForest.node_moved_of_lt map inside
  have skipped : (file.moved map).skipTrivia (map.move (file.forest.node id).pos) =
      map.move (file.skipTrivia (file.forest.node id).pos) := map.skipTrivia_move _
  simp only [rawRange, forest_moved, nodeEq, RawNode.moved, skipped, map.move_min]

theorem publicRange_moved {text : Text} (map : Reoffset text other) (publics : PublicForest)
    (shown : PublicId) (inside : shown < publics.size ∨ map.move 0 = 0) :
    publicRange (publics.moved map) shown =
      (map.move (publicRange publics shown).1, map.move (publicRange publics shown).2) := by
  by_cases present : shown < publics.size
  · have nodeEq : (publics.moved map).node shown = (publics.node shown).moved map :=
      PublicNode.lookup_moved_of_lt map present
    simp only [publicRange, nodeEq, PublicNode.moved]
  · have beyond : publics.nodes.size ≤ shown := Nat.le_of_not_lt present
    have fixed := inside.resolve_left present
    have nodeEq : (publics.moved map).node shown = publics.node shown :=
      PublicNode.lookup_moved_of_size_le map beyond
    have blank : publicRange publics shown = (0, 0) := by
      simp [publicRange, PublicForest.node, PublicNode.lookup, beyond, Inhabited.default]
    rw [publicRange, nodeEq, ← publicRange, blank, fixed]

theorem locate_moved {range : Nat × Nat} (ordered : range.1 ≤ range.2) :
    (file.moved map).locate (map.move range.1, map.move range.2) =
      map.onLocated (file.locate range) := by
  have movedText : (file.moved map).text = other := rfl
  by_cases inside : range.2 ≤ file.text.length
  · have movedInside : map.move range.2 ≤ (file.moved map).text.length := by
      rw [movedText, ← map.move_length]
      exact map.move_le_move inside
    rw [file.locate_of_inside ordered inside,
      (file.moved map).locate_of_inside (map.move_le_move ordered) movedInside]
    simp only [Reoffset.onLocated, Reoffset.onLocation, movedText,
      map.position_move _ inside, map.position_move _ (Nat.le_trans ordered inside)]
  · have beyond : file.text.length < range.2 := Nat.lt_of_not_le inside
    have movedBeyond : (file.moved map).text.length < map.move range.2 := by
      rw [movedText, ← map.move_length]
      exact map.move_lt_move beyond
    rw [file.locate_of_beyond beyond, (file.moved map).locate_of_beyond movedBeyond]
    simp only [Reoffset.onLocated, Reoffset.onFault, Int.toNat_natCast, map.move_length, movedText]
    have startIff := map.move_lt_iff file.text.length range.1
    rw [map.move_length] at startIff
    by_cases startBeyond : file.text.length < range.1
    · rw [if_pos startBeyond, if_pos (startIff.2 startBeyond)]
    · rw [if_neg startBeyond, if_neg (mt startIff.1 startBeyond)]

theorem rawLocation_moved {id : RawId} (inside : id < file.forest.size) :
    (file.moved map).rawLocation id = map.onLocated (file.rawLocation id) := by
  rw [rawLocation, file.rawRange_moved map inside, file.locate_moved map (file.rawRange_ordered id)]
  rfl

theorem publicLocation_moved (publics : PublicForest) (shown : PublicId)
    (inside : shown < publics.size ∨ map.move 0 = 0) :
    (file.moved map).publicLocation (publics.moved map) shown =
      map.onLocated (file.publicLocation publics shown) := by
  rw [publicLocation, publicRange_moved map publics shown inside,
    file.locate_moved map (publicRange_ordered publics shown)]
  rfl

end SourceFile

/-- The parse result of the other text: the same trees where they stand there, and the same
correlation. -/
def ParseResult.moved (result : ParseResult) {other : Text} (map : Reoffset result.text other) :
    ParseResult where
  publics := result.publics.moved map
  ast := result.ast
  correlation := result.correlation
  file := result.file.moved map

/-- A surface whose predicates look at kinds of nodes and at nothing else. -/
structure Surface.SeesKinds (surface : Surface) : Prop where
  classLike : ∃ holds : Option NodeKind → Bool, ∀ forest id,
    surface.isClassLike forest id = holds (id.map fun id => (forest.node id).kind)
  decorator : ∃ holds : NodeKind → Bool, ∀ forest id,
    surface.isDecorator forest id = holds (forest.node id).kind
  propertyDeclaration : ∃ holds : NodeKind → Bool, ∀ forest id,
    surface.isPropertyDeclaration forest id = holds (forest.node id).kind

theorem Surface.typeScript_seesKinds : typeScript.SeesKinds := by
  refine ⟨⟨fun kind => kind.any isTypeScriptClass, fun forest id => ?_⟩,
    ⟨(· == .decorator), fun _ _ => rfl⟩, ⟨(· == .propertyDeclaration), fun _ _ => rfl⟩⟩
  cases id <;> rfl

namespace Surface.SeesKinds

variable {surface : Surface} (sees : surface.SeesKinds)
include sees

theorem applies_congr {forest other : RawForest} {id twin : RawId} {parent twinParent : Option RawId}
    (sameKind : (other.node twin).kind = (forest.node id).kind)
    (sameParent : (twinParent.map fun holder => (other.node holder).kind) =
      parent.map fun holder => (forest.node holder).kind)
    (rule : ModifierRule) (modifier : NodeKind) :
    rule.applies surface other modifier twin twinParent =
      rule.applies surface forest modifier id parent := by
  obtain ⟨classHolds, classLike⟩ := sees.classLike
  obtain ⟨propertyHolds, propertyDeclaration⟩ := sees.propertyDeclaration
  have anyEq : ∀ (forest : RawForest) (parent : Option RawId) (kinds : List NodeKind),
      (parent.any fun holder => kinds.contains (forest.node holder).kind) =
        (parent.map fun holder => (forest.node holder).kind).any kinds.contains := by
    intro forest parent kinds
    cases parent <;> rfl
  cases rule <;>
    simp only [ModifierRule.applies, classLike, propertyDeclaration, anyEq, sameKind, sameParent]

theorem firstViolated_congr {forest other : RawForest} {id twin : RawId}
    {parent twinParent : Option RawId}
    (sameKind : (other.node twin).kind = (forest.node id).kind)
    (sameParent : (twinParent.map fun holder => (other.node holder).kind) =
      parent.map fun holder => (forest.node holder).kind) (modifier : NodeKind) :
    ModifierRule.firstViolated surface other modifier twin twinParent =
      ModifierRule.firstViolated surface forest modifier id parent := by
  simp only [ModifierRule.firstViolated, sees.applies_congr sameKind sameParent]

variable {text other : Text} (map : Reoffset text other) (forest : RawForest)

theorem isDecorator_moved (id : RawId) :
    surface.isDecorator (forest.moved map) id = surface.isDecorator forest id := by
  obtain ⟨holds, decorator⟩ := sees.decorator
  simp only [decorator, RawForest.kind_moved]

theorem isPropertyDeclaration_moved (id : RawId) :
    surface.isPropertyDeclaration (forest.moved map) id =
      surface.isPropertyDeclaration forest id := by
  obtain ⟨holds, propertyDeclaration⟩ := sees.propertyDeclaration
  simp only [propertyDeclaration, RawForest.kind_moved]

theorem firstViolated_moved (modifier : NodeKind) (id : RawId) (parent : Option RawId) :
    ModifierRule.firstViolated surface (forest.moved map) modifier id parent =
      ModifierRule.firstViolated surface forest modifier id parent :=
  sees.firstViolated_congr (forest.kind_moved map id) (by simp only [RawForest.kind_moved]) modifier

end Surface.SeesKinds

namespace Check

section Report

variable {text other : Text} (map : Reoffset text other)

theorem onFault_of_check {cause : CauseDraft} {fault : Fault} (refused : cause.check = .error fault) :
    map.onFault fault = fault := by
  cases cause with
  | decorator => cases refused
  | abstractInitializer => cases refused
  | modifier rule spelling =>
      cases rule with
      | none =>
          cases refused
          rfl
      | some rule =>
          simp only [CauseDraft.check] at refused
          split at refused
          · cases refused
            rfl
          · cases refused
  | other className kind => cases refused

theorem report_onLocated (cause : CauseDraft) (located : Except Fault Location) (reason : String) :
    report cause (map.onLocated located) reason =
      map.onFailure (report cause located reason) := by
  cases located with
  | error fault => rfl
  | ok location =>
      simp only [report, Reoffset.onLocated, Violation.build?_some]
      cases checked : cause.check with
      | error fault => simp only [Reoffset.onFailure, onFault_of_check map checked]
      | ok cause =>
          by_cases empty : reason = ""
          · simp only [empty, ↓reduceDIte]
            rfl
          · simp only [empty, ↓reduceDIte]
            rfl

end Report

variable {surface : Surface} (sees : surface.SeesKinds) (file : SourceFile) {other : Text}
  (map : Reoffset file.text other)

theorem checkDecorators_moved (raw : RawId) :
    checkDecorators (file.moved map) raw = (checkDecorators file raw).mapError map.onFailure := by
  simp only [checkDecorators, SourceFile.forest_moved, RawForest.illegalDecorators_moved,
    RawForest.expression_moved]
  cases (file.forest.node raw).illegalDecorators with
  | nil => rfl
  | cons first rest =>
      dsimp only
      cases expressed : (file.forest.node first).expression with
      | none => rfl
      | some expression =>
          have inside : expression < file.forest.size :=
            RawForest.lt_size_of_mem_slots first (by simp [RawNode.slots, expressed])
          simp only [file.rawLocation_moved map inside, report_onLocated]
          rfl

include sees

theorem checkAbstractProperty_moved (publics : PublicForest) (raw : RawId) (shown : PublicId)
    (inside : shown < publics.size ∨ map.move 0 = 0) :
    checkAbstractProperty surface (publics.moved map) (file.moved map) raw shown =
      (checkAbstractProperty surface publics file raw shown).mapError map.onFailure := by
  have hidesEq : hidesInitializer surface (publics.moved map) (file.moved map).forest raw shown =
      hidesInitializer surface publics file.forest raw shown := by
    simp only [hidesInitializer, SourceFile.forest_moved, sees.isPropertyDeclaration_moved,
      RawForest.initializer_moved, PublicForest.value_moved, RawForest.hasModifier_moved]
  simp only [checkAbstractProperty, hidesEq]
  split
  · simp only [file.publicLocation_moved map publics shown inside, report_onLocated]
    rfl
  · rfl

theorem firstMisplaced_moved (raw : RawId) :
    firstMisplaced surface (file.moved map) raw = firstMisplaced surface file raw := by
  simp only [firstMisplaced, SourceFile.parentOf_moved, SourceFile.forest_moved,
    RawForest.modifiers_moved, RawForest.kind_moved, sees.isDecorator_moved,
    sees.firstViolated_moved]

theorem checkModifiers_moved (raw : RawId) :
    checkModifiers surface (file.moved map) raw =
      (checkModifiers surface file raw).mapError map.onFailure := by
  simp only [checkModifiers, firstMisplaced_moved sees]
  cases misplaced : firstMisplaced surface file raw with
  | none => rfl
  | some found =>
      obtain ⟨modifier, rule⟩ := found
      have member := (firstMisplaced_eq_some misplaced).1
      have inside : modifier < file.forest.size :=
        RawForest.lt_size_of_mem_slots raw (by simp [RawNode.slots, member])
      simp only [reportModifier, SourceFile.forest_moved, RawForest.kind_moved, Surface.keywordText]
      cases surface.tokenText (file.forest.node modifier).kind with
      | none => rfl
      | some spelling =>
          simp only [file.rawLocation_moved map inside, report_onLocated]
          rfl

theorem builtin_moved (name : CheckName) (publics : PublicForest) (raw : RawId) (shown : PublicId)
    (inside : shown < publics.size ∨ map.move 0 = 0) :
    (builtin name).run surface (publics.moved map) (file.moved map) raw shown =
      ((builtin name).run surface publics file raw shown).mapError map.onFailure := by
  cases name with
  | decorators => exact checkDecorators_moved file map raw
  | abstractProperty => exact checkAbstractProperty_moved sees file map publics raw shown inside
  | modifiers => exact checkModifiers_moved sees file map raw

end Check

namespace Validator

theorem inspect_moved {surface : Surface} (sees : surface.SeesKinds) (result : ParseResult)
    {other : Text} (map : Reoffset result.text other)
    (inside : result.ast < result.publics.size ∨ map.move 0 = 0) (names : List CheckName)
    (usesFastPath : Bool) :
    (inspect ⟨names.map Check.builtin, usesFastPath⟩ surface (result.moved map)).outcome =
      (inspect ⟨names.map Check.builtin, usesFastPath⟩ surface result).outcome.mapError
        map.onFailure := by
  have sameTasks : tasksBelow (names.map Check.builtin) (result.moved map) result.ast =
      tasksBelow (names.map Check.builtin) result result.ast := by
    have descentEq : (result.moved map).publics.descent = result.publics.descent :=
      result.publics.descent_moved map
    rw [tasksBelow, descentEq]
    rfl
  rw [inspect_builtin, inspect_builtin, walk_outcome_eq_forM, walk_outcome_eq_forM]
  have astEq : (result.moved map).ast = result.ast := rfl
  rw [astEq, sameTasks]
  refine forM_mapError fun task due => ?_
  obtain ⟨reached, _, enabled⟩ := of_mem_tasksBelow due
  obtain ⟨name, _, checkEq⟩ := List.mem_map.1 enabled
  have shownInside : task.run.shown < result.publics.size ∨ map.move 0 = 0 :=
    inside.imp_left (Nat.lt_of_le_of_lt reached.le)
  simp only [Task.outcome, ← checkEq]
  exact Check.builtin_moved sees result.file map name result.publics task.run.raw task.run.shown
    shownInside

end Validator

end Placement
