import Placement.Proofs.Preorder
import Placement.SourceFile

/-!
The parent index holds exactly the child slots of the nodes below the root: it records every node that
the walk takes from its stack as the parent of what stands in its slots, and each node at most once.
-/

namespace Placement

namespace ParentIndex

def childEntries (forest : RawForest) (parent : RawId) : ParentIndex :=
  (forest.children parent).map fun child => (child, parent)

def slotEntries (forest : RawForest) (parents : List RawId) : ParentIndex :=
  parents.flatMap (childEntries forest)

theorem mem_slotEntries_iff (forest : RawForest) (parents : List RawId) (id parent : RawId) :
    (id, parent) ∈ slotEntries forest parents ↔
      parent ∈ parents ∧ id ∈ (forest.node parent).slots := by
  simp only [slotEntries, childEntries, List.mem_flatMap, List.mem_map, Prod.mk.injEq,
    RawForest.mem_children_iff]
  constructor
  · rintro ⟨_, member, _, slot, rfl, rfl⟩
    exact ⟨member, slot⟩
  · rintro ⟨member, slot⟩
    exact ⟨parent, member, id, slot, rfl, rfl⟩

theorem map_fst_childEntries (forest : RawForest) (parent : RawId) :
    (childEntries forest parent).map Prod.fst = forest.children parent := by
  simp [childEntries, Function.comp_def]

theorem slotEntries_walkFrom_cons (forest : RawForest) (parent : RawId) (rest : List RawId) :
    slotEntries forest (forest.descent.reversed.walkFrom (parent :: rest)) =
      childEntries forest parent ++ slotEntries forest
        (forest.descent.reversed.walkFrom ((forest.children parent).reverse ++ rest)) := by
  rw [Descent.walkFrom]
  rfl

structure AreNew (root : RawId) (index : ParentIndex) (ids : List RawId) : Prop where
  unique : ids.Nodup
  unrecorded : ∀ id ∈ ids, id ∉ index.map Prod.fst
  below_root : ∀ id ∈ ids, id ≠ root

theorem areNew_append_iff (root : RawId) (index added : ParentIndex) (ids : List RawId) :
    AreNew root index (added.map Prod.fst ++ ids) ↔
      AreNew root index (added.map Prod.fst) ∧ AreNew root (added.reverse ++ index) ids := by
  constructor
  · intro new
    obtain ⟨addedUnique, idsUnique, apart⟩ := List.nodup_append.1 new.unique
    refine ⟨⟨addedUnique, ?_, ?_⟩, ⟨idsUnique, ?_, ?_⟩⟩
    · exact fun id member => new.unrecorded id (List.mem_append_left _ member)
    · exact fun id member => new.below_root id (List.mem_append_left _ member)
    · intro id member recorded
      rw [List.map_append, List.map_reverse, List.mem_append, List.mem_reverse] at recorded
      rcases recorded with fresh | old
      · exact apart id fresh id member rfl
      · exact new.unrecorded id (List.mem_append_right _ member) old
    · exact fun id member => new.below_root id (List.mem_append_right _ member)
  · rintro ⟨first, later⟩
    have laterApart : ∀ id ∈ ids, id ∉ added.map Prod.fst ∧ id ∉ index.map Prod.fst := by
      intro id member
      have unrecorded := later.unrecorded id member
      rw [List.map_append, List.map_reverse, List.mem_append, List.mem_reverse] at unrecorded
      exact not_or.1 unrecorded
    refine ⟨List.nodup_append.2 ⟨first.unique, later.unique, ?_⟩, ?_, ?_⟩
    · rintro id fresh _ member rfl
      exact (laterApart id member).1 fresh
    · intro id member
      rcases List.mem_append.1 member with fresh | old
      · exact first.unrecorded id fresh
      · exact (laterApart id old).2
    · intro id member
      rcases List.mem_append.1 member with fresh | old
      · exact first.below_root id fresh
      · exact later.below_root id old

theorem areNew_singleton_iff (root : RawId) (index : ParentIndex) (id : RawId) :
    AreNew root index [id] ↔ ¬(id = root ∨ (index.lookup id).isSome) := by
  have recorded : (index.lookup id).isSome ↔ id ∈ index.map Prod.fst := by
    rw [List.lookup_isSome_iff, List.mem_map]
    exact exists_congr fun entry => and_congr_right fun _ => by rw [beq_iff_eq, eq_comm]
  rw [recorded, not_or]
  constructor
  · intro new
    exact ⟨new.below_root id (by simp), new.unrecorded id (by simp)⟩
  · rintro ⟨below, unrecorded⟩
    exact ⟨by simp, by simpa using unrecorded, by simpa using below⟩

theorem recordChildren_eq_ok_iff (forest : RawForest) (root parent : RawId)
    (children : List RawId) (index extended : ParentIndex) :
    recordChildren forest root parent children index = .ok extended ↔
      AreNew root index children ∧
        extended = (children.map fun child => (child, parent)).reverse ++ index := by
  induction children generalizing index with
  | nil =>
      simp only [recordChildren, Except.ok.injEq, List.map_nil, List.reverse_nil, List.nil_append]
      constructor
      · rintro rfl
        exact ⟨⟨.nil, by simp, by simp⟩, rfl⟩
      · rintro ⟨_, rfl⟩
        rfl
  | cons child rest ih =>
      have split := areNew_append_iff root index [(child, parent)] rest
      simp only [List.map_cons, List.map_nil, List.reverse_singleton, List.singleton_append,
        areNew_singleton_iff] at split
      rw [recordChildren, split, List.map_cons, List.reverse_cons, List.append_assoc,
        List.singleton_append, and_assoc, ← ih]
      by_cases known : child = root ∨ (index.lookup child).isSome
      · simp only [known, ↓reduceIte, reduceCtorEq, not_true_eq_false, false_and]
      · simp only [known, ↓reduceIte, not_false_eq_true, true_and]

theorem recordFrom_eq_ok_iff (forest : RawForest) (root : RawId) (stack : List RawId)
    (index final : ParentIndex) :
    recordFrom forest root stack index = .ok final ↔
      AreNew root index
          ((slotEntries forest (forest.descent.reversed.walkFrom stack)).map Prod.fst) ∧
        final = (slotEntries forest (forest.descent.reversed.walkFrom stack)).reverse ++ index := by
  fun_induction recordFrom forest root stack index with
  | case1 index =>
      simp only [Descent.walkFrom, slotEntries, List.flatMap_nil, List.map_nil, List.reverse_nil,
        List.nil_append, Except.ok.injEq]
      constructor
      · rintro rfl
        exact ⟨⟨.nil, by simp, by simp⟩, rfl⟩
      · rintro ⟨_, rfl⟩
        rfl
  | case2 parent rest index fault failed =>
      rw [slotEntries_walkFrom_cons, List.map_append, areNew_append_iff, map_fst_childEntries]
      constructor
      · intro impossible
        cases impossible
      · rintro ⟨⟨new, _⟩, _⟩
        rw [(recordChildren_eq_ok_iff forest root parent _ index _).2 ⟨new, rfl⟩] at failed
        cases failed
  | case3 parent rest index extended recorded ih =>
      obtain ⟨new, rfl⟩ := (recordChildren_eq_ok_iff forest root parent _ index _).1 recorded
      rw [slotEntries_walkFrom_cons, List.map_append, areNew_append_iff, map_fst_childEntries,
        List.reverse_append, List.append_assoc]
      rw [ih]
      simp only [new, true_and]
      rfl

theorem build?_eq_ok_iff (forest : RawForest) (root : RawId) (index : ParentIndex) :
    build? forest root = .ok index ↔
      AreNew root [] ((slotEntries forest (forest.descent.reversed.walkFrom [root])).map Prod.fst) ∧
        index = (slotEntries forest (forest.descent.reversed.walkFrom [root])).reverse := by
  rw [build?, recordFrom_eq_ok_iff, List.append_nil]

theorem lookup_eq_some_iff_mem (index : ParentIndex) (id parent : RawId)
    (unique : (index.map Prod.fst).Nodup) :
    index.lookup id = some parent ↔ (id, parent) ∈ index := by
  induction index with
  | nil => simp
  | cons entry rest ih =>
      obtain ⟨child, holder⟩ := entry
      rw [List.map_cons, List.nodup_cons] at unique
      rw [List.lookup_cons, List.mem_cons, Prod.mk.injEq]
      by_cases same : id = child
      · subst same
        have absent : (id, parent) ∉ rest := fun member =>
          unique.1 (List.mem_map.2 ⟨_, member, rfl⟩)
        simp [absent, eq_comm]
      · rw [beq_false_of_ne same]
        simp only [same, false_and, false_or, ih unique.2]

end ParentIndex

namespace SourceFile

/-- The node below the root that has another node in one of its slots. -/
def Holds (file : SourceFile) (holder id : RawId) : Prop :=
  file.forest.descent.Reaches file.root holder ∧ id ∈ (file.forest.node holder).slots

theorem parentOf_eq_some_iff (file : SourceFile) (id holder : RawId) :
    file.parentOf id = some holder ↔ file.Holds holder id := by
  obtain ⟨new, parentsEq⟩ := (ParentIndex.build?_eq_ok_iff _ _ _).1 file.parents_eq
  have unique : (file.parents.map Prod.fst).Nodup := by
    rw [parentsEq, List.map_reverse]
    exact (List.reverse_perm _).nodup_iff.2 new.unique
  rw [parentOf, ParentIndex.parentOf, ParentIndex.lookup_eq_some_iff_mem _ _ _ unique, parentsEq,
    List.mem_reverse, ParentIndex.mem_slotEntries_iff, Descent.mem_walkFrom_iff, Holds]
  simp only [List.mem_singleton, exists_eq_left, Descent.reversed_reaches_iff]

/-- What stands for the parent of a node: its holder, or nothing if no node below the root holds it. -/
def IsParent (file : SourceFile) (id : RawId) : Option RawId → Prop
  | some holder => file.Holds holder id
  | none => ∀ holder, ¬file.Holds holder id

theorem parentOf_eq_iff (file : SourceFile) (id : RawId) (parent : Option RawId) :
    file.parentOf id = parent ↔ file.IsParent id parent := by
  cases parent with
  | some holder => exact file.parentOf_eq_some_iff id holder
  | none =>
      simp only [IsParent, ← parentOf_eq_some_iff]
      exact Option.eq_none_iff_forall_ne_some

end SourceFile

end Placement
