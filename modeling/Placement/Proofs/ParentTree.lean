import Placement.Proofs.LocatedFailure
import Placement.Proofs.TreeShape

/-!
A source file exists exactly over a tree: the index records a node where it first meets it, refuses the
first node that it meets again, and leads from each of its nodes to the root.
-/

namespace Placement

namespace ParentIndex

theorem areNew_nil_iff (root : RawId) (ids : List RawId) :
    AreNew root [] ids ↔ (root :: ids).Nodup := by
  rw [List.nodup_cons]
  constructor
  · intro new
    exact ⟨fun member => new.below_root root member rfl, new.unique⟩
  · rintro ⟨absent, unique⟩
    refine ⟨unique, fun _ _ => List.not_mem_nil, ?_⟩
    rintro id member rfl
    exact absent member

theorem map_fst_slotEntries (forest : RawForest) (parents : List RawId) :
    (slotEntries forest parents).map Prod.fst = parents.flatMap forest.children := by
  simp only [slotEntries, List.map_flatMap, map_fst_childEntries]

theorem exists_index_iff (forest : RawForest) (root : RawId) :
    (∃ index, build? forest root = .ok index) ↔ forest.IsTree root := by
  have metTwice := (forest.descent.reversed.preorder_perm root).nodup_iff
  have turned : (forest.descent.reversed.preorder root).flatMap forest.descent.reversed.next
      |>.Perm ((forest.descent.reversed.preorder root).flatMap forest.children) :=
    .flatMap_left _ fun _ _ => List.reverse_perm _
  have walked : forest.descent.reversed.walkFrom [root] = forest.descent.reversed.preorder root := by
    rw [Descent.walkFrom_eq_flatMap, List.flatMap_singleton]
  rw [forest.isTree_iff_nodup_preorder, ← (forest.descent.reversed_preorder_perm root).nodup_iff,
    metTwice, (turned.cons root).nodup_iff, ← areNew_nil_iff, ← map_fst_slotEntries, ← walked]
  simp only [build?_eq_ok_iff, exists_and_left, exists_eq, and_true]

theorem recordChildren_fault {forest : RawForest} {root parent : RawId} {children : List RawId}
    {index : ParentIndex} {fault : Fault}
    (failed : recordChildren forest root parent children index = .error fault) :
    ∃ id ∈ children, (id = root ∨ 2 ≤ (index.map Prod.fst ++ children).count id) ∧
      fault = .reachableTwice (forest.node id).kind (forest.node id).pos := by
  fun_induction recordChildren forest root parent children index with
  | case1 index => cases failed
  | case2 child rest index known =>
      cases failed
      refine ⟨child, List.mem_cons_self, known.imp_right fun recorded => ?_, rfl⟩
      obtain ⟨entry, member, same⟩ := List.lookup_isSome_iff.1 recorded
      have listed : child ∈ index.map Prod.fst :=
        List.mem_map.2 ⟨entry, member, (beq_iff_eq.1 same).symm⟩
      have before := List.count_pos_iff.2 listed
      rw [List.count_append, List.count_cons_self]
      omega
  | case3 child rest index fresh ih =>
      obtain ⟨id, member, again, faultEq⟩ := ih failed
      refine ⟨id, List.mem_cons_of_mem _ member, again.imp_right fun twice => ?_, faultEq⟩
      rw [List.perm_middle.count_eq]
      exact twice

/-- A walk under way: nodes taken from the stack have their slots recorded, and the nodes taken or on
the stack are the root and the recorded ones, each once. -/
structure Progress (forest : RawForest) (root : RawId) (taken stack : List RawId)
    (index : ParentIndex) : Prop where
  met : (taken ++ stack).Perm (root :: index.map Prod.fst)
  unique : (root :: index.map Prod.fst).Nodup
  recorded : (index.map Prod.fst).Perm (taken.flatMap forest.children)
  reached : ∀ id ∈ taken ++ stack, forest.descent.Reaches root id

theorem Progress.initial (forest : RawForest) (root : RawId) :
    Progress forest root [] [root] [] where
  met := .refl _
  unique := List.nodup_singleton root
  recorded := .refl _
  reached id member := by
    rw [List.mem_singleton.1 member]
    exact .self

theorem Progress.next {forest : RawForest} {root parent : RawId} {taken rest : List RawId}
    {index extended : ParentIndex} (progress : Progress forest root taken (parent :: rest) index)
    (recorded : recordChildren forest root parent (forest.children parent) index = .ok extended) :
    Progress forest root (taken ++ [parent]) ((forest.children parent).reverse ++ rest)
      extended := by
  obtain ⟨new, rfl⟩ := (recordChildren_eq_ok_iff forest root parent _ index _).1 recorded
  have keys : ((childEntries forest parent).reverse ++ index).map Prod.fst =
      (forest.children parent).reverse ++ index.map Prod.fst := by
    rw [List.map_append, List.map_reverse, map_fst_childEntries]
  rw [childEntries] at keys
  have pushed : (taken ++ [parent] ++ ((forest.children parent).reverse ++ rest)).Perm
      ((forest.children parent).reverse ++ (root :: index.map Prod.fst)) := by
    refine (List.perm_append_comm_assoc _ _ _).trans (List.Perm.append_left _ ?_)
    rw [List.append_assoc, List.singleton_append]
    exact progress.met
  refine ⟨?_, ?_, ?_, ?_⟩
  · rw [keys]
    exact pushed.trans List.perm_middle
  · rw [keys, ← List.perm_middle.nodup_iff, List.nodup_append]
    refine ⟨List.nodup_reverse.2 new.unique, progress.unique, ?_⟩
    rintro id child known entry rfl
    have isChild := List.mem_reverse.1 child
    rcases List.mem_cons.1 entry with isRoot | isRecorded
    · exact new.below_root id isChild isRoot
    · exact new.unrecorded id isChild isRecorded
  · rw [keys, List.flatMap_append, List.flatMap_singleton]
    exact ((List.reverse_perm _).append progress.recorded).trans List.perm_append_comm
  · intro id member
    have parentReached := progress.reached parent (by simp)
    rcases List.mem_append.1 (pushed.mem_iff.1 member) with child | known
    · exact .step parentReached (List.mem_reverse.1 child)
    · exact progress.reached id (progress.met.mem_iff.2 known)

theorem Progress.occurs_twice {forest : RawForest} {root parent : RawId} {taken rest : List RawId}
    {index : ParentIndex} {fault : Fault}
    (progress : Progress forest root taken (parent :: rest) index)
    (failed : recordChildren forest root parent (forest.children parent) index = .error fault) :
    ∃ id, forest.descent.Reaches root id ∧ 2 ≤ forest.occurrences root id ∧
      fault = .reachableTwice (forest.node id).kind (forest.node id).pos := by
  obtain ⟨id, child, again, faultEq⟩ := recordChildren_fault failed
  have parentReached := progress.reached parent (by simp)
  have notRoot : id ≠ root :=
    Nat.ne_of_lt (Nat.lt_of_lt_of_le (forest.descent.next_lt parent id child) parentReached.le)
  have twice := again.resolve_left notRoot
  have visitedOnce : (taken ++ [parent]).Nodup := by
    have metOnce := progress.met.nodup_iff.2 progress.unique
    rw [← List.singleton_append, ← List.append_assoc] at metOnce
    exact (List.nodup_append.1 metOnce).1
  have visitedReached : ∀ holder ∈ taken ++ [parent], forest.descent.Reaches root holder := by
    intro holder member
    exact progress.reached holder (by simp at member ⊢; tauto)
  have linked := Descent.count_flatMap_le_linkCount visitedOnce visitedReached id
  rw [List.flatMap_append, List.flatMap_singleton, forest.linkCount_eq_occurrences] at linked
  rw [(progress.recorded.append_right _).count_eq] at twice
  exact ⟨id, .step parentReached child, Nat.le_trans twice linked, faultEq⟩

theorem recordFrom_fault {forest : RawForest} {root : RawId} {taken stack : List RawId}
    {index : ParentIndex} {fault : Fault} (progress : Progress forest root taken stack index)
    (failed : recordFrom forest root stack index = .error fault) :
    ∃ id, forest.descent.Reaches root id ∧ 2 ≤ forest.occurrences root id ∧
      fault = .reachableTwice (forest.node id).kind (forest.node id).pos := by
  fun_induction recordFrom forest root stack index generalizing taken with
  | case1 index => cases failed
  | case2 parent rest index found recorded =>
      cases failed
      exact progress.occurs_twice recorded
  | case3 parent rest index extended recorded ih => exact ih (progress.next recorded) failed

end ParentIndex

namespace SourceFile

theorem build?_eq_ok_iff_fields (forest : RawForest) (text : Text) (root : RawId)
    (file : SourceFile) :
    build? forest (some text) (some root) = .ok file ↔
      file.forest = forest ∧ file.text = text ∧ file.root = root := by
  rw [build?]
  constructor
  · intro built
    split at built
    · split at built
      · split at built
        · cases built
        · cases built
          exact ⟨rfl, rfl, rfl⟩
      · cases built
    · cases built
  · rintro ⟨rfl, rfl, rfl⟩
    obtain ⟨forest, root, text, length, starts, parents, kind, inside, rfl, rfl, indexed⟩ := file
    rw [dif_pos kind, dif_pos inside]
    split
    · next fault failed => cases failed.symm.trans indexed
    · next found recorded =>
        obtain rfl := Except.ok.inj (recorded.symm.trans indexed)
        rfl

theorem exists_file_iff (forest : RawForest) (text : Text) (root : RawId) :
    (∃ file, build? forest (some text) (some root) = .ok file) ↔
      (forest.node root).kind = .sourceFile ∧ (forest.node root).stop ≤ text.length ∧
        forest.IsTree root := by
  constructor
  · rintro ⟨file, built⟩
    obtain ⟨rfl, rfl, rfl⟩ := (build?_eq_ok_iff_fields _ _ _ _).1 built
    have tree := (ParentIndex.exists_index_iff _ _).1 ⟨_, file.parents_eq⟩
    exact ⟨file.root_kind, file.root_inside, tree⟩
  · rintro ⟨kind, inside, tree⟩
    obtain ⟨parents, indexed⟩ := (ParentIndex.exists_index_iff _ _).2 tree
    let file : SourceFile :=
      ⟨forest, root, text, _, _, parents, kind, inside, rfl, rfl, indexed⟩
    exact ⟨file, (build?_eq_ok_iff_fields _ _ _ file).2 ⟨rfl, rfl, rfl⟩⟩

/-- Why no file has a root: it is no source file, it ends beyond the text, or it reaches a node that
stands in more than one slot. -/
inductive Misfit (forest : RawForest) (text : Text) (root : RawId) : Fault → Prop where
  | kind (other : (forest.node root).kind ≠ .sourceFile) :
      Misfit forest text root (.rootKind (forest.node root).kind)
  | length (beyond : text.length < (forest.node root).stop) :
      Misfit forest text root (.rootBeyondText (forest.node root).stop text.length)
  | shared {id : RawId} (reached : forest.descent.Reaches root id)
      (twice : 2 ≤ forest.occurrences root id) :
      Misfit forest text root (.reachableTwice (forest.node id).kind (forest.node id).pos)

theorem misfit_of_build? {forest : RawForest} {text : Text} {root : RawId} {fault : Fault}
    (refused : build? forest (some text) (some root) = .error fault) :
    Misfit forest text root fault := by
  rw [build?] at refused
  split at refused
  · split at refused
    · split at refused
      · next found failed =>
          cases refused
          obtain ⟨id, reached, twice, rfl⟩ :=
            ParentIndex.recordFrom_fault (.initial forest root) failed
          exact .shared reached twice
      · cases refused
    · next inside =>
        cases refused
        exact .length (Nat.lt_of_not_le inside)
  · next other =>
      cases refused
      exact .kind other

theorem contains_iff (file : SourceFile) (id : RawId) :
    file.contains id ↔ file.forest.descent.Reaches file.root id := by
  rw [contains, Bool.or_eq_true, beq_iff_eq, Option.isSome_iff_exists]
  simp only [parentOf_eq_some_iff]
  constructor
  · rintro (rfl | ⟨holder, reached, slot⟩)
    · exact .self
    · exact .step reached ((file.forest.mem_children_iff holder id).2 slot)
  · intro reached
    cases reached with
    | self => exact Or.inl rfl
    | step above linked =>
        exact Or.inr ⟨_, above, (file.forest.mem_children_iff _ id).1 linked⟩

theorem parentOf_eq_none_iff (file : SourceFile) (id : RawId) :
    file.parentOf id = none ↔ id = file.root ∨ ¬file.forest.descent.Reaches file.root id := by
  rw [parentOf_eq_iff]
  constructor
  · intro unheld
    refine Classical.or_iff_not_imp_right.2 fun reached => ?_
    cases not_not.1 reached with
    | self => rfl
    | step above linked =>
        exact absurd ⟨above, (file.forest.mem_children_iff _ id).1 linked⟩ (unheld _)
  · rintro outside holder ⟨reached, slot⟩
    have linked := (file.forest.mem_children_iff holder id).2 slot
    rcases outside with rfl | unreached
    · have less := file.forest.descent.next_lt holder file.root linked
      exact Nat.lt_irrefl _ (Nat.lt_of_lt_of_le less reached.le)
    · exact unreached (.step reached linked)

def ancestor (file : SourceFile) : Nat → RawId → Option RawId
  | 0, id => some id
  | steps + 1, id => (file.parentOf id).bind (file.ancestor steps)

theorem exists_ancestor_eq_root (file : SourceFile) {id : RawId} (member : file.contains id) :
    ∃ steps, file.ancestor steps id = some file.root := by
  have reached := (file.contains_iff id).1 member
  clear member
  induction reached with
  | self => exact ⟨0, rfl⟩
  | @step holder child above linked ih =>
      obtain ⟨steps, atRoot⟩ := ih
      have parent : file.parentOf child = some holder :=
        (file.parentOf_eq_some_iff child holder).2
          ⟨above, (file.forest.mem_children_iff holder child).1 linked⟩
      refine ⟨steps + 1, ?_⟩
      rw [ancestor, parent, Option.bind_some, atRoot]

/-- There is a file over a root exactly if the root is a source file within the text and what it
reaches is a tree, and otherwise one of these three is refused. The file contains what the root reaches,
parents are the holders of slots, and they lead to the root. -/
theorem source_file_exactly_over_tree (forest : RawForest) (text : Text) (root : RawId) :
    ((∃ file, build? forest (some text) (some root) = .ok file) ↔
      (forest.node root).kind = .sourceFile ∧ (forest.node root).stop ≤ text.length ∧
        forest.IsTree root) ∧
    (∀ fault, build? forest (some text) (some root) = .error fault →
      Misfit forest text root fault) ∧
    ∀ file, build? forest (some text) (some root) = .ok file →
      (∀ id, file.contains id ↔ forest.descent.Reaches root id) ∧
      (∀ id holder, file.parentOf id = some holder ↔
        forest.descent.Reaches root holder ∧ id ∈ (forest.node holder).slots) ∧
      (∀ id, file.parentOf id = none ↔ id = root ∨ ¬forest.descent.Reaches root id) ∧
      ∀ id, file.contains id → ∃ steps, file.ancestor steps id = some root := by
  refine ⟨exists_file_iff forest text root, fun fault => misfit_of_build?, ?_⟩
  intro file built
  obtain ⟨rfl, rfl, rfl⟩ := (build?_eq_ok_iff_fields _ _ _ _).1 built
  exact ⟨file.contains_iff, file.parentOf_eq_some_iff, file.parentOf_eq_none_iff,
    fun _ => file.exists_ancestor_eq_root⟩

def twiceHeldIdentifier : RawForest :=
  .ofDrafts [
    ⟨some .identifier, 0, 1, none, none, none, none, []⟩,
    ⟨some .sourceFile, 0, 1, none, none, some 0, none, [0]⟩]

theorem twiceHeldIdentifier_refused :
    build? twiceHeldIdentifier (some ['x']) (some 1) = .error (.reachableTwice .identifier 0) := by
  have failed : ParentIndex.build? twiceHeldIdentifier 1 = .error (.reachableTwice .identifier 0) := by
    cbv
  have kind : (twiceHeldIdentifier.node 1).kind = .sourceFile := by decide
  have inside : (twiceHeldIdentifier.node 1).stop ≤ ['x'].length := by decide
  rw [build?, dif_pos kind, dif_pos inside]
  split
  · next fault found => rw [Except.error.inj (found.symm.trans failed)]
  · next parents found => cases found.symm.trans failed

theorem twiceHeldIdentifier_misfit_misplacedReadonly_tree :
    Misfit twiceHeldIdentifier ['x'] 1 (.reachableTwice .identifier 0) ∧
      misplacedReadonly.file.forest.IsTree 2 ∧ misplacedReadonly.file.contains 0 ∧
      misplacedReadonly.file.parentOf 0 = some 1 ∧
      ∃ steps, misplacedReadonly.file.ancestor steps 0 = some 2 := by
  have built : build? misplacedReadonly.file.forest (some misplacedReadonly.file.text) (some 2) =
      .ok misplacedReadonly.file :=
    (build?_eq_ok_iff_fields _ _ _ _).2 ⟨rfl, rfl, rfl⟩
  obtain ⟨_, misfit, _⟩ := source_file_exactly_over_tree twiceHeldIdentifier ['x'] 1
  obtain ⟨exists_iff, _, indexed⟩ := source_file_exactly_over_tree misplacedReadonly.file.forest
    misplacedReadonly.file.text 2
  obtain ⟨_, _, _, leads⟩ := indexed _ built
  obtain ⟨_, _, tree⟩ := exists_iff.1 ⟨_, built⟩
  have member : misplacedReadonly.file.contains 0 := by decide
  exact ⟨misfit _ twiceHeldIdentifier_refused, tree, member, by decide, leads 0 member⟩

end SourceFile

end Placement
