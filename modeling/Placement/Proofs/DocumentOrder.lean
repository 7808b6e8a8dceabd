import Mathlib
import Placement.Tree.Raw

/-!
The order of a node's children. One node may stand in several slots and several at one offset, so it is
entries that are ordered, each a node with its place in the list of the slots: by offset, and at one offset
by place. No two entries tie, so those that stood in order before are left as they were.
-/

namespace Placement

namespace RawForest

def Precedes (forest : RawForest) (first second : RawId × Nat) : Prop :=
  (forest.node first.1).pos < (forest.node second.1).pos ∨
    (forest.node first.1).pos = (forest.node second.1).pos ∧ first.2 < second.2

/-- The entries of a list, each of them once and behind all that precede it. -/
structure Arranges (forest : RawForest) (ids : List RawId) (entries : List (RawId × Nat)) : Prop where
  perm : entries.Perm ids.zipIdx
  ordered : entries.Pairwise forest.Precedes

theorem places_ascending (ids : List RawId) (start : Nat) :
    (ids.zipIdx start).Pairwise fun first second => first.2 < second.2 := by
  rw [← List.pairwise_map (f := Prod.snd), List.zipIdx_map_snd]
  exact List.pairwise_lt_range'

theorem mem_zipIdx_places {ids : List RawId} {start : Nat} {entry : RawId × Nat}
    (member : entry ∈ ids.zipIdx start) : start ≤ entry.2 ∧ entry.2 < start + ids.length :=
  ⟨List.le_snd_of_mem_zipIdx member, List.snd_lt_add_of_mem_zipIdx member⟩

theorem filter_zipIdx_stretch (before stretch after : List RawId) :
    ((before ++ stretch ++ after).zipIdx.filter fun entry =>
        before.length ≤ entry.2 ∧ entry.2 < before.length + stretch.length) =
      stretch.zipIdx before.length := by
  rw [List.zipIdx_append, List.zipIdx_append, List.filter_append, List.filter_append,
    List.filter_eq_nil_iff.2, List.filter_eq_self.2, List.filter_eq_nil_iff.2]
  · rw [List.nil_append, List.append_nil, Nat.zero_add]
  · intro entry inAfter
    have bounds := mem_zipIdx_places inAfter
    rw [List.length_append] at bounds
    simp only [decide_eq_true_eq]
    omega
  · intro entry inStretch
    have bounds := mem_zipIdx_places inStretch
    exact decide_eq_true (by omega)
  · intro entry inBefore
    have bounds := mem_zipIdx_places inBefore
    simp only [decide_eq_true_eq]
    omega

section Sorting

variable (forest : RawForest)

def notAfter (first second : RawId) : Bool :=
  (forest.node first).pos ≤ (forest.node second).pos

theorem notAfter_trans (first second third : RawId) (before : forest.notAfter first second = true)
    (behind : forest.notAfter second third = true) : forest.notAfter first third = true :=
  decide_eq_true (Nat.le_trans (of_decide_eq_true before) (of_decide_eq_true behind))

theorem notAfter_total (first second : RawId) :
    (forest.notAfter first second || forest.notAfter second first) = true := by
  simpa [notAfter] using Nat.le_total _ _

theorem precedes_of_zipIdxLE {first second : RawId × Nat} (apart : first.2 ≠ second.2)
    (sorted : List.zipIdxLE forest.notAfter first second = true) : forest.Precedes first second := by
  simp only [List.zipIdxLE, notAfter, decide_eq_true_eq] at sorted
  split at sorted
  next offset =>
    split at sorted
    next tied =>
      have place := of_decide_eq_true sorted
      exact Or.inr ⟨by omega, by omega⟩
    next untied => exact Or.inl (by omega)
  next => cases sorted

theorem exists_arranges (id : RawId) :
    ∃ entries, forest.Arranges (forest.node id).slots entries ∧
      entries.map Prod.fst = forest.children id := by
  let entries := (forest.node id).slots.zipIdx.mergeSort (List.zipIdxLE forest.notAfter)
  have perm : entries.Perm (forest.node id).slots.zipIdx := List.mergeSort_perm _ _
  have apart : entries.Pairwise fun first second => first.2 ≠ second.2 :=
    perm.symm.pairwise ((places_ascending _ 0).imp Nat.ne_of_lt) fun differ => Ne.symm differ
  have sorted : entries.Pairwise fun first second =>
      List.zipIdxLE forest.notAfter first second = true :=
    List.pairwise_mergeSort (List.zipIdxLE_trans forest.notAfter_trans)
      (List.zipIdxLE_total forest.notAfter_total) _
  refine ⟨entries, ⟨perm, ?_⟩, List.mergeSort_zipIdx⟩
  exact apart.imp₂ (fun _ _ => forest.precedes_of_zipIdxLE) sorted

end Sorting

variable {forest : RawForest} {ids : List RawId} {entries : List (RawId × Nat)}

theorem Precedes.asymm {first second : RawId × Nat} (before : forest.Precedes first second) :
    ¬forest.Precedes second first := by
  simp only [Precedes] at before ⊢
  omega

theorem precedes_of_inSourceOrder (part : entries.Sublist ids.zipIdx)
    (ordered : RawNode.InSourceOrder forest.nodes (entries.map Prod.fst)) :
    entries.Pairwise forest.Precedes := by
  refine ((places_ascending ids 0).sublist part).imp₂ ?_ (List.pairwise_map.1 ordered)
  intro first second place offset
  rcases Nat.lt_or_eq_of_le offset with less | same
  · exact Or.inl less
  · exact Or.inr ⟨same, place⟩

namespace Arranges

theorem inSourceOrder (arranges : forest.Arranges ids entries) :
    RawNode.InSourceOrder forest.nodes (entries.map Prod.fst) := by
  refine List.pairwise_map.2 (arranges.ordered.imp ?_)
  rintro first second (less | ⟨same, _⟩)
  · exact Nat.le_of_lt less
  · exact Nat.le_of_eq same

theorem filter_eq (arranges : forest.Arranges ids entries) (keep : RawId × Nat → Bool)
    (ordered : RawNode.InSourceOrder forest.nodes ((ids.zipIdx.filter keep).map Prod.fst)) :
    entries.filter keep = ids.zipIdx.filter keep := by
  have kept := precedes_of_inSourceOrder List.filter_sublist ordered
  refine (arranges.perm.filter keep).eq_of_pairwise ?_ (arranges.ordered.filter keep) kept
  intro first second _ _ before behind
  exact absurd behind before.asymm

theorem filter_offset (arranges : forest.Arranges ids entries) (offset : Nat) :
    (entries.map Prod.fst).filter (fun id => (forest.node id).pos = offset) =
      ids.filter fun id => (forest.node id).pos = offset := by
  let stands : RawId → Bool := fun id => (forest.node id).pos = offset
  have listed : (ids.zipIdx.filter (stands ∘ Prod.fst)).map Prod.fst = ids.filter stands := by
    rw [← List.filter_map, List.zipIdx_map_fst]
  have tied : RawNode.InSourceOrder forest.nodes (ids.filter stands) := by
    refine List.pairwise_of_forall_mem_list fun first firstMember second secondMember => ?_
    have firstStands := of_decide_eq_true (List.mem_filter.1 firstMember).2
    have secondStands := of_decide_eq_true (List.mem_filter.1 secondMember).2
    exact Nat.le_of_eq (firstStands.trans secondStands.symm)
  have kept := arranges.filter_eq (stands ∘ Prod.fst) (by rwa [listed])
  calc
    (entries.map Prod.fst).filter stands
      = (entries.filter (stands ∘ Prod.fst)).map Prod.fst := List.filter_map
    _ = ids.filter stands := by rw [kept, listed]

theorem filter_stretch {before stretch after : List RawId}
    (arranges : forest.Arranges (before ++ stretch ++ after) entries)
    (ordered : RawNode.InSourceOrder forest.nodes stretch) :
    (entries.filter fun entry =>
        before.length ≤ entry.2 ∧ entry.2 < before.length + stretch.length) =
      stretch.zipIdx before.length := by
  have listed := filter_zipIdx_stretch before stretch after
  rw [arranges.filter_eq _ (by rwa [listed, List.zipIdx_map_fst]), listed]

end Arranges

/-- The children of a node are what its slots hold, each node as often as they do. They stand in order of
their offsets, those at one offset in the order of the slots. Modifiers stand in source order, so whatever
the other slots put between them, they keep the order of their list. -/
theorem children_in_document_order (forest : RawForest) (id : RawId) :
    let node := forest.node id
    let offset := fun child => (forest.node child).pos
    let slots := node.illegalDecorators ++ node.modifiers ++ node.expression.toList ++
      node.children ++ node.initializer.toList
    let children := forest.children id
    children.Perm slots ∧
    children.Pairwise (fun first second => offset first ≤ offset second) ∧
    (∀ pos, children.filter (fun child => offset child = pos) =
      slots.filter fun child => offset child = pos) ∧
    ∃ entries, forest.Arranges slots entries ∧ entries.map Prod.fst = children ∧
      (entries.filter fun entry => node.illegalDecorators.length ≤ entry.2 ∧
          entry.2 < node.illegalDecorators.length + node.modifiers.length) =
        node.modifiers.zipIdx node.illegalDecorators.length := by
  intro node offset slots children
  obtain ⟨entries, arranges, childrenEq⟩ :
      ∃ entries, forest.Arranges slots entries ∧ entries.map Prod.fst = children :=
    forest.exists_arranges id
  refine ⟨forest.children_perm id, ?_, ?_, entries, arranges, childrenEq, ?_⟩
  · rw [← childrenEq]
    exact arranges.inSourceOrder
  · intro pos
    rw [← childrenEq]
    exact arranges.filter_offset pos
  · have split : slots = node.illegalDecorators ++ node.modifiers ++
        (node.expression.toList ++ node.children ++ node.initializer.toList) := by
      simp only [slots, List.append_assoc]
    rw [split] at arranges
    exact arranges.filter_stretch (forest.fits id).modifiers_ordered

-- The second modifier and the illegal decorator share an offset, and the further children list both
-- modifiers once more, in the other order.
example :
    (ofDrafts [
      ⟨some .staticKeyword, 4, 10, none, none, none, none, []⟩,
      ⟨some .readonlyKeyword, 10, 19, none, none, none, none, []⟩,
      ⟨some .identifier, 0, 4, none, none, none, none, []⟩,
      ⟨some .decorator, 10, 19, none, none, none, some 2, []⟩,
      ⟨some .propertyDeclaration, 0, 31, some [0, 1], some [3], some 2, none, [1, 0]⟩]).children 4 =
      [2, 0, 0, 3, 1, 1] := by
  cbv

end RawForest

end Placement
