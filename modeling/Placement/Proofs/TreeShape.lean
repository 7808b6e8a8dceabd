import Mathlib.Algebra.Group.Action.Defs
import Mathlib.Algebra.Order.BigOperators.Group.Finset
import Placement.Proofs.ParentSlots

/-!
Trees among the graphs of raw nodes. A walk below the root meets a node once for every path that leads to
it, so it meets none twice exactly if each node below the root stands in one child slot and the root in
none. Exactly these graphs have a parent index, and following it from any of their nodes leads to the root.
-/

namespace Placement

namespace Descent

def below (graph : Descent) (root : Nat) : Finset Nat :=
  (graph.preorder root).toFinset

theorem mem_below_iff (graph : Descent) (root id : Nat) :
    id ∈ graph.below root ↔ graph.Reaches root id := by
  rw [below, List.mem_toFinset, mem_preorder_iff]

def linkCount (graph : Descent) (root id : Nat) : Nat :=
  ∑ holder ∈ graph.below root, (graph.next holder).count id

theorem preorder_perm (graph : Descent) (root : Nat) :
    (graph.preorder root).Perm (root :: (graph.preorder root).flatMap graph.next) := by
  induction root using Nat.strongRecOn with
  | ind root ih =>
      have children : ((graph.next root).flatMap graph.preorder).Perm
          ((graph.next root).flatMap fun child =>
            [child] ++ (graph.preorder child).flatMap graph.next) :=
        .flatMap_left _ fun child linked => ih child (graph.next_lt root child linked)
      have apart := (List.flatMap_append_perm (graph.next root) (fun child => [child]) fun child =>
        (graph.preorder child).flatMap graph.next).symm
      rw [List.flatMap_singleton'] at apart
      rw [preorder_eq, List.flatMap_cons, List.flatMap_assoc]
      exact (children.trans apart).cons root

theorem count_preorder (graph : Descent) (root id : Nat) :
    (graph.preorder root).count id = (if root = id then 1 else 0) +
      ∑ holder ∈ graph.below root,
        (graph.preorder root).count holder * (graph.next holder).count id := by
  have summed := Finset.sum_list_map_count (graph.preorder root) (List.count id ∘ graph.next)
  rw [(graph.preorder_perm root).count_eq id, List.count_cons, List.count_flatMap, summed,
    Nat.add_comm, below]
  simp only [beq_iff_eq, smul_eq_mul, Function.comp_apply]

theorem linkCount_of_nodup {graph : Descent} {root id : Nat} (unique : (graph.preorder root).Nodup)
    (reached : graph.Reaches root id) :
    graph.linkCount root id = if id = root then 0 else 1 := by
  have once : ∀ {holder}, graph.Reaches root holder → (graph.preorder root).count holder = 1 :=
    fun reached => List.count_eq_one_of_mem unique ((graph.mem_preorder_iff root _).2 reached)
  have counted := graph.count_preorder root id
  have linked : ∑ holder ∈ graph.below root,
      (graph.preorder root).count holder * (graph.next holder).count id =
        graph.linkCount root id := by
    refine Finset.sum_congr rfl fun holder member => ?_
    rw [once ((graph.mem_below_iff root holder).1 member), Nat.one_mul]
  rw [once reached, linked] at counted
  by_cases isRoot : id = root
  · rw [if_pos isRoot.symm] at counted
    rw [if_pos isRoot]
    omega
  · rw [if_neg (Ne.symm isRoot)] at counted
    rw [if_neg isRoot]
    omega

theorem nodup_of_linkCount {graph : Descent} {root : Nat}
    (once : ∀ id, graph.Reaches root id → graph.linkCount root id = if id = root then 0 else 1) :
    (graph.preorder root).Nodup := by
  rw [List.nodup_iff_count_le_one]
  intro id
  generalize gapEq : root - id = gap
  induction gap using Nat.strongRecOn generalizing id with
  | ind gap ih =>
      by_cases met : id ∈ graph.preorder root
      · have reached := (graph.mem_preorder_iff root id).1 met
        have single : ∑ holder ∈ graph.below root,
            (graph.preorder root).count holder * (graph.next holder).count id ≤
              graph.linkCount root id := by
          refine Finset.sum_le_sum fun holder member => ?_
          by_cases linked : id ∈ graph.next holder
          · have less := graph.next_lt holder id linked
            have above := ((graph.mem_below_iff root holder).1 member).le
            have holderOnce := ih (root - holder) (by omega) holder rfl
            exact Nat.le_trans (Nat.mul_le_mul_right _ holderOnce) (Nat.one_mul _).le
          · rw [List.count_eq_zero_of_not_mem linked, Nat.mul_zero]
        rw [count_preorder]
        rw [once id reached] at single
        by_cases isRoot : id = root
        · rw [if_pos isRoot] at single
          rw [if_pos isRoot.symm]
          omega
        · rw [if_neg isRoot] at single
          rw [if_neg (Ne.symm isRoot)]
          omega
      · rw [List.count_eq_zero_of_not_mem met]
        exact Nat.zero_le 1

theorem reversed_preorder_perm (graph : Descent) (root : Nat) :
    (graph.reversed.preorder root).Perm (graph.preorder root) := by
  induction root using Nat.strongRecOn with
  | ind root ih =>
      have branches : ((graph.next root).flatMap graph.reversed.preorder).Perm
          ((graph.next root).flatMap graph.preorder) :=
        .flatMap_left _ fun child linked => ih child (graph.next_lt root child linked)
      have turned : ((graph.next root).reverse.flatMap graph.reversed.preorder).Perm
          ((graph.next root).flatMap graph.reversed.preorder) :=
        .flatMap_right _ (List.reverse_perm _)
      rw [preorder_eq, preorder_eq]
      exact (turned.trans branches).cons root

theorem count_flatMap_le_linkCount {graph : Descent} {root : Nat} {holders : List Nat}
    (unique : holders.Nodup) (reached : ∀ holder ∈ holders, graph.Reaches root holder) (id : Nat) :
    (holders.flatMap graph.next).count id ≤ graph.linkCount root id := by
  have within : holders.toFinset ⊆ graph.below root := by
    intro holder member
    exact (graph.mem_below_iff root holder).2 (reached holder (List.mem_toFinset.1 member))
  calc
    (holders.flatMap graph.next).count id
      = ∑ holder ∈ holders.toFinset, (graph.next holder).count id := by
        rw [List.count_flatMap, List.sum_toFinset _ unique]
        rfl
    _ ≤ graph.linkCount root id := Finset.sum_le_sum_of_subset within

end Descent

namespace RawForest

/-- How often a node stands in child slots of the nodes that a root reaches. -/
def occurrences (forest : RawForest) (root id : RawId) : Nat :=
  ∑ holder ∈ forest.descent.below root, (forest.node holder).slots.count id

/-- Each node that a root reaches stands in one child slot of such nodes, and the root in none. -/
def IsTree (forest : RawForest) (root : RawId) : Prop :=
  ∀ id, forest.descent.Reaches root id →
    forest.occurrences root id = if id = root then 0 else 1

theorem linkCount_eq_occurrences (forest : RawForest) (root id : RawId) :
    forest.descent.linkCount root id = forest.occurrences root id :=
  Finset.sum_congr rfl fun holder _ => (forest.children_perm holder).count_eq id

theorem isTree_iff_nodup_preorder (forest : RawForest) (root : RawId) :
    forest.IsTree root ↔ (forest.descent.preorder root).Nodup := by
  constructor
  · intro tree
    refine Descent.nodup_of_linkCount fun id reached => ?_
    rw [linkCount_eq_occurrences, tree id reached]
  · intro unique id reached
    rw [← linkCount_eq_occurrences, Descent.linkCount_of_nodup unique reached]

end RawForest

end Placement
