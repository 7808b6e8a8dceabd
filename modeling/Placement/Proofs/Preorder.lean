import Placement.Tree.Public
import Placement.Tree.Raw

/-!
Walks by stack over a descending graph. What a stack holds is walked one entry after another, so a walk
from a single node is the preorder of the paths below it, and it meets exactly the nodes it reaches.
-/

namespace Placement

namespace Descent

theorem Reaches.trans {graph : Descent} {root middle id : Nat}
    (first : graph.Reaches root middle) (second : graph.Reaches middle id) :
    graph.Reaches root id := by
  induction second with
  | self => exact first
  | step _ linked ih => exact .step ih linked

theorem Reaches.head {graph : Descent} {root child id : Nat} (linked : child ∈ graph.next root)
    (reached : graph.Reaches child id) : graph.Reaches root id :=
  Reaches.trans (.step .self linked) reached

/-- A node followed by whatever is below its successors, in their order. -/
def preorder (graph : Descent) (root : Nat) : List Nat :=
  root :: (graph.next root).attach.flatMap fun child => graph.preorder child.1
termination_by root
decreasing_by exact graph.next_lt root child.1 child.2

theorem preorder_eq (graph : Descent) (root : Nat) :
    graph.preorder root = root :: (graph.next root).flatMap graph.preorder := by
  rw [preorder, List.cons.injEq]
  refine ⟨rfl, ?_⟩
  rw [List.flatMap_def, List.flatMap_def, List.attach_map_val (f := graph.preorder)]

def walkFrom (graph : Descent) : List Nat → List Nat
  | [] => []
  | id :: rest => id :: walkFrom graph (graph.next id ++ rest)
termination_by stack => graph.stackWeight stack
decreasing_by exact graph.stackWeight_lt id _ rest (.refl _)

theorem walkFrom_eq_flatMap (graph : Descent) (stack : List Nat) :
    graph.walkFrom stack = stack.flatMap graph.preorder := by
  generalize weightEq : graph.stackWeight stack = weight
  induction weight using Nat.strongRecOn generalizing stack with
  | ind weight ih =>
      cases stack with
      | nil => simp [walkFrom]
      | cons id rest =>
          have lighter := graph.stackWeight_lt id (graph.next id) rest (.refl _)
          have tail := ih _ (by omega) (graph.next id ++ rest) rfl
          rw [walkFrom, tail, List.flatMap_append, List.flatMap_cons, preorder_eq,
            List.cons_append]

theorem mem_preorder_self (graph : Descent) (root : Nat) : root ∈ graph.preorder root := by
  simp [preorder_eq graph root]

theorem mem_preorder_of_next (graph : Descent) (root id child : Nat)
    (member : id ∈ graph.preorder root) (linked : child ∈ graph.next id) :
    child ∈ graph.preorder root := by
  induction root using Nat.strongRecOn with
  | ind root ih =>
      rw [preorder_eq, List.mem_cons, List.mem_flatMap] at member ⊢
      rcases member with rfl | ⟨between, branch, below⟩
      · exact Or.inr ⟨child, linked, graph.mem_preorder_self child⟩
      · exact Or.inr ⟨between, branch, ih between (graph.next_lt root between branch) below⟩

theorem reaches_of_mem_preorder (graph : Descent) (root id : Nat)
    (member : id ∈ graph.preorder root) : graph.Reaches root id := by
  induction root using Nat.strongRecOn with
  | ind root ih =>
      rw [preorder_eq, List.mem_cons, List.mem_flatMap] at member
      rcases member with rfl | ⟨between, branch, below⟩
      · exact .self
      · exact .head branch (ih between (graph.next_lt root between branch) below)

theorem mem_preorder_iff (graph : Descent) (root id : Nat) :
    id ∈ graph.preorder root ↔ graph.Reaches root id := by
  constructor
  · exact graph.reaches_of_mem_preorder root id
  · intro reached
    induction reached with
    | self => exact graph.mem_preorder_self root
    | step _ linked ih => exact graph.mem_preorder_of_next root _ _ ih linked

theorem mem_walkFrom_iff (graph : Descent) (stack : List Nat) (id : Nat) :
    id ∈ graph.walkFrom stack ↔ ∃ root ∈ stack, graph.Reaches root id := by
  simp only [walkFrom_eq_flatMap, List.mem_flatMap, mem_preorder_iff]

def reversed (graph : Descent) : Descent where
  next id := (graph.next id).reverse
  next_lt id child linked := graph.next_lt id child (List.mem_reverse.1 linked)

theorem reversed_reaches_iff (graph : Descent) (root id : Nat) :
    graph.reversed.Reaches root id ↔ graph.Reaches root id := by
  constructor
  · intro reached
    induction reached with
    | self => exact .self
    | step _ linked ih => exact .step ih (List.mem_reverse.1 linked)
  · intro reached
    induction reached with
    | self => exact .self
    | step _ linked ih => exact .step ih (List.mem_reverse.2 linked)

end Descent

namespace PublicForest

theorem walkFrom_eq_descent_walkFrom (forest : PublicForest) (stack : List PublicId) :
    forest.walkFrom stack = forest.descent.walkFrom stack := by
  fun_induction walkFrom forest stack with
  | case1 => simp [Descent.walkFrom]
  | case2 id rest ih =>
      rw [Descent.walkFrom, ih]
      rfl

theorem walk_eq_preorder (forest : PublicForest) (root : PublicId) :
    forest.walk root = forest.descent.preorder root := by
  rw [walk, walkFrom_eq_descent_walkFrom, Descent.walkFrom_eq_flatMap, List.flatMap_cons,
    List.flatMap_nil, List.append_nil]

theorem mem_walk_iff (forest : PublicForest) (root id : PublicId) :
    id ∈ forest.walk root ↔ forest.descent.Reaches root id := by
  rw [walk_eq_preorder, Descent.mem_preorder_iff]

end PublicForest

end Placement
