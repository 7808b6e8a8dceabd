/-!
Finite graphs whose links lead to smaller numbers. The weight of a node counts the paths that start at
it, so a walk by stack that replaces a node by its successors makes the stack lighter and comes to an
end, also where nodes are shared.
-/

namespace Placement

structure Descent where
  next : Nat → List Nat
  next_lt : ∀ id, ∀ child ∈ next id, child < id

namespace Descent

/-- Number of paths that start at a node, the empty one included. -/
def weight (graph : Descent) (id : Nat) : Nat :=
  (graph.next id).attach.foldr (fun child total => graph.weight child.1 + total) 0 + 1
termination_by id
decreasing_by exact graph.next_lt id child.1 child.2

def stackWeight (graph : Descent) (stack : List Nat) : Nat :=
  stack.foldr (fun id total => graph.weight id + total) 0

theorem weight_eq (graph : Descent) (id : Nat) :
    graph.weight id = graph.stackWeight (graph.next id) + 1 := by
  rw [weight, stackWeight, List.foldr_attach (f := fun id total => graph.weight id + total)]

theorem stackWeight_cons (graph : Descent) (id : Nat) (rest : List Nat) :
    graph.stackWeight (id :: rest) = graph.weight id + graph.stackWeight rest := rfl

theorem stackWeight_append (graph : Descent) (stack rest : List Nat) :
    graph.stackWeight (stack ++ rest) = graph.stackWeight stack + graph.stackWeight rest := by
  induction stack with
  | nil => simp [stackWeight]
  | cons id below ih => rw [List.cons_append, stackWeight_cons, stackWeight_cons, ih, Nat.add_assoc]

theorem stackWeight_perm (graph : Descent) {first second : List Nat} (same : first.Perm second) :
    graph.stackWeight first = graph.stackWeight second := by
  induction same with
  | nil => rfl
  | cons id _ ih => rw [stackWeight_cons, stackWeight_cons, ih]
  | swap id other rest =>
      simp only [stackWeight_cons]
      omega
  | trans _ _ ih later => rw [ih, later]

theorem stackWeight_lt (graph : Descent) (id : Nat) (pushed rest : List Nat)
    (same : pushed.Perm (graph.next id)) :
    graph.stackWeight (pushed ++ rest) < graph.stackWeight (id :: rest) := by
  rw [stackWeight_append, stackWeight_cons, weight_eq, graph.stackWeight_perm same]
  omega

inductive Reaches (graph : Descent) (root : Nat) : Nat → Prop where
  | self : Reaches graph root root
  | step {id child : Nat} : Reaches graph root id → child ∈ graph.next id →
      Reaches graph root child

theorem Reaches.le {graph : Descent} {root id : Nat} (reached : graph.Reaches root id) :
    id ≤ root := by
  induction reached with
  | self => exact Nat.le_refl _
  | step _ linked below => exact Nat.le_trans (Nat.le_of_lt (graph.next_lt _ _ linked)) below

end Descent

end Placement
