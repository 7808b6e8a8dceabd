import Mathlib
import Placement.Proofs.LocatedFailure
import Placement.Proofs.StoppingTurn

/-!
A walk that keeps the public nodes it has met, beside the plain walk, which enters a shared node each time
that it comes to it. Before a node is met again all that is below it has been walked, and what has passed
once passes again, so both walks end alike and fail only where a node is met first.
-/

namespace Placement

/-- What a list shows for the first time, apart from what has been seen before. -/
def unseen (seen : Finset Nat) : List Nat → List Nat
  | [] => []
  | id :: rest => if id ∈ seen then unseen seen rest else id :: unseen (insert id seen) rest

theorem unseen_append (seen : Finset Nat) (ids later : List Nat) :
    unseen seen (ids ++ later) = unseen seen ids ++ unseen (seen ∪ ids.toFinset) later := by
  fun_induction unseen seen ids with
  | case1 seen => simp
  | case2 seen id rest known ih =>
      rw [List.cons_append, unseen, if_pos known, ih, List.toFinset_cons, Finset.union_insert,
        Finset.insert_eq_of_mem (Finset.mem_union_left _ known)]
  | case3 seen id rest unknown ih =>
      rw [List.cons_append, unseen, if_neg unknown, ih, List.toFinset_cons, Finset.union_insert,
        Finset.insert_union, List.cons_append]

theorem unseen_eq_nil {seen : Finset Nat} {ids : List Nat} (known : ∀ id ∈ ids, id ∈ seen) :
    unseen seen ids = [] := by
  induction ids with
  | nil => rfl
  | cons id rest ih =>
      obtain ⟨idKnown, restKnown⟩ := List.forall_mem_cons.1 known
      rw [unseen, if_pos idKnown, ih restKnown]

section FirstFailure

variable {Problem : Type} {run : Nat → Except Problem Unit}

theorem Performs.unseen {tasks performed : List Nat} {outcome : Except Problem Unit}
    (performs : Performs run tasks performed outcome) (seen : Finset Nat)
    (passed : ∀ task ∈ seen, run task = .ok ()) :
    Performs run (unseen seen tasks) (unseen seen performed) outcome := by
  induction performs generalizing seen with
  | done => exact .done
  | @pass task tasks performed outcome passes _ ih =>
      rw [Placement.unseen, Placement.unseen]
      by_cases known : task ∈ seen
      · rw [if_pos known, if_pos known]
        exact ih seen passed
      · rw [if_neg known, if_neg known]
        refine .pass passes (ih _ ?_)
        exact (Finset.forall_mem_insert _ _ _).2 ⟨passes, passed⟩
  | @stop task tasks problem fails =>
      have unknown : task ∉ seen := by
        intro known
        cases fails.symm.trans (passed task known)
      rw [Placement.unseen, Placement.unseen, if_neg unknown, if_neg unknown]
      exact .stop fails

theorem Performs.unique {tasks performed again : List Nat} {outcome sameOutcome : Except Problem Unit}
    (performs : Performs run tasks performed outcome)
    (performsAgain : Performs run tasks again sameOutcome) :
    performed = again ∧ outcome = sameOutcome := by
  induction performs generalizing again with
  | done =>
      cases performsAgain
      exact ⟨rfl, rfl⟩
  | pass passes _ ih =>
      cases performsAgain with
      | pass _ later =>
          obtain ⟨rfl, rfl⟩ := ih later
          exact ⟨rfl, rfl⟩
      | stop fails => cases passes.symm.trans fails
  | stop fails =>
      cases performsAgain with
      | pass passes _ => cases fails.symm.trans passes
      | stop failsToo =>
          cases fails.symm.trans failsToo
          exact ⟨rfl, rfl⟩

end FirstFailure

namespace Descent

def walkUnseen (graph : Descent) (seen : Finset Nat) : List Nat → List Nat
  | [] => []
  | id :: rest =>
      if id ∈ seen then walkUnseen graph seen rest
      else id :: walkUnseen graph (insert id seen) (graph.next id ++ rest)
termination_by stack => graph.stackWeight stack
decreasing_by
  · rw [stackWeight_cons, weight_eq]
    omega
  · exact graph.stackWeight_lt id _ rest (.refl _)

/-- Successors of seen nodes have been seen, as far as nodes below a bound are concerned. Nodes from the
bound on may have successors that are still due. -/
def ClosedBelow (graph : Descent) (bound : Nat) (seen : Finset Nat) : Prop :=
  ∀ id ∈ seen, id < bound → ∀ child ∈ graph.next id, child ∈ seen

variable {graph : Descent} {bound root : Nat} {seen : Finset Nat}

theorem ClosedBelow.mem_of_mem_preorder (closed : graph.ClosedBelow bound seen) (known : root ∈ seen)
    (below : root < bound) : ∀ id ∈ graph.preorder root, id ∈ seen := by
  intro id member
  have reached := (graph.mem_preorder_iff root id).1 member
  induction reached with
  | self => exact known
  | step reached linked ih =>
      have inBound := Nat.lt_of_le_of_lt reached.le below
      exact closed _ (ih ((graph.mem_preorder_iff root _).2 reached)) inBound _ linked

theorem ClosedBelow.insert (closed : graph.ClosedBelow bound seen) (below : root < bound) :
    graph.ClosedBelow root (insert root seen) := by
  intro id member before child linked
  rcases Finset.mem_insert.1 member with rfl | known
  · omega
  · exact Finset.mem_insert_of_mem (closed id known (by omega) child linked)

theorem ClosedBelow.union_preorder (closed : graph.ClosedBelow bound seen) (root : Nat) :
    graph.ClosedBelow bound (seen ∪ (graph.preorder root).toFinset) := by
  intro id member before child linked
  rw [Finset.mem_union, List.mem_toFinset] at member ⊢
  rcases member with known | met
  · exact Or.inl (closed id known before child linked)
  · exact Or.inr (graph.mem_preorder_of_next root id child met linked)

theorem walkUnseen_append (nodes rest : List Nat) (below : ∀ id ∈ nodes, id < bound)
    (closed : graph.ClosedBelow bound seen) :
    graph.walkUnseen seen (nodes ++ rest) =
      unseen seen (nodes.flatMap graph.preorder) ++
        graph.walkUnseen (seen ∪ (nodes.flatMap graph.preorder).toFinset) rest := by
  induction bound using Nat.strongRecOn generalizing seen nodes rest with
  | ind bound ihBelow =>
      induction nodes generalizing seen with
      | nil => simp [unseen]
      | cons id later ihLater =>
          obtain ⟨idBelow, laterBelow⟩ := List.forall_mem_cons.1 below
          have tail := ihLater laterBelow (closed.union_preorder id)
          rw [Finset.union_assoc, ← List.toFinset_append] at tail
          rw [List.flatMap_cons, unseen_append, List.append_assoc, ← tail, List.cons_append,
            walkUnseen]
          by_cases known : id ∈ seen
          · have allKnown := closed.mem_of_mem_preorder known idBelow
            have sameSeen : seen ∪ (graph.preorder id).toFinset = seen :=
              Finset.union_eq_left.2 fun other met => allKnown other (List.mem_toFinset.1 met)
            rw [if_pos known, unseen_eq_nil allKnown, sameSeen, List.nil_append]
          · have children := ihBelow id idBelow (graph.next id) (later ++ rest) (graph.next_lt id)
              (closed.insert idBelow)
            rw [if_neg known, children, graph.preorder_eq, unseen, if_neg known,
              List.toFinset_cons, Finset.insert_union, Finset.union_insert, List.cons_append]

theorem walkUnseen_eq_unseen (graph : Descent) (root : Nat) :
    graph.walkUnseen ∅ [root] = unseen ∅ (graph.preorder root) := by
  have closed : graph.ClosedBelow (root + 1) ∅ := by simp [ClosedBelow]
  have walked := walkUnseen_append [root] [] (by simp) closed
  rwa [List.append_nil, List.flatMap_cons, List.flatMap_nil, List.append_nil, walkUnseen,
    List.append_nil] at walked

end Descent

namespace Validator

/-- Continues a walk that keeps the public nodes it has met. A node that is met again is neither checked nor
entered. -/
def inspectUnseen (checks : List Check) (surface : Surface) (result : ParseResult) :
    Finset PublicId → List PublicId → Trace → Inspection
  | _, [], trace => ⟨trace, .ok ()⟩
  | seen, shown :: rest, trace =>
      if shown ∈ seen then inspectUnseen checks surface result seen rest trace
      else
        match visit checks surface result shown trace with
        | ⟨trace, .error failure⟩ => ⟨trace, .error failure⟩
        | ⟨trace, .ok ()⟩ =>
            inspectUnseen checks surface result (insert shown seen)
              (result.publics.children shown ++ rest) trace
termination_by _ stack => result.publics.descent.stackWeight stack
decreasing_by
  · rw [Descent.stackWeight_cons, Descent.weight_eq]
    omega
  · exact result.publics.descent.stackWeight_lt shown _ rest (.refl _)

def inspectOnce (validator : Validator) (surface : Surface) (result : ParseResult) : Inspection :=
  (inspectUnseen validator.checks surface result ∅ [result.ast] .empty).passOn

theorem inspectUnseen_asks (checks : List Check) (surface : Surface) (result : ParseResult)
    (seen : Finset PublicId) (stack : List PublicId) (trace : Trace) :
    ∃ met, Performs (checkNode checks surface result) (result.publics.descent.walkUnseen seen stack)
        met (inspectUnseen checks surface result seen stack trace).outcome ∧
      (inspectUnseen checks surface result seen stack trace).trace.asked.toList =
        trace.asked.toList ++ met := by
  fun_induction inspectUnseen checks surface result seen stack trace with
  | case1 seen trace => exact ⟨[], by rw [Descent.walkUnseen]; exact .done, by simp⟩
  | case2 seen shown rest trace known ih =>
      rw [Descent.walkUnseen, if_pos known]
      exact ih
  | case3 seen shown rest trace unknown stopped failure visited =>
      have outcome := visit_outcome checks surface result shown trace
      have asked := visit_asked checks surface result shown trace
      rw [visited] at outcome asked
      rw [Descent.walkUnseen, if_neg unknown]
      exact ⟨[shown], .stop outcome.symm, by rw [asked, Array.toList_push]⟩
  | case4 seen shown rest trace unknown continued visited ih =>
      obtain ⟨met, performs, askedLater⟩ := ih
      have outcome := visit_outcome checks surface result shown trace
      have asked := visit_asked checks surface result shown trace
      rw [visited] at outcome asked
      rw [Descent.walkUnseen, if_neg unknown]
      refine ⟨shown :: met, .pass outcome.symm performs, ?_⟩
      rw [askedLater, asked, Array.toList_push, List.append_assoc, List.singleton_append]

theorem inspectOnce_eq (validator : Validator) (surface : Surface) (result : ParseResult) :
    (validator.inspectOnce surface result).trace.asked.toList =
        unseen ∅ (validator.inspect surface result).trace.asked.toList ∧
      (validator.inspectOnce surface result).outcome =
        (validator.inspect surface result).outcome := by
  obtain ⟨met, performs, asked⟩ :=
    inspectUnseen_asks validator.checks surface result ∅ [result.ast] .empty
  have plain := (validator.walk_asks surface result).unseen ∅ (by simp)
  rw [PublicForest.walk_eq_preorder, ← Descent.walkUnseen_eq_unseen] at plain
  obtain ⟨rfl, sameOutcome⟩ := performs.unique plain
  rw [Trace.empty, List.nil_append] at asked
  exact ⟨asked, by rw [inspectOnce, inspect, Inspection.passOn_outcome, Inspection.passOn_outcome,
    sameOutcome]⟩

end Validator

/-- Public nodes may stand in the tree any number of times: a walk that neither checks nor enters a node
again ends as the plain walk does and logs the same. It asks about the same public nodes, about each of them
once. A failure comes from the first occurrence of its public node. It is the one that a check reports there,
unless that is a violation without a kind, which no built-in check reports. -/
theorem shared_nodes_change_nothing (validator : Validator) (surface : Surface)
    (result : ParseResult) :
    let inspection := validator.inspect surface result
    let once := validator.inspectOnce surface result
    once.outcome = inspection.outcome ∧ once.log = inspection.log ∧
      once.trace.asked.toList = unseen ∅ inspection.trace.asked.toList ∧
      ∀ failure, inspection.outcome = .error failure →
        ∃ before shown after, result.publics.walk result.ast = before ++ shown :: after ∧
          inspection.trace.asked.toList = before ++ [shown] ∧ shown ∉ before ∧
          ∃ reported,
            Validator.checkNode validator.checks surface result shown = .error reported ∧
            failure = reported.passedOn ∧
            ∀ names : List CheckName, validator.checks = names.map Check.builtin →
              failure = reported := by
  intro inspection once
  obtain ⟨sameNodes, sameOutcome⟩ := validator.inspectOnce_eq surface result
  refine ⟨sameOutcome, ?_, sameNodes, ?_⟩
  · rw [Inspection.log, sameOutcome]
    rfl
  · intro failure failed
    obtain ⟨reported, walked, rfl⟩ := (mapError_eq_error_iff _ _ _).1 failed
    have performs := validator.walk_asks surface result
    rw [walked] at performs
    obtain ⟨before, shown, after, walkEq, asked, passes, fails⟩ := performs.split_of_error
    refine ⟨before, shown, after, walkEq, asked, ?_, reported, fails, rfl, ?_⟩
    · intro earlier
      cases fails.symm.trans (passes shown earlier)
    · intro names checksEq
      have reportKinds : ∀ check ∈ validator.checks, check.ReportsKinds := by
        rw [checksEq]
        exact Check.reportsKinds_of_mem_builtin names
      have sameInspection := Validator.inspect_eq_walk reportKinds surface result
      have unchanged := congrArg Inspection.outcome sameInspection
      exact Except.error.inj (failed.symm.trans (unchanged.trans walked))

def twiceHeldReadonly : ParseResult :=
  { misplacedReadonly with
    publics := .ofDrafts [⟨"MethodDefinition", 7, 22, [], none⟩, ⟨"ClassBody", 0, 22, [0, 0], none⟩]
    ast := 1
    correlation := .ofPairs [(0, 1)] }

theorem twiceHeldReadonly_fails_at_first_occurrence :
    twiceHeldReadonly.publics.walk twiceHeldReadonly.ast = [1, 0, 0] ∧
      (Validator.defaults.inspect .typeScript twiceHeldReadonly).outcome =
        .error (.violation misplacedReadonlyViolation) ∧
      (Validator.defaults.inspectOnce .typeScript twiceHeldReadonly).outcome =
        .error (.violation misplacedReadonlyViolation) ∧
      ∃ before shown after, [1, 0, 0] = before ++ shown :: after ∧ shown ∉ before ∧
        Validator.checkNode Check.defaults .typeScript twiceHeldReadonly shown =
          .error (.violation misplacedReadonlyViolation) := by
  have walkEq : twiceHeldReadonly.publics.walk twiceHeldReadonly.ast = [1, 0, 0] := by cbv
  have failed : (Validator.defaults.inspect .typeScript twiceHeldReadonly).outcome =
      .error (.violation misplacedReadonlyViolation) := by cbv
  obtain ⟨sameOutcome, _, _, first⟩ :=
    shared_nodes_change_nothing .defaults .typeScript twiceHeldReadonly
  obtain ⟨before, shown, after, split, _, isFirst, reported, fails, _, unchanged⟩ := first _ failed
  rw [walkEq] at split
  rw [← unchanged CheckName.all rfl] at fails
  exact ⟨walkEq, failed, sameOutcome.trans failed, before, shown, after, split, isFirst, fails⟩

end Placement
