import Placement.Proofs.Preorder
import Placement.Validator

/-!
A walk works through a list of tasks until the first of them fails: the checks, in order, of every public
node that has a raw node, in preorder. Whatever comes after the failing task gets no turn.
-/

namespace Placement

section FirstFailure

variable {Task Problem : Type} {run : Task → Except Problem Unit}

/-- The tasks of a list that get their turn, and how the last of them leaves things. -/
inductive Performs (run : Task → Except Problem Unit) :
    List Task → List Task → Except Problem Unit → Prop
  | done : Performs run [] [] (.ok ())
  | pass {task tasks performed outcome} : run task = .ok () →
      Performs run tasks performed outcome →
      Performs run (task :: tasks) (task :: performed) outcome
  | stop {task tasks problem} : run task = .error problem →
      Performs run (task :: tasks) [task] (.error problem)

theorem Performs.append {tasks performed rest later : List Task} {outcome : Except Problem Unit}
    (first : Performs run tasks performed (.ok ())) (second : Performs run rest later outcome) :
    Performs run (tasks ++ rest) (performed ++ later) outcome := by
  generalize passedEq : Except.ok () = passed at first
  induction first with
  | done => exact second
  | pass passes _ ih => exact .pass passes (ih passedEq)
  | stop _ => cases passedEq

theorem Performs.append_of_error {tasks performed : List Task} {problem : Problem}
    (first : Performs run tasks performed (.error problem)) (rest : List Task) :
    Performs run (tasks ++ rest) performed (.error problem) := by
  generalize failedEq : Except.error problem = failed at first
  induction first with
  | done => cases failedEq
  | pass passes _ ih => exact .pass passes (ih failedEq)
  | stop fails =>
      cases failedEq
      exact .stop fails

theorem Performs.prefix_tasks {tasks performed : List Task} {outcome : Except Problem Unit}
    (performs : Performs run tasks performed outcome) : performed <+: tasks := by
  induction performs with
  | done => exact List.nil_prefix
  | pass _ _ ih => exact List.cons_prefix_cons.2 ⟨rfl, ih⟩
  | stop _ => exact List.cons_prefix_cons.2 ⟨rfl, List.nil_prefix⟩

theorem Performs.outcome_eq_forM {tasks performed : List Task} {outcome : Except Problem Unit}
    (performs : Performs run tasks performed outcome) : outcome = forM tasks run := by
  induction performs with
  | done => rfl
  | pass passes _ ih =>
      rw [List.forM_cons, passes, ih]
      rfl
  | stop fails =>
      rw [List.forM_cons, fails]
      rfl

theorem Performs.eq_of_ok {tasks performed : List Task}
    (performs : Performs run tasks performed (.ok ())) :
    performed = tasks ∧ ∀ task ∈ tasks, run task = .ok () := by
  generalize passedEq : Except.ok () = passed at performs
  induction performs with
  | done => exact ⟨rfl, by simp⟩
  | pass passes _ ih =>
      obtain ⟨same, all⟩ := ih passedEq
      subst passedEq
      exact ⟨by rw [same], List.forall_mem_cons.2 ⟨passes, all⟩⟩
  | stop _ => cases passedEq

theorem Performs.split_of_error {tasks performed : List Task} {problem : Problem}
    (performs : Performs run tasks performed (.error problem)) :
    ∃ before last after, tasks = before ++ last :: after ∧ performed = before ++ [last] ∧
      (∀ task ∈ before, run task = .ok ()) ∧ run last = .error problem := by
  generalize failedEq : Except.error problem = failed at performs
  induction performs with
  | done => cases failedEq
  | pass passes _ ih =>
      obtain ⟨before, last, after, tasksEq, performedEq, all, fails⟩ := ih failedEq
      refine ⟨_ :: before, last, after, ?_, ?_, List.forall_mem_cons.2 ⟨passes, all⟩, fails⟩
      · rw [tasksEq, List.cons_append]
      · rw [performedEq, List.cons_append]
  | stop fails =>
      cases failedEq
      exact ⟨[], _, _, rfl, rfl, by simp, fails⟩

theorem forM_eq_ok_iff (tasks : List Task) :
    forM tasks run = .ok () ↔ ∀ task ∈ tasks, run task = .ok () := by
  induction tasks with
  | nil => simp [pure, Except.pure]
  | cons task tasks ih =>
      rw [List.forM_cons, List.forall_mem_cons, ← ih]
      cases outcome : run task with
      | ok _ => simp [bind, Except.bind]
      | error _ => simp [bind, Except.bind]

theorem forM_flatMap {Item : Type} (items : List Item) (tasksOf : Item → List Task) :
    forM (items.flatMap tasksOf) run = forM items fun item => forM (tasksOf item) run := by
  induction items with
  | nil => rfl
  | cons item items ih => rw [List.flatMap_cons, List.forM_append, List.forM_cons, ih]

theorem forM_congr {items : List Task} {other : Task → Except Problem Unit}
    (same : ∀ item ∈ items, run item = other item) : forM items run = forM items other := by
  induction items with
  | nil => rfl
  | cons item items ih =>
      obtain ⟨head, tail⟩ := List.forall_mem_cons.1 same
      rw [List.forM_cons, List.forM_cons, head, ih tail]

theorem forM_mapError {change : Problem → Problem} {other : Task → Except Problem Unit}
    {tasks : List Task} (each : ∀ task ∈ tasks, other task = (run task).mapError change) :
    forM tasks other = (forM tasks run).mapError change := by
  induction tasks with
  | nil => rfl
  | cons task tasks ih =>
      obtain ⟨first, later⟩ := List.forall_mem_cons.1 each
      rw [List.forM_cons, List.forM_cons, first, ih later]
      cases run task with
      | error _ => rfl
      | ok _ => rfl

variable {Reported : Type} (change : Problem → Reported)

@[simp] theorem mapError_ok (value : Unit) :
    (Except.ok value : Except Problem Unit).mapError change = .ok value :=
  rfl

@[simp] theorem mapError_error (problem : Problem) :
    (Except.error problem : Except Problem Unit).mapError change = .error (change problem) :=
  rfl

theorem mapError_eq_ok_iff (outcome : Except Problem Unit) :
    outcome.mapError change = .ok () ↔ outcome = .ok () := by
  cases outcome <;> simp

theorem mapError_eq_error_iff (outcome : Except Problem Unit) (reported : Reported) :
    outcome.mapError change = .error reported ↔
      ∃ problem, outcome = .error problem ∧ change problem = reported := by
  cases outcome <;> simp

end FirstFailure

namespace Check

/-- A check whose failures are passed on as they are, since all violations that it reports have kinds. -/
def ReportsKinds (check : Check) : Prop :=
  ∀ {surface publics file raw shown failure},
    check.run surface publics file raw shown = .error failure → failure.passedOn = failure

theorem report_passedOn {draft : CauseDraft} (kinded : ∀ className, draft ≠ .other className none)
    (located : Except Fault Location) (reason : String) :
    (report draft located reason).passedOn = report draft located reason := by
  cases located with
  | error fault => rfl
  | ok location =>
      simp only [report, Violation.build?_some]
      cases checked : draft.check with
      | error fault => rfl
      | ok cause =>
          obtain ⟨kind, kindEq⟩ := CauseDraft.exists_kind_of_check kinded checked
          by_cases empty : reason = ""
          · simp only [dif_pos empty]
            rfl
          · simp only [dif_neg empty]
            exact Failure.passedOn_of_kind kindEq

theorem reportModifier_passedOn (surface : Surface) (file : SourceFile) (modifier : RawId)
    (rule : ModifierRule) :
    (reportModifier surface file modifier rule).passedOn =
      reportModifier surface file modifier rule := by
  unfold reportModifier
  cases surface.keywordText (file.forest.node modifier).kind with
  | error fault => rfl
  | ok spelling => exact report_passedOn (fun className same => by cases same) _ _

theorem builtin_reportsKinds (name : CheckName) : (builtin name).ReportsKinds := by
  intro surface publics file raw shown failure failed
  cases name with
  | decorators =>
      simp only [builtin, checkDecorators] at failed
      split at failed
      next => cases failed
      next =>
        split at failed
        next =>
          cases failed
          rfl
        next =>
          cases failed
          exact report_passedOn (fun className same => by cases same) _ _
  | abstractProperty =>
      simp only [builtin, checkAbstractProperty] at failed
      split at failed
      next =>
        cases failed
        exact report_passedOn (fun className same => by cases same) _ _
      next => cases failed
  | modifiers =>
      simp only [builtin, checkModifiers] at failed
      split at failed
      next => cases failed
      next =>
        cases failed
        exact reportModifier_passedOn _ _ _ _

theorem reportsKinds_of_mem_builtin (names : List CheckName) :
    ∀ check ∈ names.map builtin, check.ReportsKinds := by
  intro check enabled
  obtain ⟨name, _, rfl⟩ := List.mem_map.1 enabled
  exact builtin_reportsKinds name

end Check

namespace Validator

/-- A check that is due, with its place in the list of checks and the pair of nodes it is due on. -/
structure Task where
  check : Check
  run : CheckRun

def Task.outcome (surface : Surface) (result : ParseResult) (task : Task) : Except Failure Unit :=
  task.check.run surface result.publics result.file task.run.raw task.run.shown

def tasksFrom (place : Nat) (checks : List Check) (raw : RawId) (shown : PublicId) : List Task :=
  (checks.zipIdx place).map fun entry => ⟨entry.1, entry.2, raw, shown⟩

def tasksAt (checks : List Check) (result : ParseResult) (shown : PublicId) : List Task :=
  match result.correlation.correlate shown with
  | none => []
  | some raw => tasksFrom 0 checks raw shown

def tasksBelow (checks : List Check) (result : ParseResult) (root : PublicId) : List Task :=
  (result.publics.descent.preorder root).flatMap (tasksAt checks result)

def WorksThrough (surface : Surface) (result : ParseResult) (tasks : List Task) (trace : Trace)
    (inspection : Inspection) : Prop :=
  ∃ performed, Performs (Task.outcome surface result) tasks performed inspection.outcome ∧
    inspection.trace.runs.toList = trace.runs.toList ++ performed.map Task.run

theorem runChecks_worksThrough (surface : Surface) (result : ParseResult) (raw : RawId)
    (shown : PublicId) (checks : List Check) (place : Nat) (trace : Trace) :
    WorksThrough surface result (tasksFrom place checks raw shown) trace
      (runChecks surface result raw shown place checks trace) := by
  induction checks generalizing place trace with
  | nil => exact ⟨[], .done, by simp [runChecks]⟩
  | cons check rest ih =>
      rw [runChecks]
      simp only [tasksFrom, List.zipIdx_cons, List.map_cons]
      cases outcome : check.run surface result.publics result.file raw shown with
      | error failure => exact ⟨_, .stop outcome, by simp [Trace.run]⟩
      | ok _ =>
          obtain ⟨performed, performs, runs⟩ := ih (place + 1) (trace.run ⟨place, raw, shown⟩)
          exact ⟨_, .pass outcome performs, by rw [runs]; simp [Trace.run]⟩

theorem visit_worksThrough (checks : List Check) (surface : Surface) (result : ParseResult)
    (shown : PublicId) (trace : Trace) :
    WorksThrough surface result (tasksAt checks result shown) trace
      (visit checks surface result shown trace) := by
  simp only [visit, tasksAt]
  cases result.correlation.correlate shown with
  | none => exact ⟨[], .done, by simp [Trace.ask]⟩
  | some raw => exact runChecks_worksThrough surface result raw shown checks 0 (trace.ask shown)

theorem inspectFrom_worksThrough (checks : List Check) (surface : Surface) (result : ParseResult)
    (stack : List PublicId) (trace : Trace) :
    WorksThrough surface result
      ((result.publics.walkFrom stack).flatMap (tasksAt checks result)) trace
      (inspectFrom checks surface result stack trace) := by
  fun_induction inspectFrom checks surface result stack trace with
  | case1 trace => exact ⟨[], by simp [PublicForest.walkFrom, Performs.done], by simp⟩
  | case2 shown rest trace stopped failure visited =>
      obtain ⟨performed, performs, runs⟩ := visit_worksThrough checks surface result shown trace
      rw [visited] at performs runs
      rw [PublicForest.walkFrom, List.flatMap_cons]
      exact ⟨performed, performs.append_of_error _, runs⟩
  | case3 shown rest trace continued visited ih =>
      obtain ⟨performed, performs, runs⟩ := visit_worksThrough checks surface result shown trace
      obtain ⟨later, laterPerforms, laterRuns⟩ := ih
      rw [visited] at performs runs
      rw [PublicForest.walkFrom, List.flatMap_cons]
      refine ⟨performed ++ later, performs.append laterPerforms, ?_⟩
      rw [laterRuns, runs, List.map_append, List.append_assoc]

theorem walk_worksThrough (validator : Validator) (surface : Surface) (result : ParseResult) :
    WorksThrough surface result (tasksBelow validator.checks result result.ast) .empty
      (validator.walk surface result) := by
  have works := inspectFrom_worksThrough validator.checks surface result [result.ast] .empty
  rwa [← PublicForest.walk, PublicForest.walk_eq_preorder] at works

theorem walk_outcome_eq_forM (validator : Validator) (surface : Surface) (result : ParseResult) :
    (validator.walk surface result).outcome =
      forM (tasksBelow validator.checks result result.ast) (Task.outcome surface result) := by
  obtain ⟨_, performs, _⟩ := validator.walk_worksThrough surface result
  exact performs.outcome_eq_forM

def checkNode (checks : List Check) (surface : Surface) (result : ParseResult)
    (shown : PublicId) : Except Failure Unit :=
  match result.correlation.correlate shown with
  | none => .ok ()
  | some raw => forM checks fun check => check.run surface result.publics result.file raw shown

theorem forM_tasksAt (checks : List Check) (surface : Surface) (result : ParseResult)
    (shown : PublicId) :
    forM (tasksAt checks result shown) (Task.outcome surface result) =
      checkNode checks surface result shown := by
  simp only [tasksAt, checkNode]
  cases result.correlation.correlate shown with
  | none => rfl
  | some raw =>
      have checksEq : (checks.zipIdx 0).map Prod.fst = checks := List.zipIdx_map_fst 0 checks
      have split := List.forM_map (l := checks.zipIdx 0) (g := Prod.fst)
        (f := fun check => check.run surface result.publics result.file raw shown)
      rw [checksEq] at split
      dsimp only
      rw [split, tasksFrom, List.forM_map]
      rfl

theorem checkNode_eq_ok_iff (checks : List Check) (surface : Surface) (result : ParseResult)
    (shown : PublicId) :
    checkNode checks surface result shown = .ok () ↔
      ∀ raw, result.correlation.correlate shown = some raw → ∀ check ∈ checks,
        check.run surface result.publics result.file raw shown = .ok () := by
  simp only [checkNode]
  cases correlated : result.correlation.correlate shown with
  | none => simp
  | some raw =>
      rw [forM_eq_ok_iff]
      simp

theorem inspect_outcome_eq_ok_iff (validator : Validator) (surface : Surface)
    (result : ParseResult) :
    (validator.inspect surface result).outcome = .ok () ↔
      ∀ shown, result.publics.descent.Reaches result.ast shown →
        ∀ raw, result.correlation.correlate shown = some raw → ∀ check ∈ validator.checks,
          check.run surface result.publics result.file raw shown = .ok () := by
  have passedEq : (validator.inspect surface result).outcome = .ok () ↔
      (validator.walk surface result).outcome = .ok () := by
    rw [inspect, Inspection.passOn_outcome, mapError_eq_ok_iff]
  rw [passedEq, walk_outcome_eq_forM, tasksBelow, forM_flatMap, forM_eq_ok_iff]
  simp only [forM_tasksAt, checkNode_eq_ok_iff, Descent.mem_preorder_iff]

theorem of_mem_tasksAt {checks : List Check} {result : ParseResult} {shown : PublicId} {task : Task}
    (due : task ∈ tasksAt checks result shown) :
    task.run.shown = shown ∧ result.correlation.correlate shown = some task.run.raw ∧
      task.check ∈ checks := by
  simp only [tasksAt] at due
  cases correlated : result.correlation.correlate shown with
  | none =>
      rw [correlated] at due
      cases due
  | some raw =>
      rw [correlated] at due
      obtain ⟨entry, listed, rfl⟩ := List.mem_map.1 due
      exact ⟨rfl, rfl, List.fst_mem_of_mem_zipIdx listed⟩

theorem of_mem_tasksBelow {checks : List Check} {result : ParseResult} {root : PublicId}
    {task : Task} (due : task ∈ tasksBelow checks result root) :
    result.publics.descent.Reaches root task.run.shown ∧
      result.correlation.correlate task.run.shown = some task.run.raw ∧ task.check ∈ checks := by
  obtain ⟨shown, met, dueHere⟩ := List.mem_flatMap.1 due
  obtain ⟨rfl, correlated, enabled⟩ := of_mem_tasksAt dueHere
  exact ⟨(Descent.mem_preorder_iff _ _ _).1 met, correlated, enabled⟩

theorem exists_run_of_error {validator : Validator} {surface : Surface} {result : ParseResult}
    {failure : Failure} (failed : (validator.walk surface result).outcome = .error failure) :
    ∃ shown raw, result.correlation.correlate shown = some raw ∧ ∃ check ∈ validator.checks,
      check.run surface result.publics result.file raw shown = .error failure := by
  obtain ⟨performed, performs, _⟩ := validator.walk_worksThrough surface result
  rw [failed] at performs
  obtain ⟨before, task, after, split, _, _, fails⟩ := performs.split_of_error
  have due : task ∈ tasksBelow validator.checks result result.ast := by
    rw [split]
    exact List.mem_append_right _ List.mem_cons_self
  obtain ⟨_, correlated, enabled⟩ := of_mem_tasksBelow due
  exact ⟨_, _, correlated, task.check, enabled, fails⟩

/-- Checks whose violations all have kinds see their failures passed on as they are. -/
theorem inspect_eq_walk {validator : Validator}
    (reportKinds : ∀ check ∈ validator.checks, check.ReportsKinds) (surface : Surface)
    (result : ParseResult) : validator.inspect surface result = validator.walk surface result := by
  have outcomeEq : (validator.walk surface result).outcome.mapError Failure.passedOn =
      (validator.walk surface result).outcome := by
    cases outcome : (validator.walk surface result).outcome with
    | ok _ => rfl
    | error failure =>
        obtain ⟨shown, raw, _, check, enabled, fails⟩ := exists_run_of_error outcome
        rw [mapError_error, reportKinds check enabled fails]
  rw [inspect, Inspection.passOn, outcomeEq]

theorem inspect_builtin (names : List CheckName) (usesFastPath : Bool) (surface : Surface)
    (result : ParseResult) :
    inspect ⟨names.map Check.builtin, usesFastPath⟩ surface result =
      walk ⟨names.map Check.builtin, usesFastPath⟩ surface result :=
  inspect_eq_walk (Check.reportsKinds_of_mem_builtin names) surface result

end Validator

end Placement
