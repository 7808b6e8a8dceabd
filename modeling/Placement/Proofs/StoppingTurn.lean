import Placement.Proofs.FirstFailure

/-!
Turns of the checks in a walk, ordered by the step of the walk and then by the check. A walk that fails
stops at one turn, and its trace tells which: the first turn, among those of the enabled checks, at which a
check fails.
-/

namespace Placement

namespace CheckName

def place (name : CheckName) : Nat :=
  all.idxOf name

theorem eq_of_place_eq {first second : CheckName} (same : first.place = second.place) :
    first = second := by
  revert same
  cases first <;> cases second <;> decide

theorem eq_of_text_eq {first second : CheckName} (same : first.text = second.text) :
    first = second := by
  have named := named?_text first
  rw [same, named?_text second, Option.some.injEq] at named
  exact named.symm

def Ascending (names : List CheckName) : Prop :=
  names.Pairwise fun first second => first.place < second.place

theorem Ascending.mem_of_place_lt {passed rest : List CheckName} {name earlier : CheckName}
    (ascending : Ascending (passed ++ name :: rest)) (member : earlier ∈ passed ++ name :: rest)
    (before : earlier.place < name.place) : earlier ∈ passed := by
  obtain ⟨_, later, _⟩ := List.pairwise_append.1 ascending
  rcases List.mem_append.1 member with inPassed | inRest
  · exact inPassed
  · rcases List.mem_cons.1 inRest with rfl | behind
    · omega
    · have := (List.pairwise_cons.1 later).1 earlier behind
      omega

end CheckName

/-- A check on a public node: the steps of a walk count the public nodes that it meets. -/
@[ext]
structure Turn where
  step : Nat
  name : CheckName
  deriving DecidableEq

namespace Turn

instance : LT Turn where
  lt first second :=
    first.step < second.step ∨ first.step = second.step ∧ first.name.place < second.name.place

theorem lt_iff (first second : Turn) :
    first < second ↔
      first.step < second.step ∨ first.step = second.step ∧ first.name.place < second.name.place :=
  Iff.rfl

theorem lt_trichotomy (first second : Turn) : first < second ∨ first = second ∨ second < first := by
  by_cases same : first.step = second.step ∧ first.name.place = second.name.place
  · exact Or.inr (Or.inl (Turn.ext same.1 (CheckName.eq_of_place_eq same.2)))
  · simp only [lt_iff]
    omega

theorem lt_of_not_lt_of_lt {first second third : Turn} (notAfter : ¬second < first)
    (before : second < third) : first < third := by
  rcases lt_trichotomy first second with earlier | same | later
  · simp only [lt_iff] at earlier before ⊢
    omega
  · rwa [same]
  · exact absurd later notAfter

def Fails (surface : Surface) (result : ParseResult) (turn : Turn) (failure : Failure) : Prop :=
  ∃ shown raw, (result.publics.walk result.ast)[turn.step]? = some shown ∧
    result.correlation.correlate shown = some raw ∧
    (Check.builtin turn.name).run surface result.publics result.file raw shown = .error failure

variable {surface : Surface} {result : ParseResult} {names : List CheckName} {turn : Turn}
  {failure : Failure}

theorem Fails.unique {other : Failure} (fails : turn.Fails surface result failure)
    (again : turn.Fails surface result other) : failure = other := by
  obtain ⟨shown, raw, met, correlated, failed⟩ := fails
  obtain ⟨sameShown, sameRaw, sameMet, sameCorrelated, otherFailed⟩ := again
  obtain rfl := Option.some.inj (met.symm.trans sameMet)
  obtain rfl := Option.some.inj (correlated.symm.trans sameCorrelated)
  exact Except.error.inj (failed.symm.trans otherFailed)

/-- The first turn of the named checks at which one of them fails. -/
structure FailsFirst (surface : Surface) (result : ParseResult) (names : List CheckName)
    (turn : Turn) (failure : Failure) : Prop where
  enabled : turn.name ∈ names
  fails : turn.Fails surface result failure
  first : ∀ earlier : Turn, earlier < turn → earlier.name ∈ names →
    ∀ failure, ¬earlier.Fails surface result failure

theorem FailsFirst.not_lt {other : Turn} {otherFailure : Failure}
    (failsFirst : turn.FailsFirst surface result names failure) (enabled : other.name ∈ names)
    (fails : other.Fails surface result otherFailure) : ¬other < turn :=
  fun earlier => failsFirst.first other earlier enabled otherFailure fails

theorem FailsFirst.unique {other : Turn} {otherFailure : Failure}
    (failsFirst : turn.FailsFirst surface result names failure)
    (again : other.FailsFirst surface result names otherFailure) :
    turn = other ∧ failure = otherFailure := by
  have same : turn = other := by
    rcases lt_trichotomy turn other with earlier | same | later
    · exact absurd earlier (again.not_lt failsFirst.enabled failsFirst.fails)
    · exact same
    · exact absurd later (failsFirst.not_lt again.enabled again.fails)
  subst same
  exact ⟨rfl, failsFirst.fails.unique again.fails⟩

end Turn

section FirstFailure

variable {Task Problem : Type} {run : Task → Except Problem Unit}

theorem exists_performs (run : Task → Except Problem Unit) (tasks : List Task) :
    ∃ performed, Performs run tasks performed (forM tasks run) := by
  induction tasks with
  | nil => exact ⟨[], .done⟩
  | cons task rest ih =>
      rw [List.forM_cons]
      cases outcome : run task with
      | error problem => exact ⟨[task], .stop outcome⟩
      | ok _ =>
          obtain ⟨performed, performs⟩ := ih
          exact ⟨task :: performed, .pass outcome performs⟩

theorem split_of_forM_error {tasks : List Task} {problem : Problem}
    (failed : forM tasks run = .error problem) :
    ∃ before last after, tasks = before ++ last :: after ∧ (∀ task ∈ before, run task = .ok ()) ∧
      run last = .error problem := by
  obtain ⟨performed, performs⟩ := exists_performs run tasks
  rw [failed] at performs
  obtain ⟨before, last, after, split, _, passes, fails⟩ := performs.split_of_error
  exact ⟨before, last, after, split, passes, fails⟩

theorem first_failing_unique (run : Task → Except Problem Unit)
    {before after other later : List Task} {last task : Task} {problem otherProblem : Problem}
    (same : before ++ last :: after = other ++ task :: later)
    (passes : ∀ task ∈ before, run task = .ok ()) (fails : run last = .error problem)
    (otherPasses : ∀ task ∈ other, run task = .ok ()) (otherFails : run task = .error otherProblem) :
    last = task := by
  have found : ∀ {before : List Task} (after : List Task) {last : Task} {problem : Problem},
      (∀ task ∈ before, run task = .ok ()) → run last = .error problem →
        (before ++ last :: after).find? (fun task => !(run task).isOk) = some last := by
    intro before after last problem passes fails
    rw [List.find?_eq_some_iff_append]
    refine ⟨by rw [fails]; rfl, before, after, rfl, fun task member => ?_⟩
    rw [passes task member]
    rfl
  have lastFound := found after passes fails
  rw [same, found later otherPasses otherFails] at lastFound
  exact (Option.some.inj lastFound).symm

end FirstFailure

namespace Validator

theorem runChecks_asked (surface : Surface) (result : ParseResult) (raw : RawId) (shown : PublicId)
    (checks : List Check) (place : Nat) (trace : Trace) :
    (runChecks surface result raw shown place checks trace).trace.asked = trace.asked := by
  induction checks generalizing place trace with
  | nil => rfl
  | cons check rest ih =>
      simp only [runChecks]
      cases check.run surface result.publics result.file raw shown with
      | error failure => rfl
      | ok _ => rw [ih]; rfl

theorem visit_asked (checks : List Check) (surface : Surface) (result : ParseResult)
    (shown : PublicId) (trace : Trace) :
    (visit checks surface result shown trace).trace.asked = trace.asked.push shown := by
  simp only [visit]
  cases result.correlation.correlate shown with
  | none => rfl
  | some raw => rw [runChecks_asked]; rfl

theorem visit_outcome (checks : List Check) (surface : Surface) (result : ParseResult)
    (shown : PublicId) (trace : Trace) :
    (visit checks surface result shown trace).outcome = checkNode checks surface result shown := by
  obtain ⟨_, performs, _⟩ := visit_worksThrough checks surface result shown trace
  rw [performs.outcome_eq_forM, forM_tasksAt]

theorem inspectFrom_asks (checks : List Check) (surface : Surface) (result : ParseResult)
    (stack : List PublicId) (trace : Trace) :
    ∃ met, Performs (checkNode checks surface result) (result.publics.walkFrom stack) met
        (inspectFrom checks surface result stack trace).outcome ∧
      (inspectFrom checks surface result stack trace).trace.asked.toList =
        trace.asked.toList ++ met := by
  fun_induction inspectFrom checks surface result stack trace with
  | case1 trace => exact ⟨[], by rw [PublicForest.walkFrom]; exact .done, by simp⟩
  | case2 shown rest trace stopped failure visited =>
      have outcome := visit_outcome checks surface result shown trace
      have asked := visit_asked checks surface result shown trace
      rw [visited] at outcome asked
      rw [PublicForest.walkFrom]
      exact ⟨[shown], .stop outcome.symm, by rw [asked, Array.toList_push]⟩
  | case3 shown rest trace continued visited ih =>
      obtain ⟨met, performs, askedLater⟩ := ih
      have outcome := visit_outcome checks surface result shown trace
      have asked := visit_asked checks surface result shown trace
      rw [visited] at outcome asked
      rw [PublicForest.walkFrom]
      refine ⟨shown :: met, .pass outcome.symm performs, ?_⟩
      rw [askedLater, asked, Array.toList_push, List.append_assoc, List.singleton_append]

theorem walk_asks (validator : Validator) (surface : Surface) (result : ParseResult) :
    Performs (checkNode validator.checks surface result) (result.publics.walk result.ast)
      (validator.walk surface result).trace.asked.toList
      (validator.walk surface result).outcome := by
  obtain ⟨met, performs, asked⟩ :=
    inspectFrom_asks validator.checks surface result [result.ast] .empty
  rw [Trace.empty, List.nil_append] at asked
  rwa [walk, Trace.empty, asked]

/-- A walk that a check ends by a failure: the public node of the turn is the last one asked about, and
the check is the last one run, on that node. -/
structure StopsAt (validator : Validator) (surface : Surface) (result : ParseResult) (turn : Turn)
    (failure : Failure) : Prop where
  failed : (validator.inspect surface result).outcome = .error failure
  asked : (validator.inspect surface result).trace.asked.size = turn.step + 1
  last_run : ∃ run, (validator.inspect surface result).trace.runs.back? = some run ∧
    (result.publics.walk result.ast)[turn.step]? = some run.shown ∧
    (validator.checks[run.place]?).map Check.name = some turn.name.text

variable {surface : Surface} {result : ParseResult} {names : List CheckName} {usesFastPath : Bool}
  {turn : Turn} {failure : Failure}

theorem StopsAt.unique {validator : Validator} {other : Turn} {otherFailure : Failure}
    (stops : validator.StopsAt surface result turn failure)
    (again : validator.StopsAt surface result other otherFailure) : turn = other := by
  obtain ⟨run, isLast, _, named⟩ := stops.last_run
  obtain ⟨sameRun, sameLast, _, otherNamed⟩ := again.last_run
  obtain rfl := Option.some.inj (isLast.symm.trans sameLast)
  have sameName := CheckName.eq_of_text_eq (Option.some.inj (named.symm.trans otherNamed))
  exact Turn.ext (Nat.succ.inj (stops.asked.symm.trans again.asked)) sameName

structure EndsAt (surface : Surface) (result : ParseResult) (names : List CheckName)
    (before : List PublicId) (shown : PublicId) (raw : RawId) (passed : List CheckName)
    (name : CheckName) (failure : Failure) : Prop where
  walk_eq : ∃ after, result.publics.walk result.ast = before ++ shown :: after
  passes : ∀ node ∈ before, checkNode (names.map Check.builtin) surface result node = .ok ()
  correlated : result.correlation.correlate shown = some raw
  names_eq : ∃ rest, names = passed ++ name :: rest
  checks_pass : ∀ earlier ∈ passed,
    (Check.builtin earlier).run surface result.publics result.file raw shown = .ok ()
  fails : (Check.builtin name).run surface result.publics result.file raw shown = .error failure

theorem exists_failing_check {shown : PublicId}
    (failed : checkNode (names.map Check.builtin) surface result shown = .error failure) :
    ∃ raw, result.correlation.correlate shown = some raw ∧
      ∃ passed name rest, names = passed ++ name :: rest ∧
        (∀ earlier ∈ passed,
          (Check.builtin earlier).run surface result.publics result.file raw shown = .ok ()) ∧
        (Check.builtin name).run surface result.publics result.file raw shown = .error failure := by
  rw [checkNode] at failed
  cases correlated : result.correlation.correlate shown with
  | none =>
      rw [correlated] at failed
      cases failed
  | some raw =>
      rw [correlated] at failed
      dsimp only at failed
      rw [List.forM_map] at failed
      exact ⟨raw, rfl, split_of_forM_error failed⟩

theorem tasksAt_split {shown : PublicId} {raw : RawId}
    (correlated : result.correlation.correlate shown = some raw) (passed : List CheckName)
    (name : CheckName) (rest : List CheckName) :
    ∃ later, tasksAt ((passed ++ name :: rest).map Check.builtin) result shown =
      tasksFrom 0 (passed.map Check.builtin) raw shown ++
        ⟨Check.builtin name, passed.length, raw, shown⟩ :: later := by
  refine ⟨tasksFrom (passed.length + 1) (rest.map Check.builtin) raw shown, ?_⟩
  simp only [tasksAt, correlated, tasksFrom, List.map_append, List.map_cons, List.zipIdx_append,
    List.zipIdx_cons, List.length_map, Nat.zero_add]

theorem outcome_of_mem_tasksFrom {place : Nat} {raw : RawId} {shown : PublicId}
    (passes : ∀ name ∈ names, (Check.builtin name).run surface result.publics result.file raw shown =
      .ok ()) :
    ∀ task ∈ tasksFrom place (names.map Check.builtin) raw shown,
      task.outcome surface result = .ok () := by
  intro task due
  obtain ⟨entry, listed, rfl⟩ := List.mem_map.1 due
  obtain ⟨name, enabled, checkEq⟩ := List.mem_map.1 (List.fst_mem_of_mem_zipIdx listed)
  rw [Task.outcome, ← checkEq]
  exact passes name enabled

namespace EndsAt

variable {before : List PublicId} {shown : PublicId} {raw : RawId} {passed : List CheckName}
  {name : CheckName}

theorem met (ends : EndsAt surface result names before shown raw passed name failure) :
    (result.publics.walk result.ast)[before.length]? = some shown := by
  obtain ⟨after, walkEq⟩ := ends.walk_eq
  rw [walkEq, List.getElem?_append_right (Nat.le_refl _), Nat.sub_self, List.getElem?_cons_zero]

theorem failsFirst (ends : EndsAt surface result names before shown raw passed name failure)
    (ascending : CheckName.Ascending names) :
    Turn.FailsFirst surface result names ⟨before.length, name⟩ failure := by
  obtain ⟨rest, namesEq⟩ := ends.names_eq
  have enabled : name ∈ names := by simp [namesEq]
  refine ⟨enabled, ⟨shown, raw, ends.met, ends.correlated, ends.fails⟩, ?_⟩
  rintro ⟨step, earlier⟩ isEarlier earlierEnabled other ⟨node, own, metThere, correlated, failed⟩
  rcases (Turn.lt_iff _ _).1 isEarlier with earlierStep | ⟨sameStep, earlierCheck⟩
  · have isBefore : node ∈ before := by
      obtain ⟨after, walkEq⟩ := ends.walk_eq
      rw [walkEq, List.getElem?_append_left earlierStep] at metThere
      exact List.mem_of_getElem? metThere
    have passed := (checkNode_eq_ok_iff _ _ _ _).1 (ends.passes node isBefore) own correlated _
      (List.mem_map_of_mem earlierEnabled)
    cases passed.symm.trans failed
  · obtain rfl : step = before.length := sameStep
    obtain rfl := Option.some.inj (ends.met.symm.trans metThere)
    obtain rfl := Option.some.inj (ends.correlated.symm.trans correlated)
    subst namesEq
    have inPassed := ascending.mem_of_place_lt earlierEnabled earlierCheck
    cases (ends.checks_pass earlier inPassed).symm.trans failed

theorem last_run (ends : EndsAt surface result names before shown raw passed name failure)
    (failed : (inspect ⟨names.map Check.builtin, usesFastPath⟩ surface result).outcome =
      .error failure) :
    (inspect ⟨names.map Check.builtin, usesFastPath⟩ surface result).trace.runs.back? =
      some ⟨passed.length, raw, shown⟩ := by
  obtain ⟨after, walkEq⟩ := ends.walk_eq
  obtain ⟨rest, rfl⟩ := ends.names_eq
  rw [inspect_builtin] at failed ⊢
  obtain ⟨performed, performs, runs⟩ := walk_worksThrough
    ⟨(passed ++ name :: rest).map Check.builtin, usesFastPath⟩ surface result
  rw [failed] at performs
  obtain ⟨earlierTasks, lastTask, laterTasks, tasksEq, rfl, tasksPass, taskFails⟩ :=
    performs.split_of_error
  obtain ⟨laterHere, dueHere⟩ := tasksAt_split ends.correlated passed name rest
  rw [tasksBelow, ← PublicForest.walk_eq_preorder, walkEq, List.flatMap_append, List.flatMap_cons,
    dueHere, List.append_assoc, List.cons_append, ← List.append_assoc] at tasksEq
  have lastEq := first_failing_unique (Task.outcome surface result) tasksEq ?_ ends.fails tasksPass
    taskFails
  · rw [← Array.getLast?_toList, runs, Trace.empty, List.nil_append, List.map_append, ← lastEq]
    simp
  · intro task due
    rcases List.mem_append.1 due with onEarlierNode | byEarlierCheck
    · obtain ⟨node, isBefore, dueThere⟩ := List.mem_flatMap.1 onEarlierNode
      have nodePasses := ends.passes node isBefore
      rw [← forM_tasksAt, forM_eq_ok_iff] at nodePasses
      exact nodePasses task dueThere
    · exact outcome_of_mem_tasksFrom ends.checks_pass task byEarlierCheck

end EndsAt

theorem exists_stop_of_error (ascending : CheckName.Ascending names)
    (failed : (inspect ⟨names.map Check.builtin, usesFastPath⟩ surface result).outcome =
      .error failure) :
    ∃ turn : Turn, turn.FailsFirst surface result names failure ∧
      StopsAt ⟨names.map Check.builtin, usesFastPath⟩ surface result turn failure := by
  have asks := walk_asks ⟨names.map Check.builtin, usesFastPath⟩ surface result
  rw [← inspect_builtin, failed] at asks
  obtain ⟨before, shown, after, walkEq, asked, passes, fails⟩ := asks.split_of_error
  obtain ⟨raw, correlated, passed, name, rest, rfl, checksPass, checkFails⟩ :=
    exists_failing_check fails
  have ends : EndsAt surface result (passed ++ name :: rest) before shown raw passed name failure :=
    ⟨⟨after, walkEq⟩, passes, correlated, ⟨rest, rfl⟩, checksPass, checkFails⟩
  refine ⟨⟨before.length, name⟩, ends.failsFirst ascending, failed, ?_, ?_⟩
  · rw [← Array.length_toList, asked, List.length_append, List.length_singleton]
  · exact ⟨_, ends.last_run failed, ends.met, by simp [Check.builtin]⟩

theorem passes_iff :
    (inspect ⟨names.map Check.builtin, usesFastPath⟩ surface result).outcome = .ok () ↔
      ∀ turn : Turn, turn.name ∈ names → ∀ failure, ¬turn.Fails surface result failure := by
  rw [inspect_outcome_eq_ok_iff]
  constructor
  · rintro passes ⟨step, name⟩ enabled failure ⟨shown, raw, met, correlated, failed⟩
    have reached := (PublicForest.mem_walk_iff _ _ _).1 (List.mem_of_getElem? met)
    have passed := passes shown reached raw correlated _ (List.mem_map_of_mem enabled)
    cases passed.symm.trans failed
  · intro nowhere shown reached raw correlated check listed
    obtain ⟨name, enabled, rfl⟩ := List.mem_map.1 listed
    obtain ⟨step, met⟩ := List.mem_iff_getElem?.1 ((PublicForest.mem_walk_iff _ _ _).2 reached)
    cases outcome : (Check.builtin name).run surface result.publics result.file raw shown with
    | ok _ => rfl
    | error failure =>
        exact absurd ⟨shown, raw, met, correlated, outcome⟩ (nowhere ⟨step, name⟩ enabled failure)

theorem stopsAt_iff (ascending : CheckName.Ascending names) :
    StopsAt ⟨names.map Check.builtin, usesFastPath⟩ surface result turn failure ↔
      turn.FailsFirst surface result names failure := by
  constructor
  · intro stops
    obtain ⟨other, failsFirst, again⟩ := exists_stop_of_error ascending stops.failed
    rwa [stops.unique again]
  · intro failsFirst
    cases outcome : (inspect ⟨names.map Check.builtin, usesFastPath⟩ surface result).outcome with
    | ok _ => exact absurd failsFirst.fails (passes_iff.1 outcome turn failsFirst.enabled failure)
    | error other =>
        obtain ⟨otherTurn, otherFirst, stops⟩ := exists_stop_of_error ascending outcome
        obtain ⟨rfl, rfl⟩ := failsFirst.unique otherFirst
        exact stops

end Validator

end Placement
