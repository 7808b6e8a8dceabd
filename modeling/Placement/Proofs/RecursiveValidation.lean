import Mathlib
import Placement.Proofs.LocatedFailure

/-!
The recursive validator: a public node first, then its children from left to right, up to the first
failure. The stack walk performs the same checks and no check after the one that fails. It has the same
outcome, except that a violation without a kind is not passed on.
-/

namespace Placement

namespace Inspection

theorem log_of_kind {inspection : Inspection} {violation : Violation} {kind : ViolationKind}
    (found : inspection.outcome = .error (.violation violation)) (kinded : violation.kind = .ok kind) :
    inspection.log.map LogEntry.message =
      ["Placement violation " ++ kind.name ++ " at " ++ violation.location.render ++ ": " ++
        violation.reason] := by
  simp only [log, found, kinded]
  rfl

theorem log_of_no_violation {inspection : Inspection}
    (otherwise : ∀ violation, inspection.outcome ≠ .error (.violation violation)) :
    inspection.log = [] := by
  rw [log]
  split
  next violation found => exact absurd found (otherwise violation)
  next => rfl

end Inspection

namespace Validator

def validateBelow (checks : List Check) (surface : Surface) (result : ParseResult)
    (shown : PublicId) : Except Failure Unit := do
  checkNode checks surface result shown
  forM (result.publics.children shown).attach fun child =>
    validateBelow checks surface result child.1
termination_by shown
decreasing_by exact result.publics.children_lt shown child.1 child.2

theorem validateBelow_eq (checks : List Check) (surface : Surface) (result : ParseResult)
    (shown : PublicId) :
    validateBelow checks surface result shown = (do
      checkNode checks surface result shown
      forM (result.publics.children shown) (validateBelow checks surface result)) := by
  have attached := List.forM_map (l := (result.publics.children shown).attach)
    (g := Subtype.val) (f := validateBelow checks surface result)
  rw [List.attach_map_subtype_val] at attached
  rw [validateBelow, attached]

theorem validateBelow_eq_forM (checks : List Check) (surface : Surface) (result : ParseResult)
    (root : PublicId) :
    validateBelow checks surface result root =
      forM (tasksBelow checks result root) (Task.outcome surface result) := by
  induction root using Nat.strongRecOn with
  | ind root ih =>
      have below : forM (result.publics.children root) (validateBelow checks surface result) =
          forM (result.publics.children root) fun child =>
            forM (tasksBelow checks result child) (Task.outcome surface result) :=
        forM_congr fun child linked => ih child (result.publics.children_lt root child linked)
      rw [validateBelow_eq, below, ← forM_tasksAt, ← forM_flatMap, ← List.forM_append]
      congr 1
      rw [tasksBelow, Descent.preorder_eq, List.flatMap_cons, List.flatMap_assoc]
      rfl

theorem walk_eq_validateBelow (validator : Validator) (surface : Surface) (result : ParseResult) :
    (validator.walk surface result).outcome =
      validateBelow validator.checks surface result result.ast := by
  rw [validateBelow_eq_forM]
  exact validator.walk_outcome_eq_forM surface result

theorem inspect_outcome_eq (validator : Validator) (surface : Surface) (result : ParseResult) :
    (validator.inspect surface result).outcome =
      (validateBelow validator.checks surface result result.ast).mapError Failure.passedOn := by
  rw [inspect, Inspection.passOn_outcome, walk_eq_validateBelow]

theorem exists_performed (validator : Validator) (surface : Surface) (result : ParseResult) :
    ∃ performed,
      Performs (Task.outcome surface result) (tasksBelow validator.checks result result.ast)
        performed (validateBelow validator.checks surface result result.ast) ∧
      (validator.inspect surface result).trace.runs.toList = performed.map Task.run := by
  obtain ⟨performed, performs, runs⟩ := validator.walk_worksThrough surface result
  rw [walk_eq_validateBelow] at performs
  rw [Trace.empty, List.nil_append] at runs
  exact ⟨performed, performs, runs⟩

/-- The stack walk ends as the recursive validator does if and only if that does not end in a violation
that has no kind. Either every due check runs and passes, or the first check that fails is the last one to
run. A violation that has a kind is passed on and logged once. One that has none gives way to the fault
that its class has no kind, and nothing is logged then, nor after any other failure. -/
theorem inspect_eq_validateBelow_iff (validator : Validator) (surface : Surface)
    (result : ParseResult) :
    let inspection := validator.inspect surface result
    let recursive := validateBelow validator.checks surface result result.ast
    let due := tasksBelow validator.checks result result.ast
    (inspection.outcome = recursive ↔
      ∀ violation, recursive = .error (.violation violation) → ∃ kind, violation.kind = .ok kind) ∧
      (recursive = .ok () →
        (∀ task ∈ due, task.outcome surface result = .ok ()) ∧
          inspection.trace.runs.toList = due.map Task.run) ∧
      (∀ failure, recursive = .error failure →
        ∃ before last after, due = before ++ last :: after ∧
          (∀ task ∈ before, task.outcome surface result = .ok ()) ∧
          last.outcome surface result = .error failure ∧
          inspection.trace.runs.toList = (before ++ [last]).map Task.run) ∧
      (∀ violation kind, recursive = .error (.violation violation) → violation.kind = .ok kind →
        inspection.log.map LogEntry.message =
          ["Placement violation " ++ kind.name ++ " at " ++ violation.location.render ++ ": " ++
            violation.reason]) ∧
      (∀ violation fault, recursive = .error (.violation violation) →
        violation.kind = .error fault →
          inspection.outcome = .error (.fault fault) ∧ inspection.log = [] ∧
            ∃ className, violation.cause = .other className none ∧ fault = .noKind className) ∧
      ((∀ violation, recursive ≠ .error (.violation violation)) → inspection.log = []) := by
  intro inspection recursive due
  have outcomeEq : inspection.outcome = recursive.mapError Failure.passedOn :=
    validator.inspect_outcome_eq surface result
  obtain ⟨performed, performs, runs⟩ : ∃ performed,
      Performs (Task.outcome surface result) due performed recursive ∧
        inspection.trace.runs.toList = performed.map Task.run :=
    validator.exists_performed surface result
  refine ⟨?_, ?_, ?_, ?_, ?_, ?_⟩
  · rw [outcomeEq]
    cases ended : recursive with
    | ok _ => simp
    | error failure => simp [Failure.passedOn_eq_self_iff]
  · intro passed
    obtain ⟨rfl, all⟩ := (passed ▸ performs).eq_of_ok
    exact ⟨all, runs⟩
  · intro failure failed
    obtain ⟨before, last, after, dueEq, rfl, all, fails⟩ := (failed ▸ performs).split_of_error
    exact ⟨before, last, after, dueEq, all, fails, runs⟩
  · intro violation kind failed kinded
    refine Inspection.log_of_kind ?_ kinded
    rw [outcomeEq, failed, mapError_error, Failure.passedOn_of_kind kinded]
  · intro violation fault failed kindless
    have lost : inspection.outcome = .error (.fault fault) := by
      rw [outcomeEq, failed, mapError_error, Failure.passedOn_of_noKind kindless]
    refine ⟨lost, Inspection.log_of_no_violation fun other found => ?_, ?_⟩
    · cases lost.symm.trans found
    · exact (Cause.kind_eq_error_iff _ _).1 kindless
  · intro otherwise
    refine Inspection.log_of_no_violation fun violation found => ?_
    rw [outcomeEq, mapError_eq_error_iff] at found
    obtain ⟨failure, failed, passedOn⟩ := found
    obtain ⟨rfl, _⟩ := (Failure.passedOn_eq_violation_iff _ _).1 passedOn
    exact otherwise violation failed

/-- A validator of one check, which reports every node by a violation of a class of its own. -/
def reportingAll (className : String) (kind : Option ViolationKind) : Validator where
  checks := [⟨"all", fun _ _ file raw _ =>
    .error (Check.report (.other className kind) (file.rawLocation raw) "No methods")⟩]
  usesFastPath := false

def wholeMethod : Location :=
  ⟨⟨2, 1, Nat.two_pos⟩, ⟨2, 16, Nat.two_pos⟩, by decide⟩

def methodViolation (className : String) (kind : Option ViolationKind) : Violation where
  cause := .other className kind
  location := wholeMethod
  reason := "No methods"
  spelled := trivial
  reason_ne_empty := by decide

theorem reportingAll_fails (className : String) (kind : Option ViolationKind) :
    validateBelow (reportingAll className kind).checks .typeScript misplacedReadonly
        misplacedReadonly.ast = .error (.violation (methodViolation className kind)) := by
  have correlated : misplacedReadonly.correlation.correlate misplacedReadonly.ast = some 1 := by
    decide
  have located : misplacedReadonly.file.rawLocation 1 = .ok wholeMethod := by cbv
  have reported : Check.report (.other className kind) (.ok wholeMethod) "No methods" =
      .violation (methodViolation className kind) := rfl
  rw [validateBelow_eq, checkNode, correlated]
  simp only [reportingAll, List.forM_cons, located, reported]
  rfl

theorem plain_violation_is_lost :
    let validator := reportingAll "PlacementError" none
    let inspection := validator.inspect .typeScript misplacedReadonly
    let recursive := validateBelow validator.checks .typeScript misplacedReadonly
      misplacedReadonly.ast
    recursive = .error (.violation (methodViolation "PlacementError" none)) ∧
      inspection.outcome = .error (.fault (.noKind "PlacementError")) ∧
      inspection.outcome ≠ recursive ∧ inspection.log = [] ∧
      (Fault.noKind "PlacementError").message = "'PlacementError' object has no attribute 'kind'" := by
  intro validator inspection recursive
  have failed := reportingAll_fails "PlacementError" none
  have lost : inspection.outcome = .error (.fault (.noKind "PlacementError")) := by
    rw [validator.inspect_outcome_eq, failed]
    rfl
  refine ⟨failed, lost, ?_, ?_, by decide⟩
  · intro same
    cases lost.symm.trans (same.trans failed)
  · rw [Inspection.log, lost]

theorem own_violation_is_kept :
    let validator := reportingAll "MethodError" (some .invalidModifierPlacement)
    let inspection := validator.inspect .typeScript misplacedReadonly
    inspection.outcome =
        .error (.violation (methodViolation "MethodError" (some .invalidModifierPlacement))) ∧
      inspection.log.map LogEntry.message =
        ["Placement violation INVALID_MODIFIER_PLACEMENT at 2:1-2:16: No methods"] := by
  intro validator inspection
  have failed := reportingAll_fails "MethodError" (some .invalidModifierPlacement)
  obtain ⟨same_iff, _, _, logged, _, _⟩ :=
    validator.inspect_eq_validateBelow_iff .typeScript misplacedReadonly
  refine ⟨(same_iff.2 fun violation found => ?_).trans failed, (logged _ _ failed rfl).trans ?_⟩
  · cases failed.symm.trans found
    exact ⟨_, rfl⟩
  · cbv

end Validator

end Placement
