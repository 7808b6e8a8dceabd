import Placement.Violation

/-!
Ways in which a request can fail: a broken invariant, an unknown check name, a placement violation, a
surface that could not be loaded, or an error of the imported module that is none of these.
-/

namespace Placement

structure UnknownCheck where
  name : String
  known : List String
  deriving DecidableEq, Repr

def UnknownCheck.message (unknown : UnknownCheck) : String :=
  "unknown check " ++ quoted unknown.name ++ ", expected one of: " ++
    String.intercalate ", " unknown.known

structure LoadError where
  moduleName : String
  reason : String
  module_ne_empty : moduleName ≠ ""
  reason_ne_empty : reason ≠ ""
  deriving DecidableEq, Repr

namespace LoadError

def build? (moduleName reason : String) : Except Fault LoadError :=
  if unnamed : moduleName = "" then .error .emptyModuleName
  else if empty : reason = "" then .error .emptyReason
  else .ok ⟨moduleName, reason, unnamed, empty⟩

def message (error : LoadError) : String :=
  "Failed to load compiler API from " ++ error.moduleName ++ ": " ++ error.reason

end LoadError

structure ImportCrash where
  className : String
  text : String
  deriving DecidableEq, Repr

inductive Failure where
  | fault (fault : Fault)
  | unknownCheck (unknown : UnknownCheck)
  | violation (violation : Violation)
  | load (error : LoadError)
  | crash (crash : ImportCrash)

namespace Failure

def message : Failure → String
  | fault broken => broken.message
  | unknownCheck unknown => unknown.message
  | violation found => found.message
  | load error => error.message
  | crash raised => raised.text

/-- What an inspection makes of the failure of a check. To log a violation its kind is read before it is
passed on, so where there is none the fault of that comes out instead. -/
def passedOn : Failure → Failure
  | violation found =>
      match found.kind with
      | .ok _ => violation found
      | .error broken => fault broken
  | failure => failure

theorem passedOn_of_kind {found : Violation} {kind : ViolationKind} (kinded : found.kind = .ok kind) :
    passedOn (.violation found) = .violation found := by
  simp only [passedOn, kinded]

theorem passedOn_of_noKind {found : Violation} {broken : Fault} (kindless : found.kind = .error broken) :
    passedOn (.violation found) = .fault broken := by
  simp only [passedOn, kindless]

theorem passedOn_eq_violation_iff (failure : Failure) (found : Violation) :
    failure.passedOn = .violation found ↔
      failure = .violation found ∧ ∃ kind, found.kind = .ok kind := by
  cases failure with
  | violation met =>
      cases kindEq : met.kind with
      | ok kind =>
          rw [passedOn_of_kind kindEq]
          constructor
          · intro same
            cases same
            exact ⟨rfl, kind, kindEq⟩
          · exact And.left
      | error broken =>
          rw [passedOn_of_noKind kindEq]
          constructor
          · intro same
            cases same
          · rintro ⟨same, kind, kinded⟩
            cases same
            cases kindEq.symm.trans kinded
  | fault _ => simp [passedOn]
  | unknownCheck _ => simp [passedOn]
  | load _ => simp [passedOn]
  | crash _ => simp [passedOn]

theorem passedOn_eq_self_iff (failure : Failure) :
    failure.passedOn = failure ↔
      ∀ found, failure = .violation found → ∃ kind, found.kind = .ok kind := by
  cases failure with
  | violation found =>
      cases kindEq : found.kind with
      | ok kind => simp [passedOn_of_kind kindEq, kindEq]
      | error broken => simp [passedOn_of_noKind kindEq, kindEq]
  | fault _ => simp [passedOn]
  | unknownCheck _ => simp [passedOn]
  | load _ => simp [passedOn]
  | crash _ => simp [passedOn]

end Failure

end Placement
