import Placement.Location
import Placement.ModifierRule

/-!
Placement violations: what is misplaced, where it stands and what is reported. A violation is shaped
like a syntax error, a reason with the position at which it starts. Checks from outside may report
violations of their own classes, and a class need not have a kind.
-/

namespace Placement

inductive ViolationKind where
  | invalidDecoratorPlacement
  | abstractPropertyWithInitializer
  | invalidModifierPlacement
  deriving DecidableEq, Repr

namespace ViolationKind

def all : List ViolationKind :=
  [.invalidDecoratorPlacement, .abstractPropertyWithInitializer, .invalidModifierPlacement]

def number (kind : ViolationKind) : Nat :=
  all.idxOf kind + 1

def name : ViolationKind → String
  | .invalidDecoratorPlacement => "INVALID_DECORATOR_PLACEMENT"
  | .abstractPropertyWithInitializer => "ABSTRACT_PROPERTY_WITH_INITIALIZER"
  | .invalidModifierPlacement => "INVALID_MODIFIER_PLACEMENT"

end ViolationKind

/-- What is misplaced; of a modifier, the rule against it and its source spelling. Any other violation
is told by its class and the kind of that class. -/
inductive Cause where
  | decorator
  | abstractInitializer
  | modifier (rule : ModifierRule) (spelling : String)
  | other (className : String) (kind : Option ViolationKind)
  deriving DecidableEq, Repr

namespace Cause

def kind : Cause → Except Fault ViolationKind
  | .decorator => .ok .invalidDecoratorPlacement
  | .abstractInitializer => .ok .abstractPropertyWithInitializer
  | .modifier _ _ => .ok .invalidModifierPlacement
  | .other _ (some kind) => .ok kind
  | .other className none => .error (.noKind className)

theorem kind_eq_error_iff (cause : Cause) (fault : Fault) :
    cause.kind = .error fault ↔
      ∃ className, cause = .other className none ∧ fault = .noKind className := by
  fun_cases kind cause <;> simp [eq_comm]

def IsSpelled : Cause → Prop
  | .modifier _ spelling => spelling ≠ ""
  | _ => True

end Cause

structure Violation where
  cause : Cause
  location : Location
  reason : String
  spelled : cause.IsSpelled
  reason_ne_empty : reason ≠ ""

inductive CauseDraft where
  | decorator
  | abstractInitializer
  | modifier (rule : Option ModifierRule) (spelling : String)
  | other (className : String) (kind : Option ViolationKind)

namespace CauseDraft

def check : CauseDraft → Except Fault { cause : Cause // cause.IsSpelled }
  | .decorator => .ok ⟨.decorator, trivial⟩
  | .abstractInitializer => .ok ⟨.abstractInitializer, trivial⟩
  | .modifier none _ => .error (.absent .rule)
  | .modifier (some rule) spelling =>
      if spelled : spelling = "" then .error .emptyModifier
      else .ok ⟨.modifier rule spelling, spelled⟩
  | .other className kind => .ok ⟨.other className kind, trivial⟩

theorem exists_kind_of_check {draft : CauseDraft} (kinded : ∀ className, draft ≠ .other className none)
    {cause : { cause : Cause // cause.IsSpelled }} (checked : draft.check = .ok cause) :
    ∃ kind, cause.1.kind = .ok kind := by
  cases draft with
  | decorator =>
      cases checked
      exact ⟨_, rfl⟩
  | abstractInitializer =>
      cases checked
      exact ⟨_, rfl⟩
  | modifier rule spelling =>
      cases rule with
      | none => cases checked
      | some rule =>
          rw [check] at checked
          split at checked
          next => cases checked
          next =>
            cases checked
            exact ⟨_, rfl⟩
  | other className kind =>
      cases checked
      cases kind with
      | none => exact absurd rfl (kinded className)
      | some kind => exact ⟨kind, rfl⟩

end CauseDraft

namespace Violation

/-- Checks the cause, then the location, then the reason. -/
def build? (draft : CauseDraft) (location : Option Location) (reason : String) :
    Except Fault Violation := do
  let ⟨cause, spelled⟩ ← draft.check
  let some location := location | throw (.absent .location)
  if empty : reason = "" then throw .emptyReason
  else return ⟨cause, location, reason, spelled, empty⟩

theorem build?_some (draft : CauseDraft) (location : Location) (reason : String) :
    build? draft (some location) reason =
      match draft.check with
      | .error fault => .error fault
      | .ok cause =>
          if empty : reason = "" then .error .emptyReason
          else .ok ⟨cause.1, location, reason, cause.2, empty⟩ := by
  rw [build?]
  cases draft.check <;> rfl

theorem build?_eq_ok_iff (draft : CauseDraft) (location : Location) (reason : String)
    (violation : Violation) :
    build? draft (some location) reason = .ok violation ↔
      draft.check.map Subtype.val = .ok violation.cause ∧ location = violation.location ∧
        reason = violation.reason := by
  obtain ⟨cause, place, stated, spelled, nonempty⟩ := violation
  rw [build?_some]
  cases draft.check with
  | error fault => simp [Except.map]
  | ok given =>
      dsimp only
      split
      next empty =>
        subst empty
        simp [Except.map, Ne.symm nonempty]
      next => simp [Except.map]

def kind (violation : Violation) : Except Fault ViolationKind :=
  violation.cause.kind

def message (violation : Violation) : String :=
  violation.reason ++ " (" ++ violation.location.start.render ++ ")"

def lineno (violation : Violation) : Nat :=
  violation.location.start.line

/-- Columns of a syntax error count from one. -/
def offset (violation : Violation) : Nat :=
  violation.location.start.column + 1

def endLineno (violation : Violation) : Nat :=
  violation.location.stop.line

def endOffset (violation : Violation) : Nat :=
  violation.location.stop.column + 1

theorem ends_ordered (violation : Violation) :
    violation.lineno < violation.endLineno ∨
      violation.lineno = violation.endLineno ∧ violation.offset ≤ violation.endOffset := by
  have ordered := (Position.le_iff _ _).1 violation.location.ordered
  simp only [lineno, offset, endLineno, endOffset]
  omega

end Violation

end Placement
