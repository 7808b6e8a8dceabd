import Placement.Config
import Placement.LogEntry
import Placement.ParseResult
import Placement.Prefilter

/-!
The walk over a parse result. Public nodes are met in document order, and the checks run on each one
that correlates with a raw node, until the first failure. A violation is logged and passed on.
-/

namespace Placement

structure CheckRun where
  place : Nat
  raw : RawId
  shown : PublicId
  deriving DecidableEq, Repr

/-- What a walk did: the public nodes that were correlated and the checks that ran, in order. -/
structure Trace where
  asked : Array PublicId
  runs : Array CheckRun
  deriving DecidableEq, Repr

namespace Trace

def empty : Trace :=
  ⟨#[], #[]⟩

def ask (trace : Trace) (shown : PublicId) : Trace :=
  { trace with asked := trace.asked.push shown }

def run (trace : Trace) (checkRun : CheckRun) : Trace :=
  { trace with runs := trace.runs.push checkRun }

end Trace

structure Inspection where
  trace : Trace
  outcome : Except Failure Unit

namespace Inspection

def passOn (inspection : Inspection) : Inspection :=
  { inspection with outcome := inspection.outcome.mapError Failure.passedOn }

@[simp] theorem passOn_trace (inspection : Inspection) : inspection.passOn.trace = inspection.trace :=
  rfl

theorem passOn_outcome (inspection : Inspection) :
    inspection.passOn.outcome = inspection.outcome.mapError Failure.passedOn :=
  rfl

def log (inspection : Inspection) : List LogEntry :=
  match inspection.outcome with
  | .error (.violation found) =>
      match found.kind with
      | .ok kind => [.violation kind found]
      | .error _ => []
  | _ => []

end Inspection

structure Validator where
  checks : List Check
  usesFastPath : Bool

namespace Validator

def defaults : Validator :=
  ⟨Check.defaults, true⟩

def ofConfig (config : Config) : Validator :=
  ⟨config.checks, config.usesFastPath⟩

def runChecks (surface : Surface) (result : ParseResult) (raw : RawId) (shown : PublicId) :
    Nat → List Check → Trace → Inspection
  | _, [], trace => ⟨trace, .ok ()⟩
  | place, check :: rest, trace =>
      let trace := trace.run ⟨place, raw, shown⟩
      match check.run surface result.publics result.file raw shown with
      | .error failure => ⟨trace, .error failure⟩
      | .ok () => runChecks surface result raw shown (place + 1) rest trace

def visit (checks : List Check) (surface : Surface) (result : ParseResult) (shown : PublicId)
    (trace : Trace) : Inspection :=
  let trace := trace.ask shown
  match result.correlation.correlate shown with
  | none => ⟨trace, .ok ()⟩
  | some raw => runChecks surface result raw shown 0 checks trace

def inspectFrom (checks : List Check) (surface : Surface) (result : ParseResult) :
    List PublicId → Trace → Inspection
  | [], trace => ⟨trace, .ok ()⟩
  | shown :: rest, trace =>
      match visit checks surface result shown trace with
      | ⟨trace, .error failure⟩ => ⟨trace, .error failure⟩
      | ⟨trace, .ok ()⟩ =>
          inspectFrom checks surface result (result.publics.children shown ++ rest) trace
termination_by stack => result.publics.descent.stackWeight stack
decreasing_by exact result.publics.descent.stackWeight_lt shown _ rest (.refl _)

/-- The walk from the root, with the failure as its check gave it. -/
def walk (validator : Validator) (surface : Surface) (result : ParseResult) : Inspection :=
  inspectFrom validator.checks surface result [result.ast] .empty

def inspect (validator : Validator) (surface : Surface) (result : ParseResult) : Inspection :=
  (validator.walk surface result).passOn

def screensOut (validator : Validator) (text : Text) : Bool :=
  validator.usesFastPath && !mightHaveViolations text

def answer (validator : Validator) (result : ParseResult) : Except Failure Surface → Inspection
  | .error failure => ⟨.empty, .error failure⟩
  | .ok surface => validator.inspect surface result

end Validator

end Placement
