import Placement.Loader.Registry
import Placement.Validator

/-!
Requests to validate, as they share the loaders of one process. All that a request waits for is the
end of the import it joined, and the walk that follows happens at once.
-/

namespace Placement

/-- A request with its place among the loaders and among the callers of its loader. It has no place
when its text was screened out. -/
structure Request where
  validator : Validator
  result : ParseResult
  caller : Option (Nat × Nat)

inductive Verdict where
  | completed (inspection : Inspection)
  | cancelled

structure Service where
  registry : Registry
  requests : Array Request
  log : Array LogEntry

namespace Service

inductive Event where
  | request (validator : Validator) (moduleName : String) (result : ParseResult)
  | finish (slot number : Nat)
  | resume (request : Nat)
  | cancel (request : Nat)

/-- How the import of a module ends, given its number among the imports of that module. -/
abbrev Importer := String → Nat → ImportOutcome

def fresh : Service :=
  ⟨.empty, #[], #[]⟩

def verdict? (service : Service) (number : Nat) : Option Verdict := do
  let request ← service.requests[number]?
  match request.caller with
  | none => return .completed ⟨.empty, .ok ()⟩
  | some (slot, caller) =>
      match (← service.registry.session? slot).callers[caller]? with
      | some (.returned loaded) => return .completed (request.validator.answer request.result loaded)
      | some .cancelled => return .cancelled
      | _ => none

def logWalk (number : Nat) (service : Service) : Service :=
  match service.verdict? number with
  | some (.completed inspection) => { service with log := service.log ++ inspection.log }
  | _ => service

def stepSession? (service : Service) (slot : Nat) (event : Session.Event) : Option Service := do
  let session ← service.registry.session? slot
  let changed ← session.step? event
  return { service with
    registry := service.registry.modify slot fun _ => changed
    log := service.log ++ session.entries event }

def callerCount (registry : Registry) (slot : Nat) : Nat :=
  (registry.session? slot).elim 0 fun session => session.callers.size

def request? (service : Service) (validator : Validator) (moduleName : String)
    (result : ParseResult) : Except Fault Service :=
  match service.registry.obtain? moduleName with
  | .error fault => .error fault
  | .ok (registry, slot) =>
      if validator.screensOut result.text then
        .ok ⟨registry, service.requests.push ⟨validator, result, none⟩,
          service.log.push .screenedOut⟩
      else
        let request : Request := ⟨validator, result, some (slot, callerCount registry slot)⟩
        let made : Service := ⟨registry, service.requests.push request, service.log⟩
        .ok (((made.stepSession? slot .enter).getD made).logWalk service.requests.size)

def step? (importer : Importer) (service : Service) : Event → Option Service
  | .request validator moduleName result =>
      (service.request? validator moduleName result).toOption
  | .finish slot number => do
      let session ← service.registry.session? slot
      service.stepSession? slot (.finish number (importer session.loader.moduleName number))
  | .resume number => do
      let (slot, caller) ← (← service.requests[number]?).caller
      return (← service.stepSession? slot (.resume caller)).logWalk number
  | .cancel number => do
      let (slot, caller) ← (← service.requests[number]?).caller
      service.stepSession? slot (.cancel caller)

def apply (importer : Importer) (service : Service) (event : Event) : Service :=
  (service.step? importer event).getD service

def run (importer : Importer) (service : Service) (events : List Event) : Service :=
  events.foldl (apply importer) service

def release (importer : Importer) (slot : Nat) (service : Service) : Service :=
  match (service.registry.session? slot).bind fun session => session.loader.pending with
  | none => service
  | some number => service.apply importer (.finish slot number)

def await (importer : Importer) (number : Nat) (service : Service) : Service :=
  match service.requests[number]?.bind Request.caller with
  | none => service
  | some (slot, _) => (service.release importer slot).apply importer (.resume number)

def validate (importer : Importer) (service : Service) (validator : Validator) (moduleName : String)
    (result : ParseResult) : Except Fault Service :=
  (service.request? validator moduleName result).map (await importer service.requests.size)

end Service

end Placement
