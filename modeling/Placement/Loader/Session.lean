import Placement.Loader

/-!
Callers of one loader on one event loop. Callers enter, imports end, waiting callers resume or are
cancelled, in any order; whatever happens between two such events happens at once. The cancellation of
a caller does not reach the import it waits for.
-/

namespace Placement

inductive CallerState where
  | waiting (number : Nat)
  | returned (result : Except Failure Surface)
  | cancelled

namespace CallerState

def ofEntry : Entry → CallerState
  | .ready surface => .returned (.ok surface)
  | .joined number | .started number => .waiting number

def awaited? : CallerState → Option Nat
  | .waiting number => some number
  | _ => none

end CallerState

structure Session where
  loader : Loader
  callers : Array CallerState
  log : Array LogEntry

namespace Session

inductive Event where
  | enter
  | finish (number : Nat) (outcome : ImportOutcome)
  | resume (caller : Nat)
  | cancel (caller : Nat)

def start (loader : Loader) : Session :=
  ⟨loader, #[], #[]⟩

def awaited? (session : Session) (caller : Nat) : Option Nat :=
  session.callers[caller]?.bind CallerState.awaited?

def result? (session : Session) (caller : Nat) : Option (Except Failure Surface) :=
  (session.awaited? caller).bind session.loader.result?

def entries (session : Session) : Event → List LogEntry
  | .enter =>
      match session.loader.entry with
      | .started _ => [.loading session.loader.moduleName]
      | _ => []
  | .finish _ outcome => Loader.finishLog session.loader.moduleName outcome
  | _ => []

def settleCaller (session : Session) (caller : Nat) (state : CallerState) : Session :=
  { session with callers := session.callers.setIfInBounds caller state }

def allows (session : Session) : Event → Bool
  | .enter => true
  | .finish number _ => session.loader.isRunning number
  | .resume caller => (session.result? caller).isSome
  | .cancel caller => (session.awaited? caller).isSome

/-- The session after an event. Events that cannot happen change nothing. -/
def apply (session : Session) (event : Event) : Session :=
  let entries := session.entries event
  match event with
  | .enter =>
      let entry := session.loader.entry
      ⟨session.loader.enter, session.callers.push (.ofEntry entry), session.log ++ entries⟩
  | .finish number outcome =>
      if session.loader.isRunning number then
        ⟨session.loader.finish number outcome, session.callers, session.log ++ entries⟩
      else session
  | .resume caller =>
      match session.result? caller with
      | some result => session.settleCaller caller (.returned result)
      | none => session
  | .cancel caller =>
      match session.awaited? caller with
      | some _ => session.settleCaller caller .cancelled
      | none => session

def step? (session : Session) (event : Event) : Option Session :=
  if session.allows event then some (session.apply event) else none

def run (session : Session) (events : List Event) : Session :=
  events.foldl apply session

/-- Ends the latest import, if it is unfinished; import number `k` ends as `importer k` says. -/
def release (importer : Nat → ImportOutcome) (session : Session) : Session :=
  match session.loader.pending with
  | none => session
  | some number => session.apply (.finish number (importer number))

def load (importer : Nat → ImportOutcome) (session : Session) : Session :=
  let caller := session.callers.size
  ((session.apply .enter).release importer).apply (.resume caller)

def sequential (importer : Nat → ImportOutcome) (count : Nat) (session : Session) : Session :=
  (List.range count).foldl (fun session _ => session.load importer) session

theorem apply_eq_of_not_allows (session : Session) (event : Event)
    (refused : session.allows event = false) : session.apply event = session := by
  cases event with
  | enter => simp [allows] at refused
  | finish number outcome =>
      simp only [allows] at refused
      simp [apply, refused]
  | resume caller =>
      have absent : session.result? caller = none := by simpa [allows] using refused
      simp [apply, absent]
  | cancel caller =>
      have absent : session.awaited? caller = none := by simpa [allows] using refused
      simp [apply, absent]

theorem apply_moduleName (session : Session) (event : Event) :
    (session.apply event).loader.moduleName = session.loader.moduleName := by
  cases event with
  | enter =>
      simp only [apply, Loader.enter]
      split <;> rfl
  | finish number outcome =>
      simp only [apply]
      split <;> rfl
  | resume caller =>
      simp only [apply]
      split <;> rfl
  | cancel caller =>
      simp only [apply]
      split <;> rfl

end Session

end Placement
