import Placement.Proofs.LoneRequest
import Placement.Proofs.SteadyRegistry

/-!
What an event of a service does: a request is screened out or enters the loader of its module, or one
loader's callers see an event of theirs. Loaders stay under their names, requests stay where they are, and
a module's surface is loaded only where none was.
-/

namespace Placement

namespace Service

inductive Passes (importer : Importer) (service : Service) :
    Event → Nat → Session → Session.Event → Prop
  | finish {slot number : Nat} {session : Session} :
      Passes importer service (.finish slot number) slot session
        (.finish number (importer session.loader.moduleName number))
  | resume {number slot caller : Nat} {session : Session} {request : Request} :
      service.requests[number]? = some request → request.caller = some (slot, caller) →
      Passes importer service (.resume number) slot session (.resume caller)
  | cancel {number slot caller : Nat} {session : Session} {request : Request} :
      service.requests[number]? = some request → request.caller = some (slot, caller) →
      Passes importer service (.cancel number) slot session (.cancel caller)

/-- What an event does in a state in which it can happen. -/
inductive Happens (importer : Importer) (before : Service) : Event → Service → Prop
  | screened {validator : Validator} {moduleName : String} {result : ParseResult}
      {registry : Registry} {slot : Nat} :
      before.registry.obtain? moduleName = .ok (registry, slot) →
      validator.screensOut result.text = true →
      Happens importer before (.request validator moduleName result)
        ⟨registry, before.requests.push ⟨validator, result, none⟩, before.log.push .screenedOut⟩
  | entered {validator : Validator} {moduleName : String} {result : ParseResult}
      {registry : Registry} {slot : Nat} {session : Session} {walk : List LogEntry} :
      before.registry.obtain? moduleName = .ok (registry, slot) →
      validator.screensOut result.text = false →
      registry.entries[slot]? = some (moduleName, session) →
      (∀ entry ∈ walk, ∃ kind found, entry = .violation kind found) →
      Happens importer before (.request validator moduleName result)
        ⟨registry.modify slot fun _ => session.apply .enter,
          before.requests.push ⟨validator, result, some (slot, session.callers.size)⟩,
          before.log ++ session.entries .enter ++ walk⟩
  | passed {event : Event} {slot : Nat} {name : String} {session changed : Session}
      {inner : Session.Event} {walk : List LogEntry} :
      before.registry.entries[slot]? = some (name, session) → session.Happens inner changed →
      Passes importer before event slot session inner →
      (∀ entry ∈ walk, ∃ kind found, entry = .violation kind found) →
      Happens importer before event
        ⟨before.registry.modify slot fun _ => changed, before.requests,
          before.log ++ session.entries inner ++ walk⟩

theorem logWalk_eq (number : Nat) (service : Service) :
    ∃ walk : List LogEntry, (∀ entry ∈ walk, ∃ kind found, entry = .violation kind found) ∧
      service.logWalk number = { service with log := service.log ++ walk } := by
  rw [logWalk]
  split
  next inspection _ =>
      refine ⟨inspection.log, ?_, rfl⟩
      intro entry member
      rw [Inspection.log] at member
      split at member
      next found _ =>
        split at member
        next kind _ => exact ⟨kind, found, List.mem_singleton.1 member⟩
        next => cases member
      next => cases member
  next => exact ⟨[], by simp, by simp⟩

variable {importer : Importer} {service after : Service} {event : Event}

theorem stepSession?_eq_some {slot : Nat} {inner : Session.Event}
    (stepped : service.stepSession? slot inner = some after) :
    ∃ name session changed, service.registry.entries[slot]? = some (name, session) ∧
      session.Happens inner changed ∧
      after = ⟨service.registry.modify slot fun _ => changed, service.requests,
        service.log ++ session.entries inner⟩ := by
  simp only [stepSession?, Option.bind_eq_bind, Option.bind_eq_some_iff, Option.pure_def,
    Option.some.injEq] at stepped
  obtain ⟨session, found, changed, happens, rfl⟩ := stepped
  obtain ⟨name, entryEq⟩ := Registry.session?_eq_some_iff.1 found
  exact ⟨name, session, changed, entryEq, Session.step?_eq_some_iff.1 happens, rfl⟩

theorem happens_of_request? {validator : Validator} {moduleName : String} {result : ParseResult}
    (requested : service.request? validator moduleName result = .ok after) :
    service.Happens importer (.request validator moduleName result) after := by
  rw [request?] at requested
  split at requested
  next => cases requested
  next registry slot obtained =>
      split at requested
      next screened =>
          cases requested
          exact .screened obtained screened
      next unscreened =>
          obtain ⟨session, found⟩ := Registry.exists_session_of_obtain? obtained
          have placed : registry.session? slot = some session :=
            Registry.session?_eq_some_iff.2 ⟨moduleName, found⟩
          obtain ⟨walk, violations, walked⟩ := logWalk_eq service.requests.size
            ⟨registry.modify slot fun _ => session.apply .enter,
              service.requests.push ⟨validator, result, some (slot, session.callers.size)⟩,
              service.log ++ session.entries .enter⟩
          simp only [callerCount, placed, Option.elim_some, stepSession?, Session.step?,
            Session.allows, ↓reduceIte, Option.bind_eq_bind, Option.bind_some, Option.pure_def,
            Option.getD_some, walked, Except.ok.injEq] at requested
          rw [← requested]
          exact .entered obtained (by simpa using unscreened) found violations

theorem step?_happens (stepped : service.step? importer event = some after) :
    service.Happens importer event after := by
  have noViolations : ∀ entry ∈ ([] : List LogEntry), ∃ kind found, entry = .violation kind found := by
    simp
  cases event with
  | request validator moduleName result =>
      cases requested : service.request? validator moduleName result with
      | error fault =>
          rw [step?, requested] at stepped
          cases stepped
      | ok made =>
          rw [step?, requested] at stepped
          cases stepped
          exact happens_of_request? requested
  | finish slot number =>
      simp only [step?, Option.bind_eq_bind, Option.bind_eq_some_iff] at stepped
      obtain ⟨session, found, stepped⟩ := stepped
      obtain ⟨name, same, changed, entryEq, happens, rfl⟩ := stepSession?_eq_some stepped
      obtain rfl : session = same :=
        Option.some.inj (found.symm.trans (Registry.session?_eq_some_iff.2 ⟨name, entryEq⟩))
      simpa using Happens.passed entryEq happens .finish noViolations
  | resume number =>
      simp only [step?, Option.bind_eq_bind, Option.bind_eq_some_iff, Option.pure_def,
        Option.some.injEq] at stepped
      obtain ⟨request, requestEq, ⟨slot, caller⟩, placed, stepping, stepped, rfl⟩ := stepped
      obtain ⟨name, session, changed, entryEq, happens, rfl⟩ := stepSession?_eq_some stepped
      obtain ⟨walk, violations, walked⟩ := logWalk_eq number
        ⟨service.registry.modify slot fun _ => changed, service.requests,
          service.log ++ session.entries (.resume caller)⟩
      rw [walked]
      exact .passed entryEq happens (.resume requestEq placed) violations
  | cancel number =>
      simp only [step?, Option.bind_eq_bind, Option.bind_eq_some_iff] at stepped
      obtain ⟨request, requestEq, ⟨slot, caller⟩, placed, stepped⟩ := stepped
      obtain ⟨name, session, changed, entryEq, happens, rfl⟩ := stepSession?_eq_some stepped
      simpa using Happens.passed entryEq happens (.cancel requestEq placed) noViolations

abbrev alike (imports : String → ImportOutcome) : Importer :=
  fun name _ => imports name

variable {imports : String → ImportOutcome}

theorem Passes.outcome_eq {name : String} {session : Session} {slot : Nat} {inner : Session.Event}
    (passes : Passes (alike imports) service event slot session inner)
    (module_eq : session.loader.moduleName = name) (number : Nat) (other : ImportOutcome)
    (ends : inner = .finish number other) : other = imports name := by
  cases passes with
  | finish =>
      cases ends
      rw [module_eq]
  | resume _ _ => cases ends
  | cancel _ _ => cases ends

theorem Happens.steady (happens : service.Happens (alike imports) event after)
    (steady : service.registry.Steady imports) : after.registry.Steady imports := by
  cases happens with
  | screened obtained _ => exact steady.obtain obtained
  | entered obtained _ found _ =>
      have steadyThere := (steady.obtain obtained).at found
      exact (steady.obtain obtained).modify found (steadyThere.apply .enter (by simp))
  | passed found happens passes _ =>
      have steadyThere := steady.at found
      exact steady.modify found (steadyThere.happens happens (passes.outcome_eq steadyThere.module_eq))

theorem Happens.extended (happens : service.Happens importer event after) :
    service.registry.Extends after.registry := by
  cases happens with
  | screened obtained _ => exact Registry.extends_obtain obtained
  | entered obtained _ found _ =>
      exact (Registry.extends_obtain obtained).trans
        (Registry.extends_modify found (Session.extends_apply _ .enter))
  | passed found happens _ _ => exact Registry.extends_modify found happens.extended

theorem Happens.getElem?_requests (happens : service.Happens importer event after) {number : Nat}
    {request : Request} (made : service.requests[number]? = some request) :
    after.requests[number]? = some request := by
  obtain ⟨inside, _⟩ := Array.getElem?_eq_some_iff.1 made
  cases happens with
  | screened _ _ => rwa [Array.getElem?_push_lt inside, ← Array.getElem?_eq_getElem inside]
  | entered _ _ _ _ => rwa [Array.getElem?_push_lt inside, ← Array.getElem?_eq_getElem inside]
  | passed _ _ _ _ => exact made

theorem Happens.cancelled_cases (happens : service.Happens importer event after) {slot caller : Nat}
    {name : String} {session : Session} (found : after.registry.entries[slot]? = some (name, session))
    (cancelled : session.callers[caller]? = some .cancelled) :
    (∃ earlier, service.registry.entries[slot]? = some (name, earlier) ∧
      earlier.callers[caller]? = some .cancelled) ∨
    ∃ number request, event = .cancel number ∧ service.requests[number]? = some request ∧
      request.caller = some (slot, caller) := by
  cases happens with
  | screened obtained _ =>
      exact Or.inl ⟨session, Registry.entry_of_caller obtained found cancelled, cancelled⟩
  | entered obtained _ here _ =>
      left
      rcases Registry.modify_cases here found with ⟨rfl, rfl, rfl⟩ | unchanged
      · have wasCancelled := (Session.Happens.enter.cancelled_cases cancelled).resolve_right (by simp)
        exact ⟨_, Registry.entry_of_caller obtained here wasCancelled, wasCancelled⟩
      · exact ⟨session, Registry.entry_of_caller obtained unchanged cancelled, cancelled⟩
  | passed here inside passes _ =>
      rcases Registry.modify_cases here found with ⟨rfl, rfl, rfl⟩ | unchanged
      · rcases inside.cancelled_cases cancelled with wasCancelled | rfl
        · exact Or.inl ⟨_, here, wasCancelled⟩
        · cases passes with
          | cancel made placed => exact Or.inr ⟨_, _, rfl, made, placed⟩
      · exact Or.inl ⟨session, unchanged, cancelled⟩

def timesLoaded (service : Service) (moduleName : String) : Nat :=
  service.log.toList.countP (LogEntry.tellsLoaded moduleName)

theorem countP_violations (moduleName : String) {walk : List LogEntry}
    (violations : ∀ entry ∈ walk, ∃ kind found, entry = .violation kind found) :
    walk.countP (LogEntry.tellsLoaded moduleName) = 0 := by
  rw [List.countP_eq_zero]
  intro entry member
  obtain ⟨kind, found, rfl⟩ := violations entry member
  simp [LogEntry.tellsLoaded]

theorem Happens.timesLoaded_cases (happens : service.Happens importer event after)
    (steady : service.registry.Steady imports) (moduleName : String) :
    after.timesLoaded moduleName = service.timesLoaded moduleName ∨
      (after.timesLoaded moduleName = service.timesLoaded moduleName + 1 ∧
        ∃ (slot : Nat) (before later : Session),
          service.registry.entries[slot]? = some (moduleName, before) ∧
          after.registry.entries[slot]? = some (moduleName, later) ∧
          before.loader.isLoaded = false ∧ later.loader.isLoaded = true) := by
  simp only [timesLoaded]
  cases happens with
  | screened _ _ =>
      left
      simp [LogEntry.tellsLoaded]
  | entered _ _ _ violations =>
      left
      simp only [Array.toList_appendList, List.countP_append, Session.countP_entries_enter,
        countP_violations moduleName violations, Nat.add_zero]
  | @passed _ slot name session changed inner walk found inside _ violations =>
      have steadyThere := steady.at found
      simp only [Array.toList_appendList, List.countP_append, countP_violations moduleName violations,
        Nat.add_zero]
      rcases inside.tellsLoaded_cases steadyThere.phase moduleName with
        silent | ⟨once, same, unloaded, loaded⟩
      · left
        rw [silent, Nat.add_zero]
      · right
        obtain rfl : name = moduleName := steadyThere.module_eq.symm.trans same
        refine ⟨by rw [once], slot, session, changed, found, ?_, unloaded, loaded⟩
        rw [Registry.getElem?_modify, found]
        simp

theorem Happens.startedImports_eq (happens : service.Happens importer event after)
    (screened : ∀ validator moduleName result, event = .request validator moduleName result →
      validator.screensOut result.text = true) :
    after.registry.startedImports = service.registry.startedImports := by
  cases happens with
  | screened obtained _ => exact Registry.startedImports_obtain obtained
  | entered _ unscreened _ _ =>
      rw [screened _ _ _ rfl] at unscreened
      cases unscreened
  | passed found inside passes _ =>
      refine Registry.startedImports_modify found ?_
      cases inside with
      | enter => cases passes
      | finish _ => exact Array.size_setIfInBounds
      | resume _ _ => rfl
      | cancel _ => rfl

theorem loads_of_steady (steady : service.registry.Steady imports)
    {moduleName : String} (named : moduleName ≠ "") :
    service.Loads (alike imports) moduleName (Loader.settle moduleName (imports moduleName)) := by
  obtain ⟨registry, slot, obtained⟩ := service.registry.exists_obtained named
  obtain ⟨session, found⟩ := Registry.exists_session_of_obtain? obtained
  have steadyThere := (steady.obtain obtained).at found
  refine ⟨registry, slot, session, obtained, Registry.session?_eq_some_iff.2 ⟨_, found⟩, ?_⟩
  exact steadyThere.load fun _ => by rw [steadyThere.module_eq]

end Service

end Placement
