import Placement.Service

/-!
A request that is made and awaited before anything else happens ends as one call of its loader does: with
the walk that the loaded surface allows, or with what kept the surface from being loaded.
-/

namespace Placement

namespace Registry

theorem session?_modify (registry : Registry) (slot : Nat) (change : Session → Session)
    (session : Session) (found : registry.session? slot = some session) :
    (registry.modify slot change).session? slot = some (change session) := by
  simp only [session?, Option.map_eq_some_iff] at found
  obtain ⟨entry, entryEq, rfl⟩ := found
  simp [session?, modify, entryEq]

end Registry

namespace Service

structure Serves (service : Service) (number : Nat) (request : Request) (slot : Nat)
    (session : Session) : Prop where
  request_eq : service.requests[number]? = some request
  session_eq : service.registry.session? slot = some session

variable {service : Service} {number slot : Nat} {request : Request} {session : Session}

theorem Serves.stepSession (serves : service.Serves number request slot session)
    (event : Session.Event) :
    ((service.stepSession? slot event).getD service).Serves number request slot
      (session.apply event) := by
  rw [stepSession?, serves.session_eq]
  by_cases allowed : session.allows event
  · simp only [Session.step?, allowed, ↓reduceIte, Option.bind_eq_bind, Option.bind_some,
      Option.pure_def, Option.getD_some]
    exact ⟨serves.request_eq, Registry.session?_modify _ _ _ _ serves.session_eq⟩
  · simp only [Session.step?, allowed, Option.bind_eq_bind, Option.bind_some]
    rw [Session.apply_eq_of_not_allows session event (by simpa using allowed)]
    exact serves

theorem Serves.logWalk (serves : service.Serves number request slot session) (other : Nat) :
    (service.logWalk other).Serves number request slot session := by
  rw [Service.logWalk]
  split
  next => exact ⟨serves.request_eq, serves.session_eq⟩
  next => exact serves

theorem Serves.release (serves : service.Serves number request slot session)
    (importer : Importer) :
    (service.release importer slot).Serves number request slot
      (session.release (importer session.loader.moduleName)) := by
  rw [Service.release, Session.release, serves.session_eq, Option.bind_some]
  cases session.loader.pending with
  | none => exact serves
  | some running =>
      have ended := serves.stepSession
        (.finish running (importer session.loader.moduleName running))
      simp only [apply, step?, serves.session_eq, Option.bind_eq_bind, Option.bind_some]
      exact ended

theorem Serves.resume (serves : service.Serves number request slot session) (importer : Importer)
    (caller : Nat) (placed : request.caller = some (slot, caller)) :
    (service.apply importer (.resume number)).Serves number request slot
      (session.apply (.resume caller)) := by
  have resumed := serves.stepSession (.resume caller)
  simp only [apply, step?, serves.request_eq, placed, Option.bind_eq_bind, Option.bind_some,
    Option.pure_def]
  cases stepped : service.stepSession? slot (.resume caller) with
  | none => simpa [stepped] using resumed
  | some next =>
      rw [stepped, Option.getD_some] at resumed
      exact resumed.logWalk number

theorem Serves.verdict?_eq (serves : service.Serves number request slot session) {caller : Nat}
    (placed : request.caller = some (slot, caller)) {loaded : Except Failure Surface}
    (returned : session.callers[caller]? = some (.returned loaded)) :
    service.verdict? number =
      some (.completed (request.validator.answer request.result loaded)) := by
  simp [verdict?, serves.request_eq, serves.session_eq, placed, returned]

/-- What a call of a module's loader gives that is made in a service and awaited to its end. -/
def Loads (importer : Importer) (service : Service) (moduleName : String)
    (loaded : Except Failure Surface) : Prop :=
  ∃ registry slot session, service.registry.obtain? moduleName = .ok (registry, slot) ∧
    registry.session? slot = some session ∧
    (session.load (importer session.loader.moduleName)).callers[session.callers.size]? =
      some (.returned loaded)

theorem validate_of_screensOut (importer : Importer) (service : Service) (validator : Validator)
    (moduleName : String) (result : ParseResult) (registry : Registry) (slot : Nat)
    (obtained : service.registry.obtain? moduleName = .ok (registry, slot))
    (screened : validator.screensOut result.text = true) :
    ∃ after, service.validate importer validator moduleName result = .ok after ∧
      after.verdict? service.requests.size = some (.completed ⟨.empty, .ok ()⟩) := by
  refine ⟨_, by simp only [validate, request?, obtained, screened, ↓reduceIte, Except.map]; rfl, ?_⟩
  simp [await, verdict?]

theorem validate_of_loads (importer : Importer) (service : Service) (validator : Validator)
    (moduleName : String) (result : ParseResult) (loaded : Except Failure Surface)
    (loads : service.Loads importer moduleName loaded)
    (unscreened : validator.screensOut result.text = false) :
    ∃ after, service.validate importer validator moduleName result = .ok after ∧
      after.verdict? service.requests.size =
        some (.completed (validator.answer result loaded)) := by
  obtain ⟨registry, slot, session, obtained, found, returned⟩ := loads
  let request : Request := ⟨validator, result, some (slot, session.callers.size)⟩
  let made : Service := ⟨registry, service.requests.push request, service.log⟩
  have serves : made.Serves service.requests.size request slot session :=
    ⟨by simp [made], found⟩
  have entered := (serves.stepSession .enter).logWalk service.requests.size
  have ended := (entered.release importer).resume importer session.callers.size rfl
  rw [Session.apply_moduleName] at ended
  refine ⟨_, ?_, ended.verdict?_eq rfl returned⟩
  have counted : callerCount registry slot = session.callers.size := by
    rw [callerCount, found, Option.elim_some]
  have requested : service.request? validator moduleName result =
      .ok (((made.stepSession? slot .enter).getD made).logWalk service.requests.size) := by
    simp only [request?, obtained, unscreened, counted]
    rfl
  rw [validate, requested, Except.map, await, entered.request_eq]
  rfl

/-- How a request ends that is made and awaited before anything else happens. -/
def outcome? (importer : Importer) (service : Service) (validator : Validator)
    (moduleName : String) (result : ParseResult) : Option (Except Failure Unit) :=
  match service.validate importer validator moduleName result with
  | .error _ => none
  | .ok after =>
      match after.verdict? service.requests.size with
      | some (.completed inspection) => some inspection.outcome
      | _ => none

theorem outcome?_of_loads {importer : Importer} {moduleName : String}
    {loaded : Except Failure Surface} (validator : Validator) (result : ParseResult)
    (loads : service.Loads importer moduleName loaded) :
    service.outcome? importer validator moduleName result =
      some (if validator.screensOut result.text then .ok ()
        else (validator.answer result loaded).outcome) := by
  by_cases screened : validator.screensOut result.text = true
  · obtain ⟨registry, slot, _, obtained, _⟩ := loads
    obtain ⟨after, validated, ended⟩ := validate_of_screensOut importer service validator
      moduleName result registry slot obtained screened
    simp only [outcome?, validated, ended, screened, ↓reduceIte]
  · obtain ⟨after, validated, ended⟩ := validate_of_loads importer service validator
      moduleName result loaded loads (by simpa using screened)
    simp only [outcome?, validated, ended, screened, Bool.false_eq_true, ↓reduceIte]

end Service

end Placement
