import Mathlib.Data.List.Induction
import Placement.Proofs.ServiceSteps

/-!
Calls to validate that share the loaders of a process, and what may happen to them in any order. After
whatever has happened, each call has a request of its own in the place where it entered.
-/

namespace Placement

structure Call where
  config : Option Config
  result : ParseResult

namespace Call

def settings (call : Call) : Config :=
  call.config.getD .default

def validator (call : Call) : Validator :=
  .ofConfig call.settings

def moduleName (call : Call) : String :=
  call.settings.surfaceModule

/-- How a call ends that is made in a fresh process and awaited to its end. -/
def alone? (imports : String → ImportOutcome) (call : Call) : Option Verdict :=
  match Service.fresh.validate (Service.alike imports) call.validator call.moduleName call.result with
  | .error _ => none
  | .ok after => after.verdict? 0

def finding (imports : String → ImportOutcome) (call : Call) : Inspection :=
  if call.validator.screensOut call.result.text then ⟨.empty, .ok ()⟩
  else call.validator.answer call.result (Loader.settle call.moduleName (imports call.moduleName))

variable {imports : String → ImportOutcome} {call : Call}

theorem screensOut_iff (call : Call) :
    call.validator.screensOut call.result.text = true ↔
      call.settings.usesFastPath = true ∧
        ∀ token ∈ Prefilter.tokens, ¬token.toList <:+: call.result.text := by
  rw [Validator.screensOut, Bool.and_eq_true, Bool.not_eq_true', Bool.eq_false_iff, ne_eq,
    mightHaveViolations_iff]
  simp only [not_exists, not_and]
  rfl

theorem validate_of_steady {service : Service} (steady : service.registry.Steady imports)
    (call : Call) :
    ∃ after,
      service.validate (Service.alike imports) call.validator call.moduleName call.result =
        .ok after ∧
      after.verdict? service.requests.size = some (.completed (call.finding imports)) := by
  have loads := Service.loads_of_steady steady call.settings.module_ne_empty
  rw [finding]
  by_cases screened : call.validator.screensOut call.result.text = true
  · obtain ⟨registry, slot, _, obtained, _⟩ := loads
    rw [if_pos screened]
    exact Service.validate_of_screensOut _ service call.validator call.moduleName call.result registry
      slot obtained screened
  · rw [if_neg screened]
    exact Service.validate_of_loads _ service call.validator call.moduleName call.result _ loads
      (by simpa using screened)

theorem alone?_eq (imports : String → ImportOutcome) (call : Call) :
    call.alone? imports = some (.completed (call.finding imports)) := by
  have steady : Service.fresh.registry.Steady imports := .empty imports
  obtain ⟨after, validated, ended⟩ := call.validate_of_steady steady
  rw [alone?, validated]
  exact ended

/-- Where a request for a call stands: nowhere if its text is screened out, else among the callers of
the loader of its module. -/
inductive Placed (registry : Registry) (call : Call) : Option (Nat × Nat) → Prop
  | screened : call.validator.screensOut call.result.text = true → Placed registry call none
  | entered {slot caller : Nat} {session : Session} :
      call.validator.screensOut call.result.text = false →
      registry.entries[slot]? = some (call.moduleName, session) → caller < session.callers.size →
      Placed registry call (some (slot, caller))

theorem Placed.extended {registry after : Registry} {place : Option (Nat × Nat)}
    (placed : call.Placed registry place) (extended : registry.Extends after) :
    call.Placed after place := by
  cases placed with
  | screened screened => exact .screened screened
  | entered unscreened found inside =>
      obtain ⟨later, foundLater, keeps⟩ := extended _ _ _ found
      exact .entered unscreened foundLater (Nat.lt_of_lt_of_le inside keeps.size_le)

end Call

/-- What happens to the calls of a process: one is made, an import ends, a call resumes or is cancelled.
Calls are numbered in the order in which they are made. -/
inductive Happening where
  | call (call : Call)
  | finish (slot number : Nat)
  | resume (number : Nat)
  | cancel (number : Nat)

namespace Happening

def event : Happening → Service.Event
  | .call made => .request made.validator made.moduleName made.result
  | .finish slot number => .finish slot number
  | .resume number => .resume number
  | .cancel number => .cancel number

def call? : Happening → Option Call
  | .call made => some made
  | _ => none

def calls (happenings : List Happening) : List Call :=
  happenings.filterMap call?

theorem calls_append (happenings more : List Happening) :
    calls (happenings ++ more) = calls happenings ++ calls more :=
  List.filterMap_append

theorem calls_cons_call (made : Call) (more : List Happening) :
    calls (.call made :: more) = made :: calls more :=
  List.filterMap_cons_some rfl

theorem call_or_unasked (happening : Happening) :
    (∃ call, happening = .call call) ∨ (happening.call? = none ∧
      ∀ validator moduleName result, happening.event ≠ .request validator moduleName result) := by
  cases happening with
  | call made => exact Or.inl ⟨made, rfl⟩
  | finish _ _ => exact Or.inr ⟨rfl, by simp [event]⟩
  | resume _ => exact Or.inr ⟨rfl, by simp [event]⟩
  | cancel _ => exact Or.inr ⟨rfl, by simp [event]⟩

theorem calls_concat_of_uncalled (happenings : List Happening) {happening : Happening}
    (uncalled : happening.call? = none) : calls (happenings ++ [happening]) = calls happenings := by
  have none : calls [happening] = [] := List.filterMap_cons_none uncalled
  rw [calls_append, none, List.append_nil]

end Happening

namespace Service

def following (imports : String → ImportOutcome) (happenings : List Happening) : Service :=
  fresh.run (alike imports) (happenings.map Happening.event)

theorem following_append (imports : String → ImportOutcome) (happenings more : List Happening) :
    following imports (happenings ++ more) =
      (following imports happenings).run (alike imports) (more.map Happening.event) := by
  rw [following, run, List.map_append, List.foldl_append]
  rfl

variable {imports : String → ImportOutcome} {service after : Service}

theorem Happens.made {importer : Importer} {call : Call}
    (happens : service.Happens importer
      (.request call.validator call.moduleName call.result) after) :
    ∃ place, after.requests = service.requests.push ⟨call.validator, call.result, place⟩ ∧
      call.Placed after.registry place ∧
      ∀ slot caller, place = some (slot, caller) → ∀ name session,
        service.registry.entries[slot]? = some (name, session) → session.callers.size ≤ caller := by
  cases happens with
  | screened _ screened => exact ⟨none, rfl, .screened screened, by simp⟩
  | @entered _ _ _ registry slot session walk obtained unscreened found _ =>
      refine ⟨some (slot, session.callers.size), rfl, ?_, ?_⟩
      · have placed : (registry.modify slot fun _ => session.apply .enter).entries[slot]? =
            some (call.moduleName, session.apply .enter) := by
          rw [Registry.getElem?_modify, found, Option.map_some, if_pos rfl]
        exact .entered unscreened placed (by simp [Session.apply])
      · rintro _ _ ⟨⟩ name earlier present
        obtain ⟨later, foundLater, keeps⟩ := Registry.extends_obtain obtained _ _ _ present
        cases foundLater.symm.trans found
        exact keeps.size_le
  | passed _ _ passes _ => cases passes

theorem Happens.requests_eq {importer : Importer} {event : Event}
    (happens : service.Happens importer event after)
    (unasked : ∀ validator moduleName result, event ≠ .request validator moduleName result) :
    after.requests = service.requests := by
  cases happens with
  | screened _ _ => exact absurd rfl (unasked _ _ _)
  | entered _ _ _ _ => exact absurd rfl (unasked _ _ _)
  | passed _ _ _ _ => rfl

structure Numbers (calls : List Call) (service : Service) : Prop where
  counted : service.requests.size = calls.length
  placed : ∀ (number : Nat) call, calls[number]? = some call →
    ∃ place, service.requests[number]? = some ⟨call.validator, call.result, place⟩ ∧
      call.Placed service.registry place
  apart : ∀ (first second : Nat) firstRequest secondRequest place,
    service.requests[first]? = some firstRequest → service.requests[second]? = some secondRequest →
    firstRequest.caller = some place → secondRequest.caller = some place → first = second

variable {calls : List Call} {importer : Importer} {event : Event}

theorem Numbers.call_of_request (numbers : Numbers calls service) {number : Nat} {request : Request}
    (made : service.requests[number]? = some request) :
    ∃ call, calls[number]? = some call ∧ request.validator = call.validator ∧
      request.result = call.result ∧ call.Placed service.registry request.caller := by
  obtain ⟨inside, _⟩ := Array.getElem?_eq_some_iff.1 made
  rw [numbers.counted] at inside
  obtain ⟨place, same, placed⟩ := numbers.placed number _ (List.getElem?_eq_getElem inside)
  obtain rfl := Option.some.inj (made.symm.trans same)
  exact ⟨_, List.getElem?_eq_getElem inside, rfl, rfl, placed⟩

theorem Numbers.kept (numbers : Numbers calls service)
    (happens : service.Happens importer event after)
    (unasked : ∀ validator moduleName result, event ≠ .request validator moduleName result) :
    Numbers calls after := by
  have same := happens.requests_eq unasked
  refine ⟨by rw [same]; exact numbers.counted, ?_, ?_⟩
  · intro number call made
    obtain ⟨place, requested, placed⟩ := numbers.placed number call made
    exact ⟨place, by rw [same]; exact requested, placed.extended happens.extended⟩
  · rw [same]
    exact numbers.apart

theorem Numbers.made (numbers : Numbers calls service) {call : Call}
    (happens : service.Happens importer
      (.request call.validator call.moduleName call.result) after) :
    Numbers (calls ++ [call]) after := by
  obtain ⟨place, requests, placed, behind⟩ := happens.made
  have later : ∀ {number : Nat} {request : Request} {slot caller : Nat},
      service.requests[number]? = some request → request.caller = some (slot, caller) →
      place ≠ some (slot, caller) := by
    intro number request slot caller made standing new
    obtain ⟨_, _, _, _, placedThere⟩ := numbers.call_of_request made
    rw [standing] at placedThere
    cases placedThere with
    | entered _ found inside => exact absurd inside (Nat.not_lt.2 (behind slot caller new _ _ found))
  refine ⟨?_, ?_, ?_⟩
  · rw [requests, Array.size_push, numbers.counted, List.length_append, List.length_singleton]
  · intro number other made
    rw [List.getElem?_append] at made
    rw [requests, Array.getElem?_push, numbers.counted]
    split at made
    next inside =>
        obtain ⟨earlier, requested, placedThere⟩ := numbers.placed number other made
        rw [if_neg (Nat.ne_of_lt inside)]
        exact ⟨earlier, requested, placedThere.extended happens.extended⟩
    next beyond =>
        rw [List.getElem?_singleton] at made
        split at made
        next atEnd =>
            obtain rfl := Option.some.inj made
            rw [if_pos (by omega)]
            exact ⟨place, rfl, placed⟩
        next => cases made
  · rintro first second firstRequest secondRequest ⟨slot, caller⟩ firstMade secondMade firstAt secondAt
    rw [requests, Array.getElem?_push] at firstMade secondMade
    by_cases firstLast : first = service.requests.size
    · by_cases secondLast : second = service.requests.size
      · exact firstLast.trans secondLast.symm
      · rw [if_pos firstLast, Option.some.injEq] at firstMade
        rw [if_neg secondLast] at secondMade
        rw [← firstMade] at firstAt
        exact absurd firstAt (later secondMade secondAt)
    · rw [if_neg firstLast] at firstMade
      by_cases secondLast : second = service.requests.size
      · rw [if_pos secondLast, Option.some.injEq] at secondMade
        rw [← secondMade] at secondAt
        exact absurd secondAt (later firstMade firstAt)
      · rw [if_neg secondLast] at secondMade
        exact numbers.apart first second _ _ _ firstMade secondMade firstAt secondAt

/-- What the loaders and requests of a service tell about what has happened. -/
structure Accounts (imports : String → ImportOutcome) (happenings : List Happening)
    (service : Service) : Prop where
  steady : service.registry.Steady imports
  numbers : Numbers (Happening.calls happenings) service
  cancelled : ∀ (slot caller : Nat) name session,
    service.registry.entries[slot]? = some (name, session) →
    session.callers[caller]? = some .cancelled →
    ∃ number request, .cancel number ∈ happenings ∧ service.requests[number]? = some request ∧
      request.caller = some (slot, caller)
  loaded_once : ∀ name, service.timesLoaded name ≤ 1
  loaded_kept : ∀ name, 0 < service.timesLoaded name →
    ∃ session, (name, session) ∈ service.registry.entries ∧ session.loader.isLoaded = true

theorem Accounts.fresh (imports : String → ImportOutcome) : Accounts imports [] fresh where
  steady := .empty imports
  numbers := ⟨rfl, by simp [Happening.calls], by simp [Service.fresh]⟩
  cancelled slot caller name session found := by simp [Service.fresh, Registry.empty] at found
  loaded_once name := by simp [Service.fresh, timesLoaded]
  loaded_kept name told := by simp [Service.fresh, timesLoaded] at told

variable {happenings : List Happening}

theorem Accounts.happens (accounts : Accounts imports happenings service) {happening : Happening}
    (happens : service.Happens (alike imports) happening.event after)
    (numbers : Numbers (Happening.calls (happenings ++ [happening])) after) :
    Accounts imports (happenings ++ [happening]) after where
  steady := happens.steady accounts.steady
  numbers := numbers
  cancelled slot caller name session found cancelled := by
    rcases happens.cancelled_cases found cancelled with
      ⟨earlier, foundBefore, cancelledBefore⟩ | ⟨number, request, cancels, made, placed⟩
    · obtain ⟨number, request, member, made, placed⟩ :=
        accounts.cancelled slot caller name earlier foundBefore cancelledBefore
      exact ⟨number, request, List.mem_append_left _ member, happens.getElem?_requests made, placed⟩
    · refine ⟨number, request, ?_, happens.getElem?_requests made, placed⟩
      cases happening with
      | cancel other =>
          cases cancels
          simp
      | call _ => cases cancels
      | finish _ _ => cases cancels
      | resume _ => cases cancels
  loaded_once name := by
    rcases happens.timesLoaded_cases accounts.steady name with
      same | ⟨once, slot, before, _, found, _, unloaded, _⟩
    · rw [same]
      exact accounts.loaded_once name
    · have untold : ¬0 < service.timesLoaded name := by
        intro told
        obtain ⟨session, member, loaded⟩ := accounts.loaded_kept name told
        rw [accounts.steady.unique member (List.mem_of_getElem? found), unloaded] at loaded
        cases loaded
      omega
  loaded_kept name told := by
    rcases happens.timesLoaded_cases accounts.steady name with
      same | ⟨_, _, _, later, _, foundLater, _, loaded⟩
    · rw [same] at told
      obtain ⟨session, member, loaded⟩ := accounts.loaded_kept name told
      obtain ⟨slot, found⟩ := List.mem_iff_getElem?.1 member
      obtain ⟨later, foundLater, keeps⟩ := happens.extended slot name session found
      exact ⟨later, List.mem_of_getElem? foundLater, keeps.loaded loaded⟩
    · exact ⟨later, List.mem_of_getElem? foundLater, loaded⟩

theorem Accounts.idle (accounts : Accounts imports happenings service) (happening : Happening)
    (uncalled : happening.call? = none) : Accounts imports (happenings ++ [happening]) service where
  steady := accounts.steady
  numbers := by
    rw [Happening.calls_concat_of_uncalled happenings uncalled]
    exact accounts.numbers
  cancelled slot caller name session found cancelled := by
    obtain ⟨number, request, member, rest⟩ :=
      accounts.cancelled slot caller name session found cancelled
    exact ⟨number, request, List.mem_append_left _ member, rest⟩
  loaded_once := accounts.loaded_once
  loaded_kept := accounts.loaded_kept

theorem exists_made (service : Service) (call : Call) :
    ∃ after, service.request? call.validator call.moduleName call.result = .ok after := by
  obtain ⟨registry, slot, obtained⟩ :=
    service.registry.exists_obtained call.settings.module_ne_empty
  have known : service.registry.obtain? call.moduleName = .ok (registry, slot) := obtained
  simp only [request?, known]
  split
  · exact ⟨_, rfl⟩
  · exact ⟨_, rfl⟩

theorem step?_of_made {importer : Importer} {call : Call}
    (made : service.request? call.validator call.moduleName call.result = .ok after) :
    service.step? importer (Happening.call call).event = some after := by
  rw [Happening.event, step?, made]
  rfl

theorem Accounts.step (accounts : Accounts imports happenings service) (happening : Happening) :
    Accounts imports (happenings ++ [happening])
      (service.apply (alike imports) happening.event) := by
  rw [Service.apply]
  cases stepped : service.step? (alike imports) happening.event with
  | none =>
      rcases happening.call_or_unasked with ⟨call, rfl⟩ | ⟨uncalled, _⟩
      · obtain ⟨after, made⟩ := exists_made service call
        cases (step?_of_made made).symm.trans stepped
      · exact accounts.idle happening uncalled
  | some after =>
      have happens := step?_happens stepped
      refine accounts.happens happens ?_
      rcases happening.call_or_unasked with ⟨call, rfl⟩ | ⟨uncalled, unasked⟩
      · rw [Happening.calls_append]
        exact accounts.numbers.made happens
      · rw [Happening.calls_concat_of_uncalled happenings uncalled]
        exact accounts.numbers.kept happens unasked

theorem accounts_following (imports : String → ImportOutcome) (happenings : List Happening) :
    Accounts imports happenings (following imports happenings) := by
  induction happenings using List.reverseRecOn with
  | nil => exact .fresh imports
  | append_singleton happenings happening ih =>
      rw [following_append]
      exact ih.step happening

end Service

end Placement
