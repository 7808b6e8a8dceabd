import Placement.Proofs.SessionRuns

/-!
The cancellation of a caller concerns that caller alone. A run without some of its cancellations is a run
too: it does the same imports and settles all other callers alike, and whoever is spared waits on.
-/

namespace Placement

namespace Session

namespace Event

def settles (chosen : Nat → Bool) : Event → Bool
  | .resume caller | .cancel caller => chosen caller
  | _ => false

def cancels (chosen : Nat → Bool) : Event → Bool
  | .cancel caller => chosen caller
  | _ => false

end Event

/-- Two states that differ in nothing but the states of their callers, which are related. -/
structure Alike (related : Nat → CallerState → CallerState → Prop) (session other : Session) :
    Prop where
  loader_eq : other.loader = session.loader
  log_eq : other.log = session.log
  size_eq : other.callers.size = session.callers.size
  callers_related : ∀ (caller : Nat) (state otherState : CallerState),
    session.callers[caller]? = some state → other.callers[caller]? = some otherState →
      related caller state otherState

variable {related : Nat → CallerState → CallerState → Prop}
variable {first session other after : Session} {event : Event} {events : List Event}

theorem Alike.exists_related (alike : Alike related session other) {caller : Nat}
    {state : CallerState} (present : session.callers[caller]? = some state) :
    ∃ otherState, other.callers[caller]? = some otherState ∧ related caller state otherState := by
  obtain ⟨inside, _⟩ := Array.getElem?_eq_some_iff.1 present
  rw [← alike.size_eq] at inside
  have otherPresent := Array.getElem?_eq_getElem inside
  exact ⟨_, otherPresent, alike.callers_related caller _ _ present otherPresent⟩

theorem Alike.getElem?_eq (alike : Alike related session other) {caller : Nat}
    (same : ∀ state otherState, session.callers[caller]? = some state →
      related caller state otherState → otherState = state) :
    other.callers[caller]? = session.callers[caller]? := by
  cases present : session.callers[caller]? with
  | none =>
      rw [Array.getElem?_eq_none_iff] at present ⊢
      rw [alike.size_eq]
      exact present
  | some state =>
      obtain ⟨otherState, otherPresent, holds⟩ := alike.exists_related present
      rw [otherPresent, same state otherState present holds]

theorem Alike.settleCaller (alike : Alike related session other) {caller number : Nat}
    (waits : session.callers[caller]? = some (.waiting number)) {settled : CallerState}
    (free : ∀ otherState, related caller (.waiting number) otherState →
      related caller settled otherState) :
    Alike related (session.settleCaller caller settled) other where
  loader_eq := alike.loader_eq
  log_eq := alike.log_eq
  size_eq := by rw [alike.size_eq, Session.settleCaller, Array.size_setIfInBounds]
  callers_related := by
    intro settledCaller state otherState present otherPresent
    rw [getElem?_settleCaller waits] at present
    by_cases same : caller = settledCaller
    · subst same
      rw [if_pos rfl, Option.some.injEq] at present
      subst present
      exact free otherState (alike.callers_related caller _ _ waits otherPresent)
    · rw [if_neg same] at present
      exact alike.callers_related settledCaller state otherState present otherPresent

theorem Alike.settleCaller_both (alike : Alike related session other) {caller number : Nat}
    (reflexive : ∀ caller state, related caller state state)
    (waits : session.callers[caller]? = some (.waiting number))
    (otherWaits : other.callers[caller]? = some (.waiting number)) (settled : CallerState) :
    Alike related (session.settleCaller caller settled) (other.settleCaller caller settled) where
  loader_eq := alike.loader_eq
  log_eq := alike.log_eq
  size_eq := by
    rw [Session.settleCaller, Session.settleCaller, Array.size_setIfInBounds,
      Array.size_setIfInBounds, alike.size_eq]
  callers_related := by
    intro settledCaller state otherState present otherPresent
    rw [getElem?_settleCaller waits] at present
    rw [getElem?_settleCaller otherWaits] at otherPresent
    by_cases same : caller = settledCaller
    · rw [if_pos same, Option.some.injEq] at present otherPresent
      subst present otherPresent
      exact reflexive settledCaller settled
    · rw [if_neg same] at present otherPresent
      exact alike.callers_related settledCaller state otherState present otherPresent

theorem Alike.happens (alike : Alike related session other)
    (reflexive : ∀ caller state, related caller state state)
    (happens : session.Happens event after)
    (waits_too : ∀ caller, event = .resume caller ∨ event = .cancel caller →
      ∀ number otherState, related caller (.waiting number) otherState →
        otherState = .waiting number) :
    ∃ otherAfter, other.Happens event otherAfter ∧ Alike related after otherAfter := by
  have otherWaits : ∀ caller, event = .resume caller ∨ event = .cancel caller → ∀ number,
      session.callers[caller]? = some (.waiting number) →
        other.callers[caller]? = some (.waiting number) := by
    intro caller settling number waits
    obtain ⟨otherState, otherPresent, holds⟩ := alike.exists_related waits
    rw [otherPresent, waits_too caller settling number otherState holds]
  cases happens with
  | enter =>
      refine ⟨_, .enter, ?_, ?_, ?_, ?_⟩
      · simp only [alike.loader_eq]
      · simp only [alike.log_eq, entries, alike.loader_eq]
      · simp only [Array.size_push, alike.size_eq]
      · intro caller state otherState present otherPresent
        simp only [Array.getElem?_push, alike.size_eq, alike.loader_eq] at present otherPresent
        by_cases latest : caller = session.callers.size
        · rw [if_pos latest, Option.some.injEq] at present otherPresent
          subst present otherPresent
          exact reflexive caller _
        · rw [if_neg latest] at present otherPresent
          exact alike.callers_related caller state otherState present otherPresent
  | @finish number outcome running =>
      refine ⟨_, .finish (by rw [alike.loader_eq]; exact running), ?_, ?_, alike.size_eq,
        alike.callers_related⟩
      · simp only [alike.loader_eq]
      · simp only [alike.log_eq, entries, alike.loader_eq]
  | @resume caller number result waits settled =>
      have otherWaits := otherWaits caller (Or.inl rfl) number waits
      exact ⟨_, .resume otherWaits (by rw [alike.loader_eq]; exact settled),
        alike.settleCaller_both reflexive waits otherWaits _⟩
  | @cancel caller number waits =>
      have otherWaits := otherWaits caller (Or.inr rfl) number waits
      exact ⟨_, .cancel otherWaits, alike.settleCaller_both reflexive waits otherWaits _⟩

/-- When the events that are not kept can be left out of a run: they settle callers only, they keep the
states related, and whoever a kept event settles waits in both states. -/
structure Omits (keep : Event → Bool) (related : Nat → CallerState → CallerState → Prop) : Prop where
  reflexive : ∀ caller state, related caller state state
  enter_kept : keep .enter = true
  finish_kept : ∀ number outcome, keep (.finish number outcome) = true
  waits_too : ∀ caller, keep (.resume caller) = true ∨ keep (.cancel caller) = true →
    ∀ number otherState, related caller (.waiting number) otherState →
      otherState = .waiting number
  resume_free : ∀ caller, keep (.resume caller) = false → ∀ number result otherState,
    related caller (.waiting number) otherState → related caller (.returned result) otherState
  cancel_free : ∀ caller, keep (.cancel caller) = false → ∀ number otherState,
    related caller (.waiting number) otherState → related caller .cancelled otherState

theorem Omits.happens {keep : Event → Bool} (omits : Omits keep related)
    (alike : Alike related session other) (happens : session.Happens event after)
    (kept : keep event = true) :
    ∃ otherAfter, other.Happens event otherAfter ∧ Alike related after otherAfter := by
  refine alike.happens omits.reflexive happens fun caller settling => omits.waits_too caller ?_
  rcases settling with rfl | rfl
  · exact Or.inl kept
  · exact Or.inr kept

theorem Omits.skips {keep : Event → Bool} (omits : Omits keep related)
    (alike : Alike related session other) (happens : session.Happens event after)
    (omitted : keep event = false) : Alike related after other ∧ session.arrival event = [] := by
  cases happens with
  | enter =>
      rw [omits.enter_kept] at omitted
      cases omitted
  | finish running =>
      rw [omits.finish_kept] at omitted
      cases omitted
  | resume waits settled =>
      exact ⟨alike.settleCaller waits (omits.resume_free _ omitted _ _), rfl⟩
  | cancel waits => exact ⟨alike.settleCaller waits (omits.cancel_free _ omitted _), rfl⟩

theorem Runs.filter {keep : Event → Bool} (omits : Omits keep related)
    (runs : first.Runs events session) :
    ∃ other, first.Runs (events.filter keep) other ∧ Alike related session other ∧
      first.arrivals (events.filter keep) = first.arrivals events := by
  induction runs with
  | start =>
      refine ⟨first, .start, ⟨rfl, rfl, rfl, ?_⟩, rfl⟩
      intro caller state otherState present otherPresent
      rw [present, Option.some.injEq] at otherPresent
      subst otherPresent
      exact omits.reflexive caller state
  | @step events before after event runs stepped ih =>
      obtain ⟨other, otherRuns, alike, arrivalsEq⟩ := ih
      have happens := step?_eq_some_iff.1 stepped
      rw [List.filter_append, runs.arrivals_append]
      cases kept : keep event with
      | true =>
          obtain ⟨otherAfter, otherHappens, otherAlike⟩ := omits.happens alike happens kept
          have arrivalEq : other.arrival event = before.arrival event := by
            cases event <;> simp only [arrival, alike.loader_eq]
          rw [List.filter_cons_of_pos kept, List.filter_nil, otherRuns.arrivals_append, arrivalsEq,
            arrivalEq]
          exact ⟨otherAfter, otherRuns.step event (step?_eq_some_iff.2 otherHappens), otherAlike, rfl⟩
      | false =>
          obtain ⟨skipped, noArrival⟩ := omits.skips alike happens kept
          rw [List.filter_cons_of_neg (by simp [kept]), List.filter_nil, List.append_nil, noArrival,
            List.append_nil]
          exact ⟨other, otherRuns, skipped, arrivalsEq⟩

def AgreeUnless (chosen : Nat → Bool) (caller : Nat) (state otherState : CallerState) : Prop :=
  chosen caller = false → otherState = state

theorem omits_settling (chosen : Nat → Bool) :
    Omits (fun event => !event.settles chosen) (AgreeUnless chosen) where
  reflexive caller state _ := rfl
  enter_kept := rfl
  finish_kept number outcome := rfl
  waits_too caller kept number otherState agrees :=
    agrees (by simpa [Event.settles] using kept)
  resume_free caller omitted number result otherState _ unchosen := by
    simp [Event.settles, unchosen] at omitted
  cancel_free caller omitted number otherState _ unchosen := by
    simp [Event.settles, unchosen] at omitted

def SparedIf (chosen : Nat → Bool) (caller : Nat) (state otherState : CallerState) : Prop :=
  otherState = state ∨
    chosen caller = true ∧ state = .cancelled ∧ ∃ number, otherState = .waiting number

theorem omits_cancelling (chosen : Nat → Bool) :
    Omits (fun event => !event.cancels chosen) (SparedIf chosen) where
  reflexive caller state := Or.inl rfl
  enter_kept := rfl
  finish_kept number outcome := rfl
  waits_too caller kept number otherState spared := by
    rcases spared with same | ⟨_, cancelled, _⟩
    · exact same
    · cases cancelled
  resume_free caller omitted := by simp [Event.cancels] at omitted
  cancel_free caller omitted number otherState spared := by
    have isChosen : chosen caller = true := by simpa [Event.cancels] using omitted
    rcases spared with same | ⟨_, cancelled, _⟩
    · exact Or.inr ⟨isChosen, rfl, number, same⟩
    · cases cancelled

theorem Alike.getElem?_eq_of_unspared {chosen : Nat → Bool}
    (alike : Alike (SparedIf chosen) session other) {caller : Nat}
    (unspared : chosen caller = false ∨ session.callers[caller]? ≠ some .cancelled) :
    other.callers[caller]? = session.callers[caller]? := by
  refine alike.getElem?_eq fun state otherState present spared => ?_
  rcases spared with same | ⟨isChosen, rfl, _⟩
  · exact same
  · rcases unspared with unchosen | uncancelled
    · rw [isChosen] at unchosen
      cases unchosen
    · exact absurd present uncancelled

theorem Alike.waits_of_cancelled {chosen : Nat → Bool} {moduleName : String}
    (alike : Alike (SparedIf chosen) session other)
    (accounts : Accounts moduleName first events other) {caller : Nat}
    (omitted : .cancel caller ∉ events) (cancelled : session.callers[caller]? = some .cancelled) :
    ∃ number, first.Joins events caller number ∧ other.callers[caller]? = some (.waiting number) ∧
      ∀ result, session.loader.result? number = some result →
        ∃ resumed, other.step? (.resume caller) = some resumed ∧
          resumed.callers[caller]? = some (.returned result) := by
  obtain ⟨otherState, otherPresent, spared⟩ := alike.exists_related cancelled
  rcases spared with rfl | ⟨_, _, number, rfl⟩
  · exact absurd (accounts.cancelled_iff.1 otherPresent) omitted
  · refine ⟨number, accounts.joins_of_waiting otherPresent, otherPresent, fun result ended => ?_⟩
    rw [← alike.loader_eq] at ended
    refine ⟨_, step?_eq_some_iff.2 (.resume otherPresent ended), ?_⟩
    rw [getElem?_settleCaller otherPresent, if_pos rfl]

theorem Runs.agree_of_same_rest {chosen : Nat → Bool} {otherEvents : List Event}
    (runs : first.Runs events session) (otherRuns : first.Runs otherEvents other)
    (sameRest : (otherEvents.filter fun event => !event.settles chosen) =
      (events.filter fun event => !event.settles chosen)) :
    other.loader = session.loader ∧ other.log = session.log ∧
      first.arrivals otherEvents = first.arrivals events ∧
      ∀ caller, chosen caller = false → other.callers[caller]? = session.callers[caller]? := by
  obtain ⟨rest, restRuns, alike, arrivalsEq⟩ := runs.filter (omits_settling chosen)
  obtain ⟨otherRest, otherRestRuns, otherAlike, otherArrivalsEq⟩ :=
    otherRuns.filter (omits_settling chosen)
  rw [sameRest] at otherRestRuns otherArrivalsEq
  obtain rfl := restRuns.deterministic otherRestRuns
  refine ⟨otherAlike.loader_eq.symm.trans alike.loader_eq,
    otherAlike.log_eq.symm.trans alike.log_eq, otherArrivalsEq.symm.trans arrivalsEq, ?_⟩
  intro caller unchosen
  have restEq := alike.getElem?_eq fun state otherState _ agrees => agrees unchosen
  have otherRestEq := otherAlike.getElem?_eq fun state otherState _ agrees => agrees unchosen
  exact otherRestEq.symm.trans restEq

/-- Every caller that is not cancelled gets the surface that it found, or else what the import gives that
it started or joined, so callers of one import get the same; those that are cancelled are exactly those
that end so. Without the cancellations of chosen callers the run has the same imports, and only these
callers are left in another state: they wait for their imports and can resume. And whatever becomes of
chosen callers, as long as all else happens alike, nothing changes for others. -/
theorem outcomes_agree_and_cancellations_isolated (moduleName : String) (loader : Loader)
    (built : Loader.build? moduleName = .ok loader) (events : List Event) (session : Session)
    (runs : (start loader).Runs events session) :
    (∀ (caller : Nat) (result : Except Failure Surface),
      session.callers[caller]? = some (.returned result) →
        (∃ surface, (start loader).Finds events caller surface ∧ result = .ok surface) ∨
          ∃ number outcome, (start loader).Joins events caller number ∧
            .finish number outcome ∈ events ∧ result = Loader.settle moduleName outcome) ∧
    (∀ (first second number : Nat) (firstResult secondResult : Except Failure Surface),
      (start loader).Joins events first number → (start loader).Joins events second number →
      session.callers[first]? = some (.returned firstResult) →
      session.callers[second]? = some (.returned secondResult) → firstResult = secondResult) ∧
    (∀ caller, session.callers[caller]? = some .cancelled ↔ .cancel caller ∈ events) ∧
    (∀ chosen : Nat → Bool, ∃ other,
      (start loader).Runs (events.filter fun event => !event.cancels chosen) other ∧
      other.loader = session.loader ∧ other.log = session.log ∧
      (start loader).arrivals (events.filter fun event => !event.cancels chosen) =
        (start loader).arrivals events ∧
      (∀ caller, chosen caller = false ∨ session.callers[caller]? ≠ some .cancelled →
        other.callers[caller]? = session.callers[caller]?) ∧
      ∀ caller, chosen caller = true → session.callers[caller]? = some .cancelled →
        ∃ number, (start loader).Joins events caller number ∧
          other.callers[caller]? = some (.waiting number) ∧
          ∀ result, session.loader.result? number = some result →
            ∃ resumed, other.step? (.resume caller) = some resumed ∧
              resumed.callers[caller]? = some (.returned result)) ∧
    (∀ (chosen : Nat → Bool) (otherEvents : List Event) (other : Session),
      (start loader).Runs otherEvents other →
      (otherEvents.filter fun event => !event.settles chosen) =
        (events.filter fun event => !event.settles chosen) →
      other.loader = session.loader ∧ other.log = session.log ∧
      (start loader).arrivals otherEvents = (start loader).arrivals events ∧
      ∀ caller, chosen caller = false → other.callers[caller]? = session.callers[caller]?) := by
  have accounts := runs.accounts_of_build built
  refine ⟨?_, ?_, ?_, ?_, ?_⟩
  · intro caller result returned
    exact accounts.returned_cases returned
  · intro first second number firstResult secondResult firstJoins secondJoins firstReturned
      secondReturned
    have firstEnded := accounts.result?_of_joins firstJoins firstReturned
    have secondEnded := accounts.result?_of_joins secondJoins secondReturned
    exact Option.some.inj (firstEnded.symm.trans secondEnded)
  · intro caller
    exact accounts.cancelled_iff
  · intro chosen
    obtain ⟨other, otherRuns, alike, arrivalsEq⟩ := runs.filter (omits_cancelling chosen)
    refine ⟨other, otherRuns, alike.loader_eq, alike.log_eq, arrivalsEq, ?_, ?_⟩
    · intro caller unspared
      exact alike.getElem?_eq_of_unspared unspared
    · intro caller isChosen cancelled
      have omitted : .cancel caller ∉ events.filter fun event => !event.cancels chosen := by
        simp [Event.cancels, isChosen]
      obtain ⟨number, joins, waits⟩ :=
        alike.waits_of_cancelled (otherRuns.accounts_of_build built) omitted cancelled
      rw [Joins, arrivalsEq] at joins
      exact ⟨number, joins, waits⟩
  · intro chosen otherEvents other otherRuns sameRest
    exact runs.agree_of_same_rest otherRuns sameRest

def interruption : List Event :=
  [.enter, .enter, .finish 0 .noSurface, .cancel 0, .enter, .resume 1, .finish 1 (.surface .typeScript),
    .enter, .resume 2]

def unloaded : Loader :=
  ⟨"surfaces.shared", by decide, none, #[], none⟩

def interrupted : Session :=
  (start unloaded).run interruption

theorem interrupted_runs : (start unloaded).Runs interruption interrupted :=
  ((((((((Runs.start.step .enter rfl).step .enter rfl).step (.finish 0 .noSurface) rfl).step
    (.cancel 0) rfl).step .enter rfl).step (.resume 1) rfl).step (.finish 1 (.surface .typeScript))
    rfl).step .enter rfl).step (.resume 2) rfl

theorem interrupted_isolates_cancellation :
    interrupted.callers[0]? = some .cancelled ∧
      interrupted.callers[1]? =
        some (.returned (.error (Loader.loadFailure unloaded.moduleName Loader.noSurfaceReason))) ∧
      interrupted.callers[2]? = some (.returned (.ok .typeScript)) ∧
      ∃ other resumed, (start unloaded).Runs
          (interruption.filter fun event => !event.cancels fun _ => true) other ∧
        other.loader = interrupted.loader ∧ other.callers[1]? = interrupted.callers[1]? ∧
        other.step? (.resume 0) = some resumed ∧
        resumed.callers[0]? = interrupted.callers[1]? := by
  obtain ⟨_, _, _, isolated, _⟩ := outcomes_agree_and_cancellations_isolated "surfaces.shared"
    unloaded rfl interruption interrupted interrupted_runs
  obtain ⟨other, otherRuns, loaderEq, _, _, sameElse, spared⟩ := isolated fun _ => true
  obtain ⟨number, joins, _, resumes⟩ := spared 0 rfl rfl
  have joinsFirst : (start unloaded).Joins interruption 0 0 := ⟨_, rfl, rfl⟩
  obtain ⟨found, arrived, joined⟩ := joins
  obtain ⟨same, sameArrived, firstJoined⟩ := joinsFirst
  obtain rfl := Option.some.inj (arrived.symm.trans sameArrived)
  obtain rfl := Option.some.inj (joined.symm.trans firstJoined)
  obtain ⟨resumed, stepped, returned⟩ := resumes _ rfl
  refine ⟨rfl, rfl, rfl, other, resumed, otherRuns, loaderEq, sameElse 1 (Or.inr ?_), stepped,
    returned⟩
  intro impossible
  cases impossible

end Session

end Placement
