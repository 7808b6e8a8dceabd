import Placement.Proofs.SessionRuns

/-!
Sessions of a module whose imports all end alike. Whoever enters, resumes or is cancelled, and however often
the import is repeated, every caller that returns gets what the first import of the module would give.
-/

namespace Placement

def LogEntry.tellsLoaded (moduleName : String) : LogEntry → Bool
  | .loaded name => name == moduleName
  | _ => false

namespace Loader

theorem imports_size_le_enter (loader : Loader) :
    loader.imports.size ≤ loader.enter.imports.size := by
  rw [enter]
  split
  next => simp
  next => exact Nat.le_refl _

theorem enter_of_joined? {loader : Loader} {number : Nat} (joined : loader.joined? = some number) :
    number < loader.enter.imports.size ∧ loader.enter.pending = some number := by
  have unloaded := memo_eq_none_of_joined? joined
  rw [joined?, entry, unloaded] at joined
  rw [enter, entry, unloaded]
  cases found : loader.pending.filter loader.isRunning with
  | some running =>
      simp only [found, Option.some.injEq] at joined
      obtain ⟨pendingEq, isRunning⟩ := Option.filter_eq_some_iff.1 found
      obtain ⟨inside, _⟩ := Array.getElem?_eq_some_iff.1 (isRunning_iff.1 isRunning)
      rw [← joined]
      exact ⟨inside, pendingEq⟩
  | none =>
      simp only [found, Option.some.injEq] at joined
      simp [← joined]

theorem running_or_ended {loader : Loader} {number : Nat} (started : number < loader.imports.size) :
    loader.isRunning number = true ∨ ∃ result, loader.result? number = some result := by
  cases state : loader.imports[number] with
  | running =>
      left
      rw [isRunning_iff, Array.getElem?_eq_getElem started, state]
  | finished result =>
      right
      exact ⟨result, by rw [result?_eq_some_iff, Array.getElem?_eq_getElem started, state]⟩

theorem loaded_not_mem {failed : Array ImportState}
    (failures : ∀ state ∈ failed, state.isFailed = true) (surface : Surface) :
    .finished (.ok surface) ∉ failed := by
  intro member
  cases failures _ member

theorem eq_latest_of_loaded {failed : Array ImportState} {state : ImportState} {number : Nat}
    {surface : Surface} (failures : ∀ state ∈ failed, state.isFailed = true)
    (found : (failed.push state)[number]? = some (.finished (.ok surface))) :
    number = failed.size := by
  rw [Array.getElem?_push] at found
  by_cases latest : number = failed.size
  · exact latest
  · rw [if_neg latest] at found
    exact absurd (Array.mem_of_getElem? found) (loaded_not_mem failures surface)

theorem Phase.loaded_unique {loader : Loader} (phase : loader.Phase) {first second : Nat}
    {surface other : Surface} (firstLoaded : loader.result? first = some (.ok surface))
    (secondLoaded : loader.result? second = some (.ok other)) : first = second := by
  rw [result?_eq_some_iff] at firstLoaded secondLoaded
  cases phase with
  | idle unloaded failures =>
      exact absurd (Array.mem_of_getElem? firstLoaded) (loaded_not_mem failures surface)
  | importing failed unloaded failures importsEq pendingEq =>
      rw [importsEq] at firstLoaded secondLoaded
      exact (eq_latest_of_loaded failures firstLoaded).trans
        (eq_latest_of_loaded failures secondLoaded).symm
  | loaded failed kept memoEq failures importsEq =>
      rw [importsEq] at firstLoaded secondLoaded
      exact (eq_latest_of_loaded failures firstLoaded).trans
        (eq_latest_of_loaded failures secondLoaded).symm

theorem settle_eq_ok_iff (moduleName : String) (outcome : ImportOutcome) (surface : Surface) :
    settle moduleName outcome = .ok surface ↔ outcome = .surface surface := by
  cases outcome with
  | surface given => simp [settle]
  | noSurface => simp [settle]
  | importError raised => simp [settle]
  | crash raised => simp [settle]

end Loader

namespace Session

/-- Every import that ended gave what such an import gives, every caller that returned got it, and
whoever waits does so for an import that was started. -/
structure Steady (moduleName : String) (outcome : ImportOutcome) (session : Session) : Prop where
  module_eq : session.loader.moduleName = moduleName
  phase : session.loader.Phase
  ended : ∀ number result, session.loader.result? number = some result →
    result = Loader.settle moduleName outcome
  returned : ∀ (caller : Nat) result, session.callers[caller]? = some (.returned result) →
    result = Loader.settle moduleName outcome
  awaited : ∀ (caller number : Nat), session.callers[caller]? = some (.waiting number) →
    number < session.loader.imports.size

variable {moduleName : String} {outcome : ImportOutcome} {session before after : Session}
  {event : Event}

theorem Steady.start {loader : Loader} (built : Loader.build? moduleName = .ok loader) :
    (start loader).Steady moduleName outcome := by
  have phase := Loader.Phase.initial built
  rw [Loader.build?] at built
  split at built
  next => cases built
  next =>
      cases built
      exact ⟨rfl, phase, by simp [Session.start, Loader.result?], by simp [Session.start],
        by simp [Session.start]⟩

theorem Steady.eq_of_memo (steady : session.Steady moduleName outcome) {surface : Surface}
    (kept : session.loader.memo = some surface) : Loader.settle moduleName outcome = .ok surface := by
  cases steady.phase with
  | idle unloaded failures => cases unloaded.symm.trans kept
  | importing failed unloaded failures importsEq pendingEq => cases unloaded.symm.trans kept
  | loaded failed found memoEq failures importsEq =>
      obtain rfl := Option.some.inj (memoEq.symm.trans kept)
      refine (steady.ended failed.size _ (Loader.result?_eq_some_iff.2 ?_)).symm
      rw [importsEq, Array.getElem?_push_size]

theorem Steady.settleCaller (steady : session.Steady moduleName outcome) {caller : Nat}
    {state settled : CallerState} (present : session.callers[caller]? = some state)
    (gets : ∀ result, settled = .returned result → result = Loader.settle moduleName outcome)
    (leaves : ∀ number, settled ≠ .waiting number) :
    (session.settleCaller caller settled).Steady moduleName outcome where
  module_eq := steady.module_eq
  phase := steady.phase
  ended := steady.ended
  returned other result found := by
    rw [getElem?_settleCaller present] at found
    split at found
    next => exact gets result (Option.some.inj found)
    next => exact steady.returned other result found
  awaited other number found := by
    rw [getElem?_settleCaller present] at found
    split at found
    next => exact absurd (Option.some.inj found) (leaves number)
    next => exact steady.awaited other number found

theorem Steady.enter (steady : before.Steady moduleName outcome) (log : Array LogEntry) :
    (Session.mk before.loader.enter (before.callers.push (.ofEntry before.loader.entry)) log).Steady
      moduleName outcome where
  module_eq := (before.apply_moduleName .enter).trans steady.module_eq
  phase := steady.phase.enter
  ended number result found := steady.ended number result ((Loader.result?_enter _ _ _).1 found)
  returned caller result found := by
    rw [Array.getElem?_push] at found
    split at found
    · rcases before.loader.entry_cases with ⟨surface, kept, entered⟩ | ⟨_, number, _, entered⟩
      · rw [entered] at found
        cases found
        exact (steady.eq_of_memo kept).symm
      · rw [entered] at found
        cases found
    · exact steady.returned caller result found
  awaited caller number found := by
    rw [Array.getElem?_push] at found
    split at found
    · rcases before.loader.entry_cases with ⟨surface, _, entered⟩ | ⟨_, joined, isJoined, entered⟩
      · rw [entered] at found
        cases found
      · rw [entered] at found
        cases found
        exact (Loader.enter_of_joined? isJoined).1
    · exact Nat.lt_of_lt_of_le (steady.awaited caller number found)
        before.loader.imports_size_le_enter

theorem Steady.finish (steady : before.Steady moduleName outcome) {number : Nat}
    (running : before.loader.isRunning number = true) (log : Array LogEntry) :
    (Session.mk (before.loader.finish number outcome) before.callers log).Steady moduleName
      outcome where
  module_eq := steady.module_eq
  phase := steady.phase.finish running outcome
  ended other result found := by
    rw [Loader.result?_finish running, steady.module_eq] at found
    split at found
    · exact (Option.some.inj found).symm
    · exact steady.ended other result found
  returned := steady.returned
  awaited caller waited found := by
    simp only [Loader.finish, Array.size_setIfInBounds]
    exact steady.awaited caller waited found

theorem Steady.happens (steady : before.Steady moduleName outcome)
    (happens : before.Happens event after)
    (alike : ∀ number other, event = .finish number other → other = outcome) :
    after.Steady moduleName outcome := by
  cases happens with
  | enter => exact steady.enter _
  | @finish number other running =>
      obtain rfl := alike number other rfl
      exact steady.finish running _
  | @resume caller number result waits settled =>
      refine steady.settleCaller waits ?_ (by simp)
      rintro _ ⟨⟩
      exact steady.ended number result settled
  | @cancel caller number waits => exact steady.settleCaller waits (by simp) (by simp)

/-- What no event takes back: callers stay, those that do not wait as they are, and a surface is kept. -/
structure Extends (before after : Session) : Prop where
  size_le : before.callers.size ≤ after.callers.size
  settled : ∀ (caller : Nat) state, before.callers[caller]? = some state → state.awaited? = none →
    after.callers[caller]? = some state
  loaded : before.loader.isLoaded = true → after.loader.isLoaded = true

theorem Extends.refl (session : Session) : session.Extends session :=
  ⟨Nat.le_refl _, fun _ _ present _ => present, id⟩

theorem Extends.trans {first second third : Session} (earlier : first.Extends second)
    (later : second.Extends third) : first.Extends third where
  size_le := Nat.le_trans earlier.size_le later.size_le
  settled caller state present unawaited :=
    later.settled caller state (earlier.settled caller state present unawaited) unawaited
  loaded := later.loaded ∘ earlier.loaded

theorem extends_settleCaller {caller number : Nat} {settled : CallerState}
    (waits : session.callers[caller]? = some (.waiting number)) :
    session.Extends (session.settleCaller caller settled) where
  size_le := by simp [Session.settleCaller]
  settled other state present unawaited := by
    rw [getElem?_settleCaller waits]
    split
    next same =>
        subst same
        cases waits.symm.trans present
        cases unawaited
    next => exact present
  loaded := id

theorem Happens.extended (happens : before.Happens event after) : before.Extends after := by
  cases happens with
  | enter =>
      refine ⟨by simp, ?_, ?_⟩
      · intro caller state present _
        obtain ⟨inside, _⟩ := Array.getElem?_eq_some_iff.1 present
        rwa [Array.getElem?_push_lt inside, ← Array.getElem?_eq_getElem inside]
      · intro loaded
        rw [Loader.isLoaded, Loader.enter]
        split <;> exact loaded
  | @finish number outcome running =>
      refine ⟨Nat.le_refl _, fun _ _ present _ => present, ?_⟩
      intro loaded
      rw [Loader.isLoaded, Option.isSome_iff_exists] at loaded
      obtain ⟨surface, kept⟩ := loaded
      simp [Loader.isLoaded, Loader.finish, kept]
  | resume waits _ => exact extends_settleCaller waits
  | cancel waits => exact extends_settleCaller waits

theorem Happens.cancelled_cases (happens : before.Happens event after) {caller : Nat}
    (cancelled : after.callers[caller]? = some .cancelled) :
    before.callers[caller]? = some .cancelled ∨ event = .cancel caller := by
  cases happens with
  | enter =>
      left
      rw [Array.getElem?_push] at cancelled
      split at cancelled
      · rcases before.loader.entry_cases with ⟨_, _, entered⟩ | ⟨_, _, _, entered⟩
        · cases entered.symm.trans (Option.some.inj cancelled)
        · cases entered.symm.trans (Option.some.inj cancelled)
      · exact cancelled
  | finish _ => exact Or.inl cancelled
  | resume waits _ =>
      rw [getElem?_settleCaller waits] at cancelled
      split at cancelled
      · cases cancelled
      · exact Or.inl cancelled
  | cancel waits =>
      rw [getElem?_settleCaller waits] at cancelled
      split at cancelled
      next same => exact Or.inr (by rw [same])
      next => exact Or.inl cancelled

theorem extends_apply (session : Session) (event : Event) : session.Extends (session.apply event) := by
  by_cases allowed : session.allows event = true
  · exact (step?_eq_some_iff.1 (by rw [step?, if_pos allowed])).extended
  · rw [apply_eq_of_not_allows session event (by simpa using allowed)]
    exact .refl session

theorem extends_release (importer : Nat → ImportOutcome) (session : Session) :
    session.Extends (session.release importer) := by
  rw [release]
  split
  · exact .refl session
  · exact session.extends_apply _

theorem Steady.apply (steady : session.Steady moduleName outcome) (event : Event)
    (alike : ∀ number other, event = .finish number other → other = outcome) :
    (session.apply event).Steady moduleName outcome := by
  by_cases allowed : session.allows event = true
  · exact steady.happens (step?_eq_some_iff.1 (by rw [step?, if_pos allowed])) alike
  · rw [apply_eq_of_not_allows session event (by simpa using allowed)]
    exact steady

theorem callers_finish (session : Session) (number : Nat) (outcome : ImportOutcome) :
    (session.apply (.finish number outcome)).callers = session.callers := by
  rw [Session.apply]
  split <;> rfl

theorem apply_resume {caller : Nat} {result : Except Failure Surface}
    (ended : session.result? caller = some result) :
    session.apply (.resume caller) = session.settleCaller caller (.returned result) := by
  simp only [Session.apply, ended]

theorem Steady.result?_finish (steady : session.Steady moduleName outcome) {number : Nat}
    (started : number < session.loader.imports.size) :
    (session.apply (.finish number outcome)).loader.result? number =
      some (Loader.settle moduleName outcome) := by
  by_cases running : session.loader.isRunning number = true
  · simp only [Session.apply, running, ↓reduceIte, Loader.result?_finish running, steady.module_eq]
  · obtain ⟨result, ended⟩ := (Loader.running_or_ended started).resolve_left running
    rw [apply_eq_of_not_allows _ _ (by simpa [allows] using running), ended,
      steady.ended number result ended]

theorem Steady.returns (steady : session.Steady moduleName outcome) {caller number : Nat}
    (waits : session.callers[caller]? = some (.waiting number)) :
    ((session.apply (.finish number outcome)).apply (.resume caller)).callers[caller]? =
      some (.returned (Loader.settle moduleName outcome)) := by
  have ended := steady.result?_finish (steady.awaited caller number waits)
  have stillWaits : (session.apply (.finish number outcome)).callers[caller]? =
      some (.waiting number) := by
    rw [callers_finish, waits]
  rw [apply_resume (result?_eq_some_iff.2 ⟨number, stillWaits, ended⟩),
    getElem?_settleCaller stillWaits, if_pos rfl]

theorem Steady.load (steady : session.Steady moduleName outcome) {importer : Nat → ImportOutcome}
    (alike : ∀ number, importer number = outcome) :
    (session.load importer).callers[session.callers.size]? =
      some (.returned (Loader.settle moduleName outcome)) := by
  have entered : (session.apply .enter).callers[session.callers.size]? =
      some (.ofEntry session.loader.entry) := Array.getElem?_push_size
  have steadyEntered := steady.apply .enter (by simp)
  rw [Session.load]
  rcases session.loader.entry_cases with ⟨surface, kept, ready⟩ | ⟨_, number, joined, waits⟩
  · rw [ready, ← steady.eq_of_memo kept] at entered
    exact ((extends_release importer _).trans (extends_apply _ _)).settled _ _ entered rfl
  · have pendingEq : (session.apply .enter).loader.pending = some number :=
      (Loader.enter_of_joined? joined).2
    rw [waits] at entered
    rw [release, pendingEq]
    simp only [alike]
    exact steadyEntered.returns entered

theorem countP_entries_enter (session : Session) (moduleName : String) :
    (session.entries .enter).countP (LogEntry.tellsLoaded moduleName) = 0 := by
  rw [entries]
  split <;> rfl

theorem Happens.tellsLoaded_cases (happens : before.Happens event after)
    (phase : before.loader.Phase) (moduleName : String) :
    (before.entries event).countP (LogEntry.tellsLoaded moduleName) = 0 ∨
      ((before.entries event).countP (LogEntry.tellsLoaded moduleName) = 1 ∧
        before.loader.moduleName = moduleName ∧ before.loader.isLoaded = false ∧
        after.loader.isLoaded = true) := by
  cases happens with
  | enter => exact Or.inl (before.countP_entries_enter moduleName)
  | @finish number outcome running =>
      cases outcome with
      | surface surface =>
          by_cases same : before.loader.moduleName = moduleName
          · right
            refine ⟨by simp [entries, Loader.finishLog, LogEntry.tellsLoaded, same], same, ?_, ?_⟩
            · rw [Bool.eq_false_iff]
              intro loaded
              obtain ⟨kept, keptEq⟩ := Option.isSome_iff_exists.1 loaded
              rw [phase.not_isRunning_of_memo keptEq number] at running
              cases running
            · simp [Loader.isLoaded, Loader.finish, Loader.settle, Except.toOption]
          · left
            simp [entries, Loader.finishLog, LogEntry.tellsLoaded, same]
      | noSurface => exact Or.inl rfl
      | importError raised => exact Or.inl rfl
      | crash raised => exact Or.inl rfl
  | resume _ _ => exact Or.inl rfl
  | cancel _ => exact Or.inl rfl

end Session

end Placement
