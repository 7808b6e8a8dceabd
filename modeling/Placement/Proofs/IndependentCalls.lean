import Placement.Proofs.Screening
import Placement.Proofs.SharedCalls

/-!
Calls that share the loaders of a process end as if each were alone in it. The order in which they are
made, imports end and callers resume decides only when a call ends, and a cancellation ends its own call.
-/

namespace Placement

namespace Service

variable {imports : String → ImportOutcome} {service after : Service} {happenings : List Happening}

inductive Ends (service : Service) (request : Request) : Verdict → Prop
  | screened : request.caller = none → Ends service request (.completed ⟨.empty, .ok ()⟩)
  | returned {slot caller : Nat} {name : String} {session : Session}
      {loaded : Except Failure Surface} :
      request.caller = some (slot, caller) →
      service.registry.entries[slot]? = some (name, session) →
      session.callers[caller]? = some (.returned loaded) →
      Ends service request (.completed (request.validator.answer request.result loaded))
  | cancelled {slot caller : Nat} {name : String} {session : Session} :
      request.caller = some (slot, caller) →
      service.registry.entries[slot]? = some (name, session) →
      session.callers[caller]? = some .cancelled → Ends service request .cancelled

theorem verdict?_eq_some_iff {number : Nat} {verdict : Verdict} :
    service.verdict? number = some verdict ↔
      ∃ request, service.requests[number]? = some request ∧ service.Ends request verdict := by
  constructor
  · intro ended
    simp only [verdict?, Option.bind_eq_bind, Option.bind_eq_some_iff] at ended
    obtain ⟨request, made, ended⟩ := ended
    refine ⟨request, made, ?_⟩
    split at ended
    next standing =>
        cases ended
        exact .screened standing
    next slot caller standing =>
        obtain ⟨session, found, ended⟩ := Option.bind_eq_some_iff.1 ended
        obtain ⟨name, foundEntry⟩ := Registry.session?_eq_some_iff.1 found
        split at ended
        next loaded state =>
            cases ended
            exact .returned standing foundEntry state
        next state =>
            cases ended
            exact .cancelled standing foundEntry state
        next => cases ended
  · rintro ⟨request, made, ends⟩
    cases ends with
    | screened standing => simp [verdict?, made, standing]
    | returned standing found state =>
        simp [verdict?, made, standing, Registry.session?_eq_some_iff.2 ⟨_, found⟩, state]
    | cancelled standing found state =>
        simp [verdict?, made, standing, Registry.session?_eq_some_iff.2 ⟨_, found⟩, state]

theorem Happens.verdict?_eq {importer : Importer} {event : Event}
    (happens : service.Happens importer event after) {number : Nat} {verdict : Verdict}
    (ended : service.verdict? number = some verdict) : after.verdict? number = some verdict := by
  obtain ⟨request, made, ends⟩ := verdict?_eq_some_iff.1 ended
  refine verdict?_eq_some_iff.2 ⟨request, happens.getElem?_requests made, ?_⟩
  cases ends with
  | screened standing => exact .screened standing
  | returned standing found state =>
      obtain ⟨later, foundLater, keeps⟩ := happens.extended _ _ _ found
      exact .returned standing foundLater (keeps.settled _ _ state rfl)
  | cancelled standing found state =>
      obtain ⟨later, foundLater, keeps⟩ := happens.extended _ _ _ found
      exact .cancelled standing foundLater (keeps.settled _ _ state rfl)

theorem verdict?_run {importer : Importer} {number : Nat} {verdict : Verdict}
    (ended : service.verdict? number = some verdict) (events : List Event) :
    (service.run importer events).verdict? number = some verdict := by
  induction events generalizing service with
  | nil => exact ended
  | cons event rest ih =>
      have endedThere : (service.apply importer event).verdict? number = some verdict := by
        rw [Service.apply]
        cases stepped : service.step? importer event with
        | none => exact ended
        | some after => exact (step?_happens stepped).verdict?_eq ended
      exact ih endedThere

theorem apply_finish (importer : Importer) {slot : Nat} {session : Session}
    (found : service.registry.session? slot = some session) (number : Nat) :
    service.apply importer (.finish slot number) =
      (service.stepSession? slot
        (.finish number (importer session.loader.moduleName number))).getD service := by
  simp only [Service.apply, step?, found, Option.bind_eq_bind, Option.bind_some]

theorem Accounts.verdict_cases (accounts : Accounts imports happenings service) {number : Nat}
    {call : Call} (made : (Happening.calls happenings)[number]? = some call) :
    service.verdict? number = some (.completed (call.finding imports)) ∨
    (service.verdict? number = some .cancelled ∧ .cancel number ∈ happenings) ∨
    (service.verdict? number = none ∧ ∃ slot awaited,
      (service.run (alike imports) [.finish slot awaited, .resume number]).verdict? number =
        some (.completed (call.finding imports))) := by
  obtain ⟨place, requested, placed⟩ := accounts.numbers.placed number call made
  rw [Call.finding]
  cases placed with
  | screened screened =>
      left
      rw [if_pos screened]
      exact verdict?_eq_some_iff.2 ⟨_, requested, .screened rfl⟩
  | @entered slot caller session unscreened found inside =>
      have unscreened : ¬call.validator.screensOut call.result.text = true := by simp [unscreened]
      have steadyThere := accounts.steady.at found
      rw [if_neg unscreened]
      have present := Array.getElem?_eq_getElem inside
      cases state : session.callers[caller] with
      | returned loaded =>
          left
          rw [state] at present
          rw [← steadyThere.returned caller loaded present]
          exact verdict?_eq_some_iff.2 ⟨_, requested, .returned rfl found present⟩
      | cancelled =>
          right
          left
          rw [state] at present
          obtain ⟨other, request, member, madeThere, placedThere⟩ :=
            accounts.cancelled slot caller _ session found present
          obtain rfl := accounts.numbers.apart number other _ request _ requested madeThere rfl
            placedThere
          exact ⟨verdict?_eq_some_iff.2 ⟨_, requested, .cancelled rfl found present⟩, member⟩
      | waiting awaited =>
          right
          right
          rw [state] at present
          have session_eq := Registry.session?_eq_some_iff.2 ⟨_, found⟩
          have serves : service.Serves number _ slot session := ⟨requested, session_eq⟩
          refine ⟨by simp [verdict?, requested, session_eq, present], slot, awaited, ?_⟩
          have finished := serves.stepSession (.finish awaited (imports session.loader.moduleName))
          have resumed := finished.resume (alike imports) caller rfl
          rw [← apply_finish (alike imports) session_eq awaited, steadyThere.module_eq] at resumed
          exact resumed.verdict?_eq rfl (steadyThere.returns present)

def validateAll (imports : String → ImportOutcome) (service : Service) :
    List Call → Except Fault Service
  | [] => .ok service
  | call :: rest =>
      match service.validate (alike imports) call.validator call.moduleName call.result with
      | .error fault => .error fault
      | .ok after => validateAll imports after rest

theorem exists_await_eq_run (importer : Importer) (service : Service) (number : Nat) :
    ∃ more : List Happening, Happening.calls more = [] ∧ (∀ other, .cancel other ∉ more) ∧
      service.await importer number = service.run importer (more.map Happening.event) := by
  rw [await]
  split
  next => exact ⟨[], rfl, by simp, rfl⟩
  next slot _ _ =>
      rw [release]
      split
      next => exact ⟨[.resume number], rfl, by simp, rfl⟩
      next awaited _ => exact ⟨[.finish slot awaited, .resume number], rfl, by simp, rfl⟩

theorem exists_validate_eq_following (imports : String → ImportOutcome)
    (happenings : List Happening) (call : Call) :
    ∃ more, Happening.calls more = [] ∧ (∀ other, .cancel other ∉ more) ∧
      (following imports happenings).validate (alike imports) call.validator call.moduleName
          call.result =
        .ok (following imports (happenings ++ .call call :: more)) := by
  obtain ⟨after, made⟩ := exists_made (following imports happenings) call
  obtain ⟨more, uncalled, uncancelled, awaited⟩ :=
    exists_await_eq_run (alike imports) after (following imports happenings).requests.size
  refine ⟨more, uncalled, uncancelled, ?_⟩
  rw [validate, made, Except.map, awaited, following_append, List.map_cons]
  rw [run, run, List.foldl_cons, Service.apply, step?_of_made made, Option.getD_some]

theorem exists_validateAll_eq_following (imports : String → ImportOutcome) (calls : List Call)
    (happenings : List Happening)
    (ended : ∀ number < (Happening.calls happenings).length,
      ∃ verdict, (following imports happenings).verdict? number = some verdict) :
    ∃ more, Happening.calls more = calls ∧ (∀ other, .cancel other ∉ more) ∧
      (following imports happenings).validateAll imports calls =
        .ok (following imports (happenings ++ more)) ∧
      ∀ number < (Happening.calls (happenings ++ more)).length,
        ∃ verdict, (following imports (happenings ++ more)).verdict? number = some verdict := by
  induction calls generalizing happenings with
  | nil =>
      refine ⟨[], rfl, by simp, ?_, ?_⟩
      · rw [List.append_nil]
        rfl
      · rw [List.append_nil]
        exact ended
  | cons call rest ih =>
      obtain ⟨more, uncalled, uncancelled, validated⟩ :=
        exists_validate_eq_following imports happenings call
      have accounts := accounts_following imports happenings
      have callsEq : Happening.calls (happenings ++ .call call :: more) =
          Happening.calls happenings ++ [call] := by
        rw [Happening.calls_append, Happening.calls_cons_call, uncalled]
      have endedThere : ∀ number < (Happening.calls (happenings ++ .call call :: more)).length,
          ∃ verdict, (following imports (happenings ++ .call call :: more)).verdict? number =
            some verdict := by
        intro number inside
        rw [callsEq, List.length_append, List.length_singleton] at inside
        by_cases last : number = (Happening.calls happenings).length
        · obtain ⟨after, same, verdict⟩ := call.validate_of_steady accounts.steady
          obtain rfl := Except.ok.inj (validated.symm.trans same)
          rw [last, ← accounts.numbers.counted]
          exact ⟨_, verdict⟩
        · obtain ⟨verdict, earlier⟩ := ended number (by omega)
          refine ⟨verdict, ?_⟩
          rw [following_append]
          exact verdict?_run earlier _
      obtain ⟨later, laterCalls, laterUncancelled, laterValidated, laterEnded⟩ := ih _ endedThere
      rw [List.append_assoc] at laterValidated laterEnded
      refine ⟨.call call :: more ++ later, ?_, ?_, ?_, laterEnded⟩
      · rw [List.cons_append, Happening.calls_cons_call, Happening.calls_append, uncalled,
          laterCalls, List.nil_append]
      · intro other member
        rw [List.cons_append, List.mem_cons, List.mem_append] at member
        rcases member with isCall | earlier | last
        · cases isCall
        · exact uncancelled other earlier
        · exact laterUncancelled other last
      · rw [validateAll, validated]
        exact laterValidated

/-- Nothing more happens by itself: no import can end and no call can resume. -/
structure IsQuiet (importer : Importer) (service : Service) : Prop where
  none_finishes : ∀ slot number, service.step? importer (.finish slot number) = none
  none_resumes : ∀ number, service.step? importer (.resume number) = none

theorem isQuiet_of_settled {importer : Importer}
    (settled : ∀ entry ∈ service.registry.entries, entry.2.loader.isImporting = false ∧
      ∀ state ∈ entry.2.callers, state.awaited? = none) : service.IsQuiet importer where
  none_finishes slot number := by
    refine Option.eq_none_iff_forall_ne_some.2 fun after stepped => ?_
    cases step?_happens stepped with
    | @passed _ _ _ session _ _ _ found inside passes _ =>
        have unfinished := (settled _ (List.mem_of_getElem? found)).1
        cases passes with
        | finish =>
            cases inside with
            | finish running =>
                rw [Loader.isImporting_iff.2 ⟨number, running⟩] at unfinished
                cases unfinished
  none_resumes number := by
    refine Option.eq_none_iff_forall_ne_some.2 fun after stepped => ?_
    cases step?_happens stepped with
    | passed found inside passes _ =>
        have unawaited := (settled _ (List.mem_of_getElem? found)).2
        cases passes with
        | resume _ _ =>
            cases inside with
            | resume waits _ => cases unawaited _ (Array.mem_of_getElem? waits)

theorem Accounts.verdict?_of_isQuiet (accounts : Accounts imports happenings service) {number : Nat}
    {call : Call} (made : (Happening.calls happenings)[number]? = some call)
    (uncancelled : .cancel number ∉ happenings) (quiet : service.IsQuiet (alike imports)) :
    service.verdict? number = some (.completed (call.finding imports)) := by
  rcases accounts.verdict_cases made with completed | ⟨_, cancels⟩ | ⟨_, slot, awaited, ends⟩
  · exact completed
  · exact absurd cancels uncancelled
  · rw [run, List.foldl_cons, List.foldl_cons, List.foldl_nil, Service.apply, Service.apply,
      quiet.none_finishes, Option.getD_none, quiet.none_resumes, Option.getD_none] at ends
    exact ends

theorem startedImports_following (imports : String → ImportOutcome) (happenings : List Happening)
    {happening : Happening} (screened : ∀ call, happening = .call call →
      call.validator.screensOut call.result.text = true) :
    (following imports (happenings ++ [happening])).registry.startedImports =
      (following imports happenings).registry.startedImports := by
  have last : following imports (happenings ++ [happening]) =
      (following imports happenings).apply (alike imports) happening.event :=
    following_append imports happenings [happening]
  rw [last, Service.apply]
  cases stepped : (following imports happenings).step? (alike imports) happening.event with
  | none => rfl
  | some after =>
      refine (step?_happens stepped).startedImports_eq ?_
      intro validator moduleName result asked
      rcases happening.call_or_unasked with ⟨call, rfl⟩ | ⟨_, unasked⟩
      · cases asked
        exact screened call rfl
      · exact absurd asked (unasked _ _ _)

theorem Accounts.surface_eq (accounts : Accounts imports happenings service) {name : String}
    {session : Session} (member : (name, session) ∈ service.registry.entries) {surface : Surface}
    (gets : session.loader.memo = some surface ∨
      ∃ caller : Nat, session.callers[caller]? = some (.returned (.ok surface))) :
    imports name = .surface surface := by
  have steadyThere := accounts.steady.sessions name session member
  rw [← Loader.settle_eq_ok_iff name]
  rcases gets with kept | ⟨caller, returned⟩
  · exact steadyThere.eq_of_memo kept
  · exact (steadyThere.returned caller _ returned).symm

end Service

open Service in
/-- Modules import alike whenever they are imported. Then a call that is not cancelled ends as it would
alone: it has done so, or it still waits for an import and does so once that has ended; and when nothing
more happens by itself it has. Only calls that are not screened out start imports, a module is loaded
at most once, each loader stands under the name of its module, and what it gives is the surface of that
module. Calls that are awaited one after another are a case of this. -/
theorem calls_end_as_alone (imports : String → ImportOutcome) :
    (∀ happenings : List Happening,
      (∀ (number : Nat) call, (Happening.calls happenings)[number]? = some call →
        ∃ inspection, call.alone? imports = some (.completed inspection) ∧
          ((following imports happenings).verdict? number = some (.completed inspection) ∨
          ((following imports happenings).verdict? number = some .cancelled ∧
            .cancel number ∈ happenings) ∨
          ((following imports happenings).verdict? number = none ∧ ∃ slot awaited,
            (following imports (happenings ++ [.finish slot awaited, .resume number])).verdict?
              number = some (.completed inspection)))) ∧
      ((following imports happenings).IsQuiet (alike imports) →
        ∀ (number : Nat) call, (Happening.calls happenings)[number]? = some call →
          .cancel number ∉ happenings →
          (following imports happenings).verdict? number = call.alone? imports) ∧
      (∀ happening, (∀ call, happening = .call call → call.settings.usesFastPath = true ∧
          ∀ token ∈ Prefilter.tokens, ¬token.toList <:+: call.result.text) →
        (following imports (happenings ++ [happening])).registry.startedImports =
          (following imports happenings).registry.startedImports) ∧
      (∀ moduleName, (following imports happenings).timesLoaded moduleName ≤ 1) ∧
      ((following imports happenings).registry.entries.map Prod.fst).Nodup ∧
      ∀ moduleName session, (moduleName, session) ∈ (following imports happenings).registry.entries →
        session.loader.moduleName = moduleName ∧
        (∀ first second surface other, session.loader.result? first = some (.ok surface) →
          session.loader.result? second = some (.ok other) → first = second) ∧
        ∀ surface, (session.loader.memo = some surface ∨
            ∃ caller : Nat, session.callers[caller]? = some (.returned (.ok surface))) →
          imports moduleName = .surface surface) ∧
    ∀ calls, ∃ happenings, Happening.calls happenings = calls ∧
      (∀ number, .cancel number ∉ happenings) ∧
      fresh.validateAll imports calls = .ok (following imports happenings) ∧
      ∀ (number : Nat) call, calls[number]? = some call →
        (following imports happenings).verdict? number = call.alone? imports := by
  refine ⟨?_, ?_⟩
  · intro happenings
    have accounts := accounts_following imports happenings
    refine ⟨?_, ?_, ?_, accounts.loaded_once, accounts.steady.names_nodup, ?_⟩
    · intro number call made
      refine ⟨call.finding imports, call.alone?_eq imports, ?_⟩
      simp only [following_append]
      exact accounts.verdict_cases made
    · intro quiet number call made uncancelled
      rw [call.alone?_eq imports]
      exact accounts.verdict?_of_isQuiet made uncancelled quiet
    · intro happening screened
      refine startedImports_following imports happenings fun call isCall => ?_
      exact call.screensOut_iff.2 (screened call isCall)
    · intro moduleName session member
      have steadyThere := accounts.steady.sessions moduleName session member
      exact ⟨steadyThere.module_eq, fun _ _ _ _ => steadyThere.phase.loaded_unique,
        fun _ => accounts.surface_eq member⟩
  · intro calls
    obtain ⟨happenings, callsEq, uncancelled, validated, ended⟩ :=
      exists_validateAll_eq_following imports calls [] (by simp [Happening.calls])
    rw [List.nil_append] at validated ended
    refine ⟨happenings, callsEq, uncancelled, validated, ?_⟩
    intro number call made
    rw [← callsEq] at made
    obtain ⟨verdict, verdictEq⟩ := ended number (List.getElem?_eq_some_iff.1 made).1
    rw [call.alone?_eq imports]
    rcases (accounts_following imports happenings).verdict_cases made with
      completed | ⟨_, cancels⟩ | ⟨waits, _⟩
    · exact completed
    · exact absurd cancels (uncancelled number)
    · cases waits.symm.trans verdictEq

namespace SharedRun

def imports (moduleName : String) : ImportOutcome :=
  if moduleName = Config.defaultModule then .surface .typeScript else .noSurface

def elsewhere : Config :=
  ⟨none, true, "surfaces.elsewhere", by decide⟩

def happenings : List Happening :=
  [.call ⟨none, readonlyMethod⟩, .call ⟨some elsewhere, readonlyMethod⟩,
    .call ⟨none, readonlyMethod⟩, .cancel 2, .finish 1 0, .call ⟨some elsewhere, readonlyMethod⟩,
    .finish 0 0, .call ⟨some elsewhere, bareProgram⟩, .resume 1, .resume 0, .finish 1 1, .resume 3]

theorem happenings_quiet :
    (Service.following imports happenings).IsQuiet (Service.alike imports) :=
  Service.isQuiet_of_settled (by decide +kernel)

theorem happenings_end_as_alone :
    (Service.following imports happenings).verdict? 0 = Call.alone? imports ⟨none, readonlyMethod⟩ ∧
      (Service.following imports happenings).verdict? 3 =
        Call.alone? imports ⟨some elsewhere, readonlyMethod⟩ ∧
      (Service.following imports (happenings ++ [.call ⟨none, bareProgram⟩])).registry.startedImports =
        (Service.following imports happenings).registry.startedImports ∧
      (Service.following imports happenings).timesLoaded Config.defaultModule ≤ 1 ∧
      ∃ surface, imports Config.defaultModule = .surface surface := by
  obtain ⟨_, ended, screened, once, _, named⟩ := (calls_end_as_alone imports).1 happenings
  have bareScreened := (Call.screensOut_iff ⟨none, bareProgram⟩).1 (by decide)
  refine ⟨?_, ?_, ?_, once _, ?_⟩
  · exact ended happenings_quiet 0 _ rfl (by simp [happenings])
  · exact ended happenings_quiet 3 _ rfl (by simp [happenings])
  · refine screened _ ?_
    rintro _ ⟨⟩
    exact bareScreened
  · have loaded : ∃ entry ∈ (Service.following imports happenings).registry.entries,
        entry.1 = Config.defaultModule ∧ entry.2.loader.memo.isSome = true := by
      decide +kernel
    obtain ⟨⟨_, session⟩, member, rfl, isKept⟩ := loaded
    obtain ⟨surface, kept⟩ := Option.isSome_iff_exists.1 isKept
    exact ⟨surface, (named _ session member).2.2 surface (Or.inl kept)⟩

end SharedRun

end Placement
