import Placement.Loader.Session

/-!
Single flight and write-once of a loader. Whatever the order in which callers enter, resume and are
cancelled and imports end, all imports but the latest have failed, and the latest is unfinished only while
nothing is kept.
-/

namespace Placement

namespace ImportState

def isFailed : ImportState → Bool
  | finished (.error _) => true
  | _ => false

theorem eq_running_of_isRunning (state : ImportState) (running : state.isRunning = true) :
    state = .running := by
  cases state with
  | running => rfl
  | finished result => cases running

theorem running_not_mem {failed : Array ImportState}
    (failures : ∀ state ∈ failed, state.isFailed = true) : .running ∉ failed := by
  intro member
  cases failures .running member

end ImportState

namespace Loader

def failedCount (loader : Loader) : Nat :=
  loader.imports.countP ImportState.isFailed

def isImporting (loader : Loader) : Bool :=
  loader.imports.any ImportState.isRunning

/-- What holds of a loader between two events: nothing is kept and every import has failed, or callers
join the unfinished import after the failed ones, or that import gave the surface that is kept. -/
inductive Phase (loader : Loader) : Prop
  | idle : loader.memo = none → (∀ state ∈ loader.imports, state.isFailed = true) → Phase loader
  | importing (failed : Array ImportState) : loader.memo = none →
      (∀ state ∈ failed, state.isFailed = true) → loader.imports = failed.push .running →
      loader.pending = some failed.size → Phase loader
  | loaded (failed : Array ImportState) (surface : Surface) : loader.memo = some surface →
      (∀ state ∈ failed, state.isFailed = true) →
      loader.imports = failed.push (.finished (.ok surface)) → Phase loader

variable {loader : Loader} {failed : Array ImportState} {number : Nat}

theorem isRunning_iff :
    loader.isRunning number = true ↔ loader.imports[number]? = some .running := by
  rw [isRunning, Option.any_eq_true]
  constructor
  · rintro ⟨state, found, running⟩
    rw [found, state.eq_running_of_isRunning running]
  · intro found
    exact ⟨.running, found, rfl⟩

theorem isImporting_iff : loader.isImporting = true ↔ ∃ number, loader.isRunning number = true := by
  simp only [isRunning_iff, ← Array.mem_iff_getElem?]
  rw [isImporting, Array.any_eq_true']
  constructor
  · rintro ⟨state, member, running⟩
    rwa [state.eq_running_of_isRunning running] at member
  · intro member
    exact ⟨.running, member, rfl⟩

theorem isRunning_eq_false_of_failures (failures : ∀ state ∈ loader.imports, state.isFailed = true)
    (number : Nat) : loader.isRunning number = false := by
  rw [Bool.eq_false_iff]
  intro running
  exact ImportState.running_not_mem failures (Array.mem_of_getElem? (isRunning_iff.1 running))

theorem isImporting_eq_false_of_failures
    (failures : ∀ state ∈ loader.imports, state.isFailed = true) : loader.isImporting = false := by
  rw [Bool.eq_false_iff, ne_eq, isImporting_iff]
  rintro ⟨number, running⟩
  rw [isRunning_eq_false_of_failures failures number] at running
  cases running

theorem eq_latest_of_isRunning {state : ImportState}
    (failures : ∀ state ∈ failed, state.isFailed = true)
    (importsEq : loader.imports = failed.push state) (running : loader.isRunning number = true) :
    number = failed.size ∧ state = .running := by
  rw [isRunning_iff, importsEq, Array.getElem?_push] at running
  by_cases latest : number = failed.size
  · rw [if_pos latest, Option.some.injEq] at running
    exact ⟨latest, running⟩
  · rw [if_neg latest] at running
    exact absurd (Array.mem_of_getElem? running) (ImportState.running_not_mem failures)

theorem forall_failed_push {failure : Failure}
    (failures : ∀ state ∈ failed, state.isFailed = true) :
    ∀ state ∈ failed.push (.finished (.error failure)), state.isFailed = true := by
  intro state member
  rcases Array.mem_push.1 member with earlier | rfl
  · exact failures state earlier
  · rfl

namespace Phase

theorem initial {moduleName : String} (built : build? moduleName = .ok loader) :
    loader.Phase := by
  rw [build?] at built
  split at built
  next => cases built
  next =>
      cases built
      exact .idle rfl (by simp)

theorem enter_cases (phase : loader.Phase) :
    loader.enter = loader ∨
      (loader.memo = none ∧ (∀ state ∈ loader.imports, state.isFailed = true) ∧
        loader.enter =
          { loader with
            imports := loader.imports.push .running
            pending := some loader.imports.size }) := by
  cases phase with
  | idle unloaded failures =>
      right
      have unjoined : loader.pending.filter loader.isRunning = none := by
        rw [Option.filter_eq_none_iff]
        intro number _
        simp [isRunning_eq_false_of_failures failures number]
      refine ⟨unloaded, failures, ?_⟩
      simp only [enter, entry, unloaded, unjoined]
  | importing failed unloaded failures importsEq pendingEq =>
      left
      have joined : loader.pending.filter loader.isRunning = some failed.size := by
        rw [pendingEq, Option.filter_some, if_pos]
        rw [isRunning_iff, importsEq, Array.getElem?_push_size]
      simp only [enter, entry, unloaded, joined]
  | loaded failed surface kept failures importsEq =>
      left
      simp only [enter, entry, kept]

theorem enter (phase : loader.Phase) : loader.enter.Phase := by
  rcases phase.enter_cases with unchanged | ⟨unloaded, failures, started⟩
  · rw [unchanged]
    exact phase
  · rw [started]
    exact .importing loader.imports unloaded failures rfl rfl

theorem finish (phase : loader.Phase) (running : loader.isRunning number = true)
    (outcome : ImportOutcome) : (loader.finish number outcome).Phase := by
  cases phase with
  | idle unloaded failures =>
      rw [isRunning_eq_false_of_failures failures number] at running
      cases running
  | importing failed unloaded failures importsEq pendingEq =>
      obtain ⟨rfl, _⟩ := eq_latest_of_isRunning failures importsEq running
      have endedEq : ∀ result, (failed.push ImportState.running).setIfInBounds failed.size
          (.finished result) = failed.push (.finished result) := by
        intro result
        simp [Array.setIfInBounds, Array.set_push]
      cases settled : settle loader.moduleName outcome with
      | ok surface =>
          refine .loaded failed surface ?_ failures ?_
          · simp [Loader.finish, settled, Except.toOption]
          · simp only [Loader.finish, settled, importsEq, endedEq]
      | error failure =>
          refine .idle ?_ ?_
          · simp [Loader.finish, settled, Except.toOption, unloaded]
          · simp only [Loader.finish, settled, importsEq, endedEq]
            exact forall_failed_push failures
  | loaded failed surface kept failures importsEq =>
      obtain ⟨_, unfinished⟩ := eq_latest_of_isRunning failures importsEq running
      cases unfinished

theorem running_unique (phase : loader.Phase) {first second : Nat}
    (firstRunning : loader.isRunning first = true)
    (secondRunning : loader.isRunning second = true) : first = second := by
  cases phase with
  | idle unloaded failures =>
      rw [isRunning_eq_false_of_failures failures first] at firstRunning
      cases firstRunning
  | importing failed unloaded failures importsEq pendingEq =>
      have firstLatest := (eq_latest_of_isRunning failures importsEq firstRunning).1
      have secondLatest := (eq_latest_of_isRunning failures importsEq secondRunning).1
      omega
  | loaded failed surface kept failures importsEq =>
      cases (eq_latest_of_isRunning failures importsEq firstRunning).2

theorem not_isRunning_of_memo (phase : loader.Phase) {surface : Surface}
    (kept : loader.memo = some surface) (number : Nat) : loader.isRunning number = false := by
  rw [Bool.eq_false_iff]
  intro running
  cases phase with
  | idle unloaded failures =>
      rw [unloaded] at kept
      cases kept
  | importing failed unloaded failures importsEq pendingEq =>
      rw [unloaded] at kept
      cases kept
  | loaded failed surface kept failures importsEq =>
      cases (eq_latest_of_isRunning failures importsEq running).2

theorem size_eq_failedCount_add (phase : loader.Phase) :
    loader.imports.size =
      loader.failedCount + (if loader.isImporting || loader.isLoaded then 1 else 0) := by
  cases phase with
  | idle unloaded failures =>
      have counted : loader.failedCount = loader.imports.size := Array.countP_eq_size.2 failures
      simp [counted, isImporting_eq_false_of_failures failures, isLoaded, unloaded]
  | importing failed unloaded failures importsEq pendingEq =>
      have counted : failed.countP ImportState.isFailed = failed.size :=
        Array.countP_eq_size.2 failures
      have running : loader.isImporting = true := by
        rw [isImporting_iff]
        exact ⟨failed.size, by rw [isRunning_iff, importsEq, Array.getElem?_push_size]⟩
      rw [running, Bool.true_or, if_pos rfl, failedCount, importsEq, Array.size_push,
        Array.countP_push_of_neg (by simp [ImportState.isFailed]), counted]
  | loaded failed surface kept failures importsEq =>
      have counted : failed.countP ImportState.isFailed = failed.size :=
        Array.countP_eq_size.2 failures
      rw [isLoaded, kept, Option.isSome_some, Bool.or_true, if_pos rfl, failedCount, importsEq,
        Array.size_push, Array.countP_push_of_neg (by simp [ImportState.isFailed]), counted]

end Phase

theorem isRunning_of_finish (outcome : ImportOutcome) {other : Nat}
    (running : (loader.finish number outcome).isRunning other = true) :
    loader.isRunning other = true := by
  rw [isRunning_iff] at running ⊢
  simp only [finish, Array.getElem?_setIfInBounds] at running
  by_cases ended : number = other
  · rw [if_pos ended] at running
    split at running
    next => cases running
    next => cases running
  · rwa [if_neg ended] at running

end Loader

namespace Session

/-- What a first state leads to by events, each of them possible where it happens. -/
inductive Leads (first : Session) : Session → Prop
  | refl : Leads first first
  | step {before after : Session} (event : Event) : Leads first before →
      before.step? event = some after → Leads first after

theorem Leads.trans {first second third : Session} (earlier : first.Leads second)
    (later : second.Leads third) : first.Leads third := by
  induction later with
  | refl => exact earlier
  | step event _ stepped ih => exact ih.step event stepped

theorem leads_apply (session : Session) (event : Event) : session.Leads (session.apply event) := by
  by_cases allowed : session.allows event = true
  · exact Leads.refl.step event (by rw [step?, if_pos allowed])
  · rw [apply_eq_of_not_allows session event (by simpa using allowed)]
    exact .refl

theorem leads_run (session : Session) (events : List Event) : session.Leads (session.run events) := by
  induction events generalizing session with
  | nil => exact .refl
  | cons event rest ih => exact (session.leads_apply event).trans (ih (session.apply event))

variable {before after first session : Session} {event : Event}

theorem loader_cases_of_step (stepped : before.step? event = some after) :
    (event = .enter ∧ after.loader = before.loader.enter) ∨
      (∃ number outcome, event = .finish number outcome ∧
        before.loader.isRunning number = true ∧
        after.loader = before.loader.finish number outcome) ∨
      after.loader = before.loader := by
  rw [step?] at stepped
  split at stepped
  next allowed =>
      cases stepped
      cases event with
      | enter => exact Or.inl ⟨rfl, rfl⟩
      | finish number outcome =>
          right
          left
          have running : before.loader.isRunning number = true := allowed
          exact ⟨number, outcome, rfl, running, by simp only [apply, running, ↓reduceIte]⟩
      | resume caller =>
          right
          right
          rw [apply]
          split <;> rfl
      | cancel caller =>
          right
          right
          rw [apply]
          split <;> rfl
  next => cases stepped

theorem phase_of_step (phase : before.loader.Phase) (stepped : before.step? event = some after) :
    after.loader.Phase := by
  rcases loader_cases_of_step stepped with ⟨_, entered⟩ | ⟨number, outcome, _, running, ended⟩ | kept
  · rw [entered]
    exact phase.enter
  · rw [ended]
    exact phase.finish running outcome
  · rw [kept]
    exact phase

theorem phase_of_leads (phase : first.loader.Phase) (leads : first.Leads session) :
    session.loader.Phase := by
  induction leads with
  | refl => exact phase
  | step event _ stepped ih => exact phase_of_step ih stepped

theorem imports_of_step (phase : before.loader.Phase) (stepped : before.step? event = some after) :
    (after.loader.imports.size = before.loader.imports.size ∧
      ∀ number, after.loader.isRunning number = true → before.loader.isRunning number = true) ∨
    (event = .enter ∧ before.loader.memo = none ∧ before.loader.isImporting = false ∧
      after.loader.imports = before.loader.imports.push .running) := by
  rcases loader_cases_of_step stepped with ⟨isEntry, entered⟩ | ⟨number, outcome, _, _, ended⟩ | kept
  · rcases phase.enter_cases with unchanged | ⟨unloaded, failures, started⟩
    · left
      rw [entered, unchanged]
      exact ⟨rfl, fun _ => id⟩
    · right
      rw [entered, started]
      exact ⟨isEntry, unloaded, Loader.isImporting_eq_false_of_failures failures, rfl⟩
  · left
    rw [ended]
    exact ⟨Array.size_setIfInBounds, fun _ => Loader.isRunning_of_finish outcome⟩
  · left
    rw [kept]
    exact ⟨rfl, fun _ => id⟩

theorem loader_eq_of_step (phase : before.loader.Phase) {surface : Surface}
    (kept : before.loader.memo = some surface) (stepped : before.step? event = some after) :
    after.loader = before.loader := by
  rcases loader_cases_of_step stepped with ⟨_, entered⟩ | ⟨number, _, _, running, _⟩ | unchanged
  · rw [entered]
    simp only [Loader.enter, Loader.entry, kept]
  · rw [phase.not_isRunning_of_memo kept number] at running
    cases running
  · exact unchanged

theorem loader_eq_of_leads (phase : first.loader.Phase) {surface : Surface}
    (kept : first.loader.memo = some surface) (leads : first.Leads session) :
    session.loader = first.loader := by
  induction leads with
  | refl => rfl
  | step event _ stepped ih =>
      rw [← ih] at phase kept
      exact (loader_eq_of_step phase kept stepped).trans ih

/-- In every state of a loader's callers: at most one import is unfinished; an import is started only by
an entry that finds neither a surface nor an unfinished import; a surface that is kept stays and no
further import is started; and all imports have failed but the one that is unfinished or gave the
surface. -/
theorem single_flight_write_once (moduleName : String) (loader : Loader)
    (built : Loader.build? moduleName = .ok loader) (session : Session)
    (reached : (start loader).Leads session) :
    (∀ first second, session.loader.isRunning first = true →
      session.loader.isRunning second = true → first = second) ∧
    (∀ event after, session.step? event = some after →
      (after.loader.imports.size = session.loader.imports.size ∧
        ∀ number, after.loader.isRunning number = true → session.loader.isRunning number = true) ∨
      (event = .enter ∧ session.loader.memo = none ∧ session.loader.isImporting = false ∧
        after.loader.imports = session.loader.imports.push .running)) ∧
    (∀ surface, session.loader.memo = some surface → ∀ later, session.Leads later →
      later.loader.memo = some surface ∧ later.loader.imports = session.loader.imports) ∧
    session.loader.imports.size =
      session.loader.failedCount +
        (if session.loader.isImporting || session.loader.isLoaded then 1 else 0) := by
  have phase : session.loader.Phase := phase_of_leads (Loader.Phase.initial built) reached
  refine ⟨?_, ?_, ?_, phase.size_eq_failedCount_add⟩
  · intro first second firstRunning secondRunning
    exact phase.running_unique firstRunning secondRunning
  · intro event after stepped
    exact imports_of_step phase stepped
  · intro surface kept later leads
    rw [loader_eq_of_leads phase kept leads]
    exact ⟨kept, rfl⟩

def retried : Session :=
  (start ⟨"surfaces.typescript", by decide, none, #[], none⟩).run
    [.enter, .enter, .cancel 0, .finish 0 .noSurface, .enter, .resume 1,
      .finish 1 (.surface .typeScript), .enter, .resume 2]

theorem single_flight_retried :
    retried.loader.failedCount = 1 ∧ retried.loader.imports.size = 2 ∧
      (∀ later, retried.Leads later →
        later.loader.memo = some .typeScript ∧ later.loader.imports = retried.loader.imports) ∧
      retried.loader.imports.size = retried.loader.failedCount +
        (if retried.loader.isImporting || retried.loader.isLoaded then 1 else 0) := by
  have described := single_flight_write_once "surfaces.typescript" _ rfl retried (leads_run _ _)
  exact ⟨rfl, rfl, described.2.2.1 .typeScript rfl, described.2.2.2⟩

end Session

end Placement
