import Mathlib.Data.ENat.Lattice
import Placement.Loader.Loops
import Placement.Proofs.SteadyImports

/-!
Calls of a loader that are awaited one after another. A call that fails leaves nothing that a later one
would wait for, whatever loops they are made on; from the first surface on every call returns it, and there
are no more imports.
-/

namespace Placement

/-- A load error that is accepted by its own checks, with its module and its reason. -/
structure LoadError.Tells (error : LoadError) (moduleName reason : String) : Prop where
  accepted : build? moduleName reason = .ok error
  module_eq : error.moduleName = moduleName
  reason_eq : error.reason = reason

theorem LoadError.exists_tells {moduleName reason : String} (named : moduleName ≠ "")
    (told : reason ≠ "") : ∃ error : LoadError, error.Tells moduleName reason := by
  refine ⟨⟨moduleName, reason, named, told⟩, ?_, rfl, rfl⟩
  rw [build?, dif_neg named, dif_neg told]

namespace ImportOutcome

def isSurface : ImportOutcome → Bool
  | surface _ => true
  | _ => false

inductive Ends (moduleName : String) :
    ImportOutcome → Except Failure Surface → List LogEntry → Prop
  | surface (surface : Surface) :
      Ends moduleName (.surface surface) (.ok surface) [.loaded moduleName]
  | noSurface {error : LoadError} :
      error.Tells moduleName "COMPILER_API missing or not a CompilerApi" →
      Ends moduleName .noSurface (.error (.load error)) [.noSurface moduleName]
  | importError {raised : ImportError} {error : LoadError} :
      error.Tells moduleName (if raised.text = "" then raised.className else raised.text) →
      Ends moduleName (.importError raised) (.error (.load error))
        [.importFailed moduleName raised.text]
  | crash (raised : ImportCrash) : Ends moduleName (.crash raised) (.error (.crash raised)) []

/-- The number of the first outcome that is a surface, counted from one, or infinity. -/
noncomputable def firstSurface (importer : Nat → ImportOutcome) : ℕ∞ :=
  open Classical in
  if offered : ∃ number, (importer number).isSurface = true then (Nat.find offered + 1 : ℕ) else ⊤

variable {moduleName : String} {outcome : ImportOutcome} {importer : Nat → ImportOutcome}
  {count number : Nat}

theorem firstSurface_le_iff :
    firstSurface importer ≤ count ↔ ∃ number < count, (importer number).isSurface = true := by
  rw [firstSurface]
  split
  next offered => rw [Nat.cast_le, Nat.succ_le_iff, Nat.find_lt_iff]
  next missing =>
    refine iff_of_false (by simp) ?_
    rintro ⟨number, _, isSurface⟩
    exact missing ⟨number, isSurface⟩

theorem lt_firstSurface_iff :
    count < firstSurface importer ↔ ∀ number < count, (importer number).isSurface = false := by
  rw [← not_le, firstSurface_le_iff]
  simp

theorem firstSurface_eq_succ {surface : Surface} (offers : importer number = .surface surface)
    (earlier : ∀ other < number, (importer other).isSurface = false) :
    firstSurface importer = (number + 1 : ℕ) := by
  apply le_antisymm
  · exact firstSurface_le_iff.2 ⟨number, Nat.lt_succ_self number, by rw [offers]; rfl⟩
  · exact Order.add_one_le_of_lt (lt_firstSurface_iff.2 earlier)

theorem exists_surface_of_firstSurface (firstEq : firstSurface importer = (number + 1 : ℕ)) :
    ∃ surface, importer number = .surface surface := by
  obtain ⟨other, within, isSurface⟩ := firstSurface_le_iff.1 (le_of_eq firstEq)
  have earlier : number < firstSurface importer := by
    rw [firstEq, Nat.cast_lt]
    exact Nat.lt_succ_self number
  have latest : other = number := by
    by_contra different
    have unoffered := lt_firstSurface_iff.1 earlier other (by omega)
    rw [unoffered] at isSurface
    cases isSurface
  subst latest
  cases outcomeEq : importer other with
  | surface surface => exact ⟨surface, rfl⟩
  | _ =>
      rw [outcomeEq] at isSurface
      cases isSurface

theorem ends_settle (named : moduleName ≠ "") (outcome : ImportOutcome) :
    Ends moduleName outcome (Loader.settle moduleName outcome)
      (Loader.finishLog moduleName outcome) := by
  have failureEq : ∀ {reason : String} {error : LoadError}, error.Tells moduleName reason →
      Loader.loadFailure moduleName reason = .load error := by
    intro reason error tells
    rw [Loader.loadFailure, tells.accepted]
  cases outcome with
  | surface surface => exact .surface surface
  | noSurface =>
      have told : Loader.noSurfaceReason ≠ "" := by decide
      obtain ⟨error, tells⟩ := LoadError.exists_tells named told
      rw [Loader.settle, failureEq tells]
      exact .noSurface tells
  | importError raised =>
      have told : (if raised.text = "" then raised.className else raised.text) ≠ "" := by
        split
        next => exact raised.class_ne_empty
        next given => exact given
      obtain ⟨error, tells⟩ := LoadError.exists_tells named told
      rw [Loader.settle, failureEq tells]
      exact .importError tells
  | crash raised => exact .crash raised

theorem settle_of_not_surface (moduleName : String) (unoffered : outcome.isSurface = false) :
    ∃ failure, Loader.settle moduleName outcome = .error failure := by
  cases outcome with
  | surface surface => cases unoffered
  | noSurface => exact ⟨_, rfl⟩
  | importError raised => exact ⟨_, rfl⟩
  | crash raised => exact ⟨_, rfl⟩

end ImportOutcome

theorem Loader.exists_build {moduleName : String} (named : moduleName ≠ "") :
    ∃ loader, build? moduleName = .ok loader := by
  rw [build?, dif_neg named]
  exact ⟨_, rfl⟩

namespace Session

variable {session : Session} {importer : Nat → ImportOutcome} {moduleName : String} {count : Nat}

def IsIdle (session : Session) : Prop :=
  ∀ number, session.loader.isRunning number = false

theorem IsIdle.release (idle : session.IsIdle) (importer : Nat → ImportOutcome) :
    session.release importer = session := by
  rw [Session.release]
  split
  next => rfl
  next number _ => exact apply_eq_of_not_allows session _ (idle number)

theorem load_of_memo (idle : session.IsIdle) {surface : Surface}
    (kept : session.loader.memo = some surface) (importer : Nat → ImportOutcome) :
    session.load importer =
      { session with callers := session.callers.push (.returned (.ok surface)) } := by
  have entered : session.apply .enter =
      { session with callers := session.callers.push (.returned (.ok surface)) } := by
    simp only [apply, entries, Loader.enter, Loader.entry, kept, CallerState.ofEntry,
      Array.appendList_nil]
  have idleAfter : (session.apply .enter).IsIdle := by
    rw [entered]
    exact idle
  rw [load, idleAfter.release, entered]
  apply apply_eq_of_not_allows
  simp [allows, result?, awaited?, CallerState.awaited?]

theorem load_of_unloaded (idle : session.IsIdle) (unloaded : session.loader.memo = none)
    (importer : Nat → ImportOutcome) :
    let number := session.loader.imports.size
    let result := Loader.settle session.loader.moduleName (importer number)
    session.load importer =
      { loader :=
          { session.loader with
            imports := session.loader.imports.push (.finished result)
            memo := result.toOption
            pending := some number }
        callers := session.callers.push (.returned result)
        log := session.log ++ (LogEntry.loading session.loader.moduleName ::
          Loader.finishLog session.loader.moduleName (importer number)) } := by
  intro number result
  have unjoined : session.loader.pending.filter session.loader.isRunning = none := by
    rw [Option.filter_eq_none_iff]
    intro number _
    simp [idle number]
  have entryEq : session.loader.entry = .started number := by
    simp only [Loader.entry, unloaded, unjoined, number]
  let started : Loader :=
    { session.loader with
      imports := session.loader.imports.push .running
      pending := some number }
  have entered : session.apply .enter =
      ⟨started, session.callers.push (.waiting number),
        session.log ++ [LogEntry.loading session.loader.moduleName]⟩ := by
    simp only [apply, entries, Loader.enter, entryEq, CallerState.ofEntry, started]
  have running : started.isRunning number = true :=
    Loader.isRunning_iff.2 Array.getElem?_push_size
  have released : (session.apply .enter).release importer =
      ⟨started.finish number (importer number), session.callers.push (.waiting number),
        session.log ++ (LogEntry.loading session.loader.moduleName ::
          Loader.finishLog session.loader.moduleName (importer number))⟩ := by
    rw [release, entered]
    simp only [started, apply, entries]
    rw [if_pos running]
    simp
  have waits : ((session.apply .enter).release importer).callers[session.callers.size]? =
      some (.waiting number) := by
    rw [released]
    exact Array.getElem?_push_size
  have ended : ((session.apply .enter).release importer).loader.result? number = some result := by
    rw [released, Loader.result?_finish running, if_pos rfl]
  rw [load, apply_resume (result?_eq_some_iff.2 ⟨number, waits, ended⟩), released]
  simp [settleCaller, Loader.finish, started, number, result, unloaded, Array.setIfInBounds,
    Array.set_push]

inductive Stage (importer : Nat → ImportOutcome) (count : Nat) (loader : Loader) : Prop
  | failing : loader.memo = none → loader.imports.size = count →
      (∀ number < count, (importer number).isSurface = false) → Stage importer count loader
  | served (last : Nat) (surface : Surface) : last < count → loader.memo = some surface →
      loader.imports.size = last + 1 → importer last = .surface surface →
      (∀ number < last, (importer number).isSurface = false) → Stage importer count loader

/-- What calls leave behind that were awaited one after another. A call that started no import gets what
the latest one gave. -/
structure InTurn (moduleName : String) (importer : Nat → ImportOutcome) (count : Nat)
    (session : Session) : Prop where
  module_eq : session.loader.moduleName = moduleName
  idle : session.IsIdle
  stage : Stage importer count session.loader
  callers_size : session.callers.size = count
  returned : ∀ call < count, session.callers[call]? = some (.returned
    (Loader.settle moduleName (importer (min call (session.loader.imports.size - 1)))))
  log_eq : session.log.toList = (List.range session.loader.imports.size).flatMap fun number =>
    .loading moduleName :: Loader.finishLog moduleName (importer number)

theorem InTurn.start {loader : Loader} (built : Loader.build? moduleName = .ok loader)
    (importer : Nat → ImportOutcome) : (start loader).InTurn moduleName importer 0 := by
  rw [Loader.build?] at built
  split at built
  next => cases built
  next =>
      cases built
      refine ⟨rfl, ?_, .failing rfl rfl (by simp), rfl, by simp, rfl⟩
      simp [IsIdle, Session.start, Loader.isRunning]

theorem isIdle_push {loader : Loader} (idle : ∀ number, loader.isRunning number = false)
    (result : Except Failure Surface) (number : Nat) :
    { loader with imports := loader.imports.push (.finished result) }.isRunning number = false := by
  simp only [Bool.eq_false_iff, ne_eq, Loader.isRunning_iff] at idle ⊢
  rw [Array.getElem?_push]
  split
  next => simp
  next => exact idle number

theorem InTurn.load_of_failing (inTurn : session.InTurn moduleName importer count)
    (unloaded : session.loader.memo = none) (sizeEq : session.loader.imports.size = count)
    (failing : ∀ number < count, (importer number).isSurface = false) :
    (session.load importer).InTurn moduleName importer (count + 1) := by
  have loaded := load_of_unloaded inTurn.idle unloaded importer
  simp only [inTurn.module_eq, sizeEq] at loaded
  rw [loaded]
  refine ⟨rfl, isIdle_push inTurn.idle _, ?_, ?_, ?_, ?_⟩
  · cases outcomeEq : importer count with
    | surface surface =>
        exact .served count surface (Nat.lt_succ_self count) rfl (by simp [sizeEq]) outcomeEq failing
    | _ =>
        refine .failing rfl (by simp [sizeEq]) fun number before => ?_
        rcases Nat.lt_succ_iff_lt_or_eq.1 before with earlier | rfl
        · exact failing number earlier
        · rw [outcomeEq]
          rfl
  · rw [Array.size_push, inTurn.callers_size]
  · intro call before
    rw [Array.size_push, sizeEq, Nat.add_sub_cancel, Nat.min_eq_left (Nat.le_of_lt_succ before)]
    rcases Nat.lt_succ_iff_lt_or_eq.1 before with earlier | rfl
    · have same : min call (count - 1) = call := Nat.min_eq_left (by omega)
      have returned := inTurn.returned call earlier
      rw [sizeEq, same] at returned
      rw [Array.getElem?_push, if_neg (by rw [inTurn.callers_size]; omega), returned]
    · rw [Array.getElem?_push, if_pos inTurn.callers_size.symm]
  · simp [List.range_succ, sizeEq, inTurn.log_eq]

theorem InTurn.load_of_served (inTurn : session.InTurn moduleName importer count) {last : Nat}
    {surface : Surface} (before : last < count) (kept : session.loader.memo = some surface)
    (sizeEq : session.loader.imports.size = last + 1) (offers : importer last = .surface surface)
    (failing : ∀ number < last, (importer number).isSurface = false) :
    (session.load importer).InTurn moduleName importer (count + 1) := by
  rw [load_of_memo inTurn.idle kept importer]
  refine ⟨inTurn.module_eq, inTurn.idle, .served last surface (by omega) kept sizeEq offers failing,
    ?_, ?_, inTurn.log_eq⟩
  · rw [Array.size_push, inTurn.callers_size]
  · intro call within
    rcases Nat.lt_succ_iff_lt_or_eq.1 within with earlier | rfl
    · rw [Array.getElem?_push, if_neg (by rw [inTurn.callers_size]; omega)]
      exact inTurn.returned call earlier
    · have latest : min call (last + 1 - 1) = last := Nat.min_eq_right (by omega)
      rw [Array.getElem?_push, if_pos inTurn.callers_size.symm, sizeEq, latest, offers]
      rfl

theorem InTurn.load (inTurn : session.InTurn moduleName importer count) :
    (session.load importer).InTurn moduleName importer (count + 1) := by
  cases inTurn.stage with
  | failing unloaded sizeEq failing => exact inTurn.load_of_failing unloaded sizeEq failing
  | served last surface before kept sizeEq offers failing =>
      exact inTurn.load_of_served before kept sizeEq offers failing

end Session

theorem LoopedSession.load_session {looped : LoopedSession} (idle : looped.session.IsIdle)
    (importer : Nat → ImportOutcome) (loop : Nat) :
    (looped.load importer loop).session = looped.session.load importer := by
  have here : looped.isElsewhere loop = false := by
    rw [isElsewhere, Bool.eq_false_iff, ne_eq, Option.any_eq_true]
    rintro ⟨number, _, elsewhere⟩
    rw [idle number, Bool.false_and] at elsewhere
    cases elsewhere
  rw [load, seenFrom, here]
  rfl

theorem LoopedSession.sequential_session {looped : LoopedSession} {moduleName : String}
    {importer : Nat → ImportOutcome} (inTurn : looped.session.InTurn moduleName importer 0)
    (loops : List Nat) :
    (looped.sequential importer loops).session =
        looped.session.sequential importer loops.length ∧
      (looped.sequential importer loops).session.InTurn moduleName importer loops.length := by
  induction loops using List.reverseRecOn with
  | nil => exact ⟨rfl, inTurn⟩
  | append_singleton loops loop ih =>
      obtain ⟨sessionEq, before⟩ := ih
      have loaded := LoopedSession.load_session before.idle importer loop
      rw [sequential, List.foldl_append, List.foldl_cons, List.foldl_nil, ← sequential, loaded,
        List.length_append, List.length_singleton]
      refine ⟨?_, before.load⟩
      rw [sessionEq, Session.sequential, Session.sequential, List.range_succ, List.foldl_append,
        List.foldl_cons, List.foldl_nil]

namespace Session

/-- What calls of a loader give that are awaited one after another, as told by the outcomes of the imports:
those before the first surface fail, each by the import of its own number, and all others get that surface;
imports are started up to the first surface only, and each is logged with its end. -/
structure Retries (moduleName : String) (importer : Nat → ImportOutcome) (count : Nat)
    (session : Session) : Prop where
  callers_size : session.callers.size = count
  failed : ∀ call < count, (call + 1 : ℕ) < ImportOutcome.firstSurface importer →
    ∃ failure records, (importer call).Ends moduleName (.error failure) records ∧
      session.callers[call]? = some (.returned (.error failure))
  served : ∀ call < count, ∀ first : ℕ, ImportOutcome.firstSurface importer = (first + 1 : ℕ) →
    first ≤ call → ∃ surface, importer first = .surface surface ∧
      session.callers[call]? = some (.returned (.ok surface))
  imports_size : (session.loader.imports.size : ℕ∞) = min (count : ℕ∞)
    (ImportOutcome.firstSurface importer)
  isLoaded_iff : session.loader.isLoaded = true ↔ ImportOutcome.firstSurface importer ≤ count
  log_eq : ∃ records : Nat → List LogEntry,
    (∀ number, ∃ result, (importer number).Ends moduleName result (records number)) ∧
      session.log.toList = (List.range session.loader.imports.size).flatMap fun number =>
        .loading moduleName :: records number

variable {importer : Nat → ImportOutcome} {moduleName : String} {count : Nat} {session : Session}

theorem Stage.imports_size {loader : Loader} (stage : Stage importer count loader) :
    (loader.imports.size : ℕ∞) = min (count : ℕ∞) (ImportOutcome.firstSurface importer) := by
  cases stage with
  | failing unloaded sizeEq failing =>
      have unreached := ImportOutcome.lt_firstSurface_iff.2 failing
      rw [sizeEq, min_eq_left unreached.le]
  | served last surface before kept sizeEq offers failing =>
      have reached : ((last + 1 : ℕ) : ℕ∞) ≤ count := Nat.cast_le.2 before
      rw [sizeEq, ImportOutcome.firstSurface_eq_succ offers failing, min_eq_right reached]

theorem Stage.isLoaded_iff {loader : Loader} (stage : Stage importer count loader) :
    loader.isLoaded = true ↔ ImportOutcome.firstSurface importer ≤ count := by
  cases stage with
  | failing unloaded sizeEq failing =>
      have unreached := ImportOutcome.lt_firstSurface_iff.2 failing
      rw [Loader.isLoaded, unloaded]
      exact iff_of_false (by simp) (not_le.2 unreached)
  | served last surface before kept sizeEq offers failing =>
      rw [Loader.isLoaded, kept, ImportOutcome.firstSurface_eq_succ offers failing]
      exact iff_of_true rfl (Nat.cast_le.2 before)

theorem Stage.import_of_failed {loader : Loader} (stage : Stage importer count loader) {call : Nat}
    (before : call < count) (unreached : (call + 1 : ℕ) < ImportOutcome.firstSurface importer) :
    min call (loader.imports.size - 1) = call := by
  have counted := stage.imports_size
  have reached : ((call + 1 : ℕ) : ℕ∞) ≤ loader.imports.size := by
    rw [counted, le_min_iff]
    exact ⟨Nat.cast_le.2 before, unreached.le⟩
  rw [Nat.cast_le] at reached
  omega

theorem Stage.import_of_served {loader : Loader} (stage : Stage importer count loader)
    {call first : Nat} (before : call < count)
    (firstEq : ImportOutcome.firstSurface importer = (first + 1 : ℕ)) (reached : first ≤ call) :
    min call (loader.imports.size - 1) = first := by
  have counted := stage.imports_size
  rw [firstEq, min_eq_right (Nat.cast_le.2 (by omega)), Nat.cast_inj] at counted
  omega

theorem InTurn.retries (inTurn : session.InTurn moduleName importer count)
    (named : moduleName ≠ "") : session.Retries moduleName importer count where
  callers_size := inTurn.callers_size
  failed call before unreached := by
    have unoffered := ImportOutcome.lt_firstSurface_iff.1 unreached call (Nat.lt_succ_self call)
    obtain ⟨failure, settled⟩ := ImportOutcome.settle_of_not_surface moduleName unoffered
    have ends := ImportOutcome.ends_settle named (importer call)
    have returned := inTurn.returned call before
    rw [inTurn.stage.import_of_failed before unreached] at returned
    rw [settled] at ends returned
    exact ⟨failure, _, ends, returned⟩
  served call before first firstEq reached := by
    obtain ⟨surface, offers⟩ := ImportOutcome.exists_surface_of_firstSurface firstEq
    have returned := inTurn.returned call before
    rw [inTurn.stage.import_of_served before firstEq reached, offers] at returned
    exact ⟨surface, offers, returned⟩
  imports_size := inTurn.stage.imports_size
  isLoaded_iff := inTurn.stage.isLoaded_iff
  log_eq := ⟨fun number => Loader.finishLog moduleName (importer number),
    fun number => ⟨_, ImportOutcome.ends_settle named (importer number)⟩, inTurn.log_eq⟩

/-- A loader forgets failures and keeps the first surface, for any number of calls that are awaited one
after another, on one event loop or on loops of their own. -/
theorem failures_are_retried_and_surfaces_kept (moduleName : String) (named : moduleName ≠ "")
    (importer : Nat → ImportOutcome) :
    ∃ loader, Loader.build? moduleName = .ok loader ∧ ∀ loops : List Nat,
      let session := ((LoopedSession.start loader).sequential importer loops).session
      session = (Session.start loader).sequential importer loops.length ∧
        session.Retries moduleName importer loops.length := by
  obtain ⟨loader, built⟩ := Loader.exists_build named
  refine ⟨loader, built, fun loops => ?_⟩
  have unused : (LoopedSession.start loader).session.InTurn moduleName importer 0 :=
    .start built importer
  obtain ⟨sessionEq, inTurn⟩ := LoopedSession.sequential_session unused loops
  exact ⟨sessionEq, inTurn.retries named⟩

def flaky : Nat → ImportOutcome
  | 0 => .importError ⟨"ImportError", "", by decide⟩
  | 1 => .crash ⟨"RuntimeError", "interrupted"⟩
  | 2 => .noSurface
  | _ => .surface .typeScript

theorem flaky_retried_on_three_loops :
    "surfaces.typescript" ≠ "" ∧ ImportOutcome.firstSurface flaky = (4 : ℕ) ∧
      ∃ loader, Loader.build? "surfaces.typescript" = .ok loader ∧
        let session := ((LoopedSession.start loader).sequential flaky [0, 0, 1, 2, 2]).session
        session.loader.imports.size = 4 ∧
          session.callers[1]? = some (.returned (.error (.crash ⟨"RuntimeError", "interrupted"⟩))) ∧
          session.callers[4]? = some (.returned (.ok .typeScript)) := by
  have named : "surfaces.typescript" ≠ "" := by decide
  have offered : flaky 3 = .surface .typeScript := rfl
  have firstEq : ImportOutcome.firstSurface flaky = (4 : ℕ) :=
    ImportOutcome.firstSurface_eq_succ offered (by decide)
  obtain ⟨loader, built, retried⟩ := failures_are_retried_and_surfaces_kept _ named flaky
  obtain ⟨_, retries⟩ := retried [0, 0, 1, 2, 2]
  refine ⟨named, firstEq, loader, built, ?_, ?_, ?_⟩
  · have counted := retries.imports_size
    rw [firstEq] at counted
    exact Nat.cast_inj.1 (counted.trans (min_eq_right (by decide)))
  · obtain ⟨failure, records, ends, returned⟩ := retries.failed 1 (by decide)
      (by rw [firstEq]; decide)
    cases ends
    exact returned
  · obtain ⟨surface, offers, returned⟩ := retries.served 4 (by decide) 3 firstEq (by decide)
    cases offers
    exact returned

end Session

end Placement
