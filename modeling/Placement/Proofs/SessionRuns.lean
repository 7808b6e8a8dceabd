import Placement.Proofs.SingleFlight

/-!
Runs of a loader's callers, one possible event after another. What becomes of a caller follows from the
loader that it found on entering: it gets the surface kept by then, or else what the import gives that it
started or joined, unless it is cancelled first.
-/

namespace Placement

namespace Loader

def joined? (loader : Loader) : Option Nat :=
  match loader.entry with
  | .ready _ => none
  | .joined number | .started number => some number

theorem entry_cases (loader : Loader) :
    (∃ surface, loader.memo = some surface ∧
      CallerState.ofEntry loader.entry = .returned (.ok surface)) ∨
    (loader.memo = none ∧ ∃ number, loader.joined? = some number ∧
      CallerState.ofEntry loader.entry = .waiting number) := by
  cases kept : loader.memo with
  | some surface => exact Or.inl ⟨surface, rfl, by simp only [entry, kept, CallerState.ofEntry]⟩
  | none =>
      refine Or.inr ⟨rfl, ?_⟩
      rw [joined?, entry, kept]
      cases loader.pending.filter loader.isRunning with
      | some number => exact ⟨number, rfl, rfl⟩
      | none => exact ⟨loader.imports.size, rfl, rfl⟩

theorem memo_eq_none_of_joined? {loader : Loader} {number : Nat}
    (joined : loader.joined? = some number) : loader.memo = none := by
  cases kept : loader.memo with
  | none => rfl
  | some surface =>
      rw [joined?, entry, kept] at joined
      cases joined

theorem result?_eq_some_iff {loader : Loader} {number : Nat} {result : Except Failure Surface} :
    loader.result? number = some result ↔ loader.imports[number]? = some (.finished result) := by
  rw [result?, Option.bind_eq_some_iff]
  constructor
  · rintro ⟨state, found, ended⟩
    cases state with
    | running => cases ended
    | finished given =>
        cases ended
        exact found
  · intro found
    exact ⟨_, found, rfl⟩

theorem result?_enter (loader : Loader) (number : Nat) (result : Except Failure Surface) :
    loader.enter.result? number = some result ↔ loader.result? number = some result := by
  rw [enter]
  cases loader.entry with
  | ready surface => rfl
  | joined other => rfl
  | started other =>
      simp only [result?_eq_some_iff, Array.getElem?_push]
      by_cases latest : number = loader.imports.size
      · simp [latest]
      · rw [if_neg latest]

theorem result?_finish {loader : Loader} {number : Nat} (running : loader.isRunning number = true)
    (outcome : ImportOutcome) (other : Nat) :
    (loader.finish number outcome).result? other =
      if number = other then some (settle loader.moduleName outcome) else loader.result? other := by
  obtain ⟨inside, _⟩ := Array.getElem?_eq_some_iff.1 (isRunning_iff.1 running)
  simp only [result?, finish, Array.getElem?_setIfInBounds]
  by_cases same : number = other
  · subst same
    simp [inside, ImportState.result?]
  · simp [same]

end Loader

namespace Session

/-- What an event does in a state in which it can happen. -/
inductive Happens (before : Session) : Event → Session → Prop
  | enter : Happens before .enter
      ⟨before.loader.enter, before.callers.push (.ofEntry before.loader.entry),
        before.log ++ before.entries .enter⟩
  | finish {number : Nat} {outcome : ImportOutcome} : before.loader.isRunning number = true →
      Happens before (.finish number outcome)
        ⟨before.loader.finish number outcome, before.callers,
          before.log ++ before.entries (.finish number outcome)⟩
  | resume {caller number : Nat} {result : Except Failure Surface} :
      before.callers[caller]? = some (.waiting number) →
      before.loader.result? number = some result →
      Happens before (.resume caller) (before.settleCaller caller (.returned result))
  | cancel {caller number : Nat} : before.callers[caller]? = some (.waiting number) →
      Happens before (.cancel caller) (before.settleCaller caller .cancelled)

variable {before after first session : Session} {event : Event} {events : List Event}

theorem awaited?_eq_some_iff {caller number : Nat} :
    session.awaited? caller = some number ↔
      session.callers[caller]? = some (.waiting number) := by
  rw [awaited?, Option.bind_eq_some_iff]
  constructor
  · rintro ⟨state, found, awaits⟩
    cases state with
    | waiting other =>
        cases awaits
        exact found
    | returned result => cases awaits
    | cancelled => cases awaits
  · intro found
    exact ⟨_, found, rfl⟩

theorem result?_eq_some_iff {caller : Nat} {result : Except Failure Surface} :
    session.result? caller = some result ↔
      ∃ number, session.callers[caller]? = some (.waiting number) ∧
        session.loader.result? number = some result := by
  simp only [result?, Option.bind_eq_some_iff, awaited?_eq_some_iff]

theorem step?_eq_some_iff : before.step? event = some after ↔ before.Happens event after := by
  rw [step?, Option.ite_none_right_eq_some, Option.some.injEq]
  constructor
  · rintro ⟨allowed, rfl⟩
    cases event with
    | enter => exact .enter
    | finish number outcome =>
        have running : before.loader.isRunning number = true := allowed
        simp only [apply, running, ↓reduceIte]
        exact .finish running
    | resume caller =>
        obtain ⟨result, ended⟩ := Option.isSome_iff_exists.1 allowed
        obtain ⟨number, waits, settled⟩ := result?_eq_some_iff.1 ended
        simp only [apply, ended]
        exact .resume waits settled
    | cancel caller =>
        obtain ⟨number, awaited⟩ := Option.isSome_iff_exists.1 allowed
        simp only [apply, awaited]
        exact .cancel (awaited?_eq_some_iff.1 awaited)
  · intro happens
    cases happens with
    | enter => exact ⟨rfl, rfl⟩
    | finish running =>
        refine ⟨running, ?_⟩
        simp only [apply, running, ↓reduceIte]
    | resume waits settled =>
        have ended := result?_eq_some_iff.2 ⟨_, waits, settled⟩
        refine ⟨by rw [allows, ended, Option.isSome_some], ?_⟩
        simp only [apply, ended]
    | cancel waits =>
        have awaited := awaited?_eq_some_iff.2 waits
        refine ⟨by rw [allows, awaited, Option.isSome_some], ?_⟩
        simp only [apply, awaited]

theorem getElem?_settleCaller {caller : Nat} {state : CallerState}
    (present : session.callers[caller]? = some state) (settled : CallerState) (other : Nat) :
    (session.settleCaller caller settled).callers[other]? =
      if caller = other then some settled else session.callers[other]? := by
  obtain ⟨inside, _⟩ := Array.getElem?_eq_some_iff.1 present
  rw [settleCaller, Array.getElem?_setIfInBounds]
  by_cases same : caller = other
  · subst same
    rw [if_pos rfl, if_pos rfl, if_pos inside]
  · rw [if_neg same, if_neg same]

inductive Runs (first : Session) : List Event → Session → Prop
  | start : Runs first [] first
  | step {events : List Event} {before after : Session} (event : Event) : Runs first events before →
      before.step? event = some after → Runs first (events ++ [event]) after

theorem Runs.run_eq (runs : first.Runs events session) : first.run events = session := by
  induction runs with
  | start => rfl
  | step event _ stepped ih =>
      rw [run] at ih ⊢
      rw [step?, Option.ite_none_right_eq_some, Option.some.injEq] at stepped
      rw [List.foldl_append, ih, List.foldl_cons, List.foldl_nil, stepped.2]

theorem Runs.deterministic {other : Session} (runs : first.Runs events session)
    (again : first.Runs events other) : session = other :=
  runs.run_eq.symm.trans again.run_eq

def arrival (session : Session) : Event → List Loader
  | .enter => [session.loader]
  | _ => []

/-- The loader as each caller found it, in the order of the callers. -/
def arrivals (session : Session) : List Event → List Loader
  | [] => []
  | event :: rest => session.arrival event ++ arrivals (session.apply event) rest

theorem arrivals_append (session : Session) (events : List Event) (event : Event) :
    session.arrivals (events ++ [event]) =
      session.arrivals events ++ (session.run events).arrival event := by
  induction events generalizing session with
  | nil => simp [arrivals, run]
  | cons earlier rest ih =>
      rw [List.cons_append, arrivals, arrivals, ih, List.append_assoc]
      rfl

theorem Runs.arrivals_append (runs : first.Runs events before) (event : Event) :
    first.arrivals (events ++ [event]) = first.arrivals events ++ before.arrival event := by
  rw [Session.arrivals_append, runs.run_eq]

inductive Explains (moduleName : String) (events : List Event) (caller : Nat) (found : Loader) :
    CallerState → Prop
  | waiting {number : Nat} : .cancel caller ∉ events → found.joined? = some number →
      Explains moduleName events caller found (.waiting number)
  | ready {surface : Surface} : .cancel caller ∉ events → found.memo = some surface →
      Explains moduleName events caller found (.returned (.ok surface))
  | imported {number : Nat} {outcome : ImportOutcome} : .cancel caller ∉ events →
      found.joined? = some number → .finish number outcome ∈ events →
      Explains moduleName events caller found (.returned (Loader.settle moduleName outcome))
  | cancelled {number : Nat} : .cancel caller ∈ events → found.joined? = some number →
      Explains moduleName events caller found .cancelled

theorem Explains.append {moduleName : String} {caller : Nat} {found : Loader} {state : CallerState}
    (explains : Explains moduleName events caller found state) (other : event ≠ .cancel caller) :
    Explains moduleName (events ++ [event]) caller found state := by
  have absent (uncancelled : .cancel caller ∉ events) : .cancel caller ∉ events ++ [event] := by
    rw [List.mem_append, List.mem_singleton]
    rintro (member | same)
    · exact uncancelled member
    · exact other same.symm
  cases explains with
  | waiting uncancelled joined => exact .waiting (absent uncancelled) joined
  | ready uncancelled kept => exact .ready (absent uncancelled) kept
  | imported uncancelled joined ended =>
      exact .imported (absent uncancelled) joined (List.mem_append_left _ ended)
  | cancelled cancels joined => exact .cancelled (List.mem_append_left _ cancels) joined

/-- What a run tells about its imports and callers: ended imports gave what their end says, and every
caller's state is explained by the loader that it found. -/
structure Accounts (moduleName : String) (first : Session) (events : List Event)
    (session : Session) : Prop where
  module_eq : session.loader.moduleName = moduleName
  results : ∀ number result, session.loader.result? number = some result ↔
    ∃ outcome, .finish number outcome ∈ events ∧ result = Loader.settle moduleName outcome
  entered : session.callers.size = (first.arrivals events).length
  cancelled_lt : ∀ caller, .cancel caller ∈ events → caller < session.callers.size
  explained : ∀ (caller : Nat) (state : CallerState), session.callers[caller]? = some state →
    ∃ found, (first.arrivals events)[caller]? = some found ∧
      Explains moduleName events caller found state

theorem Accounts.initial (loader : Loader) (unused : loader.imports = #[]) :
    Accounts loader.moduleName (start loader) [] (start loader) where
  module_eq := rfl
  results number result := by simp [start, Loader.result?_eq_some_iff, unused]
  entered := rfl
  cancelled_lt caller member := by cases member
  explained caller state present := by simp [start] at present

theorem mem_append_settling {caller number : Nat} {outcome : ImportOutcome}
    (settling : event = .resume caller ∨ event = .cancel caller) :
    .finish number outcome ∈ events ++ [event] ↔ .finish number outcome ∈ events := by
  rcases settling with rfl | rfl <;> simp

theorem arrival_settling {caller : Nat}
    (settling : event = .resume caller ∨ event = .cancel caller) : before.arrival event = [] := by
  rcases settling with rfl | rfl <;> rfl

theorem Accounts.settle {moduleName : String} {caller number : Nat} {settled : CallerState}
    (accounts : Accounts moduleName first events before) (runs : first.Runs events before)
    (settling : event = .resume caller ∨ event = .cancel caller)
    (waits : before.callers[caller]? = some (.waiting number))
    (explains : ∀ found, .cancel caller ∉ events → found.joined? = some number →
      Explains moduleName (events ++ [event]) caller found settled) :
    Accounts moduleName first (events ++ [event]) (before.settleCaller caller settled) where
  module_eq := accounts.module_eq
  results ended result := by
    simp only [mem_append_settling settling]
    exact accounts.results ended result
  entered := by
    rw [runs.arrivals_append, arrival_settling settling, List.append_nil, ← accounts.entered,
      settleCaller, Array.size_setIfInBounds]
  cancelled_lt other member := by
    rw [settleCaller, Array.size_setIfInBounds]
    rcases List.mem_append.1 member with earlier | last
    · exact accounts.cancelled_lt other earlier
    · obtain ⟨inside, _⟩ := Array.getElem?_eq_some_iff.1 waits
      rw [List.mem_singleton] at last
      rcases settling with rfl | rfl
      · cases last
      · cases last
        exact inside
  explained other state present := by
    rw [getElem?_settleCaller waits] at present
    rw [runs.arrivals_append, arrival_settling settling, List.append_nil]
    by_cases same : caller = other
    · subst same
      rw [if_pos rfl, Option.some.injEq] at present
      subst present
      obtain ⟨found, arrived, waiting⟩ := accounts.explained caller _ waits
      cases waiting with
      | waiting uncancelled joined => exact ⟨found, arrived, explains found uncancelled joined⟩
    · rw [if_neg same] at present
      obtain ⟨found, arrived, explained⟩ := accounts.explained other state present
      refine ⟨found, arrived, explained.append ?_⟩
      rcases settling with rfl | rfl
      · simp
      · simpa using same

theorem Accounts.enter {moduleName : String} (accounts : Accounts moduleName first events before)
    (runs : first.Runs events before) (log : Array LogEntry) :
    Accounts moduleName first (events ++ [.enter])
      ⟨before.loader.enter, before.callers.push (.ofEntry before.loader.entry), log⟩ where
  module_eq := (before.apply_moduleName .enter).trans accounts.module_eq
  results number result := by
    simp only [Loader.result?_enter, accounts.results, List.mem_append, List.mem_singleton,
      reduceCtorEq, or_false]
  entered := by
    rw [runs.arrivals_append, List.length_append, ← accounts.entered, Array.size_push]
    rfl
  cancelled_lt caller member := by
    have earlier : .cancel caller ∈ events := by simpa using member
    rw [Array.size_push]
    exact Nat.lt_succ_of_lt (accounts.cancelled_lt caller earlier)
  explained caller state present := by
    have uncancelled : .cancel before.callers.size ∉ events := fun member =>
      Nat.lt_irrefl _ (accounts.cancelled_lt _ member)
    rw [runs.arrivals_append]
    rw [Array.getElem?_push] at present
    by_cases latest : caller = before.callers.size
    · rw [if_pos latest, Option.some.injEq] at present
      subst latest present
      refine ⟨before.loader, by simp [accounts.entered, arrival], ?_⟩
      rcases before.loader.entry_cases with ⟨surface, kept, entered⟩ | ⟨_, number, joined, entered⟩
      · rw [entered]
        exact (Explains.ready uncancelled kept).append (by simp)
      · rw [entered]
        exact (Explains.waiting uncancelled joined).append (by simp)
    · rw [if_neg latest] at present
      obtain ⟨found, arrived, explained⟩ := accounts.explained caller state present
      obtain ⟨inside, _⟩ := List.getElem?_eq_some_iff.1 arrived
      exact ⟨found, (List.getElem?_append_left inside).trans arrived, explained.append (by simp)⟩

theorem Accounts.finish {moduleName : String} {number : Nat}
    (accounts : Accounts moduleName first events before) (runs : first.Runs events before)
    (running : before.loader.isRunning number = true) (outcome : ImportOutcome)
    (log : Array LogEntry) :
    Accounts moduleName first (events ++ [.finish number outcome])
      ⟨before.loader.finish number outcome, before.callers, log⟩ where
  module_eq := accounts.module_eq
  results other result := by
    have unended : ∀ result, ¬∃ earlier, .finish number earlier ∈ events ∧
        result = Loader.settle moduleName earlier := by
      intro result
      rw [← accounts.results, Loader.result?_eq_some_iff, Loader.isRunning_iff.1 running]
      simp
    rw [Loader.result?_finish running, accounts.module_eq]
    by_cases same : number = other
    · subst same
      rw [if_pos rfl, Option.some.injEq]
      constructor
      · rintro rfl
        exact ⟨outcome, by simp, rfl⟩
      · rintro ⟨ended, member, rfl⟩
        rcases List.mem_append.1 member with earlier | last
        · exact absurd ⟨ended, earlier, rfl⟩ (unended _)
        · cases List.mem_singleton.1 last
          rfl
    · rw [if_neg same, accounts.results]
      simp [Ne.symm same]
  entered := by
    rw [runs.arrivals_append, List.length_append, ← accounts.entered]
    rfl
  cancelled_lt caller member := accounts.cancelled_lt caller (by simpa using member)
  explained caller state present := by
    obtain ⟨found, arrived, explained⟩ := accounts.explained caller state present
    rw [runs.arrivals_append]
    exact ⟨found, by simpa [arrival] using arrived, explained.append (by simp)⟩

theorem Accounts.step {moduleName : String} (accounts : Accounts moduleName first events before)
    (runs : first.Runs events before) (happens : before.Happens event after) :
    Accounts moduleName first (events ++ [event]) after := by
  cases happens with
  | enter => exact accounts.enter runs _
  | finish running => exact accounts.finish runs running _ _
  | @resume caller number result waits settled =>
      refine accounts.settle runs (Or.inl rfl) waits fun found uncancelled joined => ?_
      obtain ⟨outcome, ended, rfl⟩ := (accounts.results number result).1 settled
      exact (Explains.imported uncancelled joined ended).append (by simp)
  | @cancel caller number waits =>
      exact accounts.settle runs (Or.inr rfl) waits fun found _ joined =>
        .cancelled (List.mem_append_right _ (List.mem_singleton_self _)) joined

theorem Runs.accounts {loader : Loader} (unused : loader.imports = #[])
    (runs : (Session.start loader).Runs events session) :
    Accounts loader.moduleName (Session.start loader) events session := by
  induction runs with
  | start => exact .initial loader unused
  | step event runs stepped ih => exact ih.step runs (step?_eq_some_iff.1 stepped)

theorem Runs.accounts_of_build {moduleName : String} {loader : Loader}
    (built : Loader.build? moduleName = .ok loader)
    (runs : (Session.start loader).Runs events session) :
    Accounts moduleName (Session.start loader) events session := by
  rw [Loader.build?] at built
  split at built
  next => cases built
  next =>
      cases built
      exact runs.accounts rfl

/-- The surface that a caller found when it entered. -/
def Finds (first : Session) (events : List Event) (caller : Nat) (surface : Surface) : Prop :=
  ∃ found, (first.arrivals events)[caller]? = some found ∧ found.memo = some surface

/-- The import that a caller started or joined when it entered. -/
def Joins (first : Session) (events : List Event) (caller number : Nat) : Prop :=
  ∃ found, (first.arrivals events)[caller]? = some found ∧ found.joined? = some number

namespace Accounts

variable {moduleName : String} {caller : Nat}

theorem returned_cases (accounts : Accounts moduleName first events session)
    {result : Except Failure Surface}
    (returned : session.callers[caller]? = some (.returned result)) :
    (∃ surface, first.Finds events caller surface ∧ result = .ok surface) ∨
      ∃ number outcome, first.Joins events caller number ∧ .finish number outcome ∈ events ∧
        result = Loader.settle moduleName outcome := by
  obtain ⟨found, arrived, explained⟩ := accounts.explained caller _ returned
  cases explained with
  | ready _ kept => exact Or.inl ⟨_, ⟨found, arrived, kept⟩, rfl⟩
  | imported _ joined ended => exact Or.inr ⟨_, _, ⟨found, arrived, joined⟩, ended, rfl⟩

theorem result?_of_joins (accounts : Accounts moduleName first events session) {number : Nat}
    {result : Except Failure Surface} (joins : first.Joins events caller number)
    (returned : session.callers[caller]? = some (.returned result)) :
    session.loader.result? number = some result := by
  obtain ⟨found, arrived, joined⟩ := joins
  obtain ⟨same, sameArrived, explained⟩ := accounts.explained caller _ returned
  obtain rfl := Option.some.inj (arrived.symm.trans sameArrived)
  cases explained with
  | ready _ kept =>
      rw [Loader.memo_eq_none_of_joined? joined] at kept
      cases kept
  | imported _ sameJoined ended =>
      obtain rfl := Option.some.inj (joined.symm.trans sameJoined)
      exact (accounts.results _ _).2 ⟨_, ended, rfl⟩

theorem joins_of_waiting (accounts : Accounts moduleName first events session) {number : Nat}
    (waits : session.callers[caller]? = some (.waiting number)) :
    first.Joins events caller number := by
  obtain ⟨found, arrived, explained⟩ := accounts.explained caller _ waits
  cases explained with
  | waiting _ joined => exact ⟨found, arrived, joined⟩

theorem cancelled_iff (accounts : Accounts moduleName first events session) :
    session.callers[caller]? = some .cancelled ↔ .cancel caller ∈ events := by
  constructor
  · intro cancelled
    obtain ⟨found, _, explained⟩ := accounts.explained caller _ cancelled
    cases explained with
    | cancelled member _ => exact member
  · intro member
    obtain ⟨state, present⟩ : ∃ state, session.callers[caller]? = some state :=
      ⟨_, Array.getElem?_eq_getElem (accounts.cancelled_lt caller member)⟩
    obtain ⟨found, _, explained⟩ := accounts.explained caller state present
    rw [present]
    cases explained with
    | waiting uncancelled _ => exact absurd member uncancelled
    | ready uncancelled _ => exact absurd member uncancelled
    | imported uncancelled _ _ => exact absurd member uncancelled
    | cancelled _ _ => rfl

end Accounts

end Session

end Placement
