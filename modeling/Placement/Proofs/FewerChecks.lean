import Mathlib
import Placement.Proofs.StoppingTurn

/-!
Configurations that enable some of the checks. Named in whatever order, the checks run in theirs, and each
fails where it would fail alone. So the walk of a configuration stops at the earliest turn at which one of
its checks stops alone, and enabling fewer checks neither invents a failure nor alters one.
-/

namespace Placement

namespace CheckName

/-- The given names, each once, in the order in which the checks run. -/
def inOrder (given : List CheckName) : List CheckName :=
  all.filter fun name => given.contains name

theorem mem_inOrder_iff (given : List CheckName) (name : CheckName) :
    name ∈ inOrder given ↔ name ∈ given := by
  simp [inOrder, mem_all]

theorem inOrder_ascending (given : List CheckName) : Ascending (inOrder given) := by
  have allAscending : Ascending all := by
    rw [Ascending]
    decide
  exact allAscending.sublist List.filter_sublist

end CheckName

namespace Config

theorem firstUnknown_of_names (given : List CheckName) :
    firstUnknown (given.map CheckName.text) = none := by
  have known : ((given.map CheckName.text).filter fun name => (CheckName.named? name).isNone) = [] := by
    rw [List.filter_eq_nil_iff]
    intro text listed
    obtain ⟨name, _, rfl⟩ := List.mem_map.1 listed
    simp [CheckName.named?_text]
  rw [firstUnknown, known, List.mergeSort_nil, List.head?_nil]

theorem text_mem_map_iff (given : List CheckName) (name : CheckName) :
    name.text ∈ given.map CheckName.text ↔ name ∈ given := by
  rw [List.mem_map]
  constructor
  · rintro ⟨other, listed, same⟩
    rwa [← CheckName.eq_of_text_eq same]
  · intro listed
    exact ⟨name, listed, rfl⟩

theorem checkNames_of_names {given : List CheckName} (nonempty : given ≠ []) :
    checkNames (some (given.map CheckName.text)) = .ok (some (CheckName.inOrder given)) := by
  obtain ⟨first, rest, rfl⟩ := List.exists_cons_of_ne_nil nonempty
  have known := firstUnknown_of_names (first :: rest)
  have same : ∀ name : CheckName, ((first :: rest).map CheckName.text).contains name.text =
      (first :: rest).contains name := by
    intro name
    rw [Bool.eq_iff_iff, List.contains_iff_mem, List.contains_iff_mem, text_mem_map_iff]
  rw [List.map_cons] at known same
  rw [List.map_cons, checkNames, known]
  simp only [same, CheckName.inOrder]

def enabling? (given : List CheckName) (usesFastPath : Bool) (surfaceModule : String) :
    Except Failure Config :=
  build? ⟨some (given.map CheckName.text), usesFastPath, surfaceModule⟩

theorem enabling?_eq_ok {given : List CheckName} (nonempty : given ≠ []) (usesFastPath : Bool)
    {surfaceModule : String} (named : surfaceModule ≠ "") :
    ∃ config, enabling? given usesFastPath surfaceModule = .ok config ∧
      config.checks = (CheckName.inOrder given).map Check.builtin := by
  refine ⟨⟨some (CheckName.inOrder given), usesFastPath, surfaceModule, named⟩, ?_, ?_⟩
  · rw [enabling?, build?]
    simp only [checkNames_of_names nonempty, bind, Except.bind, named, ↓reduceDIte]
    rfl
  · have enabledIff : ∀ name : CheckName,
        isEnabled ⟨some (CheckName.inOrder given), usesFastPath, surfaceModule, named⟩ name.text =
          given.contains name := by
      intro name
      rw [Bool.eq_iff_iff, List.contains_iff_mem, ← CheckName.mem_inOrder_iff, isEnabled]
      simp only [List.any_eq_true, beq_iff_eq]
      constructor
      · rintro ⟨other, listed, same⟩
        rwa [← CheckName.eq_of_text_eq same]
      · intro listed
        exact ⟨name, listed, rfl⟩
    simp only [checks, enabledIff]
    rfl

end Config

namespace Turn

variable {surface : Surface} {result : ParseResult} {fewer more : List CheckName} {turn : Turn}
  {failure : Failure}

theorem FailsFirst.of_fewer (failsFirst : turn.FailsFirst surface result more failure)
    (included : ∀ name ∈ fewer, name ∈ more) (enabled : turn.name ∈ fewer) :
    turn.FailsFirst surface result fewer failure where
  enabled := enabled
  fails := failsFirst.fails
  first earlier isEarlier enabledToo :=
    failsFirst.first earlier isEarlier (included _ enabledToo)

theorem failsFirst_inOrder_iff :
    turn.FailsFirst surface result (CheckName.inOrder more) failure ↔
      turn.FailsFirst surface result more failure := by
  have sameNames := CheckName.mem_inOrder_iff more
  constructor
  · intro failsFirst
    exact failsFirst.of_fewer (fun name => (sameNames name).2)
      ((sameNames turn.name).1 failsFirst.enabled)
  · intro failsFirst
    exact failsFirst.of_fewer (fun name => (sameNames name).1)
      ((sameNames turn.name).2 failsFirst.enabled)

theorem FailsFirst.lt_of_fewer {later : Turn} {other : Failure}
    (failsFirst : turn.FailsFirst surface result more failure) (disabled : turn.name ∉ fewer)
    (included : ∀ name ∈ fewer, name ∈ more)
    (laterFirst : later.FailsFirst surface result fewer other) : turn < later := by
  have notEarlier := failsFirst.not_lt (included _ laterFirst.enabled) laterFirst.fails
  rcases lt_trichotomy turn later with before | same | after
  · exact before
  · rw [same] at disabled
    exact absurd laterFirst.enabled disabled
  · exact absurd after notEarlier

theorem Fails.exists_first (fails : turn.Fails surface result failure) :
    ∃ first firstFailure, Turn.FailsFirst surface result [turn.name] first firstFailure := by
  cases outcome : (Validator.inspect ⟨[turn.name].map Check.builtin, false⟩ surface
      result).outcome with
  | ok _ =>
      have nowhere := Validator.passes_iff.1 outcome turn (List.mem_singleton_self _)
      exact absurd fails (nowhere failure)
  | error firstFailure =>
      have ascending : CheckName.Ascending [turn.name] := List.pairwise_singleton _ _
      obtain ⟨first, failsFirst, _⟩ := Validator.exists_stop_of_error ascending outcome
      exact ⟨first, firstFailure, failsFirst⟩

theorem failsFirst_iff_earliest :
    turn.FailsFirst surface result more failure ↔
      turn.name ∈ more ∧ turn.FailsFirst surface result [turn.name] failure ∧
        ∀ name ∈ more, ∀ other otherFailure,
          other.FailsFirst surface result [name] otherFailure → ¬other < turn := by
  constructor
  · intro failsFirst
    refine ⟨failsFirst.enabled, ?_, ?_⟩
    · refine failsFirst.of_fewer (fun name listed => ?_) (List.mem_singleton_self _)
      rw [List.mem_singleton.1 listed]
      exact failsFirst.enabled
    · intro name enabled other otherFailure otherFirst
      rw [← List.mem_singleton.1 otherFirst.enabled] at enabled
      exact failsFirst.not_lt enabled otherFirst.fails
  · rintro ⟨enabled, alone, earliest⟩
    refine ⟨enabled, alone.fails, ?_⟩
    intro earlier isEarlier earlierEnabled earlierFailure earlierFails
    obtain ⟨other, otherFailure, otherFirst⟩ := earlierFails.exists_first
    have notAfter := otherFirst.not_lt (List.mem_singleton_self _) earlierFails
    exact earliest _ earlierEnabled other otherFailure otherFirst
      (lt_of_not_lt_of_lt notAfter isEarlier)

end Turn

namespace Config

def outcome (config : Config) (surface : Surface) (result : ParseResult) : Except Failure Unit :=
  ((Validator.ofConfig config).inspect surface result).outcome

def StopsAt (config : Config) (surface : Surface) (result : ParseResult) (turn : Turn)
    (failure : Failure) : Prop :=
  (Validator.ofConfig config).StopsAt surface result turn failure

variable {config : Config} {given : List CheckName} {surface : Surface} {result : ParseResult}
  {turn : Turn} {failure : Failure}

theorem passes_iff (checksEq : config.checks = (CheckName.inOrder given).map Check.builtin) :
    config.outcome surface result = .ok () ↔
      ∀ turn : Turn, turn.name ∈ given → ∀ failure, ¬turn.Fails surface result failure := by
  rw [outcome, Validator.ofConfig, checksEq, Validator.passes_iff]
  simp only [CheckName.mem_inOrder_iff]

theorem stopsAt_iff (checksEq : config.checks = (CheckName.inOrder given).map Check.builtin) :
    config.StopsAt surface result turn failure ↔ turn.FailsFirst surface result given failure := by
  rw [StopsAt, Validator.ofConfig, checksEq,
    Validator.stopsAt_iff (CheckName.inOrder_ascending given), Turn.failsFirst_inOrder_iff]

theorem exists_stop_of_error
    (checksEq : config.checks = (CheckName.inOrder given).map Check.builtin)
    (failed : config.outcome surface result = .error failure) :
    ∃ turn, config.StopsAt surface result turn failure := by
  rw [outcome, Validator.ofConfig, checksEq] at failed
  obtain ⟨turn, failsFirst, _⟩ :=
    Validator.exists_stop_of_error (CheckName.inOrder_ascending given) failed
  exact ⟨turn, (stopsAt_iff checksEq).2 (Turn.failsFirst_inOrder_iff.1 failsFirst)⟩

end Config

/-- Of two configurations the one with fewer checks passes where the other passes. Where the other stops at
a turn of a check that both enable, it stops there too, with the same failure; where that check is not
enabled, it passes or stops at a later turn. So a configuration stops at the earliest of the turns at which
its checks stop one at a time. -/
theorem fewer_checks_alter_no_failure (fewer more : List CheckName) (nonempty : fewer ≠ [])
    (included : ∀ name ∈ fewer, name ∈ more) (usesFastPath : Bool) (surfaceModule : String)
    (named : surfaceModule ≠ "") (surface : Surface) (result : ParseResult) :
    ∃ (few many : Config) (alone : CheckName → Config),
      Config.enabling? fewer usesFastPath surfaceModule = .ok few ∧
      Config.enabling? more usesFastPath surfaceModule = .ok many ∧
      (∀ name, Config.enabling? [name] usesFastPath surfaceModule = .ok (alone name)) ∧
      few.checks = (CheckName.inOrder fewer).map Check.builtin ∧
      many.checks = (CheckName.inOrder more).map Check.builtin ∧
      (many.outcome surface result = .ok () → few.outcome surface result = .ok ()) ∧
      (∀ failure, many.outcome surface result = .error failure →
        ∃ turn, many.StopsAt surface result turn failure) ∧
      (∀ turn failure, many.StopsAt surface result turn failure → turn.name ∈ fewer →
        few.StopsAt surface result turn failure) ∧
      (∀ turn failure, many.StopsAt surface result turn failure → turn.name ∉ fewer →
        few.outcome surface result = .ok () ∨
          ∃ later laterFailure, turn < later ∧ few.StopsAt surface result later laterFailure) ∧
      (many.outcome surface result = .ok () ↔
        ∀ name ∈ more, (alone name).outcome surface result = .ok ()) ∧
      (∀ turn failure, many.StopsAt surface result turn failure ↔
        turn.name ∈ more ∧ (alone turn.name).StopsAt surface result turn failure ∧
          ∀ name ∈ more, ∀ other otherFailure,
            (alone name).StopsAt surface result other otherFailure → ¬other < turn) := by
  have moreNonempty : more ≠ [] := by
    obtain ⟨name, listed⟩ := List.exists_mem_of_ne_nil fewer nonempty
    exact List.ne_nil_of_mem (included name listed)
  obtain ⟨few, fewBuilt, fewChecks⟩ := Config.enabling?_eq_ok nonempty usesFastPath named
  obtain ⟨many, manyBuilt, manyChecks⟩ := Config.enabling?_eq_ok moreNonempty usesFastPath named
  have single := fun name : CheckName =>
    Config.enabling?_eq_ok (List.cons_ne_nil name []) usesFastPath named
  choose alone aloneBuilt aloneChecks using single
  refine ⟨few, many, alone, fewBuilt, manyBuilt, aloneBuilt, fewChecks, manyChecks, ?_, ?_, ?_, ?_,
    ?_, ?_⟩
  · rw [Config.passes_iff fewChecks, Config.passes_iff manyChecks]
    intro passes turn enabled
    exact passes turn (included _ enabled)
  · intro failure failed
    exact Config.exists_stop_of_error manyChecks failed
  · intro turn failure
    rw [Config.stopsAt_iff fewChecks, Config.stopsAt_iff manyChecks]
    intro failsFirst enabled
    exact failsFirst.of_fewer included enabled
  · intro turn failure stops disabled
    rw [Config.stopsAt_iff manyChecks] at stops
    cases ended : few.outcome surface result with
    | ok _ => exact Or.inl rfl
    | error laterFailure =>
        obtain ⟨later, stopsLater⟩ := Config.exists_stop_of_error fewChecks ended
        have laterFirst := (Config.stopsAt_iff fewChecks).1 stopsLater
        exact Or.inr ⟨later, laterFailure, stops.lt_of_fewer disabled included laterFirst, stopsLater⟩
  · simp only [Config.passes_iff manyChecks, Config.passes_iff (aloneChecks _),
      List.mem_singleton]
    constructor
    · rintro passes name enabled turn rfl
      exact passes turn enabled
    · intro each turn enabled
      exact each turn.name enabled turn rfl
  · intro turn failure
    simp only [Config.stopsAt_iff manyChecks, Config.stopsAt_iff (aloneChecks _)]
    exact Turn.failsFirst_iff_earliest

def decoratedReadonly : ParseResult where
  publics := .ofDrafts [⟨"MethodDefinition", 0, 18, [], none⟩]
  ast := 0
  correlation := .ofPairs [(0, 3)]
  file :=
    { forest := .ofDrafts [
        ⟨some .identifier, 1, 2, none, none, none, none, []⟩,
        ⟨some .decorator, 0, 2, none, none, none, some 0, []⟩,
        ⟨some .readonlyKeyword, 2, 11, none, none, none, none, []⟩,
        ⟨some .methodDeclaration, 0, 18, some [2], some [1], none, none, []⟩,
        ⟨some .sourceFile, 0, 18, none, none, none, none, [3]⟩]
      root := 4
      text := "@d readonly m() \x7b\x7d".toList
      length := 18
      lineStarts := #[0]
      parents := [(0, 1), (2, 3), (1, 3), (3, 4)]
      root_kind := by decide
      root_inside := by decide
      length_eq := by decide
      lineStarts_eq := by decide
      parents_eq := by cbv }

theorem decoratedReadonly_fails (name : CheckName) (faulty : name ≠ .abstractProperty) :
    ∃ failure, Turn.Fails .typeScript decoratedReadonly ⟨0, name⟩ failure := by
  have met : (decoratedReadonly.publics.walk decoratedReadonly.ast)[0]? = some 0 := by cbv
  have correlated : decoratedReadonly.correlation.correlate 0 = some 3 := by decide
  cases name with
  | abstractProperty => exact absurd rfl faulty
  | decorators => exact ⟨_, 0, 3, met, correlated, rfl⟩
  | modifiers => exact ⟨_, 0, 3, met, correlated, rfl⟩

theorem decoratedReadonly_without_decorators :
    [CheckName.modifiers] ≠ [] ∧
      (∀ name ∈ [CheckName.modifiers], name ∈ [.modifiers, .decorators, .modifiers]) ∧
      Config.defaultModule ≠ "" ∧
      ∃ few many failure later laterFailure,
        Config.enabling? [.modifiers] true Config.defaultModule = .ok few ∧
        Config.enabling? [.modifiers, .decorators, .modifiers] true Config.defaultModule = .ok many ∧
        many.StopsAt .typeScript decoratedReadonly ⟨0, .decorators⟩ failure ∧
        ⟨0, .decorators⟩ < later ∧
        few.StopsAt .typeScript decoratedReadonly later laterFailure := by
  have nonempty : [CheckName.modifiers] ≠ [] := by decide
  have included : ∀ name ∈ [CheckName.modifiers], name ∈ [.modifiers, .decorators, .modifiers] := by
    decide
  have named : Config.defaultModule ≠ "" := by decide
  obtain ⟨few, many, _, fewBuilt, manyBuilt, _, fewChecks, manyChecks, _, _, _, later, _⟩ :=
    fewer_checks_alter_no_failure [.modifiers] [.modifiers, .decorators, .modifiers] nonempty included
      true Config.defaultModule named .typeScript decoratedReadonly
  obtain ⟨failure, decoratorFails⟩ := decoratedReadonly_fails .decorators (by decide)
  obtain ⟨_, modifierFails⟩ := decoratedReadonly_fails .modifiers (by decide)
  have stops : many.StopsAt .typeScript decoratedReadonly ⟨0, .decorators⟩ failure := by
    refine (Config.stopsAt_iff manyChecks).2 ⟨by decide, decoratorFails, fun earlier before => ?_⟩
    have noneBefore : CheckName.decorators.place = 0 := by decide
    simp [Turn.lt_iff, noneBefore] at before
  rcases later _ _ stops (by decide) with passes | ⟨laterTurn, laterFailure, after, laterStops⟩
  · exact absurd modifierFails
      ((Config.passes_iff fewChecks).1 passes ⟨0, .modifiers⟩ (by decide) _)
  · exact ⟨nonempty, included, named, few, many, failure, laterTurn, laterFailure, fewBuilt,
      manyBuilt, stops, after, laterStops⟩

end Placement
