import Mathlib
import Placement.Proofs.Faithful
import Placement.Proofs.FirstFailure
import Placement.Proofs.LoneRequest
import Placement.Proofs.PassingChecks

/-!
Screening a text changes no outcome: on a faithful parse result whose text is screened out, the walk that
is skipped would have found nothing, whichever checks are enabled and whatever the surface says.
-/

namespace Placement

namespace Check

theorem firstMisplaced_eq_none_of_unmodified (surface : Surface) (file : SourceFile) (raw : RawId)
    (unmodified : (file.forest.node raw).modifiers = []) :
    firstMisplaced surface file raw = none := by
  rw [firstMisplaced, unmodified, List.findSome?_nil]

theorem hidesInitializer_of_unmodified (surface : Surface) (publics : PublicForest)
    (forest : RawForest) (raw : RawId) (shown : PublicId)
    (unmodified : (forest.node raw).modifiers = []) :
    hidesInitializer surface publics forest raw shown = false := by
  have noAbstract : forest.hasModifier raw .abstractKeyword = false := by
    rw [RawForest.hasModifier, unmodified, List.any_nil]
  rw [hidesInitializer, noAbstract, Bool.and_false]

theorem builtin_of_unmodified (name : CheckName) (surface : Surface) (publics : PublicForest)
    (file : SourceFile) (raw : RawId) (shown : PublicId)
    (unmodified : (file.forest.node raw).modifiers = [])
    (undecorated : (file.forest.node raw).illegalDecorators = []) :
    (builtin name).run surface publics file raw shown = .ok () := by
  cases name with
  | decorators => exact (checkDecorators_eq_ok_iff file raw).2 undecorated
  | abstractProperty =>
      refine (checkAbstractProperty_eq_ok_iff surface publics file raw shown).2 ?_
      exact hidesInitializer_of_unmodified surface publics file.forest raw shown unmodified
  | modifiers =>
      refine (checkModifiers_eq_ok_iff surface file raw).2 ?_
      exact firstMisplaced_eq_none_of_unmodified surface file raw unmodified

end Check

theorem ParseResult.Faithful.inspect_of_screened {result : ParseResult} (faithful : result.Faithful)
    (names : List CheckName) (usesFastPath : Bool) (surface : Surface)
    (screened : mightHaveViolations result.text = false) :
    (Validator.inspect ⟨names.map Check.builtin, usesFastPath⟩ surface result).outcome =
      .ok () := by
  rw [Validator.inspect_outcome_eq_ok_iff]
  intro shown _ raw correlated check enabled
  obtain ⟨mapped, _⟩ := (Correlation.correlate_eq_some_iff _ _ _).1 correlated
  obtain ⟨name, _, rfl⟩ := List.mem_map.1 enabled
  exact Check.builtin_of_unmodified name surface result.publics result.file raw shown
    (faithful.modifiers_eq_nil screened mapped) (faithful.illegalDecorators_eq_nil screened mapped)

namespace Service

variable {importer : Importer} {service : Service} {moduleName : String} {surface : Surface}

theorem outcome?_of_faithful {result : ParseResult} (faithful : result.Faithful)
    (names : List CheckName) (usesFastPath : Bool)
    (loads : service.Loads importer moduleName (.ok surface)) :
    service.outcome? importer ⟨names.map Check.builtin, usesFastPath⟩ moduleName result =
      some (Validator.inspect ⟨names.map Check.builtin, false⟩ surface result).outcome := by
  rw [outcome?_of_loads _ result loads]
  by_cases screened : mightHaveViolations result.text = true
  · simp only [Validator.screensOut, screened, Bool.not_true, Bool.and_false, Bool.false_eq_true,
      ↓reduceIte]
    rfl
  · have passes := fun usesFastPath => faithful.inspect_of_screened names usesFastPath surface
      (by simpa using screened)
    rw [Validator.answer, passes false, passes usesFastPath, ite_self]

end Service

/-- Skipping the walk on a screened text hides no violation, so a request ends alike with and without
the screening; and a text is screened out unless one of the words stands in it at some offset. -/
theorem screening_hides_no_violation :
    (∀ result : ParseResult, result.Faithful →
      ∀ (surface : Surface) (names : List CheckName) (usesFastPath : Bool),
        mightHaveViolations result.text = false →
          (Validator.inspect ⟨names.map Check.builtin, usesFastPath⟩ surface result).outcome =
            .ok ()) ∧
    (∀ result : ParseResult, result.Faithful →
      ∀ (importer : Service.Importer) (service : Service) (moduleName : String)
        (surface : Surface) (names : List CheckName),
        service.Loads importer moduleName (.ok surface) →
          service.outcome? importer ⟨names.map Check.builtin, true⟩ moduleName result =
            service.outcome? importer ⟨names.map Check.builtin, false⟩ moduleName result ∧
          service.outcome? importer ⟨names.map Check.builtin, false⟩ moduleName result =
            some (Validator.inspect ⟨names.map Check.builtin, false⟩ surface result).outcome) ∧
    (∀ text : Text, mightHaveViolations text = true ↔
      ∃ word : String, (word = "@" ∨
        ∃ kind ∈ NodeKind.modifierKeywords, Surface.typeScriptToken kind = some word) ∧
          ∃ offset, word.toList <+: text.drop offset) := by
  refine ⟨?_, ?_, mightHaveViolations_iff_exists_offset⟩
  · intro result faithful surface names usesFastPath screened
    exact faithful.inspect_of_screened names usesFastPath surface screened
  · intro result faithful importer service moduleName surface names loads
    have ended := fun usesFastPath =>
      Service.outcome?_of_faithful faithful names usesFastPath loads
    exact ⟨(ended true).trans (ended false).symm, ended false⟩

def readonlyMethodFile : SourceFile where
  forest := .ofDrafts [
    ⟨some .readonlyKeyword, 0, 13, none, none, none, none, []⟩,
    ⟨some .methodDeclaration, 0, 19, some [0], none, none, none, []⟩,
    ⟨some .sourceFile, 0, 19, none, none, none, none, [1]⟩]
  root := 2
  text := "/**/ readonly m() \x7b\x7d".toList
  length := 20
  lineStarts := #[0]
  parents := [(0, 1), (1, 2)]
  root_kind := by decide
  root_inside := by decide
  length_eq := by decide
  lineStarts_eq := by decide
  parents_eq := by cbv

def readonlyMethod : ParseResult where
  publics := .ofDrafts [⟨"MethodDefinition", 5, 19, [], none⟩]
  ast := 0
  correlation := .ofPairs [(0, 1)]
  file := readonlyMethodFile

theorem readonlyMethod_faithful : readonlyMethod.Faithful := by
  have modifiersEq : (readonlyMethodFile.forest.node 1).modifiers = [0] := by decide
  have decoratorsEq : (readonlyMethodFile.forest.node 1).illegalDecorators = [] := by decide
  have kindEq : (readonlyMethodFile.forest.node 0).kind = .readonlyKeyword := by decide
  refine ParseResult.Faithful.of_raws readonlyMethod ?_ ?_
  · rintro _ (_ | ⟨_, ⟨⟩⟩) modifier member _
    change modifier ∈ (readonlyMethodFile.forest.node 1).modifiers at member
    rw [modifiersEq, List.mem_singleton] at member
    subst member
    exact ⟨by decide, "readonly", by decide, by cbv⟩
  · rintro _ (_ | ⟨_, ⟨⟩⟩) decorator member isDecorator
    change decorator ∈ (readonlyMethodFile.forest.node 1).modifiers ++
      (readonlyMethodFile.forest.node 1).illegalDecorators at member
    rw [modifiersEq, decoratorsEq, List.append_nil, List.mem_singleton] at member
    subst member
    change (readonlyMethodFile.forest.node 0).kind = .decorator at isDecorator
    rw [kindEq] at isDecorator
    cases isDecorator

def bareProgram : ParseResult where
  publics := .ofDrafts [⟨"Program", 0, 4, [], none⟩]
  ast := 0
  correlation := .ofPairs [(0, 0)]
  file :=
    { forest := .ofDrafts [⟨some .sourceFile, 0, 4, none, none, none, none, []⟩]
      root := 0
      text := "m();".toList
      length := 4
      lineStarts := #[0]
      parents := []
      root_kind := by decide
      root_inside := by decide
      length_eq := by decide
      lineStarts_eq := by decide
      parents_eq := by cbv }

theorem bareProgram_faithful : bareProgram.Faithful := by
  have modifiersEq : (bareProgram.file.forest.node 0).modifiers = [] := by decide
  have decoratorsEq : (bareProgram.file.forest.node 0).illegalDecorators = [] := by decide
  refine ParseResult.Faithful.of_raws bareProgram ?_ ?_
  · rintro _ (_ | ⟨_, ⟨⟩⟩) modifier member _
    change modifier ∈ (bareProgram.file.forest.node 0).modifiers at member
    simp [modifiersEq] at member
  · rintro _ (_ | ⟨_, ⟨⟩⟩) decorator member _
    change decorator ∈ (bareProgram.file.forest.node 0).modifiers ++
      (bareProgram.file.forest.node 0).illegalDecorators at member
    simp [modifiersEq, decoratorsEq] at member

theorem screening_readonlyMethod_bareProgram :
    (mightHaveViolations readonlyMethod.text = true ∧
      Service.fresh.outcome? (fun _ _ => .surface .typeScript)
          ⟨CheckName.all.map Check.builtin, true⟩ Config.defaultModule readonlyMethod =
        Service.fresh.outcome? (fun _ _ => .surface .typeScript)
          ⟨CheckName.all.map Check.builtin, false⟩ Config.defaultModule readonlyMethod) ∧
    (mightHaveViolations bareProgram.text = false ∧
      (Validator.inspect ⟨CheckName.all.map Check.builtin, true⟩ .typeScript bareProgram).outcome =
        .ok ()) := by
  have screened : mightHaveViolations bareProgram.text = false := by decide
  have loads : Service.fresh.Loads (fun _ _ => .surface .typeScript) Config.defaultModule
      (.ok .typeScript) := ⟨_, _, _, rfl, rfl, rfl⟩
  refine ⟨⟨by decide, ?_⟩, screened, ?_⟩
  · exact (screening_hides_no_violation.2.1 readonlyMethod readonlyMethod_faithful _ _ _ _ _
      loads).1
  · exact screening_hides_no_violation.1 bareProgram bareProgram_faithful _ _ _ screened

end Placement
