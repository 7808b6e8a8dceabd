import Mathlib
import Placement.Proofs.FirstFailure
import Placement.Proofs.LinePlace
import Placement.Proofs.PassingChecks

/-!
A violation is located at one node, its culprit, and locating fails only where that node ends beyond the
text. So with the TypeScript surface a walk ends without a failure, or with a violation located in the
text, or with an offset out of range.
-/

namespace Placement

section FirstFinding

variable {Task Finding Problem : Type} {explains : Finding → Problem → Prop}

def IsRightFor (explains : Finding → Problem → Prop) (outcome : Except Problem Unit) :
    Option Finding → Prop
  | none => outcome = .ok ()
  | some finding => ∃ problem, outcome = .error problem ∧ explains finding problem

theorem forM_isRightFor {run : Task → Except Problem Unit} {found? : Task → Option Finding}
    (tasks : List Task) (each : ∀ task ∈ tasks, IsRightFor explains (run task) (found? task)) :
    IsRightFor explains (forM tasks run) (tasks.findSome? found?) := by
  induction tasks with
  | nil => rfl
  | cons task tasks ih =>
      obtain ⟨first, later⟩ := List.forall_mem_cons.1 each
      rw [List.forM_cons, List.findSome?_cons]
      cases found : found? task with
      | none =>
          rw [found] at first
          have passes : run task = .ok () := first
          rw [passes]
          exact ih later
      | some finding =>
          rw [found] at first
          obtain ⟨problem, fails, explained⟩ := first
          rw [fails]
          exact ⟨problem, rfl, explained⟩

end FirstFinding

inductive Culprit where
  | raw (id : RawId)
  | shown (id : PublicId)

namespace Culprit

def range (result : ParseResult) : Culprit → Nat × Nat
  | .raw id => result.file.rawRange id
  | .shown id => SourceFile.publicRange result.publics id

def stop (result : ParseResult) (culprit : Culprit) : Nat :=
  (culprit.range result).2

/-- The failure that a culprit leads to: a violation at its location, or what keeps it from being
located. -/
def Explains (result : ParseResult) (culprit : Culprit) (failure : Failure) : Prop :=
  match result.file.locate (culprit.range result) with
  | .ok location => ∃ violation, failure = .violation violation ∧ violation.location = location
  | .error fault => failure = .fault fault

theorem range_ordered (result : ParseResult) (culprit : Culprit) :
    (culprit.range result).1 ≤ (culprit.range result).2 := by
  cases culprit with
  | raw id => exact result.file.rawRange_ordered id
  | shown id => exact SourceFile.publicRange_ordered result.publics id

end Culprit

namespace Surface

theorem typeScriptToken_ne_empty (kind : NodeKind) : typeScriptToken kind ≠ some "" := by
  cases kind <;> decide

theorem keywordText_typeScript {kind : NodeKind} (keyword : kind.isModifierKeyword = true) :
    ∃ spelling, typeScript.keywordText kind = .ok spelling ∧
      typeScriptToken kind = some spelling ∧ spelling ≠ "" := by
  obtain ⟨spelling, spelled⟩ :=
    Option.isSome_iff_exists.1 ((typeScriptToken_isSome_iff kind).2 keyword)
  have textEq : typeScript.tokenText kind = some spelling := spelled
  refine ⟨spelling, by rw [keywordText, textEq], spelled, ?_⟩
  rintro rfl
  exact typeScriptToken_ne_empty kind spelled

end Surface

theorem ModifierRule.message_ne_empty (rule : ModifierRule) (spelling : String) :
    rule.message spelling ≠ "" := by
  cases rule <;> simp [message]

namespace Check

def culprit? (surface : Surface) (result : ParseResult) (raw : RawId) (shown : PublicId) :
    CheckName → Option Culprit
  | .decorators =>
      ((result.file.forest.node raw).illegalDecorators.head?.bind fun decorator =>
        (result.file.forest.node decorator).expression).map .raw
  | .abstractProperty =>
      if hidesInitializer surface result.publics result.file.forest raw shown then
        some (.shown shown)
      else none
  | .modifiers => (firstMisplaced surface result.file raw).map fun found => .raw found.1

theorem report_explained (result : ParseResult) (culprit : Culprit) {draft : CauseDraft}
    {cause : { cause : Cause // cause.IsSpelled }} (checked : draft.check = .ok cause)
    {reason : String} (stated : reason ≠ "") :
    culprit.Explains result (report draft (result.file.locate (culprit.range result)) reason) := by
  unfold Culprit.Explains report
  cases result.file.locate (culprit.range result) with
  | error fault => rfl
  | ok location =>
      have built := (Violation.build?_eq_ok_iff draft location reason
        ⟨cause.1, location, reason, cause.2, stated⟩).2 ⟨by rw [checked]; rfl, rfl, rfl⟩
      simp only [built]
      exact ⟨_, rfl, rfl⟩

theorem isModifierKeyword_of_misplaced {file : SourceFile} {raw modifier : RawId}
    {rule : ModifierRule}
    (misplaced : firstMisplaced .typeScript file raw = some (modifier, rule)) :
    (file.forest.node modifier).kind.isModifierKeyword = true := by
  obtain ⟨member, notDecorator⟩ := firstMisplaced_eq_some misplaced
  refine ((file.forest.fits raw).modifiers_valid modifier member).resolve_left fun isDecorator => ?_
  have kindEq : (file.forest.node modifier).kind = .decorator := isDecorator
  simp [Surface.typeScript, Surface.ofKinds, kindEq] at notDecorator

theorem builtin_isRightFor (result : ParseResult) (raw : RawId) (shown : PublicId)
    (name : CheckName) :
    IsRightFor (Culprit.Explains result)
      ((builtin name).run .typeScript result.publics result.file raw shown)
      (culprit? .typeScript result raw shown name) := by
  cases name with
  | decorators =>
      simp only [builtin, checkDecorators, culprit?]
      cases given : (result.file.forest.node raw).illegalDecorators with
      | nil => rfl
      | cons decorator rest =>
          have isIllegal := (result.file.forest.fits raw).decorators_valid decorator
            (by rw [RawForest.node] at given; rw [given]; exact List.mem_cons_self)
          obtain ⟨expression, expressed⟩ := Option.ne_none_iff_exists.1 isIllegal.2
          simp only [List.head?_cons, Option.bind_some]
          rw [RawForest.node, ← expressed]
          exact ⟨_, rfl, report_explained result (.raw expression) rfl (by decide)⟩
  | abstractProperty =>
      simp only [builtin, checkAbstractProperty, culprit?]
      by_cases hidden :
          hidesInitializer .typeScript result.publics result.file.forest raw shown = true
      · rw [if_pos hidden, if_pos hidden]
        exact ⟨_, rfl, report_explained result (.shown shown) rfl (by decide)⟩
      · rw [if_neg hidden, if_neg hidden]
        rfl
  | modifiers =>
      simp only [builtin, checkModifiers, culprit?]
      cases misplaced : firstMisplaced .typeScript result.file raw with
      | none => rfl
      | some found =>
          obtain ⟨modifier, rule⟩ := found
          obtain ⟨spelling, textEq, _, nonempty⟩ :=
            Surface.keywordText_typeScript (isModifierKeyword_of_misplaced misplaced)
          have checked : (CauseDraft.modifier (some rule) spelling).check =
              .ok ⟨.modifier rule spelling, nonempty⟩ := by
            rw [CauseDraft.check, dif_neg nonempty]
          simp only [reportModifier, textEq]
          exact ⟨_, rfl, report_explained result (.raw modifier) checked
            (rule.message_ne_empty spelling)⟩

end Check

namespace ParseResult

/-- The node at which the first violation of a walk is located, the checks running in the given
order. -/
def firstCulprit? (result : ParseResult) (surface : Surface) (names : List CheckName) :
    Option Culprit :=
  (result.publics.walk result.ast).findSome? fun shown =>
    (result.correlation.correlate shown).bind fun raw =>
      names.findSome? (Check.culprit? surface result raw shown)

/-- The nodes at which violations can be located end in the text. -/
structure EndsInText (result : ParseResult) : Prop where
  shown : ∀ shown ∈ result.publics.walk result.ast,
    (result.publics.node shown).stop ≤ result.text.length
  modifiers : ∀ shown ∈ result.publics.walk result.ast, ∀ raw,
    result.correlation.correlate shown = some raw →
      ∀ modifier ∈ (result.file.forest.node raw).modifiers,
        (result.file.forest.node modifier).stop ≤ result.text.length
  expressions : ∀ shown ∈ result.publics.walk result.ast, ∀ raw,
    result.correlation.correlate shown = some raw →
      ∀ decorator ∈ (result.file.forest.node raw).illegalDecorators,
        ∀ expression, (result.file.forest.node decorator).expression = some expression →
          (result.file.forest.node expression).stop ≤ result.text.length

theorem EndsInText.stop_le {result : ParseResult} (ends : result.EndsInText) {surface : Surface}
    {names : List CheckName} {culprit : Culprit}
    (found : result.firstCulprit? surface names = some culprit) :
    culprit.stop result ≤ result.text.length := by
  obtain ⟨shown, met, foundAt⟩ := List.exists_of_findSome?_eq_some found
  obtain ⟨raw, correlated, foundBy⟩ := Option.bind_eq_some_iff.1 foundAt
  obtain ⟨name, _, checked⟩ := List.exists_of_findSome?_eq_some foundBy
  cases name with
  | decorators =>
      obtain ⟨expression, expressed, rfl⟩ := Option.map_eq_some_iff.1 checked
      obtain ⟨decorator, first, expressedBy⟩ := Option.bind_eq_some_iff.1 expressed
      exact ends.expressions shown met raw correlated decorator (List.mem_of_head? first) expression
        expressedBy
  | abstractProperty =>
      obtain ⟨_, same⟩ := Option.ite_none_right_eq_some.1 checked
      cases same
      exact ends.shown shown met
  | modifiers =>
      obtain ⟨⟨modifier, rule⟩, misplaced, rfl⟩ := Option.map_eq_some_iff.1 checked
      exact ends.modifiers shown met raw correlated modifier
        (Check.firstMisplaced_eq_some misplaced).1

end ParseResult

namespace SourceFile

/-- A location in the text: its lines exist, and its ends are the positions of two offsets. -/
structure Covers (file : SourceFile) (location : Location) : Prop where
  first_line : 1 ≤ location.start.line
  line_le : location.start.line ≤ location.stop.line
  last_line : location.stop.line ≤ file.lineCount
  ordered : location.start ≤ location.stop
  offsets : ∃ first last, first ≤ last ∧ last ≤ file.text.length ∧
    file.position first = .ok location.start ∧ file.position last = .ok location.stop

theorem covers_of_locate {file : SourceFile} {range : Nat × Nat} (ordered : range.1 ≤ range.2)
    {location : Location} (located : file.locate range = .ok location) :
    file.Covers location ∧ range.2 ≤ file.text.length := by
  by_cases inside : range.2 ≤ file.text.length
  · have locationEq := file.locate_of_inside ordered inside
    rw [located, Except.ok.injEq] at locationEq
    subst locationEq
    have before := Text.position_mono file.text ordered
    refine ⟨⟨Nat.succ_pos _, ?_, ?_, before, ?_⟩, inside⟩
    · rcases (Position.le_iff _ _).1 before with earlier | ⟨same, _⟩
      · exact Nat.le_of_lt earlier
      · exact Nat.le_of_eq same
    · rw [lineCount, file.lineStarts_eq, List.size_toArray]
      exact Text.place_fst_lt file.text range.2
    · exact ⟨range.1, range.2, ordered, inside, file.position_eq (Nat.le_trans ordered inside),
        file.position_eq inside⟩
  · rw [file.locate_of_beyond (by omega)] at located
    cases located

end SourceFile

namespace Validator

theorem inspect_isRightFor (result : ParseResult) (names : List CheckName) (usesFastPath : Bool) :
    IsRightFor (Culprit.Explains result)
      (inspect ⟨names.map Check.builtin, usesFastPath⟩ .typeScript result).outcome
      (result.firstCulprit? .typeScript names) := by
  rw [inspect_builtin, walk_outcome_eq_forM, tasksBelow, forM_flatMap, ParseResult.firstCulprit?,
    PublicForest.walk_eq_preorder]
  refine forM_isRightFor _ fun shown _ => ?_
  rw [forM_tasksAt, checkNode]
  cases result.correlation.correlate shown with
  | none => rfl
  | some raw =>
      simp only [List.forM_map, Option.bind_some]
      exact forM_isRightFor names fun name _ => Check.builtin_isRightFor result raw shown name

theorem inspect_cases (result : ParseResult) (names : List CheckName) (usesFastPath : Bool) :
    let outcome := (inspect ⟨names.map Check.builtin, usesFastPath⟩ .typeScript result).outcome
    (result.firstCulprit? .typeScript names = none ∧ outcome = .ok ()) ∨
    (∃ culprit violation, result.firstCulprit? .typeScript names = some culprit ∧
      result.file.locate (culprit.range result) = .ok violation.location ∧
      outcome = .error (.violation violation)) ∨
    ∃ (culprit : Culprit) (offset : Nat),
      result.firstCulprit? .typeScript names = some culprit ∧
      result.text.length < culprit.stop result ∧ result.text.length < offset ∧
      outcome = .error (.fault (.offsetOutOfRange offset result.text.length)) := by
  intro outcome
  have right := inspect_isRightFor result names usesFastPath
  cases found : result.firstCulprit? .typeScript names with
  | none =>
      rw [found] at right
      exact Or.inl ⟨rfl, right⟩
  | some culprit =>
      rw [found] at right
      obtain ⟨failure, failed, explained⟩ := right
      refine Or.inr ?_
      by_cases inside : culprit.stop result ≤ result.text.length
      · have located := result.file.locate_of_inside (culprit.range_ordered result) inside
        rw [Culprit.Explains, located] at explained
        obtain ⟨violation, rfl, locationEq⟩ := explained
        exact Or.inl ⟨culprit, violation, rfl, by rw [located, locationEq], failed⟩
      · have beyond : result.text.length < culprit.stop result := Nat.lt_of_not_le inside
        have unlocated := result.file.locate_of_beyond beyond
        rw [Culprit.Explains, unlocated] at explained
        subst explained
        refine Or.inr ⟨culprit, _, rfl, beyond, ?_, failed⟩
        split
        next startsBeyond => exact startsBeyond
        next => exact beyond

end Validator

/-- With the TypeScript surface a walk passes, or reports a violation located in the text, or fails on an
offset out of range. The last happens exactly if the node at which the first violation is located ends
beyond the text, so it cannot happen where all nodes in question end in the text. -/
theorem only_located_violations_escape (result : ParseResult) (names : List CheckName)
    (usesFastPath : Bool) :
    let outcome :=
      (Validator.inspect ⟨names.map Check.builtin, usesFastPath⟩ .typeScript result).outcome
    let OutOfRange := ∃ offset : Nat, result.text.length < offset ∧
      outcome = .error (.fault (.offsetOutOfRange offset result.text.length))
    (result.EndsInText →
      outcome = .ok () ∨ ∃ violation, outcome = .error (.violation violation)) ∧
    (∀ violation, outcome = .error (.violation violation) →
      result.file.Covers violation.location) ∧
    (outcome = .ok () ∨ (∃ violation, outcome = .error (.violation violation)) ∨ OutOfRange) ∧
    (OutOfRange ↔ ∃ culprit, result.firstCulprit? .typeScript names = some culprit ∧
      result.text.length < culprit.stop result) := by
  intro outcome OutOfRange
  rcases Validator.inspect_cases result names usesFastPath with ⟨notFound, passed⟩ |
    ⟨culprit, violation, found, located, failed⟩ |
    ⟨culprit, offset, found, beyond, further, failed⟩
  · have inRange : ¬OutOfRange := by
      rintro ⟨_, _, failed⟩
      cases passed.symm.trans failed
    refine ⟨fun _ => Or.inl passed, ?_, Or.inl passed, ?_⟩
    · intro violation failed
      cases passed.symm.trans failed
    · simp [inRange, notFound]
  · have inside := SourceFile.covers_of_locate (culprit.range_ordered result) located
    have inRange : ¬OutOfRange := by
      rintro ⟨_, _, otherwise⟩
      cases failed.symm.trans otherwise
    refine ⟨fun _ => Or.inr ⟨violation, failed⟩, ?_, Or.inr (Or.inl ⟨violation, failed⟩), ?_⟩
    · intro other otherwise
      cases failed.symm.trans otherwise
      exact inside.1
    · simp only [inRange, found, Option.some.injEq, exists_eq_left', false_iff, Nat.not_lt]
      exact inside.2
  · have outOfRange : OutOfRange := ⟨offset, further, failed⟩
    refine ⟨?_, ?_, Or.inr (Or.inr outOfRange), ?_⟩
    · intro ends
      exact absurd (ends.stop_le found) (Nat.not_le_of_lt beyond)
    · intro violation otherwise
      cases failed.symm.trans otherwise
    · exact ⟨fun _ => ⟨culprit, found, beyond⟩, fun _ => outOfRange⟩

/-- A method with a misplaced modifier, on the line after a comment. -/
def misplacedReadonly : ParseResult where
  publics := .ofDrafts [⟨"MethodDefinition", 7, 22, [], none⟩]
  ast := 0
  correlation := .ofPairs [(0, 1)]
  file :=
    { forest := .ofDrafts [
        ⟨some .readonlyKeyword, 0, 15, none, none, none, none, []⟩,
        ⟨some .methodDeclaration, 0, 22, some [0], none, none, none, []⟩,
        ⟨some .sourceFile, 0, 22, none, none, none, none, [1]⟩]
      root := 2
      text := "/**/\r\n readonly m() \x7b\x7d".toList
      length := 22
      lineStarts := #[0, 6]
      parents := [(0, 1), (1, 2)]
      root_kind := by decide
      root_inside := by decide
      length_eq := by decide
      lineStarts_eq := by decide
      parents_eq := by cbv }

def misplacedReadonlyViolation : Violation where
  cause := .modifier .readonly "readonly"
  location := ⟨⟨2, 1, by decide⟩, ⟨2, 9, by decide⟩, by decide⟩
  reason := ModifierRule.readonly.message "readonly"
  spelled := show "readonly" ≠ "" by decide
  reason_ne_empty := ModifierRule.readonly.message_ne_empty "readonly"

theorem misplacedReadonly_outcome (usesFastPath : Bool) :
    (Validator.inspect ⟨CheckName.all.map Check.builtin, usesFastPath⟩ .typeScript
      misplacedReadonly).outcome = .error (.violation misplacedReadonlyViolation) := by
  cbv

theorem misplacedReadonly_endsInText : misplacedReadonly.EndsInText := by
  have walkEq : misplacedReadonly.publics.walk misplacedReadonly.ast = [0] := by cbv
  have modifiersEq : (misplacedReadonly.file.forest.node 1).modifiers = [0] := by decide
  have decoratorsEq : (misplacedReadonly.file.forest.node 1).illegalDecorators = [] := by decide
  have correlated : misplacedReadonly.correlation.correlate 0 = some 1 := by decide
  refine ⟨?_, ?_, ?_⟩
  · intro shown met
    rw [walkEq, List.mem_singleton] at met
    subst met
    decide
  · intro shown met raw own modifier member
    rw [walkEq, List.mem_singleton] at met
    subst met
    obtain rfl := Option.some.inj (correlated.symm.trans own)
    rw [modifiersEq, List.mem_singleton] at member
    subst member
    decide
  · intro shown met raw own decorator member
    rw [walkEq, List.mem_singleton] at met
    subst met
    obtain rfl := Option.some.inj (correlated.symm.trans own)
    rw [decoratorsEq] at member
    cases member

theorem misplacedReadonly_escapes_located :
    misplacedReadonly.EndsInText ∧
      ((Validator.inspect ⟨CheckName.all.map Check.builtin, true⟩ .typeScript
          misplacedReadonly).outcome = .ok () ∨
        ∃ violation, (Validator.inspect ⟨CheckName.all.map Check.builtin, true⟩ .typeScript
          misplacedReadonly).outcome = .error (.violation violation)) ∧
      misplacedReadonly.file.Covers misplacedReadonlyViolation.location := by
  obtain ⟨escapes, covers, _, _⟩ :=
    only_located_violations_escape misplacedReadonly CheckName.all true
  exact ⟨misplacedReadonly_endsInText, escapes misplacedReadonly_endsInText,
    covers _ (misplacedReadonly_outcome true)⟩

end Placement
