import Mathlib
import Placement.Proofs.LocatedFailure
import Placement.Proofs.Reoffset

/-!
What the modifier check reports is settled by one modifier, the first that is out of place, under the lowest
of the rules against it. For surfaces that see kinds only, that modifier may then stand on any node of the
same kind under a parent of the same kind, with whatever is in its place in front of it and anything after
it.
-/

namespace Placement

namespace ModifierRule

variable {surface : Surface} {forest : RawForest} {modifier : NodeKind} {id : RawId}
  {parent : Option RawId}

structure IsLowest (rule : ModifierRule) (surface : Surface) (forest : RawForest)
    (modifier : NodeKind) (id : RawId) (parent : Option RawId) : Prop where
  applies : rule.applies surface forest modifier id parent = true
  number_le : ∀ other : ModifierRule, other.applies surface forest modifier id parent = true →
    rule.number ≤ other.number

theorem isLowest_of_firstViolated {rule : ModifierRule}
    (violated : firstViolated surface forest modifier id parent = some rule) :
    rule.IsLowest surface forest modifier id parent := by
  obtain ⟨applies, earlier, later, split, passed⟩ := List.find?_eq_some_iff_append.1 violated
  have notEarlier : ∀ other : ModifierRule,
      other.applies surface forest modifier id parent = true → other ∉ earlier := by
    intro other otherApplies member
    simpa [otherApplies] using passed other member
  refine ⟨applies, fun other otherApplies => ?_⟩
  rw [number, number, split, List.idxOf_append_of_notMem (notEarlier rule applies),
    List.idxOf_append_of_notMem (notEarlier other otherApplies), List.idxOf_cons_self]
  omega

theorem exists_firstViolated_iff :
    (∃ rule, firstViolated surface forest modifier id parent = some rule) ↔
      ∃ rule : ModifierRule, rule.applies surface forest modifier id parent = true := by
  rw [← Option.ne_none_iff_exists', Ne, firstViolated_eq_none_iff]
  simp

end ModifierRule

def IsFirst (holds : RawId → Prop) (ids : List RawId) (id : RawId) : Prop :=
  ∃ before after, ids = before ++ id :: after ∧ holds id ∧ ∀ earlier ∈ before, ¬holds earlier

namespace IsFirst

variable {holds : RawId → Prop} {ids : List RawId}

theorem exists_of_mem (present : ∃ id ∈ ids, holds id) : ∃ id, IsFirst holds ids id := by
  induction ids with
  | nil => simp at present
  | cons head tail ih =>
      by_cases headHolds : holds head
      · exact ⟨head, [], tail, rfl, headHolds, by simp⟩
      · obtain ⟨id, before, after, rfl, idHolds, noneBefore⟩ :=
          ih (by simpa [headHolds] using present)
        exact ⟨id, head :: before, after, rfl, idHolds,
          List.forall_mem_cons.2 ⟨headHolds, noneBefore⟩⟩

theorem append {id : RawId} (isFirst : IsFirst holds ids id) (rest : List RawId) :
    IsFirst holds (ids ++ rest) id := by
  obtain ⟨before, after, rfl, idHolds, noneBefore⟩ := isFirst
  exact ⟨before, after ++ rest, by simp, idHolds, noneBefore⟩

theorem of_forall₂ {id : RawId} (isFirst : IsFirst holds ids id) {otherHolds : RawId → Prop}
    {alike : RawId → RawId → Prop} (agree : ∀ id twin, alike id twin → (otherHolds twin ↔ holds id))
    {twins : List RawId} (allAlike : List.Forall₂ alike ids twins) :
    ∃ twin, alike id twin ∧ IsFirst otherHolds twins twin := by
  obtain ⟨before, after, rfl, idHolds, noneBefore⟩ := isFirst
  induction before generalizing twins with
  | nil =>
      obtain ⟨twin, later, same, _, rfl⟩ := List.forall₂_cons_left_iff.1 allAlike
      exact ⟨twin, same, [], later, rfl, (agree id twin same).2 idHolds, by simp⟩
  | cons head before ih =>
      obtain ⟨headNot, noneBefore⟩ := List.forall_mem_cons.1 noneBefore
      obtain ⟨headTwin, tail, headSame, tails, rfl⟩ := List.forall₂_cons_left_iff.1 allAlike
      obtain ⟨twin, same, earlier, later, rfl, twinHolds, noneEarlier⟩ := ih tails noneBefore
      refine ⟨twin, same, headTwin :: earlier, later, rfl, twinHolds, ?_⟩
      exact List.forall_mem_cons.2 ⟨mt (agree head headTwin headSame).1 headNot, noneEarlier⟩

end IsFirst

structure RawForest.Alike (forest : RawForest) (id twin : RawId) : Prop where
  kind : (forest.node twin).kind = (forest.node id).kind
  pos : (forest.node twin).pos = (forest.node id).pos
  stop : (forest.node twin).stop = (forest.node id).stop

namespace SourceFile

theorem rawLocation_alike {file : SourceFile} {id twin : RawId} (alike : file.forest.Alike id twin) :
    file.rawLocation twin = file.rawLocation id := by
  simp only [rawLocation, rawRange, alike.pos, alike.stop]

/-- Two nodes of one kind under parents of one kind, or both without a parent. -/
structure HeldAlike (file : SourceFile) (raw other : RawId) : Prop where
  kind : (file.forest.node other).kind = (file.forest.node raw).kind
  parentKind : ((file.parentOf other).map fun holder => (file.forest.node holder).kind) =
    (file.parentOf raw).map fun holder => (file.forest.node holder).kind

end SourceFile

namespace Check

/-- A modifier that is out of place on a node: it is no decorator, and a rule applies to it there. -/
def Offends (surface : Surface) (file : SourceFile) (raw modifier : RawId) : Prop :=
  surface.isDecorator file.forest modifier = false ∧
    ∃ rule : ModifierRule, rule.applies surface file.forest (file.forest.node modifier).kind raw
      (file.parentOf raw) = true

/-- What comes of reporting a modifier under a rule: a violation at the modifier, if it has a spelling and
ends in the text. -/
inductive Reports (surface : Surface) (file : SourceFile) (modifier : RawId) (rule : ModifierRule) :
    Except Failure Unit → Prop where
  | unspelled :
      surface.tokenText (file.forest.node modifier).kind = none →
      Reports surface file modifier rule
        (.error (.fault (.noTokenText (file.forest.node modifier).kind)))
  | beyondText {spelling : String} {offset : Nat} :
      surface.tokenText (file.forest.node modifier).kind = some spelling →
      file.text.length < (file.forest.node modifier).stop →
      file.rawLocation modifier = .error (.offsetOutOfRange offset file.text.length) →
      Reports surface file modifier rule
        (.error (.fault (.offsetOutOfRange offset file.text.length)))
  | spelledEmpty :
      surface.tokenText (file.forest.node modifier).kind = some "" →
      (file.forest.node modifier).stop ≤ file.text.length →
      Reports surface file modifier rule (.error (.fault .emptyModifier))
  | violation {spelling : String} {violation : Violation} :
      surface.tokenText (file.forest.node modifier).kind = some spelling → spelling ≠ "" →
      (file.forest.node modifier).stop ≤ file.text.length →
      violation.cause = .modifier rule spelling → violation.reason = rule.message spelling →
      file.rawLocation modifier = .ok violation.location →
      Reports surface file modifier rule (.error (.violation violation))

theorem reports_reportModifier (surface : Surface) (file : SourceFile) (modifier : RawId)
    (rule : ModifierRule) :
    Reports surface file modifier rule (.error (reportModifier surface file modifier rule)) := by
  have ordered := file.rawRange_ordered modifier
  rw [reportModifier, Surface.keywordText]
  cases spelled : surface.tokenText (file.forest.node modifier).kind with
  | none => exact .unspelled spelled
  | some spelling =>
      dsimp only
      by_cases inside : (file.forest.node modifier).stop ≤ file.text.length
      · have located : file.rawLocation modifier = _ := file.locate_of_inside ordered inside
        rw [located, report, Violation.build?_some, CauseDraft.check]
        by_cases empty : spelling = ""
        · subst empty
          exact .spelledEmpty spelled inside
        · rw [dif_neg empty]
          dsimp only
          rw [dif_neg (rule.message_ne_empty spelling)]
          exact .violation spelled empty inside rfl rfl located
      · have beyond : file.text.length < (file.forest.node modifier).stop := Nat.lt_of_not_le inside
        have unlocated : file.rawLocation modifier = _ := file.locate_of_beyond beyond
        rw [unlocated]
        exact .beyondText spelled beyond unlocated

variable {surface : Surface} {file : SourceFile} {raw modifier : RawId}

theorem firstMisplaced_eq_some_iff {rule : ModifierRule} :
    firstMisplaced surface file raw = some (modifier, rule) ↔
      IsFirst (Offends surface file raw) (file.forest.node raw).modifiers modifier ∧
        ModifierRule.firstViolated surface file.forest (file.forest.node modifier).kind raw
          (file.parentOf raw) = some rule := by
  simp only [firstMisplaced, IsFirst, Offends, ← ModifierRule.exists_firstViolated_iff]
  rw [List.findSome?_eq_some_iff]
  constructor
  · rintro ⟨before, found, after, split, foundEq, passed⟩
    split at foundEq
    next => cases foundEq
    next notDecorator =>
      obtain ⟨_, violated, same⟩ := Option.map_eq_some_iff.1 foundEq
      cases same
      refine ⟨⟨before, after, split, ⟨by simpa using notDecorator, rule, violated⟩, ?_⟩, violated⟩
      rintro earlier member ⟨notDecorator, other, violatedEarlier⟩
      simpa [notDecorator, violatedEarlier] using passed earlier member
  · rintro ⟨⟨before, after, split, ⟨notDecorator, _⟩, noneBefore⟩, violated⟩
    refine ⟨before, modifier, after, split, by simp [notDecorator, violated], ?_⟩
    intro earlier member
    split
    next => rfl
    next notDecorator =>
      have unviolated := mt (And.intro (by simpa using notDecorator)) (noneBefore earlier member)
      simpa [Option.eq_none_iff_forall_ne_some] using unviolated

theorem checkModifiers_of_isFirst
    (isFirst : IsFirst (Offends surface file raw) (file.forest.node raw).modifiers modifier) :
    ∃ rule, ModifierRule.firstViolated surface file.forest (file.forest.node modifier).kind raw
        (file.parentOf raw) = some rule ∧
      checkModifiers surface file raw = .error (reportModifier surface file modifier rule) := by
  have applies := isFirst
  obtain ⟨_, _, _, ⟨_, applies⟩, _⟩ := applies
  obtain ⟨rule, violated⟩ := ModifierRule.exists_firstViolated_iff.2 applies
  refine ⟨rule, violated, ?_⟩
  rw [checkModifiers, firstMisplaced_eq_some_iff.2 ⟨isFirst, violated⟩]

theorem checkModifiers_passes_iff :
    checkModifiers surface file raw = .ok () ↔
      ∀ modifier ∈ (file.forest.node raw).modifiers, ¬Offends surface file raw modifier := by
  rw [checkModifiers_eq_ok_iff, firstMisplaced_eq_none_iff]
  simp [Offends]

theorem reportModifier_alike {twin : RawId} (alike : file.forest.Alike modifier twin)
    (rule : ModifierRule) :
    reportModifier surface file twin rule = reportModifier surface file modifier rule := by
  rw [reportModifier, reportModifier, alike.kind, SourceFile.rawLocation_alike alike]

section OtherHolder

variable (sees : surface.SeesKinds) {other : RawId} (held : file.HeldAlike raw other)
include sees held

theorem offends_congr {twin : RawId}
    (sameKind : (file.forest.node twin).kind = (file.forest.node modifier).kind) :
    Offends surface file other twin ↔ Offends surface file raw modifier := by
  obtain ⟨holds, decorator⟩ := sees.decorator
  simp only [Offends, decorator, sameKind, sees.applies_congr held.kind held.parentKind]

theorem checkModifiers_alike {twin : RawId} (alike : file.forest.Alike modifier twin)
    (isFirst : IsFirst (Offends surface file raw) (file.forest.node raw).modifiers modifier)
    (isFirstThere : IsFirst (Offends surface file other) (file.forest.node other).modifiers twin) :
    checkModifiers surface file other = checkModifiers surface file raw := by
  obtain ⟨rule, violated, failed⟩ := checkModifiers_of_isFirst isFirst
  obtain ⟨ruleThere, violatedThere, failedThere⟩ := checkModifiers_of_isFirst isFirstThere
  rw [alike.kind, sees.firstViolated_congr held.kind held.parentKind, violated,
    Option.some.injEq] at violatedThere
  rw [failedThere, failed, ← violatedThere, reportModifier_alike alike]

theorem checkModifiers_of_stretch {stretch twins rest otherRest : List RawId}
    (starts : (file.forest.node raw).modifiers = stretch ++ rest)
    (otherStarts : (file.forest.node other).modifiers = twins ++ otherRest)
    (allAlike : List.Forall₂ file.forest.Alike stretch twins)
    (offends : ∃ modifier ∈ stretch, Offends surface file raw modifier) :
    checkModifiers surface file other = checkModifiers surface file raw := by
  obtain ⟨modifier, isFirst⟩ := IsFirst.exists_of_mem offends
  obtain ⟨twin, alike, isFirstThere⟩ := isFirst.of_forall₂
    (fun _ _ alike => offends_congr sees held alike.kind) allAlike
  refine checkModifiers_alike sees held alike ?_ ?_
  · rw [starts]
    exact isFirst.append rest
  · rw [otherStarts]
    exact isFirstThere.append otherRest

end OtherHolder

end Check

/-- The modifier check passes where no modifier is out of place. Otherwise it reports the first that is,
under the lowest rule that applies to it: a violation located there, or a fault if there is no spelling or
no location for it. For a surface that sees kinds only, nothing else matters: where two nodes of one kind
under parents of one kind have the same first offender, or the same modifiers as far as an offender, the check
ends in the same way on both. -/
theorem first_offending_modifier_decides (surface : Surface) (file : SourceFile) (raw : RawId) :
    let modifiers := fun raw => (file.forest.node raw).modifiers
    let Offends := Check.Offends surface file
    let outcome := fun raw publics shown =>
      (Check.builtin .modifiers).run surface publics file raw shown
    (∀ publics shown, outcome raw publics shown = .ok () ↔
      ∀ modifier ∈ modifiers raw, ¬Offends raw modifier) ∧
    ((∃ modifier ∈ modifiers raw, Offends raw modifier) →
      ∃ modifier, IsFirst (Offends raw) (modifiers raw) modifier) ∧
    (∀ modifier, IsFirst (Offends raw) (modifiers raw) modifier →
      ∃ rule : ModifierRule, rule.IsLowest surface file.forest (file.forest.node modifier).kind raw
          (file.parentOf raw) ∧
        ∀ publics shown,
          Check.Reports surface file modifier rule (outcome raw publics shown)) ∧
    (surface.SeesKinds → ∀ other, file.HeldAlike raw other →
      (∀ modifier twin, (file.forest.node twin).kind = (file.forest.node modifier).kind →
        (Offends other twin ↔ Offends raw modifier)) ∧
      (∀ modifier twin, file.forest.Alike modifier twin →
        IsFirst (Offends raw) (modifiers raw) modifier →
        IsFirst (Offends other) (modifiers other) twin →
          ∀ publics shown, outcome other publics shown = outcome raw publics shown) ∧
      (∀ stretch twins rest otherRest, modifiers raw = stretch ++ rest →
        modifiers other = twins ++ otherRest → List.Forall₂ file.forest.Alike stretch twins →
        (∃ modifier ∈ stretch, Offends raw modifier) →
          ∀ publics shown, outcome other publics shown = outcome raw publics shown)) := by
  intro modifiers Offends outcome
  refine ⟨fun _ _ => Check.checkModifiers_passes_iff, IsFirst.exists_of_mem, ?_, ?_⟩
  · intro modifier isFirst
    obtain ⟨rule, violated, failed⟩ := Check.checkModifiers_of_isFirst isFirst
    refine ⟨rule, ModifierRule.isLowest_of_firstViolated violated, fun publics shown => ?_⟩
    have outcomeEq : outcome raw publics shown = _ := failed
    rw [outcomeEq]
    exact Check.reports_reportModifier surface file modifier rule
  · intro sees other held
    refine ⟨fun _ _ => Check.offends_congr sees held, ?_, ?_⟩
    · intro modifier twin alike isFirst isFirstThere _ _
      exact Check.checkModifiers_alike sees held alike isFirst isFirstThere
    · intro stretch twins rest otherRest starts otherStarts allAlike offends _ _
      exact Check.checkModifiers_of_stretch sees held starts otherStarts allAlike offends

def twinReadonly : SourceFile where
  forest := .ofDrafts [
    ⟨some .staticKeyword, 0, 6, none, none, none, none, []⟩,
    ⟨some .readonlyKeyword, 6, 15, none, none, none, none, []⟩,
    ⟨some .accessorKeyword, 15, 24, none, none, none, none, []⟩,
    ⟨some .methodDeclaration, 0, 31, some [0, 1, 2], none, none, none, []⟩,
    ⟨some .readonlyKeyword, 6, 15, none, none, none, none, []⟩,
    ⟨some .methodDeclaration, 6, 31, some [4], none, none, none, []⟩,
    ⟨some .classDeclaration, 0, 31, none, none, none, none, [3, 5]⟩,
    ⟨some .sourceFile, 0, 31, none, none, none, none, [6]⟩]
  root := 7
  text := "static readonly accessor m() \x7b\x7d".toList
  length := 31
  lineStarts := #[0]
  parents := [(2, 3), (1, 3), (0, 3), (4, 5), (5, 6), (3, 6), (6, 7)]
  root_kind := by decide
  root_inside := by decide
  length_eq := by decide
  lineStarts_eq := by decide
  parents_eq := by cbv

theorem twinReadonly_fails_alike :
    let outcome := fun raw => (Check.builtin .modifiers).run .typeScript .empty twinReadonly raw 0
    (∃ rule : ModifierRule,
      rule.IsLowest .typeScript twinReadonly.forest .readonlyKeyword 3 (some 6) ∧
        Check.Reports .typeScript twinReadonly 1 rule (outcome 3)) ∧
      outcome 5 = outcome 3 := by
  intro outcome
  have staticFits : ¬Check.Offends .typeScript twinReadonly 3 0 := by
    rintro ⟨_, rule, applies⟩
    cases rule <;> cases applies
  have firstOfThree :
      IsFirst (Check.Offends .typeScript twinReadonly 3) (twinReadonly.forest.node 3).modifiers 1 :=
    ⟨[0], [2], by decide, ⟨by decide, .readonly, by decide⟩, by simpa using staticFits⟩
  have firstOfOne :
      IsFirst (Check.Offends .typeScript twinReadonly 5) (twinReadonly.forest.node 5).modifiers 4 :=
    ⟨[], [], by decide, ⟨by decide, .readonly, by decide⟩, by simp⟩
  obtain ⟨_, _, reported, likewise⟩ := first_offending_modifier_decides .typeScript twinReadonly 3
  obtain ⟨rule, lowest, reports⟩ := reported 1 firstOfThree
  obtain ⟨_, sameOutcome, _⟩ := likewise Surface.typeScript_seesKinds 5 ⟨by decide, by decide⟩
  exact ⟨⟨rule, lowest, reports .empty 0⟩,
    sameOutcome 1 4 ⟨by decide, by decide, by decide⟩ firstOfThree firstOfOne .empty 0⟩

end Placement
