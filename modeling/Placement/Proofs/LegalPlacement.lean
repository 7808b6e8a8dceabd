import Placement.Proofs.FirstFailure
import Placement.Proofs.ParentSlots
import Placement.Proofs.PassingChecks

/-!
Legal placement, said without rules or order: what may stand on a node of some kind below a parent of
some kind. All checks together accept exactly the parse results in which every public node with a raw
node of its own is legally placed.
-/

namespace Placement

def InClass (parent : Option NodeKind) : Prop :=
  parent = some .classDeclaration ∨ parent = some .classExpression

def AllowedOnDeclaration (modifier kind : NodeKind) (parent : Option NodeKind) : Prop :=
  match modifier with
  | .readonlyKeyword => kind = .propertyDeclaration ∨ kind = .parameter
  | .declareKeyword => InClass parent → kind = .propertyDeclaration
  | .abstractKeyword =>
      kind ∈ [.classDeclaration, .constructorType, .methodDeclaration, .propertyDeclaration,
        .getAccessor, .setAccessor]
  | .staticKeyword | .publicKeyword | .protectedKeyword | .privateKeyword =>
      parent ≠ some .moduleBlock ∧ parent ≠ some .sourceFile
  | .accessorKeyword => kind = .propertyDeclaration
  | .asyncKeyword =>
      kind ∈ [.methodDeclaration, .functionDeclaration, .functionExpression, .arrowFunction]
  | _ => True

/-- What may stand on a node of some kind. -/
def Allowed (modifier kind : NodeKind) (parent : Option NodeKind) : Prop :=
  match kind with
  | .propertySignature => modifier = .readonlyKeyword
  | .methodSignature => False
  | .indexSignature =>
      modifier = .readonlyKeyword ∨ modifier = .staticKeyword ∧ InClass parent
  | .typeParameter => modifier = .inKeyword ∨ modifier = .outKeyword
  | _ => AllowedOnDeclaration modifier kind parent

namespace ModifierRule

/-- What a rule forbids, as far as kinds decide. -/
def Forbids (modifier kind : NodeKind) (parent : Option NodeKind) : ModifierRule → Prop
  | .typeMember =>
      modifier ≠ .readonlyKeyword ∧ (kind = .propertySignature ∨ kind = .methodSignature)
  | .indexSignature =>
      modifier ≠ .readonlyKeyword ∧ kind = .indexSignature ∧
        (modifier = .staticKeyword → ¬InClass parent)
  | .typeParameter => modifier ≠ .inKeyword ∧ modifier ≠ .outKeyword ∧ kind = .typeParameter
  | .readonly => modifier = .readonlyKeyword ∧ kind ∉ readonlyKinds
  | .declare =>
      modifier = .declareKeyword ∧ InClass parent ∧ kind ≠ .propertyDeclaration
  | .abstract => modifier = .abstractKeyword ∧ kind ∉ abstractKinds
  | .moduleElement =>
      modifier ∈ [.staticKeyword, .publicKeyword, .protectedKeyword, .privateKeyword] ∧
        (parent = some .moduleBlock ∨ parent = some .sourceFile)
  | .accessor => modifier = .accessorKeyword ∧ kind ≠ .propertyDeclaration
  | .async => modifier = .asyncKeyword ∧ kind ∉ asyncKinds

theorem isClassLike_typeScript_iff (forest : RawForest) (parent : Option RawId) :
    Surface.typeScript.isClassLike forest parent = true ↔
      InClass (parent.map fun holder => (forest.node holder).kind) := by
  cases parent with
  | none => simp [Surface.typeScript, Surface.ofKinds, InClass]
  | some holder =>
      simp [Surface.typeScript, Surface.ofKinds, Surface.isTypeScriptClass, InClass]

theorem isPropertyDeclaration_typeScript_iff (forest : RawForest) (id : RawId) :
    Surface.typeScript.isPropertyDeclaration forest id = true ↔
      (forest.node id).kind = .propertyDeclaration := by
  simp [Surface.typeScript, Surface.ofKinds]

theorem applies_typeScript_iff (rule : ModifierRule) (forest : RawForest) (modifier : NodeKind)
    (id : RawId) (parent : Option RawId) :
    rule.applies Surface.typeScript forest modifier id parent = true ↔
      rule.Forbids modifier (forest.node id).kind
        (parent.map fun holder => (forest.node holder).kind) := by
  cases rule with
  | typeMember => simp [applies, Forbids]
  | indexSignature =>
      by_cases isStatic : modifier = .staticKeyword
      · simp [applies, Forbids, ← isClassLike_typeScript_iff, isStatic]
      · simp [applies, Forbids, isStatic]
  | typeParameter => simp [applies, Forbids, and_assoc]
  | readonly => simp [applies, Forbids]
  | declare =>
      simp [applies, Forbids, ← isClassLike_typeScript_iff, ← isPropertyDeclaration_typeScript_iff,
        and_assoc]
  | abstract => simp [applies, Forbids]
  | moduleElement =>
      cases parent with
      | none => simp [applies, Forbids]
      | some holder => simp [applies, Forbids]
  | accessor => simp [applies, Forbids]
  | async => simp [applies, Forbids]

theorem InClass.not_module {parent : Option NodeKind} (inside : InClass parent) :
    parent ≠ some .moduleBlock ∧ parent ≠ some .sourceFile := by
  rcases inside with rfl | rfl <;> simp

theorem allowedOnDeclaration_of_allowed {modifier kind : NodeKind} {parent : Option NodeKind}
    (allowed : Allowed modifier kind parent) :
    AllowedOnDeclaration modifier kind parent ∨
      modifier = .readonlyKeyword ∧ (kind = .propertySignature ∨ kind = .indexSignature) := by
  unfold Allowed at allowed
  split at allowed
  next => exact Or.inr ⟨allowed, Or.inl rfl⟩
  next => exact allowed.elim
  next =>
      rcases allowed with isReadonly | ⟨rfl, inside⟩
      · exact Or.inr ⟨isReadonly, Or.inr rfl⟩
      · exact Or.inl (InClass.not_module inside)
  next =>
      rcases allowed with rfl | rfl
      · exact Or.inl trivial
      · exact Or.inl trivial
  next => exact Or.inl allowed

theorem not_forbids_of_allowed {modifier kind : NodeKind} {parent : Option NodeKind}
    (allowed : Allowed modifier kind parent) (rule : ModifierRule) :
    ¬rule.Forbids modifier kind parent := by
  intro forbidden
  have declared (notReadonly : modifier ≠ .readonlyKeyword) :
      AllowedOnDeclaration modifier kind parent :=
    (allowedOnDeclaration_of_allowed allowed).resolve_right fun readonly => notReadonly readonly.1
  cases rule with
  | typeMember =>
      obtain ⟨notReadonly, rfl | rfl⟩ := forbidden
      · exact notReadonly allowed
      · exact allowed
  | indexSignature =>
      obtain ⟨notReadonly, rfl, outside⟩ := forbidden
      rcases allowed with isReadonly | ⟨isStatic, inside⟩
      · exact notReadonly isReadonly
      · exact outside isStatic inside
  | typeParameter =>
      obtain ⟨notIn, notOut, rfl⟩ := forbidden
      rcases allowed with isIn | isOut
      · exact notIn isIn
      · exact notOut isOut
  | readonly =>
      obtain ⟨rfl, elsewhere⟩ := forbidden
      simp only [readonlyKinds, List.mem_cons, List.not_mem_nil, or_false, not_or] at elsewhere
      rcases allowedOnDeclaration_of_allowed allowed with (isProperty | isParameter) |
        ⟨_, isSignature | isIndex⟩
      · exact elsewhere.1 isProperty
      · exact elsewhere.2.2.2 isParameter
      · exact elsewhere.2.1 isSignature
      · exact elsewhere.2.2.1 isIndex
  | declare =>
      obtain ⟨rfl, inside, notProperty⟩ := forbidden
      exact notProperty (declared (by decide) inside)
  | abstract =>
      obtain ⟨rfl, elsewhere⟩ := forbidden
      exact elsewhere (declared (by decide))
  | moduleElement =>
      obtain ⟨listed, onModule⟩ := forbidden
      simp only [List.mem_cons, List.not_mem_nil, or_false] at listed
      have outside : parent ≠ some .moduleBlock ∧ parent ≠ some .sourceFile := by
        rcases listed with rfl | rfl | rfl | rfl <;> exact declared (by decide)
      exact onModule.elim outside.1 outside.2
  | accessor =>
      obtain ⟨rfl, notProperty⟩ := forbidden
      exact notProperty (declared (by decide))
  | async =>
      obtain ⟨rfl, elsewhere⟩ := forbidden
      exact elsewhere (declared (by decide))

theorem allowed_of_not_forbids {modifier kind : NodeKind} {parent : Option NodeKind}
    (free : ∀ rule : ModifierRule, ¬rule.Forbids modifier kind parent) :
    Allowed modifier kind parent := by
  unfold Allowed
  split
  next => exact Classical.byContradiction fun other => free .typeMember ⟨other, Or.inl rfl⟩
  next =>
      by_cases isReadonly : modifier = .readonlyKeyword
      · exact free .readonly ⟨isReadonly, by decide⟩
      · exact free .typeMember ⟨isReadonly, Or.inr rfl⟩
  next =>
      by_cases isReadonly : modifier = .readonlyKeyword
      · exact Or.inl isReadonly
      · exact Or.inr (Classical.byContradiction fun other =>
          free .indexSignature ⟨isReadonly, rfl, fun isStatic inside => other ⟨isStatic, inside⟩⟩)
  next =>
      by_cases isIn : modifier = .inKeyword
      · exact Or.inl isIn
      · exact Or.inr (Classical.byContradiction fun notOut =>
          free .typeParameter ⟨isIn, notOut, rfl⟩)
  next notSignature _ notIndex _ =>
      have outside (listed : modifier ∈
          [.staticKeyword, .publicKeyword, .protectedKeyword, .privateKeyword]) :
          parent ≠ some .moduleBlock ∧ parent ≠ some .sourceFile :=
        ⟨fun onBlock => free .moduleElement ⟨listed, Or.inl onBlock⟩,
          fun onFile => free .moduleElement ⟨listed, Or.inr onFile⟩⟩
      unfold AllowedOnDeclaration
      split
      next =>
          refine Classical.byContradiction fun other => free .readonly ⟨rfl, ?_⟩
          simp only [readonlyKinds, List.mem_cons, List.not_mem_nil, or_false]
          rintro (isProperty | isSignature | isIndex | isParameter)
          · exact other (Or.inl isProperty)
          · exact notSignature isSignature
          · exact notIndex isIndex
          · exact other (Or.inr isParameter)
      next =>
          intro inside
          exact Classical.byContradiction fun other => free .declare ⟨rfl, inside, other⟩
      next => exact Classical.byContradiction fun other => free .abstract ⟨rfl, other⟩
      next => exact outside (by decide)
      next => exact outside (by decide)
      next => exact outside (by decide)
      next => exact outside (by decide)
      next => exact Classical.byContradiction fun other => free .accessor ⟨rfl, other⟩
      next => exact Classical.byContradiction fun other => free .async ⟨rfl, other⟩
      next => trivial

theorem forall_not_applies_typeScript_iff (forest : RawForest) (modifier : NodeKind) (id : RawId)
    (parent : Option RawId) :
    (∀ rule : ModifierRule, rule.applies Surface.typeScript forest modifier id parent = false) ↔
      Allowed modifier (forest.node id).kind
        (parent.map fun holder => (forest.node holder).kind) := by
  simp only [← Bool.not_eq_true, applies_typeScript_iff]
  constructor
  · exact allowed_of_not_forbids
  · exact not_forbids_of_allowed

end ModifierRule

/-- A public node that is rightly placed, given its raw node and the parent of that. -/
structure LegallyPlaced (result : ParseResult) (shown : PublicId) (raw : RawId)
    (parent : Option RawId) : Prop where
  no_illegal_decorators : (result.file.forest.node raw).illegalDecorators = []
  no_hidden_initializer :
    ¬((result.file.forest.node raw).kind = .propertyDeclaration ∧
      (result.file.forest.node raw).initializer ≠ none ∧
      (result.publics.node shown).value = none ∧
      ∃ modifier ∈ (result.file.forest.node raw).modifiers,
        (result.file.forest.node modifier).kind = .abstractKeyword)
  modifiers_allowed : ∀ modifier ∈ (result.file.forest.node raw).modifiers,
    (result.file.forest.node modifier).kind ≠ .decorator →
      Allowed (result.file.forest.node modifier).kind (result.file.forest.node raw).kind
        (parent.map fun holder => (result.file.forest.node holder).kind)

theorem hidesInitializer_typeScript_iff (publics : PublicForest) (forest : RawForest) (raw : RawId)
    (shown : PublicId) :
    Check.hidesInitializer Surface.typeScript publics forest raw shown = true ↔
      (forest.node raw).kind = .propertyDeclaration ∧ (forest.node raw).initializer ≠ none ∧
        (publics.node shown).value = none ∧
        ∃ modifier ∈ (forest.node raw).modifiers,
          (forest.node modifier).kind = .abstractKeyword := by
  simp only [Check.hidesInitializer, RawForest.hasModifier, Bool.and_eq_true,
    ModifierRule.isPropertyDeclaration_typeScript_iff, Option.isSome_iff_ne_none,
    Option.isNone_iff_eq_none, List.any_eq_true, beq_iff_eq, and_assoc]

theorem firstMisplaced_typeScript_eq_none_iff (file : SourceFile) (raw : RawId) :
    Check.firstMisplaced Surface.typeScript file raw = none ↔
      ∀ modifier ∈ (file.forest.node raw).modifiers,
        (file.forest.node modifier).kind ≠ .decorator →
          Allowed (file.forest.node modifier).kind (file.forest.node raw).kind
            ((file.parentOf raw).map fun holder => (file.forest.node holder).kind) := by
  rw [Check.firstMisplaced_eq_none_iff]
  refine forall₂_congr fun modifier _ => ?_
  rw [ModifierRule.forall_not_applies_typeScript_iff]
  simp [Surface.typeScript, Surface.ofKinds]

theorem defaults_pass_iff_legallyPlaced (result : ParseResult) (shown : PublicId) (raw : RawId) :
    (∀ check ∈ Check.defaults,
        check.run Surface.typeScript result.publics result.file raw shown = .ok ()) ↔
      LegallyPlaced result shown raw (result.file.parentOf raw) := by
  rw [Check.defaults_pass_iff, ← Bool.not_eq_true, hidesInitializer_typeScript_iff,
    firstMisplaced_typeScript_eq_none_iff]
  constructor
  · rintro ⟨decorators, initializer, modifiers⟩
    exact ⟨decorators, initializer, modifiers⟩
  · intro legal
    exact ⟨legal.no_illegal_decorators, legal.no_hidden_initializer, legal.modifiers_allowed⟩

/-- All checks together accept a parse result when every public node of its walk that has a raw node of
its own is legally placed. -/
theorem accepts_iff_legallyPlaced (result : ParseResult) (usesFastPath : Bool) :
    ((Validator.mk Check.defaults usesFastPath).inspect Surface.typeScript result).outcome =
        .ok () ↔
      ∀ shown ∈ result.publics.walk result.ast,
        ∀ raw, result.correlation.correlate shown = some raw →
          ∃ parent, result.file.IsParent raw parent ∧ LegallyPlaced result shown raw parent := by
  simp only [Validator.inspect_outcome_eq_ok_iff, defaults_pass_iff_legallyPlaced,
    PublicForest.mem_walk_iff, ← SourceFile.parentOf_eq_iff, exists_eq_left']

end Placement
