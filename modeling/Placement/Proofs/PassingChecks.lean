import Placement.Check

/-!
When the checks pass: each is satisfied exactly by the pairs of nodes on which nothing it looks for
stands, whatever the surface says about nodes.
-/

namespace Placement

namespace Check

theorem checkDecorators_eq_ok_iff (file : SourceFile) (raw : RawId) :
    checkDecorators file raw = .ok () ↔ (file.forest.node raw).illegalDecorators = [] := by
  rw [checkDecorators]
  split
  next absent => simp [absent]
  next first rest given =>
      rw [given]
      split <;> simp

theorem checkAbstractProperty_eq_ok_iff (surface : Surface) (publics : PublicForest)
    (file : SourceFile) (raw : RawId) (shown : PublicId) :
    checkAbstractProperty surface publics file raw shown = .ok () ↔
      hidesInitializer surface publics file.forest raw shown = false := by
  rw [checkAbstractProperty]
  split
  next hidden => simp [hidden]
  next plain => simp [plain]

theorem firstMisplaced_eq_none_iff (surface : Surface) (file : SourceFile) (raw : RawId) :
    firstMisplaced surface file raw = none ↔
      ∀ modifier ∈ (file.forest.node raw).modifiers,
        surface.isDecorator file.forest modifier = false →
          ∀ rule, ModifierRule.applies rule surface file.forest
            (file.forest.node modifier).kind raw (file.parentOf raw) = false := by
  rw [firstMisplaced, List.findSome?_eq_none_iff]
  refine forall₂_congr fun modifier _ => ?_
  cases surface.isDecorator file.forest modifier with
  | true => simp
  | false =>
      simp only [Bool.false_eq_true, ↓reduceIte, Option.map_eq_none_iff,
        ModifierRule.firstViolated_eq_none_iff, forall_const]

theorem firstMisplaced_eq_some {surface : Surface} {file : SourceFile} {raw modifier : RawId}
    {rule : ModifierRule} (misplaced : firstMisplaced surface file raw = some (modifier, rule)) :
    modifier ∈ (file.forest.node raw).modifiers ∧
      surface.isDecorator file.forest modifier = false := by
  obtain ⟨found, member, foundEq⟩ := List.exists_of_findSome?_eq_some misplaced
  split at foundEq
  next => cases foundEq
  next notDecorator =>
      obtain ⟨_, _, same⟩ := Option.map_eq_some_iff.1 foundEq
      cases same
      exact ⟨member, by simpa using notDecorator⟩

theorem checkModifiers_eq_ok_iff (surface : Surface) (file : SourceFile) (raw : RawId) :
    checkModifiers surface file raw = .ok () ↔ firstMisplaced surface file raw = none := by
  rw [checkModifiers]
  cases firstMisplaced surface file raw with
  | none => simp
  | some found => simp

theorem defaults_pass_iff (surface : Surface) (publics : PublicForest) (file : SourceFile)
    (raw : RawId) (shown : PublicId) :
    (∀ check ∈ defaults, check.run surface publics file raw shown = .ok ()) ↔
      (file.forest.node raw).illegalDecorators = [] ∧
        hidesInitializer surface publics file.forest raw shown = false ∧
        firstMisplaced surface file raw = none := by
  simp only [defaults, CheckName.all, List.map_cons, List.map_nil, List.forall_mem_cons, builtin,
    checkDecorators_eq_ok_iff, checkAbstractProperty_eq_ok_iff, checkModifiers_eq_ok_iff,
    List.not_mem_nil, false_implies, implies_true, and_true]

end Check

end Placement
