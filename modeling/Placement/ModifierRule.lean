import Placement.Surface

/-!
The nine rules against misplaced keyword modifiers, in the order of their numbers. A rule looks at the
modifier's kind, at the node that carries it and at the parent of that node.
-/

namespace Placement

inductive ModifierRule where
  | typeMember
  | indexSignature
  | typeParameter
  | readonly
  | declare
  | abstract
  | moduleElement
  | accessor
  | async
  deriving DecidableEq, Repr

namespace ModifierRule

def all : List ModifierRule :=
  [ .typeMember, .indexSignature, .typeParameter, .readonly, .declare, .abstract, .moduleElement,
    .accessor, .async]

def number (rule : ModifierRule) : Nat :=
  all.idxOf rule + 1

def name : ModifierRule → String
  | .typeMember => "TYPE_MEMBER"
  | .indexSignature => "INDEX_SIGNATURE"
  | .typeParameter => "TYPE_PARAMETER"
  | .readonly => "READONLY"
  | .declare => "DECLARE"
  | .abstract => "ABSTRACT"
  | .moduleElement => "MODULE_ELEMENT"
  | .accessor => "ACCESSOR"
  | .async => "ASYNC"

def named? (name : String) : Option ModifierRule :=
  all.find? fun rule => rule.name == name

def readonlyKinds : List NodeKind :=
  [.propertyDeclaration, .propertySignature, .indexSignature, .parameter]

def abstractKinds : List NodeKind :=
  [ .classDeclaration, .constructorType, .methodDeclaration, .propertyDeclaration, .getAccessor,
    .setAccessor]

def asyncKinds : List NodeKind :=
  [.methodDeclaration, .functionDeclaration, .functionExpression, .arrowFunction]

def applies (rule : ModifierRule) (surface : Surface) (forest : RawForest) (modifier : NodeKind)
    (id : RawId) (parent : Option RawId) : Bool :=
  let kind := (forest.node id).kind
  match rule with
  | .typeMember =>
      modifier != .readonlyKeyword && [.propertySignature, .methodSignature].contains kind
  | .indexSignature =>
      modifier != .readonlyKeyword && kind == .indexSignature &&
        !(modifier == .staticKeyword && surface.isClassLike forest parent)
  | .typeParameter =>
      modifier != .inKeyword && modifier != .outKeyword && kind == .typeParameter
  | .readonly => modifier == .readonlyKeyword && !(readonlyKinds.contains kind)
  | .declare =>
      modifier == .declareKeyword && surface.isClassLike forest parent &&
        !(surface.isPropertyDeclaration forest id)
  | .abstract => modifier == .abstractKeyword && !(abstractKinds.contains kind)
  | .moduleElement =>
      [.staticKeyword, .publicKeyword, .protectedKeyword, .privateKeyword].contains modifier &&
        parent.any fun parent => [.moduleBlock, .sourceFile].contains (forest.node parent).kind
  | .accessor => modifier == .accessorKeyword && kind != .propertyDeclaration
  | .async => modifier == .asyncKeyword && !(asyncKinds.contains kind)

def message (rule : ModifierRule) (spelling : String) : String :=
  match rule with
  | .typeMember => "'" ++ spelling ++ "' modifier cannot appear on a type member"
  | .indexSignature => "'" ++ spelling ++ "' modifier cannot appear on an index signature"
  | .typeParameter => "'" ++ spelling ++ "' modifier cannot appear on a type parameter"
  | .readonly =>
      "'readonly' modifier can only appear on a property declaration or index signature."
  | .declare => "'" ++ spelling ++ "' modifier cannot appear on class elements of this kind."
  | .abstract =>
      "'" ++ spelling ++
        "' modifier can only appear on a class, method, or property declaration."
  | .moduleElement =>
      "'" ++ spelling ++ "' modifier cannot appear on a module or namespace element."
  | .accessor => "'accessor' modifier can only appear on a property declaration."
  | .async => "'async' modifier cannot be used here."

/-- The violated rule with the lowest number. -/
def firstViolated (surface : Surface) (forest : RawForest) (modifier : NodeKind) (id : RawId)
    (parent : Option RawId) : Option ModifierRule :=
  all.find? fun rule => rule.applies surface forest modifier id parent

theorem mem_all (rule : ModifierRule) : rule ∈ all := by
  cases rule <;> decide

theorem firstViolated_eq_none_iff (surface : Surface) (forest : RawForest) (modifier : NodeKind)
    (id : RawId) (parent : Option RawId) :
    firstViolated surface forest modifier id parent = none ↔
      ∀ rule, applies rule surface forest modifier id parent = false := by
  simp [firstViolated, List.find?_eq_none, mem_all]

end ModifierRule

end Placement
