import Placement.Tree.Raw

/-!
The compiler surface: spellings of keyword kinds and the predicates on nodes that the checks rely on.
-/

namespace Placement

structure Surface where
  tokenText : NodeKind → Option String
  isClassLike : RawForest → Option RawId → Bool
  isDecorator : RawForest → RawId → Bool
  isPropertyDeclaration : RawForest → RawId → Bool

structure SurfaceDraft where
  hasKinds : Bool
  tokenText : Option (NodeKind → Option String)
  isClassLike : Option (RawForest → Option RawId → Bool)
  isDecorator : Option (RawForest → RawId → Bool)
  isPropertyDeclaration : Option (RawForest → RawId → Bool)

namespace Surface

def build? (draft : SurfaceDraft) : Except Fault Surface := do
  if !draft.hasKinds then throw (.absent .kinds)
  let some tokenText := draft.tokenText | throw (.notCallable .tokenText)
  let some isClassLike := draft.isClassLike | throw (.notCallable .isClassLike)
  let some isDecorator := draft.isDecorator | throw (.notCallable .isDecorator)
  let some isPropertyDeclaration := draft.isPropertyDeclaration
    | throw (.notCallable .isPropertyDeclaration)
  return ⟨tokenText, isClassLike, isDecorator, isPropertyDeclaration⟩

def ofKinds (tokenText : NodeKind → Option String)
    (classLike decorator propertyDeclaration : NodeKind → Bool) : Surface where
  tokenText := tokenText
  isClassLike forest id := id.any fun id => classLike (forest.node id).kind
  isDecorator forest id := decorator (forest.node id).kind
  isPropertyDeclaration forest id := propertyDeclaration (forest.node id).kind

def typeScriptToken : NodeKind → Option String
  | .abstractKeyword => some "abstract"
  | .accessorKeyword => some "accessor"
  | .asyncKeyword => some "async"
  | .constKeyword => some "const"
  | .declareKeyword => some "declare"
  | .defaultKeyword => some "default"
  | .exportKeyword => some "export"
  | .inKeyword => some "in"
  | .outKeyword => some "out"
  | .overrideKeyword => some "override"
  | .privateKeyword => some "private"
  | .protectedKeyword => some "protected"
  | .publicKeyword => some "public"
  | .readonlyKeyword => some "readonly"
  | .staticKeyword => some "static"
  | _ => none

def isTypeScriptClass (kind : NodeKind) : Bool :=
  kind == .classDeclaration || kind == .classExpression

def typeScript : Surface :=
  ofKinds typeScriptToken isTypeScriptClass (· == .decorator) (· == .propertyDeclaration)

def keywordText (surface : Surface) (kind : NodeKind) : Except Fault String :=
  match surface.tokenText kind with
  | some spelling => .ok spelling
  | none => .error (.noTokenText kind)

theorem typeScriptToken_isSome_iff (kind : NodeKind) :
    (typeScriptToken kind).isSome = true ↔ kind.isModifierKeyword = true := by
  cases kind <;> decide

end Surface

end Placement
