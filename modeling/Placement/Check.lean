import Placement.CheckName
import Placement.Failure
import Placement.SourceFile

/-!
The placement checks. Each looks at one raw node together with the public node that it is shown as,
and reports the first violation it sees.
-/

namespace Placement

structure Check where
  name : String
  run : Surface → PublicForest → SourceFile → RawId → PublicId → Except Failure Unit

namespace Check

/-- The failure that reports a violation, or the fault that keeps it from being reported. The location
is resolved before the violation is built. -/
def report (cause : CauseDraft) (location : Except Fault Location) (reason : String) : Failure :=
  match location with
  | .error fault => .fault fault
  | .ok location =>
      match Violation.build? cause (some location) reason with
      | .error fault => .fault fault
      | .ok violation => .violation violation

def decoratorReason : String :=
  "Decorators are not valid here."

def checkDecorators (file : SourceFile) (raw : RawId) : Except Failure Unit :=
  match (file.forest.node raw).illegalDecorators with
  | [] => .ok ()
  | first :: _ =>
      match (file.forest.node first).expression with
      | none => .error (.fault .illegalDecoratorWithoutExpression)
      | some expression =>
          .error (report .decorator (file.rawLocation expression) decoratorReason)

def abstractPropertyReason : String :=
  "Abstract property cannot have an initializer"

/-- A property with an initializer that its public node hides because the property is abstract. -/
def hidesInitializer (surface : Surface) (publics : PublicForest) (forest : RawForest) (raw : RawId)
    (shown : PublicId) : Bool :=
  surface.isPropertyDeclaration forest raw && (forest.node raw).initializer.isSome &&
    (publics.node shown).value.isNone && forest.hasModifier raw .abstractKeyword

def checkAbstractProperty (surface : Surface) (publics : PublicForest) (file : SourceFile)
    (raw : RawId) (shown : PublicId) : Except Failure Unit :=
  if hidesInitializer surface publics file.forest raw shown then
    .error (report .abstractInitializer (file.publicLocation publics shown) abstractPropertyReason)
  else .ok ()

def firstMisplaced (surface : Surface) (file : SourceFile) (raw : RawId) :
    Option (RawId × ModifierRule) :=
  (file.forest.node raw).modifiers.findSome? fun modifier =>
    if surface.isDecorator file.forest modifier then none
    else
      (ModifierRule.firstViolated surface file.forest (file.forest.node modifier).kind raw
        (file.parentOf raw)).map fun rule => (modifier, rule)

/-- The failure for a misplaced modifier. Its spelling is looked up before its location. -/
def reportModifier (surface : Surface) (file : SourceFile) (modifier : RawId) (rule : ModifierRule) :
    Failure :=
  match surface.keywordText (file.forest.node modifier).kind with
  | .error fault => .fault fault
  | .ok spelling =>
      report (.modifier (some rule) spelling) (file.rawLocation modifier) (rule.message spelling)

def checkModifiers (surface : Surface) (file : SourceFile) (raw : RawId) : Except Failure Unit :=
  match firstMisplaced surface file raw with
  | none => .ok ()
  | some (modifier, rule) => .error (reportModifier surface file modifier rule)

def builtin (name : CheckName) : Check where
  name := name.text
  run :=
    match name with
    | .decorators => fun _ _ file raw _ => checkDecorators file raw
    | .abstractProperty => checkAbstractProperty
    | .modifiers => fun surface _ file raw _ => checkModifiers surface file raw

def defaults : List Check :=
  CheckName.all.map builtin

end Check

end Placement
