import Placement.NodeKind
import Placement.Position
import Placement.Text.Quoted

/-!
Broken invariants. Every value is checked where it is built, and the first invariant that fails is
the fault; its message is the only place where its wording is fixed.
-/

namespace Placement

inductive Part where
  | kind
  | text
  | root
  | endpoints
  | correlationMaps
  | ast
  | correlation
  | sourceFile
  | location
  | rule
  | kinds
  | loader
  deriving DecidableEq, Repr

def Part.name : Part → String
  | .kind => "kind"
  | .text => "text"
  | .root => "root"
  | .endpoints => "start and end"
  | .correlationMaps => "correlation maps"
  | .ast => "ast"
  | .correlation => "correlation"
  | .sourceFile => "source_file"
  | .location => "location"
  | .rule => "rule"
  | .kinds => "syntax_kind"
  | .loader => "loader"

inductive SurfaceOperation where
  | tokenText
  | isClassLike
  | isDecorator
  | isPropertyDeclaration
  deriving DecidableEq, Repr

def SurfaceOperation.name : SurfaceOperation → String
  | .tokenText => "token_to_string"
  | .isClassLike => "is_class_like"
  | .isDecorator => "is_decorator"
  | .isPropertyDeclaration => "is_property_declaration"

inductive Fault where
  | absent (part : Part)
  | notCallable (operation : SurfaceOperation)
  | unknownName (name : String)
  | unknownNode (id : Nat)
  | notANode (described : String)
  | negativePos (pos : Int)
  | endBeforePos (stop pos : Int)
  | noModifiers
  | notAModifier (kind : NodeKind)
  | modifiersOutOfOrder
  | noIllegalDecorators
  | illegalDecoratorKind (kind : NodeKind)
  | illegalDecoratorWithoutExpression
  | emptyType
  | negativeStart (start : Int)
  | endBeforeStart (stop start : Int)
  | valueNotAChild
  | rootKind (kind : NodeKind)
  | rootBeyondText (stop length : Nat)
  | reachableTwice (kind : NodeKind) (pos : Nat)
  | textMismatch
  | offsetOutOfRange (offset : Int) (length : Nat)
  | lineNotPositive (line : Int)
  | negativeColumn (column : Int)
  | endPrecedesStart (start stop : Position)
  | noTokenText (kind : NodeKind)
  | emptyReason
  | emptyModifier
  | emptyModuleName
  | emptyLoaderModule
  | noEnabledChecks
  | emptySurfaceModule
  | narrowConsole (width : Int)
  | negativeContext (lines : Int)
  | unlocated
  | noKind (className : String)
  deriving DecidableEq, Repr

namespace Fault

def message : Fault → String
  | absent part => part.name ++ " must not be None"
  | notCallable operation => operation.name ++ " must be callable"
  | unknownName name => quoted name
  | unknownNode _ => "list index out of range"
  | notANode described => "expected SyntaxNode or PublicNode, got " ++ described
  | negativePos pos => s!"pos must be >= 0, got {pos}"
  | endBeforePos stop pos => s!"end ({stop}) must be >= pos ({pos})"
  | noModifiers => "modifiers must be None or non-empty"
  | notAModifier kind => kind.name ++ " is not a modifier"
  | modifiersOutOfOrder => "modifiers must be in source order"
  | noIllegalDecorators => "illegal_decorators must be None or non-empty"
  | illegalDecoratorKind kind => "illegal decorator has kind " ++ kind.name
  | illegalDecoratorWithoutExpression => "illegal decorator must have an expression"
  | emptyType => "type must not be empty"
  | negativeStart start => s!"start must be >= 0, got {start}"
  | endBeforeStart stop start => s!"end ({stop}) must be >= start ({start})"
  | valueNotAChild => "value must be one of children"
  | rootKind kind => "root must be SOURCE_FILE, got " ++ kind.name
  | rootBeyondText stop length => s!"root end ({stop}) exceeds text length ({length})"
  | reachableTwice kind pos => kind.name ++ s!" node at {pos} is reachable twice"
  | textMismatch => "text must match source_file.text"
  | offsetOutOfRange offset length => s!"offset {offset} out of range 0..{length}"
  | lineNotPositive line => s!"line must be > 0, got {line}"
  | negativeColumn column => s!"column must be >= 0, got {column}"
  | endPrecedesStart start stop =>
      "end (" ++ stop.render ++ ") must not precede start (" ++ start.render ++ ")"
  | noTokenText kind => kind.name ++ " has no token text"
  | emptyReason => "reason must be non-empty string"
  | emptyModifier => "modifier must be non-empty string"
  | emptyModuleName => "module_name must be non-empty string"
  | emptyLoaderModule => "module_name must not be empty"
  | noEnabledChecks => "enabled_checks must be None or non-empty"
  | emptySurfaceModule => "compiler_api_module must not be empty"
  | narrowConsole width => s!"width must be >= 20, got {width}"
  | negativeContext lines => s!"context_lines must be >= 0, got {lines}"
  | unlocated => "'NoneType' object has no attribute 'start'"
  | noKind className => "'" ++ className ++ "' object has no attribute 'kind'"

end Fault

end Placement
