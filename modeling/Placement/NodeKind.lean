/-!
Kinds of syntax nodes in the order of their numbering, and the fifteen keyword kinds that may stand
in a modifier list.
-/

namespace Placement

inductive NodeKind where
  | abstractKeyword
  | accessorKeyword
  | asyncKeyword
  | constKeyword
  | declareKeyword
  | defaultKeyword
  | exportKeyword
  | inKeyword
  | outKeyword
  | overrideKeyword
  | privateKeyword
  | protectedKeyword
  | publicKeyword
  | readonlyKeyword
  | staticKeyword
  | identifier
  | numericLiteral
  | stringLiteral
  | callExpression
  | propertyAccessExpression
  | functionExpression
  | arrowFunction
  | classExpression
  | decorator
  | typeReference
  | typeLiteral
  | constructorType
  | typeParameter
  | propertyDeclaration
  | propertySignature
  | methodDeclaration
  | methodSignature
  | indexSignature
  | constructor
  | getAccessor
  | setAccessor
  | classStaticBlock
  | parameter
  | block
  | expressionStatement
  | variableStatement
  | variableDeclaration
  | functionDeclaration
  | classDeclaration
  | interfaceDeclaration
  | typeAliasDeclaration
  | enumDeclaration
  | moduleDeclaration
  | moduleBlock
  | importDeclaration
  | exportAssignment
  | sourceFile
  deriving DecidableEq, Repr

namespace NodeKind

instance : Inhabited NodeKind := ⟨.identifier⟩

def all : List NodeKind :=
  [ .abstractKeyword, .accessorKeyword, .asyncKeyword, .constKeyword, .declareKeyword,
    .defaultKeyword, .exportKeyword, .inKeyword, .outKeyword, .overrideKeyword, .privateKeyword,
    .protectedKeyword, .publicKeyword, .readonlyKeyword, .staticKeyword, .identifier,
    .numericLiteral, .stringLiteral, .callExpression, .propertyAccessExpression,
    .functionExpression, .arrowFunction, .classExpression, .decorator, .typeReference,
    .typeLiteral, .constructorType, .typeParameter, .propertyDeclaration, .propertySignature,
    .methodDeclaration, .methodSignature, .indexSignature, .constructor, .getAccessor,
    .setAccessor, .classStaticBlock, .parameter, .block, .expressionStatement, .variableStatement,
    .variableDeclaration, .functionDeclaration, .classDeclaration, .interfaceDeclaration,
    .typeAliasDeclaration, .enumDeclaration, .moduleDeclaration, .moduleBlock, .importDeclaration,
    .exportAssignment, .sourceFile]

def name : NodeKind → String
  | .abstractKeyword => "ABSTRACT_KEYWORD"
  | .accessorKeyword => "ACCESSOR_KEYWORD"
  | .asyncKeyword => "ASYNC_KEYWORD"
  | .constKeyword => "CONST_KEYWORD"
  | .declareKeyword => "DECLARE_KEYWORD"
  | .defaultKeyword => "DEFAULT_KEYWORD"
  | .exportKeyword => "EXPORT_KEYWORD"
  | .inKeyword => "IN_KEYWORD"
  | .outKeyword => "OUT_KEYWORD"
  | .overrideKeyword => "OVERRIDE_KEYWORD"
  | .privateKeyword => "PRIVATE_KEYWORD"
  | .protectedKeyword => "PROTECTED_KEYWORD"
  | .publicKeyword => "PUBLIC_KEYWORD"
  | .readonlyKeyword => "READONLY_KEYWORD"
  | .staticKeyword => "STATIC_KEYWORD"
  | .identifier => "IDENTIFIER"
  | .numericLiteral => "NUMERIC_LITERAL"
  | .stringLiteral => "STRING_LITERAL"
  | .callExpression => "CALL_EXPRESSION"
  | .propertyAccessExpression => "PROPERTY_ACCESS_EXPRESSION"
  | .functionExpression => "FUNCTION_EXPRESSION"
  | .arrowFunction => "ARROW_FUNCTION"
  | .classExpression => "CLASS_EXPRESSION"
  | .decorator => "DECORATOR"
  | .typeReference => "TYPE_REFERENCE"
  | .typeLiteral => "TYPE_LITERAL"
  | .constructorType => "CONSTRUCTOR_TYPE"
  | .typeParameter => "TYPE_PARAMETER"
  | .propertyDeclaration => "PROPERTY_DECLARATION"
  | .propertySignature => "PROPERTY_SIGNATURE"
  | .methodDeclaration => "METHOD_DECLARATION"
  | .methodSignature => "METHOD_SIGNATURE"
  | .indexSignature => "INDEX_SIGNATURE"
  | .constructor => "CONSTRUCTOR"
  | .getAccessor => "GET_ACCESSOR"
  | .setAccessor => "SET_ACCESSOR"
  | .classStaticBlock => "CLASS_STATIC_BLOCK"
  | .parameter => "PARAMETER"
  | .block => "BLOCK"
  | .expressionStatement => "EXPRESSION_STATEMENT"
  | .variableStatement => "VARIABLE_STATEMENT"
  | .variableDeclaration => "VARIABLE_DECLARATION"
  | .functionDeclaration => "FUNCTION_DECLARATION"
  | .classDeclaration => "CLASS_DECLARATION"
  | .interfaceDeclaration => "INTERFACE_DECLARATION"
  | .typeAliasDeclaration => "TYPE_ALIAS_DECLARATION"
  | .enumDeclaration => "ENUM_DECLARATION"
  | .moduleDeclaration => "MODULE_DECLARATION"
  | .moduleBlock => "MODULE_BLOCK"
  | .importDeclaration => "IMPORT_DECLARATION"
  | .exportAssignment => "EXPORT_ASSIGNMENT"
  | .sourceFile => "SOURCE_FILE"

def named? (name : String) : Option NodeKind :=
  all.find? fun kind => kind.name == name

def number (kind : NodeKind) : Nat :=
  all.idxOf kind + 1

def modifierKeywords : List NodeKind :=
  [ .abstractKeyword, .accessorKeyword, .asyncKeyword, .constKeyword, .declareKeyword,
    .defaultKeyword, .exportKeyword, .inKeyword, .outKeyword, .overrideKeyword, .privateKeyword,
    .protectedKeyword, .publicKeyword, .readonlyKeyword, .staticKeyword]

def isModifierKeyword (kind : NodeKind) : Bool :=
  modifierKeywords.contains kind

theorem isModifierKeyword_iff (kind : NodeKind) :
    kind.isModifierKeyword = true ↔ kind ∈ modifierKeywords := by
  simp [isModifierKeyword]

end NodeKind

end Placement
