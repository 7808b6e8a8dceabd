import Placement.Correlation
import Placement.SourceFile

/-!
Everything that a parser produced for one text: the source file with its raw tree, the public tree, and
the correlation between the two.
-/

namespace Placement

structure ParseResult where
  publics : PublicForest
  ast : PublicId
  correlation : Correlation
  file : SourceFile

namespace ParseResult

def text (result : ParseResult) : Text :=
  result.file.text

def build? (publics : PublicForest) (ast : Option PublicId) (correlation : Option Correlation)
    (text : Option Text) (file : Option SourceFile) : Except Fault ParseResult := do
  let some ast := ast | throw (.absent .ast)
  let some correlation := correlation | throw (.absent .correlation)
  let some file := file | throw (.absent .sourceFile)
  if text = some file.text then return ⟨publics, ast, correlation, file⟩
  else throw .textMismatch

end ParseResult

end Placement
