import Placement.Text.Cursor

/-!
Text in runs of one style each, as the library that prints to a terminal is assumed to show it. Some
control characters are dropped, tabs reach to the next stop of the output line, and colour encloses each
styled run in escape sequences.
-/

namespace Placement

inductive Style where
  | plain
  | boldRed
  | dim
  | boldDimRed
  deriving DecidableEq, Repr

def Style.codes? : Style → Option String
  | .plain => none
  | .boldRed => some "1;31"
  | .dim => some "2"
  | .boldDimRed => some "1;2;31"

structure StyledRun where
  style : Style
  text : Text
  deriving DecidableEq, Repr

abbrev StyledText := List StyledRun

namespace StyledText

def plainText (styled : StyledText) : Text :=
  styled.flatMap StyledRun.text

/-- Bell, backspace, vertical tab, form feed and carriage return are never shown. -/
def isDropped (c : Char) : Bool :=
  c == '\x07' || c == '\x08' || c == '\x0b' || c == '\x0c' || c == '\r'

def dropControls (styled : StyledText) : StyledText :=
  styled.map fun run => ⟨run.style, run.text.filter fun c => !isDropped c⟩

def trimEnd : StyledText → StyledText
  | [] => []
  | run :: rest =>
      match trimEnd rest with
      | [] =>
          match Text.trimEnd run.text with
          | [] => []
          | kept => [⟨run.style, kept⟩]
      | kept => run :: kept

/-- The text with its tabs expanded, when it begins at the given place of an output line. -/
def expandTabs (cursor : Text.Cursor) : Text → Text
  | [] => []
  | c :: rest => cursor.shown c ++ expandTabs (cursor.advance c) rest

def expandRuns (cursor : Text.Cursor) : StyledText → StyledText
  | [] => []
  | run :: rest =>
      ⟨run.style, expandTabs cursor run.text⟩ ::
        expandRuns (run.text.foldl Text.Cursor.advance cursor) rest

def paintRun (run : StyledRun) : Text :=
  match run.style.codes?, run.text with
  | none, text => text
  | some _, [] => []
  | some codes, text => "\x1b[".toList ++ codes.toList ++ 'm' :: text ++ "\x1b[0m".toList

def paint (color : Bool) (styled : StyledText) : Text :=
  if color then styled.flatMap paintRun else styled.plainText

def printLine (color : Bool) (styled : StyledText) : Text :=
  paint color (expandRuns .start styled) ++ ['\n']

end StyledText

end Placement
