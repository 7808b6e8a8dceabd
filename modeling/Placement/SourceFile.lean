import Placement.Location
import Placement.ParentIndex
import Placement.Text.Lines
import Placement.Text.Trivia
import Placement.Tree.Public

/-!
A source file: its text with the table of line starts, and the raw tree parsed from it with the parents
of its nodes. Offsets are turned into positions and nodes into ranges and locations here.
-/

namespace Placement

structure SourceFile where
  forest : RawForest
  root : RawId
  text : Text
  length : Nat
  lineStarts : Array Nat
  parents : ParentIndex
  root_kind : (forest.node root).kind = .sourceFile
  root_inside : (forest.node root).stop ≤ text.length
  length_eq : length = text.length
  lineStarts_eq : lineStarts = (Text.lineStarts text).toArray
  parents_eq : ParentIndex.build? forest root = .ok parents

namespace SourceFile

def build? (forest : RawForest) : Option Text → Option RawId → Except Fault SourceFile
  | none, _ => .error (.absent .text)
  | some _, none => .error (.absent .root)
  | some text, some root =>
      if kind : (forest.node root).kind = .sourceFile then
        if inside : (forest.node root).stop ≤ text.length then
          match indexed : ParentIndex.build? forest root with
          | .error fault => .error fault
          | .ok parents => .ok ⟨forest, root, text, _, _, parents, kind, inside, rfl, rfl, indexed⟩
        else .error (.rootBeyondText (forest.node root).stop text.length)
      else .error (.rootKind (forest.node root).kind)

def lineCount (file : SourceFile) : Nat :=
  file.lineStarts.size

/-- Line and character of an offset, both counted from zero. The end of the text has a place too. -/
def lineAndCharacter (file : SourceFile) (offset : Int) : Except Fault (Nat × Nat) :=
  if 0 ≤ offset ∧ offset ≤ file.length then
    let line := Text.lineOf file.lineStarts offset.toNat
    .ok (line, offset.toNat - file.lineStarts.getD line 0)
  else .error (.offsetOutOfRange offset file.length)

def position (file : SourceFile) (offset : Nat) : Except Fault Position := do
  let (line, character) ← file.lineAndCharacter offset
  return ⟨line + 1, character, Nat.succ_pos line⟩

def skipTrivia (file : SourceFile) (offset : Nat) : Nat :=
  Text.skipTrivia file.text offset

def parentOf (file : SourceFile) (id : RawId) : Option RawId :=
  file.parents.parentOf id

def contains (file : SourceFile) (id : RawId) : Bool :=
  id == file.root || (file.parentOf id).isSome

/-- Start and end of a raw node, which starts at its first token if one comes before its end. -/
def rawRange (file : SourceFile) (id : RawId) : Nat × Nat :=
  let node := file.forest.node id
  (min (file.skipTrivia node.pos) node.stop, node.stop)

def publicRange (publics : PublicForest) (id : PublicId) : Nat × Nat :=
  let node := publics.node id
  (node.start, node.stop)

def locate (file : SourceFile) (range : Nat × Nat) : Except Fault Location := do
  let start ← file.position range.1
  let stop ← file.position range.2
  Location.between? start stop

def rawLocation (file : SourceFile) (id : RawId) : Except Fault Location :=
  file.locate (file.rawRange id)

def publicLocation (file : SourceFile) (publics : PublicForest) (id : PublicId) :
    Except Fault Location :=
  file.locate (publicRange publics id)

end SourceFile

end Placement
