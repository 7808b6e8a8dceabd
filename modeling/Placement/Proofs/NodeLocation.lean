import Placement.Proofs.TriviaRun

/-!
Locations of nodes. A node has a location exactly if it ends in the text, and the location gives back the
offsets of the node: a public node begins where it says, a raw node where the trivia in front of it end, if
that is not behind the node.
-/

namespace Placement

namespace SourceFile

def offsetOf (file : SourceFile) (position : Position) : Option Nat :=
  file.lineStarts[position.line - 1]?.map fun start => start + position.column

theorem offsetOf_position (file : SourceFile) (offset : Nat) :
    file.offsetOf (Text.position file.text offset) = some offset := by
  have back := Text.lineStart_add_column file.text offset
  have inTable := Text.place_fst_lt file.text offset
  rw [List.getD_eq_getElem?_getD, List.getElem?_eq_getElem inTable, Option.getD_some] at back
  rw [offsetOf, file.lineStarts_eq, List.getElem?_toArray, Text.position, Nat.add_sub_cancel,
    List.getElem?_eq_getElem inTable, Option.map_some, back]

/-- What comes of locating a range: a location if the range ends in the text, with the positions of both of
its ends, and else the refusal of one of its ends by the line table. -/
structure Resolves (file : SourceFile) (range : Nat × Nat) (outcome : Except Fault Location) :
    Prop where
  located_iff : (∃ location, outcome = .ok location) ↔ range.2 ≤ file.text.length
  refused : file.text.length < range.2 → ∃ offset : Nat, (offset = range.1 ∨ offset = range.2) ∧
    file.lineAndCharacter offset = .error (.offsetOutOfRange offset file.text.length) ∧
    outcome = .error (.offsetOutOfRange offset file.text.length)
  never_reversed : ∀ first last, outcome ≠ .error (.endPrecedesStart first last)
  offsets : ∀ location, outcome = .ok location →
    file.offsetOf location.start = some range.1 ∧ file.offsetOf location.stop = some range.2

theorem resolves_locate (file : SourceFile) {range : Nat × Nat} (ordered : range.1 ≤ range.2) :
    file.Resolves range (file.locate range) := by
  by_cases inside : range.2 ≤ file.text.length
  · rw [file.locate_of_inside ordered inside]
    refine ⟨⟨fun _ => inside, fun _ => ⟨_, rfl⟩⟩, ?_, ?_, ?_⟩
    · intro beyond
      omega
    · intro first last reversed
      cases reversed
    · rintro location ⟨⟩
      exact ⟨file.offsetOf_position range.1, file.offsetOf_position range.2⟩
  · have beyond : file.text.length < range.2 := Nat.lt_of_not_le inside
    rw [file.locate_of_beyond beyond]
    refine ⟨⟨?_, fun ends => absurd ends inside⟩, fun _ => ?_, ?_, ?_⟩
    · rintro ⟨location, located⟩
      cases located
    · refine ⟨_, ?_, ?_, rfl⟩
      · split
        · exact Or.inl rfl
        · exact Or.inr rfl
      · refine file.lineAndCharacter_of_outside (Or.inr ?_)
        split <;> omega
    · intro first last reversed
      cases reversed
    · intro location located
      cases located

theorem rawRange_start (file : SourceFile) (id : RawId) :
    let node := file.forest.node id
    let start := (file.rawRange id).1
    node.pos ≤ start ∧ start ≤ node.stop ∧
      (start = node.stop ∧ node.stop < file.skipTrivia node.pos ∨
        (∃ pieces, Text.TriviaRun file.text node.pos pieces start) ∧
          ∀ next, ¬Text.Trivium file.text start next) := by
  intro node start
  obtain ⟨⟨pieces, run⟩, ended⟩ := Text.skipTrivia_run file.text node.pos
  have startEq : start = min (file.skipTrivia node.pos) node.stop := rfl
  have after : node.pos ≤ file.skipTrivia node.pos := run.le
  have ordered : node.pos ≤ node.stop := node.pos_le_stop
  refine ⟨by omega, by omega, ?_⟩
  by_cases fits : file.skipTrivia node.pos ≤ node.stop
  · rw [startEq, Nat.min_eq_left fits]
    exact Or.inr ⟨⟨pieces, run⟩, ended⟩
  · have straddles : node.stop < file.skipTrivia node.pos := Nat.lt_of_not_le fits
    exact Or.inl ⟨by omega, straddles⟩

end SourceFile

/-- A node, in the tree or not, has a location exactly if it ends in the text, else the line table refuses one
of its ends. The location leads back to both ends of the node's range: those that a public node states, and
for a raw node its end and where the trivia from its offset on are over, unless they reach beyond its end. -/
theorem nodes_are_located_exactly (file : SourceFile) :
    (∀ id, let node := file.forest.node id
      let start := (file.rawRange id).1
      file.rawRange id = (start, node.stop) ∧
      file.Resolves (start, node.stop) (file.rawLocation id) ∧
      node.pos ≤ start ∧ start ≤ node.stop ∧
      (start = node.stop ∧ node.stop < file.skipTrivia node.pos ∨
        (∃ pieces, Text.TriviaRun file.text node.pos pieces start) ∧
          ∀ next, ¬Text.Trivium file.text start next)) ∧
    (∀ (publics : PublicForest) (id : PublicId), let node := publics.node id
      SourceFile.publicRange publics id = (node.start, node.stop) ∧
      file.Resolves (node.start, node.stop) (file.publicLocation publics id)) := by
  refine ⟨?_, ?_⟩
  · intro id node start
    exact ⟨rfl, file.resolves_locate (file.rawRange_ordered id), file.rawRange_start id⟩
  · intro publics id node
    exact ⟨rfl, file.resolves_locate node.start_le_stop⟩

end Placement
