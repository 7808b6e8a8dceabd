import Mathlib
import Placement.Proofs.LineBreaks

/-!
The line table as an encoding of offsets: the line of an offset is the number of breaks that end at or
before it, its column the distance to the end of the last of them. Line and column together give the offset
back, and they grow with it.
-/

namespace Placement

namespace Text

variable {text : Text} {offset : Nat}

/-- Line breaks that end at or before an offset. -/
def breaksBefore (text : Text) (offset : Nat) : List (Nat × Nat) :=
  (lineBreaks.search text 0).filter fun range => range.2 ≤ offset

def lastEnd (ranges : List (Nat × Nat)) : Nat :=
  (ranges.getLast?.map Prod.snd).getD 0

theorem getD_countP (first bound : Nat) (ends : List Nat) (ascending : ends.Pairwise (· < ·)) :
    (first :: ends).getD (ends.countP (· ≤ bound)) 0 =
      (ends.filter (· ≤ bound)).getLast?.getD first := by
  induction ends generalizing first with
  | nil => rfl
  | cons next rest ih =>
      obtain ⟨above, ascending⟩ := List.pairwise_cons.1 ascending
      by_cases reached : next ≤ bound
      · rw [List.countP_cons_of_pos (by simpa using reached), List.getD_cons_succ,
          ih next ascending, List.filter_cons_of_pos (by simpa using reached), List.getLast?_cons,
          Option.getD_some]
      · have beyond : ∀ stop ∈ next :: rest, ¬stop ≤ bound := by
          intro stop member
          rcases List.mem_cons.1 member with rfl | later
          · exact reached
          · have := above stop later
            omega
        rw [List.countP_eq_zero.2 (by simpa using beyond),
          List.filter_eq_nil_iff.2 (by simpa using beyond)]
        rfl

theorem place_fst (text : Text) (offset : Nat) :
    (place text offset).1 = (breaksBefore text offset).length := by
  rw [place_eq_tablePlace, tablePlace, ← map_snd_search List.drop_zero, List.countP_map,
    List.countP_eq_length_filter]
  rfl

theorem lineStart_place (text : Text) (offset : Nat) :
    (lineStarts text).getD (place text offset).1 0 = lastEnd (breaksBefore text offset) := by
  rw [place_eq_tablePlace, tablePlace, lineStarts, getD_countP 0 offset _ (breakEnds_pairwise text 0),
    ← map_snd_search List.drop_zero, List.filter_map, List.getLast?_map]
  rfl

theorem lastEnd_le (text : Text) (offset : Nat) : lastEnd (breaksBefore text offset) ≤ offset := by
  rw [lastEnd]
  cases last : (breaksBefore text offset).getLast? with
  | none => exact Nat.zero_le offset
  | some range =>
      have member := List.mem_of_getLast? last
      simpa [breaksBefore] using (List.mem_filter.1 member).2

theorem lineStart_add_column (text : Text) (offset : Nat) :
    (lineStarts text).getD (place text offset).1 0 + (place text offset).2 = offset := by
  have columnEq : (place text offset).2 = offset - (lineStarts text).getD (place text offset).1 0 := by
    rw [place_eq_tablePlace]
    rfl
  have := lastEnd_le text offset
  rw [columnEq, lineStart_place]
  omega

theorem place_injective (text : Text) {first second : Nat}
    (same : place text first = place text second) : first = second := by
  rw [← lineStart_add_column text first, ← lineStart_add_column text second, same]

theorem place_strictMono (text : Text) {first second : Nat} (before : first < second) :
    (place text first).1 < (place text second).1 ∨
      (place text first).1 = (place text second).1 ∧
        (place text first).2 < (place text second).2 := by
  rcases place_mono text (Nat.le_of_lt before) with earlier | ⟨same, _⟩
  · exact Or.inl earlier
  · have firstEq := lineStart_add_column text first
    have secondEq := lineStart_add_column text second
    rw [same] at firstEq
    exact Or.inr ⟨same, by omega⟩

end Text

namespace SourceFile

theorem lineCount_eq (file : SourceFile) :
    file.lineCount = (Text.lineBreaks.search file.text 0).length + 1 := by
  rw [lineCount, file.lineStarts_eq, List.size_toArray, Text.lineStarts_eq_search, List.length_cons,
    List.length_map]

theorem lineAndCharacter_eq_ok_iff (file : SourceFile) (offset : Int) (found : Nat × Nat) :
    file.lineAndCharacter offset = .ok found ↔
      ∃ inside : Nat, offset = inside ∧ inside ≤ file.text.length ∧
        found = Text.place file.text inside := by
  constructor
  · intro located
    by_cases outside : offset < 0 ∨ file.text.length < offset
    · rw [file.lineAndCharacter_of_outside outside] at located
      cases located
    · obtain ⟨inside, rfl⟩ := Int.eq_ofNat_of_zero_le (a := offset) (by omega)
      have bound : inside ≤ file.text.length := by omega
      rw [file.lineAndCharacter_eq bound, Except.ok.injEq] at located
      exact ⟨inside, rfl, bound, located.symm⟩
  · rintro ⟨inside, rfl, bound, rfl⟩
    exact file.lineAndCharacter_eq bound

end SourceFile

/-- Each offset of a text has a place in the line table: as many lines as breaks end at or before it, and the
characters since the last of them. No two offsets have the same place, the places ascend with the offsets,
and there are no others. -/
theorem line_table_counts_breaks (file : SourceFile) :
    let breaksBefore := Text.breaksBefore file.text
    file.lineCount = (Text.lineBreaks.search file.text 0).length + 1 ∧
    (∀ offset : Nat, offset ≤ file.text.length →
      ∃ column, Text.lastEnd (breaksBefore offset) + column = offset ∧
        file.lineAndCharacter offset = .ok ((breaksBefore offset).length, column) ∧
        (breaksBefore offset).length < file.lineCount) ∧
    (∀ offset : Int, offset < 0 ∨ file.text.length < offset →
      file.lineAndCharacter offset = .error (.offsetOutOfRange offset file.text.length)) ∧
    (∀ (first second : Int) (found : Nat × Nat), file.lineAndCharacter first = .ok found →
      file.lineAndCharacter second = .ok found → first = second) ∧
    (∀ (first second : Int) (found later : Nat × Nat), file.lineAndCharacter first = .ok found →
      file.lineAndCharacter second = .ok later → first < second →
        found.1 < later.1 ∨ found.1 = later.1 ∧ found.2 < later.2) := by
  intro breaksBefore
  refine ⟨file.lineCount_eq, ?_, ?_, ?_, ?_⟩
  · intro offset inside
    have lineEq := Text.place_fst file.text offset
    have backEq := Text.lineStart_add_column file.text offset
    rw [Text.lineStart_place] at backEq
    refine ⟨(Text.place file.text offset).2, backEq, ?_, ?_⟩
    · rw [file.lineAndCharacter_eq inside, ← lineEq]
    · rw [← lineEq, SourceFile.lineCount, file.lineStarts_eq, List.size_toArray]
      exact Text.place_fst_lt file.text offset
  · intro offset outside
    exact file.lineAndCharacter_of_outside outside
  · intro first second found firstFound secondFound
    obtain ⟨first, rfl, _, rfl⟩ := (file.lineAndCharacter_eq_ok_iff _ _).1 firstFound
    obtain ⟨second, rfl, _, same⟩ := (file.lineAndCharacter_eq_ok_iff _ _).1 secondFound
    rw [Text.place_injective file.text same]
  · intro first second found later firstFound secondFound before
    obtain ⟨first, rfl, _, rfl⟩ := (file.lineAndCharacter_eq_ok_iff _ _).1 firstFound
    obtain ⟨second, rfl, _, rfl⟩ := (file.lineAndCharacter_eq_ok_iff _ _).1 secondFound
    exact Text.place_strictMono file.text (by omega)

def RawForest.rootAlone : RawForest :=
  .ofDrafts [⟨some .sourceFile, 0, 0, none, none, none, none, []⟩]

theorem RawForest.kind_rootAlone : (rootAlone.node 0).kind = .sourceFile := by
  decide

theorem RawForest.rootAlone_inside (text : Text) : (rootAlone.node 0).stop ≤ text.length := by
  have atStart : (rootAlone.node 0).stop = 0 := by decide
  rw [atStart]
  exact Nat.zero_le _

theorem ParentIndex.build?_rootAlone : ParentIndex.build? .rootAlone 0 = .ok [] := by
  cbv

def mixedBreaks : SourceFile where
  forest := .rootAlone
  root := 0
  text := "a\r\r\n\u2028b".toList
  length := 6
  lineStarts := #[0, 2, 4, 5]
  parents := []
  root_kind := RawForest.kind_rootAlone
  root_inside := RawForest.rootAlone_inside _
  length_eq := by decide
  lineStarts_eq := by cbv
  parents_eq := ParentIndex.build?_rootAlone

theorem mixedBreaks_line_table :
    mixedBreaks.lineCount = 4 ∧
      (3 ≤ mixedBreaks.text.length ∧
        ∃ column, 2 + column = 3 ∧ mixedBreaks.lineAndCharacter 3 = .ok (1, column)) ∧
      ((mixedBreaks.text.length : Int) < 7 ∧
        mixedBreaks.lineAndCharacter 7 = .error (.offsetOutOfRange 7 6)) ∧
      ∃ found later, mixedBreaks.lineAndCharacter 3 = .ok found ∧
        mixedBreaks.lineAndCharacter 4 = .ok later ∧
        (found.1 < later.1 ∨ found.1 = later.1 ∧ found.2 < later.2) ∧ found ≠ later := by
  have broken : Text.lineBreaks.search mixedBreaks.text 0 = [(1, 2), (2, 4), (4, 5)] := by cbv
  have broken_before : Text.breaksBefore mixedBreaks.text 3 = [(1, 2)] := by
    rw [Text.breaksBefore, broken]
    rfl
  have third : mixedBreaks.lineAndCharacter 3 = .ok (1, 1) := by cbv
  have fourth : mixedBreaks.lineAndCharacter 4 = .ok (2, 0) := by cbv
  have inside : 3 ≤ mixedBreaks.text.length := by decide
  have beyond : (mixedBreaks.text.length : Int) < 7 := by decide
  obtain ⟨counted, places, refused, distinct, ordered⟩ := line_table_counts_breaks mixedBreaks
  obtain ⟨column, columnEq, found, _⟩ := places 3 inside
  rw [broken] at counted
  rw [broken_before] at columnEq found
  refine ⟨counted, ⟨inside, column, columnEq, found⟩, ⟨beyond, refused 7 (Or.inr beyond)⟩, _, _, third,
    fourth, ordered 3 4 _ _ third fourth (by decide), ?_⟩
  intro same
  rw [same] at third
  exact absurd (distinct 3 4 _ third fourth) (by decide)

end Placement
