import Placement.Proofs.CaretColumns
import Placement.Proofs.MarkedColumns
import Placement.Proofs.PrintedText

/-!
Columns of the output. A caret row counts the characters before a located one, while the source row above
it is printed with its tabs expanded. The first caret stands below the located character if each tab before
that one is a single blank wide, and else to the left of it.
-/

namespace Placement

namespace Text.Cursor

variable {c : Char} {cursor : Cursor}

theorem tabGap_eq_zero_iff (free : cursor.joins = false) :
    cursor.tabGap = 0 ↔ tabWidth ∣ cursor.cell + 1 := by
  simp only [tabGap, afterBlank, free, tabWidth, Bool.false_eq_true, ↓reduceIte]
  omega

theorem length_shown_tab (cursor : Cursor) : (cursor.shown '\t').length = cursor.tabGap + 1 := by
  rw [shown, if_pos rfl, spaces, List.length_replicate]

theorem shown_of_ne_tab (cursor : Cursor) (noTab : c ≠ '\t') : cursor.shown c = [c] :=
  if_neg noTab

theorem advance_simple (simple : IsPrintable c ∨ c = '\t') (free : cursor.joins = false) :
    (cursor.advance c).joins = false ∧
      (cursor.advance c).cell = cursor.cell + (cursor.shown c).length := by
  rcases simple with printable | rfl
  · have noTab := (StyledText.isKept_of_isPrintable printable).2
    rw [advance_ascii cursor c free printable.1 printable.2, shown_of_ne_tab cursor noTab]
    exact ⟨rfl, rfl⟩
  · rw [length_shown_tab, advance, if_neg (by decide), if_pos rfl, afterBlank, free,
      if_neg Bool.false_ne_true]
    exact ⟨rfl, by dsimp only; omega⟩

end Text.Cursor

namespace StyledText

variable {cursor : Text.Cursor} {text : Text} {c : Char}

theorem isDropped_of_simple (simple : Text.IsPrintable c ∨ c = '\t') : isDropped c = false := by
  rcases simple with printable | rfl
  · exact (isKept_of_isPrintable printable).1
  · rfl

theorem length_le_expandTabs (cursor : Text.Cursor) (text : Text) :
    text.length ≤ (expandTabs cursor text).length := by
  induction text generalizing cursor with
  | nil => exact Nat.le_refl 0
  | cons c rest ih =>
      have later := ih (cursor.advance c)
      have first : 0 < (cursor.shown c).length := by
        by_cases tab : c = '\t'
        · rw [tab, Text.Cursor.length_shown_tab]
          exact Nat.succ_pos _
        · rw [Text.Cursor.shown_of_ne_tab cursor tab]
          exact Nat.one_pos
      rw [expandTabs, List.length_append, List.length_cons]
      omega

theorem foldl_advance_simple (simple : ∀ c ∈ text, Text.IsPrintable c ∨ c = '\t')
    (free : cursor.joins = false) :
    (text.foldl Text.Cursor.advance cursor).joins = false ∧
      (text.foldl Text.Cursor.advance cursor).cell =
        cursor.cell + (expandTabs cursor text).length := by
  induction text generalizing cursor with
  | nil => exact ⟨free, rfl⟩
  | cons c rest ih =>
      obtain ⟨first, simple⟩ := List.forall_mem_cons.1 simple
      obtain ⟨stillFree, cellEq⟩ := Text.Cursor.advance_simple first free
      rw [List.foldl_cons, expandTabs, List.length_append, ← Nat.add_assoc, ← cellEq]
      exact ih simple stillFree

theorem length_expandTabs_eq_iff (simple : ∀ c ∈ text, Text.IsPrintable c ∨ c = '\t')
    (free : cursor.joins = false) :
    (expandTabs cursor text).length = text.length ↔
      ∀ index, text[index]? = some '\t' → Text.tabWidth ∣ cursor.cell + index + 1 := by
  induction text generalizing cursor with
  | nil => simp [expandTabs]
  | cons c rest ih =>
      obtain ⟨first, simple⟩ := List.forall_mem_cons.1 simple
      obtain ⟨stillFree, cellEq⟩ := Text.Cursor.advance_simple first free
      have later := ih simple stillFree
      have growing := length_le_expandTabs (cursor.advance c) rest
      rw [← Nat.and_forall_add_one, expandTabs, List.length_append, List.length_cons]
      simp only [List.getElem?_cons_zero, List.getElem?_cons_succ, Option.some.injEq]
      by_cases narrow : (cursor.shown c).length = 1
      · have firstStops : c = '\t' → Text.tabWidth ∣ cursor.cell + 0 + 1 := by
          rintro rfl
          rw [Text.Cursor.length_shown_tab] at narrow
          exact (Text.Cursor.tabGap_eq_zero_iff free).1 (by omega)
        have shifted : ∀ index, (cursor.advance c).cell + index + 1 =
            cursor.cell + (index + 1) + 1 := by
          intro index
          omega
        simp only [shifted] at later
        rw [and_iff_right firstStops, ← later]
        omega
      · have isTab : c = '\t' := by
          by_contra noTab
          exact narrow (by rw [Text.Cursor.shown_of_ne_tab cursor noTab]; rfl)
        subst isTab
        rw [Text.Cursor.length_shown_tab] at narrow ⊢
        have wide : ¬Text.tabWidth ∣ cursor.cell + 0 + 1 := by
          rw [Nat.add_zero, ← Text.Cursor.tabGap_eq_zero_iff free]
          omega
        refine iff_of_false (by omega) fun stops => wide (stops.1 rfl)

theorem shown_of_append {styled : StyledText} {kept rest : Text} (noTab : c ≠ '\t')
    (plainEq : styled.plainText = kept ++ c :: rest) :
    styled.shown[(expandTabs .start kept).length]? = some c := by
  rw [shown, plainEq, expandTabs_append, List.getElem?_append_right (Nat.le_refl _), Nat.sub_self,
    expandTabs, Text.Cursor.shown_of_ne_tab _ noTab]
  rfl

end StyledText

theorem Text.not_isBlank_of_isPrintable {c : Char} (printable : IsPrintable c) (noSpace : c ≠ ' ') :
    ¬isBlank c = true := by
  obtain ⟨low, high⟩ := printable
  have notSpace : c.toNat ≠ 0x20 := fun same => noSpace (Char.ext (UInt32.toNat_inj.1 same))
  simp only [isBlank, blankRanges, inRanges, List.any_cons, List.any_nil, Bool.or_false,
    Bool.or_eq_true, Bool.and_eq_true, decide_eq_true_eq]
  omega

theorem Text.getElem?_line_of_place {text content : Text} {offset : Nat} {c : Char}
    (lineEq : (splitLines text)[(place text offset).1]? = some content)
    (found : text[offset]? = some c) (unbroken : ¬isLineBreak c = true) :
    content[(place text offset).2]? = some c := by
  obtain ⟨start, begins, isLine⟩ := (linesFrom_start text).isLine lineEq
  obtain ⟨offsetEq, onLine⟩ := (place_eq_iff begins).1 rfl
  have inside := (List.getElem?_eq_some_iff.1 found).1
  have notBreak : ¬BreaksAt text offset := by
    rintro ⟨other, same, breaks⟩
    cases found.symm.trans same
    exact unbroken breaks
  generalize (place text offset).2 = column at offsetEq ⊢
  subst offsetEq
  rw [isLine.breaksAt_iff inside onLine, Nat.not_le] at notBreak
  rw [← isLine.getElem? notBreak, found]

namespace Frame

variable {file : SourceFile} {range : Nat × Nat} {location : Location} {c : Char}

/-- The first line of an excerpt that is marked, with its marker, between the lines around it. -/
structure FirstMarked (frame : Frame) (above : List FrameLine) (line : FrameLine) (marker : Marker)
    (below : List FrameLine) : Prop where
  split : frame = above ++ line :: below
  unmarked : ∀ other ∈ above, other.marker = none
  marked : line.marker = some marker

theorem FirstMarked.mem {frame : Frame} {above below : List FrameLine} {line : FrameLine}
    {marker : Marker} (first : frame.FirstMarked above line marker below) : line ∈ frame := by
  rw [first.split]
  exact List.mem_append_right _ List.mem_cons_self

theorem exists_firstMarked (located : file.locate range = .ok location)
    (found : file.text[range.1]? = some c) (unbroken : ¬Text.isLineBreak c = true) (context : Nat) :
    ∃ above line marker below,
      FirstMarked (build file.text location context) above line marker below ∧
        marker.blanks = location.start.column ∧ 0 < marker.carets ∧
          line.text[location.start.column]? = some c := by
  have reached : location.start.line ≤ location.stop.line := by
    have ordered := location.ordered
    rw [Position.le_iff] at ordered
    omega
  obtain ⟨line, member, numberEq⟩ := shows_range located context (Nat.le_refl _) reached
  obtain ⟨above, below, split⟩ := List.append_of_mem member
  have ascending := build_ascending file.text location context
  rw [split, List.pairwise_append] at ascending
  have markerEq := (mem_build member).2
  rw [FrameLine.markerAt, if_pos (by omega), if_pos numberEq] at markerEq
  have standing : line.text[location.start.column]? = some c := by
    obtain ⟨_, _, rfl⟩ := SourceFile.eq_of_locate located
    have lineEq := (mem_build member).1
    rw [numberEq] at lineEq
    exact Text.getElem?_line_of_place lineEq found unbroken
  refine ⟨above, line, _, below, ⟨split, fun other isAbove => ?_, markerEq⟩, rfl, ?_, standing⟩
  · have before := ascending.2.2 other isAbove line List.mem_cons_self
    have otherEq := (mem_build (split ▸ List.mem_append_left (line :: below) isAbove)).2
    rw [otherEq, FrameLine.markerAt, if_neg (by omega)]
  · dsimp only
    omega

end Frame

namespace ConsoleReport

variable {c : Char} {gutter column : Nat} {line : FrameLine}

/-- The output column of a character of a source line. -/
def printedColumn (gutter : Nat) (line : FrameLine) (column : Nat) : Nat :=
  (StyledText.expandTabs .start (lead gutter line ++ line.text.take column)).length

theorem length_lead (fits : (Nat.toDigits 10 line.number).length ≤ gutter) :
    (lead gutter line).length = gutter + 5 := by
  simp only [lead, List.length_append, List.length_cons, Text.length_padLeft _ _ fits]
  rfl

theorem exists_plainText_sourceRow (gutter : Nat)
    (simple : ∀ c ∈ line.text, Text.IsPrintable c ∨ c = '\t')
    (found : line.text[column]? = some c) (visible : ¬Text.isBlank c = true) :
    ∃ rest, (sourceRow gutter line).plainText =
      lead gutter line ++ line.text.take column ++ c :: rest := by
  have shownAll : (row gutter line).dropControls.plainText = (row gutter line).plainText := by
    rw [StyledText.plainText_dropControls, List.filter_eq_self]
    intro other member
    rw [StyledText.isDropped_of_simple ((mem_row member).elim Or.inl (simple other))]
    rfl
  obtain ⟨rest, trimmed⟩ := Text.prefix_trimEnd visible (lead gutter line ++ line.text.take column)
    (line.text.drop (column + 1))
  refine ⟨rest, ?_⟩
  have lineEq : line.text = line.text.take column ++ c :: line.text.drop (column + 1) := by
    rw [← Text.drop_of_getElem? found, List.take_append_drop]
  rw [sourceRow, StyledText.plainText_trimEnd, shownAll, plainText_row]
  conv_lhs => rw [lineEq]
  simp only [List.append_assoc, List.cons_append, List.nil_append] at trimmed ⊢
  exact trimmed.symm

theorem exists_cursor_behind_lead (line : FrameLine)
    (fits : (Nat.toDigits 10 line.number).length ≤ gutter) :
    ∃ cursor : Text.Cursor, cursor.joins = false ∧ cursor.cell = gutter + 5 ∧
      ∀ text, StyledText.expandTabs .start (lead gutter line ++ text) =
        lead gutter line ++ StyledText.expandTabs cursor text := by
  have shownAlone : StyledText.expandTabs .start (lead gutter line) = lead gutter line :=
    StyledText.expandTabs_of_no_tab _ fun tab =>
      (StyledText.isKept_of_isPrintable (isPrintable_of_mem_lead tab)).2 rfl
  have atStart : Text.Cursor.start.joins = false := rfl
  obtain ⟨free, cellEq⟩ := StyledText.foldl_advance_simple
    (fun c (member : c ∈ lead gutter line) => Or.inl (isPrintable_of_mem_lead member)) atStart
  rw [shownAlone, length_lead fits] at cellEq
  refine ⟨_, free, cellEq.trans (Nat.zero_add _), fun text => ?_⟩
  rw [StyledText.expandTabs_append, shownAlone]

theorem printedColumn_eq_iff (fits : (Nat.toDigits 10 line.number).length ≤ gutter)
    (simple : ∀ c ∈ line.text, Text.IsPrintable c ∨ c = '\t') (inside : column ≤ line.text.length) :
    gutter + 5 + column ≤ printedColumn gutter line column ∧
      (printedColumn gutter line column = gutter + 5 + column ↔
        ∀ before < column, line.text[before]? = some '\t' →
          Text.tabWidth ∣ gutter + 5 + before + 1) := by
  obtain ⟨cursor, free, cellEq, shownBehind⟩ := exists_cursor_behind_lead line fits
  have takenLength : (line.text.take column).length = column := List.length_take_of_le inside
  have growing := StyledText.length_le_expandTabs cursor (line.text.take column)
  have narrow := StyledText.length_expandTabs_eq_iff
    (fun c member => simple c (List.mem_of_mem_take member) : ∀ c ∈ line.text.take column, _) free
  simp only [takenLength, cellEq, List.getElem?_take, Option.ite_none_right_eq_some, and_imp]
    at growing narrow
  rw [printedColumn, shownBehind, List.length_append, length_lead fits, Nat.add_right_inj, narrow]
  exact ⟨Nat.add_le_add_left growing _, Iff.rfl⟩

/-- The output column of the first caret of a row. -/
def caretColumn? (gutter : Nat) (marker : Marker) : Option Nat :=
  (caretRow gutter marker).shown.idxOf? '^'

theorem caretColumn?_eq (gutter : Nat) {marker : Marker} (marked : 0 < marker.carets) :
    caretColumn? gutter marker = some (gutter + 5 + marker.blanks) := by
  have kept : ∀ c ∈ (caretRow gutter marker).plainText, StyledText.IsKept c := fun c member =>
    StyledText.isKept_of_isPrintable (isPrintable_of_mem_caretRow member)
  rw [caretColumn?, StyledText.shown_of_kept kept, plainText_caretRow, List.idxOf?_eq_some_iff]
  have carets := PlainReport.getElem?_caretRow gutter marker
  have firstCaret := (carets (gutter + 5 + marker.blanks)).2 (by omega)
  obtain ⟨inside, isCaret⟩ := List.getElem?_eq_some_iff.1 firstCaret
  refine ⟨inside, isCaret, fun before isBefore earlierCaret => ?_⟩
  have := (carets before).1 (List.getElem?_eq_some_iff.2 ⟨_, earlierCaret⟩)
  omega

theorem styledLines_of_firstMarked {context : Nat} {violation : Violation} {text : Text}
    {above below : List FrameLine} {marker : Marker}
    (first : (Frame.build text violation.location context).FirstMarked above line marker below) :
    let gutter := (Frame.build text violation.location context).gutterWidth
    styledLines context violation text =
      (header violation).dropControls :: (above.map (sourceRow gutter) ++ sourceRow gutter line ::
        caretRow gutter marker :: below.flatMap (lineRows gutter)) := by
  intro gutter
  have unmarkedRows : above.flatMap (lineRows gutter) = above.map (sourceRow gutter) := by
    rw [List.map_eq_flatMap]
    refine List.flatMap_congr fun other isAbove => ?_
    rw [lineRows, first.unmarked other isAbove]
    rfl
  have rowsEq : rows (Frame.build text violation.location context) =
      (Frame.build text violation.location context).flatMap (lineRows gutter) := rows_eq _
  rw [styledLines, rowsEq, first.split, List.flatMap_append, List.flatMap_cons, unmarkedRows, lineRows,
    first.marked]
  rfl

/-- The first caret stands below the character at the start of the location if and only if each tab before
that character on its line is a single blank wide. A wider one leaves the caret to the left. -/
theorem caret_below_character_iff (file : SourceFile) {range : Nat × Nat} (width context : Nat)
    (wide : 20 ≤ width) {violation : Violation} {c : Char}
    (simple : ∀ c ∈ file.text, Text.IsPrintable c ∨ c = '\t' ∨ Text.isLineBreak c = true)
    (located : file.locate range = .ok violation.location)
    (found : file.text[range.1]? = some c) (visible : c ∉ [' ', '\t'])
    (unbroken : ¬Text.isLineBreak c = true) :
    let frame := Frame.build file.text violation.location context
    let gutter := frame.gutterWidth
    let column := violation.location.start.column
    ∃ above line marker below,
      frame.FirstMarked above line marker below ∧ line.text[column]? = some c ∧
        render ⟨false, width, context, wide⟩ violation file.text =
          PlainReport.written (((header violation).dropControls :: (above.map (sourceRow gutter) ++
            sourceRow gutter line :: caretRow gutter marker ::
              below.flatMap (lineRows gutter))).map StyledText.shown) ∧
        (sourceRow gutter line).shown[printedColumn gutter line column]? = some c ∧
        (∃ caret ≤ printedColumn gutter line column, caretColumn? gutter marker = some caret) ∧
        (caretColumn? gutter marker = some (printedColumn gutter line column) ↔
          ∀ before < column, line.text[before]? = some '\t' →
            Text.tabWidth ∣ gutter + 5 + before + 1) := by
  intro frame gutter column
  obtain ⟨noSpace, noTab⟩ : c ≠ ' ' ∧ c ≠ '\t' := by simpa using visible
  have printable : Text.IsPrintable c :=
    (simple c (List.mem_of_getElem? found)).resolve_right (not_or.2 ⟨noTab, unbroken⟩)
  obtain ⟨above, line, marker, below, first, blanksEq, marked, standing⟩ :=
    Frame.exists_firstMarked located found unbroken context
  have simpleLine : ∀ c ∈ line.text, Text.IsPrintable c ∨ c = '\t' := by
    intro c member
    obtain ⟨inText, plain⟩ := Text.mem_of_mem_splitLines (Frame.mem_build first.mem).1 member
    exact (or_assoc.2 (simple c inText)).resolve_right plain
  have fits := Frame.length_toDigits_le_gutterWidth first.mem
  have inside := Nat.le_of_lt (List.getElem?_eq_some_iff.1 standing).1
  obtain ⟨rest, plainEq⟩ := exists_plainText_sourceRow gutter simpleLine standing
    (Text.not_isBlank_of_isPrintable printable noSpace)
  obtain ⟨notLeft, narrow⟩ := printedColumn_eq_iff fits simpleLine inside
  have caretEq := caretColumn?_eq gutter marked
  rw [blanksEq] at caretEq
  refine ⟨above, line, marker, below, first, standing, ?_, StyledText.shown_of_append noTab plainEq,
    ⟨_, notLeft, caretEq⟩, ?_⟩
  · rw [render_uncoloured, styledLines_of_firstMarked first]
  · rw [caretEq, Option.some.injEq, eq_comm]
    exact narrow

def tabbed : SourceFile where
  forest := .rootAlone
  root := 0
  text := "\tx\na\tx".toList
  length := 6
  lineStarts := #[0, 3]
  parents := []
  root_kind := RawForest.kind_rootAlone
  root_inside := RawForest.rootAlone_inside _
  length_eq := by decide
  lineStarts_eq := by cbv
  parents_eq := ParentIndex.build?_rootAlone

def decoratorAt (location : Location) : Violation where
  cause := .decorator
  location := location
  reason := "r"
  spelled := trivial
  reason_ne_empty := by decide

def behindTab : Location :=
  ⟨⟨1, 1, Nat.one_pos⟩, ⟨1, 2, Nat.one_pos⟩, by decide⟩

def behindLetterAndTab : Location :=
  ⟨⟨2, 2, Nat.two_pos⟩, ⟨2, 3, Nat.two_pos⟩, by decide⟩

theorem tabbed_caret_below_letter :
    (∀ c ∈ tabbed.text, Text.IsPrintable c ∨ c = '\t' ∨ Text.isLineBreak c = true) ∧
      tabbed.locate (5, 6) = .ok behindLetterAndTab ∧ tabbed.text[5]? = some 'x' ∧
      'x' ∉ [' ', '\t'] ∧ ¬Text.isLineBreak 'x' = true ∧
      Frame.build tabbed.text behindLetterAndTab 1 =
        [⟨1, "\tx".toList, none⟩, ⟨2, "a\tx".toList, some ⟨2, 1⟩⟩] ∧
      caretColumn? 1 ⟨2, 1⟩ = some (printedColumn 1 ⟨2, "a\tx".toList, some ⟨2, 1⟩⟩ 2) := by
  have simple : ∀ c ∈ tabbed.text, Text.IsPrintable c ∨ c = '\t' ∨ Text.isLineBreak c = true := by
    simp [tabbed, Text.IsPrintable, Text.isLineBreak]
  have located : tabbed.locate (5, 6) = .ok (decoratorAt behindLetterAndTab).location := by cbv
  have found : tabbed.text[(5, 6).1]? = some 'x' := rfl
  have built : Frame.build tabbed.text (decoratorAt behindLetterAndTab).location 1 =
      [⟨1, "\tx".toList, none⟩, ⟨2, "a\tx".toList, some ⟨2, 1⟩⟩] := by cbv
  obtain ⟨above, line, marker, below, first, _, _, _, _, aligned_iff⟩ :=
    caret_below_character_iff tabbed 20 1 (Nat.le_refl 20) simple located found (by decide) (by decide)
  have member := first.mem
  rw [built] at member aligned_iff
  refine ⟨simple, located, rfl, by decide, by decide, built, ?_⟩
  rcases List.mem_cons.1 member with rfl | member
  · cases first.marked
  · obtain rfl := List.mem_singleton.1 member
    cases first.marked
    refine aligned_iff.2 fun before isBefore isTab => ?_
    rcases before with _ | _ | before
    · cases isTab
    · decide
    · exact absurd isBefore (Nat.not_lt.2 (Nat.le_add_left 2 before))

theorem tabbed_caret_left_of_letter :
    tabbed.locate (1, 2) = .ok behindTab ∧ tabbed.text[1]? = some 'x' ∧
      Frame.build tabbed.text behindTab 0 = [⟨1, "\tx".toList, some ⟨1, 1⟩⟩] ∧
      render ⟨false, 20, 0, Nat.le_refl 20⟩ (decoratorAt behindTab) tabbed.text =
        "SyntaxError: r (1:1)\n> 1 |   x\n    |  ^\n".toList ∧
      printedColumn 1 ⟨1, "\tx".toList, some ⟨1, 1⟩⟩ 1 = 8 ∧ caretColumn? 1 ⟨1, 1⟩ = some 7 := by
  refine ⟨by cbv, rfl, by cbv, ?_, ?_, ?_⟩
  · decide +kernel
  · decide +kernel
  · decide +kernel

end ConsoleReport

end Placement
