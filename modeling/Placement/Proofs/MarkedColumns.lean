import Mathlib
import Placement.Proofs.LinePieces

/-!
What an excerpt marks. The lines of a located range are marked in the columns of the offsets in the range,
which on lines before the last end at the break. A line that has no such offset gets a single caret.
-/

namespace Placement

namespace Text

variable {text content : Text} {index start column offset bound : Nat} {next : Option Nat}

theorem place_eq_iff (begins : (lineStarts text)[index]? = some start) :
    place text offset = (index, column) ↔
      offset = start + column ∧
        ∀ later, (lineStarts text)[index + 1]? = some later → offset < later := by
  have startEq : (lineStarts text).getD index 0 = start := by
    rw [List.getD_eq_getElem?_getD, begins, Option.getD_some]
  constructor
  · intro placed
    have back := lineStart_add_column text offset
    have lineEq := lineOf_eq_place_fst text offset
    obtain ⟨_, _, beyond⟩ := lineOf_bounds text offset
    rw [placed] at back lineEq
    rw [lineEq, List.getD_eq_getElem?_getD] at beyond
    refine ⟨by rw [← back, startEq], fun later follows => ?_⟩
    rw [follows] at beyond
    exact beyond (List.getElem?_eq_some_iff.1 follows).1
  · rintro ⟨rfl, before⟩
    have counted := countP_le_eq (lineStarts text) (start + column) index (lineStarts_pairwise text)
      (List.getElem?_eq_some_iff.1 begins).1 (by omega) fun follows => by
        rw [List.getD_eq_getElem _ _ follows]
        exact before _ (List.getElem?_eq_getElem follows)
    rw [← lineOf_succ_eq_countP, Nat.add_right_cancel_iff, lineOf_eq_place_fst] at counted
    have back := lineStart_add_column text (start + column)
    rw [counted, startEq] at back
    exact Prod.ext counted (Nat.add_left_cancel back)

def BreaksAt (text : Text) (offset : Nat) : Prop :=
  ∃ c, text[offset]? = some c ∧ isLineBreak c = true

theorem IsLine.getElem? (isLine : IsLine text start content next) (before : column < content.length) :
    text[start + column]? = content[column]? := by
  have standing := isLine.standing
  rw [slice_add] at standing
  rw [← List.getElem?_drop, ← List.getElem?_take_of_lt before, standing]

theorem IsLine.breaksAt_iff (isLine : IsLine text start content next)
    (inside : start + column < text.length)
    (onLine : ∀ later, next = some later → start + column < later) :
    BreaksAt text (start + column) ↔ content.length ≤ column := by
  constructor
  · rintro ⟨c, found, breaks⟩
    by_contra before
    rw [isLine.getElem? (Nat.lt_of_not_le before)] at found
    exact isLine.unbroken c (List.mem_of_getElem? found) breaks
  · intro behind
    cases next with
    | none =>
        have := isLine.last rfl
        omega
    | some later =>
        obtain ⟨laterEq, c, found, breaks⟩ := isLine.broken later rfl
        have before := onLine later rfl
        rcases Nat.lt_or_eq_of_le behind with second | rfl
        · rw [breakLength] at laterEq
          split at laterEq
          next pair =>
            obtain ⟨rest, standing⟩ := pair
            have columnEq : start + column = start + content.length + 1 := by omega
            refine ⟨'\n', ?_, rfl⟩
            rw [columnEq, ← List.getElem?_drop, ← standing]
            rfl
          next => omega
        · exact ⟨c, found, breaks⟩

theorem lt_of_line_lt {first second : Nat}
    (above : (place text first).1 < (place text second).1) : first < second := by
  by_contra reversed
  have := place_mono text (Nat.le_of_not_lt reversed)
  omega

theorem column_le_iff {first second : Nat} (same : (place text first).1 = (place text second).1) :
    (place text first).2 ≤ (place text second).2 ↔ first ≤ second := by
  have firstBack := lineStart_add_column text first
  have secondBack := lineStart_add_column text second
  rw [same] at firstBack
  omega

def firstColumn (text : Text) (offset line : Nat) : Nat :=
  if line = (place text offset).1 then (place text offset).2 else 0

def pastColumn (text : Text) (offset line length : Nat) : Nat :=
  if line = (place text offset).1 then (place text offset).2 else length

theorem firstColumn_le_iff (placed : place text offset = (index, column))
    (reached : (place text bound).1 ≤ index) :
    firstColumn text bound index ≤ column ↔ bound ≤ offset := by
  obtain ⟨rfl, rfl⟩ := Prod.mk.inj placed
  rw [firstColumn]
  split
  next same => exact column_le_iff same.symm
  next different =>
    have above := lt_of_line_lt (Nat.lt_of_le_of_ne reached (Ne.symm different))
    exact iff_of_true (Nat.zero_le _) (Nat.le_of_lt above)

theorem lt_pastColumn_iff (begins : (lineStarts text)[index]? = some start)
    (isLine : IsLine text start content (lineStarts text)[index + 1]?)
    (placed : place text offset = (index, column)) (inside : bound ≤ text.length)
    (reached : index ≤ (place text bound).1) :
    column < pastColumn text bound index content.length ↔
      offset < bound ∧ (index = (place text bound).1 ∨ ¬BreaksAt text offset) := by
  obtain ⟨offsetEq, onLine⟩ := (place_eq_iff begins).1 placed
  rw [pastColumn]
  split
  next same =>
    have columns := column_le_iff (same.symm.trans (congrArg Prod.fst placed).symm)
    rw [placed] at columns
    simp only [same, true_or, and_true]
    rw [← Nat.not_le, ← Nat.not_le, columns]
  next different =>
    have before : offset < bound := lt_of_line_lt (by rw [placed]; omega)
    subst offsetEq
    rw [isLine.breaksAt_iff (by omega) onLine]
    simp only [before, different, true_and, false_or, Nat.not_le]

theorem place_of_lt_pastColumn (begins : (lineStarts text)[index]? = some start)
    (isLine : IsLine text start content (lineStarts text)[index + 1]?)
    (before : column < pastColumn text bound index content.length) :
    place text (start + column) = (index, column) := by
  refine (place_eq_iff begins).2 ⟨rfl, fun later follows => ?_⟩
  rw [pastColumn] at before
  split at before
  next same =>
    have boundPlaced : place text bound = (index, (place text bound).2) := Prod.ext same.symm rfl
    obtain ⟨boundEq, boundBefore⟩ := (place_eq_iff begins).1 boundPlaced
    have := boundBefore later follows
    omega
  next =>
    have := (isLine.broken later follows).1
    omega

end Text

namespace SourceFile

theorem eq_of_locate {file : SourceFile} {range : Nat × Nat} {location : Location}
    (located : file.locate range = .ok location) :
    ∃ ordered : range.1 ≤ range.2, range.2 ≤ file.text.length ∧
      location = ⟨Text.position file.text range.1, Text.position file.text range.2,
        Text.position_mono file.text ordered⟩ := by
  have inside : range.2 ≤ file.text.length := by
    by_contra beyond
    rw [file.locate_of_beyond (Nat.lt_of_not_le beyond)] at located
    cases located
  have ordered : range.1 ≤ range.2 := by
    by_contra reversed
    rw [locate] at located
    by_cases startInside : range.1 ≤ file.text.length
    · rw [file.position_eq startInside, file.position_eq inside] at located
      obtain ⟨startEq, stopEq⟩ := (Location.between?_eq_ok_iff _ _ _).1 located
      have ascends := location.ordered
      rw [startEq, stopEq, Position.le_iff] at ascends
      have descends := Text.place_strictMono file.text (Nat.lt_of_not_le reversed)
      simp only [Text.position] at ascends
      omega
    · rw [file.position_of_beyond (Nat.lt_of_not_le startInside)] at located
      cases located
  rw [file.locate_of_inside ordered inside] at located
  exact ⟨ordered, inside, (Except.ok.inj located).symm⟩

/-- A column in which a line has an offset of a range, given the last line of the range. On other lines the
offsets of the break do not count. -/
def MarksColumn (file : SourceFile) (range : Nat × Nat) (last number column : Nat) : Prop :=
  ∃ offset line : Nat, range.1 ≤ offset ∧ offset < range.2 ∧
    file.lineAndCharacter offset = .ok (line, column) ∧ number = line + 1 ∧
    (number = last ∨ ¬Text.BreaksAt file.text offset)

theorem marksColumn_iff (file : SourceFile) {range : Nat × Nat} {index start column : Nat}
    {content : Text} (inside : range.2 ≤ file.text.length)
    (begins : (Text.lineStarts file.text)[index]? = some start)
    (isLine : Text.IsLine file.text start content (Text.lineStarts file.text)[index + 1]?)
    (from_first : (Text.place file.text range.1).1 ≤ index)
    (to_last : index ≤ (Text.place file.text range.2).1) :
    file.MarksColumn range ((Text.place file.text range.2).1 + 1) (index + 1) column ↔
      Text.firstColumn file.text range.1 index ≤ column ∧
        column < Text.pastColumn file.text range.2 index content.length := by
  constructor
  · rintro ⟨offset, line, after, before, located, numberEq, counts⟩
    obtain rfl := Nat.add_right_cancel numberEq
    obtain ⟨_, offsetEq, _, placed⟩ := (file.lineAndCharacter_eq_ok_iff _ _).1 located
    obtain rfl := Int.ofNat.inj offsetEq
    rw [Nat.add_right_cancel_iff] at counts
    exact ⟨(Text.firstColumn_le_iff placed.symm from_first).2 after,
      (Text.lt_pastColumn_iff begins isLine placed.symm inside to_last).2 ⟨before, counts⟩⟩
  · rintro ⟨after, before⟩
    have placed := Text.place_of_lt_pastColumn begins isLine before
    obtain ⟨upTo, counts⟩ := (Text.lt_pastColumn_iff begins isLine placed inside to_last).1 before
    refine ⟨start + column, index, (Text.firstColumn_le_iff placed from_first).1 after, upTo, ?_, rfl,
      by rwa [Nat.add_right_cancel_iff]⟩
    rw [file.lineAndCharacter_eq (by omega), placed]

end SourceFile

theorem Marker.carets_between {first past : Nat} {Marks : Nat → Prop}
    (marks_iff : ∀ column, Marks column ↔ first ≤ column ∧ column < past) {marker : Marker}
    (markerEq : marker = ⟨first, max (past - first) 1⟩) :
    ((∃ column, Marks column) → ∀ column, marker.text[column]? = some '^' ↔ Marks column) ∧
      ((¬∃ column, Marks column) → marker = ⟨first, 1⟩) := by
  subst markerEq
  refine ⟨?_, ?_⟩
  · rintro ⟨some, marked⟩ column
    have wide := (marks_iff some).1 marked
    rw [getElem?_text, marks_iff]
    simp only
    omega
  · intro none
    have narrow : ¬first < past := fun wide => none ⟨first, (marks_iff first).2 ⟨Nat.le_refl _, wide⟩⟩
    rw [Nat.max_eq_right (by omega)]

theorem FrameLine.markerAt_position (text : Text) {range : Nat × Nat} (ordered : range.1 ≤ range.2)
    (index length : Nat) :
    markerAt ⟨Text.position text range.1, Text.position text range.2,
        Text.position_mono text ordered⟩ (index + 1) length =
      if (Text.place text range.1).1 ≤ index ∧ index ≤ (Text.place text range.2).1 then
        some ⟨Text.firstColumn text range.1 index,
          max (Text.pastColumn text range.2 index length - Text.firstColumn text range.1 index) 1⟩
      else none := by
  simp only [markerAt, Text.position, Text.firstColumn, Text.pastColumn, Nat.add_le_add_iff_right,
    Nat.add_right_cancel_iff]

namespace Frame

variable {file : SourceFile} {range : Nat × Nat} {location : Location} {context : Nat}

theorem exists_number_iff {text : Text} {number : Nat} :
    (∃ shown ∈ build text location context, shown.number = number) ↔
      max (location.start.line - context) 1 ≤ number ∧ number ≤ location.stop.line + context ∧
        number ≤ (Text.splitLines text).length := by
  rw [← List.mem_map, map_number_build, List.mem_range'_1, firstNumber]
  omega

theorem shows_range (located : file.locate range = .ok location) (context : Nat) {number : Nat}
    (from_first : location.start.line ≤ number) (to_last : number ≤ location.stop.line) :
    ∃ shown ∈ build file.text location context, shown.number = number := by
  obtain ⟨_, _, rfl⟩ := SourceFile.eq_of_locate located
  have lineCount := (Text.linesFrom_start file.text).length_eq
  have lastLine := Text.place_fst_lt file.text range.2
  simp only [Text.lineStarts, List.length_cons] at lastLine
  simp only [Text.position] at from_first to_last
  rw [exists_number_iff]
  simp only [Text.position]
  omega

theorem carets_of_range (located : file.locate range = .ok location) {shown : FrameLine}
    (member : shown ∈ build file.text location context) {marker : Marker}
    (marked : shown.marker = some marker) :
    let Marks := file.MarksColumn range location.stop.line shown.number
    ((∃ column, Marks column) → ∀ column, marker.text[column]? = some '^' ↔ Marks column) ∧
      ((¬∃ column, Marks column) → marker =
        ⟨if shown.number = location.start.line then location.start.column else 0, 1⟩) := by
  intro Marks
  obtain ⟨ordered, inside, rfl⟩ := SourceFile.eq_of_locate located
  obtain ⟨lineEq, markerEq⟩ := mem_build member
  have present := exists_number_iff.1 ⟨shown, member, rfl⟩
  obtain ⟨index, numberEq⟩ : ∃ index, shown.number = index + 1 := ⟨shown.number - 1, by omega⟩
  rw [numberEq, Nat.add_sub_cancel] at lineEq
  obtain ⟨start, begins, isLine⟩ := (Text.linesFrom_start file.text).isLine lineEq
  rw [marked, numberEq, FrameLine.markerAt_position file.text ordered] at markerEq
  obtain ⟨⟨from_first, to_last⟩, markerEq⟩ := Option.ite_none_right_eq_some.1 markerEq.symm
  have firstEq : (if shown.number = (Text.position file.text range.1).line
      then (Text.position file.text range.1).column else 0) =
      Text.firstColumn file.text range.1 index := by
    simp only [numberEq, Text.position, Text.firstColumn, Nat.add_right_cancel_iff]
  rw [firstEq]
  refine Marker.carets_between (fun column => ?_) (Option.some.inj markerEq).symm
  simp only [Marks, numberEq]
  exact file.marksColumn_iff inside begins isLine from_first to_last

end Frame

/-- An excerpt shows the lines of a location and those around it, as far as the text has them, under their
numbers, and marks those of the location. Where the location is that of a range of offsets, all its lines
are shown, with carets in the columns of the range, or with a single one where it has none. -/
theorem frames_mark_the_located_range (text : Text) (location : Location) (context : Nat) :
    let lines := Text.splitLines text
    let first := max (location.start.line - context) 1
    let last := min (location.stop.line + context) lines.length
    ∃ frame, Frame.build? text (some location) context = .ok frame ∧
      frame.map FrameLine.number = List.range' first (last + 1 - first) ∧
      (∀ shown ∈ frame, lines[shown.number - 1]? = some shown.text ∧
        (shown.marker.isSome = true ↔
          location.start.line ≤ shown.number ∧ shown.number ≤ location.stop.line) ∧
        (Nat.toDigits 10 shown.number).length ≤ Frame.gutterWidth frame) ∧
      ∀ (file : SourceFile) (range : Nat × Nat), file.text = text →
        file.locate range = .ok location →
        (∀ number, location.start.line ≤ number → number ≤ location.stop.line →
          ∃ shown ∈ frame, shown.number = number) ∧
        ∀ shown ∈ frame, ∀ marker, shown.marker = some marker →
          let Marks := file.MarksColumn range location.stop.line shown.number
          ((∃ column, Marks column) → ∀ column, marker.text[column]? = some '^' ↔ Marks column) ∧
          ((¬∃ column, Marks column) → marker =
            ⟨if shown.number = location.start.line then location.start.column else 0, 1⟩) := by
  intro lines first last
  refine ⟨Frame.build text location context, ?_, Frame.map_number_build text location context, ?_, ?_⟩
  · rw [Frame.build?, if_neg (by omega), Int.toNat_natCast]
  · intro shown member
    obtain ⟨lineEq, markerEq⟩ := Frame.mem_build member
    refine ⟨lineEq, ?_, Frame.length_toDigits_le_gutterWidth member⟩
    rw [markerEq, FrameLine.markerAt]
    split
    next located => simp [located]
    next beside => simp [beside]
  · rintro file range rfl located
    refine ⟨fun number from_first to_last => ?_, fun shown member marker marked => ?_⟩
    · exact Frame.shows_range located context from_first to_last
    · exact Frame.carets_of_range located member marked

def intoPair : Location :=
  ⟨⟨1, 1, Nat.one_pos⟩, ⟨2, 1, Nat.two_pos⟩, Or.inl Nat.one_lt_two⟩

theorem mixedBreaks_marked_into_pair :
    mixedBreaks.locate (1, 3) = .ok intoPair ∧
      Frame.build? mixedBreaks.text (some intoPair) 0 =
        .ok [⟨1, ['a'], some ⟨1, 1⟩⟩, ⟨2, [], some ⟨0, 1⟩⟩] ∧
      mixedBreaks.MarksColumn (1, 3) 2 2 0 ∧
      ∀ column, (Marker.text ⟨0, 1⟩)[column]? = some '^' ↔
        mixedBreaks.MarksColumn (1, 3) 2 2 column := by
  have located : mixedBreaks.locate (1, 3) = .ok intoPair := by cbv
  have built : Frame.build? mixedBreaks.text (some intoPair) 0 =
      .ok [⟨1, ['a'], some ⟨1, 1⟩⟩, ⟨2, [], some ⟨0, 1⟩⟩] := by cbv
  have marked : mixedBreaks.MarksColumn (1, 3) 2 2 0 :=
    ⟨2, 1, by decide, by decide, by cbv, rfl, Or.inl rfl⟩
  obtain ⟨frame, builtAgain, _, _, marks⟩ :=
    frames_mark_the_located_range mixedBreaks.text intoPair 0
  obtain rfl := Except.ok.inj (builtAgain.symm.trans built)
  obtain ⟨_, carets⟩ := marks mixedBreaks (1, 3) rfl located
  exact ⟨located, built, marked, (carets ⟨2, [], some ⟨0, 1⟩⟩ (by simp) ⟨0, 1⟩ rfl).1 ⟨0, marked⟩⟩

end Placement
