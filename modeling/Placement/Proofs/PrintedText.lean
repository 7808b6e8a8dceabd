import Mathlib.Data.List.DropRight
import Placement.Proofs.LinePieces
import Placement.Report.Console

/-!
What a console shows of styled text, as plain text: dropping controls, trimming and expanding tabs do to the
runs what they do to the text as a whole. A text of which nothing is dropped or expanded is reported as the
plain report does it.
-/

namespace Placement

namespace Text

variable {c : Char} {text line : Text}

def IsPrintable (c : Char) : Prop :=
  0x20 ≤ c.toNat ∧ c.toNat < 0x7F

instance (c : Char) : Decidable (IsPrintable c) :=
  inferInstanceAs (Decidable (_ ∧ _))

theorem isPrintable_of_mem_toDigits {number : Nat} (member : c ∈ Nat.toDigits 10 number) :
    IsPrintable c := by
  have digit := Nat.isDigit_of_mem_toDigits (by decide) (by decide) member
  simp only [Char.isDigit, Bool.and_eq_true, decide_eq_true_eq] at digit
  obtain ⟨low, high⟩ := digit
  exact ⟨le_trans (by decide) low, lt_of_le_of_lt high (by decide)⟩

theorem isPrintable_of_mem_padLeft {width : Nat} (visible : ∀ c ∈ text, IsPrintable c)
    (member : c ∈ padLeft width text) : IsPrintable c := by
  rcases List.mem_append.1 member with blank | given
  · rw [List.eq_of_mem_replicate blank]
    decide
  · exact visible c given

theorem trimEnd_append (first second : Text) :
    trimEnd (first ++ second) =
      if trimEnd second = [] then trimEnd first else first ++ trimEnd second := by
  simp only [trimEnd, List.reverse_append, List.dropWhile_append, List.isEmpty_iff,
    List.reverse_eq_nil_iff]
  split
  next => rfl
  next => rw [List.reverse_append, List.reverse_reverse]

theorem mem_of_mem_trimEnd (member : c ∈ trimEnd text) : c ∈ text :=
  (List.rdropWhile_prefix isBlank text).mem member

theorem mem_of_mem_splitLines {index : Nat} (shown : (splitLines text)[index]? = some line)
    (member : c ∈ line) : c ∈ text ∧ ¬isLineBreak c = true := by
  obtain ⟨start, _, isLine⟩ := (linesFrom_start text).isLine shown
  have standing : line <:+: text := by
    rw [← isLine.standing]
    exact slice_infix text _ _
  exact ⟨standing.mem member, isLine.unbroken c member⟩

end Text

namespace StyledText

variable {styled rest : StyledText} {run : StyledRun} {text : Text} {c : Char}

theorem plainText_cons (run : StyledRun) (rest : StyledText) :
    plainText (run :: rest) = run.text ++ plainText rest :=
  rfl

theorem plainText_dropControls (styled : StyledText) :
    styled.dropControls.plainText = styled.plainText.filter fun c => !isDropped c := by
  induction styled with
  | nil => rfl
  | cons run rest ih =>
      rw [plainText_cons, List.filter_append, ← ih]
      rfl

theorem trimEnd_eq_nil (empty : styled.trimEnd.plainText = []) : styled.trimEnd = [] := by
  induction styled with
  | nil => rfl
  | cons run rest ih =>
      rw [trimEnd] at empty ⊢
      split at empty
      next =>
          split at empty
          next => rfl
          next filled =>
              rw [plainText_cons, List.append_eq_nil_iff] at empty
              exact absurd empty.1 filled
      next filled =>
          rw [plainText_cons, List.append_eq_nil_iff] at empty
          exact absurd (ih empty.2) filled

theorem plainText_trimEnd (styled : StyledText) :
    styled.trimEnd.plainText = Text.trimEnd styled.plainText := by
  induction styled with
  | nil => rfl
  | cons run rest ih =>
      rw [plainText_cons, Text.trimEnd_append, ← ih, trimEnd]
      split
      next trimmed =>
          rw [trimmed, if_pos (show plainText [] = [] from rfl)]
          split
          next blank => exact blank.symm
          next => exact List.append_nil _
      next filled => rw [if_neg fun empty => filled (trimEnd_eq_nil empty), plainText_cons]

theorem expandTabs_append (cursor : Text.Cursor) (first second : Text) :
    expandTabs cursor (first ++ second) =
      expandTabs cursor first ++ expandTabs (first.foldl Text.Cursor.advance cursor) second := by
  induction first generalizing cursor with
  | nil => rfl
  | cons c first ih =>
      rw [List.cons_append, expandTabs, expandTabs, ih, List.append_assoc, List.foldl_cons]

theorem plainText_expandRuns (cursor : Text.Cursor) (styled : StyledText) :
    (expandRuns cursor styled).plainText = expandTabs cursor styled.plainText := by
  induction styled generalizing cursor with
  | nil => rfl
  | cons run rest ih =>
      rw [expandRuns, plainText_cons, plainText_cons, ih, expandTabs_append]

theorem expandTabs_of_no_tab (cursor : Text.Cursor) (tabless : '\t' ∉ text) :
    expandTabs cursor text = text := by
  induction text generalizing cursor with
  | nil => rfl
  | cons c rest ih =>
      obtain ⟨first, tabless⟩ := not_or.1 (mt List.mem_cons.2 tabless)
      rw [expandTabs, ih _ tabless, Text.Cursor.shown, if_neg (Ne.symm first), List.singleton_append]

theorem mem_of_mem_expandTabs {cursor : Text.Cursor} (member : c ∈ expandTabs cursor text) :
    c = ' ' ∨ c ∈ text := by
  induction text generalizing cursor with
  | nil => cases member
  | cons first rest ih =>
      rw [expandTabs, List.mem_append, Text.Cursor.shown] at member
      rcases member with shown | later
      · split at shown
        next => exact Or.inl (List.eq_of_mem_replicate shown)
        next => exact Or.inr (List.mem_cons.2 (Or.inl (List.mem_singleton.1 shown)))
      · exact (ih later).imp_right (List.mem_cons_of_mem first)

def shown (styled : StyledText) : Text :=
  expandTabs .start styled.plainText

theorem printLine_uncoloured (styled : StyledText) :
    printLine false styled = styled.shown ++ ['\n'] := by
  rw [printLine, paint, if_neg (by decide), plainText_expandRuns, shown]

def IsKept (c : Char) : Prop :=
  isDropped c = false ∧ c ≠ '\t'

theorem isKept_of_isPrintable (printable : Text.IsPrintable c) : IsKept c := by
  obtain ⟨low, _⟩ := printable
  constructor
  · simp only [isDropped, Bool.or_eq_false_iff, beq_eq_false_iff_ne]
    refine ⟨⟨⟨⟨?_, ?_⟩, ?_⟩, ?_⟩, ?_⟩ <;> rintro rfl <;> simp at low
  · rintro rfl
    simp at low

theorem isKept_of_not_mem (other : c ∉ ['\x07', '\x08', '\t', '\x0b', '\x0c']) (noReturn : c ≠ '\r') :
    IsKept c := by
  simp only [List.mem_cons, List.not_mem_nil, or_false, not_or] at other
  obtain ⟨bell, backspace, tab, verticalTab, formFeed⟩ := other
  simp [IsKept, isDropped, bell, backspace, tab, verticalTab, formFeed, noReturn]

theorem plainText_dropControls_of_kept (kept : ∀ c ∈ styled.plainText, IsKept c) :
    styled.dropControls.plainText = styled.plainText := by
  rw [plainText_dropControls, List.filter_eq_self]
  intro c member
  rw [(kept c member).1]
  rfl

theorem shown_of_kept (kept : ∀ c ∈ styled.plainText, IsKept c) : styled.shown = styled.plainText :=
  expandTabs_of_no_tab _ fun tab => (kept '\t' tab).2 rfl

theorem shown_dropControls_of_kept (kept : ∀ c ∈ styled.plainText, IsKept c) :
    styled.dropControls.shown = styled.plainText := by
  have same := plainText_dropControls_of_kept kept
  rw [shown_of_kept (by rwa [same]), same]

theorem shown_trimEnd_of_kept (kept : ∀ c ∈ styled.plainText, IsKept c) :
    styled.dropControls.trimEnd.shown = Text.trimEnd styled.plainText := by
  have same : styled.dropControls.trimEnd.plainText = Text.trimEnd styled.plainText := by
    rw [plainText_trimEnd, plainText_dropControls_of_kept kept]
  rw [shown_of_kept, same]
  intro c member
  rw [same] at member
  exact kept c (Text.mem_of_mem_trimEnd member)

end StyledText

namespace ConsoleReport

variable {c : Char} {gutter : Nat} {line : FrameLine} {violation : Violation} {text : Text}

theorem plainText_header (violation : Violation) :
    (header violation).plainText = PlainReport.header violation := by
  have titled : ∀ message : Text,
      StyledText.plainText [⟨.boldRed, "SyntaxError".toList⟩, ⟨.plain, ": ".toList ++ message⟩] =
        "SyntaxError: ".toList ++ message := by
    intro message
    simp [StyledText.plainText]
  exact titled violation.message.toList

def lead (gutter : Nat) (line : FrameLine) : Text :=
  (if line.marker.isSome then '>' else ' ') :: ' ' ::
    Text.padLeft gutter (Nat.toDigits 10 line.number) ++ " | ".toList

def sourceRow (gutter : Nat) (line : FrameLine) : StyledText :=
  (row gutter line).dropControls.trimEnd

def lineRows (gutter : Nat) (line : FrameLine) : List StyledText :=
  sourceRow gutter line :: (line.marker.map (caretRow gutter)).toList

theorem rows_eq (frame : Frame) : rows frame = frame.flatMap (lineRows frame.gutterWidth) :=
  rfl

theorem plainText_row (gutter : Nat) (line : FrameLine) :
    (row gutter line).plainText = lead gutter line ++ line.text := by
  rw [row, lead]
  split <;> simp [StyledText.plainText]

theorem trimEnd_plainText_row (gutter : Nat) (line : FrameLine) :
    Text.trimEnd (row gutter line).plainText = PlainReport.row gutter line := by
  rw [plainText_row]
  rfl

theorem plainText_caretRow (gutter : Nat) (marker : Marker) :
    (caretRow gutter marker).plainText = PlainReport.caretRow gutter marker := by
  simp [caretRow, PlainReport.caretRow, StyledText.plainText]

theorem isPrintable_of_mem_word {word : String}
    (fixed : word ∈ ["SyntaxError: ", " (", ":", ")", " | "]) (member : c ∈ word.toList) :
    Text.IsPrintable c := by
  have printable : ∀ word ∈ ["SyntaxError: ", " (", ":", ")", " | "], ∀ c ∈ word.toList,
      Text.IsPrintable c := by
    simp [Text.IsPrintable]
  exact printable word fixed c member

theorem isPrintable_of_mem_toString {number : Nat} (member : c ∈ (toString number).toList) :
    Text.IsPrintable c := by
  rw [Nat.toString_eq_repr, Nat.repr_eq_ofList_toDigits, String.toList_ofList] at member
  exact Text.isPrintable_of_mem_toDigits member

theorem mem_header (member : c ∈ (header violation).plainText) :
    Text.IsPrintable c ∨ c ∈ violation.reason.toList := by
  have headerEq : PlainReport.header violation =
      "SyntaxError: ".toList ++ (violation.reason ++ " (" ++
        (toString violation.location.start.line ++ ":" ++
          toString violation.location.start.column) ++ ")").toList := rfl
  simp only [plainText_header, headerEq, String.toList_append, List.mem_append] at member
  rcases member with title | ((reason | opening) | (line | colon) | column) | closing
  · exact Or.inl (isPrintable_of_mem_word (by simp) title)
  · exact Or.inr reason
  · exact Or.inl (isPrintable_of_mem_word (by simp) opening)
  · exact Or.inl (isPrintable_of_mem_toString line)
  · exact Or.inl (isPrintable_of_mem_word (by simp) colon)
  · exact Or.inl (isPrintable_of_mem_toString column)
  · exact Or.inl (isPrintable_of_mem_word (by simp) closing)

theorem isPrintable_of_mem_lead (member : c ∈ lead gutter line) : Text.IsPrintable c := by
  have digits : ∀ c ∈ Nat.toDigits 10 line.number, Text.IsPrintable c := fun c =>
    Text.isPrintable_of_mem_toDigits
  simp only [lead, List.cons_append, List.mem_append, List.mem_cons] at member
  rcases member with rfl | rfl | number | bar
  · split <;> decide
  · decide
  · exact Text.isPrintable_of_mem_padLeft digits number
  · exact isPrintable_of_mem_word (by simp) bar

theorem mem_row (member : c ∈ (row gutter line).plainText) :
    Text.IsPrintable c ∨ c ∈ line.text := by
  rw [plainText_row] at member
  exact (List.mem_append.1 member).imp_left isPrintable_of_mem_lead

theorem isPrintable_of_mem_caretRow {marker : Marker}
    (member : c ∈ (caretRow gutter marker).plainText) : Text.IsPrintable c := by
  rw [plainText_caretRow, PlainReport.caretRow, Marker.text] at member
  simp only [List.mem_append] at member
  rcases member with (blank | bar) | blank | caret
  · rw [List.eq_of_mem_replicate blank]
    decide
  · exact isPrintable_of_mem_word (by simp) bar
  · rw [List.eq_of_mem_replicate blank]
    decide
  · rw [List.eq_of_mem_replicate caret]
    decide

def styledLines (context : Nat) (violation : Violation) (text : Text) : List StyledText :=
  (header violation).dropControls :: rows (Frame.build text violation.location context)

theorem render_eq (config : ConsoleConfig) (violation : Violation) (text : Text) :
    render config violation text =
      (styledLines config.context violation text).flatMap (StyledText.printLine config.color) :=
  rfl

theorem render_uncoloured (width context : Nat) (wide : 20 ≤ width) (violation : Violation)
    (text : Text) :
    render ⟨false, width, context, wide⟩ violation text =
      PlainReport.written ((styledLines context violation text).map StyledText.shown) := by
  rw [render_eq, PlainReport.written, List.flatMap_map]
  exact List.flatMap_congr fun styled _ => styled.printLine_uncoloured

theorem mem_of_mem_rows {location : Location} {context : Nat} {styled : StyledText}
    (shown : styled ∈ rows (Frame.build text location context)) (member : c ∈ styled.plainText) :
    Text.IsPrintable c ∨ c ∈ text := by
  rw [rows_eq] at shown
  obtain ⟨line, inFrame, isRow⟩ := List.mem_flatMap.1 shown
  rcases List.mem_cons.1 isRow with rfl | isCarets
  · rw [sourceRow, StyledText.plainText_trimEnd, StyledText.plainText_dropControls] at member
    have inRow := (List.mem_filter.1 (Text.mem_of_mem_trimEnd member)).1
    refine (mem_row inRow).imp_right fun inLine => ?_
    exact (Text.mem_of_mem_splitLines (Frame.mem_build inFrame).1 inLine).1
  · obtain ⟨marker, _, rfl⟩ := Option.map_eq_some_iff.1 (Option.mem_toList.1 isCarets)
    exact Or.inl (isPrintable_of_mem_caretRow member)

theorem mem_of_mem_styledLines {context : Nat} {styled : StyledText}
    (shown : styled ∈ styledLines context violation text) (member : c ∈ styled.plainText) :
    Text.IsPrintable c ∨ c ∈ violation.reason.toList ∨ c ∈ text := by
  rcases List.mem_cons.1 shown with rfl | isRow
  · rw [StyledText.plainText_dropControls] at member
    exact (mem_header (List.mem_filter.1 member).1).imp_right Or.inl
  · exact (mem_of_mem_rows isRow member).imp_right Or.inr

theorem map_shown_rows {frame : Frame} (kept : ∀ line ∈ frame, ∀ c ∈ line.text, StyledText.IsKept c) :
    (rows frame).map StyledText.shown = PlainReport.rows frame := by
  rw [rows_eq, PlainReport.rows, List.map_flatMap]
  refine List.flatMap_congr fun line member => ?_
  have keptRow : ∀ c ∈ (row frame.gutterWidth line).plainText, StyledText.IsKept c := fun c shown =>
    (mem_row shown).elim StyledText.isKept_of_isPrintable (kept line member c)
  rw [lineRows, List.map_cons, sourceRow, StyledText.shown_trimEnd_of_kept keptRow,
    trimEnd_plainText_row]
  cases line.marker with
  | none => rfl
  | some marker =>
      have keptCarets : ∀ c ∈ (caretRow frame.gutterWidth marker).plainText, StyledText.IsKept c :=
        fun c shown => StyledText.isKept_of_isPrintable (isPrintable_of_mem_caretRow shown)
      simp only [Option.map_some, Option.toList_some, List.map_cons, List.map_nil,
        StyledText.shown_of_kept keptCarets, plainText_caretRow]

end ConsoleReport

/-- Without colour a console reports what the plain report writes, if the text and the reason hold none of
the characters that a console drops or expands. Carriage returns may break lines of the text. -/
theorem reports_agree (width context : Nat) (wide : 20 ≤ width) (violation : Violation) (text : Text)
    (kept : ∀ c ∈ text ++ violation.reason.toList, c ∉ ['\x07', '\x08', '\t', '\x0b', '\x0c'])
    (noReturn : '\r' ∉ violation.reason.toList) :
    PlainReport.write context violation text =
      ⟨ConsoleReport.render ⟨false, width, context, wide⟩ violation text, none⟩ := by
  have keptHeader : ∀ c ∈ (ConsoleReport.header violation).plainText, StyledText.IsKept c := by
    intro c member
    rcases ConsoleReport.mem_header member with printable | reason
    · exact StyledText.isKept_of_isPrintable printable
    · refine StyledText.isKept_of_not_mem (kept c (List.mem_append_right _ reason)) ?_
      rintro rfl
      exact noReturn reason
  have keptLines : ∀ line ∈ Frame.build text violation.location context, ∀ c ∈ line.text,
      StyledText.IsKept c := by
    intro line shown c member
    obtain ⟨inText, plain⟩ := Text.mem_of_mem_splitLines (Frame.mem_build shown).1 member
    exact StyledText.isKept_of_not_mem (kept c (List.mem_append_left _ inText))
      (Text.ne_of_not_break plain).1
  rw [PlainReport.write_eq, ConsoleReport.render_uncoloured, ConsoleReport.styledLines, List.map_cons,
    StyledText.shown_dropControls_of_kept keptHeader, ConsoleReport.plainText_header,
    ConsoleReport.map_shown_rows keptLines]

def belowText : Violation where
  cause := .decorator
  location := ⟨⟨2, 0, Nat.two_pos⟩, ⟨9, 3, Nat.succ_pos 8⟩, by decide⟩
  reason := "misplaced\nhere"
  spelled := trivial
  reason_ne_empty := by decide

theorem belowText_reported_alike :
    (∀ c ∈ "a\r\n \u2028x ".toList ++ belowText.reason.toList,
      c ∉ ['\x07', '\x08', '\t', '\x0b', '\x0c']) ∧
      '\r' ∉ belowText.reason.toList ∧
      PlainReport.write 1 belowText "a\r\n \u2028x ".toList =
        ⟨ConsoleReport.render ⟨false, 20, 1, Nat.le_refl 20⟩ belowText "a\r\n \u2028x ".toList, none⟩ ∧
      ConsoleReport.render ⟨false, 20, 1, Nat.le_refl 20⟩ belowText "a\r\n \u2028x ".toList =
        "SyntaxError: misplaced\nhere (2:0)\n  1 | a\n> 2 |\n    | ^\n> 3 | x\n    | ^^\n".toList := by
  have kept : ∀ c ∈ "a\r\n \u2028x ".toList ++ belowText.reason.toList,
      c ∉ ['\x07', '\x08', '\t', '\x0b', '\x0c'] := by
    simp [belowText]
  have noReturn : '\r' ∉ belowText.reason.toList := by simp [belowText]
  refine ⟨kept, noReturn, reports_agree 20 1 (Nat.le_refl 20) belowText _ kept noReturn, ?_⟩
  rfl

end Placement
