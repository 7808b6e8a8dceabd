import Placement.Proofs.FrameLines
import Placement.Proofs.LineTable

/-!
The lines of a text, cut at its line breaks, against the line table. Each line begins where the table says,
and the next one just past the break behind it. So an excerpt shows in front of a column what the text has
in front of the offset.
-/

namespace Placement

namespace Text

def breakLength (text : Text) : Nat :=
  if ['\r', '\n'] <+: text then 2 else 1

/-- A line of a text, given where it starts and where the next one starts if there is one. -/
structure IsLine (text : Text) (start : Nat) (line : Text) (next : Option Nat) : Prop where
  standing : text.slice start (start + line.length) = line
  unbroken : ∀ c ∈ line, ¬isLineBreak c = true
  last : next = none → start + line.length = text.length
  broken : ∀ later, next = some later →
    later = start + line.length + breakLength (text.drop (start + line.length)) ∧
      ∃ c, text[start + line.length]? = some c ∧ isLineBreak c = true

inductive LinesFrom (text : Text) : Nat → List Text → List Nat → Prop where
  | last {start : Nat} {line : Text} : IsLine text start line none → LinesFrom text start [line] []
  | next {start next : Nat} {line : Text} {lines : List Text} {starts : List Nat} :
      IsLine text start line (some next) → LinesFrom text next lines starts →
        LinesFrom text start (line :: lines) (next :: starts)

variable {text rest line : Text} {c : Char} {offset start : Nat} {next : Option Nat}
  {lines : List Text} {starts : List Nat}

theorem isLine_nil_of_end (ended : text.drop offset = []) (inside : offset ≤ text.length) :
    IsLine text offset [] none := by
  refine ⟨slice_self text offset, by simp, fun _ => ?_, by simp⟩
  have beyond := List.drop_eq_nil_iff.1 ended
  rw [List.length_nil]
  omega

theorem isLine_nil_of_break (standing : text.drop offset = c :: rest) (ends : isLineBreak c = true) :
    IsLine text offset [] (some (offset + breakLength (c :: rest))) := by
  refine ⟨slice_self text offset, by simp, by simp, ?_⟩
  rintro later ⟨⟩
  rw [List.length_nil, Nat.add_zero, standing]
  exact ⟨rfl, c, getElem?_of_drop standing, ends⟩

theorem IsLine.cons (standing : text.drop offset = c :: rest) (plain : ¬isLineBreak c = true)
    (isLine : IsLine text (offset + 1) line next) : IsLine text offset (c :: line) next := by
  have stopEq : offset + (c :: line).length = offset + 1 + line.length := by
    rw [List.length_cons]
    omega
  refine ⟨?_, ?_, ?_, ?_⟩
  · rw [stopEq, slice_of_drop standing (by omega), isLine.standing]
  · exact List.forall_mem_cons.2 ⟨plain, isLine.unbroken⟩
  · rw [stopEq]
    exact isLine.last
  · rw [stopEq]
    exact isLine.broken

theorem LinesFrom.cons (standing : text.drop offset = c :: rest) (plain : ¬isLineBreak c = true)
    (follow : LinesFrom text (offset + 1) (line :: lines) starts) :
    LinesFrom text offset ((c :: line) :: lines) starts := by
  cases follow with
  | last isLine => exact .last (isLine.cons standing plain)
  | next isLine later => exact .next (isLine.cons standing plain) later

theorem linesFrom_splitLines (standing : text.drop offset = rest) (inside : offset ≤ text.length) :
    LinesFrom text offset (splitLines rest) (breakEnds offset rest) := by
  fun_induction splitLines rest generalizing offset with
  | case1 =>
      rw [breakEnds]
      exact .last (isLine_nil_of_end standing inside)
  | case2 rest ih =>
      have second := drop_succ standing
      rw [breakEnds]
      refine .next ?_ (ih (drop_succ second) (lt_length_of_drop second))
      have isLine := isLine_nil_of_break standing rfl
      rwa [breakLength, if_pos (by simp)] at isLine
  | case3 c rest single ends ih =>
      rw [breakEnds_cons single, if_pos ends]
      refine .next ?_ (ih (drop_succ standing) (lt_length_of_drop standing))
      have isLine := isLine_nil_of_break standing ends
      rwa [breakLength, if_neg] at isLine
      rintro ⟨later, pair⟩
      cases pair
      exact single later rfl rfl
  | case4 c rest single plain empty ih => exact absurd empty (splitLines_ne_nil rest)
  | case5 c rest single plain line lines cut ih =>
      have follow := ih (drop_succ standing) (lt_length_of_drop standing)
      rw [cut] at follow
      rw [breakEnds_cons single, if_neg plain]
      exact follow.cons standing plain

theorem LinesFrom.length_eq (follow : LinesFrom text start lines starts) :
    lines.length = starts.length + 1 := by
  induction follow with
  | last _ => rfl
  | next _ _ ih => rw [List.length_cons, List.length_cons, ih]

theorem LinesFrom.isLine (follow : LinesFrom text start lines starts) {index : Nat}
    (found : lines[index]? = some line) :
    ∃ begins, (start :: starts)[index]? = some begins ∧
      IsLine text begins line (start :: starts)[index + 1]? := by
  induction follow generalizing index with
  | last isLine =>
      cases index with
      | zero =>
          cases found
          exact ⟨_, rfl, isLine⟩
      | succ index => cases found
  | next isLine _ ih =>
      cases index with
      | zero =>
          cases found
          exact ⟨_, rfl, isLine⟩
      | succ index => exact ih found

theorem linesFrom_start (text : Text) :
    LinesFrom text 0 (splitLines text) (breakEnds 0 text) :=
  linesFrom_splitLines List.drop_zero (Nat.zero_le text.length)

theorem IsLine.take_eq (isLine : IsLine text start line next) {column : Nat}
    (fits : column ≤ line.length) : line.take column = text.slice start (start + column) := by
  rw [← isLine.standing, slice_add, List.take_take, Nat.min_eq_left fits, slice_add]

end Text

/-- The lines that excerpts show are those of the line table. Cutting a text at its line breaks gives as many
lines as the table has; each begins where the table says and the next one behind its break; and up to the
column of an offset an excerpt shows what stands in the text before that offset. -/
theorem lines_begin_where_table_says (file : SourceFile) :
    let lines := Text.splitLines file.text
    lines = Text.lineBreaks.split file.text ∧
    lines.length = file.lineCount ∧
    (∀ (index : Nat) (line : Text), lines[index]? = some line →
      ∃ start, file.lineStarts[index]? = some start ∧
        Text.IsLine file.text start line file.lineStarts[index + 1]?) ∧
    (∀ (location : Location) (context : Int) (frame : Frame),
      Frame.build? file.text (some location) context = .ok frame → ∀ shown ∈ frame,
        lines[shown.number - 1]? = some shown.text ∧
        ∀ offset line column : Nat, file.lineAndCharacter offset = .ok (line, column) →
          shown.number = line + 1 → column ≤ shown.text.length →
            ∃ start, file.lineStarts[line]? = some start ∧
              shown.text.take column = file.text.slice start offset) := by
  intro lines
  have follow := Text.linesFrom_start file.text
  have startsEq : ∀ index : Nat, file.lineStarts[index]? = (Text.lineStarts file.text)[index]? := by
    intro index
    rw [file.lineStarts_eq, List.getElem?_toArray]
  refine ⟨Text.splitLines_eq_split file.text, ?_, ?_, ?_⟩
  · rw [SourceFile.lineCount, file.lineStarts_eq, List.size_toArray]
    exact follow.length_eq
  · intro index line found
    rw [startsEq, startsEq]
    exact follow.isLine found
  · intro location context frame built shown member
    have frameEq : frame = Frame.build file.text location context.toNat := by
      rw [Frame.build?] at built
      split at built
      next => cases built
      next => exact (Except.ok.inj built).symm
    rw [frameEq] at member
    have lineEq := (Frame.mem_build member).1
    refine ⟨lineEq, ?_⟩
    intro offset line column located numberEq fits
    rw [numberEq, Nat.add_sub_cancel] at lineEq
    obtain ⟨start, startEq, isLine⟩ := follow.isLine lineEq
    refine ⟨start, by rw [startsEq]; exact startEq, ?_⟩
    obtain ⟨inside, offsetEq, _, placed⟩ := (file.lineAndCharacter_eq_ok_iff _ _).1 located
    obtain rfl := Int.ofNat.inj offsetEq
    have back := Text.lineStart_add_column file.text offset
    rw [← placed, Text.lineStarts, List.getD_eq_getElem?_getD, startEq, Option.getD_some] at back
    rw [isLine.take_eq fits, back]

def lastLetter : Location :=
  ⟨⟨4, 0, by decide⟩, ⟨4, 1, by decide⟩, by decide⟩

theorem mixedBreaks_lines :
    Text.splitLines mixedBreaks.text = [['a'], [], [], ['b']] ∧
      (∃ start, mixedBreaks.lineStarts[1]? = some start ∧
        Text.IsLine mixedBreaks.text start [] mixedBreaks.lineStarts[2]?) ∧
      Frame.build? mixedBreaks.text (some lastLetter) 0 = .ok [⟨4, ['b'], some ⟨0, 1⟩⟩] ∧
      mixedBreaks.lineAndCharacter 6 = .ok (3, 1) ∧
      ∃ start, mixedBreaks.lineStarts[3]? = some start ∧
        ['b'].take 1 = mixedBreaks.text.slice start 6 := by
  have cut : Text.splitLines mixedBreaks.text = [['a'], [], [], ['b']] := by decide
  have second : (Text.splitLines mixedBreaks.text)[1]? = some [] := by decide
  have built : Frame.build? mixedBreaks.text (some lastLetter) 0 = .ok [⟨4, ['b'], some ⟨0, 1⟩⟩] := by
    cbv
  have located : mixedBreaks.lineAndCharacter 6 = .ok (3, 1) := by cbv
  obtain ⟨_, _, begins, shows⟩ := lines_begin_where_table_says mixedBreaks
  refine ⟨cut, begins 1 [] second, built, located, ?_⟩
  exact (shows lastLetter 0 _ built _ List.mem_cons_self).2 6 3 1 located rfl (by decide)

end Placement
