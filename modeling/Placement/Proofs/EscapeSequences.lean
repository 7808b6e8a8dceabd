import Placement.Proofs.PrintedText

/-!
Sequences that select the style of what follows. A coloured report from which they are deleted is the report
without colour.
-/

namespace Placement

namespace Text

variable {text word rest : Text} {c : Char}

def isParameter (c : Char) : Bool :=
  c.isDigit || c == ';'

/-- An escape and a bracket, then digits and semicolons up to the letter that ends the sequence. -/
def IsStyleSequence (word : Text) : Prop :=
  ∃ parameters : Text, (∀ c ∈ parameters, isParameter c = true) ∧
    word = '\x1b' :: '[' :: parameters ++ ['m']

def afterSequence? : Text → Option Text
  | '\x1b' :: '[' :: rest =>
      match rest.dropWhile isParameter with
      | 'm' :: after => some after
      | _ => none
  | _ => none

theorem afterSequence?_eq_some_iff :
    afterSequence? text = some rest ↔ ∃ word, IsStyleSequence word ∧ text = word ++ rest := by
  constructor
  · intro found
    unfold afterSequence? at found
    split at found
    next body =>
      split at found
      next after dropped =>
          cases found
          refine ⟨_, ⟨body.takeWhile isParameter, fun c => List.mem_takeWhile_imp, rfl⟩, ?_⟩
          have bodyEq := List.takeWhile_append_dropWhile (p := isParameter) (l := body)
          rw [dropped] at bodyEq
          simp [bodyEq]
      next => cases found
    next => cases found
  · rintro ⟨_, ⟨parameters, all, rfl⟩, rfl⟩
    have dropped : (parameters ++ 'm' :: rest).dropWhile isParameter = 'm' :: rest := by
      rw [List.dropWhile_append_of_pos all, List.dropWhile_cons_of_neg (by decide)]
    simp [afterSequence?, dropped]

theorem length_le_of_afterSequence? {after : Text} (found : afterSequence? (c :: rest) = some after) :
    after.length ≤ rest.length := by
  obtain ⟨_, ⟨parameters, _, rfl⟩, textEq⟩ := afterSequence?_eq_some_iff.1 found
  have lengths := congrArg List.length textEq
  simp only [List.length_append, List.length_cons] at lengths
  omega

/-- The text without its style sequences. -/
def withoutSequences : Text → Text
  | [] => []
  | c :: rest =>
      match found : afterSequence? (c :: rest) with
      | some after =>
          have := length_le_of_afterSequence? found
          withoutSequences after
      | none => c :: withoutSequences rest
termination_by text => text.length

theorem withoutSequences_sequence (isSequence : IsStyleSequence word) (rest : Text) :
    withoutSequences (word ++ rest) = withoutSequences rest := by
  have found : afterSequence? (word ++ rest) = some rest :=
    afterSequence?_eq_some_iff.2 ⟨word, isSequence, rfl⟩
  obtain ⟨c, begun, textEq⟩ : ∃ c begun, word ++ rest = c :: begun := by
    obtain ⟨parameters, _, rfl⟩ := isSequence
    exact ⟨_, _, rfl⟩
  rw [textEq] at found ⊢
  rw [withoutSequences]
  split
  next after again =>
      cases found.symm.trans again
      rfl
  next none => cases found.symm.trans none

theorem withoutSequences_cons (plain : c ≠ '\x1b') (rest : Text) :
    withoutSequences (c :: rest) = c :: withoutSequences rest := by
  rw [withoutSequences]
  split
  next after found =>
      obtain ⟨_, ⟨parameters, _, rfl⟩, textEq⟩ := afterSequence?_eq_some_iff.1 found
      cases textEq
      exact absurd rfl plain
  next => rfl

theorem withoutSequences_append (plain : '\x1b' ∉ text) (rest : Text) :
    withoutSequences (text ++ rest) = text ++ withoutSequences rest := by
  induction text with
  | nil => rfl
  | cons c text ih =>
      obtain ⟨first, plain⟩ := not_or.1 (mt List.mem_cons.2 plain)
      rw [List.cons_append, withoutSequences_cons (Ne.symm first), ih plain, List.cons_append]

end Text

theorem Style.isStyleSequence_of_codes {style : Style} {codes : String}
    (styled : style.codes? = some codes) :
    Text.IsStyleSequence ("\x1b[".toList ++ codes.toList ++ ['m']) := by
  refine ⟨codes.toList, ?_, by simp⟩
  cases style <;> cases styled <;> simp [Text.isParameter]

namespace StyledText

variable {run : StyledRun} {styled : StyledText} {lines : List StyledText}

theorem withoutSequences_paintRun (plain : '\x1b' ∉ run.text) (rest : Text) :
    Text.withoutSequences (paintRun run ++ rest) = run.text ++ Text.withoutSequences rest := by
  rw [paintRun]
  cases styled : run.style.codes? with
  | none => exact Text.withoutSequences_append plain rest
  | some codes =>
      cases textEq : run.text with
      | nil => rfl
      | cons c text =>
          have opening := Style.isStyleSequence_of_codes styled
          have closing : Text.IsStyleSequence "\x1b[0m".toList :=
            ⟨['0'], by simp [Text.isParameter], by simp⟩
          have split : "\x1b[".toList ++ codes.toList ++ 'm' :: c :: text ++ "\x1b[0m".toList ++ rest =
              ("\x1b[".toList ++ codes.toList ++ ['m']) ++
                (c :: text ++ ("\x1b[0m".toList ++ rest)) := by
            simp
          rw [textEq] at plain
          rw [split, Text.withoutSequences_sequence opening, Text.withoutSequences_append plain,
            Text.withoutSequences_sequence closing]

theorem withoutSequences_paint (plain : '\x1b' ∉ styled.plainText) (rest : Text) :
    Text.withoutSequences (paint true styled ++ rest) =
      styled.plainText ++ Text.withoutSequences rest := by
  induction styled with
  | nil => rfl
  | cons run styled ih =>
      rw [plainText_cons] at plain
      obtain ⟨plainRun, plain⟩ := not_or.1 (mt List.mem_append.2 plain)
      have paintEq : paint true (run :: styled) = paintRun run ++ paint true styled := rfl
      rw [paintEq, List.append_assoc, withoutSequences_paintRun plainRun, ih plain, plainText_cons,
        List.append_assoc]

theorem withoutSequences_printLine (plain : '\x1b' ∉ styled.plainText) (rest : Text) :
    Text.withoutSequences (printLine true styled ++ rest) =
      printLine false styled ++ Text.withoutSequences rest := by
  have plainRuns : '\x1b' ∉ (expandRuns .start styled).plainText := by
    rw [plainText_expandRuns]
    intro member
    exact (mem_of_mem_expandTabs member).elim (by decide) plain
  have newline : '\n' ≠ '\x1b' := by decide
  rw [printLine, List.append_assoc, withoutSequences_paint plainRuns, List.singleton_append,
    Text.withoutSequences_cons newline, printLine_uncoloured, shown, plainText_expandRuns,
    List.append_assoc, List.singleton_append]

theorem withoutSequences_lines (plain : ∀ styled ∈ lines, '\x1b' ∉ styled.plainText) :
    Text.withoutSequences (lines.flatMap (printLine true)) = lines.flatMap (printLine false) := by
  induction lines with
  | nil => rw [List.flatMap_nil, Text.withoutSequences, List.flatMap_nil]
  | cons styled lines ih =>
      obtain ⟨first, plain⟩ := List.forall_mem_cons.1 plain
      rw [List.flatMap_cons, withoutSequences_printLine first, ih plain, List.flatMap_cons]

end StyledText

/-- Deleting the style sequences from a coloured report gives the report without colour, if neither the
text nor the reason holds an escape. -/
theorem colour_only_adds_sequences (width context : Nat) (wide : 20 ≤ width) (violation : Violation)
    (text : Text) (plainText : '\x1b' ∉ text) (plainReason : '\x1b' ∉ violation.reason.toList) :
    Text.withoutSequences (ConsoleReport.render ⟨true, width, context, wide⟩ violation text) =
      ConsoleReport.render ⟨false, width, context, wide⟩ violation text := by
  refine StyledText.withoutSequences_lines fun styled shown escape => ?_
  rcases ConsoleReport.mem_of_mem_styledLines shown escape with printable | reason | source
  · exact absurd printable (by decide)
  · exact plainReason reason
  · exact plainText source

theorem belowText_uncoloured :
    '\x1b' ∉ "[0m\n\t[1;2m\u2028 \x07\n9m".toList ∧ '\x1b' ∉ belowText.reason.toList ∧
      '\x1b' ∈ ConsoleReport.render ⟨true, 20, 2, Nat.le_refl 20⟩ belowText
        "[0m\n\t[1;2m\u2028 \x07\n9m".toList ∧
      Text.withoutSequences (ConsoleReport.render ⟨true, 20, 2, Nat.le_refl 20⟩ belowText
          "[0m\n\t[1;2m\u2028 \x07\n9m".toList) =
        ConsoleReport.render ⟨false, 20, 2, Nat.le_refl 20⟩ belowText
          "[0m\n\t[1;2m\u2028 \x07\n9m".toList := by
  have plainText : '\x1b' ∉ "[0m\n\t[1;2m\u2028 \x07\n9m".toList := by simp
  have plainReason : '\x1b' ∉ belowText.reason.toList := by simp [belowText]
  exact ⟨plainText, plainReason, by decide +kernel,
    colour_only_adds_sequences 20 2 (Nat.le_refl 20) belowText _ plainText plainReason⟩

end Placement
