import Placement.Proofs.LocatedFailure
import Placement.Proofs.Reoffset

/-!
Whole lines in front of a text. What stands in them, an open comment or a keyword, does not matter: trivia
end where they ended and columns stay, while line numbers grow by the number of lines in front. So a walk
finds the same there, further down.
-/

namespace Placement

namespace Text

/-- A text that is empty or ends with a line break, which is no half of a pair that the text behind it
completes. -/
def EndsLineBefore (before text : Text) : Prop :=
  ∀ c, before.getLast? = some c → isLineBreak c = true ∧ (c = '\r' → text.head? ≠ some '\n')

variable {c : Char} {before text : Text}

theorem EndsLineBefore.tail (ends : EndsLineBefore (c :: before) text) :
    EndsLineBefore before text := by
  intro last isLast
  have nonempty : before ≠ [] := by
    rintro rfl
    cases isLast
  refine ends last ?_
  rw [List.getLast?_cons, isLast]
  rfl

theorem EndsLineBefore.single (ends : EndsLineBefore (c :: before) text)
    (single : ∀ later, c = '\r' → before = '\n' :: later → False) :
    ∀ later, c = '\r' → before ++ text = '\n' :: later → False := by
  intro later isReturn isPair
  cases before with
  | nil =>
      obtain ⟨_, unpaired⟩ := ends c rfl
      rw [List.nil_append] at isPair
      exact unpaired isReturn (by rw [isPair, List.head?_cons])
  | cons next rest =>
      rw [List.cons_append, List.cons.injEq] at isPair
      exact single rest isReturn (by rw [isPair.1])

theorem breakEnds_ne_nil (ends : isLineBreak c = true) (member : c ∈ text) (first : Nat) :
    breakEnds first text ≠ [] := by
  fun_induction breakEnds first text with
  | case1 => cases member
  | case2 => exact List.cons_ne_nil _ _
  | case3 => exact List.cons_ne_nil _ _
  | case4 first other rest single plain ih =>
      rcases List.mem_cons.1 member with rfl | later
      · exact absurd ends plain
      · exact ih later

theorem EndsLineBefore.breakEnds_ne_nil (ends : EndsLineBefore before text)
    (nonempty : before ≠ []) (first : Nat) : breakEnds first before ≠ [] := by
  have isLast := List.getLast?_eq_some_getLast nonempty
  exact Text.breakEnds_ne_nil (ends _ isLast).1 (List.getLast_mem nonempty) first

theorem place_append (ends : EndsLineBefore before text) (first offset : Nat) :
    place (before ++ text) (before.length + offset) =
      ((place text offset).1 + (breakEnds first before).length, (place text offset).2) := by
  fun_induction breakEnds first before with
  | case1 first => simp
  | case2 first rest ih =>
      have sum : ('\r' :: '\n' :: rest).length + offset = rest.length + offset + 2 := by
        simp only [List.length_cons]
        omega
      rw [sum, List.cons_append, List.cons_append, place, ih ends.tail.tail, afterBreak,
        List.length_cons, Nat.add_assoc]
  | case3 first c rest single isBreak ih =>
      have sum : (c :: rest).length + offset = rest.length + offset + 1 := by
        simp only [List.length_cons]
        omega
      rw [sum, List.cons_append, place_of_break isBreak (ends.single single), ih ends.tail,
        afterBreak, List.length_cons, Nat.add_assoc]
  | case4 first c rest single plain ih =>
      have sum : (c :: rest).length + offset = rest.length + offset + 1 := by
        simp only [List.length_cons]
        omega
      have nonempty : rest ≠ [] := by
        rintro rfl
        exact plain (ends c rfl).1
      have broken := List.length_pos_iff.2 (ends.tail.breakEnds_ne_nil nonempty (first + 1))
      rw [sum, List.cons_append, place_of_character plain, ih ends.tail, afterCharacter, if_neg]
      dsimp only
      omega

theorem skipTrivia_append (before text : Text) (offset : Nat) :
    skipTrivia (before ++ text) (before.length + offset) = before.length + skipTrivia text offset := by
  rw [skipTrivia, List.drop_length_add_append, skipTrivia, Nat.add_assoc]

end Text

def Position.below (lines : Nat) (position : Position) : Position :=
  ⟨position.line + lines, position.column, Nat.add_pos_left position.line_pos lines⟩

theorem Position.below_le_below {first second : Position} (lines : Nat) (ordered : first ≤ second) :
    first.below lines ≤ second.below lines := by
  simp only [Position.le_iff, Position.below] at ordered ⊢
  omega

namespace Text

def linesInFront (before : Text) : Nat :=
  (lineStarts before).length - 1

theorem position_append {before text : Text} (ends : EndsLineBefore before text) (offset : Nat) :
    position (before ++ text) (before.length + offset) =
      (position text offset).below before.linesInFront := by
  simp only [position, place_append ends 0, Position.below, linesInFront, lineStarts,
    List.length_cons, Nat.add_sub_cancel, Position.mk.injEq, and_true]
  omega

def offsetsBelow (before : Text) {text : Text} (ends : EndsLineBefore before text) :
    Reoffset text (before ++ text) where
  move := fun offset => before.length + offset
  place := Position.below before.linesInFront
  move_lt_move := fun less => Nat.add_lt_add_left less _
  place_le_place := Position.below_le_below before.linesInFront
  move_length := List.length_append.symm
  skipTrivia_move := skipTrivia_append before text
  position_move := fun offset _ => position_append ends offset

end Text

/-- The parse result of a text behind whole lines: every offset counts what stands in front. -/
def ParseResult.below (result : ParseResult) (before : Text)
    (ends : before.EndsLineBefore result.text) : ParseResult :=
  result.moved (before.offsetsBelow ends)

/-- A violation that is another one a number of lines further down. -/
structure Violation.IsBelow (lines : Nat) (original shifted : Violation) : Prop where
  cause_eq : shifted.cause = original.cause
  reason_eq : shifted.reason = original.reason
  start_line : shifted.location.start.line = original.location.start.line + lines
  start_column : shifted.location.start.column = original.location.start.column
  stop_line : shifted.location.stop.line = original.location.stop.line + lines
  stop_column : shifted.location.stop.column = original.location.stop.column

theorem Violation.isBelow_onViolation {before text : Text} (ends : before.EndsLineBefore text)
    (violation : Violation) :
    violation.IsBelow before.linesInFront ((before.offsetsBelow ends).onViolation violation) :=
  ⟨rfl, rfl, rfl, rfl, rfl, rfl⟩

theorem Reoffset.onFailure_eq_violation {text other : Text} (map : Reoffset text other)
    {failure : Failure} {shifted : Violation}
    (moved : map.onFailure failure = .violation shifted) :
    ∃ violation, failure = .violation violation ∧ shifted = map.onViolation violation := by
  cases failure with
  | violation violation =>
      cases moved
      exact ⟨violation, rfl, rfl⟩
  | fault _ => cases moved
  | unknownCheck _ => cases moved
  | load _ => cases moved
  | crash _ => cases moved

/-- Behind whole lines a walk passes exactly if it passed, and reports a violation exactly if it did:
the same one, as many lines further down as stand in front and in the same columns. -/
theorem whole_lines_in_front_move_violations_down (result : ParseResult)
    (rooted : result.ast < result.publics.size) (before : Text)
    (ends : before.EndsLineBefore result.text) (surface : Surface) (sees : surface.SeesKinds)
    (names : List CheckName) (usesFastPath : Bool) :
    let validator : Validator := ⟨names.map Check.builtin, usesFastPath⟩
    let outcome := (validator.inspect surface result).outcome
    let outcomeBelow := (validator.inspect surface (result.below before ends)).outcome
    (outcomeBelow = .ok () ↔ outcome = .ok ()) ∧
    (∀ violation, outcome = .error (.violation violation) →
      ∃ shifted, outcomeBelow = .error (.violation shifted) ∧
        violation.IsBelow before.linesInFront shifted) ∧
    (∀ shifted, outcomeBelow = .error (.violation shifted) →
      ∃ violation, outcome = .error (.violation violation) ∧
        violation.IsBelow before.linesInFront shifted) := by
  intro validator outcome outcomeBelow
  have moved : outcomeBelow = outcome.mapError (before.offsetsBelow ends).onFailure :=
    Validator.inspect_moved sees result _ (Or.inl rooted) names usesFastPath
  refine ⟨?_, ?_, ?_⟩
  · rw [moved]
    cases outcome with
    | ok _ => exact iff_of_true rfl rfl
    | error failure => simp [Except.mapError]
  · intro violation found
    refine ⟨_, ?_, violation.isBelow_onViolation ends⟩
    rw [moved, found]
    rfl
  · intro shifted found
    rw [moved] at found
    cases ended : outcome with
    | ok _ =>
        rw [ended] at found
        cases found
    | error failure =>
        rw [ended, Except.mapError, Except.error.injEq] at found
        obtain ⟨violation, rfl, rfl⟩ := Reoffset.onFailure_eq_violation _ found
        exact ⟨violation, rfl, violation.isBelow_onViolation ends⟩

def openCommentLines : Text :=
  "readonly\r\n/* abstract\u2028".toList

theorem openCommentLines_endLine : openCommentLines.EndsLineBefore misplacedReadonly.text := by
  intro last isLast
  cases isLast
  exact ⟨by decide, by decide⟩

theorem misplacedReadonly_below_openComment :
    misplacedReadonly.ast < misplacedReadonly.publics.size ∧
      openCommentLines.linesInFront = 2 ∧
      ∃ shifted,
        (Validator.inspect ⟨CheckName.all.map Check.builtin, true⟩ .typeScript
            (misplacedReadonly.below openCommentLines openCommentLines_endLine)).outcome =
          .error (.violation shifted) ∧
        misplacedReadonlyViolation.IsBelow 2 shifted := by
  have rooted : misplacedReadonly.ast < misplacedReadonly.publics.size := by decide
  obtain ⟨_, found, _⟩ := whole_lines_in_front_move_violations_down misplacedReadonly rooted
    openCommentLines openCommentLines_endLine .typeScript Surface.typeScript_seesKinds CheckName.all
    true
  exact ⟨rooted, by decide, found _ (misplacedReadonly_outcome true)⟩

end Placement
