import Placement.Text.Basic

/-!
Trivia before a token: white space and comments. A line comment ends before its line break; a block
comment ends with the first closer after its opener, or with the text.
-/

namespace Placement.Text

/-- Characters up to the end of a block comment whose opener has been read. -/
def blockCommentLength : Text → Nat
  | [] => 0
  | '*' :: '/' :: _ => 2
  | _ :: rest => blockCommentLength rest + 1

def triviaPiece : Text → Nat
  | [] => 0
  | '/' :: '/' :: rest => (rest.takeWhile fun c => !isLineBreak c).length + 2
  | '/' :: '*' :: rest => blockCommentLength rest + 2
  | c :: _ => if isBlank c then 1 else 0

theorem triviaPiece_of_plain {c : Char} {rest : Text}
    (plain : ∀ later, c = '/' → rest ≠ '/' :: later ∧ rest ≠ '*' :: later) :
    triviaPiece (c :: rest) = if isBlank c then 1 else 0 := by
  rw [triviaPiece]
  · exact fun later slash same => (plain later slash).1 same
  · exact fun later slash same => (plain later slash).2 same

theorem triviaPiece_of_blank {c : Char} (blank : isBlank c = true) (rest : Text) :
    triviaPiece (c :: rest) = 1 := by
  have notSlash : c ≠ '/' := by
    rintro rfl
    exact absurd blank (by decide)
  rw [triviaPiece_of_plain fun _ slash => absurd slash notSlash, if_pos blank]

theorem blockCommentLength_le (text : Text) : blockCommentLength text ≤ text.length := by
  fun_induction blockCommentLength text <;> simp_all

theorem triviaPiece_le (text : Text) : triviaPiece text ≤ text.length := by
  fun_cases triviaPiece text with
  | case1 => simp
  | case2 rest =>
      have := (List.takeWhile_sublist (fun c => !isLineBreak c) (l := rest)).length_le
      simp only [List.length_cons]
      omega
  | case3 rest =>
      have := blockCommentLength_le rest
      simp only [List.length_cons]
      omega
  | case4 => simp
  | case5 => simp

def triviaLength (text : Text) : Nat :=
  match piece : triviaPiece text with
  | 0 => 0
  | length + 1 => triviaLength (text.drop (length + 1)) + (length + 1)
termination_by text.length
decreasing_by
  have := triviaPiece_le text
  simp only [List.length_drop]
  omega

theorem triviaLength_eq_zero (text : Text) (token : triviaPiece text = 0) :
    triviaLength text = 0 := by
  rw [triviaLength]
  split <;> simp_all

theorem triviaLength_step (text : Text) (piece : triviaPiece text ≠ 0) :
    triviaLength text = triviaPiece text + triviaLength (text.drop (triviaPiece text)) := by
  rw [triviaLength]
  split
  next token => exact absurd token piece
  next length found => rw [found, Nat.add_comm]

/-- First offset at or after the given one that is neither white space nor in a comment. -/
def skipTrivia (text : Text) (offset : Nat) : Nat :=
  offset + triviaLength (text.drop offset)

end Placement.Text
