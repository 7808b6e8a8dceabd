import Placement.Text.Basic

/-!
Lines of a text. A carriage return directly followed by a line feed is one break; every other line
break character is a break of its own. `splitLines` gives the lines without their breaks and
`lineStarts` the offsets at which they begin, in which `lineOf` looks up the line of an offset.
-/

namespace Placement.Text

def splitLines : Text → List Text
  | [] => [[]]
  | '\r' :: '\n' :: rest => [] :: splitLines rest
  | c :: rest =>
      if isLineBreak c then [] :: splitLines rest
      else
        match splitLines rest with
        | [] => [[c]]
        | line :: lines => (c :: line) :: lines

/-- Offsets just past each break of a text whose first character stands at the given offset. -/
def breakEnds (offset : Nat) : Text → List Nat
  | [] => []
  | '\r' :: '\n' :: rest => (offset + 2) :: breakEnds (offset + 2) rest
  | c :: rest =>
      if isLineBreak c then (offset + 1) :: breakEnds (offset + 1) rest
      else breakEnds (offset + 1) rest

def lineStarts (text : Text) : List Nat :=
  0 :: breakEnds 0 text

theorem splitLines_ne_nil (text : Text) : splitLines text ≠ [] := by
  fun_cases splitLines text <;> simp_all

theorem lt_of_mem_breakEnds (text : Text) (offset : Nat) :
    ∀ start ∈ breakEnds offset text, offset < start := by
  fun_induction breakEnds offset text with
  | case1 => simp
  | case2 offset rest ih =>
      simp only [List.mem_cons, forall_eq_or_imp]
      exact ⟨by omega, fun start member => by have := ih start member; omega⟩
  | case3 offset c rest _ ends ih =>
      simp only [List.mem_cons, forall_eq_or_imp]
      exact ⟨by omega, fun start member => by have := ih start member; omega⟩
  | case4 offset c rest _ _ ih =>
      intro start member
      have := ih start member
      omega

theorem breakEnds_pairwise (text : Text) (offset : Nat) :
    (breakEnds offset text).Pairwise (· < ·) := by
  fun_induction breakEnds offset text with
  | case1 => exact .nil
  | case2 offset rest ih => exact .cons (lt_of_mem_breakEnds rest _) ih
  | case3 offset c rest _ ends ih => exact .cons (lt_of_mem_breakEnds rest _) ih
  | case4 offset c rest _ _ ih => exact ih

theorem lineStarts_pairwise (text : Text) : (lineStarts text).Pairwise (· < ·) :=
  .cons (lt_of_mem_breakEnds text 0) (breakEnds_pairwise text 0)

def searchLine (starts : Array Nat) (offset low high : Nat) : Nat :=
  if low + 1 < high then
    let middle := (low + high) / 2
    if starts.getD middle 0 ≤ offset then searchLine starts offset middle high
    else searchLine starts offset low middle
  else low
termination_by high - low

def lineOf (starts : Array Nat) (offset : Nat) : Nat :=
  searchLine starts offset 0 starts.size

theorem searchLine_bounds (starts : Array Nat) (offset low high : Nat) (proper : low < high)
    (inside : high ≤ starts.size) (reached : starts.getD low 0 ≤ offset)
    (beyond : high < starts.size → offset < starts.getD high 0) :
    searchLine starts offset low high < starts.size ∧
      starts.getD (searchLine starts offset low high) 0 ≤ offset ∧
      (searchLine starts offset low high + 1 < starts.size →
        offset < starts.getD (searchLine starts offset low high + 1) 0) := by
  fun_induction searchLine starts offset low high with
  | case1 low high wide middle upper ih => exact ih (by omega) inside upper beyond
  | case2 low high wide middle lower ih =>
      exact ih (by omega) (by omega) reached fun _ => by omega
  | case3 low high narrow =>
      have last : low + 1 = high := by omega
      rw [last]
      exact ⟨by omega, reached, beyond⟩

theorem countP_le_eq (starts : List Nat) (bound last : Nat) (ascending : starts.Pairwise (· < ·))
    (inside : last < starts.length) (reached : starts.getD last 0 ≤ bound)
    (beyond : last + 1 < starts.length → bound < starts.getD (last + 1) 0) :
    starts.countP (· ≤ bound) = last + 1 := by
  induction starts generalizing last with
  | nil => simp at inside
  | cons start rest ih =>
      obtain ⟨above, ascending⟩ := List.pairwise_cons.1 ascending
      cases last with
      | zero =>
          have later_none : rest.countP (· ≤ bound) = 0 := by
            rw [List.countP_eq_zero]
            intro later member
            cases rest with
            | nil => simp at member
            | cons next rest =>
                have first : bound < next := by simpa using beyond (by simp)
                have order : next ≤ later := by
                  rcases List.mem_cons.1 member with rfl | member
                  · exact Nat.le_refl _
                  · exact Nat.le_of_lt ((List.pairwise_cons.1 ascending).1 later member)
                simp only [decide_eq_true_eq]
                omega
          simp only [List.getD_cons_zero] at reached
          simp [later_none, reached]
      | succ last =>
          have within : last < rest.length := by simpa using inside
          have counted := ih last ascending within (by simpa using reached) (by simpa using beyond)
          have first : start ≤ bound := by
            have member : rest.getD last 0 ∈ rest := by
              rw [List.getD_eq_getElem?_getD, List.getElem?_eq_getElem within]
              exact List.getElem_mem within
            have := above _ member
            simp only [List.getD_cons_succ] at reached
            omega
          simp [counted, first]

theorem lineOf_bounds (text : Text) (offset : Nat) :
    let line := lineOf (lineStarts text).toArray offset
    line < (lineStarts text).length ∧ (lineStarts text).getD line 0 ≤ offset ∧
      (line + 1 < (lineStarts text).length → offset < (lineStarts text).getD (line + 1) 0) := by
  have bounds := searchLine_bounds (lineStarts text).toArray offset 0 (lineStarts text).toArray.size
    (by simp [lineStarts]) (Nat.le_refl _) (by simp [lineStarts]) (fun less => by omega)
  simp only [Array.getD_eq_getD_getElem?, List.getElem?_toArray, ← List.getD_eq_getElem?_getD,
    List.size_toArray] at bounds
  exact bounds

theorem lineOf_succ_eq_countP (text : Text) (offset : Nat) :
    lineOf (lineStarts text).toArray offset + 1 = (lineStarts text).countP (· ≤ offset) := by
  obtain ⟨inside, reached, beyond⟩ := lineOf_bounds text offset
  exact (countP_le_eq _ offset _ (lineStarts_pairwise text) inside reached beyond).symm

end Placement.Text
