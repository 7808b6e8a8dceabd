import Placement.SourceFile

/-!
Line and column of an offset, read off the text by walking over it. The line table gives the same place,
and a stretch of text without a line break keeps its columns when the text is split into lines.
-/

namespace Placement

namespace Text

def afterBreak (rest : Nat × Nat) : Nat × Nat :=
  (rest.1 + 1, rest.2)

def afterCharacter (rest : Nat × Nat) : Nat × Nat :=
  if rest.1 = 0 then (0, rest.2 + 1) else rest

/-- Line and column of an offset, both from zero. A break belongs to the line that it ends. -/
def place : Text → Nat → Nat × Nat
  | _, 0 => (0, 0)
  | [], offset + 1 => (0, offset + 1)
  | '\r' :: '\n' :: _, 1 => (0, 1)
  | '\r' :: '\n' :: rest, offset + 2 => afterBreak (place rest offset)
  | c :: rest, offset + 1 =>
      if isLineBreak c then afterBreak (place rest offset) else afterCharacter (place rest offset)

variable {c : Char} {rest : Text}

theorem place_zero (text : Text) : place text 0 = (0, 0) := by
  rw [place]

theorem place_of_break (ends : isLineBreak c = true)
    (single : ∀ later, c = '\r' → rest = '\n' :: later → False) (offset : Nat) :
    place (c :: rest) (offset + 1) = afterBreak (place rest offset) := by
  rw [place]
  · rw [if_pos ends]
  · exact fun later isReturn isPair _ => single later isReturn isPair
  · exact fun later _ isReturn isPair _ => single later isReturn isPair

theorem ne_of_not_break (plain : ¬isLineBreak c = true) : c ≠ '\r' ∧ c ≠ '\n' := by
  constructor <;> rintro rfl <;> exact plain rfl

theorem place_of_character (plain : ¬isLineBreak c = true) (offset : Nat) :
    place (c :: rest) (offset + 1) = afterCharacter (place rest offset) := by
  have notReturn := (ne_of_not_break plain).1
  rw [place]
  · rw [if_neg plain]
  · exact fun _ isReturn _ _ => notReturn isReturn
  · exact fun _ _ isReturn _ _ => notReturn isReturn

theorem breakEnds_cons (single : ∀ later, c = '\r' → rest = '\n' :: later → False) (first : Nat) :
    breakEnds first (c :: rest) =
      if isLineBreak c then (first + 1) :: breakEnds (first + 1) rest
      else breakEnds (first + 1) rest := by
  rw [breakEnds]
  exact single

theorem countP_breakEnds_of_le (text : Text) (first offset : Nat) (before : offset ≤ first) :
    (breakEnds first text).countP (· ≤ offset) = 0 := by
  rw [List.countP_eq_zero]
  intro stop member
  have := lt_of_mem_breakEnds text first stop member
  simp only [decide_eq_true_eq]
  omega

def tablePlace (first : Nat) (ends : List Nat) (offset : Nat) : Nat × Nat :=
  let line := ends.countP (· ≤ offset)
  (line, offset - (first :: ends).getD line 0)

theorem tablePlace_of_none {first offset : Nat} {ends : List Nat}
    (none : ends.countP (· ≤ offset) = 0) :
    tablePlace first ends offset = (0, offset - first) := by
  simp only [tablePlace, none, List.getD_cons_zero]

theorem tablePlace_of_le {first next offset : Nat} {ends : List Nat} (reached : next ≤ offset) :
    tablePlace first (next :: ends) offset = afterBreak (tablePlace next ends offset) := by
  simp only [tablePlace, afterBreak]
  rw [List.countP_cons_of_pos (by simpa using reached), List.getD_cons_succ]

theorem tablePlace_succ {first offset : Nat} {ends : List Nat} (before : first + 1 ≤ offset) :
    tablePlace first ends offset = afterCharacter (tablePlace (first + 1) ends offset) := by
  by_cases none : ends.countP (· ≤ offset) = 0
  · rw [tablePlace_of_none none, tablePlace_of_none none, afterCharacter, if_pos rfl, Prod.mk.injEq]
    exact ⟨rfl, by omega⟩
  · obtain ⟨line, counted⟩ := Nat.exists_eq_succ_of_ne_zero none
    simp only [tablePlace, afterCharacter, counted, List.getD_cons_succ, Nat.succ_ne_zero,
      ↓reduceIte]

theorem tablePlace_eq_place (first : Nat) (text : Text) (offset : Nat) :
    tablePlace first (breakEnds first text) (first + offset) = place text offset := by
  have atStart : ∀ (first : Nat) (text : Text),
      tablePlace first (breakEnds first text) (first + 0) = place text 0 := by
    intro first text
    rw [tablePlace_of_none (countP_breakEnds_of_le text first _ (by omega)), place_zero,
      Nat.add_zero, Nat.sub_self]
  fun_induction breakEnds first text generalizing offset with
  | case1 first =>
      cases offset with
      | zero => exact atStart first []
      | succ offset =>
          rw [tablePlace_of_none (by simp), place, Prod.mk.injEq]
          exact ⟨rfl, by omega⟩
  | case2 first rest ih =>
      rcases offset with _ | _ | offset
      · simpa only [breakEnds] using atStart first ('\r' :: '\n' :: rest)
      · have none : ((first + 2) :: breakEnds (first + 2) rest).countP (· ≤ first + 1) = 0 := by
          rw [List.countP_cons_of_neg (by simp)]
          exact countP_breakEnds_of_le rest (first + 2) (first + 1) (by omega)
        rw [tablePlace_of_none none, place, Prod.mk.injEq]
        exact ⟨rfl, by omega⟩
      · rw [place, ← ih offset, tablePlace_of_le (by omega)]
        congr 2
        omega
  | case3 first c rest single ends ih =>
      cases offset with
      | zero =>
          have start := atStart first (c :: rest)
          rwa [breakEnds_cons single, if_pos ends] at start
      | succ offset =>
          rw [place_of_break ends single, ← ih offset, tablePlace_of_le (by omega)]
          congr 2
          omega
  | case4 first c rest single plain ih =>
      cases offset with
      | zero =>
          have start := atStart first (c :: rest)
          rwa [breakEnds_cons single, if_neg plain] at start
      | succ offset =>
          rw [place_of_character plain, ← ih offset, tablePlace_succ (by omega)]
          congr 2
          omega

theorem lineOf_eq_countP (text : Text) (offset : Nat) :
    lineOf (lineStarts text).toArray offset = (breakEnds 0 text).countP (· ≤ offset) := by
  have counted := lineOf_succ_eq_countP text offset
  rw [lineStarts, List.countP_cons_of_pos (by simp), Nat.add_right_cancel_iff] at counted
  exact counted

theorem lineStarts_place (text : Text) (offset : Nat) :
    (lineOf (lineStarts text).toArray offset,
        offset - (lineStarts text).toArray.getD (lineOf (lineStarts text).toArray offset) 0) =
      place text offset := by
  rw [← tablePlace_eq_place 0, Nat.zero_add, tablePlace, ← lineOf_eq_countP]
  simp [lineStarts, Array.getD_eq_getD_getElem?, List.getD_eq_getElem?_getD]

theorem lineOf_eq_place_fst (text : Text) (offset : Nat) :
    lineOf (lineStarts text).toArray offset = (place text offset).1 :=
  congrArg Prod.fst (lineStarts_place text offset)

theorem place_eq_tablePlace (text : Text) (offset : Nat) :
    place text offset = tablePlace 0 (breakEnds 0 text) offset := by
  rw [← tablePlace_eq_place 0, Nat.zero_add]

theorem place_fst_lt (text : Text) (offset : Nat) :
    (place text offset).1 < (lineStarts text).length := by
  rw [place_eq_tablePlace, lineStarts, List.length_cons]
  exact Nat.lt_succ_of_le List.countP_le_length

theorem place_mono (text : Text) {first second : Nat} (before : first ≤ second) :
    (place text first).1 < (place text second).1 ∨
      (place text first).1 = (place text second).1 ∧
        (place text first).2 ≤ (place text second).2 := by
  simp only [place_eq_tablePlace, tablePlace]
  have counted : (breakEnds 0 text).countP (· ≤ first) ≤ (breakEnds 0 text).countP (· ≤ second) := by
    refine List.countP_mono_left fun stop _ reached => ?_
    simp only [decide_eq_true_eq] at reached ⊢
    omega
  rcases Nat.lt_or_eq_of_le counted with earlier | same
  · exact Or.inl earlier
  · rw [same]
    exact Or.inr ⟨rfl, by omega⟩

theorem splitLines_of_break (ends : isLineBreak c = true)
    (single : ∀ later, c = '\r' → rest = '\n' :: later → False) :
    splitLines (c :: rest) = [] :: splitLines rest := by
  rw [splitLines]
  · rw [if_pos ends]
  · exact single

theorem splitLines_of_character (plain : ¬isLineBreak c = true) (rest : Text) :
    ∃ line lines, splitLines rest = line :: lines ∧
      splitLines (c :: rest) = (c :: line) :: lines := by
  have notReturn := (ne_of_not_break plain).1
  obtain ⟨line, lines, split⟩ := List.exists_cons_of_ne_nil (splitLines_ne_nil rest)
  refine ⟨line, lines, split, ?_⟩
  rw [splitLines]
  · rw [if_neg plain, split]
  · exact fun _ isReturn _ => notReturn isReturn

theorem unbroken_of_visible {word : Text} (visible : ∀ c ∈ word, ¬isBlank c = true) :
    ∀ c ∈ word, ¬isLineBreak c = true :=
  fun c member ends => visible c member (isBlank_of_isLineBreak c ends)

theorem exists_line_of_prefix {text word : Text} (unbroken : ∀ c ∈ word, ¬isLineBreak c = true)
    (standing : word <+: text) :
    ∃ line, (splitLines text)[0]? = some line ∧ word <+: line ∧
      place text word.length = (0, word.length) := by
  induction word generalizing text with
  | nil =>
      obtain ⟨line, lines, split⟩ := List.exists_cons_of_ne_nil (splitLines_ne_nil text)
      exact ⟨line, by rw [split]; rfl, List.nil_prefix, place_zero text⟩
  | cons c word ih =>
      obtain ⟨plain, unbroken⟩ := List.forall_mem_cons.1 unbroken
      obtain ⟨later, rfl⟩ := standing
      obtain ⟨line, found, standing, placed⟩ := ih unbroken (List.prefix_append word later)
      obtain ⟨first, lines, split, splitText⟩ := splitLines_of_character plain (word ++ later)
      rw [split, List.getElem?_cons_zero, Option.some.injEq] at found
      subst found
      refine ⟨c :: first, by rw [List.cons_append, splitText]; rfl, ?_, ?_⟩
      · exact List.cons_prefix_cons.2 ⟨rfl, standing⟩
      · rw [List.cons_append, List.length_cons, place_of_character plain, placed, afterCharacter,
          if_pos rfl]

theorem exists_line_of_word {text word : Text} {offset : Nat} (nonempty : word ≠ [])
    (unbroken : ∀ c ∈ word, ¬isLineBreak c = true) (standing : word <+: text.drop offset) :
    ∃ line, (splitLines text)[(place text offset).1]? = some line ∧
      word <+: line.drop (place text offset).2 ∧
      place text (offset + word.length) =
        ((place text offset).1, (place text offset).2 + word.length) := by
  have atStart : ∀ text : Text, word <+: text.drop 0 →
      ∃ line, (splitLines text)[(place text 0).1]? = some line ∧
        word <+: line.drop (place text 0).2 ∧
        place text (0 + word.length) = ((place text 0).1, (place text 0).2 + word.length) := by
    intro text standing
    obtain ⟨line, found, standing, placed⟩ := exists_line_of_prefix unbroken standing
    simp only [place_zero, Nat.zero_add]
    exact ⟨line, found, standing, placed⟩
  induction text using splitLines.induct generalizing offset with
  | case1 =>
      rw [List.drop_nil, List.prefix_nil] at standing
      exact absurd standing nonempty
  | case2 rest ih =>
      rcases offset with _ | _ | offset
      · exact atStart _ standing
      · obtain ⟨c, word, rfl⟩ := List.exists_cons_of_ne_nil nonempty
        obtain ⟨rfl, _⟩ := List.cons_prefix_cons.1 standing
        exact absurd rfl (unbroken '\n' List.mem_cons_self)
      · obtain ⟨line, found, standing, placed⟩ := ih standing
        have sum : offset + 2 + word.length = offset + word.length + 2 := by omega
        rw [sum, place, place, placed, splitLines]
        exact ⟨line, found, standing, rfl⟩
  | case3 c rest single ends ih =>
      cases offset with
      | zero => exact atStart _ standing
      | succ offset =>
          obtain ⟨line, found, standing, placed⟩ := ih standing
          rw [Nat.add_right_comm, place_of_break ends single, place_of_break ends single, placed,
            splitLines_of_break ends single]
          exact ⟨line, found, standing, rfl⟩
  | case4 c rest single plain split => exact absurd split (splitLines_ne_nil rest)
  | case5 c rest single plain line lines split ih =>
      cases offset with
      | zero => exact atStart _ standing
      | succ offset =>
          obtain ⟨found, foundEq, standing, placed⟩ := ih standing
          obtain ⟨first, later, splitRest, splitText⟩ := splitLines_of_character plain rest
          rw [Nat.add_right_comm, place_of_character plain, place_of_character plain, placed,
            splitText]
          rw [splitRest] at foundEq
          by_cases onFirst : (place rest offset).1 = 0
          · rw [onFirst, List.getElem?_cons_zero, Option.some.injEq] at foundEq
            subst foundEq
            simp only [afterCharacter, onFirst, ↓reduceIte]
            exact ⟨c :: first, rfl, standing, by rw [Nat.add_right_comm]⟩
          · obtain ⟨number, numberEq⟩ := Nat.exists_eq_succ_of_ne_zero onFirst
            rw [numberEq] at foundEq
            simp only [afterCharacter, numberEq, Nat.succ_ne_zero, ↓reduceIte]
            exact ⟨found, foundEq, standing, trivial⟩

def position (text : Text) (offset : Nat) : Position :=
  ⟨(place text offset).1 + 1, (place text offset).2, Nat.succ_pos _⟩

theorem position_mono (text : Text) {first second : Nat} (before : first ≤ second) :
    position text first ≤ position text second := by
  have := place_mono text before
  simp only [Position.le_iff, position]
  omega

end Text

namespace SourceFile

theorem lineAndCharacter_eq (file : SourceFile) {offset : Nat} (inside : offset ≤ file.text.length) :
    file.lineAndCharacter offset = .ok (Text.place file.text offset) := by
  rw [lineAndCharacter, if_pos ⟨Int.natCast_nonneg offset, by rw [file.length_eq]; omega⟩,
    file.lineStarts_eq, Int.toNat_natCast, ← Text.lineStarts_place]

theorem lineAndCharacter_of_outside (file : SourceFile) {offset : Int}
    (outside : offset < 0 ∨ file.text.length < offset) :
    file.lineAndCharacter offset = .error (.offsetOutOfRange offset file.text.length) := by
  rw [lineAndCharacter, if_neg (by rw [file.length_eq]; omega), file.length_eq]

theorem position_eq (file : SourceFile) {offset : Nat} (inside : offset ≤ file.text.length) :
    file.position offset = .ok (Text.position file.text offset) := by
  rw [position, file.lineAndCharacter_eq inside]
  rfl

theorem position_of_beyond (file : SourceFile) {offset : Nat}
    (beyond : file.text.length < offset) :
    file.position offset = .error (.offsetOutOfRange offset file.text.length) := by
  rw [position, file.lineAndCharacter_of_outside (Or.inr (by omega))]
  rfl

theorem locate_of_inside (file : SourceFile) {range : Nat × Nat} (ordered : range.1 ≤ range.2)
    (inside : range.2 ≤ file.text.length) :
    file.locate range =
      .ok ⟨Text.position file.text range.1, Text.position file.text range.2,
        Text.position_mono file.text ordered⟩ := by
  rw [locate, file.position_eq (Nat.le_trans ordered inside), file.position_eq inside]
  exact (Location.between?_eq_ok_iff _ _ _).2 ⟨rfl, rfl⟩

theorem locate_of_beyond (file : SourceFile) {range : Nat × Nat}
    (beyond : file.text.length < range.2) :
    file.locate range =
      .error (.offsetOutOfRange
        (if file.text.length < range.1 then range.1 else range.2 : Nat) file.text.length) := by
  rw [locate]
  by_cases startsBeyond : file.text.length < range.1
  · rw [file.position_of_beyond startsBeyond, if_pos startsBeyond]
    rfl
  · rw [file.position_of_beyond beyond, file.position_eq (by omega), if_neg startsBeyond]
    rfl

theorem rawRange_ordered (file : SourceFile) (id : RawId) :
    (file.rawRange id).1 ≤ (file.rawRange id).2 :=
  Nat.min_le_right _ _

theorem publicRange_ordered (publics : PublicForest) (id : PublicId) :
    (publicRange publics id).1 ≤ (publicRange publics id).2 :=
  (publics.node id).start_le_stop

end SourceFile

end Placement
