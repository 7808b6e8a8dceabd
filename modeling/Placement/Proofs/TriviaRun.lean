import Placement.Proofs.LineTable

/-!
Trivia piece by piece: blank characters, line comments and block comments. At each offset at most one piece
begins, so where trivia are divided is determined by where they begin. Skipping trivia passes over pieces
until none begins.
-/

namespace Placement

namespace Text

/-- A piece of trivia between two offsets. A line comment ends before a line break or with the text; a block
comment ends with the first closer behind its opener, or with the text if there is none. -/
inductive Trivium (text : Text) (start : Nat) : Nat → Prop where
  | blank {c : Char} : text[start]? = some c → isBlank c = true → Trivium text start (start + 1)
  | lineComment {stop : Nat} : ['/', '/'] <+: text.drop start → start + 2 ≤ stop →
      stop ≤ text.length → (∀ c ∈ text.slice (start + 2) stop, ¬isLineBreak c = true) →
      (∀ c, text[stop]? = some c → isLineBreak c = true) → Trivium text start stop
  | closedComment {closer : Nat} : ['/', '*'] <+: text.drop start → start + 2 ≤ closer →
      ['*', '/'] <+: text.drop closer →
      (∀ earlier, start + 2 ≤ earlier → earlier < closer → ¬['*', '/'] <+: text.drop earlier) →
      Trivium text start (closer + 2)
  | openComment : ['/', '*'] <+: text.drop start →
      (∀ later, start + 2 ≤ later → ¬['*', '/'] <+: text.drop later) →
      Trivium text start text.length

/-- Pieces of trivia that follow each other from one offset to another. -/
inductive TriviaRun (text : Text) : Nat → List Text → Nat → Prop where
  | done (offset : Nat) : TriviaRun text offset [] offset
  | piece {start middle stop : Nat} {pieces : List Text} : Trivium text start middle →
      TriviaRun text middle pieces stop →
        TriviaRun text start (text.slice start middle :: pieces) stop

variable {text rest : Text} {start stop : Nat}

theorem drop_of_pair {first second : Char} (standing : [first, second] <+: text.drop start) :
    text.drop start = first :: second :: text.drop (start + 2) := by
  obtain ⟨rest, pairEq⟩ := standing
  have later : text.drop (start + 2) = rest := drop_succ (drop_succ pairEq.symm)
  rw [← pairEq, later]
  rfl

theorem blockCommentLength_cases (text : Text) :
    (∃ closer, ['*', '/'] <+: text.drop closer ∧
      (∀ earlier, earlier < closer → ¬['*', '/'] <+: text.drop earlier) ∧
      blockCommentLength text = closer + 2) ∨
    ((∀ later, ¬['*', '/'] <+: text.drop later) ∧ blockCommentLength text = text.length) := by
  fun_induction blockCommentLength text with
  | case1 => exact Or.inr ⟨by simp, rfl⟩
  | case2 rest => exact Or.inl ⟨0, by simp, by omega, rfl⟩
  | case3 c rest unclosed ih =>
      have notHere : ¬['*', '/'] <+: c :: rest := by
        rintro ⟨later, pairEq⟩
        cases pairEq
        exact unclosed later rfl rfl
      rcases ih with ⟨closer, closes, first, lengthEq⟩ | ⟨never, lengthEq⟩
      · refine Or.inl ⟨closer + 1, closes, ?_, by omega⟩
        intro earlier before
        cases earlier with
        | zero => exact notHere
        | succ earlier => exact first earlier (by omega)
      · refine Or.inr ⟨?_, by rw [lengthEq, List.length_cons]⟩
        intro later
        cases later with
        | zero => exact notHere
        | succ later => exact never later

theorem length_takeWhile_drop (holds : Char → Bool) (ordered : start ≤ stop)
    (inside : stop ≤ text.length) (before : ∀ c ∈ text.slice start stop, holds c = true)
    (behind : ∀ c, text[stop]? = some c → ¬holds c = true) :
    ((text.drop start).takeWhile holds).length = stop - start := by
  have ended : (text.drop stop).takeWhile holds = [] := by
    cases standing : text.drop stop with
    | nil => rfl
    | cons c rest =>
        rw [List.takeWhile_cons_of_neg (behind c (getElem?_of_drop standing))]
  rw [← slice_append_drop text ordered, List.takeWhile_append_of_pos before, ended, List.append_nil,
    length_slice text inside]

theorem not_holds_behind_takeWhile (holds : Char → Bool) {c : Char}
    (behind : text[(text.takeWhile holds).length]? = some c) : ¬holds c = true := by
  induction text with
  | nil => cases behind
  | cons first rest ih =>
      by_cases first_holds : holds first = true
      · rw [List.takeWhile_cons_of_pos first_holds, List.length_cons,
          List.getElem?_cons_succ] at behind
        exact ih behind
      · rw [List.takeWhile_cons_of_neg first_holds] at behind
        cases behind
        exact first_holds

theorem Trivium.stop_eq (trivium : Trivium text start stop) :
    triviaPiece (text.drop start) ≠ 0 ∧ start + triviaPiece (text.drop start) = stop := by
  cases trivium with
  | blank standing blank =>
      rw [drop_of_getElem? standing, triviaPiece_of_blank blank]
      omega
  | lineComment opens ordered inside unbroken ends =>
      have commentEq := length_takeWhile_drop (fun c => !isLineBreak c) ordered inside
        (by simpa using unbroken) (by simpa using ends)
      rw [drop_of_pair opens, triviaPiece, commentEq]
      omega
  | @closedComment closer opens ordered closes first =>
      rw [drop_of_pair opens, triviaPiece]
      rcases blockCommentLength_cases (text.drop (start + 2)) with
        ⟨found, closesFound, firstFound, lengthEq⟩ | ⟨never, _⟩
      · rw [List.drop_drop] at closesFound
        have notBefore : ¬start + 2 + found < closer :=
          fun before => first _ (Nat.le_add_right _ _) before closesFound
        have notBehind : ¬closer - (start + 2) < found := by
          intro before
          refine firstFound _ before ?_
          rwa [List.drop_drop, Nat.add_sub_of_le ordered]
        omega
      · refine absurd ?_ (never (closer - (start + 2)))
        rwa [List.drop_drop, Nat.add_sub_of_le ordered]
  | openComment opens never =>
      have inside : start + 2 ≤ text.length := by
        have shorter := congrArg List.length (drop_of_pair opens)
        simp only [List.length_drop, List.length_cons] at shorter
        omega
      rw [drop_of_pair opens, triviaPiece]
      rcases blockCommentLength_cases (text.drop (start + 2)) with
        ⟨found, closes, _, _⟩ | ⟨_, lengthEq⟩
      · rw [List.drop_drop] at closes
        exact absurd closes (never _ (Nat.le_add_right _ _))
      · rw [lengthEq, List.length_drop]
        omega

theorem exists_trivium (standing : text.drop start = rest) (piece : triviaPiece rest ≠ 0) :
    ∃ stop, Trivium text start stop := by
  fun_cases triviaPiece rest with
  | case1 => exact absurd rfl piece
  | case2 rest =>
      have later : text.drop (start + 2) = rest := drop_succ (drop_succ standing)
      have opens : ['/', '/'] <+: text.drop start := by simp [standing]
      have comment := List.takeWhile_prefix (l := rest) fun c => !isLineBreak c
      have shorter := comment.length_le
      have lengthEq := congrArg List.length standing
      simp only [List.length_drop, List.length_cons] at lengthEq
      refine ⟨_, .lineComment opens (Nat.le_add_right _ (rest.takeWhile fun c => !isLineBreak c).length)
        (by omega) ?_ ?_⟩
      · rw [slice_add, later, ← List.prefix_iff_eq_take.1 comment]
        intro c member
        simpa using List.all_eq_true.1 List.all_takeWhile c member
      · intro c behind
        rw [← List.getElem?_drop, later] at behind
        simpa using not_holds_behind_takeWhile (fun c => !isLineBreak c) behind
  | case3 rest =>
      have later : text.drop (start + 2) = rest := drop_succ (drop_succ standing)
      have opens : ['/', '*'] <+: text.drop start := by simp [standing]
      rcases blockCommentLength_cases rest with ⟨closer, closes, first, _⟩ | ⟨never, _⟩
      · rw [← later, List.drop_drop] at closes
        refine ⟨_, .closedComment opens (Nat.le_add_right _ closer) closes ?_⟩
        intro earlier ordered before
        have notEarlier := first (earlier - (start + 2)) (by omega)
        rwa [← later, List.drop_drop, Nat.add_sub_of_le ordered] at notEarlier
      · refine ⟨_, .openComment opens ?_⟩
        intro last ordered
        have notLater := never (last - (start + 2))
        rwa [← later, List.drop_drop, Nat.add_sub_of_le ordered] at notLater
  | case4 c rest _ _ blank =>
      exact ⟨_, .blank (getElem?_of_drop standing) blank⟩
  | case5 c rest notLine notBlock notBlank =>
      refine absurd ?_ piece
      rw [triviaPiece_of_plain fun later slash =>
        ⟨notLine later slash, notBlock later slash⟩, if_neg notBlank]

theorem not_trivium_of_token (token : triviaPiece (text.drop start) = 0) (stop : Nat) :
    ¬Trivium text start stop :=
  fun trivium => trivium.stop_eq.1 token

namespace Trivium

theorem lt (trivium : Trivium text start stop) : start < stop := by
  have := trivium.stop_eq
  omega

theorem le_length (trivium : Trivium text start stop) : stop ≤ text.length := by
  obtain ⟨piece, stopEq⟩ := trivium.stop_eq
  have bound := triviaPiece_le (text.drop start)
  rw [List.length_drop] at bound
  omega

theorem unique {other : Nat} (trivium : Trivium text start stop)
    (another : Trivium text start other) : stop = other :=
  trivium.stop_eq.2.symm.trans another.stop_eq.2

theorem skipTrivia_eq (trivium : Trivium text start stop) :
    skipTrivia text start = skipTrivia text stop := by
  obtain ⟨piece, rfl⟩ := trivium.stop_eq
  rw [skipTrivia, triviaLength_step _ piece, skipTrivia, List.drop_drop]
  omega

end Trivium

theorem skipTrivia_of_token (none : ∀ stop, ¬Trivium text start stop) :
    skipTrivia text start = start := by
  by_cases token : triviaPiece (text.drop start) = 0
  · rw [skipTrivia, triviaLength_eq_zero _ token, Nat.add_zero]
  · obtain ⟨stop, trivium⟩ := exists_trivium rfl token
    exact absurd trivium (none stop)

namespace TriviaRun

variable {pieces : List Text}

theorem le (run : TriviaRun text start pieces stop) : start ≤ stop := by
  induction run with
  | done => exact Nat.le_refl _
  | piece trivium _ ih => exact Nat.le_trans (Nat.le_of_lt trivium.lt) ih

theorem le_length (run : TriviaRun text start pieces stop) (inside : start ≤ text.length) :
    stop ≤ text.length := by
  induction run with
  | done => exact inside
  | piece trivium _ ih => exact ih trivium.le_length

theorem flatten_eq (run : TriviaRun text start pieces stop) :
    pieces.flatten = text.slice start stop := by
  induction run with
  | done offset => rw [slice_self, List.flatten_nil]
  | piece trivium later ih =>
      rw [List.flatten_cons, ih, slice_append_slice text (Nat.le_of_lt trivium.lt) later.le]

theorem skipTrivia_eq (run : TriviaRun text start pieces stop) :
    skipTrivia text start = skipTrivia text stop := by
  induction run with
  | done => rfl
  | piece trivium _ ih => rw [trivium.skipTrivia_eq, ih]

theorem unique {others : List Text} (run : TriviaRun text start pieces stop)
    (another : TriviaRun text start others stop) : others = pieces := by
  induction run generalizing others with
  | done offset =>
      cases another with
      | done => rfl
      | piece trivium later =>
          have := trivium.lt
          have := later.le
          omega
  | piece trivium later ih =>
      cases another with
      | done =>
          have := trivium.lt
          have := later.le
          omega
      | piece other otherLater =>
          cases trivium.unique other
          rw [ih otherLater]

end TriviaRun

theorem skipTrivia_run (text : Text) (start : Nat) :
    (∃ pieces, TriviaRun text start pieces (skipTrivia text start)) ∧
      ∀ next, ¬Trivium text (skipTrivia text start) next := by
  generalize remaining : text.length - start = count
  induction count using Nat.strongRecOn generalizing start with
  | ind count ih =>
      by_cases token : triviaPiece (text.drop start) = 0
      · have none := not_trivium_of_token token
        rw [skipTrivia_of_token none]
        exact ⟨⟨[], .done start⟩, none⟩
      · obtain ⟨middle, trivium⟩ := exists_trivium rfl token
        have further := trivium.lt
        have inside := trivium.le_length
        obtain ⟨⟨pieces, run⟩, ended⟩ := ih (text.length - middle) (by omega) middle rfl
        rw [trivium.skipTrivia_eq]
        exact ⟨⟨_, .piece trivium run⟩, ended⟩

end Text

/-- Skipping trivia leads from an offset over pieces of trivia to where no further piece begins, and stays in
the text. The pieces are the only ones, skipping from the end of any of them leads to the same offset, and so
does skipping again. -/
theorem skipTrivia_passes_all_pieces (file : SourceFile) (offset : Nat) :
    let stop := file.skipTrivia offset
    offset ≤ stop ∧
    (file.text.length ≤ offset → stop = offset) ∧
    (offset < file.text.length → stop ≤ file.text.length) ∧
    (∃ pieces, Text.TriviaRun file.text offset pieces stop ∧
      pieces.flatten = file.text.slice offset stop ∧
      ∀ others, Text.TriviaRun file.text offset others stop → others = pieces) ∧
    (∀ next, ¬Text.Trivium file.text stop next) ∧
    (∀ pieces boundary, Text.TriviaRun file.text offset pieces boundary →
      boundary ≤ stop ∧ file.skipTrivia boundary = stop) ∧
    file.skipTrivia stop = stop := by
  intro stop
  obtain ⟨⟨pieces, run⟩, ended⟩ := Text.skipTrivia_run file.text offset
  refine ⟨run.le, ?_, ?_, ⟨pieces, run, run.flatten_eq, ?_⟩, ended, ?_, ?_⟩
  · intro beyond
    refine Text.skipTrivia_of_token fun next trivium => ?_
    have := trivium.lt
    have := trivium.le_length
    omega
  · intro inside
    exact run.le_length (Nat.le_of_lt inside)
  · intro others another
    exact run.unique another
  · intro others boundary another
    have same : file.skipTrivia boundary = stop := another.skipTrivia_eq.symm
    obtain ⟨⟨_, further⟩, _⟩ := Text.skipTrivia_run file.text boundary
    refine ⟨?_, same⟩
    rw [← same]
    exact further.le
  · exact Text.skipTrivia_of_token ended

def commentedBrace : SourceFile where
  forest := .rootAlone
  root := 0
  text := "/*/ */\t// x\u2028\x7b".toList
  length := 13
  lineStarts := #[0, 12]
  parents := []
  root_kind := RawForest.kind_rootAlone
  root_inside := RawForest.rootAlone_inside _
  length_eq := by decide
  lineStarts_eq := by cbv
  parents_eq := ParentIndex.build?_rootAlone

theorem commentedBrace_comment :
    Text.TriviaRun commentedBrace.text 0 ["/*/ */".toList] 6 := by
  have comment : Text.Trivium commentedBrace.text 0 (4 + 2) := by
    refine .closedComment (by decide) (by decide) (by decide) ?_
    intro earlier low high
    have nearby : earlier = 2 ∨ earlier = 3 := by omega
    rcases nearby with rfl | rfl <;> decide
  exact .piece comment (.done 6)

theorem commentedBrace_skipTrivia :
    (0 < commentedBrace.text.length ∧ commentedBrace.skipTrivia 0 ≤ commentedBrace.text.length) ∧
      (commentedBrace.text.length ≤ 13 ∧ commentedBrace.skipTrivia 13 = 13) ∧
      (Text.TriviaRun commentedBrace.text 0 ["/*/ */".toList] 6 ∧
        6 ≤ commentedBrace.skipTrivia 0 ∧ commentedBrace.skipTrivia 6 = 12) := by
  have inside : 0 < commentedBrace.text.length := by decide
  have skipped : commentedBrace.skipTrivia 0 = 12 := by cbv
  obtain ⟨_, _, bounded, _, _, boundaries, _⟩ := skipTrivia_passes_all_pieces commentedBrace 0
  obtain ⟨_, stays, _⟩ := skipTrivia_passes_all_pieces commentedBrace 13
  obtain ⟨before, same⟩ := boundaries _ 6 commentedBrace_comment
  rw [skipped] at same
  exact ⟨⟨inside, bounded inside⟩, ⟨by decide, stays (by decide)⟩, commentedBrace_comment, before,
    same⟩

end Placement
