import Placement.Proofs.Faithful
import Placement.Proofs.LocatedFailure
import Placement.Proofs.LoneRequest
import Placement.Proofs.Reoffset
import Placement.Report.Plain

/-!
Line endings do not matter. A text whose line feeds are written as pairs of a carriage return and a line
feed has the same lines, and what stands at an offset of the one text stands at the same line and column of
the other. So validation finds the same and the report looks the same.
-/

namespace Placement

namespace Text

/-- The text with each line feed written as a pair of a carriage return and a line feed. -/
def crlf (text : Text) : Text :=
  text.flatMap fun c => if c = '\n' then ['\r', '\n'] else [c]

/-- Where an offset is when each line feed before it takes two characters. -/
def crlfOffset (text : Text) (offset : Nat) : Nat :=
  offset + (text.take offset).count '\n'

variable {c : Char}

theorem crlf_newline (rest : Text) : crlf ('\n' :: rest) = '\r' :: '\n' :: crlf rest := rfl

theorem crlf_character (plain : c ≠ '\n') (rest : Text) : crlf (c :: rest) = c :: crlf rest := by
  rw [crlf, List.flatMap_cons, if_neg plain]
  rfl

theorem crlf_eq_cons {text later : Text} (notReturn : c ≠ '\r') (begins : crlf text = c :: later) :
    ∃ rest, text = c :: rest := by
  cases text with
  | nil => cases begins
  | cons first rest =>
      by_cases newline : first = '\n'
      · subst newline
        cases begins
        exact absurd rfl notReturn
      · rw [crlf_character newline] at begins
        cases begins
        exact ⟨rest, rfl⟩

theorem crlfOffset_zero (text : Text) : crlfOffset text 0 = 0 := rfl

theorem crlfOffset_newline (rest : Text) (offset : Nat) :
    crlfOffset ('\n' :: rest) (offset + 1) = crlfOffset rest offset + 2 := by
  simp only [crlfOffset, List.take_succ_cons, List.count_cons_self]
  omega

theorem crlfOffset_character (plain : c ≠ '\n') (rest : Text) (offset : Nat) :
    crlfOffset (c :: rest) (offset + 1) = crlfOffset rest offset + 1 := by
  simp only [crlfOffset, List.take_succ_cons, List.count_cons_of_ne plain]
  omega

theorem crlfOffset_add (text : Text) (first second : Nat) :
    crlfOffset text (first + second) =
      crlfOffset text first + crlfOffset (text.drop first) second := by
  simp only [crlfOffset, List.take_add, List.count_append]
  omega

theorem crlfOffset_lt_crlfOffset (text : Text) {first second : Nat} (before : first < second) :
    crlfOffset text first < crlfOffset text second := by
  obtain ⟨gap, rfl⟩ := Nat.exists_eq_add_of_lt before
  rw [Nat.add_assoc, crlfOffset_add]
  have grows : gap + 1 ≤ crlfOffset (text.drop first) (gap + 1) := Nat.le_add_right _ _
  omega

theorem crlfOffset_length (text : Text) : crlfOffset text text.length = (crlf text).length := by
  induction text with
  | nil => rfl
  | cons c rest ih =>
      by_cases newline : c = '\n'
      · subst newline
        rw [List.length_cons, crlfOffset_newline, ih]
        rfl
      · rw [List.length_cons, crlfOffset_character newline, ih, crlf_character newline,
          List.length_cons]

theorem drop_crlf (text : Text) (offset : Nat) :
    (crlf text).drop (crlfOffset text offset) = crlf (text.drop offset) := by
  induction text generalizing offset with
  | nil => simp [crlf]
  | cons c rest ih =>
      cases offset with
      | zero => rfl
      | succ offset =>
          by_cases newline : c = '\n'
          · subst newline
            rw [crlfOffset_newline, List.drop_succ_cons, ← ih]
            rfl
          · rw [crlfOffset_character newline, crlf_character newline, List.drop_succ_cons,
              List.drop_succ_cons, ih]

theorem blockCommentLength_crlf (text : Text) :
    blockCommentLength (crlf text) = crlfOffset text (blockCommentLength text) := by
  fun_induction blockCommentLength text with
  | case1 => rfl
  | case2 rest => rfl
  | case3 c rest open_ ih =>
      by_cases newline : c = '\n'
      · subst newline
        rw [crlf_newline, crlfOffset_newline, ← ih]
        rfl
      · have stillOpen : ∀ later, c = '*' → crlf rest = '/' :: later → False := by
          intro later star closes
          obtain ⟨rest, rfl⟩ := crlf_eq_cons (by decide) closes
          exact open_ rest star rfl
        rw [crlf_character newline, crlfOffset_character newline, ← ih, blockCommentLength]
        exact stillOpen

theorem takeWhile_crlf (text : Text) :
    ((crlf text).takeWhile fun c => !isLineBreak c) = text.takeWhile fun c => !isLineBreak c := by
  induction text with
  | nil => rfl
  | cons c rest ih =>
      by_cases newline : c = '\n'
      · subst newline
        rfl
      · rw [crlf_character newline, List.takeWhile_cons, List.takeWhile_cons, ih]

theorem crlfOffset_takeWhile (text : Text) :
    crlfOffset text (text.takeWhile fun c => !isLineBreak c).length =
      (text.takeWhile fun c => !isLineBreak c).length := by
  have unbroken : '\n' ∉ text.takeWhile fun c => !isLineBreak c := by
    intro member
    cases List.all_eq_true.1 List.all_takeWhile _ member
  have taken := List.prefix_iff_eq_take.1
    (List.takeWhile_prefix (l := text) fun c => !isLineBreak c)
  rw [crlfOffset, ← taken, List.count_eq_zero_of_not_mem unbroken, Nat.add_zero]

theorem triviaLength_of_blank (blank : isBlank c = true) (rest : Text) :
    triviaLength (c :: rest) = triviaLength rest + 1 := by
  have piece := triviaPiece_of_blank blank rest
  rw [triviaLength_step _ (by rw [piece]; decide), piece, List.drop_succ_cons, List.drop_zero,
    Nat.add_comm]

theorem triviaPiece_crlf (elsewhere : c ≠ '\n') (rest : Text) :
    triviaPiece (crlf (c :: rest)) = crlfOffset (c :: rest) (triviaPiece (c :: rest)) := by
  by_cases opens : ∃ later, c = '/' ∧ (rest = '/' :: later ∨ rest = '*' :: later)
  · obtain ⟨later, rfl, rfl | rfl⟩ := opens
    · rw [triviaPiece, crlfOffset_character (by decide), crlfOffset_character (by decide),
        crlfOffset_takeWhile, crlf_character (by decide), crlf_character (by decide), triviaPiece,
        takeWhile_crlf]
    · rw [triviaPiece, crlfOffset_character (by decide), crlfOffset_character (by decide),
        ← blockCommentLength_crlf, crlf_character (by decide), crlf_character (by decide),
        triviaPiece]
  · have plain : ∀ later, c = '/' → rest ≠ '/' :: later ∧ rest ≠ '*' :: later := by
      refine fun later slash => ⟨?_, ?_⟩
      · exact fun same => opens ⟨later, slash, Or.inl same⟩
      · exact fun same => opens ⟨later, slash, Or.inr same⟩
    have stillPlain : ∀ later, c = '/' → crlf rest ≠ '/' :: later ∧ crlf rest ≠ '*' :: later := by
      refine fun later slash => ⟨fun same => ?_, fun same => ?_⟩
      · obtain ⟨rest, rfl⟩ := crlf_eq_cons (by decide) same
        exact (plain rest slash).1 rfl
      · obtain ⟨rest, rfl⟩ := crlf_eq_cons (by decide) same
        exact (plain rest slash).2 rfl
    rw [crlf_character elsewhere, triviaPiece_of_plain plain, triviaPiece_of_plain stillPlain]
    split
    · rw [crlfOffset_character elsewhere, crlfOffset_zero]
    · rfl

theorem triviaLength_crlf (text : Text) :
    triviaLength (crlf text) = crlfOffset text (triviaLength text) := by
  have blank : isBlank '\n' = true := by decide
  induction text using triviaLength.induct with
  | case1 text token =>
      have stillToken : triviaPiece (crlf text) = 0 := by
        cases text with
        | nil => rfl
        | cons c rest =>
            by_cases newline : c = '\n'
            · subst newline
              cases token.symm.trans (triviaPiece_of_blank blank rest)
            · rw [triviaPiece_crlf newline, token, crlfOffset_zero]
      rw [triviaLength_eq_zero _ token, triviaLength_eq_zero _ stillToken, crlfOffset_zero]
  | case2 text length found ih =>
      cases text with
      | nil => cases found
      | cons c rest =>
          by_cases newline : c = '\n'
          · subst newline
            cases found.symm.trans (triviaPiece_of_blank blank rest)
            rw [List.drop_succ_cons, List.drop_zero] at ih
            rw [crlf_newline, triviaLength_of_blank (by decide), triviaLength_of_blank blank,
              triviaLength_of_blank blank, crlfOffset_newline, ih]
          · have pieceEq := triviaPiece_crlf newline rest
            have piece : triviaPiece (c :: rest) ≠ 0 := by
              rw [found]
              exact Nat.succ_ne_zero length
            have stillPiece : triviaPiece (crlf (c :: rest)) ≠ 0 := by
              rw [pieceEq, crlfOffset]
              omega
            rw [triviaLength_step _ piece, triviaLength_step _ stillPiece, pieceEq, drop_crlf,
              crlfOffset_add, found, ih]

theorem skipTrivia_crlf (text : Text) (offset : Nat) :
    skipTrivia (crlf text) (crlfOffset text offset) = crlfOffset text (skipTrivia text offset) := by
  rw [skipTrivia, drop_crlf, triviaLength_crlf, skipTrivia, crlfOffset_add]

theorem not_pair (notReturn : c ≠ '\r') (rest : Text) :
    ∀ later, c = '\r' → rest = '\n' :: later → False :=
  fun _ isReturn _ => notReturn isReturn

theorem place_crlf {text : Text} (noReturn : '\r' ∉ text) (offset : Nat) :
    place (crlf text) (crlfOffset text offset) = place text offset := by
  induction text generalizing offset with
  | nil =>
      rw [crlfOffset, List.take_nil, List.count_nil, Nat.add_zero]
      rfl
  | cons c rest ih =>
      obtain ⟨notReturn, restFree⟩ := not_or.1 (mt List.mem_cons.2 noReturn)
      cases offset with
      | zero => rw [crlfOffset_zero, place_zero, place_zero]
      | succ offset =>
          by_cases newline : c = '\n'
          · subst newline
            rw [crlf_newline, crlfOffset_newline, place, ih restFree,
              place_of_break (by decide) (not_pair (by decide) rest)]
          · rw [crlf_character newline, crlfOffset_character newline]
            by_cases ends : isLineBreak c = true
            · have single := not_pair (Ne.symm notReturn)
              rw [place_of_break ends (single _), place_of_break ends (single _), ih restFree]
            · rw [place_of_character ends, place_of_character ends, ih restFree]

theorem splitLines_crlf {text : Text} (noReturn : '\r' ∉ text) :
    splitLines (crlf text) = splitLines text := by
  induction text with
  | nil => rfl
  | cons c rest ih =>
      obtain ⟨notReturn, restFree⟩ := not_or.1 (mt List.mem_cons.2 noReturn)
      by_cases newline : c = '\n'
      · subst newline
        rw [crlf_newline, splitLines, ih restFree,
          splitLines_of_break (by decide) (not_pair (by decide) rest)]
      · rw [crlf_character newline]
        by_cases ends : isLineBreak c = true
        · have single := not_pair (Ne.symm notReturn)
          rw [splitLines_of_break ends (single _), splitLines_of_break ends (single _), ih restFree]
        · obtain ⟨line, lines, split, splitText⟩ := splitLines_of_character ends rest
          obtain ⟨first, later, splitCrlf, splitCrlfText⟩ := splitLines_of_character ends (crlf rest)
          rw [ih restFree, split] at splitCrlf
          cases splitCrlf
          rw [splitText, splitCrlfText]

theorem lines_stand_in_text (text : Text) :
    (∀ line ∈ splitLines text, line <:+: text) ∧
      ∀ first lines, splitLines text = first :: lines → first <+: text := by
  fun_induction splitLines text with
  | case1 => simp
  | case2 rest ih =>
      refine ⟨List.forall_mem_cons.2 ⟨List.nil_infix, fun line member => ?_⟩, ?_⟩
      · exact List.infix_cons (List.infix_cons (ih.1 line member))
      · rintro _ _ ⟨⟩
        exact List.nil_prefix
  | case3 c rest single ends ih =>
      refine ⟨List.forall_mem_cons.2 ⟨List.nil_infix, fun line member => ?_⟩, ?_⟩
      · exact List.infix_cons (ih.1 line member)
      · rintro _ _ ⟨⟩
        exact List.nil_prefix
  | case4 c rest single plain split => exact absurd split (splitLines_ne_nil rest)
  | case5 c rest single plain first lines split ih =>
      have begins : c :: first <+: c :: rest := List.cons_prefix_cons.2 ⟨rfl, ih.2 first lines split⟩
      refine ⟨List.forall_mem_cons.2 ⟨begins.isInfix, fun line member => ?_⟩, ?_⟩
      · exact List.infix_cons (ih.1 line (by rw [split]; exact List.mem_cons_of_mem _ member))
      · rintro _ _ ⟨⟩
        exact begins

theorem infix_iff_exists_line {word : Text} (nonempty : word ≠ [])
    (unbroken : ∀ c ∈ word, ¬isLineBreak c = true) (text : Text) :
    word <:+: text ↔ ∃ line ∈ splitLines text, word <:+: line := by
  constructor
  · intro standing
    obtain ⟨offset, standing⟩ := (infix_iff_exists_offset word text).1 standing
    obtain ⟨line, found, onLine, _⟩ := exists_line_of_word nonempty unbroken standing
    exact ⟨line, List.mem_of_getElem? found, onLine.isInfix.trans (List.drop_suffix _ _).isInfix⟩
  · rintro ⟨line, member, standing⟩
    exact standing.trans ((lines_stand_in_text text).1 line member)

end Text

theorem mightHaveViolations_crlf {text : Text} (noReturn : '\r' ∉ text) :
    mightHaveViolations text.crlf = mightHaveViolations text := by
  rw [Bool.eq_iff_iff, mightHaveViolations_iff, mightHaveViolations_iff]
  refine exists_congr fun token => and_congr_right fun member => ?_
  obtain ⟨nonempty, visible⟩ := visible_of_mem_tokens member
  have unbroken := Text.unbroken_of_visible visible
  rw [Text.infix_iff_exists_line nonempty unbroken, Text.infix_iff_exists_line nonempty unbroken,
    Text.splitLines_crlf noReturn]

def Text.pairOffsets (text : Text) (noReturn : '\r' ∉ text) : Reoffset text text.crlf where
  move := text.crlfOffset
  place := fun position => position
  move_lt_move := text.crlfOffset_lt_crlfOffset
  place_le_place := fun before => before
  move_length := text.crlfOffset_length
  skipTrivia_move := text.skipTrivia_crlf
  position_move := fun offset _ => by
    simp only [Text.position, Text.place_crlf noReturn]

/-- Outcomes that are the same, or differ in the numbers that the fault of an offset out of range tells. -/
inductive SameVerdict (move : Nat → Nat) : Except Failure Unit → Except Failure Unit → Prop where
  | same (outcome : Except Failure Unit) : SameVerdict move outcome outcome
  | outOfRange (offset : Int) (length : Nat) :
      SameVerdict move (.error (.fault (.offsetOutOfRange offset length)))
        (.error (.fault (.offsetOutOfRange (move offset.toNat) (move length))))

theorem SameVerdict.violation_iff {move : Nat → Nat} {outcome other : Except Failure Unit}
    (same : SameVerdict move outcome other) (violation : Violation) :
    other = .error (.violation violation) ↔ outcome = .error (.violation violation) := by
  cases same with
  | same => rfl
  | outOfRange => simp

theorem sameVerdict_mapError {text : Text} (noReturn : '\r' ∉ text) (outcome : Except Failure Unit) :
    SameVerdict text.crlfOffset outcome
      (outcome.mapError (text.pairOffsets noReturn).onFailure) := by
  cases outcome with
  | ok _ => exact .same _
  | error failure =>
      cases failure with
      | fault fault =>
          simp only [Except.mapError, Reoffset.onFailure, Reoffset.onFault]
          split
          next => exact .outOfRange _ _
          next => exact .same _
      | unknownCheck _ => exact .same _
      | violation _ => exact .same _
      | load _ => exact .same _
      | crash _ => exact .same _

def ParseResult.withPairs (result : ParseResult) (noReturn : '\r' ∉ result.text) : ParseResult :=
  result.moved (result.text.pairOffsets noReturn)

namespace Validator

variable {result : ParseResult} (noReturn : '\r' ∉ result.text) (names : List CheckName)
  (usesFastPath : Bool)

theorem inspect_withPairs {surface : Surface} (sees : surface.SeesKinds) :
    SameVerdict result.text.crlfOffset
      (inspect ⟨names.map Check.builtin, usesFastPath⟩ surface result).outcome
      (inspect ⟨names.map Check.builtin, usesFastPath⟩ surface
        (result.withPairs noReturn)).outcome := by
  have moved := inspect_moved sees result (result.text.pairOffsets noReturn) (Or.inr rfl) names
    usesFastPath
  rw [ParseResult.withPairs, moved]
  exact sameVerdict_mapError noReturn _

theorem answer_withPairs (loaded : Except Failure Surface)
    (sees : ∀ surface, loaded = .ok surface → surface.SeesKinds) :
    SameVerdict result.text.crlfOffset
      (answer ⟨names.map Check.builtin, usesFastPath⟩ result loaded).outcome
      (answer ⟨names.map Check.builtin, usesFastPath⟩ (result.withPairs noReturn)
        loaded).outcome := by
  cases loaded with
  | error failure => exact .same _
  | ok surface => exact inspect_withPairs noReturn names usesFastPath (sees surface rfl)

theorem screensOut_withPairs (validator : Validator) :
    validator.screensOut (result.withPairs noReturn).text = validator.screensOut result.text := by
  have textEq : (result.withPairs noReturn).text = result.text.crlf := rfl
  rw [screensOut, screensOut, textEq, mightHaveViolations_crlf noReturn]

end Validator

theorem PlainReport.write_crlf {text : Text} (noReturn : '\r' ∉ text) (context : Int)
    (violation : Violation) : write context violation text.crlf = write context violation text := by
  have frameEq : ∀ (location : Location) (context : Nat),
      Frame.build text.crlf location context = Frame.build text location context := by
    intro location context
    rw [Frame.build, Frame.build, Text.splitLines_crlf noReturn]
  simp only [write, Frame.build?, frameEq]

/-- Writing the line feeds of a text as pairs changes neither how a walk over its parse result ends nor
how a request for it does, whatever the loader gives, nor the report of any violation. -/
theorem line_endings_change_nothing (result : ParseResult) (noReturn : '\r' ∉ result.text) :
    let twin := result.withPairs noReturn
    (∀ (surface : Surface) (names : List CheckName) (usesFastPath : Bool), surface.SeesKinds →
      SameVerdict result.text.crlfOffset
        (Validator.inspect ⟨names.map Check.builtin, usesFastPath⟩ surface result).outcome
        (Validator.inspect ⟨names.map Check.builtin, usesFastPath⟩ surface twin).outcome) ∧
    (∀ (importer : Service.Importer) (service : Service) (moduleName : String)
        (loaded : Except Failure Surface) (names : List CheckName) (usesFastPath : Bool),
      service.Loads importer moduleName loaded →
        (∀ surface, loaded = .ok surface → surface.SeesKinds) →
          ∃ outcome twinOutcome,
            service.outcome? importer ⟨names.map Check.builtin, usesFastPath⟩ moduleName result =
              some outcome ∧
            service.outcome? importer ⟨names.map Check.builtin, usesFastPath⟩ moduleName twin =
              some twinOutcome ∧
            SameVerdict result.text.crlfOffset outcome twinOutcome) ∧
    (∀ (context : Int) (violation : Violation),
      PlainReport.write context violation twin.text =
        PlainReport.write context violation result.text) := by
  intro twin
  refine ⟨?_, ?_, PlainReport.write_crlf noReturn⟩
  · intro surface names usesFastPath sees
    exact Validator.inspect_withPairs noReturn names usesFastPath sees
  · intro importer service moduleName loaded names usesFastPath loads sees
    refine ⟨_, _, Service.outcome?_of_loads _ result loads, Service.outcome?_of_loads _ twin loads, ?_⟩
    rw [Validator.screensOut_withPairs noReturn]
    split
    · exact .same _
    · exact Validator.answer_withPairs noReturn names usesFastPath loaded sees

def readonlyBelowComment : ParseResult where
  publics := .ofDrafts [⟨"MethodDefinition", 6, 21, [], none⟩]
  ast := 0
  correlation := .ofPairs [(0, 1)]
  file :=
    { forest := .ofDrafts [
        ⟨some .readonlyKeyword, 0, 14, none, none, none, none, []⟩,
        ⟨some .methodDeclaration, 0, 21, some [0], none, none, none, []⟩,
        ⟨some .sourceFile, 0, 21, none, none, none, none, [1]⟩]
      root := 2
      text := "/**/\n readonly m() \x7b\x7d".toList
      length := 21
      lineStarts := #[0, 5]
      parents := [(0, 1), (1, 2)]
      root_kind := by decide
      root_inside := by decide
      length_eq := by decide
      lineStarts_eq := by decide
      parents_eq := by cbv }

theorem readonlyBelowComment_noReturn : '\r' ∉ readonlyBelowComment.text := by
  decide

def readonlyBelowPair : ParseResult :=
  readonlyBelowComment.withPairs readonlyBelowComment_noReturn

theorem readonlyBelowComment_line_endings :
    Surface.typeScript.SeesKinds ∧
      (Validator.inspect ⟨CheckName.all.map Check.builtin, true⟩ .typeScript
        readonlyBelowPair).outcome = .error (.violation misplacedReadonlyViolation) ∧
      (∃ outcome twinOutcome,
        Service.fresh.outcome? (fun _ _ => .surface .typeScript)
            ⟨CheckName.all.map Check.builtin, true⟩ Config.defaultModule readonlyBelowComment =
          some outcome ∧
        Service.fresh.outcome? (fun _ _ => .surface .typeScript)
            ⟨CheckName.all.map Check.builtin, true⟩ Config.defaultModule readonlyBelowPair =
          some twinOutcome ∧
        SameVerdict readonlyBelowComment.text.crlfOffset outcome twinOutcome) ∧
      PlainReport.write 2 misplacedReadonlyViolation readonlyBelowPair.text =
        PlainReport.write 2 misplacedReadonlyViolation readonlyBelowComment.text := by
  have loads : Service.fresh.Loads (fun _ _ => .surface .typeScript) Config.defaultModule
      (.ok .typeScript) := ⟨_, _, _, rfl, rfl, rfl⟩
  obtain ⟨walks, requests, reports⟩ :=
    line_endings_change_nothing readonlyBelowComment readonlyBelowComment_noReturn
  have sees := Surface.typeScript_seesKinds
  refine ⟨sees, ?_, requests _ _ _ _ CheckName.all true loads ?_, reports 2 _⟩
  · have found : (Validator.inspect ⟨CheckName.all.map Check.builtin, true⟩ .typeScript
        readonlyBelowComment).outcome = .error (.violation misplacedReadonlyViolation) := by
      cbv
    have same := walks .typeScript CheckName.all true sees
    exact (same.violation_iff _).2 found
  · rintro _ ⟨⟩
    exact sees

end Placement
