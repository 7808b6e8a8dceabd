import Placement.ParseResult
import Placement.Prefilter
import Placement.Proofs.Slices
import Placement.Surface

/-!
What a parser guarantees of the tokens that it records: keyword modifiers stand in the text as they are
spelled, and decorators begin with an at sign. A text without any of the screened words has neither.
-/

namespace Placement

namespace SourceFile

def tokenText (file : SourceFile) (id : RawId) : Text :=
  file.text.slice (file.skipTrivia (file.forest.node id).pos) (file.forest.node id).stop

structure IsSpelled (file : SourceFile) (id : RawId) : Prop where
  inside : (file.forest.node id).stop ≤ file.text.length
  spelled : ∃ spelling, Surface.typeScriptToken (file.forest.node id).kind = some spelling ∧
    file.tokenText id = spelling.toList

structure IsMarked (file : SourceFile) (id : RawId) : Prop where
  inside : (file.forest.node id).stop ≤ file.text.length
  marked : "@".toList <+: file.tokenText id

end SourceFile

/-- Every token that is recorded with a raw node of a public node stands in the text. -/
structure ParseResult.Faithful (result : ParseResult) : Prop where
  keywords : ∀ shown raw, result.correlation.rawFor shown = some raw →
    ∀ modifier ∈ (result.file.forest.node raw).modifiers,
      (result.file.forest.node modifier).kind ∈ NodeKind.modifierKeywords →
        result.file.IsSpelled modifier
  decorators : ∀ shown raw, result.correlation.rawFor shown = some raw →
    ∀ decorator ∈ (result.file.forest.node raw).modifiers ++
        (result.file.forest.node raw).illegalDecorators,
      (result.file.forest.node decorator).kind = .decorator → result.file.IsMarked decorator

theorem mem_tokens_iff (word : String) :
    word ∈ Prefilter.tokens ↔ word = "@" ∨
      ∃ kind ∈ NodeKind.modifierKeywords, Surface.typeScriptToken kind = some word := by
  have spellings : Prefilter.modifierSpellings =
      NodeKind.modifierKeywords.filterMap Surface.typeScriptToken := rfl
  rw [Prefilter.tokens, List.mem_cons, spellings, List.mem_filterMap]

theorem visible_of_mem_tokens {word : String} (member : word ∈ Prefilter.tokens) :
    word.toList ≠ [] ∧ ∀ c ∈ word.toList, ¬Text.isBlank c = true := by
  have checked : (Prefilter.tokens.all fun token =>
      !token.toList.isEmpty && token.toList.all fun c => !Text.isBlank c) = true := by
    decide +kernel
  simpa using List.all_eq_true.1 checked word member

theorem mightHaveViolations_iff_exists_offset (text : Text) :
    mightHaveViolations text = true ↔ ∃ word : String, (word = "@" ∨
      ∃ kind ∈ NodeKind.modifierKeywords, Surface.typeScriptToken kind = some word) ∧
        ∃ offset, word.toList <+: text.drop offset := by
  simp only [mightHaveViolations_iff, mem_tokens_iff, Text.infix_iff_exists_offset]

theorem mightHaveViolations_of_isSpelled (file : SourceFile) (id : RawId)
    (keyword : (file.forest.node id).kind ∈ NodeKind.modifierKeywords)
    (standing : file.IsSpelled id) : mightHaveViolations file.text = true := by
  obtain ⟨spelling, spelledAs, textEq⟩ := standing.spelled
  refine (mightHaveViolations_iff file.text).2
    ⟨spelling, (mem_tokens_iff spelling).2 (Or.inr ⟨_, keyword, spelledAs⟩), ?_⟩
  rw [← textEq]
  exact Text.slice_infix _ _ _

theorem mightHaveViolations_of_isMarked (file : SourceFile) (id : RawId)
    (standing : file.IsMarked id) : mightHaveViolations file.text = true := by
  refine (mightHaveViolations_iff file.text).2 ⟨"@", (mem_tokens_iff "@").2 (Or.inl rfl), ?_⟩
  exact standing.marked.isInfix.trans (Text.slice_infix _ _ _)

namespace ParseResult.Faithful

theorem of_raws (result : ParseResult)
    (keywords : ∀ pair ∈ result.correlation.raws,
      ∀ modifier ∈ (result.file.forest.node pair.2).modifiers,
        (result.file.forest.node modifier).kind ∈ NodeKind.modifierKeywords →
          result.file.IsSpelled modifier)
    (decorators : ∀ pair ∈ result.correlation.raws,
      ∀ decorator ∈ (result.file.forest.node pair.2).modifiers ++
          (result.file.forest.node pair.2).illegalDecorators,
        (result.file.forest.node decorator).kind = .decorator → result.file.IsMarked decorator) :
    result.Faithful := by
  have recorded : ∀ shown raw, result.correlation.rawFor shown = some raw →
      (shown, raw) ∈ result.correlation.raws := by
    intro shown raw mapped
    obtain ⟨_, _, rawsEq, _⟩ := List.lookup_eq_some_iff.1 mapped
    rw [rawsEq]
    simp
  constructor
  · intro shown raw mapped
    exact keywords (shown, raw) (recorded shown raw mapped)
  · intro shown raw mapped
    exact decorators (shown, raw) (recorded shown raw mapped)

variable {result : ParseResult} {shown : PublicId} {raw : RawId}

theorem modifiers_eq_nil (faithful : result.Faithful)
    (screened : mightHaveViolations result.text = false)
    (mapped : result.correlation.rawFor shown = some raw) :
    (result.file.forest.node raw).modifiers = [] := by
  rw [List.eq_nil_iff_forall_not_mem]
  intro modifier member
  have found : mightHaveViolations result.file.text = true := by
    rcases (result.file.forest.fits raw).modifiers_valid modifier member with isDecorator | isKeyword
    · exact mightHaveViolations_of_isMarked result.file modifier
        (faithful.decorators shown raw mapped modifier (List.mem_append_left _ member) isDecorator)
    · have keyword := (NodeKind.isModifierKeyword_iff _).1 isKeyword
      exact mightHaveViolations_of_isSpelled result.file modifier keyword
        (faithful.keywords shown raw mapped modifier member keyword)
  rw [ParseResult.text, found] at screened
  cases screened

theorem illegalDecorators_eq_nil (faithful : result.Faithful)
    (screened : mightHaveViolations result.text = false)
    (mapped : result.correlation.rawFor shown = some raw) :
    (result.file.forest.node raw).illegalDecorators = [] := by
  rw [List.eq_nil_iff_forall_not_mem]
  intro decorator member
  have isDecorator := ((result.file.forest.fits raw).decorators_valid decorator member).1
  have found := mightHaveViolations_of_isMarked result.file decorator
    (faithful.decorators shown raw mapped decorator (List.mem_append_right _ member) isDecorator)
  rw [ParseResult.text, found] at screened
  cases screened

end ParseResult.Faithful

end Placement
