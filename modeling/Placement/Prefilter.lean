import Placement.Text.Basic

/-!
The screening of texts before any walk: a text without an at sign and without a modifier keyword holds
nothing that could be misplaced. Keywords count inside longer words too.
-/

namespace Placement

namespace Prefilter

def modifierSpellings : List String :=
  [ "abstract", "accessor", "async", "const", "declare", "default", "export", "in", "out",
    "override", "private", "protected", "public", "readonly", "static"]

def tokens : List String :=
  "@" :: modifierSpellings

/-- The tokens as alternatives of a regular expression; none of them needs an escape. -/
def pattern : String :=
  String.intercalate "|" tokens

end Prefilter

def mightHaveViolations (text : Text) : Bool :=
  Prefilter.tokens.any fun token => Text.occurs token.toList text

theorem mightHaveViolations_iff (text : Text) :
    mightHaveViolations text = true ↔ ∃ token ∈ Prefilter.tokens, token.toList <:+: text := by
  simp [mightHaveViolations, Text.occurs_iff]

end Placement
