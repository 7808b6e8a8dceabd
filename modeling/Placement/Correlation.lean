import Placement.Tree.Public
import Placement.Tree.Raw

/-!
Which public node came from which raw node. Two one-directional maps are kept and need not be inverse
to each other; a pair is trusted only when both maps agree on it.
-/

namespace Placement

/-- Both maps list their entries newest first, and the newest entry of a key counts. -/
structure Correlation where
  raws : List (PublicId × RawId)
  publics : List (RawId × PublicId)

namespace Correlation

def ofMaps (publicToRaw : List (PublicId × RawId)) (rawToPublic : List (RawId × PublicId)) :
    Correlation :=
  ⟨publicToRaw.reverse, rawToPublic.reverse⟩

def build? : Option (List (PublicId × RawId)) → Option (List (RawId × PublicId)) →
    Except Fault Correlation
  | some publicToRaw, some rawToPublic => .ok (ofMaps publicToRaw rawToPublic)
  | _, _ => .error (.absent .correlationMaps)

def ofPairs (pairs : List (PublicId × RawId)) : Correlation :=
  ofMaps pairs (pairs.map Prod.swap)

def rawFor (correlation : Correlation) (shown : PublicId) : Option RawId :=
  correlation.raws.lookup shown

def publicFor (correlation : Correlation) (raw : RawId) : Option PublicId :=
  correlation.publics.lookup raw

/-- The raw node of a public node, provided that the raw node records this very public node. -/
def correlate (correlation : Correlation) (shown : PublicId) : Option RawId :=
  match correlation.rawFor shown with
  | none => none
  | some raw => if correlation.publicFor raw = some shown then some raw else none

theorem correlate_eq_some_iff (correlation : Correlation) (shown : PublicId) (raw : RawId) :
    correlation.correlate shown = some raw ↔
      correlation.rawFor shown = some raw ∧ correlation.publicFor raw = some shown := by
  simp only [correlate]
  cases correlation.rawFor shown with
  | none => simp
  | some found =>
      simp only [Option.ite_none_right_eq_some, Option.some.injEq]
      constructor
      · rintro ⟨recorded, rfl⟩
        exact ⟨rfl, recorded⟩
      · rintro ⟨rfl, recorded⟩
        exact ⟨recorded, rfl⟩

end Correlation

end Placement
