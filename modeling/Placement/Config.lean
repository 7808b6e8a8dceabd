import Placement.Check

/-!
Configuration of a validator: which checks run, whether texts are screened first, and the module that
offers the compiler surface.
-/

namespace Placement

/-- Enabled checks are listed in run order and without repetition; without a list all checks run. -/
structure Config where
  enabled : Option (List CheckName)
  usesFastPath : Bool
  surfaceModule : String
  module_ne_empty : surfaceModule ≠ ""

/-- A configuration as described. The names of checks form a set and come in any order. -/
structure ConfigDraft where
  enabled : Option (List String)
  usesFastPath : Bool
  surfaceModule : String

namespace Config

def defaultModule : String :=
  "modcheck.infrastructure.compiler_api.typescript"

def default : Config where
  enabled := none
  usesFastPath := true
  surfaceModule := defaultModule
  module_ne_empty := by decide

instance : Inhabited Config :=
  ⟨default⟩

def firstUnknown (names : List String) : Option String :=
  let unknown := names.filter fun name => (CheckName.named? name).isNone
  (unknown.mergeSort fun first second => decide (first ≤ second)).head?

def checkNames : Option (List String) → Except Failure (Option (List CheckName))
  | none => .ok none
  | some [] => .error (.fault .noEnabledChecks)
  | some (first :: rest) =>
      match firstUnknown (first :: rest) with
      | some name => .error (.unknownCheck ⟨name, CheckName.all.map CheckName.text⟩)
      | none => .ok (some (CheckName.all.filter fun name => (first :: rest).contains name.text))

def build? (draft : ConfigDraft) : Except Failure Config := do
  let enabled ← checkNames draft.enabled
  if unnamed : draft.surfaceModule = "" then throw (.fault .emptySurfaceModule)
  else return ⟨enabled, draft.usesFastPath, draft.surfaceModule, unnamed⟩

def isEnabled (config : Config) (text : String) : Bool :=
  match config.enabled with
  | none => true
  | some names => names.any fun name => name.text == text

def checks (config : Config) : List Check :=
  (CheckName.all.filter fun name => config.isEnabled name.text).map Check.builtin

end Config

end Placement
