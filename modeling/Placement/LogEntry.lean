import Placement.Violation

/-!
What is logged, each entry with its level.
-/

namespace Placement

inductive LogEntry where
  | screenedOut
  | loading (moduleName : String)
  | loaded (moduleName : String)
  | importFailed (moduleName text : String)
  | noSurface (moduleName : String)
  | violation (kind : ViolationKind) (violation : Violation)

namespace LogEntry

def surfaceAttribute : String :=
  "COMPILER_API"

def level : LogEntry → String
  | .importFailed _ _ | .noSurface _ => "ERROR"
  | _ => "DEBUG"

def message : LogEntry → String
  | .screenedOut => "No decorator or modifier in source, skipping placement checks"
  | .loading moduleName => "Loading compiler API from " ++ moduleName
  | .loaded moduleName => "Compiler API loaded from " ++ moduleName
  | .importFailed moduleName text =>
      "Compiler API module " ++ moduleName ++ " could not be imported: " ++ text
  | .noSurface moduleName => "Module " ++ moduleName ++ " does not expose " ++ surfaceAttribute
  | .violation kind found =>
      "Placement violation " ++ kind.name ++ " at " ++ found.location.render ++ ": " ++
        found.reason

def render (entry : LogEntry) : String :=
  entry.level ++ " " ++ entry.message

end LogEntry

end Placement
