import Placement.Config
import Placement.Loader

/-!
Modules that can be imported by name. The parts of a dotted name are packages inside one another and
are imported from the outermost on, so an import fails at the shortest part that is not installed.
-/

namespace Placement

structure Catalog where
  modules : List (String × Option Surface)

namespace Catalog

def dot : Char := '.'

def lineage (moduleName : String) : List String :=
  let parts := moduleName.splitOn dot.toString
  (List.range parts.length).map fun depth =>
    String.intercalate dot.toString (parts.take (depth + 1))

def isInstalled (catalog : Catalog) (moduleName : String) : Bool :=
  catalog.modules.any fun entry => entry.1 == moduleName

def install (catalog : Catalog) (moduleName : String) (surface : Option Surface) : Catalog :=
  ⟨(moduleName, surface) :: catalog.modules ++ (lineage moduleName).map fun package =>
    (package, none)⟩

def notFound (moduleName : String) : ImportError where
  className := "ModuleNotFoundError"
  text := "No module named " ++ quoted moduleName
  class_ne_empty := by decide

def importModule (catalog : Catalog) (moduleName : String) : ImportOutcome :=
  match (lineage moduleName).find? fun package => !catalog.isInstalled package with
  | some missing => .importError (notFound missing)
  | none =>
      match (catalog.modules.lookup moduleName).join with
      | some surface => .surface surface
      | none => .noSurface

def standard : Catalog :=
  install ⟨[]⟩ Config.defaultModule (some Surface.typeScript)

end Catalog

end Placement
