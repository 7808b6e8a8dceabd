import Placement.Loader.Session

/-!
The loaders of a process, one for each module name, in the order in which the names were first asked
for. A name asked for again gives the loader it gave before.
-/

namespace Placement

structure Registry where
  entries : List (String × Session)

namespace Registry

def empty : Registry :=
  ⟨[]⟩

def slot? (registry : Registry) (moduleName : String) : Option Nat :=
  registry.entries.findIdx? fun entry => entry.1 == moduleName

def session? (registry : Registry) (slot : Nat) : Option Session :=
  (registry.entries[slot]?).map Prod.snd

/-- The place of the loader of a module, which is added at the end if it is new. -/
def obtain? (registry : Registry) (moduleName : String) : Except Fault (Registry × Nat) :=
  match registry.slot? moduleName with
  | some slot => .ok (registry, slot)
  | none =>
      match Loader.build? moduleName with
      | .error fault => .error fault
      | .ok loader =>
          .ok (⟨registry.entries ++ [(moduleName, Session.start loader)]⟩, registry.entries.length)

def modify (registry : Registry) (slot : Nat) (change : Session → Session) : Registry :=
  ⟨registry.entries.modify slot fun entry => (entry.1, change entry.2)⟩

end Registry

end Placement
