import Placement.Loader.Session

/-!
Callers of one loader on event loops of their own. An import belongs to the loop of the caller that
started it; a caller on another loop does not wait for it but starts an import itself.
-/

namespace Placement

/-- Loops are numbered, and every import has the number of its loop as its home. -/
structure LoopedSession where
  session : Session
  homes : Array Nat

namespace LoopedSession

def start (loader : Loader) : LoopedSession :=
  ⟨Session.start loader, #[]⟩

def isElsewhere (looped : LoopedSession) (loop : Nat) : Bool :=
  looped.session.loader.pending.any fun number =>
    looped.session.loader.isRunning number && looped.homes[number]? != some loop

/-- The session as a caller on a loop finds it, without an import that it cannot wait for. -/
def seenFrom (looped : LoopedSession) (loop : Nat) : Session :=
  if looped.isElsewhere loop then
    { looped.session with loader := { looped.session.loader with pending := none } }
  else looped.session

def load (importer : Nat → ImportOutcome) (looped : LoopedSession) (loop : Nat) : LoopedSession :=
  let next := (looped.seenFrom loop).load importer
  ⟨next, looped.homes ++
    List.replicate (next.loader.imports.size - looped.session.loader.imports.size) loop⟩

def sequential (importer : Nat → ImportOutcome) (loops : List Nat) (looped : LoopedSession) :
    LoopedSession :=
  loops.foldl (load importer) looped

end LoopedSession

end Placement
