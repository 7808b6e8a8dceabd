import Placement.Failure
import Placement.LogEntry

/-!
A loader imports the module that offers the compiler surface, on first use only. The surface of the
first successful import is kept for good; a failed import is not, and the next caller starts another.
Callers that arrive while an import is unfinished join it.
-/

namespace Placement

structure ImportError where
  className : String
  text : String
  class_ne_empty : className ≠ ""
  deriving Repr

inductive ImportOutcome where
  | surface (surface : Surface)
  | noSurface
  | importError (raised : ImportError)
  | crash (raised : ImportCrash)

inductive ImportState where
  | running
  | finished (result : Except Failure Surface)

namespace ImportState

def isRunning : ImportState → Bool
  | running => true
  | finished _ => false

def result? : ImportState → Option (Except Failure Surface)
  | running => none
  | finished result => some result

end ImportState

structure Loader where
  moduleName : String
  module_ne_empty : moduleName ≠ ""
  memo : Option Surface
  imports : Array ImportState
  pending : Option Nat

inductive Entry where
  | ready (surface : Surface)
  | joined (number : Nat)
  | started (number : Nat)

namespace Loader

def build? (moduleName : String) : Except Fault Loader :=
  if unnamed : moduleName = "" then .error .emptyLoaderModule
  else .ok ⟨moduleName, unnamed, none, #[], none⟩

def require? : Option Loader → Except Fault Loader
  | some loader => .ok loader
  | none => .error (.absent .loader)

def isLoaded (loader : Loader) : Bool :=
  loader.memo.isSome

def isRunning (loader : Loader) (number : Nat) : Bool :=
  loader.imports[number]?.any ImportState.isRunning

def result? (loader : Loader) (number : Nat) : Option (Except Failure Surface) :=
  loader.imports[number]?.bind ImportState.result?

/-- A caller gets the surface if there is one, else joins the latest import if it is unfinished, else
starts an import. -/
def entry (loader : Loader) : Entry :=
  match loader.memo with
  | some surface => .ready surface
  | none =>
      match loader.pending.filter loader.isRunning with
      | some number => .joined number
      | none => .started loader.imports.size

def enter (loader : Loader) : Loader :=
  match loader.entry with
  | .started number =>
      { loader with imports := loader.imports.push .running, pending := some number }
  | _ => loader

def noSurfaceReason : String :=
  LogEntry.surfaceAttribute ++ " missing or not a CompilerApi"

def loadFailure (moduleName reason : String) : Failure :=
  match LoadError.build? moduleName reason with
  | .ok error => .load error
  | .error fault => .fault fault

/-- What the callers of an import get. An import error without a text is reported by its class name,
and an error that is no import error is passed on as it is. -/
def settle (moduleName : String) : ImportOutcome → Except Failure Surface
  | .surface surface => .ok surface
  | .noSurface => .error (loadFailure moduleName noSurfaceReason)
  | .importError raised =>
      .error (loadFailure moduleName (if raised.text = "" then raised.className else raised.text))
  | .crash raised => .error (.crash raised)

def finishLog (moduleName : String) : ImportOutcome → List LogEntry
  | .surface _ => [.loaded moduleName]
  | .noSurface => [.noSurface moduleName]
  | .importError raised => [.importFailed moduleName raised.text]
  | .crash _ => []

def finish (loader : Loader) (number : Nat) (outcome : ImportOutcome) : Loader :=
  let result := settle loader.moduleName outcome
  { loader with
    imports := loader.imports.setIfInBounds number (.finished result)
    memo := result.toOption <|> loader.memo }

end Loader

end Placement
