import Fingerprint.Detection.Setup

/-!
The detector that a process shares.

It is installed once and never replaced. An initialisation runs only while none is installed, one at
a time, and installs its detector only if it succeeds.
-/

namespace Fingerprint

/-- The place of the shared detector. -/
structure SharedDetector where
  installed : Option Detector
  /-- Whether an initialisation is under way. -/
  busy : Bool
deriving Repr, Inhabited

namespace SharedDetector

def empty : SharedDetector := ⟨none, false⟩

def isInitialised (shared : SharedDetector) : Bool := shared.installed.isSome

/-- The installed detector. -/
def get (shared : SharedDetector) : Except Failure Detector :=
  match shared.installed with
  | some detector => .ok detector
  | none => .error .detectorMissing

/-- Starts an initialisation if one is needed and none is under way. -/
def begin? (shared : SharedDetector) : Option SharedDetector :=
  if shared.isInitialised || shared.busy then none else some { shared with busy := true }

/-- Ends an initialisation; a detector that was set up is installed. -/
def finish (shared : SharedDetector) (detector : Except Failure Detector) : SharedDetector :=
  ⟨shared.installed.or detector.toOption, false⟩

/-- Installs a detector at hand, and tells whether it did. -/
def offer (shared : SharedDetector) (detector : Detector) : SharedDetector × Bool :=
  if shared.isInitialised || shared.busy then (shared, false)
  else ({ shared with installed := some detector }, true)

/-- An initialisation from the plugin files of a configuration that nothing interferes with. -/
structure Initialisation where
  shared : SharedDetector
  files : FileTree
  outcome : Except Failure Unit
  events : List Event

/-- Initialises the shared detector unless it is installed. -/
def initialise (shared : SharedDetector) (threads : Threads) (files : FileTree)
    (config : Config) : Initialisation :=
  match shared.begin? with
  | none => ⟨shared, files, .ok (), []⟩
  | some begun =>
    let setup := Detector.setUp threads files config
    ⟨begun.finish setup.detector, setup.files, setup.detector.map fun _ => (), setup.events⟩

/-- The technologies of a transaction, found by the shared detector. -/
def detect (shared : SharedDetector) (engine : ScriptEngine) (transaction : Transaction) :
    Except Failure DetectionResult := do
  (← shared.get).detect engine transaction

end SharedDetector

end Fingerprint
