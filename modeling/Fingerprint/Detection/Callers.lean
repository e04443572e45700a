import Fingerprint.Detection.Shared
import Mathlib.Logic.Relation

/-!
The callers of the shared detector.

Any number of them make calls, one after the other or at the same time. A call takes steps of its own
until it is answered, and any other call may take steps in between. Only the steps that look at the
shared detector or change it are told apart: how long plugins take to load does not matter, and
whether they load at all is left open.
-/

namespace Fingerprint

/-- What a caller asks for. -/
inductive Request where
  /-- To initialise the shared detector from the plugin files of a configuration. -/
  | initialise (config : Config)
  /-- To install a detector for plugins at hand. -/
  | install (catalog : Catalog) (config : Config)
  | get
  | detect (transaction : Transaction)

/-- What a caller is told. -/
inductive Answer where
  | initialised
  | installed (isNew : Bool)
  | detector (detector : Detector)
  | detection (result : DetectionResult)
  | failed (failure : Failure)

/-- The answer to a call that yields a value or fails. -/
def Answer.of {α : Type} (answer : α → Answer) : Except Failure α → Answer
  | .ok value => answer value
  | .error failure => .failed failure

/-- How far a call has got. -/
inductive Progress where
  | asked
  /-- No detector was installed at first, so one is made of the plugins at hand. -/
  | building
  | initialising
  | answered (answer : Answer)
  /-- The caller waits for the answer no longer. -/
  | abandoned

/-- What may come of setting up a detector for a configuration: plugins are loaded that compile and
threads are started if needed, or something fails on the way. -/
inductive Detector.SetsUp (config : Config) : Except Failure Detector → Prop where
  | failed (failure : Failure) : SetsUp config (.error failure)
  | built {threads : Threads} {specs : List Plugin.Spec} {detector : Detector}
    (made : ofSpecs threads config specs = .ok detector) : SetsUp config (.ok detector)

/-- A step of a call: what it does to the shared detector, and how far it gets. -/
inductive Request.Advances (engine : ScriptEngine) :
    Request → SharedDetector × Progress → SharedDetector × Progress → Prop where
  | ready {config : Config} {shared : SharedDetector} (present : shared.isInitialised) :
    Advances engine (.initialise config) (shared, .asked) (shared, .answered .initialised)
  | begins {config : Config} {shared begun : SharedDetector}
    (begins : shared.begin? = some begun) :
    Advances engine (.initialise config) (shared, .asked) (begun, .initialising)
  | ends {config : Config} {shared : SharedDetector} {outcome : Except Failure Detector}
    (setsUp : Detector.SetsUp config outcome) :
    Advances engine (.initialise config) (shared, .initialising)
      (shared.finish outcome, .answered (.of (fun _ => .initialised) outcome))
  /-- A caller no longer waits for the end of another initialisation. -/
  | leaves {config : Config} {shared : SharedDetector} :
    Advances engine (.initialise config) (shared, .asked) (shared, .abandoned)
  /-- A caller breaks off its own initialisation. -/
  | stops {config : Config} {shared : SharedDetector} :
    Advances engine (.initialise config) (shared, .initialising)
      ({ shared with busy := false }, .abandoned)
  | present {catalog : Catalog} {config : Config} {shared : SharedDetector}
    (present : shared.isInitialised) :
    Advances engine (.install catalog config) (shared, .asked)
      (shared, .answered (.installed false))
  | absent {catalog : Catalog} {config : Config} {shared : SharedDetector}
    (absent : ¬ shared.isInitialised) :
    Advances engine (.install catalog config) (shared, .asked) (shared, .building)
  /-- The system refuses the threads of a parallel detector. -/
  | refused {catalog : Catalog} {config : Config} {shared : SharedDetector}
    (parallel : config.isParallel) (failure : Failure) :
    Advances engine (.install catalog config) (shared, .building)
      (shared, .answered (.failed failure))
  | offers {catalog : Catalog} {config : Config} {shared : SharedDetector} :
    Advances engine (.install catalog config) (shared, .building)
      ((shared.offer ⟨catalog, config⟩).1,
        .answered (.installed (shared.offer ⟨catalog, config⟩).2))
  | gets {shared : SharedDetector} :
    Advances engine .get (shared, .asked) (shared, .answered (.of .detector shared.get))
  | detects {transaction : Transaction} {shared : SharedDetector} :
    Advances engine (.detect transaction) (shared, .asked)
      (shared, .answered (.of .detection (shared.detect engine transaction)))

/-- A call and how far it has got. -/
structure Call where
  request : Request
  progress : Progress

/-- The shared detector and the calls so far, in the order in which they were made. -/
structure Process where
  shared : SharedDetector
  calls : List Call

namespace Process

def start : Process := ⟨.empty, []⟩

/-- A step of a process: another call is made, or one of the calls takes a step. -/
inductive Step (engine : ScriptEngine) (process : Process) : Process → Prop where
  | asks (request : Request) :
    Step engine process ⟨process.shared, process.calls ++ [⟨request, .asked⟩]⟩
  | advances {place : Nat} {request : Request} {progress next : Progress} {shared : SharedDetector}
    (found : process.calls[place]? = some ⟨request, progress⟩)
    (advances : request.Advances engine (process.shared, progress) (shared, next)) :
    Step engine process ⟨shared, process.calls.set place ⟨request, next⟩⟩

/-- One process comes of the other by some number of steps. -/
def Runs (engine : ScriptEngine) : Process → Process → Prop :=
  Relation.ReflTransGen (Step engine)

end Process

end Fingerprint
