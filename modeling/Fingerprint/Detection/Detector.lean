import Fingerprint.Detection.Evaluation
import Fingerprint.Transaction.Scripts

/-!
Detectors: a catalog with settings, applied to transactions.

Every plugin of a pass is evaluated by itself. One that fails is listed with its failure and leaves
the others alone.
-/

namespace Fingerprint

/-- A catalog with settings. -/
structure Detector where
  catalog : Catalog
  config : Config
deriving Repr, Inhabited

/-- The result of a pass with its events. -/
structure PassReport where
  result : DetectionResult
  events : List Event
deriving Repr, Inhabited

namespace Evaluation

/-- The failure that aborts the pass, if there is one. -/
def abortion? (evaluation : Evaluation) : Option Failure :=
  match evaluation.detection with
  | .error failure => if failure.aborts then some failure else none
  | .ok _ => none

def detection? (evaluation : Evaluation) : Option (String × Detection) :=
  match evaluation.detection with
  | .ok (some detection) => some (evaluation.plugin, detection)
  | _ => none

def fault? (evaluation : Evaluation) : Option PluginFault :=
  match evaluation.detection with
  | .error failure => some ⟨evaluation.plugin, failure.message⟩
  | .ok _ => none

def missingFields (evaluation : Evaluation) : List MissingField :=
  evaluation.missing.map (⟨evaluation.plugin, ·⟩)

/-- The events that tell how the evaluation ended. -/
def endEvents (evaluation : Evaluation) : List Event :=
  (evaluation.detection?.map fun (plugin, detection) => .technologyFound plugin detection).toList ++
    (evaluation.fault?.map .pluginFailed).toList

end Evaluation

/-- The result that evaluations amount to. -/
def DetectionResult.ofEvaluations (evaluations : List Evaluation) : DetectionResult where
  detections := evaluations.filterMap Evaluation.detection?
  faults := evaluations.filterMap Evaluation.fault?
  missingFields := evaluations.flatMap Evaluation.missingFields

namespace Transaction

/-- The event that scripts are not looked for. -/
def scriptEvents (transaction : Transaction) (maxBytes : Nat) : List Event :=
  match transaction.body with
  | none => []
  | some body => if skipsBody maxBytes body then [.scriptsSkipped (Text.byteCount body)] else []

end Transaction

namespace Detector

/-- A detector with the default settings. -/
def standard (catalog : Catalog) : Detector := ⟨catalog, .standard⟩

def probe (detector : Detector) : ScriptProbe := ⟨detector.config.scriptLimits⟩

/-- The scripts of a transaction that are probed. -/
def blocks (detector : Detector) (transaction : Transaction) : List String :=
  transaction.scriptSources detector.config.scriptLimits.maxScriptBytes

/-- Evaluates plugins, each by itself. -/
def evaluations (detector : Detector) (engine : ScriptEngine) (transaction : Transaction)
    (plugins : List Plugin) : List Evaluation :=
  let blocks := detector.blocks transaction
  plugins.map fun plugin => plugin.evaluate engine detector.config transaction blocks

def summary (detector : Detector) (result : DetectionResult) : Event :=
  .passFinished detector.config.verbose result.size result.faults.length result.missingFields.length

/-- The events of a pass as its caller sees them. Those of the single evaluations are left on the
threads where these run. -/
def passEvents (detector : Detector) (transaction : Transaction) (evaluations : List Evaluation)
    (result : DetectionResult) : List Event :=
  transaction.scriptEvents detector.config.scriptLimits.maxScriptBytes ++
    (if detector.config.isParallel then [] else evaluations.flatMap (·.events)) ++
    evaluations.flatMap (·.endEvents) ++ [detector.summary result]

/-- A pass over plugins with its events. -/
def report (detector : Detector) (engine : ScriptEngine) (transaction : Transaction)
    (plugins : List Plugin) : Except Failure PassReport :=
  let evaluations := detector.evaluations engine transaction plugins
  match evaluations.findSome? Evaluation.abortion? with
  | some failure => .error failure
  | none =>
    let result := DetectionResult.ofEvaluations evaluations
    .ok ⟨result, detector.passEvents transaction evaluations result⟩

/-- The technologies of a transaction. -/
def detect (detector : Detector) (engine : ScriptEngine) (transaction : Transaction) :
    Except Failure DetectionResult :=
  (detector.report engine transaction detector.catalog.plugins).map (·.result)

/-- The technology of one plugin. -/
def detectPlugin (detector : Detector) (engine : ScriptEngine) (transaction : Transaction)
    (plugin : Plugin) : Except Failure DetectionResult :=
  (detector.report engine transaction [plugin]).map (·.result)

/-- The plugin of this name alone, if the catalog holds it. -/
def named (detector : Detector) (name : String) : Except Failure (List Plugin) :=
  match detector.catalog.get? name with
  | some plugin => .ok [plugin]
  | none => .error (.pluginUnknown name)

/-- The technology of the plugin of this name. -/
def detectNamed (detector : Detector) (engine : ScriptEngine) (transaction : Transaction)
    (name : String) : Except Failure DetectionResult := do
  return (← detector.report engine transaction (← detector.named name)).result

end Detector

end Fingerprint
