import Fingerprint.Detection.Detector
import Fingerprint.Plugin.Compile
import Fingerprint.Storage.Loading

/-!
Setting up detectors, from plugins at hand or from the plugin files of a configuration.
-/

namespace Fingerprint

namespace Catalog

/-- The event that a catalog was compiled. -/
def summary (catalog : Catalog) : Event :=
  let total (count : Plugin → Nat) : Nat := (catalog.plugins.map count).foldr (· + ·) 0
  .catalogCompiled catalog.size (total (·.matcherCount)) (total (·.scriptMatchers.length))

/-- The events of strict compilation; one that fails is silent. -/
def compileEvents (specs : List Plugin.Spec) : List Event :=
  match compile specs with
  | .ok catalog => [catalog.summary]
  | .error _ => []

/-- The events of lenient compilation. -/
def compileLenientEvents (specs : List Plugin.Spec) : List Event :=
  let (catalog, faults) := compileLenient specs
  faults.map (fun fault => .pluginSkipped fault.name fault.failure) ++ [catalog.summary]

end Catalog

/-- What the system says when it is asked for threads: whether it starts so many together. -/
structure Threads where
  grants : Nat → Bool

namespace Threads

def unlimited : Threads := ⟨fun _ => true⟩

/-- Whether a parallel configuration is refused its threads. -/
def refuse (threads : Threads) (config : Config) : Bool :=
  config.isParallel && !threads.grants config.workerThreads

@[simp] theorem refuse_unlimited (config : Config) : unlimited.refuse config = false :=
  Bool.and_false _

end Threads

/-- What setting up a detector amounts to. -/
structure Setup where
  detector : Except Failure Detector
  files : FileTree
  events : List Event

namespace Detector

/-- The detector of compiled plugins; a parallel one starts its threads at once. -/
def create (threads : Threads) (catalog : Catalog) (config : Config) : Except Failure Detector :=
  if threads.refuse config then .error .threadsRefused else .ok ⟨catalog, config⟩

theorem create_unlimited (catalog : Catalog) (config : Config) :
    create .unlimited catalog config = .ok ⟨catalog, config⟩ := by
  simp [create]

/-- The detector of loaded plugins. -/
def ofSpecs (threads : Threads) (config : Config) (specs : List Plugin.Spec) :
    Except Failure Detector := do
  create threads (← Catalog.compile specs) config

/-- The events of making a detector of loaded plugins; whether its threads start is silent. -/
def setupEvents (specs : List Plugin.Spec) : List Event :=
  Catalog.compileEvents specs ++
    match Catalog.compile specs with
    | .ok catalog => [.detectorReady catalog.size]
    | .error _ => []

/-- Loads and compiles the plugins of a configuration. -/
def setUp (threads : Threads) (files : FileTree) (config : Config) : Setup :=
  let loading := Loading.run files config
  match loading.specs with
  | .error failure => ⟨.error failure, loading.files, loading.events⟩
  | .ok specs =>
    ⟨ofSpecs threads config specs, loading.files, loading.events ++ setupEvents specs⟩

end Detector

end Fingerprint
