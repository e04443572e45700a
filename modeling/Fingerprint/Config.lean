/-!
Settings of a detector, and the builder that changes the defaults step by step.
-/

namespace Fingerprint

/-- A span of time. -/
structure Duration where
  seconds : Nat
  nanoseconds : Nat
deriving DecidableEq, Repr, Inhabited

namespace Duration

def ofMilliseconds (milliseconds : Nat) : Duration :=
  ⟨milliseconds / 1000, milliseconds % 1000 * 1000000⟩

/-- The whole milliseconds of the span. -/
def milliseconds (duration : Duration) : Nat :=
  duration.seconds * 1000 + duration.nanoseconds / 1000000

end Duration

/-- Bounds on the scripts of one probe. -/
structure ScriptLimits where
  /-- The time for all scripts and expressions together. -/
  timeLimit : Duration
  /-- The memory of the sandbox in bytes; 0 is no bound. -/
  memoryLimit : Nat
  /-- The stack of the sandbox in bytes. -/
  maxStackSize : Nat
  /-- The largest total length of the scripts in bytes. -/
  maxScriptBytes : Nat
deriving DecidableEq, Repr, Inhabited

def ScriptLimits.standard : ScriptLimits :=
  ⟨.ofMilliseconds 1000, 16 * 1024 * 1024, 512 * 1024, 512 * 1024⟩

/-- Which versions count if both fields and scripts yield some. -/
inductive ScriptPrecedence where
  /-- Those of the fields; those of scripts only if there are no others. -/
  | fieldFirst
  /-- Those of the scripts; those of fields only if there are no others. -/
  | scriptFirst
  /-- All, those of the fields in front. -/
  | merge
deriving DecidableEq, Repr, Inhabited

/-- The settings of a detector. -/
structure Config where
  /-- Plugin files and directories. -/
  pluginPaths : List String
  /-- Where plugins are kept once they have been read. -/
  cachePath : Option String
  workerThreads : Nat
  scriptLimits : ScriptLimits
  scriptPrecedence : ScriptPrecedence
  /-- Whether the summary of each pass is reported at level `info`. -/
  verbose : Bool
deriving DecidableEq, Repr, Inhabited

namespace Config

def standard : Config :=
  ⟨["plugins"], none, 0, .standard, .fieldFirst, false⟩

/-- Whether plugins are evaluated on several threads. -/
def isParallel (config : Config) : Bool := 1 < config.workerThreads

/-- A setting to change. -/
inductive Setting where
  | pluginPaths (paths : List String)
  /-- Adds a path; the first one replaces the default. -/
  | pluginPath (path : String)
  | cachePath (path : String)
  | workerThreads (count : Nat)
  | scriptLimits (limits : ScriptLimits)
  | scriptTimeLimit (limit : Duration)
  | scriptPrecedence (precedence : ScriptPrecedence)
  | verbose (value : Bool)
deriving DecidableEq, Repr, Inhabited

/-- Settings under construction; `pathsGiven` tells that the default paths were replaced. -/
structure Builder where
  config : Config
  pathsGiven : Bool
deriving DecidableEq, Repr, Inhabited

namespace Builder

def start : Builder := ⟨standard, false⟩

def change (builder : Builder) : Setting → Builder
  | .pluginPaths paths => ⟨{ builder.config with pluginPaths := paths }, true⟩
  | .pluginPath path =>
    let before := if builder.pathsGiven then builder.config.pluginPaths else []
    ⟨{ builder.config with pluginPaths := before ++ [path] }, true⟩
  | .cachePath path => { builder with config.cachePath := some path }
  | .workerThreads count => { builder with config.workerThreads := count }
  | .scriptLimits limits => { builder with config.scriptLimits := limits }
  | .scriptTimeLimit limit => { builder with config.scriptLimits.timeLimit := limit }
  | .scriptPrecedence precedence => { builder with config.scriptPrecedence := precedence }
  | .verbose value => { builder with config.verbose := value }

/-- Makes changes in their order. -/
def changeAll (builder : Builder) (settings : List Setting) : Builder :=
  settings.foldl change builder

end Builder

/-- The settings after changes to the defaults. -/
def build (settings : List Setting) : Config := (Builder.start.changeAll settings).config

end Config

end Fingerprint
