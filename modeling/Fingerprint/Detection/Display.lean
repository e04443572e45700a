import Fingerprint.Detection.Detector
import Fingerprint.Text.Quoted

/-!
One-line descriptions of detectors and probes with their settings.
-/

namespace Fingerprint

namespace Duration

/-- The digits of a fraction of `width` digits, without zeros at the end. -/
def fractionDigits (width fraction : Nat) : List Char :=
  let digits := Nat.toDigits 10 fraction
  let padded := List.replicate (width - digits.length) '0' ++ digits
  (padded.reverse.dropWhile (· = '0')).reverse

/-- A whole number with a fraction of `width` digits, and the unit. -/
def decimal (whole width fraction : Nat) (unit : String) : String :=
  let digits := fractionDigits width fraction
  toString whole ++ (if digits.isEmpty then "" else "." ++ String.ofList digits) ++ unit

/-- The span in the largest unit of which it has at least one. -/
def display (duration : Duration) : String :=
  if 0 < duration.seconds then decimal duration.seconds 9 duration.nanoseconds "s"
  else if 1000000 ≤ duration.nanoseconds then
    decimal (duration.nanoseconds / 1000000) 6 (duration.nanoseconds % 1000000) "ms"
  else if 1000 ≤ duration.nanoseconds then
    decimal (duration.nanoseconds / 1000) 3 (duration.nanoseconds % 1000) "µs"
  else decimal duration.nanoseconds 0 0 "ns"

end Duration

namespace Path

/-- The path between quotes; a single quote is escaped as well. -/
def quoted (path : String) : String :=
  "\"" ++ String.ofList (path.toList.flatMap fun c =>
    if c = '\'' then ['\\', '\''] else Text.escape c) ++ "\""

end Path

/-- A record of named values. -/
def displayRecord (name : String) (fields : List (String × String)) : String :=
  let fields := fields.map fun (key, value) => key ++ ": " ++ value
  name ++ " \x7b " ++ String.intercalate ", " fields ++ " \x7d"

def ScriptLimits.display (limits : ScriptLimits) : String :=
  displayRecord "ScriptLimits"
    [ ("time_limit", limits.timeLimit.display), ("memory_limit", toString limits.memoryLimit),
      ("max_stack_size", toString limits.maxStackSize),
      ("max_script_bytes", toString limits.maxScriptBytes) ]

def ScriptProbe.display (probe : ScriptProbe) : String :=
  displayRecord "ScriptProbe" [("limits", probe.limits.display)]

def ScriptPrecedence.display : ScriptPrecedence → String
  | .fieldFirst => "FieldFirst"
  | .scriptFirst => "ScriptFirst"
  | .merge => "Merge"

def Config.display (config : Config) : String :=
  displayRecord "GlobalConfig"
    [ ("plugin_paths", "[" ++ String.intercalate ", " (config.pluginPaths.map Path.quoted) ++ "]"),
      ("catalog_cache_path", match config.cachePath with
        | some path => "Some(" ++ Path.quoted path ++ ")"
        | none => "None"),
      ("worker_threads", toString config.workerThreads),
      ("script_limits", config.scriptLimits.display),
      ("script_precedence", config.scriptPrecedence.display),
      ("verbose", toString config.verbose) ]

def Detector.display (detector : Detector) : String :=
  displayRecord "Detector"
    [ ("plugins", toString detector.catalog.size), ("config", detector.config.display),
      ("parallel", toString detector.config.isParallel) ]

end Fingerprint
