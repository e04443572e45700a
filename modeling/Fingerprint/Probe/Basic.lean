import Fingerprint.Failure
import Fingerprint.Plugin.Spec
import Fingerprint.Probe.Engine
import Fingerprint.Text.Quoted
import Fingerprint.Text.Utf8

/-!
Probes: the scripts of a page are evaluated one after the other, and then the matchers ask what they
left behind.

A block that fails leaves the others alone. The first matcher whose check yields a value applies; a
check that fails yields none. If none applies, the first failure of a block is the outcome.
-/

namespace Fingerprint

/-- Why the scripts of a page could not be probed. -/
inductive ScriptFault where
  /-- The blocks are longer than the limit. -/
  | tooLong (bytes limit : Nat)
  /-- The sandbox has no `window`. -/
  | windowMissing (text : String)
  /-- The deadline passed while a block was evaluated. -/
  | timedOut (text : String)
  /-- A block failed, and no matcher applied. -/
  | failed (text : String)
deriving DecidableEq, Repr, Inhabited

def ScriptFault.reason : ScriptFault → String
  | .tooLong bytes limit => s!"脚本长度{bytes}超过限制{limit}"
  | .windowMissing text => s!"window 初始化失败：{text}"
  | .timedOut text => s!"脚本执行超时：{text}"
  | .failed text => text

/-- What a probe finds out. -/
inductive ProbeOutcome where
  | matched (matcher : Nat) (version : Option String)
  | noMatch
  | scriptFailed (fault : ScriptFault)
deriving DecidableEq, Repr, Inhabited

namespace ProbeOutcome

def version? : ProbeOutcome → Option String
  | .matched _ version => version
  | _ => none

/-- The outcome in one line, for reports. -/
def display : ProbeOutcome → String
  | .matched matcher version =>
    s!"Matched \x7b matcher: {matcher}, version: {Text.quotedOption version} \x7d"
  | .noMatch => "NoMatch"
  | .scriptFailed fault => s!"ScriptFailed({Text.quoted fault.reason})"

end ProbeOutcome

/-- What happens on the way to an outcome. -/
inductive ProbeNote where
  | blockFailed (index : Nat) (text : String)
  | checkFailed (expression text : String)
  | versionFailed (expression text : String)
deriving DecidableEq, Repr, Inhabited

/-- An outcome with the notes taken on the way. -/
structure ProbeReport where
  outcome : ProbeOutcome
  notes : List ProbeNote
  /-- Whether anything was evaluated. -/
  evaluated : Bool
deriving DecidableEq, Repr, Inhabited

namespace ProbeReport

def note (note : ProbeNote) (report : ProbeReport) : ProbeReport :=
  { report with notes := note :: report.notes }

end ProbeReport

/-- Settings under which scripts are probed. -/
structure ScriptProbe where
  limits : ScriptLimits
deriving DecidableEq, Repr, Inhabited

namespace ScriptEngine

/-- The version that an expression yields. -/
def version (engine : ScriptEngine) (state : engine.State) (expression : String) :
    Option String × List ProbeNote :=
  match engine.evaluate state expression with
  | (.value value, state) =>
    match engine.kind value with
    | .printable => (engine.toText state value, [])
    | _ => (none, [])
  | (.thrown text, _) | (.interrupted text, _) => (none, [.versionFailed expression text])

/-- Tries matchers that are numbered from `index` on; `fault` is the outcome if none applies and
there is one. -/
def tryMatchers (engine : ScriptEngine) (fault : Option ScriptFault) (state : engine.State)
    (index : Nat) : List Plugin.ScriptMatcher → ProbeReport
  | [] => ⟨match fault with | some fault => .scriptFailed fault | none => .noMatch, [], true⟩
  | matcher :: rest =>
    match engine.evaluate state matcher.check with
    | (.value value, state) =>
      if engine.kind value = .absent then engine.tryMatchers fault state (index + 1) rest
      else
        let (version, notes) := engine.version state matcher.version
        ⟨.matched index version, notes, true⟩
    | (.thrown text, state) | (.interrupted text, state) =>
      (engine.tryMatchers fault state (index + 1) rest).note (.checkFailed matcher.check text)

/-- Evaluates blocks that are numbered from `index` on, then tries the matchers. -/
def runBlocks (engine : ScriptEngine) (matchers : List Plugin.ScriptMatcher)
    (fault : Option ScriptFault) (state : engine.State) (index : Nat) : List String → ProbeReport
  | [] => engine.tryMatchers fault state 0 matchers
  | block :: rest =>
    match engine.evaluate state block with
    | (.value _, state) => engine.runBlocks matchers fault state (index + 1) rest
    | (.thrown text, state) | (.interrupted text, state) =>
      if engine.expired state then ⟨.scriptFailed (.timedOut text), [], true⟩
      else
        (engine.runBlocks matchers (fault.or (some (.failed text))) state (index + 1) rest).note
          (.blockFailed index text)

end ScriptEngine

namespace ScriptProbe

def standard : ScriptProbe := ⟨.standard⟩

/-- The total length of blocks in bytes. -/
def totalBytes (blocks : List String) : Nat := (blocks.map Text.byteCount).foldr (· + ·) 0

/-- Probes the scripts of a page, with the notes taken on the way. Without matchers nothing is
evaluated, and neither are blocks that are too long. -/
def report (probe : ScriptProbe) (engine : ScriptEngine) (blocks : List String)
    (matchers : List Plugin.ScriptMatcher) : Except Failure ProbeReport :=
  let bytes := totalBytes blocks
  if matchers.isEmpty then .ok ⟨.noMatch, [], false⟩
  else if probe.limits.maxScriptBytes < bytes then
    .ok ⟨.scriptFailed (.tooLong bytes probe.limits.maxScriptBytes), [], false⟩
  else if !probe.limits.timeLimit.reachableFrom engine.now then .error .deadlineOverflow
  else
    match engine.create probe.limits with
    | none => .error .sandboxUnavailable
    | some state =>
      match engine.seed state with
      | .error text => .ok ⟨.scriptFailed (.windowMissing text), [], true⟩
      | .ok state => .ok (engine.runBlocks matchers none state 0 blocks)

/-- Probes the scripts of a page. -/
def probe (probe : ScriptProbe) (engine : ScriptEngine) (blocks : List String)
    (matchers : List Plugin.ScriptMatcher) : Except Failure ProbeOutcome := do
  return (← probe.report engine blocks matchers).outcome

/-- What an outcome says about a plugin whose matchers are expected to apply. -/
def asserted (plugin : String) : ProbeOutcome → Except Failure (Option String)
  | .matched _ version => .ok version
  | _ => .error (.scriptsUnresolved plugin)

/-- Probes a script to which a matcher of the plugin has to apply. -/
def probeAsserted (probe : ScriptProbe) (engine : ScriptEngine) (plugin : String)
    (blocks : List String) (matchers : List Plugin.ScriptMatcher) :
    Except Failure (Option String) := do
  asserted plugin (← probe.probe engine blocks matchers)

end ScriptProbe

end Fingerprint
