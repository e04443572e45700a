import Fingerprint.Probe.Basic

/-!
What the outcome of a probe says about its matchers, and its failure about the limits.
-/

set_option autoImplicit false

namespace Fingerprint

namespace ScriptEngine

variable (engine : ScriptEngine)

/-- Matchers that are numbered from `start` on are tried in turn, so one of them applies. -/
theorem tryMatchers_matched {fault : Option ScriptFault} {state : engine.State} {start : Nat}
    {matchers : List Plugin.ScriptMatcher} {index : Nat} {version : Option String}
    (matched : (engine.tryMatchers fault state start matchers).outcome = .matched index version) :
    index < start + matchers.length := by
  induction matchers generalizing state start with
  | nil => cases fault <;> cases matched
  | cons matcher rest ih =>
    have further {next : engine.State}
        (later : (engine.tryMatchers fault next (start + 1) rest).outcome =
          .matched index version) : index < start + (matcher :: rest).length := by
      have inRest := ih later
      rw [List.length_cons]
      omega
    rw [tryMatchers] at matched
    split at matched
    · split at matched
      · exact further matched
      · cases matched
        rw [List.length_cons]
        omega
    · exact further matched
    · exact further matched

theorem runBlocks_matched {matchers : List Plugin.ScriptMatcher} {fault : Option ScriptFault}
    {state : engine.State} {number : Nat} {blocks : List String} {index : Nat}
    {version : Option String}
    (matched : (engine.runBlocks matchers fault state number blocks).outcome =
      .matched index version) : index < matchers.length := by
  induction blocks generalizing fault state number with
  | nil =>
    have inMatchers := engine.tryMatchers_matched matched
    omega
  | cons block rest ih =>
    rw [runBlocks] at matched
    split at matched
    · exact ih matched
    · split at matched
      · cases matched
      · exact ih matched
    · split at matched
      · cases matched
      · exact ih matched

end ScriptEngine

namespace ScriptProbe

/-- What a probe that does not fail may report: there is nothing to look for, the blocks are too long,
the sandbox has no `window`, or the blocks are run. -/
theorem report_eq_ok {probe : ScriptProbe} {engine : ScriptEngine} {blocks : List String}
    {matchers : List Plugin.ScriptMatcher} {report : ProbeReport}
    (probed : probe.report engine blocks matchers = .ok report) :
    report.outcome = .noMatch ∨
    probe.limits.maxScriptBytes < totalBytes blocks ∧ report.outcome =
      .scriptFailed (.tooLong (totalBytes blocks) probe.limits.maxScriptBytes) ∨
    (∃ text, report.outcome = .scriptFailed (.windowMissing text)) ∨
    ∃ state, report = engine.runBlocks matchers none state 0 blocks := by
  simp only [ScriptProbe.report] at probed
  split at probed
  next =>
    cases probed
    exact .inl rfl
  next =>
    split at probed
    next long =>
      cases probed
      exact .inr (.inl ⟨long, rfl⟩)
    next =>
      split at probed
      next => cases probed
      next =>
        split at probed
        next => cases probed
        next =>
          split at probed
          next text _ =>
            cases probed
            exact .inr (.inr (.inl ⟨text, rfl⟩))
          next state _ =>
            cases probed
            exact .inr (.inr (.inr ⟨state, rfl⟩))

theorem report_matched {probe : ScriptProbe} {engine : ScriptEngine} {blocks : List String}
    {matchers : List Plugin.ScriptMatcher} {report : ProbeReport} {index : Nat}
    {version : Option String} (probed : probe.report engine blocks matchers = .ok report)
    (matched : report.outcome = .matched index version) : index < matchers.length := by
  obtain nothing | ⟨_, refused⟩ | ⟨text, unseeded⟩ | ⟨state, rfl⟩ := report_eq_ok probed
  · cases nothing.symm.trans matched
  · cases refused.symm.trans matched
  · cases unseeded.symm.trans matched
  · exact engine.runBlocks_matched matched

theorem probe_eq (probe : ScriptProbe) (engine : ScriptEngine) (blocks : List String)
    (matchers : List Plugin.ScriptMatcher) :
    probe.probe engine blocks matchers =
      (probe.report engine blocks matchers).map (·.outcome) := by
  unfold ScriptProbe.probe
  cases probe.report engine blocks matchers with
  | error failure => rfl
  | ok report => rfl

theorem probe_matched {probe : ScriptProbe} {engine : ScriptEngine} {blocks : List String}
    {matchers : List Plugin.ScriptMatcher} {index : Nat} {version : Option String}
    (probed : probe.probe engine blocks matchers = .ok (.matched index version)) :
    index < matchers.length := by
  rw [probe_eq] at probed
  cases reported : probe.report engine blocks matchers with
  | error failure =>
    rw [reported] at probed
    cases probed
  | ok report =>
    rw [reported] at probed
    exact report_matched reported (Except.ok.inj probed)

/-- A probe fails exactly if there is something to evaluate and the clock cannot show the deadline
or no sandbox can be made. -/
theorem report_eq_error_iff {probe : ScriptProbe} {engine : ScriptEngine} {blocks : List String}
    {matchers : List Plugin.ScriptMatcher} {failure : Failure} :
    probe.report engine blocks matchers = .error failure ↔
      matchers ≠ [] ∧ totalBytes blocks ≤ probe.limits.maxScriptBytes ∧
        (¬ probe.limits.timeLimit.reachableFrom engine.now ∧ failure = .deadlineOverflow ∨
          probe.limits.timeLimit.reachableFrom engine.now ∧ engine.create probe.limits = none ∧
            failure = .sandboxUnavailable) := by
  unfold ScriptProbe.report
  dsimp only
  split
  next empty =>
    rw [List.isEmpty_iff] at empty
    exact ⟨nofun, fun fails => absurd empty fails.1⟩
  next inhabited =>
    rw [List.isEmpty_iff] at inhabited
    split
    next long => exact ⟨nofun, fun fails => absurd fails.2.1 (Nat.not_le.mpr long)⟩
    next short =>
      rw [Nat.not_lt] at short
      rw [and_iff_right inhabited, and_iff_right short]
      split
      next beyond =>
        rw [Bool.not_eq_true', ← Bool.not_eq_true] at beyond
        rw [and_iff_right beyond, or_iff_left fun fails => beyond fails.1, Except.error.injEq,
          eq_comm]
      next reachable =>
        rw [Bool.not_eq_true', Bool.not_eq_false] at reachable
        rw [or_iff_right fun fails => fails.1 reachable, and_iff_right reachable]
        cases created : engine.create probe.limits with
        | none => rw [and_iff_right rfl, Except.error.injEq, eq_comm]
        | some state =>
          refine ⟨fun failed => ?_, nofun⟩
          dsimp only at failed
          split at failed <;> cases failed

theorem report_error {probe : ScriptProbe} {engine : ScriptEngine} {blocks : List String}
    {matchers : List Plugin.ScriptMatcher} {failure : Failure}
    (failed : probe.report engine blocks matchers = .error failure) :
    failure = .sandboxUnavailable ∨
      failure = .deadlineOverflow ∧ ¬ probe.limits.timeLimit.reachableFrom engine.now := by
  obtain ⟨_, _, ⟨beyond, rfl⟩ | ⟨_, _, rfl⟩⟩ := report_eq_error_iff.mp failed
  · exact .inr ⟨rfl, beyond⟩
  · exact .inl rfl

/-- A probe fails if no sandbox can be made, or if the clock cannot show its deadline. -/
theorem probe_error {probe : ScriptProbe} {engine : ScriptEngine} {blocks : List String}
    {matchers : List Plugin.ScriptMatcher} {failure : Failure}
    (failed : probe.probe engine blocks matchers = .error failure) :
    failure = .sandboxUnavailable ∨
      failure = .deadlineOverflow ∧ ¬ probe.limits.timeLimit.reachableFrom engine.now := by
  rw [probe_eq] at failed
  cases reported : probe.report engine blocks matchers with
  | error cause =>
    rw [reported] at failed
    cases failed
    exact report_error reported
  | ok report =>
    rw [reported] at failed
    cases failed

end ScriptProbe

end Fingerprint
