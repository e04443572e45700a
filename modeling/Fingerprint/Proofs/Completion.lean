import Fingerprint.Proofs.ScriptAddition

/-!
When a pass completes.

A pass ends with a result unless a probe sets a deadline that the clock cannot show. The clock counts
seconds in 63 bits, so a time limit has to be of astronomical length for that; but then the results
of all plugins are lost, those without script matchers included.
-/

set_option autoImplicit false

namespace Fingerprint

namespace Duration

/-- The nanoseconds of a span. -/
def total (duration : Duration) : Nat := duration.seconds * 1000000000 + duration.nanoseconds

/-- The clock shows what lies less than 2^63 seconds behind its beginning. -/
theorem reachableFrom_iff {limit now : Duration} :
    limit.reachableFrom now ↔ now.total + limit.total < 2 ^ 63 * 1000000000 := by
  have last : lastSecond = 2 ^ 63 - 1 := by decide
  rw [reachableFrom, decide_eq_true_iff, last, total, total]
  omega

end Duration

/-- A probe is aborted exactly if it has something to evaluate and the clock cannot show the deadline.
Otherwise it ends with an outcome, or for want of a sandbox. -/
theorem ScriptProbe.probe_aborts_iff {probe : ScriptProbe} {engine : ScriptEngine}
    {blocks : List String} {matchers : List Plugin.ScriptMatcher} :
    probe.probe engine blocks matchers = .error .deadlineOverflow ↔
      matchers ≠ [] ∧ totalBytes blocks ≤ probe.limits.maxScriptBytes ∧
        ¬ probe.limits.timeLimit.reachableFrom engine.now := by
  rw [probe_eq, map_eq_error_iff, report_eq_error_iff]
  simp only [and_true, reduceCtorEq, and_false, or_false]

theorem ScriptProbe.probe_ends {probe : ScriptProbe} {engine : ScriptEngine}
    {blocks : List String} {matchers : List Plugin.ScriptMatcher}
    (runs : probe.probe engine blocks matchers ≠ .error .deadlineOverflow) :
    (∃ outcome, probe.probe engine blocks matchers = .ok outcome) ∨
      probe.probe engine blocks matchers = .error .sandboxUnavailable := by
  cases probed : probe.probe engine blocks matchers with
  | ok outcome => exact .inl ⟨outcome, rfl⟩
  | error failure =>
    obtain rfl | ⟨rfl, _⟩ := probe_error probed
    · exact .inr rfl
    · exact absurd probed runs

theorem Evaluation.abortion?_eq_some_iff {evaluation : Evaluation} {failure : Failure} :
    evaluation.abortion? = some failure ↔
      evaluation.detection = .error failure ∧ failure.aborts := by
  unfold Evaluation.abortion?
  cases evaluation.detection with
  | ok found => exact ⟨nofun, fun fails => nomatch fails.1⟩
  | error cause =>
    simp only [Option.ite_none_right_eq_some, Option.some.injEq, Except.error.injEq]
    constructor
    · rintro ⟨aborts, rfl⟩
      exact ⟨rfl, aborts⟩
    · rintro ⟨rfl, aborts⟩
      exact ⟨aborts, rfl⟩

namespace Detector

variable (detector : Detector) (engine : ScriptEngine) (transaction : Transaction)

/-- One probe that is aborted aborts the pass, and nothing else does. -/
theorem pass_eq_error_iff {plugins : List Plugin} {failure : Failure} :
    detector.pass engine transaction plugins = .error failure ↔
      failure = .deadlineOverflow ∧
        ∃ plugin ∈ plugins, detector.ProbeFails engine transaction plugin .deadlineOverflow := by
  constructor
  · intro aborted
    obtain ⟨rfl, _⟩ := detector.pass_eq_error engine transaction aborted
    refine ⟨rfl, ?_⟩
    rw [pass_eq] at aborted
    split at aborted
    next cause found =>
      cases aborted
      obtain ⟨evaluation, evaluated, abortion⟩ := List.exists_of_findSome?_eq_some found
      obtain ⟨plugin, member, rfl⟩ := List.mem_map.mp evaluated
      have failed := (Evaluation.abortion?_eq_some_iff.mp abortion).1
      exact ⟨plugin, member, (detector.probeFails_iff engine transaction).mpr failed⟩
    next => cases aborted
  · rintro ⟨rfl, plugin, member, fails⟩
    have failed := (detector.probeFails_iff engine transaction).mp fails
    have abortion : (detector.evaluation engine transaction plugin).abortion? =
        some .deadlineOverflow := Evaluation.abortion?_eq_some_iff.mpr ⟨failed, rfl⟩
    cases passed : detector.pass engine transaction plugins with
    | error cause => rw [(detector.pass_eq_error engine transaction passed).1]
    | ok result =>
      rw [pass_eq] at passed
      split at passed
      next => cases passed
      next none =>
        have nothing := List.findSome?_eq_none_iff.mp none _ (List.mem_map_of_mem member)
        rw [abortion] at nothing
        cases nothing

/-- The time limit ends at a time that the clock, of 2^63 seconds, cannot show. -/
def OutlivesClock : Prop :=
  2 ^ 63 * 1000000000 ≤ engine.now.total + detector.config.scriptLimits.timeLimit.total

theorem outlivesClock_iff :
    detector.OutlivesClock engine ↔
      ¬ detector.config.scriptLimits.timeLimit.reachableFrom engine.now := by
  rw [Duration.reachableFrom_iff, Nat.not_lt, OutlivesClock]

/-- A pass ends with a result, whatever the page and the plugins are, unless there is a plugin with
script matchers, there are scripts of a length that is evaluated, and the time limit outlives the
clock; then the whole pass is aborted. So is a probe by itself, which otherwise ends with an outcome,
or for want of a sandbox. -/
theorem detect_completes :
    (∀ failure, detector.detect engine transaction = .error failure ↔
      failure = .deadlineOverflow ∧ detector.OutlivesClock engine ∧
        detector.blocks transaction ≠ [] ∧
        ScriptProbe.totalBytes (detector.blocks transaction) ≤
          detector.config.scriptLimits.maxScriptBytes ∧
        ∃ plugin ∈ detector.catalog.plugins, plugin.scriptMatchers ≠ []) ∧
    ∀ blocks matchers,
      (detector.probe.probe engine blocks matchers = .error .deadlineOverflow ↔
        matchers ≠ [] ∧
          ScriptProbe.totalBytes blocks ≤ detector.config.scriptLimits.maxScriptBytes ∧
          detector.OutlivesClock engine) ∧
      ((∃ outcome, detector.probe.probe engine blocks matchers = .ok outcome) ∨
        detector.probe.probe engine blocks matchers = .error .sandboxUnavailable ∨
        detector.probe.probe engine blocks matchers = .error .deadlineOverflow) := by
  rw [outlivesClock_iff]
  refine ⟨fun failure => ?_, fun blocks matchers => ⟨ScriptProbe.probe_aborts_iff, ?_⟩⟩
  · rw [detect_eq_pass, pass_eq_error_iff]
    simp only [ProbeFails, and_true, reduceCtorEq, and_false, or_false]
    constructor
    · rintro ⟨rfl, plugin, member, matchers, scripts, short, beyond⟩
      exact ⟨rfl, beyond, scripts, short, plugin, member, matchers⟩
    · rintro ⟨rfl, beyond, scripts, short, plugin, member, matchers⟩
      exact ⟨rfl, plugin, member, matchers, scripts, short, beyond⟩
  · by_cases aborted : detector.probe.probe engine blocks matchers = .error .deadlineOverflow
    · exact .inr (.inr aborted)
    · obtain ended | unavailable := ScriptProbe.probe_ends aborted
      · exact .inl ended
      · exact .inr (.inl unavailable)

/-- The longest limit that a 64-bit number of seconds gives aborts the probe and the pass, and the
versions that are found under the standard limit are lost. -/
theorem detect_aborts_beyond_clock :
    let catalog := Catalog.empty.insert (DigitPage.plugin [⟨"1", "2"⟩])
    let limit : Duration := ⟨2 ^ 64 - 1, 0⟩
    let detector : Detector := ⟨catalog, { Config.standard with scriptLimits.timeLimit := limit }⟩
    detector.detect Script.engine DigitPage.transaction = .error .deadlineOverflow ∧
    detector.probe.probe Script.engine ["3"] [⟨"1", "2"⟩] = .error .deadlineOverflow ∧
    ∃ result, (Detector.standard catalog).detect Script.engine DigitPage.transaction =
      .ok result := by
  intro catalog limit detector
  have blocks : detector.blocks DigitPage.transaction = ["3"] := by cbv
  have beyond : ¬ limit.reachableFrom Script.engine.now := by decide
  have fails : detector.ProbeFails Script.engine DigitPage.transaction
      (DigitPage.plugin [⟨"1", "2"⟩]) .deadlineOverflow := by
    refine ⟨List.cons_ne_nil _ _, blocks ▸ List.cons_ne_nil _ _, ?_, .inl ⟨beyond, rfl⟩⟩
    rw [blocks]
    decide
  refine ⟨?_, ScriptProbe.probe_aborts_iff.mpr ⟨List.cons_ne_nil _ _, by decide, beyond⟩, ?_⟩
  · exact (pass_eq_error_iff ..).mpr ⟨rfl, _, List.mem_cons_self, fails⟩
  · exact pass_completes _ _ _ (by decide) _

end Detector

end Fingerprint
