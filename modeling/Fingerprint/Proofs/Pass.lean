import Fingerprint.Detection.Detector
import Fingerprint.Proofs.Probe

/-!
Passes as sequences of passes over single plugins.

The evaluation of a plugin sees nothing of the others, so the result of a pass is the results of
its plugins one after the other, and a pass is aborted only where a plugin alone aborts it.
-/

set_option autoImplicit false

namespace Fingerprint

/-! ### Results -/

namespace DetectionResult

/-- The result of a pass over no plugin. -/
def none : DetectionResult := ⟨[], [], []⟩

/-- What two results report, one behind the other. -/
def append (first second : DetectionResult) : DetectionResult :=
  ⟨first.detections ++ second.detections, first.faults ++ second.faults,
    first.missingFields ++ second.missingFields⟩

/-- What results report, one behind the other. -/
def join (results : List DetectionResult) : DetectionResult :=
  ⟨results.flatMap (·.detections), results.flatMap (·.faults), results.flatMap (·.missingFields)⟩

/-- What a result reports under a name. -/
def about (result : DetectionResult) (name : String) : DetectionResult :=
  ⟨result.detections.filter (·.1 = name), result.faults.filter (·.plugin = name),
    result.missingFields.filter (·.plugin = name)⟩

theorem append_none (result : DetectionResult) : result.append none = result := by
  simp only [append, none, List.append_nil]

theorem none_append (result : DetectionResult) : none.append result = result := by
  simp only [append, none, List.nil_append]

theorem about_append (first second : DetectionResult) (name : String) :
    (first.append second).about name = (first.about name).append (second.about name) := by
  simp only [about, append, List.filter_append]

theorem get?_about (result : DetectionResult) (name : String) :
    (result.about name).get? name = result.get? name := by
  rcases result with ⟨detections, faults, missingFields⟩
  change (detections.filter (·.1 = name)).lookup name = detections.lookup name
  induction detections with
  | nil => rfl
  | cons entry rest ih =>
    obtain ⟨key, detection⟩ := entry
    by_cases same : key = name
    · rw [List.filter_cons_of_pos (by simpa using same), same, List.lookup_cons_self,
        List.lookup_cons_self]
    · have other : (name == key) = false := beq_eq_false_iff_ne.mpr (Ne.symm same)
      rw [List.filter_cons_of_neg (by simpa using same), ih, List.lookup_cons, other]

theorem ofEvaluations_cons (evaluation : Evaluation) (rest : List Evaluation) :
    ofEvaluations (evaluation :: rest) =
      (ofEvaluations [evaluation]).append (ofEvaluations rest) := by
  simp only [ofEvaluations, append, ← List.filterMap_append, ← List.flatMap_append,
    List.singleton_append]

/-- All that comes of an evaluation is reported under the name of its plugin. -/
theorem about_ofEvaluations_singleton (evaluation : Evaluation) (name : String) :
    (ofEvaluations [evaluation]).about name =
      if evaluation.plugin = name then ofEvaluations [evaluation] else none := by
  have detections : ∀ entry ∈ [evaluation].filterMap Evaluation.detection?,
      entry.1 = evaluation.plugin := by
    intro entry member
    obtain ⟨_, found, reported⟩ := List.mem_filterMap.mp member
    rw [List.mem_singleton.mp found, Evaluation.detection?] at reported
    split at reported
    · exact (congrArg Prod.fst (Option.some.inj reported)).symm
    · cases reported
  have faults : ∀ fault ∈ [evaluation].filterMap Evaluation.fault?,
      fault.plugin = evaluation.plugin := by
    intro fault member
    obtain ⟨_, found, reported⟩ := List.mem_filterMap.mp member
    rw [List.mem_singleton.mp found, Evaluation.fault?] at reported
    split at reported
    · exact (congrArg PluginFault.plugin (Option.some.inj reported)).symm
    · cases reported
  have missing : ∀ notice ∈ [evaluation].flatMap Evaluation.missingFields,
      notice.plugin = evaluation.plugin := by
    intro notice member
    rw [List.flatMap_singleton, Evaluation.missingFields] at member
    obtain ⟨field, _, same⟩ := List.mem_map.mp member
    exact (congrArg MissingField.plugin same).symm
  by_cases same : evaluation.plugin = name
  · rw [if_pos same]
    simp only [about, ofEvaluations, DetectionResult.mk.injEq, List.filter_eq_self,
      decide_eq_true_eq]
    exact ⟨fun entry member => (detections entry member).trans same,
      fun fault member => (faults fault member).trans same,
      fun notice member => (missing notice member).trans same⟩
  · rw [if_neg same]
    simp only [about, ofEvaluations, none, DetectionResult.mk.injEq, List.filter_eq_nil_iff,
      decide_eq_true_eq]
    exact ⟨fun entry member other => same ((detections entry member).symm.trans other),
      fun fault member other => same ((faults fault member).symm.trans other),
      fun notice member other => same ((missing notice member).symm.trans other)⟩

theorem get?_ofEvaluations_singleton {evaluation : Evaluation} {detection? : Option Detection}
    (evaluated : evaluation.detection = .ok detection?) (name : String) :
    (ofEvaluations [evaluation]).get? name =
      if evaluation.plugin = name then detection? else .none := by
  cases detection? with
  | none =>
    have nothing : evaluation.detection? = .none := by
      simp only [Evaluation.detection?, evaluated]
    simp only [get?, ofEvaluations, List.filterMap_cons, nothing, List.filterMap_nil,
      List.lookup_nil, ite_self]
  | some detection =>
    have reported : evaluation.detection? = some (evaluation.plugin, detection) := by
      simp only [Evaluation.detection?, evaluated]
    simp only [get?, ofEvaluations, List.filterMap_cons, reported, List.filterMap_nil]
    by_cases same : evaluation.plugin = name
    · rw [if_pos same, same, List.lookup_cons_self]
    · rw [if_neg same, List.lookup_cons, beq_eq_false_iff_ne.mpr (Ne.symm same)]
      rfl

end DetectionResult

/-! ### Passes -/

namespace Detector

variable (detector : Detector) (engine : ScriptEngine) (transaction : Transaction)

/-- The evaluation of a plugin in a pass. -/
def evaluation (plugin : Plugin) : Evaluation :=
  plugin.evaluate engine detector.config transaction (detector.blocks transaction)

/-- The findings in the fields decide, with the outcome of a probe if there is one. -/
theorem evaluation_detection (plugin : Plugin) :
    (detector.evaluation engine transaction plugin).detection =
      if plugin.scriptMatchers ≠ [] ∧ detector.blocks transaction ≠ [] then
        (detector.probe.probe engine (detector.blocks transaction) plugin.scriptMatchers).map
          fun outcome => ((plugin.fieldFindings transaction).addProbe outcome).resolve
            detector.config.scriptPrecedence
      else .ok ((plugin.fieldFindings transaction).resolve detector.config.scriptPrecedence) := by
  have probed : (plugin.hasScriptMatchers && !(detector.blocks transaction).isEmpty) = true ↔
      plugin.scriptMatchers ≠ [] ∧ detector.blocks transaction ≠ [] := by
    simp only [Plugin.hasScriptMatchers, Bool.and_eq_true, Bool.not_eq_true',
      List.isEmpty_eq_false_iff]
  simp only [evaluation, Plugin.evaluate, Plugin.probe?, probed]
  split
  · rw [ScriptProbe.probe_eq, probe]
    cases ScriptProbe.report ⟨detector.config.scriptLimits⟩ engine (detector.blocks transaction)
      plugin.scriptMatchers with
    | error failure => rfl
    | ok report => rfl
  · rfl

/-- The result of a pass over plugins. -/
def pass (plugins : List Plugin) : Except Failure DetectionResult :=
  (detector.report engine transaction plugins).map (·.result)

theorem detect_eq_pass :
    detector.detect engine transaction =
      detector.pass engine transaction detector.catalog.plugins := rfl

theorem detectPlugin_eq_pass (plugin : Plugin) :
    detector.detectPlugin engine transaction plugin =
      detector.pass engine transaction [plugin] := rfl

theorem pass_eq (plugins : List Plugin) :
    detector.pass engine transaction plugins =
      match (plugins.map (detector.evaluation engine transaction)).findSome?
        Evaluation.abortion? with
      | some failure => .error failure
      | none => .ok (.ofEvaluations (plugins.map (detector.evaluation engine transaction))) := by
  unfold pass report evaluations
  change Except.map _ (match (plugins.map (detector.evaluation engine transaction)).findSome?
    Evaluation.abortion? with | some failure => _ | none => _) = _
  split <;> rfl

/-- The first plugin is passed over alone, and the others as if it did not exist. -/
theorem pass_cons (plugin : Plugin) (rest : List Plugin) :
    detector.pass engine transaction (plugin :: rest) = do
      let own ← detector.pass engine transaction [plugin]
      let others ← detector.pass engine transaction rest
      return own.append others := by
  simp only [pass_eq, List.map_cons, List.map_nil, List.findSome?_cons, List.findSome?_nil]
  cases (detector.evaluation engine transaction plugin).abortion? with
  | some failure => rfl
  | none =>
    cases (rest.map (detector.evaluation engine transaction)).findSome? Evaluation.abortion? with
    | some failure => rfl
    | none => exact congrArg Except.ok (DetectionResult.ofEvaluations_cons _ _)

/-- A pass is the passes over its plugins in their order. -/
theorem pass_eq_mapM (plugins : List Plugin) :
    detector.pass engine transaction plugins =
      DetectionResult.join <$> plugins.mapM fun plugin =>
        detector.pass engine transaction [plugin] := by
  induction plugins with
  | nil => rfl
  | cons plugin rest ih =>
    rw [pass_cons, ih, List.mapM_cons]
    cases detector.pass engine transaction [plugin] with
    | error failure => rfl
    | ok own =>
      cases rest.mapM fun plugin => detector.pass engine transaction [plugin] with
      | error failure => rfl
      | ok others => rfl

theorem pass_singleton_of_ok {plugin : Plugin} {detection? : Option Detection}
    (evaluated : (detector.evaluation engine transaction plugin).detection = .ok detection?) :
    detector.pass engine transaction [plugin] =
      .ok (.ofEvaluations [detector.evaluation engine transaction plugin]) := by
  have completed : (detector.evaluation engine transaction plugin).abortion? = none := by
    simp only [Evaluation.abortion?, evaluated]
  rw [pass_eq, List.map_singleton, List.findSome?_cons, completed, List.findSome?_nil]

/-- What a pass lists is the detection of one of its plugins, under the name of the plugin. -/
theorem evaluated_of_mem_detections {plugins : List Plugin} {result : DetectionResult}
    {name : String} {detection : Detection}
    (passed : detector.pass engine transaction plugins = .ok result)
    (listed : (name, detection) ∈ result.detections) :
    ∃ plugin ∈ plugins, plugin.name = name ∧
      (detector.evaluation engine transaction plugin).detection = .ok (some detection) := by
  rw [pass_eq] at passed
  split at passed
  · cases passed
  · cases passed
    obtain ⟨evaluation, evaluated, found⟩ := List.mem_filterMap.mp listed
    obtain ⟨plugin, inPlugins, rfl⟩ := List.mem_map.mp evaluated
    refine ⟨plugin, inPlugins, ?_⟩
    unfold Evaluation.detection? at found
    split at found
    next own ok =>
      cases found
      exact ⟨rfl, ok⟩
    next => cases found

theorem reported_of_pass {plugins : List Plugin} {result : DetectionResult} {name : String}
    {detection : Detection} (passed : detector.pass engine transaction plugins = .ok result)
    (reported : result.get? name = some detection) :
    ∃ plugin ∈ plugins, plugin.name = name ∧
      (detector.evaluation engine transaction plugin).detection = .ok (some detection) := by
  obtain ⟨front, back, listed, _⟩ := List.lookup_eq_some_iff.mp reported
  refine detector.evaluated_of_mem_detections engine transaction passed ?_
  rw [listed]
  exact List.mem_append_right front List.mem_cons_self

theorem about_pass_singleton {plugin : Plugin} {own : DetectionResult}
    (passed : detector.pass engine transaction [plugin] = .ok own) (name : String) :
    own.about name = if plugin.name = name then own else .none := by
  rw [pass_eq] at passed
  split at passed
  · cases passed
  · cases passed
    exact DetectionResult.about_ofEvaluations_singleton _ name

theorem pass_cons_eq_ok {plugin : Plugin} {rest : List Plugin} {result : DetectionResult}
    (passed : detector.pass engine transaction (plugin :: rest) = .ok result) :
    ∃ own others, detector.pass engine transaction [plugin] = .ok own ∧
      detector.pass engine transaction rest = .ok others ∧ result = own.append others := by
  rw [pass_cons] at passed
  cases own : detector.pass engine transaction [plugin] with
  | error failure =>
    rw [own] at passed
    cases passed
  | ok first =>
    cases others : detector.pass engine transaction rest with
    | error failure =>
      rw [own, others] at passed
      cases passed
    | ok second =>
      rw [own, others] at passed
      cases passed
      exact ⟨first, second, rfl, rfl, rfl⟩

/-- Nothing is reported under a name that no plugin has. -/
theorem about_pass_of_absent {plugins : List Plugin} {result : DetectionResult} {name : String}
    (passed : detector.pass engine transaction plugins = .ok result)
    (absent : ∀ plugin ∈ plugins, plugin.name ≠ name) : result.about name = .none := by
  induction plugins generalizing result with
  | nil =>
    cases passed
    rfl
  | cons plugin rest ih =>
    obtain ⟨own, others, first, second, rfl⟩ :=
      detector.pass_cons_eq_ok engine transaction passed
    rw [DetectionResult.about_append, detector.about_pass_singleton engine transaction first,
      if_neg (absent plugin List.mem_cons_self),
      ih second fun other member => absent other (List.mem_cons_of_mem plugin member),
      DetectionResult.none_append]

/-- What is reported under the name of a plugin is what a pass over it alone reports. -/
theorem pass_singleton_eq_about {plugins : List Plugin} {result : DetectionResult}
    (passed : detector.pass engine transaction plugins = .ok result)
    (distinct : plugins.Pairwise (·.name ≠ ·.name)) {plugin : Plugin}
    (member : plugin ∈ plugins) :
    detector.pass engine transaction [plugin] = .ok (result.about plugin.name) := by
  induction plugins generalizing result with
  | nil => cases member
  | cons next rest ih =>
    obtain ⟨own, others, first, second, rfl⟩ :=
      detector.pass_cons_eq_ok engine transaction passed
    obtain ⟨apart, restDistinct⟩ := List.pairwise_cons.mp distinct
    rw [DetectionResult.about_append, detector.about_pass_singleton engine transaction first]
    -- Names differ, so one of the two parts is all that is reported and the other is empty.
    rcases List.mem_cons.mp member with rfl | later
    · rw [if_pos rfl, detector.about_pass_of_absent engine transaction second
        fun other member => (apart other member).symm, DetectionResult.append_none, first]
    · rw [if_neg (apart plugin later), DetectionResult.none_append]
      exact ih second restDistinct later

/-- What a pass reports under the name of a plugin is the detection of this plugin. -/
theorem get?_of_pass {plugins : List Plugin} {result : DetectionResult}
    (passed : detector.pass engine transaction plugins = .ok result)
    (distinct : plugins.Pairwise (·.name ≠ ·.name)) {plugin : Plugin}
    (member : plugin ∈ plugins) :
    result.get? plugin.name =
      (detector.evaluation engine transaction plugin).detection.toOption.join := by
  have alone := detector.pass_singleton_eq_about engine transaction passed distinct member
  rw [← DetectionResult.get?_about]
  cases evaluated : (detector.evaluation engine transaction plugin).detection with
  | ok detection? =>
    rw [detector.pass_singleton_of_ok engine transaction evaluated] at alone
    rw [← Except.ok.inj alone, DetectionResult.get?_ofEvaluations_singleton evaluated]
    exact if_pos rfl
  | error failure =>
    have absent : (detector.evaluation engine transaction plugin).detection? = none := by
      simp only [Evaluation.detection?, evaluated]
    rw [pass_eq] at alone
    split at alone
    · cases alone
    · rw [← Except.ok.inj alone]
      simp only [DetectionResult.get?, DetectionResult.ofEvaluations, List.map_singleton,
        List.filterMap_cons, absent]
      rfl

/-- A pass is aborted only by a deadline that the clock cannot show. -/
theorem pass_eq_error {plugins : List Plugin} {failure : Failure}
    (aborted : detector.pass engine transaction plugins = .error failure) :
    failure = .deadlineOverflow ∧
      ¬ detector.config.scriptLimits.timeLimit.reachableFrom engine.now := by
  rw [pass_eq] at aborted
  split at aborted
  next cause found =>
    cases aborted
    obtain ⟨evaluation, member, abortion⟩ := List.exists_of_findSome?_eq_some found
    obtain ⟨plugin, _, rfl⟩ := List.mem_map.mp member
    unfold Evaluation.abortion? at abortion
    split at abortion
    next reason failed =>
      split at abortion
      next aborts =>
        cases abortion
        rw [evaluation_detection] at failed
        split at failed
        · cases probed : detector.probe.probe engine (detector.blocks transaction)
            plugin.scriptMatchers with
          | error cause =>
            rw [probed] at failed
            cases failed
            rcases ScriptProbe.probe_error probed with rfl | overflow
            · cases aborts
            · exact overflow
          | ok outcome =>
            rw [probed] at failed
            cases failed
        · cases failed
      next => cases abortion
    next => cases abortion
  next => cases aborted

theorem pass_completes
    (reachable : detector.config.scriptLimits.timeLimit.reachableFrom engine.now)
    (plugins : List Plugin) : ∃ result, detector.pass engine transaction plugins = .ok result := by
  cases passed : detector.pass engine transaction plugins with
  | error failure => exact absurd reachable (detector.pass_eq_error engine transaction passed).2
  | ok result => exact ⟨result, rfl⟩

end Detector

end Fingerprint
