import Fingerprint.Proofs.Compilation
import Fingerprint.Proofs.Pass
import Fingerprint.Proofs.Text

/-!
The isolation of plugins.

What a pass reports of a plugin is what a pass reports over the catalog of this plugin alone, so it
is the same whatever other plugins are compiled with it.
-/

set_option autoImplicit false

namespace Fingerprint

/-- The names of a catalog ascend as bytes. -/
theorem Catalog.encoded_ascending (catalog : Catalog) :
    (catalog.plugins.map fun plugin => Text.encode plugin.name).Pairwise (· < ·) :=
  List.pairwise_map.mpr (catalog.ascending.imp Text.encode_lt_encode)

theorem Catalog.names_distinct (catalog : Catalog) :
    catalog.plugins.Pairwise (·.name ≠ ·.name) :=
  catalog.ascending.imp String.ne_of_lt

namespace Detector

/-- The detector of the plugins that are valid. -/
def lenient (config : Config) (specs : List Plugin.Spec) : Detector :=
  ⟨(Catalog.compileLenient specs).1, config⟩

variable (engine : ScriptEngine) (config : Config) (transaction : Transaction)

theorem detect_lenient_singleton {spec : Plugin.Spec} {plugin : Plugin}
    (compiled : Plugin.compile spec = .ok plugin) (specs : List Plugin.Spec) :
    (lenient config [spec]).detect engine transaction =
      (lenient config specs).pass engine transaction [plugin] := by
  rw [detect_eq_pass, lenient, Catalog.compileLenient_singleton compiled]
  -- A pass over given plugins does not look at the catalog, so the two detectors agree.
  rfl

theorem exists_accepted {specs : List Plugin.Spec} {plugins : List Plugin}
    (each : ∀ plugin ∈ plugins, ∃ spec, Catalog.Accepts specs spec plugin) :
    ∃ accepted : List (Plugin.Spec × Plugin),
      (∀ entry ∈ accepted, Catalog.Accepts specs entry.1 entry.2) ∧
      accepted.map (·.2) = plugins := by
  induction plugins with
  | nil => exact ⟨[], nofun, rfl⟩
  | cons plugin rest ih =>
    obtain ⟨spec, first⟩ := each plugin List.mem_cons_self
    obtain ⟨accepted, others, listed⟩ :=
      ih fun other member => each other (List.mem_cons_of_mem plugin member)
    refine ⟨(spec, plugin) :: accepted, ?_, ?_⟩
    · intro entry member
      rcases List.mem_cons.mp member with rfl | later
      · exact first
      · exact others entry later
    · rw [List.map_cons, listed]

theorem mapM_pass_eq {specs : List Plugin.Spec} {accepted : List (Plugin.Spec × Plugin)}
    (each : ∀ entry ∈ accepted, Catalog.Accepts specs entry.1 entry.2) :
    ((accepted.map (·.2)).mapM fun plugin =>
        (lenient config specs).pass engine transaction [plugin]) =
      accepted.mapM fun entry => (lenient config [entry.1]).detect engine transaction := by
  induction accepted with
  | nil => rfl
  | cons entry rest ih =>
    have compiled := (each entry List.mem_cons_self).compiled
    rw [List.map_cons, List.mapM_cons, List.mapM_cons,
      ih fun other member => each other (List.mem_cons_of_mem entry member),
      detect_lenient_singleton engine config transaction compiled specs]

/-- The outcome of a plugin depends on nothing but itself. For any plugins as written, their pass
is the passes over the single accepted ones in the order of the bytes of their names, what it
reports under a name is what the plugin alone reports, and it reports under no other name. With
other plugins around it, or fewer, a plugin fares the same. -/
theorem detect_isolates_plugins (specs : List Plugin.Spec) :
    let catalog := fun specs => (Catalog.compileLenient specs).1
    let detect := fun specs => (lenient config specs).detect engine transaction
    (∀ plugin, plugin ∈ (catalog specs).plugins ↔ ∃ spec, Catalog.Accepts specs spec plugin) ∧
    ((catalog specs).plugins.map fun plugin => Text.encode plugin.name).Pairwise (· < ·) ∧
    (∃ accepted : List (Plugin.Spec × Plugin),
      (∀ entry ∈ accepted, Catalog.Accepts specs entry.1 entry.2) ∧
      accepted.map (·.2) = (catalog specs).plugins ∧
      detect specs = DetectionResult.join <$> accepted.mapM fun entry => detect [entry.1]) ∧
    (∀ result, detect specs = .ok result →
      (∀ spec plugin, Catalog.Accepts specs spec plugin →
        (catalog [spec]).plugins = [plugin] ∧
        detect [spec] = .ok (result.about plugin.name)) ∧
      (∀ name, ¬ (catalog specs).contains name → result.about name = .none) ∧
      ∀ others other, detect others = .ok other →
        ∀ plugin ∈ (catalog specs).plugins, plugin ∈ (catalog others).plugins →
          other.about plugin.name = result.about plugin.name) ∧
    (config.scriptLimits.timeLimit.reachableFrom engine.now →
      ∃ result, detect specs = .ok result) := by
  intro catalog detect
  have alone : ∀ specs result, detect specs = .ok result → ∀ plugin ∈ (catalog specs).plugins,
      (lenient config specs).pass engine transaction [plugin] =
        .ok (result.about plugin.name) := by
    intro specs result passed plugin member
    exact pass_singleton_eq_about _ engine transaction passed (catalog specs).names_distinct
      member
  refine ⟨fun _ => Catalog.mem_compileLenient_iff, (catalog specs).encoded_ascending, ?_, ?_,
    fun reachable => pass_completes _ engine transaction reachable _⟩
  · obtain ⟨accepted, each, listed⟩ := exists_accepted fun plugin member =>
      Catalog.mem_compileLenient_iff.mp (show plugin ∈ (catalog specs).plugins from member)
    refine ⟨accepted, each, listed, ?_⟩
    change (lenient config specs).detect engine transaction = _
    rw [detect_eq_pass, pass_eq_mapM]
    change DetectionResult.join <$> (catalog specs).plugins.mapM _ = _
    rw [← listed, mapM_pass_eq engine config transaction each]
  · intro result passed
    refine ⟨?_, ?_, ?_⟩
    · intro spec plugin accepted
      constructor
      · exact congrArg (·.1.plugins) (Catalog.compileLenient_singleton accepted.compiled)
      · exact (detect_lenient_singleton engine config transaction accepted.compiled specs).trans
          (alone specs result passed plugin (Catalog.mem_compileLenient_iff.mpr ⟨spec, accepted⟩))
    · intro name absent
      refine about_pass_of_absent _ engine transaction passed fun plugin member same => ?_
      exact absent (Catalog.contains_iff.mpr ⟨plugin, member, same⟩)
    · intro others other otherPassed plugin member otherMember
      have here := alone specs result passed plugin member
      have there := alone others other otherPassed plugin otherMember
      exact Except.ok.inj (there.symm.trans here)

end Detector

end Fingerprint
