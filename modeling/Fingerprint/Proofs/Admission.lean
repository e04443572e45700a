import Fingerprint.Proofs.Compilation
import Fingerprint.Proofs.Text

/-!
Which plugins lenient compilation admits.

The first valid plugin of each name is admitted, and every other plugin is listed with the reason.
What becomes of a plugin depends on the valid ones of its name before it and on nothing else. The
reason is the fault of the plugin's author, unless it is that the name is blank.
-/

set_option autoImplicit false

namespace Fingerprint

/-- A valid plugin has its name as written, but for white space at the ends. -/
theorem Plugin.compile_name {spec : Spec} {plugin : Plugin} (compiled : compile spec = .ok plugin) :
    plugin.name = Text.trim spec.name ∧ plugin.name ≠ "" := by
  have built := compiledFrom_of_compile compiled
  exact ⟨built.name, built.named⟩

namespace Catalog

/-! ### The rule of admission -/

/-- The names of the valid plugins in their order, each as often as it occurs. -/
def validNames (specs : List Plugin.Spec) : List String :=
  (specs.filter fun spec => (Plugin.compile spec).isOk).map fun spec => Text.trim spec.name

/-- Whether the first valid plugin of a name is compiled to `plugin`. -/
def FirstValid (specs : List Plugin.Spec) (name : String) (plugin : Plugin) : Prop :=
  ∃ before spec after, specs = before ++ spec :: after ∧ Text.trim spec.name = name ∧
    Plugin.compile spec = .ok plugin ∧ name ∉ validNames before

/-- Why a plugin is left out behind others: what is wrong with itself, or a valid one of its name
before it. -/
def refusal? (before : List Plugin.Spec) (spec : Plugin.Spec) : Option Fault :=
  match Plugin.compile spec with
  | .error failure => some ⟨spec.name, failure⟩
  | .ok _ =>
    if Text.trim spec.name ∈ validNames before then
      some ⟨spec.name, .pluginDuplicate (Text.trim spec.name)⟩
    else none

theorem validNames_append (first second : List Plugin.Spec) :
    validNames (first ++ second) = validNames first ++ validNames second := by
  simp only [validNames, List.filter_append, List.map_append]

theorem validNames_cons_of_ok {spec : Plugin.Spec} {plugin : Plugin}
    (compiled : Plugin.compile spec = .ok plugin) (rest : List Plugin.Spec) :
    validNames (spec :: rest) = plugin.name :: validNames rest := by
  have valid : (Plugin.compile spec).isOk := by
    rw [compiled]
    rfl
  rw [validNames, List.filter_cons_of_pos (p := fun spec => (Plugin.compile spec).isOk) valid,
    List.map_cons, (Plugin.compile_name compiled).1, validNames]

theorem validNames_cons_of_error {spec : Plugin.Spec} {failure : Failure}
    (refused : Plugin.compile spec = .error failure) (rest : List Plugin.Spec) :
    validNames (spec :: rest) = validNames rest := by
  have invalid : ¬ (Plugin.compile spec).isOk := by
    rw [refused]
    exact Bool.false_ne_true
  rw [validNames, List.filter_cons_of_neg (p := fun spec => (Plugin.compile spec).isOk) invalid,
    validNames]

theorem mem_validNames {specs : List Plugin.Spec} {name : String} :
    name ∈ validNames specs ↔
      ∃ spec ∈ specs, Text.trim spec.name = name ∧ ∃ plugin, Plugin.compile spec = .ok plugin := by
  have isOk_iff (spec : Plugin.Spec) :
      (Plugin.compile spec).isOk ↔ ∃ plugin, Plugin.compile spec = .ok plugin := by
    cases Plugin.compile spec with
    | error failure => exact ⟨nofun, nofun⟩
    | ok plugin => exact ⟨fun _ => ⟨plugin, rfl⟩, fun _ => rfl⟩
  simp only [validNames, List.mem_map, List.mem_filter, isOk_iff]
  constructor
  · rintro ⟨spec, ⟨member, compiled⟩, named⟩
    exact ⟨spec, member, named, compiled⟩
  · rintro ⟨spec, member, named, compiled⟩
    exact ⟨spec, ⟨member, compiled⟩, named⟩

/-! ### What the catalog holds -/

theorem contains_insert {catalog : Catalog} {plugin : Plugin}
    (new : ¬ catalog.contains plugin.name) {name : String} :
    (catalog.insert plugin).contains name ↔ catalog.contains name ∨ name = plugin.name := by
  simp only [contains_iff, mem_insert_iff new]
  constructor
  · rintro ⟨other, rfl | held, named⟩
    · exact .inr named.symm
    · exact .inl ⟨other, held, named⟩
  · rintro (⟨other, held, named⟩ | named)
    · exact ⟨other, .inr held, named⟩
    · exact ⟨plugin, .inl rfl, named.symm⟩

/-- A catalog to which plugins are added holds the names that it held and those of the valid
plugins. -/
theorem contains_addValid (catalog : Catalog) (specs : List Plugin.Spec) (name : String) :
    (catalog.addValid specs).1.contains name ↔
      catalog.contains name ∨ name ∈ validNames specs := by
  induction specs generalizing catalog with
  | nil => exact (or_iff_left List.not_mem_nil).symm
  | cons spec rest ih =>
    cases compiled : Plugin.compile spec with
    | error failure =>
      rw [addValid_of_error (candidate_of_compile_error compiled), ih,
        validNames_cons_of_error compiled]
    | ok plugin =>
      rw [validNames_cons_of_ok compiled, List.mem_cons]
      have tried : catalog.candidate spec = _ := candidate_of_compile_ok compiled
      split at tried
      next taken =>
        -- A duplicate has a name that the catalog holds already.
        have held : name = plugin.name → catalog.contains name := fun same => same ▸ taken
        rw [addValid_of_error tried, ih, ← or_assoc, or_iff_left_of_imp held]
      next new => rw [addValid_of_ok tried, ih, contains_insert new, or_assoc]

theorem contains_compileLenient {specs : List Plugin.Spec} {name : String} :
    (compileLenient specs).1.contains name ↔ name ∈ validNames specs :=
  (contains_addValid empty specs name).trans (or_iff_right Bool.false_ne_true)

theorem firstValid_iff {specs : List Plugin.Spec} {name : String} {plugin : Plugin} :
    FirstValid specs name plugin ↔
      plugin ∈ (compileLenient specs).1.plugins ∧ plugin.name = name := by
  simp only [mem_compileLenient_iff, Accepts, candidate_eq_ok_iff, contains_compileLenient]
  constructor
  · rintro ⟨before, spec, after, split, named, compiled, new⟩
    have same := (Plugin.compile_name compiled).1.trans named
    exact ⟨⟨spec, before, after, split, compiled, same ▸ new⟩, same⟩
  · rintro ⟨⟨spec, before, after, split, compiled, new⟩, same⟩
    exact ⟨before, spec, after, split, (Plugin.compile_name compiled).1.symm.trans same, compiled,
      same ▸ new⟩

/-- The catalog holds under each name the first valid plugin of the name. -/
theorem get?_compileLenient_iff {specs : List Plugin.Spec} {name : String} {plugin : Plugin} :
    (compileLenient specs).1.get? name = some plugin ↔ FirstValid specs name plugin :=
  get?_eq_some_iff.trans firstValid_iff.symm

/-! ### What is left out -/

theorem addValid_append (catalog : Catalog) (first second : List Plugin.Spec) :
    catalog.addValid (first ++ second) =
      (((catalog.addValid first).1.addValid second).1,
        (catalog.addValid first).2 ++ ((catalog.addValid first).1.addValid second).2) := by
  induction first generalizing catalog with
  | nil => rfl
  | cons spec rest ih =>
    rw [List.cons_append]
    cases tried : catalog.candidate spec with
    | ok plugin => rw [addValid_of_ok tried, addValid_of_ok tried, ih]
    | error failure =>
      rw [addValid_of_error tried, addValid_of_error tried, ih, List.cons_append]

/-- A plugin behind others adds at most one fault, by the rule of admission. -/
theorem faults_concat (before : List Plugin.Spec) (spec : Plugin.Spec) :
    (compileLenient (before ++ [spec])).2 =
      (compileLenient before).2 ++ (refusal? before spec).toList := by
  have last : ((compileLenient before).1.addValid [spec]).2 = (refusal? before spec).toList := by
    cases compiled : Plugin.compile spec with
    | error failure =>
      rw [addValid_of_error (candidate_of_compile_error compiled)]
      simp only [refusal?, compiled, addValid_nil, Option.toList_some]
    | ok plugin =>
      have tried : (compileLenient before).1.candidate spec = _ :=
        candidate_of_compile_ok compiled
      simp only [contains_compileLenient, (Plugin.compile_name compiled).1] at tried
      simp only [refusal?, compiled]
      split
      next taken =>
        rw [if_pos taken] at tried
        rw [addValid_of_error tried, addValid_nil, Option.toList_some]
      next new =>
        rw [if_neg new] at tried
        rw [addValid_of_ok tried, addValid_nil, Option.toList_none]
  rw [compileLenient, addValid_append, ← last]
  rfl

/-- The faults are the refusals of all plugins in their order. -/
theorem faults_compileLenient (specs : List Plugin.Spec) :
    (compileLenient specs).2 =
      specs.zipIdx.filterMap fun (spec, index) => refusal? (specs.take index) spec := by
  induction specs using List.reverseRecOn with
  | nil => rfl
  | append_singleton before spec ih =>
    have earlier : ∀ entry ∈ before.zipIdx,
        (before ++ [spec]).take entry.2 = before.take entry.2 := by
      intro entry member
      exact List.take_append_of_le_length (List.snd_lt_of_mem_zipIdx member).le
    rw [faults_concat, ih, List.zipIdx_append, List.filterMap_append]
    refine congrArg₂ (· ++ ·) (List.filterMap_congr fun entry member => ?_) ?_
    · simp only [earlier entry member]
    · simp only [Nat.zero_add, List.zipIdx_cons, List.zipIdx_nil, List.filterMap_cons,
        List.filterMap_nil, List.take_left]
      cases refusal? before spec <;> rfl

theorem length_place_of_new {plugin : Plugin} {plugins : List Plugin}
    (new : ∀ next ∈ plugins, next.name ≠ plugin.name) :
    (place plugin plugins).length = plugins.length + 1 := by
  induction plugins with
  | nil => rfl
  | cons next rest ih =>
    rw [place]
    split
    · rfl
    · rw [if_neg (new next List.mem_cons_self).symm, List.length_cons,
        ih fun other member => new other (List.mem_cons_of_mem next member), List.length_cons]

theorem size_insert {catalog : Catalog} {plugin : Plugin}
    (new : ¬ catalog.contains plugin.name) : (catalog.insert plugin).size = catalog.size + 1 :=
  length_place_of_new fun next member same => new (contains_iff.mpr ⟨next, member, same⟩)

/-- Every plugin is either added or listed. -/
theorem size_addValid (catalog : Catalog) (specs : List Plugin.Spec) :
    (catalog.addValid specs).1.size + (catalog.addValid specs).2.length =
      catalog.size + specs.length := by
  induction specs generalizing catalog with
  | nil => rfl
  | cons spec rest ih =>
    cases tried : catalog.candidate spec with
    | ok plugin =>
      rw [addValid_of_ok tried, ih, size_insert (candidate_eq_ok_iff.mp tried).2, List.length_cons]
      omega
    | error failure =>
      have others := ih catalog
      simp only [addValid_of_error tried, List.length_cons]
      omega

/-! ### Order -/

/-- Catalogs of the same plugins are equal. -/
theorem eq_of_mem_iff {first second : Catalog}
    (same : ∀ plugin, plugin ∈ first.plugins ↔ plugin ∈ second.plugins) : first = second := by
  obtain ⟨firstPlugins, firstAscending⟩ := first
  obtain ⟨secondPlugins, secondAscending⟩ := second
  have distinct {plugins : List Plugin} (ascending : plugins.Pairwise (·.name < ·.name)) :
      plugins.Nodup :=
    ascending.imp fun smaller same => String.ne_of_lt smaller (congrArg Plugin.name same)
  have permutation : firstPlugins.Perm secondPlugins :=
    (List.perm_ext_iff_of_nodup (distinct firstAscending) (distinct secondAscending)).mpr same
  congr 1
  exact permutation.eq_of_pairwise (fun _ _ _ _ smaller greater =>
    absurd (String.lt_trans smaller greater) (String.lt_irrefl _)) firstAscending secondAscending

theorem mem_of_distinct_names {specs : List Plugin.Spec} (distinct : (validNames specs).Nodup)
    {plugin : Plugin} :
    plugin ∈ (compileLenient specs).1.plugins ↔
      ∃ spec ∈ specs, Plugin.compile spec = .ok plugin := by
  refine (and_iff_left rfl).symm.trans (firstValid_iff.symm.trans ?_)
  constructor
  · rintro ⟨before, spec, after, rfl, _, compiled, _⟩
    exact ⟨spec, List.mem_append_right before List.mem_cons_self, compiled⟩
  · rintro ⟨spec, member, compiled⟩
    obtain ⟨before, after, rfl⟩ := List.append_of_mem member
    refine ⟨before, spec, after, rfl, (Plugin.compile_name compiled).1.symm, compiled, ?_⟩
    rw [validNames_append, validNames_cons_of_ok compiled] at distinct
    intro earlier
    exact (List.nodup_append.mp distinct).2.2 _ earlier _ List.mem_cons_self rfl

/-- Every plugin as written is either admitted as the first valid one of its name or listed as a
fault, in the order of the plugins. If the names of the valid plugins differ, the order of the
plugins does not matter for the catalog. -/
theorem compileLenient_partition (specs : List Plugin.Spec) :
    let catalog := (compileLenient specs).1
    let faults := (compileLenient specs).2
    (∀ name, catalog.contains name ↔
      ∃ spec ∈ specs, Text.trim spec.name = name ∧ ∃ plugin, Plugin.compile spec = .ok plugin) ∧
    (∀ name plugin, catalog.get? name = some plugin ↔ FirstValid specs name plugin) ∧
    (∀ name plugin, catalog.get? name = some plugin →
      plugin.name = name ∧ Text.trim name = name ∧ name ≠ "") ∧
    faults = (specs.zipIdx.filterMap fun (spec, index) => refusal? (specs.take index) spec) ∧
    catalog.size + faults.length = specs.length ∧
    ∀ others, others.Perm specs → (validNames specs).Nodup →
      (compileLenient others).1 = catalog := by
  refine ⟨fun name => contains_compileLenient.trans mem_validNames,
    fun name plugin => get?_compileLenient_iff, ?_, faults_compileLenient specs, ?_, ?_⟩
  · intro name plugin found
    obtain ⟨_, spec, _, _, named, compiled, _⟩ := get?_compileLenient_iff.mp found
    obtain ⟨trimmed, inhabited⟩ := Plugin.compile_name compiled
    rw [named] at trimmed
    exact ⟨trimmed, named ▸ Text.trim_trim spec.name, trimmed ▸ inhabited⟩
  · exact (size_addValid empty specs).trans (Nat.zero_add _)
  · intro others permutation distinct
    have otherDistinct : (validNames others).Nodup :=
      ((permutation.filter _).map _).nodup_iff.mpr distinct
    refine eq_of_mem_iff fun plugin => ?_
    rw [mem_of_distinct_names otherDistinct, mem_of_distinct_names distinct]
    simp only [permutation.mem_iff]

/-! ### Whose fault it is -/

variable {specs : List Plugin.Spec} {spec : Plugin.Spec}

/-- A duplicate is its author's fault as well, and it has a name. -/
theorem isConfigurationFault_of_candidate {catalog : Catalog} {failure : Failure}
    (refused : catalog.candidate spec = .error failure) :
    (failure.isConfigurationFault ↔ Text.trim spec.name ≠ "") ∧
      (failure = .nameBlank ↔ Text.trim spec.name = "") := by
  cases compiled : Plugin.compile spec with
  | error other =>
    rw [candidate_of_compile_error compiled] at refused
    cases refused
    exact Plugin.isConfigurationFault_of_compile compiled
  | ok plugin =>
    obtain ⟨trimmed, named⟩ := Plugin.compile_name compiled
    rw [trimmed] at named
    rw [candidate_of_compile_ok compiled] at refused
    split at refused
    · cases refused
      exact ⟨⟨fun _ => named, fun _ => rfl⟩, nofun, fun blank => absurd blank named⟩
    · cases refused

theorem candidate_of_mem_faults {catalog : Catalog} {fault : Fault}
    (listed : fault ∈ (catalog.addValid specs).2) :
    ∃ held : Catalog, ∃ spec ∈ specs, spec.name = fault.name ∧
      held.candidate spec = .error fault.failure := by
  induction specs generalizing catalog with
  | nil => cases listed
  | cons spec rest ih =>
    have later {held : Catalog} (listed : fault ∈ (held.addValid rest).2) :
        ∃ held : Catalog, ∃ other ∈ spec :: rest, other.name = fault.name ∧
          held.candidate other = .error fault.failure := by
      obtain ⟨held, other, member, refused⟩ := ih listed
      exact ⟨held, other, List.mem_cons_of_mem spec member, refused⟩
    cases tried : catalog.candidate spec with
    | ok plugin =>
      rw [addValid_of_ok tried] at listed
      exact later listed
    | error failure =>
      rw [addValid_of_error tried] at listed
      rcases List.mem_cons.mp listed with rfl | listed
      · exact ⟨catalog, spec, List.mem_cons_self, rfl, tried⟩
      · exact later listed

/-- A failure of compilation counts as the fault of a plugin's author exactly if the plugin has a
name; otherwise it is that the name is blank. This holds of the plugin that ends strict compilation
and of each one that lenient compilation leaves out. -/
theorem isConfigurationFault_iff (specs : List Plugin.Spec) :
    (∀ failure, compile specs = .error failure →
      ∃ before spec after, specs = before ++ spec :: after ∧ (compileLenient before).2 = [] ∧
        (compileLenient before).1.candidate spec = .error failure ∧
        (failure.isConfigurationFault ↔ Text.trim spec.name ≠ "") ∧
        (failure = .nameBlank ↔ Text.trim spec.name = "")) ∧
    ∀ fault ∈ (compileLenient specs).2,
      (fault.failure.isConfigurationFault ↔ Text.trim fault.name ≠ "") ∧
      (fault.failure = .nameBlank ↔ Text.trim fault.name = "") := by
  constructor
  · intro failure refused
    obtain ⟨before, spec, after, split, valid, tried⟩ := addAll_eq_error_iff.mp refused
    exact ⟨before, spec, after, split, valid, tried, isConfigurationFault_of_candidate tried⟩
  · intro fault listed
    obtain ⟨held, spec, -, named, tried⟩ := candidate_of_mem_faults listed
    rw [← named]
    exact isConfigurationFault_of_candidate tried

theorem compile_blames_no_author_for_blank_name :
    compile [.named " "] = .error .nameBlank ∧ ¬ Failure.nameBlank.isConfigurationFault ∧
      (compileLenient [.named " "]).2 = [⟨" ", .nameBlank⟩] :=
  ⟨rfl, Bool.false_ne_true, rfl⟩

end Catalog

end Fingerprint
