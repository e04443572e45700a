import Fingerprint.Plugin.Catalog
import Fingerprint.Proofs.Violations

/-!
Strict and lenient compilation, and catalogs as finite maps from names to plugins.

Both compilations take one plugin after the other. As long as none fails they build the same
catalog, so the failure that ends the strict one is the first fault of the lenient one.
-/

set_option autoImplicit false

namespace Fingerprint

/-! ### Failures of single plugins -/

/-- Whether all failures that an outcome can be have a property. -/
def FailsOnlyBy (cause : Failure → Prop) {α : Type} (outcome : Except Failure α) : Prop :=
  ∀ failure, outcome = .error failure → cause failure

/-- The failures for which a plugin by itself is refused. -/
inductive Plugin.Refusal (name : String) : Failure → Prop
  | nameBlank : Refusal name .nameBlank
  | patternMalformed (pattern : String) (cause : Regex.SyntaxError) :
    Refusal name (.patternMalformed name pattern cause)
  | headerMisplaced (field : Field) (pattern : String) :
    Refusal name (.headerMisplaced name field pattern)
  | scriptBlank : Refusal name (.scriptBlank name)
  | captureMissing (category : Category) (pattern : String) :
    Refusal name (.captureMissing name category pattern)
  | captureOutOfRange (pattern : String) (index available : Nat) :
    Refusal name (.captureOutOfRange name pattern index available)

namespace Plugin

/-- A plugin is refused for what is wrong with itself. -/
theorem compile_fails (spec : Spec) :
    FailsOnlyBy (Refusal (Text.trim spec.name)) (compile spec) := by
  intro failure refused
  obtain ⟨rfl, -⟩ | ⟨rfl, -⟩ | ⟨_, _, _, _, blames⟩ := blames_of_compile refused
  · exact .nameBlank
  · exact .scriptBlank
  · cases blames with
    | header => exact .headerMisplaced _ _
    | name => exact .patternMalformed _ _
    | pattern => exact .patternMalformed _ _
    | group => exact .captureOutOfRange _ _ _
    | text => exact .captureMissing _ _

end Plugin

namespace Catalog

/-! ### Catalogs by names -/

theorem eq_of_name_eq (catalog : Catalog) {first second : Plugin}
    (inFirst : first ∈ catalog.plugins) (inSecond : second ∈ catalog.plugins)
    (same : first.name = second.name) : first = second := by
  obtain ⟨plugins, ascending⟩ := catalog
  induction plugins with
  | nil => cases inFirst
  | cons next rest ih =>
    obtain ⟨below, restAscending⟩ := List.pairwise_cons.mp ascending
    rcases List.mem_cons.mp inFirst with rfl | firstLater
    · rcases List.mem_cons.mp inSecond with rfl | secondLater
      · rfl
      · exact absurd same (String.ne_of_lt (below second secondLater))
    · rcases List.mem_cons.mp inSecond with rfl | secondLater
      · exact absurd same.symm (String.ne_of_lt (below first firstLater))
      · exact ih restAscending firstLater secondLater

theorem get?_eq_some_iff {catalog : Catalog} {name : String} {plugin : Plugin} :
    catalog.get? name = some plugin ↔ plugin ∈ catalog.plugins ∧ plugin.name = name := by
  have named {other : Plugin} (found : catalog.get? name = some other) : other.name = name := by
    simpa only [decide_eq_true_eq] using List.find?_some found
  constructor
  · intro found
    exact ⟨List.mem_of_find?_eq_some found, named found⟩
  · rintro ⟨member, same⟩
    cases found : catalog.get? name with
    | none =>
      have refused := List.find?_eq_none.mp found plugin member
      simp only [same, decide_true, not_true_eq_false] at refused
    | some other =>
      rw [catalog.eq_of_name_eq (List.mem_of_find?_eq_some found) member
        ((named found).trans same.symm)]

theorem contains_iff {catalog : Catalog} {name : String} :
    catalog.contains name ↔ ∃ plugin ∈ catalog.plugins, plugin.name = name := by
  simp only [contains, List.any_eq_true, decide_eq_true_eq]

theorem mem_place_of_new {plugin other : Plugin} {plugins : List Plugin}
    (new : ∀ next ∈ plugins, next.name ≠ plugin.name)
    (kept : other = plugin ∨ other ∈ plugins) : other ∈ place plugin plugins := by
  induction plugins with
  | nil => exact List.mem_singleton.mpr (kept.resolve_right List.not_mem_nil)
  | cons next rest ih =>
    rw [place]
    split
    · exact List.mem_cons.mpr kept
    · rw [if_neg (new next List.mem_cons_self).symm, List.mem_cons]
      have later := ih fun name member => new name (List.mem_cons_of_mem next member)
      rcases kept with same | member
      · exact .inr (later (.inl same))
      · exact (List.mem_cons.mp member).imp_right fun member => later (.inr member)

theorem mem_insert_iff {catalog : Catalog} {plugin other : Plugin}
    (new : ¬ catalog.contains plugin.name) :
    other ∈ (catalog.insert plugin).plugins ↔ other = plugin ∨ other ∈ catalog.plugins :=
  ⟨mem_place, mem_place_of_new fun next member same =>
    new (contains_iff.mpr ⟨next, member, same⟩)⟩

/-! ### One plugin more -/

theorem candidate_of_compile_error {catalog : Catalog} {spec : Plugin.Spec} {failure : Failure}
    (refused : Plugin.compile spec = .error failure) :
    catalog.candidate spec = .error failure := by
  rw [candidate, refused]
  rfl

theorem candidate_of_compile_ok {catalog : Catalog} {spec : Plugin.Spec} {plugin : Plugin}
    (compiled : Plugin.compile spec = .ok plugin) :
    catalog.candidate spec =
      if catalog.contains plugin.name then .error (.pluginDuplicate plugin.name)
      else .ok plugin := by
  rw [candidate, compiled]
  rfl

theorem candidate_eq_ok_iff {catalog : Catalog} {spec : Plugin.Spec} {plugin : Plugin} :
    catalog.candidate spec = .ok plugin ↔
      Plugin.compile spec = .ok plugin ∧ ¬ catalog.contains plugin.name := by
  cases compiled : Plugin.compile spec with
  | error failure =>
    rw [candidate_of_compile_error compiled]
    simp only [reduceCtorEq, false_and]
  | ok other =>
    rw [candidate_of_compile_ok compiled, Except.ok.injEq]
    by_cases taken : catalog.contains other.name
    · rw [if_pos taken]
      constructor
      · nofun
      · rintro ⟨rfl, free⟩
        exact absurd taken free
    · rw [if_neg taken, Except.ok.injEq]
      constructor
      · rintro rfl
        exact ⟨rfl, taken⟩
      · exact fun made => made.1

/-- A plugin is refused as a duplicate if it is valid and the catalog holds one of its name. -/
theorem candidate_eq_duplicate_iff {catalog : Catalog} {spec : Plugin.Spec} {name : String} :
    catalog.candidate spec = .error (.pluginDuplicate name) ↔
      ∃ plugin, Plugin.compile spec = .ok plugin ∧ plugin.name = name ∧
        catalog.contains name := by
  cases compiled : Plugin.compile spec with
  | error failure =>
    rw [candidate_of_compile_error compiled, Except.error.injEq]
    constructor
    · rintro rfl
      cases Plugin.compile_fails spec _ compiled
    · rintro ⟨plugin, made, _⟩
      cases made
  | ok other =>
    rw [candidate_of_compile_ok compiled]
    by_cases taken : catalog.contains other.name
    · rw [if_pos taken, Except.error.injEq, Failure.pluginDuplicate.injEq]
      constructor
      · rintro rfl
        exact ⟨other, rfl, rfl, taken⟩
      · rintro ⟨plugin, made, named, _⟩
        cases made
        exact named
    · rw [if_neg taken]
      constructor
      · nofun
      · rintro ⟨plugin, made, rfl, held⟩
        cases made
        exact absurd held taken

variable {catalog : Catalog} {spec : Plugin.Spec}

theorem addAll_of_ok {plugin : Plugin} (accepted : catalog.candidate spec = .ok plugin)
    (rest : List Plugin.Spec) :
    catalog.addAll (spec :: rest) = (catalog.insert plugin).addAll rest := by
  rw [addAll, accepted]
  rfl

theorem addAll_of_error {failure : Failure} (refused : catalog.candidate spec = .error failure)
    (rest : List Plugin.Spec) : catalog.addAll (spec :: rest) = .error failure := by
  rw [addAll, refused]
  rfl

theorem addValid_nil (catalog : Catalog) : catalog.addValid [] = (catalog, []) := rfl

theorem addValid_of_ok {plugin : Plugin} (accepted : catalog.candidate spec = .ok plugin)
    (rest : List Plugin.Spec) :
    catalog.addValid (spec :: rest) = (catalog.insert plugin).addValid rest := by
  rw [addValid, accepted]

theorem addValid_of_error {failure : Failure} (refused : catalog.candidate spec = .error failure)
    (rest : List Plugin.Spec) :
    catalog.addValid (spec :: rest) =
      ((catalog.addValid rest).1, ⟨spec.name, failure⟩ :: (catalog.addValid rest).2) := by
  rw [addValid, refused]

/-! ### Many plugins -/

/-- Strictly is leniently without faults, or the failure of the first fault. -/
theorem addAll_eq_addValid (catalog : Catalog) (specs : List Plugin.Spec) :
    catalog.addAll specs =
      match (catalog.addValid specs).2 with
      | [] => .ok (catalog.addValid specs).1
      | fault :: _ => .error fault.failure := by
  -- Both hold the same catalog until a plugin fails, which ends one and is listed by the other.
  induction specs generalizing catalog with
  | nil => rfl
  | cons spec rest ih =>
    cases tried : catalog.candidate spec with
    | error failure => rw [addAll_of_error tried, addValid_of_error tried]
    | ok plugin => rw [addAll_of_ok tried, addValid_of_ok tried, ih]

theorem exists_split_cons_iff {α : Type} {first : α} {rest : List α} {P : List α → α → Prop} :
    (∃ before item after, first :: rest = before ++ item :: after ∧ P before item) ↔
      P [] first ∨
        ∃ before item after, rest = before ++ item :: after ∧ P (first :: before) item := by
  constructor
  · rintro ⟨before, item, after, split, holds⟩
    cases before with
    | nil =>
      cases split
      exact .inl holds
    | cons _ before =>
      cases split
      exact .inr ⟨before, item, after, rfl, holds⟩
  · rintro (holds | ⟨before, item, after, rfl, holds⟩)
    · exact ⟨[], first, rest, rfl, holds⟩
    · exact ⟨first :: before, item, after, rfl, holds⟩

/-- The failure of strict compilation is that of a plugin all before which are accepted. -/
theorem addAll_eq_error_iff {catalog : Catalog} {specs : List Plugin.Spec} {failure : Failure} :
    catalog.addAll specs = .error failure ↔
      ∃ before spec after, specs = before ++ spec :: after ∧
        (catalog.addValid before).2 = [] ∧
        (catalog.addValid before).1.candidate spec = .error failure := by
  induction specs generalizing catalog with
  | nil => simp only [addAll, reduceCtorEq, List.nil_eq, List.append_eq_nil_iff, and_false,
      false_and, exists_false]
  | cons first rest ih =>
    refine Iff.trans ?_ exists_split_cons_iff.symm
    cases tried : catalog.candidate first with
    | error other =>
      simp only [addAll_of_error tried, addValid_of_error tried, addValid_nil, tried, true_and,
        reduceCtorEq, false_and, and_false, exists_false, or_false, Except.error.injEq]
    | ok plugin =>
      simp only [addAll_of_ok tried, addValid_of_ok tried, addValid_nil, tried, true_and,
        reduceCtorEq, false_or, ih]

/-! ### Accepted plugins -/

/-- Whether the plugin is what `spec` is compiled to at its place among `specs`: it is valid, and
no accepted one before it has its name. -/
def Accepts (specs : List Plugin.Spec) (spec : Plugin.Spec) (plugin : Plugin) : Prop :=
  ∃ before after, specs = before ++ spec :: after ∧
    (compileLenient before).1.candidate spec = .ok plugin

theorem mem_addValid_iff {catalog : Catalog} {specs : List Plugin.Spec} {plugin : Plugin} :
    plugin ∈ (catalog.addValid specs).1.plugins ↔
      plugin ∈ catalog.plugins ∨ ∃ before spec after, specs = before ++ spec :: after ∧
        (catalog.addValid before).1.candidate spec = .ok plugin := by
  induction specs generalizing catalog with
  | nil => simp only [addValid, List.nil_eq, List.append_eq_nil_iff, reduceCtorEq, and_false,
      false_and, exists_false, or_false]
  | cons first rest ih =>
    refine Iff.trans ?_ (or_congr_right exists_split_cons_iff.symm)
    cases tried : catalog.candidate first with
    | error other =>
      simp only [addValid_of_error tried, addValid_nil, tried, reduceCtorEq, false_or, ih]
    | ok made =>
      have new := (candidate_eq_ok_iff.mp tried).2
      simp only [addValid_of_ok tried, addValid_nil, tried, ih, mem_insert_iff new,
        Except.ok.injEq]
      rw [← or_assoc, or_comm (a := plugin = made), eq_comm (a := made)]

theorem mem_compileLenient_iff {specs : List Plugin.Spec} {plugin : Plugin} :
    plugin ∈ (compileLenient specs).1.plugins ↔ ∃ spec, Accepts specs spec plugin := by
  refine mem_addValid_iff.trans ?_
  constructor
  · rintro (absent | ⟨before, spec, after, split, accepted⟩)
    · exact absurd absent List.not_mem_nil
    · exact ⟨spec, before, after, split, accepted⟩
  · rintro ⟨spec, before, after, split, accepted⟩
    exact .inr ⟨before, spec, after, split, accepted⟩

theorem Accepts.compiled {specs : List Plugin.Spec} {spec : Plugin.Spec} {plugin : Plugin}
    (accepted : Accepts specs spec plugin) : Plugin.compile spec = .ok plugin := by
  obtain ⟨_, _, _, made⟩ := accepted
  exact (candidate_eq_ok_iff.mp made).1

theorem compileLenient_singleton {spec : Plugin.Spec} {plugin : Plugin}
    (compiled : Plugin.compile spec = .ok plugin) :
    compileLenient [spec] = (empty.insert plugin, []) := by
  have new : ¬ empty.contains plugin.name := Bool.false_ne_true
  exact addValid_of_ok (candidate_eq_ok_iff.mpr ⟨compiled, new⟩) []

/-! ### Strict against lenient -/

/-- Strict compilation succeeds if lenient compilation finds no fault, with the same catalog, and
otherwise fails as the first fault does. A duplicate is a valid plugin behind accepted ones that
include its name. -/
theorem compile_iff_compileLenient (specs : List Plugin.Spec) :
    ((∃ catalog, compile specs = .ok catalog) ↔ (compileLenient specs).2 = []) ∧
    (∀ catalog, compile specs = .ok catalog → (compileLenient specs).1 = catalog) ∧
    (∀ failure, compile specs = .error failure ↔
      ∃ fault rest, (compileLenient specs).2 = fault :: rest ∧ fault.failure = failure) ∧
    ∀ name, compile specs = .error (.pluginDuplicate name) ↔
      ∃ before spec after, specs = before ++ spec :: after ∧ (compileLenient before).2 = [] ∧
        ∃ plugin, Plugin.compile spec = .ok plugin ∧ plugin.name = name ∧
          (compileLenient before).1.contains name := by
  have agree : compile specs =
      match (compileLenient specs).2 with
      | [] => .ok (compileLenient specs).1
      | fault :: _ => .error fault.failure := addAll_eq_addValid empty specs
  refine ⟨?_, ?_, ?_, fun name => ?_⟩
  · rw [agree]
    cases (compileLenient specs).2 with
    | nil => exact ⟨fun _ => rfl, fun _ => ⟨_, rfl⟩⟩
    | cons fault rest => exact ⟨nofun, nofun⟩
  · rw [agree]
    intro catalog
    cases (compileLenient specs).2 with
    | nil => exact Except.ok.inj
    | cons fault rest => exact nofun
  · rw [agree]
    intro failure
    cases (compileLenient specs).2 with
    | nil => exact ⟨nofun, nofun⟩
    | cons fault rest =>
      rw [Except.error.injEq]
      constructor
      · intro same
        exact ⟨fault, rest, rfl, same⟩
      · rintro ⟨_, _, listed, same⟩
        cases listed
        exact same
  · refine addAll_eq_error_iff.trans ?_
    simp only [candidate_eq_duplicate_iff, compileLenient]

end Catalog

end Fingerprint
