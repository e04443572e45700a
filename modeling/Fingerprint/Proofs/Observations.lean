import Fingerprint.Detection.Evaluation
import Fingerprint.Proofs.Distinct

/-!
The evaluation of a plugin as a sequence of observations.

Each matcher whose field the transaction has makes one observation. Findings are what is left when
the observations are taken one after the other, so each of their parts is known from the list.
-/

set_option autoImplicit false

namespace Fingerprint

/-- What one matcher finds in the value of a field. -/
structure Observation where
  category : Category
  field : Field
  matcher : Nat
  fragments : List Fragment

namespace Observation

/-- The records that the observation leaves: one for each value, or one for presence alone. -/
def evidence (observation : Observation) : List Evidence :=
  let record := Evidence.mk (.field observation.field observation.category) observation.matcher
  match observation.category with
  | .matchers => (extractVersions observation.fragments).map fun version => record (some version)
  | .modularMatchers => (extractNames observation.fragments).map fun name => record (some name)
  | .indicators => if observation.fragments.isEmpty then [] else [record none]

/-- The fragments that observations of a category found, in their order. -/
def fragmentsOf (category : Category) (observations : List Observation) : List Fragment :=
  observations.flatMap fun observation =>
    if observation.category = category then observation.fragments else []

@[simp] theorem fragmentsOf_nil (category : Category) : fragmentsOf category [] = [] := rfl

@[simp] theorem fragmentsOf_singleton (category : Category) (observation : Observation) :
    fragmentsOf category [observation] =
      if observation.category = category then observation.fragments else [] :=
  List.append_nil _

@[simp] theorem fragmentsOf_append (category : Category) (first second : List Observation) :
    fragmentsOf category (first ++ second) =
      fragmentsOf category first ++ fragmentsOf category second :=
  List.flatMap_append

theorem fragmentsOf_flatMap {α : Type} (category : Category) (items : List α)
    (observe : α → List Observation) :
    fragmentsOf category (items.flatMap observe) =
      items.flatMap fun item => fragmentsOf category (observe item) :=
  List.flatMap_assoc

theorem fragmentsOf_cons (category : Category) (observation : Observation)
    (rest : List Observation) :
    fragmentsOf category (observation :: rest) =
      fragmentsOf category [observation] ++ fragmentsOf category rest :=
  fragmentsOf_append category [observation] rest

end Observation

/-! ### Findings -/

namespace Findings

/-- Takes an observation. -/
def observe (findings : Findings) (observation : Observation) : Findings :=
  findings.addFragments observation.category observation.field observation.matcher
    observation.fragments

/-- Takes observations in their order. -/
def observeAll (findings : Findings) (observations : List Observation) : Findings :=
  observations.foldl observe findings

@[simp] theorem observeAll_nil (findings : Findings) : findings.observeAll [] = findings := rfl

@[simp] theorem observeAll_cons (findings : Findings) (observation : Observation)
    (rest : List Observation) :
    findings.observeAll (observation :: rest) = (findings.observe observation).observeAll rest :=
  rfl

theorem observe_evidence (findings : Findings) (observation : Observation) :
    (findings.observe observation).evidence = findings.evidence ++ observation.evidence := by
  rcases observation with ⟨category, field, matcher, fragments⟩
  cases category with
  | matchers => rfl
  | modularMatchers => rfl
  | indicators => cases fragments <;> simp [observe, addFragments, showsPresence, addIndicator,
      Observation.evidence]

theorem observe_script (findings : Findings) (observation : Observation) :
    (findings.observe observation).script = findings.script := by
  rcases observation with ⟨category, field, matcher, fragments⟩
  cases category with
  | matchers => rfl
  | modularMatchers => rfl
  | indicators => cases fragments <;> rfl

theorem observe_versions (findings : Findings) (observation : Observation) :
    (findings.observe observation).versions =
      (extractVersions (Observation.fragmentsOf .matchers [observation])).foldl pushDistinct
        findings.versions := by
  rcases observation with ⟨category, field, matcher, fragments⟩
  cases category with
  | matchers => simp [observe, addFragments, addVersions]
  | modularMatchers => rfl
  | indicators => cases fragments <;> rfl

theorem observe_names (findings : Findings) (observation : Observation) :
    (findings.observe observation).names =
      (extractNames (Observation.fragmentsOf .modularMatchers [observation])).foldl pushDistinct
        findings.names := by
  rcases observation with ⟨category, field, matcher, fragments⟩
  cases category with
  | matchers => rfl
  | modularMatchers => simp [observe, addFragments, addNames]
  | indicators => cases fragments <;> rfl

theorem observe_indicated (findings : Findings) (observation : Observation) :
    (findings.observe observation).indicated =
      (findings.indicated || !(Observation.fragmentsOf .indicators [observation]).isEmpty) := by
  rcases observation with ⟨category, field, matcher, fragments⟩
  cases category with
  | matchers => exact (Bool.or_false _).symm
  | modularMatchers => exact (Bool.or_false _).symm
  | indicators => cases fragments <;> simp [observe, addFragments, showsPresence, addIndicator]

theorem observeAll_evidence (findings : Findings) (observations : List Observation) :
    (findings.observeAll observations).evidence =
      findings.evidence ++ observations.flatMap (·.evidence) := by
  induction observations generalizing findings with
  | nil => exact (List.append_nil _).symm
  | cons observation rest ih =>
    rw [observeAll_cons, ih, observe_evidence, List.flatMap_cons, List.append_assoc]

theorem observeAll_script (findings : Findings) (observations : List Observation) :
    (findings.observeAll observations).script = findings.script := by
  induction observations generalizing findings with
  | nil => rfl
  | cons observation rest ih => rw [observeAll_cons, ih, observe_script]

/-- Versions extracted from each observation and added up are those extracted once from all. -/
theorem observeAll_versions (findings : Findings) (observations : List Observation) :
    (findings.observeAll observations).versions =
      (extractVersions (Observation.fragmentsOf .matchers observations)).foldl pushDistinct
        findings.versions := by
  induction observations generalizing findings with
  | nil => rfl
  | cons observation rest ih =>
    rw [observeAll_cons, ih, observe_versions, Observation.fragmentsOf_cons _ _ rest,
      extractVersions_append, foldl_pushDistinct_foldl]

theorem observeAll_names (findings : Findings) (observations : List Observation) :
    (findings.observeAll observations).names =
      (extractNames (Observation.fragmentsOf .modularMatchers observations)).foldl pushDistinct
        findings.names := by
  induction observations generalizing findings with
  | nil => rfl
  | cons observation rest ih =>
    rw [observeAll_cons, ih, observe_names, Observation.fragmentsOf_cons _ _ rest,
      extractNames_append, foldl_pushDistinct_foldl]

theorem observeAll_indicated (findings : Findings) (observations : List Observation) :
    (findings.observeAll observations).indicated =
      (findings.indicated || !(Observation.fragmentsOf .indicators observations).isEmpty) := by
  induction observations generalizing findings with
  | nil => exact (Bool.or_false _).symm
  | cons observation rest ih =>
    rw [observeAll_cons, ih, observe_indicated, Observation.fragmentsOf_cons _ _ rest]
    cases Observation.fragmentsOf .indicators [observation] <;> simp

end Findings

/-! ### Plugins -/

namespace Plugin

/-- The observations of matchers that are numbered from `start` on. -/
def observe (category : Category) (field : Field) (value : FieldValue) (start : Nat)
    (matchers : List Matcher) : List Observation :=
  (matchers.zipIdx start).map fun (matcher, index) =>
    ⟨category, field, index, matcher.apply index value⟩

/-- The observations in a category and field; there are none if the transaction lacks the field. -/
def observationsAt (plugin : Plugin) (transaction : Transaction) (category : Category)
    (field : Field) : List Observation :=
  (transaction.field? field).toList.flatMap fun value =>
    observe category field value 0 (plugin.lookup field category)

/-- The observations of a plugin by category, field and order of declaration. -/
def observations (plugin : Plugin) (transaction : Transaction) : List Observation :=
  Category.all.flatMap fun category =>
    (plugin.fields category).flatMap (plugin.observationsAt transaction category)

theorem addMatchers_eq_observeAll (findings : Findings) (category : Category) (field : Field)
    (value : FieldValue) (start : Nat) (matchers : List Matcher) :
    findings.addMatchers category field value start matchers =
      findings.observeAll (observe category field value start matchers) := by
  induction matchers generalizing findings start with
  | nil => rfl
  | cons matcher rest ih => exact ih _ (start + 1)

theorem addField_eq_observeAll (plugin : Plugin) (transaction : Transaction) (findings : Findings)
    (category : Category) (field : Field) :
    plugin.addField transaction findings (category, field) =
      findings.observeAll (plugin.observationsAt transaction category field) := by
  rw [addField, observationsAt]
  cases transaction.field? field with
  | none => rfl
  | some value =>
    rw [Option.toList_some, List.flatMap_singleton]
    exact addMatchers_eq_observeAll ..

theorem fieldFindings_eq_observeAll (plugin : Plugin) (transaction : Transaction) :
    plugin.fieldFindings transaction =
      Findings.empty.observeAll (plugin.observations transaction) := by
  have observed : plugin.observations transaction =
      plugin.declared.flatMap fun place => plugin.observationsAt transaction place.1 place.2 := by
    simp only [observations, declared, List.flatMap_assoc, List.flatMap_map]
  rw [fieldFindings, observed, Findings.observeAll, List.foldl_flatMap]
  congr 1
  funext findings place
  exact addField_eq_observeAll plugin transaction findings place.1 place.2

theorem fieldFindings_versions (plugin : Plugin) (transaction : Transaction) :
    (plugin.fieldFindings transaction).versions =
      extractVersions (Observation.fragmentsOf .matchers (plugin.observations transaction)) := by
  rw [fieldFindings_eq_observeAll, Findings.observeAll_versions]
  exact foldl_distinctNonEmpty _

theorem fieldFindings_names (plugin : Plugin) (transaction : Transaction) :
    (plugin.fieldFindings transaction).names =
      extractNames
        (Observation.fragmentsOf .modularMatchers (plugin.observations transaction)) := by
  rw [fieldFindings_eq_observeAll, Findings.observeAll_names]
  exact foldl_distinctNonEmpty _

theorem fieldFindings_indicated (plugin : Plugin) (transaction : Transaction) :
    (plugin.fieldFindings transaction).indicated =
      !(Observation.fragmentsOf .indicators (plugin.observations transaction)).isEmpty := by
  rw [fieldFindings_eq_observeAll, Findings.observeAll_indicated]
  exact Bool.false_or _

theorem fieldFindings_script (plugin : Plugin) (transaction : Transaction) :
    (plugin.fieldFindings transaction).script = none := by
  rw [fieldFindings_eq_observeAll, Findings.observeAll_script]
  rfl

theorem fieldFindings_evidence (plugin : Plugin) (transaction : Transaction) :
    (plugin.fieldFindings transaction).evidence =
      (plugin.observations transaction).flatMap (·.evidence) := by
  rw [fieldFindings_eq_observeAll, Findings.observeAll_evidence]
  exact List.nil_append _

end Plugin

/-! ### An example -/

namespace DigitPage

/-- A pattern that captures a digit behind a `v`. -/
def versionDigit : Regex := (Regex.compile "v([0-9])").toOption.getD default

def matcher : Plugin.Matcher := ⟨.text versionDigit, .group 1, none⟩

/-- Looks for versions in the address, twice, and for their presence in the address and the text. -/
def plugin (scriptMatchers : List Plugin.ScriptMatcher) : Plugin where
  name := "digits"
  homepage := none
  tags := []
  matchers := ⟨⟨[matcher, matcher], [], []⟩, .empty, ⟨[matcher], [matcher], []⟩⟩
  scriptMatchers := scriptMatchers

/-- A script of one digit whose address mentions two versions, one of them again. -/
def transaction : Transaction :=
  ⟨some "v1 v2 v1", some "3", some [("content-type", "text/javascript")]⟩

/-- What the fields show: no version is recorded twice for a matcher, but for both matchers. -/
def fieldEvidence : List Evidence :=
  [⟨.field .url .matchers, 0, some "1"⟩, ⟨.field .url .matchers, 0, some "2"⟩,
    ⟨.field .url .matchers, 1, some "1"⟩, ⟨.field .url .matchers, 1, some "2"⟩,
    ⟨.field .url .indicators, 0, none⟩]

example : ((plugin []).observations transaction).flatMap (·.evidence) = fieldEvidence := by
  cbv

end DigitPage

end Fingerprint
