import Fingerprint.Validation.Check

/-!
Validation: fixtures are checked against a catalog, and every example that is not accepted is
listed with the reason.
-/

namespace Fingerprint

/-- The kinds of examples. -/
inductive ExampleKind where
  | matchers
  | scripts
  | modularMatchers
  | indicators
deriving DecidableEq, Repr, Inhabited

def ExampleKind.name : ExampleKind → String
  | .matchers => "matches"
  | .scripts => "js_matches"
  | .modularMatchers => "modular_matches"
  | .indicators => "indicators"

/-- An example that is not accepted. -/
structure ValidationFailure where
  plugin : String
  kind : ExampleKind
  index : Nat
  mismatch : Mismatch
deriving DecidableEq, Repr, Inhabited

def ValidationFailure.reason (failure : ValidationFailure) : String := failure.mismatch.reason

def ValidationFailure.display (failure : ValidationFailure) : String :=
  s!"{failure.plugin} {failure.kind.name}[{failure.index}]：" ++ failure.reason

structure ValidationReport where
  checked : Nat
  failures : List ValidationFailure
deriving DecidableEq, Repr, Inhabited

def ValidationReport.isSuccess (report : ValidationReport) : Bool := report.failures.isEmpty

namespace ValidationReport

/-- The report before anything is checked. -/
def empty : ValidationReport := ⟨0, []⟩

/-- The report with the outcome of one more check. -/
def record (report : ValidationReport) (plugin : String) (kind : ExampleKind) (index : Nat)
    (mismatch : Option Mismatch) : ValidationReport :=
  ⟨report.checked + 1, report.failures ++ (mismatch.map (⟨plugin, kind, index, ·⟩)).toList⟩

end ValidationReport

/-- A catalog with the probe that scripts are checked with. -/
structure Validator where
  catalog : Catalog
  probe : ScriptProbe
deriving Repr, Inhabited

namespace Validator

/-- The mismatch of a check; a failure is one too, unless it aborts the validation. -/
def settle : Check → Except Failure (Option Mismatch)
  | .ok mismatch => .ok mismatch
  | .error failure => if failure.aborts then .error failure else .ok (some (.failed failure))

/-- Checks examples that are numbered from `index` on, and records the outcomes. -/
def recordFrom {α : Type} (plugin : String) (kind : ExampleKind) (check : α → Check)
    (index : Nat) (report : ValidationReport) : List α → Except Failure ValidationReport
  | [] => .ok report
  | given :: rest => do
    let mismatch ← settle (check given)
    recordFrom plugin kind check (index + 1) (report.record plugin kind index mismatch) rest

/-- Checks the examples of a fixture, one kind after the other, and records the outcomes. -/
def recordExamples (fixture : Fixture) (ofMatch : FieldExample → Check)
    (ofScript : ScriptExample → Check) (ofModular : ModularExample → Check)
    (ofIndicator : FieldExample → Check) (report : ValidationReport) :
    Except Failure ValidationReport := do
  let report ← recordFrom fixture.plugin .matchers ofMatch 0 report fixture.matchers
  let report ← recordFrom fixture.plugin .scripts ofScript 0 report fixture.scripts
  let report ← recordFrom fixture.plugin .modularMatchers ofModular 0 report
    fixture.modularMatchers
  recordFrom fixture.plugin .indicators ofIndicator 0 report fixture.indicators

/-- The outcome for each example of a plugin that is not in the catalog. -/
def unknown {α : Type} (_ : α) : Check := .ok (some .pluginUnknown)

/-- Records the outcomes for a fixture. -/
def recordFixture (validator : Validator) (engine : ScriptEngine) (report : ValidationReport)
    (fixture : Fixture) : Except Failure ValidationReport :=
  match validator.catalog.get? fixture.plugin with
  | none => recordExamples fixture unknown unknown unknown unknown report
  | some plugin =>
    recordExamples fixture plugin.checkMatch (plugin.checkScript engine validator.probe)
      plugin.checkModular plugin.checkIndicator report

/-- Checks all examples of fixtures. -/
def validate (validator : Validator) (engine : ScriptEngine) (fixtures : List Fixture) :
    Except Failure ValidationReport :=
  fixtures.foldlM (validator.recordFixture engine) .empty

/-- The events of the checks of a fixture. -/
def fixtureEvents (validator : Validator) (engine : ScriptEngine) (fixture : Fixture) :
    List Event :=
  match validator.catalog.get? fixture.plugin with
  | none => []
  | some plugin =>
    fixture.matchers.flatMap plugin.matchEvents ++
    fixture.scripts.flatMap (plugin.scriptEvents engine validator.probe) ++
    fixture.modularMatchers.flatMap plugin.modularEvents ++
    fixture.indicators.flatMap plugin.indicatorEvents

/-- The events of a validation. -/
def events (validator : Validator) (engine : ScriptEngine) (fixtures : List Fixture)
    (report : ValidationReport) : List Event :=
  fixtures.flatMap (validator.fixtureEvents engine) ++
    [.fixturesChecked report.checked report.failures.length]

end Validator

end Fingerprint
