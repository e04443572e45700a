import Fingerprint.Proofs.Completion
import Fingerprint.Proofs.Conformance
import Fingerprint.Validation.Basic

/-!
What the report of a validation accounts for.

What a check adds to a report does not depend on what is recorded already. A report therefore falls
into parts, one for each fixture, and a part lists the examples that are not accepted in the order
in which they are checked. A check that fails is listed like any other that does not accept. Only a
check that does not come back, since the deadline of its probe lies beyond the clock, leaves no
report.
-/

set_option autoImplicit false

namespace Fingerprint

/-! ### Outcomes of checks -/

/-- Why an example is not accepted; a check that fails is a reason too. -/
def Check.mismatch? : Check → Option Mismatch
  | .ok mismatch => mismatch
  | .error failure => some (.failed failure)

/-- The checks of the examples of one kind. -/
def Fixture.checksBy (fixture : Fixture) (ofMatch : FieldExample → Check)
    (ofScript : ScriptExample → Check) (ofModular : ModularExample → Check)
    (ofIndicator : FieldExample → Check) : ExampleKind → List Check
  | .matchers => fixture.matchers.map ofMatch
  | .scripts => fixture.scripts.map ofScript
  | .modularMatchers => fixture.modularMatchers.map ofModular
  | .indicators => fixture.indicators.map ofIndicator

/-- The place of a kind in the order of the checks. -/
def ExampleKind.rank : ExampleKind → Nat
  | .matchers => 0
  | .scripts => 1
  | .modularMatchers => 2
  | .indicators => 3

/-- The kinds in the order of the checks. -/
def ExampleKind.all : List ExampleKind := [.matchers, .scripts, .modularMatchers, .indicators]

theorem ExampleKind.mem_all (kind : ExampleKind) : kind ∈ all := by
  cases kind <;> decide

theorem ExampleKind.exists_iff {holds : ExampleKind → Prop} :
    (∃ kind, holds kind) ↔
      holds .matchers ∨ holds .scripts ∨ holds .modularMatchers ∨ holds .indicators := by
  constructor
  · rintro ⟨kind, held⟩
    cases kind with
    | matchers => exact .inl held
    | scripts => exact .inr (.inl held)
    | modularMatchers => exact .inr (.inr (.inl held))
    | indicators => exact .inr (.inr (.inr held))
  · rintro (held | held | held | held)
    exacts [⟨_, held⟩, ⟨_, held⟩, ⟨_, held⟩, ⟨_, held⟩]

/-- The order of the checks: by kinds, and by numbers among examples of a kind. -/
def ValidationFailure.Precedes (first second : ValidationFailure) : Prop :=
  first.kind.rank < second.kind.rank ∨ first.kind = second.kind ∧ first.index < second.index

namespace ValidationReport

/-- A report and what is recorded behind it. -/
instance : Append ValidationReport where
  append first second :=
    ⟨first.checked + second.checked, first.failures ++ second.failures⟩

theorem append_eq (first second : ValidationReport) :
    first ++ second = ⟨first.checked + second.checked, first.failures ++ second.failures⟩ := rfl

theorem append_assoc (first second third : ValidationReport) :
    first ++ second ++ third = first ++ (second ++ third) := by
  simp only [append_eq, Nat.add_assoc, List.append_assoc]

theorem append_empty (report : ValidationReport) : report ++ empty = report := by
  simp only [append_eq, empty, Nat.add_zero, List.append_nil]

theorem empty_append (report : ValidationReport) : empty ++ report = report := by
  simp only [append_eq, empty, Nat.zero_add, List.nil_append]

end ValidationReport

namespace Validator

open ValidationReport (append_eq append_assoc append_empty empty_append)

theorem settle_of_aborted : settle (.error .deadlineOverflow) = .error .deadlineOverflow := rfl

theorem settle_of_completed {check : Check} (completed : check ≠ .error .deadlineOverflow) :
    settle check = .ok check.mismatch? := by
  cases check with
  | ok mismatch => rfl
  | error failure =>
    cases failure
    case deadlineOverflow => exact absurd rfl completed
    all_goals rfl

/-! ### Stretches of a validation -/

/-- A stretch of a validation aborts it, or adds to the report; neither depends on what is recorded
before. -/
structure Adds (stretch : ValidationReport → Except Failure ValidationReport) (aborts : Prop)
    (added : ValidationReport) : Prop where
  aborted : ∀ report, aborts → stretch report = .error .deadlineOverflow
  completed : ∀ report, ¬ aborts → stretch report = .ok (report ++ added)

namespace Adds

variable {first second : ValidationReport → Except Failure ValidationReport} {aborts later : Prop}
  {added more : ValidationReport}

theorem nothing : Adds .ok False .empty where
  aborted _ impossible := impossible.elim
  completed report _ := by rw [append_empty]

theorem followedBy (left : Adds first aborts added) (right : Adds second later more) :
    Adds (fun report => first report >>= second) (aborts ∨ later) (added ++ more) where
  aborted report either := by
    by_cases cut : aborts
    · rw [left.aborted report cut]
      rfl
    · rw [left.completed report cut]
      exact right.aborted _ (either.resolve_left cut)
  completed report neither := by
    rw [not_or] at neither
    rw [left.completed report neither.1, ← append_assoc]
    exact right.completed _ neither.2

theorem congr (whole : Adds first aborts added) (same : later ↔ aborts) (equal : more = added) :
    Adds first later more where
  aborted report cut := whole.aborted report (same.mp cut)
  completed report runs := equal ▸ whole.completed report (mt same.mpr runs)

/-- What is recorded before comes first, and that is all it does. -/
theorem eq_map (whole : Adds first aborts added) (report : ValidationReport) :
    first report = (first .empty).map (report ++ ·) := by
  by_cases cut : aborts
  · rw [whole.aborted report cut, whole.aborted .empty cut]
    rfl
  · rw [whole.completed report cut, whole.completed .empty cut, empty_append]
    rfl

end Adds

/-! ### Examples of one kind -/

section

variable (plugin : String) (kind : ExampleKind)

/-- The failures among checks that are numbered from `index` on. -/
def failuresFrom (index : Nat) : List Check → List ValidationFailure
  | [] => []
  | check :: rest =>
    (check.mismatch?.map (⟨plugin, kind, index, ·⟩)).toList ++ failuresFrom (index + 1) rest

theorem adds_check (check : Check) (index : Nat) :
    Adds (fun report => (settle check).map (report.record plugin kind index ·))
      (check = .error .deadlineOverflow)
      ⟨1, (check.mismatch?.map (⟨plugin, kind, index, ·⟩)).toList⟩ where
  aborted report cut := by
    rw [cut, settle_of_aborted]
    rfl
  completed report runs := by
    rw [settle_of_completed runs]
    rfl

theorem adds_recordFrom {α : Type} (check : α → Check) (index : Nat) (examples : List α) :
    Adds (recordFrom plugin kind check index · examples)
      (.error .deadlineOverflow ∈ examples.map check)
      ⟨examples.length, failuresFrom plugin kind index (examples.map check)⟩ := by
  induction examples generalizing index with
  | nil => exact Adds.nothing.congr (iff_of_false nofun id) rfl
  | cons given rest ih =>
    have step (report : ValidationReport) :
        recordFrom plugin kind check index report (given :: rest) =
          (settle (check given)).map (report.record plugin kind index ·) >>=
            (recordFrom plugin kind check (index + 1) · rest) := by
      rw [recordFrom]
      cases settle (check given) <;> rfl
    simp only [step]
    refine ((adds_check plugin kind (check given) index).followedBy (ih (index + 1))).congr ?_ ?_
    · rw [List.map_cons, List.mem_cons, eq_comm]
    · rw [append_eq, List.length_cons, Nat.add_comm]
      rfl

variable {plugin kind}

theorem mem_failuresFrom_iff {index : Nat} {checks : List Check} {failure : ValidationFailure} :
    failure ∈ failuresFrom plugin kind index checks ↔
      failure.plugin = plugin ∧ failure.kind = kind ∧ ∃ offset check,
        failure.index = index + offset ∧ checks[offset]? = some check ∧
          check.mismatch? = some failure.mismatch := by
  induction checks generalizing index with
  | nil => simp [failuresFrom]
  | cons check rest ih =>
    rw [failuresFrom, List.mem_append, Option.mem_toList, Option.map_eq_some_iff, ih]
    constructor
    · rintro (⟨mismatch, given, rfl⟩ | ⟨named, kept, offset, other, numbered, at', given⟩)
      · exact ⟨rfl, rfl, 0, check, rfl, rfl, given⟩
      · exact ⟨named, kept, offset + 1, other, by omega, at', given⟩
    · rintro ⟨rfl, rfl, offset, other, numbered, at', given⟩
      cases offset with
      | zero =>
        obtain rfl : check = other := by simpa using at'
        refine .inl ⟨failure.mismatch, given, ?_⟩
        rw [Nat.add_zero] at numbered
        rw [← numbered]
      | succ offset => exact .inr ⟨rfl, rfl, offset, other, by omega, at', given⟩

theorem failuresFrom_ordered (index : Nat) (checks : List Check) :
    (failuresFrom plugin kind index checks).Pairwise ValidationFailure.Precedes := by
  induction checks generalizing index with
  | nil => exact .nil
  | cons check rest ih =>
    refine List.pairwise_append.mpr ⟨?_, ih (index + 1), ?_⟩
    · cases check.mismatch? with
      | none => exact .nil
      | some mismatch => exact List.pairwise_singleton _ _
    · intro first own second later
      rw [Option.mem_toList, Option.map_eq_some_iff] at own
      obtain ⟨mismatch, -, rfl⟩ := own
      obtain ⟨-, kept, offset, -, numbered, -⟩ := mem_failuresFrom_iff.mp later
      have behind : index < second.index := by omega
      exact .inr ⟨kept.symm, behind⟩

end

/-! ### Fixtures -/

/-- The failures among checks of all kinds. -/
def failuresAmong (plugin : String) (checks : ExampleKind → List Check) :
    List ValidationFailure :=
  ExampleKind.all.flatMap fun kind => failuresFrom plugin kind 0 (checks kind)

theorem mem_failuresAmong_iff {plugin : String} {checks : ExampleKind → List Check}
    {failure : ValidationFailure} :
    failure ∈ failuresAmong plugin checks ↔
      failure.plugin = plugin ∧ ∃ check, (checks failure.kind)[failure.index]? = some check ∧
        check.mismatch? = some failure.mismatch := by
  simp only [failuresAmong, List.mem_flatMap, mem_failuresFrom_iff, Nat.zero_add]
  constructor
  · rintro ⟨_, -, named, rfl, _, check, rfl, at', given⟩
    exact ⟨named, check, at', given⟩
  · rintro ⟨named, check, at', given⟩
    exact ⟨_, ExampleKind.mem_all _, named, rfl, _, check, rfl, at', given⟩

theorem failuresAmong_ordered (plugin : String) (checks : ExampleKind → List Check) :
    (failuresAmong plugin checks).Pairwise ValidationFailure.Precedes := by
  have ranked : ExampleKind.all.Pairwise (·.rank < ·.rank) := by decide
  refine List.pairwise_flatMap.mpr ⟨fun kind _ => failuresFrom_ordered 0 (checks kind), ?_⟩
  refine ranked.imp fun earlier first inside second behind => ?_
  obtain ⟨-, rfl, -⟩ := mem_failuresFrom_iff.mp inside
  obtain ⟨-, rfl, -⟩ := mem_failuresFrom_iff.mp behind
  exact .inl earlier

theorem adds_recordExamples (fixture : Fixture) (ofMatch : FieldExample → Check)
    (ofScript : ScriptExample → Check) (ofModular : ModularExample → Check)
    (ofIndicator : FieldExample → Check) :
    let checks := fixture.checksBy ofMatch ofScript ofModular ofIndicator
    Adds (recordExamples fixture ofMatch ofScript ofModular ofIndicator)
      (∃ kind, .error .deadlineOverflow ∈ checks kind)
      ⟨fixture.exampleCount, failuresAmong fixture.plugin checks⟩ := by
  intro checks
  have whole := (adds_recordFrom fixture.plugin .matchers ofMatch 0 fixture.matchers).followedBy <|
    (adds_recordFrom fixture.plugin .scripts ofScript 0 fixture.scripts).followedBy <|
    (adds_recordFrom fixture.plugin .modularMatchers ofModular 0
      fixture.modularMatchers).followedBy <|
    adds_recordFrom fixture.plugin .indicators ofIndicator 0 fixture.indicators
  refine whole.congr ExampleKind.exists_iff ?_
  simp only [append_eq, Fixture.exampleCount, failuresAmong, ExampleKind.all, Nat.add_assoc,
    List.flatMap_cons, List.flatMap_nil, List.append_nil, checks, Fixture.checksBy]

section

variable (validator : Validator) (engine : ScriptEngine)

/-- The checks of the examples of a fixture. None of a plugin that is not in the catalog is
accepted. -/
def checks (fixture : Fixture) : ExampleKind → List Check :=
  match validator.catalog.get? fixture.plugin with
  | none => fixture.checksBy unknown unknown unknown unknown
  | some plugin =>
    fixture.checksBy plugin.checkMatch (plugin.checkScript engine validator.probe)
      plugin.checkModular plugin.checkIndicator

/-- A list of failures accounts for a fixture: it names the examples that are not accepted, each
once and with the reason, in the order in which they are checked. -/
structure Accounts (fixture : Fixture) (failures : List ValidationFailure) : Prop where
  ordered : failures.Pairwise ValidationFailure.Precedes
  mem_iff : ∀ failure, failure ∈ failures ↔
    failure.plugin = fixture.plugin ∧ ∃ check,
      (validator.checks engine fixture failure.kind)[failure.index]? = some check ∧
        check.mismatch? = some failure.mismatch

/-- A check of the fixture does not come back. -/
def Aborts (fixture : Fixture) : Prop :=
  ∃ kind, .error .deadlineOverflow ∈ validator.checks engine fixture kind

end

end Validator

theorem Plugin.checkScript_aborts_iff {plugin : Plugin} {engine : ScriptEngine}
    {probe : ScriptProbe} {given : ScriptExample} :
    plugin.checkScript engine probe given = .error .deadlineOverflow ↔
      probe.probe engine [given.script] plugin.scriptMatchers = .error .deadlineOverflow := by
  cases probed : probe.probe engine [given.script] plugin.scriptMatchers with
  | error failure =>
    simp [checkScript, ScriptProbe.probeAsserted, probed, bind, Except.bind]
  | ok outcome =>
    cases outcome <;>
      simp [checkScript, ScriptProbe.probeAsserted, ScriptProbe.asserted, probed, bind, Except.bind,
        pure, Except.pure]

namespace Validator

open ValidationReport (append_eq empty_append)

variable {validator : Validator} {engine : ScriptEngine} {fixture : Fixture}

/-- Of all checks those of scripts alone abort, and those only if the script is to be evaluated and
the time limit ends at a time that the clock, of 2^63 seconds, cannot show. -/
theorem aborts_iff :
    validator.Aborts engine fixture ↔
      2 ^ 63 * 1000000000 ≤ engine.now.total + validator.probe.limits.timeLimit.total ∧
        ∃ plugin, validator.catalog.get? fixture.plugin = some plugin ∧
          plugin.scriptMatchers ≠ [] ∧ ∃ given ∈ fixture.scripts,
            ScriptProbe.totalBytes [given.script] ≤ validator.probe.limits.maxScriptBytes := by
  rw [Aborts, ExampleKind.exists_iff]
  unfold checks
  cases validator.catalog.get? fixture.plugin with
  | none => simp [Fixture.checksBy, unknown]
  | some plugin =>
    simp only [Fixture.checksBy, List.mem_map, plugin.checkMatch_eq_error_iff,
      plugin.checkIndicator_eq_error_iff, plugin.checkModular_eq, Plugin.checkScript_aborts_iff,
      ScriptProbe.probe_aborts_iff, Duration.reachableFrom_iff, Nat.not_lt, reduceCtorEq, false_and,
      and_false, exists_false, or_false, false_or, Option.some.injEq, exists_eq_left']
    constructor
    · rintro ⟨given, member, scripted, short, beyond⟩
      exact ⟨beyond, scripted, given, member, short⟩
    · rintro ⟨beyond, scripted, given, member, short⟩
      exact ⟨given, member, scripted, short, beyond⟩

theorem adds_recordFixture (fixture : Fixture) :
    Adds (validator.recordFixture engine · fixture) (validator.Aborts engine fixture)
      ⟨fixture.exampleCount, failuresAmong fixture.plugin (validator.checks engine fixture)⟩ := by
  unfold recordFixture Aborts checks
  cases validator.catalog.get? fixture.plugin with
  | none => exact adds_recordExamples ..
  | some plugin => exact adds_recordExamples ..

theorem adds_foldlM (validator : Validator) (engine : ScriptEngine) (fixtures : List Fixture) :
    Adds (fixtures.foldlM (validator.recordFixture engine) ·)
      (∃ fixture ∈ fixtures, validator.Aborts engine fixture)
      ⟨(fixtures.map Fixture.exampleCount).sum,
        fixtures.flatMap fun fixture =>
          failuresAmong fixture.plugin (validator.checks engine fixture)⟩ := by
  induction fixtures with
  | nil => exact Adds.nothing.congr (by simp) rfl
  | cons fixture rest ih =>
    simp only [List.foldlM_cons]
    refine ((adds_recordFixture fixture).followedBy ih).congr ?_ ?_
    · rw [List.exists_mem_cons_iff]
    · rw [append_eq, List.map_cons, List.sum_cons, List.flatMap_cons]

/-- The report of a validation adds up the examples of all fixtures, those of unknown plugins
included, and accounts for one fixture after the other: a check that fails is listed, and the checks
behind it go on. Fixtures may be checked in two runs as well as in one. There is a report unless a
check does not come back. -/
theorem validate_accounts (validator : Validator) (engine : ScriptEngine) :
    (∀ fixtures,
      (¬ ∃ fixture ∈ fixtures, validator.Aborts engine fixture) ∧
        (∃ parts : List (List ValidationFailure),
          List.Forall₂ (validator.Accounts engine) fixtures parts ∧
          validator.validate engine fixtures =
            .ok ⟨(fixtures.map Fixture.exampleCount).sum, parts.flatten⟩) ∨
      (∃ fixture ∈ fixtures, validator.Aborts engine fixture) ∧
        validator.validate engine fixtures = .error .deadlineOverflow) ∧
    (∀ first second, validator.validate engine (first ++ second) = do
      let before ← validator.validate engine first
      let after ← validator.validate engine second
      return ⟨before.checked + after.checked, before.failures ++ after.failures⟩) ∧
    ∀ fixture, validator.Aborts engine fixture ↔
      2 ^ 63 * 1000000000 ≤ engine.now.total + validator.probe.limits.timeLimit.total ∧
        ∃ plugin, validator.catalog.get? fixture.plugin = some plugin ∧
          plugin.scriptMatchers ≠ [] ∧ ∃ given ∈ fixture.scripts,
            ScriptProbe.totalBytes [given.script] ≤ validator.probe.limits.maxScriptBytes := by
  have run (fixtures : List Fixture) := adds_foldlM validator engine fixtures
  refine ⟨fun fixtures => ?_, fun first second => ?_, fun _ => aborts_iff⟩
  · by_cases aborted : ∃ fixture ∈ fixtures, validator.Aborts engine fixture
    · exact .inr ⟨aborted, (run fixtures).aborted _ aborted⟩
    · refine .inl ⟨aborted, fixtures.map fun fixture =>
        failuresAmong fixture.plugin (validator.checks engine fixture), ?_, ?_⟩
      · rw [List.forall₂_map_right_iff, List.forall₂_same]
        exact fun fixture _ => ⟨failuresAmong_ordered _ _, fun _ => mem_failuresAmong_iff⟩
      · rw [validate, (run fixtures).completed _ aborted, empty_append, List.flatMap_def]
  · rw [validate, List.foldlM_append]
    show (validator.validate engine first >>= fun before => _) = _
    cases validator.validate engine first with
    | error failure => rfl
    | ok before =>
      have onward : second.foldlM (validator.recordFixture engine) before =
          (validator.validate engine second).map (before ++ ·) := (run second).eq_map before
      simp only [bind, Except.bind, onward]
      cases validator.validate engine second <;> rfl

/-- An unknown plugin and checks that fail are listed, and the examples behind them are checked. -/
example :
    let validator : Validator := ⟨.insert .empty (DigitPage.plugin []), ⟨.standard⟩⟩
    let undeclared : Sample := ⟨none, none, none⟩
    let strange : Fixture := ⟨"strange", [], [⟨"1", "1"⟩], [], []⟩
    let digits : Fixture :=
      ⟨"digits", [⟨undeclared, some "2"⟩, ⟨DigitPage.sample, some "2"⟩], [⟨"1", "1"⟩], [], []⟩
    validator.validate Script.engine [strange, digits] = .ok ⟨4, [
      ⟨"strange", .scripts, 0, .pluginUnknown⟩,
      ⟨"digits", .matchers, 0, .failed .sampleEmpty⟩,
      ⟨"digits", .scripts, 0, .failed (.scriptsUnresolved "digits")⟩]⟩ := by
  cbv

end Validator

end Fingerprint
