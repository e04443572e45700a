import Fingerprint.Plugin.Compile
import Mathlib.Data.List.Basic

/-!
What is wrong with a plugin, and which of it is reported.

Each violation is judged by itself, whatever else is wrong with the plugin, and the violations are
listed in the order of the document. A plugin is compiled if nothing is wrong with it; otherwise it
is refused for the first entry of the list.
-/

set_option autoImplicit false

namespace Fingerprint

/-- The regular expression of a header's name, which has to match the whole name in any case. -/
def Regex.compileName (pattern : String) : Except Regex.SyntaxError Regex :=
  Regex.compileWith true ("^(?:" ++ pattern ++ ")$")

theorem exists_of_bind_eq_ok {α β : Type} {outcome : Except Failure α}
    {next : α → Except Failure β} {value : β} (succeeded : (outcome >>= next) = .ok value) :
    ∃ first, outcome = .ok first ∧ next first = .ok value := by
  cases outcome with
  | error failure => cases succeeded
  | ok first => exact ⟨first, rfl, succeeded⟩

/-! ### The first of several failures -/

theorem ite_singleton_eq_nil_iff {α : Type} {condition : Prop} [Decidable condition] {item : α} :
    (if condition then [item] else []) = [] ↔ ¬ condition := by
  simp only [ite_eq_right_iff, List.cons_ne_nil, imp_false]

/-- Whether the outcome is a value if nothing is listed, and otherwise the first failure listed. -/
def FailsFirst (violations : List Failure) {α : Type} : Except Failure α → Prop
  | .ok _ => violations = []
  | .error failure => violations.head? = some failure

namespace FailsFirst

variable {α β : Type} {first second : List Failure} {outcome : Except Failure α}

theorem ok (value : α) : FailsFirst [] (.ok value) := rfl

theorem error (failure : Failure) (rest : List Failure) :
    FailsFirst (failure :: rest) (.error failure : Except Failure α) := rfl

/-- A check that refuses on the condition that is listed. -/
theorem guard {listed checked : Prop} [Decidable listed] [Decidable checked]
    (agree : checked ↔ listed) (failure : Failure) (value : α) :
    FailsFirst (if listed then [failure] else [])
      (if checked then .error failure else .ok value) := by
  by_cases refused : listed
  · rw [if_pos refused, if_pos (agree.mpr refused)]
    exact error failure []
  · rw [if_neg refused, if_neg (mt agree.mp refused)]
    exact ok value

/-- What comes later counts only if nothing is wrong before. -/
theorem bind {next : α → Except Failure β} (now : FailsFirst first outcome)
    (later : ∀ value, outcome = .ok value → FailsFirst second (next value)) :
    FailsFirst (first ++ second) (outcome >>= next) := by
  cases outcome with
  | error failure =>
    have reported : first.head? = some failure := now
    change (first ++ second).head? = some failure
    rw [List.head?_append, reported, Option.some_or]
  | ok value =>
    have clean : first = [] := now
    rw [clean, List.nil_append]
    exact later value rfl

/-- A value that is built from another fails as that one does. -/
theorem bind_ok (build : α → β) (fails : FailsFirst first outcome) :
    FailsFirst first (outcome >>= fun value => .ok (build value)) := by
  rw [← List.append_nil first]
  exact fails.bind fun _ _ => ok _

theorem mapM {violations : α → List Failure} {next : α → Except Failure β}
    (each : ∀ item, FailsFirst (violations item) (next item)) (items : List α) :
    FailsFirst (items.flatMap violations) (items.mapM next) := by
  induction items with
  | nil => exact ok []
  | cons item rest ih =>
    rw [List.flatMap_cons, List.mapM_cons]
    exact (each item).bind fun _ _ => ih.bind_ok _

theorem exists_ok_iff (fails : FailsFirst first outcome) :
    (∃ value, outcome = .ok value) ↔ first = [] := by
  cases outcome with
  | error failure =>
    have reported : first.head? = some failure := fails
    refine ⟨nofun, fun clean => ?_⟩
    rw [clean] at reported
    cases reported
  | ok value => exact ⟨fun _ => fails, fun _ => ⟨value, rfl⟩⟩

theorem eq_error_iff (fails : FailsFirst first outcome) {failure : Failure} :
    outcome = .error failure ↔ first.head? = some failure := by
  cases outcome with
  | error other =>
    have reported : first.head? = some other := fails
    rw [reported, Except.error.injEq, Option.some.injEq]
  | ok value =>
    have clean : first = [] := fails
    rw [clean]
    exact ⟨nofun, nofun⟩

end FailsFirst

namespace Plugin

/-! ### The violations of a matcher -/

namespace MatcherSpec

variable (spec : MatcherSpec)

/-- The pattern of a header's name, where headers are looked at. -/
def headerName? (field : Field) : Option String :=
  if field = .header then some (spec.header.getD spec.pattern) else none

/-- Whether the pattern is that of a header's name: headers are looked at and none is named. -/
def readsNames (field : Field) : Bool := field = .header && spec.header.isNone

/-- The regular expression whose groups are captured. -/
def capturing (field : Field) : Except Regex.SyntaxError Regex :=
  if spec.readsNames field then Regex.compileName spec.pattern
  else Regex.compile spec.pattern

/-- Whether the matcher has to yield a text but cannot, by the number of its groups: there are none,
a template has nothing to refer to or no group is asked for, and no name stands in for the text. -/
def LacksText (category : Category) (regex : Regex) : Prop :=
  category ≠ .indicators ∧ regex.groupCount = 0 ∧ (spec.template.isSome ∨ spec.group = none) ∧
    ¬ (category = .modularMatchers ∧ spec.name.isSome)

instance (category : Category) (regex : Regex) : Decidable (spec.LacksText category regex) :=
  inferInstanceAs (Decidable (_ ∧ _ ∧ _ ∧ _))

/-- Whether everything about the matcher but its text is in order. -/
structure Readable (field : Field) (regex : Regex) : Prop where
  header : spec.header.isSome → field = .header
  name : ∀ pattern, spec.headerName? field = some pattern →
    ∃ name, Regex.compileName pattern = .ok name
  pattern : spec.capturing field = .ok regex
  group : spec.template = none → ∀ index, spec.group = some index →
    index.toNat ≤ regex.groupCount

/-- The failure of a pattern that is no regular expression, with its text as written. -/
def malformed (plugin pattern : String) : Except Regex.SyntaxError Regex → List Failure
  | .ok _ => []
  | .error cause => [.patternMalformed plugin pattern cause]

/-- Another field that names a header. -/
def headerViolations (plugin : String) (field : Field) : List Failure :=
  if field ≠ .header ∧ spec.header.isSome then [.headerMisplaced plugin field spec.pattern] else []

def nameViolations (plugin : String) (field : Field) : List Failure :=
  match spec.headerName? field with
  | some name => malformed plugin name (Regex.compileName name)
  | none => []

/-- The pattern of a text, or of a header's value. -/
def patternViolations (plugin : String) (field : Field) : List Failure :=
  if spec.readsNames field then [] else malformed plugin spec.pattern (Regex.compile spec.pattern)

/-- A group that the pattern does not have; it does not matter if there is a template. -/
def groupViolations (plugin : String) (field : Field) : List Failure :=
  match spec.capturing field, spec.template, spec.group with
  | .ok regex, none, some index =>
    if regex.groupCount < index.toNat then
      [.captureOutOfRange plugin spec.pattern index.toNat regex.groupCount]
    else []
  | _, _, _ => []

def textViolations (plugin : String) (field : Field) (category : Category) : List Failure :=
  match spec.capturing field with
  | .ok regex =>
    if spec.LacksText category regex then [.captureMissing plugin category spec.pattern] else []
  | .error _ => []

/-- What is wrong with the matcher, in the order in which it counts. -/
def violations (plugin : String) (field : Field) (category : Category) : List Failure :=
  spec.headerViolations plugin field ++ (spec.nameViolations plugin field ++
    (spec.patternViolations plugin field ++ (spec.groupViolations plugin field ++
      spec.textViolations plugin field category)))

variable {spec} {field : Field} {regex : Regex}

theorem malformed_eq_nil_iff {plugin pattern : String} {outcome : Except Regex.SyntaxError Regex} :
    malformed plugin pattern outcome = [] ↔ ∃ regex, outcome = .ok regex := by
  cases outcome with
  | error cause => exact ⟨nofun, nofun⟩
  | ok regex => exact ⟨fun _ => ⟨regex, rfl⟩, fun _ => rfl⟩

theorem headerViolations_eq_nil_iff {plugin : String} :
    spec.headerViolations plugin field = [] ↔ (spec.header.isSome → field = .header) := by
  rw [headerViolations, ite_singleton_eq_nil_iff, not_and', not_ne_iff]

theorem nameViolations_eq_nil_iff {plugin : String} :
    spec.nameViolations plugin field = [] ↔ ∀ pattern, spec.headerName? field = some pattern →
      ∃ name, Regex.compileName pattern = .ok name := by
  rw [nameViolations]
  cases spec.headerName? field with
  | none => exact ⟨fun _ => nofun, fun _ => rfl⟩
  | some name =>
    refine malformed_eq_nil_iff.trans ⟨fun compiles pattern same => ?_, fun compiles => ?_⟩
    · cases same
      exact compiles
    · exact compiles name rfl

theorem headerName?_of_readsNames (reads : spec.readsNames field) :
    spec.headerName? field = some spec.pattern := by
  obtain ⟨atHeader, unnamed⟩ := Bool.and_eq_true_iff.mp reads
  rw [headerName?, if_pos (of_decide_eq_true atHeader), Option.isNone_iff_eq_none.mp unnamed,
    Option.getD_none]

/-- If nothing is wrong with the patterns, groups can be captured. -/
theorem patterns_clean_iff {plugin : String} :
    spec.nameViolations plugin field = [] ∧ spec.patternViolations plugin field = [] ↔
      spec.nameViolations plugin field = [] ∧ ∃ regex, spec.capturing field = .ok regex := by
  refine and_congr_right fun clean => ?_
  rw [patternViolations, capturing]
  split
  next reads =>
    -- The name is then the only pattern, and it is known to be in order.
    have compiles := nameViolations_eq_nil_iff.mp clean _ (headerName?_of_readsNames reads)
    exact ⟨fun _ => compiles, fun _ => rfl⟩
  next => exact malformed_eq_nil_iff

theorem groupViolations_eq_nil_iff {plugin : String} (captures : spec.capturing field = .ok regex) :
    spec.groupViolations plugin field = [] ↔
      (spec.template = none → ∀ index, spec.group = some index →
        index.toNat ≤ regex.groupCount) := by
  rw [groupViolations, captures]
  cases spec.template with
  | some template => exact ⟨fun _ => nofun, fun _ => rfl⟩
  | none =>
    cases spec.group with
    | none => exact ⟨fun _ _ => nofun, fun _ => rfl⟩
    | some index =>
      dsimp only
      rw [ite_singleton_eq_nil_iff, Nat.not_lt]
      constructor
      · rintro inRange - _ ⟨⟩
        exact inRange
      · exact fun inRange => inRange rfl index rfl

theorem textViolations_eq_nil_iff {plugin : String} {category : Category}
    (captures : spec.capturing field = .ok regex) :
    spec.textViolations plugin field category = [] ↔ ¬ spec.LacksText category regex := by
  rw [textViolations, captures]
  exact ite_singleton_eq_nil_iff

/-- Nothing is wrong with a matcher if all but its text is in order and it yields one. -/
theorem violations_eq_nil_iff {plugin : String} {category : Category} :
    spec.violations plugin field category = [] ↔
      ∃ regex, spec.Readable field regex ∧ ¬ spec.LacksText category regex := by
  simp only [violations, List.append_eq_nil_iff]
  constructor
  · rintro ⟨header, name, pattern, group, text⟩
    obtain ⟨-, regex, captures⟩ := patterns_clean_iff.mp ⟨name, pattern⟩
    exact ⟨regex, ⟨headerViolations_eq_nil_iff.mp header, nameViolations_eq_nil_iff.mp name, captures,
      (groupViolations_eq_nil_iff captures).mp group⟩, (textViolations_eq_nil_iff captures).mp text⟩
  · rintro ⟨regex, readable, yields⟩
    obtain ⟨name, pattern⟩ := patterns_clean_iff.mpr
      ⟨nameViolations_eq_nil_iff.mpr readable.name, regex, readable.pattern⟩
    exact ⟨headerViolations_eq_nil_iff.mpr readable.header, name, pattern,
      (groupViolations_eq_nil_iff readable.pattern).mpr readable.group,
      (textViolations_eq_nil_iff readable.pattern).mpr yields⟩

/-- All that can be wrong with a readable matcher is that it lacks a text. -/
theorem Readable.violations_eq (readable : spec.Readable field regex) (plugin : String)
    (category : Category) :
    spec.violations plugin field category =
      if spec.LacksText category regex then [.captureMissing plugin category spec.pattern]
      else [] := by
  obtain ⟨name, pattern⟩ := patterns_clean_iff.mpr
    ⟨nameViolations_eq_nil_iff.mpr readable.name, regex, readable.pattern⟩
  rw [violations, headerViolations_eq_nil_iff.mpr readable.header, name, pattern,
    (groupViolations_eq_nil_iff readable.pattern).mpr readable.group, List.nil_append,
    List.nil_append, List.nil_append, List.nil_append, textViolations, readable.pattern]

/-- What a failure says of a matcher: the plugin, and the text at fault as it was written. -/
inductive Blames (plugin : String) (field : Field) (category : Category) (spec : MatcherSpec) :
    Failure → Prop
  | header (other : field ≠ .header) (given : spec.header.isSome) :
    Blames plugin field category spec (.headerMisplaced plugin field spec.pattern)
  | name {pattern : String} {cause : Regex.SyntaxError} (atHeader : field = .header)
    (given : spec.header = some pattern)
    (refused : Regex.compileName pattern = .error cause) :
    Blames plugin field category spec (.patternMalformed plugin pattern cause)
  | pattern {cause : Regex.SyntaxError} (refused : spec.capturing field = .error cause) :
    Blames plugin field category spec (.patternMalformed plugin spec.pattern cause)
  | group {regex : Regex} {index : UInt64} (captures : spec.capturing field = .ok regex)
    (alone : spec.template = none) (asked : spec.group = some index)
    (beyond : regex.groupCount < index.toNat) :
    Blames plugin field category spec
      (.captureOutOfRange plugin spec.pattern index.toNat regex.groupCount)
  | text {regex : Regex} (captures : spec.capturing field = .ok regex)
    (lacks : spec.LacksText category regex) :
    Blames plugin field category spec (.captureMissing plugin category spec.pattern)

theorem mem_malformed_iff {plugin pattern : String} {outcome : Except Regex.SyntaxError Regex}
    {failure : Failure} :
    failure ∈ malformed plugin pattern outcome ↔
      ∃ cause, outcome = .error cause ∧ failure = .patternMalformed plugin pattern cause := by
  cases outcome with
  | ok regex => simp [malformed]
  | error cause => simp [malformed]

theorem blames_of_mem_nameViolations {plugin : String} {category : Category} {failure : Failure}
    (listed : failure ∈ spec.nameViolations plugin field) :
    spec.Blames plugin field category failure := by
  rw [nameViolations, headerName?] at listed
  by_cases atHeader : field = .header
  · rw [if_pos atHeader] at listed
    obtain ⟨cause, refused, rfl⟩ := mem_malformed_iff.mp listed
    cases given : spec.header with
    | some pattern =>
      rw [given] at refused
      exact .name atHeader given refused
    | none =>
      have reads : spec.readsNames field := by
        rw [readsNames, given, decide_eq_true atHeader]
        rfl
      rw [given] at refused
      refine .pattern ?_
      rw [capturing, if_pos reads]
      exact refused
  · rw [if_neg atHeader] at listed
    cases listed

theorem blames_of_mem_patternViolations {plugin : String} {category : Category} {failure : Failure}
    (listed : failure ∈ spec.patternViolations plugin field) :
    spec.Blames plugin field category failure := by
  rw [patternViolations] at listed
  split at listed
  next => cases listed
  next other =>
    obtain ⟨cause, refused, rfl⟩ := mem_malformed_iff.mp listed
    refine .pattern ?_
    rw [capturing, if_neg other]
    exact refused

theorem blames_of_mem_groupViolations {plugin : String} {category : Category} {failure : Failure}
    (listed : failure ∈ spec.groupViolations plugin field) :
    spec.Blames plugin field category failure := by
  rw [groupViolations] at listed
  split at listed
  next regex index captures alone asked =>
    obtain ⟨beyond, same⟩ := List.mem_ite_nil_right.mp listed
    rw [List.mem_singleton.mp same]
    exact .group captures alone asked beyond
  next => cases listed

theorem blames_of_mem_textViolations {plugin : String} {category : Category} {failure : Failure}
    (listed : failure ∈ spec.textViolations plugin field category) :
    spec.Blames plugin field category failure := by
  rw [textViolations] at listed
  split at listed
  next regex captures =>
    obtain ⟨lacks, same⟩ := List.mem_ite_nil_right.mp listed
    rw [List.mem_singleton.mp same]
    exact .text captures lacks
  next => cases listed

/-- Each violation names the plugin and what is at fault. -/
theorem blames_of_mem_violations {plugin : String} {category : Category} {failure : Failure}
    (listed : failure ∈ spec.violations plugin field category) :
    spec.Blames plugin field category failure := by
  simp only [violations, List.mem_append] at listed
  obtain header | name | pattern | group | text := listed
  · obtain ⟨⟨other, given⟩, same⟩ := List.mem_ite_nil_right.mp header
    rw [List.mem_singleton.mp same]
    exact .header other given
  · exact blames_of_mem_nameViolations name
  · exact blames_of_mem_patternViolations pattern
  · exact blames_of_mem_groupViolations group
  · exact blames_of_mem_textViolations text

end MatcherSpec

/-! ### Compiling a matcher -/

/-- The pattern whose groups are captured. -/
def Target.capturing : Target → Regex
  | .text pattern => pattern
  | .header _ (some value) => value
  | .header name none => name

theorem failsFirst_mapError (plugin pattern : String) (outcome : Except Regex.SyntaxError Regex) :
    FailsFirst (MatcherSpec.malformed plugin pattern outcome)
      (outcome.mapError (.patternMalformed plugin pattern)) := by
  cases outcome with
  | error cause => exact .error _ []
  | ok regex => exact .ok regex

section

variable {plugin : String} {field : Field} {spec : MatcherSpec}

theorem compileTarget_failsFirst (plugin : String) (field : Field) (spec : MatcherSpec) :
    FailsFirst (spec.headerViolations plugin field ++ (spec.nameViolations plugin field ++
      spec.patternViolations plugin field)) (compileTarget plugin field spec) := by
  obtain ⟨pattern, header, name, group, template⟩ := spec
  cases header with
  | none =>
    cases field with
    | header =>
      change FailsFirst (MatcherSpec.malformed plugin pattern _ ++ []) _
      exact (failsFirst_mapError plugin pattern _).bind fun _ _ => .ok _
    | url | body =>
      exact (failsFirst_mapError plugin pattern _).bind_ok _
  | some header =>
    cases field with
    | header =>
      exact (failsFirst_mapError plugin header _).bind fun _ _ =>
        (failsFirst_mapError plugin pattern _).bind_ok _
    | url | body => exact .error _ _

theorem ok_of_mapError {ε : Type} {report : ε → Failure} {α : Type} {outcome : Except ε α}
    {value : α} (succeeded : outcome.mapError report = .ok value) : outcome = .ok value := by
  cases outcome with
  | error fault => cases succeeded
  | ok other =>
    cases succeeded
    rfl

/-- What a matcher is applied to, and which pattern captures, is as the matcher says. -/
theorem capturing_of_compileTarget {target : Target} {regex : Regex}
    (compiled : compileTarget plugin field spec = .ok (target, regex)) :
    spec.capturing field = .ok regex ∧ target.capturing = regex := by
  obtain ⟨pattern, header, name, group, template⟩ := spec
  cases header with
  | none =>
    cases field with
    | header | url | body =>
      obtain ⟨made, compiles, built⟩ := exists_of_bind_eq_ok compiled
      cases built
      exact ⟨ok_of_mapError compiles, rfl⟩
  | some header =>
    cases field with
    | header =>
      obtain ⟨_, _, compiled⟩ := exists_of_bind_eq_ok compiled
      obtain ⟨made, compiles, built⟩ := exists_of_bind_eq_ok compiled
      cases built
      exact ⟨ok_of_mapError compiles, rfl⟩
    | url | body => cases compiled

theorem compileCapture_failsFirst {regex : Regex} (captures : spec.capturing field = .ok regex) :
    FailsFirst (spec.groupViolations plugin field)
      (compileCapture plugin regex.groupCount spec) := by
  rw [MatcherSpec.groupViolations, captures, compileCapture]
  cases spec.template with
  | some template => exact .ok _
  | none =>
    cases spec.group with
    | none => exact .ok _
    | some index => exact .guard Iff.rfl _ _

/-- By the rule that it was given, a matcher yields no text if its pattern has no groups and there
is a template or no group is asked for. -/
theorem yieldsText_of_compileCapture {available : Nat} {capture : CaptureRule}
    (compiled : compileCapture plugin available spec = .ok capture) :
    capture.yieldsText available = false ↔
      available = 0 ∧ (spec.template.isSome ∨ spec.group = none) := by
  rw [compileCapture] at compiled
  cases given : spec.template with
  | some template =>
    rw [given] at compiled
    cases compiled
    simp [CaptureRule.yieldsText]
  | none =>
    cases asked : spec.group with
    | some index =>
      rw [given, asked] at compiled
      dsimp only at compiled
      split at compiled
      · cases compiled
      · cases compiled
        simp [CaptureRule.yieldsText]
    | none =>
      rw [given, asked] at compiled
      cases compiled
      by_cases grouped : 0 < available
      · simp [CaptureRule.yieldsText, grouped, Nat.ne_of_gt grouped]
      · simp [CaptureRule.yieldsText, Nat.eq_zero_of_not_pos grouped]

theorem requiresText_iff {category : Category} :
    category.requiresText ↔ category ≠ .indicators := by
  cases category <;> simp [Category.requiresText]

theorem refuses_iff_lacksText (category : Category) {regex : Regex} {capture : CaptureRule}
    (compiled : compileCapture plugin regex.groupCount spec = .ok capture) :
    (category.requiresText && !capture.yieldsText regex.groupCount &&
      !(decide (category = .modularMatchers) && spec.name.isSome)) ↔
      spec.LacksText category regex := by
  simp only [Bool.and_eq_true, requiresText_iff, Bool.not_eq_true',
    yieldsText_of_compileCapture compiled, Bool.and_eq_false_iff, decide_eq_false_iff_not,
    MatcherSpec.LacksText, not_and_or, Bool.not_eq_true, and_assoc]

theorem compileMatcher_failsFirst (plugin : String) (field : Field) (category : Category)
    (spec : MatcherSpec) :
    FailsFirst (spec.violations plugin field category)
      (compileMatcher plugin field category spec) := by
  have grouped : spec.violations plugin field category =
      (spec.headerViolations plugin field ++ (spec.nameViolations plugin field ++
        spec.patternViolations plugin field)) ++ (spec.groupViolations plugin field ++
          spec.textViolations plugin field category) := by
    simp only [MatcherSpec.violations, List.append_assoc]
  rw [grouped]
  refine (compileTarget_failsFirst plugin field spec).bind fun (target, regex) targeted => ?_
  have captures := (capturing_of_compileTarget targeted).1
  refine (compileCapture_failsFirst captures).bind fun capture captured => ?_
  rw [MatcherSpec.textViolations, captures]
  exact .guard (refuses_iff_lacksText category captured) _ _

end

/-! ### The violations of a plugin -/

/-- The matchers of a field and category as written. -/
def Spec.bucket (spec : Spec) (field : Field) (category : Category) : List MatcherSpec :=
  (spec.matchers.get category).get field

namespace ScriptMatcher

/-- Whether one of the expressions is blank. -/
def IsBlank (matcher : ScriptMatcher) : Prop :=
  Text.isBlankText matcher.check ∨ Text.isBlankText matcher.version

instance (matcher : ScriptMatcher) : Decidable matcher.IsBlank :=
  inferInstanceAs (Decidable (_ ∨ _))

def violations (plugin : String) (matcher : ScriptMatcher) : List Failure :=
  if matcher.IsBlank then [.scriptBlank plugin] else []

theorem violations_eq_nil_iff {plugin : String} {matcher : ScriptMatcher} :
    matcher.violations plugin = [] ↔ ¬ matcher.IsBlank :=
  ite_singleton_eq_nil_iff

end ScriptMatcher

namespace Spec

def nameViolations (spec : Spec) : List Failure :=
  if Text.trim spec.name = "" then [.nameBlank] else []

/-- What is wrong with the plugin, in the order of the document: its name, its matchers by category
and field, its script matchers. -/
def violations (spec : Spec) : List Failure :=
  let plugin := Text.trim spec.name
  spec.nameViolations ++
    ((Category.all.flatMap fun category => Field.all.flatMap fun field =>
      (spec.bucket field category).flatMap fun matcher =>
        matcher.violations plugin field category) ++
    spec.scriptMatchers.flatMap fun matcher => matcher.violations plugin)

end Spec

theorem compileMatchers_failsFirst (plugin : String) (category : Category)
    (specs : PerField MatcherSpec) :
    FailsFirst (Field.all.flatMap fun field => (specs.get field).flatMap fun matcher =>
      matcher.violations plugin field category) (compileMatchers plugin category specs) := by
  have each (field : Field) := FailsFirst.mapM (compileMatcher_failsFirst plugin field category)
  exact (each .url specs.url).bind fun _ _ => (each .body specs.body).bind fun _ _ =>
    (each .header specs.header).bind fun _ _ => .ok _

theorem compileScriptMatcher_failsFirst (plugin : String) (matcher : ScriptMatcher) :
    FailsFirst (matcher.violations plugin) (compileScriptMatcher plugin matcher) :=
  .guard Bool.or_eq_true_iff _ _

theorem compile_failsFirst (spec : Spec) : FailsFirst spec.violations (compile spec) := by
  have matchers (category : Category) := compileMatchers_failsFirst (Text.trim spec.name) category
    (spec.matchers.get category)
  have scripts := FailsFirst.mapM (compileScriptMatcher_failsFirst (Text.trim spec.name))
    spec.scriptMatchers
  rw [compile, Spec.violations, Spec.nameViolations]
  -- A blank name hides whatever else is wrong.
  by_cases blank : Text.trim spec.name = ""
  · rw [if_pos blank, if_pos (String.isEmpty_iff.mpr blank)]
    exact .error _ _
  · rw [if_neg blank, if_neg (mt String.isEmpty_iff.mp blank), List.nil_append]
    -- The list follows the binds of the compilation, one category after the other.
    have listed : (Category.all.flatMap fun category => Field.all.flatMap fun field =>
        (spec.bucket field category).flatMap fun matcher =>
          matcher.violations (Text.trim spec.name) field category) = _ ++ (_ ++ (_ ++ [])) := rfl
    rw [listed]
    simp only [List.append_assoc, List.nil_append]
    exact (matchers .matchers).bind fun _ _ => (matchers .modularMatchers).bind fun _ _ =>
      (matchers .indicators).bind fun _ _ => scripts.bind_ok _

/-- How a valid plugin comes from what was written. -/
structure CompiledFrom (spec : Spec) (plugin : Plugin) : Prop where
  name : plugin.name = Text.trim spec.name
  named : plugin.name ≠ ""
  homepage : plugin.homepage = spec.homepage
  tags : plugin.tags = spec.tags
  matchers (category : Category) :
    compileMatchers (Text.trim spec.name) category (spec.matchers.get category) =
      .ok (plugin.matchers.get category)
  scriptMatchers :
    spec.scriptMatchers.mapM (compileScriptMatcher (Text.trim spec.name)) =
      .ok plugin.scriptMatchers

theorem compiledFrom_of_compile {spec : Spec} {plugin : Plugin}
    (compiled : compile spec = .ok plugin) : CompiledFrom spec plugin := by
  unfold compile at compiled
  dsimp only at compiled
  split at compiled
  · cases compiled
  next named =>
    obtain ⟨matchers, made, compiled⟩ := exists_of_bind_eq_ok compiled
    obtain ⟨modularMatchers, modularMade, compiled⟩ := exists_of_bind_eq_ok compiled
    obtain ⟨indicators, indicated, compiled⟩ := exists_of_bind_eq_ok compiled
    obtain ⟨scriptMatchers, scripts, compiled⟩ := exists_of_bind_eq_ok compiled
    cases compiled
    refine ⟨rfl, fun blank => named (String.isEmpty_iff.mpr blank), rfl, rfl, ?_, scripts⟩
    intro category
    cases category with
    | matchers => exact made
    | modularMatchers => exact modularMade
    | indicators => exact indicated

/-- A failure that names the plugin without white space at the ends of its name, and what is at
fault: a script matcher with a blank expression, or a matcher as it was written. -/
def Spec.Blames (spec : Spec) (failure : Failure) : Prop :=
  (failure = .scriptBlank (Text.trim spec.name) ∧ ∃ matcher ∈ spec.scriptMatchers, matcher.IsBlank) ∨
    ∃ category field, ∃ matcher ∈ spec.bucket field category,
      matcher.Blames (Text.trim spec.name) field category failure

namespace Spec

variable {spec : Spec} {failure : Failure}

theorem violations_eq_nil_iff :
    spec.violations = [] ↔
      Text.trim spec.name ≠ "" ∧
      (∀ category field, ∀ matcher ∈ spec.bucket field category,
        ∃ regex, matcher.Readable field regex ∧ ¬ matcher.LacksText category regex) ∧
      ∀ matcher ∈ spec.scriptMatchers, ¬ matcher.IsBlank := by
  simp only [violations, List.append_eq_nil_iff, List.flatMap_eq_nil_iff,
    MatcherSpec.violations_eq_nil_iff, ScriptMatcher.violations_eq_nil_iff, nameViolations,
    ite_singleton_eq_nil_iff, Category.mem_all, Field.mem_all, true_implies, ne_eq]

theorem mem_violations (listed : failure ∈ spec.violations) :
    (failure = .nameBlank ∧ Text.trim spec.name = "") ∨ spec.Blames failure := by
  simp only [violations, List.mem_append, List.mem_flatMap] at listed
  obtain blank | ⟨category, -, field, -, matcher, member, listed⟩ | ⟨matcher, member, listed⟩ :=
    listed
  · obtain ⟨blank, same⟩ := List.mem_ite_nil_right.mp blank
    exact .inl ⟨List.mem_singleton.mp same, blank⟩
  · exact .inr (.inr ⟨category, field, matcher, member,
      MatcherSpec.blames_of_mem_violations listed⟩)
  · obtain ⟨blank, same⟩ := List.mem_ite_nil_right.mp listed
    exact .inr (.inl ⟨List.mem_singleton.mp same, matcher, member, blank⟩)

end Spec

theorem blames_of_compile {spec : Spec} {failure : Failure}
    (refused : compile spec = .error failure) :
    (failure = .nameBlank ∧ Text.trim spec.name = "") ∨ spec.Blames failure :=
  Spec.mem_violations (List.mem_of_head? ((compile_failsFirst spec).eq_error_iff.mp refused))

/-- A plugin is compiled if it has a name, each of its matchers is in order by itself and no script
expression is blank. Otherwise the failure is the first violation in the order of the document, and
it names the plugin and what is at fault unless the name itself is blank. -/
theorem compile_reports_first (spec : Spec) :
    ((∃ plugin, compile spec = .ok plugin) ↔
      Text.trim spec.name ≠ "" ∧
      (∀ category field, ∀ matcher ∈ spec.bucket field category,
        ∃ regex, matcher.Readable field regex ∧ ¬ matcher.LacksText category regex) ∧
      ∀ matcher ∈ spec.scriptMatchers, ¬ matcher.IsBlank) ∧
    (∀ failure, compile spec = .error failure ↔ spec.violations.head? = some failure) ∧
    ∀ failure, compile spec = .error failure →
      (failure = .nameBlank ∧ Text.trim spec.name = "") ∨ spec.Blames failure := by
  have fails := compile_failsFirst spec
  exact ⟨fails.exists_ok_iff.trans Spec.violations_eq_nil_iff, fun failure => fails.eq_error_iff,
    fun failure refused => blames_of_compile refused⟩

/-! ### Matchers that lack a text -/

namespace Spec

variable {spec : Spec}

theorem bucket_withMatcher (spec : Spec) (category : Category) (field : Field)
    (matcher : MatcherSpec) (otherField : Field) (otherCategory : Category) :
    (spec.withMatcher category field matcher).bucket otherField otherCategory =
      spec.bucket otherField otherCategory ++
        if otherCategory = category ∧ otherField = field then [matcher] else [] := by
  cases category with
  | matchers | modularMatchers | indicators =>
    cases otherCategory with
    | matchers | modularMatchers | indicators =>
      cases field <;> cases otherField <;>
        simp [bucket, withMatcher, PerCategory.modify, PerCategory.get, PerField.modify, PerField.get]

/-- All that can be wrong with a valid plugin to which a matcher is added is the matcher. -/
theorem violations_withMatcher (clean : spec.violations = []) (category : Category) (field : Field)
    (matcher : MatcherSpec) :
    (spec.withMatcher category field matcher).violations =
      matcher.violations (Text.trim spec.name) field category := by
  simp only [violations, List.append_eq_nil_iff, List.flatMap_eq_nil_iff, Category.mem_all,
    Field.mem_all, true_implies] at clean
  obtain ⟨named, matchers, scripts⟩ := clean
  have added (otherCategory : Category) (otherField : Field) :
      ((spec.withMatcher category field matcher).bucket otherField otherCategory).flatMap
          (fun other => other.violations (Text.trim spec.name) otherField otherCategory) =
        if otherCategory = category ∧ otherField = field then
          matcher.violations (Text.trim spec.name) otherField otherCategory
        else [] := by
    rw [bucket_withMatcher, List.flatMap_append,
      List.flatMap_eq_nil_iff.mpr (matchers otherCategory otherField), List.nil_append]
    split
    · exact List.flatMap_singleton _ _
    · rfl
  have kept : (spec.withMatcher category field matcher).violations = spec.nameViolations ++
      ((Category.all.flatMap fun otherCategory => Field.all.flatMap fun otherField =>
        if otherCategory = category ∧ otherField = field then
          matcher.violations (Text.trim spec.name) otherField otherCategory
        else []) ++ spec.scriptMatchers.flatMap fun other =>
          other.violations (Text.trim spec.name)) := by
    simp only [← added]
    rfl
  rw [kept, named, List.flatMap_eq_nil_iff.mpr scripts]
  cases category with
  | matchers | modularMatchers | indicators =>
    cases field <;> simp [Category.all, Field.all]

end Spec

theorem compile_withMatcher {spec : Spec} {plugin : Plugin} (valid : compile spec = .ok plugin)
    {field : Field} {matcher : MatcherSpec} {regex : Regex}
    (readable : matcher.Readable field regex) (category : Category) :
    FailsFirst
      (if matcher.LacksText category regex then
        [.captureMissing (Text.trim spec.name) category matcher.pattern] else [])
      (compile (spec.withMatcher category field matcher)) := by
  have clean := (compile_failsFirst spec).exists_ok_iff.mp ⟨plugin, valid⟩
  rw [← readable.violations_eq, ← Spec.violations_withMatcher clean]
  exact compile_failsFirst _

theorem lacksText_of_captureMissing {spec : Spec} {name pattern : String} {category : Category}
    (refused : compile spec = .error (.captureMissing name category pattern)) :
    ∃ field, ∃ matcher ∈ spec.bucket field category, matcher.pattern = pattern ∧
      ∃ regex, matcher.capturing field = .ok regex ∧ matcher.LacksText category regex := by
  obtain ⟨other, -⟩ | ⟨other, -⟩ | ⟨_, field, matcher, member, blames⟩ :=
    blames_of_compile refused
  · cases other
  · cases other
  · cases blames with
    | text captures lacks => exact ⟨field, matcher, member, rfl, _, captures, lacks⟩

/-- A matcher whose patterns compile, and which asks for no group or header in vain, is refused for
want of a capture group exactly if it has to yield a text, its pattern has no group, there is a
template or no group is asked for, and no name stands in for the text; otherwise it is accepted.
An indicator is never refused so. -/
theorem captureMissing_iff {spec : Spec} {plugin : Plugin} (valid : compile spec = .ok plugin)
    {field : Field} {matcher : MatcherSpec} {regex : Regex}
    (readable : matcher.Readable field regex) :
    (∀ category,
      (compile (spec.withMatcher category field matcher) =
          .error (.captureMissing (Text.trim spec.name) category matcher.pattern) ↔
        category ≠ .indicators ∧ regex.groupCount = 0 ∧
          (matcher.template.isSome ∨ matcher.group = none) ∧
          ¬ (category = .modularMatchers ∧ matcher.name.isSome)) ∧
      ((∃ extended, compile (spec.withMatcher category field matcher) = .ok extended) ↔
        ¬ matcher.LacksText category regex)) ∧
    ∀ other name pattern, compile other ≠ .error (.captureMissing name .indicators pattern) := by
  refine ⟨fun category => ?_, fun other name pattern refused => ?_⟩
  · have fails := compile_withMatcher valid readable category
    refine ⟨?_, fails.exists_ok_iff.trans ?_⟩
    · change _ ↔ matcher.LacksText category regex
      rw [fails.eq_error_iff]
      by_cases lacks : matcher.LacksText category regex
      · rw [if_pos lacks]
        exact ⟨fun _ => lacks, fun _ => rfl⟩
      · rw [if_neg lacks]
        exact ⟨nofun, fun holds => absurd holds lacks⟩
    · by_cases lacks : matcher.LacksText category regex
      · rw [if_pos lacks]
        exact ⟨nofun, fun yields => absurd lacks yields⟩
      · rw [if_neg lacks]
        exact ⟨fun _ => lacks, fun _ => rfl⟩
  · obtain ⟨_, _, _, _, _, _, requires, _⟩ := lacksText_of_captureMissing refused
    exact requires rfl

/-- Matches a text without capturing anything of it, and asks for the whole match. -/
def wholeMatch : MatcherSpec := ⟨"v1", none, none, some 0, none⟩

/-- Matches the same text and has a template. -/
def fixedText : MatcherSpec := ⟨"v1", none, none, none, some "1.0"⟩

theorem readable_fixedText :
    ∃ regex, fixedText.Readable .body regex ∧ wholeMatch.Readable .body regex ∧
      regex.groupCount = 0 := by
  refine ⟨_, ⟨nofun, nofun, rfl, nofun⟩, ⟨nofun, nofun, rfl, ?_⟩, rfl⟩
  rintro - _ ⟨⟩
  decide

/-- The whole match may be asked for without any group, but a template is refused without one. -/
theorem compile_refuses_template_without_groups :
    (∃ regex, wholeMatch.Readable .body regex ∧ regex.groupCount = 0) ∧
    wholeMatch.template = none ∧ wholeMatch.name = none ∧
    (∃ plugin, compile ((Spec.named "x").withMatcher .matchers .body wholeMatch) = .ok plugin) ∧
    (∃ regex, fixedText.Readable .body regex) ∧ fixedText.template.isSome ∧
    compile ((Spec.named "x").withMatcher .matchers .body fixedText) =
      .error (.captureMissing "x" .matchers "v1") := by
  obtain ⟨regex, readable, alsoReadable, ungrouped⟩ := readable_fixedText
  exact ⟨⟨regex, alsoReadable, ungrouped⟩, rfl, rfl, ⟨_, rfl⟩, ⟨regex, readable⟩, rfl, rfl⟩

theorem captureMissing_iff_fixedText :
    ∃ plugin regex, compile (.named "x") = .ok plugin ∧ fixedText.Readable .body regex ∧
      compile ((Spec.named "x").withMatcher .matchers .body fixedText) =
        .error (.captureMissing (Text.trim "x") .matchers "v1") := by
  have valid : compile (.named "x") = .ok ⟨"x", none, [], .empty, []⟩ := rfl
  obtain ⟨regex, readable, -, ungrouped⟩ := readable_fixedText
  have refused := ((captureMissing_iff valid readable).1 .matchers).1.mpr
    ⟨by decide, ungrouped, .inl rfl, by decide⟩
  exact ⟨_, regex, valid, readable, refused⟩

/-! ### Faults of authors -/

theorem MatcherSpec.Blames.isConfigurationFault {plugin : String} {field : Field}
    {category : Category} {spec : MatcherSpec} {failure : Failure}
    (blames : spec.Blames plugin field category failure) : failure.isConfigurationFault := by
  cases blames <;> rfl

theorem Spec.Blames.isConfigurationFault {spec : Spec} {failure : Failure}
    (blames : spec.Blames failure) : failure.isConfigurationFault := by
  obtain ⟨rfl, -⟩ | ⟨_, _, _, _, blames⟩ := blames
  · rfl
  · exact blames.isConfigurationFault

/-- Whatever is wrong with a plugin is its author's fault, but for a blank name. -/
theorem isConfigurationFault_of_compile {spec : Spec} {failure : Failure}
    (refused : compile spec = .error failure) :
    (failure.isConfigurationFault ↔ Text.trim spec.name ≠ "") ∧
      (failure = .nameBlank ↔ Text.trim spec.name = "") := by
  by_cases blank : Text.trim spec.name = ""
  · have first := (compile_failsFirst spec).eq_error_iff.mp refused
    rw [Spec.violations, Spec.nameViolations, if_pos blank] at first
    cases first
    exact ⟨⟨nofun, fun named => absurd blank named⟩, ⟨fun _ => blank, fun _ => rfl⟩⟩
  · obtain ⟨-, contra⟩ | blames := blames_of_compile refused
    · exact absurd contra blank
    · refine ⟨⟨fun _ => blank, fun _ => blames.isConfigurationFault⟩, ?_,
        fun contra => absurd contra blank⟩
      rintro rfl
      exact absurd blames.isConfigurationFault Bool.false_ne_true

end Plugin

end Fingerprint
