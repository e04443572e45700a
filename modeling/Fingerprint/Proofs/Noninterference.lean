import Fingerprint.Proofs.Evidence

/-!
What a plugin can see of a transaction.

A plugin looks at the fields for which it has matchers, of the headers only at those whose names its
patterns match, and at the scripts if it has script matchers. Transactions that agree in all of this
have the same result.
-/

set_option autoImplicit false

namespace Fingerprint

namespace Plugin

/-- Whether a matcher looks at the headers of a name. -/
def Matcher.looksAt (matcher : Matcher) (name : String) : Bool :=
  match matcher.target with
  | .header pattern _ => pattern.isMatch name
  | .text _ => false

/-- Whether a matcher of the plugin, in any category, looks at a header. -/
def looksAt (plugin : Plugin) (header : String × String) : Bool :=
  Category.all.any fun category => (plugin.lookup .header category).any (·.looksAt header.1)

/-- Whether the plugin has matchers for a field, in any category. -/
def Declares (plugin : Plugin) (field : Field) : Prop :=
  ∃ category, field ∈ plugin.fields category

/-- Whether two transactions show a plugin the same. Of the headers only those count that the plugin
looks at, and whether there is a list of headers at all. -/
structure SeesAlike (plugin : Plugin) (first second : Transaction) : Prop where
  url : plugin.Declares .url → first.url = second.url
  body : plugin.Declares .body → first.body = second.body
  headers : plugin.Declares .header →
    first.headers.map (·.filter plugin.looksAt) = second.headers.map (·.filter plugin.looksAt)

/-- Headers whose names a matcher does not match leave no trace. -/
theorem Matcher.captures_filter {matcher : Matcher} {keep : String × String → Bool}
    (kept : ∀ header, matcher.looksAt header.1 → keep header) (headers : List (String × String)) :
    matcher.captures (.headers (headers.filter keep)) = matcher.captures (.headers headers) := by
  cases target : matcher.target with
  | text pattern => simp only [captures, target]
  | header name value =>
    simp only [captures, target]
    induction headers with
    | nil => rfl
    | cons header rest ih =>
      by_cases known : keep header
      · rw [List.filter_cons_of_pos known, List.flatMap_cons, List.flatMap_cons, ih]
      · have unmatched : name.captures? header.1 = none := by
          have unseen := mt (kept header) known
          simpa only [looksAt, target, Regex.isMatch, Option.not_isSome_iff_eq_none] using unseen
        rw [List.filter_cons_of_neg known, List.flatMap_cons, ih]
        simp only [unmatched, List.nil_append]

/-- Headers that the plugin does not look at change nothing of what its matchers find. -/
theorem observationsAt_header (plugin : Plugin) (transaction : Transaction) (category : Category) :
    plugin.observationsAt transaction category .header =
      (transaction.headers.map (·.filter plugin.looksAt)).toList.flatMap fun headers =>
        observe category .header (.headers headers) 0 (plugin.lookup .header category) := by
  have filtered (headers : List (String × String)) :
      observe category .header (.headers (headers.filter plugin.looksAt)) 0
          (plugin.lookup .header category) =
        observe category .header (.headers headers) 0 (plugin.lookup .header category) := by
    refine List.map_congr_left fun entry listed => ?_
    have member : entry.1 ∈ plugin.lookup .header category := List.fst_mem_of_mem_zipIdx listed
    have kept (header : String × String) (looks : entry.1.looksAt header.1) :
        plugin.looksAt header :=
      List.any_eq_true.mpr
        ⟨category, category.mem_all, List.any_eq_true.mpr ⟨entry.1, member, looks⟩⟩
    simp only [Matcher.apply, Matcher.captures_filter kept]
  rw [observationsAt, Transaction.field?]
  cases transaction.headers with
  | none => rfl
  | some headers =>
    simp only [Option.map_some, Option.toList_some, List.flatMap_singleton, filtered]

namespace SeesAlike

variable {plugin : Plugin} {first second : Transaction} (alike : plugin.SeesAlike first second)

include alike

theorem observationsAt {category : Category} {field : Field}
    (declared : field ∈ plugin.fields category) :
    plugin.observationsAt first category field = plugin.observationsAt second category field := by
  cases field with
  | url =>
    simp only [Plugin.observationsAt, Transaction.field?, alike.url ⟨category, declared⟩]
  | body =>
    simp only [Plugin.observationsAt, Transaction.field?, alike.body ⟨category, declared⟩]
  | header =>
    rw [observationsAt_header, observationsAt_header, alike.headers ⟨category, declared⟩]

theorem observations : plugin.observations first = plugin.observations second := by
  refine List.flatMap_congr fun category _ => List.flatMap_congr fun field declared => ?_
  exact alike.observationsAt declared

theorem hasField {field : Field} (declared : plugin.Declares field) :
    first.hasField field = second.hasField field := by
  cases field with
  | url => simp only [Transaction.hasField, Transaction.field?, alike.url declared]
  | body => simp only [Transaction.hasField, Transaction.field?, alike.body declared]
  | header =>
    have listed := congrArg Option.isSome (alike.headers declared)
    simpa only [Transaction.hasField, Transaction.field?, Option.isSome_map] using listed

theorem missingFields : plugin.missingFields first = plugin.missingFields second := by
  have same : ∀ field ∈ plugin.declared.map (·.2),
      (!first.hasField field) = !second.hasField field := by
    intro field member
    obtain ⟨place, listed, rfl⟩ := List.mem_map.mp member
    obtain ⟨category, _, inCategory⟩ := List.mem_flatMap.mp listed
    obtain ⟨field, declared, rfl⟩ := List.mem_map.mp inCategory
    rw [alike.hasField ⟨category, declared⟩]
  rw [Plugin.missingFields, Plugin.missingFields, List.filter_congr same]

end SeesAlike

end Plugin

namespace Detector

variable (detector : Detector) (engine : ScriptEngine)

/-- What a pass over one plugin reports is told by the outcome of its evaluation and by the fields
that it misses. -/
theorem pass_singleton_congr {plugin : Plugin} {first second : Transaction}
    (detection : (detector.evaluation engine first plugin).detection =
      (detector.evaluation engine second plugin).detection)
    (missing : plugin.missingFields first = plugin.missingFields second) :
    detector.pass engine first [plugin] = detector.pass engine second [plugin] := by
  have abortion : (detector.evaluation engine first plugin).abortion? =
      (detector.evaluation engine second plugin).abortion? := by
    simp only [Evaluation.abortion?, detection]
  have missed : (detector.evaluation engine first plugin).missingFields =
      (detector.evaluation engine second plugin).missingFields :=
    congrArg (List.map (MissingField.mk plugin.name)) missing
  have found : (detector.evaluation engine first plugin).detection? =
      (detector.evaluation engine second plugin).detection? := by
    simp only [Evaluation.detection?, detection]
    rfl
  have failed : (detector.evaluation engine first plugin).fault? =
      (detector.evaluation engine second plugin).fault? := by
    simp only [Evaluation.fault?, detection]
    rfl
  simp only [pass_eq, List.map_cons, List.map_nil, List.findSome?_cons, abortion,
    DetectionResult.ofEvaluations, List.filterMap_cons, found, failed, List.flatMap_cons, missed]

/-- A plugin sees nothing but the fields for which it has matchers, the headers whose names they
match and, if it has script matchers, the scripts: transactions that agree in these have the same
result, whatever else is in them and whatever the settings are. -/
theorem detectPlugin_noninterference {plugin : Plugin} {first second : Transaction}
    (alike : plugin.SeesAlike first second)
    (scripts : plugin.scriptMatchers ≠ [] → detector.blocks first = detector.blocks second) :
    detector.detectPlugin engine first plugin = detector.detectPlugin engine second plugin := by
  have fields : plugin.fieldFindings first = plugin.fieldFindings second := by
    rw [Plugin.fieldFindings_eq_observeAll, Plugin.fieldFindings_eq_observeAll, alike.observations]
  refine detector.pass_singleton_congr engine ?_ alike.missingFields
  rw [evaluation_detection, evaluation_detection, fields]
  by_cases scripted : plugin.scriptMatchers = []
  · rw [if_neg fun probes => probes.1 scripted, if_neg fun probes => probes.1 scripted]
  · rw [scripts scripted]

end Detector

namespace DigitPage

/-- A pattern of the header name `server`, in any case. -/
def serverName : Regex := (Regex.compileWith true "^(?:server)$").toOption.getD default

/-- Looks for versions in the header `server` and behind the scripts. -/
def serverPlugin : Plugin where
  name := "server"
  homepage := none
  tags := []
  matchers := ⟨⟨[], [], [⟨.header serverName (some versionDigit), .group 1, none⟩]⟩, .empty, .empty⟩
  scriptMatchers := [⟨"4", "5"⟩]

def served : Transaction :=
  ⟨some "v1", some "3", some [("Content-Type", "text/javascript"), ("Server", "v7")]⟩

/-- The same script without an address, behind other headers. -/
def servedAgain : Transaction :=
  ⟨none, some "3", some [("Server", "v7"), ("x-server", "v9"), ("content-type", "x-javascript")]⟩

end DigitPage

theorem Detector.detectPlugin_noninterference_server :
    let detector : Detector := .standard .empty
    DigitPage.serverPlugin.SeesAlike DigitPage.served DigitPage.servedAgain ∧
    (DigitPage.serverPlugin.scriptMatchers ≠ [] →
      detector.blocks DigitPage.served = detector.blocks DigitPage.servedAgain) ∧
    detector.detectPlugin DigitPage.engine DigitPage.served DigitPage.serverPlugin =
      detector.detectPlugin DigitPage.engine DigitPage.servedAgain DigitPage.serverPlugin := by
  intro detector
  have alike : DigitPage.serverPlugin.SeesAlike DigitPage.served DigitPage.servedAgain := by
    refine ⟨?_, fun _ => rfl, fun _ => ?_⟩
    · rintro ⟨category, declared⟩
      revert declared
      cases category <;> decide
    · cbv
  have scripts : detector.blocks DigitPage.served = detector.blocks DigitPage.servedAgain := by
    cbv
  exact ⟨alike, fun _ => scripts, detector.detectPlugin_noninterference _ alike fun _ => scripts⟩

end Fingerprint
