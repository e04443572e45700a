import Fingerprint.Fragment
import Fingerprint.Proofs.Violations
import Mathlib.Data.List.Forall2

/-!
What compiled matchers look at, and what they capture.

A thread starts with a place for each position that its program saves, and no instruction adds or
removes one. Each match of a regular expression therefore has all of its groups and the whole match,
and no others.

A compiled plugin has a matcher for each one that was written, in the same order. Each looks at the
kind of value that its field has, and a group that it takes is one of the pattern that captures.
-/

set_option autoImplicit false

namespace Fingerprint.Regex

variable {program : Program} {count : Nat} {threads : Threads} {slots empty : Slots}
  {here : Cursor}

/-! ### What threads save -/

/-- Whether all waiting threads have places for as many positions. -/
def Threads.Sized (threads : Threads) (count : Nat) : Prop :=
  ∀ thread ∈ threads.waiting, thread.slots.size = count

theorem Threads.Sized.nil (reached : Array Nat) : Threads.Sized ⟨[], reached⟩ count :=
  List.forall_mem_nil _

theorem Threads.Sized.wait {reached : Array Nat} {address : Nat} (sized : threads.Sized count)
    (size : slots.size = count) :
    Threads.Sized ⟨⟨address, slots⟩ :: threads.waiting, reached⟩ count :=
  List.forall_mem_cons.mpr ⟨size, sized⟩

theorem follow_sized {stamp fuel : Nat} {targets : List (Nat × Slots)}
    (targetsSized : ∀ target ∈ targets, target.2.size = count) (sized : threads.Sized count) :
    (follow program here stamp fuel targets threads).Sized count := by
  induction fuel generalizing targets threads with
  | zero => exact sized
  | succ fuel ih =>
    obtain _ | ⟨⟨address, slots⟩, rest⟩ := targets
    · exact sized
    obtain ⟨size, restSized⟩ := List.forall_mem_cons.mp targetsSized
    rw [follow]
    split
    · exact ih restSized sized
    · dsimp only
      split
      · exact ih restSized (sized.wait size)
      · exact ih restSized (sized.wait size)
      · refine ih ?_ sized
        split
        · exact List.forall_mem_cons.mpr ⟨size, restSized⟩
        · exact restSized
      · refine ih (List.forall_mem_cons.mpr ⟨?_, restSized⟩) sized
        exact (Array.size_setIfInBounds ..).trans size
      · refine ih (List.forall_mem_append.mpr ⟨fun target member => ?_, restSized⟩) sized
        obtain ⟨_, -, rfl⟩ := List.mem_map.mp member
        exact size

theorem accepted_sized (program : Program) {waiting : List Thread}
    (sized : ∀ thread ∈ waiting, thread.slots.size = count) :
    (∀ thread ∈ (accepted program waiting).1, thread.slots.size = count) ∧
      ∀ slots ∈ (accepted program waiting).2, slots.size = count := by
  induction waiting with
  | nil => exact ⟨nofun, nofun⟩
  | cons thread rest ih =>
    obtain ⟨size, restSized⟩ := List.forall_mem_cons.mp sized
    rw [accepted]
    split
    · refine ⟨nofun, fun slots found => ?_⟩
      cases found
      exact size
    · obtain ⟨kept, found⟩ := ih restSized
      exact ⟨List.forall_mem_cons.mpr ⟨size, kept⟩, found⟩

theorem advanceThreads_sized {work : Nat} {c : Char} {stamp : Nat} {waiting : List Thread}
    (waitingSized : ∀ thread ∈ waiting, thread.slots.size = count) (sized : threads.Sized count) :
    (advanceThreads program work c here stamp waiting threads).Sized count := by
  induction waiting generalizing threads with
  | nil => exact sized
  | cons thread rest ih =>
    obtain ⟨size, restSized⟩ := List.forall_mem_cons.mp waitingSized
    rw [advanceThreads]
    refine ih restSized ?_
    split
    · split
      · exact follow_sized (List.forall_mem_singleton.mpr size) sized
      · exact sized
    · exact sized

theorem run_sized {work fuel : Nat} {found : Option Slots} (begins : empty.size = count)
    (sized : threads.Sized count) (foundSized : ∀ slots ∈ found, slots.size = count)
    (matched : run program work empty fuel here threads found = some slots) :
    slots.size = count := by
  induction fuel generalizing here threads found with
  | zero => exact foundSized slots matched
  | succ fuel ih =>
    rw [run] at matched
    split at matched
    · exact foundSized slots matched
    · have begun : Threads.Sized (if found.isSome then threads
          else follow program here (here.position + 1) work [(0, empty)] threads) count := by
        split
        · exact sized
        · exact follow_sized (List.forall_mem_singleton.mpr begins) sized
      dsimp only at matched
      generalize (if found.isSome then threads else _) = started at begun matched
      obtain ⟨kept, latest⟩ := accepted_sized program fun thread member =>
        begun thread (List.mem_reverse.mp member)
      have stillSized : ∀ slots ∈ (accepted program started.waiting.reverse).2.or found,
          slots.size = count := by
        intro slots member
        obtain now | ⟨-, before⟩ := Option.or_eq_some_iff.mp member
        · exact latest slots now
        · exact foundSized slots before
      split at matched
      · exact ih (advanceThreads_sized kept (.nil _)) stillSized matched
      · exact stillSized slots matched

theorem Program.search_size (matched : program.search here = some slots) :
    slots.size = program.slots :=
  run_sized (Array.size_replicate ..) (.nil _)
    (fun _ found => absurd found (Option.not_mem_none _)) matched

theorem Program.searchAll_size {fuel : Nat} {last : Option Nat}
    (matched : slots ∈ program.searchAll fuel here last) : slots.size = program.slots := by
  induction fuel generalizing here last with
  | zero => cases matched
  | succ fuel ih =>
    rw [searchAll] at matched
    dsimp only at matched
    split at matched
    · cases matched
    next found there first =>
      have size : found.size = program.slots := by
        split at first
        · cases first
        next earlier searched =>
          split at first
          · split at first
            · cases first
            · obtain ⟨other, later, same⟩ := Option.map_eq_some_iff.mp first
              cases same
              exact search_size later
          · cases first
            exact search_size searched
      obtain rfl | later := List.mem_cons.mp matched
      · exact size
      · exact ih later

/-! ### What matches capture -/

theorem length_capturesOf (chars : Array Char) (slots : Slots) :
    (capturesOf chars slots).groups.length = slots.size / 2 := by
  rw [capturesOf, List.length_map, List.length_range]

/-- A compiled pattern saves the bounds of the whole match and of each of its groups. -/
theorem slots_of_compileWith {caseInsensitive : Bool} {pattern : String} {regex : Regex}
    (compiled : compileWith caseInsensitive pattern = .ok regex) :
    regex.program.slots = 2 * (regex.groupCount + 1) := by
  rw [compileWith] at compiled
  cases read : Ast.parse pattern with
  | error reason =>
    rw [read] at compiled
    cases compiled
  | ok ast =>
    rw [read] at compiled
    dsimp only [bind, Except.bind] at compiled
    cases denoted : ast.expr (.initial caseInsensitive) with
    | error reason =>
      rw [denoted] at compiled
      cases compiled
    | ok denotation =>
      rw [denoted] at compiled
      dsimp only at compiled
      split at compiled
      · cases compiled
        rfl
      · cases compiled

variable {regex : Regex} {text : String} {captures : Captures}

theorem length_of_captures? (slots : regex.program.slots = 2 * (regex.groupCount + 1))
    (matched : regex.captures? text = some captures) :
    captures.groups.length = regex.groupCount + 1 := by
  obtain ⟨saved, searched, rfl⟩ := Option.map_eq_some_iff.mp matched
  rw [length_capturesOf, Program.search_size searched, slots]
  exact Nat.mul_div_cancel_left _ Nat.two_pos

theorem length_of_mem_capturesAll (slots : regex.program.slots = 2 * (regex.groupCount + 1))
    (matched : captures ∈ regex.capturesAll text) :
    captures.groups.length = regex.groupCount + 1 := by
  obtain ⟨saved, searched, rfl⟩ := List.mem_map.mp matched
  rw [length_capturesOf, Program.searchAll_size searched, slots]
  exact Nat.mul_div_cancel_left _ Nat.two_pos

end Fingerprint.Regex

namespace Fingerprint

/-- Whether captures come of a match of the regular expression, be it the first or a later one. -/
def Regex.Yields (regex : Regex) (captures : Captures) : Prop :=
  ∃ text, regex.captures? text = some captures ∨ captures ∈ regex.capturesAll text

theorem Regex.Yields.length {regex : Regex} {captures : Captures} (yields : regex.Yields captures)
    (slots : regex.program.slots = 2 * (regex.groupCount + 1)) :
    captures.groups.length = regex.groupCount + 1 := by
  obtain ⟨text, first | later⟩ := yields
  · exact length_of_captures? slots first
  · exact length_of_mem_capturesAll slots later

theorem Transaction.field?_of_field {transaction : Transaction} {field : Field}
    {value : FieldValue} (present : transaction.field field = .ok value) :
    transaction.field? field = some value := by
  rw [Transaction.field] at present
  split at present
  next found =>
    cases present
    exact found
  next => cases present

namespace Plugin

/-! ### Applying matchers -/

/-- The matches of a target in a value of the kind that it is made for. No rule applies to a value
of the other kind. -/
def Target.captures? : Target → FieldValue → Option (List Regex.Captures)
  | .text pattern, .text content => some (pattern.capturesAll content)
  | .header name none, .headers headers =>
    some (headers.filterMap (name.captures? ·.1))
  | .header name (some value), .headers headers =>
    some (headers.flatMap fun header =>
      if name.isMatch header.1 then value.capturesAll header.2 else [])
  | .text _, .headers _ => none
  | .header _ _, .text _ => none

/-- A matcher finds nothing in a value of the other kind. -/
theorem Matcher.captures_eq (matcher : Matcher) (value : FieldValue) :
    matcher.captures value = (matcher.target.captures? value).getD [] := by
  obtain ⟨target, rule, name⟩ := matcher
  cases target with
  | text pattern => cases value <;> rfl
  | header headerName value? =>
    cases value with
    | text text => cases value? <;> rfl
    | headers headers =>
      cases value? with
      | none =>
        change headers.flatMap _ = headers.filterMap _
        rw [List.filterMap_eq_flatMap_toList]
        refine List.flatMap_congr fun header _ => ?_
        dsimp only
        cases headerName.captures? header.1 <;> rfl
      | some pattern =>
        refine List.flatMap_congr fun header _ => ?_
        rw [Regex.isMatch]
        dsimp only
        cases headerName.captures? header.1 <;> rfl

/-- All that is captured comes of matches of one pattern. -/
theorem Target.yields_of_captures? {target : Target} {value : FieldValue}
    {found : List Regex.Captures} (applied : target.captures? value = some found)
    {captures : Regex.Captures} (member : captures ∈ found) : target.capturing.Yields captures := by
  rw [captures?.eq_def] at applied
  split at applied
  next pattern content =>
    cases applied
    exact ⟨content, .inr member⟩
  next name headers =>
    cases applied
    obtain ⟨⟨headerName, _⟩, -, matched⟩ := List.mem_filterMap.mp member
    exact ⟨headerName, .inl matched⟩
  next name value headers =>
    cases applied
    obtain ⟨⟨_, headerValue⟩, -, member⟩ := List.mem_flatMap.mp member
    obtain ⟨-, matched⟩ := List.mem_ite_nil_right.mp member
    exact ⟨headerValue, .inr matched⟩
  next => cases applied
  next => cases applied

theorem Matcher.yields_of_mem_captures {matcher : Matcher} {value : FieldValue}
    {captures : Regex.Captures} (member : captures ∈ matcher.captures value) :
    matcher.target.capturing.Yields captures := by
  rw [captures_eq] at member
  cases applied : matcher.target.captures? value with
  | none =>
    rw [applied] at member
    cases member
  | some found =>
    rw [applied] at member
    exact Target.yields_of_captures? applied member

/-- The fragment of a match. -/
def Matcher.fragment (matcher : Matcher) (index : Nat) (captures : Regex.Captures) : Fragment :=
  ⟨index, Template.captureText matcher.capture captures, matcher.name⟩

theorem Matcher.apply_eq (matcher : Matcher) (index : Nat) (value : FieldValue) :
    matcher.apply index value = (matcher.captures value).map (matcher.fragment index) := rfl

theorem applyFrom_eq_flatMap (start : Nat) (matchers : List Matcher) (value : FieldValue) :
    applyFrom start matchers value =
      (matchers.zipIdx start).flatMap fun (matcher, index) => matcher.apply index value := by
  induction matchers generalizing start with
  | nil => rfl
  | cons matcher rest ih => rw [applyFrom, ih, List.zipIdx_cons, List.flatMap_cons]

/-- Each fragment comes of a match of the matcher at its place. -/
theorem exists_of_mem_applyAll {matchers : List Matcher} {value : FieldValue} {fragment : Fragment}
    (member : fragment ∈ applyAll matchers value) :
    ∃ matcher, matchers[fragment.matcher]? = some matcher ∧
      ∃ captures ∈ matcher.captures value,
        fragment = matcher.fragment fragment.matcher captures := by
  rw [applyAll, applyFrom_eq_flatMap, List.mem_flatMap] at member
  obtain ⟨⟨matcher, index⟩, numbered, member⟩ := member
  obtain ⟨captures, matched, rfl⟩ := List.mem_map.mp member
  exact ⟨matcher, List.mem_zipIdx_iff_getElem?.mp numbered, captures, matched, rfl⟩

/-! ### Compiling matchers -/

section

variable {plugin : String} {field : Field} {category : Category} {spec : MatcherSpec}
  {matcher : Matcher}

theorem exists_of_compileMatcher
    (compiled : compileMatcher plugin field category spec = .ok matcher) :
    compileTarget plugin field spec = .ok (matcher.target, matcher.target.capturing) ∧
      compileCapture plugin matcher.target.capturing.groupCount spec = .ok matcher.capture ∧
      matcher.name = spec.name ∧ ¬ spec.LacksText category matcher.target.capturing := by
  obtain ⟨⟨target, regex⟩, targeted, compiled⟩ := exists_of_bind_eq_ok compiled
  obtain ⟨capture, captured, compiled⟩ := exists_of_bind_eq_ok compiled
  dsimp only at compiled
  split at compiled
  next => cases compiled
  next yields =>
    cases compiled
    have same : target.capturing = regex := (capturing_of_compileTarget targeted).2
    rw [same]
    exact ⟨targeted, captured, rfl, mt (refuses_iff_lacksText category captured).mpr yields⟩

namespace MatcherSpec

/-- What a matcher is applied to: a text, or headers by their names and values, or by their names
alone. -/
inductive Targets (spec : MatcherSpec) : Field → Target → Prop
  | text {field : Field} {pattern : Regex} (other : field ≠ .header) (unnamed : spec.header = none)
    (reads : Regex.compile spec.pattern = .ok pattern) : Targets spec field (.text pattern)
  | headerValue {header : String} {name value : Regex} (named : spec.header = some header)
    (readsName : Regex.compileName header = .ok name)
    (reads : Regex.compile spec.pattern = .ok value) :
    Targets spec .header (.header name (some value))
  | headerName {name : Regex} (unnamed : spec.header = none)
    (reads : Regex.compileName spec.pattern = .ok name) : Targets spec .header (.header name none)

/-- Which text a match yields: the template if there is one, else the chosen group, else the first
group, or the whole match if the pattern has no groups. -/
def rule (spec : MatcherSpec) (available : Nat) : CaptureRule :=
  match spec.template, spec.group with
  | some template, _ => .template template
  | none, some index => .group index.toNat
  | none, none => if 0 < available then .group 1 else .whole

/-- How a matcher comes from what was written. -/
structure CompilesTo (spec : MatcherSpec) (field : Field) (matcher : Matcher) : Prop where
  target : spec.Targets field matcher.target
  capture : matcher.capture = spec.rule matcher.target.capturing.groupCount
  name : matcher.name = spec.name

theorem Targets.exists_header_iff {target : Target} (targets : spec.Targets field target) :
    (∃ name value?, target = .header name value?) ↔ field = .header := by
  cases targets with
  | text other => exact ⟨nofun, fun same => absurd same other⟩
  | headerValue => exact ⟨fun _ => rfl, fun _ => ⟨_, _, rfl⟩⟩
  | headerName => exact ⟨fun _ => rfl, fun _ => ⟨_, _, rfl⟩⟩

/-- The value of a field is of the kind that its matchers look at. -/
theorem Targets.captures?_isSome {target : Target} (targets : spec.Targets field target)
    {transaction : Transaction} {value : FieldValue}
    (present : transaction.field field = .ok value) : (target.captures? value).isSome := by
  have present := Transaction.field?_of_field present
  cases targets with
  | text other =>
    cases field with
    | url | body =>
      obtain ⟨text, -, rfl⟩ := Option.map_eq_some_iff.mp present
      rfl
    | header => exact absurd rfl other
  | headerValue | headerName =>
    obtain ⟨headers, -, rfl⟩ := Option.map_eq_some_iff.mp present
    rfl

end MatcherSpec

theorem targets_of_compileTarget {target : Target} {regex : Regex}
    (compiled : compileTarget plugin field spec = .ok (target, regex)) :
    spec.Targets field target := by
  obtain ⟨pattern, header, name, group, template⟩ := spec
  cases header with
  | none =>
    cases field with
    | header =>
      obtain ⟨made, compiles, built⟩ := exists_of_bind_eq_ok compiled
      cases built
      exact .headerName rfl (ok_of_mapError compiles)
    | url | body =>
      obtain ⟨made, compiles, built⟩ := exists_of_bind_eq_ok compiled
      cases built
      exact .text Field.noConfusion rfl (ok_of_mapError compiles)
  | some header =>
    cases field with
    | header =>
      obtain ⟨named, compilesName, compiled⟩ := exists_of_bind_eq_ok compiled
      obtain ⟨made, compiles, built⟩ := exists_of_bind_eq_ok compiled
      cases built
      exact .headerValue rfl (ok_of_mapError compilesName) (ok_of_mapError compiles)
    | url | body => cases compiled

theorem capture_of_compileCapture {available : Nat} {capture : CaptureRule}
    (compiled : compileCapture plugin available spec = .ok capture) :
    capture = spec.rule available := by
  rw [compileCapture] at compiled
  rw [MatcherSpec.rule]
  cases given : spec.template with
  | some template =>
    rw [given] at compiled
    cases compiled
    rfl
  | none =>
    cases asked : spec.group with
    | some index =>
      rw [given, asked] at compiled
      dsimp only at compiled
      split at compiled
      · cases compiled
      · cases compiled
        rfl
    | none =>
      rw [given, asked] at compiled
      cases compiled
      rfl

theorem group_le_of_compileCapture {available index : Nat}
    (compiled : compileCapture plugin available spec = .ok (.group index)) : index ≤ available := by
  rw [compileCapture] at compiled
  split at compiled
  · cases compiled
  · split at compiled
    · cases compiled
    next inRange =>
      cases compiled
      exact Nat.le_of_not_lt inRange
  · split at compiled
    next grouped =>
      cases compiled
      exact grouped
    · cases compiled

theorem compilesTo_of_compileMatcher
    (compiled : compileMatcher plugin field category spec = .ok matcher) :
    spec.CompilesTo field matcher := by
  obtain ⟨targeted, captured, named, -⟩ := exists_of_compileMatcher compiled
  exact ⟨targets_of_compileTarget targeted, capture_of_compileCapture captured, named⟩

/-- The pattern whose groups are captured saves as many positions as it has groups. -/
theorem slots_of_capturing {regex : Regex} (captures : spec.capturing field = .ok regex) :
    regex.program.slots = 2 * (regex.groupCount + 1) := by
  rw [MatcherSpec.capturing] at captures
  split at captures
  · exact Regex.slots_of_compileWith captures
  · exact Regex.slots_of_compileWith captures

/-- Each match of a compiled matcher has all the groups of its pattern, and no others. -/
theorem length_of_mem_captures
    (compiled : compileMatcher plugin field category spec = .ok matcher) {value : FieldValue}
    {captures : Regex.Captures} (matched : captures ∈ matcher.captures value) :
    captures.groups.length = matcher.target.capturing.groupCount + 1 := by
  obtain ⟨read, -⟩ := capturing_of_compileTarget (exists_of_compileMatcher compiled).1
  exact (Matcher.yields_of_mem_captures matched).length (slots_of_capturing read)

end

/-! ### Compiling plugins -/

theorem forall₂_of_mapM {α β : Type} {next : α → Except Failure β} {items : List α}
    {results : List β} (succeeded : items.mapM next = .ok results) :
    List.Forall₂ (fun item result => next item = .ok result) items results := by
  induction items generalizing results with
  | nil =>
    cases succeeded
    exact .nil
  | cons item rest ih =>
    rw [List.mapM_cons] at succeeded
    obtain ⟨first, made, succeeded⟩ := exists_of_bind_eq_ok succeeded
    obtain ⟨others, rested, succeeded⟩ := exists_of_bind_eq_ok succeeded
    cases succeeded
    exact .cons made (ih rested)

theorem lookup_of_compileMatchers {plugin : String} {category : Category}
    {specs : PerField MatcherSpec} {compiled : PerField Matcher}
    (succeeded : compileMatchers plugin category specs = .ok compiled) (field : Field) :
    (specs.get field).mapM (compileMatcher plugin field category) = .ok (compiled.get field) := by
  obtain ⟨url, urls, succeeded⟩ := exists_of_bind_eq_ok succeeded
  obtain ⟨body, bodies, succeeded⟩ := exists_of_bind_eq_ok succeeded
  obtain ⟨header, headers, succeeded⟩ := exists_of_bind_eq_ok succeeded
  cases succeeded
  cases field with
  | url => exact urls
  | body => exact bodies
  | header => exact headers

/-- The matchers of a compiled plugin are those of the plugin as written, each compiled by
itself. -/
theorem lookup_of_compile {spec : Spec} {plugin : Plugin} (compiled : compile spec = .ok plugin)
    (field : Field) (category : Category) :
    (spec.bucket field category).mapM (compileMatcher (Text.trim spec.name) field category) =
      .ok (plugin.lookup field category) :=
  lookup_of_compileMatchers ((compiledFrom_of_compile compiled).matchers category) field

section

variable {spec : Spec} {plugin : Plugin} {field : Field} {category : Category}

theorem fields_of_compile (compiled : compile spec = .ok plugin) (category : Category) :
    plugin.fields category = [.url, .body, .header].filter
      fun field => !(spec.bucket field category).isEmpty := by
  refine List.filter_congr fun field _ => ?_
  have related := forall₂_of_mapM (lookup_of_compile compiled field category)
  rw [Bool.eq_iff_iff, Bool.not_eq_true', Bool.not_eq_true', List.isEmpty_eq_false_iff,
    List.isEmpty_eq_false_iff, ← List.length_pos_iff, ← List.length_pos_iff, related.length_eq]

/-- The number of a matcher is that of the one that was written. -/
theorem exists_of_getElem?_lookup (compiled : compile spec = .ok plugin) {index : Nat}
    {matcher : Matcher} (found : (plugin.lookup field category)[index]? = some matcher) :
    ∃ written, (spec.bucket field category)[index]? = some written ∧
      compileMatcher (Text.trim spec.name) field category written = .ok matcher := by
  obtain ⟨same, each⟩ := List.forall₂_iff_get.mp
    (forall₂_of_mapM (lookup_of_compile compiled field category))
  obtain ⟨inRange, rfl⟩ := List.getElem?_eq_some_iff.mp found
  exact ⟨_, List.getElem?_eq_getElem (same ▸ inRange), each index _ inRange⟩

theorem exists_of_mem_lookup (compiled : compile spec = .ok plugin) {matcher : Matcher}
    (member : matcher ∈ plugin.lookup field category) :
    ∃ written ∈ spec.bucket field category,
      compileMatcher (Text.trim spec.name) field category written = .ok matcher := by
  obtain ⟨index, found⟩ := List.mem_iff_getElem?.mp member
  obtain ⟨written, declared, made⟩ := exists_of_getElem?_lookup compiled found
  exact ⟨written, List.mem_of_getElem? declared, made⟩

end

/-- Whether a matcher looks at the kind of value that the field has, and takes a group only if it is
one of the pattern that captures. -/
structure Matcher.Fits (matcher : Matcher) (field : Field) : Prop where
  header : (∃ name value?, matcher.target = .header name value?) ↔ field = .header
  group (index : Nat) : matcher.capture = .group index →
    index < matcher.target.capturing.groupCount + 1

/-- Whether a rule applies when a matcher is evaluated, and whether the group that it takes is among
those that come of the pattern that captures. -/
structure Matcher.Evaluates (matcher : Matcher) (value : FieldValue) : Prop where
  ruled : matcher.target.captures? value = some (matcher.captures value)
  yields : ∀ captures ∈ matcher.captures value, matcher.target.capturing.Yields captures
  group : ∀ captures ∈ matcher.captures value, ∀ index, matcher.capture = .group index →
    index < captures.groups.length

section

variable {plugin : String} {field : Field} {category : Category} {spec : MatcherSpec}
  {matcher : Matcher}

theorem fits_of_compileMatcher
    (compiled : compileMatcher plugin field category spec = .ok matcher) : matcher.Fits field := by
  refine ⟨(compilesTo_of_compileMatcher compiled).target.exists_header_iff, fun index rule => ?_⟩
  obtain ⟨-, captured, -, -⟩ := exists_of_compileMatcher compiled
  rw [rule] at captured
  exact Nat.lt_succ_of_le (group_le_of_compileCapture captured)

theorem evaluates_of_compileMatcher
    (compiled : compileMatcher plugin field category spec = .ok matcher)
    {transaction : Transaction} {value : FieldValue}
    (present : transaction.field field = .ok value) : matcher.Evaluates value := by
  refine ⟨?_, fun _ matched => Matcher.yields_of_mem_captures matched,
    fun captures matched index rule => ?_⟩
  · obtain ⟨found, ruled⟩ := Option.isSome_iff_exists.mp
      ((compilesTo_of_compileMatcher compiled).target.captures?_isSome present)
    rw [Matcher.captures_eq, ruled, Option.getD_some]
  · rw [length_of_mem_captures compiled matched]
    exact (fits_of_compileMatcher compiled).group index rule

end

/-- A compiled plugin has the matchers that were written, in their order, and for each category the
fields with matchers. Each matcher fits its field: in whatever a transaction has there, it is
evaluated by a rule for the kind of its target, and the group that it takes exists. What it finds
bears the number of the matcher that was written. -/
theorem wellFormed_of_compile {spec : Spec} {plugin : Plugin}
    (compiled : compile spec = .ok plugin) (category : Category) :
    plugin.fields category =
        [.url, .body, .header].filter (fun field => !(spec.bucket field category).isEmpty) ∧
      ∀ field,
        List.Forall₂ (fun written matcher => written.CompilesTo field matcher)
          (spec.bucket field category) (plugin.lookup field category) ∧
        (∀ matcher ∈ plugin.lookup field category, matcher.Fits field) ∧
        ∀ (transaction : Transaction) (value : FieldValue), transaction.field field = .ok value →
          (∀ matcher ∈ plugin.lookup field category, matcher.Evaluates value) ∧
          ∀ fragment ∈ applyAll (plugin.lookup field category) value,
            ∃ written, (spec.bucket field category)[fragment.matcher]? = some written ∧
              ∃ matcher, written.CompilesTo field matcher ∧ ∃ captures ∈ matcher.captures value,
                fragment = matcher.fragment fragment.matcher captures := by
  refine ⟨fields_of_compile compiled category, fun field => ⟨?_, ?_, ?_⟩⟩
  · exact (forall₂_of_mapM (lookup_of_compile compiled field category)).imp
      fun _ _ made => compilesTo_of_compileMatcher made
  · intro matcher member
    obtain ⟨_, -, made⟩ := exists_of_mem_lookup compiled member
    exact fits_of_compileMatcher made
  · refine fun transaction value present => ⟨fun matcher member => ?_, fun fragment member => ?_⟩
    · obtain ⟨_, -, made⟩ := exists_of_mem_lookup compiled member
      exact evaluates_of_compileMatcher made present
    · obtain ⟨matcher, found, captured⟩ := exists_of_mem_applyAll member
      obtain ⟨written, declared, made⟩ := exists_of_getElem?_lookup compiled found
      exact ⟨written, declared, matcher, compilesTo_of_compileMatcher made, captured⟩

/-- Looks at the values of headers, at the names of headers, and at a text, of which it takes the
whole match. -/
def threeTargets : Spec :=
  { Spec.named "x" with
    matchers :=
      { PerCategory.empty with
        matchers :=
          { url := []
            body := [⟨"v1", none, none, some 0, none⟩]
            header :=
              [⟨"v([0-9])", some ".*", none, none, none⟩, ⟨"(.+)", none, none, none, none⟩] } } }

theorem wellFormed_of_compile_threeTargets :
    ∃ plugin, compile threeTargets = .ok plugin ∧ plugin.fields .matchers = [.body, .header] ∧
      (plugin.lookup .header .matchers).length = 2 ∧
      ∀ matcher ∈ plugin.lookup .header .matchers, ∀ transaction value,
        Transaction.field transaction .header = .ok value → matcher.Evaluates value := by
  have accepted : ∃ plugin, compile threeTargets = .ok plugin := ⟨_, rfl⟩
  obtain ⟨plugin, compiled⟩ := accepted
  obtain ⟨fields, each⟩ := wellFormed_of_compile compiled .matchers
  obtain ⟨related, -, evaluates⟩ := each .header
  exact ⟨plugin, compiled, fields, related.length_eq.symm,
    fun matcher member transaction value present =>
      (evaluates transaction value present).1 matcher member⟩

end Plugin

end Fingerprint
