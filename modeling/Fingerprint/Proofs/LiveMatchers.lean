import Fingerprint.Proofs.CompiledMatchers
import Fingerprint.Proofs.Distinct
import Fingerprint.Proofs.Template

/-!
Matchers from which something can come.

A matcher that has to yield a text yields one for some captures of its groups, unless its name is
blank or its template refers to none of its groups. Such a matcher is accepted all the same, and
whatever it matches, no version or name comes of it.
-/

set_option autoImplicit false

namespace Fingerprint

/-- Captures in which the whole match and each of so many groups have a digit for their text. -/
def Regex.Captures.digits (groups : Nat) : Captures :=
  ⟨(List.replicate (groups + 1) "1").map some⟩

theorem Regex.Captures.get_digits {groups index : Nat} (inRange : index ≤ groups) :
    (digits groups).get index = some "1" := by
  rw [get, digits, List.map_replicate, List.getElem?_replicate_of_lt (Nat.lt_succ_of_le inRange)]
  rfl

/-! ### What categories draw from fragments -/

/-- The values that a category draws from fragments: versions, or names of components. -/
def Category.values : Category → List Fragment → List String
  | .matchers, fragments => extractVersions fragments
  | .modularMatchers, fragments => extractNames fragments
  | .indicators, _ => []

theorem distinctNonEmpty_eq_nil_iff {candidates : List String} :
    distinctNonEmpty candidates = [] ↔ ∀ candidate ∈ candidates, candidate = "" := by
  simp only [List.eq_nil_iff_forall_not_mem, mem_distinctNonEmpty, not_and, not_not]

theorem extractVersions_eq_nil_iff {fragments : List Fragment} :
    extractVersions fragments = [] ↔ ∀ fragment ∈ fragments, ∀ text, fragment.text = some text →
      normalizeVersion text = "" := by
  simp only [extractVersions, distinctNonEmpty_eq_nil_iff, List.mem_filterMap, Fragment.version?,
    Option.map_eq_some_iff]
  constructor
  · exact fun all fragment member text found => all _ ⟨fragment, member, text, found, rfl⟩
  · rintro all _ ⟨fragment, member, text, found, rfl⟩
    exact all fragment member text found

theorem extractNames_eq_nil_iff {fragments : List Fragment} :
    extractNames fragments = [] ↔ ∀ fragment ∈ fragments, ∀ name,
      fragment.name.or fragment.text = some name → Text.trim name = "" := by
  simp only [extractNames, distinctNonEmpty_eq_nil_iff, List.mem_filterMap, Fragment.name?,
    Option.map_eq_some_iff]
  constructor
  · exact fun all fragment member name found => all _ ⟨fragment, member, name, found, rfl⟩
  · rintro all _ ⟨fragment, member, name, found, rfl⟩
    exact all fragment member name found

/-- Nothing comes of fragments exactly if nothing comes of any of them. -/
theorem Category.values_eq_nil_iff (category : Category) {fragments : List Fragment} :
    category.values fragments = [] ↔ ∀ fragment ∈ fragments, category.values [fragment] = [] := by
  cases category with
  | matchers => simp only [values, extractVersions_eq_nil_iff, List.forall_mem_singleton]
  | modularMatchers => simp only [values, extractNames_eq_nil_iff, List.forall_mem_singleton]
  | indicators => exact ⟨fun _ _ _ => rfl, fun _ => rfl⟩

/-- Something comes of a text with a digit if no name stands in for it. -/
theorem Category.values_ne_nil {category : Category} (requires : category ≠ .indicators)
    {fragment : Fragment} (unnamed : category = .modularMatchers → fragment.name = none)
    {text : String} (found : fragment.text = some text) (digit : '1' ∈ text.toList) :
    category.values [fragment] ≠ [] := by
  cases category with
  | matchers =>
    intro nothing
    have empty := extractVersions_eq_nil_iff.mp nothing _ List.mem_cons_self text found
    rw [normalizeVersion_eq] at empty
    exact absurd ((Text.trimBy_eq_empty_iff _).mp empty '1' digit) (by decide)
  | modularMatchers =>
    intro nothing
    have named : fragment.name.or fragment.text = some text := by
      rw [unnamed rfl, Option.none_or, found]
    have empty := extractNames_eq_nil_iff.mp nothing _ List.mem_cons_self text named
    exact absurd ((Text.trimBy_eq_empty_iff _).mp empty '1' digit) (by decide)
  | indicators => exact absurd rfl requires

namespace Plugin

/-! ### Live and mute matchers -/

/-- Whether something comes of a fragment of the matcher for some texts of its groups, the whole
match among them. -/
def Matcher.IsLive (matcher : Matcher) (category : Category) : Prop :=
  ∃ texts : List String, texts.length = matcher.target.capturing.groupCount + 1 ∧
    category.values [matcher.fragment 0 ⟨texts.map some⟩] ≠ []

/-- The ways in which nothing can come of a matcher: the name that stands in for its text is blank,
or, without one, its template refers to no group of its pattern. -/
inductive Matcher.IsMute (matcher : Matcher) (category : Category) : Prop
  | name {name : String} (modular : category = .modularMatchers)
    (given : matcher.name = some name) (blank : Text.trim name = "")
  | template {template : String} (unnamed : category = .modularMatchers → matcher.name = none)
    (rule : matcher.capture = .template template)
    (dangling : ∀ group ∈ Template.references template, matcher.target.capturing.groupCount < group)

variable {category : Category} {matcher : Matcher}

/-- Nothing comes of a mute matcher, whatever its groups capture. -/
theorem Matcher.IsMute.values_eq_nil (mute : matcher.IsMute category) (index : Nat)
    {captures : Regex.Captures}
    (length : captures.groups.length = matcher.target.capturing.groupCount + 1) :
    category.values [matcher.fragment index captures] = [] := by
  cases mute with
  | name modular given blank =>
    rw [modular]
    refine extractNames_eq_nil_iff.mpr (List.forall_mem_singleton.mpr fun name found => ?_)
    change matcher.name.or _ = _ at found
    rw [given, Option.some_or] at found
    cases found
    exact blank
  | template unnamed rule dangling =>
    have absent : (matcher.fragment index captures).text = none := by
      change Template.captureText matcher.capture captures = none
      rw [rule]
      refine Template.render_eq_none fun group refers => Regex.Captures.get_of_le ?_
      rw [length]
      exact dangling group refers
    cases category with
    | matchers =>
      refine extractVersions_eq_nil_iff.mpr (List.forall_mem_singleton.mpr fun text found => ?_)
      rw [absent] at found
      cases found
    | modularMatchers =>
      refine extractNames_eq_nil_iff.mpr (List.forall_mem_singleton.mpr fun name found => ?_)
      have unnamed : (matcher.fragment index captures).name = none := unnamed rfl
      rw [unnamed, absent] at found
      cases found
    | indicators => rfl

/-! ### Matchers as they are compiled -/

section

variable {plugin : String} {field : Field} {spec : MatcherSpec}

/-- Some text with a digit is captured unless the matcher is mute. -/
theorem exists_captureText (compiled : compileMatcher plugin field category spec = .ok matcher)
    (requires : category ≠ .indicators)
    (unnamed : category = .modularMatchers → matcher.name = none)
    (audible : ¬ matcher.IsMute category) :
    ∃ text, Template.captureText matcher.capture
      (.digits matcher.target.capturing.groupCount) = some text ∧ '1' ∈ text.toList := by
  obtain ⟨-, captured, named, yields⟩ := exists_of_compileMatcher compiled
  have digit : '1' ∈ "1".toList := List.mem_cons_self
  cases rule : matcher.capture with
  | group index =>
    rw [rule] at captured
    exact ⟨"1", Regex.Captures.get_digits (group_le_of_compileCapture captured), digit⟩
  | template template =>
    have refers : ∃ group ∈ Template.references template,
        group ≤ matcher.target.capturing.groupCount := by
      by_contra dangling
      push Not at dangling
      exact audible (.template unnamed rule dangling)
    obtain ⟨group, refers, inRange⟩ := refers
    exact Template.render_of_reference refers (Regex.Captures.get_digits inRange) digit (by decide)
  | whole =>
    -- A matcher without any text is let through for its name alone, and it has none.
    rw [rule] at captured
    obtain ⟨ungrouped, mixed⟩ := (yieldsText_of_compileCapture captured).mp rfl
    refine absurd ⟨requires, ungrouped, mixed, ?_⟩ yields
    rintro ⟨modular, stands⟩
    rw [← named, unnamed modular] at stands
    cases stands

theorem isLive_of_not_isMute (compiled : compileMatcher plugin field category spec = .ok matcher)
    (requires : category ≠ .indicators) (audible : ¬ matcher.IsMute category) :
    matcher.IsLive category := by
  -- A digit survives whatever is trimmed, so one for every group serves each rule.
  refine ⟨List.replicate (matcher.target.capturing.groupCount + 1) "1", List.length_replicate, ?_⟩
  by_cases unnamed : category = .modularMatchers → matcher.name = none
  · obtain ⟨text, found, digit⟩ := exists_captureText compiled requires unnamed audible
    exact Category.values_ne_nil requires unnamed found digit
  · -- The name stands in for whatever is captured.
    obtain ⟨modular, named⟩ := Classical.not_imp.mp unnamed
    obtain ⟨name, given⟩ := Option.ne_none_iff_exists'.mp named
    intro nothing
    rw [modular] at nothing
    refine audible (.name modular given
      (extractNames_eq_nil_iff.mp nothing _ List.mem_cons_self name ?_))
    change matcher.name.or _ = _
    rw [given, Option.some_or]

/-- No value comes of what a mute matcher matches. -/
theorem values_apply_of_isMute (compiled : compileMatcher plugin field category spec = .ok matcher)
    (mute : matcher.IsMute category) (index : Nat) (value : FieldValue) :
    category.values (matcher.apply index value) = [] := by
  rw [Matcher.apply_eq, category.values_eq_nil_iff]
  intro fragment member
  obtain ⟨captures, matched, rfl⟩ := List.mem_map.mp member
  exact mute.values_eq_nil index (length_of_mem_captures compiled matched)

theorem not_isLive_of_isMute (mute : matcher.IsMute category) : ¬ matcher.IsLive category := by
  rintro ⟨texts, length, something⟩
  exact something (mute.values_eq_nil 0 ((List.length_map _).trans length))

end

/-- A matcher of a compiled plugin that has to yield a text is live, unless its name is blank or its
template refers to no group of its pattern; then no value comes of anything that it matches. -/
theorem isLive_iff {spec : Spec} {plugin : Plugin} (compiled : compile spec = .ok plugin)
    {category : Category} (requires : category ≠ .indicators) {field : Field} {matcher : Matcher}
    (member : matcher ∈ plugin.lookup field category) :
    (matcher.IsLive category ↔ ¬ matcher.IsMute category) ∧
      (matcher.IsMute category → ∀ index value,
        category.values (matcher.apply index value) = []) := by
  obtain ⟨written, -, made⟩ := exists_of_mem_lookup compiled member
  refine ⟨⟨?_, isLive_of_not_isMute made requires⟩, fun mute => values_apply_of_isMute made mute⟩
  intro live mute
  exact not_isLive_of_isMute mute live

/-! ### An example -/

/-- Captures one group, and has a template that refers to another. -/
def dangling : MatcherSpec := ⟨"v([0-9])", none, none, none, some "\\2"⟩

/-- Captures one group, and has a blank name. -/
def blankName : MatcherSpec := ⟨"v([0-9])", none, some " ", none, none⟩

def muteSpec : Spec :=
  ((Spec.named "x").withMatcher .matchers .body dangling).withMatcher
    .modularMatchers .body blankName

theorem isLive_iff_muteSpec :
    ∃ plugin, compile muteSpec = .ok plugin ∧ ∃ matcher ∈ plugin.lookup .body .matchers,
      ¬ matcher.IsLive .matchers ∧
      ∀ index value, Category.values .matchers (matcher.apply index value) = [] := by
  have silent {plugin : Plugin} (compiled : compile muteSpec = .ok plugin) {matcher : Matcher}
      (member : matcher ∈ plugin.lookup .body .matchers) (mute : matcher.IsMute .matchers) :
      ¬ matcher.IsLive .matchers ∧
        ∀ index value, Category.values .matchers (matcher.apply index value) = [] := by
    obtain ⟨live, nothing⟩ := isLive_iff compiled Category.noConfusion member
    exact ⟨mt live.mp (not_not.mpr mute), nothing mute⟩
  refine ⟨_, rfl, _, List.mem_cons_self, silent rfl List.mem_cons_self ?_⟩
  exact .template nofun rfl (by decide)

theorem compile_accepts_mute :
    ∃ plugin, compile muteSpec = .ok plugin ∧
      (∃ matcher ∈ plugin.lookup .body .matchers, ¬ matcher.IsLive .matchers) ∧
      ∃ matcher ∈ plugin.lookup .body .modularMatchers, ¬ matcher.IsLive .modularMatchers := by
  refine ⟨_, rfl, ⟨_, List.mem_cons_self, not_isLive_of_isMute ?_⟩,
    ⟨_, List.mem_cons_self, not_isLive_of_isMute ?_⟩⟩
  · refine .template nofun rfl ?_
    decide
  · exact .name rfl rfl rfl

end Plugin

end Fingerprint
