import Fingerprint.Proofs.ProbeRun
import Mathlib.Data.Nat.Find

/-!
The outcome of a probe that the deadline leaves alone, told by places in the lists of blocks and
matchers.

Every block and every check is evaluated in the state that all the sources in front of it leave
behind, those that fail included. The first matcher that applies is the outcome; if there is none, it
is the first failure of a block.
-/

set_option autoImplicit false

namespace Fingerprint

namespace ScriptEngine

variable (engine : ScriptEngine)

/-! ### Places -/

/-- The state in which the source at a place is evaluated. -/
def stateAt (state : engine.State) (sources : List String) (place : Nat) : engine.State :=
  engine.after state (sources.take place)

/-- The report of the failure of the source at a place. -/
def failureAt? (state : engine.State) (sources : List String) (place : Nat) : Option String :=
  sources[place]?.bind fun source =>
    (engine.evaluate (engine.stateAt state sources place) source).1.failure?

/-- Whether the check at a place yields a value other than undefined and null. -/
def appliesAt (state : engine.State) (checks : List String) (place : Nat) : Bool :=
  checks[place]?.any fun check =>
    engine.applies (engine.evaluate (engine.stateAt state checks place) check).1

/-- The check at a place is the first one that yields a value. -/
structure AppliesFirst (state : engine.State) (checks : List String) (place : Nat) : Prop where
  applies : engine.appliesAt state checks place
  earlier : ∀ before < place, ¬ engine.appliesAt state checks before

/-- The source at a place is the first one that fails. -/
structure FailsFirst (state : engine.State) (sources : List String) (place : Nat) (text : String) :
    Prop where
  failure : engine.failureAt? state sources place = some text
  earlier : ∀ before < place, engine.failureAt? state sources before = none

/-- An expression yields a text, a number or a truth value, whose text is this one. -/
def Prints (state : engine.State) (expression text : String) : Prop :=
  ∃ value next, engine.evaluate state expression = (.value value, next) ∧
    engine.kind value = .printable ∧ engine.toText next value = some text

/-- The deadline has not passed when a block ends. -/
def InTime (state : engine.State) (blocks : List String) : Prop :=
  ∀ evaluation ∈ engine.evaluations state blocks, ¬ engine.expired evaluation.2

theorem not_failsLate_of_inTime {state : engine.State} {blocks : List String}
    (inTime : engine.InTime state blocks) : ¬ engine.FailsLate state blocks := by
  rintro ⟨evaluation, evaluated, late⟩
  rw [late?, if_neg (inTime evaluation evaluated)] at late
  cases late

theorem getElem?_evaluations (state : engine.State) (sources : List String) (place : Nat) :
    (engine.evaluations state sources)[place]? =
      sources[place]?.map (engine.evaluate (engine.stateAt state sources place)) := by
  induction sources generalizing state place with
  | nil => rfl
  | cons source rest ih =>
    cases place with
    | zero => rfl
    | succ place =>
      rw [evaluations, List.getElem?_cons_succ, List.getElem?_cons_succ, ih]
      rfl

theorem evaluations_take (state : engine.State) (sources : List String) (place : Nat) :
    engine.evaluations state (sources.take place) =
      (engine.evaluations state sources).take place := by
  induction sources generalizing state place with
  | nil => rw [List.take_nil, evaluations, List.take_nil]
  | cons source rest ih =>
    cases place with
    | zero => rfl
    | succ place => rw [List.take_succ_cons, evaluations, evaluations, List.take_succ_cons, ih]

theorem stateAt_succ (state : engine.State) {sources : List String} {place : Nat}
    {source : String} (found : sources[place]? = some source) :
    engine.stateAt state sources (place + 1) =
      (engine.evaluate (engine.stateAt state sources place) source).2 := by
  rw [stateAt, stateAt, List.take_add_one, found, Option.toList_some, after, List.foldl_append]
  rfl

/-! ### Failures -/

theorem failureAt?_eq (state : engine.State) (blocks : List String) (place : Nat) :
    engine.failureAt? state blocks place =
      (engine.evaluations state blocks)[place]?.bind (·.1.failure?) := by
  rw [failureAt?, getElem?_evaluations]
  cases blocks[place]? with
  | none => rfl
  | some block => rfl

theorem findSome?_of_failsFirst {state : engine.State} {blocks : List String} {place : Nat}
    {text : String} (first : engine.FailsFirst state blocks place text) :
    (engine.evaluations state blocks).findSome? (·.1.failure?) = some text := by
  obtain ⟨failure, earlier⟩ := first
  rw [failureAt?_eq, Option.bind_eq_some_iff] at failure
  obtain ⟨evaluation, found, failed⟩ := failure
  obtain ⟨inside, rfl⟩ := List.getElem?_eq_some_iff.mp found
  rw [List.findSome?_eq_some_iff]
  have split : engine.evaluations state blocks =
      (engine.evaluations state blocks).take place ++
        (engine.evaluations state blocks)[place] ::
          (engine.evaluations state blocks).drop (place + 1) := by
    rw [List.getElem_cons_drop, List.take_append_drop]
  refine ⟨_, _, _, split, failed, ?_⟩
  intro other front
  obtain ⟨before, isBefore, rfl⟩ := List.mem_take_iff_getElem.mp front
  have passed := earlier before (by omega)
  rwa [failureAt?_eq, List.getElem?_eq_getElem (by omega), Option.bind_some] at passed

theorem findSome?_of_no_failure {state : engine.State} {blocks : List String}
    (unharmed : ∀ place, engine.failureAt? state blocks place = none) :
    (engine.evaluations state blocks).findSome? (·.1.failure?) = none := by
  rw [List.findSome?_eq_none_iff]
  intro evaluation evaluated
  obtain ⟨place, found⟩ := List.mem_iff_getElem?.mp evaluated
  have passed := unharmed place
  rwa [failureAt?_eq, found, Option.bind_some] at passed

/-- If any block fails, then one of them is the first. -/
theorem failsFirst_or_no_failure (state : engine.State) (blocks : List String) :
    (∃ place text, engine.FailsFirst state blocks place text) ∨
      ∀ place, engine.failureAt? state blocks place = none := by
  by_cases failing : ∃ place, engine.failureAt? state blocks place ≠ none
  · obtain ⟨text, failure⟩ := Option.ne_none_iff_exists'.mp (Nat.find_spec failing)
    exact .inl ⟨_, text, failure, fun before front =>
      not_not.mp (Nat.find_min failing front)⟩
  · exact .inr fun place => not_not.mp fun failure => failing ⟨place, failure⟩

/-! ### Matchers -/

theorem version_eq_some_iff {state : engine.State} {expression text : String} :
    (engine.version state expression).1 = some text ↔ engine.Prints state expression text := by
  rw [version, Prints]
  rcases engine.evaluate state expression with ⟨completion, next⟩
  cases completion with
  | value value =>
    dsimp only
    constructor
    · intro printed
      split at printed
      next printable => exact ⟨value, next, rfl, printable, printed⟩
      next => cases printed
    · rintro ⟨_, _, same, printable, printed⟩
      cases same
      rw [printable]
      exact printed
  | thrown report | interrupted report =>
    refine ⟨nofun, ?_⟩
    rintro ⟨_, _, same, _⟩
    cases same

theorem appliesAt_eq (state : engine.State) (checks : List String) (place : Nat) :
    engine.appliesAt state checks place =
      (engine.evaluations state checks)[place]?.any (engine.applies ·.1) := by
  rw [appliesAt, getElem?_evaluations]
  cases checks[place]? with
  | none => rfl
  | some check => rfl

theorem someApplies_iff {state : engine.State} {matchers : List Plugin.ScriptMatcher} :
    engine.SomeApplies state matchers ↔
      ∃ place, engine.appliesAt state (matchers.map (·.check)) place := by
  constructor
  · rintro ⟨evaluation, evaluated, applied⟩
    obtain ⟨place, found⟩ := List.mem_iff_getElem?.mp evaluated
    exact ⟨place, by rwa [appliesAt_eq, found, Option.any_some]⟩
  · rintro ⟨place, applied⟩
    rw [appliesAt_eq, Option.any_eq_true] at applied
    obtain ⟨evaluation, found, applies⟩ := applied
    exact ⟨evaluation, List.mem_of_getElem? found, applies⟩

/-- If any matcher applies, then one of them is the first. -/
theorem exists_appliesFirst {state : engine.State} {checks : List String}
    (applied : ∃ place, engine.appliesAt state checks place) :
    ∃ place, engine.AppliesFirst state checks place :=
  ⟨Nat.find applied, Nat.find_spec applied, fun _ front => Nat.find_min applied front⟩

theorem AppliesFirst.exists_matcher {state : engine.State}
    {matchers : List Plugin.ScriptMatcher} {place : Nat}
    (first : engine.AppliesFirst state (matchers.map (·.check)) place) :
    ∃ matcher, matchers[place]? = some matcher := by
  have applies := first.applies
  rw [appliesAt, List.getElem?_map, Option.any_map, Option.any_eq_true] at applies
  obtain ⟨matcher, found, _⟩ := applies
  exact ⟨matcher, found⟩

/-- The first matcher that applies is the outcome, and its version is read off the state that its
check leaves behind. -/
theorem tryMatchers_of_appliesFirst (fault : Option ScriptFault) {state : engine.State}
    {matchers : List Plugin.ScriptMatcher} {place : Nat} {matcher : Plugin.ScriptMatcher}
    (found : matchers[place]? = some matcher)
    (first : engine.AppliesFirst state (matchers.map (·.check)) place) :
    (engine.tryMatchers fault state 0 matchers).outcome =
      .matched place
        (engine.version (engine.stateAt state (matchers.map (·.check)) (place + 1))
          matcher.version).1 := by
  obtain ⟨inside, rfl⟩ := List.getElem?_eq_some_iff.mp found
  have foundCheck : (matchers.map (·.check))[place]? = some matchers[place].check := by
    rw [List.getElem?_map, found, Option.map_some]
  have passed : ∀ evaluation ∈ engine.evaluations state ((matchers.take place).map (·.check)),
      ¬ engine.applies evaluation.1 := by
    intro evaluation evaluated applied
    rw [List.map_take, evaluations_take] at evaluated
    obtain ⟨before, isBefore, rfl⟩ := List.mem_take_iff_getElem.mp evaluated
    refine first.earlier before (by omega) ?_
    rwa [appliesAt_eq, List.getElem?_eq_getElem (by omega), Option.any_some]
  have applied : engine.applies
      (engine.evaluate (engine.stateAt state (matchers.map (·.check)) place)
        matchers[place].check).1 := by
    have applies := first.applies
    rwa [appliesAt, foundCheck, Option.any_some] at applies
  have tried := engine.tryMatchers_append fault 0 (matchers[place] :: matchers.drop (place + 1))
    passed
  rw [List.getElem_cons_drop, List.take_append_drop, List.map_take,
    List.length_take_of_le (Nat.le_of_lt inside), Nat.zero_add] at tried
  rw [tried, ← List.getElem_cons_drop inside, engine.stateAt_succ state foundCheck]
  exact engine.tryMatchers_cons_of_applies applied

end ScriptEngine

namespace ScriptProbe

open ScriptEngine (unmatched)

section

variable {probe : ScriptProbe} {engine : ScriptEngine} {blocks : List String}
  {matchers : List Plugin.ScriptMatcher} {state : engine.State}

theorem probe_of_appliesFirst (begins : probe.Begins engine blocks matchers state)
    (inTime : ¬ engine.FailsLate state blocks) {place : Nat} {matcher : Plugin.ScriptMatcher}
    (found : matchers[place]? = some matcher)
    (first : engine.AppliesFirst (engine.after state blocks) (matchers.map (·.check)) place) :
    probe.probe engine blocks matchers = .ok (.matched place
      (engine.version
        (engine.stateAt (engine.after state blocks) (matchers.map (·.check)) (place + 1))
        matcher.version).1) := by
  rw [probe_of_not_failsLate begins inTime, engine.tryMatchers_of_appliesFirst _ found first]

theorem probe_of_none_applies (begins : probe.Begins engine blocks matchers state)
    (inTime : ¬ engine.FailsLate state blocks)
    (nothing : ∀ place,
      ¬ engine.appliesAt (engine.after state blocks) (matchers.map (·.check)) place) :
    probe.probe engine blocks matchers = .ok (unmatched
      (((engine.evaluations state blocks).findSome? (·.1.failure?)).map .failed)) := by
  have unapplied : ¬ engine.SomeApplies (engine.after state blocks) matchers := fun applied =>
    not_exists.mpr nothing (engine.someApplies_iff.mp applied)
  rw [probe_of_not_failsLate begins inTime, engine.tryMatchers_of_not_someApplies unapplied]

/-- What a matcher that is the outcome owes to its place and to the state that its check leaves
behind, however late it is. -/
theorem appliesFirst_of_matched (begins : probe.Begins engine blocks matchers state) {place : Nat}
    {version : Option String}
    (matched : probe.probe engine blocks matchers = .ok (.matched place version)) :
    engine.AppliesFirst (engine.after state blocks) (matchers.map (·.check)) place ∧
      ∃ matcher, matchers[place]? = some matcher ∧ version = (engine.version
        (engine.stateAt (engine.after state blocks) (matchers.map (·.check)) (place + 1))
        matcher.version).1 := by
  by_cases late : engine.FailsLate state blocks
  · obtain ⟨text, timedOut⟩ := probe_of_failsLate begins late
    rw [timedOut] at matched
    cases matched
  · by_cases applied : ∃ place,
        engine.appliesAt (engine.after state blocks) (matchers.map (·.check)) place
    · obtain ⟨first, isFirst⟩ := engine.exists_appliesFirst applied
      obtain ⟨matcher, found⟩ := isFirst.exists_matcher
      rw [probe_of_appliesFirst begins late found isFirst] at matched
      cases matched
      exact ⟨isFirst, matcher, found, rfl⟩
    · rw [probe_of_none_applies begins late (not_exists.mp applied)] at matched
      cases failed : (engine.evaluations state blocks).findSome? (·.1.failure?) with
      | none | some text =>
        rw [failed] at matched
        cases matched

/-- If the deadline leaves a probe alone, then all blocks are evaluated, and a matcher is the outcome
exactly if its check is the first one that yields a value, whether blocks fail or not. Without such a
matcher the outcome is the first failure of a block, if there is one. -/
theorem probe_in_time (begins : probe.Begins engine blocks matchers state)
    (inTime : engine.InTime state blocks) :
    let settled := engine.after state blocks
    let checks := matchers.map (·.check)
    (∀ place version,
      probe.probe engine blocks matchers = .ok (.matched place version) ↔
        engine.AppliesFirst settled checks place ∧
        ∃ matcher, matchers[place]? = some matcher ∧ ∀ text, version = some text ↔
          engine.Prints (engine.stateAt settled checks (place + 1)) matcher.version text) ∧
    ((∀ place, ¬ engine.appliesAt settled checks place) →
      (∃ place text, engine.FailsFirst state blocks place text ∧
        probe.probe engine blocks matchers = .ok (.scriptFailed (.failed text))) ∨
      (∀ place, engine.failureAt? state blocks place = none) ∧
        probe.probe engine blocks matchers = .ok .noMatch) := by
  intro settled checks
  have never := engine.not_failsLate_of_inTime inTime
  refine ⟨fun place version => ⟨fun matched => ?_, ?_⟩, fun nothing => ?_⟩
  · obtain ⟨first, matcher, found, rfl⟩ := appliesFirst_of_matched begins matched
    exact ⟨first, matcher, found, fun text => engine.version_eq_some_iff⟩
  · rintro ⟨first, matcher, found, printed⟩
    have same : version =
        (engine.version (engine.stateAt settled checks (place + 1)) matcher.version).1 := by
      refine Option.ext fun text => ?_
      rw [engine.version_eq_some_iff, printed]
    rw [probe_of_appliesFirst begins never found first, same]
  · rw [probe_of_none_applies begins never nothing]
    obtain ⟨place, text, first⟩ | unharmed := engine.failsFirst_or_no_failure state blocks
    · exact .inl ⟨place, text, first, by rw [engine.findSome?_of_failsFirst first]; rfl⟩
    · exact .inr ⟨unharmed, by rw [engine.findSome?_of_no_failure unharmed]; rfl⟩

end

end ScriptProbe

/-! ### Scripts that note names -/

namespace NameScripts

/-- An engine for scripts that are names: `+a` notes the name `a`, `!a` does so and fails, and a bare
name is its own value if it was noted. -/
def engine : ScriptEngine where
  State := List String
  Value := Option String
  now := ⟨0, 0⟩
  create _ := some []
  seed noted := .ok ("window" :: noted)
  evaluate noted source :=
    match source.toList with
    | '+' :: name => (.value none, String.ofList name :: noted)
    | '!' :: name => (.thrown "Error", String.ofList name :: noted)
    | _ => (.value (if source ∈ noted then some source else none), noted)
  expired _ := false
  kind value := if value.isSome then .printable else .absent
  toText _ value := value

def blocks : List String := ["!a", "+b"]

def matchers : List Plugin.ScriptMatcher := [⟨"c", "c"⟩, ⟨"!d", "d"⟩, ⟨"d", "a"⟩]

theorem begins : ScriptProbe.standard.Begins engine blocks matchers ["window"] where
  asked := List.cons_ne_nil _ _
  short := by decide
  reachable := by decide
  sandbox := ⟨[], rfl, rfl⟩

end NameScripts

open NameScripts in
/-- The third matcher applies since the check in front of it fails, and its version is found since
the first block fails. -/
theorem ScriptProbe.probe_in_time_names :
    ScriptProbe.standard.Begins engine blocks matchers ["window"] ∧
      engine.InTime ["window"] blocks ∧
      ScriptProbe.standard.probe engine blocks matchers = .ok (.matched 2 (some "a")) := by
  have inTime : engine.InTime ["window"] blocks := fun _ _ expired => Bool.noConfusion expired
  have first : engine.AppliesFirst (engine.after ["window"] blocks)
      (matchers.map (·.check)) 2 := ⟨by decide, by decide⟩
  refine ⟨begins, inTime, ((probe_in_time begins inTime).1 2 (some "a")).mpr
    ⟨first, ⟨"d", "a"⟩, rfl, fun text => ?_⟩⟩
  rw [← engine.version_eq_some_iff]
  exact Iff.of_eq (congrArg (· = some text) (by decide))

end Fingerprint
