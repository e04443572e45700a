import Fingerprint.Proofs.Probe

/-!
Runs of a probe: what its outcome owes to each evaluation, and to the deadline.

The clock is looked at only if a block fails. So a block that the deadline interrupts makes the whole
probe fail, whereas a check that it interrupts counts as one that yields nothing.
-/

set_option autoImplicit false

namespace Fingerprint

namespace Completion

variable {Value : Type}

/-- The report of the error that ended an evaluation. -/
def failure? : Completion Value → Option String
  | .value _ => none
  | .thrown text | .interrupted text => some text

def isInterrupted : Completion Value → Bool
  | .interrupted _ => true
  | _ => false

theorem isSome_failure?_of_isInterrupted {completion : Completion Value}
    (interrupted : completion.isInterrupted) : completion.failure?.isSome := by
  cases completion with
  | value value => cases interrupted
  | thrown text | interrupted text => rfl

end Completion

namespace ScriptEngine

/-! ### Evaluations -/

/-- How scripts end that are evaluated one after the other, each with the state that it leaves. -/
def evaluations (engine : ScriptEngine) (state : engine.State) :
    List String → List (Completion engine.Value × engine.State)
  | [] => []
  | source :: rest =>
    engine.evaluate state source :: engine.evaluations (engine.evaluate state source).2 rest

variable (engine : ScriptEngine)

/-- The state that scripts leave behind. -/
def after (state : engine.State) (sources : List String) : engine.State :=
  sources.foldl (fun state source => (engine.evaluate state source).2) state

@[simp] theorem after_cons (state : engine.State) (source : String) (rest : List String) :
    engine.after state (source :: rest) = engine.after (engine.evaluate state source).2 rest := rfl

/-- Whether the evaluation of a check makes its matcher apply. -/
def applies : Completion engine.Value → Bool
  | .value value => engine.kind value ≠ .absent
  | .thrown _ | .interrupted _ => false

/-- The report of an error, if the deadline has passed by then. -/
def late? (evaluation : Completion engine.Value × engine.State) : Option String :=
  if engine.expired evaluation.2 then evaluation.1.failure? else none

/-- An evaluation is interrupted only if the deadline has passed. -/
def InterruptsAtDeadline : Prop :=
  ∀ state source, (engine.evaluate state source).1.isInterrupted →
    engine.expired (engine.evaluate state source).2

/-- One of the blocks fails. -/
def Fails (state : engine.State) (blocks : List String) : Prop :=
  ∃ evaluation ∈ engine.evaluations state blocks, evaluation.1.failure?.isSome

/-- One of the blocks fails, and the deadline has passed by then. -/
def FailsLate (state : engine.State) (blocks : List String) : Prop :=
  ∃ evaluation ∈ engine.evaluations state blocks, (engine.late? evaluation).isSome

/-- One of the matchers applies. -/
def SomeApplies (state : engine.State) (matchers : List Plugin.ScriptMatcher) : Prop :=
  ∃ evaluation ∈ engine.evaluations state (matchers.map (·.check)), engine.applies evaluation.1

/-- Every evaluation of a run is an evaluation in some state. -/
theorem exists_of_mem_evaluations {state : engine.State} {sources : List String}
    {evaluation : Completion engine.Value × engine.State}
    (evaluated : evaluation ∈ engine.evaluations state sources) :
    ∃ before source, evaluation = engine.evaluate before source := by
  induction sources generalizing state with
  | nil => cases evaluated
  | cons source rest ih =>
    rw [evaluations, List.mem_cons] at evaluated
    obtain here | later := evaluated
    · exact ⟨state, source, here⟩
    · exact ih later

theorem fails_of_failsLate {state : engine.State} {blocks : List String}
    (late : engine.FailsLate state blocks) : engine.Fails state blocks := by
  obtain ⟨evaluation, evaluated, isLate⟩ := late
  refine ⟨evaluation, evaluated, ?_⟩
  rw [late?] at isLate
  split at isLate
  · exact isLate
  · cases isLate

theorem fails_iff_findSome? {state : engine.State} {blocks : List String} :
    engine.Fails state blocks ↔
      ((engine.evaluations state blocks).findSome? (·.1.failure?)).isSome := by
  rw [List.isSome_findSome?, List.any_eq_true]
  rfl

/-- A block that the deadline interrupts fails late. -/
theorem failsLate_of_isInterrupted {state : engine.State} {blocks : List String}
    {evaluation : Completion engine.Value × engine.State}
    (byDeadline : engine.InterruptsAtDeadline)
    (evaluated : evaluation ∈ engine.evaluations state blocks)
    (interrupted : evaluation.1.isInterrupted) : engine.FailsLate state blocks := by
  refine ⟨evaluation, evaluated, ?_⟩
  obtain ⟨before, source, rfl⟩ := engine.exists_of_mem_evaluations evaluated
  have expired : engine.expired (engine.evaluate before source).2 := byDeadline _ _ interrupted
  rw [late?, if_pos expired]
  exact Completion.isSome_failure?_of_isInterrupted interrupted

/-! ### Blocks -/

theorem runBlocks_cons (matchers : List Plugin.ScriptMatcher) (fault : Option ScriptFault)
    (state : engine.State) (index : Nat) (block : String) (rest : List String) :
    (engine.runBlocks matchers fault state index (block :: rest)).outcome =
      match engine.late? (engine.evaluate state block) with
      | some text => .scriptFailed (.timedOut text)
      | none =>
        (engine.runBlocks matchers
          (fault.or ((engine.evaluate state block).1.failure?.map .failed))
          (engine.evaluate state block).2 (index + 1) rest).outcome := by
  rw [runBlocks, late?]
  rcases engine.evaluate state block with ⟨completion, next⟩
  cases completion with
  | value value =>
    simp only [Completion.failure?, ite_self, Option.map_none, Option.or_none]
  | thrown text | interrupted text =>
    by_cases expired : engine.expired next
    · simp only [Completion.failure?, expired, ↓reduceIte]
    · simp only [Completion.failure?, expired, Bool.false_eq_true, ↓reduceIte, Option.map_some,
        ProbeReport.note]

/-- The first failure past the deadline ends a run of blocks; without one, matchers are tried in the
state that all the blocks leave behind, and the first failure is at hand if none applies. -/
theorem runBlocks_outcome (matchers : List Plugin.ScriptMatcher) (fault : Option ScriptFault)
    (state : engine.State) (index : Nat) (blocks : List String) :
    (engine.runBlocks matchers fault state index blocks).outcome =
      match (engine.evaluations state blocks).findSome? engine.late? with
      | some text => .scriptFailed (.timedOut text)
      | none =>
        (engine.tryMatchers
          (fault.or (((engine.evaluations state blocks).findSome? (·.1.failure?)).map .failed))
          (engine.after state blocks) 0 matchers).outcome := by
  induction blocks generalizing fault state index with
  | nil => simp only [runBlocks, evaluations, List.findSome?_nil, Option.map_none, Option.or_none,
      after, List.foldl_nil]
  | cons block rest ih =>
    rw [runBlocks_cons, evaluations, List.findSome?_cons, List.findSome?_cons]
    cases late : engine.late? (engine.evaluate state block) with
    | some text => rfl
    | none =>
      dsimp only
      rw [ih, after_cons]
      cases failed : (engine.evaluate state block).1.failure? with
      | none => simp only [Option.map_none, Option.or_none]
      | some text => simp only [Option.map_some, Option.or_assoc, Option.some_or]

/-! ### Matchers -/

/-- The outcome if no matcher applies. -/
def unmatched (fault : Option ScriptFault) : ProbeOutcome :=
  fault.elim .noMatch .scriptFailed

/-- A matcher that does not apply is passed over, whichever way its check ends. -/
theorem tryMatchers_cons_of_not_applies {fault : Option ScriptFault} {state : engine.State}
    {start : Nat} {matcher : Plugin.ScriptMatcher} {rest : List Plugin.ScriptMatcher}
    (passed : ¬ engine.applies (engine.evaluate state matcher.check).1) :
    (engine.tryMatchers fault state start (matcher :: rest)).outcome =
      (engine.tryMatchers fault (engine.evaluate state matcher.check).2 (start + 1) rest).outcome := by
  rw [tryMatchers]
  rcases checked : engine.evaluate state matcher.check with ⟨completion, next⟩
  rw [checked] at passed
  cases completion with
  | value value =>
    have absent : engine.kind value = .absent := by
      simpa only [applies, decide_eq_true_eq, Decidable.not_not] using passed
    simp only [absent, ↓reduceIte]
  | thrown text | interrupted text => rfl

theorem tryMatchers_cons_of_applies {fault : Option ScriptFault} {state : engine.State}
    {start : Nat} {matcher : Plugin.ScriptMatcher} {rest : List Plugin.ScriptMatcher}
    (applied : engine.applies (engine.evaluate state matcher.check).1) :
    (engine.tryMatchers fault state start (matcher :: rest)).outcome =
      .matched start
        (engine.version (engine.evaluate state matcher.check).2 matcher.version).1 := by
  rw [tryMatchers]
  rcases checked : engine.evaluate state matcher.check with ⟨completion, next⟩
  rw [checked] at applied
  cases completion with
  | value value =>
    have present : engine.kind value ≠ .absent := of_decide_eq_true applied
    simp only [present, ↓reduceIte]
  | thrown text | interrupted text => cases applied

/-- Matchers that do not apply are passed over, and what their checks do to the state remains. -/
theorem tryMatchers_append (fault : Option ScriptFault) {state : engine.State} (start : Nat)
    {passed : List Plugin.ScriptMatcher} (rest : List Plugin.ScriptMatcher)
    (nothing : ∀ evaluation ∈ engine.evaluations state (passed.map (·.check)),
      ¬ engine.applies evaluation.1) :
    (engine.tryMatchers fault state start (passed ++ rest)).outcome =
      (engine.tryMatchers fault (engine.after state (passed.map (·.check)))
        (start + passed.length) rest).outcome := by
  induction passed generalizing state start with
  | nil => rfl
  | cons matcher passed ih =>
    rw [List.map_cons, evaluations, List.forall_mem_cons] at nothing
    rw [List.cons_append, engine.tryMatchers_cons_of_not_applies nothing.1, ih _ nothing.2,
      List.map_cons, after_cons, List.length_cons, Nat.add_right_comm, Nat.add_assoc]

theorem tryMatchers_of_not_someApplies {fault : Option ScriptFault} {state : engine.State}
    {start : Nat} {matchers : List Plugin.ScriptMatcher}
    (nothing : ¬ engine.SomeApplies state matchers) :
    (engine.tryMatchers fault state start matchers).outcome = unmatched fault := by
  have passed := engine.tryMatchers_append fault start [] fun evaluation evaluated applied =>
    nothing ⟨evaluation, evaluated, applied⟩
  rw [List.append_nil] at passed
  rw [passed]
  cases fault <;> rfl

theorem tryMatchers_of_someApplies (fault : Option ScriptFault) {state : engine.State}
    (start : Nat) {matchers : List Plugin.ScriptMatcher}
    (applied : engine.SomeApplies state matchers) :
    ∃ index version,
      (engine.tryMatchers fault state start matchers).outcome = .matched index version := by
  induction matchers generalizing state start with
  | nil =>
    obtain ⟨evaluation, evaluated, _⟩ := applied
    cases evaluated
  | cons matcher rest ih =>
    by_cases here : engine.applies (engine.evaluate state matcher.check).1
    · exact ⟨_, _, engine.tryMatchers_cons_of_applies here⟩
    · obtain ⟨evaluation, evaluated, applies⟩ := applied
      rw [List.map_cons, evaluations, List.mem_cons] at evaluated
      have later := evaluated.resolve_left fun first => here (first ▸ applies)
      rw [engine.tryMatchers_cons_of_not_applies here]
      exact ih (start + 1) ⟨evaluation, later, applies⟩

end ScriptEngine

namespace ScriptProbe

open ScriptEngine (unmatched)

/-- A probe that gets as far as the blocks, and the state in which it evaluates the first one. -/
structure Begins (probe : ScriptProbe) (engine : ScriptEngine) (blocks : List String)
    (matchers : List Plugin.ScriptMatcher) (state : engine.State) : Prop where
  asked : matchers ≠ []
  short : totalBytes blocks ≤ probe.limits.maxScriptBytes
  reachable : probe.limits.timeLimit.reachableFrom engine.now
  sandbox : ∃ created, engine.create probe.limits = some created ∧ engine.seed created = .ok state

section

variable {probe : ScriptProbe} {engine : ScriptEngine} {blocks : List String}
  {matchers : List Plugin.ScriptMatcher} {state : engine.State}
  (begins : probe.Begins engine blocks matchers state)

include begins

theorem report_of_begins :
    probe.report engine blocks matchers = .ok (engine.runBlocks matchers none state 0 blocks) := by
  obtain ⟨asked, short, reachable, created, isCreated, seeded⟩ := begins
  have inhabited : matchers.isEmpty = false := by rwa [List.isEmpty_eq_false_iff]
  simp only [report, inhabited, Nat.not_lt.mpr short, reachable, isCreated, seeded, Bool.not_true,
    Bool.false_eq_true, ↓reduceIte]

theorem probe_of_begins :
    probe.probe engine blocks matchers =
      .ok (match (engine.evaluations state blocks).findSome? engine.late? with
        | some text => .scriptFailed (.timedOut text)
        | none =>
          (engine.tryMatchers
            (((engine.evaluations state blocks).findSome? (·.1.failure?)).map .failed)
            (engine.after state blocks) 0 matchers).outcome) := by
  rw [probe_eq, report_of_begins begins, Except.map, engine.runBlocks_outcome, Option.none_or]

theorem probe_of_failsLate (late : engine.FailsLate state blocks) :
    ∃ text, probe.probe engine blocks matchers = .ok (.scriptFailed (.timedOut text)) := by
  rw [probe_of_begins begins]
  cases found : (engine.evaluations state blocks).findSome? engine.late? with
  | some text => exact ⟨text, rfl⟩
  | none =>
    obtain ⟨evaluation, evaluated, isLate⟩ := late
    rw [List.findSome?_eq_none_iff.mp found evaluation evaluated] at isLate
    cases isLate

theorem probe_of_not_failsLate (inTime : ¬ engine.FailsLate state blocks) :
    probe.probe engine blocks matchers =
      .ok (engine.tryMatchers
        (((engine.evaluations state blocks).findSome? (·.1.failure?)).map .failed)
        (engine.after state blocks) 0 matchers).outcome := by
  have never : (engine.evaluations state blocks).findSome? engine.late? = none := by
    rw [List.findSome?_eq_none_iff]
    intro evaluation evaluated
    exact Option.not_isSome_iff_eq_none.mp fun late => inTime ⟨evaluation, evaluated, late⟩
  rw [probe_of_begins begins, never]

/-- A block that the deadline interrupts makes the whole probe fail. A check that it interrupts does
not, since it counts as one that yields nothing: a script failure is the outcome exactly if a block
fails late, or if a block fails and no matcher applies. Otherwise the outcome is a matcher that
applies, or else that there is none. -/
theorem probe_under_deadline (byDeadline : engine.InterruptsAtDeadline) :
    ((∃ evaluation ∈ engine.evaluations state blocks, evaluation.1.isInterrupted) →
      ∃ text, probe.probe engine blocks matchers = .ok (.scriptFailed (.timedOut text))) ∧
    ((∃ fault, probe.probe engine blocks matchers = .ok (.scriptFailed fault)) ↔
      engine.FailsLate state blocks ∨
        engine.Fails state blocks ∧ ¬ engine.SomeApplies (engine.after state blocks) matchers) ∧
    (probe.probe engine blocks matchers = .ok .noMatch ↔
      ¬ engine.Fails state blocks ∧ ¬ engine.SomeApplies (engine.after state blocks) matchers) ∧
    ((∃ index version, probe.probe engine blocks matchers = .ok (.matched index version)) ↔
      ¬ engine.FailsLate state blocks ∧ engine.SomeApplies (engine.after state blocks) matchers) := by
  refine ⟨fun ⟨_, evaluated, interrupted⟩ => probe_of_failsLate begins
    (engine.failsLate_of_isInterrupted byDeadline evaluated interrupted), ?_⟩
  by_cases late : engine.FailsLate state blocks
  · obtain ⟨text, outcome⟩ := probe_of_failsLate begins late
    have failed := engine.fails_of_failsLate late
    simp [outcome, late, failed]
  · have outcome := probe_of_not_failsLate begins late
    by_cases applied : engine.SomeApplies (engine.after state blocks) matchers
    · obtain ⟨index, version, matched⟩ := engine.tryMatchers_of_someApplies
        (((engine.evaluations state blocks).findSome? (·.1.failure?)).map .failed) 0 applied
      rw [matched] at outcome
      simp [outcome, late, applied]
    · rw [engine.tryMatchers_of_not_someApplies applied] at outcome
      rw [engine.fails_iff_findSome?]
      cases failed : (engine.evaluations state blocks).findSome? (·.1.failure?) with
      | none =>
        rw [failed] at outcome
        simp [outcome, late, applied, unmatched]
      | some text =>
        rw [failed] at outcome
        simp [outcome, late, applied, unmatched]

end

end ScriptProbe

/-! ### An endless loop -/

namespace EndlessLoop

/-- A script that only the deadline ends. -/
def source : String := "while (true) {}"

/-- An engine for that script and for numerals, whose value is the numeral; its state tells whether
the deadline has passed. -/
def engine : ScriptEngine where
  State := Bool
  Value := String
  now := ⟨0, 0⟩
  create _ := some false
  seed state := .ok state
  evaluate state text :=
    if text = source then (.interrupted "Error: interrupted", true) else (.value text, state)
  expired state := state
  kind _ := .printable
  toText _ numeral := some numeral

theorem interruptsAtDeadline : engine.InterruptsAtDeadline := by
  intro state text interrupted
  by_cases isLoop : text = source
  · exact congrArg Prod.snd (if_pos isLoop)
  · have ended : engine.evaluate state text = (.value text, state) := if_neg isLoop
    rw [ended] at interrupted
    cases interrupted

/-- The probe of one block that asks one check. -/
theorem begins (block check : String) (short : ScriptProbe.totalBytes [block] ≤ 524288) :
    ScriptProbe.standard.Begins engine [block] [⟨check, "1"⟩] false where
  asked := List.cons_ne_nil _ _
  short := short
  reachable := by decide
  sandbox := ⟨false, rfl, rfl⟩

end EndlessLoop

open EndlessLoop in
/-- A block that never ends makes the probe fail. -/
theorem ScriptProbe.probe_under_deadline_endless :
    engine.InterruptsAtDeadline ∧
      ScriptProbe.standard.Begins engine [source] [⟨"1", "1"⟩] false ∧
      ∃ text, ScriptProbe.standard.probe engine [source] [⟨"1", "1"⟩] =
        .ok (.scriptFailed (.timedOut text)) :=
  have begun := begins source "1" (by decide)
  ⟨interruptsAtDeadline, begun,
    (ScriptProbe.probe_under_deadline begun interruptsAtDeadline).1
      ⟨engine.evaluate false source, List.mem_cons_self, by decide⟩⟩

open EndlessLoop in
/-- A check that never ends goes unnoticed. -/
theorem ScriptProbe.probe_misses_deadline :
    engine.InterruptsAtDeadline ∧
      ScriptProbe.standard.Begins engine ["1"] [⟨source, "1"⟩] false ∧
      (engine.evaluate (engine.after false ["1"]) source).1.isInterrupted ∧
      ScriptProbe.standard.probe engine ["1"] [⟨source, "1"⟩] = .ok .noMatch :=
  ⟨interruptsAtDeadline, begins "1" source (by decide), by decide, by rfl⟩

end Fingerprint
