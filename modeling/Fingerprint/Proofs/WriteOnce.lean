import Fingerprint.Detection.Callers
import Fingerprint.Proofs.FailedSetup
import Fingerprint.Script.Engine

/-!
The shared detector is written once, however its callers meet.

A step of a call leaves an installed detector where it is. Every answer agrees with the detector that
is installed when it is given, and so with the one that is installed at any time after that. An
initialisation that fails leaves the place as empty as it was, and another one may succeed.
-/

set_option autoImplicit false

namespace Fingerprint

namespace SharedDetector

/-- A detector that is installed stays where it is. -/
def KeptBy (shared later : SharedDetector) : Prop :=
  ∀ detector, shared.installed = some detector → later.installed = some detector

theorem finish_installed (shared : SharedDetector) (outcome : Except Failure Detector) :
    (shared.finish outcome).installed = shared.installed.or outcome.toOption := rfl

/-- The place is empty and nobody is about to fill it. -/
theorem eq_empty_of_free {shared : SharedDetector}
    (free : ¬ (shared.isInitialised || shared.busy)) : shared = .empty := by
  obtain ⟨installed, busy⟩ := shared
  rw [Bool.or_eq_true, not_or, isInitialised, Option.not_isSome_iff_eq_none] at free
  obtain ⟨rfl, idle⟩ := free
  obtain rfl : busy = false := Bool.eq_false_of_not_eq_true idle
  rfl

theorem begin?_eq_some {shared begun : SharedDetector} (begins : shared.begin? = some begun) :
    shared = .empty ∧ begun = ⟨none, true⟩ := by
  unfold begin? at begins
  split at begins
  next => cases begins
  next free =>
    obtain rfl := eq_empty_of_free free
    cases begins
    exact ⟨rfl, rfl⟩

/-- A detector is installed if the place is free. Otherwise nothing changes. -/
theorem offer_eq (shared : SharedDetector) (detector : Detector) :
    shared.offer detector = (shared, false) ∨
      shared = .empty ∧ shared.offer detector = (⟨some detector, false⟩, true) := by
  unfold offer
  split
  next => exact .inl rfl
  next free =>
    obtain rfl := eq_empty_of_free free
    exact .inr ⟨rfl, rfl⟩

theorem get_eq_ok_iff {shared : SharedDetector} {detector : Detector} :
    shared.get = .ok detector ↔ shared.installed = some detector := by
  unfold get
  cases shared.installed with
  | none => exact ⟨nofun, nofun⟩
  | some other => exact ⟨fun same => congrArg some (Except.ok.inj same),
      fun same => congrArg Except.ok (Option.some.inj same)⟩

theorem detect_eq_ok_iff {shared : SharedDetector} {engine : ScriptEngine}
    {transaction : Transaction} {result : DetectionResult} :
    shared.detect engine transaction = .ok result ↔ ∃ detector,
      shared.installed = some detector ∧ detector.detect engine transaction = .ok result := by
  unfold detect get
  cases shared.installed with
  | none =>
    refine ⟨nofun, ?_⟩
    rintro ⟨_, absent, _⟩
    cases absent
  | some detector =>
    constructor
    · exact fun found => ⟨detector, rfl, found⟩
    · rintro ⟨_, same, found⟩
      cases same
      exact found

end SharedDetector

theorem Detector.setsUp_setUp (threads : Threads) (files : FileTree) (config : Config) :
    SetsUp config (setUp threads files config).detector := by
  rw [setUp_detector]
  cases (Loading.run files config).specs with
  | error failure => exact .failed failure
  | ok specs =>
    rw [Except.bind]
    cases made : ofSpecs threads config specs with
    | error failure => exact .failed failure
    | ok detector => exact .built made

/-! ### A step of a call -/

namespace Request

variable {engine : ScriptEngine} {request : Request} {before after : SharedDetector × Progress}

theorem Advances.keeps (advances : request.Advances engine before after) :
    before.1.KeptBy after.1 := by
  intro detector installed
  cases advances with
  | ready | leaves | stops | present | absent | refused | gets | detects => exact installed
  | begins begins =>
    obtain ⟨rfl, _⟩ := SharedDetector.begin?_eq_some begins
    cases installed
  | ends =>
    rw [SharedDetector.finish_installed, installed, Option.some_or]
  | @offers catalog config shared =>
    obtain same | ⟨rfl, _⟩ := shared.offer_eq ⟨catalog, config⟩
    · rwa [same]
    · cases installed

/-- What an answer says about the detector that is installed. -/
def Agrees (engine : ScriptEngine) (installed : Option Detector) : Request → Answer → Prop
  | .initialise _, .initialised => installed.isSome
  | .install catalog config, .installed true => installed = some ⟨catalog, config⟩
  | .install .., .installed false => True
  | .get, .detector detector => installed = some detector
  | .detect transaction, .detection result =>
    ∃ detector, installed = some detector ∧ detector.detect engine transaction = .ok result
  | _, .failed _ => True
  | _, _ => False

theorem agrees_failed (installed : Option Detector) (failure : Failure) :
    request.Agrees engine installed (.failed failure) := by
  cases request <;> trivial

theorem Agrees.mono {shared later : SharedDetector} {answer : Answer}
    (agrees : request.Agrees engine shared.installed answer) (kept : shared.KeptBy later) :
    request.Agrees engine later.installed answer := by
  unfold Agrees at agrees
  split at agrees
  next =>
    obtain ⟨detector, installed⟩ := Option.isSome_iff_exists.mp agrees
    exact Option.isSome_iff_exists.mpr ⟨detector, kept detector installed⟩
  next => exact kept _ agrees
  next => trivial
  next => exact kept _ agrees
  next =>
    obtain ⟨detector, installed, found⟩ := agrees
    exact ⟨detector, kept detector installed, found⟩
  next => exact agrees_failed _ _
  next => exact agrees.elim

/-- Whoever gets an answer is told the truth. -/
theorem Advances.agrees (advances : request.Advances engine before after) {answer : Answer}
    (answered : after.2 = .answered answer) : request.Agrees engine after.1.installed answer := by
  cases advances with
  | begins | leaves | stops | absent => cases answered
  | ready present =>
    cases answered
    exact present
  | @ends config shared outcome =>
    cases answered
    cases outcome with
    | ok detector =>
      change ((shared.finish (.ok detector)).installed.isSome : Prop)
      rw [SharedDetector.finish_installed, Option.isSome_or, Except.toOption, Option.isSome_some,
        Bool.or_true]
    | error failure => exact agrees_failed _ failure
  | present | refused =>
    cases answered
    trivial
  | @offers catalog config shared =>
    cases answered
    obtain same | ⟨rfl, installs⟩ := shared.offer_eq ⟨catalog, config⟩
    · rw [same]
      trivial
    · rw [installs]
      rfl
  | @gets shared =>
    cases answered
    cases got : shared.get with
    | error failure => trivial
    | ok detector => exact SharedDetector.get_eq_ok_iff.mp got
  | @detects transaction shared =>
    cases answered
    cases found : shared.detect engine transaction with
    | error failure => trivial
    | ok result => exact SharedDetector.detect_eq_ok_iff.mp found

/-- Nobody is told that the detector is theirs while there is another one. -/
theorem Advances.was_absent (advances : request.Advances engine before after)
    (answered : after.2 = .answered (.installed true)) : before.1.installed = none := by
  cases advances with
  | begins | leaves | stops | absent | ready | present | refused => cases answered
  | @ends config shared outcome => cases outcome <;> cases answered
  | @offers catalog config shared =>
    obtain same | ⟨rfl, _⟩ := shared.offer_eq ⟨catalog, config⟩
    · rw [same] at answered
      cases answered
    · rfl
  | @gets shared =>
    cases got : shared.get <;> rw [got] at answered <;> cases answered
  | @detects transaction shared =>
    cases found : shared.detect engine transaction <;> rw [found] at answered <;> cases answered

/-- An initialisation is under way after a step only if it is this one, or another one that was
under way before. -/
theorem Advances.busy (advances : request.Advances engine before after) (busy : after.1.busy) :
    after.2 = .initialising ∧ (∃ config, request = .initialise config) ∨
      before.1.busy ∧ before.2 ≠ .initialising := by
  cases advances with
  | ready | leaves | present | absent | refused | gets | detects => exact .inr ⟨busy, nofun⟩
  | begins => exact .inl ⟨rfl, _, rfl⟩
  | ends | stops => cases busy
  | @offers catalog config shared =>
    obtain same | ⟨rfl, installs⟩ := shared.offer_eq ⟨catalog, config⟩
    · rw [same] at busy
      exact .inr ⟨busy, nofun⟩
    · rw [installs] at busy
      cases busy

/-- A call that fails installs nothing. -/
theorem Advances.installed_of_failed (advances : request.Advances engine before after)
    {failure : Failure} (failed : after.2 = .answered (.failed failure)) :
    after.1.installed = before.1.installed := by
  cases advances with
  | begins | leaves | stops | absent => cases failed
  | ready | present | refused | gets | detects => rfl
  | @ends config shared outcome setsUp =>
    cases outcome with
    | ok detector => cases failed
    | error cause => exact Option.or_none
  | offers => cases failed

end Request

/-! ### A process -/

namespace Process

variable {engine : ScriptEngine} {process next later : Process}

theorem Step.keeps (step : process.Step engine next) : process.shared.KeptBy next.shared := by
  cases step with
  | asks => exact fun _ installed => installed
  | advances _ advances => exact advances.keeps

theorem Runs.keeps (runs : process.Runs engine later) : process.shared.KeptBy later.shared := by
  induction runs with
  | refl => exact fun _ installed => installed
  | tail _ step ih => exact fun detector installed => step.keeps detector (ih detector installed)

/-- A call that is answered after a step was answered before, or it is the one that took the step. -/
theorem Step.answered (step : process.Step engine next) {place : Nat} {request : Request}
    {answer : Answer} (found : next.calls[place]? = some ⟨request, .answered answer⟩) :
    process.calls[place]? = some ⟨request, .answered answer⟩ ∨
    (∃ progress, process.calls[place]? = some ⟨request, progress⟩ ∧
      request.Advances engine (process.shared, progress) (next.shared, .answered answer)) ∧
    ∀ other, place ≠ other → next.calls[other]? = process.calls[other]? := by
  cases step with
  | asks other =>
    rw [List.getElem?_append] at found
    split at found
    next => exact .inl found
    next =>
      rw [List.getElem?_singleton] at found
      split at found
      next => cases found
      next => cases found
  | @advances here other progress reached shared isCall advances =>
    rw [List.getElem?_set] at found
    split at found
    next same =>
      subst same
      split at found
      next =>
        cases found
        exact .inr ⟨⟨progress, isCall, advances⟩, fun _ apart => List.getElem?_set_ne apart⟩
      next => cases found
    next => exact .inl found

/-- What holds of the calls of a process: an initialisation is under way only if one of them has
begun it, and the answers agree with the detector that is installed. -/
structure Consistent (engine : ScriptEngine) (process : Process) : Prop where
  inFlight : process.shared.busy → ∃ (place : Nat) (config : Config),
    process.calls[place]? = some ⟨.initialise config, .initialising⟩
  agrees : ∀ (place : Nat) (request : Request) (answer : Answer),
    process.calls[place]? = some ⟨request, .answered answer⟩ →
      request.Agrees engine process.shared.installed answer
  once : ∀ (place other : Nat) (first second : Request),
    process.calls[place]? = some ⟨first, .answered (.installed true)⟩ →
    process.calls[other]? = some ⟨second, .answered (.installed true)⟩ → place = other

theorem consistent_start : start.Consistent engine where
  inFlight := nofun
  agrees _ _ _ found := by cases found
  once _ _ _ _ found := by cases found

theorem Step.inFlight (step : process.Step engine next) (consistent : process.Consistent engine)
    (busy : next.shared.busy) : ∃ (place : Nat) (config : Config),
      next.calls[place]? = some ⟨.initialise config, .initialising⟩ := by
  cases step with
  | asks =>
    obtain ⟨place, config, found⟩ := consistent.inFlight busy
    obtain ⟨inside, _⟩ := List.getElem?_eq_some_iff.mp found
    exact ⟨place, config, (List.getElem?_append_left inside).trans found⟩
  | @advances here request progress reached shared isCall advances =>
    obtain ⟨inside, _⟩ := List.getElem?_eq_some_iff.mp isCall
    obtain ⟨rfl, config, rfl⟩ | ⟨wasBusy, idle⟩ := advances.busy busy
    · exact ⟨here, config, List.getElem?_set_self inside⟩
    · obtain ⟨place, config, found⟩ := consistent.inFlight wasBusy
      have apart : here ≠ place := by
        rintro rfl
        rw [found] at isCall
        cases isCall
        exact idle rfl
      exact ⟨place, config, (List.getElem?_set_ne apart).trans found⟩

theorem Consistent.not_installed_twice (consistent : process.Consistent engine)
    (step : process.Step engine next) {place other : Nat} {first second : Request}
    (isFirst : process.calls[place]? = some ⟨first, .answered (.installed true)⟩)
    (isSecond : next.calls[other]? = some ⟨second, .answered (.installed true)⟩) :
    process.calls[other]? = some ⟨second, .answered (.installed true)⟩ := by
  obtain old | ⟨⟨progress, _, advances⟩, _⟩ := step.answered isSecond
  · exact old
  · have agrees := consistent.agrees place first _ isFirst
    have absent : process.shared.installed = none := advances.was_absent rfl
    rw [absent] at agrees
    cases first <;> cases agrees

theorem Step.consistent (step : process.Step engine next) (consistent : process.Consistent engine) :
    next.Consistent engine where
  inFlight busy := step.inFlight consistent busy
  agrees place request answer found := by
    obtain old | ⟨⟨progress, _, advances⟩, _⟩ := step.answered found
    · exact (consistent.agrees place request answer old).mono step.keeps
    · exact advances.agrees rfl
  once place other first second isFirst isSecond := by
    by_contra apart
    obtain old | ⟨_, others⟩ := step.answered isFirst
    · exact apart (consistent.once place other first second old
        (consistent.not_installed_twice step old isSecond))
    · rw [others other apart] at isSecond
      have old := consistent.not_installed_twice step isSecond isFirst
      exact apart (consistent.once place other first second old isSecond)

theorem Runs.consistent (runs : process.Runs engine later)
    (consistent : process.Consistent engine) : later.Consistent engine := by
  induction runs with
  | refl => exact consistent
  | tail _ step ih => exact step.consistent ih

/-! ### Calls that succeed -/

theorem Step.last {shared after : SharedDetector} {calls : List Call} {request : Request}
    {before progress : Progress}
    (advances : request.Advances engine (shared, before) (after, progress)) :
    Step engine ⟨shared, calls ++ [⟨request, before⟩]⟩ ⟨after, calls ++ [⟨request, progress⟩]⟩ := by
  have found : (calls ++ [(⟨request, before⟩ : Call)])[calls.length]? =
      some ⟨request, before⟩ := List.getElem?_concat_length
  have step : Step engine ⟨shared, calls ++ [⟨request, before⟩]⟩ _ := .advances found advances
  rwa [List.set_append_right _ _ (Nat.le_refl _), Nat.sub_self, List.set_cons_zero] at step

/-- An initialisation that nobody interferes with. -/
theorem runs_initialise (calls : List Call) {config : Config}
    {outcome : Except Failure Detector} (setsUp : Detector.SetsUp config outcome) :
    Runs engine ⟨.empty, calls⟩ ⟨SharedDetector.empty.finish outcome,
      calls ++ [⟨.initialise config, .answered (.of (fun _ => .initialised) outcome)⟩]⟩ := by
  have asked : Step engine ⟨.empty, calls⟩
      ⟨.empty, calls ++ [⟨.initialise config, .asked⟩]⟩ := .asks _
  exact ((Relation.ReflTransGen.single asked).tail (.last (.begins rfl))).tail (.last (.ends setsUp))

/-- An installation that nobody interferes with. -/
theorem runs_install (calls : List Call) (catalog : Catalog) (config : Config) :
    Runs engine ⟨.empty, calls⟩ ⟨⟨some ⟨catalog, config⟩, false⟩,
      calls ++ [⟨.install catalog config, .answered (.installed true)⟩]⟩ := by
  have asked : Step engine ⟨.empty, calls⟩
      ⟨.empty, calls ++ [⟨.install catalog config, .asked⟩]⟩ := .asks _
  exact ((Relation.ReflTransGen.single asked).tail (.last (.absent nofun))).tail (.last .offers)

/-- As long as no detector is installed, an initialisation that is under way may be broken off. -/
theorem Consistent.runs_empty (consistent : process.Consistent engine)
    (absent : process.shared.installed = none) :
    ∃ calls, Runs engine process ⟨.empty, calls⟩ := by
  obtain ⟨⟨installed, busy⟩, calls⟩ := process
  obtain rfl : installed = none := absent
  cases busy with
  | false => exact ⟨calls, .refl⟩
  | true =>
    obtain ⟨place, config, found⟩ := consistent.inFlight rfl
    exact ⟨_, .single (.advances found .stops)⟩

/-- What the callers of a process can rely on. -/
structure WrittenOnce (engine : ScriptEngine) (process : Process) : Prop where
  /-- A detector that is installed is never replaced. -/
  kept : ∀ later, Runs engine process later → process.shared.KeptBy later.shared
  /-- Whoever gets a detector gets the installed one. -/
  get : ∀ (place : Nat) (detector : Detector),
    process.calls[place]? = some ⟨.get, .answered (.detector detector)⟩ →
      process.shared.installed = some detector
  /-- The installed detector finds all the technologies. -/
  detect : ∀ (place : Nat) (transaction : Transaction) (result : DetectionResult),
    process.calls[place]? = some ⟨.detect transaction, .answered (.detection result)⟩ →
      ∃ detector, process.shared.installed = some detector ∧
        detector.detect engine transaction = .ok result
  /-- One installation succeeds at most, and what it installs is its own. -/
  install : ∀ (place : Nat) (catalog : Catalog) (config : Config),
    process.calls[place]? = some ⟨.install catalog config, .answered (.installed true)⟩ →
      process.shared.installed = some ⟨catalog, config⟩ ∧
      ∀ (other : Nat) (request : Request),
        process.calls[other]? = some ⟨request, .answered (.installed true)⟩ → place = other
  /-- Behind an initialisation that succeeds a detector is installed. -/
  initialise : ∀ (place : Nat) (config : Config),
    process.calls[place]? = some ⟨.initialise config, .answered .initialised⟩ →
      process.shared.isInitialised
  /-- A call that fails installs nothing. -/
  failed : ∀ (next : Process) (place : Nat) (request : Request) (failure : Failure),
    process.Step engine next →
    next.calls[place]? = some ⟨request, .answered (.failed failure)⟩ →
    next.calls[place]? ≠ process.calls[place]? →
      next.shared.installed = process.shared.installed
  /-- While no detector is installed, a further call may install one. -/
  vacant : process.shared.installed = none → ∀ (catalog : Catalog) (config : Config),
    (∃ calls, Runs engine process ⟨⟨some ⟨catalog, config⟩, false⟩,
      calls ++ [⟨.install catalog config, .answered (.installed true)⟩]⟩) ∧
    ∀ specs, Catalog.compile specs = .ok catalog →
      ∃ calls, Runs engine process ⟨⟨some ⟨catalog, config⟩, false⟩,
        calls ++ [⟨.initialise config, .answered .initialised⟩]⟩

theorem writtenOnce (runs : Runs engine start process) : process.WrittenOnce engine := by
  have consistent := runs.consistent consistent_start
  refine ⟨fun later further => further.keeps, ?_, ?_, ?_, ?_, ?_, ?_⟩
  · exact fun place detector found => consistent.agrees place _ _ found
  · exact fun place transaction result found => consistent.agrees place _ _ found
  · exact fun place catalog config found => ⟨consistent.agrees place _ _ found,
      fun other request isOther => consistent.once place other _ request found isOther⟩
  · exact fun place config found => consistent.agrees place _ _ found
  · intro next place request failure step found changed
    obtain old | ⟨⟨progress, _, advances⟩, _⟩ := step.answered found
    · exact absurd (found.trans old.symm) changed
    · exact advances.installed_of_failed rfl
  · intro absent catalog config
    obtain ⟨calls, emptied⟩ := consistent.runs_empty absent
    refine ⟨⟨calls, emptied.trans (runs_install calls catalog config)⟩, ?_⟩
    intro specs compiled
    have made : Detector.ofSpecs .unlimited config specs = .ok ⟨catalog, config⟩ := by
      simp only [Detector.ofSpecs, compiled, Detector.create_unlimited, bind, Except.bind]
    exact ⟨calls, emptied.trans (runs_initialise calls (.built made))⟩

end Process

/-! ### An installation during an initialisation -/

namespace Race

def config : Config := .standard

def detector : Detector := ⟨.empty, config⟩

/-- Plugins fail to load while others are offered in vain. A second offer is taken, and the detector
is used. -/
def process : Process where
  shared := ⟨some detector, false⟩
  calls := [
    ⟨.initialise config, .answered (.failed .nameBlank)⟩,
    ⟨.install .empty config, .answered (.installed false)⟩,
    ⟨.install .empty config, .answered (.installed true)⟩,
    ⟨.get, .answered (.detector detector)⟩]

theorem runs (engine : ScriptEngine) : Process.Runs engine .start process := by
  have begins : Process.Runs engine .start
      ⟨⟨none, true⟩, [⟨.initialise config, .initialising⟩]⟩ :=
    (Relation.ReflTransGen.single (.asks _)).tail (.last (.begins rfl))
  have refuses : Process.Runs engine ⟨⟨none, true⟩, [⟨.initialise config, .initialising⟩]⟩
      ⟨⟨none, true⟩, [⟨.initialise config, .initialising⟩,
        ⟨.install .empty config, .answered (.installed false)⟩]⟩ :=
    ((Relation.ReflTransGen.single (.asks _)).tail (.last (.absent nofun))).tail (.last .offers)
  have fails : Process.Step engine
      ⟨⟨none, true⟩, [⟨.initialise config, .initialising⟩,
        ⟨.install .empty config, .answered (.installed false)⟩]⟩
      ⟨.empty, [⟨.initialise config, .answered (.failed .nameBlank)⟩,
        ⟨.install .empty config, .answered (.installed false)⟩]⟩ :=
    @Process.Step.advances engine _ 0 _ _ _ _ rfl (.ends (.failed .nameBlank))
  have gets : Process.Runs engine
      ⟨⟨some detector, false⟩, process.calls.take 3⟩ process :=
    (Relation.ReflTransGen.single (.asks .get)).tail (.last .gets)
  exact ((begins.trans refuses).tail fails).trans
    ((Process.runs_install _ .empty config).trans gets)

end Race

open Race in
/-- Nothing ever replaces the detector that was offered behind the failure. -/
theorem Process.writtenOnce_race :
    Process.Runs Script.engine .start process ∧ process.shared.installed = some detector ∧
      ∀ later, Process.Runs Script.engine process later →
        later.shared.installed = some detector := by
  have once := Process.writtenOnce (runs Script.engine)
  have installed : process.shared.installed = some detector := (once.install 2 .empty config rfl).1
  exact ⟨runs Script.engine, installed, fun later further => once.kept later further _ installed⟩

end Fingerprint
