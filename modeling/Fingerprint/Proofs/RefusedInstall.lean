import Fingerprint.Proofs.WriteOnce

/-!
What it means that an installation is refused.

The shared detector refuses one that is offered because another one is installed, or because an
initialisation is under way. The two exclude each other, and in the second case the place is empty
and may stay so, since the initialisation may fail.
-/

set_option autoImplicit false

namespace Fingerprint

namespace SharedDetector

theorem get_of_vacant {shared : SharedDetector} (vacant : shared.installed = none) :
    shared.get = .error .detectorMissing := by
  rw [get, vacant]

theorem exists_get_iff {shared : SharedDetector} :
    (∃ detector, shared.get = .ok detector) ↔ shared.isInitialised := by
  rw [isInitialised, Option.isSome_iff_exists]
  exact exists_congr fun _ => get_eq_ok_iff

end SharedDetector

namespace Request

variable {engine : ScriptEngine} {request : Request} {before after : SharedDetector × Progress}

/-- A place that is being filled stays empty until it is filled. -/
theorem Advances.vacant_of_busy (advances : request.Advances engine before after)
    (vacant : before.1.busy → before.1.installed = none) (busy : after.1.busy) :
    after.1.installed = none := by
  cases advances with
  | ready | leaves | present | absent | refused | gets | detects => exact vacant busy
  | begins begins =>
    obtain ⟨_, rfl⟩ := SharedDetector.begin?_eq_some begins
    rfl
  | ends | stops => cases busy
  | @offers catalog config shared =>
    obtain same | ⟨rfl, installs⟩ := shared.offer_eq ⟨catalog, config⟩
    · rw [same] at busy ⊢
      exact vacant busy
    · rw [installs] at busy
      cases busy

/-- What begins an initialisation finds the place free and occupies it. -/
theorem Advances.begins_initialising (advances : request.Advances engine before after)
    (initialising : after.2 = .initialising) : ¬ before.1.busy ∧ after.1.busy := by
  cases advances with
  | ready | leaves | stops | ends | present | absent | refused | offers | gets | detects =>
    cases initialising
  | begins begins =>
    obtain ⟨rfl, rfl⟩ := SharedDetector.begin?_eq_some begins
    exact ⟨Bool.false_ne_true, rfl⟩

/-- Nobody but the call that has begun an initialisation ends it. -/
theorem Advances.stays_busy (advances : request.Advances engine before after)
    (busy : before.1.busy) :
    after.1.busy ∨ before.2 = .initialising ∧ ∃ config, request = .initialise config := by
  cases advances with
  | ready | leaves | present | absent | refused | gets | detects => exact .inl busy
  | begins begins =>
    obtain ⟨rfl, _⟩ := SharedDetector.begin?_eq_some begins
    cases busy
  | ends | stops => exact .inr ⟨rfl, _, rfl⟩
  | @offers catalog config shared =>
    obtain same | ⟨rfl, _⟩ := shared.offer_eq ⟨catalog, config⟩
    · rw [same]
      exact .inl busy
    · cases busy

/-- A refusal changes nothing, and its reason is that the place is taken or about to be. -/
theorem Advances.of_refused {catalog : Catalog} {config : Config}
    (advances : (install catalog config).Advances engine before after)
    (told : after.2 = .answered (.installed false)) :
    after.1 = before.1 ∧ (before.1.isInitialised ∨ before.1.busy) := by
  cases advances with
  | absent | refused => cases told
  | present present => exact ⟨rfl, .inl present⟩
  | @offers _ _ shared =>
    have refusal : (shared.offer ⟨catalog, config⟩).2 = false := by
      injection told with told
      injection told
    unfold SharedDetector.offer at refusal ⊢
    split at refusal
    next taken =>
      rw [if_pos taken]
      exact ⟨rfl, Bool.or_eq_true_iff.mp taken⟩
    next => cases refusal

end Request

namespace Process

variable {engine : ScriptEngine} {process next : Process}

/-- The call at a place has begun an initialisation that has not ended. -/
def IsInitialising (process : Process) (place : Nat) : Prop :=
  ∃ config, process.calls[place]? = some ⟨.initialise config, .initialising⟩

/-- What holds of the initialisations of a process. -/
structure Exclusive (process : Process) : Prop where
  /-- While one is under way, nothing is installed. -/
  vacant : process.shared.busy → process.shared.installed = none
  /-- The place is occupied by each one that is under way. -/
  occupied : ∀ place, process.IsInitialising place → process.shared.busy
  /-- One is under way at most. -/
  single : ∀ place other, process.IsInitialising place → process.IsInitialising other →
    place = other

theorem exclusive_start : start.Exclusive where
  vacant := nofun
  occupied _ := by rintro ⟨_, found⟩; cases found
  single _ _ := by rintro ⟨_, found⟩; cases found

/-- A call that is initialising after a step was so before, or has begun in this step. -/
theorem Step.isInitialising (step : process.Step engine next) {place : Nat}
    (initialising : next.IsInitialising place) :
    process.IsInitialising place ∨ ¬ process.shared.busy ∧ next.shared.busy ∧
      ∀ other, next.IsInitialising other → place ≠ other → process.IsInitialising other := by
  obtain ⟨config, found⟩ := initialising
  cases step with
  | asks request =>
    rw [List.getElem?_append] at found
    split at found
    next => exact .inl ⟨config, found⟩
    next =>
      rw [List.getElem?_singleton] at found
      split at found <;> cases found
  | @advances here request progress reached shared isCall advances =>
    rw [List.getElem?_set] at found
    split at found
    next same =>
      subst same
      split at found
      next =>
        cases found
        obtain ⟨idle, busy⟩ := advances.begins_initialising rfl
        refine .inr ⟨idle, busy, ?_⟩
        rintro other ⟨otherConfig, isOther⟩ apart
        exact ⟨otherConfig, (List.getElem?_set_ne apart).symm.trans isOther⟩
      next => cases found
    next => exact .inl ⟨config, found⟩

theorem Step.exclusive (step : process.Step engine next) (exclusive : process.Exclusive) :
    next.Exclusive where
  vacant := by
    cases step with
    | asks => exact exclusive.vacant
    | advances _ advances => exact advances.vacant_of_busy exclusive.vacant
  occupied place initialising := by
    obtain old | ⟨_, busy, _⟩ := step.isInitialising initialising
    · have wasBusy := exclusive.occupied place old
      cases step with
      | asks => exact wasBusy
      | @advances here request progress reached shared isCall advances =>
        obtain busy | ⟨rfl, own, rfl⟩ := advances.stays_busy wasBusy
        · exact busy
        · -- The initialisation that ended is the only one there was.
          obtain rfl := exclusive.single here place ⟨own, isCall⟩ old
          obtain ⟨config, found⟩ := initialising
          obtain ⟨inside, _⟩ := List.getElem?_eq_some_iff.mp isCall
          rw [List.getElem?_set_self inside] at found
          cases found
          exact absurd wasBusy (advances.begins_initialising rfl).1
    · exact busy
  single place other isFirst isSecond := by
    by_contra apart
    obtain oldFirst | ⟨idle, _, others⟩ := step.isInitialising isFirst
    · obtain oldSecond | ⟨idle, _, others⟩ := step.isInitialising isSecond
      · exact apart (exclusive.single place other oldFirst oldSecond)
      · exact idle (exclusive.occupied place oldFirst)
    · exact idle (exclusive.occupied other (others other isSecond apart))

theorem Runs.exclusive (runs : Runs engine start process) : process.Exclusive := by
  induction runs with
  | refl => exact exclusive_start
  | tail _ step ih => exact step.exclusive ih

/-- A call is told in a step that its detector is not installed. -/
structure Refuses (engine : ScriptEngine) (process next : Process) (place : Nat)
    (catalog : Catalog) (config : Config) : Prop where
  step : process.Step engine next
  untold : process.calls[place]? ≠ some ⟨.install catalog config, .answered (.installed false)⟩
  told : next.calls[place]? = some ⟨.install catalog config, .answered (.installed false)⟩

theorem Refuses.reason {place : Nat} {catalog : Catalog} {config : Config}
    (refuses : process.Refuses engine next place catalog config) :
    next.shared.isInitialised ∨ next.shared.busy := by
  obtain old | ⟨⟨progress, _, advances⟩, _⟩ := refuses.step.answered refuses.told
  · exact absurd old refuses.untold
  · obtain ⟨same, reason⟩ := advances.of_refused rfl
    rwa [show next.shared = process.shared from same]

theorem Runs.busy_iff (runs : Runs engine start process) :
    process.shared.busy ↔ ∃ place, process.IsInitialising place :=
  ⟨(runs.consistent consistent_start).inFlight,
    fun ⟨place, initialising⟩ => runs.exclusive.occupied place initialising⟩

/-- Whoever is told that the detector at hand was not installed finds another one installed, from
then on and for ever, exactly if no initialisation is under way at that moment. While one is, nothing
is installed, the next call to get the detector fails, and the place may stay empty. -/
theorem refused_install (runs : Runs engine start process) {place : Nat} {catalog : Catalog}
    {config : Config} (refuses : process.Refuses engine next place catalog config) :
    ((∀ later, Runs engine next later → ∃ detector, later.shared.get = .ok detector) ↔
      ¬ ∃ other, next.IsInitialising other) ∧
    (next.shared.isInitialised ↔ ¬ ∃ other, next.IsInitialising other) ∧
    ((∃ other, next.IsInitialising other) →
      next.shared.get = .error .detectorMissing ∧
      Runs engine next ⟨next.shared, next.calls ++ [⟨.get, .answered (.failed .detectorMissing)⟩]⟩ ∧
      ∃ calls, Runs engine next ⟨.empty, calls⟩) := by
  have reached : Runs engine start next := runs.tail refuses.step
  have installed_iff : next.shared.isInitialised ↔ ¬ ∃ other, next.IsInitialising other := by
    rw [← reached.busy_iff]
    constructor
    · intro installed busy
      rw [SharedDetector.isInitialised, reached.exclusive.vacant busy] at installed
      cases installed
    · exact refuses.reason.resolve_right
  refine ⟨?_, installed_iff, ?_⟩
  · rw [← installed_iff]
    constructor
    · exact fun always => SharedDetector.exists_get_iff.mp (always next .refl)
    · intro installed later further
      obtain ⟨detector, held⟩ := Option.isSome_iff_exists.mp installed
      exact ⟨detector, SharedDetector.get_eq_ok_iff.mpr (further.keeps detector held)⟩
  · intro initialising
    have vacant := reached.exclusive.vacant (reached.busy_iff.mpr initialising)
    have missing := SharedDetector.get_of_vacant vacant
    refine ⟨missing, ?_, (reached.consistent consistent_start).runs_empty vacant⟩
    have gets : Step engine ⟨next.shared, next.calls ++ [⟨.get, .asked⟩]⟩
        ⟨next.shared, next.calls ++ [⟨.get, .answered (.of .detector next.shared.get)⟩]⟩ :=
      .last .gets
    rw [missing] at gets
    exact (Relation.ReflTransGen.single (.asks .get)).tail gets

end Process

/-! ### An installation that is refused in vain -/

namespace Race

/-- Plugins are being loaded while others are about to be offered. -/
def offering : Process where
  shared := ⟨none, true⟩
  calls := [⟨.initialise config, .initialising⟩, ⟨.install .empty config, .building⟩]

def refused : Process where
  shared := ⟨none, true⟩
  calls := [⟨.initialise config, .initialising⟩,
    ⟨.install .empty config, .answered (.installed false)⟩]

/-- The plugin files are missing, and the caller whose offer was refused finds no detector. -/
def inVain : Process where
  shared := .empty
  calls := [
    ⟨.initialise config, .answered (.failed (.pathUnreadable "plugins" .missing))⟩,
    ⟨.install .empty config, .answered (.installed false)⟩,
    ⟨.get, .answered (.failed .detectorMissing)⟩]

variable (engine : ScriptEngine)

theorem runs_offering : Process.Runs engine .start offering := by
  have begins : Process.Runs engine .start ⟨⟨none, true⟩, [⟨.initialise config, .initialising⟩]⟩ :=
    (Relation.ReflTransGen.single (.asks _)).tail (.last (.begins rfl))
  have asks : Process.Step engine ⟨⟨none, true⟩, [⟨.initialise config, .initialising⟩]⟩
      ⟨⟨none, true⟩, [⟨.initialise config, .initialising⟩, ⟨.install .empty config, .asked⟩]⟩ :=
    .asks _
  have absent : ¬ (SharedDetector.mk none true).isInitialised := Bool.false_ne_true
  exact (begins.tail asks).tail (@Process.Step.advances engine _ 1 _ _ _ _ rfl (.absent absent))

theorem refuses : Process.Refuses engine offering refused 1 .empty config where
  step := @Process.Step.advances engine _ 1 _ _ _ _ rfl .offers
  untold := nofun
  told := rfl

/-- Setting up fails where there are no plugin files. -/
theorem setsUp_missing :
    Detector.SetsUp config (.error (.pathUnreadable "plugins" .missing)) := by
  let files : FileTree := .empty "data" true
  have isName : Path.IsName "plugins" :=
    ⟨by decide, by decide, by decide, by decide, by decide, by decide⟩
  have located : files.locate "plugins" = .ok ["plugins"] :=
    FileTree.locate_of_isName rfl isName (by decide)
  have absent : files.lookup "plugins" = .error .missing := by
    simp only [FileTree.lookup, located, bind, Except.bind]
    rfl
  have unread : files.loadPaths config.pluginPaths =
      .error (.pathUnreadable "plugins" .missing) := by
    simp only [config, Config.standard, FileTree.loadPaths, List.mapM_cons, FileTree.loadPath,
      absent, bind, Except.bind]
  have uncached : config.cachePath = none := rfl
  have failed : (Detector.setUp .unlimited files config).detector =
      .error (.pathUnreadable "plugins" .missing) := by
    simp only [Detector.setUp_detector, Loading.run, uncached, Loading.readDefinitions, unread,
      Except.bind]
  rw [← failed]
  exact Detector.setsUp_setUp ..

theorem runs_inVain : Process.Runs engine refused inVain := by
  have fails : Process.Step engine refused ⟨.empty, inVain.calls.take 2⟩ :=
    @Process.Step.advances engine _ 0 _ _ _ _ rfl (.ends setsUp_missing)
  have asks : Process.Step engine ⟨.empty, inVain.calls.take 2⟩
      ⟨.empty, inVain.calls.take 2 ++ [⟨.get, .asked⟩]⟩ := .asks _
  have gets : Process.Step engine ⟨.empty, inVain.calls.take 2 ++ [⟨.get, .asked⟩]⟩ inVain :=
    .last .gets
  exact ((Relation.ReflTransGen.single fails).tail asks).tail gets

end Race

open Race in
/-- An initialisation under way is the reason of the refusal, and there is no detector to get. -/
theorem Process.refused_install_race :
    Process.Runs Script.engine .start offering ∧
      Process.Refuses Script.engine offering refused 1 .empty config ∧
      refused.IsInitialising 0 ∧ refused.shared.get = .error .detectorMissing := by
  obtain ⟨-, -, missing⟩ := refused_install (runs_offering Script.engine) (refuses Script.engine)
  have initialising : refused.IsInitialising 0 := ⟨config, rfl⟩
  exact ⟨runs_offering _, refuses _, initialising, (missing ⟨0, initialising⟩).1⟩

open Race in
/-- A caller is told that the detector at hand was not installed while nothing is installed, and gets
none afterwards. -/
theorem Process.install_refused_in_vain :
    Process.Runs Script.engine .start offering ∧
      Process.Refuses Script.engine offering refused 1 .empty config ∧
      refused.shared.installed = none ∧
      Process.Runs Script.engine refused inVain ∧
      inVain.calls[1]? = some ⟨.install .empty config, .answered (.installed false)⟩ ∧
      inVain.calls[2]? = some ⟨.get, .answered (.failed .detectorMissing)⟩ :=
  ⟨runs_offering _, refuses _, rfl, runs_inVain _, rfl, rfl⟩

end Fingerprint
