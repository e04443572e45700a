import Fingerprint.Config
import Mathlib.Data.List.DropRight

/-!
The configuration that a sequence of settings builds, whatever their order and number.

A setting counts by what it was last set to. Two settings overlap on the time limit of scripts, where
the later one of either kind counts. Plugin paths are replaced as a whole or added one by one, and
the first setting of either kind drops the default paths.
-/

set_option autoImplicit false

namespace Fingerprint.Config

namespace Setting

/-- The paths that take the place of all paths before. -/
def replacedPaths? : Setting → Option (List String)
  | .pluginPaths paths => some paths
  | _ => none

def addedPath? : Setting → Option String
  | .pluginPath path => some path
  | _ => none

/-- Whether plugin paths are set in one of the two ways. -/
def givesPaths (setting : Setting) : Bool :=
  setting.replacedPaths?.isSome || setting.addedPath?.isSome

def cachePath? : Setting → Option (Option String)
  | .cachePath path => some (some path)
  | _ => none

def workerThreads? : Setting → Option Nat
  | .workerThreads count => some count
  | _ => none

def scriptLimits? : Setting → Option ScriptLimits
  | .scriptLimits limits => some limits
  | _ => none

/-- The time limit, which is set by itself or with the other limits. -/
def timeLimit? : Setting → Option Duration
  | .scriptLimits limits => some limits.timeLimit
  | .scriptTimeLimit limit => some limit
  | _ => none

def scriptPrecedence? : Setting → Option ScriptPrecedence
  | .scriptPrecedence precedence => some precedence
  | _ => none

def verbose? : Setting → Option Bool
  | .verbose value => some value
  | _ => none

end Setting

open Setting

/-! ### Last values -/

section

variable {α β : Type}

/-- The last value that settings give to something that starts with `first`. -/
def lastOf (read : Setting → Option α) (first : α) (settings : List Setting) : α :=
  (settings.filterMap read).getLastD first

theorem lastOf_concat (read : Setting → Option α) (first : α) (settings : List Setting)
    (setting : Setting) :
    lastOf read first (settings ++ [setting]) =
      (read setting).getD (lastOf read first settings) := by
  unfold lastOf
  rw [List.filterMap_append]
  cases given : read setting with
  | none => simp [given]
  | some value => simp [given]

/-- The last value of a part is that part of the last value. -/
theorem lastOf_map (read : Setting → Option α) (part : α → β) (first : α)
    (settings : List Setting) :
    lastOf (fun setting => (read setting).map part) (part first) settings =
      part (lastOf read first settings) := by
  induction settings using List.reverseRecOn with
  | nil => rfl
  | append_singleton front last ih =>
    rw [lastOf_concat, lastOf_concat, ih]
    cases read last <;> rfl

theorem changeAll_concat (builder : Builder) (settings : List Setting) (setting : Setting) :
    builder.changeAll (settings ++ [setting]) = (builder.changeAll settings).change setting := by
  simp only [Builder.changeAll, List.foldl_append, List.foldl_cons, List.foldl_nil]

/-- A part of the configuration that each setting either leaves alone or sets to a value of its own
ends up as it was last set. -/
theorem build_eq_lastOf (read : Setting → Option α) (part : Config → α)
    (step : ∀ (builder : Builder) (setting : Setting),
      part (builder.change setting).config = (read setting).getD (part builder.config))
    (settings : List Setting) : part (build settings) = lastOf read (part standard) settings := by
  induction settings using List.reverseRecOn with
  | nil => rfl
  | append_singleton front last ih =>
    rw [build, changeAll_concat, step, lastOf_concat]
    exact congrArg (read last).getD ih

/-- A limit other than the time is as it was in the limits that were last set together. -/
theorem build_limit (part : ScriptLimits → α)
    (untimed : ∀ limits time, part { limits with timeLimit := time } = part limits)
    (settings : List Setting) :
    part (build settings).scriptLimits =
      part (lastOf scriptLimits? standard.scriptLimits settings) := by
  rw [← lastOf_map scriptLimits? part]
  refine build_eq_lastOf _ (fun config => part config.scriptLimits) ?_ settings
  intro builder setting
  cases setting with
  | scriptTimeLimit limit => exact untimed builder.config.scriptLimits limit
  | _ => rfl

end

/-! ### Plugin paths -/

/-- The settings behind the last one that replaces all paths, or all settings if there is none. -/
def sinceReplacement (settings : List Setting) : List Setting :=
  settings.rtakeWhile (·.replacedPaths?.isNone)

/-- The paths that settings give: those that replaced all others last, and those added since. -/
def givenPaths (settings : List Setting) : List String :=
  lastOf replacedPaths? [] settings ++ (sinceReplacement settings).filterMap addedPath?

theorem givenPaths_replaced {setting : Setting} {paths : List String}
    (replaces : setting.replacedPaths? = some paths) (settings : List Setting) :
    givenPaths (settings ++ [setting]) = paths := by
  have stops : ¬ setting.replacedPaths?.isNone := by simp [replaces]
  have nothing : sinceReplacement (settings ++ [setting]) = [] :=
    List.rtakeWhile_concat_neg _ settings setting stops
  rw [givenPaths, lastOf_concat, nothing, replaces]
  simp

theorem givenPaths_concat {setting : Setting} (keeps : setting.replacedPaths? = none)
    (settings : List Setting) :
    givenPaths (settings ++ [setting]) = givenPaths settings ++ setting.addedPath?.toList := by
  have onward : setting.replacedPaths?.isNone := by simp [keeps]
  have longer : sinceReplacement (settings ++ [setting]) = sinceReplacement settings ++ [setting] :=
    List.rtakeWhile_concat_pos _ settings setting onward
  rw [givenPaths, givenPaths, lastOf_concat, longer, keeps, List.filterMap_append]
  cases added : setting.addedPath? <;> simp [added]

theorem givenPaths_eq_nil {settings : List Setting} (none : settings.any givesPaths = false) :
    givenPaths settings = [] := by
  have silent : ∀ setting ∈ settings,
      setting.replacedPaths? = .none ∧ setting.addedPath? = .none := by
    simpa [givesPaths] using none
  have unreplaced : settings.filterMap replacedPaths? = [] :=
    List.filterMap_eq_nil_iff.mpr fun setting member => (silent setting member).1
  have unadded : (sinceReplacement settings).filterMap addedPath? = [] := by
    refine List.filterMap_eq_nil_iff.mpr fun setting member => (silent setting ?_).2
    exact (List.rtakeWhile_suffix _ _).subset member
  rw [givenPaths, lastOf, unreplaced, unadded]
  rfl

/-- The mark that paths were given is set by the settings that give paths, and from the first of them
on the paths are those given. -/
theorem changeAll_paths (settings : List Setting) :
    (Builder.start.changeAll settings).pathsGiven = settings.any givesPaths ∧
    (Builder.start.changeAll settings).config.pluginPaths =
      if settings.any givesPaths then givenPaths settings else standard.pluginPaths := by
  induction settings using List.reverseRecOn with
  | nil => exact ⟨rfl, rfl⟩
  | append_singleton front last ih =>
    obtain ⟨marked, paths⟩ := ih
    rw [changeAll_concat, List.any_append]
    generalize Builder.start.changeAll front = builder at marked paths
    cases last with
    | pluginPaths replaced => simp [Builder.change, givesPaths, replacedPaths?, givenPaths_replaced]
    | pluginPath path =>
      rw [givenPaths_concat rfl]
      cases given : front.any givesPaths with
      | true => simp_all [Builder.change, givesPaths, addedPath?]
      | false => simp_all [Builder.change, givesPaths, addedPath?, givenPaths_eq_nil]
    | _ =>
      rw [givenPaths_concat rfl]
      simpa [Builder.change, givesPaths, replacedPaths?, addedPath?] using And.intro marked paths

/-! ### All settings -/

/-- What settings build, in any order and number. The paths are the default ones if none are given,
else those that replaced all others last and those added since. The time limit is the last one of
either kind, the other limits are those that were last set together, and all else is what it was last
set to, or its default. -/
theorem build_lastSettings (settings : List Setting) :
    (build settings).pluginPaths = (if settings.any givesPaths then
      lastOf replacedPaths? [] settings ++ (sinceReplacement settings).filterMap addedPath?
      else standard.pluginPaths) ∧
    (build settings).scriptLimits.timeLimit =
      lastOf timeLimit? standard.scriptLimits.timeLimit settings ∧
    (build settings).scriptLimits.memoryLimit =
      (lastOf scriptLimits? standard.scriptLimits settings).memoryLimit ∧
    (build settings).scriptLimits.maxStackSize =
      (lastOf scriptLimits? standard.scriptLimits settings).maxStackSize ∧
    (build settings).scriptLimits.maxScriptBytes =
      (lastOf scriptLimits? standard.scriptLimits settings).maxScriptBytes ∧
    (build settings).cachePath = lastOf cachePath? standard.cachePath settings ∧
    (build settings).workerThreads = lastOf workerThreads? standard.workerThreads settings ∧
    (build settings).scriptPrecedence =
      lastOf scriptPrecedence? standard.scriptPrecedence settings ∧
    (build settings).verbose = lastOf verbose? standard.verbose settings := by
  refine ⟨(changeAll_paths settings).2, ?_, ?_, ?_, ?_, ?_, ?_, ?_, ?_⟩
  · exact build_eq_lastOf timeLimit? (·.scriptLimits.timeLimit)
      (fun builder setting => by cases setting <;> rfl) settings
  · exact build_limit ScriptLimits.memoryLimit (fun _ _ => rfl) settings
  · exact build_limit ScriptLimits.maxStackSize (fun _ _ => rfl) settings
  · exact build_limit ScriptLimits.maxScriptBytes (fun _ _ => rfl) settings
  · exact build_eq_lastOf cachePath? (·.cachePath)
      (fun builder setting => by cases setting <;> rfl) settings
  · exact build_eq_lastOf workerThreads? (·.workerThreads)
      (fun builder setting => by cases setting <;> rfl) settings
  · exact build_eq_lastOf scriptPrecedence? (·.scriptPrecedence)
      (fun builder setting => by cases setting <;> rfl) settings
  · exact build_eq_lastOf verbose? (·.verbose)
      (fun builder setting => by cases setting <;> rfl) settings

example : (build [.pluginPath "a", .pluginPaths ["b"], .verbose true, .pluginPath "c"]).pluginPaths =
    ["b", "c"] := rfl

end Fingerprint.Config
