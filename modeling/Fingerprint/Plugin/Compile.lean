import Fingerprint.Failure
import Fingerprint.Plugin.Catalog
import Fingerprint.Text.Words

/-!
Compiling plugins.

A plugin is refused for its first violation: its name, then its matchers by category, field and
order of declaration, then its script matchers. A catalog holds no two plugins of one name; it is
compiled strictly, where the first failure counts, or leniently, where a plugin that fails is left
out.
-/

namespace Fingerprint

namespace Plugin

def compilePattern (plugin pattern : String) : Except Failure Regex :=
  (Regex.compile pattern).mapError (.patternMalformed plugin pattern)

/-- The pattern of a header name, which has to match the whole name in any case. -/
def compileHeaderName (plugin pattern : String) : Except Failure Regex :=
  (Regex.compileWith true ("^(?:" ++ pattern ++ ")$")).mapError (.patternMalformed plugin pattern)

/-- What a matcher is applied to, with the pattern whose groups are captured. -/
def compileTarget (plugin : String) (field : Field) (spec : MatcherSpec) :
    Except Failure (Target × Regex) :=
  match field, spec.header with
  | .header, some header => do
    let name ← compileHeaderName plugin header
    let value ← compilePattern plugin spec.pattern
    return (.header name (some value), value)
  | .header, none => do
    let name ← compileHeaderName plugin spec.pattern
    return (.header name none, name)
  | _, some _ => .error (.headerMisplaced plugin field spec.pattern)
  | _, none => do
    let pattern ← compilePattern plugin spec.pattern
    return (.text pattern, pattern)

/-- The text that a match yields: the template if there is one, else the chosen group, else the
first group. -/
def compileCapture (plugin : String) (available : Nat) (spec : MatcherSpec) :
    Except Failure CaptureRule :=
  match spec.template, spec.group with
  | some template, _ => .ok (.template template)
  | none, some index =>
    if available < index.toNat then
      .error (.captureOutOfRange plugin spec.pattern index.toNat available)
    else .ok (.group index.toNat)
  | none, none => .ok (if 0 < available then .group 1 else .whole)

/-- Whether the rule can yield a text with this number of capture groups. -/
def CaptureRule.yieldsText (available : Nat) : CaptureRule → Bool
  | .group _ => true
  | .template _ => 0 < available
  | .whole => false

def compileMatcher (plugin : String) (field : Field) (category : Category) (spec : MatcherSpec) :
    Except Failure Matcher := do
  let (target, regex) ← compileTarget plugin field spec
  let available := regex.groupCount
  let capture ← compileCapture plugin available spec
  let named := category = .modularMatchers && spec.name.isSome
  if category.requiresText && !capture.yieldsText available && !named then
    .error (.captureMissing plugin category spec.pattern)
  else
    return ⟨target, capture, spec.name⟩

def compileMatchers (plugin : String) (category : Category) (specs : PerField MatcherSpec) :
    Except Failure (PerField Matcher) := do
  let url ← specs.url.mapM (compileMatcher plugin .url category)
  let body ← specs.body.mapM (compileMatcher plugin .body category)
  let header ← specs.header.mapM (compileMatcher plugin .header category)
  return ⟨url, body, header⟩

def compileScriptMatcher (plugin : String) (matcher : ScriptMatcher) :
    Except Failure ScriptMatcher :=
  if Text.isBlankText matcher.check || Text.isBlankText matcher.version then
    .error (.scriptBlank plugin)
  else .ok matcher

/-- Compiles a plugin under its name without white space at the ends. -/
def compile (spec : Spec) : Except Failure Plugin := do
  let name := Text.trim spec.name
  if name.isEmpty then .error .nameBlank
  else
    let matchers ← compileMatchers name .matchers spec.matchers.matchers
    let modularMatchers ← compileMatchers name .modularMatchers spec.matchers.modularMatchers
    let indicators ← compileMatchers name .indicators spec.matchers.indicators
    let scriptMatchers ← spec.scriptMatchers.mapM (compileScriptMatcher name)
    return ⟨name, spec.homepage, spec.tags, ⟨matchers, modularMatchers, indicators⟩, scriptMatchers⟩

end Plugin

namespace Catalog

/-- Compiles a plugin that is to be added to a catalog. -/
def candidate (catalog : Catalog) (spec : Plugin.Spec) : Except Failure Plugin := do
  let plugin ← Plugin.compile spec
  if catalog.contains plugin.name then .error (.pluginDuplicate plugin.name) else return plugin

/-- Adds plugins to a catalog; the first failure counts. -/
def addAll (catalog : Catalog) : List Plugin.Spec → Except Failure Catalog
  | [] => .ok catalog
  | spec :: rest => do
    let plugin ← catalog.candidate spec
    (catalog.insert plugin).addAll rest

/-- The catalog of plugins all of which have to be valid. -/
def compile (specs : List Plugin.Spec) : Except Failure Catalog := empty.addAll specs

/-- A plugin that was left out, under its name as written. -/
structure Fault where
  name : String
  failure : Failure
deriving DecidableEq, Repr, Inhabited

/-- Adds the plugins that are valid and lists the others. -/
def addValid (catalog : Catalog) : List Plugin.Spec → Catalog × List Fault
  | [] => (catalog, [])
  | spec :: rest =>
    match catalog.candidate spec with
    | .ok plugin => (catalog.insert plugin).addValid rest
    | .error failure =>
      let (catalog, faults) := catalog.addValid rest
      (catalog, ⟨spec.name, failure⟩ :: faults)

/-- The catalog of the valid plugins, and those that were left out. -/
def compileLenient (specs : List Plugin.Spec) : Catalog × List Fault := empty.addValid specs

end Catalog

end Fingerprint
