import Fingerprint.Field

/-!
Plugins as their authors write them, before any pattern is compiled.
-/

namespace Fingerprint.Plugin

/-- A matcher as written. -/
structure MatcherSpec where
  /-- The pattern. For a header it applies to the value if `header` is given, else to the name. -/
  pattern : String
  /-- The pattern of a header name, which has to match the whole name in any case. -/
  header : Option String
  /-- The name that a match stands for. -/
  name : Option String
  /-- The capture group whose text is taken. -/
  group : Option UInt64
  /-- The template of the text, which takes precedence over `group`. -/
  template : Option String
deriving DecidableEq, Repr, Inhabited

/-- Expressions evaluated after the scripts of a page: if `check` yields a value other than
undefined and null the technology is present, and `version` yields its version. -/
structure ScriptMatcher where
  check : String
  version : String
deriving DecidableEq, Repr, Inhabited

/-- A plugin as written. -/
structure Spec where
  name : String
  homepage : Option String
  tags : List String
  matchers : PerCategory MatcherSpec
  scriptMatchers : List ScriptMatcher
deriving DecidableEq, Repr, Inhabited

namespace Spec

/-- A plugin without matchers. -/
def named (name : String) : Spec := ⟨name, none, [], .empty, []⟩

/-- Adds a matcher behind those of its category and field. -/
def withMatcher (spec : Spec) (category : Category) (field : Field) (matcher : MatcherSpec) :
    Spec :=
  { spec with
    matchers := spec.matchers.modify category (·.modify field (· ++ [matcher])) }

/-- Adds a script matcher behind the others. -/
def withScriptMatcher (spec : Spec) (check version : String) : Spec :=
  { spec with scriptMatchers := spec.scriptMatchers ++ [⟨check, version⟩] }

end Spec

end Fingerprint.Plugin
