import Fingerprint.Plugin.Spec
import Fingerprint.Data.Basic

/-!
Plugins as values of documents.

A document holds a list of plugins or a single plugin. Absent options and empty lists are not
written.
-/

namespace Fingerprint.Plugin

open Data (Found text? natural64? listOf? optionOf?)

def MatcherSpec.fieldNames : List String := ["pattern", "header", "name", "group", "version"]

def MatcherSpec.ofData? (data : Data) : Option MatcherSpec := do
  let found ← data.fields? fieldNames
  return {
    pattern := ← found.required 0 text?
    header := ← found.optional 1 none (optionOf? text?)
    name := ← found.optional 2 none (optionOf? text?)
    group := ← found.optional 3 none (optionOf? natural64?)
    template := ← found.optional 4 none (optionOf? text?) }

def matcherListsOfData? (data : Data) : Option (PerField MatcherSpec) := do
  let found ← data.fields? ["url", "body", "header"]
  return {
    url := ← found.optional 0 [] (listOf? MatcherSpec.ofData?)
    body := ← found.optional 1 [] (listOf? MatcherSpec.ofData?)
    header := ← found.optional 2 [] (listOf? MatcherSpec.ofData?) }

def ScriptMatcher.ofData? (data : Data) : Option ScriptMatcher := do
  let found ← data.fields? ["check", "version"]
  return {
    check := ← found.required 0 text?
    version := ← found.required 1 text? }

def Spec.fieldNames : List String :=
  ["name", "homepage", "tags", "matchers", "modular_matchers", "indicators", "js_matchers"]

def Spec.ofData? (data : Data) : Option Spec := do
  let found ← data.fields? fieldNames
  return {
    name := ← found.required 0 text?
    homepage := ← found.optional 1 none (optionOf? text?)
    tags := ← found.optional 2 [] (listOf? text?)
    matchers := {
      matchers := ← found.optional 3 .empty matcherListsOfData?
      modularMatchers := ← found.optional 4 .empty matcherListsOfData?
      indicators := ← found.optional 5 .empty matcherListsOfData? }
    scriptMatchers := ← found.optional 6 [] (listOf? ScriptMatcher.ofData?) }

/-- The plugins of a document: the list reading is tried first. -/
def specsOfData? (data : Data) : Option (List Spec) :=
  (listOf? Spec.ofData? data).or ((Spec.ofData? data).map ([·]))

/-! ### Writing -/

/-- An entry that is written only if there is a value. -/
def entry? (key : String) (value : Option Data) : List (String × Data) :=
  match value with
  | some data => [(key, data)]
  | none => []

/-- An entry that is written only if the list is not empty. -/
def entryOfList (key : String) (items : List Data) : List (String × Data) :=
  if items.isEmpty then [] else [(key, .list items)]

def MatcherSpec.toData (matcher : MatcherSpec) : Data :=
  .object <|
    [("pattern", .text matcher.pattern)] ++
    entry? "header" (matcher.header.map .text) ++
    entry? "name" (matcher.name.map .text) ++
    entry? "group" (matcher.group.map fun group => .natural group.toNat) ++
    entry? "version" (matcher.template.map .text)

def matcherListsToData (lists : PerField MatcherSpec) : Data :=
  .object <|
    entryOfList "url" (lists.url.map (·.toData)) ++
    entryOfList "body" (lists.body.map (·.toData)) ++
    entryOfList "header" (lists.header.map (·.toData))

def entryOfMatchers (key : String) (lists : PerField MatcherSpec) : List (String × Data) :=
  if lists.isEmpty then [] else [(key, matcherListsToData lists)]

def ScriptMatcher.toData (matcher : ScriptMatcher) : Data :=
  .object [("check", .text matcher.check), ("version", .text matcher.version)]

def Spec.toData (spec : Spec) : Data :=
  .object <|
    [("name", .text spec.name)] ++
    entry? "homepage" (spec.homepage.map .text) ++
    entryOfList "tags" (spec.tags.map .text) ++
    entryOfMatchers "matchers" spec.matchers.matchers ++
    entryOfMatchers "modular_matchers" spec.matchers.modularMatchers ++
    entryOfMatchers "indicators" spec.matchers.indicators ++
    entryOfList "js_matchers" (spec.scriptMatchers.map (·.toData))

end Fingerprint.Plugin
