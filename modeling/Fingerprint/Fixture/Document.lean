import Fingerprint.Decimal.Shortest
import Fingerprint.Fixture.Basic
import Fingerprint.Yaml.Value

/-!
Fixtures as YAML texts.

Where a text is expected any scalar is taken as it is written, except in a sample, whose parts have
to denote texts. A version may also be a number.
-/

namespace Fingerprint

open Yaml (Node Following)

namespace Fixture

/-- The text of a scalar as it is written. -/
def textOfNode (node : Node) : Following String := do
  match ← node.followed with
  | .scalar text _ _ => return text
  | _ => failure

/-- The items of a sequence; where nothing is written there are none. -/
def listOfNode {α : Type} (reader : Node → Following α) (node : Node) : Following (List α) := do
  match ← node.followed with
  | .sequence items _ => items.mapM reader
  | node => if node.isAbsent then return [] else failure

/-- The entries of a mapping by their keys as texts. -/
def entriesOfNode (node : Node) : Following (List (String × Node)) := do
  match ← node.followed with
  | .mapping entries _ => entries.mapM fun (key, value) => do return (← textOfNode key, value)
  | node => if node.isAbsent then return [] else failure

/-- The entry of a key, which must not be written twice. -/
def entry (entries : List (String × Node)) (key : String) : Following (Option Node) :=
  match entries.filter (·.1 = key) with
  | [] => return none
  | [(_, node)] => return some node
  | _ => failure

/-- An entry that has to be written. -/
def required {α : Type} (entries : List (String × Node)) (key : String)
    (reader : Node → Following α) : Following α := do
  match ← entry entries key with
  | some node => reader node
  | none => failure

/-- An entry with a default. -/
def optional {α : Type} (entries : List (String × Node)) (key : String) (missing : α)
    (reader : Node → Following α) : Following α := do
  match ← entry entries key with
  | some node => reader node
  | none => return missing

/-- A version, with numbers in their shortest decimal form. -/
def versionOfNode (node : Node) : Following String := do
  match ← node.toData 0 with
  | .text text => return text
  | .natural value => return toString value
  | .integer value => return toString value
  | .float bits => return Decimal.positional bits
  | _ => failure

def headerOfData? (data : Data) : Option (String × String) := do
  let found ← data.fields? ["name", "value"]
  return (← found.required 0 Data.text?, ← found.required 1 Data.text?)

def sampleOfData? (data : Data) : Option Sample := do
  let found ← data.fields? ["url", "body", "header"]
  return {
    url := ← found.optional 0 none (Data.optionOf? Data.text?)
    body := ← found.optional 1 none (Data.optionOf? Data.text?)
    header := ← found.optional 2 none (Data.optionOf? headerOfData?) }

/-- The depth up to which the parts of a sample are read. -/
def sampleDepth : Nat := Yaml.depthLimit - 4

/-- The sample that the entries of an example describe besides those of the keys `others`. All of
them have to denote something. -/
def sampleOfEntries (others : List String) (entries : List (String × Node)) :
    Following Sample := do
  let parts ← (entries.filter (!others.contains ·.1)).mapM fun (key, node) => do
    return (key, ← node.toData sampleDepth)
  match sampleOfData? (.object parts) with
  | some sample => return sample
  | none => failure

def fieldExampleOfNode (node : Node) : Following FieldExample := do
  let entries ← entriesOfNode node
  return {
    sample := ← sampleOfEntries ["version"] entries
    version := ← optional entries "version" none fun node => some <$> versionOfNode node }

def scriptExampleOfNode (node : Node) : Following ScriptExample := do
  let entries ← entriesOfNode node
  return {
    script := ← required entries "js" textOfNode
    version := ← required entries "version" versionOfNode }

def modularExampleOfNode (node : Node) : Following ModularExample := do
  let entries ← entriesOfNode node
  return {
    sample := ← sampleOfEntries ["software", "version"] entries
    software := ← required entries "software" textOfNode
    version := ← optional entries "version" none fun node => some <$> versionOfNode node }

def ofNode (node : Node) : Following Fixture := do
  let entries ← entriesOfNode node
  return {
    plugin := ← required entries "plugin" textOfNode
    matchers := ← optional entries "matches" [] (listOfNode fieldExampleOfNode)
    scripts := ← optional entries "js_matches" [] (listOfNode scriptExampleOfNode)
    modularMatchers := ← optional entries "modular_matches" [] (listOfNode modularExampleOfNode)
    indicators := ← optional entries "indicators" [] (listOfNode fieldExampleOfNode) }

/-- The fixtures of a text; a text without a document holds none. -/
def listOfText? (text : String) : Option (List Fixture) := do
  match ← Yaml.parse? text with
  | some document => document.read? (listOfNode ofNode)
  | none => return []

end Fixture

end Fingerprint
