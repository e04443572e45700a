import Fingerprint.Field
import Fingerprint.Plugin.Spec
import Fingerprint.Regex.Basic

/-!
Compiled plugins and catalogs of them.
-/

namespace Fingerprint

namespace Plugin

/-- What a matcher is applied to: the text of a url or body, or the names of headers and, for the
names that match, their values. -/
inductive Target where
  | text (pattern : Regex)
  | header (name : Regex) (value : Option Regex)
deriving Repr, Inhabited

/-- Which text a match yields. -/
inductive CaptureRule where
  | group (index : Nat)
  | template (text : String)
  | whole
deriving DecidableEq, Repr, Inhabited

/-- A compiled matcher. -/
structure Matcher where
  target : Target
  capture : CaptureRule
  name : Option String
deriving Repr, Inhabited

/-- The patterns of a matcher, for reports. -/
def Matcher.describe (matcher : Matcher) : String :=
  match matcher.target with
  | .text pattern => pattern.pattern
  | .header name (some value) => name.pattern ++ " => " ++ value.pattern
  | .header name none => name.pattern

end Plugin

/-- A compiled plugin. -/
structure Plugin where
  name : String
  homepage : Option String
  tags : List String
  matchers : PerCategory Plugin.Matcher
  scriptMatchers : List Plugin.ScriptMatcher
deriving Repr, Inhabited

namespace Plugin

/-- The matchers of a field and category, in the order of their declaration. -/
def lookup (plugin : Plugin) (field : Field) (category : Category) : List Matcher :=
  (plugin.matchers.get category).get field

/-- The fields with matchers of a category. -/
def fields (plugin : Plugin) (category : Category) : List Field :=
  Field.all.filter fun field => !(plugin.lookup field category).isEmpty

/-- Whether the plugin names components. -/
def isModular (plugin : Plugin) : Bool := !(plugin.fields .modularMatchers).isEmpty

def hasScriptMatchers (plugin : Plugin) : Bool := !plugin.scriptMatchers.isEmpty

def matcherCount (plugin : Plugin) : Nat := plugin.matchers.length

end Plugin

/-- Compiled plugins in ascending order of their names, each name once. -/
structure Catalog where
  plugins : List Plugin
  ascending : plugins.Pairwise (·.name < ·.name)
deriving Repr

namespace Catalog

def empty : Catalog := ⟨[], .nil⟩

instance : Inhabited Catalog := ⟨empty⟩

def get? (catalog : Catalog) (name : String) : Option Plugin :=
  catalog.plugins.find? (·.name = name)

def contains (catalog : Catalog) (name : String) : Bool :=
  catalog.plugins.any (·.name = name)

def names (catalog : Catalog) : List String := catalog.plugins.map (·.name)

def size (catalog : Catalog) : Nat := catalog.plugins.length

/-- Puts a plugin at the place of its name, instead of one that has the same name. -/
def place (plugin : Plugin) : List Plugin → List Plugin
  | [] => [plugin]
  | next :: rest =>
    if plugin.name < next.name then plugin :: next :: rest
    else if plugin.name = next.name then plugin :: rest
    else next :: place plugin rest

theorem mem_place {plugin other : Plugin} {plugins : List Plugin}
    (member : other ∈ place plugin plugins) : other = plugin ∨ other ∈ plugins := by
  induction plugins with
  | nil => simpa only [place, List.mem_singleton, List.not_mem_nil, or_false] using member
  | cons next rest ih =>
    rw [place] at member
    split at member
    · exact List.mem_cons.mp member
    · split at member
      · rcases List.mem_cons.mp member with same | later
        · exact .inl same
        · exact .inr (List.mem_cons_of_mem next later)
      · rcases List.mem_cons.mp member with first | later
        · exact .inr (first ▸ List.mem_cons_self)
        · exact (ih later).imp_right (List.mem_cons_of_mem next)

theorem place_ascending (plugin : Plugin) {plugins : List Plugin}
    (ascending : plugins.Pairwise (·.name < ·.name)) :
    (place plugin plugins).Pairwise (·.name < ·.name) := by
  induction plugins with
  | nil => exact List.pairwise_singleton _ _
  | cons next rest ih =>
    obtain ⟨below, rest_ascending⟩ := List.pairwise_cons.mp ascending
    rw [place]
    split
    next smaller =>
      refine List.pairwise_cons.mpr ⟨fun other member => ?_, ascending⟩
      rcases List.mem_cons.mp member with first | later
      · exact first ▸ smaller
      · exact String.lt_trans smaller (below other later)
    next notSmaller =>
      split
      next same =>
        exact List.pairwise_cons.mpr ⟨fun other member => same ▸ below other member, rest_ascending⟩
      next different =>
        have larger : next.name < plugin.name := String.not_le.mp fun atMost =>
          different (String.le_antisymm atMost (String.not_lt.mp notSmaller))
        refine List.pairwise_cons.mpr ⟨fun other member => ?_, ih rest_ascending⟩
        rcases mem_place member with same | later
        · exact same ▸ larger
        · exact below other later

/-- Adds a plugin under its name. -/
def insert (catalog : Catalog) (plugin : Plugin) : Catalog :=
  ⟨place plugin catalog.plugins, place_ascending plugin catalog.ascending⟩

end Catalog

end Fingerprint
