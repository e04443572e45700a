import Fingerprint.Plugin.Document
import Mathlib.Data.List.Nodup

/-!
Plugins as values give the plugins back.

A structure is a record of its fields in their order, where a field with nothing to write is left
out. What is read in its place is what was not written.
-/

set_option autoImplicit false

namespace Fingerprint

namespace Data

/-- The entries of the fields that have a value. -/
def present (fields : List (String × Option Data)) : List (String × Data) :=
  fields.filterMap fun (name, value) => value.map (name, ·)

theorem idxOf?_append_cons {name : String} {front : List String} (new : name ∉ front)
    (back : List String) : (front ++ name :: back).idxOf? name = some front.length := by
  induction front with
  | nil => rw [List.nil_append, List.idxOf?_cons, if_pos (beq_self_eq_true name), List.length_nil]
  | cons other front ih =>
    obtain ⟨different, new⟩ := List.ne_and_not_mem_of_not_mem_cons new
    rw [List.cons_append, List.idxOf?_cons, if_neg (beq_eq_false_iff_ne.mpr different.symm ▸
      Bool.false_ne_true), ih new, Option.map_some, List.length_cons]

/-- Entering the fields behind those that are entered already. A field without a value has no
entry, and its place stays as it was. -/
theorem findEntries?_present (before rest : List (String × Option Data))
    (distinct : ((before ++ rest).map Prod.fst).Nodup) :
    findEntries? ((before ++ rest).map Prod.fst)
      ((present rest).map fun (name, data) => (.text name, data))
      (before.map Prod.snd ++ List.replicate rest.length none) =
        some ((before ++ rest).map Prod.snd) := by
  induction rest generalizing before with
  | nil =>
    rw [List.length_nil, List.replicate_zero, List.append_nil, List.append_nil]
    rfl
  | cons field rest ih =>
    obtain ⟨name, value⟩ := field
    have later := ih (before ++ [(name, value)])
      (by rwa [List.append_assoc, List.singleton_append])
    have entered : (before ++ [(name, value)]).map Prod.snd ++ List.replicate rest.length none =
        before.map Prod.snd ++ value :: List.replicate rest.length none := by
      rw [List.map_append, List.map_singleton, List.append_assoc, List.singleton_append]
    rw [entered, List.append_assoc, List.singleton_append] at later
    cases value with
    | none => exact later
    | some data =>
      have place : ((before ++ (name, some data) :: rest).map Prod.fst).idxOf? name =
          some before.length := by
        have new : name ∉ before.map Prod.fst := fun member =>
          (List.nodup_append.mp (List.map_append ▸ distinct)).2.2 name member name
            List.mem_cons_self rfl
        rw [List.map_append, List.map_cons, idxOf?_append_cons new, List.length_map]
      have reached : (before.map Prod.snd).length ≤ before.length := Nat.le_of_eq (List.length_map _)
      have vacant : (before.map Prod.snd ++
          none :: List.replicate rest.length none)[before.length]? = some none := by
        rw [List.getElem?_append_right reached, List.length_map, Nat.sub_self,
          List.getElem?_cons_zero]
      have enter : (before.map Prod.snd ++ none :: List.replicate rest.length none).set
          before.length (some data) =
            before.map Prod.snd ++ some data :: List.replicate rest.length none := by
        rw [List.set_append_right _ _ reached, List.length_map, Nat.sub_self, List.set_cons_zero]
      rw [present, List.filterMap_cons]
      simp only [Option.map_some, List.map_cons, findEntries?, fieldIndex?, place, List.length_cons,
        List.replicate_succ, vacant, enter]
      exact later

/-- A record of the fields that have a value gives each field its value back. -/
theorem fields?_present (names : List String) (fields : List (String × Option Data))
    (named : fields.map Prod.fst = names) (distinct : names.Nodup) :
    (object (present fields)).fields? names = some (fields.map Prod.snd) := by
  subst named
  rw [object, fields?, List.length_map]
  exact findEntries?_present [] fields distinct

end Data

namespace Plugin

open Data (present text? natural64? listOf? optionOf? Found)

theorem present_nil : present [] = [] := rfl

theorem entry?_append_present (name : String) (value : Option Data)
    (fields : List (String × Option Data)) :
    entry? name value ++ present fields = present ((name, value) :: fields) := by
  cases value <;> rfl

/-- The value of a field that is written only if the list is not empty. -/
def listField (items : List Data) : Option Data :=
  if items.isEmpty then none else some (.list items)

def matchersField (lists : PerField MatcherSpec) : Option Data :=
  if lists.isEmpty then none else some (matcherListsToData lists)

theorem forall_mem_listField {holds : Data → Prop} {items : List Data}
    (whole : holds (.list items)) : ∀ written ∈ listField items, holds written := by
  intro written member
  unfold listField at member
  split at member
  · cases member
  · cases member
    exact whole

theorem forall_mem_matchersField {holds : Data → Prop} {lists : PerField MatcherSpec}
    (whole : holds (matcherListsToData lists)) : ∀ written ∈ matchersField lists, holds written := by
  intro written member
  unfold matchersField at member
  split at member
  · cases member
  · cases member
    exact whole

theorem entryOfList_eq (name : String) (items : List Data) :
    entryOfList name items = entry? name (listField items) := by
  cases items <;> rfl

theorem entryOfMatchers_eq (name : String) (lists : PerField MatcherSpec) :
    entryOfMatchers name lists = entry? name (matchersField lists) := by
  unfold entryOfMatchers matchersField
  split <;> rfl

/-- The fields of a matcher by their names. -/
def MatcherSpec.fields (matcher : MatcherSpec) : List (String × Option Data) :=
  [("pattern", some (.text matcher.pattern)), ("header", matcher.header.map .text),
    ("name", matcher.name.map .text),
    ("group", matcher.group.map fun group => .natural group.toNat),
    ("version", matcher.template.map .text)]

def matcherListsFields (lists : PerField MatcherSpec) : List (String × Option Data) :=
  [("url", listField (lists.url.map (·.toData))), ("body", listField (lists.body.map (·.toData))),
    ("header", listField (lists.header.map (·.toData)))]

def ScriptMatcher.fields (matcher : ScriptMatcher) : List (String × Option Data) :=
  [("check", some (.text matcher.check)), ("version", some (.text matcher.version))]

def Spec.fields (spec : Spec) : List (String × Option Data) :=
  [("name", some (.text spec.name)), ("homepage", spec.homepage.map .text),
    ("tags", listField (spec.tags.map .text)), ("matchers", matchersField spec.matchers.matchers),
    ("modular_matchers", matchersField spec.matchers.modularMatchers),
    ("indicators", matchersField spec.matchers.indicators),
    ("js_matchers", listField (spec.scriptMatchers.map (·.toData)))]

theorem MatcherSpec.toData_eq (matcher : MatcherSpec) :
    matcher.toData = .object (present matcher.fields) := by
  simp only [fields, ← entry?_append_present, present_nil, toData, List.append_assoc,
    List.append_nil]
  rfl

theorem matcherListsToData_eq (lists : PerField MatcherSpec) :
    matcherListsToData lists = .object (present (matcherListsFields lists)) := by
  simp only [matcherListsFields, ← entry?_append_present, present_nil, matcherListsToData,
    entryOfList_eq, List.append_assoc, List.append_nil]

theorem ScriptMatcher.toData_eq (matcher : ScriptMatcher) :
    matcher.toData = .object (present matcher.fields) := rfl

theorem Spec.toData_eq (spec : Spec) : spec.toData = .object (present spec.fields) := by
  simp only [fields, ← entry?_append_present, present_nil, toData, entryOfList_eq,
    entryOfMatchers_eq, List.append_assoc, List.append_nil]
  rfl

section

variable {α : Type} {found : Found} {index : Nat}

/-- A field with an option is read as it was written, also where nothing was. -/
theorem optional_option {read : Data → Option α} {write : α → Data} {value : Option α}
    (field : found[index]? = some (value.map write))
    (reads : ∀ value, optionOf? read (write value) = some (some value)) :
    found.optional index none (optionOf? read) = some value := by
  rw [Found.optional, field]
  cases value with
  | none => rfl
  | some value => exact reads value

theorem mapM_map {read : Data → Option α} {write : α → Data} {items : List α}
    (reads : ∀ item, read (write item) = some item) : (items.map write).mapM read = some items := by
  induction items with
  | nil => rfl
  | cons item items ih =>
    rw [List.map_cons, List.mapM_cons, reads, ih]
    rfl

theorem optional_list {read : Data → Option α} {write : α → Data} {items : List α}
    (field : found[index]? = some (listField (items.map write)))
    (reads : ∀ item, read (write item) = some item) :
    found.optional index [] (listOf? read) = some items := by
  rw [Found.optional, field]
  cases items with
  | nil => rfl
  | cons item items => exact mapM_map reads

end

theorem text?_text (text : String) : text? (.text text) = some text := rfl

theorem optionOf?_text (text : String) : optionOf? text? (.text text) = some (some text) := rfl

theorem optionOf?_natural (number : UInt64) :
    optionOf? natural64? (.natural number.toNat) = some (some number) := by
  have bounded : number.toNat < 1 <<< 64 := number.toNat_lt
  have read : natural64? (.natural number.toNat) = some number := by
    rw [natural64?, if_pos bounded, UInt64.ofNat_toNat]
  exact congrArg (Option.map some) read

theorem MatcherSpec.ofData?_toData (matcher : MatcherSpec) :
    ofData? matcher.toData = some matcher := by
  rw [toData_eq, ofData?, Data.fields?_present fieldNames matcher.fields rfl (by decide)]
  have pattern : Found.required (matcher.fields.map Prod.snd) 0 text? = some matcher.pattern := rfl
  simp only [Option.bind_eq_bind, Option.bind_some]
  rw [pattern, optional_option rfl optionOf?_text, optional_option rfl optionOf?_text,
    optional_option rfl optionOf?_natural, optional_option rfl optionOf?_text]
  rfl

theorem ScriptMatcher.ofData?_toData (matcher : ScriptMatcher) :
    ofData? matcher.toData = some matcher := by
  rw [toData_eq, ofData?, Data.fields?_present ["check", "version"] matcher.fields rfl (by decide)]
  rfl

theorem matcherListsOfData?_toData (lists : PerField MatcherSpec) :
    matcherListsOfData? (matcherListsToData lists) = some lists := by
  rw [matcherListsToData_eq, matcherListsOfData?,
    Data.fields?_present ["url", "body", "header"] (matcherListsFields lists) rfl (by decide)]
  simp only [Option.bind_eq_bind, Option.bind_some]
  rw [optional_list rfl MatcherSpec.ofData?_toData, optional_list rfl MatcherSpec.ofData?_toData,
    optional_list rfl MatcherSpec.ofData?_toData]
  rfl

/-- Where no matchers are written there were none. -/
theorem optional_matchers {found : Found} {index : Nat} {lists : PerField MatcherSpec}
    (field : found[index]? = some (matchersField lists)) :
    found.optional index .empty matcherListsOfData? = some lists := by
  rw [Found.optional, field, matchersField]
  cases blank : lists.isEmpty with
  | true =>
    obtain ⟨url, body, header⟩ := lists
    simp only [PerField.isEmpty, Bool.and_eq_true, List.isEmpty_iff] at blank
    obtain ⟨⟨rfl, rfl⟩, rfl⟩ := blank
    rfl
  | false => exact matcherListsOfData?_toData lists

/-- A plugin is read as it was written. -/
theorem Spec.ofData?_toData (spec : Spec) : ofData? spec.toData = some spec := by
  rw [toData_eq, ofData?, Data.fields?_present fieldNames spec.fields rfl (by decide)]
  have name : Found.required (spec.fields.map Prod.snd) 0 text? = some spec.name := rfl
  simp only [Option.bind_eq_bind, Option.bind_some]
  rw [name, optional_option rfl optionOf?_text, optional_list rfl text?_text,
    optional_matchers rfl, optional_matchers rfl, optional_matchers rfl,
    optional_list rfl ScriptMatcher.ofData?_toData]
  rfl

/-- What is read as a plugin has its name. -/
theorem Spec.required_of_ofData? {data : Data} {spec : Spec} (read : ofData? data = some spec) :
    ∃ found, data.fields? fieldNames = some found ∧ found.required 0 text? = some spec.name := by
  obtain ⟨found, fields, read⟩ := Option.bind_eq_some_iff.mp read
  obtain ⟨name, required, read⟩ := Option.bind_eq_some_iff.mp read
  refine ⟨found, fields, required.trans (congrArg some ?_)⟩
  simp only [Option.bind_eq_bind, Option.bind_eq_some_iff, Option.pure_def,
    Option.some.injEq] at read
  obtain ⟨_, -, _, -, _, -, _, -, _, -, _, -, rfl⟩ := read
  rfl

/-- A list that is read as a plugin begins with the name. -/
theorem Spec.text?_of_ofData?_list {items : List Data} {spec : Spec}
    (read : ofData? (.list items) = some spec) :
    ∃ item rest, items = item :: rest ∧ text? item = some spec.name := by
  obtain ⟨found, fields, name⟩ := required_of_ofData? read
  rw [Data.fields?] at fields
  split at fields
  · cases fields
  · cases fields
    cases items with
    | nil => cases name
    | cons item rest => exact ⟨item, rest, rfl, name⟩

theorem Spec.ofData?_eq_none_of_text? {data : Data} {text : String}
    (written : text? data = some text) : ofData? data = none := by
  cases data with
  | text | bytes => rfl
  | _ => cases written

/-- No value is both a list of plugins and a plugin written as the list of its fields: what stands
first would be a plugin and a name. -/
theorem listOf?_eq_none_of_ofData? {data : Data} {spec : Spec}
    (read : Spec.ofData? data = some spec) : listOf? Spec.ofData? data = none := by
  cases data with
  | list items =>
    obtain ⟨item, rest, rfl, name⟩ := Spec.text?_of_ofData?_list read
    rw [listOf?, List.mapM_cons, Spec.ofData?_eq_none_of_text? name]
    rfl
  | _ => rfl

end Plugin

end Fingerprint
