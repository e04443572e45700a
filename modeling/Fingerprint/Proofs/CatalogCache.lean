import Fingerprint.Proofs.FileTree
import Fingerprint.Proofs.MessagePackRoundTrip
import Fingerprint.Proofs.PluginDocument
import Fingerprint.Storage.Loading

/-!
The catalog cache gives the plugins back that were stored in it, or no plugins at all.

Plugins whose lengths are below 2^32 can be stored as MessagePack. The values are nested five deep:
the list of the plugins, a plugin, the matchers of a category, the list of a field, a matcher.

A cache is written in place, so a write that is interrupted leaves the front part of its bytes. The
bytes are one MessagePack value, and no front part of a value is a value.
-/

set_option autoImplicit false

namespace Fingerprint

namespace Plugin

/-- The texts of a matcher. -/
def MatcherSpec.texts (matcher : MatcherSpec) : List String :=
  matcher.pattern :: (matcher.header.toList ++ matcher.name.toList ++ matcher.template.toList)

def ScriptMatcher.texts (matcher : ScriptMatcher) : List String :=
  [matcher.check, matcher.version]

namespace Spec

/-- The lists of matchers for each category and field. -/
def matcherLists (spec : Spec) : List (List MatcherSpec) :=
  Category.all.flatMap fun category => Field.all.map fun field =>
    (spec.matchers.get category).get field

/-- The texts of a plugin. -/
def texts (spec : Spec) : List String :=
  spec.name :: (spec.homepage.toList ++ spec.tags ++
    spec.matcherLists.flatten.flatMap MatcherSpec.texts ++
    spec.scriptMatchers.flatMap ScriptMatcher.texts)

/-- The lengths of the lists of a plugin. -/
def listLengths (spec : Spec) : List Nat :=
  spec.tags.length :: spec.scriptMatchers.length :: spec.matcherLists.map List.length

end Spec

/-- Whether the number of plugins, the lists in them, and the bytes of each text in them are below
2^32. -/
structure ShortLengths (specs : List Spec) : Prop where
  plugins : specs.length < 2 ^ 32
  lists : ∀ spec ∈ specs, ∀ length ∈ spec.listLengths, length < 2 ^ 32
  texts : ∀ spec ∈ specs, ∀ text ∈ spec.texts, Text.byteCount text < 2 ^ 32

end Plugin

namespace MessagePack

open Data (present)
open Plugin

theorem storable_text {depth : Nat} {text : String} (short : Text.byteCount text < 2 ^ 32) :
    storable depth (.text text) := decide_eq_true short

theorem storableItems_iff {depth : Nat} {items : List Data} :
    storableItems depth items ↔ ∀ item ∈ items, storable depth item := by
  induction items with
  | nil => exact ⟨fun _ => nofun, fun _ => rfl⟩
  | cons item items ih =>
    rw [storableItems, Bool.and_eq_true_iff, ih, List.forall_mem_cons]

theorem storable_list {depth : Nat} {items : List Data} (short : items.length < 2 ^ 32)
    (parts : ∀ item ∈ items, storable depth item) : storable (depth + 1) (.list items) := by
  rw [storable, Bool.and_eq_true_iff]
  exact ⟨decide_eq_true short, storableItems_iff.mpr parts⟩

theorem storableEntries_present {depth : Nat} {fields : List (String × Option Data)}
    (names : ∀ field ∈ fields, Text.byteCount field.1 < 2 ^ 32)
    (values : ∀ field ∈ fields, ∀ data ∈ field.2, storable depth data) :
    storableEntries depth ((present fields).map fun (name, data) => (.text name, data)) := by
  induction fields with
  | nil => rfl
  | cons field fields ih =>
    obtain ⟨name, value⟩ := field
    have later := ih (fun field member => names field (List.mem_cons_of_mem _ member))
      fun field member => values field (List.mem_cons_of_mem _ member)
    cases value with
    | none => exact later
    | some data =>
      have key : storable depth (.text name) := storable_text (names _ List.mem_cons_self)
      have written : storable depth data := values _ List.mem_cons_self data rfl
      rw [present, List.filterMap_cons]
      simp only [Option.map_some, List.map_cons, storableEntries, Bool.and_eq_true]
      exact ⟨⟨key, written⟩, later⟩

/-- A record of fields with short names can be stored if what is written in the fields can be. -/
theorem storable_object {depth : Nat} (names : List String) {fields : List (String × Option Data)}
    (named : fields.map Prod.fst = names) (few : names.length < 2 ^ 32)
    (short : ∀ name ∈ names, Text.byteCount name < 2 ^ 32)
    (values : ∀ field ∈ fields, ∀ data ∈ field.2, storable depth data) :
    storable (depth + 1) (.object (present fields)) := by
  subst named
  have fewer : (present fields).length ≤ fields.length := List.length_filterMap_le _ _
  rw [List.length_map] at few
  rw [Data.object, storable, Bool.and_eq_true_iff]
  exact ⟨decide_eq_true (by rw [List.length_map]; omega), storableEntries_present
    (fun field member => short field.1 (List.mem_map_of_mem member)) values⟩

section

variable {depth : Nat}

theorem storable_some {data : Data} (fits : storable depth data) :
    ∀ written ∈ some data, storable depth written := by
  rintro _ ⟨⟩
  exact fits

theorem storable_listField {α : Type} {items : List α} {write : α → Data}
    (short : items.length < 2 ^ 32) (fits : ∀ item ∈ items, storable depth (write item)) :
    ∀ written ∈ listField (items.map write), storable (depth + 1) written := by
  refine forall_mem_listField (storable_list (by rwa [List.length_map]) fun data member => ?_)
  obtain ⟨item, listed, rfl⟩ := List.mem_map.mp member
  exact fits item listed

theorem storable_matcher {matcher : MatcherSpec}
    (short : ∀ text ∈ matcher.texts, Text.byteCount text < 2 ^ 32) :
    storable (depth + 1) matcher.toData := by
  rw [MatcherSpec.toData_eq]
  refine storable_object MatcherSpec.fieldNames rfl (by decide) (by decide) ?_
  simp only [MatcherSpec.texts, List.forall_mem_cons, List.forall_mem_append,
    Option.mem_toList] at short
  obtain ⟨pattern, ⟨header, name⟩, template⟩ := short
  simp only [MatcherSpec.fields, List.forall_mem_cons]
  exact ⟨storable_some (storable_text pattern),
    Option.forall_mem_map.mpr fun text member => storable_text (header text member),
    Option.forall_mem_map.mpr fun text member => storable_text (name text member),
    Option.forall_mem_map.mpr fun group _ => decide_eq_true group.toNat_lt,
    Option.forall_mem_map.mpr fun text member => storable_text (template text member),
    List.forall_mem_nil _⟩

theorem storable_scriptMatcher {matcher : ScriptMatcher}
    (short : ∀ text ∈ matcher.texts, Text.byteCount text < 2 ^ 32) :
    storable (depth + 1) matcher.toData := by
  rw [ScriptMatcher.toData_eq]
  refine storable_object ["check", "version"] rfl (by decide) (by decide) ?_
  simp only [ScriptMatcher.texts, List.forall_mem_cons] at short
  obtain ⟨check, version, -⟩ := short
  simp only [ScriptMatcher.fields, List.forall_mem_cons]
  exact ⟨storable_some (storable_text check), storable_some (storable_text version),
    List.forall_mem_nil _⟩

theorem storable_matchersField {lists : PerField MatcherSpec}
    (short : ∀ field, (lists.get field).length < 2 ^ 32)
    (texts : ∀ field, ∀ matcher ∈ lists.get field, ∀ text ∈ matcher.texts,
      Text.byteCount text < 2 ^ 32) :
    ∀ written ∈ matchersField lists, storable (depth + 3) written := by
  have part (field : Field) : ∀ written ∈ listField ((lists.get field).map (·.toData)),
      storable (depth + 2) written :=
    storable_listField (short field) fun matcher member =>
      storable_matcher (texts field matcher member)
  refine forall_mem_matchersField ?_
  rw [matcherListsToData_eq]
  refine storable_object ["url", "body", "header"] rfl (by decide) (by decide) ?_
  simp only [matcherListsFields, List.forall_mem_cons]
  exact ⟨part .url, part .body, part .header, List.forall_mem_nil _⟩

theorem storable_spec {spec : Spec} (lists : ∀ length ∈ spec.listLengths, length < 2 ^ 32)
    (texts : ∀ text ∈ spec.texts, Text.byteCount text < 2 ^ 32) :
    storable (depth + 4) spec.toData := by
  have listed (category : Category) (field : Field) :
      (spec.matchers.get category).get field ∈ spec.matcherLists :=
    List.mem_flatMap.mpr ⟨category, category.mem_all, List.mem_map.mpr ⟨field, field.mem_all, rfl⟩⟩
  simp only [Spec.listLengths, Spec.texts, List.forall_mem_cons, List.forall_mem_append,
    Option.mem_toList] at lists texts
  obtain ⟨tagCount, scriptCount, counts⟩ := lists
  obtain ⟨name, ⟨⟨homepage, tags⟩, matchers⟩, scripts⟩ := texts
  have part (category : Category) :
      ∀ written ∈ matchersField (spec.matchers.get category), storable (depth + 3) written :=
    storable_matchersField (fun field => counts _ (List.mem_map_of_mem (listed category field)))
      fun field matcher member text written => matchers text (List.mem_flatMap.mpr
        ⟨matcher, List.mem_flatten.mpr ⟨_, listed category field, member⟩, written⟩)
  rw [Spec.toData_eq]
  refine storable_object Spec.fieldNames rfl (by decide) (by decide) ?_
  simp only [Spec.fields, List.forall_mem_cons]
  refine ⟨storable_some (storable_text name),
    Option.forall_mem_map.mpr fun text member => storable_text (homepage text member),
    storable_listField tagCount fun text member => storable_text (tags text member),
    part .matchers, part .modularMatchers, part .indicators,
    storable_listField scriptCount fun matcher member => storable_scriptMatcher fun text own => ?_,
    List.forall_mem_nil _⟩
  exact scripts text (List.mem_flatMap.mpr ⟨matcher, member, own⟩)

/-- The plugins of a list can be stored if its lengths are short. -/
theorem storable_specs {specs : List Spec} (short : ShortLengths specs) :
    storable (depth + 5) (.list (specs.map (·.toData))) := by
  refine storable_list (by rw [List.length_map]; exact short.plugins) fun data member => ?_
  obtain ⟨spec, listed, rfl⟩ := List.mem_map.mp member
  exact storable_spec (short.lists spec listed) (short.texts spec listed)

end

end MessagePack

end Fingerprint

namespace Fingerprint.CatalogCache

open Plugin (Spec ShortLengths)

section

variable {specs : List Spec} (short : ShortLengths specs)

include short

/-- The bytes of a cache denote the plugins that it was made of. -/
theorem decode_encode : decode (encode specs) = .ok specs := by
  have value : MessagePack.decode? (encode specs) = some (.list (specs.map (·.toData))) :=
    MessagePack.decode?_encode (MessagePack.storable_specs short)
  have listed : Data.listOf? Spec.ofData? (.list (specs.map (·.toData))) = some specs :=
    Plugin.mapM_map Spec.ofData?_toData
  rw [decode, value, Option.bind_some, listed]

/-- A part of the bytes of a cache from their front denotes nothing. -/
theorem decode_take {cut : Nat} (torn : cut < (encode specs).length) :
    decode ((encode specs).take cut) = .error .messagePackMalformed := by
  have nothing : MessagePack.decode? ((encode specs).take cut) = none :=
    MessagePack.decode?_take (MessagePack.storable_specs short) torn
  rw [decode, nothing, Option.bind_none]

end

theorem load_of_read {tree : FileTree} {path : String} {bytes : List UInt8}
    (held : tree.read path = .ok bytes) : load tree path = decode bytes := by
  rw [load, held]
  rfl

theorem load_congr {before after : FileTree} {path : String}
    (kept : after.read path = before.read path) : load after path = load before path := by
  rw [load, load, kept]

theorem save_eq_ok_iff {tree stored : FileTree} {path : String} {specs : List Spec} :
    save tree path specs = .ok stored ↔ tree.write path (encode specs) = .ok stored := by
  unfold save
  cases tree.write path (encode specs) <;> simp [Except.mapError]

theorem read_of_save {tree stored : FileTree} {path : String} {specs : List Spec}
    (saved : save tree path specs = .ok stored) : stored.read path = .ok (encode specs) :=
  FileTree.read_of_write (save_eq_ok_iff.mp saved)

/-- Plugins that are saved are loaded as they were, whatever parts of them are left out and whatever
the sizes of their texts, lists and numbers. -/
theorem load_of_save {specs : List Spec} (short : ShortLengths specs) :
    decode (encode specs) = .ok specs ∧
    ∀ tree path stored, save tree path specs = .ok stored →
      stored.read path = .ok (encode specs) ∧ load stored path = .ok specs := by
  refine ⟨decode_encode short, fun tree path stored saved => ?_⟩
  have held := read_of_save saved
  exact ⟨held, (load_of_read held).trans (decode_encode short)⟩

namespace Shop

/-- Plugins of which one has a header matcher, a matcher of the greatest group, and a script
matcher. -/
def specs : List Spec :=
  [.named "blank", (((Spec.named "shop").withMatcher .matchers .header
    ⟨"v(.*)", some "server", none, none, none⟩).withMatcher .indicators .body
      ⟨"cart", none, none, some 0xFFFFFFFFFFFFFFFF, none⟩).withScriptMatcher "shop" "shop.version"]

/-- An empty directory in which paths begin. -/
def tree : FileTree := .empty "data" true

theorem shortLengths : ShortLengths specs := ⟨by decide, by decide, by decide⟩

theorem isName : Path.IsName "c" :=
  ⟨by decide, by decide, by decide, by decide, by decide, by decide⟩

theorem write_eq (bytes : List UInt8) :
    tree.write "c" bytes = .ok (tree.setEntry ["c"] (.file bytes)) := by
  have located : tree.locate "c" = .ok ["c"] := FileTree.locate_of_isName rfl isName (by decide)
  exact FileTree.write_eq_ok_iff.mpr
    ⟨["c"], located, rfl, Bool.false_ne_true, isName.not_namesDirectory, rfl⟩

end Shop

theorem load_of_save_shop :
    ShortLengths Shop.specs ∧ decode (encode Shop.specs) = .ok Shop.specs ∧
      ∃ stored, save Shop.tree "c" Shop.specs = .ok stored ∧ load stored "c" = .ok Shop.specs := by
  obtain ⟨decoded, loaded⟩ := load_of_save Shop.shortLengths
  have saved : save Shop.tree "c" Shop.specs =
      .ok (Shop.tree.setEntry ["c"] (.file (encode Shop.specs))) := by
    rw [save, Shop.write_eq]
    rfl
  exact ⟨Shop.shortLengths, decoded, _, saved, (loaded _ _ _ saved).2⟩

/-- A cache that breaks off is never taken for a whole one: it is refused, and the plugins are read
from the plugin files, as if there were no cache. -/
theorem load_truncated {specs : List Spec} (short : ShortLengths specs) {cut : Nat}
    (torn : cut < (encode specs).length) {tree : FileTree} {path : String}
    (held : tree.read path = .ok ((encode specs).take cut)) :
    load tree path = .error .messagePackMalformed ∧
    ∀ config : Config, config.cachePath = some path →
      Loading.run tree config =
        Loading.readDefinitions tree config [.cacheMissed .messagePackMalformed] ∧
      (Loading.run tree config).specs = tree.loadPaths config.pluginPaths := by
  have refused : load tree path = .error .messagePackMalformed :=
    (load_of_read held).trans (decode_take short torn)
  refine ⟨refused, fun config cached => ?_⟩
  have missed : Loading.run tree config =
      Loading.readDefinitions tree config [.cacheMissed .messagePackMalformed] := by
    rw [Loading.run, cached]
    simp only [refused]
  refine ⟨missed, ?_⟩
  rw [missed, Loading.readDefinitions]
  cases tree.loadPaths config.pluginPaths <;> rfl

theorem load_truncated_shop :
    let torn := Shop.tree.setEntry ["c"] (.file ((encode Shop.specs).take 40))
    let config := { Config.standard with cachePath := some "c" }
    ShortLengths Shop.specs ∧ 40 < (encode Shop.specs).length ∧
      torn.read "c" = .ok ((encode Shop.specs).take 40) ∧
      load torn "c" = .error .messagePackMalformed ∧
      (Loading.run torn config).specs = torn.loadPaths config.pluginPaths := by
  intro torn config
  have cut : 40 < (encode Shop.specs).length := by cbv
  have held := FileTree.read_of_write (Shop.write_eq ((encode Shop.specs).take 40))
  obtain ⟨refused, fallback⟩ := load_truncated Shop.shortLengths cut held
  exact ⟨Shop.shortLengths, cut, held, refused, (fallback config rfl).2⟩

end Fingerprint.CatalogCache
