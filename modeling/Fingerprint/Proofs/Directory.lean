import Fingerprint.Proofs.FileTree
import Fingerprint.Proofs.Text
import Fingerprint.Storage.Loading
import Mathlib

/-!
What loading a directory reads.

The names in a directory stand in the order of their bytes whatever the order is in which the
entries come, so the plugins of a directory depend on its plugin files alone. Fixtures are loaded
from whatever is called like a YAML file: a directory of such a name, which a plugin directory may
well hold, makes loading fail.
-/

set_option autoImplicit false

namespace Fingerprint

/-! ### Names of plugin files -/

/-- What may stand behind the last dot of a name, in any case. -/
def FileType.extensions : FileType → List String
  | .json => ["json"]
  | .yaml => ["yml", "yaml"]

/-- The name ends in a dot and an extension of the type; the dot is not all that stands before. -/
def FileType.Names (type : FileType) (name : String) : Prop :=
  ∃ stem extension, stem ≠ "" ∧ '.' ∉ extension.toList ∧ name = stem ++ "." ++ extension ∧
    Text.toLowerAscii extension ∈ type.extensions

theorem Path.extensionOf?_eq_some_iff {name extension : String} :
    extensionOf? name = some extension ↔
      ∃ stem, stem ≠ "" ∧ '.' ∉ extension.toList ∧ name = stem ++ "." ++ extension := by
  constructor
  · intro found
    unfold extensionOf? at found
    have parts := List.takeWhile_append_dropWhile (p := (· ≠ '.')) (l := name.toList.reverse)
    have apart := List.all_takeWhile (p := (· ≠ '.')) (l := name.toList.reverse)
    have first := List.head?_dropWhile_not (· ≠ '.') name.toList.reverse
    generalize name.toList.reverse.takeWhile (· ≠ '.') = ending at found parts apart
    split at found
    next dot before rest behind =>
      cases found
      rw [behind] at parts first
      obtain rfl : dot = '.' := by simpa using first
      refine ⟨.ofList (before :: rest).reverse, ?_, ?_, ?_⟩
      · simp
      · rw [String.toList_ofList, List.mem_reverse]
        intro inside
        simpa using List.all_eq_true.mp apart _ inside
      · apply String.toList_inj.mp
        rw [← List.reverse_reverse name.toList, ← parts]
        simp
    · cases found
  · rintro ⟨stem, inhabited, last, rfl⟩
    have reversed : (stem ++ "." ++ extension).toList.reverse =
        extension.toList.reverse ++ '.' :: stem.toList.reverse := by
      simp
    have apart (c : Char) (inside : c ∈ extension.toList.reverse) : decide (c ≠ '.') :=
      decide_eq_true fun same => last (same ▸ List.mem_reverse.mp inside)
    unfold extensionOf?
    rw [reversed, List.dropWhile_append_of_pos apart, List.takeWhile_append_of_pos apart]
    cases front : stem.toList.reverse with
    | nil => exact absurd (by simpa using front) inhabited
    | cons before rest => simp

theorem FileType.ofExtension?_eq_some_iff {extension : String} {type : FileType} :
    ofExtension? extension = some type ↔ Text.toLowerAscii extension ∈ type.extensions := by
  unfold ofExtension?
  split
  next json => cases type <;> simp [extensions, json]
  next yml => cases type <;> simp [extensions, yml]
  next yaml => cases type <;> simp [extensions, yaml]
  next json yml yaml =>
    refine ⟨nofun, fun written => ?_⟩
    cases type with
    | json => exact absurd (List.mem_singleton.mp written) json
    | yaml =>
      obtain written | written := List.mem_pair.mp written
      · exact absurd written yml
      · exact absurd written yaml

theorem FileType.names_iff {type : FileType} {name : String} :
    type.Names name ↔ (Path.extensionOf? name).bind ofExtension? = some type := by
  rw [Option.bind_eq_some_iff]
  simp only [Path.extensionOf?_eq_some_iff, ofExtension?_eq_some_iff]
  constructor
  · rintro ⟨stem, extension, inhabited, last, parts, written⟩
    exact ⟨extension, ⟨stem, inhabited, last, parts⟩, written⟩
  · rintro ⟨extension, ⟨stem, inhabited, last, parts⟩, written⟩
    exact ⟨stem, extension, inhabited, last, parts, written⟩

/-! ### Lists that are read one after the other -/

/-- What reading names one after the other amounts to: all that they hold, or the failure of the
first one that cannot be read. -/
inductive Gathers {α β : Type} (read : α → Except Failure (List β)) :
    List α → Except Failure (List β) → Prop
  | all {names : List α} {parts : List (List β)}
      (each : List.Forall₂ (fun name part => read name = .ok part) names parts) :
      Gathers read names (.ok parts.flatten)
  | stopped {before after : List α} {name : α} {failure : Failure}
      (each : ∀ earlier ∈ before, ∃ part, read earlier = .ok part)
      (fails : read name = .error failure) :
      Gathers read (before ++ name :: after) (.error failure)

theorem Gathers.cons {α β : Type} {read : α → Except Failure (List β)} {name : α} {part : List β}
    {names : List α} {result : Except Failure (List β)} (first : read name = .ok part)
    (rest : Gathers read names result) : Gathers read (name :: names) (result.map (part ++ ·)) := by
  cases rest with
  | all each => exact .all (.cons first each)
  | @stopped before after other failure each fails =>
    show Gathers read ((name :: before) ++ other :: after) _
    exact .stopped (List.forall_mem_cons.mpr ⟨⟨part, first⟩, each⟩) fails

/-- Where one name cannot be read there is a failure. -/
theorem Gathers.exists_failure {α β : Type} {read : α → Except Failure (List β)} {names : List α}
    {result : Except Failure (List β)} (gathered : Gathers read names result) {name : α}
    {cause : Failure} (member : name ∈ names) (fails : read name = .error cause) :
    ∃ failure, result = .error failure := by
  cases gathered with
  | stopped each fails => exact ⟨_, rfl⟩
  | all each =>
    induction each with
    | nil => cases member
    | cons first rest ih =>
      obtain rfl | later := List.mem_cons.mp member
      · rw [fails] at first
        cases first
      · obtain ⟨_, failed⟩ := ih later
        cases failed

theorem gathers {α β : Type} (read : α → Except Failure (List β)) (names : List α) :
    Gathers read names (List.flatten <$> names.mapM read) := by
  induction names with
  | nil => exact .all .nil
  | cons name names ih =>
    rw [List.mapM_cons]
    cases first : read name with
    | error failure =>
      show Gathers read ([] ++ name :: names) _
      exact .stopped nofun first
    | ok part =>
      have onward := Gathers.cons first ih
      cases rest : names.mapM read <;> rwa [rest] at onward

/-! ### Entries of a directory in order -/

namespace FileTree

/-- The names stand in the order of their bytes, each one once. -/
def Ascending {α : Type} (entries : List (String × α)) : Prop :=
  entries.Pairwise fun left right => Text.encode left.1 < Text.encode right.1

theorem Ascending.nodup {α : Type} {entries : List (String × α)} (ascends : Ascending entries) :
    entries.Nodup := by
  refine ascends.imp fun {left right} below same => ?_
  rw [same] at below
  exact List.lt_irrefl _ below

/-- The members make up the list. -/
theorem Ascending.eq_of_mem_iff {α : Type} {first second : List (String × α)}
    (firstAscends : Ascending first) (secondAscends : Ascending second)
    (same : ∀ entry, entry ∈ first ↔ entry ∈ second) : first = second := by
  refine List.Perm.eq_of_pairwise (fun left right _ _ below above => ?_) firstAscends secondAscends
    ((List.perm_ext_iff_of_nodup firstAscends.nodup secondAscends.nodup).mpr same)
  exact absurd (List.lt_trans below above) (List.lt_irrefl _)

/-- The same files and directories, which come in another order. -/
structure Reorders (other tree : FileTree) : Prop where
  root : other.root = tree.root
  current : other.current = tree.current
  entries : other.entries.Perm tree.entries

variable {tree : FileTree}

/-- The name and the entry of what stands in a directory. -/
theorem inside_eq_some_iff {place other : Place} {name : String} {entry held : FileEntry} :
    (if other.dropLast = place then other.getLast?.map (·, held) else none) = some (name, entry) ↔
      other = place ++ [name] ∧ held = entry := by
  constructor
  · intro inside
    split_ifs at inside with below
    obtain ⟨last, found, same⟩ := Option.map_eq_some_iff.mp inside
    cases same
    exact ⟨below ▸ (List.dropLast_append_getLast? name found).symm, rfl⟩
  · rintro ⟨rfl, rfl⟩
    rw [List.dropLast_concat, if_pos rfl, List.getLast?_concat, Option.map_some]

theorem mem_list_iff (sound : tree.Sound) {place : Place} {name : String} {entry : FileEntry} :
    (name, entry) ∈ tree.list place ↔ tree.entry? (place ++ [name]) = some entry := by
  rw [list, List.mem_mergeSort, sound.entry?_eq_some_iff (List.concat_ne_nil name place),
    List.mem_filterMap]
  constructor
  · rintro ⟨⟨other, held⟩, member, inside⟩
    obtain ⟨rfl, rfl⟩ := inside_eq_some_iff.mp inside
    exact member
  · intro member
    exact ⟨_, member, inside_eq_some_iff.mpr ⟨rfl, rfl⟩⟩

theorem list_ascending (sound : tree.Sound) (place : Place) : Ascending (tree.list place) := by
  -- The sort puts the names in order, and two entries of one name would have one place.
  have ordered : (tree.list place).Pairwise fun left right => left.1 ≤ right.1 := by
    unfold list
    refine (List.pairwise_mergeSort (fun a b c first second => ?_) (fun a b => ?_) _).imp
      of_decide_eq_true
    · exact decide_eq_true
        (String.le_trans (of_decide_eq_true first) (of_decide_eq_true second))
    · simpa using String.le_total a.1 b.1
  have apart : (tree.list place).Pairwise fun left right => left.1 ≠ right.1 := by
    unfold list
    refine (List.mergeSort_perm ..).symm.pairwise (List.pairwise_filterMap.mpr ?_) Ne.symm
    refine (List.pairwise_map.mp sound.distinct).imp ?_
    rintro ⟨first, _⟩ ⟨second, _⟩ different ⟨name, _⟩ inside ⟨other, _⟩ otherInside rfl
    obtain ⟨rfl, -⟩ := inside_eq_some_iff.mp inside
    obtain ⟨rfl, -⟩ := inside_eq_some_iff.mp otherInside
    exact different rfl
  exact (ordered.and apart).imp fun ⟨below, different⟩ =>
    Text.encode_lt_encode (Std.lt_of_le_of_ne below different)

theorem named_of_mem_list (sound : tree.Sound) {place : Place} {name : String} {entry : FileEntry}
    (member : (name, entry) ∈ tree.list place) : Path.IsName name := by
  have inside : name ∈ place ++ [name] := List.mem_append_right _ (List.mem_singleton_self _)
  exact sound.named_of_entry? (List.concat_ne_nil name place) ((mem_list_iff sound).mp member) name
    inside

/-! ### Files that come in another order -/

namespace Reorders

variable {other : FileTree} (reorders : other.Reorders tree) (was : tree.Sound)

include reorders was

theorem sound : other.Sound where
  distinct := (reorders.entries.map (·.1)).nodup_iff.mpr was.distinct
  named place member := was.named place ((reorders.entries.map (·.1)).mem_iff.mp member)
  root := reorders.root ▸ was.root

theorem entry?_eq (place : Place) : other.entry? place = tree.entry? place := by
  by_cases inside : place = []
  · subst inside
    rfl
  · refine Option.ext fun entry => ?_
    rw [(reorders.sound was).entry?_eq_some_iff inside, was.entry?_eq_some_iff inside,
      reorders.entries.mem_iff]

theorem follow_eq (start : Place) (names : List String) :
    other.follow start names = tree.follow start names := by
  induction names generalizing start with
  | nil => rfl
  | cons name names ih => simp only [follow, reorders.entry?_eq was, ih]

theorem lookup_eq (path : String) : other.lookup path = tree.lookup path := by
  have below : other.below path = tree.below path := by
    rw [FileTree.below, FileTree.below, reorders.root, reorders.current]
  simp only [lookup, locate, below, reorders.follow_eq was, reorders.entry?_eq was]

end Reorders

/-! ### What entries hold -/

/-- The text that is read from an entry under a path: none from a directory, and none under a path
that is too long. -/
def textOf (path : String) : FileEntry → Except Failure String
  | .directory => .error .systemRefused
  | .file bytes =>
    if Path.longestPath < path.utf8ByteSize then .error .systemRefused
    else (Text.decode? bytes).elim (.error .systemRefused) .ok

/-- The plugins of a file of a type. -/
def pluginsOf (path : String) (type : FileType) (bytes : List UInt8) :
    Except Failure (List Plugin.Spec) := do
  (Plugin.parse type (← textOf path (.file bytes))).mapError (.fileMalformed path)

/-- The fixtures of an entry. -/
def fixturesOf (path : String) (entry : FileEntry) : Except Failure (List Fixture) := do
  (Fixture.listOfText? (← textOf path entry)).elim
    (.error (.fixtureMalformed path .yamlMalformed)) .ok

theorem Sound.ne_root (sound : tree.Sound) {name : String} {type : FileType}
    (isName : Path.IsName name) (typed : type.Names name) : name ≠ tree.root := by
  rintro rfl
  have untyped := sound.root
  rw [FileType.ofPath?, Path.extension?, isName.fileName?_eq, Option.bind_some,
    FileType.names_iff.mp typed] at untyped
  cases untyped

section

variable {path name : String} {place : Place} {entry : FileEntry} (isName : Path.IsName name)
  (notRoot : name ≠ tree.root) (found : tree.lookup path = .ok (place, .directory))
  (held : tree.entry? (place ++ [name]) = some entry)

include isName notRoot found held

theorem readText_entry :
    tree.readText (Path.entry path name) = textOf (Path.entry path name) entry := by
  have looked := lookup_entry isName notRoot found
  rw [held, Option.elim_some] at looked
  unfold readText read
  rw [looked]
  cases entry with
  | directory => split_ifs <;> rfl
  | file bytes =>
    unfold textOf
    split_ifs
    · rfl
    · cases decoded : Text.decode? bytes <;> simp only [bind, Except.bind, decoded] <;> rfl

theorem loadFixtureFile_entry :
    tree.loadFixtureFile (Path.entry path name) = fixturesOf (Path.entry path name) entry := by
  unfold loadFixtureFile fixturesOf
  rw [readText_entry isName notRoot found held]
  cases textOf (Path.entry path name) entry with
  | error failure => rfl
  | ok text => simp only [bind, Except.bind]; cases Fixture.listOfText? text <;> rfl

end

theorem ne_empty_of_lookup {path : String} {found : Place × FileEntry}
    (looked : tree.lookup path = .ok found) : path ≠ "" := by
  rintro rfl
  simp [lookup, locate, below, Path.fault?, bind, Except.bind] at looked

section

variable {path : String} {place : Place} (sound : tree.Sound)
  (found : tree.lookup path = .ok (place, .directory))

include sound found

theorem loadFile_entry {name : String} {type : FileType} {bytes : List UInt8}
    (typed : type.Names name) (held : (name, .file bytes) ∈ tree.list place) :
    tree.loadFile (Path.entry path name) = pluginsOf (Path.entry path name) type bytes := by
  have isName := named_of_mem_list sound held
  have read :=
    readText_entry isName (sound.ne_root isName typed) found ((mem_list_iff sound).mp held)
  unfold loadFile pluginsOf
  rw [isName.ofPath?_entry (ne_empty_of_lookup found), FileType.names_iff.mp typed, read]

end

/-! ### Plugin directories -/

/-- The plugin file that an entry is: its name, type and bytes. -/
def definition? : String × FileEntry → Option (String × FileType × List UInt8)
  | (name, .file bytes) =>
    ((Path.extensionOf? name).bind FileType.ofExtension?).map (name, ·, bytes)
  | (_, .directory) => none

theorem definition?_eq_some_iff {entry : String × FileEntry} {name : String} {type : FileType}
    {bytes : List UInt8} :
    definition? entry = some (name, type, bytes) ↔
      entry = (name, .file bytes) ∧ type.Names name := by
  rw [FileType.names_iff]
  obtain ⟨other, held | _⟩ := entry
  · simp only [definition?, Option.map_eq_some_iff, Prod.mk.injEq, FileEntry.file.injEq]
    constructor
    · rintro ⟨_, typed, rfl, rfl, rfl⟩
      exact ⟨⟨rfl, rfl⟩, typed⟩
    · rintro ⟨⟨rfl, rfl⟩, typed⟩
      exact ⟨type, typed, rfl, rfl, rfl⟩
  · exact ⟨nofun, fun named => nomatch named.1⟩

/-- The plugin files in a directory. -/
def definitions (tree : FileTree) (place : Place) : List (String × FileType × List UInt8) :=
  (tree.list place).filterMap definition?

theorem mem_definitions_iff (sound : tree.Sound) {place : Place} {name : String} {type : FileType}
    {bytes : List UInt8} :
    (name, type, bytes) ∈ tree.definitions place ↔
      tree.entry? (place ++ [name]) = some (.file bytes) ∧ type.Names name := by
  rw [← mem_list_iff sound, definitions, List.mem_filterMap]
  simp only [definition?_eq_some_iff]
  constructor
  · rintro ⟨_, member, rfl, typed⟩
    exact ⟨member, typed⟩
  · rintro ⟨member, typed⟩
    exact ⟨_, member, rfl, typed⟩

theorem definitions_ascending (sound : tree.Sound) (place : Place) :
    Ascending (tree.definitions place) := by
  refine List.pairwise_filterMap.mpr ((list_ascending sound place).imp ?_)
  rintro left right below ⟨name, type, bytes⟩ admitted ⟨other, otherType, otherBytes⟩ otherAdmitted
  obtain ⟨rfl, -⟩ := definition?_eq_some_iff.mp admitted
  obtain ⟨rfl, -⟩ := definition?_eq_some_iff.mp otherAdmitted
  exact below

theorem mapM_congr {α β : Type} {first second : α → Except Failure β} {items : List α}
    (same : ∀ item ∈ items, first item = second item) : items.mapM first = items.mapM second := by
  induction items with
  | nil => rfl
  | cons item items ih =>
    obtain ⟨here, later⟩ := List.forall_mem_cons.mp same
    rw [List.mapM_cons, List.mapM_cons, here, ih later]

section

variable {path : String} {place : Place} (sound : tree.Sound)
  (found : tree.lookup path = .ok (place, .directory))

include sound found

theorem pluginFiles_eq :
    tree.pluginFiles path place =
      (tree.definitions place).map fun file => Path.entry path file.1 := by
  rw [pluginFiles, definitions, List.map_filterMap]
  refine List.filterMap_congr fun (name, entry) member => ?_
  have typed := (named_of_mem_list sound member).ofPath?_entry (ne_empty_of_lookup found)
  cases entry with
  | directory => rfl
  | file bytes =>
    simp only [typed, definition?]
    cases (Path.extensionOf? name).bind FileType.ofExtension? <;> rfl

theorem loadPath_eq :
    tree.loadPath path = List.flatten <$> (tree.definitions place).mapM fun (name, type, bytes) =>
      pluginsOf (Path.entry path name) type bytes := by
  have read : (tree.pluginFiles path place).mapM tree.loadFile =
      (tree.definitions place).mapM fun (name, type, bytes) =>
        pluginsOf (Path.entry path name) type bytes := by
    rw [pluginFiles_eq sound found, List.mapM_map]
    refine mapM_congr fun (name, type, bytes) member => ?_
    obtain ⟨held, typed⟩ := (mem_definitions_iff sound).mp member
    exact loadFile_entry sound found typed ((mem_list_iff sound).mpr held)
  simp only [loadPath, found, read]
  rfl

end

/-- The plugins of a directory are those of its plugin files, in the order of the bytes of their
names, or the failure of the first of them that cannot be read. Nothing else decides about them:
neither the order in which the entries come, nor what else is there. -/
theorem loadPath_of_directory (sound : tree.Sound) {path : String} {place : Place}
    (found : tree.lookup path = .ok (place, .directory)) :
    (∃ files : List (String × FileType × List UInt8), Ascending files ∧
      (∀ name type bytes, (name, type, bytes) ∈ files ↔
        tree.entry? (place ++ [name]) = some (.file bytes) ∧ type.Names name) ∧
      Gathers (fun (name, type, bytes) => pluginsOf (Path.entry path name) type bytes) files
        (tree.loadPath path)) ∧
    (∀ other : FileTree, other.Reorders tree → other.loadPath path = tree.loadPath path) ∧
    ∀ (other : FileTree) (otherPlace : Place), other.Sound →
      other.lookup path = .ok (otherPlace, .directory) →
      (∀ (name : String) (type : FileType) (bytes : List UInt8), type.Names name →
        (other.entry? (otherPlace ++ [name]) = some (.file bytes) ↔
          tree.entry? (place ++ [name]) = some (.file bytes))) →
      other.loadPath path = tree.loadPath path := by
  have decided (other : FileTree) (otherPlace : Place) (otherSound : other.Sound)
      (otherFound : other.lookup path = .ok (otherPlace, .directory))
      (same : ∀ (name : String) (type : FileType) (bytes : List UInt8), type.Names name →
        (other.entry? (otherPlace ++ [name]) = some (.file bytes) ↔
          tree.entry? (place ++ [name]) = some (.file bytes))) :
      other.loadPath path = tree.loadPath path := by
    have files : other.definitions otherPlace = tree.definitions place := by
      refine (definitions_ascending otherSound _).eq_of_mem_iff (definitions_ascending sound _) ?_
      rintro ⟨name, type, bytes⟩
      rw [mem_definitions_iff otherSound, mem_definitions_iff sound]
      exact and_congr_left (same name type bytes)
    rw [loadPath_eq otherSound otherFound, loadPath_eq sound found, files]
  refine ⟨⟨tree.definitions place, definitions_ascending sound place,
    fun name type bytes => mem_definitions_iff sound, ?_⟩, fun other reorders => ?_, decided⟩
  · rw [loadPath_eq sound found]
    exact gathers _ _
  · exact decided other place (reorders.sound sound) (reorders.lookup_eq sound path ▸ found)
      fun name type bytes _ => by rw [reorders.entry?_eq sound]

theorem untyped_scratch : FileType.ofPath? "$DIR" = none := by
  have isName : Path.IsName "$DIR" := by decide
  rw [FileType.ofPath?, Path.extension?, isName.fileName?_eq]
  decide

/-- A directory with two plugin files, one of which has a name in capitals at its end. -/
def shelf : FileTree :=
  ⟨"$DIR", true,
    [(["d"], .directory), (["d", "b.json"], .file (Text.encode "\x7b\"name\": \"b\"\x7d")),
      (["d", "notes.txt"], .file []), (["d", "c.yml"], .directory),
      (["d", "a.JSON"], .file (Text.encode "\x7b\"name\": \"a\"\x7d"))]⟩

theorem sound_shelf : shelf.Sound := ⟨by decide, by decide, untyped_scratch⟩

theorem lookup_shelf : shelf.lookup "d" = .ok (["d"], .directory) := by
  have located : shelf.locate "d" = .ok ["d"] := locate_of_isName rfl (by decide) (by decide)
  simp only [lookup, located, bind, Except.bind]
  rfl

theorem loadPath_shelf : shelf.loadPath "d" = .ok [.named "a", .named "b"] := by
  have entries : shelf.list ["d"] =
      [("a.JSON", .file (Text.encode "\x7b\"name\": \"a\"\x7d")),
        ("b.json", .file (Text.encode "\x7b\"name\": \"b\"\x7d")), ("c.yml", .directory),
        ("notes.txt", .file [])] := by simp [list, shelf, List.mergeSort]
  have files : shelf.definitions ["d"] =
      [("a.JSON", .json, Text.encode "\x7b\"name\": \"a\"\x7d"),
        ("b.json", .json, Text.encode "\x7b\"name\": \"b\"\x7d")] := by
    rw [definitions, entries]
    cbv
  have first : pluginsOf (Path.entry "d" "a.JSON") .json (Text.encode "\x7b\"name\": \"a\"\x7d") =
      .ok [.named "a"] := by cbv
  have second : pluginsOf (Path.entry "d" "b.json") .json (Text.encode "\x7b\"name\": \"b\"\x7d") =
      .ok [.named "b"] := by cbv
  rw [loadPath_eq sound_shelf lookup_shelf, files]
  simp only [List.mapM_cons, List.mapM_nil, first, second, bind, Except.bind]
  rfl

/-- The same plugins come from the shelf with its entries the other way round. -/
theorem loadPath_of_directory_shelf :
    let reversed : FileTree := { shelf with entries := shelf.entries.reverse }
    shelf.Sound ∧ shelf.lookup "d" = .ok (["d"], .directory) ∧ reversed.Reorders shelf ∧
      reversed.loadPath "d" = .ok [.named "a", .named "b"] := by
  intro reversed
  have reorders : reversed.Reorders shelf := ⟨rfl, rfl, List.reverse_perm _⟩
  have same := (loadPath_of_directory sound_shelf lookup_shelf).2.1 reversed reorders
  exact ⟨sound_shelf, lookup_shelf, reorders, same.trans loadPath_shelf⟩

/-! ### Fixture directories -/

/-- What is called like a YAML file in a directory. -/
def fixtureEntries (tree : FileTree) (place : Place) : List (String × FileEntry) :=
  (tree.list place).filter fun (name, _) =>
    (Path.extensionOf? name).bind FileType.ofExtension? = some .yaml

theorem mem_fixtureEntries_iff (sound : tree.Sound) {place : Place} {name : String}
    {entry : FileEntry} :
    (name, entry) ∈ tree.fixtureEntries place ↔
      tree.entry? (place ++ [name]) = some entry ∧ FileType.yaml.Names name := by
  rw [← mem_list_iff sound, FileType.names_iff, fixtureEntries, List.mem_filter,
    decide_eq_true_iff]

theorem fixtureEntries_ascending (sound : tree.Sound) (place : Place) :
    Ascending (tree.fixtureEntries place) :=
  (list_ascending sound place).sublist List.filter_sublist

theorem loadFixtures_eq (sound : tree.Sound) {path : String} {place : Place}
    (found : tree.lookup path = .ok (place, .directory)) :
    tree.loadFixtures path = List.flatten <$> (tree.fixtureEntries place).mapM fun (name, entry) =>
      fixturesOf (Path.entry path name) entry := by
  have named : ((tree.list place).map fun (name, _) => Path.entry path name).filter isYamlName =
      (tree.fixtureEntries place).map fun (name, _) => Path.entry path name := by
    rw [List.filter_map, fixtureEntries]
    refine congrArg _ (List.filter_congr fun (name, entry) member => ?_)
    have typed := (named_of_mem_list sound member).ofPath?_entry (ne_empty_of_lookup found)
    simp only [Function.comp, isYamlName, typed]
  have read : ((tree.fixtureEntries place).map fun (name, _) => Path.entry path name).mapM
      tree.loadFixtureFile =
        (tree.fixtureEntries place).mapM fun (name, entry) =>
          fixturesOf (Path.entry path name) entry := by
    rw [List.mapM_map]
    refine mapM_congr fun (name, entry) member => ?_
    obtain ⟨held, typed⟩ := (mem_fixtureEntries_iff sound).mp member
    have isName := named_of_mem_list sound ((mem_list_iff sound).mpr held)
    exact loadFixtureFile_entry isName (sound.ne_root isName typed) found held
  simp only [loadFixtures, found, named, read]
  rfl

/-- Fixtures are read from all that is called like a YAML file in a directory, in the order of the
bytes of the names, up to the first that cannot be read; and a directory of such a name cannot.
Without one the fixtures are those of the YAML files. Nothing else decides about them: neither the
order in which the entries come, nor what else is there. -/
theorem loadFixtures_of_directory (sound : tree.Sound) {path : String} {place : Place}
    (found : tree.lookup path = .ok (place, .directory)) :
    (∃ entries : List (String × FileEntry), Ascending entries ∧
      (∀ name entry, (name, entry) ∈ entries ↔
        tree.entry? (place ++ [name]) = some entry ∧ FileType.yaml.Names name) ∧
      Gathers (fun (name, entry) => fixturesOf (Path.entry path name) entry) entries
        (tree.loadFixtures path)) ∧
    ((∃ name, FileType.yaml.Names name ∧ tree.isDirectory (place ++ [name])) →
      ∃ failure, tree.loadFixtures path = .error failure) ∧
    (∀ other : FileTree, other.Reorders tree →
      other.loadFixtures path = tree.loadFixtures path) ∧
    ∀ (other : FileTree) (otherPlace : Place), other.Sound →
      other.lookup path = .ok (otherPlace, .directory) →
      (∀ name, FileType.yaml.Names name →
        other.entry? (otherPlace ++ [name]) = tree.entry? (place ++ [name])) →
      other.loadFixtures path = tree.loadFixtures path := by
  have decided (other : FileTree) (otherPlace : Place) (otherSound : other.Sound)
      (otherFound : other.lookup path = .ok (otherPlace, .directory))
      (same : ∀ name, FileType.yaml.Names name →
        other.entry? (otherPlace ++ [name]) = tree.entry? (place ++ [name])) :
      other.loadFixtures path = tree.loadFixtures path := by
    have entries : other.fixtureEntries otherPlace = tree.fixtureEntries place := by
      refine (fixtureEntries_ascending otherSound _).eq_of_mem_iff
        (fixtureEntries_ascending sound _) ?_
      rintro ⟨name, entry⟩
      rw [mem_fixtureEntries_iff otherSound, mem_fixtureEntries_iff sound]
      exact and_congr_left fun named => by rw [same name named]
    rw [loadFixtures_eq otherSound otherFound, loadFixtures_eq sound found, entries]
  have gathered : Gathers (fun (name, entry) => fixturesOf (Path.entry path name) entry)
      (tree.fixtureEntries place) (tree.loadFixtures path) := by
    rw [loadFixtures_eq sound found]
    exact gathers _ _
  refine ⟨⟨_, fixtureEntries_ascending sound place, fun _ _ => mem_fixtureEntries_iff sound,
    gathered⟩, ?_, fun other reorders => ?_, decided⟩
  · rintro ⟨name, named, directory⟩
    have member := (mem_fixtureEntries_iff sound).mpr ⟨isDirectory_iff.mp directory, named⟩
    exact gathered.exists_failure member rfl
  · exact decided other place (reorders.sound sound) (reorders.lookup_eq sound path ▸ found)
      fun name _ => reorders.entry?_eq sound _

/-- A directory with a fixture file and, if wanted, a directory called `c.yml`. -/
def samples (withDirectory : Bool) : FileTree where
  root := "$DIR"
  current := true
  entries :=
    let named := if withDirectory then [(["d", "c.yml"], .directory)] else []
    (["d"], .directory) :: (["d", "b.yml"], .file (Text.encode "- plugin: b")) :: named

theorem sound_samples (withDirectory : Bool) : (samples withDirectory).Sound := by
  cases withDirectory <;> exact ⟨by decide, by decide, untyped_scratch⟩

theorem lookup_samples (withDirectory : Bool) :
    (samples withDirectory).lookup "d" = .ok (["d"], .directory) := by
  have located : (samples withDirectory).locate "d" = .ok ["d"] :=
    locate_of_isName rfl (by decide) (show "d" ≠ "$DIR" by decide)
  cases withDirectory <;>
  · simp only [lookup, located, bind, Except.bind]
    rfl

theorem loadFixtures_of_directory_samples :
    (samples true).Sound ∧ (samples true).lookup "d" = .ok (["d"], .directory) ∧
      FileType.yaml.Names "c.yml" ∧ (samples true).isDirectory ["d", "c.yml"] ∧
      ∃ failure, (samples true).loadFixtures "d" = .error failure := by
  have named : FileType.yaml.Names "c.yml" := FileType.names_iff.mpr (by cbv)
  exact ⟨sound_samples true, lookup_samples true, named, rfl,
    (loadFixtures_of_directory (sound_samples true) (lookup_samples true)).2.1
      ⟨"c.yml", named, rfl⟩⟩

/-- A directory called `c.yml` hides the fixtures beside it. -/
theorem loadFixtures_refuses_directory :
    (samples false).loadFixtures "d" = .ok [⟨"b", [], [], [], []⟩] ∧
      (samples true).isDirectory ["d", "c.yml"] ∧
      (samples true).loadFixtures "d" = .error .systemRefused := by
  have file : fixturesOf (Path.entry "d" "b.yml") (.file (Text.encode "- plugin: b")) =
      .ok [⟨"b", [], [], [], []⟩] := by cbv
  have directory : fixturesOf (Path.entry "d" "c.yml") .directory = .error .systemRefused := rfl
  refine ⟨?_, rfl, ?_⟩
  · have entries : (samples false).fixtureEntries ["d"] =
        [("b.yml", .file (Text.encode "- plugin: b"))] := by cbv
    rw [loadFixtures_eq (sound_samples false) (lookup_samples false), entries]
    simp only [List.mapM_cons, file, bind, Except.bind]
    rfl
  · have entries : (samples true).fixtureEntries ["d"] =
        [("b.yml", .file (Text.encode "- plugin: b")), ("c.yml", .directory)] := by cbv
    rw [loadFixtures_eq (sound_samples true) (lookup_samples true), entries]
    simp only [List.mapM_cons, file, directory, bind, Except.bind]
    rfl

end FileTree

end Fingerprint
