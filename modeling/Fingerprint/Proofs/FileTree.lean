import Fingerprint.Storage.FileTree
import Mathlib.Data.List.Basic
import Mathlib.Data.String.Basic

/-!
Paths, and what writing does to a tree of files.

A written file is found under its path: the directories on the way are as they were, since a file
is never written in the place of a directory. An entry of a directory is found under the path of the
directory and its name. Trees that come about by writing and removing have one entry at a place, and
every place in them can be named by a path.
-/

set_option autoImplicit false

/-! ### Paths of one component -/

namespace Fingerprint.Path

/-- The loop behind `String.splitOn`: behind the pieces found so far come those of the rest, the
first of which has begun with `piece`. -/
theorem splitOnAux_slash (before piece rest : List Char) (found : List String) :
    String.splitOnAux (.ofList (before ++ (piece ++ rest))) "/" ⟨String.utf8Len before⟩
        ⟨String.utf8Len before + String.utf8Len piece⟩ 0 found =
      found.reverse ++ (List.splitOnPPrepend (· == '/') rest piece.reverse).map String.ofList := by
  have slash : String.Pos.Raw.get "/" 0 = '/' := by decide
  have passed : String.Pos.Raw.atEnd "/" (String.Pos.Raw.next "/" 0) := by decide
  induction rest generalizing before piece found with
  | nil =>
    have ended := (String.atEnd_of_valid (before ++ piece) []).mpr rfl
    have last := String.extract_of_valid before piece []
    rw [String.utf8Len_append, List.append_assoc] at ended
    rw [List.append_assoc] at last
    rw [String.splitOnAux, if_pos ended, last]
    simp only [List.splitOnPPrepend, List.reverse_reverse, List.map_cons, List.map_nil,
      List.reverse_cons]
  | cons c rest ih =>
    have going :=
      mt (String.atEnd_of_valid (before ++ piece) (c :: rest)).mp (List.cons_ne_nil c rest)
    have read := String.get_of_valid (before ++ piece) (c :: rest)
    have next := String.next_of_valid (before ++ piece) c rest
    have cut := String.extract_of_valid before piece (c :: rest)
    rw [String.utf8Len_append, List.append_assoc] at going read next
    rw [List.append_assoc] at cut
    rw [String.splitOnAux, if_neg going, read, slash, List.headD_cons,
      List.splitOnPPrepend_cons_eq_if]
    by_cases same : c = '/'
    · -- The piece ends in front of the slash, and the next one begins behind it.
      subst same
      have later := ih (before ++ (piece ++ ['/'])) [] (.ofList piece :: found)
      have back : String.Pos.Raw.unoffsetBy
          ⟨String.utf8Len before + String.utf8Len piece + '/'.utf8Size⟩
            (String.Pos.Raw.next "/" 0) = ⟨String.utf8Len before + String.utf8Len piece⟩ := rfl
      simp only [String.utf8Len_append, String.utf8Len_cons, String.utf8Len_nil, Nat.zero_add,
        Nat.add_zero, ← Nat.add_assoc, List.append_assoc, List.nil_append, List.singleton_append,
        List.reverse_nil, List.reverse_cons] at later
      simp only [beq_self_eq_true, ↓reduceIte, next, passed, back, cut, later, List.reverse_reverse,
        List.map_cons, List.splitOnP]
    · have later := ih before (piece ++ [c]) found
      have unmoved : String.Pos.Raw.unoffsetBy ⟨String.utf8Len before + String.utf8Len piece⟩ 0 =
        ⟨String.utf8Len before + String.utf8Len piece⟩ := rfl
      rw [if_neg (by simpa using same), if_neg (by simpa using same), unmoved, next]
      simpa [Nat.add_assoc] using later

theorem splitOn_slash (path : String) :
    path.splitOn "/" = (path.toList.splitOn '/').map String.ofList := by
  have split := splitOnAux_slash [] [] path.toList []
  rw [List.nil_append, List.nil_append, String.ofList_toList] at split
  exact split

/-- What stands behind a slash is split for itself. -/
theorem splitOn_append_slash {path front : String} {behind : List Char}
    (parts : path.toList = front.toList ++ '/' :: behind) :
    path.splitOn "/" = front.splitOn "/" ++ (String.ofList behind).splitOn "/" := by
  have apart := List.splitOnP_append_cons (p := (· == '/')) front.toList behind
    (beq_self_eq_true '/')
  rw [splitOn_slash, splitOn_slash, splitOn_slash, parts, String.toList_ofList, List.splitOn, apart,
    List.map_append, ← List.splitOn, ← List.splitOn]

theorem splitOn_of_no_slash {name : String} (whole : '/' ∉ name.toList) :
    name.splitOn "/" = [name] := by
  have apart (c : Char) (inside : c ∈ name.toList) : (c == '/') = false :=
    beq_false_of_ne fun same => whole (same ▸ inside)
  rw [splitOn_slash, List.splitOn, List.splitOnP_eq_singleton apart, List.map_singleton,
    String.ofList_toList]

/-- A piece holds characters of the text that is split, and no slash. The first one begins with
`begun`, whose characters come last first. -/
theorem of_mem_splitOnPPrepend {rest begun piece : List Char} (whole : '/' ∉ begun)
    (member : piece ∈ List.splitOnPPrepend (· == '/') rest begun) :
    '/' ∉ piece ∧ ∀ c ∈ piece, c ∈ begun ∨ c ∈ rest := by
  induction rest generalizing begun with
  | nil =>
    obtain rfl := List.mem_singleton.mp member
    simpa using whole
  | cons c rest ih =>
    rw [List.splitOnPPrepend_cons_eq_if] at member
    split at member
    · obtain rfl | later := List.mem_cons.mp member
      · exact ⟨by simpa using whole, fun c inside => .inl (List.mem_reverse.mp inside)⟩
      · obtain ⟨whole, inside⟩ := ih List.not_mem_nil later
        exact ⟨whole, fun c held => .inr (List.mem_cons_of_mem _ ((inside c held).resolve_left
          List.not_mem_nil))⟩
    next other =>
      have other : '/' ≠ c := fun same => other (by simp [← same])
      obtain ⟨whole, inside⟩ := ih (List.not_mem_cons_of_ne_of_not_mem other whole) member
      refine ⟨whole, fun d held => ?_⟩
      obtain begun | later := inside d held
      · obtain rfl | begun := List.mem_cons.mp begun
        · exact .inr List.mem_cons_self
        · exact .inl begun
      · exact .inr (List.mem_cons_of_mem _ later)

theorem of_mem_splitOn {path part : String} (member : part ∈ path.splitOn "/") :
    '/' ∉ part.toList ∧ part.toList ⊆ path.toList := by
  rw [splitOn_slash] at member
  obtain ⟨piece, split, rfl⟩ := List.mem_map.mp member
  obtain ⟨whole, inside⟩ := of_mem_splitOnPPrepend List.not_mem_nil split
  rw [String.toList_ofList]
  exact ⟨whole, fun c held => (inside c held).resolve_left List.not_mem_nil⟩

/-- A path that is the name of what it leads to. -/
structure IsName (path : String) : Prop where
  inhabited : path ≠ ""
  whole : '/' ∉ path.toList
  sound : '\x00' ∉ path.toList
  short : path.utf8ByteSize ≤ longestName
  notHere : path ≠ "."
  notAbove : path ≠ ".."

instance (path : String) : Decidable (IsName path) :=
  decidable_of_iff (path ≠ "" ∧ '/' ∉ path.toList ∧ '\x00' ∉ path.toList ∧
      path.utf8ByteSize ≤ longestName ∧ path ≠ "." ∧ path ≠ "..")
    ⟨fun ⟨inhabited, whole, sound, short, notHere, notAbove⟩ =>
        ⟨inhabited, whole, sound, short, notHere, notAbove⟩,
      fun name => ⟨name.inhabited, name.whole, name.sound, name.short, name.notHere,
        name.notAbove⟩⟩

namespace IsName

variable {name : String} (isName : IsName name)

include isName

theorem components_eq : components name = [name] := by
  simp [components, splitOn_of_no_slash isName.whole, isName.inhabited, isName.notHere]

theorem not_namesDirectory : ¬ namesDirectory name := by
  simp [namesDirectory, splitOn_of_no_slash isName.whole, isName.inhabited, isName.notHere]

theorem fileName?_eq : fileName? name = some name := by
  rw [fileName?, isName.components_eq]
  exact Option.filter_eq_some_iff.mpr ⟨rfl, decide_eq_true isName.notAbove⟩

theorem fault?_eq : fault? name = none := by
  have short : ¬ longestPath < name.utf8ByteSize :=
    Nat.not_lt.mpr (isName.short.trans (by decide))
  have sound : ¬ name.contains '\x00' := by
    rw [String.contains_char_eq]
    simpa using isName.sound
  simp only [fault?, String.isEmpty_iff, isName.inhabited, sound, short, ↓reduceIte,
    Bool.false_eq_true]

theorem not_startsWith_slash : ¬ name.startsWith "/" := by
  rw [String.startsWith_string_iff]
  intro front
  exact isName.whole (front.subset (List.mem_singleton_self _))

end IsName

/-- What a path is taken apart into: names, and the dots that lead to the directory above. -/
structure IsComponent (part : String) : Prop where
  inhabited : part ≠ ""
  whole : '/' ∉ part.toList
  sound : '\x00' ∉ part.toList
  notHere : part ≠ "."

theorem IsComponent.isName {part : String} (component : IsComponent part) (notAbove : part ≠ "..")
    (short : part.utf8ByteSize ≤ longestName) : IsName part :=
  { component with notAbove, short }

theorem sound_of_fault? {path : String} (found : fault? path = none) : '\x00' ∉ path.toList := by
  intro inside
  have held : path.contains '\x00' := by
    rw [String.contains_char_eq]
    exact decide_eq_true inside
  by_cases empty : path = ""
  · simp [fault?, empty] at found
  · simp [fault?, empty, held] at found

theorem isComponent_of_mem {path part : String} (found : fault? path = none)
    (member : part ∈ components path) : IsComponent part := by
  obtain ⟨split, kept⟩ := List.mem_filter.mp member
  obtain ⟨whole, inside⟩ := of_mem_splitOn split
  simp only [Bool.and_eq_true, Bool.not_eq_true', String.isEmpty_eq_false_iff,
    decide_eq_true_eq] at kept
  exact ⟨kept.1, whole, fun nul => sound_of_fault? found (inside nul), kept.2⟩

/-! ### Paths of entries -/

section

variable {directory name : String}

theorem entry_of_endsWith (slash : ['/'] <:+ directory.toList) :
    entry directory name = directory ++ name := by
  have ends : directory.endsWith "/" := by
    rw [String.endsWith, String.Slice.endsWith_string_iff, String.copy_toSlice]
    exact slash
  rw [entry, ends, Bool.or_true, if_pos rfl]

/-- Between a directory and the name of an entry stands a slash, which is written already if the
directory's path ends in one. -/
theorem exists_toList_entry (name : String) (inhabited : directory ≠ "") :
    ∃ front : String, (entry directory name).toList = front.toList ++ '/' :: name.toList ∧
      (directory = front ∨ directory.toList = front.toList ++ ['/']) := by
  by_cases slash : ['/'] <:+ directory.toList
  · obtain ⟨front, parts⟩ := slash
    refine ⟨.ofList front, ?_, .inr (by rw [String.toList_ofList, parts])⟩
    rw [entry_of_endsWith ⟨front, parts⟩, String.toList_append, ← parts, String.toList_ofList,
      List.append_assoc, List.singleton_append]
  · have open' : ¬ directory.endsWith "/" := by
      rw [String.endsWith, String.Slice.endsWith_string_iff, String.copy_toSlice]
      exact slash
    refine ⟨directory, ?_, .inl rfl⟩
    rw [entry, if_neg (by simp [inhabited, open']), String.toList_append, String.toList_append]
    simp

theorem startsWith_slash_entry (inhabited : directory ≠ "") :
    (entry directory name).startsWith "/" = directory.startsWith "/" := by
  have front : directory.toList <+: (entry directory name).toList := by
    unfold entry
    split <;> simp
  obtain ⟨behind, parts⟩ := front
  rw [Bool.eq_iff_iff, String.startsWith_string_iff, String.startsWith_string_iff, ← parts]
  cases first : directory.toList with
  | nil => exact absurd (String.toList_eq_nil_iff.mp first) inhabited
  | cons c rest => simp

namespace IsName

variable (isName : IsName name)

include isName

theorem exists_splitOn_entry (inhabited : directory ≠ "") :
    ∃ front, (entry directory name).splitOn "/" = front ++ [name] ∧
      (directory.splitOn "/" = front ∨ directory.splitOn "/" = front ++ [""]) := by
  obtain ⟨front, parts, ends⟩ := exists_toList_entry name inhabited
  refine ⟨front.splitOn "/", ?_, ends.imp (by rintro rfl; rfl) fun ends => ?_⟩
  · rw [splitOn_append_slash parts, String.ofList_toList, splitOn_of_no_slash isName.whole]
  · have nothing : '/' ∉ "".toList := List.not_mem_nil
    rw [splitOn_append_slash ends, String.ofList_nil, splitOn_of_no_slash nothing]

/-- The path of an entry goes on from the directory's by the name. -/
theorem components_entry (inhabited : directory ≠ "") :
    components (entry directory name) = components directory ++ [name] := by
  obtain ⟨front, split, ends⟩ := isName.exists_splitOn_entry inhabited
  have kept : [name].filter (fun part => !part.isEmpty && part ≠ ".") = [name] := by
    simp [isName.inhabited, isName.notHere]
  rw [components, components, split, List.filter_append, kept]
  obtain ends | ends := ends
  · rw [ends]
  · rw [ends, List.filter_append, List.filter_cons_of_neg (by simp), List.filter_nil,
      List.append_nil]

theorem not_namesDirectory_entry (inhabited : directory ≠ "") :
    ¬ namesDirectory (entry directory name) := by
  obtain ⟨front, split, -⟩ := isName.exists_splitOn_entry inhabited
  simp [namesDirectory, split, isName.inhabited, isName.notHere]

/-- The type of a plugin file shows in its name alone. -/
theorem ofPath?_entry (inhabited : directory ≠ "") :
    FileType.ofPath? (entry directory name) = (extensionOf? name).bind FileType.ofExtension? := by
  have last : fileName? (entry directory name) = some name := by
    rw [fileName?, isName.components_entry inhabited, List.getLast?_concat]
    exact Option.filter_eq_some_iff.mpr ⟨rfl, decide_eq_true isName.notAbove⟩
  rw [FileType.ofPath?, extension?, last, Option.bind_some]

/-- An entry of a directory that can be looked up has a path too long at worst. -/
theorem fault?_entry (found : fault? directory = none) :
    fault? (entry directory name) =
      if longestPath < (entry directory name).utf8ByteSize then some .tooLong else none := by
  have inhabited : directory ≠ "" := by
    rintro rfl
    exact absurd found (by decide)
  have sound := sound_of_fault? found
  obtain ⟨front, parts, ends⟩ := exists_toList_entry name inhabited
  have within : front.toList ⊆ directory.toList := by
    obtain rfl | ends := ends
    · exact List.Subset.refl _
    · exact ends ▸ List.subset_append_left _ _
  have nonempty : entry directory name ≠ "" := by
    intro empty
    simp [empty] at parts
  have clean : ¬ (entry directory name).contains '\x00' := by
    rw [String.contains_char_eq, decide_eq_true_iff, parts, List.mem_append, List.mem_cons]
    rintro (before | slash | behind)
    · exact sound (within before)
    · exact absurd slash (by decide)
    · exact isName.sound behind
  simp only [fault?, String.isEmpty_iff, nonempty, clean, ↓reduceIte, Bool.false_eq_true]

end IsName

end

end Fingerprint.Path

/-! ### Files that are written -/

namespace Fingerprint.FileTree

theorem isDirectory_iff {tree : FileTree} {place : Place} :
    tree.isDirectory place ↔ tree.entry? place = some .directory := decide_eq_true_iff

/-- The root is a directory. -/
theorem ne_nil_of_vacant {tree : FileTree} {place : Place} (vacant : ¬ tree.isDirectory place) :
    place ≠ [] := by
  rintro rfl
  exact vacant rfl

theorem entry?_of_ne_nil (tree : FileTree) {place : Place} (inside : place ≠ []) :
    tree.entry? place = tree.entries.lookup place :=
  if_neg fun root => inside (List.isEmpty_iff.mp root)

theorem lookup_replace (entries : List (Place × FileEntry)) (place : Place) (entry : FileEntry)
    (other : Place) :
    (entries.map fun old => if old.1 = place then (place, entry) else old).lookup other =
      if other = place then (entries.lookup place).map fun _ => entry
      else entries.lookup other := by
  induction entries with
  | nil => exact (ite_self none).symm
  | cons old entries ih =>
    obtain ⟨name, held⟩ := old
    rw [List.map_cons]
    by_cases replaced : name = place
    · subst replaced
      rw [if_pos rfl]
      by_cases same : other = name
      · subst same
        rw [if_pos rfl, List.lookup_cons_self, List.lookup_cons_self, Option.map_some]
      · rw [if_neg same, List.lookup_cons, List.lookup_cons, beq_false_of_ne same, ih, if_neg same]
    · rw [if_neg replaced]
      by_cases same : other = name
      · subst same
        rw [if_neg replaced, List.lookup_cons_self, List.lookup_cons_self]
      · rw [List.lookup_cons, List.lookup_cons, List.lookup_cons, beq_false_of_ne same,
          beq_false_of_ne (Ne.symm replaced), ih]

/-- An entry that is set is found, and all others are as they were. -/
theorem entry?_setEntry (tree : FileTree) {place : Place} (inside : place ≠ []) (entry : FileEntry)
    (other : Place) :
    entry? (tree.setEntry place entry) other =
      if other = place then some entry else tree.entry? other := by
  by_cases root : other = []
  · subst root
    exact (if_neg inside.symm).symm
  · rw [entry?_of_ne_nil _ root, entry?_of_ne_nil _ root, setEntry]
    split
    next held =>
      obtain ⟨old, held⟩ := Option.isSome_iff_exists.mp held
      exact (lookup_replace ..).trans (by rw [held, Option.map_some])
    next free =>
      have free : tree.entries.lookup place = none := Option.not_isSome_iff_eq_none.mp free
      by_cases same : other = place
      · subst same
        rw [List.lookup_append, free, List.lookup_cons_self, if_pos rfl, Option.none_or]
      · rw [List.lookup_append, List.lookup_cons, beq_false_of_ne same, if_neg same]
        exact Option.or_none

@[simp] theorem below_setEntry (tree : FileTree) (place : Place) (entry : FileEntry)
    (path : String) : (tree.setEntry place entry).below path = tree.below path := by
  unfold setEntry
  split <;> rfl

/-- The way to a place leads through directories alone. -/
theorem follow_of_directories {before after : FileTree}
    (kept : ∀ place, before.isDirectory place → after.isDirectory place) {names : List String}
    {start found : Place} (followed : before.follow start names = .ok found) :
    after.follow start names = .ok found := by
  induction names generalizing start with
  | nil => exact followed
  | cons name names ih =>
    cases held : before.entry? start with
    | none => simp only [follow, held, reduceCtorEq] at followed
    | some entry =>
      cases entry with
      | file bytes => simp only [follow, held, reduceCtorEq] at followed
      | directory =>
        have stays := isDirectory_iff.mp (kept start (isDirectory_iff.mpr held))
        simp only [follow, held, stays] at followed ⊢
        split at followed
        next up =>
          rw [if_pos up]
          split at followed
          · cases followed
          next inside =>
            rw [if_neg inside]
            exact ih followed
        next down =>
          rw [if_neg down]
          split at followed
          · cases followed
          next short =>
            rw [if_neg short]
            exact ih followed

theorem lookup_eq_ok_file {tree : FileTree} {path : String} {place : Place} {bytes : List UInt8}
    (located : tree.locate path = .ok place) (held : tree.entry? place = some (.file bytes))
    (file : ¬ Path.namesDirectory path) : tree.lookup path = .ok (place, .file bytes) := by
  simp only [lookup, located, bind, Except.bind, held]
  exact if_neg file

/-- What it takes to write a file, and what comes of it. -/
theorem write_eq_ok_iff {tree written : FileTree} {path : String} {bytes : List UInt8} :
    tree.write path bytes = .ok written ↔
      ∃ place, tree.locate path = .ok place ∧ tree.isDirectory place.dropLast ∧
        ¬ tree.isDirectory place ∧ ¬ Path.namesDirectory path ∧
        tree.setEntry place (.file bytes) = written := by
  cases located : tree.locate path with
  | error fault =>
    simp only [write, located, bind, Except.bind, reduceCtorEq, false_and, exists_false]
  | ok place =>
    simp only [write, located, bind, Except.bind, Except.ok.injEq, exists_eq_left', pure,
      Except.pure, throw, throwThe, MonadExceptOf.throw]
    cases tree.isDirectory place.dropLast <;> cases tree.isDirectory place <;>
      cases Path.namesDirectory path <;> simp

/-- What stands under a path is a file, and the path may denote one. -/
theorem read_eq_ok_iff {tree : FileTree} {path : String} {bytes : List UInt8} :
    tree.read path = .ok bytes ↔
      ∃ place, tree.locate path = .ok place ∧ tree.entry? place = some (.file bytes) ∧
        ¬ Path.namesDirectory path := by
  constructor
  · intro held
    cases located : tree.locate path with
    | error fault => simp only [read, lookup, located, bind, Except.bind, reduceCtorEq] at held
    | ok place =>
      refine ⟨place, rfl, ?_⟩
      cases entry : tree.entry? place with
      | none =>
        simp only [read, lookup, located, entry, bind, Except.bind, throw, throwThe,
          MonadExceptOf.throw, reduceCtorEq] at held
      | some found =>
        cases found with
        | directory =>
          simp only [read, lookup, located, entry, bind, Except.bind, pure, Except.pure,
            reduceCtorEq] at held
        | file stored =>
          by_cases directory : Path.namesDirectory path
          · simp only [read, lookup, located, entry, directory, bind, Except.bind, throw, throwThe,
              MonadExceptOf.throw, ↓reduceIte, reduceCtorEq] at held
          · rw [read, lookup_eq_ok_file located entry directory] at held
            cases held
            exact ⟨rfl, directory⟩
  · rintro ⟨place, located, held, file⟩
    rw [read, lookup_eq_ok_file located held file]

/-- A file that is set changes no way, since none leads through a file. -/
theorem locate_setEntry {tree : FileTree} {place : Place} (vacant : ¬ tree.isDirectory place)
    (bytes : List UInt8) {path : String} {found : Place} (located : tree.locate path = .ok found) :
    (tree.setEntry place (.file bytes)).locate path = .ok found := by
  have inside := ne_nil_of_vacant vacant
  have kept (other : Place) (directory : tree.isDirectory other) :
      (tree.setEntry place (.file bytes)).isDirectory other := by
    have different : other ≠ place := fun same => vacant (same ▸ directory)
    rw [isDirectory_iff, entry?_setEntry tree inside, if_neg different]
    exact isDirectory_iff.mp directory
  unfold locate at located ⊢
  rw [below_setEntry]
  cases below : tree.below path with
  | error fault =>
    rw [below] at located
    cases located
  | ok names =>
    rw [below] at located
    exact follow_of_directories kept located

/-- A written file is read as it was written. -/
theorem read_of_write {tree written : FileTree} {path : String} {bytes : List UInt8}
    (done : tree.write path bytes = .ok written) : written.read path = .ok bytes := by
  obtain ⟨place, located, -, vacant, file, rfl⟩ := write_eq_ok_iff.mp done
  have inside := ne_nil_of_vacant vacant
  have held : entry? (tree.setEntry place (.file bytes)) place = some (.file bytes) := by
    rw [entry?_setEntry tree inside, if_pos rfl]
  exact read_eq_ok_iff.mpr ⟨place, locate_setEntry vacant bytes located, held, file⟩

/-- Files under other paths are read as before. -/
theorem read_of_write_elsewhere {tree written : FileTree} {path other : String}
    {bytes held : List UInt8} (done : tree.write path bytes = .ok written)
    (kept : tree.read other = .ok held) (elsewhere : tree.locate other ≠ tree.locate path) :
    written.read other = .ok held := by
  obtain ⟨place, located, -, vacant, -, rfl⟩ := write_eq_ok_iff.mp done
  obtain ⟨found, otherLocated, entry, file⟩ := read_eq_ok_iff.mp kept
  have inside := ne_nil_of_vacant vacant
  have different : found ≠ place := by
    rintro rfl
    exact elsewhere (otherLocated.trans located.symm)
  have held : entry? (tree.setEntry place (.file bytes)) found = some (.file held) := by
    rw [entry?_setEntry tree inside, if_neg different, entry]
  exact read_eq_ok_iff.mpr ⟨found, locate_setEntry vacant bytes otherLocated, held, file⟩

/-- A name leads to a place in the directory where paths begin. -/
theorem locate_of_isName {tree : FileTree} {name : String} (begins : tree.current)
    (isName : Path.IsName name) (below : name ≠ tree.root) : tree.locate name = .ok [name] := by
  have outside : ¬ some name = some tree.root := fun same => below (Option.some.inj same)
  have parts : tree.below name = .ok [name] := by
    simp only [FileTree.below, isName.fault?_eq, isName.components_eq, List.head?_cons, outside,
      begins, isName.not_startsWith_slash, Bool.not_false, Bool.and_self, ↓reduceIte]
  have short : ¬ Path.longestName < name.utf8ByteSize := Nat.not_lt.mpr isName.short
  rw [locate, parts]
  exact (if_neg isName.notAbove).trans (if_neg short)

/-! ### Entries of directories -/

theorem follow_append (tree : FileTree) (start : Place) (names rest : List String) :
    tree.follow start (names ++ rest) =
      (tree.follow start names).bind fun place => tree.follow place rest := by
  induction names generalizing start with
  | nil => rfl
  | cons name names ih =>
    rw [List.cons_append, follow, follow]
    split
    · rfl
    · rfl
    · split_ifs
      · rfl
      · exact ih _
      · rfl
      · exact ih _

theorem located_of_lookup {tree : FileTree} {path : String} {place : Place} {entry : FileEntry}
    (found : tree.lookup path = .ok (place, entry)) :
    tree.locate path = .ok place ∧ tree.entry? place = some entry := by
  cases located : tree.locate path with
  | error fault => simp only [lookup, located, bind, Except.bind, reduceCtorEq] at found
  | ok other =>
    simp only [lookup, located, bind, Except.bind, throw, throwThe, MonadExceptOf.throw, pure,
      Except.pure] at found
    split at found
    · cases found
    next bytes held =>
      split at found
      · cases found
      · cases found
        exact ⟨rfl, held⟩
    next held =>
      cases found
      exact ⟨rfl, held⟩

section

variable {tree : FileTree} {path name : String} {place : Place} (isName : Path.IsName name)
  (notRoot : name ≠ tree.root)

include isName notRoot

/-- The path of an entry is taken apart like that of the directory. A directory whose path has no
components is where paths begin, so that there the name must not be that of the root. -/
theorem below_entry {parts : List String} (below : tree.below path = .ok parts) :
    tree.below (Path.entry path name) =
      if Path.longestPath < (Path.entry path name).utf8ByteSize then .error .tooLong
      else .ok (parts ++ [name]) := by
  unfold FileTree.below at below ⊢
  split at below
  · cases below
  next sound =>
    have inhabited : path ≠ "" := by
      rintro rfl
      exact absurd sound (by decide)
    have slash : (Path.entry path name).startsWith "/" = path.startsWith "/" :=
      Path.startsWith_slash_entry inhabited
    rw [isName.fault?_entry sound]
    by_cases long : Path.longestPath < (Path.entry path name).utf8ByteSize
    · rw [if_pos long, if_pos long]
    · rw [if_neg long, if_neg long, isName.components_entry inhabited, slash]
      have outside : ¬ some name = some tree.root := fun same => notRoot (Option.some.inj same)
      cases front : Path.components path with
      | nil =>
        simp only [front, List.head?_nil, reduceCtorEq, ↓reduceIte] at below
        simp only [List.nil_append, List.head?_cons, outside, ↓reduceIte]
        split at below
        next begins =>
          cases below
          exact if_pos begins
        · cases below
      | cons first rest =>
        simp only [front, List.head?_cons] at below
        simp only [List.cons_append, List.head?_cons]
        split at below
        next root =>
          cases below
          exact if_pos root
        next root =>
          rw [if_neg root]
          split at below
          next begins =>
            cases below
            exact if_pos begins
          · cases below

/-- The path of an entry leads on from the directory by the name, unless it is too long. -/
theorem locate_entry (located : tree.locate path = .ok place) (directory : tree.isDirectory place) :
    tree.locate (Path.entry path name) =
      if Path.longestPath < (Path.entry path name).utf8ByteSize then .error .tooLong
      else .ok (place ++ [name]) := by
  unfold locate at located ⊢
  cases below : tree.below path with
  | error fault =>
    rw [below] at located
    cases located
  | ok parts =>
    rw [below] at located
    change tree.follow [] parts = .ok place at located
    have short : ¬ Path.longestName < name.utf8ByteSize := Nat.not_lt.mpr isName.short
    have onward : tree.follow place [name] = .ok (place ++ [name]) := by
      simp only [follow, isDirectory_iff.mp directory, isName.notAbove, short, ↓reduceIte]
    rw [below_entry isName notRoot below]
    split
    · rfl
    · exact (follow_append ..).trans (by rw [located]; exact onward)

theorem lookup_entry (found : tree.lookup path = .ok (place, .directory)) :
    tree.lookup (Path.entry path name) =
      if Path.longestPath < (Path.entry path name).utf8ByteSize then .error .tooLong
      else (tree.entry? (place ++ [name])).elim (.error .missing) fun entry =>
        .ok (place ++ [name], entry) := by
  obtain ⟨located, held⟩ := located_of_lookup found
  have inhabited : path ≠ "" := by
    rintro rfl
    exact absurd located (by simp [locate, below, Path.fault?, bind, Except.bind])
  have file := isName.not_namesDirectory_entry inhabited
  unfold lookup
  rw [locate_entry isName notRoot located (isDirectory_iff.mpr held)]
  by_cases long : Path.longestPath < (Path.entry path name).utf8ByteSize
  · rw [if_pos long, if_pos long]
    rfl
  · rw [if_neg long, if_neg long]
    simp only [bind, Except.bind, throw, throwThe, MonadExceptOf.throw, pure, Except.pure]
    cases tree.entry? (place ++ [name]) with
    | none => rfl
    | some entry =>
      cases entry with
      | file bytes => exact if_neg file
      | directory => rfl

end

/-! ### Trees as they come about -/

theorem lookup_eq_some_iff_mem {entries : List (Place × FileEntry)}
    (distinct : (entries.map (·.1)).Nodup) {place : Place} {entry : FileEntry} :
    entries.lookup place = some entry ↔ (place, entry) ∈ entries := by
  induction entries with
  | nil => exact ⟨nofun, nofun⟩
  | cons old entries ih =>
    obtain ⟨other, held⟩ := old
    obtain ⟨fresh, later⟩ := List.nodup_cons.mp distinct
    rw [List.lookup_cons, List.mem_cons]
    by_cases same : place = other
    · subst same
      have absent : (place, entry) ∉ entries := fun member =>
        fresh (List.mem_map.mpr ⟨_, member, rfl⟩)
      rw [beq_self_eq_true]
      simp [absent, eq_comm]
    · rw [beq_false_of_ne same]
      simp [ih later, same]

/-- What holds of files on a disk: a place has one entry, the names of entries can stand in paths,
and the root is not called like a plugin file. -/
structure Sound (tree : FileTree) : Prop where
  distinct : (tree.entries.map (·.1)).Nodup
  named : ∀ place ∈ tree.entries.map (·.1), ∀ name ∈ place, Path.IsName name
  root : FileType.ofPath? tree.root = none

theorem sound_empty {root : String} (untyped : FileType.ofPath? root = none) (current : Bool) :
    (empty root current).Sound where
  distinct := List.nodup_nil
  named := nofun
  root := untyped

theorem isComponent_of_below {tree : FileTree} {path part : String} {parts : List String}
    (below : tree.below path = .ok parts) (member : part ∈ parts) : Path.IsComponent part := by
  unfold FileTree.below at below
  split at below
  · cases below
  next found =>
    dsimp only at below
    split_ifs at below
    · cases below
      exact Path.isComponent_of_mem found (List.mem_of_mem_drop member)
    · cases below
      exact Path.isComponent_of_mem found member

theorem follow_named {tree : FileTree} {names : List String} {start found : Place}
    (inside : ∀ name ∈ names, Path.IsComponent name) (named : ∀ name ∈ start, Path.IsName name)
    (followed : tree.follow start names = .ok found) : ∀ name ∈ found, Path.IsName name := by
  induction names generalizing start with
  | nil =>
    cases followed
    exact named
  | cons name names ih =>
    obtain ⟨component, inside⟩ := List.forall_mem_cons.mp inside
    rw [follow] at followed
    split at followed
    · cases followed
    · cases followed
    · split_ifs at followed with up top long
      · exact ih inside (fun other member => named other (List.dropLast_subset _ member)) followed
      · have isName := component.isName up (Nat.not_lt.mp long)
        exact ih inside (by simpa [or_imp, forall_and] using ⟨named, isName⟩) followed

/-- A path leads to a place of proper names only. -/
theorem locate_named {tree : FileTree} {path : String} {place : Place}
    (located : tree.locate path = .ok place) : ∀ name ∈ place, Path.IsName name := by
  unfold locate at located
  cases below : tree.below path with
  | error fault =>
    rw [below] at located
    cases located
  | ok parts =>
    rw [below] at located
    exact follow_named (fun _ => isComponent_of_below below) (List.forall_mem_nil _) located

namespace Sound

variable {tree : FileTree} (sound : tree.Sound)

include sound

/-- Each place has the one entry that is found there. -/
theorem entry?_eq_some_iff {place : Place} (inside : place ≠ []) {entry : FileEntry} :
    tree.entry? place = some entry ↔ (place, entry) ∈ tree.entries := by
  rw [entry?_of_ne_nil tree inside, lookup_eq_some_iff_mem sound.distinct]

theorem named_of_entry? {place : Place} (inside : place ≠ []) {entry : FileEntry}
    (held : tree.entry? place = some entry) : ∀ name ∈ place, Path.IsName name :=
  sound.named place (List.mem_map_of_mem ((sound.entry?_eq_some_iff inside).mp held))

theorem setEntry {place : Place} (named : ∀ name ∈ place, Path.IsName name) (entry : FileEntry) :
    (tree.setEntry place entry).Sound := by
  unfold FileTree.setEntry
  split
  next held =>
    have kept : (tree.entries.map fun old => if old.1 = place then (place, entry) else old).map
        (·.1) = tree.entries.map (·.1) := by
      rw [List.map_map]
      refine List.map_congr_left fun old _ => ?_
      by_cases same : old.1 = place <;> simp [same]
    exact ⟨kept ▸ sound.distinct, kept ▸ sound.named, sound.root⟩
  next free =>
    have vacant : place ∉ tree.entries.map (·.1) := by
      intro held
      obtain ⟨old, member, rfl⟩ := List.mem_map.mp held
      exact free (List.lookup_isSome_iff.mpr ⟨old, member, beq_self_eq_true _⟩)
    have places : (tree.entries ++ [(place, entry)]).map (·.1) =
        tree.entries.map (·.1) ++ [place] := List.map_append
    refine ⟨?_, ?_, sound.root⟩
    · rw [places]
      exact (List.perm_append_singleton place _).nodup_iff.mpr
        (List.nodup_cons.mpr ⟨vacant, sound.distinct⟩)
    · rw [places]
      intro other member
      obtain member | member := List.mem_append.mp member
      · exact sound.named other member
      · rwa [List.mem_singleton.mp member]

theorem write {written : FileTree} {path : String} {bytes : List UInt8}
    (done : tree.write path bytes = .ok written) : written.Sound := by
  obtain ⟨place, located, -, -, -, rfl⟩ := write_eq_ok_iff.mp done
  exact sound.setEntry (locate_named located) _

theorem makePlaces {place : Place} {names : List String} {made : FileTree}
    (inside : ∀ name ∈ names, Path.IsComponent name) (named : ∀ name ∈ place, Path.IsName name)
    (done : tree.makePlaces place names = .ok made) : made.Sound := by
  induction names generalizing tree place with
  | nil =>
    cases done
    exact sound
  | cons name names ih =>
    obtain ⟨component, later⟩ := List.forall_mem_cons.mp inside
    by_cases up : name = ".."
    · subst up
      rw [FileTree.makePlaces] at done
      split_ifs at done
      exact ih sound later (fun other member => named other (List.dropLast_subset _ member)) done
    · rw [FileTree.makePlaces.eq_3 _ _ _ _ up] at done
      have onward (isName : Path.IsName name) : ∀ other ∈ place ++ [name], Path.IsName other := by
        simpa [or_imp, forall_and] using ⟨named, isName⟩
      split at done
      · cases done
      next held =>
        have inside : name ∈ place ++ [name] := List.mem_append_right _ (List.mem_singleton_self _)
        have isName := sound.named_of_entry? (List.concat_ne_nil name place) held name inside
        exact ih sound later (onward isName) done
      · split_ifs at done with long
        have isName := onward (component.isName up (Nat.not_lt.mp long))
        exact ih (sound.setEntry isName .directory) later isName done

theorem makeDirectory {made : FileTree} {path : String}
    (done : tree.makeDirectory path = .ok made) : made.Sound := by
  unfold FileTree.makeDirectory at done
  cases below : tree.below path with
  | error fault =>
    rw [below] at done
    cases done
  | ok parts =>
    rw [below] at done
    cases places : tree.makePlaces [] parts with
    | error fault =>
      simp [Except.bind, places, Except.mapError] at done
    | ok other =>
      simp only [Except.bind, places, Except.mapError] at done
      cases done
      exact sound.makePlaces (fun _ => isComponent_of_below below) (List.forall_mem_nil _) places

theorem remove {left : FileTree} {path : String} (done : tree.remove path = .ok left) :
    left.Sound := by
  unfold FileTree.remove at done
  split at done
  · cases done
  next place _ _ =>
    split_ifs at done
    cases done
    have kept : ((tree.entries.filter fun old => !place.isPrefixOf old.1).map (·.1)).Sublist
        (tree.entries.map (·.1)) := List.filter_sublist.map _
    exact ⟨kept.nodup sound.distinct, fun place member => sound.named place (kept.subset member),
      sound.root⟩

end Sound

/-- The trees that come about from one without entries. -/
inductive Reached (root : String) (current : Bool) : FileTree → Prop
  | empty : Reached root current (.empty root current)
  | write {tree written : FileTree} {path : String} {bytes : List UInt8}
      (before : Reached root current tree) (done : tree.write path bytes = .ok written) :
      Reached root current written
  | makeDirectory {tree made : FileTree} {path : String} (before : Reached root current tree)
      (done : tree.makeDirectory path = .ok made) : Reached root current made
  | remove {tree left : FileTree} {path : String} (before : Reached root current tree)
      (done : tree.remove path = .ok left) : Reached root current left

theorem Reached.sound {root : String} {current : Bool} {tree : FileTree}
    (untyped : FileType.ofPath? root = none) (reached : Reached root current tree) :
    tree.Sound := by
  induction reached with
  | empty => exact sound_empty untyped current
  | write _ done ih => exact ih.write done
  | makeDirectory _ done ih => exact ih.makeDirectory done
  | remove _ done ih => exact ih.remove done

end Fingerprint.FileTree
