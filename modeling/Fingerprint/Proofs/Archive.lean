import Fingerprint.Transaction.Archive
import Mathlib

/-!
Archive entries read from text and from values.

A value that is kept as a map has one entry for each key, the last one that is written. Reading a
structure from the text itself refuses a field that is written twice. So the text and the value give
the same transaction unless one of the structures on the way to its parts repeats a field of its
own; what else is written, and how often, makes no difference.
-/

set_option autoImplicit false

namespace Fingerprint

namespace Data

/-! ### Values of JSON texts -/

/-- A value that a JSON text denotes: keys are texts, and nothing is unreadable or of bytes. -/
inductive IsJson : Data → Prop
  | null : IsJson .null
  | bool (value : Bool) : IsJson (.bool value)
  | natural (value : Nat) : IsJson (.natural value)
  | integer (value : Int) : IsJson (.integer value)
  | float (bits : UInt64) : IsJson (.float bits)
  | text (value : String) : IsJson (.text value)
  | list {items : List Data} (inside : ∀ item ∈ items, IsJson item) : IsJson (.list items)
  | record {entries : List (Data × Data)} (keyed : ∀ entry ∈ entries, ∃ key, entry.1 = .text key)
      (inside : ∀ entry ∈ entries, IsJson entry.2) : IsJson (.record entries)

/-- What is read of a JSON text: a value of its own, or one with unreadable parts. -/
def Written (data : Data) : Prop := ∀ depth, data.readable depth → data.IsJson

theorem readable_of_mem_items {items : List Data} {item : Data} {depth : Nat}
    (readable : readableItems depth items) (member : item ∈ items) : item.readable depth := by
  induction items with
  | nil => cases member
  | cons first rest ih =>
    rw [readableItems, Bool.and_eq_true] at readable
    obtain rfl | later := List.mem_cons.mp member
    · exact readable.1
    · exact ih readable.2 later

theorem readable_of_mem_entries {entries : List (Data × Data)} {entry : Data × Data} {depth : Nat}
    (readable : readableEntries depth entries) (member : entry ∈ entries) :
    entry.1.readable depth ∧ entry.2.readable depth := by
  induction entries with
  | nil => cases member
  | cons first rest ih =>
    rw [readableEntries, Bool.and_eq_true, Bool.and_eq_true] at readable
    obtain rfl | later := List.mem_cons.mp member
    · exact readable.1
    · exact ih readable.2 later

theorem Written.list {items : List Data} (inside : ∀ item ∈ items, item.Written) :
    (Data.list items).Written := by
  intro depth readable
  rw [Data.readable, Bool.and_eq_true] at readable
  exact .list fun item member =>
    inside item member _ (readable_of_mem_items readable.2 member)

theorem Written.record {entries : List (Data × Data)}
    (keyed : ∀ entry ∈ entries, ∃ key, entry.1 = Json.dataOfString key)
    (inside : ∀ entry ∈ entries, entry.2.Written) : (Data.record entries).Written := by
  intro depth readable
  rw [Data.readable, Bool.and_eq_true] at readable
  refine .record (fun entry member => ?_) fun entry member =>
    inside entry member _ (readable_of_mem_entries readable.2 member).2
  obtain ⟨key, written⟩ := keyed entry member
  have sound := (readable_of_mem_entries readable.2 member).1
  cases key with
  | some key => exact ⟨key, written⟩
  | none =>
    rw [written] at sound
    cases sound

end Data

namespace Json

open Data (Written)

theorem written_unreadable : Data.unreadable.Written := nofun

theorem written_dataOfString (text : Option String) : (dataOfString text).Written := by
  cases text with
  | none => exact written_unreadable
  | some text => exact fun _ _ => .text text

theorem written_numberData (negative : Bool) (whole fraction : List Char)
    (exponent : Option Int) : (numberData negative whole fraction exponent).Written := by
  unfold numberData
  dsimp only
  split_ifs
  · exact fun _ _ => .natural _
  · exact fun _ _ => .integer _
  all_goals
    split
    · exact fun _ _ => .float _
    · exact written_unreadable

theorem written_of_readNumber {chars rest : List Char} {data : Data}
    (read : readNumber chars = some (data, rest)) : data.Written := by
  have unsigned {negative : Bool} {chars : List Char}
      (read : readUnsigned negative chars = some (data, rest)) : data.Written := by
    unfold readUnsigned at read
    dsimp only at read
    split at read
    · cases read
    · obtain ⟨⟨fraction, _⟩, -, read⟩ := Option.bind_eq_some_iff.mp read
      obtain ⟨⟨exponent, _⟩, -, read⟩ := Option.bind_eq_some_iff.mp read
      obtain ⟨rfl, -⟩ := Prod.mk.inj (Option.some.inj read)
      exact written_numberData _ _ _ _
  unfold readNumber at read
  split at read
  · exact unsigned read
  · exact unsigned read

/-- What is read with some fuel is written, where parts that are read before are. -/
structure ReadsWritten (fuel : Nat) : Prop where
  ofValue : ∀ {chars rest data}, readValue fuel chars = some (data, rest) → data.Written
  ofItems : ∀ {items chars rest data}, readItems fuel items chars = some (data, rest) →
    (∀ item ∈ items, item.Written) → data.Written
  ofMembers : ∀ {members chars rest data}, readMembers fuel members chars = some (data, rest) →
    (∀ entry ∈ members, ∃ key, entry.1 = dataOfString key) →
      (∀ entry ∈ members, entry.2.Written) → data.Written

namespace ReadsWritten

variable {fuel : Nat} (less : ReadsWritten fuel) {chars rest : List Char} {data : Data}

include less

theorem value_succ (read : readValue (fuel + 1) chars = some (data, rest)) : data.Written := by
  rw [readValue] at read
  split at read
  next => cases read
  next =>
    split at read
    next =>
      cases read
      exact .record nofun nofun
    next => exact less.ofMembers read nofun nofun
  next =>
    split at read
    next =>
      cases read
      exact .list nofun
    next => exact less.ofItems read nofun
  next =>
    obtain ⟨⟨text, _⟩, -, read⟩ := Option.bind_eq_some_iff.mp read
    cases read
    exact written_dataOfString text
  next =>
    obtain ⟨_, -, same⟩ := Option.map_eq_some_iff.mp read
    cases same
    exact fun _ _ => .null
  next =>
    obtain ⟨_, -, same⟩ := Option.map_eq_some_iff.mp read
    cases same
    exact fun _ _ => .bool true
  next =>
    obtain ⟨_, -, same⟩ := Option.map_eq_some_iff.mp read
    cases same
    exact fun _ _ => .bool false
  next => exact written_of_readNumber read

theorem items_succ {items : List Data} (read : readItems (fuel + 1) items chars = some (data, rest))
    (inside : ∀ item ∈ items, item.Written) : data.Written := by
  rw [readItems] at read
  split at read
  next => cases read
  next item _ first =>
    have onward : ∀ other ∈ item :: items, other.Written :=
      List.forall_mem_cons.mpr ⟨less.ofValue first, inside⟩
    split at read
    next => exact less.ofItems read onward
    next =>
      cases read
      exact .list fun other member => onward other (List.mem_reverse.mp member)
    next => cases read

theorem members_succ {members : List (Data × Data)}
    (read : readMembers (fuel + 1) members chars = some (data, rest))
    (keyed : ∀ entry ∈ members, ∃ key, entry.1 = dataOfString key)
    (inside : ∀ entry ∈ members, entry.2.Written) : data.Written := by
  rw [readMembers] at read
  split at read
  next =>
    split at read
    next => cases read
    next key _ _ =>
      split at read
      next =>
        split at read
        next => cases read
        next value _ first =>
          have keys : ∀ entry ∈ (dataOfString key, value) :: members,
              ∃ key, entry.1 = dataOfString key := List.forall_mem_cons.mpr ⟨⟨key, rfl⟩, keyed⟩
          have onward : ∀ entry ∈ (dataOfString key, value) :: members, entry.2.Written :=
            List.forall_mem_cons.mpr ⟨less.ofValue first, inside⟩
          dsimp only at read
          split at read
          next => exact less.ofMembers read keys onward
          next =>
            cases read
            exact .record (fun entry member => keys entry (List.mem_reverse.mp member))
              fun entry member => onward entry (List.mem_reverse.mp member)
          next => cases read
      next => cases read
  next => cases read

end ReadsWritten

theorem readsWritten (fuel : Nat) : ReadsWritten fuel := by
  induction fuel with
  | zero => exact ⟨nofun, nofun, nofun⟩
  | succ fuel ih => exact ⟨ih.value_succ, ih.items_succ, ih.members_succ⟩

theorem isJson_of_parseWhole? {text : String} {data : Data}
    (parsed : parseWhole? text = some data) : data.IsJson := by
  obtain ⟨parsed, readable⟩ := Option.filter_eq_some_iff.mp parsed
  unfold parse? at parsed
  dsimp only at parsed
  split at parsed
  next read =>
    split at parsed
    · cases parsed
      exact (readsWritten _).ofValue read _ readable
    · cases parsed
  next => cases parsed

end Json

namespace Data

/-! ### Entries of the same key -/

/-- The values of the entries that have a text as key. -/
def valuesOf (name : String) (entries : List (Data × Data)) : List Data :=
  (entries.filter (sameText (.text name) ·.1)).map (·.2)

theorem sameText_text (name : String) (key : Data) :
    sameText (.text name) key ↔ key = .text name := by
  cases key <;> simp [sameText, eq_comm]

theorem mem_valuesOf_iff {name : String} {entries : List (Data × Data)} {value : Data} :
    value ∈ valuesOf name entries ↔ (.text name, value) ∈ entries := by
  simp only [valuesOf, List.mem_map, List.mem_filter, sameText_text]
  constructor
  · rintro ⟨⟨key, value⟩, ⟨member, rfl⟩, rfl⟩
    exact member
  · exact fun member => ⟨_, ⟨member, rfl⟩, rfl⟩

theorem valuesOf_cons (name key : String) (value : Data) (entries : List (Data × Data)) :
    valuesOf name ((.text key, value) :: entries) =
      if key = name then value :: valuesOf name entries else valuesOf name entries := by
  simp only [valuesOf, List.filter_cons, sameText, decide_eq_true_iff, eq_comm (a := name)]
  split <;> rfl

/-- A record in which one of the fields has more than one entry. -/
def Repeats (names : List String) : Data → Prop
  | .record entries => ∃ name ∈ names, 1 < (valuesOf name entries).length
  | _ => False

/-- The value of a field of a structure: in a record it has the field's name as key, in a list it
has the field's place. -/
def HasField (names : List String) (name : String) : Data → Data → Prop
  | .record entries, value => (.text name, value) ∈ entries
  | .list items, value => ∃ index : Nat, names[index]? = some name ∧ items[index]? = some value
  | _, _ => False

theorem set_map_given {names : List String} (distinct : names.Nodup) {index : Nat} {key : String}
    (place : names[index]? = some key) (given : String → Option Data) (value : Data) :
    (names.map given).set index (some value) =
      names.map (Function.update given key (some value)) := by
  obtain ⟨inside, named⟩ := List.getElem?_eq_some_iff.mp place
  refine List.ext_getElem? fun other => ?_
  rw [List.getElem?_set, List.length_map, if_pos inside, List.getElem?_map, List.getElem?_map]
  split
  next same => rw [← same, place, Option.map_some, Function.update_self]
  next different =>
    cases at' : names[other]? with
    | none => rfl
    | some name =>
      have apart : name ≠ key := by
        rintro rfl
        exact different ((List.getElem?_inj inside distinct).mp (place.trans at'.symm))
      rw [Option.map_some, Option.map_some, Function.update_of_ne apart]

/-- Each field with the one value that is written for it, unless one has several. -/
def singles? (names : List String) (values : String → List Data) : Option Found :=
  if ∀ name ∈ names, (values name).length ≤ 1 then
    some (names.map fun name => (values name).head?)
  else none

theorem singles?_congr {names : List String} {first second : String → List Data}
    (same : ∀ name ∈ names, first name = second name) :
    singles? names first = singles? names second := by
  refine if_congr (forall₂_congr fun name member => by rw [same name member]) ?_ rfl
  exact congrArg some (List.map_congr_left fun name member => by rw [same name member])

/-- The entries are entered one after the other, into fields of which some are given already. -/
theorem findEntries?_eq {names : List String} (distinct : names.Nodup)
    {entries : List (Data × Data)} (keyed : ∀ entry ∈ entries, ∃ key, entry.1 = .text key)
    (given : String → Option Data) :
    findEntries? names entries (names.map given) =
      singles? names fun name => (given name).toList ++ valuesOf name entries := by
  induction entries generalizing given with
  | nil =>
    have single (name : String) : ((given name).toList ++ valuesOf name []).length ≤ 1 := by
      cases given name <;> simp [valuesOf]
    rw [singles?, if_pos fun name _ => single name]
    refine congrArg some (List.map_congr_left fun name _ => ?_)
    cases given name <;> rfl
  | cons entry rest ih =>
    obtain ⟨first, value⟩ := entry
    obtain ⟨⟨key, written⟩, later⟩ := List.forall_mem_cons.mp keyed
    obtain rfl : first = .text key := written
    simp only [findEntries?, fieldIndex?]
    cases place : names.idxOf? key with
    | none =>
      have foreign : key ∉ names := List.idxOf?_eq_none_iff.mp place
      dsimp only
      rw [ih later given]
      refine singles?_congr fun name member => ?_
      rw [valuesOf_cons, if_neg fun same : key = name => foreign (same ▸ member)]
    | some index =>
      obtain ⟨inside, named, -⟩ := List.idxOf?_eq_some_iff.mp place
      have at' : names[index]? = some key := List.getElem?_eq_some_iff.mpr ⟨inside, named⟩
      have found : (names.map given)[index]? = some (given key) := by
        rw [List.getElem?_map, at', Option.map_some]
      simp only [found]
      cases held : given key with
      | some earlier =>
        dsimp only
        rw [singles?, if_neg]
        intro single
        have twice := single key (List.mem_of_getElem? at')
        rw [held, valuesOf_cons, if_pos rfl] at twice
        simp at twice
      | none =>
        dsimp only
        rw [set_map_given distinct at', ih later]
        refine singles?_congr fun name _ => ?_
        rw [valuesOf_cons]
        split
        next same =>
          rw [← same, held, Function.update_self]
          rfl
        next different => rw [Function.update_of_ne (Ne.symm different)]

/-- The fields of a record are found exactly if none has two entries. -/
theorem fields?_record {names : List String} (distinct : names.Nodup)
    {entries : List (Data × Data)} (keyed : ∀ entry ∈ entries, ∃ key, entry.1 = .text key) :
    (Data.record entries).fields? names = singles? names (valuesOf · entries) := by
  have vacant : List.replicate names.length (none : Option Data) = names.map fun _ => none :=
    (List.map_const ..).symm
  rw [fields?, vacant, findEntries?_eq distinct keyed]
  rfl

theorem fields?_of_repeats {names : List String} (distinct : names.Nodup) {data : Data}
    (json : data.IsJson) (repeats : data.Repeats names) : data.fields? names = none := by
  cases json with
  | record keyed _ =>
    obtain ⟨name, member, several⟩ := repeats
    rw [fields?_record distinct keyed, singles?, if_neg]
    exact fun single => Nat.not_lt.mpr (single name member) several
  | _ => exact repeats.elim

theorem join_getElem?_padded (items : List Data) (count index : Nat) :
    ((items.map some ++ List.replicate count none)[index]?).join = items[index]? := by
  rw [List.getElem?_append, List.length_map, List.getElem?_map, List.getElem?_replicate]
  split
  next => cases items[index]? <;> rfl
  next beyond =>
    rw [List.getElem?_eq_none (Nat.not_lt.mp beyond)]
    split <;> rfl

/-- A field is found if it is written. -/
theorem hasField_iff {names : List String} (distinct : names.Nodup) {data : Data}
    (json : data.IsJson) {found : Found} (read : data.fields? names = some found) {index : Nat}
    {name : String} (place : names[index]? = some name) (value : Data) :
    data.HasField names name value ↔ (found[index]?).join = some value := by
  cases json with
  | @record entries keyed _ =>
    rw [fields?_record distinct keyed, singles?, Option.ite_none_right_eq_some] at read
    obtain ⟨single, same⟩ := read
    cases same
    rw [List.getElem?_map, place, Option.map_some, Option.join_some]
    show (.text name, value) ∈ entries ↔ _
    rw [← mem_valuesOf_iff]
    have short := single name (List.mem_of_getElem? place)
    cases valued : valuesOf name entries with
    | nil => simp
    | cons first more =>
      rw [valued, List.length_cons] at short
      obtain rfl : more = [] := List.eq_nil_of_length_eq_zero (by omega)
      simp [eq_comm]
  | @list items _ =>
    rw [fields?, Option.ite_none_left_eq_some] at read
    obtain ⟨short, same⟩ := read
    cases same
    rw [join_getElem?_padded]
    constructor
    · rintro ⟨other, named, written⟩
      obtain ⟨inside, -⟩ := List.getElem?_eq_some_iff.mp place
      obtain rfl := (List.getElem?_inj inside distinct).mp (place.trans named.symm)
      exact written
    · exact fun written => ⟨index, place, written⟩
  | _ => cases read

/-! ### Values as maps keep them -/

theorem getLast?_of_short {values : List Data} (short : values.length ≤ 1) :
    values.getLast? = values.head? := by
  match values, short with
  | [], _ => rfl
  | [_], _ => rfl

theorem collapsedItems_eq (items : List Data) : collapsedItems items = items.map collapsed := by
  induction items with
  | nil => rfl
  | cons item rest ih => rw [collapsedItems, ih, List.map_cons]

theorem exists_of_mem_collapsedEntries {entries : List (Data × Data)} {kept : Data × Data}
    (member : kept ∈ collapsedEntries entries) :
    ∃ entry ∈ entries, kept = (entry.1, entry.2.collapsed) := by
  induction entries with
  | nil => cases member
  | cons entry rest ih =>
    obtain ⟨key, value⟩ := entry
    rw [collapsedEntries] at member
    split at member
    next =>
      obtain ⟨entry, inside, same⟩ := ih member
      exact ⟨entry, List.mem_cons_of_mem _ inside, same⟩
    next =>
      obtain rfl | later := List.mem_cons.mp member
      · exact ⟨_, List.mem_cons_self, rfl⟩
      · obtain ⟨entry, inside, same⟩ := ih later
        exact ⟨entry, List.mem_cons_of_mem _ inside, same⟩

theorem keyed_collapsedEntries {entries : List (Data × Data)}
    (keyed : ∀ entry ∈ entries, ∃ key, entry.1 = .text key) :
    ∀ entry ∈ collapsedEntries entries, ∃ key, entry.1 = .text key := by
  intro kept member
  obtain ⟨entry, inside, rfl⟩ := exists_of_mem_collapsedEntries member
  exact keyed entry inside

theorem IsJson.collapsed {data : Data} (json : data.IsJson) : data.collapsed.IsJson := by
  induction json with
  | list _ ih =>
    rw [Data.collapsed, collapsedItems_eq]
    refine .list fun kept member => ?_
    obtain ⟨item, inside, rfl⟩ := List.mem_map.mp member
    exact ih item inside
  | record keyed _ ih =>
    rw [Data.collapsed]
    refine .record (keyed_collapsedEntries keyed) fun kept member => ?_
    obtain ⟨entry, inside, rfl⟩ := exists_of_mem_collapsedEntries member
    exact ih entry inside
  | null => exact .null
  | bool value => exact .bool value
  | natural value => exact .natural value
  | integer value => exact .integer value
  | float bits => exact .float bits
  | text value => exact .text value

theorem any_sameText_iff {key : String} {entries : List (Data × Data)} :
    entries.any (sameText (.text key) ·.1) ↔ valuesOf key entries ≠ [] := by
  simp [valuesOf]

/-- The last of the values stays. -/
theorem valuesOf_collapsedEntries (name : String) {entries : List (Data × Data)}
    (keyed : ∀ entry ∈ entries, ∃ key, entry.1 = .text key) :
    valuesOf name (collapsedEntries entries) =
      ((valuesOf name entries).getLast?.map collapsed).toList := by
  induction entries with
  | nil => rfl
  | cons entry rest ih =>
    obtain ⟨first, value⟩ := entry
    obtain ⟨⟨key, written⟩, later⟩ := List.forall_mem_cons.mp keyed
    obtain rfl : first = .text key := written
    rw [collapsedEntries, valuesOf_cons]
    split
    next again =>
      rw [ih later]
      split
      next same =>
        obtain ⟨last, closes⟩ := Option.isSome_iff_exists.mp
          (List.getLast?_isSome.mpr (any_sameText_iff.mp again))
        rw [← same, List.getLast?_cons, closes, Option.getD_some]
      next => rfl
    next once =>
      rw [valuesOf_cons, ih later]
      split
      next same =>
        rw [← same, not_not.mp (mt any_sameText_iff.mpr once)]
        rfl
      next => rfl

theorem fields?_collapsed {names : List String} (distinct : names.Nodup) {data : Data}
    (json : data.IsJson) (single : ¬ data.Repeats names) :
    data.collapsed.fields? names = (data.fields? names).map (·.map (·.map collapsed)) := by
  cases json with
  | @record entries keyed _ =>
    have short (name : String) (member : name ∈ names) : (valuesOf name entries).length ≤ 1 :=
      Nat.not_lt.mp fun several => single ⟨name, member, several⟩
    rw [Data.collapsed, fields?_record distinct (keyed_collapsedEntries keyed),
      fields?_record distinct keyed]
    simp only [valuesOf_collapsedEntries _ keyed]
    rw [singles?, singles?, if_pos short, if_pos, Option.map_some, List.map_map]
    · refine congrArg some (List.map_congr_left fun name member => ?_)
      rw [getLast?_of_short (short name member), Option.head?_toList, Function.comp_apply]
    · intro name _
      cases (valuesOf name entries).getLast? <;> simp
  | @list items _ =>
    rw [Data.collapsed, collapsedItems_eq, fields?, fields?, List.length_map]
    split
    next => rfl
    next => simp [Function.comp_def]
  | _ => rfl

theorem length_of_fields? {names : List String} (distinct : names.Nodup) {data : Data}
    (json : data.IsJson) {found : Found} (read : data.fields? names = some found) :
    found.length = names.length := by
  cases json with
  | record keyed _ =>
    rw [fields?_record distinct keyed, singles?, Option.ite_none_right_eq_some] at read
    cases read.2
    rw [List.length_map]
  | list _ =>
    rw [fields?, Option.ite_none_left_eq_some] at read
    obtain ⟨short, same⟩ := read
    cases same
    rw [List.length_append, List.length_map, List.length_replicate]
    omega
  | _ => cases read

theorem IsJson.field {names : List String} {name : String} {data value : Data}
    (json : data.IsJson) (written : data.HasField names name value) : value.IsJson := by
  cases json with
  | record _ inside => exact inside _ written
  | list inside =>
    obtain ⟨_, -, at'⟩ := written
    exact inside value (List.mem_of_getElem? at')
  | _ => exact written.elim

/-! ### Readings of a text and of a value -/

/-- A reading refuses repetitions, and apart from them makes no difference between a value as it is
written and as a map keeps it. -/
structure Agrees {α : Type} (read : Data → Option α) (repeats : Data → Prop) : Prop where
  refuses : ∀ {data}, data.IsJson → repeats data → read data = none
  agrees : ∀ {data}, data.IsJson → ¬ repeats data → read data.collapsed = read data

/-- The same for the fields of a structure. -/
structure FieldsAgree {α : Type} (combine : Found → Option α) (repeats : Nat → Data → Prop) :
    Prop where
  refuses : ∀ {found index value}, (found[index]?).join = some value → value.IsJson →
    repeats index value → combine found = none
  agrees : ∀ {found}, (∀ index value, (found[index]?).join = some value →
    value.IsJson ∧ ¬ repeats index value) → combine (found.map (·.map collapsed)) = combine found

section

variable {α β γ : Type} {read : Data → Option α} {repeats : Data → Prop}

theorem optionOf?_of_ne {data : Data} (given : data ≠ .null) :
    optionOf? read data = (read data).map some := by
  cases data with
  | null => exact absurd rfl given
  | _ => rfl

theorem collapsed_eq_null_iff {data : Data} : data.collapsed = .null ↔ data = .null := by
  cases data <;> simp [collapsed]

theorem mapM_of_none {items : List Data} {item : Data} (member : item ∈ items)
    (fails : read item = none) : items.mapM read = none := by
  induction items with
  | nil => cases member
  | cons first rest ih =>
    rw [List.mapM_cons]
    obtain rfl | later := List.mem_cons.mp member
    · rw [fails]
      rfl
    · rw [ih later]
      cases read first <;> rfl

theorem mapM_collapsed {items : List Data}
    (same : ∀ item ∈ items, read item.collapsed = read item) :
    (items.map collapsed).mapM read = items.mapM read := by
  induction items with
  | nil => rfl
  | cons first rest ih =>
    obtain ⟨own, later⟩ := List.forall_mem_cons.mp same
    rw [List.map_cons, List.mapM_cons, List.mapM_cons, own, ih later]

theorem join_getElem?_collapsed (found : Found) (index : Nat) :
    ((found.map (·.map collapsed))[index]?).join = ((found[index]?).join).map collapsed := by
  rw [List.getElem?_map]
  match found[index]? with
  | none => rfl
  | some none => rfl
  | some (some _) => rfl

namespace Agrees

theorem congr {same : Data → Prop} (whole : Agrees read repeats)
    (iff : ∀ data, same data ↔ repeats data) : Agrees read same where
  refuses json repeated := whole.refuses json ((iff _).mp repeated)
  agrees json single := whole.agrees json (mt (iff _).mpr single)

theorem text : Agrees text? fun _ => False where
  refuses _ impossible := impossible.elim
  agrees json _ := by cases json <;> rfl

theorem option (whole : Agrees read repeats) (plain : ¬ repeats .null) :
    Agrees (optionOf? read) repeats where
  refuses {data} json repeated := by
    have given : data ≠ .null := fun null => plain (null ▸ repeated)
    rw [optionOf?_of_ne given, whole.refuses json repeated, Option.map_none]
  agrees {data} json single := by
    by_cases null : data = .null
    · rw [null]
      rfl
    · rw [optionOf?_of_ne null, optionOf?_of_ne (mt collapsed_eq_null_iff.mp null),
        whole.agrees json single]

theorem list (whole : Agrees read repeats) :
    Agrees (listOf? read) fun data =>
      ∃ items, data = .list items ∧ ∃ item ∈ items, repeats item where
  refuses json repeated := by
    obtain ⟨items, rfl, item, member, repeated⟩ := repeated
    cases json with
    | list inside => exact mapM_of_none member (whole.refuses (inside item member) repeated)
  agrees json single := by
    cases json with
    | @list items inside =>
      rw [collapsed, collapsedItems_eq, listOf?, listOf?]
      exact mapM_collapsed fun item member => whole.agrees (inside item member) fun repeated =>
        single ⟨items, rfl, item, member, repeated⟩
    | _ => rfl

theorem required (whole : Agrees read repeats) (place : Nat) :
    FieldsAgree (·.required place read) fun index value => index = place ∧ repeats value where
  refuses held json repeated := by
    obtain ⟨rfl, repeated⟩ := repeated
    rw [Found.required, held, Option.bind_some, whole.refuses json repeated]
  agrees {found} single := by
    rw [Found.required, Found.required, join_getElem?_collapsed]
    cases held : (found[place]?).join with
    | none => rfl
    | some value =>
      obtain ⟨json, once⟩ := single place value held
      exact whole.agrees json fun repeated => once ⟨rfl, repeated⟩

theorem optional (whole : Agrees read repeats) (place : Nat) (missing : α) :
    FieldsAgree (·.optional place missing read) fun index value =>
      index = place ∧ repeats value where
  refuses held json repeated := by
    obtain ⟨rfl, repeated⟩ := repeated
    rw [Found.optional, held]
    exact whole.refuses json repeated
  agrees {found} single := by
    rw [Found.optional, Found.optional, join_getElem?_collapsed]
    cases held : (found[place]?).join with
    | none => rfl
    | some value =>
      obtain ⟨json, once⟩ := single place value held
      exact whole.agrees json fun repeated => once ⟨rfl, repeated⟩

end Agrees

namespace FieldsAgree

variable {first : Found → Option α} {second : Found → Option β} {earlier later : Nat → Data → Prop}

theorem both (left : FieldsAgree first earlier) (right : FieldsAgree second later)
    (combine : α → β → γ) :
    FieldsAgree (fun found => do return combine (← first found) (← second found))
      fun index value => earlier index value ∨ later index value where
  refuses {found index value} held json repeated := by
    obtain repeated | repeated := repeated
    · rw [left.refuses held json repeated]
      rfl
    · rw [right.refuses held json repeated]
      cases first found <;> rfl
  agrees {found} single := by
    rw [left.agrees fun index value held => (single index value held).imp_right (mt .inl),
      right.agrees fun index value held => (single index value held).imp_right (mt .inr)]

/-- A structure is refused for repeating a field of its own, or for what its fields hold. -/
theorem whole (fields : FieldsAgree first earlier) (names : List String) (distinct : names.Nodup) :
    Agrees (fun data => do first (← data.fields? names)) fun data =>
      data.Repeats names ∨ ∃ (index : Nat) (name : String) (value : Data),
        names[index]? = some name ∧ data.HasField names name value ∧ earlier index value where
  refuses {data} json repeated := by
    obtain repeated | ⟨index, name, value, place, written, repeated⟩ := repeated
    · rw [fields?_of_repeats distinct json repeated]
      rfl
    · cases read : data.fields? names with
      | none => rfl
      | some found =>
        have held := (hasField_iff distinct json read place value).mp written
        exact fields.refuses held (json.field written) repeated
  agrees {data} json single := by
    rw [not_or] at single
    rw [fields?_collapsed distinct json single.1]
    cases read : data.fields? names with
    | none => rfl
    | some found =>
      refine fields.agrees fun index value held => ?_
      have inside : index < names.length := by
        rw [← length_of_fields? distinct json read]
        by_contra beyond
        rw [List.getElem?_eq_none (Nat.not_lt.mp beyond)] at held
        cases held
      have place := List.getElem?_eq_getElem inside
      have written := (hasField_iff distinct json read place value).mpr held
      exact ⟨json.field written, fun repeated =>
        single.2 ⟨index, _, value, place, written, repeated⟩⟩

end FieldsAgree

end

/-! ### What is read of a field -/

/-- An outcome gives what is written in a place, if anything is and it is not null. -/
structure Populates {α : Type} (written : Data → Prop) (reads : Data → α → Prop)
    (outcome : Option α) : Prop where
  some_iff : ∀ value, outcome = some value ↔ ∃ given, written given ∧ reads given value
  none_iff : outcome = none ↔ ∀ given, written given → given = .null

/-- A reading that gives what a value reads as, and nothing for null. -/
structure Exact {α : Type} (read : Data → Option α) (reads : Data → α → Prop) : Prop where
  reads_iff : ∀ {data value}, data.IsJson → read data = some value →
    ∀ other, reads data other ↔ other = value
  not_null : ∀ value, ¬ reads .null value

theorem optional_eq_some_iff {α : Type} {found : Found} {index : Nat} {missing value : α}
    {read : Data → Option α} :
    found.optional index missing read = some value ↔
      (found[index]?).join = none ∧ missing = value ∨
        ∃ data, (found[index]?).join = some data ∧ read data = some value := by
  unfold Found.optional
  cases (found[index]?).join <;> simp

namespace Populates

variable {α : Type} {written outer : Data → Prop} {inner : Data → Data → Prop}
  {reads : Data → α → Prop} {outcome : Option α}

theorem nothing (absent : ∀ given, ¬ written given) : Populates written reads none where
  some_iff _ := ⟨nofun, fun ⟨given, written, _⟩ => absurd written (absent given)⟩
  none_iff := ⟨fun _ given written => absurd written (absent given), fun _ => rfl⟩

/-- What is written in a value that is itself written in one place. -/
theorem within {data : Data} (only : ∀ other, outer other ↔ other = data)
    (populates : Populates (inner data) reads outcome) :
    Populates (fun given => ∃ other, outer other ∧ inner other given) reads outcome := by
  have same (given : Data) : (∃ other, outer other ∧ inner other given) ↔ inner data given := by
    simp only [only, exists_eq_left]
  refine ⟨fun value => ?_, ?_⟩
  · simp only [same]
    exact populates.some_iff value
  · simp only [same]
    exact populates.none_iff

theorem field {read : Data → Option α} (faithful : Exact read reads) {names : List String}
    (distinct : names.Nodup) {data : Data} (json : data.IsJson) {found : Found}
    (fields : data.fields? names = some found) {index : Nat} {name : String}
    (place : names[index]? = some name)
    (got : found.optional index none (optionOf? read) = some outcome) :
    Populates (data.HasField names name) reads outcome := by
  have only := hasField_iff distinct json fields place
  obtain ⟨absent, rfl⟩ | ⟨given, held, got⟩ := optional_eq_some_iff.mp got
  · refine nothing fun given written => ?_
    rw [only, absent] at written
    cases written
  · have unique (other : Data) : data.HasField names name other ↔ other = given := by
      rw [only, held, Option.some.injEq, eq_comm]
    have json := json.field ((unique given).mpr rfl)
    by_cases null : given = .null
    · subst null
      obtain rfl : none = outcome := Option.some.inj got
      refine ⟨fun value => ⟨nofun, ?_⟩, ⟨fun _ other => (unique other).mp, fun _ => rfl⟩⟩
      rintro ⟨other, written, reads⟩
      exact absurd ((unique other).mp written ▸ reads) (faithful.not_null value)
    · rw [optionOf?_of_ne null] at got
      obtain ⟨value, gave, rfl⟩ := Option.map_eq_some_iff.mp got
      refine ⟨fun other => ?_, ⟨nofun, fun all => absurd (all given ((unique given).mpr rfl)) null⟩⟩
      simp only [unique, exists_eq_left]
      rw [faithful.reads_iff json gave, Option.some.injEq, eq_comm]

/-- A part of what is read of a field, where nothing is read of a field that is not written. -/
theorem nested {β : Type} {read : Data → Option β} {missing value : β} (part : β → Option α)
    (inside : ∀ {data value}, data.IsJson → read data = some value →
      Populates (inner data) reads (part value)) (vacant : part missing = none)
    {names : List String} (distinct : names.Nodup) {data : Data} (json : data.IsJson)
    {found : Found} (fields : data.fields? names = some found) {index : Nat} {name : String}
    (place : names[index]? = some name) (got : found.optional index missing read = some value) :
    Populates (fun given => ∃ other, data.HasField names name other ∧ inner other given) reads
      (part value) := by
  have only := hasField_iff distinct json fields place
  obtain ⟨absent, rfl⟩ | ⟨other, held, got⟩ := optional_eq_some_iff.mp got
  · rw [vacant]
    refine nothing fun given written => ?_
    obtain ⟨other, written, -⟩ := written
    rw [only, absent] at written
    cases written
  · have written := (only other).mpr held
    refine within (fun another => ?_) (inside (json.field written) got)
    rw [only, held, Option.some.injEq, eq_comm]

end Populates

/-- The text that a value is. -/
def IsText (data : Data) (value : String) : Prop := data = .text value

theorem text?_eq_some_iff {data : Data} (json : data.IsJson) {value : String} :
    data.text? = some value ↔ data = .text value := by
  cases json <;> simp [text?]

theorem exact_text : Exact text? IsText where
  reads_iff json read other := by
    rw [IsText, (text?_eq_some_iff json).mp read, text.injEq, eq_comm]
  not_null _ := nofun

theorem forall₂_of_mapM {α : Type} {read : Data → Option α} {items : List Data} {values : List α}
    (inside : ∀ item ∈ items, item.IsJson) (each : items.mapM read = some values) :
    List.Forall₂ (fun item value => item.IsJson ∧ read item = some value) items values := by
  induction items generalizing values with
  | nil =>
    cases each
    exact .nil
  | cons item rest ih =>
    obtain ⟨json, inside⟩ := List.forall_mem_cons.mp inside
    rw [List.mapM_cons] at each
    obtain ⟨value, first, each⟩ := Option.bind_eq_some_iff.mp each
    obtain ⟨later, onward, same⟩ := Option.bind_eq_some_iff.mp each
    cases same
    exact .cons ⟨json, first⟩ (ih inside onward)

theorem forall₂_iff_eq {α : Type} {reads : Data → α → Prop} {items : List Data} {values : List α}
    (each : List.Forall₂ (fun item value => ∀ other, reads item other ↔ other = value) items values)
    (others : List α) : List.Forall₂ reads items others ↔ others = values := by
  induction each generalizing others with
  | nil => exact List.forall₂_nil_left_iff
  | cons own _ ih =>
    cases others with
    | nil => exact ⟨nofun, nofun⟩
    | cons other others => rw [List.forall₂_cons, own, ih, List.cons.injEq]

/-- The items of a list one after the other. -/
def IsListOf {α : Type} (reads : Data → α → Prop) (data : Data) (values : List α) : Prop :=
  ∃ items, data = .list items ∧ List.Forall₂ reads items values

theorem Exact.list {α : Type} {read : Data → Option α} {reads : Data → α → Prop}
    (faithful : Exact read reads) : Exact (listOf? read) (IsListOf reads) where
  reads_iff {data values} json got others := by
    cases json with
    | @list items inside =>
      have each := (forall₂_of_mapM inside got).imp fun item value read =>
        faithful.reads_iff read.1 read.2
      simp only [IsListOf, list.injEq, exists_eq_left', forall₂_iff_eq each]
    | _ => cases got
  not_null _ := nofun

end Data

namespace Transaction

open Data

/-! ### Archive entries -/

def entryFields : List String := ["request", "response"]

def requestFields : List String := ["url"]

def responseFields : List String := ["headers", "content"]

def contentFields : List String := ["text"]

def headerFields : List String := ["name", "value"]

/-- A response repeats one of its fields, or its content or one of its headers does. -/
def ResponseRepeats (response : Data) : Prop :=
  response.Repeats responseFields ∨
    (∃ headers header, response.HasField responseFields "headers" (.list headers) ∧
      header ∈ headers ∧ header.Repeats headerFields) ∨
    ∃ content, response.HasField responseFields "content" content ∧ content.Repeats contentFields

/-- An entry repeats one of its fields, or its request or its response repeats one. -/
def EntryRepeats (entry : Data) : Prop :=
  entry.Repeats entryFields ∨
    (∃ request, entry.HasField entryFields "request" request ∧ request.Repeats requestFields) ∨
    ∃ response, entry.HasField entryFields "response" response ∧ ResponseRepeats response

/-- What is said of the fields of a structure with two fields, by their places. -/
theorem exists_field_iff {first second : String} {data : Data} {earlier later : Data → Prop} :
    (∃ (index : Nat) (name : String) (value : Data), [first, second][index]? = some name ∧
      data.HasField [first, second] name value ∧
        (index = 0 ∧ earlier value ∨ index = 1 ∧ later value)) ↔
      (∃ value, data.HasField [first, second] first value ∧ earlier value) ∨
        ∃ value, data.HasField [first, second] second value ∧ later value := by
  constructor
  · rintro ⟨_, name, value, place, written, ⟨rfl, said⟩ | ⟨rfl, said⟩⟩
    · obtain rfl : first = name := Option.some.inj place
      exact .inl ⟨value, written, said⟩
    · obtain rfl : second = name := Option.some.inj place
      exact .inr ⟨value, written, said⟩
  · rintro (⟨value, written, said⟩ | ⟨value, written, said⟩)
    · exact ⟨0, first, value, rfl, written, .inl ⟨rfl, said⟩⟩
    · exact ⟨1, second, value, rfl, written, .inr ⟨rfl, said⟩⟩

theorem header_agrees : Agrees archiveHeaderOfData? (·.Repeats headerFields) := by
  have fields := (Agrees.text.required 0).both (Agrees.text.required 1) Prod.mk
  exact (fields.whole headerFields (by decide)).congr fun data => by simp

/-- A structure that has one text, which may be left out or null: a request or a content. -/
theorem textField_agrees (name : String) :
    Agrees (fun data => do (← data.fields? [name]).optional 0 none (optionOf? text?))
      (·.Repeats [name]) := by
  have fields := (Agrees.text.option id).optional 0 none
  exact (fields.whole [name] (List.nodup_singleton name)).congr fun data => by simp

theorem request_agrees : Agrees archiveRequestOfData? (·.Repeats requestFields) :=
  textField_agrees "url"

theorem content_agrees : Agrees archiveContentOfData? (·.Repeats contentFields) :=
  textField_agrees "text"

theorem response_agrees : Agrees archiveResponseOfData? ResponseRepeats := by
  have headers := (header_agrees.list.option nofun).optional 0 none
  have fields := headers.both (content_agrees.optional 1 none) Prod.mk
  refine (fields.whole responseFields (by decide)).congr fun data => or_congr_right ?_
  refine Iff.trans (or_congr_left ?_) exists_field_iff.symm
  constructor
  · rintro ⟨headers, header, written, member, repeated⟩
    exact ⟨_, written, headers, rfl, header, member, repeated⟩
  · rintro ⟨_, written, headers, rfl, header, member, repeated⟩
    exact ⟨headers, header, written, member, repeated⟩

theorem entry_agrees : Agrees ofArchiveData? EntryRepeats := by
  have request := request_agrees.optional 0 none
  have response := response_agrees.optional 1 (none, none)
  have fields := request.both response fun url parts => Transaction.mk url parts.2 parts.1
  exact (fields.whole entryFields (by decide)).congr fun data =>
    or_congr_right exists_field_iff.symm

/-! ### The parts of a transaction -/

/-- The address of the request of an entry. -/
def IsUrlOf (entry given : Data) : Prop :=
  ∃ request, entry.HasField entryFields "request" request ∧
    request.HasField requestFields "url" given

/-- The headers of the response of an entry. -/
def AreHeadersOf (entry given : Data) : Prop :=
  ∃ response, entry.HasField entryFields "response" response ∧
    response.HasField responseFields "headers" given

/-- The text of the content of the response of an entry. -/
def IsBodyOf (entry given : Data) : Prop :=
  ∃ response, entry.HasField entryFields "response" response ∧
    ∃ content, response.HasField responseFields "content" content ∧
      content.HasField contentFields "text" given

/-- A name and a value that a header has. -/
def IsHeader (header : Data) (pair : String × String) : Prop :=
  header.HasField headerFields "name" (.text pair.1) ∧
    header.HasField headerFields "value" (.text pair.2)

theorem hasField_text_iff {names : List String} (distinct : names.Nodup) {data : Data}
    (json : data.IsJson) {found : Found} (fields : data.fields? names = some found) {index : Nat}
    {name : String} (place : names[index]? = some name) {value : String}
    (got : found.required index text? = some value) (other : String) :
    data.HasField names name (.text other) ↔ other = value := by
  have only := hasField_iff distinct json fields place
  obtain ⟨given, held, read⟩ := Option.bind_eq_some_iff.mp got
  have json := json.field ((only given).mpr held)
  obtain rfl := (text?_eq_some_iff json).mp read
  rw [only, held, Option.some.injEq, Data.text.injEq, eq_comm]

theorem exact_header : Exact archiveHeaderOfData? IsHeader where
  reads_iff {header pair} json read other := by
    obtain ⟨found, fields, read⟩ := Option.bind_eq_some_iff.mp read
    obtain ⟨name, named, read⟩ := Option.bind_eq_some_iff.mp read
    obtain ⟨value, valued, same⟩ := Option.bind_eq_some_iff.mp read
    cases same
    have distinct : headerFields.Nodup := by decide
    rw [IsHeader, hasField_text_iff distinct json fields rfl named,
      hasField_text_iff distinct json fields rfl valued, Prod.ext_iff]
  not_null _ := nofun

theorem textField_populates {name : String} {data : Data} {text : Option String}
    (json : data.IsJson)
    (read : (do (← data.fields? [name]).optional 0 none (optionOf? text?)) = some text) :
    Populates (data.HasField [name] name) IsText text := by
  obtain ⟨found, fields, got⟩ := Option.bind_eq_some_iff.mp read
  exact .field exact_text (List.nodup_singleton name) json fields rfl got

theorem response_populates {response : Data}
    {parts : Option (List (String × String)) × Option String} (json : response.IsJson)
    (read : archiveResponseOfData? response = some parts) :
    Populates (response.HasField responseFields "headers") (IsListOf IsHeader) parts.1 ∧
      Populates (fun given => ∃ content, response.HasField responseFields "content" content ∧
        content.HasField contentFields "text" given) IsText parts.2 := by
  obtain ⟨found, fields, read⟩ := Option.bind_eq_some_iff.mp read
  obtain ⟨headers, gotHeaders, read⟩ := Option.bind_eq_some_iff.mp read
  obtain ⟨body, gotBody, same⟩ := Option.bind_eq_some_iff.mp read
  cases same
  exact ⟨.field exact_header.list (by decide) json fields rfl gotHeaders,
    .nested id textField_populates rfl (by decide) json fields rfl gotBody⟩

theorem entry_populates {entry : Data} {transaction : Transaction} (json : entry.IsJson)
    (read : ofArchiveData? entry = some transaction) :
    Populates (IsUrlOf entry) IsText transaction.url ∧
      Populates (IsBodyOf entry) IsText transaction.body ∧
      Populates (AreHeadersOf entry) (IsListOf IsHeader) transaction.headers := by
  obtain ⟨found, fields, read⟩ := Option.bind_eq_some_iff.mp read
  obtain ⟨url, gotRequest, read⟩ := Option.bind_eq_some_iff.mp read
  obtain ⟨parts, gotResponse, same⟩ := Option.bind_eq_some_iff.mp read
  cases same
  have distinct : entryFields.Nodup := by decide
  exact ⟨.nested id textField_populates rfl distinct json fields rfl gotRequest,
    .nested Prod.snd (fun json read => (response_populates json read).2) rfl distinct json fields
      rfl gotResponse,
    .nested Prod.fst (fun json read => (response_populates json read).1) rfl distinct json fields
      rfl gotResponse⟩

theorem ofArchiveValue_eq (data : Data) :
    ofArchiveValue data = (ofArchiveData? data).elim (.error .jsonMalformed) .ok := by
  unfold ofArchiveValue
  cases ofArchiveData? data <;> rfl

/-- An archive entry gives the same as text and as the value that a map keeps of it, unless a field
is repeated in the entry itself, its request, its response, the content or a header; such a text is
refused, while in the value the last of the fields stays. What is given is a failure, or a
transaction with the parts that are written and not null and with the headers in their order. -/
theorem ofArchiveEntry_agrees {text : String} {entry : Data}
    (parsed : Json.parseWhole? text = some entry) :
    (¬ EntryRepeats entry → ofArchiveEntry text = ofArchiveValue entry.collapsed) ∧
    (EntryRepeats entry → ofArchiveEntry text = .error .jsonMalformed) ∧
    (ofArchiveValue entry.collapsed = .error .jsonMalformed ∨
      ∃ transaction, ofArchiveValue entry.collapsed = .ok transaction ∧
        Populates (IsUrlOf entry.collapsed) IsText transaction.url ∧
        Populates (IsBodyOf entry.collapsed) IsText transaction.body ∧
        Populates (AreHeadersOf entry.collapsed) (IsListOf IsHeader) transaction.headers) := by
  have json := Json.isJson_of_parseWhole? parsed
  have read : ofArchiveEntry text = ofArchiveValue entry := by
    rw [ofArchiveEntry, (Option.filter_eq_some_iff.mp parsed).1]
  rw [read]
  refine ⟨fun single => ?_, fun repeated => ?_, ?_⟩
  · rw [ofArchiveValue_eq, ofArchiveValue_eq, entry_agrees.agrees json single]
  · rw [ofArchiveValue_eq, entry_agrees.refuses json repeated, Option.elim_none]
  · rw [ofArchiveValue_eq]
    cases given : ofArchiveData? entry.collapsed with
    | none => exact .inl rfl
    | some transaction => exact .inr ⟨transaction, rfl, entry_populates json.collapsed given⟩

/-- A text with a request of one address, and with members that are passed over. -/
def plainText : String :=
  "\x7b\"request\": \x7b\"url\": \"a\"\x7d, \"time\": 1, \"time\": 2\x7d"

def plainEntry : Data :=
  .record [(.text "request", .record [(.text "url", .text "a")]), (.text "time", .natural 1),
    (.text "time", .natural 2)]

theorem ofArchiveEntry_agrees_plain :
    Json.parseWhole? plainText = some plainEntry ∧ ¬ EntryRepeats plainEntry ∧
      ofArchiveEntry plainText = ofArchiveValue plainEntry.collapsed := by
  have parsed : Json.parseWhole? plainText = some plainEntry := by cbv
  have single : ¬ EntryRepeats plainEntry := by
    simp [EntryRepeats, plainEntry, HasField, Repeats, valuesOf, sameText, entryFields,
      requestFields]
  exact ⟨parsed, single, (ofArchiveEntry_agrees parsed).1 single⟩

/-- A text with a request of two addresses. -/
def repeatedText : String := "\x7b\"request\": \x7b\"url\": \"a\", \"url\": \"b\"\x7d\x7d"

def repeatedEntry : Data :=
  .record [(.text "request", .record [(.text "url", .text "a"), (.text "url", .text "b")])]

/-- A request with two addresses is refused in a text, and has the second of them as a value. -/
theorem ofArchiveEntry_refuses_repeated :
    Json.parseWhole? repeatedText = some repeatedEntry ∧
      ofArchiveEntry repeatedText = .error .jsonMalformed ∧
      ofArchiveValue repeatedEntry.collapsed = .ok ⟨some "b", none, none⟩ := by
  refine ⟨?_, ?_, ?_⟩ <;> cbv

end Transaction

end Fingerprint
