import Fingerprint.Extraction
import Fingerprint.Proofs.Text

/-!
Lists without repetitions, built by adding one value after the other.

Adding values that were made distinct before has the same result as adding them all, so facts can
be extracted piece by piece. Whatever the pieces are, each extracted value is clean: it is not empty
and has nothing at its ends that is to be cut off. Versions and names are listed in the order in
which fragments show them first, and no other list has these values in this order.
-/

set_option autoImplicit false

namespace Fingerprint

theorem pushDistinct_of_mem {values : List String} {value : String} (known : value ∈ values) :
    pushDistinct values value = values := by
  simp only [pushDistinct, List.contains_eq_mem, known, decide_true, ↓reduceIte]

theorem pushDistinct_of_not_mem {values : List String} {value : String} (new : value ∉ values) :
    pushDistinct values value = values ++ [value] := by
  simp only [pushDistinct, List.contains_eq_mem, new, decide_false, Bool.false_eq_true, ↓reduceIte]

@[simp] theorem mem_pushDistinct {values : List String} {value other : String} :
    other ∈ pushDistinct values value ↔ other ∈ values ∨ other = value := by
  by_cases known : value ∈ values
  · rw [pushDistinct_of_mem known]
    refine ⟨.inl, ?_⟩
    rintro (member | rfl)
    · exact member
    · exact known
  · rw [pushDistinct_of_not_mem known, List.mem_append, List.mem_singleton]

theorem mem_foldl_pushDistinct {candidates values : List String} {value : String} :
    value ∈ candidates.foldl pushDistinct values ↔ value ∈ values ∨ value ∈ candidates := by
  induction candidates generalizing values with
  | nil => simp
  | cons candidate rest ih =>
    rw [List.foldl_cons, ih, mem_pushDistinct, List.mem_cons, or_assoc]

theorem prefix_foldl_pushDistinct (candidates values : List String) :
    values <+: candidates.foldl pushDistinct values := by
  induction candidates generalizing values with
  | nil => exact List.prefix_refl values
  | cons candidate rest ih =>
    refine List.IsPrefix.trans ?_ (ih (pushDistinct values candidate))
    by_cases known : candidate ∈ values
    · exact (pushDistinct_of_mem known).symm ▸ List.prefix_refl values
    · rw [pushDistinct_of_not_mem known]
      exact List.prefix_append values [candidate]

/-- A value at the end is kept unless it occurs before. -/
theorem eraseDups_concat {α : Type} [BEq α] [LawfulBEq α] (front : List α) (last : α) :
    (front ++ [last]).eraseDups =
      if last ∈ front then front.eraseDups else front.eraseDups ++ [last] := by
  rw [List.eraseDups_append]
  split
  next known => simp [List.removeAll, known]
  next new => simp [List.removeAll, new, List.eraseDups_cons]

/-- Adding values one after the other keeps the first occurrence of each. -/
theorem foldl_pushDistinct_nil (candidates : List String) :
    candidates.foldl pushDistinct [] = candidates.eraseDups := by
  induction candidates using List.reverseRecOn with
  | nil => rfl
  | append_singleton front last ih =>
    rw [List.foldl_append, ih, eraseDups_concat]
    change pushDistinct front.eraseDups last = _
    split
    next known => exact pushDistinct_of_mem (List.mem_eraseDups.mpr known)
    next new => exact pushDistinct_of_not_mem (mt List.mem_eraseDups.mp new)

theorem nodup_pushDistinct {values : List String} (distinct : values.Nodup) (value : String) :
    (pushDistinct values value).Nodup := by
  by_cases known : value ∈ values
  · rwa [pushDistinct_of_mem known]
  · rw [pushDistinct_of_not_mem known]
    refine List.nodup_append.mpr ⟨distinct, List.pairwise_singleton _ value, ?_⟩
    intro first inFirst second inSecond same
    rw [same, List.mem_singleton.mp inSecond] at inFirst
    exact known inFirst

theorem nodup_foldl_pushDistinct {values : List String} (distinct : values.Nodup)
    (candidates : List String) : (candidates.foldl pushDistinct values).Nodup := by
  induction candidates generalizing values with
  | nil => exact distinct
  | cons candidate rest ih => exact ih (nodup_pushDistinct distinct candidate)

theorem foldl_pushDistinct_eq_nil_iff {candidates values : List String} :
    candidates.foldl pushDistinct values = [] ↔ values = [] ∧ candidates = [] := by
  simp only [List.eq_nil_iff_forall_not_mem, mem_foldl_pushDistinct, not_or, forall_and]

/-- Values that were collected in a list of their own can be added instead of the candidates. -/
theorem foldl_pushDistinct_foldl (candidates collected values : List String) :
    (candidates.foldl pushDistinct collected).foldl pushDistinct values =
      candidates.foldl pushDistinct (collected.foldl pushDistinct values) := by
  induction candidates generalizing collected with
  | nil => rfl
  | cons candidate rest ih =>
    rw [List.foldl_cons, List.foldl_cons, ih]
    congr 1
    by_cases known : candidate ∈ collected
    · rw [pushDistinct_of_mem known,
        pushDistinct_of_mem (mem_foldl_pushDistinct.mpr (.inr known))]
    · rw [pushDistinct_of_not_mem known, List.foldl_append]
      rfl

theorem mem_distinctNonEmpty {candidates : List String} {value : String} :
    value ∈ distinctNonEmpty candidates ↔ value ∈ candidates ∧ value ≠ "" := by
  simp only [distinctNonEmpty, mem_foldl_pushDistinct, List.not_mem_nil, false_or, List.mem_filter,
    Bool.not_eq_true', ← Bool.not_eq_true, String.isEmpty_iff, ne_eq]

/-- Of distinct values the new ones are added, in their order. -/
theorem foldl_pushDistinct_eq_append_filter {further : List String} (distinct : further.Nodup)
    (values : List String) :
    further.foldl pushDistinct values = values ++ further.filter (· ∉ values) := by
  induction further generalizing values with
  | nil => exact (List.append_nil values).symm
  | cons value rest ih =>
    obtain ⟨apart, distinct⟩ := List.nodup_cons.mp distinct
    rw [List.foldl_cons, ih distinct]
    by_cases known : value ∈ values
    · rw [pushDistinct_of_mem known, List.filter_cons_of_neg (by simpa using known)]
    · rw [pushDistinct_of_not_mem known, List.filter_cons_of_pos (by simpa using known),
        List.append_assoc, List.singleton_append]
      -- the value that was just added occurs no more among the rest
      have same : rest.filter (· ∉ values ++ [value]) = rest.filter (· ∉ values) := by
        refine List.filter_congr fun other member => ?_
        have differs : other ≠ value := fun same => apart (same ▸ member)
        simp [differs]
      rw [same]

theorem distinctNonEmpty_singleton {candidate : String} (inhabited : candidate ≠ "") :
    distinctNonEmpty [candidate] = [candidate] := by
  simp [distinctNonEmpty, inhabited, pushDistinct]

theorem nodup_distinctNonEmpty (candidates : List String) : (distinctNonEmpty candidates).Nodup :=
  nodup_foldl_pushDistinct List.nodup_nil _

theorem foldl_distinctNonEmpty (candidates : List String) :
    (distinctNonEmpty candidates).foldl pushDistinct [] = distinctNonEmpty candidates :=
  foldl_pushDistinct_foldl _ [] []

theorem distinctNonEmpty_append (first second : List String) :
    distinctNonEmpty (first ++ second) =
      (distinctNonEmpty second).foldl pushDistinct (distinctNonEmpty first) := by
  simp only [distinctNonEmpty, List.filter_append, List.foldl_append, foldl_pushDistinct_foldl,
    List.foldl_nil]

theorem nodup_extractVersions (fragments : List Fragment) : (extractVersions fragments).Nodup :=
  nodup_distinctNonEmpty _

theorem nodup_extractNames (fragments : List Fragment) : (extractNames fragments).Nodup :=
  nodup_distinctNonEmpty _

theorem extractVersions_append (first second : List Fragment) :
    extractVersions (first ++ second) =
      (extractVersions second).foldl pushDistinct (extractVersions first) := by
  simp only [extractVersions, List.filterMap_append, distinctNonEmpty_append]

theorem extractNames_append (first second : List Fragment) :
    extractNames (first ++ second) =
      (extractNames second).foldl pushDistinct (extractNames first) := by
  simp only [extractNames, List.filterMap_append, distinctNonEmpty_append]

/-! ### Clean values -/

/-- Cutting off white space beforehand makes no difference, since it is cut off anyway. -/
theorem normalizeVersion_eq (version : String) :
    normalizeVersion version = Text.trimBy isVersionEnd version := by
  apply Text.trimBy_trimBy_of_imp
  intro c blank
  rw [isVersionEnd, blank, Bool.true_or]

@[simp] theorem normalizeVersion_normalizeVersion (version : String) :
    normalizeVersion (normalizeVersion version) = normalizeVersion version := by
  rw [normalizeVersion_eq, normalizeVersion_eq, Text.trimBy_trimBy]

/-- A version is cut off at both ends as far as can be, and is left as it is in between: there is one
way to take it apart into what is cut off in front, what stays, and what is cut off behind. So
nothing more is cut off a second time, and what is put around a version to be cut off makes no
difference. -/
theorem normalizeVersion_trimmed (version : String) :
    (∃ front back, Text.Trimmed isVersionEnd version front (normalizeVersion version) back ∧
      ∀ front' middle' back', Text.Trimmed isVersionEnd version front' middle' back' →
        front' = front ∧ middle' = normalizeVersion version ∧ back' = back) ∧
    normalizeVersion (normalizeVersion version) = normalizeVersion version ∧
    ∀ front back : String, (∀ c ∈ front.toList, isVersionEnd c) →
      (∀ c ∈ back.toList, isVersionEnd c) →
      normalizeVersion (front ++ version ++ back) = normalizeVersion version := by
  refine ⟨?_, normalizeVersion_normalizeVersion version, ?_⟩
  · obtain ⟨front, back, parts⟩ := Text.exists_trimmed isVersionEnd version
    rw [← normalizeVersion_eq] at parts
    refine ⟨front, back, parts, ?_⟩
    intro front' middle' back' others
    exact parts.unique others
  · intro front back before behind
    rw [normalizeVersion_eq, normalizeVersion_eq, Text.trimBy_append isVersionEnd before behind]

theorem normalizeVersion_trimmed_mixed :
    (∀ c ∈ "\u3000 -".toList, isVersionEnd c) ∧ (∀ c ∈ "_ .".toList, isVersionEnd c) ∧
      normalizeVersion ("\u3000 -" ++ "1.0 beta" ++ "_ .") = normalizeVersion "1.0 beta" := by
  have before : ∀ c ∈ "\u3000 -".toList, isVersionEnd c := List.all_eq_true.mp (by decide)
  have behind : ∀ c ∈ "_ .".toList, isVersionEnd c := List.all_eq_true.mp (by decide)
  exact ⟨before, behind, (normalizeVersion_trimmed "1.0 beta").2.2 "\u3000 -" "_ ." before behind⟩

/-- Versions found in fields are normalized, and none is empty. -/
theorem normalized_of_mem_extractVersions {fragments : List Fragment} {version : String}
    (found : version ∈ extractVersions fragments) :
    normalizeVersion version = version ∧ version ≠ "" := by
  obtain ⟨candidate, inhabited⟩ := mem_distinctNonEmpty.mp found
  obtain ⟨fragment, -, extracted⟩ := List.mem_filterMap.mp candidate
  obtain ⟨text, -, rfl⟩ := Option.map_eq_some_iff.mp extracted
  exact ⟨normalizeVersion_normalizeVersion text, inhabited⟩

/-- Names found in fields have no white space at their ends, and none is empty. -/
theorem trimmed_of_mem_extractNames {fragments : List Fragment} {name : String}
    (found : name ∈ extractNames fragments) : Text.trim name = name ∧ name ≠ "" := by
  obtain ⟨candidate, inhabited⟩ := mem_distinctNonEmpty.mp found
  obtain ⟨fragment, -, extracted⟩ := List.mem_filterMap.mp candidate
  obtain ⟨text, -, rfl⟩ := Option.map_eq_some_iff.mp extracted
  exact ⟨Text.trim_trim text, inhabited⟩

/-! ### What one fragment shows -/

/-- A fragment shows the version that is left of its text. -/
def Fragment.ShowsVersion (fragment : Fragment) (version : String) : Prop :=
  ∃ text, fragment.text = some text ∧ normalizeVersion text = version

/-- A fragment shows the name that its matcher declares, or else the text that was found. -/
def Fragment.ShowsName (fragment : Fragment) (name : String) : Prop :=
  (∃ declared, fragment.name = some declared ∧ Text.trim declared = name) ∨
    (fragment.name = none ∧ ∃ text, fragment.text = some text ∧ Text.trim text = name)

theorem Fragment.version?_eq_some_iff (fragment : Fragment) (version : String) :
    fragment.version? = some version ↔ fragment.ShowsVersion version :=
  Option.map_eq_some_iff

theorem Fragment.name?_eq_some_iff (fragment : Fragment) (name : String) :
    fragment.name? = some name ↔ fragment.ShowsName name := by
  rcases fragment with ⟨matcher, text, declared⟩
  cases declared with
  | none => simp [name?, ShowsName]
  | some declared => simp [name?, ShowsName]

/-! ### What a list of fragments shows -/

section

variable {shows : Fragment → String → Prop} {fragments : List Fragment} {earlier later : String}

/-- Some front part of the fragments shows the one value and not yet the other. -/
def ShownBefore (shows : Fragment → String → Prop) (fragments : List Fragment)
    (earlier later : String) : Prop :=
  ∃ front, front <+: fragments ∧ (∃ fragment ∈ front, shows fragment earlier) ∧
    ∀ fragment ∈ front, ¬ shows fragment later

/-- The values that fragments show, apart from the empty one, in the order in which they are shown
first. -/
structure ListsShown (shows : Fragment → String → Prop) (fragments : List Fragment)
    (values : List String) : Prop where
  distinct : values.Nodup
  inhabited : "" ∉ values
  shown : ∀ value, value ∈ values ↔ value ≠ "" ∧ ∃ fragment ∈ fragments, shows fragment value
  ordered : values.Pairwise (ShownBefore shows fragments)

theorem ShownBefore.append (before : ShownBefore shows fragments earlier later)
    (further : List Fragment) : ShownBefore shows (fragments ++ further) earlier later := by
  obtain ⟨front, part, early, late⟩ := before
  exact ⟨front, part.trans (List.prefix_append fragments further), early, late⟩

/-- Of two front parts one is the longer, and it shows all that the other shows. -/
theorem ShownBefore.asymm (before : ShownBefore shows fragments earlier later) :
    ¬ ShownBefore shows fragments later earlier := by
  rintro ⟨other, otherPart, ⟨fragment, member, shown⟩, unseen⟩
  obtain ⟨front, part, ⟨first, firstMember, firstShown⟩, late⟩ := before
  rcases List.prefix_or_prefix_of_prefix part otherPart with shorter | longer
  · exact unseen first (shorter.subset firstMember) firstShown
  · exact late fragment (longer.subset member) shown

theorem ListsShown.nil (shows : Fragment → String → Prop) : ListsShown shows [] [] where
  distinct := List.nodup_nil
  inhabited := List.not_mem_nil
  shown := by simp
  ordered := List.Pairwise.nil

/-- A fragment that shows nothing, or the empty value, leaves the list as it is. -/
theorem ListsShown.skip {values : List String} (listed : ListsShown shows fragments values)
    {fragment : Fragment} (idle : ∀ value, shows fragment value → value = "") :
    ListsShown shows (fragments ++ [fragment]) values where
  distinct := listed.distinct
  inhabited := listed.inhabited
  shown := by
    intro value
    rw [listed.shown]
    refine and_congr_right fun inhabited => ?_
    have unseen : ¬ shows fragment value := fun shown => inhabited (idle value shown)
    simp [or_and_right, exists_or, unseen]
  ordered := listed.ordered.imp fun before => before.append [fragment]

/-- The value of one more fragment stands behind the others unless it is among them. -/
theorem ListsShown.push {values : List String} (listed : ListsShown shows fragments values)
    {fragment : Fragment} {value : String} (inhabited : value ≠ "")
    (only : ∀ other, shows fragment other ↔ other = value) :
    ListsShown shows (fragments ++ [fragment]) (pushDistinct values value) where
  distinct := nodup_pushDistinct listed.distinct value
  inhabited := by
    rw [mem_pushDistinct, not_or]
    exact ⟨listed.inhabited, inhabited.symm⟩
  shown := by
    intro other
    rw [mem_pushDistinct, listed.shown]
    simp only [List.mem_append, List.mem_singleton, or_and_right, exists_or, exists_eq_left, only,
      and_or_left]
    refine or_congr_right ⟨?_, And.right⟩
    rintro rfl
    exact ⟨inhabited, rfl⟩
  ordered := by
    have earlier := listed.ordered.imp fun before => before.append [fragment]
    by_cases known : value ∈ values
    · rwa [pushDistinct_of_mem known]
    · rw [pushDistinct_of_not_mem known]
      refine List.pairwise_append.mpr ⟨earlier, List.pairwise_singleton _ _, ?_⟩
      intro first member last same
      rw [List.mem_singleton.mp same]
      -- the fragments before the new one show every value that is listed, and not the new one
      refine ⟨fragments, List.prefix_append _ _, ((listed.shown first).mp member).2, ?_⟩
      intro other inFront shown
      exact known ((listed.shown value).mpr ⟨inhabited, other, inFront, shown⟩)

/-- Values and their order are fixed by what the fragments show. -/
theorem ListsShown.unique {values others : List String} (first : ListsShown shows fragments values)
    (second : ListsShown shows fragments others) : values = others := by
  have same : values.Perm others := by
    refine (List.perm_ext_iff_of_nodup first.distinct second.distinct).mpr ?_
    intro value
    rw [first.shown, second.shown]
  refine same.eq_of_pairwise ?_ first.ordered second.ordered
  intro _ _ _ _ before after
  exact absurd after before.asymm

end

/-! ### Extraction -/

/-- An extraction lists what fragments show. Of further fragments, what is new stands behind; so
what pieces show can be extracted from each and added value by value. -/
structure ExtractsShown (shows : Fragment → String → Prop)
    (extract : List Fragment → List String) : Prop where
  eq_iff : ∀ fragments values, extract fragments = values ↔ ListsShown shows fragments values
  append : ∀ first second, extract (first ++ second) =
    extract first ++ (extract second).filter (· ∉ extract first)
  pieces : ∀ (first : List Fragment) (pieces : List (List Fragment)),
    extract (first ++ pieces.flatten) =
      pieces.foldl (fun values piece => (extract piece).foldl pushDistinct values) (extract first)

theorem listsShown_distinctNonEmpty {shows : Fragment → String → Prop}
    {candidate? : Fragment → Option String}
    (reads : ∀ fragment value, candidate? fragment = some value ↔ shows fragment value)
    (fragments : List Fragment) :
    ListsShown shows fragments (distinctNonEmpty (fragments.filterMap candidate?)) := by
  -- values are added behind, so the induction takes the fragments from the end
  induction fragments using List.reverseRecOn with
  | nil => exact ListsShown.nil shows
  | append_singleton front fragment listed =>
    rw [List.filterMap_append, distinctNonEmpty_append]
    cases candidate : candidate? fragment with
    | none =>
      rw [List.filterMap_cons_none candidate]
      apply listed.skip
      intro value shown
      rw [← reads, candidate] at shown
      cases shown
    | some value =>
      rw [List.filterMap_cons_some candidate, List.filterMap_nil]
      have only (other : String) : shows fragment other ↔ other = value := by
        rw [← reads, candidate, Option.some_inj, eq_comm]
      by_cases blank : value = ""
      · subst blank
        exact listed.skip fun other => (only other).mp
      · rw [distinctNonEmpty_singleton blank]
        exact listed.push blank only

theorem extractsShown_distinctNonEmpty {shows : Fragment → String → Prop}
    {candidate? : Fragment → Option String}
    (reads : ∀ fragment value, candidate? fragment = some value ↔ shows fragment value) :
    ExtractsShown shows fun fragments => distinctNonEmpty (fragments.filterMap candidate?) where
  eq_iff := by
    intro fragments values
    have listed := listsShown_distinctNonEmpty reads fragments
    constructor
    · rintro rfl
      exact listed
    · exact listed.unique
  append := by
    intro first second
    rw [List.filterMap_append, distinctNonEmpty_append,
      foldl_pushDistinct_eq_append_filter (nodup_distinctNonEmpty _)]
  pieces := by
    intro first pieces
    induction pieces generalizing first with
    | nil => rw [List.flatten_nil, List.append_nil, List.foldl_nil]
    | cons piece rest ih =>
      rw [List.flatten_cons, ← List.append_assoc, ih, List.foldl_cons, List.filterMap_append,
        distinctNonEmpty_append]

/-- Versions and names are listed as fragments show them, whether they are extracted at once or
piece by piece. -/
theorem extracted_as_first_shown :
    ExtractsShown Fragment.ShowsVersion extractVersions ∧
      ExtractsShown Fragment.ShowsName extractNames :=
  ⟨extractsShown_distinctNonEmpty Fragment.version?_eq_some_iff,
    extractsShown_distinctNonEmpty Fragment.name?_eq_some_iff⟩

example :
    extractNames [⟨0, some "ignored", some "forms"⟩, ⟨1, some " gallery ", none⟩,
      ⟨1, some " ", none⟩, ⟨2, some "forms", none⟩] = ["forms", "gallery"] := by
  decide

end Fingerprint
