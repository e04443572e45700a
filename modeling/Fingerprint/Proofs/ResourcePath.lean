import Mathlib
import Fingerprint.Proofs.Text
import Fingerprint.Transaction.Scripts

/-!
What a query or a fragment changes of the kind of a resource.

The path of an address ends at the first question mark or number sign, and whatever reads an address
stops there at the latest. So what follows decides nothing, but that it follows does: control
characters and spaces are passed over at the ends of an address only, and in front of a query they
are a part of the path. Tabs and line breaks are passed over everywhere.
-/

set_option autoImplicit false

namespace Fingerprint

namespace Url

/-- Whether a query or a fragment begins with a character. -/
def isMark (c : Char) : Bool := c = '?' || c = '#'

/-- Whether a character counts wherever it stands in an address. -/
def counts (c : Char) : Bool := !(c = '\t' || c = '\n' || c = '\r')

/-- Whether an address ends in a control character or in a space, apart from tabs and line
breaks. -/
def isPadded (text : String) : Bool := (text.toList.filter counts).getLast?.any isControlOrSpace

/-- The path that the characters of an absolute and valid address denote. -/
def pathOf? (chars : List Char) : Option String := do
  let (scheme, rest) ← splitScheme? chars
  match kindOfScheme scheme, rest with
  | .special, rest =>
    SchemeKind.special.pathAfterAuthority? (rest.dropWhile SchemeKind.special.isSlash)
  | .file, rest => filePath? rest
  | .other, '/' :: '/' :: rest => SchemeKind.other.pathAfterAuthority? rest
  | .other, '/' :: rest => return SchemeKind.other.hierarchicalPath ('/' :: rest)
  | .other, rest => return String.ofList (percentEncode keepsInOpaquePath (beforeQuery rest))

theorem path?_eq (text : String) : path? text = pathOf? (significant text) := rfl

theorem significant_eq (text : String) :
    significant text = (Text.trimList isControlOrSpace text.toList).filter counts := rfl

theorem eq_of_isMark {mark : Char} (marked : isMark mark) : mark = '?' ∨ mark = '#' := by
  simpa only [isMark, Bool.or_eq_true, decide_eq_true_eq] using marked

/-! ### What stands behind a mark -/

section Marked

variable (front tail : List Char) {mark : Char}

theorem takeWhile_stopped (within : Char → Bool) (stops : within mark = false) :
    (front ++ mark :: tail).takeWhile within = front.takeWhile within := by
  induction front with
  | nil => simp [stops]
  | cons c rest ih => cases inside : within c <;> simp [inside, ih]

theorem dropWhile_stopped (within : Char → Bool) (stops : within mark = false) :
    (front ++ mark :: tail).dropWhile within = front.dropWhile within ++ mark :: tail := by
  induction front with
  | nil => simp [stops]
  | cons c rest ih => cases inside : within c <;> simp [inside, ih]

variable (marked : isMark mark)

include marked

theorem isSlash_of_isMark (kind : SchemeKind) : kind.isSlash mark = false := by
  rcases eq_of_isMark marked with rfl | rfl
  · cases kind <;> rfl
  · cases kind <;> rfl

theorem endsAuthority_of_isMark (kind : SchemeKind) : kind.endsAuthority mark = true := by
  rcases eq_of_isMark marked with rfl | rfl
  · cases kind <;> rfl
  · cases kind <;> rfl

theorem beforeQuery_marked : beforeQuery (front ++ mark :: tail) = beforeQuery front := by
  have stops : (!(mark = '?' || mark = '#')) = false := by
    rw [← isMark, marked]
    rfl
  exact takeWhile_stopped front tail (fun c => !(c = '?' || c = '#')) stops

theorem hierarchicalPath_marked (kind : SchemeKind) :
    kind.hierarchicalPath (front ++ mark :: tail) = kind.hierarchicalPath front := by
  rw [SchemeKind.hierarchicalPath, beforeQuery_marked front tail marked,
    SchemeKind.hierarchicalPath]

theorem authority_marked (kind : SchemeKind) :
    (front ++ mark :: tail).takeWhile (!kind.endsAuthority ·) =
        front.takeWhile (!kind.endsAuthority ·) ∧
      (front ++ mark :: tail).dropWhile (!kind.endsAuthority ·) =
        front.dropWhile (!kind.endsAuthority ·) ++ mark :: tail := by
  have stops : (!kind.endsAuthority mark) = false := by
    rw [endsAuthority_of_isMark marked kind]
    rfl
  exact ⟨takeWhile_stopped front tail (!kind.endsAuthority ·) stops,
    dropWhile_stopped front tail (!kind.endsAuthority ·) stops⟩

theorem pathAfterAuthority?_marked (kind : SchemeKind) :
    kind.pathAfterAuthority? (front ++ mark :: tail) = kind.pathAfterAuthority? front := by
  obtain ⟨same, behind⟩ := authority_marked front tail marked kind
  rw [SchemeKind.pathAfterAuthority?, same, behind, hierarchicalPath_marked _ _ marked,
    SchemeKind.pathAfterAuthority?]

theorem filePath?_marked : filePath? (front ++ mark :: tail) = filePath? front := by
  have noSlash := isSlash_of_isMark marked .file
  have whole := hierarchicalPath_marked front tail marked .file
  -- Two slashes come before a host, and a mark is no slash.
  rcases front with _ | ⟨first, _ | ⟨second, rest⟩⟩
  · cases tail with
    | nil => exact congrArg some whole
    | cons second rest =>
      rw [List.nil_append, filePath?, noSlash, Bool.false_and, if_neg Bool.false_ne_true]
      exact congrArg some whole
  · rw [List.singleton_append, filePath?, noSlash, Bool.and_false, if_neg Bool.false_ne_true]
    exact congrArg some whole
  · obtain ⟨same, behind⟩ := authority_marked rest tail marked .file
    simp only [List.cons_append] at whole ⊢
    simp only [filePath?, same, behind, hierarchicalPath_marked _ _ marked, whole]

theorem splitScheme?_marked :
    splitScheme? (front ++ mark :: tail) =
      (splitScheme? front).map fun split => (split.1, split.2 ++ mark :: tail) := by
  have noColon : mark ≠ ':' := by
    rintro rfl
    exact absurd marked (by decide)
  simp only [splitScheme?]
  generalize isWithin : (fun c : Char => c.isAlphanum || c = '+' || c = '-' || c = '.') = within
  have stops : within mark = false := by
    subst isWithin
    rcases eq_of_isMark marked with rfl | rfl
    · rfl
    · rfl
  rw [takeWhile_stopped front tail within stops, dropWhile_stopped front tail within stops]
  cases front.takeWhile within with
  | nil => simp
  | cons first scheme =>
    rcases front.dropWhile within with _ | ⟨colon, rest⟩
    · simp [noColon]
    · by_cases isColon : colon = ':'
      · subst isColon
        by_cases letter : first.isAlpha
        · simp [letter]
        · simp [letter]
      · simp [isColon]

/-- The path does not depend on what stands behind a mark. -/
theorem pathOf?_marked : pathOf? (front ++ mark :: tail) = pathOf? front := by
  have noSlash : mark ≠ '/' := by
    rintro rfl
    exact absurd marked (by decide)
  rw [pathOf?, splitScheme?_marked front tail marked, pathOf?]
  cases splitScheme? front with
  | none => rfl
  | some split =>
    obtain ⟨scheme, rest⟩ := split
    simp only [Option.map_some, Option.bind_eq_bind, Option.bind_some]
    cases kindOfScheme scheme with
    | special =>
      simp only [dropWhile_stopped rest tail _ (isSlash_of_isMark marked _),
        pathAfterAuthority?_marked _ _ marked]
    | file => exact filePath?_marked rest tail marked
    | other =>
      have opaquePath := beforeQuery_marked rest tail marked
      have fromSlash := hierarchicalPath_marked rest tail marked .other
      rcases rest with _ | ⟨first, _ | ⟨second, rest⟩⟩
      · simp only [List.nil_append] at opaquePath ⊢
        simp [noSlash, opaquePath]
      · simp only [List.singleton_append] at opaquePath fromSlash ⊢
        by_cases slash : first = '/'
        · subst slash
          simp [noSlash, fromSlash]
        · simp [slash, opaquePath]
      · simp only [List.cons_append] at opaquePath fromSlash ⊢
        by_cases slash : first = '/'
        · subst slash
          by_cases double : second = '/'
          · subst double
            exact pathAfterAuthority?_marked rest tail marked .other
          · simp [double, fromSlash]
        · simp [slash, opaquePath]

end Marked

/-! ### The characters that count -/

/-- The characters that count of an address whose end is kept. -/
def counted (text : String) : List Char := (text.toList.dropWhile isControlOrSpace).filter counts

/-- Behind a mark the end of what stands before it is kept. -/
theorem significant_marked {url suffix : String} (marked : suffix.toList.head?.any isMark) :
    ∃ mark tail, isMark mark ∧ significant (url ++ suffix) = counted url ++ mark :: tail := by
  cases read : suffix.toList with
  | nil =>
    rw [read] at marked
    cases marked
  | cons mark rest =>
    have isMark : isMark mark := by simpa [read] using marked
    have shown : isControlOrSpace mark = false := by
      rcases eq_of_isMark isMark with rfl | rfl
      · rfl
      · rfl
    have counting : counts mark := by
      rcases eq_of_isMark isMark with rfl | rfl
      · rfl
      · rfl
    refine ⟨mark, ((rest.reverse.dropWhile isControlOrSpace).reverse).filter counts, isMark, ?_⟩
    rw [significant_eq, String.toList_append, read, Text.trimList,
      dropWhile_stopped _ _ _ shown, List.reverse_append, List.reverse_cons, List.append_assoc,
      List.singleton_append, dropWhile_stopped _ _ _ shown, List.reverse_append,
      List.reverse_cons, List.reverse_reverse, List.append_assoc, List.singleton_append,
      List.filter_append, List.filter_cons_of_pos counting, counted]

/-- The characters that count end as all characters do but for tabs and line breaks. -/
theorem isPadded_of_getLast?_counted {text : String} {c : Char}
    (last : (counted text).getLast? = some c) : isPadded text = isControlOrSpace c := by
  have split := List.takeWhile_append_dropWhile (p := isControlOrSpace) (l := text.toList)
  rw [isPadded, ← split, List.filter_append, List.getLast?_append]
  change Option.any _ ((counted text).getLast?.or _) = _
  rw [last]
  rfl

/-- An address that is not padded ends where it ends in front of a query. -/
theorem significant_of_not_padded {text : String} (plain : isPadded text = false) :
    significant text = counted text := by
  have split := List.takeWhile_append_dropWhile (p := isControlOrSpace)
    (l := (text.toList.dropWhile isControlOrSpace).reverse)
  generalize isPad : ((text.toList.dropWhile isControlOrSpace).reverse.takeWhile
    isControlOrSpace).reverse = pad
  have whole : counted text = significant text ++ pad.filter counts := by
    rw [significant_eq, Text.trimList, ← isPad, ← List.filter_append, ← List.reverse_append, split,
      List.reverse_reverse, counted]
  have nothing : pad.filter counts = [] := by
    by_contra inhabited
    have last := List.getLast?_eq_some_getLast inhabited
    have controls := List.getLast_mem inhabited
    generalize (pad.filter counts).getLast inhabited = c at last controls
    have blank : isControlOrSpace c := by
      have member := (List.mem_filter.mp controls).1
      rw [← isPad, List.mem_reverse] at member
      exact List.mem_takeWhile_imp member
    have ends : (counted text).getLast? = some c := by
      rw [whole, List.getLast?_append, last]
      rfl
    rw [isPadded_of_getLast?_counted ends, blank] at plain
    cases plain
  rw [whole, nothing, List.append_nil]

/-! ### Paths that end in a control character -/

theorem suffix_of_splitScheme? {chars rest : List Char} {scheme : String}
    (split : splitScheme? chars = some (scheme, rest)) : rest <:+ chars := by
  simp only [splitScheme?] at split
  split at split
  · rename_i behind
    split at split
    · cases split
      refine .trans (List.suffix_cons ':' rest) ?_
      rw [← behind]
      exact List.dropWhile_suffix _
    · cases split
  · cases split

theorem eq_of_pathAfterAuthority? {kind : SchemeKind} {chars : List Char} {path : String}
    (found : kind.pathAfterAuthority? chars = some path) :
    ∃ rest, rest <:+ chars ∧ path = kind.hierarchicalPath rest := by
  rw [SchemeKind.pathAfterAuthority?] at found
  split at found
  · cases found
    exact ⟨_, List.dropWhile_suffix _, rfl⟩
  · cases found

theorem eq_of_filePath? {chars : List Char} {path : String} (found : filePath? chars = some path) :
    ∃ rest, rest <:+ chars ∧ path = SchemeKind.file.hierarchicalPath rest := by
  rcases chars with _ | ⟨first, _ | ⟨second, rest⟩⟩
  · exact ⟨_, List.suffix_rfl, (Option.some.inj found).symm⟩
  · exact ⟨_, List.suffix_rfl, (Option.some.inj found).symm⟩
  · have inside : rest <:+ first :: second :: rest :=
      (List.suffix_cons second rest).trans (List.suffix_cons first _)
    simp only [filePath?] at found
    split at found
    · split at found
      · exact ⟨_, inside, (Option.some.inj found).symm⟩
      · split at found
        · exact ⟨_, (List.dropWhile_suffix _).trans inside, (Option.some.inj found).symm⟩
        · cases found
    · exact ⟨_, List.suffix_rfl, (Option.some.inj found).symm⟩

/-- The path of an address is made of an end of its characters. -/
theorem eq_of_pathOf? {chars : List Char} {path : String} (found : pathOf? chars = some path) :
    ∃ rest, rest <:+ chars ∧ ((∃ kind : SchemeKind, path = kind.hierarchicalPath rest) ∨
      path = String.ofList (percentEncode keepsInOpaquePath (beforeQuery rest))) := by
  obtain ⟨⟨scheme, rest⟩, split, found⟩ := Option.bind_eq_some_iff.mp found
  have ends := suffix_of_splitScheme? split
  cases isKind : kindOfScheme scheme with
  | special =>
    simp only [isKind] at found
    obtain ⟨behind, suffix, rfl⟩ := eq_of_pathAfterAuthority? found
    exact ⟨behind, suffix.trans ((List.dropWhile_suffix _).trans ends), .inl ⟨_, rfl⟩⟩
  | file =>
    simp only [isKind] at found
    obtain ⟨behind, suffix, rfl⟩ := eq_of_filePath? found
    exact ⟨behind, suffix.trans ends, .inl ⟨_, rfl⟩⟩
  | other =>
    simp only [isKind] at found
    split at found
    · contradiction
    · contradiction
    · obtain ⟨behind, suffix, rfl⟩ := eq_of_pathAfterAuthority? found
      have inside := (suffix.trans (List.suffix_cons '/' _)).trans (List.suffix_cons '/' _)
      exact ⟨behind, inside.trans ends, .inl ⟨_, rfl⟩⟩
    · exact ⟨_, ends, .inl ⟨_, (Option.some.inj found).symm⟩⟩
    · exact ⟨_, ends, .inr (Option.some.inj found).symm⟩

theorem beforeQuery_of_unmarked {chars : List Char} (plain : ∀ c ∈ chars, isMark c = false) :
    beforeQuery chars = chars :=
  List.takeWhile_eq_self_iff.mpr fun c member => by
    rw [← isMark, plain c member]
    rfl

/-- Whether characters end in a control character or a space, with no query or fragment before. -/
structure EndsBlank (chars : List Char) : Prop where
  unmarked : ∀ c ∈ chars, isMark c = false
  last : ∀ c, chars.getLast? = some c → isControlOrSpace c

theorem EndsBlank.of_suffix {chars rest : List Char} (blank : EndsBlank chars)
    (suffix : rest <:+ chars) : EndsBlank rest := by
  refine ⟨fun c member => blank.unmarked c (suffix.subset member), fun c last => ?_⟩
  obtain ⟨front, rfl⟩ := suffix
  apply blank.last c
  rw [List.getLast?_append, last, Option.some_or]

/-- Whether characters end as a path does in which a control character or a space is written last:
in that character, or in the last digit of its bytes. -/
def EndsEncoded (chars : List Char) : Prop :=
  ∃ c, chars.getLast? = some c ∧ (isControlOrSpace c ∨ ∃ value < 16, c = upperHexDigit value)

theorem endsEncoded_percentEncode (keeps : Char → Bool) (front : List Char) {c : Char}
    (control : isControlOrSpace c) : EndsEncoded (percentEncode keeps (front ++ [c])) := by
  rw [percentEncode, List.flatMap_append, List.flatMap_singleton]
  by_cases kept : keeps c
  · exact ⟨c, by simp [kept], .inl control⟩
  · obtain ⟨bytes, byte, encoded⟩ :=
      List.eq_nil_or_concat' (Text.encodeChar c) |>.resolve_left (Text.encodeChar_ne_nil c)
    refine ⟨upperHexDigit (byte.toNat % 16), ?_, .inr ⟨_, Nat.mod_lt _ (by decide), rfl⟩⟩
    rw [if_neg kept, encoded]
    simp [percentEncodeByte]

theorem ne_of_isControlOrSpace {c : Char} (control : isControlOrSpace c) (visible : Char)
    (shown : isControlOrSpace visible = false) : c ≠ visible := by
  rintro rfl
  rw [control] at shown
  cases shown

theorem isSlash_of_isControlOrSpace {c : Char} (control : isControlOrSpace c) (kind : SchemeKind) :
    kind.isSlash c = false := by
  have noSlash := ne_of_isControlOrSpace control '/' rfl
  have noBackslash := ne_of_isControlOrSpace control '\\' rfl
  simp [SchemeKind.isSlash, noSlash, noBackslash]

theorem toLower_of_isControlOrSpace {c : Char} (control : isControlOrSpace c) : c.toLower = c := by
  have small : c.toNat ≤ 0x20 := of_decide_eq_true control
  rcases Text.toLower_cases c with same | ⟨low, -⟩
  · exact same
  · omega

theorem not_dots_of_isControlOrSpace (front : List Char) {c : Char} (control : isControlOrSpace c) :
    isDoubleDot (front ++ [c]) = false ∧ isSingleDot (front ++ [c]) = false := by
  have last : ((front ++ [c]).map Char.toLower).getLast? = some c := by
    rw [List.map_append, List.map_singleton, toLower_of_isControlOrSpace control,
      List.getLast?_concat]
  simp only [isDoubleDot, isSingleDot]
  generalize (front ++ [c]).map Char.toLower = lowered at last
  -- A dot segment ends in a dot or in the last digit of `%2e`.
  have noDot : lowered.getLast? ≠ some '.' := fun dot =>
    ne_of_isControlOrSpace control '.' rfl (Option.some.inj (last.symm.trans dot))
  have noDigit : lowered.getLast? ≠ some 'e' := fun digit =>
    ne_of_isControlOrSpace control 'e' rfl (Option.some.inj (last.symm.trans digit))
  constructor
  · rw [Bool.eq_false_iff]
    intro dots
    simp only [List.contains_eq_mem, List.mem_cons, List.not_mem_nil, or_false,
      decide_eq_true_eq] at dots
    rcases dots with rfl | rfl | rfl | rfl
    · exact noDot rfl
    · exact noDigit rfl
    · exact noDot rfl
    · exact noDigit rfl
  · rw [Bool.eq_false_iff]
    intro dot
    simp only [Bool.or_eq_true, decide_eq_true_eq] at dot
    rcases dot with rfl | rfl
    · exact noDot rfl
    · exact noDigit rfl

/-- The last segment ends as the path does. -/
theorem segments_concat (kind : SchemeKind) (front : List Char) {c : Char}
    (noSlash : kind.isSlash c = false) :
    ∃ before segment, kind.segments (front ++ [c]) = before ++ [segment ++ [c]] := by
  induction front with
  | nil => exact ⟨[], [], by simp [SchemeKind.segments, noSlash]⟩
  | cons first rest ih =>
    obtain ⟨before, segment, read⟩ := ih
    by_cases slash : kind.isSlash first
    · exact ⟨[] :: before, segment, by simp [SchemeKind.segments, slash, read]⟩
    · cases before with
      | nil => exact ⟨[], first :: segment, by simp [SchemeKind.segments, slash, read]⟩
      | cons next others =>
        exact ⟨(first :: next) :: others, segment, by simp [SchemeKind.segments, slash, read]⟩

/-- A last segment that is no dot segment stays the last one. -/
theorem resolveSegments_concat (resolved before : List (List Char)) {segment : List Char}
    (notDouble : isDoubleDot segment = false) (notSingle : isSingleDot segment = false) :
    ∃ front, resolveSegments resolved (before ++ [segment]) =
      front ++ [percentEncode keepsInPath segment] := by
  induction before generalizing resolved with
  | nil => exact ⟨resolved.reverse, by simp [resolveSegments, notDouble, notSingle]⟩
  | cons first rest ih =>
    rw [List.cons_append, resolveSegments]
    split
    · exact ih _
    · split
      · exact ih _
      · exact ih _

/-- The last segment is no dot segment, so it ends the path. -/
theorem EndsBlank.endsEncoded_hierarchicalPath {chars : List Char} (blank : EndsBlank chars)
    (inhabited : chars ≠ []) (kind : SchemeKind) :
    EndsEncoded (kind.hierarchicalPath chars).toList := by
  obtain ⟨front, c, rfl⟩ := (List.eq_nil_or_concat' chars).resolve_left inhabited
  have control := blank.last c List.getLast?_concat
  have noSlash := isSlash_of_isControlOrSpace control kind
  obtain ⟨start, read⟩ : ∃ start, kind.hierarchicalPath (front ++ [c]) =
      joinSegments (resolveSegments [] (kind.segments (start ++ [c]))) := by
    rw [SchemeKind.hierarchicalPath, beforeQuery_of_unmarked blank.unmarked]
    cases front with
    | nil => exact ⟨[], by simp [noSlash]⟩
    | cons first rest =>
      by_cases slash : kind.isSlash first
      · exact ⟨rest, by simp [slash]⟩
      · exact ⟨first :: rest, by simp [slash]⟩
  obtain ⟨before, segment, parts⟩ := segments_concat kind start noSlash
  obtain ⟨notDouble, notSingle⟩ := not_dots_of_isControlOrSpace segment control
  obtain ⟨resolved, path⟩ := resolveSegments_concat [] before notDouble notSingle
  obtain ⟨last, ends, encoded⟩ := endsEncoded_percentEncode keepsInPath segment control
  refine ⟨last, ?_, encoded⟩
  rw [read, parts, path, joinSegments, String.toList_ofList, List.flatMap_append,
    List.flatMap_singleton, List.getLast?_append, List.getLast?_cons, ends]
  rfl

/-- The characters of a padded address in front of a query end in a control character. -/
theorem EndsBlank.of_isPadded {text : String} (plain : ∀ c ∈ text.toList, isMark c = false)
    (padded : isPadded text) : EndsBlank (counted text) where
  unmarked c member :=
    plain c ((List.dropWhile_suffix _).subset (List.mem_filter.mp member).1)
  last c last := by rw [← isPadded_of_getLast?_counted last, padded]

/-- Tabs and line breaks are control characters, so a padded text ends in one whatever its last
character is. -/
theorem getLast?_of_isPadded {text : String} (padded : isPadded text) {c : Char}
    (last : text.toList.getLast? = some c) : isControlOrSpace c := by
  obtain ⟨front, read⟩ := List.getLast?_eq_some_iff.mp last
  by_cases counting : counts c
  · rw [isPadded, read, List.filter_append, List.filter_singleton, counting] at padded
    simpa using padded
  · have broken : c = '\t' ∨ c = '\n' ∨ c = '\r' := by
      simp only [counts, Bool.not_eq_true', Bool.or_eq_true,
        decide_eq_true_eq, Bool.not_eq_false, or_assoc] at counting
      exact counting
    rcases broken with rfl | rfl | rfl
    · rfl
    · rfl
    · rfl

end Url

namespace Transaction

open Url

theorem isLetter_upperHexDigit {value : Nat} (digit : value < 16) :
    isLetter 's' (upperHexDigit value) = false := by
  revert value
  decide

theorem isLetter_of_isControlOrSpace {c : Char} (control : isControlOrSpace c) :
    isLetter 's' c = false := by
  have noLetter := ne_of_isControlOrSpace control 's' rfl
  have noLongLetter := ne_of_isControlOrSpace control 'ſ' rfl
  simp [isLetter, toLower_of_isControlOrSpace control, noLetter, noLongLetter]

theorem not_isScriptPath {path : String}
    (other : ∀ c, path.toList.getLast? = some c → isLetter 's' c = false) :
    isScriptPath path = false := by
  rw [List.getLast?_eq_head?_reverse] at other
  rw [isScriptPath]
  generalize path.toList.reverse = chars at other
  rcases chars with _ | ⟨last, _ | ⟨second, rest⟩⟩
  · rfl
  · rfl
  · simp [other last rfl]

theorem not_isScriptPath_of_endsEncoded {path : String} (encoded : EndsEncoded path.toList) :
    isScriptPath path = false := by
  obtain ⟨last, ends, kind⟩ := encoded
  apply not_isScriptPath
  intro c isLast
  cases isLast.symm.trans ends
  rcases kind with control | ⟨value, digit, rfl⟩
  · exact isLetter_of_isControlOrSpace control
  · exact isLetter_upperHexDigit digit

/-- No address of which a control character is kept at the end of the path names a script. -/
theorem not_isScriptPath_of_endsBlank {chars : List Char} {path : String} (blank : EndsBlank chars)
    (found : pathOf? chars = some path) : isScriptPath path = false := by
  obtain ⟨rest, suffix, ⟨kind, rfl⟩ | rfl⟩ := eq_of_pathOf? found
  · by_cases inhabited : rest = []
    · subst inhabited
      cases kind
      · rfl
      · rfl
      · rfl
    · exact not_isScriptPath_of_endsEncoded
        ((blank.of_suffix suffix).endsEncoded_hierarchicalPath inhabited kind)
  · rw [beforeQuery_of_unmarked (blank.of_suffix suffix).unmarked]
    rcases List.eq_nil_or_concat' rest with rfl | ⟨front, c, rfl⟩
    · rfl
    · have control := (blank.of_suffix suffix).last c List.getLast?_concat
      apply not_isScriptPath_of_endsEncoded
      rw [String.toList_ofList]
      exact endsEncoded_percentEncode _ front control

/-! ### The path of a resource -/

section Suffix

variable {url suffix : String} (plain : ∀ c ∈ url.toList, isMark c = false)

include plain

theorem resourcePath_plain : resourcePath url = (pathOf? (significant url)).getD url := by
  rw [resourcePath, path?_eq, beforeQuery_of_unmarked plain, String.ofList_toList]

/-- Behind an address a query or a fragment is passed over, but the end of the address is kept. -/
theorem resourcePath_append (marked : suffix.toList.head?.any isMark) :
    resourcePath (url ++ suffix) = (pathOf? (counted url)).getD url := by
  obtain ⟨mark, tail, isMark, read⟩ := @significant_marked url suffix marked
  obtain ⟨first, rest, begins⟩ : ∃ first rest, suffix.toList = first :: rest := by
    cases begins : suffix.toList with
    | nil => simp [begins] at marked
    | cons first rest => exact ⟨first, rest, rfl⟩
  rw [begins] at marked
  rw [resourcePath, path?_eq, read, pathOf?_marked _ _ isMark, String.toList_append, begins,
    beforeQuery_marked _ _ marked, beforeQuery_of_unmarked plain, String.ofList_toList]

/-- An address that is not padded names what it names in front of a query or a fragment. -/
theorem resourcePath_append_of_not_padded (marked : suffix.toList.head?.any isMark)
    (tight : isPadded url = false) : resourcePath (url ++ suffix) = resourcePath url := by
  rw [resourcePath_append plain marked, resourcePath_plain plain, significant_of_not_padded tight]

/-- In front of a query or a fragment a padded address does not name a script. -/
theorem not_isScriptPath_append (marked : suffix.toList.head?.any isMark)
    (padded : isPadded url) : isScriptPath (resourcePath (url ++ suffix)) = false := by
  rw [resourcePath_append plain marked]
  cases found : pathOf? (counted url) with
  | some path => exact not_isScriptPath_of_endsBlank (.of_isPadded plain padded) found
  | none =>
    rw [Option.getD_none]
    exact not_isScriptPath fun c last =>
      isLetter_of_isControlOrSpace (getLast?_of_isPadded padded last)

end Suffix

/-! ### The scripts of a transaction -/

/-- Whether the address of a response tells that it is a script. -/
def namesScript (url : Option String) : Bool := url.any fun url => isScriptPath (resourcePath url)

/-- An address matters for what it names. -/
theorem scriptSources_of_namesScript (transaction : Transaction) {url other : Option String}
    (same : namesScript url = namesScript other) (maxBytes : Nat) :
    scriptSources { transaction with url := url } maxBytes =
      scriptSources { transaction with url := other } maxBytes := by
  simp only [namesScript] at same
  simp only [scriptSources, isScriptResponse, header?, same]
  rfl

/-- A query or a fragment does not change the blocks of a transaction, unless it follows an address
of a script that ends in a control character or in a space. Such an end is passed over only where
the whole address ends; as the end of a path it makes another path, and the blocks are those of a
transaction without an address. -/
theorem scriptSources_withUrl_append (transaction : Transaction) {url suffix : String}
    (plain : ∀ c ∈ url.toList, isMark c = false) (marked : suffix.toList.head?.any isMark)
    (maxBytes : Nat) :
    (transaction.withUrl (url ++ suffix)).scriptSources maxBytes =
      if isPadded url ∧ isScriptPath (resourcePath url) then
        scriptSources { transaction with url := none } maxBytes
      else (transaction.withUrl url).scriptSources maxBytes := by
  by_cases padded : isPadded url
  · have other := not_isScriptPath_append plain marked padded
    split
    · apply scriptSources_of_namesScript transaction
      simp [namesScript, other]
    · rename_i kept
      apply scriptSources_of_namesScript transaction
      simpa [namesScript, other, padded] using kept
  · have tight : isPadded url = false := by simpa using padded
    rw [if_neg fun both => padded both.1]
    apply scriptSources_of_namesScript transaction
    simp only [namesScript, Option.any_some,
      resourcePath_append_of_not_padded plain marked tight]

theorem scriptSources_withUrl_append_relative :
    (∀ c ∈ "lib.mjs".toList, isMark c = false) ∧ "?v=3#x.css".toList.head?.any isMark ∧
      ((empty.withBody "1").withUrl ("lib.mjs" ++ "?v=3#x.css")).scriptSources 1 = ["1"] := by
  have plain : ∀ c ∈ "lib.mjs".toList, isMark c = false := by simp [isMark]
  have marked : "?v=3#x.css".toList.head?.any isMark := by cbv
  have tight : isPadded "lib.mjs" = false := by cbv
  have sources : ((empty.withBody "1").withUrl "lib.mjs").scriptSources 1 = ["1"] := by cbv
  have kept : ¬ (isPadded "lib.mjs" ∧ isScriptPath (resourcePath "lib.mjs")) := by simp [tight]
  exact ⟨plain, marked, (scriptSources_withUrl_append (empty.withBody "1") plain marked 1).trans
    ((if_neg kept).trans sources)⟩

/-- The space at the end of the first address is no part of its path, and it is in front of a
query. -/
theorem scriptSources_of_padded :
    ((empty.withBody "1").withUrl "http://[::1]/a.js ").scriptSources 1 = ["1"] ∧
      ((empty.withBody "1").withUrl ("http://[::1]/a.js " ++ "?v")).scriptSources 1 = [] := by
  constructor
  · cbv
  · have plain : ∀ c ∈ "http://[::1]/a.js ".toList, isMark c = false := by simp [isMark]
    have marked : "?v".toList.head?.any isMark := by cbv
    have padded : isPadded "http://[::1]/a.js " := by cbv
    have other := not_isScriptPath_append plain marked padded
    have same : namesScript (some ("http://[::1]/a.js " ++ "?v")) = namesScript none := by
      simp only [namesScript, Option.any_some, other, Option.any_none]
    refine (scriptSources_of_namesScript (empty.withBody "1") same 1).trans ?_
    cbv

end Transaction

end Fingerprint
