import Fingerprint.Text.Utf8
import Fingerprint.Text.Words
import Mathlib.Data.List.DropRight
import Mathlib.Data.List.Infix
import Mathlib.Logic.Basic

/-!
Texts: their bytes, their ends, and the words in them.

The bytes of a text denote the text, and their order is the order of texts. A character of several
bytes has a leading byte that tells their number, and a second byte in the range which the leading
byte allows. The ranges leave out surrogates, which are no characters.

A trimmed list neither begins nor ends with a character to drop, and a list of which this holds is
left as it is, so trimming twice is trimming once.

Letters in lower case are letters, so white space stays what it is when the case of a text is passed
over.
-/

set_option autoImplicit false

namespace Fingerprint.Text

/-! ### The order of texts -/

theorem byte_cons_lt {first second : Nat} {firstRest secondRest : List UInt8}
    (bound : second < 0x100) (before : first < second ∨ first = second ∧ firstRest < secondRest) :
    UInt8.ofNat first :: firstRest < UInt8.ofNat second :: secondRest := by
  rw [List.cons_lt_cons_iff]
  rcases before with smaller | ⟨same, rest⟩
  · refine .inl (UInt8.lt_iff_toNat_lt.mpr ?_)
    rw [UInt8.toNat_ofNat_of_lt' (Nat.lt_trans smaller bound), UInt8.toNat_ofNat_of_lt' bound]
    exact smaller
  · exact .inr ⟨congrArg UInt8.ofNat same, rest⟩

section

variable {first second : Nat} {firstRest secondRest : List UInt8} (smaller : first < second)

include smaller

theorem last_byte_lt (same : first / 0x40 = second / 0x40) :
    UInt8.ofNat (0x80 + first % 0x40) :: firstRest <
      UInt8.ofNat (0x80 + second % 0x40) :: secondRest :=
  byte_cons_lt (by omega) (.inl (by omega))

theorem last_two_bytes_lt (same : first / 0x1000 = second / 0x1000) :
    UInt8.ofNat (0x80 + first / 0x40 % 0x40) :: UInt8.ofNat (0x80 + first % 0x40) :: firstRest <
      UInt8.ofNat (0x80 + second / 0x40 % 0x40) ::
        UInt8.ofNat (0x80 + second % 0x40) :: secondRest := by
  refine byte_cons_lt (by omega) ?_
  by_cases upper : first / 0x40 = second / 0x40
  · exact .inr ⟨by omega, last_byte_lt smaller upper⟩
  · exact .inl (by omega)

theorem last_three_bytes_lt (same : first / 0x40000 = second / 0x40000) :
    UInt8.ofNat (0x80 + first / 0x1000 % 0x40) :: UInt8.ofNat (0x80 + first / 0x40 % 0x40) ::
        UInt8.ofNat (0x80 + first % 0x40) :: firstRest <
      UInt8.ofNat (0x80 + second / 0x1000 % 0x40) :: UInt8.ofNat (0x80 + second / 0x40 % 0x40) ::
        UInt8.ofNat (0x80 + second % 0x40) :: secondRest := by
  refine byte_cons_lt (by omega) ?_
  by_cases upper : first / 0x1000 = second / 0x1000
  · exact .inr ⟨by omega, last_two_bytes_lt smaller upper⟩
  · exact .inl (by omega)

end

/-- A greater character has a greater first byte, or the same one and greater bytes behind it. -/
theorem encodeChar_append_lt {first second : Char} (smaller : first < second)
    (firstRest secondRest : List UInt8) :
    encodeChar first ++ firstRest < encodeChar second ++ secondRest := by
  have codes : first.toNat < second.toNat := smaller
  have bound : second.toNat < 0x110000 := by
    have valid := second.valid
    simp only [UInt32.isValidChar, Nat.isValidChar] at valid
    change second.val.toNat < 0x110000
    omega
  simp only [encodeChar]
  generalize first.toNat = first at codes
  generalize second.toNat = second at codes bound
  -- By the number of bytes of the smaller character; the greater one has at least as many.
  by_cases one : first < 0x80
  · rw [if_pos one]
    split
    · exact byte_cons_lt (by omega) (.inl codes)
    · split
      · exact byte_cons_lt (by omega) (.inl (by omega))
      · split
        · exact byte_cons_lt (by omega) (.inl (by omega))
        · exact byte_cons_lt (by omega) (.inl (by omega))
  · rw [if_neg one, if_neg (show ¬ second < 0x80 by omega)]
    by_cases two : first < 0x800
    · rw [if_pos two]
      split
      · refine byte_cons_lt (by omega) ?_
        by_cases upper : first / 0x40 = second / 0x40
        · exact .inr ⟨by omega, last_byte_lt codes upper⟩
        · exact .inl (by omega)
      · split
        · exact byte_cons_lt (by omega) (.inl (by omega))
        · exact byte_cons_lt (by omega) (.inl (by omega))
    · rw [if_neg two, if_neg (show ¬ second < 0x800 by omega)]
      by_cases three : first < 0x10000
      · rw [if_pos three]
        split
        · refine byte_cons_lt (by omega) ?_
          by_cases upper : first / 0x1000 = second / 0x1000
          · exact .inr ⟨by omega, last_two_bytes_lt codes upper⟩
          · exact .inl (by omega)
        · exact byte_cons_lt (by omega) (.inl (by omega))
      · rw [if_neg three, if_neg (show ¬ second < 0x10000 by omega)]
        refine byte_cons_lt (by omega) ?_
        by_cases upper : first / 0x40000 = second / 0x40000
        · exact .inr ⟨by omega, last_three_bytes_lt codes upper⟩
        · exact .inl (by omega)

theorem encodeChar_ne_nil (c : Char) : encodeChar c ≠ [] := by
  simp only [encodeChar]
  split
  · exact List.cons_ne_nil _ _
  · split
    · exact List.cons_ne_nil _ _
    · split <;> exact List.cons_ne_nil _ _

/-- The smaller of two texts has the smaller bytes. -/
theorem encode_lt_encode {first second : String} (smaller : first < second) :
    encode first < encode second := by
  have ofLists : ∀ first second : List Char, first < second →
      first.flatMap encodeChar < second.flatMap encodeChar := by
    intro first
    induction first with
    | nil =>
      intro second smaller
      cases second with
      | nil => exact absurd smaller (List.not_lt_nil [])
      | cons c rest =>
        obtain ⟨byte, bytes, encoded⟩ := List.exists_cons_of_ne_nil (encodeChar_ne_nil c)
        rw [List.flatMap_nil, List.flatMap_cons, encoded]
        exact List.nil_lt_cons byte _
    | cons c rest ih =>
      intro second smaller
      cases second with
      | nil => exact absurd smaller (List.not_lt_nil _)
      | cons d others =>
        rw [List.flatMap_cons, List.flatMap_cons]
        rcases List.cons_lt_cons_iff.mp smaller with head | ⟨same, tail⟩
        · exact encodeChar_append_lt head _ _
        · exact same ▸ List.append_left_lt (ih others tail)
  exact ofLists first.toList second.toList smaller

/-! ### Reading the bytes of a text -/

theorem isContinuation_ofNat {bits : Nat} (bound : bits < 0x40) :
    isContinuation (UInt8.ofNat (0x80 + bits)) := by
  simp only [isContinuation, UInt8.toNat_ofNat_of_lt' (show 0x80 + bits < 0x100 by omega),
    Bool.and_eq_true, decide_eq_true_eq]
  omega

section

variable {code : Nat}

theorem leading?_of_two (low : 0x80 ≤ code) (high : code < 0x800) :
    leading? (0xC0 + code / 0x40) = some (0x80, 0xBF, 2) := by
  rw [leading?, if_pos (by omega)]

theorem leading?_of_three (low : 0x800 ≤ code) (high : code < 0x10000)
    (scalar : code < 0xD800 ∨ 0xDFFF < code) :
    ∃ least most, leading? (0xE0 + code / 0x1000) = some (least, most, 3) ∧
      least ≤ 0x80 + code / 0x40 % 0x40 ∧ 0x80 + code / 0x40 % 0x40 ≤ most := by
  rw [leading?, if_neg (by omega)]
  split
  · exact ⟨_, _, rfl, by omega⟩
  · split
    · exact ⟨_, _, rfl, by omega⟩
    · rw [if_pos (by omega)]
      exact ⟨_, _, rfl, by omega⟩

theorem leading?_of_four (low : 0x10000 ≤ code) (high : code < 0x110000) :
    ∃ least most, leading? (0xF0 + code / 0x40000) = some (least, most, 4) ∧
      least ≤ 0x80 + code / 0x1000 % 0x40 ∧ 0x80 + code / 0x1000 % 0x40 ≤ most := by
  rw [leading?, if_neg (by omega), if_neg (by omega), if_neg (by omega), if_neg (by omega)]
  split
  · exact ⟨_, _, rfl, by omega⟩
  · split
    · exact ⟨_, _, rfl, by omega⟩
    · rw [if_pos (by omega)]
      exact ⟨_, _, rfl, by omega⟩

theorem piece_of_two (low : 0x80 ≤ code) (high : code < 0x800) (rest : List UInt8) :
    piece (UInt8.ofNat (0xC0 + code / 0x40)) (UInt8.ofNat (0x80 + code % 0x40) :: rest) =
      .char (Char.ofNat code) 2 := by
  have joined : (0xC0 + code / 0x40) % 0x20 * 0x40 + (0x80 + code % 0x40) % 0x40 = code := by omega
  simp only [piece, UInt8.toNat_ofNat_of_lt' (show 0xC0 + code / 0x40 < 0x100 by omega),
    UInt8.toNat_ofNat_of_lt' (show 0x80 + code % 0x40 < 0x100 by omega), leading?_of_two low high]
  rw [if_neg (by omega), if_neg (by omega), if_pos trivial, joined]

theorem piece_of_three (low : 0x800 ≤ code) (high : code < 0x10000)
    (scalar : code < 0xD800 ∨ 0xDFFF < code) (rest : List UInt8) :
    piece (UInt8.ofNat (0xE0 + code / 0x1000)) (UInt8.ofNat (0x80 + code / 0x40 % 0x40) ::
      UInt8.ofNat (0x80 + code % 0x40) :: rest) = .char (Char.ofNat code) 3 := by
  obtain ⟨least, most, lead, second⟩ := leading?_of_three low high scalar
  have third : isContinuation (UInt8.ofNat (0x80 + code % 0x40)) :=
    isContinuation_ofNat (by omega)
  have joined : (0xE0 + code / 0x1000) % 0x10 * 0x1000 +
      ((0x80 + code / 0x40 % 0x40) % 0x40 * 0x40 + (0x80 + code % 0x40) % 0x40) = code := by omega
  simp only [piece, UInt8.toNat_ofNat_of_lt' (show 0xE0 + code / 0x1000 < 0x100 by omega),
    UInt8.toNat_ofNat_of_lt' (show 0x80 + code / 0x40 % 0x40 < 0x100 by omega),
    UInt8.toNat_ofNat_of_lt' (show 0x80 + code % 0x40 < 0x100 by omega), lead, third]
  rw [if_neg (by omega), if_neg (by omega), if_neg (by decide), if_neg (by decide), if_pos trivial,
    joined]

theorem piece_of_four (low : 0x10000 ≤ code) (high : code < 0x110000) (rest : List UInt8) :
    piece (UInt8.ofNat (0xF0 + code / 0x40000)) (UInt8.ofNat (0x80 + code / 0x1000 % 0x40) ::
      UInt8.ofNat (0x80 + code / 0x40 % 0x40) :: UInt8.ofNat (0x80 + code % 0x40) :: rest) =
      .char (Char.ofNat code) 4 := by
  obtain ⟨least, most, lead, second⟩ := leading?_of_four low high
  have third : isContinuation (UInt8.ofNat (0x80 + code / 0x40 % 0x40)) :=
    isContinuation_ofNat (by omega)
  have fourth : isContinuation (UInt8.ofNat (0x80 + code % 0x40)) :=
    isContinuation_ofNat (by omega)
  have joined : (0xF0 + code / 0x40000) % 8 * 0x40000 +
      (((0x80 + code / 0x1000 % 0x40) % 0x40 * 0x40 + (0x80 + code / 0x40 % 0x40) % 0x40) * 0x40 +
        (0x80 + code % 0x40) % 0x40) = code := by omega
  simp only [piece, UInt8.toNat_ofNat_of_lt' (show 0xF0 + code / 0x40000 < 0x100 by omega),
    UInt8.toNat_ofNat_of_lt' (show 0x80 + code / 0x1000 % 0x40 < 0x100 by omega),
    UInt8.toNat_ofNat_of_lt' (show 0x80 + code / 0x40 % 0x40 < 0x100 by omega),
    UInt8.toNat_ofNat_of_lt' (show 0x80 + code % 0x40 < 0x100 by omega), lead, third, fourth]
  rw [if_neg (by omega), if_neg (by omega), if_neg (by decide), if_neg (by decide),
    if_neg (by decide), if_neg (by decide), joined]

end

/-- The bytes of a character are read as the character, whatever follows them. -/
theorem piece_encodeChar {c : Char} {first : UInt8} {others : List UInt8}
    (encoded : encodeChar c = first :: others) (rest : List UInt8) :
    piece first (others ++ rest) = .char c (encodeChar c).length := by
  have valid : c.toNat < 0xD800 ∨ 0xDFFF < c.toNat ∧ c.toNat < 0x110000 := c.valid
  rw [encoded]
  simp only [encodeChar] at encoded
  split at encoded
  next one =>
    cases encoded
    rw [piece, UInt8.toNat_ofNat_of_lt' (show c.toNat < 0x100 by omega), if_pos one,
      Char.ofNat_toNat]
    rfl
  next several =>
    split at encoded
    next two =>
      cases encoded
      exact (piece_of_two (by omega) two rest).trans (by rw [Char.ofNat_toNat]; rfl)
    next more =>
      split at encoded
      next three =>
        cases encoded
        exact (piece_of_three (by omega) three (by omega) rest).trans
          (by rw [Char.ofNat_toNat]; rfl)
      next four =>
        cases encoded
        exact (piece_of_four (by omega) (by omega) rest).trans (by rw [Char.ofNat_toNat]; rfl)

theorem decodeList?_encode {chars : List Char} {fuel : Nat}
    (enough : (chars.flatMap encodeChar).length ≤ fuel) :
    decodeList? fuel (chars.flatMap encodeChar) = some chars := by
  induction chars generalizing fuel with
  | nil => cases fuel <;> rfl
  | cons c chars ih =>
    obtain ⟨first, others, encoded⟩ := List.exists_cons_of_ne_nil (encodeChar_ne_nil c)
    rw [List.flatMap_cons, encoded, List.cons_append, List.length_cons, List.length_append]
      at enough
    obtain ⟨fuel, rfl⟩ := Nat.exists_eq_succ_of_ne_zero (show fuel ≠ 0 by omega)
    simp only [List.flatMap_cons, encoded, List.cons_append, decodeList?, piece_encodeChar encoded,
      List.length_cons, Nat.add_sub_cancel, List.drop_left]
    rw [ih (by omega)]
    rfl

/-- Writing a text and reading its bytes gives the text. -/
@[simp] theorem decode?_encode (text : String) : decode? (encode text) = some text := by
  rw [decode?, encode, decodeList?_encode (Nat.le_refl _), Option.map_some, String.ofList_toList]

theorem length_encodeChar (c : Char) : (encodeChar c).length = c.utf8Size := by
  have size : c.utf8Size = if c.toNat < 0x80 then 1 else if c.toNat < 0x800 then 2
      else if c.toNat < 0x10000 then 3 else 4 :=
    if_congr Nat.lt_succ_iff.symm rfl
      (if_congr Nat.lt_succ_iff.symm rfl (if_congr Nat.lt_succ_iff.symm rfl rfl))
  simp only [size, encodeChar, apply_ite List.length, List.length_cons, List.length_nil]

/-- A text has as many bytes as it is said to have. -/
theorem length_encode (text : String) : (encode text).length = byteCount text := by
  have bytes : text.toList.utf8Encode = text.toByteArray := String.utf8Encode_toList
  rw [byteCount, ← String.size_toByteArray, ← bytes, List.utf8Encode, List.size_toByteArray, encode]
  simp only [List.length_flatMap, length_encodeChar, String.length_utf8EncodeChar]

/-! ### Trimmed texts -/

section Trim

variable (drop : Char → Bool)

theorem trimList_sublist (chars : List Char) : (trimList drop chars).Sublist chars :=
  (List.rdropWhile_prefix drop _).sublist.trans (List.dropWhile_suffix drop).sublist

theorem head_trimList {chars : List Char} (inhabited : trimList drop chars ≠ []) :
    ¬ drop ((trimList drop chars).head inhabited) := by
  have kept : trimList drop chars <+: chars.dropWhile drop := List.rdropWhile_prefix drop _
  rw [kept.head inhabited, List.head_dropWhile_not drop]
  exact Bool.false_ne_true

theorem getLast_trimList {chars : List Char} (inhabited : trimList drop chars ≠ []) :
    ¬ drop ((trimList drop chars).getLast inhabited) :=
  List.rdropWhile_last_not drop _ inhabited

theorem trimList_eq_self {chars : List Char}
    (first : ∀ inhabited : chars ≠ [], ¬ drop (chars.head inhabited))
    (last : ∀ inhabited : chars ≠ [], ¬ drop (chars.getLast inhabited)) :
    trimList drop chars = chars := by
  have front : chars.dropWhile drop = chars := by
    cases chars with
    | nil => rfl
    | cons c rest => exact List.dropWhile_cons_of_neg (first (List.cons_ne_nil c rest))
  rw [trimList, front]
  exact List.rdropWhile_eq_self_iff.mpr last

theorem mem_dropWhile {c : Char} {chars : List Char} (kept : ¬ drop c) (member : c ∈ chars) :
    c ∈ chars.dropWhile drop := by
  rw [← List.takeWhile_append_dropWhile (p := drop) (l := chars)] at member
  rcases List.mem_append.mp member with front | back
  · exact absurd (List.mem_takeWhile_imp front) kept
  · exact back

theorem mem_trimList {c : Char} {chars : List Char} (kept : ¬ drop c) (member : c ∈ chars) :
    c ∈ trimList drop chars :=
  List.mem_reverse.mpr (mem_dropWhile drop kept
    (List.mem_reverse.mpr (mem_dropWhile drop kept member)))

/-- Nothing is left exactly of a text in which all is to be dropped. -/
theorem trimList_eq_nil_iff {chars : List Char} :
    trimList drop chars = [] ↔ ∀ c ∈ chars, drop c := by
  constructor
  · intro empty c member
    by_contra kept
    have left := mem_trimList drop kept member
    rw [empty] at left
    cases left
  · intro all
    by_contra inhabited
    have first := (trimList_sublist drop chars).subset (List.head_mem inhabited)
    exact head_trimList drop inhabited (all _ first)

theorem trimBy_eq_empty_iff {text : String} : trimBy drop text = "" ↔ ∀ c ∈ text.toList, drop c := by
  rw [trimBy, ← trimList_eq_nil_iff, String.ofList_eq_empty_iff]

@[simp] theorem trimList_trimList (chars : List Char) :
    trimList drop (trimList drop chars) = trimList drop chars :=
  trimList_eq_self drop (head_trimList drop) (getLast_trimList drop)

@[simp] theorem trimBy_trimBy (text : String) :
    trimBy drop (trimBy drop text) = trimBy drop text := by
  simp only [trimBy, String.toList_ofList, trimList_trimList]

@[simp] theorem trim_trim (text : String) : trim (trim text) = trim text :=
  trimBy_trimBy isBlank text

/-- What trimming leaves as it is has nothing to drop at either end. -/
theorem not_drop_of_trimBy {text : String} (trimmed : trimBy drop text = text) {c : Char}
    (atEnd : text.toList.head? = some c ∨ text.toList.getLast? = some c) : ¬ drop c := by
  have kept : trimList drop text.toList = text.toList := by
    have same := congrArg String.toList trimmed
    rwa [trimBy, String.toList_ofList] at same
  have inhabited : trimList drop text.toList ≠ [] := by
    intro empty
    rw [kept] at empty
    rw [empty] at atEnd
    rcases atEnd with first | last
    · cases first
    · cases last
  rcases atEnd with first | last
  · have head := head_trimList drop inhabited
    simp only [kept] at head
    rwa [List.head_of_head?_eq_some first] at head
  · have ending := getLast_trimList drop inhabited
    simp only [kept] at ending
    rwa [List.getLast_of_getLast?_eq_some last] at ending

/-- Characters to drop at either end make no difference. -/
theorem trimList_append {front back : List Char} (before : ∀ c ∈ front, drop c)
    (behind : ∀ c ∈ back, drop c) (middle : List Char) :
    trimList drop (front ++ (middle ++ back)) = trimList drop middle := by
  have dropped : back.dropWhile drop = [] := List.dropWhile_eq_nil_iff.mpr behind
  have reversed : ∀ c ∈ back.reverse, drop c := fun c member => behind c (List.mem_reverse.mp member)
  rw [trimList, trimList, List.dropWhile_append_of_pos before, List.dropWhile_append]
  by_cases empty : middle.dropWhile drop = []
  · simp [empty, dropped]
  · simp [empty, List.dropWhile_append_of_pos reversed]

theorem trimBy_append {front back : String} (before : ∀ c ∈ front.toList, drop c)
    (behind : ∀ c ∈ back.toList, drop c) (text : String) :
    trimBy drop (front ++ text ++ back) = trimBy drop text := by
  simp only [trimBy, String.toList_append, List.append_assoc, trimList_append drop before behind]

/-- A text in three parts of which the outer ones are dropped: the middle part has nothing to drop at
its ends, and if nothing is left the whole text counts as the part in front. -/
structure Trimmed (text front middle back : String) : Prop where
  joined : text = front ++ middle ++ back
  before : ∀ c ∈ front.toList, drop c
  behind : ∀ c ∈ back.toList, drop c
  first : ∀ c ∈ middle.toList.head?, ¬ drop c
  last : ∀ c ∈ middle.toList.getLast?, ¬ drop c
  blank : middle = "" → back = ""

/-- Trimming takes a text apart in this way. -/
theorem exists_trimmed (text : String) :
    ∃ front back, Trimmed drop text front (trimBy drop text) back := by
  have whole := List.takeWhile_append_dropWhile (p := drop) (l := text.toList)
  have behind := List.rdropWhile_append_rtakeWhile (p := drop) (l := text.toList.dropWhile drop)
  refine ⟨String.ofList (text.toList.takeWhile drop),
    String.ofList ((text.toList.dropWhile drop).rtakeWhile drop), ?_, ?_, ?_, ?_, ?_, ?_⟩
  · apply String.toList_injective
    rw [← behind] at whole
    simpa [trimBy, trimList, List.rdropWhile] using whole.symm
  · intro c member
    rw [String.toList_ofList] at member
    exact List.mem_takeWhile_imp member
  · intro c member
    rw [String.toList_ofList] at member
    exact List.mem_rtakeWhile_imp member
  · intro c member
    exact not_drop_of_trimBy drop (trimBy_trimBy drop text) (.inl member)
  · intro c member
    exact not_drop_of_trimBy drop (trimBy_trimBy drop text) (.inr member)
  · intro nothing
    have dropped : text.toList.dropWhile drop = [] :=
      List.dropWhile_eq_nil_iff.mpr ((trimBy_eq_empty_iff drop).mp nothing)
    rw [dropped]
    rfl

namespace Trimmed

variable {drop : Char → Bool} {text front middle back : String}
  (parts : Trimmed drop text front middle back)

include parts

theorem middle_eq : middle = trimBy drop text := by
  have kept : trimList drop middle.toList = middle.toList := by
    apply trimList_eq_self
    · intro inhabited
      exact parts.first _ (List.head?_eq_some_head inhabited)
    · intro inhabited
      exact parts.last _ (List.getLast?_eq_some_getLast inhabited)
  rw [parts.joined, trimBy_append drop parts.before parts.behind, trimBy, kept, String.ofList_toList]

theorem front_eq : front.toList = text.toList.takeWhile drop := by
  have stopped : (middle.toList ++ back.toList).takeWhile drop = [] := by
    cases chars : middle.toList with
    | nil =>
      have nothing := parts.blank (String.toList_eq_nil_iff.mp chars)
      rw [nothing]
      rfl
    | cons c rest =>
      have kept : ¬ drop c := parts.first c (by rw [chars]; rfl)
      exact List.takeWhile_cons_of_neg kept
  rw [parts.joined, String.toList_append, String.toList_append, List.append_assoc,
    List.takeWhile_append_of_pos parts.before, stopped, List.append_nil]

/-- There is only one way to take a text apart. -/
theorem unique {front' middle' back' : String} (others : Trimmed drop text front' middle' back') :
    front' = front ∧ middle' = middle ∧ back' = back := by
  have sameFront : front' = front :=
    String.toList_injective (others.front_eq.trans parts.front_eq.symm)
  have sameMiddle : middle' = middle := others.middle_eq.trans parts.middle_eq.symm
  have joined := others.joined.symm.trans parts.joined
  rw [sameFront, sameMiddle] at joined
  exact ⟨sameFront, sameMiddle, (String.append_right_inj _).mp joined⟩

end Trimmed

/-- Trimming by less beforehand makes no difference. -/
theorem trimBy_trimBy_of_imp {less : Char → Bool} (weaker : ∀ c, less c → drop c) (text : String) :
    trimBy drop (trimBy less text) = trimBy drop text := by
  obtain ⟨front, back, parts⟩ := exists_trimmed less text
  conv_rhs => rw [parts.joined]
  exact (trimBy_append drop (fun c member => weaker c (parts.before c member))
    (fun c member => weaker c (parts.behind c member)) _).symm

end Trim

/-! ### Words in texts -/

/-- Whether a word in lower case stands anywhere in a text, in any case. -/
def Mentions (word text : String) : Prop := word.toList <:+: text.toList.map Char.toLower

theorem occursInList_iff {word chars : List Char} : occursInList word chars ↔ word <:+: chars := by
  induction chars with
  | nil => rw [occursInList, List.isEmpty_iff, List.infix_nil]
  | cons c rest ih =>
    rw [occursInList, Bool.or_eq_true, List.isPrefixOf_iff_prefix, ih, List.infix_cons_iff]

theorem occursIn_toLowerAscii_iff {word text : String} :
    occursIn word (toLowerAscii text) ↔ Mentions word text := by
  rw [occursIn, occursInList_iff, toLowerAscii, String.toList_ofList, Mentions]

instance (word text : String) : Decidable (Mentions word text) :=
  decidable_of_iff _ occursIn_toLowerAscii_iff

/-- White space has no case. -/
theorem isBlank_toLower (c : Char) : isBlank c.toLower = isBlank c := by
  rcases toLower_cases c with same | ⟨low, high, shifted⟩
  · rw [same]
  · have notBlank {d : Char} (low : 0x41 ≤ d.toNat) (high : d.toNat ≤ 0x7A) :
        isBlank d = false := by
      simp only [isBlank, Bool.or_eq_false_iff, Bool.and_eq_false_iff, decide_eq_false_iff_not,
        beq_eq_false_iff_ne]
      omega
    rw [notBlank low (by omega), notBlank (by omega) (by omega)]

theorem isBlankText_toLowerAscii (text : String) :
    isBlankText (toLowerAscii text) = isBlankText text := by
  simp only [isBlankText, toLowerAscii, String.toList_ofList, List.all_map, Function.comp_def,
    isBlank_toLower]

end Fingerprint.Text
