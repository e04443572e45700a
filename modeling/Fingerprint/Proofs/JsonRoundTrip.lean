import Fingerprint.Json.Parser
import Fingerprint.Json.Printer
import Fingerprint.Proofs.PluginDocument
import Fingerprint.Proofs.Template
import Fingerprint.Storage.Loading

/-!
Plugins are read from their JSON text as they were written.

Behind a value in a list or an object stands a comma or what closes it, and none of these can be
taken for a part of a number. So the text of a value is read to its end and no further, and the
readers of lists and objects go on from there. They need one unit of fuel for each character.
-/

set_option autoImplicit false

namespace Fingerprint.Json

/-! ### Strings -/

theorem skipSpace_cons {c : Char} (visible : isSpace c = false) (rest : List Char) :
    skipSpace (c :: rest) = c :: rest := by
  rw [skipSpace, visible]
  rfl

/-- The digits of a control character give its number back, which is no half of a pair. -/
theorem hexUnit?_control : ∀ code < 0x20,
    hexUnit? '0' '0' (hexDigit (code / 16)) (hexDigit (code % 16)) = some code ∧
      isHighSurrogate code = false ∧ isLowSurrogate code = false := by
  decide

/-- A character inside a string is read as it was written, whatever is read before and behind it. -/
theorem readString_escapeChar (c : Char) (fuel : Nat) (before rest : List Char) :
    readString (fuel + 1) ⟨before, false⟩ (escapeChar c ++ rest) =
      readString fuel ⟨c :: before, false⟩ rest := by
  unfold escapeChar
  split
  next => rfl
  next => rfl
  next => rfl
  next => rfl
  next => rfl
  next => rfl
  next => rfl
  next noQuote noBackslash _ _ _ _ _ =>
    split
    next control =>
      obtain ⟨unit, notHigh, notLow⟩ := hexUnit?_control c.toNat control
      simp [readString, unit, notHigh, notLow, Char.ofNat_toNat]
    next visible =>
      rw [List.singleton_append, readString, if_neg visible]
      · exact noQuote
      · intro _ _ _ _ _ backslash
        exact absurd backslash noBackslash
      · intro _ _ backslash
        exact absurd backslash noBackslash

/-- The characters of a string are read up to the quote behind them. -/
theorem readString_flatMap (chars : List Char) {fuel : Nat} (enough : chars.length < fuel)
    (before rest : List Char) :
    readString fuel ⟨before, false⟩ (chars.flatMap escapeChar ++ '"' :: rest) =
      some (some (String.ofList (before.reverse ++ chars)), rest) := by
  induction chars generalizing fuel before with
  | nil =>
    obtain ⟨fuel, rfl⟩ := Nat.exists_eq_succ_of_ne_zero (show fuel ≠ 0 by omega)
    rw [List.append_nil]
    rfl
  | cons c chars ih =>
    rw [List.length_cons] at enough
    obtain ⟨fuel, rfl⟩ := Nat.exists_eq_succ_of_ne_zero (show fuel ≠ 0 by omega)
    rw [List.flatMap_cons, List.append_assoc, readString_escapeChar, ih (by omega)]
    simp

theorem length_le_flatMap_escapeChar (chars : List Char) :
    chars.length ≤ (chars.flatMap escapeChar).length := by
  induction chars with
  | nil => exact Nat.le_refl _
  | cons c chars ih =>
    have inhabited : 0 < (escapeChar c).length := by
      unfold escapeChar
      split
      case h_8 => split <;> exact Nat.zero_lt_succ _
      all_goals exact Nat.zero_lt_succ _
    rw [List.flatMap_cons, List.length_append, List.length_cons]
    omega

theorem toList_quote (text : String) :
    (quote text).toList = '"' :: (text.toList.flatMap escapeChar ++ ['"']) := by
  rw [quote, String.toList_ofList]

/-- A string in quotes is read as the text, with the fuel that its reader gets. -/
theorem readString_quote (text : String) (rest : List Char) :
    readString ((text.toList.flatMap escapeChar ++ '"' :: rest).length + 1) ⟨[], false⟩
      (text.toList.flatMap escapeChar ++ '"' :: rest) = some (some text, rest) := by
  have longer := length_le_flatMap_escapeChar text.toList
  rw [readString_flatMap text.toList (by rw [List.length_append]; omega), List.reverse_nil,
    List.nil_append, String.ofList_toList]

/-! ### Numbers -/

/-- What stands behind a value: nothing, a comma or what closes a list or an object. -/
def Ends (rest : List Char) : Prop := ∀ c ∈ rest.head?, c = ',' ∨ c = ']' ∨ c = '\x7d'

theorem ends_cons {c : Char} (ending : c = ',' ∨ c = ']' ∨ c = '\x7d') (rest : List Char) :
    Ends (c :: rest) := by
  rintro _ ⟨⟩
  exact ending

theorem digitsValue_toDigits (number : Nat) : digitsValue (Nat.toDigits 10 number) = number := by
  have value := Nat.ofDigitChars_toDigits (n := number) (show 1 < 10 by decide) (Nat.le_refl 10)
  rw [Nat.ofDigitChars_eq_foldl] at value
  simp only [Nat.mul_comm 10] at value
  exact value

/-- A number is written without zeros in front. -/
theorem head?_toDigits {number : Nat} (positive : 0 < number) :
    (Nat.toDigits 10 number).head? ≠ some '0' := by
  induction number using Nat.strongRecOn with
  | ind number ih =>
    rcases Nat.lt_or_ge number 10 with small | large
    · have digit : ∀ value < 10, 0 < value → Nat.digitChar value ≠ '0' := by decide
      rw [Nat.toDigits_of_lt_base small, List.head?_cons]
      exact fun zero => digit number small positive (Option.some.inj zero)
    · rw [Nat.toDigits_of_base_le (by decide) large,
        List.head?_append_of_ne_nil _ Nat.toDigits_ne_nil]
      exact ih (number / 10) (by omega) (by omega)

theorem Ends.not_isDigit {rest : List Char} (ends : Ends rest) :
    ∀ c ∈ rest.head?, ¬ c.isDigit := by
  intro c member
  rcases ends c member with rfl | rfl | rfl <;> decide

/-- Behind a number there is neither a fraction nor an exponent. -/
theorem Ends.nothing {rest : List Char} (ends : Ends rest) :
    readFraction rest = some ([], rest) ∧ readExponent rest = some (none, rest) := by
  cases rest with
  | nil => exact ⟨rfl, rfl⟩
  | cons c rest => rcases ends c rfl with rfl | rfl | rfl <;> exact ⟨rfl, rfl⟩

theorem isDigit_of_mem_toDigits (number : Nat) : ∀ d ∈ Nat.toDigits 10 number, d.isDigit :=
  fun _ => Nat.isDigit_of_mem_toDigits (by decide) (Nat.le_refl 10)

theorem readUnsigned_toDigits (negative : Bool) (number : Nat) {rest : List Char}
    (ends : Ends rest) :
    readUnsigned negative (Nat.toDigits 10 number ++ rest) =
      some (numberData negative (Nat.toDigits 10 number) [] none, rest) := by
  have digits := isDigit_of_mem_toDigits number
  have accepted : ¬ ((Nat.toDigits 10 number).isEmpty || ((Nat.toDigits 10 number).length > 1 &&
      (Nat.toDigits 10 number).head? = some '0')) := by
    rw [List.isEmpty_eq_false_iff.mpr Nat.toDigits_ne_nil, Bool.false_or, Bool.and_eq_true_iff]
    rintro ⟨several, zero⟩
    rcases Nat.eq_zero_or_pos number with rfl | positive
    · cases several
    · exact head?_toDigits positive (of_decide_eq_true zero)
  rw [readUnsigned, Template.takeWhile_isDigit_append digits ends.not_isDigit,
    Template.dropWhile_isDigit_append digits ends.not_isDigit, if_neg accepted, ends.nothing.1]
  simp only [Option.bind_eq_bind, Option.bind_some, ends.nothing.2]
  rfl

theorem numberData_natural {number : Nat} (bounded : number < 2 ^ 64) :
    numberData false (Nat.toDigits 10 number) [] none = .natural number := by
  have fits : (!false && decide (number < 1 <<< 64)) = true := decide_eq_true bounded
  rw [numberData, digitsValue_toDigits]
  exact (if_pos rfl).trans (if_pos fits)

theorem numberData_negative {number : Nat} (positive : 0 < number) (bounded : number ≤ 2 ^ 63) :
    numberData true (Nat.toDigits 10 number) [] none = .integer (-number) := by
  have fits : (true && decide (number ≠ 0) && decide (number ≤ 1 <<< 63)) = true :=
    Bool.and_eq_true_iff.mpr ⟨decide_eq_true positive.ne', decide_eq_true bounded⟩
  rw [numberData, digitsValue_toDigits]
  exact (if_pos rfl).trans ((if_neg Bool.false_ne_true).trans (if_pos fits))

/-! ### Values -/

/-- Whether the characters are read as the value wherever a value may stand. One unit of fuel for
each character and another one are enough, and what stands behind them is left. -/
structure Denotes (chars : List Char) (data : Data) : Prop where
  opens : ∃ c rest, chars = c :: rest ∧ isSpace c = false ∧ c ≠ ']'
  reads : ∀ {fuel : Nat} {rest : List Char}, chars.length ≤ fuel → Ends rest →
    readValue (fuel + 1) (chars ++ rest) = some (data, rest)

/-- Whether the characters are a key in quotes, a colon and a value. -/
def DenotesEntry (chars : List Char) (entry : Data × Data) : Prop :=
  ∃ key value, entry.1 = .text key ∧ chars = (quote key).toList ++ ':' :: value ∧
    Denotes value entry.2

theorem denotes_null : Denotes "null".toList .null :=
  ⟨⟨_, _, rfl, rfl, by decide⟩, fun _ _ => rfl⟩

theorem denotes_bool : ∀ value : Bool,
    Denotes (if value then "true" else "false").toList (.bool value)
  | false => ⟨⟨_, _, rfl, rfl, by decide⟩, fun _ _ => rfl⟩
  | true => ⟨⟨_, _, rfl, rfl, by decide⟩, fun _ _ => rfl⟩

theorem denotes_text (text : String) : Denotes (quote text).toList (.text text) := by
  refine ⟨⟨_, _, toList_quote text, rfl, by decide⟩, fun {fuel} rest _ _ => ?_⟩
  rw [toList_quote, List.cons_append, List.append_assoc, List.singleton_append, readValue,
    skipSpace_cons rfl]
  simp only [readString_quote]
  rfl

/-- What begins with a digit is read as a number. -/
theorem readValue_digit {c : Char} (digit : c.isDigit) (fuel : Nat) (rest : List Char) :
    isSpace c = false ∧ c ≠ ']' ∧
      readValue (fuel + 1) (c :: rest) = readUnsigned false (c :: rest) := by
  have other (d : Char) (symbol : d.isDigit = false) : c ≠ d := by
    rintro rfl
    exact absurd digit (by rw [symbol]; exact Bool.false_ne_true)
  have visible : isSpace c = false := by
    simp [isSpace, other ' ' rfl, other '\t' rfl, other '\n' rfl, other '\r' rfl]
  refine ⟨visible, other _ rfl, ?_⟩
  rw [readValue, skipSpace_cons visible]
  -- No other value begins with a digit.
  split
  case h_1 opening => cases opening
  case h_8 => exact readNumber.eq_2 _ fun _ sign => other '-' rfl (List.cons.inj sign).1
  all_goals
    rename_i opening
    cases opening
    exact absurd digit (by decide)

/-- What the digits of a number begin with. -/
theorem toDigits_eq_cons (number : Nat) :
    ∃ c rest, Nat.toDigits 10 number = c :: rest ∧ c.isDigit := by
  have inhabited : Nat.toDigits 10 number ≠ [] := Nat.toDigits_ne_nil
  obtain ⟨c, rest, written⟩ := List.exists_cons_of_ne_nil inhabited
  exact ⟨c, rest, written, isDigit_of_mem_toDigits number c (written ▸ List.mem_cons_self)⟩

theorem denotes_natural {number : Nat} (bounded : number < 2 ^ 64) :
    Denotes (toString number).toList (.natural number) := by
  obtain ⟨c, digits, written, digit⟩ := toDigits_eq_cons number
  obtain ⟨visible, inhabited, -⟩ := readValue_digit digit 0 []
  rw [Nat.toString_eq_repr, Nat.toList_repr]
  refine ⟨⟨c, digits, written, visible, inhabited⟩, fun {fuel} rest _ ends => ?_⟩
  have value := readUnsigned_toDigits false number ends
  rw [numberData_natural bounded] at value
  rw [written] at value ⊢
  exact (readValue_digit digit fuel _).2.2.trans value

theorem denotes_negative {value : Int} (bounded : -2 ^ 63 ≤ value) (negative : value < 0) :
    Denotes (toString value).toList (.integer value) := by
  obtain ⟨number, rfl⟩ : ∃ number : Nat, value = -number := ⟨value.natAbs, by omega⟩
  have written : (toString (-(number : Int))).toList = '-' :: Nat.toDigits 10 number := by
    rw [Int.toString_eq_repr, Int.repr_eq_if, if_neg (by omega), Int.neg_neg, Int.toNat_natCast,
      String.toList_append, Nat.toList_repr]
    rfl
  rw [written]
  refine ⟨⟨_, _, rfl, rfl, by decide⟩, fun {fuel} rest _ ends => ?_⟩
  have value := readUnsigned_toDigits true number ends
  rw [numberData_negative (by omega) (by omega)] at value
  exact value

/-! ### Lists and objects -/

section

variable {fuel : Nat} {text : List Char}

/-- An item of a list is read up to what stands behind it: a comma or the bracket of the list. -/
theorem readItems_item {item : Data} (denotes : Denotes text item) (enough : text.length < fuel)
    (before : List Data) (rest : List Char) :
    readItems (fuel + 1) before (text ++ ',' :: rest) = readItems fuel (item :: before) rest ∧
      readItems (fuel + 1) before (text ++ ']' :: rest) =
        some (.list (item :: before).reverse, rest) := by
  obtain ⟨fuel, rfl⟩ := Nat.exists_eq_succ_of_ne_zero (Nat.ne_zero_of_lt enough)
  have goesOn : skipSpace (',' :: rest) = ',' :: rest := rfl
  have closes : skipSpace (']' :: rest) = ']' :: rest := rfl
  constructor
  · rw [readItems, denotes.reads (by omega) (ends_cons (by decide) _)]
    simp only [goesOn]
  · rw [readItems, denotes.reads (by omega) (ends_cons (by decide) _)]
    simp only [closes]

/-- A member of an object is read up to what stands behind it: a comma or the brace of the
object. -/
theorem readMembers_member {entry : Data × Data} (denotes : DenotesEntry text entry)
    (enough : text.length < fuel) (before : List (Data × Data)) (rest : List Char) :
    readMembers (fuel + 1) before (text ++ ',' :: rest) =
        readMembers fuel (entry :: before) rest ∧
      readMembers (fuel + 1) before (text ++ '\x7d' :: rest) =
        some (.record (entry :: before).reverse, rest) := by
  obtain ⟨_, data⟩ := entry
  obtain ⟨key, value, rfl, rfl, denotes⟩ := denotes
  rw [List.length_append, List.length_cons] at enough
  obtain ⟨fuel, rfl⟩ := Nat.exists_eq_succ_of_ne_zero (Nat.ne_zero_of_lt enough)
  have quoted (rest : List Char) : skipSpace ('"' :: rest) = '"' :: rest := rfl
  have colon (rest : List Char) : skipSpace (':' :: rest) = ':' :: rest := rfl
  have goesOn : skipSpace (',' :: rest) = ',' :: rest := rfl
  have closes : skipSpace ('\x7d' :: rest) = '\x7d' :: rest := rfl
  simp only [toList_quote, List.cons_append, List.append_assoc, List.nil_append]
  constructor
  · rw [readMembers, quoted]
    simp only [readString_quote, colon]
    rw [denotes.reads (by omega) (ends_cons (by decide) _)]
    simp only [goesOn]
    rfl
  · rw [readMembers, quoted]
    simp only [readString_quote, colon]
    rw [denotes.reads (by omega) (ends_cons (by decide) _)]
    simp only [closes]
    rfl

end

/-- Parts with commas between them are read one after the other up to the character that closes
them, if the reader reads a part before a comma and a part before that character. -/
theorem read_join {α : Type} {read : Nat → List α → List Char → Option (Data × List Char)}
    {whole : List α → Data} {closing : Char} {IsPart : List Char → α → Prop}
    (step : ∀ {fuel text part}, IsPart text part → text.length < fuel → ∀ before rest,
      read (fuel + 1) before (text ++ ',' :: rest) = read fuel (part :: before) rest ∧
        read (fuel + 1) before (text ++ closing :: rest) =
          some (whole (part :: before).reverse, rest))
    {text : List Char} {part : α} (first : IsPart text part) {texts : List (List Char)}
    {parts : List α} (others : List.Forall₂ IsPart texts parts) {fuel : Nat}
    (enough : ([','].intercalate (text :: texts)).length + 1 < fuel) (before : List α)
    (rest : List Char) :
    read fuel before ([','].intercalate (text :: texts) ++ closing :: rest) =
      some (whole (before.reverse ++ part :: parts), rest) := by
  induction others generalizing text part fuel before with
  | nil =>
    obtain ⟨fuel, rfl⟩ := Nat.exists_eq_succ_of_ne_zero (Nat.ne_zero_of_lt enough)
    rw [List.intercalate_singleton] at enough ⊢
    rw [(step first (by omega) before rest).2, List.reverse_cons]
  | cons second others ih =>
    obtain ⟨fuel, rfl⟩ := Nat.exists_eq_succ_of_ne_zero (Nat.ne_zero_of_lt enough)
    rw [List.intercalate_cons_cons] at enough ⊢
    rw [List.length_append, List.length_append, List.length_singleton] at enough
    rw [List.append_assoc, List.append_assoc, List.singleton_append,
      (step first (by omega) before _).1, ih second (by omega), List.reverse_cons,
      List.append_assoc, List.singleton_append]

/-- Parts that are joined begin as the first of them does. -/
theorem exists_intercalate_eq {c : Char} {text chars : List Char} (opening : text = c :: chars)
    (texts : List (List Char)) : ∃ rest, [','].intercalate (text :: texts) = c :: rest := by
  subst opening
  cases texts with
  | nil => exact ⟨chars, List.intercalate_singleton⟩
  | cons => exact ⟨_, List.intercalate_cons_cons⟩

/-- A list that does not end at once has items. -/
theorem readValue_bracket {c : Char} (visible : isSpace c = false) (inhabited : c ≠ ']')
    (fuel : Nat) (rest : List Char) :
    readValue (fuel + 1) ('[' :: c :: rest) = readItems fuel [] (c :: rest) := by
  have opens : skipSpace ('[' :: c :: rest) = '[' :: c :: rest := rfl
  rw [readValue, opens]
  simp only [skipSpace_cons visible]
  split
  next closed => exact absurd (List.cons.inj closed).1 inhabited
  next => rfl

theorem denotes_list {texts : List (List Char)} {items : List Data}
    (parts : List.Forall₂ Denotes texts items) :
    Denotes ('[' :: ([','].intercalate texts ++ [']'])) (.list items) := by
  refine ⟨⟨_, _, rfl, rfl, by decide⟩, fun {fuel} rest enough _ => ?_⟩
  rw [List.length_cons, List.length_append, List.length_singleton] at enough
  rw [List.cons_append, List.append_assoc, List.singleton_append]
  cases parts with
  | nil => rfl
  | cons first others =>
    have inside := read_join readItems_item first others enough [] rest
    obtain ⟨c, chars, opening, visible, inhabited⟩ := first.opens
    obtain ⟨tail, joined⟩ := exists_intercalate_eq opening _
    rw [joined, List.cons_append] at inside ⊢
    exact (readValue_bracket visible inhabited fuel _).trans inside

theorem denotes_record {texts : List (List Char)} {entries : List (Data × Data)}
    (parts : List.Forall₂ DenotesEntry texts entries) :
    Denotes ('\x7b' :: ([','].intercalate texts ++ ['\x7d'])) (.record entries) := by
  refine ⟨⟨_, _, rfl, rfl, by decide⟩, fun {fuel} rest enough _ => ?_⟩
  rw [List.length_cons, List.length_append, List.length_singleton] at enough
  rw [List.cons_append, List.append_assoc, List.singleton_append]
  cases parts with
  | nil => rfl
  | cons first others =>
    have inside := read_join readMembers_member first others enough [] rest
    obtain ⟨key, value, -, written, -⟩ := first
    rw [toList_quote, List.cons_append] at written
    obtain ⟨tail, joined⟩ := exists_intercalate_eq written _
    rw [joined, List.cons_append] at inside ⊢
    exact inside

/-! ### What is written -/

mutual

/-- Whether a value is written so that it is read as it was: its integers are those that are read
as integers, its keys are texts, at most `depth` lists and records lie within each other, and each
part has a JSON text of its own. -/
def printable (depth : Nat) : Data → Bool
  | .null | .bool _ | .text _ => true
  | .natural value => value < 2 ^ 64
  | .integer value => -2 ^ 63 ≤ value && value < 0
  | .list items => depth != 0 && printableItems (depth - 1) items
  | .record entries => depth != 0 && printableEntries (depth - 1) entries
  | .float _ | .bytes _ | .unreadable => false

def printableItems (depth : Nat) : List Data → Bool
  | [] => true
  | item :: rest => printable depth item && printableItems depth rest

def printableEntries (depth : Nat) : List (Data × Data) → Bool
  | [] => true
  | (.text _, value) :: rest => printable depth value && printableEntries depth rest
  | _ :: _ => false

end

mutual

theorem denotes_print (depth : Nat) :
    (data : Data) → printable depth data → Denotes (print data).toList data
  | .null, _ => denotes_null
  | .bool value, _ => by
    rw [print]
    exact denotes_bool value
  | .text text, _ => by
    rw [print]
    exact denotes_text text
  | .natural value, fits => by
    rw [print]
    exact denotes_natural (of_decide_eq_true fits)
  | .integer value, fits => by
    obtain ⟨bounded, negative⟩ := Bool.and_eq_true_iff.mp fits
    rw [print]
    exact denotes_negative (of_decide_eq_true bounded) (of_decide_eq_true negative)
  | .list items, fits => by
    obtain ⟨nested, parts⟩ := Bool.and_eq_true_iff.mp fits
    have read := denotes_list (denotes_printItems (depth - 1) items parts)
    rw [print, String.toList_append, String.toList_append, String.toList_intercalate]
    exact read
  | .record entries, fits => by
    obtain ⟨nested, parts⟩ := Bool.and_eq_true_iff.mp fits
    have read := denotes_record (denotes_printEntries (depth - 1) entries parts)
    rw [print, String.toList_append, String.toList_append, String.toList_intercalate]
    exact read

theorem denotes_printItems (depth : Nat) :
    (items : List Data) → printableItems depth items →
      List.Forall₂ Denotes ((printItems items).map String.toList) items
  | [], _ => .nil
  | item :: items, fits => by
    obtain ⟨first, others⟩ := Bool.and_eq_true_iff.mp fits
    rw [printItems, List.map_cons]
    exact .cons (denotes_print depth item first) (denotes_printItems depth items others)

theorem denotes_printEntries (depth : Nat) :
    (entries : List (Data × Data)) → printableEntries depth entries →
      List.Forall₂ DenotesEntry ((printEntries entries).map String.toList) entries
  | [], _ => .nil
  | (.text key, value) :: entries, fits => by
    obtain ⟨first, others⟩ := Bool.and_eq_true_iff.mp fits
    rw [printEntries, List.map_cons, String.toList_append, String.toList_append, printKey]
    refine .cons ⟨key, _, rfl, ?_, denotes_print depth value first⟩
      (denotes_printEntries depth entries others)
    rw [List.append_assoc]
    rfl

end

mutual

theorem readable_of_printable (depth : Nat) :
    (data : Data) → printable depth data → data.readable depth
  | .null, _ | .bool _, _ | .text _, _ | .natural _, _ | .integer _, _ => rfl
  | .list items, fits => by
    obtain ⟨nested, parts⟩ := Bool.and_eq_true_iff.mp fits
    exact Bool.and_eq_true_iff.mpr ⟨nested, readable_of_printableItems (depth - 1) items parts⟩
  | .record entries, fits => by
    obtain ⟨nested, parts⟩ := Bool.and_eq_true_iff.mp fits
    exact Bool.and_eq_true_iff.mpr
      ⟨nested, readable_of_printableEntries (depth - 1) entries parts⟩

theorem readable_of_printableItems (depth : Nat) :
    (items : List Data) → printableItems depth items → Data.readableItems depth items
  | [], _ => rfl
  | item :: items, fits => by
    obtain ⟨first, others⟩ := Bool.and_eq_true_iff.mp fits
    exact Bool.and_eq_true_iff.mpr
      ⟨readable_of_printable depth item first, readable_of_printableItems depth items others⟩

theorem readable_of_printableEntries (depth : Nat) :
    (entries : List (Data × Data)) → printableEntries depth entries →
      Data.readableEntries depth entries
  | [], _ => rfl
  | (.text _, value) :: entries, fits => by
    obtain ⟨first, others⟩ := Bool.and_eq_true_iff.mp fits
    exact Bool.and_eq_true_iff.mpr
      ⟨readable_of_printable depth value first, readable_of_printableEntries depth entries others⟩

end

/-- A value is read from its JSON text as it was written. -/
theorem parse?_print {depth : Nat} {data : Data} (fits : printable depth data) :
    parse? (print data) = some data := by
  have nothing : Ends [] := fun _ member => nomatch member
  have read := (denotes_print depth data fits).reads (Nat.le_refl _) nothing
  rw [List.append_nil] at read
  rw [parse?]
  simp only [read]
  rfl

theorem parseWhole?_print {data : Data} (fits : printable depthLimit data) :
    parseWhole? (print data) = some data := by
  rw [parseWhole?, parse?_print fits, Option.filter_some,
    if_pos (readable_of_printable depthLimit data fits)]

/-! ### Plugins -/

section

open Data (present)
open Plugin

variable {depth : Nat}

theorem printableItems_iff {items : List Data} :
    printableItems depth items ↔ ∀ item ∈ items, printable depth item := by
  induction items with
  | nil => exact ⟨fun _ => nofun, fun _ => rfl⟩
  | cons item items ih => rw [printableItems, Bool.and_eq_true_iff, ih, List.forall_mem_cons]

theorem printable_listMap {α : Type} {write : α → Data} (items : List α)
    (fits : ∀ item, printable depth (write item)) :
    printable (depth + 1) (.list (items.map write)) := by
  refine printableItems_iff.mpr fun data member => ?_
  obtain ⟨item, -, rfl⟩ := List.mem_map.mp member
  exact fits item

theorem printable_object {fields : List (String × Option Data)}
    (values : ∀ field ∈ fields, ∀ data ∈ field.2, printable depth data) :
    printable (depth + 1) (.object (present fields)) := by
  change printableEntries depth _ = true
  induction fields with
  | nil => rfl
  | cons field fields ih =>
    obtain ⟨name, value⟩ := field
    obtain ⟨first, others⟩ := List.forall_mem_cons.mp values
    cases value with
    | none => exact ih others
    | some data => exact Bool.and_eq_true_iff.mpr ⟨first data rfl, ih others⟩

theorem printable_listField {α : Type} {write : α → Data} (items : List α)
    (fits : ∀ item, printable depth (write item)) :
    ∀ written ∈ listField (items.map write), printable (depth + 1) written :=
  forall_mem_listField (printable_listMap items fits)

theorem printable_text (text : String) : printable depth (.text text) := rfl

theorem printable_textField (value : Option String) :
    ∀ written ∈ value.map .text, printable depth written :=
  Option.forall_mem_map.mpr fun text _ => printable_text text

theorem printable_matcher (matcher : MatcherSpec) : printable (depth + 1) matcher.toData := by
  rw [MatcherSpec.toData_eq]
  refine printable_object ?_
  simp only [MatcherSpec.fields, List.forall_mem_cons]
  exact ⟨printable_textField (some matcher.pattern), printable_textField matcher.header,
    printable_textField matcher.name,
    Option.forall_mem_map.mpr fun group _ => decide_eq_true group.toNat_lt,
    printable_textField matcher.template, List.forall_mem_nil _⟩

theorem printable_scriptMatcher (matcher : ScriptMatcher) :
    printable (depth + 1) matcher.toData := rfl

theorem printable_matchersField (lists : PerField MatcherSpec) :
    ∀ written ∈ matchersField lists, printable (depth + 3) written := by
  refine forall_mem_matchersField ?_
  rw [matcherListsToData_eq]
  refine printable_object ?_
  simp only [matcherListsFields, List.forall_mem_cons]
  exact ⟨printable_listField lists.url printable_matcher,
    printable_listField lists.body printable_matcher,
    printable_listField lists.header printable_matcher, List.forall_mem_nil _⟩

/-- Whatever its texts hold, a plugin can be read from its JSON text. -/
theorem printable_spec (spec : Spec) : printable (depth + 4) spec.toData := by
  rw [Spec.toData_eq]
  refine printable_object ?_
  simp only [Spec.fields, List.forall_mem_cons]
  exact ⟨printable_textField (some spec.name), printable_textField spec.homepage,
    printable_listField spec.tags printable_text,
    printable_matchersField spec.matchers.matchers,
    printable_matchersField spec.matchers.modularMatchers,
    printable_matchersField spec.matchers.indicators,
    printable_listField spec.scriptMatchers printable_scriptMatcher, List.forall_mem_nil _⟩

end

end Fingerprint.Json

namespace Fingerprint.Plugin

open Data (listOf?)

theorem specsOfData?_list (specs : List Spec) :
    specsOfData? (.list (specs.map (·.toData))) = some specs := by
  have listed : listOf? Spec.ofData? (.list (specs.map (·.toData))) = some specs :=
    mapM_map Spec.ofData?_toData
  rw [specsOfData?, listed, Option.some_or]

theorem specsOfData?_toData (spec : Spec) : specsOfData? spec.toData = some [spec] := by
  rw [specsOfData?, listOf?_eq_none_of_ofData? spec.ofData?_toData, Option.none_or,
    spec.ofData?_toData, Option.map_some]

theorem parse_of_parseWhole? {text : String} {data : Data} {specs : List Spec}
    (value : Json.parseWhole? text = some data) (read : specsOfData? data = some specs) :
    parse .json text = .ok specs := by
  rw [parse, value, Option.bind_some, read]
  rfl

/-- Plugins are read from their JSON text as they were written, as a list and one alone. No value of
a document is both a list of plugins and a plugin, so that either reading may be tried first. -/
theorem parse_print :
    (∀ specs : List Spec, parse .json (Json.print (.list (specs.map (·.toData)))) = .ok specs) ∧
    (∀ spec : Spec, parse .json (Json.print spec.toData) = .ok [spec]) ∧
    ∀ document : Data,
      (listOf? Spec.ofData? document = none ∨ Spec.ofData? document = none) ∧
      specsOfData? document =
        ((Spec.ofData? document).map ([·])).or (listOf? Spec.ofData? document) := by
  refine ⟨fun specs => ?_, fun spec => ?_, fun document => ?_⟩
  · have fits : Json.printable Json.depthLimit (.list (specs.map (·.toData))) :=
      Json.printable_listMap specs Json.printable_spec
    exact parse_of_parseWhole? (Json.parseWhole?_print fits) (specsOfData?_list specs)
  · have fits : Json.printable Json.depthLimit spec.toData := Json.printable_spec spec
    exact parse_of_parseWhole? (Json.parseWhole?_print fits) (specsOfData?_toData spec)
  · cases single : Spec.ofData? document with
    | none => exact ⟨.inr rfl, by rw [specsOfData?, single]; simp⟩
    | some spec =>
      have several := listOf?_eq_none_of_ofData? single
      exact ⟨.inl several, by rw [specsOfData?, single, several]; rfl⟩

end Fingerprint.Plugin
