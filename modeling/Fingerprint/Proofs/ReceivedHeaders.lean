import Fingerprint.Proofs.Text
import Fingerprint.Transaction.HeaderMap

/-!
Headers as a transaction takes them over: the first thousand of them in order, their values as texts.

The text of a value is told without the decoder: the bytes fall into the bytes of characters and
maximal invalid parts, each of which stands for U+FFFD. A part is maximal if it is the longest front
of bytes that could still have become a character, or a single byte where none could. This splits
the bytes in one way only, so that it makes no difference which values are read as plain ASCII
beforehand.
-/

set_option autoImplicit false

namespace Fingerprint.Text

/-! ### Maximal invalid parts -/

/-- Whether a character begins with these bytes. -/
def StartsChar (bytes : List UInt8) : Prop := ∃ c, bytes <+: encodeChar c

/-- A maximal invalid part in front of other bytes. -/
structure InvalidPart (part rest : List UInt8) : Prop where
  inhabited : part ≠ []
  noChar : ∀ c, ¬ encodeChar c <+: part ++ rest
  started : part.length = 1 ∨ StartsChar part
  maximal : ∀ longer, longer <+: part ++ rest → part.length < longer.length → ¬ StartsChar longer

/-- The characters that bytes stand for, with U+FFFD for each maximal invalid part. -/
inductive DecodesTo : List UInt8 → List Char → Prop
  | nil : DecodesTo [] []
  | char (c : Char) {rest : List UInt8} {chars : List Char} (behind : DecodesTo rest chars) :
    DecodesTo (encodeChar c ++ rest) (c :: chars)
  | invalid {part rest : List UInt8} {chars : List Char} (invalid : InvalidPart part rest)
    (behind : DecodesTo rest chars) : DecodesTo (part ++ rest) ('\uFFFD' :: chars)

/-! ### What the leading byte allows -/

/-- The least and the greatest second byte, and the number of bytes, by the leading byte. -/
theorem leading?_cases {lead low high count : Nat}
    (leads : leading? lead = some (low, high, count)) :
    (count = 2 ∧ 0xC2 ≤ lead ∧ lead ≤ 0xDF ∧ low = 0x80 ∧ high = 0xBF) ∨
    (count = 3 ∧ ((lead = 0xE0 ∧ low = 0xA0 ∧ high = 0xBF) ∨
      (0xE1 ≤ lead ∧ lead ≤ 0xEF ∧ lead ≠ 0xED ∧ low = 0x80 ∧ high = 0xBF) ∨
      (lead = 0xED ∧ low = 0x80 ∧ high = 0x9F))) ∨
    (count = 4 ∧ ((lead = 0xF0 ∧ low = 0x90 ∧ high = 0xBF) ∨
      (0xF1 ≤ lead ∧ lead ≤ 0xF3 ∧ low = 0x80 ∧ high = 0xBF) ∨
      (lead = 0xF4 ∧ low = 0x80 ∧ high = 0x8F))) := by
  unfold leading? at leads
  split_ifs at leads <;> cases leads <;> omega

theorem toNat_charOfNat {code : Nat} (scalar : code < 0xD800 ∨ 0xDFFF < code ∧ code < 0x110000) :
    (Char.ofNat code).toNat = code := by
  rw [Char.ofNat, dif_pos scalar]
  rfl

theorem byte_eq (byte : UInt8) {value : Nat} (same : value = byte.toNat) :
    UInt8.ofNat value = byte := by
  rw [same, UInt8.ofNat_toNat]

section

variable {lead second third fourth : UInt8} {low high : Nat}

theorem encodeChar_of_one (plain : lead.toNat < 0x80) :
    encodeChar (Char.ofNat lead.toNat) = [lead] := by
  rw [encodeChar, toNat_charOfNat (by omega)]
  simp [plain]

theorem encodeChar_of_two (leads : leading? lead.toNat = some (low, high, 2))
    (least : low ≤ second.toNat) (most : second.toNat ≤ high) :
    encodeChar (Char.ofNat (lead.toNat % 0x20 * 0x40 + second.toNat % 0x40)) = [lead, second] := by
  have range := leading?_cases leads
  rw [encodeChar, toNat_charOfNat (by omega)]
  rw [if_neg (by omega), if_pos (by omega), byte_eq lead (by omega), byte_eq second (by omega)]

theorem isContinuation_iff {byte : UInt8} :
    isContinuation byte ↔ 0x80 ≤ byte.toNat ∧ byte.toNat ≤ 0xBF := by
  simp [isContinuation]

theorem encodeChar_of_three (leads : leading? lead.toNat = some (low, high, 3))
    (least : low ≤ second.toNat) (most : second.toNat ≤ high) (onward : isContinuation third) :
    encodeChar (Char.ofNat (lead.toNat % 0x10 * 0x1000 +
      (second.toNat % 0x40 * 0x40 + third.toNat % 0x40))) = [lead, second, third] := by
  have range := leading?_cases leads
  have last := isContinuation_iff.mp onward
  rw [encodeChar, toNat_charOfNat (by omega)]
  rw [if_neg (by omega), if_neg (by omega), if_pos (by omega), byte_eq lead (by omega),
    byte_eq second (by omega), byte_eq third (by omega)]

theorem encodeChar_of_four (leads : leading? lead.toNat = some (low, high, 4))
    (least : low ≤ second.toNat) (most : second.toNat ≤ high) (onward : isContinuation third)
    (last : isContinuation fourth) :
    encodeChar (Char.ofNat (lead.toNat % 8 * 0x40000 +
      ((second.toNat % 0x40 * 0x40 + third.toNat % 0x40) * 0x40 + fourth.toNat % 0x40))) =
        [lead, second, third, fourth] := by
  have range := leading?_cases leads
  have thirdRange := isContinuation_iff.mp onward
  have fourthRange := isContinuation_iff.mp last
  rw [encodeChar, toNat_charOfNat (by omega)]
  rw [if_neg (by omega), if_neg (by omega), if_neg (by omega), byte_eq lead (by omega),
    byte_eq second (by omega), byte_eq third (by omega), byte_eq fourth (by omega)]

end

/-! ### Pieces -/

/-- What may stand at the front of bytes after a leading byte. -/
inductive Reads (lead : UInt8) : List UInt8 → Piece → Prop
  | one {rest : List UInt8} (plain : lead.toNat < 0x80) :
    Reads lead rest (.char (Char.ofNat lead.toNat) 1)
  | noLead {rest : List UInt8} (several : ¬ lead.toNat < 0x80)
    (none : leading? lead.toNat = none) : Reads lead rest (.invalid 1)
  | noSecond {rest : List UInt8} {low high count : Nat} (several : ¬ lead.toNat < 0x80)
    (leads : leading? lead.toNat = some (low, high, count))
    (stops : ∀ second ∈ rest.head?, second.toNat < low ∨ high < second.toNat) :
    Reads lead rest (.invalid 1)
  | two {second : UInt8} {rest : List UInt8} {low high : Nat}
    (leads : leading? lead.toNat = some (low, high, 2))
    (least : low ≤ second.toNat) (most : second.toNat ≤ high) :
    Reads lead (second :: rest)
      (.char (Char.ofNat (lead.toNat % 0x20 * 0x40 + second.toNat % 0x40)) 2)
  | noThird {second : UInt8} {rest : List UInt8} {low high count : Nat}
    (several : ¬ lead.toNat < 0x80) (leads : leading? lead.toNat = some (low, high, count))
    (notTwo : count ≠ 2) (least : low ≤ second.toNat) (most : second.toNat ≤ high)
    (stops : ∀ third ∈ rest.head?, ¬ isContinuation third) :
    Reads lead (second :: rest) (.invalid 2)
  | three {second third : UInt8} {rest : List UInt8} {low high : Nat}
    (leads : leading? lead.toNat = some (low, high, 3))
    (least : low ≤ second.toNat) (most : second.toNat ≤ high) (onward : isContinuation third) :
    Reads lead (second :: third :: rest)
      (.char (Char.ofNat (lead.toNat % 0x10 * 0x1000 +
        (second.toNat % 0x40 * 0x40 + third.toNat % 0x40))) 3)
  | noFourth {second third : UInt8} {rest : List UInt8} {low high count : Nat}
    (several : ¬ lead.toNat < 0x80) (leads : leading? lead.toNat = some (low, high, count))
    (notTwo : count ≠ 2) (notThree : count ≠ 3) (least : low ≤ second.toNat)
    (most : second.toNat ≤ high) (onward : isContinuation third)
    (stops : ∀ fourth ∈ rest.head?, ¬ isContinuation fourth) :
    Reads lead (second :: third :: rest) (.invalid 3)
  | four {second third fourth : UInt8} {rest : List UInt8} {low high count : Nat}
    (leads : leading? lead.toNat = some (low, high, count)) (notTwo : count ≠ 2)
    (notThree : count ≠ 3) (least : low ≤ second.toNat) (most : second.toNat ≤ high)
    (onward : isContinuation third) (last : isContinuation fourth) :
    Reads lead (second :: third :: fourth :: rest)
      (.char (Char.ofNat (lead.toNat % 8 * 0x40000 +
        ((second.toNat % 0x40 * 0x40 + third.toNat % 0x40) * 0x40 + fourth.toNat % 0x40))) 4)

theorem reads_piece (lead : UInt8) (rest : List UInt8) : Reads lead rest (piece lead rest) := by
  unfold piece
  dsimp only
  split
  next plain => exact .one plain
  next several =>
    split
    next none => exact .noLead several none
    next low high count leads =>
      split
      next second rest =>
        split
        next outside => exact .noSecond several leads (by simpa using outside)
        next inside =>
          split
          next two =>
            subst two
            exact .two leads (by omega) (by omega)
          next notTwo =>
            split
            next third rest =>
              split
              next stops =>
                exact .noThird several leads notTwo (by omega) (by omega) (by simpa using stops)
              next onward =>
                split
                next three =>
                  subst three
                  exact .three leads (by omega) (by omega) (by simpa using onward)
                next notThree =>
                  split
                  next fourth rest =>
                    split
                    next stops =>
                      exact .noFourth several leads notTwo notThree (by omega) (by omega)
                        (by simpa using onward) (by simpa using stops)
                    next last =>
                      exact .four leads notTwo notThree (by omega) (by omega) (by simpa using onward)
                        (by simpa using last)
                  next =>
                    exact .noFourth several leads notTwo notThree (by omega) (by omega)
                      (by simpa using onward) nofun
            next => exact .noThird several leads notTwo (by omega) (by omega) nofun
      next => exact .noSecond several leads nofun

namespace Reads

variable {lead : UInt8} {rest : List UInt8}

/-- A character that is read stands at the front with all its bytes. -/
theorem char_eq {c : Char} {length : Nat} (reads : Reads lead rest (.char c length)) :
    lead :: rest = encodeChar c ++ rest.drop (length - 1) := by
  cases reads with
  | one plain =>
    rw [encodeChar_of_one plain]
    rfl
  | two leads least most =>
    rw [encodeChar_of_two leads least most]
    rfl
  | three leads least most onward =>
    rw [encodeChar_of_three leads least most onward]
    rfl
  | @four _ _ _ _ _ _ count leads notTwo notThree least most onward last =>
    have range := leading?_cases leads
    obtain rfl : count = 4 := by omega
    rw [encodeChar_of_four leads least most onward last]
    rfl

/-- An invalid part of several bytes could have become a character: bytes from 0x80 complete it. -/
theorem started {length : Nat} (reads : Reads lead rest (.invalid length)) :
    length = 1 ∨ StartsChar (lead :: rest.take (length - 1)) := by
  have filler : isContinuation 0x80 := by decide
  cases reads with
  | noLead => exact .inl rfl
  | noSecond => exact .inl rfl
  | @noThird _ _ _ _ count several leads notTwo least most stops =>
    have range := leading?_cases leads
    obtain rfl | rfl : count = 3 ∨ count = 4 := by omega
    · exact .inr ⟨_, [0x80], (encodeChar_of_three leads least most filler).symm⟩
    · exact .inr ⟨_, [0x80, 0x80], (encodeChar_of_four leads least most filler filler).symm⟩
  | @noFourth _ _ _ _ _ count several leads notTwo notThree least most onward stops =>
    have range := leading?_cases leads
    obtain rfl : count = 4 := by omega
    exact .inr ⟨_, [0x80], (encodeChar_of_four leads least most onward filler).symm⟩

/-- What makes a part invalid is the part and the byte behind it. -/
theorem piece_eq {more back : List UInt8} {length : Nat}
    (reads : Reads lead (more ++ back) (.invalid length)) (shorter : length ≤ more.length)
    (other : List UInt8) : piece lead (more ++ other) = .invalid length := by
  generalize whole : more ++ back = rest at reads
  cases reads with
  | noLead several none => simp [piece, several, none]
  | noSecond several leads stops =>
    obtain ⟨second, more, rfl⟩ := List.exists_cons_of_length_pos (show 0 < more.length by omega)
    have outside := stops second (by rw [← whole]; rfl)
    simp [piece, several, leads, outside]
  | noThird several leads notTwo least most stops =>
    obtain ⟨second, more, rfl⟩ := List.exists_cons_of_length_pos (show 0 < more.length by omega)
    rw [List.length_cons] at shorter
    obtain ⟨third, more, rfl⟩ := List.exists_cons_of_length_pos (show 0 < more.length by omega)
    cases whole
    have outside := stops third rfl
    simp [piece, several, leads, notTwo, outside, Nat.not_lt.mpr least, Nat.not_lt.mpr most]
  | noFourth several leads notTwo notThree least most onward stops =>
    obtain ⟨second, more, rfl⟩ := List.exists_cons_of_length_pos (show 0 < more.length by omega)
    rw [List.length_cons] at shorter
    obtain ⟨third, more, rfl⟩ := List.exists_cons_of_length_pos (show 0 < more.length by omega)
    rw [List.length_cons] at shorter
    obtain ⟨fourth, more, rfl⟩ := List.exists_cons_of_length_pos (show 0 < more.length by omega)
    cases whole
    have outside := stops fourth rfl
    simp [piece, several, leads, notTwo, notThree, onward, outside, Nat.not_lt.mpr least,
      Nat.not_lt.mpr most]

theorem length_pos {length : Nat} (reads : Reads lead rest (.invalid length)) :
    0 < length ∧ length ≤ rest.length + 1 := by
  cases reads <;> simp

end Reads

/-! ### Splitting bytes -/

/-- What the decoder takes for an invalid part is one, and no shorter than it may be. -/
theorem invalidPart_of_piece {lead : UInt8} {rest : List UInt8} {length : Nat}
    (invalid : piece lead rest = .invalid length) :
    InvalidPart (lead :: rest.take (length - 1)) (rest.drop (length - 1)) := by
  have reads : Reads lead rest (.invalid length) := invalid ▸ reads_piece lead rest
  have bounds := reads.length_pos
  have whole : lead :: rest.take (length - 1) ++ rest.drop (length - 1) = lead :: rest := by
    rw [List.cons_append, List.take_append_drop]
  have size : (lead :: rest.take (length - 1)).length = length := by
    rw [List.length_cons, List.length_take]
    omega
  refine ⟨List.cons_ne_nil _ _, ?_, ?_, ?_⟩
  · rintro c ⟨tail, front⟩
    obtain ⟨first, others, encoded⟩ := List.exists_cons_of_ne_nil (encodeChar_ne_nil c)
    rw [whole, encoded, List.cons_append] at front
    obtain ⟨rfl, rfl⟩ := List.cons.inj front
    rw [piece_encodeChar encoded] at invalid
    cases invalid
  · rw [size]
    exact reads.started
  · rintro longer ⟨back, front⟩ more ⟨c, tail, starts⟩
    rw [whole] at front
    rw [size] at more
    cases longer with
    | nil => simp at more
    | cons first onward =>
      rw [List.cons_append] at front starts
      obtain ⟨rfl, rfl⟩ := List.cons.inj front
      rw [List.length_cons] at more
      have read := piece_encodeChar starts.symm []
      rw [List.append_nil, reads.piece_eq (by omega)] at read
      cases read

/-- A maximal invalid part is never longer than another one at the same place. -/
theorem InvalidPart.length_le {part rest other back : List UInt8} (first : InvalidPart part rest)
    (second : InvalidPart other back) (same : part ++ rest = other ++ back) :
    other.length ≤ part.length := by
  by_contra longer
  have front : other <+: part ++ rest := same ▸ List.prefix_append other back
  rcases second.started with single | starts
  · have empty : part.length = 0 := by omega
    exact first.inhabited (List.eq_nil_of_length_eq_zero empty)
  · exact first.maximal other front (by omega) starts

theorem InvalidPart.piece_eq {lead : UInt8} {part rest : List UInt8}
    (invalid : InvalidPart (lead :: part) rest) :
    piece lead (part ++ rest) = .invalid (part.length + 1) := by
  cases read : piece lead (part ++ rest) with
  | char c length =>
    have reads : Reads lead (part ++ rest) (.char c length) := read ▸ reads_piece _ _
    exact absurd ⟨_, reads.char_eq.symm⟩ (invalid.noChar c)
  | invalid length =>
    have reads : Reads lead (part ++ rest) (.invalid length) := read ▸ reads_piece _ _
    have bounds := reads.length_pos
    have other := invalidPart_of_piece read
    have whole : lead :: part ++ rest =
        lead :: (part ++ rest).take (length - 1) ++ (part ++ rest).drop (length - 1) := by
      rw [List.cons_append, List.cons_append, List.take_append_drop]
    have most := invalid.length_le other whole
    have least := other.length_le invalid whole.symm
    rw [List.length_cons, List.length_cons, List.length_take] at most least
    congr 1
    omega

theorem decodesTo_decodeLossyList {bytes : List UInt8} {fuel : Nat} (enough : bytes.length ≤ fuel) :
    DecodesTo bytes (decodeLossyList fuel bytes) := by
  induction fuel generalizing bytes with
  | zero =>
    rw [List.eq_nil_of_length_eq_zero (Nat.le_zero.mp enough)]
    exact .nil
  | succ fuel ih =>
    cases bytes with
    | nil => exact .nil
    | cons lead rest =>
      rw [List.length_cons] at enough
      rw [decodeLossyList]
      cases read : piece lead rest with
      | char c length =>
        have reads : Reads lead rest (.char c length) := read ▸ reads_piece lead rest
        rw [reads.char_eq]
        exact .char c (ih (by rw [List.length_drop]; omega))
      | invalid length =>
        have part := invalidPart_of_piece read
        have shorter : (rest.drop (length - 1)).length ≤ fuel := by
          rw [List.length_drop]
          omega
        have behind := ih shorter
        have decoded := DecodesTo.invalid part behind
        rwa [List.cons_append, List.take_append_drop] at decoded

theorem decodeLossyList_of_decodesTo {bytes : List UInt8} {chars : List Char}
    (decodes : DecodesTo bytes chars) {fuel : Nat} (enough : bytes.length ≤ fuel) :
    decodeLossyList fuel bytes = chars := by
  induction decodes generalizing fuel with
  | nil => cases fuel <;> rfl
  | @char c rest chars behind ih =>
    obtain ⟨first, others, encoded⟩ := List.exists_cons_of_ne_nil (encodeChar_ne_nil c)
    rw [encoded, List.cons_append, List.length_cons, List.length_append] at enough
    obtain ⟨fuel, rfl⟩ := Nat.exists_eq_succ_of_ne_zero (show fuel ≠ 0 by omega)
    rw [encoded, List.cons_append, decodeLossyList, piece_encodeChar encoded]
    simp only [encoded, List.length_cons, Nat.add_sub_cancel, List.drop_left]
    rw [ih (by omega)]
  | @invalid part rest chars invalid behind ih =>
    obtain ⟨lead, part, rfl⟩ := List.exists_cons_of_ne_nil invalid.inhabited
    rw [List.cons_append, List.length_cons, List.length_append] at enough
    obtain ⟨fuel, rfl⟩ := Nat.exists_eq_succ_of_ne_zero (show fuel ≠ 0 by omega)
    rw [List.cons_append, decodeLossyList, invalid.piece_eq]
    simp only [Nat.add_sub_cancel, List.drop_left]
    rw [ih (by omega)]

/-- Bytes are decoded to the one text for which their maximal invalid parts are replaced. -/
theorem decodeLossy_eq_iff {bytes : List UInt8} {text : String} :
    decodeLossy bytes = text ↔ DecodesTo bytes text.toList := by
  constructor
  · rintro rfl
    rw [decodeLossy, String.toList_ofList]
    exact decodesTo_decodeLossyList (Nat.le_refl _)
  · intro decodes
    rw [decodeLossy, decodeLossyList_of_decodesTo decodes (Nat.le_refl _), String.ofList_toList]

end Fingerprint.Text

namespace Fingerprint

namespace HeaderMap

open Text (DecodesTo)

/-! ### Values -/

/-- A value that is read as plain ASCII is not read otherwise by the decoder. -/
theorem decodeLossy_of_visible {value : List UInt8} {text : String}
    (visible : visibleText? value = some text) : Text.decodeLossy value = text := by
  unfold visibleText? at visible
  split at visible
  next all =>
    cases visible
    rw [Text.decodeLossy_eq_iff, String.toList_ofList]
    induction value with
    | nil => exact .nil
    | cons byte value ih =>
      rw [List.all_cons, Bool.and_eq_true] at all
      have plain : byte.toNat < 0x80 := by
        have shown := all.1
        simp only [isVisible, Bool.or_eq_true, Bool.and_eq_true, decide_eq_true_eq] at shown
        omega
      have decodes := DecodesTo.char (Char.ofNat byte.toNat) (ih all.2)
      rwa [Text.encodeChar_of_one plain] at decodes
  next => cases visible

theorem textOf_eq (value : List UInt8) : textOf value = Text.decodeLossy value := by
  unfold textOf
  split
  next text visible => exact (decodeLossy_of_visible visible).symm
  next => rfl

/-! ### The limit -/

/-- Headers are taken over up to the limit, and a warning tells that some were left. -/
theorem takeOver_eq (taken : List (String × String)) (headers : List (String × List UInt8)) :
    takeOver taken headers =
      (taken ++ (headers.take (pairLimit - taken.length)).map fun header =>
          (header.1, Text.decodeLossy header.2),
        if pairLimit - taken.length < headers.length then [.headersCut pairLimit] else []) := by
  induction headers generalizing taken with
  | nil => simp [takeOver]
  | cons header rest ih =>
    rw [takeOver]
    by_cases full : pairLimit ≤ taken.length
    · have none : pairLimit - taken.length = 0 := by omega
      simp [full, none]
    · have free : pairLimit - taken.length ≠ 0 := by omega
      obtain ⟨room, more⟩ := Nat.exists_eq_succ_of_ne_zero free
      have left : pairLimit - (taken.length + 1) = room := by omega
      simp [full, ih, more, left, textOf_eq]

theorem toPairs_eq (map : HeaderMap) :
    map.toPairs = (map.toList.take pairLimit).map fun header =>
      (header.1, Text.decodeLossy header.2) := by
  rw [toPairs, takeOver_eq]
  rfl

theorem events_eq (map : HeaderMap) :
    map.events = (if pairLimit < map.size then [.headersCut pairLimit] else []) ++
      [.headersRead (min pairLimit map.size)] := by
  rw [events, toPairs_eq, takeOver_eq, List.length_map, List.length_take]
  rfl

/-! ### Looking names up -/

/-- A name in lower case is that of another one in any case. -/
theorem sameIgnoringCase_iff {name : String} (lower : Text.toLowerAscii name = name)
    (other : String) :
    Text.sameIgnoringCase name other ↔ name = Text.toLowerAscii other := by
  have chars : name.toList.map Char.toLower = name.toList := by
    rw [← String.toList_ofList (l := name.toList.map Char.toLower)]
    exact congrArg String.toList lower
  rw [Text.sameIgnoringCase, decide_eq_true_iff, chars, Text.toLowerAscii, ← String.toList_inj,
    String.toList_ofList]

/-- Among all values in order, the first one with a name is the first one of its entry. -/
theorem find?_flatMap {entries : List HeaderEntry}
    (lower : ∀ name ∈ entries.map (·.name), Text.toLowerAscii name = name) (name : String) :
    ((entries.flatMap fun entry => (entry.value :: entry.others).map (entry.name, ·)).find?
        fun header => Text.sameIgnoringCase header.1 name).map (·.2) =
      (entries.find? (·.name = Text.toLowerAscii name)).map (·.value) := by
  induction entries with
  | nil => rfl
  | cons entry rest ih =>
    rw [List.map_cons, List.forall_mem_cons] at lower
    have same := sameIgnoringCase_iff lower.1 name
    rw [List.flatMap_cons, List.find?_append]
    by_cases named : entry.name = Text.toLowerAscii name
    · have first : ((entry.value :: entry.others).map (entry.name, ·)).find?
          (fun header => Text.sameIgnoringCase header.1 name) = some (entry.name, entry.value) :=
        List.find?_cons_of_pos (same.mpr named)
      rw [first, List.find?_cons_of_pos (by simpa using named)]
      rfl
    · have none : ((entry.value :: entry.others).map (entry.name, ·)).find?
          (fun header => Text.sameIgnoringCase header.1 name) = none := by
        simp [same, named]
      rw [none, Option.none_or, ih lower.2,
        List.find?_cons_of_neg (by simpa using named)]

/-- A header is looked up in the transaction as it is in the map, where nothing is left out. -/
theorem header?_withHeaderMap {map : HeaderMap} (few : map.size ≤ pairLimit)
    (transaction : Transaction) (name : String) :
    (transaction.withHeaderMap map).header? name = (map.first? name).map Text.decodeLossy := by
  have all : map.toList.take pairLimit = map.toList := List.take_of_length_le few
  have found := find?_flatMap map.lower name
  rw [first?, ← found, Transaction.header?, Transaction.withHeaderMap, Transaction.withHeaders,
    Option.getD_some, toPairs_eq, all, List.find?_map, Option.map_map, Option.map_map]
  rfl

/-! ### All together -/

/-- What a transaction takes over of headers. Of `n` values it takes the first `min n 1000` in order,
and a warning tells that some were left. Each is decoded: its bytes are split into characters and
maximal invalid parts, for each of which U+FFFD stands, and there is one text for which this holds.
A value of visible ASCII, which is not decoded, would be decoded to the same text. If nothing is left
out, a header is found by its name in any case exactly if the map has it, with its first value. -/
theorem withHeaderMap_decodes (map : HeaderMap) :
    map.toPairs = (map.toList.take (min map.size 1000)).map (fun header =>
      (header.1, Text.decodeLossy header.2)) ∧
    map.events = (if 1000 < map.size then [.headersCut 1000] else []) ++
      [.headersRead (min map.size 1000)] ∧
    (∀ bytes text, Text.decodeLossy bytes = text ↔ DecodesTo bytes text.toList) ∧
    (∀ bytes text, visibleText? bytes = some text → Text.decodeLossy bytes = text) ∧
    (map.size ≤ 1000 → ∀ (transaction : Transaction) (name : String),
      (transaction.withHeaderMap map).header? name =
        (map.first? name).map Text.decodeLossy) := by
  refine ⟨?_, ?_, ?_, ?_, ?_⟩
  · rw [toPairs_eq, Nat.min_comm, ← List.take_take, size, List.take_length]
    rfl
  · rw [events_eq, Nat.min_comm]
    rfl
  · intro bytes text
    exact Text.decodeLossy_eq_iff
  · intro bytes text
    exact decodeLossy_of_visible
  · intro few transaction name
    exact header?_withHeaderMap few transaction name

/-- Headers with a repeated name and a value that breaks off inside a character. -/
def mixed : HeaderMap :=
  ((empty.append "Server" [0x41, 0xE4, 0xB8]).append "Set-Cookie" [0x61]).append "SERVER" [0x62]

theorem withHeaderMap_decodes_mixed :
    mixed.size ≤ 1000 ∧
      (Transaction.empty.withHeaderMap mixed).header? "sErver" = some "A\uFFFD" := by
  have few : mixed.size ≤ 1000 := by decide +kernel
  have found := (withHeaderMap_decodes mixed).2.2.2.2 few .empty "sErver"
  refine ⟨few, found.trans ?_⟩
  decide +kernel

end HeaderMap

end Fingerprint
