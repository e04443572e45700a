import Fingerprint.Proofs.ReaderLocality
import Fingerprint.Proofs.Text
import Mathlib.Tactic.Ring

/-!
MessagePack is read as it was written.

The shortest form of a length or a number depends on its size, and the reader finds the form out by
the marker. Each kind of value has a lemma; a value is read by induction on its parts.
-/

set_option autoImplicit false

namespace Fingerprint.MessagePack

/-! ### Numbers and lengths -/

theorem readNumber_bigEndian (start value count : Nat) (rest : List UInt8) :
    readNumber start count (bigEndian value count ++ rest) =
      some (start * 0x100 ^ count + value % 0x100 ^ count, rest) := by
  induction count generalizing start with
  | zero =>
    simp only [readNumber, bigEndian, List.nil_append, pow_zero, mul_one, Nat.mod_one, add_zero]
  | succ count ih =>
    have digit : (UInt8.ofNat (value >>> (8 * count))).toNat = value / 0x100 ^ count % 0x100 := by
      rw [UInt8.toNat_ofNat', Nat.shiftRight_eq_div_pow, pow_mul]
      norm_num
    rw [bigEndian, List.cons_append, readNumber, ih, digit, Nat.mod_pow_succ, pow_succ]
    congr 2
    ring

theorem takes_number {value count : Nat} (bounded : value < 0x100 ^ count) :
    Takes (readNumber 0 count) (bigEndian value count) value := by
  intro rest
  rw [readNumber_bigEndian, Nat.zero_mul, Nat.zero_add, Nat.mod_eq_of_lt bounded]

theorem withLength_bigEndian {α : Type} {length count : Nat} (bounded : length < 0x100 ^ count)
    (next : Nat → Reader α) (bytes : List UInt8) :
    withLength count next (bigEndian length count ++ bytes) = next length bytes := by
  rw [withLength, takes_number bounded]
  rfl

theorem toNat_byte {value : Nat} (bounded : value < 0x100) : (byte value).toNat = value :=
  UInt8.toNat_ofNat_of_lt' bounded

/-- What begins with the marker of no list and no record. -/
theorem read_scalar {depth : Nat} {marker : UInt8}
    (scalar : marker.toNat < 0x80 ∨ 0xA0 ≤ marker.toNat ∧ marker.toNat < 0xDC ∨
      0xE0 ≤ marker.toNat) (bytes : List UInt8) :
    read (depth + 1) (marker :: bytes) = readScalar marker.toNat bytes := by
  have single : composed? (read depth) marker.toNat = none := by
    unfold composed?
    rw [if_neg (by omega), if_neg (by omega)]
    split <;> first | omega | rfl
  rw [read, single]

theorem read_composed {depth : Nat} {marker : UInt8} {reader : Reader Data}
    (composed : composed? (read (depth + 1)) marker.toNat = some reader) (bytes : List UInt8) :
    read (depth + 2) (marker :: bytes) = reader bytes := by
  rw [read, composed]
  exact if_neg (Nat.succ_ne_zero depth)

section

variable {length : Nat} (bounded : length < 2 ^ 32) (depth : Nat) (bytes : List UInt8)

include bounded

theorem read_textHeader :
    read (depth + 1) (textHeader length ++ bytes) = readText length bytes := by
  unfold textHeader
  split
  next short =>
    have marker : (byte (0xA0 + length)).toNat = 0xA0 + length := toNat_byte (by omega)
    rw [List.singleton_append, read_scalar (by omega), marker, readScalar, if_neg (by omega),
      if_pos (by omega), Nat.add_sub_cancel_left]
  next =>
    split
    next short =>
      exact (read_scalar (by decide) _).trans (withLength_bigEndian short readText bytes)
    next =>
      split
      next short =>
        exact (read_scalar (by decide) _).trans (withLength_bigEndian short readText bytes)
      next =>
        exact (read_scalar (by decide) _).trans (withLength_bigEndian bounded readText bytes)

theorem read_bytesHeader :
    read (depth + 1) (bytesHeader length ++ bytes) = readBinary length bytes := by
  unfold bytesHeader
  split
  next short =>
    exact (read_scalar (by decide) _).trans (withLength_bigEndian short readBinary bytes)
  next =>
    split
    next short =>
      exact (read_scalar (by decide) _).trans (withLength_bigEndian short readBinary bytes)
    next =>
      exact (read_scalar (by decide) _).trans (withLength_bigEndian bounded readBinary bytes)

theorem read_listHeader :
    read (depth + 2) (listHeader length ++ bytes) = readList (read (depth + 1)) length bytes := by
  unfold listHeader
  split
  next short =>
    have marker : (byte (0x90 + length)).toNat = 0x90 + length := toNat_byte (by omega)
    refine read_composed ?_ bytes
    rw [marker]
    unfold composed?
    rw [if_neg (by omega), if_pos (by omega), Nat.add_sub_cancel_left]
  next =>
    split
    next short => exact (read_composed rfl _).trans (withLength_bigEndian short _ bytes)
    next => exact (read_composed rfl _).trans (withLength_bigEndian bounded _ bytes)

theorem read_recordHeader :
    read (depth + 2) (recordHeader length ++ bytes) =
      readRecord (read (depth + 1)) length bytes := by
  unfold recordHeader
  split
  next short =>
    have marker : (byte (0x80 + length)).toNat = 0x80 + length := toNat_byte (by omega)
    refine read_composed ?_ bytes
    rw [marker]
    unfold composed?
    rw [if_pos (by omega), Nat.add_sub_cancel_left]
  next =>
    split
    next short => exact (read_composed rfl _).trans (withLength_bigEndian short _ bytes)
    next => exact (read_composed rfl _).trans (withLength_bigEndian bounded _ bytes)

end

/-! ### One kind of value after the other -/

/-- A number of `count` bytes behind the marker of its kind. -/
theorem takes_coded {marker : UInt8} {count value : Nat} (make : Nat → Data) (depth : Nat)
    (scalar : 0xA0 ≤ marker.toNat ∧ marker.toNat < 0xDC)
    (kind : ∀ bytes, readScalar marker.toNat bytes =
      (readNumber 0 count bytes).map fun (number, rest) => (make number, rest))
    (bounded : value < 0x100 ^ count) :
    Takes (read (depth + 1)) (marker :: bigEndian value count) (make value) := by
  intro rest
  rw [List.cons_append, read_scalar (.inr (.inl scalar)), kind, takes_number bounded]
  rfl

theorem takes_natural {value : Nat} (bounded : value < 2 ^ 64) (depth : Nat) :
    Takes (read (depth + 1)) (encodeNatural value) (.natural value) := by
  unfold encodeNatural
  split
  next small =>
    intro rest
    have marker : (byte value).toNat = value := toNat_byte (by omega)
    rw [List.singleton_append, read_scalar (by omega), marker, readScalar, if_pos small]
  next =>
    split
    next short => exact takes_coded .natural depth (by decide) (fun _ => rfl) short
    next =>
      split
      next short => exact takes_coded .natural depth (by decide) (fun _ => rfl) short
      next =>
        split
        next short => exact takes_coded .natural depth (by decide) (fun _ => rfl) short
        next => exact takes_coded .natural depth (by decide) (fun _ => rfl) bounded

theorem takes_float (bits : UInt64) (depth : Nat) :
    Takes (read (depth + 1)) (0xCB :: bigEndian bits.toNat 8) (.float bits) := by
  have taken : Takes (read (depth + 1)) (0xCB :: bigEndian bits.toNat 8)
      (.float (UInt64.ofNat bits.toNat)) :=
    takes_coded (fun number => .float (UInt64.ofNat number)) depth (by decide) (fun _ => rfl)
      bits.toNat_lt
  rwa [UInt64.ofNat_toNat] at taken

/-- A number of `count` bytes with a sign is read as it was written. -/
theorem signed_emod {value : Int} {count : Nat}
    (low : -((1 <<< (8 * count) / 2 : Nat) : Int) ≤ value)
    (high : value < ((1 <<< (8 * count) / 2 : Nat) : Int)) :
    signed count (value % (1 <<< (8 * count) : Nat)).toNat = .integer value := by
  unfold signed
  generalize 1 <<< (8 * count) = size at low high
  dsimp only
  rcases Int.lt_or_le value 0 with negative | positive
  · have unsigned : value % size = value + size := by
      rw [← Int.add_emod_right, Int.emod_eq_of_lt (by omega) (by omega)]
    rw [unsigned, if_neg (by omega)]
    congr 1
    omega
  · rw [Int.emod_eq_of_lt positive (by omega), if_pos (by omega)]
    congr 1
    omega

theorem takes_twosComplement {value : Int} {marker : UInt8} {count : Nat} (depth : Nat)
    (scalar : 0xA0 ≤ marker.toNat ∧ marker.toNat < 0xDC)
    (kind : ∀ bytes, readScalar marker.toNat bytes =
      (readNumber 0 count bytes).map fun (number, rest) => (signed count number, rest))
    (low : -((1 <<< (8 * count) / 2 : Nat) : Int) ≤ value)
    (high : value < ((1 <<< (8 * count) / 2 : Nat) : Int)) :
    Takes (read (depth + 1)) (marker :: twosComplement value count) (.integer value) := by
  rw [← signed_emod low high]
  refine takes_coded (signed count) depth scalar kind ?_
  have size : 1 <<< (8 * count) = 0x100 ^ count := by
    rw [Nat.one_shiftLeft, pow_mul]
    norm_num
  have least := Int.emod_nonneg value (show ((1 <<< (8 * count) : Nat) : Int) ≠ 0 by omega)
  have most := Int.emod_lt_of_pos value (show (0 : Int) < (1 <<< (8 * count) : Nat) by omega)
  omega

/-- The negative numbers that are their own marker. -/
theorem takes_negative {value : Int} (low : -0x20 ≤ value) (high : value < 0) (depth : Nat) :
    Takes (read (depth + 1)) (twosComplement value 1) (.integer value) := by
  intro rest
  have size : 1 <<< (8 * 1) = 0x100 := rfl
  have unsigned : signed 1 (value % (1 <<< (8 * 1) : Nat)).toNat = .integer value :=
    signed_emod (by rw [size]; omega) (by rw [size]; omega)
  have range : 0xE0 ≤ (value % (1 <<< (8 * 1) : Nat)).toNat ∧
      (value % (1 <<< (8 * 1) : Nat)).toNat < 0x100 := by
    rw [size]
    omega
  rw [twosComplement, bigEndian, bigEndian, List.singleton_append]
  generalize (value % (1 <<< (8 * 1) : Nat)).toNat = bits at unsigned range
  have marker : (UInt8.ofNat (bits >>> (8 * 0))).toNat = bits := UInt8.toNat_ofNat_of_lt' range.2
  rw [read_scalar (by omega), marker, readScalar, if_neg (by omega), if_neg (by omega),
    if_pos range.1, unsigned]

theorem takes_integer {value : Int} (low : -2 ^ 63 ≤ value) (high : value < 2 ^ 63) (depth : Nat) :
    Takes (read (depth + 1)) (encodeInteger value) (.integer value) := by
  unfold encodeInteger
  split
  next small => exact takes_negative small.1 small.2 depth
  next =>
    split
    next short =>
      exact takes_twosComplement depth (by decide) (fun _ => rfl) short.1 short.2
    next =>
      split
      next short =>
        exact takes_twosComplement depth (by decide) (fun _ => rfl) short.1 short.2
      next =>
        split
        next short =>
          exact takes_twosComplement depth (by decide) (fun _ => rfl) short.1 short.2
        next => exact takes_twosComplement depth (by decide) (fun _ => rfl) low high

theorem takes_readBytes (bytes : List UInt8) : Takes (readBytes bytes.length) bytes bytes := by
  intro rest
  induction bytes with
  | nil => rfl
  | cons byte bytes ih =>
    rw [List.length_cons, List.cons_append, readBytes, ih]
    rfl

theorem takes_text {text : String} (bounded : Text.byteCount text < 2 ^ 32) (depth : Nat) :
    Takes (read (depth + 1)) (encodeText text) (.text text) := by
  have denoted : textOfBytes (Text.encode text) = .text text := by
    rw [textOfBytes, Text.decode?_encode]
  have body : Takes (readText (Text.encode text).length) (Text.encode text) (.text text) :=
    denoted ▸ (takes_readBytes (Text.encode text)).map textOfBytes
  exact body.headed (read_textHeader (Text.length_encode text ▸ bounded) depth)

theorem takes_bytes {bytes : List UInt8} (bounded : bytes.length < 2 ^ 32) (depth : Nat) :
    Takes (read (depth + 1)) (bytesHeader bytes.length ++ bytes) (.bytes bytes) := by
  have body : Takes (readBinary bytes.length) bytes (.bytes bytes) :=
    (takes_readBytes bytes).map Data.bytes
  exact body.headed (read_bytesHeader bounded depth)

section

variable {reader : Reader Data} {count : Nat} {front back : List UInt8}

theorem takes_cons_item {item : Data} {items : List Data} (first : Takes reader front item)
    (others : Takes (readItems reader count) back items) :
    Takes (readItems reader (count + 1)) (front ++ back) (item :: items) := by
  intro rest
  simp only [readItems, List.append_assoc, first _, others _, Option.bind_eq_bind,
    Option.bind_some]
  rfl

theorem takes_cons_entry {key value : Data} {entries : List (Data × Data)} {middle : List UInt8}
    (first : Takes reader front key) (second : Takes reader middle value)
    (others : Takes (readEntries reader count) back entries) :
    Takes (readEntries reader (count + 1)) (front ++ middle ++ back) ((key, value) :: entries) := by
  intro rest
  simp only [readEntries, List.append_assoc, first _, second _, others _, Option.bind_eq_bind,
    Option.bind_some]
  rfl

end

section

variable {depth : Nat} {items : List Data} {entries : List (Data × Data)}

theorem takes_list (bounded : items.length < 2 ^ 32)
    (parts : Takes (readItems (read (depth + 1)) items.length) (encodeItems items) items) :
    Takes (read (depth + 2)) (encode (.list items)) (.list items) := by
  have body : Takes (readList (read (depth + 1)) items.length) (encodeItems items) (.list items) :=
    parts.map Data.list
  rw [encode]
  exact body.headed (read_listHeader bounded depth)

theorem takes_record (bounded : entries.length < 2 ^ 32)
    (parts : Takes (readEntries (read (depth + 1)) entries.length) (encodeEntries entries)
      entries) :
    Takes (read (depth + 2)) (encode (.record entries)) (.record entries) := by
  have body : Takes (readRecord (read (depth + 1)) entries.length) (encodeEntries entries)
      (.record entries) := parts.map Data.record
  rw [encode]
  exact body.headed (read_recordHeader bounded depth)

end

/-! ### All values -/

mutual

/-- Whether a value is written so that it can be read again: its numbers fit in eight bytes and
its lengths in four, at most `depth` lists and records lie within each other, and each part denotes
something. -/
def storable (depth : Nat) : Data → Bool
  | .unreadable => false
  | .null | .bool _ | .float _ => true
  | .natural value => value < 2 ^ 64
  | .integer value => -2 ^ 63 ≤ value && value < 2 ^ 63
  | .text text => Text.byteCount text < 2 ^ 32
  | .bytes bytes => bytes.length < 2 ^ 32
  | .list items => items.length < 2 ^ 32 && (depth != 0 && storableItems (depth - 1) items)
  | .record entries =>
    entries.length < 2 ^ 32 && (depth != 0 && storableEntries (depth - 1) entries)

def storableItems (depth : Nat) : List Data → Bool
  | [] => true
  | item :: rest => storable depth item && storableItems depth rest

def storableEntries (depth : Nat) : List (Data × Data) → Bool
  | [] => true
  | (key, value) :: rest =>
    storable depth key && storable depth value && storableEntries depth rest

end

mutual

/-- A value that can be stored is taken from the bytes that are written for it. -/
theorem takes_encode (depth : Nat) :
    (data : Data) → storable depth data → Takes (read (depth + 1)) (encode data) data
  | .null, _ => fun rest => rfl
  | .bool false, _ => fun rest => rfl
  | .bool true, _ => fun rest => rfl
  | .natural value, fits => by
    rw [encode]
    exact takes_natural (of_decide_eq_true fits) depth
  | .integer value, fits => by
    have range := Bool.and_eq_true_iff.mp fits
    rw [encode]
    exact takes_integer (of_decide_eq_true range.1) (of_decide_eq_true range.2) depth
  | .float bits, _ => by
    rw [encode]
    exact takes_float bits depth
  | .text text, fits => by
    rw [encode]
    exact takes_text (of_decide_eq_true fits) depth
  | .bytes bytes, fits => by
    rw [encode]
    exact takes_bytes (of_decide_eq_true fits) depth
  | .list items, fits => by
    obtain ⟨bounded, nested⟩ := Bool.and_eq_true_iff.mp fits
    -- The reader of the items has one level less, as their bound has.
    cases depth with
    | zero => cases nested
    | succ depth => exact takes_list (of_decide_eq_true bounded) (takes_items depth items nested)
  | .record entries, fits => by
    obtain ⟨bounded, nested⟩ := Bool.and_eq_true_iff.mp fits
    cases depth with
    | zero => cases nested
    | succ depth =>
      exact takes_record (of_decide_eq_true bounded) (takes_entries depth entries nested)

theorem takes_items (depth : Nat) :
    (items : List Data) → storableItems depth items →
      Takes (readItems (read (depth + 1)) items.length) (encodeItems items) items
  | [], _ => fun rest => rfl
  | item :: items, fits => by
    obtain ⟨first, others⟩ := Bool.and_eq_true_iff.mp fits
    rw [encodeItems]
    exact takes_cons_item (takes_encode depth item first) (takes_items depth items others)

theorem takes_entries (depth : Nat) :
    (entries : List (Data × Data)) → storableEntries depth entries →
      Takes (readEntries (read (depth + 1)) entries.length) (encodeEntries entries) entries
  | [], _ => fun rest => rfl
  | (key, value) :: entries, fits => by
    obtain ⟨first, others⟩ := Bool.and_eq_true_iff.mp fits
    obtain ⟨keyFits, valueFits⟩ := Bool.and_eq_true_iff.mp first
    rw [encodeEntries]
    exact takes_cons_entry (takes_encode depth key keyFits) (takes_encode depth value valueFits)
      (takes_entries depth entries others)

end

section

variable {data : Data} (fits : storable (depthLimit - 1) data)

include fits

/-- What can be stored is read as it was written. -/
theorem decode?_encode : decode? (encode data) = some data := by
  have taken := takes_encode (depthLimit - 1) data fits []
  rw [List.append_nil] at taken
  rw [decode?]
  exact congrArg (Option.map (·.1)) taken

/-- Bytes that break off before their value ends denote nothing. -/
theorem decode?_take {cut : Nat} (short : cut < (encode data).length) :
    decode? ((encode data).take cut) = none := by
  rw [decode?]
  exact congrArg (Option.map (·.1))
    ((takes_encode (depthLimit - 1) data fits).truncated (local_read depthLimit) short)

end

end Fingerprint.MessagePack
