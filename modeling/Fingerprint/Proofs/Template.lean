import Fingerprint.Proofs.Text
import Fingerprint.Template
import Mathlib.Data.Nat.Digits.Defs
import Mathlib.Data.String.Basic

/-!
What templates say, and what comes of them.

A template can be read in one way only. Its text is that of its parts without white space at the
ends, and there is one exactly if a reference names a group with a text. A scanner that goes through
the bytes of the template and cuts the numbers out of it comes to the same result: each of its cuts
lies between two characters.
-/

set_option autoImplicit false

namespace Fingerprint

theorem Regex.Captures.get_of_le {captures : Captures} {index : Nat}
    (beyond : captures.groups.length ≤ index) : captures.get index = none := by
  rw [get, List.getElem?_eq_none beyond]
  rfl

namespace Template

/-! ### Reading a template -/

/-- The number that decimal digits write. -/
def decimal (digits : List Char) : Nat :=
  Nat.ofDigits 10 (digits.reverse.map fun c => c.toNat - '0'.toNat)

theorem numberOf_eq_decimal (digits : List Char) : numberOf digits = decimal digits := by
  induction digits using List.reverseRecOn with
  | nil => rfl
  | append_singleton front last ih =>
    rw [decimal, List.reverse_append, List.reverse_singleton, List.singleton_append, List.map_cons,
      Nat.ofDigits_cons, ← decimal, ← ih, numberOf, List.foldl_append, ← numberOf]
    change numberOf front * 10 + _ = _
    rw [Nat.mul_comm, Nat.add_comm]

/-- How a template is read from left to right: a mark and all digits behind it refer to a group, and
any other character stands for itself, a mark without digits too. -/
inductive Reading : List Char → List Part → Prop
  | nil : Reading [] []
  | literal {c : Char} {rest : List Char} {parts : List Part}
    (plain : isMark c → ∀ d ∈ rest.head?, ¬ d.isDigit) (behind : Reading rest parts) :
    Reading (c :: rest) (.literal c :: parts)
  | reference {mark : Char} {digits rest : List Char} {parts : List Part} (marked : isMark mark)
    (given : digits ≠ []) (numeric : ∀ d ∈ digits, d.isDigit)
    (maximal : ∀ d ∈ rest.head?, ¬ d.isDigit) (behind : Reading rest parts) :
    Reading (mark :: (digits ++ rest)) (.reference (decimal digits) :: parts)

section

variable {chars digits rest : List Char}

theorem not_isDigit_head_dropWhile (chars : List Char) :
    ∀ d ∈ (chars.dropWhile Char.isDigit).head?, ¬ d.isDigit := by
  intro d first
  have stops := List.head?_dropWhile_not Char.isDigit chars
  rw [Option.mem_def.mp first] at stops
  exact Bool.not_eq_true _ ▸ stops

theorem takeWhile_isDigit_eq_nil (ends : ∀ d ∈ rest.head?, ¬ d.isDigit) :
    rest.takeWhile Char.isDigit = [] := by
  cases rest with
  | nil => rfl
  | cons d rest => exact List.takeWhile_cons_of_neg (ends d rfl)

theorem takeWhile_isDigit_append (numeric : ∀ d ∈ digits, d.isDigit)
    (maximal : ∀ d ∈ rest.head?, ¬ d.isDigit) :
    (digits ++ rest).takeWhile Char.isDigit = digits := by
  rw [List.takeWhile_append_of_pos numeric, takeWhile_isDigit_eq_nil maximal, List.append_nil]

theorem dropWhile_isDigit_append (numeric : ∀ d ∈ digits, d.isDigit)
    (maximal : ∀ d ∈ rest.head?, ¬ d.isDigit) :
    (digits ++ rest).dropWhile Char.isDigit = rest := by
  have whole := List.takeWhile_append_dropWhile (p := Char.isDigit) (l := digits ++ rest)
  rw [takeWhile_isDigit_append numeric maximal] at whole
  exact List.append_cancel_left whole

end

theorem reading_partsOfList {fuel : Nat} {chars : List Char} (enough : chars.length ≤ fuel) :
    Reading chars (partsOfList fuel chars) := by
  induction fuel generalizing chars with
  | zero =>
    cases chars with
    | nil => exact .nil
    | cons c rest => exact absurd enough (Nat.not_succ_le_zero _)
  | succ fuel ih =>
    cases chars with
    | nil => exact .nil
    | cons c rest =>
      have shorter : rest.length ≤ fuel := Nat.le_of_succ_le_succ enough
      rw [partsOfList]
      split
      next refers =>
        obtain ⟨marked, given⟩ := Bool.and_eq_true_iff.mp refers
        rw [Bool.not_eq_true', List.isEmpty_eq_false_iff] at given
        have behind := ih ((List.dropWhile_suffix Char.isDigit).length_le.trans shorter)
        have read := Reading.reference marked given (fun d member => List.mem_takeWhile_imp member)
          (not_isDigit_head_dropWhile rest) behind
        rwa [List.takeWhile_append_dropWhile, ← numberOf_eq_decimal] at read
      next plain =>
        refine .literal (fun marked d first digit => plain ?_) (ih shorter)
        cases rest with
        | nil => cases first
        | cons e rest =>
          cases first
          rw [marked, List.takeWhile_cons_of_pos digit]
          rfl

/-- A template can be read in no other way. -/
theorem Reading.partsOfList_eq {chars : List Char} {parts : List Part}
    (reading : Reading chars parts) {fuel : Nat} (enough : chars.length ≤ fuel) :
    partsOfList fuel chars = parts := by
  induction reading generalizing fuel with
  | nil => cases fuel <;> rfl
  | @literal c rest parts plain behind ih =>
    cases fuel with
    | zero => exact absurd enough (Nat.not_succ_le_zero _)
    | succ fuel =>
      have single : (isMark c && !(rest.takeWhile Char.isDigit).isEmpty) = false := by
        by_cases marked : isMark c
        · rw [takeWhile_isDigit_eq_nil (plain marked), List.isEmpty_nil, Bool.not_true,
            Bool.and_false]
        · rw [Bool.eq_false_iff.mpr marked, Bool.false_and]
      rw [partsOfList, single, ih (Nat.le_of_succ_le_succ enough)]
      rfl
  | @reference mark digits rest parts marked given numeric maximal behind ih =>
    cases fuel with
    | zero => exact absurd enough (Nat.not_succ_le_zero _)
    | succ fuel =>
      have shorter : rest.length ≤ fuel :=
        (List.suffix_append digits rest).length_le.trans (Nat.le_of_succ_le_succ enough)
      rw [partsOfList, takeWhile_isDigit_append numeric maximal,
        dropWhile_isDigit_append numeric maximal, marked, List.isEmpty_eq_false_iff.mpr given,
        ih shorter, numberOf_eq_decimal]
      rfl

theorem reading_iff {template : String} {parts : List Part} :
    Reading template.toList parts ↔ Template.parts template = parts := by
  constructor
  · exact fun reading => reading.partsOfList_eq (Nat.le_refl _)
  · rintro rfl
    exact reading_partsOfList (Nat.le_refl _)

/-! ### The text of a template -/

/-- What a group adds to the text: its own text without white space at the ends. A group that took
no part adds nothing, and neither does one that the pattern does not have. -/
def added (captures : Regex.Captures) (group : Nat) : String :=
  ((captures.get group).map Text.trim).getD ""

/-- What a part adds to the text. What a group captured is not read as a template again. -/
def Part.written (captures : Regex.Captures) : Part → String
  | .literal c => String.singleton c
  | .reference group => added captures group

variable {template : String} {captures : Regex.Captures} {group : Nat}

theorem toList_added (captures : Regex.Captures) (group : Nat) :
    (added captures group).toList = groupText captures group := by
  rw [added, groupText]
  cases captures.get group with
  | none => rfl
  | some text => exact String.toList_ofList

theorem Part.toList_written (part : Part) :
    (part.written captures).toList = part.text captures := by
  cases part with
  | literal c => exact String.toList_singleton c
  | reference group => exact toList_added captures group

theorem isEmpty_toList (text : String) : text.toList.isEmpty = text.isEmpty := by
  rw [Bool.eq_iff_iff, List.isEmpty_iff, String.toList_eq_nil_iff, String.isEmpty_iff]

theorem toList_trim_join (parts : List Part) :
    (Text.trim (String.join (parts.map (·.written captures)))).toList =
      Text.trimList Text.isBlank (parts.flatMap (·.text captures)) := by
  rw [Text.trim, Text.trimBy, String.toList_ofList, String.toList_join, List.flatMap_map]
  simp only [Part.toList_written]

/-- The parts are written one after the other, and white space is cut off at the ends of the
whole. -/
theorem render_eq (template : String) (captures : Regex.Captures) :
    render template captures =
      let text := Text.trim (String.join ((parts template).map (·.written captures)))
      if (parts template).any (·.isFilled captures) && !text.isEmpty then some text else none := by
  rw [render, ← toList_trim_join, String.ofList_toList, isEmpty_toList]

theorem Part.isFilled_iff {part : Part} :
    part.isFilled captures ↔ ∃ group text, part = .reference group ∧
      captures.get group = some text ∧ Text.trim text ≠ "" := by
  cases part with
  | literal c => simp [isFilled]
  | reference group =>
    rw [isFilled, ← toList_added, added, Bool.not_eq_true', List.isEmpty_eq_false_iff, Ne,
      String.toList_eq_nil_iff]
    cases captured : captures.get group with
    | none => simp [captured]
    | some text => simp [captured]

/-- What a group adds is not lost when white space is cut off at the ends of the whole. -/
theorem text_ne_nil_of_isFilled {parts : List Part} {part : Part} (member : part ∈ parts)
    (filled : part.isFilled captures) :
    Text.trimList Text.isBlank (parts.flatMap (·.text captures)) ≠ [] := by
  cases part with
  | literal c => cases filled
  | reference group =>
    rw [Part.isFilled, groupText, Bool.not_eq_true', List.isEmpty_eq_false_iff] at filled
    split at filled
    next text captured =>
      have inText : (Text.trimList Text.isBlank text.toList).head filled ∈
          parts.flatMap (·.text captures) := by
        refine List.mem_flatMap.mpr ⟨_, member, ?_⟩
        rw [Part.text, groupText, captured]
        exact List.head_mem filled
      exact List.ne_nil_of_mem (Text.mem_trimList _ (Text.head_trimList _ filled) inText)
    next => exact absurd rfl filled

theorem render_eq_some_iff {rendered : String} :
    render template captures = some rendered ↔
      (∃ group text, Part.reference group ∈ parts template ∧ captures.get group = some text ∧
        Text.trim text ≠ "") ∧
      rendered = Text.trim (String.join ((parts template).map (·.written captures))) := by
  have anyFilled : (parts template).any (·.isFilled captures) ↔
      ∃ group text, Part.reference group ∈ parts template ∧ captures.get group = some text ∧
        Text.trim text ≠ "" := by
    simp only [List.any_eq_true, Part.isFilled_iff]
    constructor
    · rintro ⟨_, member, group, text, rfl, captured⟩
      exact ⟨group, text, member, captured⟩
    · rintro ⟨group, text, member, captured⟩
      exact ⟨_, member, group, text, rfl, captured⟩
  rw [← anyFilled, render_eq]
  dsimp only
  by_cases filled : (parts template).any (·.isFilled captures)
  · obtain ⟨part, member, partFilled⟩ := List.any_eq_true.mp filled
    rw [filled, ← isEmpty_toList, toList_trim_join,
      List.isEmpty_eq_false_iff.mpr (text_ne_nil_of_isFilled member partFilled), and_iff_right rfl]
    exact Option.some_inj.trans eq_comm
  · rw [Bool.eq_false_iff.mpr filled]
    simp

theorem render_ne_empty (template : String) (captures : Regex.Captures) :
    render template captures ≠ some "" := by
  rw [render_eq]
  dsimp only
  split
  next yields =>
    intro empty
    rw [Option.some.inj empty, Bool.and_eq_true] at yields
    exact absurd yields.2 Bool.false_ne_true
  next => nofun

/-- The groups that a template refers to. -/
def references (template : String) : List Nat :=
  (parts template).filterMap fun
    | .reference group => some group
    | .literal _ => none

theorem mem_references : group ∈ references template ↔ Part.reference group ∈ parts template := by
  simp only [references, List.mem_filterMap]
  constructor
  · rintro ⟨part, member, same⟩
    cases part with
    | literal c => cases same
    | reference other =>
      cases same
      exact member
  · exact fun member => ⟨_, member, rfl⟩

/-- A template yields nothing if none of its groups has a text. -/
theorem render_eq_none (absent : ∀ group ∈ references template, captures.get group = none) :
    render template captures = none := by
  refine Option.eq_none_iff_forall_ne_some.mpr fun rendered yields => ?_
  obtain ⟨⟨group, text, refers, captured, -⟩, -⟩ := render_eq_some_iff.mp yields
  rw [absent group (mem_references.mpr refers)] at captured
  cases captured

/-- What a group that is referred to captures comes up in the text, white space at the ends
apart. -/
theorem render_of_reference {text : String} {c : Char} (refers : group ∈ references template)
    (captured : captures.get group = some text) (member : c ∈ text.toList)
    (filled : ¬ Text.isBlank c) :
    ∃ rendered, render template captures = some rendered ∧ c ∈ rendered.toList := by
  have referred := mem_references.mp refers
  have inhabited : Text.trim text ≠ "" := fun empty =>
    filled ((Text.trimBy_eq_empty_iff _).mp empty c member)
  have inGroup : c ∈ groupText captures group := by
    rw [groupText, captured]
    exact Text.mem_trimList _ filled member
  refine ⟨_, render_eq_some_iff.mpr ⟨⟨group, text, referred, captured, inhabited⟩, rfl⟩, ?_⟩
  rw [toList_trim_join]
  exact Text.mem_trimList _ filled (List.mem_flatMap.mpr ⟨_, referred, inGroup⟩)

/-! ### Scanning the bytes of a template -/

/-- The part of a text between two places, which are counted in bytes. There is none if a place lies
inside a character or behind the text, or if the second one comes before the first. -/
def cut? (text : String) (start stop : Nat) : Option String :=
  if start ≤ stop ∧ String.Pos.Raw.isValid text ⟨start⟩ ∧ String.Pos.Raw.isValid text ⟨stop⟩ then
    some (String.Pos.Raw.extract text ⟨start⟩ ⟨stop⟩)
  else none

/-- Characters, each with its place. -/
def placed (start : Nat) : List Char → List (Nat × Char)
  | [] => []
  | c :: rest => (start, c) :: placed (start + c.utf8Size) rest

/-- Passes over digits, for each of which it counts one byte: the place behind the last one, or
`stop` if there is none, and what is left. -/
def passDigits (stop : Nat) : List (Nat × Char) → Nat × List (Nat × Char)
  | [] => (stop, [])
  | (place, c) :: rest =>
    if c.isDigit then passDigits (place + 1) rest else (stop, (place, c) :: rest)

/-- The number of a group as a word of 64 bits; the greatest one stands for all that do not fit. -/
def wordOf (digits : String) : Nat := min (numberOf digits.toList) (2 ^ 64 - 1)

/-- What has been written, and whether a group with a text was put into it. -/
structure Output where
  text : String
  replaced : Bool

namespace Output

def push (output : Output) (c : Char) : Output := { output with text := output.text.push c }

/-- Puts in what a group captured. -/
def insert (output : Output) : Option String → Output
  | none => output
  | some text => ⟨output.text ++ Text.trim text, output.replaced || !(Text.trim text).isEmpty⟩

/-- The text as a whole, if there is one. -/
def result (output : Output) : Option String :=
  let text := Text.trim output.text
  if output.replaced && !text.isEmpty then some text else none

end Output

theorem length_passDigits_le (stop : Nat) (left : List (Nat × Char)) :
    (passDigits stop left).2.length ≤ left.length := by
  induction left generalizing stop with
  | nil => exact Nat.le_refl 0
  | cons entry rest ih =>
    rw [passDigits]
    split
    · exact (ih _).trans (Nat.le_succ _)
    · exact Nat.le_refl _

/-- Goes through what is left of a template. The number of a group is cut out of the template from
behind the mark to behind the last digit; there is no result if the cut goes through a character. -/
def scan (template : String) (captures : Regex.Captures) (output : Output) :
    List (Nat × Char) → Option Output
  | [] => some output
  | (place, c) :: rest =>
    if isMark c then
      let start := place + c.utf8Size
      let passed := passDigits start rest
      if passed.1 = start then scan template captures (output.push c) passed.2
      else
        match cut? template start passed.1 with
        | none => none
        | some digits =>
          scan template captures (output.insert (captures.get (wordOf digits))) passed.2
    else scan template captures (output.push c) rest
termination_by left => left.length
decreasing_by
  · exact Nat.lt_succ_of_le (length_passDigits_le _ _)
  · exact Nat.lt_succ_of_le (length_passDigits_le _ _)
  · exact Nat.lt_succ_self _

/-- The text that a scan of the bytes yields, if none of its cuts goes through a character. -/
def scanned? (template : String) (captures : Regex.Captures) : Option (Option String) :=
  (scan template captures ⟨"", false⟩ (placed 0 template.toList)).map Output.result

/-- Adds a part to what has been written. -/
def Output.add (captures : Regex.Captures) (output : Output) (part : Part) : Output :=
  ⟨output.text ++ part.written captures, output.replaced || part.isFilled captures⟩

theorem Output.push_eq (captures : Regex.Captures) (output : Output) (c : Char) :
    output.push c = output.add captures (.literal c) := by
  rw [push, add, Part.isFilled, Bool.or_false, Part.written, String.append_singleton]

theorem Output.insert_eq (output : Output) (group : Nat) :
    output.insert (captures.get group) = output.add captures (.reference group) := by
  rw [add, Part.written, Part.isFilled, ← toList_added, isEmpty_toList, added]
  cases captures.get group with
  | none =>
    change output = ⟨output.text ++ "", output.replaced || false⟩
    rw [String.append_empty, Bool.or_false]
  | some text => rfl

/-- A number that does not fit into a word is that of no group. -/
theorem get_wordOf (few : captures.groups.length < 2 ^ 64) (digits : List Char) :
    captures.get (wordOf (String.ofList digits)) = captures.get (decimal digits) := by
  rw [wordOf, String.toList_ofList, numberOf_eq_decimal]
  by_cases fits : decimal digits ≤ 2 ^ 64 - 1
  · rw [Nat.min_eq_left fits]
  · rw [Regex.Captures.get_of_le (by omega), Regex.Captures.get_of_le (by omega)]

theorem cut?_append {text : String} {front middle back : List Char}
    (whole : text.toList = front ++ middle ++ back) :
    cut? text (String.utf8Len front) (String.utf8Len front + String.utf8Len middle) =
      some (String.ofList middle) := by
  obtain rfl : text = String.ofList (front ++ middle ++ back) := by
    rw [← whole, String.ofList_toList]
  have valid {first second : List Char} (parted : front ++ middle ++ back = first ++ second) :
      String.Pos.Raw.isValid (String.ofList (front ++ middle ++ back)) ⟨String.utf8Len first⟩ := by
    refine String.Pos.Raw.isValid_eq_true_iff.mpr (String.Pos.Raw.isValid_iff_exists_append.mpr
      ⟨.ofList first, .ofList second, ?_, ?_⟩)
    · rw [parted, String.ofList_append]
    · rw [String.rawEndPos, String.utf8ByteSize_ofList]
  have start := valid (List.append_assoc front middle back)
  have stop := @valid (front ++ middle) back rfl
  rw [String.utf8Len_append] at stop
  rw [cut?, if_pos ⟨Nat.le_add_right _ _, start, stop⟩, String.extract_of_valid]

theorem utf8Size_of_isDigit {d : Char} (digit : d.isDigit) : d.utf8Size = 1 := by
  rw [Char.isDigit, Bool.and_eq_true, decide_eq_true_eq, decide_eq_true_eq] at digit
  exact Char.utf8Size_eq_one_iff.mpr (UInt32.le_trans digit.2 (by decide))

theorem passDigits_placed {rest : List Char} (ends : ∀ d ∈ rest.head?, ¬ d.isDigit) (start : Nat) :
    passDigits start (placed start rest) = (start, placed start rest) := by
  cases rest with
  | nil => rfl
  | cons c rest => rw [placed, passDigits, if_neg (ends c rfl)]

/-- Digits have one byte each, so the place behind them is where the next character begins. -/
theorem passDigits_append {digits : List Char} (numeric : ∀ d ∈ digits, d.isDigit)
    {rest : List Char} (maximal : ∀ d ∈ rest.head?, ¬ d.isDigit) (start : Nat) :
    passDigits start (placed start (digits ++ rest)) =
      (start + String.utf8Len digits, placed (start + String.utf8Len digits) rest) := by
  induction digits generalizing start with
  | nil => exact passDigits_placed maximal start
  | cons d digits ih =>
    obtain ⟨digit, others⟩ := List.forall_mem_cons.mp numeric
    have single := utf8Size_of_isDigit digit
    rw [List.cons_append, placed, passDigits, if_pos digit, single, ih others, String.utf8Len_cons,
      single, Nat.add_assoc, Nat.add_comm 1]

/-- A scan cuts between characters and writes the parts of the template one after the other. -/
theorem scan_of_reading (few : captures.groups.length < 2 ^ 64) {left : List Char}
    {parts : List Part} (reading : Reading left parts) {front : List Char}
    (whole : template.toList = front ++ left) (output : Output) :
    scan template captures output (placed (String.utf8Len front) left) =
      some (parts.foldl (Output.add captures) output) := by
  induction reading generalizing front output with
  | nil =>
    rw [placed, scan]
    rfl
  | @literal c rest parts plain behind ih =>
    have further := @ih (front ++ [c]) (by rw [whole, List.append_assoc]; rfl) (output.push c)
    have place : String.utf8Len (front ++ [c]) = String.utf8Len front + c.utf8Size := by
      rw [String.utf8Len_append, String.utf8Len_cons, String.utf8Len_nil, Nat.zero_add]
    rw [place, Output.push_eq captures] at further
    rw [placed, scan, List.foldl_cons, Output.push_eq captures]
    split
    next marked =>
      dsimp only
      rwa [passDigits_placed (plain marked), if_pos rfl]
    next => exact further
  | @reference mark digits rest parts marked given numeric maximal behind ih =>
    have cut : cut? template (String.utf8Len (front ++ [mark]))
        (String.utf8Len (front ++ [mark]) + String.utf8Len digits) = some (String.ofList digits) :=
      cut?_append (by rw [whole, List.append_assoc, List.append_assoc]; rfl)
    have further := @ih (front ++ [mark] ++ digits) (by simp [whole])
      (output.add captures (.reference (decimal digits)))
    have place : String.utf8Len (front ++ [mark]) = String.utf8Len front + mark.utf8Size := by
      rw [String.utf8Len_append, String.utf8Len_cons, String.utf8Len_nil, Nat.zero_add]
    have nonEmpty : String.utf8Len digits ≠ 0 := mt String.utf8Len_eq_zero.mp given
    rw [String.utf8Len_append] at further
    rw [place] at cut further
    rw [placed, scan, if_pos marked]
    dsimp only
    rw [passDigits_append numeric maximal, if_neg (by omega), cut]
    dsimp only
    rw [get_wordOf few, Output.insert_eq, further, List.foldl_cons]

theorem foldl_add (parts : List Part) (output : Output) :
    parts.foldl (Output.add captures) output =
      ⟨output.text ++ String.join (parts.map (·.written captures)),
        output.replaced || parts.any (·.isFilled captures)⟩ := by
  induction parts generalizing output with
  | nil =>
    rw [List.map_nil, String.join_nil, String.append_empty, List.any_nil, Bool.or_false]
    rfl
  | cons part rest ih =>
    rw [List.foldl_cons, ih, Output.add, List.map_cons, String.join_cons, List.any_cons,
      String.append_assoc, Bool.or_assoc]

/-- A scan of the bytes never cuts through a character, and yields what the template yields. -/
theorem scanned?_eq (few : captures.groups.length < 2 ^ 64) :
    scanned? template captures = some (render template captures) := by
  have scanned := scan_of_reading few (reading_iff.mpr rfl) (List.nil_append template.toList).symm
    ⟨"", false⟩
  rw [scanned?, ← String.utf8Len_nil, scanned, foldl_add, String.empty_append, Bool.false_or,
    render_eq]
  rfl

/-- A template is read in exactly one way, as characters and references to groups. It has a text
exactly if a reference names a group that captured more than white space, and the text is what the
parts add, one after the other, without white space at the ends; groups that took no part and those
that do not exist add nothing. A scan of the bytes cuts between characters and has the same text. -/
theorem render_iff (template : String) (captures : Regex.Captures) :
    ∃ parts, Reading template.toList parts ∧
      (∀ other, Reading template.toList other → other = parts) ∧
      (∀ rendered, render template captures = some rendered ↔
        (∃ group text, Part.reference group ∈ parts ∧ captures.get group = some text ∧
          Text.trim text ≠ "") ∧
        rendered = Text.trim (String.join (parts.map (·.written captures)))) ∧
      (∀ group, captures.get group = none → added captures group = "") ∧
      (∀ group, captures.groups.length ≤ group → captures.get group = none) ∧
      render template captures ≠ some "" ∧
      (captures.groups.length < 2 ^ 64 →
        scanned? template captures = some (render template captures)) := by
  refine ⟨parts template, reading_iff.mpr rfl, fun other read => (reading_iff.mp read).symm,
    fun rendered => render_eq_some_iff, fun group absent => ?_,
    fun group beyond => Regex.Captures.get_of_le beyond, render_ne_empty template captures,
    scanned?_eq⟩
  rw [added, absent]
  rfl

/-- A number between an accented letter and further marks. The first group captured what looks like
a reference, and the second one took no part. -/
theorem render_iff_nested :
    let template := "é\\1$$2\\99999999999999999999x"
    let captures : Regex.Captures := ⟨[some "v", some " \\2 ", none]⟩
    captures.groups.length < 2 ^ 64 ∧ render template captures = some "é\\2$x" ∧
      scanned? template captures = some (some "é\\2$x") := by
  intro template captures
  have few : captures.groups.length < 2 ^ 64 := by decide
  have rendered : render template captures = some "é\\2$x" := by
    decide +kernel
  obtain ⟨parts, -, -, -, -, -, -, scanned⟩ := render_iff template captures
  exact ⟨few, rendered, rendered ▸ scanned few⟩

end Template

end Fingerprint
