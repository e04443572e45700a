import Fingerprint.Proofs.PatternClosing

/-!
What the readers of bracketed classes make of a closing parenthesis behind the pattern.

To a class the parenthesis is a character like others. A class that has not been closed goes on
behind it, and takes it at least.
-/

set_option autoImplicit false

namespace Fingerprint.Regex

variable {bound : Tail → List Char} {verbose : Bool}

/-! ### Named classes -/

theorem asciiClassNamed?_of_mem {name : List Char} (mem : ')' ∈ name) :
    asciiClassNamed? (String.ofList name) = none := by
  have other {text : String} (free : ')' ∉ text.toList) : String.ofList name ≠ text := by
    rintro rfl
    exact free (String.toList_ofList ▸ mem)
  unfold asciiClassNamed?
  split
  case h_15 => rfl
  all_goals
    rename_i same
    exact absurd same (other (by decide))

theorem readAsciiClose_of_mem {negated : Bool} {name : List Char} (mem : ')' ∈ name)
    (left : List Char) : readAsciiClose negated name left = none := by
  unfold readAsciiClose
  split
  · rw [asciiClassNamed?_of_mem mem]
    rfl
  · rfl

theorem readAsciiClose_closing (negated : Bool) (name left : List Char) (tail : Tail) :
    readAsciiClose negated name (left ++ tail.closing) =
      (readAsciiClose negated name left).map fun (item, after) =>
        (item, after ++ tail.closing) := by
  have none {left : List Char} (other : ∀ after, left ≠ ':' :: ']' :: after) :
      readAsciiClose negated name left = none := readAsciiClose.eq_2 _ _ left other
  obtain _ | ⟨c, _ | ⟨d, after⟩⟩ := left
  · rfl
  · have other (behind : List Char) : ∀ after, c :: ')' :: behind ≠ ':' :: ']' :: after := by
      rintro after same
      cases same
    rw [List.cons_append, List.nil_append, Tail.closing, none (other _), none fun _ same => ?_]
    · rfl
    · cases same
  · by_cases closes : c = ':' ∧ d = ']'
    · obtain ⟨rfl, rfl⟩ := closes
      simp only [List.cons_append, readAsciiClose, Option.map_map]
      rfl
    · have other (after : List Char) : ∀ behind, c :: d :: after ≠ ':' :: ']' :: behind := by
        rintro behind same
        cases same
        exact closes ⟨rfl, rfl⟩
      rw [List.cons_append, List.cons_append, none (other _), none (other _)]
      rfl

theorem readAsciiName_closing (negated : Bool) (start : List Char) (tail : Tail) :
    readAsciiName negated (start ++ tail.closing) =
      (readAsciiName negated start).map fun (item, after) => (item, after ++ tail.closing) := by
  have parts : start.takeWhile (· ≠ ':') ++ start.dropWhile (· ≠ ':') = start :=
    List.takeWhile_append_dropWhile
  unfold readAsciiName
  rw [List.dropWhile_append, List.takeWhile_append]
  generalize start.takeWhile (· ≠ ':') = name at parts
  generalize start.dropWhile (· ≠ ':') = left at parts
  subst parts
  cases left with
  | nil =>
    -- The name goes on behind the parenthesis, and no name holds one.
    rw [List.append_nil, if_pos rfl]
    exact readAsciiClose_of_mem (List.mem_append_right name List.mem_cons_self) _
  | cons c rest =>
    have stopped : name.length ≠ (name ++ c :: rest).length := by
      rw [List.length_append, List.length_cons]
      omega
    rw [if_neg stopped, List.isEmpty_cons, if_neg Bool.false_ne_true]
    exact readAsciiClose_closing negated name (c :: rest) tail

theorem readAsciiFrom_closing (start : List Char) (tail : Tail) :
    readAsciiFrom (start ++ tail.closing) =
      (readAsciiFrom start).map fun (item, after) => (item, after ++ tail.closing) := by
  cases start with
  | nil => exact readAsciiName_closing false [] tail
  | cons c rest =>
    simp only [List.cons_append, readAsciiFrom]
    split
    · exact readAsciiName_closing true rest tail
    · exact readAsciiName_closing false (c :: rest) tail

theorem readAsciiClass?_closing (chars : List Char) (tail : Tail) :
    readAsciiClass? (chars ++ tail.closing) =
      (readAsciiClass? chars).map fun (item, after) => (item, after ++ tail.closing) := by
  obtain _ | ⟨c, _ | ⟨d, rest⟩⟩ := chars
  · rfl
  · have alone : readAsciiClass? [c] = none := by
      apply readAsciiClass?.eq_2
      intro rest same
      cases same
    rw [alone, List.cons_append, List.nil_append, Tail.closing, readAsciiClass?_eq, if_neg]
    · rfl
    · rintro ⟨-, colon⟩
      cases colon
  · simp only [List.cons_append, readAsciiClass?_eq]
    split
    · exact readAsciiFrom_closing rest tail
    · rfl

/-! ### Elements and ranges -/

theorem Enclosed.weaken {α : Type} {alone : Except SyntaxError (α × List Char)}
    {closed : Tail → Except SyntaxError (α × List Char)}
    (enclosed : Enclosed Tail.chars alone closed) : Enclosed Tail.closing alone closed := by
  cases enclosed with
  | leaves closes => exact .leaves closes
  | swallows closes => exact .swallows closes
  | fails closes => exact .fails fun tail => (closes tail).trans (List.suffix_cons ')' tail.chars)

theorem enclosed_readClassElement (verbose : Bool) (chars : List Char) :
    Enclosed Tail.chars (readClassElement verbose chars)
      (fun tail => readClassElement verbose (chars ++ tail.closing)) ∨
    EndsAtBrace verbose (.assertion .wordBoundary) (readClassElement verbose chars) fun tail =>
      readClassElement verbose (chars ++ tail.closing) := by
  cases chars with
  | nil => exact .inl (.fails fun tail => within_ok (List.suffix_refl tail.chars))
  | cons c rest =>
    by_cases backslash : c = '\\'
    · subst backslash
      exact enclosed_readEscape '\\' rest
    · have literal (rest : List Char) :
          readClassElement verbose (c :: rest) = .ok (.literal ⟨c, false⟩, rest) :=
        readClassElement.eq_3 verbose c rest fun same => backslash same
      simp only [List.cons_append, literal]
      exact .inl enclosed_ok

theorem enclosed_readRangeEnd (first : Escape) (chars : List Char) :
    Enclosed Tail.chars (readRangeEnd verbose first chars) fun tail =>
      readRangeEnd verbose first (chars ++ tail.closing) := by
  cases chars with
  | nil => exact .fails fun tail => within_readRangeEnd first tail.closing
  | cons c rest =>
    simp only [readRangeEnd, List.cons_append, List.isEmpty_cons, Bool.false_eq_true, if_false]
    obtain read | ⟨reason, spaces, alone, -, closes⟩ :=
      enclosed_readClassElement verbose (c :: rest)
    · refine read.bind _ (fun last after => ?_) fun last after _ => ?_
      · refine Within.check fun _ => Within.check fun _ => ?_
        split
        · exact within_ok (List.suffix_refl _)
        · exact within_error _ _
      · refine Enclosed.check fun _ => Enclosed.check fun _ => ?_
        split
        · exact enclosed_ok
        · exact enclosed_error
    · simp only [List.cons_append] at closes
      simp only [alone, closes]
      refine .fails fun tail => ?_
      change Within (first.toLiteral >>= fun _ => .error .classRangeLiteral) _
      exact Within.check fun _ => within_error _ _

/-- What stands behind a character, as far as a dash asks for it. -/
theorem peekSpace_closing (c : Char) (rest : List Char) (tail : Tail) :
    peekSpace verbose (c :: rest ++ tail.closing) =
      (peekSpace verbose (c :: rest)).or (some ')') := by
  have go (inComment : Bool) (rest : List Char) :
      peekSpace.go inComment (rest ++ tail.closing) =
        (peekSpace.go inComment rest).or (some ')') := by
    induction rest generalizing inComment with
    | nil => cases inComment <;> rfl
    | cons c rest ih =>
      simp only [List.cons_append, peekSpace.go]
      split
      · exact ih inComment
      · split
        · exact ih true
        · rfl
  cases verbose with
  | true => exact go false rest
  | false => cases rest <;> rfl

theorem enclosed_readRangeFrom (first : Escape) (chars : List Char) :
    Enclosed Tail.closing (readRangeFrom verbose first chars) fun tail =>
      readRangeFrom verbose first (chars ++ tail.closing) := by
  cases chars with
  | nil => exact .fails fun tail => within_readRangeFrom first tail.closing
  | cons c rest =>
    have asks (mark : Char) (other : mark ≠ ')') (tail : Tail) :
        peekSpace verbose (c :: (rest ++ tail.closing)) = some mark ↔
          peekSpace verbose (c :: rest) = some mark := by
      rw [← List.cons_append, peekSpace_closing]
      cases peekSpace verbose (c :: rest) with
      | none => simpa using other.symm
      | some => rfl
    simp only [List.cons_append, readRangeFrom, asks ']' (by decide), asks '-' (by decide)]
    split
    · exact Enclosed.check fun _ => enclosed_ok
    · exact ((kept_bump _ _).enclosed _
        (fun chars => (within_readRangeEnd first chars).trans (List.drop_suffix 1 chars))
        (enclosed_readRangeEnd first _)).weaken

theorem enclosed_readClassRange (chars : List Char) :
    Enclosed Tail.closing (readClassRange verbose chars) fun tail =>
      readClassRange verbose (chars ++ tail.closing) := by
  simp only [readClassRange_eq]
  obtain read | ⟨reason, spaces, alone, -, closes⟩ :=
    enclosed_readClassElement verbose chars
  · refine read.weaken.bind _ (fun first after => ?_) fun first after _ => ?_
    · exact (within_readRangeFrom first _).trans (skipSpace_suffix verbose after)
    · exact (kept_skipSpace verbose after).enclosed _ (within_readRangeFrom first)
        (enclosed_readRangeFrom first _)
  · simp only [alone, closes]
    refine .fails fun tail => ?_
    change Within (readRangeFrom verbose _ (skipSpace verbose ('{' :: _))) _
    rw [skipSpace_brace]
    exact within_error _ _

/-! ### The beginning of a class -/

theorem enclosed_leadingDashes (chars : List Char) :
    Enclosed bound (.ok (leadingDashes verbose chars)) fun tail =>
      .ok (leadingDashes verbose (chars ++ tail.closing)) := by
  induction length : chars.length using Nat.strongRecOn generalizing chars with
  | ind count ih =>
    subst length
    cases chars with
    | nil =>
      refine .leaves fun tail => ?_
      rw [List.nil_append, Tail.closing, leadingDashes_cons, if_neg (by decide)]
    | cons c rest =>
      simp only [List.cons_append, leadingDashes_cons]
      split
      · have shorter : (bump verbose (c :: rest)).length ≤ rest.length :=
          (bump_suffix verbose _).length_le
        have further : Enclosed bound (.ok (leadingDashes verbose (bump verbose (c :: rest))))
            fun tail => .ok (leadingDashes verbose (bump verbose (c :: rest ++ tail.closing))) :=
          (kept_bump _ _).enclosed (fun chars => .ok (leadingDashes verbose chars))
            (fun chars => within_ok (readLeadingDashes_suffix _ chars))
            (ih _ (Nat.lt_succ_of_le shorter) _ rfl)
        exact further.bind (fun read => .ok (.literal ⟨'-', false⟩ :: read.1, read.2))
          (fun _ _ => within_ok (List.suffix_refl _)) fun _ _ _ => enclosed_ok
      · exact enclosed_ok

theorem enclosed_readClassBegun (negated : Bool) (dashes : List ClassSet) (chars : List Char) :
    Enclosed Tail.closing (readClassBegun verbose negated (dashes, chars)) fun tail =>
      readClassBegun verbose negated (dashes, chars ++ tail.closing) := by
  cases chars with
  | nil => exact .fails fun tail => within_readClassBegun negated dashes tail.closing
  | cons c rest =>
    simp only [List.cons_append, readClassBegun]
    split
    · refine (kept_bump _ _).enclosed (fun after =>
        if after.isEmpty then .error .classUnclosed
        else .ok ((negated, [ClassSet.literal ⟨']', false⟩]), after)) (fun after => ?_) ?_
      · split
        · exact within_error _ _
        · exact within_ok (List.suffix_refl _)
      · generalize bump verbose (c :: rest) = after
        cases after with
        | nil => exact .fails fun tail => within_ok (List.suffix_refl _)
        | cons => exact enclosed_ok
    · exact enclosed_ok

theorem enclosed_readClassFrom (chars : List Char) :
    Enclosed Tail.closing (readClassFrom verbose chars) fun tail =>
      readClassFrom verbose (chars ++ tail.closing) := by
  have within (negated : Bool) (dashes : List ClassSet) (chars : List Char) :
      Within (readClassBegun verbose negated (dashes, chars)) chars :=
    within_readClassBegun negated dashes chars
  have begun (negated : Bool) (start : List Char) :
      Enclosed Tail.closing (readClassBegun verbose negated (leadingDashes verbose start))
        fun tail => readClassBegun verbose negated (leadingDashes verbose (start ++ tail.closing)) :=
    (enclosed_leadingDashes start).bind _ (within negated)
      fun dashes after _ => enclosed_readClassBegun negated dashes after
  cases chars with
  | nil => exact begun false []
  | cons c rest =>
    simp only [List.cons_append, readClassFrom]
    split
    · exact (kept_bump _ _).enclosed
        (fun start => readClassBegun verbose true (leadingDashes verbose start))
        (fun start => (within _ _ _).trans (readLeadingDashes_suffix _ start)) (begun true _)
    · exact begun false (c :: rest)

theorem enclosed_readClassOpen (c : Char) (rest : List Char) :
    Enclosed Tail.closing (readClassOpen verbose (c :: rest)) fun tail =>
      readClassOpen verbose (c :: rest ++ tail.closing) := by
  simp only [readClassOpen_eq]
  exact (kept_bump _ _).enclosed _ within_readClassFrom (enclosed_readClassFrom _)

/-! ### The items of a class -/

/-- The same mark with the parenthesis behind what is left. -/
def ClassMark.closing (tail : Tail) : ClassMark → ClassMark
  | .open => .open
  | .close rest => .close (rest ++ tail.closing)
  | .operator sign rest => .operator sign (rest ++ tail.closing)
  | .item => .item

theorem classMark_closing (c : Char) (rest : List Char) (tail : Tail) :
    classMark (c :: rest ++ tail.closing) = (classMark (c :: rest)).closing tail := by
  unfold classMark
  obtain _ | ⟨d, rest⟩ := rest
  all_goals
    rw [Tail.closing]
    split
    all_goals
      split
      all_goals simp_all [ClassMark.closing, Tail.closing]

section

variable {next : OpenClass → List OpenClass → List Char →
    Except SyntaxError ((Bool × ClassSet) × List Char)}

theorem enclosed_readClassMarked
    (within : ∀ current outer chars, Within (next current outer chars) (chars.drop 1))
    (current : OpenClass) (outer : List OpenClass) (c : Char) (rest : List Char)
    (further : ∀ current outer chars, chars.length ≤ rest.length →
      Enclosed Tail.chars (next current outer chars) fun tail =>
        next current outer (chars ++ tail.closing)) :
    Enclosed Tail.chars (readClassMarked verbose next current outer (c :: rest)) fun tail =>
      readClassMarked verbose next current outer (c :: rest ++ tail.closing) := by
  simp only [readClassMarked, classMark_closing]
  cases mark : classMark (c :: rest) with
  | «open» =>
    simp only [ClassMark.closing, readAsciiClass?_closing]
    cases read : readAsciiClass? (c :: rest) with
    | some found => exact further _ _ _ (readAsciiClass?_suffix read).length_le
    | none =>
      refine (enclosed_readClassOpen c rest).bind_drop _ (fun _ _ => within _ _ _)
        fun opened after read => ?_
      exact further _ _ _ (within_readClassOpen _ opened after read).length_le
  | close behind =>
    simp only [ClassMark.closing]
    cases outer with
    | nil => exact enclosed_ok
    | cons => exact further _ _ _ (classMark_close_suffix mark).length_le
  | operator sign behind =>
    simp only [ClassMark.closing]
    exact further _ _ _ (classMark_operator_suffix mark).length_le
  | item =>
    refine (enclosed_readClassRange (c :: rest)).bind_drop _ (fun _ _ => within _ _ _)
      fun item after read => ?_
    exact further _ _ _ (within_readClassRange _ item after read).length_le

end

theorem within_classItems (current : OpenClass) (outer : List OpenClass) (chars : List Char) :
    Within (classItems verbose current outer chars) (chars.drop 1) :=
  within_readClassItems _ current outer chars

theorem enclosed_classItems (current : OpenClass) (outer : List OpenClass) (chars : List Char) :
    Enclosed Tail.chars (classItems verbose current outer chars) fun tail =>
      classItems verbose current outer (chars ++ tail.closing) := by
  induction length : chars.length using Nat.strongRecOn generalizing current outer chars with
  | ind count ih =>
    subst length
    have shorter := (skipSpace_suffix verbose chars).length_le
    have within_marked (chars : List Char) :
        Within (readClassMarked verbose (classItems verbose) current outer chars) (chars.drop 1) :=
      within_readClassMarked (fun _ _ chars =>
        (within_classItems _ _ chars).trans (List.drop_suffix 1 chars)) current outer chars
    simp only [classItems_eq current outer]
    refine (kept_skipSpace verbose chars).enclosed (classItemsFrom verbose current outer)
      (fun chars => ?_) ?_
    · cases chars with
      | nil => exact within_error _ _
      | cons c rest => exact (within_marked _).trans (List.suffix_cons c rest)
    · cases start : skipSpace verbose chars with
      | nil => exact .fails fun tail => within_marked tail.closing
      | cons c rest =>
        rw [start] at shorter
        exact enclosed_readClassMarked within_classItems current outer c rest
          fun _ _ chars le => ih _ (Nat.lt_of_le_of_lt le shorter) _ _ chars rfl

theorem enclosed_readClass (c : Char) (rest : List Char) :
    Enclosed Tail.chars (readClass verbose (c :: rest)) fun tail =>
      readClass verbose (c :: rest ++ tail.closing) := by
  simp only [readClass_eq]
  refine (enclosed_readClassOpen c rest).bind_drop _ (fun _ after => ?_) fun _ after _ => ?_
  · exact (within_readClassItems _ _ _ after).bind fun _ _ => within_ok (List.suffix_refl _)
  · exact (enclosed_classItems _ _ after).bind _
      (fun _ _ => within_ok (List.suffix_refl _)) fun _ _ _ => enclosed_ok

end Fingerprint.Regex
