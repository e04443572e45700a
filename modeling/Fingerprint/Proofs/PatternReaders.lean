import Fingerprint.Proofs.PatternMarks

/-!
The readers of patterns take characters from the front.

What a reader leaves stands at the end of what it was given. A reader that begins at a mark takes
the mark at least.
-/

set_option autoImplicit false

namespace Fingerprint.Regex

section

variable {α β : Type}

/-- If something has been read, what is left stands at the end of the characters. -/
def Within (outcome : Except SyntaxError (α × List Char)) (chars : List Char) : Prop :=
  ∀ value rest, outcome = .ok (value, rest) → rest <:+ chars

theorem within_error (reason : SyntaxError) (chars : List Char) :
    Within (.error reason : Except SyntaxError (α × List Char)) chars :=
  nofun

theorem within_ok {value : α} {rest chars : List Char} (suffix : rest <:+ chars) :
    Within (.ok (value, rest)) chars := by
  rintro _ _ ⟨⟩
  exact suffix

theorem Within.trans {outcome : Except SyntaxError (α × List Char)} {chars longer : List Char}
    (within : Within outcome chars) (suffix : chars <:+ longer) : Within outcome longer :=
  fun value rest read => (within value rest read).trans suffix

theorem Within.bind {outcome : Except SyntaxError (α × List Char)}
    {next : α × List Char → Except SyntaxError (β × List Char)} {chars : List Char}
    (first : Within outcome chars) (then_ : ∀ value rest, Within (next (value, rest)) rest) :
    Within (outcome >>= next) chars := by
  cases outcome with
  | error reason => exact within_error reason chars
  | ok read =>
    obtain ⟨value, rest⟩ := read
    exact (then_ value rest).trans (first value rest rfl)

/-- A check between two readers takes nothing. -/
theorem Within.check {check : Except SyntaxError α}
    {next : α → Except SyntaxError (β × List Char)} {chars : List Char}
    (then_ : ∀ value, Within (next value) chars) : Within (check >>= next) chars := by
  cases check with
  | error reason => exact within_error reason chars
  | ok value => exact then_ value

end

variable {verbose : Bool} {chars : List Char}

theorem suffix_tail {c : Char} {rest : List Char} (suffix : c :: rest <:+ chars) : rest <:+ chars :=
  (List.suffix_cons c rest).trans suffix

theorem suffix_drop {rest : List Char} (suffix : rest <:+ chars) :
    rest.drop 1 <:+ chars.drop 1 := by
  obtain _ | ⟨c, chars⟩ := chars
  · exact List.suffix_nil.mp suffix ▸ List.suffix_refl _
  · obtain rfl | within := List.suffix_cons_iff.mp suffix
    · exact List.suffix_refl _
    · exact (List.drop_suffix 1 rest).trans within

/-- A reader that begins at a mark takes one character more. -/
theorem Within.bind_drop {α β : Type} {outcome : Except SyntaxError (α × List Char)}
    {next : α × List Char → Except SyntaxError (β × List Char)} (first : Within outcome chars)
    (then_ : ∀ value rest, Within (next (value, rest)) (rest.drop 1)) :
    Within (outcome >>= next) (chars.drop 1) := by
  cases outcome with
  | error reason => exact within_error reason _
  | ok read =>
    obtain ⟨value, rest⟩ := read
    exact (then_ value rest).trans (suffix_drop (first value rest rfl))

/-! ### Spaces -/

theorem afterLine_suffix (chars : List Char) : afterLine chars <:+ chars := by
  fun_induction afterLine chars with
  | case1 => exact List.suffix_refl _
  | case2 rest => exact List.suffix_cons _ _
  | case3 c rest _ ih => exact ih.trans (List.suffix_cons c rest)

theorem skipSpace_suffix (verbose : Bool) (chars : List Char) :
    skipSpace verbose chars <:+ chars := by
  have go (fuel : Nat) (chars : List Char) : skipSpace.go fuel chars <:+ chars := by
    fun_induction skipSpace.go fuel chars with
    | case1 | case2 | case5 => exact List.suffix_refl _
    | case3 fuel c rest _ ih => exact ih.trans (List.suffix_cons c rest)
    | case4 fuel rest _ ih =>
      exact (ih.trans (afterLine_suffix rest)).trans (List.suffix_cons _ rest)
  unfold skipSpace
  split
  · exact go _ chars
  · exact List.suffix_refl _

theorem bump_suffix (verbose : Bool) (chars : List Char) : bump verbose chars <:+ chars.drop 1 :=
  skipSpace_suffix verbose _

theorem takeSpaced_suffix (verbose : Bool) (keep : Char → Bool) (fuel : Nat) (chars : List Char) :
    (takeSpaced verbose keep fuel chars).2 <:+ chars := by
  fun_induction takeSpaced verbose keep fuel chars with
  | case1 | case2 | case4 => exact List.suffix_refl _
  | case3 fuel c rest _ taken after read ih =>
    rw [read] at ih
    exact (ih.trans (skipSpace_suffix verbose rest)).trans (List.suffix_cons c rest)

theorem spaced_suffix (verbose : Bool) (keep : Char → Bool) (chars : List Char) :
    (spaced verbose keep chars).2 <:+ chars :=
  takeSpaced_suffix verbose keep _ chars

/-! ### Escapes -/

theorem within_readHexDigits (count : Nat) (digits chars : List Char) :
    Within (readHexDigits verbose count digits chars) chars := by
  fun_induction readHexDigits verbose count digits chars with
  | case1 => exact within_ok (List.suffix_refl _)
  | case2 | case4 => exact within_error _ _
  | case3 count digits c rest _ ih =>
    exact (ih.trans (skipSpace_suffix verbose rest)).trans (List.suffix_cons c rest)

theorem within_readHexClose (digits chars : List Char) :
    Within (readHexClose verbose digits chars) chars := by
  unfold readHexClose
  split
  next => exact within_error _ _
  next c after =>
    split
    · split
      · exact within_error _ _
      · split
        · exact within_ok ((skipSpace_suffix verbose after).trans (List.suffix_cons c after))
        · exact within_error _ _
    · exact within_error _ _

theorem within_readHexFixed (letter : Char) (chars : List Char) :
    Within (readHexFixed verbose letter chars) chars := by
  refine (within_readHexDigits _ [] chars).bind fun digits rest => ?_
  dsimp only
  split
  · exact within_ok (List.suffix_refl _)
  · exact within_error _ _

theorem within_readHexFrom (letter : Char) (chars : List Char) :
    Within (readHexFrom verbose letter chars) chars := by
  unfold readHexFrom
  split
  next => exact within_error _ _
  next c rest =>
    split
    · exact (within_readHexClose _ _).trans ((spaced_suffix verbose isHexDigit _).trans
        ((skipSpace_suffix verbose rest).trans (List.suffix_cons c rest)))
    · exact within_readHexFixed letter _

theorem within_readHex (letter : Char) (chars : List Char) :
    Within (readHex verbose letter chars) (chars.drop 1) := by
  rw [readHex_eq]
  exact (within_readHexFrom letter _).trans (bump_suffix verbose chars)

theorem within_readPropertyClose (negated : Bool) (text chars : List Char) :
    Within (readPropertyClose negated (text, chars)) (chars.drop 1) := by
  cases chars with
  | nil => exact within_error _ _
  | cons => exact within_ok (List.suffix_refl _)

theorem within_readPropertyFrom (negated : Bool) (chars : List Char) :
    Within (readPropertyFrom verbose negated chars) chars := by
  unfold readPropertyFrom
  split
  next => exact within_error _ _
  next c rest =>
    have skipped := (skipSpace_suffix verbose rest).trans (List.suffix_cons c rest)
    split
    · exact (within_readPropertyClose negated _ _).trans ((List.drop_suffix 1 _).trans
        ((spaced_suffix verbose (· ≠ '}') _).trans skipped))
    · split
      · exact within_error _ _
      · exact within_ok skipped

theorem within_readProperty (chars : List Char) :
    Within (readProperty verbose chars) (chars.drop 1) := by
  rw [readProperty_eq]
  exact (within_readPropertyFrom _ _).trans (bump_suffix verbose chars)

theorem within_readBoundaryClose (name chars : List Char) :
    Within (readBoundaryClose name chars) chars := by
  unfold readBoundaryClose
  split
  next after =>
    split
    all_goals first
      | exact within_ok (List.suffix_cons _ after)
      | exact within_error _ _
  next => exact within_error _ _

theorem within_readBoundaryName (chars : List Char) :
    Within (readBoundaryName verbose chars) chars := by
  obtain _ | ⟨c, rest⟩ := chars
  · exact within_ok (List.suffix_refl _)
  rw [readBoundaryName_eq]
  split
  next =>
    have bumped : bump verbose (c :: rest) <:+ c :: rest :=
      (bump_suffix verbose _).trans (List.suffix_cons c rest)
    unfold readBoundaryFrom
    split
    next => exact within_error _ _
    next start =>
      rw [start] at bumped
      split
      · exact (within_readBoundaryClose _ _).trans ((spaced_suffix verbose _ _).trans bumped)
      · exact within_ok (List.suffix_refl _)
  next => exact within_ok (List.suffix_refl _)

theorem within_readEscape (chars : List Char) :
    Within (readEscape verbose chars) (chars.drop 1) := by
  rw [readEscape_eq]
  split
  next => exact within_error _ _
  next c rest start =>
    rw [start]
    refine Within.trans ?_ (List.suffix_cons c rest)
    split
    next => exact within_error _ _
    next => exact (within_readHex c _).bind fun _ _ => within_ok (List.suffix_refl _)
    next => exact (within_readProperty _).bind fun _ _ => within_ok (List.suffix_refl _)
    next => exact (within_readBoundaryName rest).bind fun _ _ => within_ok (List.suffix_refl _)
    next => exact within_ok (List.suffix_refl _)

/-! ### Bracketed classes -/

theorem readAsciiClass?_suffix {item : ClassSet} {after : List Char}
    (read : readAsciiClass? chars = some (item, after)) : after <:+ chars.drop 1 := by
  unfold readAsciiClass? at read
  split at read
  next rest =>
    dsimp only at read
    split at read
    next after' stop =>
      obtain ⟨kind, _, made⟩ := Option.map_eq_some_iff.mp read
      cases made
      have dropped {start : List Char} (stop : start.dropWhile (· ≠ ':') = ':' :: ']' :: after) :
          after <:+ start :=
        suffix_tail (suffix_tail (stop ▸ List.dropWhile_suffix _))
      refine (dropped stop).trans (List.IsSuffix.trans ?_ (List.suffix_cons ':' rest))
      split
      · exact List.drop_suffix 1 rest
      · exact List.suffix_refl _
    next => cases read
  next => cases read

theorem within_readClassElement (chars : List Char) :
    Within (readClassElement verbose chars) (chars.drop 1) := by
  unfold readClassElement
  split
  next => exact within_error _ _
  next => exact within_readEscape _
  next c rest _ => exact within_ok (List.suffix_refl _)

theorem within_readRangeEnd (first : Escape) (chars : List Char) :
    Within (readRangeEnd verbose first chars) (chars.drop 1) := by
  unfold readRangeEnd
  split
  · exact within_error _ _
  · refine (within_readClassElement chars).bind fun last after => ?_
    refine Within.check fun _ => Within.check fun _ => ?_
    split
    · exact within_ok (List.suffix_refl _)
    · exact within_error _ _

theorem within_readRangeFrom (first : Escape) (chars : List Char) :
    Within (readRangeFrom verbose first chars) chars := by
  unfold readRangeFrom
  split
  next => exact within_error _ _
  next c rest =>
    dsimp only
    split
    · exact Within.check fun _ => within_ok (List.suffix_refl _)
    · exact (within_readRangeEnd first _).trans ((List.drop_suffix 1 _).trans
        ((bump_suffix verbose _).trans (List.suffix_cons c rest)))

theorem within_readClassRange (chars : List Char) :
    Within (readClassRange verbose chars) (chars.drop 1) := by
  rw [readClassRange_eq]
  exact (within_readClassElement chars).bind fun first after =>
    (within_readRangeFrom first _).trans (skipSpace_suffix verbose after)

theorem readLeadingDashes_suffix (fuel : Nat) (chars : List Char) :
    (readLeadingDashes verbose fuel chars).2 <:+ chars := by
  fun_induction readLeadingDashes verbose fuel chars with
  | case1 | case3 => exact List.suffix_refl _
  | case2 fuel rest dashes after read ih =>
    exact (ih.trans (bump_suffix verbose _)).trans (List.suffix_cons _ rest)

theorem within_readClassBegun (negated : Bool) (dashes : List ClassSet) (chars : List Char) :
    Within (readClassBegun verbose negated (dashes, chars)) chars := by
  unfold readClassBegun
  split
  next => exact within_error _ _
  next same =>
    cases same
    dsimp only
    split
    · split
      · exact within_error _ _
      · exact within_ok ((bump_suffix verbose _).trans (List.drop_suffix 1 _))
    · exact within_ok (List.suffix_refl _)

theorem within_readClassFrom (chars : List Char) :
    Within (readClassFrom verbose chars) chars := by
  have begun {negated : Bool} (start : List Char) :
      Within (readClassBegun verbose negated (leadingDashes verbose start)) start :=
    (within_readClassBegun negated _ _).trans (readLeadingDashes_suffix _ start)
  unfold readClassFrom
  split
  next => exact within_error _ _
  next c rest =>
    split
    · exact (begun _).trans ((bump_suffix verbose _).trans (List.drop_suffix 1 _))
    · exact begun _

theorem within_readClassOpen (chars : List Char) :
    Within (readClassOpen verbose chars) (chars.drop 1) := by
  rw [readClassOpen_eq]
  exact (within_readClassFrom _).trans (bump_suffix verbose chars)

theorem classMark_close_suffix {rest : List Char} (mark : classMark chars = .close rest) :
    rest <:+ chars.drop 1 := by
  unfold classMark at mark
  split at mark
  all_goals cases mark
  exact List.suffix_refl _

theorem classMark_operator_suffix {operator : SetOperator} {rest : List Char}
    (mark : classMark chars = .operator operator rest) : rest <:+ chars.drop 1 := by
  unfold classMark at mark
  split at mark
  all_goals cases mark
  all_goals exact List.suffix_cons _ _

theorem within_readClassMarked
    {next : OpenClass → List OpenClass → List Char →
      Except SyntaxError ((Bool × ClassSet) × List Char)}
    (within : ∀ current outer chars, Within (next current outer chars) chars)
    (current : OpenClass) (outer : List OpenClass) (chars : List Char) :
    Within (readClassMarked verbose next current outer chars) (chars.drop 1) := by
  unfold readClassMarked
  split
  next =>
    split
    next item after read => exact (within _ _ after).trans (readAsciiClass?_suffix read)
    next => exact (within_readClassOpen chars).bind fun opened after => within _ _ after
  next rest mark =>
    have left := classMark_close_suffix mark
    split
    · exact within_ok left
    · exact (within _ _ rest).trans left
  next operator rest mark => exact (within _ _ rest).trans (classMark_operator_suffix mark)
  next => exact (within_readClassRange chars).bind fun item after => within _ _ after

theorem within_readClassItems (fuel : Nat) (current : OpenClass) (outer : List OpenClass)
    (chars : List Char) :
    Within (readClassItems verbose fuel current outer chars) (chars.drop 1) := by
  induction fuel generalizing current outer chars with
  | zero => exact within_error _ _
  | succ fuel ih =>
    have skipped := skipSpace_suffix verbose chars
    rw [readClassItems_succ]
    split
    next => exact within_error _ _
    next c rest start =>
      rw [start] at skipped
      have within (current : OpenClass) (outer : List OpenClass) (chars : List Char) :=
        (ih current outer chars).trans (List.drop_suffix 1 chars)
      exact (within_readClassMarked within current outer _).trans (suffix_drop skipped)

theorem within_readClass (chars : List Char) :
    Within (readClass verbose chars) (chars.drop 1) := by
  refine (within_readClassOpen chars).bind fun opened rest => ?_
  refine Within.bind ?_ fun contents after => within_ok (List.suffix_refl after)
  exact (within_readClassItems _ _ _ rest).trans (List.drop_suffix 1 rest)

/-! ### Groups and repetitions -/

theorem within_readFlags (flags : FlagList) (dashed dangling : Bool) (chars : List Char) :
    Within (readFlags flags dashed dangling chars) chars := by
  fun_induction readFlags flags dashed dangling chars with
  | case1 | case2 | case4 | case6 | case7 => exact within_error _ _
  | case3 => exact within_ok (List.suffix_refl _)
  | case5 | case8 | case9 =>
    rename_i ih
    exact ih.trans (List.suffix_cons _ _)

theorem within_readName (name chars : List Char) : Within (readName name chars) chars := by
  fun_induction readName name chars with
  | case1 | case2 | case5 => exact within_error _ _
  | case3 name rest => exact within_ok (List.suffix_cons _ rest)
  | case4 name c rest _ _ ih => exact ih.trans (List.suffix_cons c rest)

theorem within_readNamed (captures : Nat) (names : List String) (chars : List Char) :
    Within (readNamed captures names chars) chars := by
  refine (within_readName [] chars).bind fun name after => ?_
  dsimp only
  split
  · exact within_error _ _
  · exact within_ok (List.suffix_refl _)

theorem within_readFlagsClose (flags : FlagList) (chars : List Char) :
    Within (readFlagsClose flags chars) (chars.drop 1) := by
  unfold readFlagsClose
  split
  next =>
    split
    · exact within_error _ _
    · exact within_ok (List.suffix_refl _)
  next => exact within_ok (List.suffix_refl _)

theorem within_readFlagged (chars : List Char) :
    Within (readFlagged chars) (chars.drop 1) := by
  unfold readFlagged
  split
  · exact within_error _ _
  · exact (within_readFlags _ _ _ chars).bind_drop within_readFlagsClose

theorem angleMark_suffix {rest : List Char} (mark : angleMark chars = .name rest) :
    rest <:+ chars := by
  unfold angleMark at mark
  split at mark
  all_goals cases mark
  exact List.suffix_refl _

theorem groupMark_suffix {rest : List Char} (mark : groupMark chars = .name rest) :
    rest <:+ chars := by
  unfold groupMark at mark
  split at mark
  next => cases mark
  next => cases mark
  next =>
    cases mark
    exact List.suffix_append ['P', '<'] _
  next => exact (angleMark_suffix mark).trans (List.suffix_cons _ _)
  next => cases mark

theorem within_readGroupFrom (captures : Nat) (names : List String) (chars : List Char) :
    Within (readGroupFrom captures names chars) chars := by
  unfold readGroupFrom
  split
  next rest =>
    refine Within.trans ?_ (List.suffix_cons '?' rest)
    split
    next => exact within_error _ _
    next name mark => exact (within_readNamed _ _ name).trans (groupMark_suffix mark)
    next => exact (within_readFlagged rest).trans (List.drop_suffix 1 rest)
  next => exact within_ok (List.suffix_refl _)

theorem within_readGroupOpen (captures : Nat) (names : List String) (chars : List Char) :
    Within (readGroupOpen verbose captures names chars) (chars.drop 1) := by
  rw [readGroupOpen_eq]
  exact (within_readGroupFrom _ _ _).trans (bump_suffix verbose chars)

theorem readLazy_suffix (chars : List Char) : (readLazy chars).2 <:+ chars := by
  unfold readLazy
  split
  · exact List.suffix_cons _ _
  · exact List.suffix_refl _

theorem readDecimalFrom_suffix (chars : List Char) : (readDecimalFrom verbose chars).2 <:+ chars :=
  (spaced_suffix verbose _ _).trans (spaced_suffix verbose _ chars)

theorem readDecimal_suffix (chars : List Char) : (readDecimal verbose chars).2 <:+ chars := by
  rw [readDecimal_eq]
  exact (readDecimalFrom_suffix _).trans (List.dropWhile_suffix _)

theorem within_readCountsClose (bounds : Bounds) (chars : List Char) :
    Within (readCountsClose bounds chars) chars := by
  unfold readCountsClose
  split
  next after => exact within_ok (List.suffix_cons _ after)
  next => exact within_error _ _

theorem within_readMost (least : Nat) (chars : List Char) :
    Within (readMost verbose least chars) chars :=
  Within.check fun _ => (within_readCountsClose _ _).trans (readDecimal_suffix chars)

theorem within_readCountsComma (first : Except SyntaxError Nat) (chars : List Char) :
    Within (readCountsComma verbose first chars) chars := by
  unfold readCountsComma
  split
  next => exact within_error _ _
  next =>
    refine Within.check fun least => ?_
    split
    · exact within_readCountsClose _ _
    · exact within_readMost _ _

theorem within_readCountsRest (first : Except SyntaxError Nat) (chars : List Char) :
    Within (readCountsRest verbose (first, chars)) chars := by
  unfold readCountsRest
  split
  next => exact within_error _ _
  next same =>
    cases same
    split
    · exact (within_readCountsComma _ _).trans
        ((bump_suffix verbose _).trans (List.drop_suffix 1 _))
    · exact Within.check fun _ => within_readCountsClose _ _

theorem within_readCountsFrom (chars : List Char) :
    Within (readCountsFrom verbose chars) chars := by
  unfold readCountsFrom
  split
  next => exact within_error _ _
  next => exact (within_readCountsRest _ _).trans (readDecimal_suffix _)

theorem within_readCounts (chars : List Char) :
    Within (readCounts verbose chars) (chars.drop 1) := by
  rw [readCounts_eq]
  exact (within_readCountsFrom _).trans (bump_suffix verbose chars)

section

variable {next : Progress → List Char → Except SyntaxError (Progress × List Char)}
  (within : ∀ progress chars, Within (next progress chars) chars)

include within

theorem within_readGroupClose (progress : Progress) (kind : GroupKind) (inner : Progress)
    (chars : List Char) :
    Within (readGroupClose next progress kind inner chars) (chars.drop 1) := by
  unfold readGroupClose
  split
  next after => exact within _ after
  next => exact within_error _ _

theorem within_readGroup (progress : Progress) (opened : GroupOpen) (after : List Char) :
    Within (readGroup next progress (opened, after)) after := by
  cases opened with
  | flags => exact within _ after
  | group kind =>
    exact (within _ after).bind fun inner after =>
      (within_readGroupClose within progress kind inner after).trans (List.drop_suffix 1 after)

theorem within_readRepeated (progress : Progress) (body : Ast) (parts : List Ast) (bounds : Bounds)
    (after : List Char) : Within (readRepeated next progress body parts bounds after) after :=
  (within _ _).trans (readLazy_suffix after)

theorem within_readMarked (progress : Progress) (c : Char) (rest : List Char) :
    Within (readMarked next progress c rest) (c :: rest) := by
  have skip : rest <:+ c :: rest := List.suffix_cons c rest
  unfold readMarked
  split
  next => exact within_ok (List.suffix_refl _)
  next =>
    exact ((within_readGroupOpen _ _ (c :: rest)).bind fun opened after =>
      within_readGroup within progress opened after).trans skip
  next => exact (within _ rest).trans skip
  next =>
    exact ((within_readClass (c :: rest)).bind fun ast after => within _ after).trans skip
  next => exact (Within.check fun _ => within_readRepeated within _ _ _ _ rest).trans skip
  next =>
    refine Within.check fun _ => Within.trans ?_ skip
    refine (within_readCounts (c :: rest)).bind fun bounds after => ?_
    dsimp only
    split
    · exact within_error _ _
    · exact (within_readRepeated within _ _ _ _ _).trans (skipSpace_suffix _ after)
  next =>
    exact ((within_readEscape (c :: rest)).bind fun escape after => within _ after).trans skip
  next => exact (within _ rest).trans skip

end

theorem within_readBranches (fuel : Nat) (progress : Progress) (chars : List Char) :
    Within (readBranches fuel progress chars) chars := by
  induction fuel generalizing progress chars with
  | zero => exact within_ok (List.suffix_refl _)
  | succ fuel ih =>
    refine Within.trans ?_ (skipSpace_suffix progress.verbose chars)
    rw [readBranches_succ]
    split
    next => exact within_ok List.nil_suffix
    next c rest start =>
      rw [start]
      exact within_readMarked ih progress c rest

end Fingerprint.Regex
