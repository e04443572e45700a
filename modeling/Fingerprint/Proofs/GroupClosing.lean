import Fingerprint.Proofs.ClassClosing

/-!
What the readers of groups and branches make of a closing parenthesis behind the pattern.

Branches stop at a parenthesis they have not opened. So a pattern that can be read by itself can be
read within a group, unless it ends in a comment, and one that cannot fails within the group too,
unless it closes the group itself.
-/

set_option autoImplicit false

namespace Fingerprint.Regex

variable {bound : Tail → List Char} {verbose : Bool}

/-! ### Groups -/

theorem enclosed_readFlags (flags : FlagList) (dashed dangling : Bool) (chars : List Char) :
    Enclosed Tail.closing (readFlags flags dashed dangling chars) fun tail =>
      readFlags flags dashed dangling (chars ++ tail.closing) := by
  induction chars generalizing flags dashed dangling with
  | nil => exact .fails fun tail => within_readFlags _ _ _ tail.closing
  | cons c rest ih =>
    simp only [List.cons_append, readFlags]
    split
    · split
      · exact enclosed_error
      · exact enclosed_ok
    · split
      · split
        · exact enclosed_error
        · exact ih _ _ _
      · cases flagOf? c with
        | none => exact enclosed_error
        | some flag =>
          dsimp only
          split
          · exact enclosed_error
          · split <;> exact ih _ _ _

/-- The flags end at a mark that is left. -/
theorem readFlags_ne_nil {flags : FlagList} {dashed dangling : Bool} {chars : List Char}
    {read : FlagList} {after : List Char}
    (ends : readFlags flags dashed dangling chars = .ok (read, after)) : after ≠ [] := by
  fun_induction readFlags flags dashed dangling chars with
  | case1 | case2 | case4 | case6 | case7 => cases ends
  | case3 =>
    cases ends
    exact List.cons_ne_nil _ _
  | case5 | case8 | case9 =>
    rename_i ih
    exact ih ends

theorem enclosed_readFlagsClose (flags : FlagList) {chars : List Char} (left : chars ≠ []) :
    Enclosed bound (readFlagsClose flags chars) fun tail =>
      readFlagsClose flags (chars ++ tail.closing) := by
  obtain _ | ⟨c, rest⟩ := chars
  · exact absurd rfl left
  by_cases closes : c = ')'
  · subst closes
    simp only [List.cons_append, readFlagsClose]
    split
    · exact enclosed_error
    · exact enclosed_ok
  · have other (rest : List Char) :
        readFlagsClose flags (c :: rest) = .ok (.group (.plain flags), rest) :=
      readFlagsClose.eq_2 flags _ fun _ same => closes (List.cons.inj same).1
    simp only [List.cons_append, other]
    exact enclosed_ok

theorem enclosed_readFlagged (chars : List Char) :
    Enclosed Tail.chars (readFlagged chars) fun tail => readFlagged (chars ++ tail.closing) := by
  cases chars with
  | nil => exact .fails fun tail => within_readFlagged tail.closing
  | cons c rest =>
    simp only [readFlagged, List.cons_append, List.isEmpty_cons, Bool.false_eq_true, if_false]
    exact (enclosed_readFlags _ _ _ (c :: rest)).bind_drop _ within_readFlagsClose
      fun flags after ends => enclosed_readFlagsClose flags (readFlags_ne_nil ends)

theorem enclosed_readName (name chars : List Char) :
    Enclosed bound (readName name chars) fun tail => readName name (chars ++ tail.closing) := by
  fun_induction readName name chars with
  | case1 name =>
    refine .fails fun tail => ?_
    have outside : isNameChar name.isEmpty ')' = false := by
      cases name.isEmpty <;> rfl
    rw [List.nil_append, Tail.closing, readName, if_neg (by decide), outside]
    exact within_error _ _
  | case2 name rest none =>
    simp only [List.cons_append, readName, if_true, if_pos none]
    exact enclosed_error
  | case3 name rest some =>
    simp only [List.cons_append, readName, if_true, if_neg some]
    exact enclosed_ok
  | case4 name c rest mark inside ih =>
    simp only [List.cons_append, readName, if_neg mark, if_pos inside]
    exact ih
  | case5 name c rest mark outside =>
    simp only [List.cons_append, readName, if_neg mark, if_neg outside]
    exact enclosed_error

theorem enclosed_readNamed (captures : Nat) (names : List String) (chars : List Char) :
    Enclosed bound (readNamed captures names chars) fun tail =>
      readNamed captures names (chars ++ tail.closing) := by
  refine (enclosed_readName [] chars).bind _ (fun name after => ?_) fun name after _ => ?_
  · dsimp only
    split
    · exact within_error _ _
    · exact within_ok (List.suffix_refl _)
  · dsimp only
    split
    · exact enclosed_error
    · exact enclosed_ok

/-- The same mark with the parenthesis behind what is left. -/
def GroupMark.closing (tail : Tail) : GroupMark → GroupMark
  | .lookAround => .lookAround
  | .name rest => .name (rest ++ tail.closing)
  | .flags => .flags

theorem angleMark_closing (chars : List Char) (tail : Tail) :
    angleMark (chars ++ tail.closing) = (angleMark chars).closing tail := by
  obtain _ | ⟨c, rest⟩ := chars
  · rfl
  · unfold angleMark
    split
    all_goals
      split
      all_goals simp_all [GroupMark.closing]

theorem groupMark_closing (chars : List Char) (tail : Tail) :
    groupMark (chars ++ tail.closing) = (groupMark chars).closing tail := by
  obtain _ | ⟨c, rest⟩ := chars
  · rfl
  by_cases angle : c = '<'
  · subst angle
    exact angleMark_closing rest tail
  · obtain _ | ⟨d, rest⟩ := rest
    all_goals
      unfold groupMark
      rw [Tail.closing]
      split
      all_goals
        split
        all_goals simp_all [GroupMark.closing, Tail.closing]

theorem enclosed_readGroupFrom (captures : Nat) (names : List String) (chars : List Char) :
    Enclosed Tail.chars (readGroupFrom captures names chars) fun tail =>
      readGroupFrom captures names (chars ++ tail.closing) := by
  cases chars with
  | nil => exact enclosed_ok
  | cons c rest =>
    by_cases asks : c = '?'
    · subst asks
      simp only [List.cons_append, readGroupFrom, groupMark_closing]
      cases groupMark rest with
      | lookAround => exact enclosed_error
      | name behind => exact enclosed_readNamed captures names behind
      | flags => exact enclosed_readFlagged rest
    · have other (rest : List Char) : readGroupFrom captures names (c :: rest) =
          .ok (.group (.capture (captures + 1)), c :: rest) :=
        readGroupFrom.eq_2 _ _ _ fun _ same => asks (List.cons.inj same).1
      simp only [List.cons_append, other]
      exact enclosed_ok

theorem enclosed_readGroupOpen (captures : Nat) (names : List String) (c : Char)
    (rest : List Char) :
    Enclosed Tail.chars (readGroupOpen verbose captures names (c :: rest)) fun tail =>
      readGroupOpen verbose captures names (c :: rest ++ tail.closing) := by
  simp only [readGroupOpen_eq]
  exact (kept_bump _ _).enclosed _ (within_readGroupFrom _ _) (enclosed_readGroupFrom _ _ _)

/-! ### Repetitions -/

theorem readLazy_closing (chars : List Char) (tail : Tail) :
    readLazy (chars ++ tail.closing) =
      ((readLazy chars).1, (readLazy chars).2 ++ tail.closing) := by
  obtain _ | ⟨c, rest⟩ := chars
  · rfl
  by_cases asks : c = '?'
  · subst asks
    rfl
  · have other (rest : List Char) : readLazy (c :: rest) = (true, c :: rest) :=
      readLazy.eq_2 _ fun _ same => asks (List.cons.inj same).1
    rw [List.cons_append, other, other]
    rfl

theorem dropBlanks_closing (chars : List Char) (tail : Tail) :
    (chars ++ tail.closing).dropWhile Text.isBlank =
      chars.dropWhile Text.isBlank ++ tail.closing := by
  have stops : tail.closing.dropWhile Text.isBlank = tail.closing :=
    List.dropWhile_cons_of_neg (by decide)
  rw [List.dropWhile_append]
  split
  next none => rw [stops, List.isEmpty_iff.mp none, List.nil_append]
  next => rfl

theorem enclosed_readDecimal (verbose : Bool) (chars : List Char) :
    Enclosed bound (.ok (readDecimal verbose chars)) fun tail =>
      .ok (readDecimal verbose (chars ++ tail.closing)) := by
  simp only [readDecimal_eq, dropBlanks_closing]
  exact (enclosed_spaced rfl (chars.dropWhile Text.isBlank)).bind
    (fun digits =>
      .ok (decimalOf digits.1, (spaced verbose Text.isBlank digits.2).2))
    (fun _ _ => within_ok (spaced_suffix verbose _ _))
    fun _ _ _ => (enclosed_spaced rfl _).bind
      (fun spaces => .ok (decimalOf _, spaces.2))
      (fun _ _ => within_ok (List.suffix_refl _)) fun _ _ _ => enclosed_ok

/-- At the parenthesis no number is read. -/
theorem readDecimal_closing (tail : Tail) :
    readDecimal verbose tail.closing = (.error .decimalEmpty, tail.closing) := by
  have none {keep : Char → Bool} (stops : keep ')' = false) :
      spaced verbose keep tail.closing = ([], tail.closing) := by
    rw [Tail.closing, spaced_cons, stops]
    rfl
  rw [readDecimal_eq, ← List.nil_append tail.closing, dropBlanks_closing]
  change readDecimalFrom verbose tail.closing = _
  rw [readDecimalFrom, none rfl]
  dsimp only
  rw [none rfl]
  rfl

theorem enclosed_readCountsClose (bounds : Bounds) (chars : List Char) :
    Enclosed bound (readCountsClose bounds chars) fun tail =>
      readCountsClose bounds (chars ++ tail.closing) := by
  obtain _ | ⟨c, rest⟩ := chars
  · exact enclosed_error
  by_cases brace : c = '}'
  · subst brace
    exact enclosed_ok
  · have other (rest : List Char) :
        readCountsClose bounds (c :: rest) = .error .repetitionCountUnclosed :=
      readCountsClose.eq_2 _ _ fun _ same => brace (List.cons.inj same).1
    simp only [List.cons_append, other]
    exact enclosed_error

theorem enclosed_readMost (least : Nat) (chars : List Char) :
    Enclosed bound (readMost verbose least chars) fun tail =>
      readMost verbose least (chars ++ tail.closing) := by
  refine (enclosed_readDecimal verbose chars).bind
    (fun read => do
      let most ← countOf read.1
      readCountsClose ⟨least, some most⟩ read.2)
    (fun _ _ => Within.check fun _ => within_readCountsClose _ _)
    fun _ _ _ => Enclosed.check fun _ => enclosed_readCountsClose _ _

theorem enclosed_readCountsComma (first : Except SyntaxError Nat) (chars : List Char) :
    Enclosed bound (readCountsComma verbose first chars) fun tail =>
      readCountsComma verbose first (chars ++ tail.closing) := by
  obtain _ | ⟨c, rest⟩ := chars
  · refine .fails fun tail => Within.check fun least => ?_
    rw [if_neg (by decide), ← Tail.closing, readMost, readDecimal_closing]
    exact within_error _ _
  · simp only [List.cons_append, readCountsComma]
    refine Enclosed.check fun least => ?_
    split
    · exact enclosed_readCountsClose _ (c :: rest)
    · exact enclosed_readMost least (c :: rest)

theorem enclosed_readCountsRest (first : Except SyntaxError Nat) (chars : List Char) :
    Enclosed bound (readCountsRest verbose (first, chars)) fun tail =>
      readCountsRest verbose (first, chars ++ tail.closing) := by
  obtain _ | ⟨c, rest⟩ := chars
  · refine .fails fun tail => ?_
    rw [List.nil_append, Tail.closing, readCountsRest, if_neg (by decide)]
    exact Within.check fun _ => within_error _ _
  · simp only [List.cons_append, readCountsRest]
    split
    · exact (kept_bump _ _).enclosed _ (within_readCountsComma first)
        (enclosed_readCountsComma first _)
    · exact Enclosed.check fun _ => enclosed_readCountsClose _ (c :: rest)

theorem readCountsFrom_closing (tail : Tail) :
    readCountsFrom verbose tail.closing = .error .repetitionCountEmpty := by
  rw [Tail.closing, readCountsFrom, ← Tail.closing, readDecimal_closing, Tail.closing,
    readCountsRest, if_neg (by decide)]
  rfl

theorem enclosed_readCountsFrom (chars : List Char) :
    Enclosed bound (readCountsFrom verbose chars) fun tail =>
      readCountsFrom verbose (chars ++ tail.closing) := by
  obtain _ | ⟨c, rest⟩ := chars
  · exact .fails fun tail => readCountsFrom_closing tail ▸ within_error _ _
  · exact (enclosed_readDecimal verbose (c :: rest)).bind
      (readCountsRest verbose) within_readCountsRest
      fun first after _ => enclosed_readCountsRest first after

theorem enclosed_readCounts (c : Char) (rest : List Char) :
    Enclosed bound (readCounts verbose (c :: rest)) fun tail =>
      readCounts verbose (c :: rest ++ tail.closing) := by
  simp only [readCounts_eq]
  exact (kept_bump _ _).enclosed _ within_readCountsFrom (enclosed_readCountsFrom _)

/-! ### Branches -/

section

variable {progress : Progress} {rest : List Char}
  (further : ∀ progress chars, chars.length ≤ rest.length →
    Enclosed Tail.chars (branchesOf progress chars) fun tail =>
      branchesOf progress (chars ++ tail.closing))

include further

theorem enclosed_readGroupClose (kind : GroupKind) (inner : Progress) {chars : List Char}
    (shorter : chars.length ≤ rest.length) :
    Enclosed Tail.chars (readGroupClose branchesOf progress kind inner chars) fun tail =>
      readGroupClose branchesOf progress kind inner (chars ++ tail.closing) := by
  obtain _ | ⟨c, chars⟩ := chars
  · exact .fails fun tail => within_branchesOf _ tail.chars
  by_cases closes : c = ')'
  · subst closes
    exact further _ chars (Nat.le_of_succ_le shorter)
  · have other (chars : List Char) :
        readGroupClose branchesOf progress kind inner (c :: chars) = .error .groupUnclosed :=
      readGroupClose.eq_2 _ _ _ _ _ fun _ same => closes (List.cons.inj same).1
    simp only [List.cons_append, other]
    exact enclosed_error

theorem enclosed_readGroup (opened : GroupOpen) {chars : List Char}
    (shorter : chars.length ≤ rest.length) :
    Enclosed Tail.chars (readGroup branchesOf progress (opened, chars)) fun tail =>
      readGroup branchesOf progress (opened, chars ++ tail.closing) := by
  cases opened with
  | flags => exact further _ chars shorter
  | group kind =>
    refine (further _ chars shorter).bind _ (fun inner after => ?_) fun inner after read => ?_
    · exact (within_readGroupClose within_branchesOf progress kind inner after).trans
        (List.drop_suffix 1 after)
    · exact enclosed_readGroupClose further kind inner
        (Nat.le_trans (within_branchesOf _ chars inner after read).length_le shorter)

theorem enclosed_readRepeated (body : Ast) (parts : List Ast) (bounds : Bounds) {chars : List Char}
    (shorter : chars.length ≤ rest.length) :
    Enclosed Tail.chars (readRepeated branchesOf progress body parts bounds chars) fun tail =>
      readRepeated branchesOf progress body parts bounds (chars ++ tail.closing) := by
  simp only [readRepeated, readLazy_closing]
  exact further _ _ (Nat.le_trans (readLazy_suffix chars).length_le shorter)

end

/-- A brace that opens a repetition has no counts before the parenthesis. -/
theorem within_branchesOf_brace (progress : Progress) {spaces : List Char} {tail : Tail}
    (skips : skipSpace progress.verbose (spaces ++ tail.closing) = tail.closing) :
    Within (branchesOf progress ('{' :: (spaces ++ tail.closing))) (bound tail) := by
  have counts : readCounts progress.verbose ('{' :: (spaces ++ tail.closing)) =
      .error .repetitionCountEmpty := by
    rw [readCounts_eq, bump, List.drop_succ_cons, List.drop_zero, skips]
    exact readCountsFrom_closing tail
  rw [branchesOf_eq, skipSpace_brace]
  refine Within.check fun popped => ?_
  rw [counts]
  exact within_error _ _

theorem enclosed_readMarked (progress : Progress) (c : Char) (rest : List Char)
    (further : ∀ progress chars, chars.length ≤ rest.length →
      Enclosed Tail.chars (branchesOf progress chars) fun tail =>
        branchesOf progress (chars ++ tail.closing)) :
    Enclosed Tail.chars (readMarked branchesOf progress c rest) fun tail =>
      readMarked branchesOf progress c (rest ++ tail.closing) := by
  have whole : rest.length ≤ rest.length := Nat.le_refl _
  unfold readMarked
  cases markOf c with
  | close => exact enclosed_ok
  | group =>
    refine (enclosed_readGroupOpen _ _ c rest).bind _
      (fun opened after => within_readGroup within_branchesOf progress opened after)
      fun opened after read => ?_
    exact enclosed_readGroup further opened (within_readGroupOpen _ _ _ opened after read).length_le
  | bar => exact further _ rest whole
  | bracket =>
    refine (enclosed_readClass c rest).bind _ (fun _ _ => within_branchesOf _ _)
      fun ast after read => ?_
    exact further _ after (within_readClass _ ast after read).length_le
  | «repeat» bounds =>
    exact Enclosed.check fun _ => enclosed_readRepeated further _ _ bounds whole
  | counts =>
    refine Enclosed.check fun popped => ?_
    refine (enclosed_readCounts c rest).bind _ (fun bounds after => ?_) fun bounds after read => ?_
    · dsimp only
      split
      · exact within_error _ _
      · exact (within_readRepeated within_branchesOf _ _ _ _ _).trans (skipSpace_suffix _ after)
    · dsimp only
      split
      · exact enclosed_error
      · have skipped := (skipSpace_suffix progress.verbose after).length_le
        have left : after.length ≤ rest.length := (within_readCounts _ bounds after read).length_le
        exact (kept_skipSpace progress.verbose after).enclosed _
          (within_readRepeated within_branchesOf _ _ _ _)
          (enclosed_readRepeated further _ _ bounds (Nat.le_trans skipped left))
  | escape =>
    obtain read | ⟨reason, spaces, alone, skips, closes⟩ := enclosed_readEscape c rest
    · refine read.bind _ (fun _ _ => within_branchesOf _ _) fun escape after read => ?_
      exact further _ after (within_readEscape _ escape after read).length_le
    · simp only [List.cons_append] at closes
      simp only [alone, closes]
      exact .fails fun tail => within_branchesOf_brace _ (skips tail)
  | atom ast => exact further _ rest whole

/-- Branches and a closing parenthesis behind them. -/
theorem enclosed_branchesOf (progress : Progress) (chars : List Char) :
    Enclosed Tail.chars (branchesOf progress chars) fun tail =>
      branchesOf progress (chars ++ tail.closing) := by
  induction length : chars.length using Nat.strongRecOn generalizing progress chars with
  | ind count ih =>
    subst length
    have shorter := (skipSpace_suffix progress.verbose chars).length_le
    simp only [branchesOf_eq progress]
    refine (kept_skipSpace progress.verbose chars).enclosed (branchesFrom progress)
      (fun chars => ?_) ?_
    · cases chars with
      | nil => exact within_ok (List.suffix_refl _)
      | cons c rest => exact within_readMarked within_branchesOf progress c rest
    · cases start : skipSpace progress.verbose chars with
      | nil => exact enclosed_ok
      | cons c rest =>
        rw [start] at shorter
        exact enclosed_readMarked progress c rest fun _ chars le =>
          ih _ (Nat.lt_of_le_of_lt le shorter) _ chars rfl

end Fingerprint.Regex
