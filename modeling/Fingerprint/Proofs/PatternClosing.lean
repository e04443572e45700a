import Fingerprint.Proofs.PatternFuel

/-!
What the readers of patterns make of a closing parenthesis behind the pattern.

A reader that gets through without the parenthesis stops at it, unless the pattern ends within a
comment: then what is behind the pattern belongs to the comment. A reader that does not get through
may read the parenthesis as something of its own, but then it does not stop before it.
-/

set_option autoImplicit false

namespace Fingerprint.Regex

open Text (isBlank)

/-- What stands behind the parenthesis: no line break, at which a comment would end. -/
structure Tail where
  chars : List Char
  unbroken : '\n' ∉ chars

def Tail.closing (tail : Tail) : List Char := ')' :: tail.chars

/-- The characters that are left are followed by the parenthesis, or have vanished with it in a
comment. -/
inductive Kept (alone : List Char) (closed : Tail → List Char) : Prop where
  | leaves : (∀ tail, closed tail = alone ++ tail.closing) → Kept alone closed
  | swallows : alone = [] → (∀ tail, closed tail = []) → Kept alone closed

section

variable {α β : Type}

/-- The outcome without the parenthesis and those with it. Where nothing is read without it, what is
left with it stands at the end of `bound`. -/
inductive Enclosed (bound : Tail → List Char) : Except SyntaxError (α × List Char) →
    (Tail → Except SyntaxError (α × List Char)) → Prop where
  | leaves {value : α} {rest : List Char} {closed : Tail → Except SyntaxError (α × List Char)} :
    (∀ tail, closed tail = .ok (value, rest ++ tail.closing)) →
      Enclosed bound (.ok (value, rest)) closed
  | swallows {value : α} {closed : Tail → Except SyntaxError (α × List Char)} :
    (∀ tail, closed tail = .ok (value, [])) → Enclosed bound (.ok (value, [])) closed
  | fails {reason : SyntaxError} {closed : Tail → Except SyntaxError (α × List Char)} :
    (∀ tail, Within (closed tail) (bound tail)) → Enclosed bound (.error reason) closed

variable {bound : Tail → List Char} {alone : Except SyntaxError (α × List Char)}
  {closed : Tail → Except SyntaxError (α × List Char)}

theorem enclosed_error {reason : SyntaxError} {reasons : Tail → SyntaxError} :
    Enclosed bound (.error reason : Except SyntaxError (α × List Char)) fun tail =>
      .error (reasons tail) :=
  .fails fun _ => within_error _ _

theorem enclosed_ok {value : α} {rest : List Char} :
    Enclosed bound (.ok (value, rest)) fun tail => .ok (value, rest ++ tail.closing) :=
  .leaves fun _ => rfl

/-- At the end of a comment that swallows the parenthesis, everything is as without it. -/
theorem enclosed_of_end (within : Within alone []) : Enclosed bound alone fun _ => alone := by
  cases alone with
  | error => exact enclosed_error
  | ok read =>
    obtain ⟨value, rest⟩ := read
    obtain rfl := List.suffix_nil.mp (within value rest rfl)
    exact .swallows fun _ => rfl

theorem Enclosed.of_ok {value : α} {rest : List Char} (enclosed : Enclosed bound alone closed)
    (read : alone = .ok (value, rest)) :
    (∀ tail, closed tail = .ok (value, rest ++ tail.closing)) ∨
      rest = [] ∧ ∀ tail, closed tail = .ok (value, []) := by
  cases enclosed with
  | leaves closes =>
    cases read
    exact .inl closes
  | swallows closes =>
    cases read
    exact .inr ⟨rfl, closes⟩
  | fails => cases read

theorem Enclosed.of_error {reason : SyntaxError} (enclosed : Enclosed bound alone closed)
    (failed : alone = .error reason) (tail : Tail) : Within (closed tail) (bound tail) := by
  cases enclosed with
  | leaves => cases failed
  | swallows => cases failed
  | fails closes => exact closes tail

theorem Enclosed.bind (first : Enclosed bound alone closed)
    (next : α × List Char → Except SyntaxError (β × List Char))
    (within : ∀ value rest, Within (next (value, rest)) rest)
    (then_ : ∀ value rest, alone = .ok (value, rest) →
      Enclosed bound (next (value, rest)) fun tail => next (value, rest ++ tail.closing)) :
    Enclosed bound (alone >>= next) fun tail => closed tail >>= next := by
  cases first with
  | leaves closes =>
    simp only [closes]
    exact then_ _ _ rfl
  | swallows closes =>
    simp only [closes]
    exact enclosed_of_end (within _ [])
  | fails closes => exact .fails fun tail => (closes tail).bind within

/-- What follows takes the parenthesis if the first reader has left it. -/
theorem Enclosed.bind_drop (first : Enclosed Tail.closing alone closed)
    (next : α × List Char → Except SyntaxError (β × List Char))
    (within : ∀ value rest, Within (next (value, rest)) (rest.drop 1))
    (then_ : ∀ value rest, alone = .ok (value, rest) →
      Enclosed Tail.chars (next (value, rest)) fun tail => next (value, rest ++ tail.closing)) :
    Enclosed Tail.chars (alone >>= next) fun tail => closed tail >>= next := by
  cases first with
  | leaves closes =>
    simp only [closes]
    exact then_ _ _ rfl
  | swallows closes =>
    simp only [closes]
    exact enclosed_of_end (within _ [])
  | fails closes => exact .fails fun tail => (closes tail).bind_drop within

theorem Enclosed.check {check : Except SyntaxError α}
    {next : α → Except SyntaxError (β × List Char)}
    {next' : α → Tail → Except SyntaxError (β × List Char)}
    (then_ : ∀ value, Enclosed bound (next value) (next' value)) :
    Enclosed bound (check >>= next) fun tail => check >>= fun value => next' value tail := by
  cases check with
  | error => exact enclosed_error
  | ok value => exact then_ value

theorem Kept.enclosed {rest : List Char} {closedRest : Tail → List Char}
    (kept : Kept rest closedRest) (read : List Char → Except SyntaxError (α × List Char))
    (within : ∀ chars, Within (read chars) chars)
    (then_ : Enclosed bound (read rest) fun tail => read (rest ++ tail.closing)) :
    Enclosed bound (read rest) fun tail => read (closedRest tail) := by
  cases kept with
  | leaves closes =>
    simp only [closes]
    exact then_
  | swallows none closes =>
    subst none
    simp only [closes]
    exact enclosed_of_end (within [])

theorem Kept.enclosed_ok {rest : List Char} {closedRest : Tail → List Char} {value : α}
    (kept : Kept rest closedRest) :
    Enclosed bound (.ok (value, rest)) fun tail => .ok (value, closedRest tail) :=
  kept.enclosed (fun chars => .ok (value, chars))
    (fun _ => within_ok (List.suffix_refl _)) Regex.enclosed_ok

end

variable {bound : Tail → List Char} {verbose : Bool}

/-! ### Spaces -/

theorem afterLine_of_unbroken {chars : List Char} (unbroken : '\n' ∉ chars) :
    afterLine chars = [] := by
  induction chars with
  | nil => rfl
  | cons c rest ih =>
    have other : c ≠ '\n' := fun same => unbroken (same ▸ List.mem_cons_self)
    rw [afterLine, if_neg other]
    exact ih fun broken => unbroken (List.mem_cons_of_mem c broken)

theorem afterLine_closing (tail : Tail) : afterLine tail.closing = [] := by
  rw [Tail.closing, afterLine, if_neg (by decide)]
  exact afterLine_of_unbroken tail.unbroken

theorem kept_afterLine (chars : List Char) :
    Kept (afterLine chars) fun tail => afterLine (chars ++ tail.closing) := by
  induction chars with
  | nil => exact .swallows rfl afterLine_closing
  | cons c rest ih =>
    by_cases broken : c = '\n'
    · subst broken
      exact .leaves fun tail => rfl
    · simp only [List.cons_append, afterLine, if_neg broken]
      exact ih

theorem skipSpace_closing (tail : Tail) : skipSpace verbose tail.closing = tail.closing := by
  cases verbose with
  | false => rfl
  | true => exact skipSpace_cons

theorem skipSpace_brace {rest : List Char} : skipSpace verbose ('{' :: rest) = '{' :: rest := by
  cases verbose with
  | false => rfl
  | true => exact skipSpace_cons

theorem kept_skipSpace (verbose : Bool) (chars : List Char) :
    Kept (skipSpace verbose chars) fun tail => skipSpace verbose (chars ++ tail.closing) := by
  cases verbose with
  | false => exact .leaves fun _ => rfl
  | true =>
    induction length : chars.length using Nat.strongRecOn generalizing chars with
    | ind count ih =>
      subst length
      cases chars with
      | nil => exact .leaves fun tail => skipSpace_closing tail
      | cons c rest =>
        have further {left : List Char} (shorter : left.length ≤ rest.length) :=
          ih left.length (Nat.lt_succ_of_le shorter) left rfl
        simp only [List.cons_append, skipSpace_cons]
        split
        · exact further (Nat.le_refl _)
        · split
          · cases kept_afterLine rest with
            | leaves closes =>
              simp only [closes]
              exact further (afterLine_length_le rest)
            | swallows none closes =>
              simp only [none, closes]
              exact .swallows skipSpace_nil fun _ => skipSpace_nil
          · exact .leaves fun _ => rfl

theorem kept_bump (c : Char) (rest : List Char) :
    Kept (bump verbose (c :: rest)) fun tail => bump verbose (c :: rest ++ tail.closing) :=
  kept_skipSpace verbose rest

/-- A reader of characters that does not keep the parenthesis stops at it. -/
theorem enclosed_spaced {keep : Char → Bool} (stops : keep ')' = false) (chars : List Char) :
    Enclosed bound (.ok (spaced verbose keep chars)) fun tail =>
      .ok (spaced verbose keep (chars ++ tail.closing)) := by
  induction length : chars.length using Nat.strongRecOn generalizing chars with
  | ind count ih =>
    subst length
    cases chars with
    | nil =>
      refine .leaves fun tail => ?_
      rw [List.nil_append, Tail.closing, spaced_cons, stops]
      rfl
    | cons c rest =>
      simp only [List.cons_append, spaced_cons]
      split
      · have shorter := (skipSpace_suffix verbose rest).length_le
        have further : Enclosed bound (.ok (spaced verbose keep (skipSpace verbose rest)))
            fun tail => .ok (spaced verbose keep (skipSpace verbose (rest ++ tail.closing))) :=
          (kept_skipSpace verbose rest).enclosed (fun chars => .ok (spaced verbose keep chars))
            (fun chars => within_ok (spaced_suffix verbose keep chars))
            (ih _ (Nat.lt_succ_of_le shorter) _ rfl)
        exact further.bind (fun read => .ok (c :: read.1, read.2))
          (fun _ _ => within_ok (List.suffix_refl _)) fun _ _ _ => enclosed_ok
      · exact enclosed_ok

/-- A reader of characters that stops before the end stops there whatever comes after. -/
theorem spaced_closing (verbose : Bool) (keep : Char → Bool) (chars : List Char) :
    ((spaced verbose keep chars).2 ≠ [] ∧ ∀ tail : Tail,
      spaced verbose keep (chars ++ tail.closing) =
        ((spaced verbose keep chars).1, (spaced verbose keep chars).2 ++ tail.closing)) ∨
    ((spaced verbose keep chars).2 = [] ∧ ∀ tail : Tail,
      (spaced verbose keep (chars ++ tail.closing)).2 <:+ tail.closing) := by
  induction length : chars.length using Nat.strongRecOn generalizing chars with
  | ind count ih =>
    subst length
    cases chars with
    | nil => exact .inr ⟨rfl, fun tail => spaced_suffix verbose keep _⟩
    | cons c rest =>
      simp only [List.cons_append, spaced_cons]
      split
      · have shorter := (skipSpace_suffix verbose rest).length_le
        cases kept_skipSpace verbose rest with
        | leaves closes =>
          simp only [closes]
          obtain ⟨stops, same⟩ | ⟨none, left⟩ := ih _ (Nat.lt_succ_of_le shorter) _ rfl
          · exact .inl ⟨stops, fun tail => by rw [same tail]⟩
          · exact .inr ⟨none, left⟩
        | swallows none closes =>
          simp only [none, closes]
          exact .inr ⟨rfl, fun _ => List.nil_suffix⟩
      · exact .inl ⟨nofun, fun _ => rfl⟩

/-! ### Escapes -/

theorem enclosed_readHexDigits (count : Nat) (digits chars : List Char) :
    Enclosed bound (readHexDigits verbose count digits chars) fun tail =>
      readHexDigits verbose count digits (chars ++ tail.closing) := by
  fun_induction readHexDigits verbose count digits chars with
  | case1 => exact enclosed_ok
  | case2 => exact enclosed_error
  | case3 count digits c rest digit ih =>
    simp only [List.cons_append, readHexDigits, if_pos digit]
    exact (kept_skipSpace verbose rest).enclosed _ (within_readHexDigits count _) ih
  | case4 count digits c rest other =>
    simp only [List.cons_append, readHexDigits, if_neg other]
    exact enclosed_error

theorem enclosed_readHexClose (digits chars : List Char) :
    Enclosed bound (readHexClose verbose digits chars) fun tail =>
      readHexClose verbose digits (chars ++ tail.closing) := by
  cases chars with
  | nil => exact enclosed_error
  | cons c after =>
    simp only [List.cons_append, readHexClose]
    split
    · split
      · exact enclosed_error
      · split
        · exact (kept_skipSpace verbose after).enclosed_ok
        · exact enclosed_error
    · exact enclosed_error

theorem enclosed_readHexFixed (letter : Char) (chars : List Char) :
    Enclosed bound (readHexFixed verbose letter chars) fun tail =>
      readHexFixed verbose letter (chars ++ tail.closing) := by
  refine (enclosed_readHexDigits _ [] chars).bind _ (fun digits rest => ?_) fun digits rest _ => ?_
  · dsimp only
    split
    · exact within_ok (List.suffix_refl _)
    · exact within_error _ _
  · dsimp only
    split
    · exact enclosed_ok
    · exact enclosed_error

theorem readHexFixed_closing (letter : Char) (tail : Tail) :
    readHexFixed verbose letter tail.closing = .error .escapeHexInvalidDigit := by
  unfold readHexFixed
  dsimp only
  split
  · rfl
  · split <;> rfl

theorem enclosed_readHexFrom (letter : Char) (chars : List Char) :
    Enclosed bound (readHexFrom verbose letter chars) fun tail =>
      readHexFrom verbose letter (chars ++ tail.closing) := by
  cases chars with
  | nil =>
    refine .fails fun tail => ?_
    rw [List.nil_append, Tail.closing, readHexFrom, if_neg (by decide)]
    exact readHexFixed_closing letter tail ▸ within_error _ _
  | cons c rest =>
    simp only [List.cons_append, readHexFrom]
    split
    · have read : Enclosed bound (.ok (spaced verbose isHexDigit (skipSpace verbose rest)))
          fun tail => .ok (spaced verbose isHexDigit (skipSpace verbose (rest ++ tail.closing))) :=
        (kept_skipSpace verbose rest).enclosed
          (fun chars => .ok (spaced verbose isHexDigit chars))
          (fun chars => within_ok (spaced_suffix verbose _ chars)) (enclosed_spaced rfl _)
      exact read.bind (fun read => readHexClose verbose read.1 read.2)
        within_readHexClose fun digits after _ => enclosed_readHexClose digits after
    · exact enclosed_readHexFixed letter (c :: rest)

theorem enclosed_readHex (letter c : Char) (rest : List Char) :
    Enclosed bound (readHex verbose letter (c :: rest)) fun tail =>
      readHex verbose letter (c :: rest ++ tail.closing) := by
  simp only [readHex_eq]
  exact (kept_bump _ _).enclosed _ (within_readHexFrom letter) (enclosed_readHexFrom letter _)

theorem enclosed_readPropertyClose (negated : Bool) (chars : List Char) :
    Enclosed Tail.chars (readPropertyClose negated (spaced verbose (· ≠ '}') chars)) fun tail =>
      readPropertyClose negated (spaced verbose (· ≠ '}') (chars ++ tail.closing)) := by
  obtain ⟨stops, same⟩ | ⟨none, left⟩ := spaced_closing verbose (· ≠ '}') chars
  · simp only [same]
    generalize spaced verbose (· ≠ '}') chars = read at stops
    obtain ⟨text, _ | ⟨c, after⟩⟩ := read
    · exact absurd rfl stops
    · exact enclosed_ok
  · generalize spaced verbose (· ≠ '}') chars = read at none
    obtain ⟨text, after⟩ := read
    subst none
    exact .fails fun tail =>
      (within_readPropertyClose negated _ _).trans (suffix_drop (left tail))

theorem enclosed_readPropertyFrom (negated : Bool) (chars : List Char) :
    Enclosed Tail.chars (readPropertyFrom verbose negated chars) fun tail =>
      readPropertyFrom verbose negated (chars ++ tail.closing) := by
  cases chars with
  | nil =>
    refine .fails fun tail => ?_
    rw [List.nil_append, Tail.closing, readPropertyFrom, if_neg (by decide), if_neg (by decide)]
    exact within_ok (skipSpace_suffix verbose _)
  | cons c rest =>
    simp only [List.cons_append, readPropertyFrom]
    split
    · exact (kept_skipSpace verbose rest).enclosed
        (fun chars => readPropertyClose negated (spaced verbose (· ≠ '}') chars))
        (fun chars => (within_readPropertyClose negated _ _).trans
          ((List.drop_suffix 1 _).trans (spaced_suffix verbose _ chars)))
        (enclosed_readPropertyClose negated _)
    · split
      · exact enclosed_error
      · exact (kept_skipSpace verbose rest).enclosed_ok

theorem enclosed_readProperty (c : Char) (rest : List Char) :
    Enclosed Tail.chars (readProperty verbose (c :: rest)) fun tail =>
      readProperty verbose (c :: rest ++ tail.closing) := by
  simp only [readProperty_eq]
  exact (kept_bump _ _).enclosed _ (within_readPropertyFrom _) (enclosed_readPropertyFrom _ _)

theorem enclosed_readBoundaryClose (name chars : List Char) :
    Enclosed bound (readBoundaryClose name chars) fun tail =>
      readBoundaryClose name (chars ++ tail.closing) := by
  cases chars with
  | nil => exact enclosed_error
  | cons c after =>
    by_cases brace : c = '}'
    · subst brace
      simp only [List.cons_append, readBoundaryClose]
      split
      all_goals first
        | exact enclosed_ok
        | exact enclosed_error
    · have other (after : List Char) :
          readBoundaryClose name (c :: after) = .error .wordBoundaryUnclosed :=
        readBoundaryClose.eq_2 name _ fun _ same => brace (List.cons.inj same).1
      simp only [List.cons_append, other]
      exact enclosed_error

/-- A name of a boundary has been opened and not begun: with the parenthesis behind it, the brace
belongs to what comes next. -/
def EndsAtBrace {α : Type} (verbose : Bool) (value : α) (alone : Except SyntaxError (α × List Char))
    (closed : Tail → Except SyntaxError (α × List Char)) : Prop :=
  ∃ reason spaces, alone = .error reason ∧
    (∀ tail : Tail, skipSpace verbose (spaces ++ tail.closing) = tail.closing) ∧
    ∀ tail, closed tail = .ok (value, '{' :: (spaces ++ tail.closing))

theorem enclosed_readBoundaryName (chars : List Char) :
    Enclosed bound (readBoundaryName verbose chars)
      (fun tail => readBoundaryName verbose (chars ++ tail.closing)) ∨
    EndsAtBrace verbose .wordBoundary (readBoundaryName verbose chars) fun tail =>
      readBoundaryName verbose (chars ++ tail.closing) := by
  cases chars with
  | nil =>
    refine .inl (.leaves fun tail => ?_)
    rw [List.nil_append, Tail.closing, readBoundaryName_eq, if_neg (by decide)]
  | cons c rest =>
    simp only [List.cons_append, readBoundaryName_eq]
    split
    next brace =>
      subst brace
      have kept : Kept (bump verbose ('{' :: rest)) _ := kept_bump '{' rest
      cases kept with
      | leaves closes =>
        simp only [List.cons_append] at closes
        cases start : bump verbose ('{' :: rest) with
        | nil =>
          rw [start] at closes
          simp only [closes]
          exact .inr ⟨_, rest, rfl, closes, fun _ => rfl⟩
        | cons d start =>
          rw [start] at closes
          simp only [closes, List.cons_append, readBoundaryFrom]
          split
          · exact .inl ((enclosed_spaced rfl (d :: _)).bind
              (fun read => readBoundaryClose read.1 read.2)
              within_readBoundaryClose fun name after _ => enclosed_readBoundaryClose name after)
          · exact .inl enclosed_ok
      | swallows none closes =>
        simp only [List.cons_append] at closes
        simp only [none, closes]
        exact .inl enclosed_error
    next => exact .inl enclosed_ok

theorem enclosed_readEscape (c : Char) (rest : List Char) :
    Enclosed Tail.chars (readEscape verbose (c :: rest))
      (fun tail => readEscape verbose (c :: rest ++ tail.closing)) ∨
    EndsAtBrace verbose (.assertion .wordBoundary) (readEscape verbose (c :: rest)) fun tail =>
      readEscape verbose (c :: rest ++ tail.closing) := by
  cases rest with
  | nil =>
    refine .inl (.fails fun tail => ?_)
    simp only [readEscape_eq]
    exact within_ok (List.suffix_refl tail.chars)
  | cons d rest =>
    simp only [List.cons_append, readEscape_eq, List.drop_succ_cons, List.drop_zero]
    split
    next => exact .inl enclosed_error
    next =>
      exact .inl ((enclosed_readHex d d rest).bind _
        (fun _ _ => within_ok (List.suffix_refl _)) fun _ _ _ => enclosed_ok)
    next =>
      exact .inl ((enclosed_readProperty d rest).bind _
        (fun _ _ => within_ok (List.suffix_refl _)) fun _ _ _ => enclosed_ok)
    next =>
      obtain read | ⟨reason, spaces, alone, skips, closes⟩ := enclosed_readBoundaryName rest
      · exact .inl (read.bind _
          (fun _ _ => within_ok (List.suffix_refl _)) fun _ _ _ => enclosed_ok)
      · simp only [alone, closes]
        exact .inr ⟨reason, spaces, rfl, skips, fun _ => rfl⟩
    next => exact .inl enclosed_ok

end Fingerprint.Regex
