import Fingerprint.Proofs.PatternReaders

/-!
The readers of patterns do not run out of fuel.

Each step of a reader takes a character, so with fuel for every character that is left the result
does not depend on the fuel. Then a reader is what its step makes of itself.
-/

set_option autoImplicit false

namespace Fingerprint.Regex

theorem bind_congr_of_within {α β : Type} {outcome : Except SyntaxError (α × List Char)}
    {next next' : α × List Char → Except SyntaxError (β × List Char)} {chars : List Char}
    (within : Within outcome chars)
    (same : ∀ value rest, rest.length ≤ chars.length → next (value, rest) = next' (value, rest)) :
    outcome >>= next = outcome >>= next' := by
  cases outcome with
  | error => rfl
  | ok read =>
    obtain ⟨value, rest⟩ := read
    exact same value rest (within value rest rfl).length_le

variable {verbose : Bool}

/-! ### Spaces -/

theorem skipSpace_go_congr {fuel fuel' : Nat} {chars : List Char} (enough : chars.length ≤ fuel)
    (enough' : chars.length ≤ fuel') : skipSpace.go fuel chars = skipSpace.go fuel' chars := by
  induction fuel generalizing fuel' chars with
  | zero =>
    obtain rfl := List.eq_nil_of_length_eq_zero (Nat.le_zero.mp enough)
    cases fuel' <;> rfl
  | succ fuel ih =>
    obtain _ | ⟨c, rest⟩ := chars
    · cases fuel' <;> rfl
    obtain _ | fuel' := fuel'
    · cases enough'
    rw [List.length_cons] at enough enough'
    have same (left : List Char) (short : left.length ≤ rest.length) :
        skipSpace.go fuel left = skipSpace.go fuel' left := ih (by omega) (by omega)
    rw [skipSpace.go, skipSpace.go, same rest (Nat.le_refl _), same _ (afterLine_length_le rest)]

theorem skipSpace_nil : skipSpace verbose [] = [] := by
  cases verbose <;> rfl

theorem skipSpace_cons {c : Char} {rest : List Char} :
    skipSpace true (c :: rest) =
      if Text.isBlank c then skipSpace true rest
      else if c = '#' then skipSpace true (afterLine rest)
      else c :: rest := by
  have line : skipSpace.go rest.length (afterLine rest) = skipSpace true (afterLine rest) :=
    skipSpace_go_congr (afterLine_length_le rest) (Nat.le_refl _)
  change skipSpace.go (rest.length + 1) (c :: rest) = _
  rw [skipSpace.go, line]
  rfl

theorem takeSpaced_congr {keep : Char → Bool} {fuel fuel' : Nat} {chars : List Char}
    (enough : chars.length ≤ fuel) (enough' : chars.length ≤ fuel') :
    takeSpaced verbose keep fuel chars = takeSpaced verbose keep fuel' chars := by
  induction fuel generalizing fuel' chars with
  | zero =>
    obtain rfl := List.eq_nil_of_length_eq_zero (Nat.le_zero.mp enough)
    cases fuel' <;> rfl
  | succ fuel ih =>
    obtain _ | ⟨c, rest⟩ := chars
    · cases fuel' <;> rfl
    obtain _ | fuel' := fuel'
    · cases enough'
    rw [List.length_cons] at enough enough'
    have shorter := (skipSpace_suffix verbose rest).length_le
    have further : takeSpaced verbose keep fuel (skipSpace verbose rest) =
        takeSpaced verbose keep fuel' (skipSpace verbose rest) := ih (by omega) (by omega)
    rw [takeSpaced, takeSpaced, further]

theorem spaced_cons {keep : Char → Bool} {c : Char} {rest : List Char} :
    spaced verbose keep (c :: rest) =
      if keep c then
        (c :: (spaced verbose keep (skipSpace verbose rest)).1,
          (spaced verbose keep (skipSpace verbose rest)).2)
      else ([], c :: rest) := by
  have shorter := (skipSpace_suffix verbose rest).length_le
  rw [spaced, List.length_cons, takeSpaced, takeSpaced_congr shorter (Nat.le_refl _)]
  rfl

/-! ### Bracketed classes -/

theorem readLeadingDashes_of_ne {fuel : Nat} {c : Char} {rest : List Char} (other : c ≠ '-') :
    readLeadingDashes verbose fuel (c :: rest) = ([], c :: rest) := by
  cases fuel with
  | zero => rfl
  | succ fuel =>
    rw [readLeadingDashes]
    exact fun _ same => other (List.cons.inj same).1

theorem readLeadingDashes_congr {fuel fuel' : Nat} {chars : List Char}
    (enough : chars.length ≤ fuel) (enough' : chars.length ≤ fuel') :
    readLeadingDashes verbose fuel chars = readLeadingDashes verbose fuel' chars := by
  induction fuel generalizing fuel' chars with
  | zero =>
    obtain rfl := List.eq_nil_of_length_eq_zero (Nat.le_zero.mp enough)
    cases fuel' <;> rfl
  | succ fuel ih =>
    obtain _ | ⟨c, rest⟩ := chars
    · cases fuel' <;> rfl
    obtain _ | fuel' := fuel'
    · cases enough'
    rw [List.length_cons] at enough enough'
    have shorter : (bump verbose (c :: rest)).length ≤ rest.length :=
      (bump_suffix verbose _).length_le
    by_cases dash : c = '-'
    · subst dash
      have further : readLeadingDashes verbose fuel (bump verbose ('-' :: rest)) =
          readLeadingDashes verbose fuel' (bump verbose ('-' :: rest)) := ih (by omega) (by omega)
      rw [readLeadingDashes, readLeadingDashes, further]
    · rw [readLeadingDashes_of_ne dash, readLeadingDashes_of_ne dash]

theorem leadingDashes_cons {c : Char} {rest : List Char} :
    leadingDashes verbose (c :: rest) =
      if c = '-' then
        (.literal ⟨'-', false⟩ :: (leadingDashes verbose (bump verbose (c :: rest))).1,
          (leadingDashes verbose (bump verbose (c :: rest))).2)
      else ([], c :: rest) := by
  split
  next dash =>
    subst dash
    have shorter : (bump verbose ('-' :: rest)).length ≤ rest.length :=
      (bump_suffix verbose _).length_le
    rw [leadingDashes, List.length_cons, readLeadingDashes,
      readLeadingDashes_congr shorter (Nat.le_refl _)]
    rfl
  next other => exact readLeadingDashes_of_ne other

section

variable {next next' : OpenClass → List OpenClass → List Char →
    Except SyntaxError ((Bool × ClassSet) × List Char)}
  (current : OpenClass) (outer : List OpenClass)

theorem readClassMarked_congr {c : Char} {rest : List Char}
    (same : ∀ current outer chars, chars.length ≤ rest.length →
      next current outer chars = next' current outer chars) :
    readClassMarked verbose next current outer (c :: rest) =
      readClassMarked verbose next' current outer (c :: rest) := by
  unfold readClassMarked
  split
  next =>
    split
    next read => exact same _ _ _ (readAsciiClass?_suffix read).length_le
    next => exact bind_congr_of_within (within_readClassOpen _) fun _ _ => same _ _ _
  next behind mark =>
    split
    · rfl
    · exact same _ _ _ (classMark_close_suffix mark).length_le
  next mark => exact same _ _ _ (classMark_operator_suffix mark).length_le
  next => exact bind_congr_of_within (within_readClassRange _) fun _ _ => same _ _ _

end

theorem readClassItems_congr {fuel fuel' : Nat} {current : OpenClass} {outer : List OpenClass}
    {chars : List Char} (enough : chars.length ≤ fuel) (enough' : chars.length ≤ fuel') :
    readClassItems verbose fuel current outer chars =
      readClassItems verbose fuel' current outer chars := by
  induction fuel generalizing fuel' current outer chars with
  | zero =>
    obtain rfl := List.eq_nil_of_length_eq_zero (Nat.le_zero.mp enough)
    obtain _ | fuel' := fuel'
    · rfl
    · rw [readClassItems_succ, skipSpace_nil]
      rfl
  | succ fuel ih =>
    obtain _ | fuel' := fuel'
    · obtain rfl := List.eq_nil_of_length_eq_zero (Nat.le_zero.mp enough')
      rw [readClassItems_succ, skipSpace_nil]
      rfl
    rw [readClassItems_succ, readClassItems_succ]
    split
    next => rfl
    next c rest start =>
      have shorter := (skipSpace_suffix verbose chars).length_le
      rw [start, List.length_cons] at shorter
      exact readClassMarked_congr current outer fun _ _ _ le => ih (by omega) (by omega)

/-- The rest of a class, with fuel for all characters. -/
def classItems (verbose : Bool) (current : OpenClass) (outer : List OpenClass) (chars : List Char) :
    Except SyntaxError ((Bool × ClassSet) × List Char) :=
  readClassItems verbose chars.length current outer chars

/-- Reads on in a class where no space is left to skip. -/
def classItemsFrom (verbose : Bool) (current : OpenClass) (outer : List OpenClass) :
    List Char → Except SyntaxError ((Bool × ClassSet) × List Char)
  | [] => .error .classUnclosed
  | c :: rest => readClassMarked verbose (classItems verbose) current outer (c :: rest)

theorem classItems_eq (current : OpenClass) (outer : List OpenClass) (chars : List Char) :
    classItems verbose current outer chars =
      classItemsFrom verbose current outer (skipSpace verbose chars) := by
  rw [classItems, readClassItems_congr (Nat.le_refl _) (Nat.le_succ _), readClassItems_succ]
  have shorter := (skipSpace_suffix verbose chars).length_le
  cases start : skipSpace verbose chars with
  | nil => rfl
  | cons c rest =>
    rw [start, List.length_cons] at shorter
    exact readClassMarked_congr current outer fun _ _ _ le =>
      readClassItems_congr (by omega) (Nat.le_refl _)

theorem readClass_eq (chars : List Char) :
    readClass verbose chars = do
      let ((negated, items), after) ← readClassOpen verbose chars
      let ((negated, contents), after) ← classItems verbose ⟨negated, none, items⟩ [] after
      return (.bracketed negated contents, after) := by
  refine bind_congr_of_within (within_readClassOpen chars) fun opened rest shorter => ?_
  have enough : rest.length ≤ chars.length := by
    rw [List.length_drop] at shorter
    omega
  dsimp only
  rw [classItems, readClassItems_congr enough (Nat.le_refl _)]

/-! ### Branches -/

section

variable {next next' : Progress → List Char → Except SyntaxError (Progress × List Char)}

theorem readMarked_congr (progress : Progress) (c : Char) (rest : List Char)
    (within : ∀ progress chars, Within (next progress chars) chars)
    (same : ∀ progress chars, chars.length ≤ rest.length →
      next progress chars = next' progress chars) :
    readMarked next progress c rest = readMarked next' progress c rest := by
  have group (opened : GroupOpen) (after : List Char) (shorter : after.length ≤ rest.length) :
      readGroup next progress (opened, after) = readGroup next' progress (opened, after) := by
    cases opened with
    | flags => exact same _ _ shorter
    | group kind =>
      rw [readGroup, readGroup, ← same _ _ shorter]
      refine bind_congr_of_within (within _ after) fun inner behind le => ?_
      unfold readGroupClose
      dsimp only
      split
      next closed => exact same _ _ (Nat.le_of_succ_le (Nat.le_trans le shorter))
      next => rfl
  have repeated (body : Ast) (parts : List Ast) (bounds : Bounds) (after : List Char)
      (shorter : after.length ≤ rest.length) :
      readRepeated next progress body parts bounds after =
        readRepeated next' progress body parts bounds after :=
    same _ _ (Nat.le_trans (readLazy_suffix after).length_le shorter)
  unfold readMarked
  split
  next => rfl
  next => exact bind_congr_of_within (within_readGroupOpen _ _ _) group
  next => exact same _ _ (Nat.le_refl _)
  next => exact bind_congr_of_within (within_readClass _) fun _ _ => same _ _
  next => exact bind_congr fun _ => repeated _ _ _ _ (Nat.le_refl _)
  next =>
    refine bind_congr fun _ => bind_congr_of_within (within_readCounts _) fun bounds after le => ?_
    dsimp only
    rw [repeated _ _ _ _ (Nat.le_trans (skipSpace_suffix _ after).length_le le)]
  next => exact bind_congr_of_within (within_readEscape _) fun _ _ => same _ _
  next => exact same _ _ (Nat.le_refl _)

end

theorem readBranches_congr {fuel fuel' : Nat} {progress : Progress} {chars : List Char}
    (enough : chars.length < fuel) (enough' : chars.length < fuel') :
    readBranches fuel progress chars = readBranches fuel' progress chars := by
  induction fuel generalizing fuel' progress chars with
  | zero => cases enough
  | succ fuel ih =>
    obtain _ | fuel' := fuel'
    · cases enough'
    rw [readBranches_succ, readBranches_succ]
    have shorter := (skipSpace_suffix progress.verbose chars).length_le
    cases start : skipSpace progress.verbose chars with
    | nil => rfl
    | cons c rest =>
      rw [start, List.length_cons] at shorter
      exact readMarked_congr progress c rest (within_readBranches fuel) fun _ _ le =>
        ih (by omega) (by omega)

/-- The branches of a pattern or a group, with fuel for all characters. -/
def branchesOf (progress : Progress) (chars : List Char) :
    Except SyntaxError (Progress × List Char) :=
  readBranches (chars.length + 1) progress chars

/-- Reads on in a pattern where no space is left to skip. -/
def branchesFrom (progress : Progress) : List Char → Except SyntaxError (Progress × List Char)
  | [] => .ok (progress, [])
  | c :: rest => readMarked branchesOf progress c rest

theorem branchesOf_eq (progress : Progress) (chars : List Char) :
    branchesOf progress chars = branchesFrom progress (skipSpace progress.verbose chars) := by
  rw [branchesOf, readBranches_succ]
  have shorter := (skipSpace_suffix progress.verbose chars).length_le
  cases start : skipSpace progress.verbose chars with
  | nil => rfl
  | cons c rest =>
    rw [start, List.length_cons] at shorter
    exact readMarked_congr progress c rest (within_readBranches _) fun _ _ le =>
      readBranches_congr (by omega) (Nat.lt_succ_self _)

theorem within_branchesOf (progress : Progress) (chars : List Char) :
    Within (branchesOf progress chars) chars :=
  within_readBranches _ progress chars

/-! ### Where branches stop -/

theorem markOf_eq_close {c : Char} (closes : markOf c = .close) : c = ')' := by
  unfold markOf at closes
  split at closes
  all_goals first
    | rfl
    | cases closes

/-- What has been read ends at the end of the characters or at a closing parenthesis. -/
def StopsAtClose (outcome : Except SyntaxError (Progress × List Char)) : Prop :=
  ∀ progress rest, outcome = .ok (progress, rest) → rest = [] ∨ ∃ behind, rest = ')' :: behind

theorem stopsAtClose_error (reason : SyntaxError) : StopsAtClose (.error reason) :=
  nofun

theorem StopsAtClose.bind {α : Type} {outcome : Except SyntaxError (α × List Char)}
    {next : α × List Char → Except SyntaxError (Progress × List Char)} {chars : List Char}
    (within : Within outcome chars)
    (then_ : ∀ value rest, rest.length ≤ chars.length → StopsAtClose (next (value, rest))) :
    StopsAtClose (outcome >>= next) := by
  cases outcome with
  | error reason => exact stopsAtClose_error reason
  | ok read =>
    obtain ⟨value, rest⟩ := read
    exact then_ value rest (within value rest rfl).length_le

theorem StopsAtClose.check {α : Type} {check : Except SyntaxError α}
    {next : α → Except SyntaxError (Progress × List Char)}
    (then_ : ∀ value, StopsAtClose (next value)) : StopsAtClose (check >>= next) := by
  cases check with
  | error reason => exact stopsAtClose_error reason
  | ok value => exact then_ value

section

variable {progress : Progress} {rest : List Char}
  (stops : ∀ progress chars, chars.length ≤ rest.length → StopsAtClose (branchesOf progress chars))

include stops

theorem readGroup_stops (opened : GroupOpen) {chars : List Char}
    (shorter : chars.length ≤ rest.length) :
    StopsAtClose (readGroup branchesOf progress (opened, chars)) := by
  cases opened with
  | flags => exact stops _ _ shorter
  | group kind =>
    refine .bind (within_branchesOf _ chars) fun inner after le => ?_
    dsimp only [readGroupClose]
    split
    · exact stops _ _ (Nat.le_of_succ_le (Nat.le_trans le shorter))
    · exact stopsAtClose_error _

theorem readRepeated_stops (body : Ast) (parts : List Ast) (bounds : Bounds) {chars : List Char}
    (shorter : chars.length ≤ rest.length) :
    StopsAtClose (readRepeated branchesOf progress body parts bounds chars) :=
  stops _ _ (Nat.le_trans (readLazy_suffix chars).length_le shorter)

theorem readMarked_stops (c : Char) : StopsAtClose (readMarked branchesOf progress c rest) := by
  unfold readMarked
  split
  next closes =>
    rintro _ _ ⟨⟩
    exact .inr ⟨rest, by rw [markOf_eq_close closes]⟩
  next => exact .bind (within_readGroupOpen _ _ _) fun opened _ => readGroup_stops stops opened
  next => exact stops _ _ (Nat.le_refl _)
  next => exact .bind (within_readClass _) fun _ _ => stops _ _
  next => exact .check fun _ => readRepeated_stops stops _ _ _ (Nat.le_refl _)
  next =>
    refine .check fun _ => .bind (within_readCounts _) fun bounds after le => ?_
    dsimp only
    split
    · exact stopsAtClose_error _
    · exact readRepeated_stops stops _ _ _ (Nat.le_trans (skipSpace_suffix _ after).length_le le)
  next => exact .bind (within_readEscape _) fun _ _ => stops _ _
  next => exact stops _ _ (Nat.le_refl _)

end

theorem branchesOf_stops (progress : Progress) (chars : List Char) :
    StopsAtClose (branchesOf progress chars) := by
  induction length : chars.length using Nat.strongRecOn generalizing progress chars with
  | ind count ih =>
    subst length
    have shorter := (skipSpace_suffix progress.verbose chars).length_le
    rw [branchesOf_eq]
    cases start : skipSpace progress.verbose chars with
    | nil =>
      rintro _ _ ⟨⟩
      exact .inl rfl
    | cons c rest =>
      rw [start, List.length_cons] at shorter
      exact readMarked_stops
        (fun _ chars le => ih _ (Nat.lt_of_le_of_lt le shorter) _ chars rfl) c

end Fingerprint.Regex
