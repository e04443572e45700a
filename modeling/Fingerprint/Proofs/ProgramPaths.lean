import Fingerprint.Proofs.Language
import Fingerprint.Proofs.Layout

/-!
What the code of an expression does.

From the beginning of the code of an expression a program comes to the address that the code goes on
with, for exactly the pieces of text that the expression spans. What is sound is stated for paths
that end in acceptance, with their length, since the loop of a repetition can only be left behind on
a shorter path.
-/

set_option autoImplicit false

namespace Fingerprint.Regex

open Relation (ReflTransGen)
open Unicode (CodePoints)

/-- One step of a thread, from an address and a place of the text to others. -/
inductive Step (code : Array Instruction) : Nat × Cursor → Nat × Cursor → Prop where
  | chars {address next : Nat} {set : CodePoints.Index} {c : Char} {here there : Cursor} :
    code[address]? = some (.chars set next) → here.Reads c there → set.contains c.toNat →
      Step code (address, here) (next, there)
  | assertion {address next : Nat} {kind : Assertion} {here : Cursor} :
    code[address]? = some (.assertion kind next) → kind.holds here.before here.after.head? →
      Step code (address, here) (next, here)
  | save {address next slot : Nat} {here : Cursor} :
    code[address]? = some (.save slot next) → Step code (address, here) (next, here)
  | fork {address next : Nat} {targets : List Nat} {here : Cursor} :
    code[address]? = some (.fork targets) → next ∈ targets → Step code (address, here) (next, here)

/-- A number of steps lead to acceptance. -/
inductive AcceptsIn (code : Array Instruction) : Nat → Nat × Cursor → Prop where
  | accept {address : Nat} {here : Cursor} :
    code[address]? = some .accept → AcceptsIn code 0 (address, here)
  | step {count : Nat} {state next : Nat × Cursor} :
    Step code state next → AcceptsIn code count next → AcceptsIn code (count + 1) state

def Accepts (code : Array Instruction) (state : Nat × Cursor) : Prop :=
  ∃ count, AcceptsIn code count state

variable {code : Array Instruction} {address : Nat} {here : Cursor} {state : Nat × Cursor}

/-! ### Steps by their instruction -/

theorem Step.fork_iff {targets : List Nat} (holds : code[address]? = some (.fork targets)) :
    Step code (address, here) state ↔ state.1 ∈ targets ∧ state.2 = here := by
  constructor
  · intro step
    cases step with
    | chars other | assertion other | save other => cases holds.symm.trans other
    | fork same target =>
      cases holds.symm.trans same
      exact ⟨target, rfl⟩
  · obtain ⟨next, there⟩ := state
    rintro ⟨target, rfl⟩
    exact .fork holds target

theorem Step.prefer_iff {greedy : Bool} {first second : Nat}
    (holds : code[address]? = some (.prefer greedy first second)) :
    Step code (address, here) state ↔ (state.1 = first ∨ state.1 = second) ∧ state.2 = here := by
  rw [Step.fork_iff holds]
  cases greedy <;> simp [or_comm]

theorem Step.save_iff {slot next : Nat} (holds : code[address]? = some (.save slot next)) :
    Step code (address, here) state ↔ state = (next, here) := by
  constructor
  · intro step
    cases step with
    | chars other | assertion other | fork other => cases holds.symm.trans other
    | save same =>
      cases holds.symm.trans same
      rfl
  · rintro rfl
    exact .save holds

theorem Step.assertion_iff {kind : Assertion} {next : Nat}
    (holds : code[address]? = some (.assertion kind next)) :
    Step code (address, here) state ↔
      state = (next, here) ∧ kind.holds here.before here.after.head? := by
  constructor
  · intro step
    cases step with
    | chars other | save other | fork other => cases holds.symm.trans other
    | assertion same true_ =>
      cases holds.symm.trans same
      exact ⟨rfl, true_⟩
  · rintro ⟨rfl, true_⟩
    exact .assertion holds true_

theorem Step.chars_iff {set : CodePoints.Index} {next : Nat}
    (holds : code[address]? = some (.chars set next)) :
    Step code (address, here) state ↔
      state.1 = next ∧ ∃ c, here.Reads c state.2 ∧ set.contains c.toNat := by
  constructor
  · intro step
    cases step with
    | assertion other | save other | fork other => cases holds.symm.trans other
    | chars same reads member =>
      cases holds.symm.trans same
      exact ⟨rfl, _, reads, member⟩
  · obtain ⟨_, there⟩ := state
    rintro ⟨rfl, c, reads, member⟩
    exact .chars holds reads member

/-- Acceptance takes a step where the program does not accept. -/
theorem AcceptsIn.leaves {count : Nat} {instruction : Instruction}
    (accepts : AcceptsIn code count (address, here)) (holds : code[address]? = some instruction)
    (goesOn : instruction ≠ .accept) :
    ∃ fewer next, count = fewer + 1 ∧ Step code (address, here) next ∧
      AcceptsIn code fewer next := by
  cases accepts with
  | accept other => exact absurd (Option.some.inj (holds.symm.trans other)) goesOn
  | step step rest => exact ⟨_, _, rfl, step, rest⟩

theorem Accepts.of_path {next : Nat × Cursor} (path : ReflTransGen (Step code) state next)
    (accepts : Accepts code next) : Accepts code state := by
  induction path using ReflTransGen.head_induction_on with
  | refl => exact accepts
  | head step _ ih =>
    obtain ⟨count, accepts⟩ := ih
    exact ⟨_, .step step accepts⟩

/-! ### Pieces of code -/

/-- What a piece of code does between its beginning and the address that it goes on with. -/
structure Placing.Spans (piece : Placing) (spans : Cursor → Cursor → Prop) : Prop where
  sound : ∀ {code start next here count}, piece code start next →
    AcceptsIn code count (start, here) →
      ∃ there fewer, fewer ≤ count ∧ spans here there ∧ AcceptsIn code fewer (next, there)
  complete : ∀ {code start next here there}, piece code start next → spans here there →
    ReflTransGen (Step code) (start, here) (next, there)

namespace Placing

variable {piece piece' : Placing} {spans spans' : Cursor → Cursor → Prop}

theorem Spans.congr (does : piece.Spans spans)
    (same : ∀ here there, spans here there ↔ spans' here there) : piece.Spans spans' where
  sound placed accepts := by
    obtain ⟨there, fewer, le, spanned, rest⟩ := does.sound placed accepts
    exact ⟨there, fewer, le, (same _ _).mp spanned, rest⟩
  complete placed spanned := does.complete placed ((same _ _).mpr spanned)

theorem spans_single {make : Nat → Instruction} (goesOn : ∀ next, make next ≠ .accept)
    (steps : ∀ {code : Array Instruction} {address next : Nat} {here : Cursor}
      {state : Nat × Cursor},
      code[address]? = some (make next) →
        (Step code (address, here) state ↔ state.1 = next ∧ spans here state.2)) :
    (single make).Spans spans where
  sound placed accepts := by
    obtain ⟨fewer, ⟨_, there⟩, rfl, step, rest⟩ := accepts.leaves placed (goesOn _)
    obtain ⟨rfl, spanned⟩ := (steps placed).mp step
    exact ⟨there, fewer, Nat.le_succ _, spanned, rest⟩
  complete placed spanned := .single ((steps placed).mpr ⟨rfl, spanned⟩)

theorem spans_empty : (single fun next => .fork [next]).Spans Eq :=
  spans_single nofun fun holds => by
    rw [Step.fork_iff holds, List.mem_singleton]
    exact and_congr_right fun _ => eq_comm

theorem spans_save (slot : Nat) : (single (.save slot)).Spans Eq :=
  spans_single nofun fun holds => by
    rw [Step.save_iff holds, Prod.ext_iff]
    exact and_congr_right fun _ => eq_comm

theorem Spans.followedBy (first : piece.Spans spans) (second : piece'.Spans spans') :
    (piece.followedBy piece').Spans
      fun here there => ∃ middle, spans here middle ∧ spans' middle there where
  sound placed accepts := by
    obtain ⟨_, before, behind⟩ := placed
    obtain ⟨middle, fewer, le, spanned, accepts⟩ := first.sound before accepts
    obtain ⟨there, least, le', spanned', rest⟩ := second.sound behind accepts
    exact ⟨there, least, Nat.le_trans le' le, ⟨middle, spanned, spanned'⟩, rest⟩
  complete placed spanned := by
    obtain ⟨_, before, behind⟩ := placed
    obtain ⟨middle, spanned, spanned'⟩ := spanned
    exact (first.complete before spanned).trans (second.complete behind spanned')

theorem Spans.copies (does : piece.Spans spans) (count : Nat) :
    (piece.copies count).Spans (Repeats spans count) := by
  induction count with
  | zero =>
    constructor
    · rintro _ _ _ here count rfl accepts
      exact ⟨here, count, Nat.le_refl _, rfl, accepts⟩
    · rintro _ _ _ _ _ rfl rfl
      exact .refl
  | succ count ih => exact does.followedBy ih

theorem Spans.optional (does : piece.Spans spans) (greedy : Bool) (count : Nat) :
    (piece.optional greedy count).Spans
      fun here there => ∃ times ≤ count, Repeats spans times here there := by
  induction count with
  | zero =>
    constructor
    · rintro _ _ _ here count rfl accepts
      exact ⟨here, count, Nat.le_refl _, ⟨0, Nat.le_refl _, rfl⟩, accepts⟩
    · rintro _ _ _ _ _ rfl ⟨times, none, spanned⟩
      obtain rfl := Nat.le_zero.mp none
      obtain rfl := spanned
      exact .refl
  | succ count ih =>
    constructor
    · rintro code start next here total ⟨choice, middle, first, others⟩ accepts
      obtain ⟨fewer, ⟨target, _⟩, rfl, step, later⟩ := accepts.leaves choice nofun
      obtain ⟨rfl | rfl, rfl⟩ := (Step.prefer_iff choice).mp step
      · obtain ⟨place, less, le, once, behind⟩ := does.sound first later
        obtain ⟨there, least, le', ⟨times, bound, more⟩, rest⟩ := ih.sound others behind
        exact ⟨there, least, by omega, ⟨times + 1, by omega, place, once, more⟩, rest⟩
      · exact ⟨_, fewer, Nat.le_succ _, ⟨0, Nat.zero_le _, rfl⟩, later⟩
    · rintro code start next here there ⟨choice, middle, first, others⟩ ⟨times, bound, spanned⟩
      cases times with
      | zero =>
        obtain rfl := spanned
        exact .single ((Step.prefer_iff choice).mpr ⟨.inr rfl, rfl⟩)
      | succ times =>
        obtain ⟨place, once, more⟩ := spanned
        have enters : Step code (start, here) (start + 1, here) :=
          (Step.prefer_iff choice).mpr ⟨.inl rfl, rfl⟩
        have behind := ih.complete others ⟨times, by omega, more⟩
        exact .head enters ((does.complete first once).trans behind)

/-- From the choice behind a piece of code the piece may be repeated. -/
theorem Spans.again (does : piece.Spans spans) {greedy : Bool} {first back next : Nat}
    (placed : piece code first back) (choice : code[back]? = some (.prefer greedy first next))
    {count : Nat} (accepts : AcceptsIn code count (back, here)) :
    ∃ there fewer, fewer < count ∧ (∃ times, Repeats spans times here there) ∧
      AcceptsIn code fewer (next, there) := by
  induction count using Nat.strongRecOn generalizing here with
  | ind count ih =>
    obtain ⟨fewer, ⟨target, _⟩, rfl, step, later⟩ := accepts.leaves choice nofun
    obtain ⟨rfl | rfl, rfl⟩ := (Step.prefer_iff choice).mp step
    · obtain ⟨middle, less, le, once, behind⟩ := does.sound placed later
      obtain ⟨there, least, lt, ⟨times, more⟩, rest⟩ := ih less (by omega) behind
      exact ⟨there, least, by omega, ⟨times + 1, middle, once, more⟩, rest⟩
    · exact ⟨_, fewer, Nat.lt_succ_self _, ⟨0, rfl⟩, later⟩

theorem Spans.again_complete (does : piece.Spans spans) {greedy : Bool} {first back next : Nat}
    (placed : piece code first back) (choice : code[back]? = some (.prefer greedy first next))
    {times : Nat} {there : Cursor} (spanned : Repeats spans times here there) :
    ReflTransGen (Step code) (back, here) (next, there) := by
  induction times generalizing here with
  | zero =>
    obtain rfl := spanned
    exact .single ((Step.prefer_iff choice).mpr ⟨.inr rfl, rfl⟩)
  | succ times ih =>
    obtain ⟨middle, once, more⟩ := spanned
    have enters : Step code (back, here) (first, here) :=
      (Step.prefer_iff choice).mpr ⟨.inl rfl, rfl⟩
    exact .head enters ((does.complete placed once).trans (ih more))

theorem Spans.loop (does : piece.Spans spans) (greedy : Bool) :
    (piece.loop greedy).Spans
      fun here there => ∃ times, 0 < times ∧ Repeats spans times here there where
  sound placed accepts := by
    obtain ⟨back, first, choice⟩ := placed
    obtain ⟨middle, fewer, le, once, behind⟩ := does.sound first accepts
    obtain ⟨there, least, lt, ⟨times, more⟩, rest⟩ := does.again first choice behind
    exact ⟨there, least, by omega, ⟨times + 1, times.succ_pos, middle, once, more⟩, rest⟩
  complete placed spanned := by
    obtain ⟨back, first, choice⟩ := placed
    obtain ⟨_ | times, several, spanned⟩ := spanned
    · cases several
    · obtain ⟨middle, once, more⟩ := spanned
      exact (does.complete first once).trans (does.again_complete first choice more)

theorem Spans.star (does : piece.Spans spans) (greedy : Bool) :
    Spans (fun code start next =>
        code[start]? = some (.prefer greedy (start + 1) next) ∧
          piece.loop greedy code (start + 1) next)
      fun here there => ∃ times, Repeats spans times here there where
  sound placed accepts := by
    obtain ⟨choice, loop⟩ := placed
    obtain ⟨fewer, ⟨target, _⟩, rfl, step, later⟩ := accepts.leaves choice nofun
    obtain ⟨rfl | rfl, rfl⟩ := (Step.prefer_iff choice).mp step
    · obtain ⟨there, least, le, ⟨times, _, spanned⟩, rest⟩ := (does.loop greedy).sound loop later
      exact ⟨there, least, by omega, ⟨times, spanned⟩, rest⟩
    · exact ⟨_, fewer, Nat.le_succ _, ⟨0, rfl⟩, later⟩
  complete placed spanned := by
    obtain ⟨choice, loop⟩ := placed
    obtain ⟨_ | times, spanned⟩ := spanned
    · obtain rfl := spanned
      exact .single ((Step.prefer_iff choice).mpr ⟨.inr rfl, rfl⟩)
    · exact .head ((Step.prefer_iff choice).mpr ⟨.inl rfl, rfl⟩)
        ((does.loop greedy).complete loop ⟨_, times.succ_pos, spanned⟩)

theorem contains_index_single {code other : Nat} :
    (CodePoints.single code).index.contains other ↔ other = code := by
  obtain below | same | above := Nat.lt_trichotomy other code
  · simp [CodePoints.single, CodePoints.index, Unicode.Range.single, CodePoints.Index.contains,
      CodePoints.Index.search, below, Nat.ne_of_lt below]
  · simp [CodePoints.single, CodePoints.index, Unicode.Range.single, CodePoints.Index.contains,
      CodePoints.Index.search, same]
  · simp [CodePoints.single, CodePoints.index, Unicode.Range.single, CodePoints.Index.contains,
      CodePoints.Index.search, above, Nat.ne_of_gt above, Nat.lt_asymm above]

theorem spans_char (c : Char) :
    (single (.chars (CodePoints.single c.toNat).index)).Spans (Cursor.Reads · c ·) := by
  refine spans_single nofun fun holds => (Step.chars_iff holds).trans (and_congr_right fun _ => ?_)
  simp only [contains_index_single, Char.toNat_inj]
  exact exists_eq_right

theorem spans_text (text : List Char) : (Placing.text text).Spans (SpansText text) := by
  fun_induction Placing.text text with
  | case1 => exact spans_empty
  | case2 c =>
    refine (spans_char c).congr fun here there => ⟨fun reads => ⟨there, reads, rfl⟩, ?_⟩
    rintro ⟨_, reads, rfl⟩
    exact reads
  | case3 c rest _ ih => exact (spans_char c).followedBy ih

theorem Spans.bounded (does : piece.Spans spans) (greedy : Bool) (least most : Nat) :
    (if max least most = 0 then single fun next => .fork [next]
      else (piece.copies least).followedBy (piece.optional greedy (most - least))).Spans
      fun here there => ∃ count, (least ≤ count ∧ count ≤ max least most) ∧
        Repeats spans count here there := by
  split
  next none =>
    refine spans_empty.congr fun here there => ⟨fun same => ⟨0, by omega, same⟩, ?_⟩
    rintro ⟨count, bound, same⟩
    obtain rfl : count = 0 := by omega
    exact same
  next =>
    refine ((does.copies least).followedBy (does.optional greedy _)).congr fun here there => ?_
    rw [exists_repeats_add]
    exact exists_congr fun count => and_congr_left fun _ => by omega

end Placing

open Placing

/-- What the code of the branches of a choice does from the beginning of each of them on. -/
structure Expr.BranchesSpan (branches : List Expr) (code : Array Instruction) (start next : Nat) :
    Prop where
  sound : ∀ {target here count}, target ∈ Expr.starts start branches →
    AcceptsIn code count (target, here) →
      ∃ there fewer, fewer ≤ count ∧ Expr.SpansAny branches here there ∧
        AcceptsIn code fewer (next, there)
  complete : ∀ {here there}, Expr.SpansAny branches here there →
    ∃ target ∈ Expr.starts start branches, ReflTransGen (Step code) (target, here) (next, there)

mutual

/-- The code of an expression leads from its beginning to the address that it goes on with, for
exactly the pieces of text that the expression spans. -/
theorem Expr.placing_spans : ∀ expr : Expr, expr.placing.Spans expr.Spans
  | .empty => spans_empty
  | .literal text => spans_text text
  | .chars set => spans_single nofun fun holds => Step.chars_iff holds
  | .assertion kind => spans_single nofun fun holds => by
    rw [Step.assertion_iff holds, Prod.ext_iff, and_assoc]
    exact and_congr_right fun _ => and_congr_left fun _ => eq_comm
  | .repeat ⟨0, none⟩ greedy body => by
    refine (body.placing_spans.star greedy).congr fun here there => ?_
    exact exists_congr fun count =>
      (and_iff_right (⟨Nat.zero_le _, nofun⟩ : Bounds.Admits ⟨0, none⟩ count)).symm
  | .repeat ⟨least + 1, none⟩ greedy body => by
    have one := body.placing_spans
    refine ((one.copies least).followedBy (one.loop greedy)).congr fun here there => ?_
    rw [exists_repeats_add]
    refine exists_congr fun count => and_congr_left fun _ => ?_
    have admits : Bounds.Admits ⟨least + 1, none⟩ count ↔ least + 1 ≤ count :=
      and_iff_left nofun
    rw [admits]
    omega
  | .repeat ⟨least, some most⟩ greedy body => by
    refine (body.placing_spans.bounded greedy least most).congr fun here there => ?_
    refine exists_congr fun count => and_congr_left fun _ => and_congr_right fun _ => ?_
    exact ⟨fun bound _ same => Option.some.inj same ▸ bound, fun bound => bound _ rfl⟩
  | .group index body => by
    have inner := body.placing_spans.followedBy (spans_save (2 * index + 1))
    refine ((spans_save (2 * index)).followedBy inner).congr fun here there => ?_
    simp only [exists_eq_left', exists_eq_right, Expr.Spans]
  | .seq parts => Expr.placingAll_spans parts
  | .choice branches => {
    sound := fun ⟨forks, placed⟩ accepts => by
      obtain ⟨fewer, ⟨target, _⟩, rfl, step, later⟩ := accepts.leaves forks nofun
      obtain ⟨begins, rfl⟩ := (Step.fork_iff forks).mp step
      obtain ⟨there, least, le, spanned, rest⟩ :=
        (Expr.placingAny_spans branches placed).sound begins later
      exact ⟨there, least, Nat.le_succ_of_le le, spanned, rest⟩
    complete := fun ⟨forks, placed⟩ spanned => by
      obtain ⟨target, begins, path⟩ := (Expr.placingAny_spans branches placed).complete spanned
      exact .head (.fork forks begins) path }

theorem Expr.placingAll_spans : ∀ parts : List Expr,
    (Expr.placingAll parts).Spans (Expr.SpansAll parts)
  | [] => spans_empty
  | part :: rest => part.placing_spans.followedBy (Expr.placingAll_spans rest)

theorem Expr.placingAny_spans : ∀ (branches : List Expr) {code : Array Instruction}
    {start next : Nat}, Expr.placingAny branches code start next →
      Expr.BranchesSpan branches code start next
  | [], _, _, _, _ => ⟨nofun, nofun⟩
  | branch :: rest, _, _, _, ⟨placed, others⟩ => {
    sound := fun begins accepts => by
      obtain rfl | begins := List.mem_cons.mp begins
      · obtain ⟨there, fewer, le, spanned, accepts⟩ := branch.placing_spans.sound placed accepts
        exact ⟨there, fewer, le, .inl spanned, accepts⟩
      · obtain ⟨there, fewer, le, spanned, accepts⟩ :=
          (Expr.placingAny_spans rest others).sound begins accepts
        exact ⟨there, fewer, le, .inr spanned, accepts⟩
    complete := fun spanned => by
      obtain spanned | spanned := spanned
      · exact ⟨_, List.mem_cons_self, branch.placing_spans.complete placed spanned⟩
      · obtain ⟨target, begins, path⟩ := (Expr.placingAny_spans rest others).complete spanned
        exact ⟨target, List.mem_cons_of_mem _ begins, path⟩ }

end

/-- From its beginning the program of an expression accepts where the expression spans a piece. -/
theorem Program.accepts_iff {expr : Expr} {here : Cursor} :
    Accepts (Program.ofExpr expr).code (0, here) ↔ ∃ there, expr.Spans here there := by
  obtain ⟨enter, placed, leave, accept⟩ := Program.placed expr
  constructor
  · rintro ⟨_, accepts⟩
    obtain ⟨fewer, state, rfl, step, later⟩ := accepts.leaves enter nofun
    obtain rfl := (Step.save_iff enter).mp step
    obtain ⟨there, _, _, spanned, _⟩ := expr.placing_spans.sound placed later
    exact ⟨there, spanned⟩
  · rintro ⟨there, spanned⟩
    have path := ((ReflTransGen.single (.save enter)).trans
      (expr.placing_spans.complete placed spanned)).tail (.save leave)
    exact Accepts.of_path path ⟨0, .accept accept⟩

end Fingerprint.Regex
