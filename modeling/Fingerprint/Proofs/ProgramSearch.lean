import Mathlib.Algebra.BigOperators.Fin
import Mathlib.Algebra.Order.BigOperators.Group.Finset
import Fingerprint.Proofs.ProgramPaths

/-!
What a search finds.

Following the instructions that consume nothing marks a set of addresses. The set is closed: from a
marked address one comes to marked addresses only, and where a thread has to wait for a character,
one waits. So no path is lost although each address is visited once.
-/

set_option autoImplicit false

namespace Fingerprint.Regex

open Relation (ReflTransGen)

/-- At these instructions a thread stays until the next character. -/
def Instruction.waits : Instruction → Bool
  | .chars _ _ | .accept => true
  | _ => false

/-- Where an instruction leads without a character. -/
def Instruction.silent (here : Cursor) : Instruction → List Nat
  | .chars _ _ | .accept => []
  | .assertion kind next => if kind.holds here.before here.after.head? then [next] else []
  | .save _ next => [next]
  | .fork targets => targets

/-- How many visits an instruction may cause, its own included. -/
def Instruction.visits : Instruction → Nat
  | .fork targets => targets.length + 1
  | _ => 2

/-- The address has been reached at this place of the text, or there is nothing at it. -/
def Marked (reached : Array Nat) (stamp address : Nat) : Prop :=
  reached.getD address stamp = stamp

instance (reached : Array Nat) (stamp address : Nat) : Decidable (Marked reached stamp address) :=
  inferInstanceAs (Decidable (_ = _))

/-- The visits that are left. -/
def Program.unvisited (program : Program) (stamp : Nat) (reached : Array Nat) : Nat :=
  ∑ address ∈ Finset.range program.code.size,
    if Marked reached stamp address then 0 else (program.code.getD address .accept).visits

/-- There is an instruction where a thread waits, and it waits there for a character or accepts. -/
def Thread.Stays (thread : Thread) (program : Program) : Prop :=
  ∃ instruction, program.code[thread.address]? = some instruction ∧ instruction.waits

/-- What has been reached is closed, up to addresses that are still to be visited. -/
structure Threads.Closed (threads : Threads) (program : Program) (here : Cursor) (stamp : Nat)
    (pending : List Nat) : Prop where
  size : threads.reached.size = program.code.size
  stay : ∀ thread ∈ threads.waiting, thread.Stays program
  halts : ∀ {address instruction}, program.code[address]? = some instruction → instruction.waits →
    Marked threads.reached stamp address → ∃ thread ∈ threads.waiting, thread.address = address
  onward : ∀ {address next}, Marked threads.reached stamp address →
    Step program.code (address, here) (next, here) →
      Marked threads.reached stamp next ∨ next ∈ pending

/-- Some waiting thread can go on to acceptance. -/
def Threads.Accept (threads : Threads) (program : Program) (here : Cursor) : Prop :=
  ∃ thread ∈ threads.waiting, Accepts program.code (thread.address, here)

variable {program : Program} {here : Cursor} {stamp address : Nat} {reached : Array Nat}
  {threads before after : Threads} {pending : List Nat}

theorem Cursor.Reads.ne {c : Char} {there : Cursor} (reads : here.Reads c there) :
    there ≠ here := by
  rintro rfl
  obtain ⟨rest, _, same⟩ := reads
  exact absurd (congrArg Cursor.position same) (Nat.ne_of_lt (Nat.lt_succ_self _))

theorem Instruction.mem_silent_iff {instruction : Instruction} {next : Nat}
    (holds : program.code[address]? = some instruction) :
    next ∈ instruction.silent here ↔ Step program.code (address, here) (next, here) := by
  cases instruction with
  | chars set target =>
    rw [Step.chars_iff holds]
    exact ⟨nofun, fun ⟨_, c, reads, _⟩ => absurd rfl reads.ne⟩
  | accept =>
    refine ⟨nofun, fun step => ?_⟩
    cases step with
    | chars other | assertion other | save other | fork other => cases holds.symm.trans other
  | assertion kind target =>
    rw [Step.assertion_iff holds, silent]
    split <;> simp_all
  | save slot target =>
    rw [Step.save_iff holds, silent, List.mem_singleton, Prod.mk.injEq]
    exact (and_iff_left rfl).symm
  | fork targets =>
    rw [Step.fork_iff holds]
    exact (and_iff_left rfl).symm

theorem Instruction.length_silent_lt (instruction : Instruction) (here : Cursor) :
    (instruction.silent here).length < instruction.visits := by
  cases instruction with
  | chars | accept => exact Nat.two_pos
  | save | fork => exact Nat.lt_succ_self _
  | assertion =>
    rw [silent]
    split
    · exact Nat.lt_succ_self _
    · exact Nat.two_pos

/-- Where a path to acceptance passes a closed set of addresses, a thread waits on it. -/
theorem Threads.Closed.accept (closed : threads.Closed program here stamp [])
    (marked : Marked threads.reached stamp address)
    (accepts : Accepts program.code (address, here)) :
    threads.Accept program here := by
  obtain ⟨count, accepts⟩ := accepts
  induction count generalizing address with
  | zero =>
    cases accepts with
    | accept holds =>
      obtain ⟨thread, member, rfl⟩ := closed.halts holds rfl marked
      exact ⟨thread, member, 0, .accept holds⟩
  | succ count ih =>
    cases accepts with
    | step step rest =>
      have silent {next : Nat} (step : Step program.code (address, here) (next, here))
          (rest : AcceptsIn program.code count (next, here)) : threads.Accept program here := by
        obtain marked | nothing := closed.onward marked step
        · exact ih marked rest
        · cases nothing
      cases step with
      | chars holds reads member =>
        obtain ⟨thread, waiting, rfl⟩ := closed.halts holds rfl marked
        exact ⟨thread, waiting, _, .step (.chars holds reads member) rest⟩
      | assertion holds true_ => exact silent (.assertion holds true_) rest
      | save holds => exact silent (.save holds) rest
      | fork holds target => exact silent (.fork holds target) rest

/-! ### Marks -/

theorem lt_size_of_not_marked (unmarked : ¬ Marked reached stamp address) :
    address < reached.size := by
  by_contra outside
  apply unmarked
  rw [Marked, Array.getD_eq_getD_getElem?, Array.getElem?_eq_none (Nat.le_of_not_lt outside)]
  rfl

theorem marked_setIfInBounds {other : Nat} :
    Marked (reached.setIfInBounds address stamp) stamp other ↔
      address = other ∨ Marked reached stamp other := by
  unfold Marked
  rw [Array.getD_eq_getD_getElem?, Array.getD_eq_getD_getElem?, Array.getElem?_setIfInBounds]
  split
  next same =>
    subst same
    split <;> simp
  next apart => simp [apart]

theorem recent_setIfInBounds (recent : ∀ other, reached.getD other 0 ≤ stamp) (other : Nat) :
    (reached.setIfInBounds address stamp).getD other 0 ≤ stamp := by
  have old := recent other
  rw [Array.getD_eq_getD_getElem?] at old ⊢
  rw [Array.getElem?_setIfInBounds]
  split
  · split
    · exact Nat.le_refl _
    · exact Nat.zero_le _
  · exact old

theorem unvisited_setIfInBounds (size : reached.size = program.code.size)
    (unmarked : ¬ Marked reached stamp address) :
    program.unvisited stamp (reached.setIfInBounds address stamp) +
      (program.code.getD address .accept).visits = program.unvisited stamp reached := by
  have inside : address ∈ Finset.range program.code.size := by
    rw [Finset.mem_range, ← size]
    exact lt_size_of_not_marked unmarked
  have marked : Marked (reached.setIfInBounds address stamp) stamp address :=
    marked_setIfInBounds.mpr (.inl rfl)
  have others : ∀ other ∈ (Finset.range program.code.size).erase address,
      (Marked (reached.setIfInBounds address stamp) stamp other ↔ Marked reached stamp other) :=
    fun other member =>
      marked_setIfInBounds.trans (or_iff_right (Finset.ne_of_mem_erase member).symm)
  unfold Program.unvisited
  rw [← Finset.add_sum_erase _ _ inside, if_pos marked,
    ← Finset.add_sum_erase _ (fun other => ite (Marked reached stamp other) _ _) inside,
    if_neg unmarked, Nat.zero_add, Nat.add_comm]
  congr 1
  exact Finset.sum_congr rfl fun other member => by simp only [others other member]

theorem work_eq : program.work = 2 + (program.code.toList.map Instruction.visits).sum := by
  have added (code : List Instruction) (total : Nat) :
      code.foldl (fun total instruction =>
        match instruction with
        | .fork targets => total + targets.length + 1
        | _ => total + 2) total = total + (code.map Instruction.visits).sum := by
    induction code generalizing total with
    | nil => rfl
    | cons instruction rest ih =>
      rw [List.foldl_cons, ih, List.map_cons, List.sum_cons, ← Nat.add_assoc]
      cases instruction <;> rfl
  rw [Program.work, ← Array.foldl_toList]
  exact added _ 2

/-- The work that a search allows for suffices to visit every address. -/
theorem unvisited_add_two_le_work (program : Program) (stamp : Nat) (reached : Array Nat) :
    program.unvisited stamp reached + 2 ≤ program.work := by
  have all : ∑ address ∈ Finset.range program.code.size,
      (program.code.getD address .accept).visits =
        (program.code.toList.map Instruction.visits).sum := by
    rw [Finset.sum_range, ← Fin.sum_univ_fun_getElem]
    refine Finset.sum_congr rfl fun address _ => ?_
    rw [Array.getD_eq_getD_getElem?, Array.getElem?_eq_getElem address.isLt]
    rfl
  have some_ : program.unvisited stamp reached ≤ _ :=
    Finset.sum_le_sum fun address _ => by
      split
      · exact Nat.zero_le _
      · exact Nat.le_refl _
  rw [work_eq, ← all]
  omega

/-! ### Following -/

/-- What following the instructions from pending addresses leads to. -/
structure Follows (program : Program) (here : Cursor) (stamp : Nat) (pending : List Nat)
    (before after : Threads) : Prop where
  closed : after.Closed program here stamp []
  stays : before.waiting ⊆ after.waiting
  keeps : ∀ address, Marked before.reached stamp address → Marked after.reached stamp address
  marks : ∀ address ∈ pending, Marked after.reached stamp address
  origin : ∀ thread ∈ after.waiting, thread ∈ before.waiting ∨
    ∃ target ∈ pending, ReflTransGen (Step program.code) (target, here) (thread.address, here)
  recent : (∀ address, before.reached.getD address 0 ≤ stamp) →
    ∀ address, after.reached.getD address 0 ≤ stamp

theorem Follows.accept_iff (follows : Follows program here stamp pending before after) :
    after.Accept program here ↔
      before.Accept program here ∨ ∃ target ∈ pending, Accepts program.code (target, here) := by
  constructor
  · rintro ⟨thread, member, accepts⟩
    obtain old | ⟨target, isPending, path⟩ := follows.origin thread member
    · exact .inl ⟨thread, old, accepts⟩
    · exact .inr ⟨target, isPending, accepts.of_path path⟩
  · rintro (⟨thread, member, accepts⟩ | ⟨target, isPending, accepts⟩)
    · exact ⟨thread, follows.stays member, accepts⟩
    · exact follows.closed.accept (follows.marks target isPending) accepts

theorem Follows.refl (closed : threads.Closed program here stamp []) :
    Follows program here stamp [] threads threads where
  closed := closed
  stays := List.Subset.refl _
  keeps _ marked := marked
  marks := nofun
  origin _ member := .inl member
  recent old := old

/-- The threads after a visit to an address. -/
def Threads.visited (threads : Threads) (stamp : Nat) (thread : Thread)
    (instruction : Instruction) :
    Threads where
  waiting := if instruction.waits then thread :: threads.waiting else threads.waiting
  reached := threads.reached.setIfInBounds thread.address stamp

/-- An address is visited for what it leads to. -/
theorem follow_visit (here : Cursor) (fuel : Nat) (slots : Slots) (rest : List (Nat × Slots))
    {instruction : Instruction} (unmarked : ¬ Marked threads.reached stamp address)
    (holds : program.code[address]? = some instruction) :
    ∃ slots', follow program here stamp (fuel + 1) ((address, slots) :: rest) threads =
      follow program here stamp fuel ((instruction.silent here).map (·, slots') ++ rest)
        (threads.visited stamp ⟨address, slots⟩ instruction) := by
  have held : program.code.getD address .accept = instruction := by
    rw [Array.getD_eq_getD_getElem?, holds]
    rfl
  rw [follow, if_neg (show ¬ threads.reached.getD address stamp = stamp from unmarked)]
  simp only [held]
  cases instruction with
  | chars | accept => exact ⟨slots, rfl⟩
  | assertion kind next =>
    refine ⟨slots, ?_⟩
    by_cases true_ : kind.holds here.before here.after.head?
    · simp [Instruction.silent, Threads.visited, Instruction.waits, true_]
    · simp [Instruction.silent, Threads.visited, Instruction.waits, true_]
  | save slot next => exact ⟨_, rfl⟩
  | fork targets => exact ⟨slots, rfl⟩

section

variable {rest : List Nat} {slots : Slots} {instruction : Instruction}

theorem Threads.mem_visited {thread visited : Thread} :
    thread ∈ (threads.visited stamp visited instruction).waiting ↔
      thread ∈ threads.waiting ∨ thread = visited ∧ instruction.waits := by
  unfold Threads.visited
  split
  next waits => simp [waits, or_comm]
  next => simp [*]

/-- A visit leaves what the address leads to. -/
theorem Threads.Closed.visit (slots : Slots)
    (closed : threads.Closed program here stamp (address :: rest))
    (holds : program.code[address]? = some instruction) :
    (threads.visited stamp ⟨address, slots⟩ instruction).Closed program here stamp
      (instruction.silent here ++ rest) where
  size := (Array.size_setIfInBounds ..).trans closed.size
  stay thread member := by
    obtain old | ⟨rfl, waits⟩ := Threads.mem_visited.mp member
    · exact closed.stay thread old
    · exact ⟨instruction, holds, waits⟩
  halts {other _} held waits marked := by
    obtain rfl | marked := marked_setIfInBounds.mp marked
    · cases holds.symm.trans held
      exact ⟨_, Threads.mem_visited.mpr (.inr ⟨rfl, waits⟩), rfl⟩
    · obtain ⟨thread, member, same⟩ := closed.halts held waits marked
      exact ⟨thread, Threads.mem_visited.mpr (.inl member), same⟩
  onward {other next} marked step := by
    obtain rfl | marked := marked_setIfInBounds.mp marked
    · exact .inr (List.mem_append_left _ ((Instruction.mem_silent_iff holds).mpr step))
    · obtain marked | isPending := closed.onward marked step
      · exact .inl (marked_setIfInBounds.mpr (.inr marked))
      · obtain rfl | isPending := List.mem_cons.mp isPending
        · exact .inl (marked_setIfInBounds.mpr (.inl rfl))
        · exact .inr (List.mem_append_right _ isPending)

theorem Follows.visit
    (follows : Follows program here stamp (instruction.silent here ++ rest)
      (threads.visited stamp ⟨address, slots⟩ instruction) after)
    (holds : program.code[address]? = some instruction) :
    Follows program here stamp (address :: rest) threads after where
  closed := follows.closed
  stays _ member := follows.stays (Threads.mem_visited.mpr (.inl member))
  keeps other marked := follows.keeps other (marked_setIfInBounds.mpr (.inr marked))
  marks other isPending := by
    obtain rfl | isPending := List.mem_cons.mp isPending
    · exact follows.keeps _ (marked_setIfInBounds.mpr (.inl rfl))
    · exact follows.marks other (List.mem_append_right _ isPending)
  origin thread member := by
    obtain old | ⟨target, isPending, path⟩ := follows.origin thread member
    · obtain old | ⟨rfl, _⟩ := Threads.mem_visited.mp old
      · exact .inl old
      · exact .inr ⟨address, List.mem_cons_self, .refl⟩
    · obtain silent | isPending := List.mem_append.mp isPending
      · have step := (Instruction.mem_silent_iff holds).mp silent
        exact .inr ⟨address, List.mem_cons_self, .head step path⟩
      · exact .inr ⟨target, List.mem_cons_of_mem _ isPending, path⟩
  recent old := follows.recent (recent_setIfInBounds old)

end

/-- An address that is marked already is passed over. -/
theorem Threads.Closed.skip (closed : threads.Closed program here stamp (address :: pending))
    (marked : Marked threads.reached stamp address) :
    threads.Closed program here stamp pending where
  size := closed.size
  stay := closed.stay
  halts := closed.halts
  onward isMarked step := by
    obtain isMarked | isPending := closed.onward isMarked step
    · exact .inl isMarked
    · obtain rfl | isPending := List.mem_cons.mp isPending
      · exact .inl marked
      · exact .inr isPending

theorem Follows.skip (follows : Follows program here stamp pending before after)
    (marked : Marked before.reached stamp address) :
    Follows program here stamp (address :: pending) before after where
  closed := follows.closed
  stays := follows.stays
  keeps := follows.keeps
  marks other isPending := by
    obtain rfl | isPending := List.mem_cons.mp isPending
    · exact follows.keeps _ marked
    · exact follows.marks other isPending
  origin thread member :=
    (follows.origin thread member).imp_right fun ⟨target, isPending, path⟩ =>
      ⟨target, List.mem_cons_of_mem _ isPending, path⟩
  recent := follows.recent

/-- With enough fuel all is followed from the addresses to visit. -/
theorem follow_follows (fuel : Nat) (targets : List (Nat × Slots))
    (closed : threads.Closed program here stamp (targets.map (·.1)))
    (enough : targets.length + program.unvisited stamp threads.reached ≤ fuel) :
    Follows program here stamp (targets.map (·.1)) threads
      (follow program here stamp fuel targets threads) := by
  induction fuel generalizing targets threads with
  | zero =>
    obtain rfl : targets = [] := List.eq_nil_of_length_eq_zero (by omega)
    exact .refl closed
  | succ fuel ih =>
    obtain _ | ⟨⟨address, slots⟩, rest⟩ := targets
    · exact .refl closed
    rw [List.length_cons] at enough
    by_cases marked : Marked threads.reached stamp address
    · rw [follow, if_pos (show threads.reached.getD address stamp = stamp from marked)]
      exact (ih rest (closed.skip marked) (by omega)).skip marked
    · obtain ⟨instruction, holds⟩ : ∃ instruction, program.code[address]? = some instruction := by
        have inside := lt_size_of_not_marked marked
        rw [closed.size] at inside
        exact ⟨_, Array.getElem?_eq_getElem inside⟩
      obtain ⟨slots', visits⟩ := follow_visit here fuel slots rest marked holds
      have targets : ((instruction.silent here).map (·, slots') ++ rest).map (·.1) =
          instruction.silent here ++ rest.map (·.1) := by
        rw [List.map_append, List.map_map]
        exact congrArg (· ++ _) (List.map_id _)
      have left := unvisited_setIfInBounds closed.size marked
      have fewer := instruction.length_silent_lt here
      rw [Array.getD_eq_getD_getElem?, holds, Option.getD_some] at left
      rw [visits]
      have follows := ih ((instruction.silent here).map (·, slots') ++ rest)
        (targets ▸ closed.visit slots holds) (by
          simp only [List.length_append, List.length_map, Threads.visited]
          omega)
      rw [targets] at follows
      exact follows.visit holds

/-! ### Accepting and advancing -/

/-- A thread that has come to the end of the program. -/
def Thread.Accepted (thread : Thread) (program : Program) : Prop :=
  program.code[thread.address]? = some .accept

/-- Whether a thread goes on to a target with a character. -/
def Thread.Moves (thread : Thread) (program : Program) (c : Char) (target : Nat) : Prop :=
  ∃ set, program.code[thread.address]? = some (.chars set target) ∧ set.contains c.toNat

theorem Thread.getD_of_holds {thread : Thread} {instruction : Instruction}
    (holds : program.code[thread.address]? = some instruction) :
    program.code.getD thread.address .accept = instruction := by
  rw [Array.getD_eq_getD_getElem?, holds]
  rfl

theorem accepted_cases {waiting : List Thread} (stay : ∀ thread ∈ waiting, thread.Stays program) :
    ((accepted program waiting).2.isSome ∧ ∃ thread ∈ waiting, thread.Accepted program) ∨
      (accepted program waiting = (waiting, none) ∧
        ∀ thread ∈ waiting, ¬ thread.Accepted program) := by
  induction waiting with
  | nil => exact .inr ⟨rfl, nofun⟩
  | cons thread rest ih =>
    obtain ⟨instruction, holds, waits⟩ := stay thread List.mem_cons_self
    have held := Thread.getD_of_holds holds
    cases instruction with
    | assertion | save | fork => cases waits
    | accept =>
      rw [accepted, held]
      exact .inl ⟨rfl, thread, List.mem_cons_self, holds⟩
    | chars set next =>
      rw [accepted, held]
      obtain ⟨found, other, member, accepts⟩ | ⟨none, nothing⟩ :=
        ih fun other member => stay other (List.mem_cons_of_mem _ member)
      · exact .inl ⟨found, other, List.mem_cons_of_mem _ member, accepts⟩
      · refine .inr ⟨by simp only [none], fun other member => ?_⟩
        obtain rfl | member := List.mem_cons.mp member
        · exact fun accepts => nomatch holds.symm.trans accepts
        · exact nothing other member

/-- A thread that waits and has not accepted goes on with the next character. -/
theorem Thread.accepts_iff {thread : Thread} (stays : thread.Stays program)
    (goesOn : ¬ thread.Accepted program) :
    Accepts program.code (thread.address, here) ↔
      ∃ c next target, here.Reads c next ∧ thread.Moves program c target ∧
        Accepts program.code (target, next) := by
  obtain ⟨instruction, holds, waits⟩ := stays
  cases instruction with
  | assertion | save | fork => cases waits
  | accept => exact absurd holds goesOn
  | chars set target =>
    constructor
    · rintro ⟨_, accepts⟩
      obtain ⟨fewer, ⟨_, next⟩, rfl, step, later⟩ := accepts.leaves holds nofun
      obtain ⟨rfl, c, reads, member⟩ := (Step.chars_iff holds).mp step
      exact ⟨c, next, _, reads, ⟨set, holds, member⟩, fewer, later⟩
    · rintro ⟨c, next, target', reads, ⟨_, held, member⟩, count, accepts⟩
      cases holds.symm.trans held
      exact ⟨_, .step (.chars holds reads member) accepts⟩

/-- What advancing threads leads to at the next place. -/
structure Advances (program : Program) (c : Char) (next : Cursor) (stamp : Nat)
    (waiting : List Thread) (before after : Threads) : Prop where
  closed : after.Closed program next stamp []
  recent : (∀ address, before.reached.getD address 0 ≤ stamp) →
    ∀ address, after.reached.getD address 0 ≤ stamp
  accept_iff : after.Accept program next ↔ before.Accept program next ∨
    ∃ thread ∈ waiting, ∃ target, thread.Moves program c target ∧
      Accepts program.code (target, next)

theorem follow_work (closed : threads.Closed program here stamp []) (target : Nat) (slots : Slots) :
    Follows program here stamp [target] threads
      (follow program here stamp program.work [(target, slots)] threads) := by
  have fits := unvisited_add_two_le_work program stamp threads.reached
  have opened : threads.Closed program here stamp [target] := {
    closed with
    onward := fun marked step => .inl ((closed.onward marked step).resolve_right nofun) }
  exact follow_follows program.work [(target, slots)] opened (by
    rw [List.length_singleton]
    omega)

theorem advances_nil {c : Char} (closed : before.Closed program here stamp []) :
    Advances program c here stamp [] before before where
  closed := closed
  recent old := old
  accept_iff := (or_iff_left nofun).symm

theorem Advances.cons {c : Char} {thread : Thread} {rest : List Thread} {middle : Threads}
    (first : Advances program c here stamp [thread] before middle)
    (others : Advances program c here stamp rest middle after) :
    Advances program c here stamp (thread :: rest) before after where
  closed := others.closed
  recent old := others.recent (first.recent old)
  accept_iff := by
    rw [others.accept_iff, first.accept_iff, or_assoc]
    simp only [List.mem_cons, exists_eq_or_imp, List.not_mem_nil, or_false, exists_eq_left]

theorem advances_single {c : Char} {thread : Thread} (stays : thread.Stays program)
    (closed : before.Closed program here stamp []) :
    Advances program c here stamp [thread] before
      (match program.code.getD thread.address .accept with
        | .chars set target =>
          if set.contains c.toNat then
            follow program here stamp program.work [(target, thread.slots)] before
          else before
        | _ => before) := by
  obtain ⟨instruction, holds, waits⟩ := stays
  rw [Thread.getD_of_holds holds]
  have stuck (still : ∀ target, ¬ thread.Moves program c target) :
      Advances program c here stamp [thread] before before := by
    refine ⟨closed, id, (or_iff_left ?_).symm⟩
    rintro ⟨other, member, target, moves, _⟩
    obtain rfl := List.mem_singleton.mp member
    exact still target moves
  cases instruction with
  | assertion | save | fork => cases waits
  | accept => exact stuck fun target ⟨_, other, _⟩ => nomatch holds.symm.trans other
  | chars set target =>
    dsimp only
    split
    next member =>
      have follows := follow_work closed target thread.slots
      refine ⟨follows.closed, follows.recent, follows.accept_iff.trans (or_congr_right ?_)⟩
      simp only [List.mem_singleton, exists_eq_left]
      constructor
      · exact fun accepts => ⟨target, ⟨set, holds, member⟩, accepts⟩
      · rintro ⟨_, ⟨_, other, _⟩, accepts⟩
        cases holds.symm.trans other
        exact accepts
    next apart =>
      refine stuck fun _ ⟨_, other, member⟩ => ?_
      cases holds.symm.trans other
      exact apart member

theorem advanceThreads_advances {c : Char} {waiting : List Thread}
    (stay : ∀ thread ∈ waiting, thread.Stays program)
    (closed : before.Closed program here stamp []) :
    Advances program c here stamp waiting before
      (advanceThreads program program.work c here stamp waiting before) := by
  induction waiting generalizing before with
  | nil => exact advances_nil closed
  | cons thread rest ih =>
    have first := advances_single (c := c) (stay thread List.mem_cons_self) closed
    have others (other : Thread) (member : other ∈ rest) : other.Stays program :=
      stay other (List.mem_cons_of_mem _ member)
    exact first.cons (ih others first.closed)

/-! ### Running -/

/-- A match that has been found is not given up. -/
theorem run_of_found {fuel : Nat} {empty : Slots} {found : Option Slots} (isFound : found.isSome) :
    (run program program.work empty fuel here threads found).isSome := by
  induction fuel generalizing here threads found with
  | zero => exact isFound
  | succ fuel ih =>
    rw [run]
    split
    · exact isFound
    · have stillFound (latest : Option Slots) : (latest.or found).isSome := by
        rw [Option.isSome_or, isFound, Bool.or_true]
      dsimp only
      split
      · exact ih (stillFound _)
      · exact stillFound _

/-- At a new place nothing has been reached. -/
theorem closed_of_recent (size : reached.size = program.code.size)
    (recent : ∀ address, reached.getD address 0 < stamp) :
    Threads.Closed ⟨[], reached⟩ program here stamp [] := by
  have unmarked {address : Nat} {instruction : Instruction}
      (holds : program.code[address]? = some instruction) : ¬ Marked reached stamp address := by
    obtain ⟨inside, _⟩ := Array.getElem?_eq_some_iff.mp holds
    have old := recent address
    rw [Array.getD_eq_getD_getElem?, Array.getElem?_eq_getElem (size ▸ inside)] at old
    rw [Marked, Array.getD_eq_getD_getElem?, Array.getElem?_eq_getElem (size ▸ inside)]
    exact Nat.ne_of_lt old
  exact {
    size := size
    stay := nofun
    halts := fun holds _ marked => absurd marked (unmarked holds)
    onward := fun marked step => by
      cases step with
      | chars holds | assertion holds | save holds | fork holds =>
        exact absurd marked (unmarked holds) }

theorem Cursor.onward_iff {there : Cursor} :
    here.Onward there ↔ here = there ∨ ∃ c next, here.Reads c next ∧ next.Onward there := by
  rw [Onward, Relation.ReflTransGen.cases_head_iff]
  refine or_congr_right ?_
  constructor
  · rintro ⟨next, ⟨c, reads⟩, onward⟩
    exact ⟨c, next, reads, onward⟩
  · rintro ⟨c, next, reads, onward⟩
    exact ⟨next, ⟨c, reads⟩, onward⟩

/-- Threads that do not accept at a place go on to the next one. -/
theorem Threads.Closed.accept_iff (closed : threads.Closed program here stamp [])
    (goOn : ∀ thread ∈ threads.waiting, ¬ thread.Accepted program) :
    threads.Accept program here ↔ ∃ c next, here.Reads c next ∧
      ∃ thread ∈ threads.waiting, ∃ target, thread.Moves program c target ∧
        Accepts program.code (target, next) := by
  constructor
  · rintro ⟨thread, member, accepts⟩
    obtain ⟨c, next, target, reads, moves, later⟩ :=
      (Thread.accepts_iff (closed.stay thread member) (goOn thread member)).mp accepts
    exact ⟨c, next, reads, thread, member, target, moves, later⟩
  · rintro ⟨c, next, reads, thread, member, target, moves, later⟩
    exact ⟨thread, member, (Thread.accepts_iff (closed.stay thread member) (goOn thread member)).mpr
      ⟨c, next, target, reads, moves, later⟩⟩

/-- A run finds a match exactly if a thread that waits, or one that begins here or further on, can
come to acceptance. -/
theorem run_isSome_iff {fuel : Nat} (empty : Slots)
    (closed : threads.Closed program here (here.position + 1) [])
    (recent : ∀ address, threads.reached.getD address 0 ≤ here.position + 1)
    (enough : here.after.length < fuel) :
    (run program program.work empty fuel here threads none).isSome ↔
      threads.Accept program here ∨
        ∃ there, here.Onward there ∧ Accepts program.code (0, there) := by
  induction fuel generalizing here threads with
  | zero => cases enough
  | succ fuel ih =>
    have follows := follow_work closed 0 empty
    have begun := follows.accept_iff
    have followed := follows.closed
    have stillRecent := follows.recent recent
    rw [run]
    simp only [Option.isSome_none, Bool.and_false, Bool.false_eq_true, if_false]
    generalize follow program here _ _ _ threads = started at *
    have stay : ∀ thread ∈ started.waiting.reverse, thread.Stays program := fun thread member =>
      followed.stay thread (List.mem_reverse.mp member)
    obtain ⟨found, thread, member, accepted⟩ | ⟨none, nothing⟩ := accepted_cases stay
    · refine iff_of_true ?_ ?_
      · rw [Option.or_none]
        split
        · exact run_of_found found
        · exact found
      · have accept : started.Accept program here :=
          ⟨thread, List.mem_reverse.mp member, 0, .accept accepted⟩
        refine (begun.mp accept).imp_right fun ⟨target, single, accepts⟩ => ⟨here, .refl, ?_⟩
        rwa [List.mem_singleton.mp single] at accepts
    · have moves := followed.accept_iff fun thread member =>
        nothing thread (List.mem_reverse.mpr member)
      have later : (threads.Accept program here ∨
            ∃ there, here.Onward there ∧ Accepts program.code (0, there)) ↔
          ∃ c next, here.Reads c next ∧
            ((∃ thread ∈ started.waiting.reverse, ∃ target, thread.Moves program c target ∧
                Accepts program.code (target, next)) ∨
              ∃ there, next.Onward there ∧ Accepts program.code (0, there)) := by
        have ahead : (∃ there, here.Onward there ∧ Accepts program.code (0, there)) ↔
            Accepts program.code (0, here) ∨ ∃ c next, here.Reads c next ∧
              ∃ there, next.Onward there ∧ Accepts program.code (0, there) := by
          constructor
          · rintro ⟨there, onward, accepts⟩
            obtain rfl | ⟨c, next, reads, onward⟩ := Cursor.onward_iff.mp onward
            · exact .inl accepts
            · exact .inr ⟨c, next, reads, there, onward, accepts⟩
          · rintro (accepts | ⟨c, next, reads, there, onward, accepts⟩)
            · exact ⟨here, .refl, accepts⟩
            · exact ⟨there, Cursor.onward_iff.mpr (.inr ⟨c, next, reads, onward⟩), accepts⟩
        simp only [List.mem_singleton, exists_eq_left] at begun
        rw [ahead, ← or_assoc, ← begun, moves]
        simp only [List.mem_reverse, ← exists_or, ← and_or_left]
      rw [later, none]
      obtain ⟨position, before, after⟩ := here
      cases after with
      | nil =>
        refine iff_of_false Bool.false_ne_true ?_
        rintro ⟨c, next, ⟨rest, nothing, _⟩, _⟩
        cases nothing
      | cons c rest =>
        have advanced : Advances program c ⟨position + 1, some c, rest⟩ (position + 2)
            started.waiting.reverse ⟨[], started.reached⟩ _ := advanceThreads_advances stay
          (closed_of_recent followed.size fun address => Nat.lt_succ_of_le (stillRecent address))
        have rested := ih advanced.closed
          (advanced.recent fun address => Nat.le_succ_of_le (stillRecent address))
          (Nat.lt_of_succ_lt_succ enough)
        rw [advanced.accept_iff] at rested
        refine rested.trans ?_
        constructor
        · rintro ((⟨_, nothing, _⟩ | waiting) | beginning)
          · cases nothing
          · exact ⟨c, _, ⟨rest, rfl, rfl⟩, .inl waiting⟩
          · exact ⟨c, _, ⟨rest, rfl, rfl⟩, .inr beginning⟩
        · rintro ⟨_, _, ⟨_, same, rfl⟩, found⟩
          cases same
          exact found.imp_left .inr

/-- A search finds a match exactly if the program can come to acceptance from its beginning, at some
place of the text that is left. -/
theorem Program.search_isSome_iff :
    (program.search here).isSome ↔
      ∃ there, here.Onward there ∧ Accepts program.code (0, there) := by
  have unmarked (address : Nat) : (Array.replicate program.code.size 0).getD address 0 = 0 := by
    rw [Array.getD_eq_getD_getElem?, Array.getElem?_replicate]
    split <;> rfl
  have closed : Threads.Closed ⟨[], Array.replicate program.code.size 0⟩ program here
      (here.position + 1) [] :=
    closed_of_recent (Array.size_replicate ..) fun address => by
      rw [unmarked]
      exact Nat.succ_pos _
  have runs := run_isSome_iff (Array.replicate program.slots none) closed
    (fun address => (unmarked address).le.trans (Nat.zero_le _)) (Nat.lt_succ_self _)
  refine runs.trans (or_iff_right ?_)
  rintro ⟨_, nothing, _⟩
  cases nothing

/-- A regular expression matches a text exactly if it spans a piece of it. -/
theorem Program.search_ofExpr_isSome_iff {expr : Expr} :
    ((ofExpr expr).search here).isSome ↔
      ∃ start stop, here.Onward start ∧ expr.Spans start stop := by
  rw [search_isSome_iff]
  simp only [accepts_iff, exists_and_left]

end Fingerprint.Regex
