import Fingerprint.Regex.Program

/-!
Running a program on a text.

The threads of a program advance over the text together, so that each character is looked at once
for every instruction at most. Threads are kept in order of preference; the first that accepts
cuts off those behind it, and the search goes on only with those before it.
-/

namespace Fingerprint.Regex

/-- A place in a text: its position, the character before it and the characters after it. -/
structure Cursor where
  position : Nat
  before : Option Char
  after : List Char
deriving Repr, Inhabited

namespace Cursor

def ofText (chars : List Char) : Cursor := ⟨0, none, chars⟩

/-- The next place, if there is one. -/
def next? (cursor : Cursor) : Option Cursor :=
  match cursor.after with
  | [] => none
  | c :: rest => some ⟨cursor.position + 1, some c, rest⟩

/-- The place `count` characters further on, or the end. -/
def advance (cursor : Cursor) : Nat → Cursor
  | 0 => cursor
  | count + 1 =>
    match cursor.after with
    | [] => cursor
    | c :: rest => advance ⟨cursor.position + 1, some c, rest⟩ count

end Cursor

def wordIndex : Unicode.CodePoints.Index := Unicode.wordCharacters.index

/-- Whether a character belongs to a word. -/
def isWord (unicode : Bool) (c : Option Char) : Bool :=
  match c with
  | none => false
  | some c =>
    if c.toNat < 0x80 then c.isAlphanum || c = '_'
    else unicode && wordIndex.contains c.toNat

/-- Whether an assertion holds between two characters of a text. -/
def Assertion.holds (before after : Option Char) : Assertion → Bool
  | .textStart => before.isNone
  | .textEnd => after.isNone
  | .lineStart => before.isNone || before = some '\n'
  | .lineEnd => after.isNone || after = some '\n'
  | .crlfLineStart =>
    before.isNone || before = some '\n' || (before = some '\r' && after ≠ some '\n')
  | .crlfLineEnd =>
    after.isNone || after = some '\r' || (after = some '\n' && before ≠ some '\r')
  | .wordBoundary unicode => isWord unicode before != isWord unicode after
  | .notWordBoundary unicode => isWord unicode before == isWord unicode after
  | .wordStart unicode => !isWord unicode before && isWord unicode after
  | .wordEnd unicode => isWord unicode before && !isWord unicode after
  | .wordStartHalf unicode => !isWord unicode before
  | .wordEndHalf unicode => !isWord unicode after

/-- Positions saved by a thread, by slot. -/
abbrev Slots := Array (Option Nat)

/-- A thread that waits at an instruction for the next character, or accepts. -/
structure Thread where
  address : Nat
  slots : Slots
deriving Inhabited

/-- The threads at a place of the text, the most preferred last, and the addresses reached there:
an address holds the stamp of the last place where it was reached. -/
structure Threads where
  waiting : List Thread
  reached : Array Nat

/-- Follows the instructions that consume nothing. The list holds the addresses to visit in order
of preference; an address is visited once. The fuel bounds the number of visits. -/
def follow (program : Program) (cursor : Cursor) (stamp : Nat) :
    Nat → List (Nat × Slots) → Threads → Threads
  | 0, _, threads => threads
  | _ + 1, [], threads => threads
  | fuel + 1, (address, slots) :: rest, threads =>
    if threads.reached.getD address stamp = stamp then
      follow program cursor stamp fuel rest threads
    else
      let reached := threads.reached.setIfInBounds address stamp
      match program.code.getD address .accept with
      | .chars _ _ | .accept =>
        follow program cursor stamp fuel rest ⟨⟨address, slots⟩ :: threads.waiting, reached⟩
      | .assertion kind next =>
        let rest :=
          if kind.holds cursor.before cursor.after.head? then (next, slots) :: rest else rest
        follow program cursor stamp fuel rest ⟨threads.waiting, reached⟩
      | .save slot next =>
        let slots := slots.setIfInBounds slot (some cursor.position)
        follow program cursor stamp fuel ((next, slots) :: rest) ⟨threads.waiting, reached⟩
      | .fork targets =>
        follow program cursor stamp fuel (targets.map (·, slots) ++ rest) ⟨threads.waiting, reached⟩

/-- How many addresses `follow` visits at most for one start: all instructions and all targets. -/
def Program.work (program : Program) : Nat :=
  program.code.foldl (fun total instruction =>
    match instruction with
    | .fork targets => total + targets.length + 1
    | _ => total + 2) 2

/-- The thread that accepts first, if one does, and the threads preferred to it. -/
def accepted (program : Program) : List Thread → List Thread × Option Slots
  | [] => ([], none)
  | thread :: rest =>
    match program.code.getD thread.address .accept with
    | .accept => ([], some thread.slots)
    | _ =>
      let (kept, slots) := accepted program rest
      (thread :: kept, slots)

/-- The threads after the character `c`, from the most preferred on. -/
def advanceThreads (program : Program) (work : Nat) (c : Char) (next : Cursor) (stamp : Nat) :
    List Thread → Threads → Threads
  | [], threads => threads
  | thread :: rest, threads =>
    let threads := match program.code.getD thread.address .accept with
      | .chars set target =>
        if set.contains c.toNat then follow program next stamp work [(target, thread.slots)] threads
        else threads
      | _ => threads
    advanceThreads program work c next stamp rest threads

/-- Runs the threads at a place and all places after it. `found` is the best match so far; until
there is one, a new thread begins at each place. -/
def run (program : Program) (work : Nat) (empty : Slots) :
    Nat → Cursor → Threads → Option Slots → Option Slots
  | 0, _, _, found => found
  | fuel + 1, cursor, threads, found =>
    if threads.waiting.isEmpty && found.isSome then found
    else
      let stamp := cursor.position + 1
      let threads :=
        if found.isSome then threads
        else follow program cursor stamp work [(0, empty)] threads
      let (ahead, slots) := accepted program threads.waiting.reverse
      let found := slots.or found
      match cursor.after, cursor.next? with
      | c :: _, some next =>
        let threads :=
          advanceThreads program work c next (next.position + 1) ahead ⟨[], threads.reached⟩
        run program work empty fuel next threads found
      | _, _ => found

/-- The slots of the leftmost match from a place on; of the matches that begin there the most
preferred one. -/
def Program.search (program : Program) (cursor : Cursor) : Option Slots :=
  let empty : Slots := Array.replicate program.slots none
  run program program.work empty (cursor.after.length + 1) cursor
    ⟨[], Array.replicate program.code.size 0⟩ none

/-- The slots of all matches that do not overlap, from left to right. An empty match does not
follow directly behind the match before it; `last` is the end of that match. -/
def Program.searchAll (program : Program) : Nat → Cursor → Option Nat → List Slots
  | 0, _, _ => []
  | fuel + 1, cursor, last =>
    let bounds (slots : Slots) : Nat × Nat :=
      ((slots.getD 0 none).getD 0, (slots.getD 1 none).getD 0)
    let first := program.search cursor
    let first := match first with
      | none => none
      | some slots =>
        let (start, stop) := bounds slots
        if start = stop && last = some stop then
          match cursor.next? with
          | none => none
          | some next => (program.search next).map (·, next)
        else some (slots, cursor)
    match first with
    | none => []
    | some (slots, cursor) =>
      let stop := (bounds slots).2
      slots :: program.searchAll fuel (cursor.advance (stop - cursor.position)) (some stop)

end Fingerprint.Regex
