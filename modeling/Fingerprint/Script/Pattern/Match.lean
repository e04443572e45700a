import Fingerprint.Script.Pattern.Basic

/-!
Matching the patterns of scripts.

A match is a walk through the parts of a pattern that are left to be matched. Where there are
several ways the others are noted, and the last one noted is taken up again when the walk gets
stuck. Each step of the walk counts, so that patterns with very many ways come to an end.
-/

namespace Fingerprint.Script.Pattern

/-- Where the groups of a match begin and end. -/
abbrev Spans := Array (Option (Nat × Nat))

/-- The text that a pattern is matched against. -/
structure Subject where
  units : Units
  flags : PatternFlags
  names : List (String × Nat)

namespace Subject

/-- The code point at a position with its length. -/
def codeAt? (subject : Subject) (position : Nat) : Option (Nat × Nat) := do
  let unit ← subject.units.get? position
  if subject.flags.unicode && Units.isHigh unit then
    match subject.units.get? (position + 1) with
    | some low =>
      if Units.isLow low then some (Units.joinPair unit low, 2) else some (unit.toNat, 1)
    | none => some (unit.toNat, 1)
  else some (unit.toNat, 1)

/-- The code point before a position with its length. -/
def codeBefore? (subject : Subject) (position : Nat) : Option (Nat × Nat) := do
  if position = 0 then none
  let unit ← subject.units.get? (position - 1)
  if subject.flags.unicode && Units.isLow unit && 2 ≤ position then
    match subject.units.get? (position - 2) with
    | some high =>
      if Units.isHigh high then some (Units.joinPair high unit, 2) else some (unit.toNat, 1)
    | none => some (unit.toNat, 1)
  else some (unit.toNat, 1)

/-- The code that is compared. -/
def fold (subject : Subject) (code : Nat) : Nat :=
  if subject.flags.ignoreCase then caseless subject.flags.unicode code else code

def isLineEnd (code : Nat) : Bool := code = 10 || code = 13 || code = 0x2028 || code = 0x2029

/-- Whether a set has a code. A closed set also has those that differ from its own by case. -/
def inSet (subject : Subject) (closed : Bool) (items : List ClassItem) (code : Nat) : Bool :=
  if subject.flags.ignoreCase then
    if closed then
      (caselessClass subject.flags.unicode code).any fun code => items.any (·.contains code)
    else items.any (·.contains (subject.fold code))
  else items.any (·.contains code)

def isWordAt (subject : Subject) (position : Nat) : Bool :=
  (subject.units.get? position).any fun unit => ClassItem.isWord unit.toNat

end Subject

/-- Whether a part that takes a single code takes this one; other parts take none. -/
def takes (subject : Subject) (node : PatternNode) (code : Nat) : Bool :=
  match node with
  | .code expected => expected == code || subject.fold expected == subject.fold code
  | .any => subject.flags.dotAll || !Subject.isLineEnd code
  | .set negated closed items => subject.inSet closed items code != negated
  | _ => false

def isSingle : PatternNode → Bool
  | .code _ | .any | .set .. => true
  | _ => false

/-- The position behind the next code, or before the last one. -/
def pass? (subject : Subject) (forwards : Bool) (position : Nat) : Option Nat :=
  if forwards then (subject.codeAt? position).map fun (_, length) => position + length
  else (subject.codeBefore? position).map fun (_, length) => position - length

/-- Takes one code forwards or backwards. -/
def takeCode (subject : Subject) (forwards : Bool) (node : PatternNode) (position : Nat) :
    Option Nat :=
  if forwards then
    match subject.codeAt? position with
    | some (code, length) => if takes subject node code then some (position + length) else none
    | none => none
  else
    match subject.codeBefore? position with
    | some (code, length) => if takes subject node code then some (position - length) else none
    | none => none

/-- The position that is reached by taking up to `count` codes, and the number of those taken. -/
def reach (subject : Subject) (forwards : Bool) (node : PatternNode) : Nat → Nat → Nat → Nat × Nat
  | 0, position, taken => (position, taken)
  | count + 1, position, taken =>
    match takeCode subject forwards node position with
    | some next => reach subject forwards node count next (taken + 1)
    | none => (position, taken)

/-- Compares the text of a group with the text at a place. -/
def matchSpan (subject : Subject) (forwards : Bool) (span : Option (Nat × Nat))
    (position : Nat) : Option Nat :=
  match span with
  | none => some position
  | some (first, last) =>
    let length := last - first
    let fits := if forwards then position + length ≤ subject.units.length else length ≤ position
    let start := if forwards then position else position - length
    let equal := (List.range length).all fun offset =>
      (subject.units.get? (first + offset)).map (fun unit => subject.fold unit.toNat) ==
        (subject.units.get? (start + offset)).map (fun unit => subject.fold unit.toNat)
    if fits && equal then some (if forwards then start + length else start) else none

def clearSpans (spans : Spans) (first last : Nat) : Spans :=
  (List.range (last - first)).foldl (fun spans offset =>
    spans.setIfInBounds (first + offset) none) spans

/-! ### The walk -/

/-- What is left to be matched. -/
inductive Task where
  | node (forwards : Bool) (node : PatternNode)
  /-- The end of a group that was entered at a position. -/
  | close (forwards : Bool) (index start : Nat)
  /-- A part that is repeated, behind a turn of it that began at a position; the position counts if
  the turn was not a required one. -/
  | again (forwards : Bool) (node : PatternNode) (start : Option Nat)
  /-- The end of a look ahead or behind: the position it began at, and the number of other ways that
  there were in front of it. -/
  | looked (negated : Bool) (position ways : Nat)

/-- A walk up to a position. -/
structure Walk where
  position : Nat
  spans : Spans
  tasks : List Task

/-- A way that has not been tried. -/
inductive Way where
  | walk (walk : Walk)
  /-- The walk with one code less, down to a position. -/
  | fewer (forwards : Bool) (least : Nat) (walk : Walk)
  /-- The walk with one code more, which a part takes. -/
  | more (forwards : Bool) (node : PatternNode) (left : Nat) (walk : Walk)

/-- How a step ends: the walk goes on, gets stuck or ends with a match. -/
inductive Move where
  | go (walk : Walk) (ways : Array Way)
  | stuck (ways : Array Way)

/-- The last way that has not been tried. -/
def nextWay (subject : Subject) (ways : Array Way) : Option (Walk × Array Way) :=
  match ways.back? with
  | none => none
  | some way =>
    let ways := ways.pop
    match way with
    | .walk walk => some (walk, ways)
    | .fewer forwards least walk =>
      match pass? subject (!forwards) walk.position with
      | some position =>
        let walk := { walk with position := position }
        some (walk, if position = least then ways else ways.push (.fewer forwards least walk))
      | none => some (walk, ways)
    | .more forwards node left walk =>
      match takeCode subject forwards node walk.position with
      | some position =>
        let walk := { walk with position := position }
        some (walk, if left ≤ 1 then ways else ways.push (.more forwards node (left - 1) walk))
      | none => some ({ walk with tasks := [.node true (.choice [])] }, ways)

/-- Matches a part that takes single codes several times. -/
def repeatSingle (subject : Subject) (forwards : Bool) (body : PatternNode) (least : Nat)
    (most : Option Nat) (greedy : Bool) (walk : Walk) (ways : Array Way) : Move :=
  let limit := most.getD (subject.units.length + 1)
  let (bound, taken) := reach subject forwards body least walk.position 0
  if taken < least then .stuck ways
  else
    let walk := { walk with position := bound }
    if greedy then
      let (position, taken) := reach subject forwards body (limit - least) bound 0
      let walk := { walk with position := position }
      .go walk (if taken = 0 then ways else ways.push (.fewer forwards bound walk))
    else if limit ≤ least then .go walk ways
    else .go walk (ways.push (.more forwards body (limit - least) walk))

/-- Matches a part that is repeated, from the next turn on. -/
def repeatPart (forwards : Bool) (body : PatternNode) (least : Nat) (most : Option Nat)
    (greedy : Bool)
    (first last : Nat) (walk : Walk) (ways : Array Way) : Move :=
  let next := PatternNode.times body (least - 1) (most.map (· - 1)) greedy first last
  let start := if least = 0 then some walk.position else none
  let turn : Walk :=
    { walk with
      spans := clearSpans walk.spans first last
      tasks := .node forwards body :: .again forwards next start :: walk.tasks }
  if most == some 0 then .go walk ways
  else if 0 < least then .go turn ways
  else if greedy then .go turn (ways.push (.walk walk))
  else .go walk (ways.push (.walk turn))

/-- Goes on with a condition on the position alone. -/
def check (holds : Bool) (walk : Walk) (ways : Array Way) : Move :=
  if holds then .go walk ways else .stuck ways

def goTo (position : Option Nat) (walk : Walk) (ways : Array Way) : Move :=
  match position with
  | some position => .go { walk with position := position } ways
  | none => .stuck ways

/-- Matches a part; the tasks of the walk are those behind it. -/
def stepNode (subject : Subject) (forwards : Bool) (node : PatternNode) (walk : Walk)
    (ways : Array Way) : Move :=
  match node with
  | .empty => .go walk ways
  | .code _ | .any | .set .. => goTo (takeCode subject forwards node walk.position) walk ways
  | .sequence parts =>
    let parts := if forwards then parts else parts.reverse
    .go { walk with tasks := parts.map (.node forwards) ++ walk.tasks } ways
  | .choice options =>
    let walks :=
      options.map fun option => { walk with tasks := .node forwards option :: walk.tasks }
    match walks with
    | [] => .stuck ways
    | first :: others =>
      .go first (others.reverse.foldl (fun ways walk => ways.push (.walk walk)) ways)
  | .group index body =>
    let close := Task.close forwards index walk.position
    .go { walk with tasks := .node forwards body :: close :: walk.tasks }
      ways
  | .reference index =>
    goTo (matchSpan subject forwards ((walk.spans[index]?).join) walk.position) walk ways
  | .namedReference name =>
    let span := (subject.names.lookup name).bind fun index => (walk.spans[index]?).join
    goTo (matchSpan subject forwards span walk.position) walk ways
  | .lineStart =>
    check (walk.position = 0 || (subject.flags.multiline &&
      (subject.units.get? (walk.position - 1)).any fun unit =>
        Subject.isLineEnd unit.toNat)) walk ways
  | .lineEnd =>
    check (walk.position = subject.units.length || (subject.flags.multiline &&
      (subject.units.get? walk.position).any fun unit => Subject.isLineEnd unit.toNat)) walk ways
  | .boundary negated =>
    let before := walk.position != 0 && subject.isWordAt (walk.position - 1)
    check ((before != subject.isWordAt walk.position) != negated) walk ways
  | .look ahead negated body =>
    let inner : Walk :=
      { walk with
        tasks := .node ahead body :: .looked negated walk.position ways.size :: walk.tasks }
    .go inner (if negated then ways.push (.walk walk) else ways)
  | .times body least most greedy first last =>
    if isSingle body then repeatSingle subject forwards body least most greedy walk ways
    else repeatPart forwards body least most greedy first last walk ways

/-- Does one task; the tasks of the walk are those behind it. -/
def stepTask (subject : Subject) (task : Task) (walk : Walk) (ways : Array Way) : Move :=
  match task with
  | .node forwards node => stepNode subject forwards node walk ways
  | .close forwards index start =>
    let span := if forwards then (start, walk.position) else (walk.position, start)
    .go { walk with spans := walk.spans.setIfInBounds index (some span) } ways
  | .again forwards node start =>
    if start == some walk.position then .stuck ways
    else .go { walk with tasks := .node forwards node :: walk.tasks } ways
  | .looked negated position count =>
    let ways := ways.shrink count
    if negated then .stuck ways else .go { walk with position := position } ways

/-- How the search for a match ends. -/
inductive Outcome where
  | matched (spans : Spans)
  | failed
  /-- The steps are used up. -/
  | exhausted
deriving Inhabited

/-- Walks until there is a match; the result also holds the steps that are left. -/
def run (subject : Subject) (start : Nat) : Nat → Walk → Array Way → Outcome × Nat
  | 0, _, _ => (.exhausted, 0)
  | fuel + 1, walk, ways =>
    match walk with
    | ⟨position, spans, []⟩ => (.matched (spans.setIfInBounds 0 (some (start, position))), fuel)
    | ⟨position, spans, task :: tasks⟩ =>
      match stepTask subject task ⟨position, spans, tasks⟩ ways with
      | .go walk ways => run subject start fuel walk ways
      | .stuck ways =>
        match nextWay subject ways with
        | some (walk, ways) => run subject start fuel walk ways
        | none => (.failed, fuel)

/-- The groups of a match that begins at a position, with the steps that are left of some. -/
def matchAt (pattern : Pattern) (units : Units) (steps position : Nat) : Outcome × Nat :=
  run ⟨units, pattern.flags, pattern.names⟩ position steps
    ⟨position, Array.replicate pattern.groupCount none, [.node true pattern.root]⟩ #[]

/-- The groups of the first match that begins at one of `count` positions. -/
def search (pattern : Pattern) (units : Units) : Nat → Nat → Nat → Outcome × Nat
  | 0, steps, _ => (.failed, steps)
  | count + 1, steps, position =>
    match pattern.matchAt units steps position with
    | (.failed, left) => pattern.search units count left (position + 1)
    | found => found

/-- The groups of the first match from a position on, or of the one at the position. -/
def exec (pattern : Pattern) (units : Units) (isSticky : Bool) (steps position : Nat) :
    Outcome × Nat :=
  if units.length < position then (.failed, steps)
  else if isSticky then pattern.matchAt units steps position
  else pattern.search units (units.length + 1 - position) steps position

end Fingerprint.Script.Pattern
