import Fingerprint.Yaml.Node
import Fingerprint.Yaml.Scanner

/-!
From tokens to the document that a YAML text holds.

An anchor has the number of names in use when it begins, and the name denotes this number from then
on. Where a name is used again, two anchors may get one number; an alias then stands for the value
that begins last in the text, even if it lies behind the alias.
-/

namespace Fingerprint.Yaml

/-- The value of an anchor. -/
structure Anchored where
  number : Nat
  /-- The number of values in front of it. -/
  start : Nat
  node : Node
deriving Repr, Inhabited

/-- The anchors seen so far: the number that each name denotes, and the values that are complete. -/
structure Anchors where
  names : List (String × Nat)
  values : List Anchored
deriving Repr, Inhabited

namespace Anchors

def none : Anchors := ⟨[], []⟩

/-- The number of the next anchor. -/
def next (anchors : Anchors) : Nat := anchors.names.length

def begin (anchors : Anchors) (name : Option String) : Anchors :=
  match name with
  | some name =>
    { anchors with names := (name, anchors.next) :: anchors.names.filter (·.1 ≠ name) }
  | .none => anchors

/-- Gives an anchor that was begun its value. -/
def complete (anchors : Anchors) (name : Option String) (value : Anchored) : Anchors :=
  match name with
  | some _ => { anchors with values := value :: anchors.values }
  | .none => anchors

/-- The values by their numbers, those that begin last in front. -/
def toList (anchors : Anchors) : List (Nat × Node) :=
  (anchors.values.mergeSort fun a b => b.start ≤ a.start).map fun value =>
    (value.number, value.node)

end Anchors

/-- What is known while the tokens of a document are read. -/
structure Reading where
  tokens : List Token
  anchors : Anchors
  /-- The expansions of tag handles. -/
  handles : List (String × String)
  /-- The number of values passed, where a collection counts twice. -/
  events : Nat
deriving Repr, Inhabited

/-- A value and what comes behind it. -/
structure Read where
  node : Node
  rest : Reading
deriving Repr, Inhabited

namespace Reading

def drop (reading : Reading) (count : Nat) : Reading :=
  { reading with tokens := reading.tokens.drop count }

def next (reading : Reading) : Token := reading.tokens.head?.getD .streamEnd

def absent (reading : Reading) : Read :=
  ⟨.absent, { reading with events := reading.events + 1 }⟩

/-- Where a value may be left out: the tokens in front of which nothing is read. -/
def readsNothing (reading : Reading) (stops : List Token) : Bool := stops.contains reading.next

/-- The full form of a tag. -/
def expand? (reading : Reading) (handle suffix : String) : Option String :=
  if handle.isEmpty then some suffix else (reading.handles.lookup handle).map (· ++ suffix)

/-- The anchor and the tag of a value, in either order. -/
structure Properties where
  anchor : Option String
  tag : Option String
  rest : Reading

def properties? (reading : Reading) : Option Properties :=
  match reading.tokens with
  | .anchor name :: .tag handle suffix :: _ => do
    return ⟨some name, some (← reading.expand? handle suffix), reading.drop 2⟩
  | .tag handle suffix :: .anchor name :: _ => do
    return ⟨some name, some (← reading.expand? handle suffix), reading.drop 2⟩
  | .anchor name :: _ => some ⟨some name, none, reading.drop 1⟩
  | .tag handle suffix :: _ => do
    return ⟨none, some (← reading.expand? handle suffix), reading.drop 1⟩
  | _ => some ⟨none, none, reading⟩

/-- An alias of a name that is in use. -/
def alias? (reading : Reading) (name : String) : Option Read :=
  (reading.anchors.names.lookup name).map fun number =>
    ⟨.alias number, { reading with events := reading.events + 1 }⟩

end Reading

open Reading

mutual

/-- A value. A block collection may begin only where `block` holds, and a sequence that is not
indented only where `flush` holds. -/
def readNode (block flush : Bool) : Nat → Reading → Option Read
  | 0, _ => none
  | fuel + 1, reading =>
    match reading.next with
    | .alias name => (reading.drop 1).alias? name
    | _ => do
      let properties ← reading.properties?
      let anchors := properties.rest.anchors
      let begun := { properties.rest with anchors := anchors.begin properties.anchor }
      let read ← readContent block flush fuel properties begun
      return { read with
        rest.anchors := read.rest.anchors.complete properties.anchor
          ⟨anchors.next, reading.events, read.node⟩ }

/-- A value behind its anchor and tag. -/
def readContent (block flush : Bool) : Nat → Properties → Reading → Option Read
  | 0, _, _ => none
  | fuel + 1, properties, reading =>
    let counted (count : Nat) : Reading := { reading with events := reading.events + count }
    let sequence (items : List Node) (rest : Reading) : Read :=
      ⟨.sequence items.reverse properties.tag, rest⟩
    let mapping (entries : List (Node × Node)) (rest : Reading) : Read :=
      ⟨.mapping entries.reverse properties.tag, rest⟩
    match reading.next with
    | .scalar text plain =>
      some ⟨.scalar text plain properties.tag, (counted 1).drop 1⟩
    | .flowSequenceStart =>
      (readFlowItems fuel true [] ((counted 2).drop 1)).map fun (items, rest) =>
        sequence items rest
    | .flowMappingStart =>
      (readFlowEntries fuel true [] ((counted 2).drop 1)).map fun (entries, rest) =>
        mapping entries rest
    | .blockEntry =>
      if flush then
        (readFlushItems fuel [] (counted 2)).map fun (items, rest) => sequence items rest
      else readMissing properties reading
    | .blockSequenceStart =>
      if block then
        (readBlockItems fuel [] ((counted 2).drop 1)).map fun (items, rest) =>
          sequence items rest
      else readMissing properties reading
    | .blockMappingStart =>
      if block then
        (readBlockEntries fuel [] ((counted 2).drop 1)).map fun (entries, rest) =>
          mapping entries rest
      else readMissing properties reading
    | _ => readMissing properties reading

/-- Where no value follows, an anchor or a tag alone makes an absent one. -/
def readMissing (properties : Properties) (reading : Reading) : Option Read :=
  if properties.anchor.isSome || properties.tag.isSome then
    let tag := properties.tag.filter (!·.isEmpty)
    some { reading.absent with node := .scalar "" true tag }
  else none

/-- The items of a block sequence, last first, up to and including its end. -/
def readBlockItems : Nat → List Node → Reading → Option (List Node × Reading)
  | 0, _, _ => none
  | fuel + 1, items, reading =>
    match reading.next with
    | .blockEntry => do
      let rest := reading.drop 1
      let read ← if rest.readsNothing [.blockEntry, .blockEnd] then some rest.absent
        else readNode true false fuel rest
      readBlockItems fuel (read.node :: items) read.rest
    | .blockEnd => some (items, reading.drop 1)
    | _ => none

/-- The items of a sequence that is not indented. -/
def readFlushItems : Nat → List Node → Reading → Option (List Node × Reading)
  | 0, _, _ => none
  | fuel + 1, items, reading =>
    match reading.next with
    | .blockEntry => do
      let rest := reading.drop 1
      let read ← if rest.readsNothing [.blockEntry, .key, .value, .blockEnd] then some rest.absent
        else readNode true false fuel rest
      readFlushItems fuel (read.node :: items) read.rest
    | _ => some (items, reading)

/-- The entries of a block mapping, up to and including its end. -/
def readBlockEntries : Nat → List (Node × Node) → Reading →
    Option (List (Node × Node) × Reading)
  | 0, _, _ => none
  | fuel + 1, entries, reading => do
    let stops := [Token.key, .value, .blockEnd]
    let read (rest : Reading) : Option Read :=
      if rest.readsNothing stops then some rest.absent else readNode true true fuel rest
    match reading.next with
    | .blockEnd => return (entries, reading.drop 1)
    | .key =>
      let key ← read (reading.drop 1)
      let value ← if key.rest.next = .value then read (key.rest.drop 1) else some key.rest.absent
      readBlockEntries fuel
        ((key.node, value.node) :: entries) value.rest
    | _ => none

/-- The items of a sequence in brackets, up to and including its end. An item with a key is a
mapping of one entry. -/
def readFlowItems : Nat → Bool → List Node → Reading → Option (List Node × Reading)
  | 0, _, _, _ => none
  | fuel + 1, first, items, reading => do
    if reading.next = .flowSequenceEnd then return (items, reading.drop 1)
    else
      let reading ← if first then some reading
        else if reading.next = .flowEntry then some (reading.drop 1) else none
      if reading.next = .flowSequenceEnd then return (items, reading.drop 1)
      else
        let read ← if reading.next = .key then readFlowPair fuel (reading.drop 1)
          else readNode false false fuel reading
        readFlowItems fuel false (read.node :: items) read.rest

/-- A mapping of one entry in a sequence in brackets, behind the mark of its key. -/
def readFlowPair : Nat → Reading → Option Read
  | 0, _ => none
  | fuel + 1, reading => do
    let reading := { reading with events := reading.events + 2 }
    let key ← if reading.readsNothing [.value, .flowEntry, .flowSequenceEnd] then
        some (reading.drop 1).absent
      else readNode false false fuel reading
    let value ← if key.rest.next = .value then
        let rest := key.rest.drop 1
        if rest.readsNothing [.flowEntry, .flowSequenceEnd] then some rest.absent
        else readNode false false fuel rest
      else some key.rest.absent
    return ⟨.mapping [(key.node, value.node)] none, value.rest⟩

/-- The entries of a mapping in braces, up to and including its end. -/
def readFlowEntries : Nat → Bool → List (Node × Node) → Reading →
    Option (List (Node × Node) × Reading)
  | 0, _, _, _ => none
  | fuel + 1, first, entries, reading => do
    if reading.next = .flowMappingEnd then return (entries, reading.drop 1)
    else
      let reading ← if first then some reading
        else if reading.next = .flowEntry then some (reading.drop 1) else none
      let stops := [Token.flowEntry, .flowMappingEnd]
      match reading.next with
      | .flowMappingEnd => return (entries, reading.drop 1)
      | .key =>
        let rest := reading.drop 1
        let key ← if rest.readsNothing (.value :: stops) then some rest.absent
          else readNode false false fuel rest
        let value ← if key.rest.next = .value then
            let rest := key.rest.drop 1
            if rest.readsNothing stops then some rest.absent else readNode false false fuel rest
          else some key.rest.absent
        readFlowEntries fuel false
          ((key.node, value.node) :: entries) value.rest
      | _ =>
        let key ← readNode false false fuel reading
        let value := key.rest.absent
        readFlowEntries fuel false
          ((key.node, value.node) :: entries) value.rest

end

/-- The directives of a document. A version is given at most once, and a handle is expanded in one
way. -/
def readDirectives : Bool → Reading → Option Reading
  | versioned, reading => go versioned reading.handles [] reading.tokens
where
  /-- Goes through the directives; `own` are the handles that they expand. -/
  go (versioned : Bool) (handles : List (String × String)) (own : List String) :
      List Token → Option Reading
    | .versionDirective major minor :: rest =>
      if versioned || major ≠ 1 || !(minor = 1 || minor = 2) then none
      else go true handles own rest
    | .tagDirective handle expansion :: rest =>
      if own.contains handle then none
      else go versioned ((handle, expansion) :: handles) (handle :: own) rest
    | .documentStart :: rest => some ⟨rest, .none, handles, 0⟩
    | _ => none

/-- The handles that need no directive. -/
def standardHandles : List (String × String) := [("!", "!"), ("!!", "tag:yaml.org,2002:")]

/-- The tokens behind the marks that end a document. -/
def skipEnds : List Token → List Token
  | .documentEnd :: rest => skipEnds rest
  | tokens => tokens

/-- The document of tokens, or `none` inside if there is no document. -/
def documentOf? (tokens : List Token) : Option (Option Document) := do
  let fuel := 4 * tokens.length + 8
  let reading : Reading := ⟨tokens, .none, standardHandles, 0⟩
  let finish (read : Read) : Option (Option Document) :=
    if skipEnds read.rest.tokens = [.streamEnd] then
      some (some ⟨read.node, read.rest.anchors.toList, read.rest.events⟩)
    else none
  match tokens with
  | [.streamEnd] => return none
  | .versionDirective .. :: _ | .tagDirective .. :: _ | .documentStart :: _ =>
    let reading ← readDirectives false reading
    if reading.readsNothing
        [.documentStart, .documentEnd, .streamEnd] then finish reading.absent
    else finish (← readNode true false fuel reading)
  | _ => finish (← readNode true false fuel reading)

/-- The document of a text. -/
def parse? (text : String) : Option (Option Document) := (tokens? text).bind documentOf?

end Fingerprint.Yaml
