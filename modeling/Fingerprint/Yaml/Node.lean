/-!
The value of a YAML text before its plain scalars are told apart as numbers, truth values and texts,
and before aliases are followed.
-/

namespace Fingerprint.Yaml

inductive Node where
  /-- A scalar; `plain` tells that it is written without quotes. -/
  | scalar (text : String) (plain : Bool) (tag : Option String)
  | sequence (items : List Node) (tag : Option String)
  | mapping (entries : List (Node × Node)) (tag : Option String)
  /-- The value with the anchor of this number. -/
  | alias (number : Nat)
deriving Repr, Inhabited

namespace Node

/-- The scalar that stands where nothing is written. -/
def absent : Node := .scalar "" true none

/-- Whether nothing is written. -/
def isAbsent : Node → Bool
  | .scalar text plain _ => plain && text.isEmpty
  | _ => false

end Node

/-- A document: its value, and the values that its aliases stand for by their numbers. -/
structure Document where
  root : Node
  anchors : List (Nat × Node)
  /-- The number of values, where a collection counts twice. -/
  events : Nat
deriving Repr, Inhabited

/-- How values of a document are read: an alias is followed only where its value is needed, and only
as long as the number of aliases that may still be followed is not used up. -/
abbrev Following := ReaderT (List (Nat × Node)) (StateT Nat Option)

/-- A value that is no alias. -/
def Node.followed : Node → Following Node
  | .alias number => do
    match ← get with
    | 0 => failure
    | remaining + 1 =>
      set remaining
      match (← read).lookup number with
      | some node => return node
      | none => failure
  | node => return node

/-- Reads a document. The number of aliases that may be followed grows with its size, so that a
short text cannot stand for a huge value. -/
def Document.read? {α : Type} (document : Document) (reader : Node → Following α) : Option α :=
  (((reader document.root).run document.anchors).run (100 * document.events)).map (·.1)

end Fingerprint.Yaml
