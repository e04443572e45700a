import Fingerprint.Script.Parser.Basic

/-!
Reading what the members of objects, classes and patterns begin with.
-/

namespace Fingerprint.Script.Reading

variable (g : Grammar)

/-- An expression, with commas. -/
def expression (allowIn : Bool) : Reading Expr := do
  let first ← g.assignment allowIn
  loop first fun found => do
    if ← accept "," then return .inl (.sequence found (← g.assignment allowIn))
    else return .inr found

def noteHiddenName (name : String) : Reading Unit :=
  modify fun state =>
    if state.hiddenNames.contains name then state
    else { state with hiddenNames := name :: state.hiddenNames }

/-- What stands in front of the key of a method. -/
structure Modifiers where
  isAsync : Bool
  isGenerator : Bool
  kind : MemberKind

namespace Modifiers

def none : Modifiers := ⟨false, false, .method⟩

def isPlain (modifiers : Modifiers) : Bool :=
  modifiers.kind = .method && !modifiers.isAsync && !modifiers.isGenerator

end Modifiers

/-- What a member begins with. A key in brackets is a group. -/
structure MemberHead where
  modifiers : Modifiers
  key : Expr
  /-- The name of the variable that the member stands for, if it is nothing but a name. -/
  shorthand : Option String

/-- What is allowed at the beginning of a member. -/
structure MemberRules where
  allowsMethod : Bool
  allowsShorthand : Bool
  allowsHidden : Bool

/-- Whether a word stands behind the whole key of a member. -/
def endsKey : Token → Bool
  | .sign text => [":", ",", "\x7d", "(", "=", ";"].contains text
  | _ => false

/-- Whether the current word is a modifier, and not itself the key of a member. -/
def isModifier (word : String) : Reading Bool := do
  if ← isWord word then return !endsKey (← following).token else return false

/-- The modifiers of a member. In a class, what stands alone on its line is a field. -/
def modifiers (inClass : Bool) : Reading Modifiers := do
  let isField := inClass && (← following).afterLine
  if !isField && (← isModifier "get") then advance; return ⟨false, false, .getter⟩
  else if !isField && (← isModifier "set") then advance; return ⟨false, false, .setter⟩
  else if ← accept "*" then return ⟨false, true, .method⟩
  else if (← isModifier "async") && !(← following).afterLine then
    advance
    return ⟨true, ← accept "*", .method⟩
  else return .none

/-- The key of a member: a name, a text, a number, or an expression in brackets. -/
def memberKey (allowsHidden : Bool) : Reading Expr := do
  match ← token with
  | .name name _ => advance; return .literal (.ofText name)
  | .text units => advance; return .literal (.text units)
  | .number value => advance; return .literal (.number value)
  | .bigInt value => advance; return .literal (.ofText (toString value))
  | .sign "[" =>
    advance
    let key ← expression g true
    expect "]"
    return .group key
  | .hiddenName name =>
    unless allowsHidden do fail "invalid property name"
    advance
    return .hiddenName name
  | _ => fail "invalid property name"

/-- The variable that a key stands for that is nothing but a name. -/
def shorthandOf (rules : MemberRules) (word : Token) : Reading (Option String) := do
  match word with
  | .name name _ =>
    if !rules.allowsShorthand || isReserved (← context) name then return none
    else if ← isSign ":" then return none
    else if rules.allowsMethod && (← isSign "(") then return none
    else return some name
  | _ => return none

def memberHead (rules : MemberRules) : Reading MemberHead := do
  let modifiers ← if rules.allowsMethod then modifiers rules.allowsHidden else pure .none
  let word ← token
  let key ← memberKey g rules.allowsHidden
  if modifiers.isPlain then return ⟨modifiers, key, ← shorthandOf rules word⟩
  else
    unless ← isSign "(" do fail "invalid property name"
    return ⟨modifiers, key, none⟩

/-- The name that a method takes from its key. -/
def keyName : Expr → Units
  | .literal (.text units) => units
  | .hiddenName name => "#" ++ name
  | _ => .empty

/-- A method behind its key. -/
def method (head : MemberHead) (start : Nat) : Reading CodeRef :=
  let kind := if head.modifiers.kind = .method then CodeKind.method else .accessor
  let name := match head.modifiers.kind with
    | .method => keyName head.key
    | .getter => Units.ofString "get " ++ keyName head.key
    | .setter => Units.ofString "set " ++ keyName head.key
  g.function
    { kind := kind
      member := head.modifiers.kind
      name := name
      isAsync := head.modifiers.isAsync
      isGenerator := head.modifiers.isGenerator
      bindsItself := false
      start := start }

end Fingerprint.Script.Reading
