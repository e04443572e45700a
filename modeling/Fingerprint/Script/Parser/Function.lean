import Fingerprint.Script.Parser.Expression

/-!
Reading functions and classes.
-/

namespace Fingerprint.Script.Reading

variable (g : Grammar)

/-! ### Functions -/

/-- The context of the parameters of a function. -/
def parameterContext (head : FunctionHead) (outer : ReadContext) : ReadContext :=
  let isArrow := head.kind = .arrow
  { isStrict := outer.isStrict
    isAsync := head.isAsync
    isGenerator := head.isGenerator
    keepsAwait := isArrow && (outer.isAsync || outer.inInitializer)
    keepsYield := isArrow && outer.isGenerator
    inParameters := true
    inInitializer := false
    allowsReturn := true
    allowsNewTarget := !isArrow || outer.allowsNewTarget
    allowsArguments := !isArrow || outer.allowsArguments
    allowsSuper := match head.kind with
      | .ordinary => false
      | .arrow => outer.allowsSuper
      | _ => true
    allowsSuperCall := match head.kind with
      | .derivedConstructor => true
      | .arrow => outer.allowsSuperCall
      | _ => false
    inLoop := false
    inSwitch := false
    labels := [] }

/-- The parameters of a function; the only one of an arrow function may be a bare name. -/
def parameterList (head : FunctionHead) : Reading (List Expr) := do
  match head.kind, ← token with
  | .arrow, .name name _ =>
    modify fun state => { state with parameters := [name] }
    return [.name name]
  | _, _ =>
    let found ← parameters g
    let isRefused := match head.member, found with
      | .getter, [] | .method, _ => false
      | .setter, [.spread _] => true
      | .setter, [_] => false
      | _, _ => true
    if isRefused then fail "invalid number of arguments for getter or setter"
    return found

/-- The statements of a body up to its closing brace. -/
def statements : Reading (List Stmt) :=
  loop [] fun found => do
    if ← isSign "\x7d" then return .inr found
    else return .inl (found ++ [← g.statement .list])

/-- Words that go on with a statement, even at the beginning of a line. -/
def continuingWords : List String :=
  ["void", "else", "case", "default", "catch", "finally", "instanceof", "in", "break", "continue",
    "extends", "implements", "yield", "await"]

/-- Whether a text in front of a word is a statement by itself. -/
def endsDirective (lexeme : Lexeme) : Bool :=
  match lexeme.token with
  | .stop | .sign ";" | .sign "\x7d" => true
  | .number _ | .bigInt _ | .text _ => lexeme.afterLine
  | .name word escaped => lexeme.afterLine && (escaped || !continuingWords.contains word)
  | .sign text => lexeme.afterLine && ["\x60", "++", "--"].contains text
  | _ => false

/-- Whether the texts in front of the statements of a body ask for strict code. -/
def asksStrict : Reading Bool :=
  loop false fun found => do
    match ← token with
    | .text _ =>
      let isStrict := ((← currentText).drop 1).dropEnd 1 == "use strict"
      advance
      if endsDirective (← get).current then
        let _ ← accept ";"
        return .inl (found || isStrict)
      else return .inr found
    | _ => return .inr found

/-- Looks at the texts in front of the statements of a body, and tells whether they ask for strict
code. What is read from there on is strict then. -/
def directives : Reading Bool := do
  match ← token with
  | .text _ =>
    let before ← get
    let isStrict ← asksStrict
    let isStrict := before.context.isStrict || isStrict
    set { before with context := { before.context with isStrict := isStrict } }
    reload before.current.start
    modify fun state =>
      { state with current := { state.current with afterLine := before.current.afterLine } }
    return isStrict
  | _ => return false

/-- The body of a function behind its opening brace, up to its closing one. -/
def functionBody (head : FunctionHead) (parameters : List Expr) : Reading (List Stmt) := do
  checkParameters head parameters (← directives)
  statements g

/-- What stands behind the parameters of a function. -/
def codeBody (head : FunctionHead) (parameters : List Expr) : Reading (List Stmt) := do
  if head.kind = .arrow then
    expect "=>"
    unless ← isSign "\x7b" do
      checkParameters head parameters false
      return [.ret (some (← g.assignment true))]
  expect "\x7b"
  let body ← functionBody g head parameters
  advance
  return body

/-- Reads the code of a function in a context of its own. -/
def inFunction (head : FunctionHead) (context : ReadContext)
    (read : Reading (List Expr × List Stmt)) : Reading CodeRef := do
  let outer ← get
  set { outer with
    context := context
    blocks := [⟨.body, [], [], [], none⟩]
    parameters := []
    usesArguments := false }
  let (parameters, body) ← read
  let state ← get
  let block := state.blocks.headD default
  let source ← sourceFrom head.start
  let isArrow := head.kind = .arrow
  set { state with
    context := outer.context
    blocks := outer.blocks
    parameters := outer.parameters
    usesArguments := outer.usesArguments || (isArrow && state.usesArguments) }
  addCode {
    kind := head.kind
    name := head.name
    isAsync := head.isAsync
    isGenerator := head.isGenerator
    isStrict := state.context.isStrict
    parameters := parameters
    parameterNames := state.parameters.eraseDups
    isSimple := isSimpleList parameters
    usesArguments := state.usesArguments && !isArrow
    bindsItself := head.bindsItself
    length := requiredCount parameters
    variableNames := block.variableNames
    declarations := ⟨block.lexical, block.functions.map (·.2)⟩
    body := body
    source := source }

/-- A function from its parameters on. -/
def functionCode (head : FunctionHead) : Reading CodeRef := do
  inFunction head (parameterContext head (← context)) do
    let parameters ← parameterList g head
    advance
    modify fun state =>
      { state with
        context :=
          { state.context with inParameters := false, keepsAwait := false, keepsYield := false } }
    return (parameters, ← codeBody g head parameters)

/-! ### Classes -/

/-- A function of a class without parameters, whose body has been given a reader. -/
def initializerCode (start : Nat) (isBlock : Bool) (read : Reading (List Stmt)) :
    Reading CodeRef := do
  let head : FunctionHead := ⟨.method, .method, .empty, false, false, false, start⟩
  let context := parameterContext head (← context)
  let context :=
    { context with
      inParameters := false, inInitializer := isBlock, allowsReturn := false,
      allowsArguments := false }
  inFunction head context do return ([], ← read)

/-- A class while it is read. -/
structure ClassParts where
  constructorCode : Option CodeRef
  elements : List ClassElement
  hiddenNames : List HiddenName

/-- Whether two declarations of a hidden name are the halves of one accessor. -/
def completesHidden (one other : HiddenName) : Bool :=
  one.isStatic = other.isStatic &&
    ((one.kind = .getter && other.kind = .setter) || (one.kind = .setter && other.kind = .getter))

/-- The hidden names of a class together with one more, unless it is among them. Two halves of an
accessor are one name. -/
def addHiddenName? (added : HiddenName) : List HiddenName → Option (List HiddenName)
  | [] => some [added]
  | other :: rest =>
    if other.name ≠ added.name then (addHiddenName? added rest).map (other :: ·)
    else if completesHidden added other then some ({ other with kind := .accessor } :: rest)
    else none

/-- Declares the hidden name of a part of a class, if it has one. -/
def declareHidden (key : Expr) (kind : HiddenKind) (isStatic : Bool) (parts : ClassParts) :
    Reading ClassParts := do
  match key with
  | .hiddenName name =>
    match addHiddenName? ⟨name, kind, isStatic⟩ parts.hiddenNames with
    | some names => return { parts with hiddenNames := names }
    | none => fail "private class field is already defined"
  | _ => return parts

/-- Whether a key is a word that is written out. -/
def isNamed (key : Expr) (word : String) : Bool :=
  match key with
  | .literal (.text units) => units == Units.ofString word
  | .hiddenName name => "#" ++ name = word
  | _ => false

/-- Gives a function or class without a name the name of the field that it is the value of. -/
def nameValue (key value : Expr) : Reading Unit := do
  let name := keyName key
  match value with
  | .function code =>
    let rename (code : Code) : Code :=
      if code.name.isEmpty then { code with name := name } else code
    modify fun state => { state with library.codes := state.library.codes.modify code rename }
  | .classOf definition =>
    modify fun state =>
      { state with
        library.classes := state.library.classes.modify definition ({ · with label := name }) }
  | _ => return

/-- A field behind its key. -/
def fieldElement (isStatic : Bool) (key : Expr) (parts : ClassParts) : Reading ClassParts := do
  if isNamed key "constructor" || isNamed key "prototype" then fail "invalid field name"
  let parts ← declareHidden key .field isStatic parts
  let start := (← get).current.start
  let value ← if ← accept "=" then do
      pure (some (← initializerCode start false do
        let value ← g.assignment true
        nameValue key value
        return [.ret (some value)]))
    else pure none
  endStatement
  return { parts with elements := parts.elements ++ [.field isStatic key value] }

/-- A method behind its key. -/
def methodElement (isStatic : Bool) (head : MemberHead) (parts : ClassParts) (start : Nat) :
    Reading ClassParts := do
  let kind := match head.modifiers.kind with
    | .method => HiddenKind.method
    | .getter => .getter
    | .setter => .setter
  let parts ← declareHidden head.key kind isStatic parts
  let code ← method g head start
  let element := ClassElement.function isStatic head.modifiers.kind head.key code
  return { parts with elements := parts.elements ++ [element] }

/-- A constructor behind its key. -/
def constructorElement (derived : Bool) (name : Units) (parts : ClassParts) (start : Nat) :
    Reading ClassParts := do
  if parts.constructorCode.isSome then fail "property constructor appears more than once"
  let kind := if derived then CodeKind.derivedConstructor else .baseConstructor
  let code ← g.function ⟨kind, .method, name, false, false, false, start⟩
  return { parts with constructorCode := some code }

/-- A block that is run when the class has been made, behind its opening brace. -/
def blockElement (parts : ClassParts) (start : Nat) : Reading ClassParts := do
  let code ← initializerCode start true do
    let body ← statements g
    advance
    return body
  return { parts with elements := parts.elements ++ [.initializer code] }

def classElement (derived : Bool) (name : Units) (parts : ClassParts) : Reading ClassParts := do
  let isStatic ← isModifier "static"
  if isStatic then advance
  let start := (← get).current.start
  if isStatic && (← accept "\x7b") then blockElement g parts start
  else
    let head ← memberHead g ⟨true, false, true⟩
    let isPlain := head.modifiers.isPlain
    if (isNamed head.key "constructor" && !isStatic && !isPlain) ||
        (isNamed head.key "prototype" && isStatic) || isNamed head.key "#constructor" then
      fail "invalid method name"
    if isPlain && !(← isSign "(") then fieldElement g isStatic head.key parts
    else if isPlain && !isStatic && isNamed head.key "constructor" then
      constructorElement g derived name parts start
    else methodElement g isStatic head parts start

/-- The parts of a class in braces. -/
def classParts (derived : Bool) (name : Units) : Reading ClassParts := do
  expect "\x7b"
  let outer := (← get).hiddenNames
  modify fun state => { state with hiddenNames := [] }
  let parts ← loop (ClassParts.mk none [] []) fun parts => do
    if ← isSign "\x7d" then return .inr parts
    else if ← accept ";" then return .inl parts
    else return .inl (← classElement g derived name parts)
  let declared := parts.hiddenNames.map (·.name)
  let used := (← get).hiddenNames
  modify fun state => { state with hiddenNames := outer }
  (used.filter (!declared.contains ·)).forM noteHiddenName
  return parts

/-- A class from its first word on. All parts of a class are strict. -/
def classCode (needsName : Bool) : Reading (Option String × ClassRef) := do
  let start := (← get).current.start
  advance
  let name ← name?
  if name.isSome then advance
  else if needsName then fail "class statement requires a name"
  name.forM checkVariableName
  let heritage ← if ← acceptWord "extends" then do pure (some (← g.operand)) else pure none
  let parts ← classParts g heritage.isSome (Units.ofString (name.getD ""))
  advance
  let definition ← addClass {
    name := name
    label := .empty
    heritage := heritage
    constructorCode := parts.constructorCode
    elements := parts.elements
    hiddenNames := parts.hiddenNames
    source := ← sourceFrom start }
  return (name, definition)

def classDefinition (needsName : Bool) : Reading (Option String × ClassRef) :=
  within (fun context => { context with isStrict := true }) (classCode g needsName)

end Fingerprint.Script.Reading
