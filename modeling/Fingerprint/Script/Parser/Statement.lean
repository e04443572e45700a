import Fingerprint.Script.Parser.Function

/-!
Reading statements and whole scripts.
-/

namespace Fingerprint.Script.Reading

variable (g : Grammar)

def condition : Reading Expr := do
  expect "("
  let value ← expression g true
  expect ")"
  return value

/-- A block in braces. -/
def block : Reading Stmt := do
  expect "\x7b"
  let (body, declarations) ← inBlock none (statements g)
  advance
  return .block declarations body

/-! ### Declarations -/

/-- Whether a word behind `let` makes it a declaration. -/
def followsLet (context : ReadContext) (place : DeclarationPlace) (next : Lexeme) : Bool :=
  let isNear := !next.afterLine || place = .list
  match next.token with
  | .sign "[" => true
  | .sign "\x7b" => isNear
  | .name word escaped =>
    isNear && (!isReserved context word || (!escaped && ["let", "yield", "await"].contains word))
  | _ => false

/-- The kind of declaration that a word begins, if it does. -/
def declarationKind? (place : DeclarationPlace) : Reading (Option TargetKind) := do
  match ← token with
  | .name "var" false => return some .variable
  | .name "const" false => return some (.lexical .constant)
  | .name "let" false =>
    let context ← context
    if isReserved context "let" || followsLet context place (← following) then
      return some (.lexical .variable)
    else return none
  | _ => return none

/-- A word that is declared. -/
def declaredName (message : String) : Reading String := do
  match ← name? with
  | some name =>
    advance
    return name
  | none => fail message

/-- A name or pattern of names with its value. Patterns and constants need one. -/
def declaration (kind : TargetKind) (allowIn : Bool) : Reading Expr := do
  if ← groupBefore ["[", "\x7b"] ["="] then g.pattern kind true
  else
    let name ← declaredName "variable name expected"
    bindName kind name
    if ← accept "=" then return .assign (.name name) (← g.assignment allowIn)
    else if kind = .lexical .constant then fail "missing initializer for const variable"
    else return .name name

def declarations (kind : TargetKind) (allowIn : Bool) : Reading Stmt := do
  let first ← declaration g kind allowIn
  let targets ← loop [first] fun found => do
    if ← accept "," then return .inl (found ++ [← declaration g kind allowIn])
    else return .inr found
  return if kind = .variable then .variableDeclaration targets else .lexical targets

/-- A declaration that stands by itself, from its first word on. -/
def declarationStatement (kind : TargetKind) (place : DeclarationPlace) : Reading Stmt := do
  if kind ≠ .variable && place ≠ .list then
    fail "lexical declarations can't appear in single-statement context"
  advance
  let statement ← declarations g kind true
  endStatement
  return statement

/-- A function behind the word that begins it. -/
def functionDeclaration (isAsync : Bool) (start : Nat) : Reading Stmt := do
  advance
  let isGenerator ← accept "*"
  let name ← declaredName "function name expected"
  let code ← g.function
    { kind := .ordinary
      member := .method
      name := Units.ofString name
      isAsync := isAsync
      isGenerator := isGenerator
      bindsItself := false
      start := start }
  if ← declareFunction name code (!isAsync && !isGenerator) then return .hoist name
  else return .empty

def failFunctionPlace {α : Type} : Reading α :=
  fail "function declarations can't appear in single-statement context"

/-- A function whose first word is the current one. -/
def functionStatement (place : DeclarationPlace) : Reading Stmt := do
  let start := (← get).current.start
  unless place.allowsFunction do failFunctionPlace
  if place ≠ .list then
    match (← following).token with
    | .sign "*" => failFunctionPlace
    | _ => pure ()
  functionDeclaration g false start

def classStatement (place : DeclarationPlace) : Reading Stmt := do
  if place ≠ .list then fail "class declarations can't appear in single-statement context"
  let (name, definition) ← g.classDefinition true
  let name := name.getD ""
  declareLexical .variable name
  return .classDeclaration name definition

/-! ### Loops -/

def loopBody : Reading Stmt :=
  within (fun context => { context with inLoop := true }) (g.statement .single)

/-- The rest of a loop with a test, behind the first semicolon. -/
def testedLoop (names : List Declared) (start : Stmt) : Reading Stmt := do
  expect ";"
  let test ← if ← isSign ";" then pure none else do pure (some (← expression g true))
  expect ";"
  let step ← if ← isSign ")" then pure none else do pure (some (← expression g true))
  expect ")"
  return .loop names start test step (← loopBody g)

/-- The names declared in the innermost block so far. -/
def currentNames : Reading (List Declared) := do
  match (← get).blocks with
  | block :: _ => return block.lexical
  | [] => return []

/-- A loop with a test, from what comes before the first turn on. -/
def countedLoop : Reading Stmt := do
  if ← isSign ";" then testedLoop g [] .empty
  else
    match ← declarationKind? .list with
    | some kind =>
      advance
      let start ← declarations g kind false
      testedLoop g (← currentNames) start
    | none => testedLoop g [] (.expression (← expression g false))

/-- What a loop gives its items to. -/
structure LoopHead where
  kind : HeadKind
  target : Expr
  isVariable : Bool

/-- A name or pattern that is declared for the items of a loop. -/
def declaredHead (kind : TargetKind) : Reading LoopHead := do
  let target ← if (← isSign "[") || (← isSign "\x7b") then g.pattern kind false
    else do
      let name ← declaredName "variable name expected"
      bindName kind name
      pure (.name name)
  match kind, target with
  | .variable, .name _ => return ⟨.variable, target, true⟩
  | .variable, _ => return ⟨.variable, target, false⟩
  | _, _ => return ⟨.lexical (← currentNames), target, false⟩

/-- What the items of a loop are assigned to. -/
def assignedHead (isAsync : Bool) : Reading LoopHead := do
  if !isAsync && (← isWord "async") then
    match (← following).token with
    | .name "of" false => fail "'for of' expression cannot start with 'async'"
    | _ => pure ()
  let target ← if ← groupBefore ["[", "\x7b"] ["in", "of"] then g.pattern .assigned true
    else do
      let target ← g.operand
      checkTarget .loop target
      pure target
  return ⟨.assigned, target, false⟩

def failInitializer {α : Type} (word : String) : Reading α :=
  fail ("a declaration in the head of a for-" ++ word ++ " loop can't have an initializer")

/-- A loop over items, from what it gives them to on. -/
def itemsLoop (isAsync : Bool) : Reading Stmt := do
  let head ← match ← declarationKind? .list with
    | some kind => do
      advance
      declaredHead g kind
    | none => assignedHead g isAsync
  let initial ← if ← accept "=" then do pure (some (← g.assignment false)) else pure none
  if ← acceptWord "of" then
    if initial.isSome then failInitializer "of"
    let items ← g.assignment true
    expect ")"
    let body ← loopBody g
    return if isAsync then .forAwait items else .forOf head.kind head.target items body
  else if ← isWord "in" then
    if isAsync then fail "'for await' loop should be used with 'of'"
    if initial.isSome && (!head.isVariable || (← context).isStrict) then failInitializer "in"
    advance
    let object ← expression g true
    expect ")"
    let statement := Stmt.forIn head.kind head.target object (← loopBody g)
    match initial with
    | some value => return .block .none [.variableDeclaration [.assign head.target value], statement]
    | none => return statement
  else fail "expected 'of' or 'in' in for control expression"

/-- A loop; its head has names of its own. -/
def forStatement : Reading Stmt := do
  advance
  let isCounted ← if ← isSign "(" then do pure (← groupAhead).hasSemicolon else pure false
  let isAsync ← if (← isWord "await") && isReserved (← context) "await" then do
      unless (← context).isAsync do fail "for await is only valid in asynchronous functions"
      advance
      pure true
    else pure false
  expect "("
  return (← inBlock none (if isCounted then countedLoop g else itemsLoop g isAsync)).1

def whileStatement : Reading Stmt := do
  advance
  let test ← condition g
  return .whileLoop test (← loopBody g)

def doStatement : Reading Stmt := do
  advance
  let body ← loopBody g
  expectWord "while"
  let test ← condition g
  let _ ← accept ";"
  return .doWhile body test

/-! ### Jumps -/

def returnStatement : Reading Stmt := do
  let context ← context
  unless context.allowsReturn do
    fail (if context.inInitializer then "return in a static initializer block"
      else "return not in a function")
  advance
  let isBare ← match ← token with
    | .sign ";" | .sign "\x7d" => pure true
    | _ => afterLine
  let value ← if isBare then pure none else do pure (some (← expression g true))
  endStatement
  return .ret value

/-- The label behind the word for a jump, if there is one. -/
def jumpLabel : Reading (Option String) := do
  match ← token, ← afterLine with
  | .name name _, false => return if isReserved (← context) name then none else some name
  | _, _ => return none

/-- A jump to a label or to the nearest statement that takes jumps. -/
def jump (isContinue : Bool) : Reading Stmt := do
  advance
  let label ← jumpLabel
  let context ← context
  match label with
  | some name =>
    unless context.labels.any fun (label, isLoop) => label = name && (isLoop || !isContinue) do
      fail "break/continue label not found"
    advance
  | none =>
    if isContinue then
      unless context.inLoop do fail "continue must be inside loop"
    else
      unless context.inLoop || context.inSwitch do fail "break must be inside loop or switch"
  endStatement
  return if isContinue then .continueTo label else .breakTo label

def throwStatement : Reading Stmt := do
  advance
  if ← afterLine then fail "line terminator not allowed after throw"
  let value ← expression g true
  endStatement
  return .throw value

/-! ### Choices -/

/-- A condition; functions that are its branches belong to a block around it. -/
def conditionalStatement : Reading Stmt := do
  let place := if (← context).isStrict then DeclarationPlace.single else .branch
  let (statement, declarations) ← inBlock none do
    advance
    let test ← condition g
    let yes ← g.statement place
    let no ← if ← acceptWord "else" then g.statement place else pure .empty
    return Stmt.conditional test yes no
  return if declarations.isEmpty then statement else .block declarations [statement]

/-- The statements of a case. -/
def caseBody : Reading (List Stmt) :=
  loop [] fun found => do
    if (← isSign "\x7d") || (← isWord "case") || (← isWord "default") then return .inr found
    else return .inl (found ++ [← g.statement .list])

/-- The cases of a switch up to the closing brace. -/
def cases : Reading (List Stmt) := do
  let (found, _) ← loop ([], false) fun (found, hasStandard) => do
    if ← isSign "\x7d" then return .inr (found, hasStandard)
    else if ← acceptWord "case" then
      let test ← expression g true
      expect ":"
      return .inl (found ++ [Stmt.case (some test) (← caseBody g)], hasStandard)
    else if ← acceptWord "default" then
      expect ":"
      if hasStandard then fail "duplicate default"
      return .inl (found ++ [Stmt.case none (← caseBody g)], true)
    else fail "invalid switch statement"
  return found

def switchStatement : Reading Stmt := do
  advance
  let value ← condition g
  let (cases, declarations) ← inBlock none
    (within (fun context => { context with inSwitch := true }) do
      expect "\x7b"
      cases g)
  advance
  return .switch value declarations cases

/-! ### Handlers -/

/-- What handles an error. -/
structure Handled where
  names : List Declared
  parameter : Option Expr
  body : Stmt

def handler : Reading Handled := do
  if ← isSign "\x7b" then return ⟨[], none, ← block g⟩
  expect "("
  if (← isSign "[") || (← isSign "\x7b") then
    let ((target, body), declarations) ← inBlock none do
      let target ← g.pattern (.lexical .variable) true
      expect ")"
      return (target, ← block g)
    return ⟨declarations.names, some target, body⟩
  else
    let name ← declaredName "identifier expected"
    checkVariableName name
    let (body, _) ← inBlock (some name) do
      expect ")"
      block g
    return ⟨[⟨name, .variable⟩], some (.name name), body⟩

def tryStatement : Reading Stmt := do
  advance
  let body ← block g
  let handled ← if ← acceptWord "catch" then do pure (some (← handler g)) else pure none
  let finalizer ← if ← acceptWord "finally" then do pure (some (← block g)) else pure none
  if handled.isNone && finalizer.isNone then fail "expecting catch or finally"
  return .attempt body (handled.elim [] (·.names)) (handled.bind (·.parameter))
    (handled.map (·.body))
    finalizer

/-! ### All forms -/

def withStatement : Reading Stmt := do
  if (← context).isStrict then fail "invalid keyword: with"
  advance
  let object ← condition g
  return .withObject object (← g.statement .single)

/-- A statement behind its label. -/
def labelledStatement (label : String) (place : DeclarationPlace) : Reading Stmt := do
  let context ← context
  if context.labels.any (·.1 = label) then fail "duplicate label name"
  advance
  expect ":"
  let isLoop ← match ← token with
    | .name word false => pure (["for", "while", "do"].contains word)
    | _ => pure false
  let inner :=
    if place.allowsLabels && !context.isStrict then DeclarationPlace.labelled else .single
  let body ← within (fun context => { context with labels := (label, isLoop) :: context.labels })
    (g.statement inner)
  return .labelled label body

def expressionStatement : Reading Stmt := do
  let value ← expression g true
  endStatement
  return .expression value

/-- A statement that begins with a name. -/
def nameStatement (word : String) (place : DeclarationPlace) : Reading Stmt := do
  let start := (← get).current.start
  let next ← following
  match next.token with
  | .sign ":" => labelledStatement g word place
  | .name "function" false =>
    if (← isWord "async") && !next.afterLine then
      if place ≠ .list then failFunctionPlace
      advance
      functionDeclaration g true start
    else expressionStatement g
  | _ => expressionStatement g

/-- A statement that begins with a word. -/
def wordStatement (word : String) (place : DeclarationPlace) : Reading Stmt := do
  match word with
  | "function" => functionStatement g place
  | "class" => classStatement g place
  | "if" => conditionalStatement g
  | "for" => forStatement g
  | "while" => whileStatement g
  | "do" => doStatement g
  | "return" => returnStatement g
  | "break" => jump false
  | "continue" => jump true
  | "throw" => throwStatement g
  | "try" => tryStatement g
  | "switch" => switchStatement g
  | "with" => withStatement g
  | "debugger" => advance; endStatement; return .empty
  | "enum" | "export" | "extends" => fail ("unsupported keyword: " ++ word)
  | word =>
    if isReserved (← context) word then expressionStatement g else nameStatement g word place

/-- A statement or declaration. -/
def statement (place : DeclarationPlace) : Reading Stmt := do
  match ← declarationKind? place with
  | some kind => declarationStatement g kind place
  | none =>
    match ← token with
    | .sign "\x7b" => block g
    | .sign ";" => advance; return .empty
    | .name word false => wordStatement g word place
    | .name word true =>
      if isReserved (← context) word then failReserved word else nameStatement g word place
    | _ => expressionStatement g

/-! ### Whole scripts -/

/-- The readers for constructs that lie at most this deep. -/
def grammar : Nat → Grammar
  | 0 =>
    { assignment := fun _ => fail "stack overflow"
      operand := fail "stack overflow"
      callee := fail "stack overflow"
      statement := fun _ => fail "stack overflow"
      pattern := fun _ _ => fail "stack overflow"
      function := fun _ => fail "stack overflow"
      classDefinition := fun _ => fail "stack overflow" }
  | depth + 1 =>
    let inner := grammar depth
    { assignment := fun allowIn => assignmentExpression inner allowIn
      operand := operandExpression inner
      callee := calleeExpression inner
      statement := fun place => statement inner place
      pattern := fun kind allowsStandard => pattern inner kind allowsStandard
      function := fun head => functionCode inner head
      classDefinition := fun needsName => classDefinition inner needsName }

/-- The bound on constructs within each other. -/
def nestingLimit : Nat := 3000

/-- The readers of whole scripts. -/
def standardGrammar : Grammar := grammar nestingLimit

def scriptBody : Reading (List Stmt) :=
  loop [] fun found => do
    match ← token with
    | .stop => return .inr found
    | _ => return .inl (found ++ [← standardGrammar.statement .list])

def program : Reading Program := do
  reload 0
  let _ ← directives
  let body ← scriptBody
  let state ← get
  let block := state.blocks.headD default
  return {
    variableNames := block.variableNames
    declarations := ⟨block.lexical, block.functions.map (·.2)⟩
    body := body
    isStrict := state.context.isStrict
    hiddenNames := state.hiddenNames }

/-- The context outside functions. -/
def topContext (isStrict : Bool) : ReadContext :=
  { (default : ReadContext) with isStrict := isStrict, allowsArguments := true }

/-- The state before a script is read. -/
def start (source : Source) (library : CodeLibrary) (context : ReadContext) (kind : BlockKind) :
    ReadState :=
  { source := source
    current := default
    previousStop := 0
    library := library
    context := context
    blocks := [⟨kind, [], [], [], none⟩]
    parameters := []
    usesArguments := false
    hiddenNames := [] }

end Fingerprint.Script.Reading

namespace Fingerprint.Script

/-- Reads a script; its functions and classes are added to the library. -/
def Program.parse (source : String) (library : CodeLibrary) (context : ReadContext)
    (kind : BlockKind) :
    Except SyntaxFault (Program × CodeLibrary) :=
  match Reading.program.run (Reading.start source.toList.toArray library context kind) with
  | .ok program state => .ok (program, state.library)
  | .error fault _ => .error fault

end Fingerprint.Script
