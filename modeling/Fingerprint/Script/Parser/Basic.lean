import Fingerprint.Script.Lexer
import Fingerprint.Script.Pattern.Parser

/-!
What the readers of expressions and statements share: the state, the steps from word to word, and
the names that a program declares.

The readers call each other through a record of readers, `Grammar`, of which there is one for each
depth; how deeply constructs may lie within each other is thereby bounded. What a bracket begins is
told by the word behind the closing one, so that patterns and parameters have readers of their own.
-/

namespace Fingerprint.Script

/-- What is allowed at a place of a program. -/
structure ReadContext where
  isStrict : Bool
  isAsync : Bool
  isGenerator : Bool
  /-- Whether the place belongs to the parameters of an arrow function in an asynchronous function
  or in a generator. -/
  keepsAwait : Bool
  keepsYield : Bool
  inParameters : Bool
  inInitializer : Bool
  allowsReturn : Bool
  allowsNewTarget : Bool
  allowsArguments : Bool
  allowsSuper : Bool
  allowsSuperCall : Bool
  inLoop : Bool
  inSwitch : Bool
  /-- The labels around, each with whether it labels a loop. -/
  labels : List (String × Bool)
deriving Inhabited

/-- What kind of place the names of a block belong to. -/
inductive BlockKind where
  /-- A script whose variables and functions belong to all scripts. -/
  | script
  /-- The body of a function, or of a text that is evaluated as if it were in one. -/
  | body
  | inner
deriving DecidableEq, Repr, Inhabited

/-- The names declared in a block. -/
structure BlockNames where
  kind : BlockKind
  lexical : List Declared
  functions : List (String × CodeRef)
  /-- The variables that are declared first in the block or in blocks inside it. -/
  variableNames : List String
  /-- The name of the error that the block handles. -/
  caught : Option String
deriving Inhabited

structure ReadState where
  source : Source
  current : Lexeme
  /-- The end of the word before the current one. -/
  previousStop : Nat
  library : CodeLibrary
  context : ReadContext
  /-- The blocks around the place up to the function that it belongs to, the innermost one first. -/
  blocks : List BlockNames
  /-- The names that parameters bind. -/
  parameters : List String
  usesArguments : Bool
  /-- The hidden names that are used and not declared in a class so far. -/
  hiddenNames : List String

abbrev Reading := EStateM SyntaxFault ReadState

namespace Reading

def fail {α : Type} (message : String) : Reading α := throw ⟨message⟩

def lift {α : Type} (result : Except SyntaxFault α) : Reading α :=
  match result with
  | .ok value => pure value
  | .error fault => throw fault

def token : Reading Token := return (← get).current.token

def context : Reading ReadContext := return (← get).context

/-- Reads the word at a position as the current one. -/
def reload (position : Nat) : Reading Unit := do
  let state ← get
  let lexeme ← lift (Lexer.next state.source position)
  match lexeme.strictFault, state.context.isStrict with
  | some message, true => fail message
  | _, _ => set { state with current := lexeme }

def advance : Reading Unit := do
  let stop := (← get).current.stop
  modify fun state => { state with previousStop := stop }
  reload stop

/-- Goes on behind a word that was read in another way. -/
def resume (stop : Nat) : Reading Unit := do
  modify fun state => { state with previousStop := stop }
  reload stop

/-! ### Names -/

def keywords : List String :=
  ["null", "false", "true", "if", "else", "return", "var", "this", "delete", "void", "typeof",
    "new",
    "in", "instanceof", "do", "while", "for", "break", "continue", "switch", "case", "default",
    "throw", "try", "catch", "finally", "function", "debugger", "with", "class", "const", "enum",
    "export", "extends", "import", "super"]

def strictKeywords : List String :=
  ["implements", "interface", "let", "package", "private", "protected", "public", "static", "yield"]

/-- Whether a word is no name. -/
def isReserved (context : ReadContext) (word : String) : Bool :=
  keywords.contains word || (context.isStrict && strictKeywords.contains word) ||
    (word = "yield" && (context.isGenerator || context.keepsYield)) ||
    (word = "await" && (context.isAsync || context.inInitializer || context.keepsAwait))

/-- The text of the current word as it was written. -/
def currentText : Reading String := do
  let state ← get
  return String.ofList (state.source.extract state.current.start state.current.stop).toList

/-- Fails at a word that another one was expected in the place of. -/
def unexpectedWord {α : Type} : Reading α := do
  match ← token with
  | .stop => fail "Unexpected end of input"
  | .number _ | .bigInt _ => fail "Unexpected number"
  | .text _ => fail "Unexpected string"
  | .sign "\x60" => fail "Unexpected string template"
  | .name name escaped =>
    if isReserved (← context) name && !escaped then fail ("Unexpected token '" ++ name ++ "'")
    else fail ("Unexpected identifier '" ++ (Units.ofString name).shown.toText ++ "'")
  | _ => fail ("Unexpected token '" ++ (← currentText) ++ "'")

/-- Fails at a word that begins no expression. -/
def unexpected {α : Type} : Reading α := do
  fail ("unexpected token in expression: '" ++ (← currentText) ++ "'")

def failReserved {α : Type} (name : String) : Reading α :=
  fail ("'" ++ name ++ "' is a reserved identifier")

/-- The current word as a name; `none` if it is none. Names that are keywords with escapes fail. -/
def name? : Reading (Option String) := do
  let context ← context
  match ← token with
  | .name name escaped =>
    if isReserved context name then
      if escaped then failReserved name else return none
    else return some name
  | _ => return none

/-- A name that refers to a binding. -/
def noteName (name : String) : Reading Unit := do
  if name = "arguments" then
    unless (← context).allowsArguments do
      fail "'arguments' identifier is not allowed in class field initializer"
    modify fun state => { state with usesArguments := true }

/-! ### Signs and words -/

def isSign (text : String) : Reading Bool := do
  match ← token with
  | .sign found => return found == text
  | _ => return false

def accept (text : String) : Reading Bool := do
  if ← isSign text then advance; return true else return false

def expect (text : String) : Reading Unit := do
  unless ← accept text do unexpectedWord

def isWord (word : String) : Reading Bool := do
  match ← token with
  | .name name false => return name == word
  | _ => return false

def acceptWord (word : String) : Reading Bool := do
  if ← isWord word then advance; return true else return false

def expectWord (word : String) : Reading Unit := do
  unless ← acceptWord word do unexpectedWord

def afterLine : Reading Bool := return (← get).current.afterLine

/-- The word behind the current one. -/
def following : Reading Lexeme := do
  let state ← get
  lift (Lexer.next state.source state.current.stop)

/-- Looks past the group that the current word opens. -/
def groupAhead : Reading Lexer.Group := do
  let state ← get
  return Lexer.group (isReserved state.context) state.source state.current

/-- Whether the current word opens a group that one of these signs stands behind. -/
def groupBefore (openers signs : List String) : Reading Bool := do
  match ← token with
  | .sign text =>
    if openers.contains text then
      match (← groupAhead).next with
      | some lexeme =>
        match lexeme.token with
        | .sign next => return signs.contains next
        | .name next false => return signs.contains next
        | _ => return false
      | none => return false
    else return false
  | _ => return false

/-- Ends a statement: a semicolon may be left out at the end of a line or block. -/
def endStatement : Reading Unit := do
  if ← accept ";" then return
  match ← token with
  | .stop => return
  | .sign "\x7d" => return
  | _ => unless ← afterLine do fail "expecting ';'"

/-- Repeats a step until it yields a result, at most `fuel` times. -/
def repeatUpTo {σ β : Type} (step : σ → Reading (σ ⊕ β)) : Nat → σ → Reading β
  | 0, _ => fail "out of memory"
  | fuel + 1, state => do
    match ← step state with
    | .inl state => repeatUpTo step fuel state
    | .inr result => return result

/-- Repeats a step that reads at least one word each time. -/
def loop {σ β : Type} (start : σ) (step : σ → Reading (σ ⊕ β)) : Reading β := do
  let size := (← get).source.size
  repeatUpTo step (size + 2) start

/-- Reads with another context. -/
def within {α : Type} (change : ReadContext → ReadContext) (read : Reading α) : Reading α := do
  let before ← context
  modify fun state => { state with context := change before }
  let result ← read
  modify fun state => { state with context := before }
  return result

/-! ### Declared names -/

/-- Whether strict code refuses a name for what is bound or assigned. -/
def isProtected (context : ReadContext) (name : String) : Bool :=
  context.isStrict && (name = "eval" || name = "arguments")

def failRedefinition {α : Type} : Reading α := fail "invalid redefinition of lexical identifier"

/-- The innermost of these blocks that declares a name other than as a variable, with its place. -/
def findLexical (blocks : List BlockNames) (name : String) : Option (BlockNames × Nat) :=
  (blocks.zipIdx).find? fun (block, _) =>
    block.lexical.any (·.name = name) ||
      (block.kind = .inner && block.functions.any (·.1 = name)) || block.caught == some name

/-- Refuses a name that the current block or what it belongs to binds already. -/
def checkFresh (name : String) (isFunction : Bool) : Reading Unit := do
  let state ← get
  match state.blocks with
  | [] => return
  | block :: _ =>
    match findLexical state.blocks name with
    | some (other, place) =>
      let isOldFunction := other.functions.any (·.1 = name) && other.kind = .inner
      if place = 0 && other.caught ≠ some name &&
          !(isFunction && isOldFunction && !state.context.isStrict) then failRedefinition
      if place = 1 && other.caught == some name then failRedefinition
    | none => pure ()
    if block.kind = .body && state.parameters.contains name then
      fail "invalid redefinition of parameter name"
    if block.variableNames.contains name || (block.kind ≠ .inner && block.functions.any (·.1 = name))
      then
      if state.blocks.any (·.kind = .script) then fail "invalid redefinition of global identifier"
      else fail "invalid redefinition of a variable"

def addToBlock (change : BlockNames → BlockNames) : Reading Unit :=
  modify fun state =>
    match state.blocks with
    | block :: outer => { state with blocks := change block :: outer }
    | [] => state

def checkVariableName (name : String) : Reading Unit := do
  if isProtected (← context) name then fail "invalid variable name in strict mode"

/-- Declares a name for the block. -/
def declareLexical (kind : BindingKind) (name : String) : Reading Unit := do
  checkVariableName name
  if name = "let" then fail "'let' is not a valid lexical identifier"
  match (← get).blocks with
  | [block] =>
    if block.kind = .script && name = "undefined" then fail "'undefined' already declared"
  | _ => pure ()
  checkFresh name false
  addToBlock fun block => { block with lexical := block.lexical ++ [⟨name, kind⟩] }

/-- Whether a variable of this name would hide behind a name of the block. -/
def hidesVariable (name : String) (block : BlockNames) : Bool :=
  block.lexical.any (·.name = name) || (block.kind = .inner && block.functions.any (·.1 = name))

/-- Declares a variable of the function. -/
def declareVariable (name : String) : Reading Unit := do
  checkVariableName name
  let blocks := (← get).blocks
  if blocks.any (hidesVariable name) then failRedefinition
  unless (blocks.getLast?).any (·.variableNames.contains name) do
    let add (block : BlockNames) : BlockNames :=
      { block with variableNames := block.variableNames ++ [name] }
    modify fun state => { state with blocks := blocks.map add }

/-- Declares a variable of the function for the function of a block, unless something in between
hides it. -/
def hoistName (name : String) : Reading Unit := do
  modify fun state =>
    { state with
      blocks := state.blocks.map fun block =>
        if block.kind = .inner || block.variableNames.contains name then block
        else { block with variableNames := block.variableNames ++ [name] } }

/-- Whether the function of a block is also a variable of the function around it. -/
def hoists (name : String) : Reading Bool := do
  let state ← get
  let isHidden (block : BlockNames) : Bool := hidesVariable name block
  return !state.context.isStrict && !state.blocks.any isHidden && !state.parameters.contains name

/-- Declares a function of the block; the result tells whether it is also a variable of the function
around it. -/
def declareFunction (name : String) (code : CodeRef) (isOrdinary : Bool) : Reading Bool := do
  match (← get).blocks with
  | [] => return false
  | block :: _ =>
    if block.kind = .inner then
      let hoisted ← if isOrdinary then hoists name else pure false
      checkFresh name isOrdinary
      addToBlock fun block =>
        { block with functions := block.functions.filter (·.1 ≠ name) ++ [(name, code)] }
      if hoisted then hoistName name
      return hoisted
    else
      if block.kind = .body && hidesVariable name block then failRedefinition
      addToBlock fun block => { block with functions := block.functions ++ [(name, code)] }
      return false

/-- Reads a block with names of its own, and tells what it declares. -/
def inBlock {α : Type} (caught : Option String) (read : Reading α) :
    Reading (α × Declarations) := do
  let outer := (← get).blocks
  modify fun state => { state with blocks := ⟨.inner, [], [], [], caught⟩ :: state.blocks }
  let result ← read
  let after := (← get).blocks
  let (block, rest) := match after with
    | block :: rest => (block, rest)
    | [] => (default, outer)
  modify fun state => { state with blocks := rest }
  return (result, ⟨block.lexical, block.functions.map (·.2)⟩)

/-- The text from a position up to the end of the last word. -/
def sourceFrom (start : Nat) : Reading Units := do
  let state ← get
  return Units.ofList (state.source.extract start state.previousStop).toList

def addCode (code : Code) : Reading CodeRef := do
  let place := (← get).library.codes.size
  modify fun state => { state with library.codes := state.library.codes.push code }
  return place

def addClass (definition : ClassCode) : Reading ClassRef := do
  let place := (← get).library.classes.size
  modify fun state => { state with library.classes := state.library.classes.push definition }
  return place

/-- The number of a new template that a function gets. -/
def newTemplate : Reading Nat := do
  let number := (← get).library.templateCount
  modify fun state => { state with library.templateCount := number + 1 }
  return number

end Reading

/-- How a function is introduced. -/
structure FunctionHead where
  kind : CodeKind
  /-- Which kind of member the function becomes, if it becomes one. -/
  member : MemberKind
  name : Units
  isAsync : Bool
  isGenerator : Bool
  bindsItself : Bool
  /-- Where its text begins. -/
  start : Nat

/-- What is done with the names in a pattern. -/
inductive TargetKind where
  | assigned
  | variable
  | lexical (kind : BindingKind)
  | parameter
deriving DecidableEq

/-- Which declarations may stand in the place of a statement. -/
inductive DeclarationPlace where
  /-- A block. -/
  | list
  /-- The place behind a label where functions may have labels. -/
  | labelled
  /-- A branch of a condition in code that is not strict. -/
  | branch
  | single
deriving DecidableEq

def DeclarationPlace.allowsFunction (place : DeclarationPlace) : Bool := place ≠ .single

def DeclarationPlace.allowsLabels : DeclarationPlace → Bool
  | .list | .labelled => true
  | .branch | .single => false

/-- The readers that call each other. -/
structure Grammar where
  /-- An expression without commas outside parentheses; `true` if it may hold the operator `in`. -/
  assignment : Bool → Reading Expr
  /-- An expression with members and calls but without operators. -/
  operand : Reading Expr
  /-- An expression that can follow `new`. -/
  callee : Reading Expr
  statement : DeclarationPlace → Reading Stmt
  /-- A pattern, with a value for when there is none if `true`. -/
  pattern : TargetKind → Bool → Reading Expr
  /-- A function from its parameters on. -/
  function : FunctionHead → Reading CodeRef
  classDefinition : Bool → Reading (Option String × ClassRef)

end Fingerprint.Script
