import Fingerprint.Script.Value

/-!
The syntax of scripts.

Functions and classes are kept in a library of their own and are referred to by their places in it.
Names that a part of a program declares are collected while it is read and kept at the blocks and
functions that they belong to.
-/

namespace Fingerprint.Script

/-- Operators that compute a value of two. -/
inductive BinaryOp where
  | add | sub | mul | div | rem | pow
  | less | greater | lessEq | greaterEq
  | equal | notEqual | same | notSame
  | bitAnd | bitOr | bitXor
  | shiftLeft | shiftRight | shiftRightZero
  | isIn | instanceOf
deriving DecidableEq, Repr, Inhabited

/-- Operators that look at their second operand only if they have to. -/
inductive LogicalOp where
  | and
  | or
  | coalesce
deriving DecidableEq, Repr, Inhabited

inductive UnaryOp where
  | plus
  | minus
  | not
  | bitNot
  | void
  /-- The promise of a module, which never comes. -/
  | load
deriving DecidableEq, Repr, Inhabited

/-- What kind of function a piece of code makes. -/
inductive CodeKind where
  | ordinary
  | arrow
  | method
  | accessor
  | baseConstructor
  | derivedConstructor
deriving DecidableEq, Repr, Inhabited

/-- How a declared name may be used. -/
inductive BindingKind where
  | variable
  | constant
  /-- A name that keeps its value, which only strict code is told. -/
  | silent
deriving DecidableEq, Repr, Inhabited

/-- Which kind of member a function becomes. -/
inductive MemberKind where
  | method
  | getter
  | setter
deriving DecidableEq, Repr, Inhabited

/-- A declared name. -/
structure Declared where
  name : String
  kind : BindingKind
deriving DecidableEq, Repr, Inhabited

/-- The place of a function in the library. -/
abbrev CodeRef := Nat

/-- The place of a class in the library. -/
abbrev ClassRef := Nat

/-- An expression, or a form that stands only inside literals, patterns and calls. A pattern is
written like a literal: an assignment in it gives the value for a missing part. -/
inductive Expr where
  | literal (value : Value)
  | regex (body flags : Units)
  | this
  | name (name : String)
  /-- A text with values between the pieces. -/
  | template (pieces : List Units) (values : List Expr)
  /-- A template that a function gets; the number tells it from others. -/
  | tagged (site : Nat) (tag : Expr) (cooked : List (Option Units)) (raw : List Units)
    (values : List Expr)
  | array (items : List Expr)
  | object (members : List Expr)
  /-- A missing item of an array. -/
  | hole
  /-- An item, argument or member that stands for several, or the rest of a pattern. -/
  | spread (value : Expr)
  /-- A member of an object or a field of a pattern. -/
  | property (key value : Expr)
  | memberFunction (kind : MemberKind) (key : Expr) (code : CodeRef)
  /-- A name that is hidden outside its class. -/
  | hiddenName (name : String)
  | function (code : CodeRef)
  | classOf (definition : ClassRef)
  | unary (op : UnaryOp) (operand : Expr)
  | typeOf (operand : Expr)
  | delete (operand : Expr)
  | update (increment isPrefix : Bool) (target : Expr)
  | binary (op : BinaryOp) (left right : Expr)
  | logical (op : LogicalOp) (left right : Expr)
  | conditional (test yes no : Expr)
  | assign (target value : Expr)
  | compound (op : BinaryOp) (target value : Expr)
  | logicalAssign (op : LogicalOp) (target value : Expr)
  | sequence (first second : Expr)
  | member (object key : Expr)
  | superMember (key : Expr)
  /-- An operand that ends the chain around it if it is undefined or null. -/
  | optional (operand : Expr)
  | chain (whole : Expr)
  | call (callee : Expr) (arguments : List Expr)
  | superCall (arguments : List Expr)
  | construct (callee : Expr) (arguments : List Expr)
  | newTarget
  | await (operand : Expr)
  | yield (delegate : Bool) (operand : Expr)
  /-- An expression in parentheses. -/
  | group (inner : Expr)
  /-- A function that has been evaluated, with a value for `this`. -/
  | method (function this : Value)

instance : Inhabited Expr := ⟨.this⟩

/-- The names that statements declare for each other; functions have their values from the start. -/
structure Declarations where
  names : List Declared
  functions : List CodeRef
deriving Inhabited

def Declarations.none : Declarations := ⟨[], []⟩

def Declarations.isEmpty (declarations : Declarations) : Bool :=
  declarations.names.isEmpty && declarations.functions.isEmpty

/-- How a loop takes its items. -/
inductive HeadKind where
  | assigned
  | variable
  | lexical (names : List Declared)

instance : Inhabited HeadKind := ⟨.assigned⟩

inductive Stmt where
  | empty
  | expression (value : Expr)
  | block (declarations : Declarations) (body : List Stmt)
  /-- A declaration of variables that belong to the whole function, as assignments. -/
  | variableDeclaration (assignments : List Expr)
  /-- A declaration of names that belong to the block; a target without a value is undefined. -/
  | lexical (assignments : List Expr)
  | classDeclaration (name : String) (definition : ClassRef)
  | conditional (test : Expr) (yes no : Stmt)
  | loop (names : List Declared) (start : Stmt) (test step : Option Expr) (body : Stmt)
  | forIn (head : HeadKind) (target object : Expr) (body : Stmt)
  | forOf (head : HeadKind) (target items : Expr) (body : Stmt)
  /-- A loop that waits for its items, and so never gets to its body. -/
  | forAwait (items : Expr)
  | whileLoop (test : Expr) (body : Stmt)
  | doWhile (body : Stmt) (test : Expr)
  | ret (value : Option Expr)
  | breakTo (label : Option String)
  | continueTo (label : Option String)
  | throw (value : Expr)
  | attempt (body : Stmt) (names : List Declared) (parameter : Option Expr) (handler : Option Stmt)
    (finalizer : Option Stmt)
  | switch (value : Expr) (declarations : Declarations) (cases : List Stmt)
  /-- A case of a switch; the one without a test is the default. -/
  | case (test : Option Expr) (body : List Stmt)
  | labelled (label : String) (body : Stmt)
  /-- A statement in which the properties of an object are names. -/
  | withObject (object : Expr) (body : Stmt)
  /-- The place of a function in a block whose name is also a variable of the function around it. -/
  | hoist (name : String)

instance : Inhabited Stmt := ⟨.empty⟩

/-- A function or the constructor of a class. -/
structure Code where
  kind : CodeKind
  name : Units
  isAsync : Bool
  isGenerator : Bool
  isStrict : Bool
  parameters : List Expr
  parameterNames : List String
  /-- Whether all parameters are plain names. -/
  isSimple : Bool
  usesArguments : Bool
  /-- Whether the name of the function is bound inside it. -/
  bindsItself : Bool
  /-- The number of parameters in front of the first one with a value for when it is missing. -/
  length : Nat
  variableNames : List String
  declarations : Declarations
  body : List Stmt
  source : Units
deriving Inhabited

/-- A part of a class besides its constructor. -/
inductive ClassElement where
  | function (isStatic : Bool) (kind : MemberKind) (key : Expr) (code : CodeRef)
  | field (isStatic : Bool) (key : Expr) (value : Option CodeRef)
  | initializer (code : CodeRef)
deriving Inhabited

/-- What a hidden name of a class stands for. -/
inductive HiddenKind where
  | field
  | method
  | getter
  | setter
  /-- A getter and a setter. -/
  | accessor
deriving DecidableEq, Inhabited

/-- A name that a class declares and that is hidden outside of it. -/
structure HiddenName where
  name : String
  kind : HiddenKind
  isStatic : Bool
deriving Inhabited

/-- A class. -/
structure ClassCode where
  name : Option String
  /-- The name that a class without one takes from what it is given to. -/
  label : Units
  heritage : Option Expr
  constructorCode : Option CodeRef
  elements : List ClassElement
  hiddenNames : List HiddenName
  source : Units
deriving Inhabited

/-- The functions and classes of all programs that have been read. -/
structure CodeLibrary where
  codes : Array Code
  classes : Array ClassCode
  /-- The number of templates that functions get. -/
  templateCount : Nat
deriving Inhabited

def CodeLibrary.empty : CodeLibrary := ⟨#[], #[], 0⟩

/-- A whole script. -/
structure Program where
  variableNames : List String
  declarations : Declarations
  body : List Stmt
  isStrict : Bool
  /-- The hidden names that are used outside of classes that declare them. -/
  hiddenNames : List String
deriving Inhabited

end Fingerprint.Script
