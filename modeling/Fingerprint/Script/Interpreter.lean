import Fingerprint.Script.Execution
import Fingerprint.Script.Realm

/-!
The evaluators of each depth. What lies one step deeper is evaluated with the evaluators of the next
depth, so that the stack is bounded; when it is used up, scripts get an error that they can catch.
-/

namespace Fingerprint.Script

variable (it : Interpreter)

/-- Calls a function of the library. -/
def callNative (function : Ref) (native : Native) (call : LibraryCall) : M Value := do
  poll
  asCaller function nativeBytes (libraryCode it native.library native.name call)

/-- Calls a value with a value for `this`. -/
def callValue (function this : Value) (arguments : Array Value) : M Value := do
  match function with
  | .object ref =>
    match (← getObject ref).kind with
    | .closure closure => callClosure it ref closure this arguments
    | .native native | .linked native _ =>
      callNative it ref native ⟨this, arguments, .undefined, function⟩
    | .bound target boundThis first _ => it.call (.object target) boundThis (first ++ arguments)
    | .proxy .. => handledCall it ref this arguments
    | _ => notFunction
  | _ => notFunction

/-- Makes an object with a constructor. -/
def constructValue (function : Value) (arguments : Array Value) (newTarget : Value) : M Value := do
  let .object ref := function | notFunction
  unless ← isConstructor function do throwType "not a constructor"
  match (← getObject ref).kind with
  | .closure closure => constructClosure it ref closure arguments newTarget
  | .native native => callNative it ref native ⟨.undefined, arguments, newTarget, function⟩
  | .bound target _ first _ =>
    let newTarget := if newTarget.same function then .object target else newTarget
    it.construct (.object target) (first ++ arguments) newTarget
  | .proxy .. => handledConstruct it ref arguments newTarget
  | _ => throwType "not a constructor"

/-- What is done with objects that have handlers when the stack is used up. -/
def exhaustedHandling : Handling where
  prototype _ := throwOverflow
  setPrototype _ _ := throwOverflow
  isExtensible _ := throwOverflow
  preventExtensions _ := throwOverflow
  own _ _ := throwOverflow
  define _ _ _ := throwOverflow
  has _ _ := throwOverflow
  get _ _ _ := throwOverflow
  set _ _ _ _ := throwOverflow
  delete _ _ := throwOverflow
  keys _ := throwOverflow

/-- The evaluators when the stack is used up. -/
def exhausted : Interpreter where
  expression _ _ := throwOverflow
  statement _ _ := throwOverflow
  call _ _ _ := throwOverflow
  construct _ _ _ := throwOverflow
  assign _ _ _ _ := throwOverflow
  handled := exhaustedHandling

/-- The evaluators with a stack of some depth. Those of the next depth are made when something is
evaluated there. -/
def interpreter : Nat → Interpreter
  | 0 => exhausted
  | depth + 1 =>
    let inner := Thunk.mk fun _ => interpreter depth
    { expression := fun env expr => evaluate inner.get env expr
      statement := fun env statement => execute inner.get env statement
      call := fun function this arguments => callValue inner.get function this arguments
      construct := fun function arguments newTarget =>
        constructValue inner.get function arguments newTarget
      assign := fun env isDeclaration pattern value =>
        assignPattern inner.get env isDeclaration pattern value
      handled := handling inner.get }

end Fingerprint.Script
