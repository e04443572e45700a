import Fingerprint.Probe.Engine
import Fingerprint.Script.Interpreter

/-!
The engine that evaluates the scripts of pages.

Time is counted in steps, so that the same scripts always end in the same way.
-/

namespace Fingerprint.Script

/-- How deep what is evaluated can lie in what is evaluated already. -/
def largestDepth : Nat := 200000

/-- The bytes of the stack that a step of depth takes at least. -/
def bytesPerDepth : Nat := 2

/-- The bytes of a stack that is not bounded. -/
def unboundedStack : Nat := 67108864

/-- The bytes of the stack without which nothing can be evaluated. -/
def smallestStack : Nat := 1280

/-- The smallest memory in which a sandbox can be made. -/
def smallestMemory : Nat := 65536

/-- A sandbox between evaluations. -/
structure Sandbox where
  machine : Machine

namespace Sandbox

/-- The bytes of a stack of some size; 0 is no bound on the size. -/
def stackBytes (stackSize : Nat) : Nat :=
  if stackSize = 0 then unboundedStack else min unboundedStack stackSize

def create (limits : ScriptLimits) : Option Sandbox :=
  if limits.memoryLimit ≠ 0 && limits.memoryLimit < smallestMemory then none
  else
    let memory := if limits.memoryLimit = 0 then none else some limits.memoryLimit
    let deadline := limits.timeLimit.milliseconds * stepsPerMillisecond
    some ⟨{ startMachine with
      deadline := deadline, memory := memory, stack := stackBytes limits.maxStackSize }⟩

def evaluators (sandbox : Sandbox) : Interpreter :=
  interpreter (min largestDepth (sandbox.machine.stack / bytesPerDepth))

/-- Gives the scripts an empty `window`. -/
def seed (sandbox : Sandbox) : Except String Sandbox :=
  let add : M Unit := do
    putProperty Intrinsic.global.ref "window" (.plain (.object (← newObject)))
  match add.run sandbox.machine with
  | .ok _ machine => .ok ⟨machine⟩
  | .error _ _ => .error ""

/-- The text of an error that a script has thrown. -/
def describeError (it : Interpreter) (value : Value) : M String := do
  let other := "Exception generated by quickjs:"
  let .object ref := value | return other
  match (← getObject ref).kind with
  | .error =>
    try
      match ← getProperty it ref "message" with
      | .undefined | .null => return "Error:"
      | message =>
        match (← toUnits it message).toString? with
        | some text => return "Error: " ++ text
        | none => return "Error:"
    catch _ => return "Error:"
  | _ => return other

/-- The result of what a script does. -/
def complete (it : Interpreter) : EStateM.Result Abrupt Machine Value → Completion Value × Machine
  | .ok value machine => (.value value, machine)
  | .error (.thrown error) machine =>
    match (describeError it error).run machine with
    | .ok text machine => (.thrown text, machine)
    | .error _ machine => (.thrown "Error:", machine)
  | .error .interrupted machine => (.interrupted "Error: interrupted", machine)
  | .error .skipped machine | .error .suspended machine => (.value .undefined, machine)

def evaluate (sandbox : Sandbox) (source : String) : Completion Value × Sandbox :=
  let it := sandbox.evaluators
  let run : M Value :=
    if sandbox.machine.stack < smallestStack then throwOverflow else runScript it source
  let (completion, machine) := complete it (run.run sandbox.machine)
  (completion, ⟨machine⟩)

def kindOf : Value → ValueKind
  | .undefined | .null => .absent
  | .text _ | .number _ | .bool _ => .printable
  | _ => .other

/-- The text of a value, which the global function for it yields. -/
def textOf (sandbox : Sandbox) (value : Value) : Option String :=
  let it := sandbox.evaluators
  let convert : M Value := do
    it.call (← getProperty it Intrinsic.global.ref "String") .undefined #[value]
  match convert.run sandbox.machine with
  | .ok (.text units) _ => units.toString?
  | _ => none

end Sandbox

/-- The engine for scripts of pages. -/
def engine : ScriptEngine where
  State := Sandbox
  Value := Value
  now := ⟨0, 0⟩
  create := Sandbox.create
  seed := Sandbox.seed
  evaluate := Sandbox.evaluate
  expired sandbox := sandbox.machine.deadline ≤ sandbox.machine.clock
  kind := Sandbox.kindOf
  toText := Sandbox.textOf

end Fingerprint.Script
