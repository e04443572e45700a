import Fingerprint.Script.Library.Basic

/-!
Making objects that leave what is done with them to a handler.
-/

namespace Fingerprint.Script.Standard

/-- An object that leaves what is done with it to a handler. -/
def newProxy (target handler : Value) : M Value := do
  let target ← requireObject target
  let handler ← requireObject handler
  let object ← getObject target
  let constructs ← isConstructor (.object target)
  return .object (← allocate
    (.ofKind none (.proxy (some (target, handler)) object.isCallable constructs)))

/-- Separates an object from its handler. -/
def revoke (ref : Ref) : M Unit :=
  modifyObject ref fun object =>
    match object.kind with
    | .proxy _ isCallable isConstructor =>
      { object with kind := .proxy none isCallable isConstructor }
    | _ => object

/-- An object with a handler, and the function that separates them. -/
def newRevocable (call : LibraryCall) : M Value := do
  let made ← newProxy call.first call.second
  let revoker ← allocate ⟨some Intrinsic.functionPrototype.ref, .linked ⟨.proxy, "revoke"⟩ #[made],
    functionProperties .empty 0, true⟩
  let result ← newObject
  createProperty result "proxy" made
  createProperty result "revoke" (.object revoker)
  return .object result

def proxy : LibraryCode := fun name call => do
  match name with
  | "revocable" => newRevocable call
  | "revoke" =>
    match ← heldValue call.function 0 with
    | .object ref => revoke ref
    | _ => pure ()
    return .undefined
  | _ =>
    unless call.isConstruction do throwType "must be called with new"
    newProxy call.first call.second

def proxyGroup : LibraryGroup := ⟨.proxy, [.method "revocable" 2]⟩

end Fingerprint.Script.Standard
