import Fingerprint.Transaction.Basic

/-!
Fixtures: examples of transactions with what a plugin has to find in them.
-/

namespace Fingerprint

/-- A transaction with few fields. -/
structure Sample where
  url : Option String
  body : Option String
  header : Option (String × String)
deriving DecidableEq, Repr, Inhabited

namespace Sample

def declares (sample : Sample) : Field → Bool
  | .url => sample.url.isSome
  | .body => sample.body.isSome
  | .header => sample.header.isSome

/-- The declared fields, the body first. -/
def fields (sample : Sample) : List Field :=
  [Field.body, .url, .header].filter sample.declares

/-- The first declared field. -/
def primaryField (sample : Sample) : Except Failure Field :=
  match sample.fields with
  | field :: _ => .ok field
  | [] => .error .sampleEmpty

/-- The transaction with one field of the sample alone. -/
def transaction (sample : Sample) (field : Field) : Except Failure Transaction :=
  let alone := match field with
    | .url => sample.url.map Transaction.empty.withUrl
    | .body => sample.body.map Transaction.empty.withBody
    | .header => sample.header.map fun (name, value) => Transaction.empty.withHeader name value
  match alone with
  | some transaction => .ok transaction
  | none => .error (.sampleLacks field)

end Sample

/-- An example of a version or of mere presence. -/
structure FieldExample where
  sample : Sample
  version : Option String
deriving DecidableEq, Repr, Inhabited

/-- An example of a script and the version that it yields. -/
structure ScriptExample where
  script : String
  version : String
deriving DecidableEq, Repr, Inhabited

/-- An example of a component; its version may be left open. -/
structure ModularExample where
  sample : Sample
  software : String
  version : Option String
deriving DecidableEq, Repr, Inhabited

/-- The examples of a plugin. -/
structure Fixture where
  plugin : String
  matchers : List FieldExample
  scripts : List ScriptExample
  modularMatchers : List ModularExample
  indicators : List FieldExample
deriving DecidableEq, Repr, Inhabited

namespace Fixture

def exampleCount (fixture : Fixture) : Nat :=
  fixture.matchers.length + fixture.scripts.length + fixture.modularMatchers.length +
    fixture.indicators.length

end Fixture

end Fingerprint
