import Fingerprint.Failure
import Fingerprint.Data.Basic
import Fingerprint.Text.Words

/-!
Captured transactions: of a request its address, of the response its text and its headers.
-/

namespace Fingerprint

/-- A captured transaction. A part that was not captured is absent. -/
structure Transaction where
  url : Option String
  body : Option String
  /-- Names and values in the order in which they were received. -/
  headers : Option (List (String × String))
deriving DecidableEq, Repr, Inhabited

/-- The value of a field. -/
inductive FieldValue where
  | text (text : String)
  | headers (headers : List (String × String))
deriving DecidableEq, Repr, Inhabited

namespace Transaction

def empty : Transaction := ⟨none, none, none⟩

def withUrl (transaction : Transaction) (url : String) : Transaction :=
  { transaction with url := some url }

def withBody (transaction : Transaction) (body : String) : Transaction :=
  { transaction with body := some body }

def withHeaders (transaction : Transaction) (headers : List (String × String)) : Transaction :=
  { transaction with headers := some headers }

/-- Adds a header behind the others. -/
def withHeader (transaction : Transaction) (name value : String) : Transaction :=
  { transaction with headers := some (transaction.headers.getD [] ++ [(name, value)]) }

/-- The value of the first header with this name, in any case. -/
def header? (transaction : Transaction) (name : String) : Option String :=
  ((transaction.headers.getD []).find? fun header => Text.sameIgnoringCase header.1 name).map (·.2)

/-- The value of a field, if it was captured. -/
def field? (transaction : Transaction) : Field → Option FieldValue
  | .url => transaction.url.map .text
  | .body => transaction.body.map .text
  | .header => transaction.headers.map .headers

def hasField (transaction : Transaction) (field : Field) : Bool :=
  (transaction.field? field).isSome

/-- The value of a field that has to be there. -/
def field (transaction : Transaction) (field : Field) : Except Failure FieldValue :=
  match transaction.field? field with
  | some value => .ok value
  | none => .error (.fieldMissing field)

/-! ### As a value of a document -/

/-- A pair of texts written as a list of two. -/
def pairOfData? : Data → Option (String × String)
  | .list [name, value] => do return (← name.text?, ← value.text?)
  | _ => none

def ofData? (data : Data) : Option Transaction := do
  let found ← data.fields? ["url", "body", "headers"]
  return {
    url := ← found.optional 0 none (Data.optionOf? Data.text?)
    body := ← found.optional 1 none (Data.optionOf? Data.text?)
    headers := ← found.optional 2 none (Data.optionOf? (Data.listOf? pairOfData?)) }

def toData (transaction : Transaction) : Data :=
  let text (key : String) (value : Option String) : List (String × Data) :=
    (value.map fun text => (key, Data.text text)).toList
  .object <|
    text "url" transaction.url ++
    text "body" transaction.body ++
    (transaction.headers.map fun headers =>
      ("headers",
        Data.list (headers.map fun (name, value) => .list [.text name, .text value]))).toList

end Transaction

end Fingerprint
