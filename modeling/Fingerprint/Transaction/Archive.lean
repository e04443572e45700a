import Fingerprint.Transaction.Basic
import Fingerprint.Json.Parser

/-!
Transactions from entries of an HTTP archive: the address of the request, and the headers and the
text of the response.
-/

namespace Fingerprint.Transaction

open Data (text? listOf? optionOf?)

def archiveHeaderOfData? (data : Data) : Option (String × String) := do
  let found ← data.fields? ["name", "value"]
  return (← found.required 0 text?, ← found.required 1 text?)

/-- The address of a request. -/
def archiveRequestOfData? (data : Data) : Option (Option String) := do
  let found ← data.fields? ["url"]
  found.optional 0 none (optionOf? text?)

def archiveContentOfData? (data : Data) : Option (Option String) := do
  let found ← data.fields? ["text"]
  found.optional 0 none (optionOf? text?)

/-- The headers and the text of a response. -/
def archiveResponseOfData? (data : Data) :
    Option (Option (List (String × String)) × Option String) := do
  let found ← data.fields? ["headers", "content"]
  return (← found.optional 0 none (optionOf? (listOf? archiveHeaderOfData?)),
    ← found.optional 1 none archiveContentOfData?)

def ofArchiveData? (data : Data) : Option Transaction := do
  let found ← data.fields? ["request", "response"]
  let url ← found.optional 0 none archiveRequestOfData?
  let (headers, body) ← found.optional 1 (none, none) archiveResponseOfData?
  return ⟨url, body, headers⟩

/-- The transaction of an entry given as a value. -/
def ofArchiveValue (data : Data) : Except Failure Transaction :=
  match ofArchiveData? data with
  | some transaction => .ok transaction
  | none => .error .jsonMalformed

/-- The transaction of an entry given as JSON text. Parts of the text that the transaction does not
use have to be written correctly, but not to denote anything. -/
def ofArchiveEntry (text : String) : Except Failure Transaction :=
  match Json.parse? text with
  | some data => ofArchiveValue data
  | none => .error .jsonMalformed

end Fingerprint.Transaction
