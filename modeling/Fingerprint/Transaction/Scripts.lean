import Fingerprint.Html.InlineScripts
import Fingerprint.Transaction.Basic
import Fingerprint.Url.Path

/-!
The scripts of a transaction.

A response that is a script itself is one block; otherwise the inline scripts of the page are the
blocks. A response is a script if its content type mentions JavaScript or its path ends in `.js` or
`.mjs`.
-/

namespace Fingerprint.Transaction

/-- Whether two characters are the same letter; the long s is an `s`. -/
def isLetter (letter c : Char) : Bool :=
  c.toLower = letter || (letter = 's' && c = 'ſ')

/-- Whether a path ends in `.js` or `.mjs`, in any case. -/
def isScriptPath (path : String) : Bool :=
  match path.toList.reverse with
  | s :: j :: rest =>
    isLetter 's' s && isLetter 'j' j &&
      match rest with
      | '.' :: _ => true
      | m :: '.' :: _ => isLetter 'm' m
      | _ => false
  | _ => false

/-- The part of an address that tells what kind of resource it names. An address that is not
absolute is cut at its query or fragment. -/
def resourcePath (url : String) : String :=
  (Url.path? url).getD (String.ofList (Url.beforeQuery url.toList))

/-- Whether the response is a script itself. -/
def isScriptResponse (transaction : Transaction) : Bool :=
  (transaction.header? "content-type").any
    (fun type => Text.occursIn "javascript" (Text.toLowerAscii type)) ||
  transaction.url.any (fun url => isScriptPath (resourcePath url))

/-- Whether a body is left aside: it is blank, or longer than `maxBytes`. -/
def skipsBody (maxBytes : Nat) (body : String) : Bool :=
  Text.isBlankText body || maxBytes < Text.byteCount body

/-- The blocks of script in the order of their evaluation. -/
def scriptSources (transaction : Transaction) (maxBytes : Nat) : List String :=
  match transaction.body with
  | none => []
  | some body =>
    if skipsBody maxBytes body then []
    else if transaction.isScriptResponse then [body]
    else Html.inlineScripts body

end Fingerprint.Transaction
