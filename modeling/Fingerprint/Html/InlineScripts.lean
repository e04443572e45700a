import Fingerprint.Html.Tokenizer
import Fingerprint.Text.Words

/-!
The scripts that a page holds itself.

A script element counts if it has no source and no type, or a type that is blank or mentions
JavaScript. Its contents without white space at the ends are a block, unless nothing is left.
-/

namespace Fingerprint.Html

/-- Whether a script element of this type is JavaScript. -/
def isScriptType (type : String) : Bool :=
  let type := Text.toLowerAscii type
  Text.isBlankText type || Text.occursIn "javascript" type || Text.occursIn "ecmascript" type

/-- Whether an attribute leaves open that the element is an inline script. -/
def Attribute.allowsInlineScript (item : Attribute) : Bool :=
  if item.name = "src" then false
  else if item.name = "type" then isScriptType item.value
  else true

def isInlineScript (attributes : List Attribute) : Bool :=
  attributes.all Attribute.allowsInlineScript

/-- The characters without white space at the ends as a list of blocks: one, or none if nothing is
left. -/
def blockOf (text : List Char) : List String :=
  let text := Text.trimList Text.isBlank text
  if text.isEmpty then [] else [String.ofList text]

/-- The blocks of tokens. `current` holds the characters so far of the script element that is being
collected, if there is one. -/
def collect (current : Option (List Char)) : List Token → List String
  | [] => []
  | .startTag name attributes :: rest =>
    if name = "script" then
      collect (if isInlineScript attributes then some [] else none) rest
    else collect current rest
  | .endTag name :: rest =>
    if name = "script" then (current.map blockOf).getD [] ++ collect none rest
    else collect current rest
  | .characters text :: rest => collect (current.map (· ++ text)) rest
  | .other :: rest => collect current rest
  | .endOfFile :: rest => (current.map blockOf).getD [] ++ collect none rest

/-- The inline scripts of a page, in their order. -/
def inlineScripts (page : String) : List String := collect none (tokens page)

end Fingerprint.Html
