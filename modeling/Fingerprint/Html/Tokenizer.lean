import Fingerprint.Html.Reference

/-!
The tokens of a page (tags, characters, and all else), and the way to them from its characters.

Only the contents of a script element are read as raw text; elements such as `title` and `textarea`
do not change how the characters in them are read. Raw text ends at the end tag of the script, but
not inside a comment that opens a further script element.
-/

namespace Fingerprint.Html

/-- An attribute of a tag: its name in lower case and its value. -/
structure Attribute where
  name : String
  value : String
deriving DecidableEq, Repr, Inhabited

inductive Token where
  | startTag (name : String) (attributes : List Attribute)
  | endTag (name : String)
  | characters (text : List Char)
  /-- A comment, a document type or the like. -/
  | other
  | endOfFile
deriving DecidableEq, Repr, Inhabited

/-- The characters that separate the parts of a tag. -/
def isTagSpace (c : Char) : Bool := c = ' ' || c = '\t' || c = '\n' || c = '\x0c'

/-- Whether a character ends the name of a tag. -/
def endsTagName (c : Char) : Bool := isTagSpace c || c = '/' || c = '>'

/-- The page with line feeds for all line ends and without a byte order mark. -/
def unifyLines : List Char → List Char
  | '\r' :: '\n' :: rest => '\n' :: unifyLines rest
  | '\r' :: rest => '\n' :: unifyLines rest
  | c :: rest => c :: unifyLines rest
  | [] => []

def skipByteOrderMark : List Char → List Char
  | '\uFEFF' :: rest => rest
  | rest => rest

/-- A name in lower case, with U+FFFD for U+0000. -/
def nameOf (chars : List Char) : String :=
  String.ofList (chars.map fun c => if c = '\x00' then '\uFFFD' else c.toLower)

def attributeValue (chars : List Char) : String :=
  String.ofList (resolveReferences true chars.length chars)

/-- The value behind an equals sign and the characters after it. There is none if the page ends
inside. -/
def readValue (chars : List Char) : Option (String × List Char) :=
  let quoted (quote : Char) (rest : List Char) : Option (String × List Char) :=
    match rest.dropWhile (· ≠ quote) with
    | [] => none
    | _ :: after => some (attributeValue (rest.takeWhile (· ≠ quote)), after)
  match chars.dropWhile isTagSpace with
  | [] => none
  | '"' :: rest => quoted '"' rest
  | '\'' :: rest => quoted '\'' rest
  | rest =>
    let within (c : Char) : Bool := !(isTagSpace c || c = '>')
    some (attributeValue (rest.takeWhile within), rest.dropWhile within)

/-- Adds an attribute unless there is one of its name. -/
def addAttribute (attributes : List Attribute) (name value : String) : List Attribute :=
  if attributes.any (·.name = name) then attributes else attributes ++ [⟨name, value⟩]

/-- The attributes of a tag up to and including its `>`, and the characters after it. There are none
if the page ends inside. The bound is one more than the number of characters. -/
def readAttributes : Nat → List Attribute → List Char → Option (List Attribute × List Char)
  | 0, _, _ => none
  | _ + 1, _, [] => none
  | fuel + 1, attributes, c :: rest =>
    if c = '>' then some (attributes, rest)
    else if isTagSpace c || c = '/' then readAttributes fuel attributes rest
    else
      let within (c : Char) : Bool := !(endsTagName c || c = '=')
      let name := nameOf (c :: rest.takeWhile within)
      let behind := rest.dropWhile within
      match behind.dropWhile isTagSpace with
      | '=' :: afterMark =>
        match readValue afterMark with
        | none => none
        | some (value, after) => readAttributes fuel (addAttribute attributes name value) after
      | _ => readAttributes fuel (addAttribute attributes name "") behind

/-- A tag from its name on: the name, the attributes and the characters after the tag. -/
def readTag (chars : List Char) : Option (String × List Attribute × List Char) :=
  let rest := chars.dropWhile (!endsTagName ·)
  (readAttributes (rest.length + 1) [] rest).map fun (attributes, after) =>
    (nameOf (chars.takeWhile (!endsTagName ·)), attributes, after)

/-- The characters behind a comment whose `<!--` was passed. -/
def afterCommentBody : List Char → List Char
  | [] => []
  | '-' :: '-' :: '>' :: rest => rest
  | '-' :: '-' :: '!' :: '>' :: rest => rest
  | _ :: rest => afterCommentBody rest

/-- As `afterCommentBody`, at the front of the comment, which may also be closed by `>` and `->`. -/
def afterComment : List Char → List Char
  | '>' :: rest => rest
  | '-' :: '>' :: rest => rest
  | rest => afterCommentBody rest

/-- The characters behind the next `>`. -/
def afterMark : List Char → List Char
  | [] => []
  | '>' :: rest => rest
  | _ :: rest => afterMark rest

/-- How the contents of a script element are read. -/
inductive ScriptMode where
  | plain
  /-- Inside a comment. -/
  | escaped
  /-- Inside a script element inside a comment. -/
  | doubleEscaped
deriving DecidableEq, Repr, Inhabited

def scriptName : List Char := ['s', 'c', 'r', 'i', 'p', 't']

/-- Whether the characters begin with the name of a script tag. -/
def beginsScriptName (chars : List Char) : Bool :=
  (chars.take 6).map Char.toLower == scriptName && (chars.drop 6).head?.any endsTagName

/-- The contents of a script element, and the characters behind the name of its end tag if there is
one. `dashes` counts the hyphens just passed, up to two. -/
def readScript (mode : ScriptMode) (dashes : Nat) : List Char → List Char × Option (List Char)
  | [] => ([], none)
  | c :: rest =>
    let goOn (mode : ScriptMode) (dashes : Nat) : List Char × Option (List Char) :=
      let (text, after) := readScript mode dashes rest
      ((if c = '\x00' then '\uFFFD' else c) :: text, after)
    match mode with
    | .plain =>
      match c, rest with
      | '<', '/' :: name =>
        if beginsScriptName name then ([], some (name.drop 6)) else goOn .plain 0
      | '<', '!' :: '-' :: '-' :: _ => goOn .escaped 0
      | _, _ => goOn .plain 0
    | .escaped =>
      match c, rest with
      | '-', _ => goOn .escaped (min 2 (dashes + 1))
      | '>', _ => goOn (if dashes = 2 then .plain else .escaped) 0
      | '<', '/' :: name =>
        if beginsScriptName name then ([], some (name.drop 6)) else goOn .escaped 0
      | '<', name => goOn (if beginsScriptName name then .doubleEscaped else .escaped) 0
      | _, _ => goOn .escaped 0
    | .doubleEscaped =>
      match c, rest with
      | '-', _ => goOn .doubleEscaped (min 2 (dashes + 1))
      | '>', _ => goOn (if dashes = 2 then .plain else .doubleEscaped) 0
      | '<', '/' :: name =>
        goOn (if beginsScriptName name then .escaped else .doubleEscaped) 0
      | _, _ => goOn .doubleEscaped 0

/-- The tokens of a page; the bound is one more than the number of characters. A tag inside which
the page ends is no token. -/
def tokensOf : Nat → List Char → List Token
  | 0, _ => [.endOfFile]
  | _ + 1, [] => [.endOfFile]
  | fuel + 1, '<' :: rest =>
    match rest with
    | '!' :: '-' :: '-' :: body => .other :: tokensOf fuel (afterComment body)
    | '!' :: body | '?' :: body => .other :: tokensOf fuel (afterMark body)
    | '/' :: '>' :: after => tokensOf fuel after
    | '/' :: c :: body =>
      if c.isAlpha then
        match readTag (c :: body) with
        | some (name, _, after) => .endTag name :: tokensOf fuel after
        | none => [.endOfFile]
      else .other :: tokensOf fuel (afterMark (c :: body))
    | c :: body =>
      if c.isAlpha then
        match readTag (c :: body) with
        | none => [.endOfFile]
        | some (name, attributes, after) =>
          if name.toList = scriptName then
            .startTag name attributes :: scriptTokens fuel after
          else .startTag name attributes :: tokensOf fuel after
      else .characters ['<'] :: tokensOf fuel rest
    | [] => [.characters ['<'], .endOfFile]
  | fuel + 1, chars =>
    let text := chars.takeWhile (· ≠ '<')
    .characters (resolveReferences false text.length text) ::
      tokensOf fuel (chars.dropWhile (· ≠ '<'))
where
  /-- The tokens from the contents of a script element on. -/
  scriptTokens (fuel : Nat) (chars : List Char) : List Token :=
    match readScript .plain 0 chars with
    | (text, none) => [.characters text, .endOfFile]
    | (text, some behind) =>
      match readAttributes (behind.length + 1) [] behind with
      | some (_, after) =>
        .characters text :: .endTag (String.ofList scriptName) :: tokensOf fuel after
      | none => [.characters text, .endOfFile]

/-- The tokens of a page. -/
def tokens (page : String) : List Token :=
  let chars := unifyLines (skipByteOrderMark page.toList)
  tokensOf (chars.length + 1) chars

end Fingerprint.Html
