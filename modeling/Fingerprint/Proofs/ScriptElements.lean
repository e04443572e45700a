import Fingerprint.Proofs.InlineScripts
import Mathlib.Data.List.Forall2

/-!
The script elements of a page and the blocks that come of them.

The collection is a machine with one cell, which holds the characters of the script element that is
being collected. What a token does to the cell and which block it completes is one step; a run is a
fold of the steps. As no script element begins inside another, the blocks are those of the elements
in their order, each by itself.
-/

set_option autoImplicit false

namespace Fingerprint

namespace Html

/-! ### Script elements -/

/-- Whether a script element ends at a token: at the end tag of a script, or at the end of the
page. -/
def Token.endsScript : Token → Bool
  | .endTag name => name = "script"
  | .endOfFile => true
  | _ => false

/-- The characters that a token adds to a script. -/
def Token.text : Token → List Char
  | .characters text => text
  | _ => []

/-- The tokens in front of the next end of a script. -/
def beforeEnd (tokens : List Token) : List Token := tokens.takeWhile (!·.endsScript)

/-- The characters in front of the next end of a script. -/
def contents (tokens : List Token) : List Char := (beforeEnd tokens).flatMap Token.text

/-- A script element: the attributes of its start tag, and its characters. -/
structure ScriptElement where
  attributes : List Attribute
  contents : List Char
deriving DecidableEq, Repr

/-- The script element whose start tag is the first of the tokens. -/
def scriptElement? : List Token → Option ScriptElement
  | .startTag name attributes :: rest =>
    if name = "script" then some ⟨attributes, contents rest⟩ else none
  | _ => none

/-- The script elements of tokens in their order. -/
def scriptElements (tokens : List Token) : List ScriptElement :=
  tokens.tails.filterMap scriptElement?

/-- Whether no script element begins inside another. -/
def scriptsApart : List Token → Bool
  | [] => true
  | token :: rest =>
    (!token.startsScript || (beforeEnd rest).all (!·.startsScript)) && scriptsApart rest

/-- Whether a script element with these attributes holds JavaScript itself. -/
structure IsInline (attributes : List Attribute) : Prop where
  unsourced : ∀ item ∈ attributes, item.name ≠ "src"
  typed : ∀ item ∈ attributes, item.name = "type" → Text.isBlankText item.value ∨
    Text.Mentions "javascript" item.value ∨ Text.Mentions "ecmascript" item.value

theorem isInlineScript_iff {attributes : List Attribute} :
    isInlineScript attributes ↔ IsInline attributes := by
  have allows (item : Attribute) : item.allowsInlineScript ↔ item.name ≠ "src" ∧
      (item.name = "type" → Text.isBlankText item.value ∨
        Text.Mentions "javascript" item.value ∨ Text.Mentions "ecmascript" item.value) := by
    rw [Attribute.allowsInlineScript]
    split
    next source => simp [source]
    next other =>
      split
      next type =>
        simp [type, isScriptType, Text.isBlankText_toLowerAscii,
          Text.occursIn_toLowerAscii_iff, or_assoc]
      next untyped => simp [other, untyped]
  rw [isInlineScript, List.all_eq_true]
  constructor
  · intro all
    exact ⟨fun item member => ((allows item).mp (all item member)).1,
      fun item member => ((allows item).mp (all item member)).2⟩
  · rintro ⟨unsourced, typed⟩ item member
    exact (allows item).mpr ⟨unsourced item member, typed item member⟩

instance (attributes : List Attribute) : Decidable (IsInline attributes) :=
  decidable_of_iff _ isInlineScript_iff

/-- The blocks of script elements: the contents of those that hold JavaScript themselves, without
white space at the ends, unless nothing is left. -/
def blocksOf (elements : List ScriptElement) : List String :=
  ((elements.filter (IsInline ·.attributes)).map fun element =>
    Text.trim (String.ofList element.contents)).filter (· ≠ "")

theorem blocksOf_append (first second : List ScriptElement) :
    blocksOf (first ++ second) = blocksOf first ++ blocksOf second := by
  simp only [blocksOf, List.filter_append, List.map_append]

theorem blockOf_eq (text : List Char) :
    blockOf text = [Text.trim (String.ofList text)].filter (· ≠ "") := by
  rw [Text.trim, Text.trimBy, String.toList_ofList, blockOf]
  cases Text.trimList Text.isBlank text with
  | nil => rfl
  | cons c rest => simp

theorem blocksOf_singleton (element : ScriptElement) : blocksOf [element] =
    if IsInline element.attributes then blockOf element.contents else [] := by
  rw [blockOf_eq, blocksOf]
  by_cases inside : IsInline element.attributes
  · simp [inside]
  · simp [inside]

/-! ### One step of the collection -/

/-- What is being collected behind a token. -/
def collecting (current : Option (List Char)) : Token → Option (List Char)
  | .startTag name attributes =>
    if name = "script" then if isInlineScript attributes then some [] else none else current
  | .endTag name => if name = "script" then none else current
  | .characters text => current.map (· ++ text)
  | .other => current
  | .endOfFile => none

/-- The block that a token completes, if there is one. -/
def completed (current : Option (List Char)) (token : Token) : List String :=
  if token.endsScript then (current.map blockOf).getD [] else []

theorem collect_cons (current : Option (List Char)) (token : Token) (rest : List Token) :
    collect current (token :: rest) =
      completed current token ++ collect (collecting current token) rest := by
  cases token with
  | startTag name attributes =>
    rw [collect]
    by_cases script : name = "script"
    · simp [script, completed, collecting, Token.endsScript]
    · simp [script, completed, collecting, Token.endsScript]
  | endTag name =>
    rw [collect]
    by_cases script : name = "script"
    · simp [script, completed, collecting, Token.endsScript]
    · simp [script, completed, collecting, Token.endsScript]
  | characters text => rfl
  | other => rfl
  | endOfFile => rfl

theorem collecting_script (current : Option (List Char)) (attributes : List Attribute) :
    collecting current (.startTag "script" attributes) =
      if isInlineScript attributes then some [] else none := by
  rw [collecting, if_pos rfl]

theorem collecting_of_plain {token : Token} (plain : token.startsScript = false)
    (inside : token.endsScript = false) (current : Option (List Char)) :
    collecting current token = current.map (· ++ token.text) := by
  cases token with
  | startTag name attributes =>
    have other : name ≠ "script" := of_decide_eq_false plain
    simp [collecting, other, Token.text]
  | endTag name =>
    have other : name ≠ "script" := of_decide_eq_false inside
    simp [collecting, other, Token.text]
  | characters text => rfl
  | other => simp [collecting, Token.text]
  | endOfFile => cases inside

theorem collecting_of_end {token : Token} (ends : token.endsScript)
    (current : Option (List Char)) : collecting current token = none := by
  cases token with
  | endTag name => exact if_pos (of_decide_eq_true ends)
  | endOfFile => rfl
  | startTag | characters | other => cases ends

theorem exists_of_startsScript {token : Token} (starts : token.startsScript) :
    ∃ attributes, token = .startTag "script" attributes := by
  cases token with
  | startTag name attributes =>
    obtain rfl : name = "script" := of_decide_eq_true starts
    exact ⟨attributes, rfl⟩
  | endTag | characters | other | endOfFile => cases starts

/-! ### A run of the collection -/

/-- A run goes on with what its front has left in the cell. -/
theorem collect_append (front rest : List Token) (current : Option (List Char)) :
    collect current (front ++ rest) =
      collect current front ++ collect (front.foldl collecting current) rest := by
  induction front generalizing current with
  | nil => rfl
  | cons token front ih =>
    rw [List.cons_append, collect_cons, ih, collect_cons, List.append_assoc, List.foldl_cons]

theorem scriptElements_cons (token : Token) (rest : List Token) :
    scriptElements (token :: rest) =
      (scriptElement? (token :: rest)).toList ++ scriptElements rest := by
  rw [scriptElements, List.tails_cons, List.filterMap_cons]
  cases scriptElement? (token :: rest) <;> rfl

theorem scriptElement?_script (attributes : List Attribute) (rest : List Token) :
    scriptElement? (.startTag "script" attributes :: rest) = some ⟨attributes, contents rest⟩ := by
  rw [scriptElement?, if_pos rfl]

theorem scriptElement?_of_plain {token : Token} (plain : token.startsScript = false)
    (rest : List Token) : scriptElement? (token :: rest) = none := by
  cases token with
  | startTag name attributes => exact if_neg (of_decide_eq_false plain)
  | endTag | characters | other | endOfFile => rfl

theorem beforeEnd_cons {token : Token} (inside : token.endsScript = false) (rest : List Token) :
    beforeEnd (token :: rest) = token :: beforeEnd rest := by
  simp [beforeEnd, inside]

theorem contents_cons_of_end {token : Token} (ends : token.endsScript) (rest : List Token) :
    contents (token :: rest) = [] := by
  simp [contents, beforeEnd, ends]

theorem contents_cons {token : Token} (inside : token.endsScript = false) (rest : List Token) :
    contents (token :: rest) = token.text ++ contents rest := by
  simp [contents, beforeEnd, inside]

/-- What is being collected becomes a block with the contents that follow, and the blocks behind it
are those of the elements. -/
theorem collect_eq_blocksOf (tokens : List Token) (current : Option (List Char))
    (apart : scriptsApart (tokens ++ [.endOfFile]))
    (fresh : current.isSome → ∀ token ∈ beforeEnd (tokens ++ [.endOfFile]),
      token.startsScript = false) :
    collect current (tokens ++ [.endOfFile]) =
      (current.map fun text => blockOf (text ++ contents (tokens ++ [.endOfFile]))).getD [] ++
        blocksOf (scriptElements (tokens ++ [.endOfFile])) := by
  induction tokens generalizing current with
  | nil =>
    cases current with
    | none => rfl
    | some text =>
      have ended : contents [.endOfFile] = [] := contents_cons_of_end rfl []
      simp [collect_cons, completed, Token.endsScript, collect, ended, scriptElements,
        scriptElement?, blocksOf]
  | cons token tokens ih =>
    rw [List.cons_append] at apart fresh ⊢
    rw [scriptsApart, Bool.and_eq_true] at apart
    obtain ⟨first, apart⟩ := apart
    rw [collect_cons, scriptElements_cons, blocksOf_append]
    by_cases starts : token.startsScript
    · obtain ⟨attributes, rfl⟩ := exists_of_startsScript starts
      -- Nothing is being collected here, since no script element begins inside another.
      have nothing : current = none := by
        cases current with
        | none => rfl
        | some text =>
          have other := fresh rfl (.startTag "script" attributes) List.mem_cons_self
          cases other.symm.trans starts
      have separate : ∀ token ∈ beforeEnd (tokens ++ [.endOfFile]), token.startsScript = false := by
        simpa [Token.startsScript] using first
      rw [nothing, scriptElement?_script, Option.toList_some, blocksOf_singleton, collecting_script,
        ih _ apart fun _ => separate]
      by_cases inside : IsInline attributes
      · rw [if_pos inside, if_pos (isInlineScript_iff.mpr inside)]
        rfl
      · rw [if_neg inside, if_neg (inside ∘ isInlineScript_iff.mp)]
        rfl
    · have plain : token.startsScript = false := by simpa using starts
      rw [scriptElement?_of_plain plain]
      by_cases ends : token.endsScript
      · rw [collecting_of_end ends, contents_cons_of_end ends, ih none apart (by simp)]
        cases current with
        | none => simp [completed, ends, blocksOf]
        | some text => simp [completed, ends, blocksOf]
      · have inside : token.endsScript = false := by simpa using ends
        have separate : current.isSome → ∀ token ∈ beforeEnd (tokens ++ [.endOfFile]),
            token.startsScript = false := by
          intro collects later member
          apply fresh collects later
          rw [beforeEnd_cons inside]
          exact List.mem_cons_of_mem token member
        rw [collecting_of_plain plain inside, contents_cons inside,
          ih _ apart (by simpa using separate)]
        cases current with
        | none => simp [completed, inside, blocksOf]
        | some text => simp [completed, inside, blocksOf]

/-! ### What does not matter to the blocks -/

/-- Whether two tokens are the same but for the order of attributes. -/
inductive Token.Reordered : Token → Token → Prop where
  | startTag (name : String) {first second : List Attribute} (perm : first.Perm second) :
    Reordered (.startTag name first) (.startTag name second)
  | same (token : Token) : Reordered token token

theorem Token.Reordered.collecting_eq {first second : Token} (reordered : first.Reordered second)
    (current : Option (List Char)) : collecting current first = collecting current second := by
  cases reordered with
  | startTag name perm =>
    have agree : isInlineScript _ = isInlineScript _ := perm.all_eq
    rw [collecting, collecting, agree]
  | same => rfl

theorem Token.Reordered.completed_eq {first second : Token} (reordered : first.Reordered second)
    (current : Option (List Char)) : completed current first = completed current second := by
  cases reordered with
  | startTag => rfl
  | same => rfl

theorem collect_of_reordered {first second : List Token}
    (reordered : List.Forall₂ Token.Reordered first second) (current : Option (List Char)) :
    collect current first = collect current second := by
  induction reordered generalizing current with
  | nil => rfl
  | cons head _ ih => rw [collect_cons, collect_cons, head.completed_eq, head.collecting_eq, ih]

/-- Whether tokens end inside a script element that holds JavaScript itself. -/
def EndsInline (tokens : List Token) : Prop :=
  ∃ before attributes inside, tokens = before ++ .startTag "script" attributes :: inside ∧
    IsInline attributes ∧ ∀ token ∈ inside, token.endsScript = false

theorem EndsInline.concat {tokens : List Token} (inline : EndsInline tokens) {token : Token}
    (inside : token.endsScript = false) : EndsInline (tokens ++ [token]) := by
  obtain ⟨before, attributes, tail, rfl, accepted, unended⟩ := inline
  refine ⟨before, attributes, tail ++ [token], by simp, accepted, ?_⟩
  intro one member
  rcases List.mem_append.mp member with earlier | last
  · exact unended one earlier
  · rw [List.mem_singleton.mp last]
    exact inside

/-- Nothing is collected outside of such an element. -/
theorem foldl_collecting {tokens : List Token} (outside : ¬ EndsInline tokens) :
    tokens.foldl collecting none = none := by
  induction tokens using List.reverseRecOn with
  | nil => rfl
  | append_singleton tokens token ih =>
    rw [List.foldl_append, List.foldl_cons, List.foldl_nil]
    by_cases starts : token.startsScript
    · obtain ⟨attributes, rfl⟩ := exists_of_startsScript starts
      rw [collecting_script, if_neg]
      intro accepted
      exact outside ⟨tokens, attributes, [], rfl, isInlineScript_iff.mp accepted, by simp⟩
    · by_cases ends : token.endsScript
      · exact collecting_of_end ends _
      · have plain : token.startsScript = false := by simpa using starts
        have inside : token.endsScript = false := by simpa using ends
        rw [collecting_of_plain plain inside, ih fun inline => outside (inline.concat inside)]
        rfl

/-- Text outside of such an element does not matter. -/
theorem collect_none_of_outside {front : List Token} (outside : ¬ EndsInline front)
    (text : List Char) (rest : List Token) :
    collect none (front ++ .characters text :: rest) = collect none front ++ collect none rest := by
  rw [collect_append, foldl_collecting outside, collect_cons]
  rfl

/-- Blocks are lost and made up nowhere: those of tokens in which no script element begins inside
another are the contents of the elements that hold JavaScript themselves. The order of attributes
does not matter, nor does the text outside of these elements. -/
theorem collect_of_scriptsApart {tokens : List Token}
    (apart : scriptsApart (tokens ++ [.endOfFile])) :
    collect none (tokens ++ [.endOfFile]) = blocksOf (scriptElements (tokens ++ [.endOfFile])) ∧
      (∀ reordered, List.Forall₂ Token.Reordered tokens reordered →
        collect none (reordered ++ [.endOfFile]) = collect none (tokens ++ [.endOfFile])) ∧
      ∀ front text rest, tokens = front ++ .characters text :: rest → ¬ EndsInline front →
        ∀ other, collect none (front ++ .characters other :: rest ++ [.endOfFile]) =
          collect none (tokens ++ [.endOfFile]) := by
  refine ⟨?_, ?_, ?_⟩
  · have blocks := collect_eq_blocksOf tokens none apart (by simp)
    rwa [Option.map_none, Option.getD_none, List.nil_append] at blocks
  · intro reordered related
    have whole := List.rel_append related (.cons (.same .endOfFile) .nil)
    exact (collect_of_reordered whole none).symm
  · rintro front text rest rfl outside other
    simp only [List.append_assoc, List.cons_append, collect_none_of_outside outside]

theorem collect_of_scriptsApart_twoScripts :
    let tokens : List Token := [.startTag "script" [⟨"src", "a.js"⟩], .characters ['a'],
      .endTag "script", .characters ['b'],
      .startTag "script" [⟨"id", "x"⟩, ⟨"type", "text/JavaScript"⟩], .characters [' ', 'c'], .other,
      .characters ['d', '\n'], .endTag "script"]
    scriptsApart (tokens ++ [.endOfFile]) ∧ collect none (tokens ++ [.endOfFile]) = ["cd"] := by
  intro tokens
  have apart : scriptsApart (tokens ++ [.endOfFile]) := by decide
  refine ⟨apart, (collect_of_scriptsApart apart).1.trans ?_⟩
  decide

/-! ### The tokens of a page -/

/-- Whether tokens may be those of a page: they end, and no script element begins inside another. -/
structure IsPage (tokens : List Token) : Prop where
  ends : ∃ front, tokens = front ++ [.endOfFile]
  apart : scriptsApart tokens

theorem IsPage.cons {token : Token} {rest : List Token} (page : IsPage rest)
    (separate : token.startsScript → ∀ later ∈ beforeEnd rest, later.startsScript = false) :
    IsPage (token :: rest) := by
  obtain ⟨⟨front, rfl⟩, apart⟩ := page
  refine ⟨⟨token :: front, rfl⟩, ?_⟩
  rw [scriptsApart, apart, Bool.and_true]
  cases starts : token.startsScript with
  | false => rfl
  | true =>
    rw [Bool.not_true, Bool.false_or, List.all_eq_true]
    intro later member
    rw [separate starts later member]
    rfl

theorem IsPage.cons_plain {token : Token} {rest : List Token} (page : IsPage rest)
    (plain : token.startsScript = false) : IsPage (token :: rest) :=
  page.cons fun starts => absurd (plain.symm.trans starts) Bool.false_ne_true

theorem IsPage.append_plain {rest : List Token} (page : IsPage rest) {first : List Token}
    (plain : ∀ token ∈ first, token.startsScript = false) : IsPage (first ++ rest) := by
  induction first with
  | nil => exact page
  | cons token first ih =>
    have later := ih fun one member => plain one (List.mem_cons_of_mem token member)
    exact later.cons_plain (plain token List.mem_cons_self)

theorem isPage_end : IsPage [.endOfFile] := ⟨⟨[], rfl⟩, rfl⟩

theorem isPage_scriptTokens {fuel : Nat} (outside : ∀ chars, IsPage (tokensOf fuel chars))
    (attributes : List Attribute) (chars : List Char) :
    IsPage (.startTag "script" attributes :: tokensOf.scriptTokens fuel chars) := by
  fun_cases tokensOf.scriptTokens fuel chars with
  | case1 text =>
    refine (isPage_end.cons_plain rfl).cons fun _ => ?_
    simp [beforeEnd, Token.endsScript, Token.startsScript]
  | case2 text _ _ _ after =>
    refine (((outside after).cons_plain rfl).cons_plain rfl).cons fun _ => ?_
    simp [beforeEnd, Token.endsScript, Token.startsScript, scriptName]
  | case3 text =>
    refine (isPage_end.cons_plain rfl).cons fun _ => ?_
    simp [beforeEnd, Token.endsScript, Token.startsScript]

theorem isPage_tokensOf (fuel : Nat) (chars : List Char) : IsPage (tokensOf fuel chars) := by
  induction fuel generalizing chars with
  | zero =>
    rw [tokensOf]
    exact isPage_end
  | succ fuel ih =>
    obtain ⟨read, step, same⟩ := exists_begins chars
    rw [same]
    cases step with
    | ended => exact isPage_end
    | page first after _ _ plain => exact (ih after).append_plain plain
    | script attributes after => exact isPage_scriptTokens ih attributes after

/-- The blocks of a page are those of its script elements. -/
theorem inlineScripts_eq (page : String) :
    inlineScripts page = blocksOf (scriptElements (tokens page)) := by
  obtain ⟨⟨front, read⟩, apart⟩ : IsPage (tokens page) := isPage_tokensOf _ _
  rw [read] at apart
  have blocks := collect_eq_blocksOf front none apart (by simp)
  rwa [Option.map_none, Option.getD_none, List.nil_append, ← read] at blocks

end Html

end Fingerprint
