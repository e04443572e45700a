import Mathlib
import Fingerprint.Proofs.ScriptElements
import Fingerprint.Transaction.Scripts

/-!
Elements whose contents are text.

A browser takes what stands in a title, a text area or a style sheet for text up to the end tag of
the element, and executes none of it. The tokenizer is told so of script elements only, so the tags
of these elements make no difference: what stands between them is read as a page of its own.
-/

set_option autoImplicit false

namespace Fingerprint

namespace Html

/-! ### Fuel -/

theorem readScript_length {chars text behind : List Char}
    (read : readScript .plain 0 chars = (text, some behind)) : behind.length ≤ chars.length := by
  have sublist := (readScript_sublist .plain 0 chars).length_le
  rw [read, Option.getD_some, List.length_append, List.length_map, List.length_map] at sublist
  omega

theorem scriptTokens_eq {fuel more : Nat} {chars : List Char}
    (same : ∀ after : List Char, after.length ≤ chars.length →
      tokensOf fuel after = tokensOf more after) :
    tokensOf.scriptTokens fuel chars = tokensOf.scriptTokens more chars := by
  fun_cases tokensOf.scriptTokens fuel chars with
  | case1 text ends => rw [tokensOf.scriptTokens, ends]
  | case2 text behind ends _ after left =>
    have shorter := (readAttributes_suffix left).length_le.trans (readScript_length ends)
    simp only [tokensOf.scriptTokens, ends, left, same after shorter]
  | case3 text behind ends left => simp only [tokensOf.scriptTokens, ends, left]

/-- More fuel than characters makes no difference. -/
theorem tokensOf_eq {fuel more : Nat} {chars : List Char} (enough : chars.length < fuel)
    (moreThanEnough : chars.length < more) : tokensOf fuel chars = tokensOf more chars := by
  induction fuel generalizing more chars with
  | zero => omega
  | succ fuel ih =>
    obtain ⟨more, rfl⟩ := Nat.exists_eq_succ_of_ne_zero (show more ≠ 0 by omega)
    obtain ⟨read, step, same⟩ := exists_begins chars
    rw [same, same]
    cases step with
    | ended => rfl
    | page first after _ shorter =>
      have same : tokensOf fuel after = tokensOf more after := ih (by omega) (by omega)
      exact congrArg (first ++ ·) same
    | script attributes after _ shorter =>
      have same : tokensOf.scriptTokens fuel after = tokensOf.scriptTokens more after :=
        scriptTokens_eq fun left shorter => ih (by omega) (by omega)
      exact congrArg (Token.startTag "script" attributes :: ·) same

/-! ### Text in front of a page -/

/-- Text in front of the first mark does not matter. -/
theorem collect_dropWhile {fuel : Nat} {chars : List Char} (enough : chars.length < fuel) :
    collect none (tokensOf fuel (chars.dropWhile (· ≠ '<'))) =
      collect none (tokensOf fuel chars) := by
  cases chars with
  | nil => rfl
  | cons c rest =>
    by_cases mark : c = '<'
    · rw [List.dropWhile_cons_of_neg (by simp [mark])]
    · obtain ⟨fuel, rfl⟩ := Nat.exists_eq_succ_of_ne_zero (show fuel ≠ 0 by omega)
      obtain ⟨text, read⟩ := tokensOf_text mark rest
      have shorter : (rest.dropWhile (· ≠ '<')).length < fuel :=
        Nat.lt_of_le_of_lt (List.dropWhile_suffix _).length_le (Nat.lt_of_succ_lt_succ enough)
      have dropped : (c :: rest).dropWhile (· ≠ '<') = rest.dropWhile (· ≠ '<') :=
        List.dropWhile_cons_of_pos (decide_eq_true mark)
      rw [dropped, read fuel, collect_none_of_plain rfl,
        tokensOf_eq (Nat.lt_succ_of_lt shorter) shorter]

theorem unifyLines_append {front : List Char} (unbroken : '\r' ∉ front) (rest : List Char) :
    unifyLines (front ++ rest) = front ++ unifyLines rest := by
  induction front with
  | nil => rfl
  | cons c front ih =>
    rw [List.mem_cons, not_or] at unbroken
    rw [List.cons_append, unifyLines, ih unbroken.2, List.cons_append]
    · exact fun _ same _ => unbroken.1 same.symm
    · exact fun same => unbroken.1 same.symm

/-- A byte order mark is text. -/
theorem collect_skipByteOrderMark {fuel : Nat} {chars : List Char} (enough : chars.length < fuel) :
    collect none (tokensOf fuel (unifyLines (skipByteOrderMark chars))) =
      collect none (tokensOf fuel (unifyLines chars)) := by
  unfold skipByteOrderMark
  split
  next rest =>
    have shorter := (unifyLines_sublist rest).length_le
    rw [List.length_map] at shorter
    rw [List.length_cons] at enough
    have marked : unifyLines ('\uFEFF' :: rest) = '\uFEFF' :: unifyLines rest :=
      @unifyLines_append ['\uFEFF'] (by decide) rest
    have whole : ('\uFEFF' :: unifyLines rest).length < fuel := by
      rw [List.length_cons]
      omega
    rw [marked, ← collect_dropWhile whole, List.dropWhile_cons_of_pos (by decide),
      collect_dropWhile (by omega)]
  next => rfl

/-! ### Elements whose contents are text -/

/-- Elements whose contents a browser takes for text up to their end tags. -/
def textElements : List String := ["textarea", "title", "style"]

theorem cases_of_mem_textElements {element : String} (known : element ∈ textElements) :
    element = "textarea" ∨ element = "title" ∨ element = "style" := by
  simpa only [textElements, List.mem_cons, List.not_mem_nil, or_false] using known

def openingTag (element : String) : String := "<" ++ element ++ ">"

def closingTag (element : String) : String := "</" ++ element ++ ">"

theorem readTag_append {name : List Char} (inside : name.all (!endsTagName ·)) (rest : List Char) :
    readTag (name ++ '>' :: rest) = some (nameOf name, [], rest) := by
  rw [List.all_eq_true] at inside
  have named : (name ++ '>' :: rest).takeWhile (!endsTagName ·) = name := by
    rw [List.takeWhile_append_of_pos inside, List.takeWhile_cons_of_neg (by decide),
      List.append_nil]
  have behind : (name ++ '>' :: rest).dropWhile (!endsTagName ·) = '>' :: rest := by
    rw [List.dropWhile_append_of_pos inside, List.dropWhile_cons_of_neg (by decide)]
  simp only [readTag, named, behind, List.length_cons]
  rw [readAttributes, if_pos rfl]
  rfl

theorem tokensOf_startTag {c : Char} {name : List Char} (letter : c.isAlpha)
    (inside : (c :: name).all (!endsTagName ·)) (other : (nameOf (c :: name)).toList ≠ scriptName)
    (rest : List Char) (fuel : Nat) :
    tokensOf (fuel + 1) ('<' :: (c :: name ++ '>' :: rest)) =
      .startTag (nameOf (c :: name)) [] :: tokensOf fuel rest := by
  have read := readTag_append inside rest
  have noMark : c ≠ '!' ∧ c ≠ '?' ∧ c ≠ '/' := by
    refine ⟨?_, ?_, ?_⟩
    · rintro rfl
      cases letter
    · rintro rfl
      cases letter
    · rintro rfl
      cases letter
  rw [List.cons_append] at read ⊢
  simp [tokensOf, noMark, letter, read, other]

theorem tokensOf_openingTag {element : String} (known : element ∈ textElements)
    (rest : List Char) (fuel : Nat) :
    tokensOf (fuel + 1) ((openingTag element).toList ++ rest) =
      .startTag element [] :: tokensOf fuel rest := by
  rcases cases_of_mem_textElements known with rfl | rfl | rfl
  · exact @tokensOf_startTag 't' "extarea".toList rfl rfl (by decide) rest fuel
  · exact @tokensOf_startTag 't' "itle".toList rfl rfl (by decide) rest fuel
  · exact @tokensOf_startTag 's' "tyle".toList rfl rfl (by decide) rest fuel

theorem unifyLines_openingTag {element : String} (known : element ∈ textElements)
    (rest : String) : unifyLines (skipByteOrderMark (openingTag element ++ rest).toList) =
      (openingTag element).toList ++ unifyLines rest.toList := by
  obtain ⟨tail, marked, unbroken⟩ : ∃ tail, (openingTag element).toList = '<' :: tail ∧
      '\r' ∉ '<' :: tail := by
    rcases cases_of_mem_textElements known with rfl | rfl | rfl
    · exact ⟨_, rfl, by decide⟩
    · exact ⟨_, rfl, by decide⟩
    · exact ⟨_, rfl, by decide⟩
  rw [String.toList_append, marked]
  exact unifyLines_append unbroken rest.toList

/-- The opening tag of such an element does not matter. -/
theorem inlineScripts_openingTag {element : String} (known : element ∈ textElements)
    (rest : String) : inlineScripts (openingTag element ++ rest) = inlineScripts rest := by
  have plain : (Token.startTag element []).startsScript = false := by
    rcases cases_of_mem_textElements known with rfl | rfl | rfl
    · rfl
    · rfl
    · rfl
  have lines := (unifyLines_sublist rest.toList).length_le
  have skipped := (unifyLines_sublist (skipByteOrderMark rest.toList)).length_le
  have marked := (skipByteOrderMark_suffix rest.toList).length_le
  rw [List.length_map] at lines skipped
  let fuel := rest.toList.length + 1
  calc inlineScripts (openingTag element ++ rest)
      = collect none (tokensOf fuel (unifyLines rest.toList)) := by
        simp only [inlineScripts, tokens, unifyLines_openingTag known, tokensOf_openingTag known,
          collect_none_of_plain plain]
        have room : 0 < (openingTag element).toList.length := by simp [openingTag]
        rw [tokensOf_eq (by rw [List.length_append]; omega) (show _ < fuel by omega)]
    _ = collect none (tokensOf fuel (unifyLines (skipByteOrderMark rest.toList))) :=
        (collect_skipByteOrderMark (Nat.lt_succ_self _)).symm
    _ = inlineScripts rest := by
        rw [inlineScripts, tokens, tokensOf_eq (Nat.lt_succ_self _) (show _ < fuel by omega)]

/-! ### Pages that mention no script -/

/-- A page that nowhere mentions the tag of a script opens no script element. -/
theorem plain_of_unmentioned {fuel : Nat} {chars : List Char}
    (unmentioned : ¬ '<' :: scriptName <:+: chars.map Char.toLower) :
    ∀ token ∈ tokensOf fuel chars, token.startsScript = false := by
  induction fuel generalizing chars with
  | zero =>
    rw [tokensOf]
    simp [Token.startsScript]
  | succ fuel ih =>
    obtain ⟨read, step, same⟩ := exists_begins chars
    rw [same]
    cases step with
    | ended => simp [Token.startsScript]
    | page first after rest _ plain =>
      intro token member
      rcases List.mem_append.mp member with early | late
      · exact plain token early
      · exact ih (fun mentioned => unmentioned (mentioned.trans (rest.map _).isInfix)) token late
    | script _ _ _ _ tag => exact absurd tag.isInfix unmentioned

/-- A line feed is in no word, so unified line ends bring no words about. -/
theorem prefix_of_unifyLines {word chars : List Char} (unbroken : '\n' ∉ word)
    (before : word <+: (unifyLines chars).map Char.toLower) : word <+: chars.map Char.toLower := by
  cases word with
  | nil => exact List.nil_prefix
  | cons d word =>
    rw [List.mem_cons, not_or] at unbroken
    fun_induction unifyLines chars generalizing d word with
    | case1 | case2 => exact absurd (List.cons_prefix_cons.mp before).1.symm unbroken.1
    | case3 c rest _ _ ih =>
      obtain ⟨rfl, behind⟩ := List.cons_prefix_cons.mp before
      refine List.cons_prefix_cons.mpr ⟨rfl, ?_⟩
      cases word with
      | nil => exact List.nil_prefix
      | cons d word => exact ih d word (not_or.mp (List.mem_cons.not.mp unbroken.2)) behind
    | case4 => exact before

theorem infix_of_unifyLines {word chars : List Char} (unbroken : '\n' ∉ word)
    (inside : word <:+: (unifyLines chars).map Char.toLower) :
    word <:+: chars.map Char.toLower := by
  have atFront {chars : List Char} (before : word <+: (unifyLines chars).map Char.toLower) :
      word <:+: chars.map Char.toLower := (prefix_of_unifyLines unbroken before).isInfix
  have behind {chars rest : List Char} (suffix : rest <:+ chars)
      (inside : word <:+: rest.map Char.toLower) : word <:+: chars.map Char.toLower :=
    inside.trans (suffix.map _).isInfix
  fun_induction unifyLines chars with
  | case1 rest ih =>
    rcases List.infix_cons_iff.mp inside with before | inside
    · exact @atFront ('\r' :: '\n' :: rest) (by rwa [unifyLines])
    · exact behind (List.suffix_append ['\r', '\n'] rest) (ih inside)
  | case2 rest noBreak ih =>
    rcases List.infix_cons_iff.mp inside with before | inside
    · exact @atFront ('\r' :: rest) (by rwa [unifyLines]; exact noBreak)
    · exact behind (List.suffix_cons '\r' rest) (ih inside)
  | case3 c rest noBreak noReturn ih =>
    rcases List.infix_cons_iff.mp inside with before | inside
    · exact @atFront (c :: rest) (by rwa [unifyLines]; exact noBreak; exact noReturn)
    · exact behind (List.suffix_cons c rest) (ih inside)
  | case4 => exact inside

/-- A page without a mention of the tag of a script has no blocks. -/
theorem inlineScripts_of_unmentioned {page : String}
    (unmentioned : ¬ Text.Mentions "<script" page) : inlineScripts page = [] := by
  have plain : ∀ token ∈ tokens page, token.startsScript = false := by
    apply plain_of_unmentioned
    intro inside
    have mentioned := infix_of_unifyLines (by decide) inside
    exact unmentioned (mentioned.trans ((skipByteOrderMark_suffix page.toList).map _).isInfix)
  have nothing := collect_none_append plain []
  rwa [List.append_nil] at nothing

theorem prefix_of_append {word text tail : List Char} (unmarked : '<' ∉ word)
    (before : word <+: text ++ '<' :: tail) : word <+: text := by
  have both := List.prefix_or_prefix_of_prefix before (List.prefix_append text _)
  rcases both with inside | ⟨more, rfl⟩
  · exact inside
  · cases more with
    | nil => simp
    | cons c more =>
      obtain ⟨rfl, -⟩ := List.cons_prefix_cons.mp ((List.prefix_append_right_inj text).mp before)
      simp at unmarked

/-- The tag of a script does not reach into a closing tag. -/
theorem infix_of_append_closingTag {text tail : List Char} (unmarked : '<' ∉ tail)
    (inside : '<' :: scriptName <:+: text ++ '<' :: '/' :: tail) :
    '<' :: scriptName <:+: text := by
  induction text with
  | nil =>
    rw [List.nil_append, List.infix_cons_iff] at inside
    rcases inside with before | inside
    · cases (List.cons_prefix_cons.mp (List.cons_prefix_cons.mp before).2).1
    · rcases List.mem_cons.mp (inside.subset List.mem_cons_self) with slash | mark
      · cases slash
      · exact absurd mark unmarked
  | cons c text ih =>
    rw [List.cons_append, List.infix_cons_iff] at inside
    rcases inside with before | inside
    · obtain ⟨rfl, behind⟩ := List.cons_prefix_cons.mp before
      have word := @prefix_of_append scriptName _ _ (by decide) behind
      exact (List.cons_prefix_cons.mpr ⟨rfl, word⟩).isInfix
    · exact (ih inside).trans (List.suffix_cons c text).isInfix

/-- What stands in front of a closing tag mentions a script if the whole does. -/
theorem mentions_of_append_closingTag {element : String} (known : element ∈ textElements)
    {text : String} (mentioned : Text.Mentions "<script" (text ++ closingTag element)) :
    Text.Mentions "<script" text := by
  obtain ⟨tail, marked, unmarked⟩ : ∃ tail, (closingTag element).toList.map Char.toLower =
      '<' :: '/' :: tail ∧ '<' ∉ tail := by
    rcases cases_of_mem_textElements known with rfl | rfl | rfl
    · exact ⟨_, rfl, by decide⟩
    · exact ⟨_, rfl, by decide⟩
    · exact ⟨_, rfl, by decide⟩
  rw [Text.Mentions, String.toList_append, List.map_append, marked] at mentioned
  exact infix_of_append_closingTag unmarked mentioned

end Html

namespace Transaction

open Html (textElements openingTag closingTag)

theorem scriptSources_of_page {transaction : Transaction} {body : String}
    (captured : transaction.body = some body) (page : transaction.isScriptResponse = false)
    (maxBytes : Nat) : transaction.scriptSources maxBytes =
      if skipsBody maxBytes body then [] else Html.inlineScripts body := by
  rw [scriptSources, captured]
  simp only [page, Bool.false_eq_true, if_false]

/-- What stands in such an element is read as a page of its own, with the closing tag at its end: the
script elements that the text spells out are collected like any others. Only if the text mentions no
tag of a script is it sure that there are no blocks. -/
theorem scriptSources_of_textElement {element : String} (known : element ∈ textElements)
    {transaction : Transaction} {text : String}
    (body : transaction.body = some (openingTag element ++ text ++ closingTag element))
    (page : transaction.isScriptResponse = false) (maxBytes : Nat) :
    transaction.scriptSources maxBytes =
        (if maxBytes < Text.byteCount (openingTag element ++ text ++ closingTag element) then []
        else Html.blocksOf (Html.scriptElements (Html.tokens (text ++ closingTag element)))) ∧
      (¬ Text.Mentions "<script" text → transaction.scriptSources maxBytes = []) := by
  have shown : Text.isBlankText (openingTag element ++ text ++ closingTag element) = false := by
    simp [Text.isBlankText, openingTag, Text.isBlank]
  have sources : transaction.scriptSources maxBytes =
      if maxBytes < Text.byteCount (openingTag element ++ text ++ closingTag element) then []
      else Html.inlineScripts (text ++ closingTag element) := by
    rw [scriptSources_of_page body page, String.append_assoc, Html.inlineScripts_openingTag known]
    simp only [skipsBody, ← String.append_assoc, shown, Bool.false_or, decide_eq_true_eq]
  refine ⟨?_, fun unmentioned => ?_⟩
  · rw [sources, Html.inlineScripts_eq]
  · have nothing := Html.inlineScripts_of_unmentioned
      (unmentioned ∘ Html.mentions_of_append_closingTag known)
    rw [sources, nothing, ite_self]

theorem scriptSources_of_textElement_style :
    let transaction := empty.withBody (openingTag "style" ++ "p {}" ++ closingTag "style")
    "style" ∈ textElements ∧ transaction.isScriptResponse = false ∧
      ¬ Text.Mentions "<script" "p {}" ∧ transaction.scriptSources 100 = [] := by
  intro transaction
  have known : "style" ∈ textElements := by decide
  have page : transaction.isScriptResponse = false := rfl
  have unmentioned : ¬ Text.Mentions "<script" "p {}" := by decide
  exact ⟨known, page, unmentioned,
    (scriptSources_of_textElement known rfl page 100).2 unmentioned⟩

/-- A title that spells out a script: a browser shows the tags and executes nothing. -/
theorem scriptSources_of_title :
    let transaction := empty.withBody (openingTag "title" ++ "<script>1</script>" ++
      closingTag "title")
    transaction.isScriptResponse = false ∧ ¬ Text.Mentions "</title" "<script>1</script>" ∧
      transaction.scriptSources 100 = ["1"] := by
  intro transaction
  have page : transaction.isScriptResponse = false := rfl
  have kept : skipsBody 100 "<title><script>1</script></title>" = false := by cbv
  have inside : Html.inlineScripts "<title><script>1</script></title>" = ["1"] := by cbv
  refine ⟨page, by decide, ?_⟩
  have captured : transaction.body = some "<title><script>1</script></title>" := rfl
  rw [scriptSources_of_page captured page, kept, inside]
  rfl

end Transaction

end Fingerprint
