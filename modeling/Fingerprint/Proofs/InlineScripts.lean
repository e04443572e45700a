import Fingerprint.Html.InlineScripts
import Fingerprint.Proofs.Text

/-!
The inline scripts of a page hold nothing but characters of the page.

Whatever a step over the page reads, what is left behind it is an end of the page, and the contents
of a script are the characters in front of that. So all the blocks, one behind the other, are
characters of the page in their order, except that line ends are unified and U+FFFD stands for
U+0000.
-/

set_option autoImplicit false

namespace Fingerprint

namespace Html

/-- What the page's reader makes of a character of a script. -/
def filled (c : Char) : Char := if c = '\x00' then '\uFFFD' else c

/-! ### What is left of a page -/

theorem afterCommentBody_suffix (chars : List Char) : afterCommentBody chars <:+ chars := by
  fun_induction afterCommentBody chars with
  | case1 => exact List.suffix_refl _
  | case2 rest => exact List.suffix_append ['-', '-', '>'] rest
  | case3 rest => exact List.suffix_append ['-', '-', '!', '>'] rest
  | case4 c rest _ _ ih => exact ih.trans (List.suffix_cons c rest)

theorem afterComment_suffix (chars : List Char) : afterComment chars <:+ chars := by
  unfold afterComment
  split
  next rest => exact List.suffix_cons _ rest
  next rest => exact List.suffix_append ['-', '>'] rest
  next => exact afterCommentBody_suffix chars

theorem afterMark_suffix (chars : List Char) : afterMark chars <:+ chars := by
  fun_induction afterMark chars with
  | case1 => exact List.suffix_refl _
  | case2 rest => exact List.suffix_cons _ rest
  | case3 c rest _ ih => exact ih.trans (List.suffix_cons c rest)

theorem quotedValue_suffix {quote : Char} {rest after : List Char} {value : String}
    (read : (match rest.dropWhile (· ≠ quote) with
      | [] => none
      | _ :: after => some (attributeValue (rest.takeWhile (· ≠ quote)), after)) =
        some (value, after)) : after <:+ rest := by
  have dropped : rest.dropWhile (· ≠ quote) <:+ rest := List.dropWhile_suffix _
  split at read
  next => cases read
  next mark behind closed =>
    cases read
    rw [closed] at dropped
    exact (List.suffix_cons mark _).trans dropped

theorem readValue_suffix {chars after : List Char} {value : String}
    (read : readValue chars = some (value, after)) : after <:+ chars := by
  have spaces : chars.dropWhile isTagSpace <:+ chars := List.dropWhile_suffix isTagSpace
  rw [readValue] at read
  split at read
  next => cases read
  next rest opened =>
    rw [opened] at spaces
    exact (quotedValue_suffix read).trans ((List.suffix_cons _ _).trans spaces)
  next rest opened =>
    rw [opened] at spaces
    exact (quotedValue_suffix read).trans ((List.suffix_cons _ _).trans spaces)
  next =>
    cases read
    exact (List.dropWhile_suffix _).trans spaces

theorem readAttributes_suffix {fuel : Nat} {attributes found : List Attribute}
    {chars after : List Char} (read : readAttributes fuel attributes chars = some (found, after)) :
    after <:+ chars := by
  induction fuel generalizing attributes chars with
  | zero => cases read
  | succ fuel ih =>
    cases chars with
    | nil => cases read
    | cons c rest =>
      rw [readAttributes] at read
      split at read
      next =>
        cases read
        exact List.suffix_cons c after
      next =>
        split at read
        next => exact (ih read).trans (List.suffix_cons c rest)
        next =>
          -- Behind a name stand spaces, and then perhaps an equals sign with a value.
          let within (c : Char) : Bool := !(endsTagName c || c = '=')
          have behind : rest.dropWhile within <:+ rest := List.dropWhile_suffix within
          have spaces : (rest.dropWhile within).dropWhile isTagSpace <:+ rest :=
            (List.dropWhile_suffix isTagSpace).trans behind
          dsimp only at read
          refine List.IsSuffix.trans ?_ (List.suffix_cons c rest)
          split at read
          next afterMark opened =>
            rw [opened] at spaces
            split at read
            next => cases read
            next value left valued =>
              have mark : afterMark <:+ rest := (List.suffix_cons _ afterMark).trans spaces
              exact (ih read).trans ((readValue_suffix valued).trans mark)
          next => exact (ih read).trans behind

theorem readTag_suffix {chars after : List Char} {name : String} {attributes : List Attribute}
    (read : readTag chars = some (name, attributes, after)) : after <:+ chars := by
  rw [readTag, Option.map_eq_some_iff] at read
  obtain ⟨⟨found, left⟩, tagged, same⟩ := read
  cases same
  exact (readAttributes_suffix tagged).trans (List.dropWhile_suffix _)

/-! ### The contents of scripts -/

/-- What is read of a script from a character on: the script ends there, at the name of an end tag,
or the character is part of it. -/
inductive ReadsFrom (c : Char) (rest : List Char) : List Char × Option (List Char) → Prop where
  | ended (name : List Char) (tag : rest = '/' :: name) : ReadsFrom c rest ([], some (name.drop 6))
  | character (mode : ScriptMode) (dashes : Nat) :
    ReadsFrom c rest (filled c :: (readScript mode dashes rest).1, (readScript mode dashes rest).2)

theorem readsFrom (mode : ScriptMode) (dashes : Nat) (c : Char) (rest : List Char) :
    ReadsFrom c rest (readScript mode dashes (c :: rest)) := by
  unfold readScript
  cases mode with
  | plain =>
    dsimp only
    split
    next name =>
      split
      next => exact .ended name rfl
      next => exact .character _ _
    next => exact .character _ _
    next => exact .character _ _
  | escaped =>
    dsimp only
    split
    next => exact .character _ _
    next => exact .character _ _
    next name =>
      split
      next => exact .ended name rfl
      next => exact .character _ _
    next => exact .character _ _
    next => exact .character _ _
  | doubleEscaped =>
    dsimp only
    split <;> exact .character _ _

/-- The contents of a script and what is left behind them are characters of the page in their
order. -/
theorem readScript_sublist (mode : ScriptMode) (dashes : Nat) (chars : List Char) :
    ((readScript mode dashes chars).1 ++
      ((readScript mode dashes chars).2.getD []).map filled).Sublist (chars.map filled) := by
  induction chars generalizing mode dashes with
  | nil => exact List.Sublist.refl _
  | cons c rest ih =>
    have step := readsFrom mode dashes c rest
    generalize readScript mode dashes (c :: rest) = read at step ⊢
    cases step with
    | ended name tag =>
      have behind : name.drop 6 <:+ c :: '/' :: name :=
        (List.drop_suffix 6 name).trans (List.suffix_append [c, '/'] name)
      rw [tag]
      exact behind.sublist.map filled
    | character mode dashes => exact (ih mode dashes).cons_cons (filled c)

/-! ### The tokens of a page -/

/-- Whether a tag opens a script element. -/
def Token.startsScript : Token → Bool
  | .startTag name _ => name = "script"
  | _ => false

/-- The name of a script tag is that of a script in any case. -/
theorem map_toLower_of_nameOf {chars : List Char} (script : (nameOf chars).toList = scriptName) :
    chars.map Char.toLower = scriptName := by
  rw [nameOf, String.toList_ofList] at script
  rw [← script]
  apply List.map_congr_left
  intro c member
  have inName : (if c = '\x00' then '\uFFFD' else c.toLower) ∈ scriptName := by
    rw [← script]
    exact List.mem_map_of_mem member
  split
  next null =>
    rw [if_pos null] at inName
    exact absurd inName (by decide)
  next => rfl

/-- What the tokens of a page begin with. -/
inductive Begins (chars : List Char) : (Nat → List Token) → Prop where
  /-- The page ends, perhaps inside a tag. -/
  | ended : Begins chars fun _ => [.endOfFile]
  | page (first : List Token) (after : List Char)
    (rest : after <:+ chars) (shorter : after.length < chars.length)
    (plain : ∀ token ∈ first, token.startsScript = false) :
    Begins chars fun fuel => first ++ tokensOf fuel after
  | script (attributes : List Attribute) (after : List Char)
    (rest : after <:+ chars) (shorter : after.length < chars.length)
    (tag : '<' :: scriptName <+: chars.map Char.toLower) :
    Begins chars fun fuel => .startTag "script" attributes :: tokensOf.scriptTokens fuel after

theorem Begins.of_eq {chars : List Char} {read other : Nat → List Token}
    (begins : Begins chars read) (same : ∀ fuel, other fuel = read fuel) : Begins chars other :=
  funext same ▸ begins

/-- A token behind which less of the page is left. -/
theorem Begins.of_token {c : Char} {rest after : List Char} {read : Nat → List Token}
    (token : Token) (plain : token.startsScript = false) (suffix : after <:+ rest)
    (same : ∀ fuel, read fuel = token :: tokensOf fuel after) : Begins (c :: rest) read := by
  have shorter : after.length < (c :: rest).length := Nat.lt_succ_of_le suffix.length_le
  refine .of_eq (.page [token] after (suffix.trans (List.suffix_cons c rest)) shorter ?_) same
  intro one member
  rw [List.mem_singleton.mp member]
  exact plain

theorem tokensOf_nil (fuel : Nat) : tokensOf fuel [] = [.endOfFile] := by
  cases fuel <;> rw [tokensOf]

theorem tokensOf_text {c : Char} (other : c ≠ '<') (rest : List Char) :
    ∃ text, ∀ fuel, tokensOf (fuel + 1) (c :: rest) =
      .characters text :: tokensOf fuel (rest.dropWhile (· ≠ '<')) := by
  have dropped : (c :: rest).dropWhile (· ≠ '<') = rest.dropWhile (· ≠ '<') :=
    List.dropWhile_cons_of_pos (decide_eq_true other)
  let text := (c :: rest).takeWhile (· ≠ '<')
  refine ⟨resolveReferences false text.length text, fun fuel => ?_⟩
  rw [tokensOf, dropped]
  · exact List.cons_ne_nil c rest
  · exact fun rest same => other (List.head_eq_of_cons_eq same)

theorem startsScript_startTag {name : String} (attributes : List Attribute)
    (other : ¬ name.toList = scriptName) :
    (Token.startTag name attributes).startsScript = false := by
  rw [Token.startsScript, decide_eq_false_iff_not]
  exact fun same => other (same ▸ rfl)

theorem tag_of_readTag {chars after : List Char} {attributes : List Attribute}
    (read : readTag chars = some ("script", attributes, after)) :
    '<' :: scriptName <+: ('<' :: chars).map Char.toLower := by
  rw [readTag, Option.map_eq_some_iff] at read
  obtain ⟨⟨_, _⟩, _, same⟩ := read
  have name : nameOf (chars.takeWhile (!endsTagName ·)) = "script" := congrArg Prod.fst same
  rw [← map_toLower_of_nameOf (congrArg String.toList name)]
  exact List.prefix_cons_inj '<' |>.mpr ((List.takeWhile_prefix _).map _)

/-- The step of the tokenizer. -/
theorem exists_begins (chars : List Char) :
    ∃ read, Begins chars read ∧ ∀ fuel, tokensOf (fuel + 1) chars = read fuel := by
  suffices step : ∀ bound, 0 < bound → Begins chars fun fuel => tokensOf (fuel + 1) chars from
    ⟨_, step 1 Nat.one_pos, fun _ => rfl⟩
  intro bound positive
  -- The cases are those of the tokenizer: comments, other marks, end tags, start tags and text.
  fun_cases tokensOf bound chars with
  | case1 => cases positive
  | case2 => exact .of_eq .ended fun fuel => tokensOf_nil _
  | case3 _ body =>
    have behind := (afterComment_suffix body).trans (List.suffix_append ['!', '-', '-'] body)
    exact .of_token .other rfl behind fun fuel => by simp [tokensOf]
  | case4 _ body =>
    have behind := (afterMark_suffix body).trans (List.suffix_cons '!' body)
    exact .of_token .other rfl behind fun fuel => by simp [tokensOf]
  | case5 _ body =>
    have behind := (afterMark_suffix body).trans (List.suffix_cons '?' body)
    exact .of_token .other rfl behind fun fuel => by simp [tokensOf]
  | case6 _ after =>
    have behind : after <:+ '<' :: '/' :: '>' :: after := List.suffix_append ['<', '/', '>'] after
    have shorter : after.length < ('<' :: '/' :: '>' :: after).length := by
      simp only [List.length_cons]
      omega
    exact .of_eq (.page [] after behind shorter (List.forall_mem_nil _))
      fun fuel => by simp [tokensOf]
  | case7 _ c body _ letter name _ after read =>
    have behind := (readTag_suffix read).trans (List.suffix_cons '/' (c :: body))
    exact .of_token (.endTag name) rfl behind fun fuel => by simp [tokensOf, letter, read]
  | case8 _ c body _ letter read =>
    exact .of_eq .ended fun fuel => by simp [tokensOf, letter, read]
  | case9 _ c body _ letter =>
    have behind := (afterMark_suffix (c :: body)).trans (List.suffix_cons '/' (c :: body))
    exact .of_token .other rfl behind fun fuel => by simp [tokensOf, letter]
  | case10 _ c body _ _ _ _ _ letter read =>
    exact .of_eq .ended fun fuel => by simp [tokensOf, letter, read]
  | case11 _ c body _ _ _ _ _ letter name attributes after read script =>
    have behind := (readTag_suffix read).trans (List.suffix_cons '<' (c :: body))
    have shorter : after.length < ('<' :: c :: body).length :=
      Nat.lt_of_le_of_lt (readTag_suffix read).length_le (Nat.lt_succ_self _)
    obtain rfl : name = "script" := String.toList_injective script
    exact .of_eq (.script attributes after behind shorter (tag_of_readTag read))
      fun fuel => by simp [tokensOf, letter, read, script]
  | case12 _ c body _ _ _ _ _ letter name attributes after read other =>
    have plain := startsScript_startTag attributes other
    exact .of_token (.startTag name attributes) plain (readTag_suffix read)
      fun fuel => by simp [tokensOf, letter, read, other]
  | case13 _ c body _ _ _ _ _ letter =>
    exact .of_token (.characters ['<']) rfl (List.suffix_refl (c :: body))
      fun fuel => by simp [tokensOf, letter]
  | case14 =>
    exact .of_token (.characters ['<']) rfl List.nil_suffix
      fun fuel => by simp [tokensOf, tokensOf_nil]
  | case15 _ chars notEmpty notMark text =>
    cases chars with
    | nil => exact absurd rfl notEmpty
    | cons c rest =>
      have other : c ≠ '<' := fun mark => notMark rest (mark ▸ rfl)
      have behind : rest.dropWhile (· ≠ '<') <:+ rest := List.dropWhile_suffix _
      obtain ⟨text, same⟩ := tokensOf_text other rest
      exact .of_token (.characters text) rfl behind same

/-! ### Blocks -/

theorem blockOf_sublist (text : List Char) :
    ((blockOf text).flatMap String.toList).Sublist text := by
  unfold blockOf
  dsimp only
  split
  next => exact List.nil_sublist text
  next =>
    rw [List.flatMap_singleton, String.toList_ofList]
    exact Text.trimList_sublist Text.isBlank text

theorem collect_characters_endOfFile (current : Option (List Char)) (text : List Char) :
    collect current [.characters text, .endOfFile] =
      ((current.map (· ++ text)).map blockOf).getD [] :=
  List.append_nil _

theorem collect_characters_endTag (current : Option (List Char)) (text : List Char)
    (rest : List Token) :
    collect current (.characters text :: .endTag (String.ofList scriptName) :: rest) =
      ((current.map (· ++ text)).map blockOf).getD [] ++ collect none rest := rfl

theorem block_sublist {current : Option (List Char)} (fresh : current.getD [] = [])
    (text : List Char) :
    ((((current.map (· ++ text)).map blockOf).getD []).flatMap String.toList).Sublist text := by
  cases current with
  | none => exact List.nil_sublist text
  | some collected =>
    obtain rfl : collected = [] := fresh
    exact blockOf_sublist text

theorem collect_none_of_plain {token : Token} (plain : token.startsScript = false)
    (rest : List Token) : collect none (token :: rest) = collect none rest := by
  cases token with
  | startTag name attributes =>
    rw [Token.startsScript, decide_eq_false_iff_not] at plain
    rw [collect, if_neg plain]
  | endTag name =>
    rw [collect]
    split <;> rfl
  | characters | other | endOfFile => rfl

theorem collect_none_append {first : List Token}
    (plain : ∀ token ∈ first, token.startsScript = false) (rest : List Token) :
    collect none (first ++ rest) = collect none rest := by
  induction first with
  | nil => rfl
  | cons token others ih =>
    rw [List.cons_append, collect_none_of_plain (plain token List.mem_cons_self)]
    exact ih fun later member => plain later (List.mem_cons_of_mem token member)

theorem collect_script (attributes : List Attribute) (rest : List Token) :
    collect none (.startTag "script" attributes :: rest) =
      collect (if isInlineScript attributes then some [] else none) rest := by
  rw [collect, if_pos rfl]

/-- What the collection of a page comes to behind its first token: nothing, or what is collected
from there on, in a script perhaps. -/
inductive CollectsFrom (fuel : Nat) (chars : List Char) : List String → Prop where
  | ended : CollectsFrom fuel chars []
  | page (after : List Char) (rest : after <:+ chars) :
    CollectsFrom fuel chars (collect none (tokensOf fuel after))
  | script (after : List Char) (rest : after <:+ chars) (current : Option (List Char))
    (fresh : current.getD [] = []) :
    CollectsFrom fuel chars (collect current (tokensOf.scriptTokens fuel after))

theorem collectsFrom (fuel : Nat) (chars : List Char) :
    CollectsFrom fuel chars (collect none (tokensOf (fuel + 1) chars)) := by
  obtain ⟨read, step, same⟩ := exists_begins chars
  rw [same]
  cases step with
  | ended => exact .ended
  | page first after rest _ plain =>
    rw [collect_none_append plain]
    exact .page after rest
  | script attributes after rest =>
    rw [collect_script]
    refine .script after rest _ ?_
    split <;> rfl

theorem collect_scriptTokens {current : Option (List Char)} (fresh : current.getD [] = [])
    {fuel : Nat} (outside : ∀ chars,
      ((collect none (tokensOf fuel chars)).flatMap String.toList).Sublist (chars.map filled))
    (chars : List Char) :
    ((collect current (tokensOf.scriptTokens fuel chars)).flatMap String.toList).Sublist
      (chars.map filled) := by
  have read := readScript_sublist .plain 0 chars
  fun_cases tokensOf.scriptTokens fuel chars with
  | case1 text ends =>
    rw [ends, Option.getD_none, List.map_nil, List.append_nil] at read
    rw [collect_characters_endOfFile]
    exact (block_sublist fresh text).trans read
  | case2 text behind ends _ after left =>
    rw [ends, Option.getD_some] at read
    rw [collect_characters_endTag, List.flatMap_append]
    have rest := (outside after).trans ((readAttributes_suffix left).sublist.map filled)
    exact ((block_sublist fresh text).append rest).trans read
  | case3 text behind ends =>
    rw [ends] at read
    rw [collect_characters_endOfFile]
    exact (block_sublist fresh text).trans ((List.sublist_append_left text _).trans read)

/-- The blocks of a page are characters of the page in their order. -/
theorem collect_sublist (fuel : Nat) (chars : List Char) :
    ((collect none (tokensOf fuel chars)).flatMap String.toList).Sublist (chars.map filled) := by
  induction fuel generalizing chars with
  | zero =>
    rw [tokensOf]
    exact List.nil_sublist _
  | succ fuel ih =>
    have step := collectsFrom fuel chars
    generalize collect none (tokensOf (fuel + 1) chars) = blocks at step ⊢
    cases step with
    | ended => exact List.nil_sublist _
    | page after rest => exact (ih after).trans (rest.sublist.map filled)
    | script after rest current fresh =>
      exact (collect_scriptTokens fresh ih after).trans (rest.sublist.map filled)

/-- What is left of a character of a page in a script: line ends are unified, and U+FFFD stands for
U+0000. -/
def rewritten (c : Char) : Char := filled (if c = '\r' then '\n' else c)

theorem unifyLines_sublist (chars : List Char) :
    (unifyLines chars).Sublist (chars.map fun c => if c = '\r' then '\n' else c) := by
  fun_induction unifyLines chars with
  | case1 rest ih => exact (ih.cons _).cons_cons _
  | case2 rest _ ih => exact ih.cons_cons _
  | case3 c rest _ other ih =>
    have kept : (if c = '\r' then '\n' else c) = c := if_neg other
    rw [List.map_cons, kept]
    exact ih.cons_cons c
  | case4 => exact List.Sublist.refl _

theorem skipByteOrderMark_suffix (chars : List Char) : skipByteOrderMark chars <:+ chars := by
  unfold skipByteOrderMark
  split
  next rest => exact List.suffix_cons _ rest
  next => exact List.suffix_refl chars

/-- The inline scripts of a page, one behind the other, are characters of the page in their
order. -/
theorem inlineScripts_sublist (page : String) :
    ((inlineScripts page).flatMap String.toList).Sublist (page.toList.map rewritten) := by
  have lines := (unifyLines_sublist (skipByteOrderMark page.toList)).trans
    ((skipByteOrderMark_suffix page.toList).sublist.map _)
  have read := lines.map filled
  rw [List.map_map] at read
  exact (collect_sublist _ _).trans read

theorem not_isBlankText_of_mem_blockOf {text : List Char} {block : String}
    (isBlock : block ∈ blockOf text) : ¬ Text.isBlankText block := by
  unfold blockOf at isBlock
  dsimp only at isBlock
  split at isBlock
  next => cases isBlock
  next inhabited =>
    rw [List.isEmpty_iff] at inhabited
    obtain rfl := List.mem_singleton.mp isBlock
    rw [Text.isBlankText, String.toList_ofList, List.all_eq_true]
    exact fun blank => Text.head_trimList Text.isBlank inhabited (blank _ (List.head_mem inhabited))

theorem not_isBlankText_of_mem_collect {current : Option (List Char)} {tokens : List Token}
    {block : String} (collected : block ∈ collect current tokens) :
    ¬ Text.isBlankText block := by
  have atEnd {current : Option (List Char)} (isBlock : block ∈ (current.map blockOf).getD []) :
      ¬ Text.isBlankText block := by
    cases current with
    | none => cases isBlock
    | some text => exact not_isBlankText_of_mem_blockOf isBlock
  fun_induction collect current tokens with
  | case1 => cases collected
  | case2 _ _ _ ih | case3 _ _ _ _ _ ih | case5 _ _ _ _ ih | case6 _ _ _ ih | case7 _ _ ih =>
    exact ih collected
  | case4 _ _ ih | case8 _ _ ih =>
    obtain ended | later := List.mem_append.mp collected
    · exact atEnd ended
    · exact ih later

end Html

end Fingerprint
