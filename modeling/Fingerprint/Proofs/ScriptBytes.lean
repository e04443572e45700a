import Fingerprint.Proofs.Evidence
import Fingerprint.Proofs.InlineScripts
import Fingerprint.Proofs.ProbeRun
import Fingerprint.Proofs.Text
import Mathlib.Algebra.Order.BigOperators.Group.List

/-!
The length of the scripts of a transaction.

The limit is compared with the length of the body. A block may be longer than the part of the body
that it comes from, as U+FFFD takes three bytes and U+0000, for which it stands, only one. So a
probe, which compares the same limit with the length of the blocks, may still turn them down.
-/

set_option autoImplicit false

namespace Fingerprint

/-! ### Bytes -/

/-- The number of bytes of characters. -/
def bytesOf (chars : List Char) : Nat := (chars.map Char.utf8Size).sum

theorem byteCount_eq_bytesOf (text : String) : Text.byteCount text = bytesOf text.toList := by
  rw [← Text.length_encode, Text.encode, List.length_flatMap, bytesOf]
  simp only [Text.length_encodeChar]

theorem totalBytes_eq_bytesOf (blocks : List String) :
    ScriptProbe.totalBytes blocks = bytesOf (blocks.flatMap String.toList) := by
  induction blocks with
  | nil => rfl
  | cons block rest ih =>
    have split : ScriptProbe.totalBytes (block :: rest) =
        Text.byteCount block + ScriptProbe.totalBytes rest := rfl
    rw [split, ih, byteCount_eq_bytesOf, List.flatMap_cons, bytesOf, bytesOf, bytesOf,
      List.map_append, List.sum_append]

theorem bytesOf_le_of_sublist {chars others : List Char} (sublist : chars.Sublist others) :
    bytesOf chars ≤ bytesOf others :=
  (sublist.map Char.utf8Size).sum_le_sum fun _ _ => Nat.zero_le _

theorem bytesOf_rewritten (chars : List Char) :
    bytesOf (chars.map Html.rewritten) = bytesOf chars + 2 * chars.count '\x00' := by
  induction chars with
  | nil => rfl
  | cons c rest ih =>
    have size : (Html.rewritten c).utf8Size = c.utf8Size + if c = '\x00' then 2 else 0 := by
      rw [Html.rewritten, Html.filled]
      by_cases isReturn : c = '\r'
      · subst isReturn
        rfl
      · rw [if_neg isReturn]
        split
        next isNull =>
          subst isNull
          rfl
        next => rfl
    have first : bytesOf ((c :: rest).map Html.rewritten) =
        (Html.rewritten c).utf8Size + bytesOf (rest.map Html.rewritten) := rfl
    have front : bytesOf (c :: rest) = c.utf8Size + bytesOf rest := rfl
    rw [first, front, size, ih, List.count_cons]
    simp only [beq_iff_eq]
    split <;> omega

namespace Transaction

/-- How often a page holds U+0000, for which its scripts hold a longer character. A response that is
a script itself is left as it is. -/
def nulls (transaction : Transaction) : Nat :=
  match transaction.body with
  | some body => if transaction.isScriptResponse then 0 else body.toList.count '\x00'
  | none => 0

theorem not_isBlankText_of_mem_scriptSources {transaction : Transaction} {maxBytes : Nat}
    {block : String} (source : block ∈ transaction.scriptSources maxBytes) :
    ¬ Text.isBlankText block := by
  rw [scriptSources] at source
  split at source
  next => cases source
  next body _ =>
    split at source
    next => cases source
    next kept =>
      split at source
      next =>
        obtain rfl := List.mem_singleton.mp source
        intro blank
        exact kept (by rw [skipsBody, blank, Bool.true_or])
      next => exact Html.not_isBlankText_of_mem_collect source

/-- The scripts of a transaction are no longer than the limit, unless a page holds U+0000. -/
theorem totalBytes_scriptSources (transaction : Transaction) (maxBytes : Nat) :
    ScriptProbe.totalBytes (transaction.scriptSources maxBytes) ≤
      maxBytes + 2 * transaction.nulls := by
  rw [totalBytes_eq_bytesOf, scriptSources, nulls]
  cases transaction.body with
  | none => exact Nat.zero_le _
  | some body =>
    dsimp only
    split
    next => exact Nat.zero_le _
    next kept =>
      have short : bytesOf body.toList ≤ maxBytes := by
        rw [skipsBody, Bool.or_eq_true, not_or, decide_eq_true_eq, Nat.not_lt,
          byteCount_eq_bytesOf] at kept
        exact kept.2
      split
      next => rwa [List.flatMap_singleton]
      next =>
        have scripts := bytesOf_le_of_sublist (Html.inlineScripts_sublist body)
        rw [bytesOf_rewritten] at scripts
        omega

end Transaction

/-! ### Probes that turn scripts down -/

theorem ScriptEngine.runBlocks_ne_tooLong (engine : ScriptEngine)
    (matchers : List Plugin.ScriptMatcher) (state : engine.State) (blocks : List String)
    (bytes limit : Nat) :
    (engine.runBlocks matchers none state 0 blocks).outcome ≠
      .scriptFailed (.tooLong bytes limit) := by
  rw [engine.runBlocks_outcome]
  cases (engine.evaluations state blocks).findSome? engine.late? with
  | some text => exact nofun
  | none =>
    dsimp only
    by_cases applied : engine.SomeApplies (engine.after state blocks) matchers
    · obtain ⟨index, version, matched⟩ := engine.tryMatchers_of_someApplies
        (((none : Option ScriptFault).or
          (((engine.evaluations state blocks).findSome? (·.1.failure?)).map .failed))) 0 applied
      rw [matched]
      exact nofun
    · rw [engine.tryMatchers_of_not_someApplies applied]
      cases (engine.evaluations state blocks).findSome? (·.1.failure?) with
      | none | some text => exact nofun

theorem ScriptProbe.report_eq_tooLong {probe : ScriptProbe} {engine : ScriptEngine}
    {blocks : List String} {matchers : List Plugin.ScriptMatcher} {report : ProbeReport}
    {bytes limit : Nat} (reported : probe.report engine blocks matchers = .ok report)
    (refused : report.outcome = .scriptFailed (.tooLong bytes limit)) :
    bytes = totalBytes blocks ∧ limit = probe.limits.maxScriptBytes ∧ limit < bytes := by
  obtain nothing | ⟨long, tooLong⟩ | ⟨text, unseeded⟩ | ⟨state, rfl⟩ := report_eq_ok reported
  · cases nothing.symm.trans refused
  · cases tooLong.symm.trans refused
    exact ⟨rfl, rfl, long⟩
  · cases unseeded.symm.trans refused
  · exact absurd refused (engine.runBlocks_ne_tooLong matchers state blocks bytes limit)

/-- The scripts of a transaction are not blank, and no longer than the limit but for the characters
that stand for U+0000. So the probes of a pass turn scripts down as too long only if a page holds
U+0000. -/
theorem Transaction.scriptSources_bytes (transaction : Transaction) (maxBytes : Nat) :
    (∀ block ∈ transaction.scriptSources maxBytes, ¬ Text.isBlankText block) ∧
    ScriptProbe.totalBytes (transaction.scriptSources maxBytes) ≤
      maxBytes + 2 * transaction.nulls ∧
    ∀ (detector : Detector) (engine : ScriptEngine) (plugin : Plugin) (report : ProbeReport)
      (bytes limit : Nat),
      plugin.probe? engine detector.probe (detector.blocks transaction) = .ok (some report) →
      report.outcome = .scriptFailed (.tooLong bytes limit) →
      limit = detector.config.scriptLimits.maxScriptBytes ∧ transaction.nulls ≠ 0 ∧
        limit < bytes ∧ bytes ≤ limit + 2 * transaction.nulls := by
  refine ⟨fun block source => not_isBlankText_of_mem_scriptSources source,
    transaction.totalBytes_scriptSources maxBytes, ?_⟩
  intro detector engine plugin report bytes limit probed refused
  have reported : detector.probe.report engine (detector.blocks transaction)
      plugin.scriptMatchers = .ok report := by
    rw [Plugin.probe?] at probed
    split at probed
    next =>
      cases ended : detector.probe.report engine (detector.blocks transaction)
          plugin.scriptMatchers with
      | error failure =>
        rw [ended] at probed
        cases probed
      | ok other =>
        rw [ended] at probed
        cases probed
        rfl
    next => cases probed
  obtain ⟨rfl, rfl, long⟩ := ScriptProbe.report_eq_tooLong reported refused
  have bounded : ScriptProbe.totalBytes (detector.blocks transaction) ≤
      detector.probe.limits.maxScriptBytes + 2 * transaction.nulls :=
    transaction.totalBytes_scriptSources _
  exact ⟨rfl, by omega, long, bounded⟩

/-! ### A page of U+0000 -/

namespace NullPage

/-- A page of 26 bytes, nine of which are U+0000. -/
def page : String := "<script>\x00\x00\x00\x00\x00\x00\x00\x00\x00</script>"

/-- The script of the page. -/
def script : String := "\uFFFD\uFFFD\uFFFD\uFFFD\uFFFD\uFFFD\uFFFD\uFFFD\uFFFD"

def transaction : Transaction := { Transaction.empty with body := some page }

/-- A detector that reads 26 bytes at most. -/
def detector : Detector := ⟨.empty, { Config.standard with scriptLimits.maxScriptBytes := 26 }⟩

def plugin : Plugin := DigitPage.plugin [⟨"4", "5"⟩]

theorem scripts : transaction.scriptSources 26 = [script] := by
  have kept : Transaction.skipsBody 26 page = false := by cbv
  have isPage : transaction.isScriptResponse = false := by cbv
  have inPage : Html.inlineScripts page = [script] := by cbv
  rw [Transaction.scriptSources]
  change (if Transaction.skipsBody 26 page then [] else _) = _
  rw [kept, isPage, inPage]
  rfl

theorem probe?_eq : plugin.probe? DigitPage.engine detector.probe (detector.blocks transaction) =
    .ok (some ⟨.scriptFailed (.tooLong 27 26), [], false⟩) := by
  have blocks : detector.blocks transaction = [script] := scripts
  rw [blocks]
  decide

end NullPage

open NullPage in
/-- The script of a page that is as long as the limit is longer, and its probe turns it down. -/
theorem Transaction.totalBytes_scriptSources_nullPage :
    transaction.body.map Text.byteCount = some 26 ∧
      ScriptProbe.totalBytes (transaction.scriptSources 26) = 27 ∧
      plugin.probe? DigitPage.engine detector.probe (detector.blocks transaction) =
        .ok (some ⟨.scriptFailed (.tooLong 27 26), [], false⟩) := by
  refine ⟨by decide, ?_, probe?_eq⟩
  rw [scripts]
  decide

open NullPage in
theorem Transaction.scriptSources_bytes_nullPage :
    plugin.probe? DigitPage.engine detector.probe (detector.blocks transaction) =
        .ok (some ⟨.scriptFailed (.tooLong 27 26), [], false⟩) ∧
      27 ≤ 26 + 2 * transaction.nulls := by
  obtain ⟨_, _, probes⟩ := transaction.scriptSources_bytes 26
  obtain ⟨_, _, _, bounded⟩ := probes detector DigitPage.engine plugin _ 27 26 probe?_eq rfl
  exact ⟨probe?_eq, bounded⟩

end Fingerprint
