import Fingerprint.Proofs.ProbeOutcome
import Fingerprint.Script.Engine

/-!
How the engine for scripts of pages turns the value of a version into a text.

It calls whatever the global name `String` refers to by then. While that is the function of the
language, a text is its own version, and numbers and truth values have the texts that the language
gives them. A page that assigns the name decides itself what the versions are.

The texts are made of units. A character outside the basic plane takes a pair of surrogates, and no
other character takes one, so the units of a text are read back as its characters.
-/

set_option autoImplicit false

/-! ### Texts that were made of characters -/

namespace Fingerprint.Script.Units

/-- The units of a character. -/
def charUnits (c : Char) : List UInt16 := (pushChar #[] c).toList

theorem toList_pushChar (units : Array UInt16) (c : Char) :
    (pushChar units c).toList = units.toList ++ charUnits c := by
  unfold charUnits pushChar
  dsimp only
  split
  · rw [Array.toList_push, Array.toList_push]
    rfl
  · rw [Array.toList_push, Array.toList_push, Array.toList_push, Array.toList_push,
      List.append_assoc]
    rfl

theorem toList_foldl_pushChar (units : Array UInt16) (chars : List Char) :
    (chars.foldl pushChar units).toList = units.toList ++ chars.flatMap charUnits := by
  induction chars generalizing units with
  | nil => rw [List.foldl_nil, List.flatMap_nil, List.append_nil]
  | cons c rest ih =>
    rw [List.foldl_cons, ih, toList_pushChar, List.flatMap_cons, List.append_assoc]

theorem codesOfList_cons {unit : UInt16} (single : ¬ isHigh unit) (rest : List UInt16) :
    codesOfList (unit :: rest) = unit.toNat :: codesOfList rest := by
  cases rest with
  | nil => rfl
  | cons next rest =>
    simp only [codesOfList, single, Bool.false_and, Bool.false_eq_true, ↓reduceIte]

theorem codesOfList_pair {first second : UInt16} (isPair : isHigh first && isLow second)
    (rest : List UInt16) :
    codesOfList (first :: second :: rest) = joinPair first second :: codesOfList rest := by
  simp only [codesOfList, isPair, ↓reduceIte]

theorem charUnits_of_lt {c : Char} (basic : c.toNat < 0x10000) :
    charUnits c = [c.toNat.toUInt16] := by
  simp only [charUnits, pushChar, if_pos basic]
  rfl

/-- The units of a character outside the basic plane, by their numbers. -/
theorem charUnits_of_not_lt {c : Char} (supplementary : ¬ c.toNat < 0x10000) :
    ∃ high low, charUnits c = [high, low] ∧
      high.toNat = 0xD800 + (c.toNat - 0x10000) / 0x400 ∧
      low.toNat = 0xDC00 + (c.toNat - 0x10000) % 0x400 := by
  have valid : c.toNat < 0xD800 ∨ 0xDFFF < c.toNat ∧ c.toNat < 0x110000 := c.valid
  simp only [charUnits, pushChar, if_neg supplementary]
  exact ⟨_, _, rfl, UInt16.toNat_ofNat_of_lt (show _ < 65536 by omega),
    UInt16.toNat_ofNat_of_lt (show _ < 65536 by omega)⟩

theorem isHigh_iff {unit : UInt16} : isHigh unit ↔ 0xD800 ≤ unit.toNat ∧ unit.toNat ≤ 0xDBFF := by
  simp only [isHigh, Bool.and_eq_true, decide_eq_true_eq, UInt16.le_iff_toNat_le]
  rfl

theorem isLow_iff {unit : UInt16} : isLow unit ↔ 0xDC00 ≤ unit.toNat ∧ unit.toNat ≤ 0xDFFF := by
  simp only [isLow, Bool.and_eq_true, decide_eq_true_eq, UInt16.le_iff_toNat_le]
  rfl

/-- A character is read back from its units, whatever follows. -/
theorem codesOfList_charUnits (c : Char) (rest : List UInt16) :
    codesOfList (charUnits c ++ rest) = c.toNat :: codesOfList rest := by
  have valid : c.toNat < 0xD800 ∨ 0xDFFF < c.toNat ∧ c.toNat < 0x110000 := c.valid
  by_cases basic : c.toNat < 0x10000
  · have same : c.toNat.toUInt16.toNat = c.toNat := UInt16.toNat_ofNat_of_lt basic
    have single : ¬ isHigh c.toNat.toUInt16 := by
      rw [isHigh_iff, same]
      omega
    rw [charUnits_of_lt basic, List.singleton_append, codesOfList_cons single, same]
  · obtain ⟨high, low, units, isHigher, isLower⟩ := charUnits_of_not_lt basic
    have isPair : isHigh high && isLow low := by
      rw [Bool.and_eq_true, isHigh_iff, isLow_iff, isHigher, isLower]
      omega
    have joined : joinPair high low = c.toNat := by
      unfold joinPair
      omega
    rw [units, List.cons_append, List.singleton_append, codesOfList_pair isPair, joined]

theorem codesOfList_flatMap (chars : List Char) :
    codesOfList (chars.flatMap charUnits) = chars.map Char.toNat := by
  induction chars with
  | nil => rfl
  | cons c rest ih => rw [List.flatMap_cons, codesOfList_charUnits, ih, List.map_cons]

/-- A text of a script that was made of characters spells out these characters. -/
@[simp] theorem toString?_ofString (text : String) : (ofString text).toString? = some text := by
  have codes : (ofString text).codes = text.toList.map Char.toNat := by
    rw [codes, ofString, toList_foldl_pushChar]
    exact codesOfList_flatMap text.toList
  have paired : ¬ (text.toList.map Char.toNat).any isSurrogate := by
    simp only [List.any_map, List.any_eq_true, Function.comp_apply, not_exists, not_and]
    intro c _ lone
    have valid : c.toNat < 0xD800 ∨ 0xDFFF < c.toNat ∧ c.toNat < 0x110000 := c.valid
    simp only [isSurrogate, Bool.and_eq_true, decide_eq_true_eq] at lone
    omega
  have back : (text.toList.map Char.toNat).map Char.ofNat = text.toList := by
    rw [List.map_map]
    exact (List.map_congr_left fun c _ => Char.ofNat_toNat c).trans (List.map_id' _)
  rw [toString?, codes, if_neg paired, back, String.ofList_toList]

end Fingerprint.Script.Units

namespace Fingerprint

namespace Script

/-- The text that the language has for a text, a number or a truth value. A text in which a surrogate
stands alone has none. -/
def Value.plainText? : Value → Option String
  | .text units => units.toString?
  | .number value => some (Number.text value)
  | .bool value => some (if value then "true" else "false")
  | _ => none

/-! ### The machine -/

namespace Machine

def objectAt (machine : Machine) (ref : Ref) : Object := machine.objects[ref]?.getD default

/-- What the global name for the conversion refers to. -/
def converter? (machine : Machine) : Option Value :=
  let global := machine.objectAt Intrinsic.global.ref
  match global.kind, global.properties.get? "String" with
  | .ordinary, some ⟨.data value _, _, _⟩ => some value
  | _, _ => none

/-- Whether the global name for the conversion refers to the function of the language. -/
def keepsConverter (machine : Machine) : Bool :=
  match machine.converter? with
  | some (.object ref) =>
    match (machine.objectAt ref).kind with
    | .native native => native = ⟨.text, "String"⟩
    | _ => false
  | _ => false

/-- There is time and stack left for a call of a function of the library. -/
structure HasRoom (machine : Machine) : Prop where
  time : machine.untilCheck = 0 → machine.clock < machine.deadline
  stack : nativeBytes ≤ machine.stack

end Machine

theorem run_bind_of_ok {α β : Type} {first : M α} {next : α → M β} {machine after : Machine}
    {value : α} (ran : first.run machine = .ok value after) :
    (first >>= next).run machine = (next value).run after := by
  change EStateM.bind first next machine = (next value).run after
  change first machine = .ok value after at ran
  rw [EStateM.bind, ran]
  rfl

theorem run_bind_of_error {α β : Type} {first : M α} {next : α → M β} {machine after : Machine}
    {abrupt : Abrupt} (failed : first.run machine = .error abrupt after) :
    (first >>= next).run machine = .error abrupt after := by
  change EStateM.bind first next machine = _
  change first machine = .error abrupt after at failed
  rw [EStateM.bind, failed]

theorem getObject_run (ref : Ref) (machine : Machine) :
    (getObject ref).run machine = .ok (machine.objectAt ref) machine := rfl

theorem findProperty_run {machine : Machine} {ref : Ref} {key : Key} {property : Property}
    (depth : Nat) (ordinary : (machine.objectAt ref).kind = .ordinary)
    (has : (machine.objectAt ref).properties.get? key = some property) :
    (findProperty (depth + 1) ref key).run machine = .ok (.property property) machine := by
  have own : (machine.objectAt ref).own? key = some property := by
    unfold Object.own?
    rw [ordinary]
    exact has
  rw [findProperty, run_bind_of_ok (getObject_run ref machine)]
  simp only [ordinary, own]
  rfl

/-- Reading the global name for the conversion changes nothing. -/
theorem getProperty_run (it : Interpreter) {machine : Machine} {function : Value}
    (refers : machine.converter? = some function) :
    (getProperty it Intrinsic.global.ref "String").run machine = .ok function machine := by
  unfold Machine.converter? at refers
  dsimp only at refers
  split at refers
  next ordinary has =>
    cases refers
    have found : (lookup Intrinsic.global.ref "String").run machine = _ :=
      findProperty_run 9999 ordinary has
    rw [getProperty, getFrom, run_bind_of_ok found]
    rfl
  next => cases refers

/-- When the clock is due, the deadline decides. -/
theorem poll_run_of_due {machine : Machine} (due : machine.untilCheck = 0) :
    poll.run machine = if machine.deadline ≤ machine.clock
      then .error .interrupted { machine with untilCheck := checkInterval }
      else .ok () { machine with clock := machine.clock + 1, untilCheck := checkInterval } := by
  have current : (get : M Machine).run machine = .ok machine machine := rfl
  rw [poll, run_bind_of_ok current, due]
  dsimp only
  split <;> rfl

theorem poll_run {machine : Machine}
    (inTime : machine.untilCheck = 0 → machine.clock < machine.deadline) :
    ∃ left clock,
      poll.run machine = .ok () { machine with clock := clock, untilCheck := left } := by
  cases ticks : machine.untilCheck with
  | zero =>
    refine ⟨checkInterval, machine.clock + 1, ?_⟩
    rw [poll_run_of_due ticks, if_neg (Nat.not_le.mpr (inTime ticks))]
  | succ left =>
    refine ⟨left, machine.clock + 1, ?_⟩
    have current : (get : M Machine).run machine = .ok machine machine := rfl
    rw [poll, run_bind_of_ok current, ticks]
    rfl

theorem poll_run_of_late {machine : Machine} (due : machine.untilCheck = 0)
    (late : machine.deadline ≤ machine.clock) :
    poll.run machine = .error .interrupted { machine with untilCheck := checkInterval } := by
  rw [poll_run_of_due due, if_pos late]

theorem throwOverflow_run (machine : Machine) :
    ∃ abrupt after, (throwOverflow : M Value).run machine = .error abrupt after := by
  rw [throwOverflow, throwRange, throwNew]
  cases made : (newError .range
      (Units.cut "Maximum call stack size exceeded" messageBytes)).run machine with
  | ok error after => exact ⟨_, _, run_bind_of_ok made⟩
  | error abrupt after => exact ⟨abrupt, after, run_bind_of_error made⟩

/-- A call of a function of the library that leaves the machine alone. -/
theorem callNative_run (it : Interpreter) {machine : Machine} (function : Ref) {native : Native}
    {call : LibraryCall} {result : Value} (room : machine.HasRoom)
    (ran : ∀ machine,
      (libraryCode it native.library native.name call).run machine = .ok result machine) :
    ∃ after, (callNative it function native call).run machine = .ok result after := by
  obtain ⟨left, clock, polled⟩ := poll_run room.time
  have within : ¬ machine.stack < nativeBytes := Nat.not_lt.mpr room.stack
  rw [callNative, run_bind_of_ok polled, EStateM.run, asCaller]
  dsimp only
  rw [if_neg within]
  change ∀ machine, libraryCode it native.library native.name call machine = _ at ran
  rw [ran]
  exact ⟨_, rfl⟩

theorem callNative_run_of_no_room (it : Interpreter) {machine : Machine} (function : Ref)
    (native : Native) (call : LibraryCall) (noRoom : ¬ machine.HasRoom) :
    ∃ abrupt after, (callNative it function native call).run machine = .error abrupt after := by
  by_cases inTime : machine.untilCheck = 0 → machine.clock < machine.deadline
  · have short : machine.stack < nativeBytes :=
      Nat.not_le.mp fun enough => noRoom ⟨inTime, enough⟩
    obtain ⟨left, clock, polled⟩ := poll_run inTime
    obtain ⟨abrupt, after, thrown⟩ :=
      throwOverflow_run { machine with clock := clock, untilCheck := left }
    refine ⟨abrupt, after, ?_⟩
    rw [callNative, run_bind_of_ok polled, EStateM.run, asCaller]
    dsimp only
    rw [if_pos short]
    exact thrown
  · obtain ⟨due, late⟩ := Classical.not_imp.mp inTime
    have polled := poll_run_of_late due (Nat.not_lt.mp late)
    exact ⟨_, _, run_bind_of_error polled⟩

/-! ### The conversion -/

/-- The function of the language yields the text that the language has for a value. -/
theorem text_run (it : Interpreter) {value : Value} (function : Value)
    (printable : Sandbox.kindOf value = .printable) :
    ∃ units, units.toString? = value.plainText? ∧ ∀ machine,
      (libraryCode it .text "String" ⟨.undefined, #[value], .undefined, function⟩).run machine =
        .ok (.text units) machine := by
  cases value with
  | text units => exact ⟨units, rfl, fun _ => rfl⟩
  | number number =>
    exact ⟨Units.ofString (Number.text number), Units.toString?_ofString _, fun _ => rfl⟩
  | bool truth =>
    cases truth with
    | true => exact ⟨Units.ofString "true", Units.toString?_ofString _, fun _ => rfl⟩
    | false => exact ⟨Units.ofString "false", Units.toString?_ofString _, fun _ => rfl⟩
  | _ => cases printable

namespace Sandbox

/-- A function that a page may have put under the global name makes the text of a value. -/
def Converts (sandbox : Sandbox) (value : Value) (text : String) : Prop :=
  ∃ function looked units after,
    (getProperty sandbox.evaluators Intrinsic.global.ref "String").run sandbox.machine =
      .ok function looked ∧
    (sandbox.evaluators.call function .undefined #[value]).run looked = .ok (.text units) after ∧
    units.toString? = some text

theorem textOf_eq_some_iff (sandbox : Sandbox) (value : Value) (text : String) :
    sandbox.textOf value = some text ↔ sandbox.Converts value text := by
  rw [textOf, Converts]
  cases found : (getProperty sandbox.evaluators Intrinsic.global.ref "String").run
      sandbox.machine with
  | ok function looked =>
    rw [run_bind_of_ok found]
    constructor
    · intro converted
      split at converted
      next units after called => exact ⟨function, looked, units, after, rfl, called, converted⟩
      next => cases converted
    · rintro ⟨_, _, units, after, same, called, spelled⟩
      cases same
      rw [called]
      exact spelled
  | error abrupt looked =>
    rw [run_bind_of_error found]
    refine ⟨nofun, ?_⟩
    rintro ⟨_, _, _, _, same, _⟩
    cases same

theorem converts_iff {sandbox : Sandbox} {function : Value}
    (refers : sandbox.machine.converter? = some function) (value : Value) (text : String) :
    sandbox.Converts value text ↔ ∃ units after,
      (sandbox.evaluators.call function .undefined #[value]).run sandbox.machine =
        .ok (.text units) after ∧ units.toString? = some text := by
  rw [Converts, getProperty_run sandbox.evaluators refers]
  constructor
  · rintro ⟨_, _, units, after, same, called⟩
    cases same
    exact ⟨units, after, called⟩
  · rintro ⟨units, after, called⟩
    exact ⟨function, sandbox.machine, units, after, rfl, called⟩

/-- A function of the library is called, unless the stack is used up. -/
theorem call_native {sandbox : Sandbox} {ref : Ref} {native : Native}
    (isNative : (sandbox.machine.objectAt ref).kind = .native native) (arguments : Array Value) :
    (∃ it, (sandbox.evaluators.call (.object ref) .undefined arguments).run sandbox.machine =
      (callNative it ref native ⟨.undefined, arguments, .undefined, .object ref⟩).run
        sandbox.machine) ∨
    ¬ sandbox.machine.HasRoom ∧
      sandbox.evaluators.call (.object ref) .undefined arguments = throwOverflow := by
  rw [evaluators]
  cases depths : min largestDepth (sandbox.machine.stack / bytesPerDepth) with
  | zero =>
    refine .inr ⟨fun room => ?_, rfl⟩
    have enough : 200 ≤ sandbox.machine.stack := room.stack
    unfold largestDepth bytesPerDepth at depths
    omega
  | succ depth =>
    refine .inl ⟨interpreter depth, ?_⟩
    change (callValue (interpreter depth) (.object ref) .undefined arguments).run _ = _
    rw [callValue, run_bind_of_ok (getObject_run ref sandbox.machine)]
    simp only [isNative]

theorem exists_native_of_keepsConverter {machine : Machine} (kept : machine.keepsConverter) :
    ∃ ref, machine.converter? = some (.object ref) ∧
      (machine.objectAt ref).kind = .native ⟨.text, "String"⟩ := by
  unfold Machine.keepsConverter at kept
  split at kept
  next ref refers =>
    split at kept
    next native isNative =>
      obtain rfl := of_decide_eq_true kept
      exact ⟨ref, refers, isNative⟩
    next => cases kept
  next => cases kept

theorem textOf_of_keepsConverter {sandbox : Sandbox} {value : Value}
    (kept : sandbox.machine.keepsConverter) (room : sandbox.machine.HasRoom)
    (printable : kindOf value = .printable) : sandbox.textOf value = value.plainText? := by
  obtain ⟨ref, refers, isNative⟩ := exists_native_of_keepsConverter kept
  obtain ⟨it, called⟩ | ⟨noRoom, _⟩ := call_native isNative #[value]
  · obtain ⟨units, spelled, ran⟩ := text_run it (.object ref) printable
    obtain ⟨after, ended⟩ : ∃ after, (callNative it ref ⟨.text, "String"⟩
        ⟨.undefined, #[value], .undefined, .object ref⟩).run sandbox.machine =
          .ok (.text units) after := callNative_run it ref room ran
    refine Option.ext fun text => ?_
    rw [textOf_eq_some_iff, converts_iff refers, called, ended, ← spelled]
    constructor
    · rintro ⟨_, _, same, converted⟩
      cases same
      exact converted
    · exact fun converted => ⟨units, after, rfl, converted⟩
  · exact absurd room noRoom

theorem textOf_of_no_room {sandbox : Sandbox} (kept : sandbox.machine.keepsConverter)
    (noRoom : ¬ sandbox.machine.HasRoom) (value : Value) : sandbox.textOf value = none := by
  obtain ⟨ref, refers, isNative⟩ := exists_native_of_keepsConverter kept
  obtain ⟨abrupt, after, failed⟩ : ∃ abrupt after,
      (sandbox.evaluators.call (.object ref) .undefined #[value]).run sandbox.machine =
        .error abrupt after := by
    obtain ⟨it, called⟩ | ⟨_, overflows⟩ := call_native isNative #[value]
    · rw [called]
      exact callNative_run_of_no_room it ref _ _ noRoom
    · rw [overflows]
      exact throwOverflow_run _
  refine Option.eq_none_iff_forall_ne_some.mpr fun text converted => ?_
  rw [textOf_eq_some_iff, converts_iff refers] at converted
  obtain ⟨units, after, called, _⟩ := converted
  rw [failed] at called
  cases called

/-- The text that the value of an expression has in the language itself. There is none if the
expression fails, or if its value is no text, number or truth value. -/
def plainVersion? (sandbox : Sandbox) (expression : String) : Option String :=
  match (sandbox.evaluate expression).1 with
  | .value value => value.plainText?
  | _ => none

end Sandbox

/-- The engine with other sandboxes to begin with. -/
def engineFrom (create : ScriptLimits → Option Sandbox) : ScriptEngine :=
  { engine with create := create }

section

variable {create : ScriptLimits → Option Sandbox} {sandbox : Sandbox} {expression : String}

theorem version_eq_some_iff {text : String} :
    ((engineFrom create).version sandbox expression).1 = some text ↔
      ∃ value left, sandbox.evaluate expression = (.value value, left) ∧
        Sandbox.kindOf value = .printable ∧ left.textOf value = some text :=
  (engineFrom create).version_eq_some_iff

/-- The function of the language gives the versions that the language has. -/
theorem version_of_keepsConverter
    (kept : (sandbox.evaluate expression).2.machine.keepsConverter)
    (room : (sandbox.evaluate expression).2.machine.HasRoom) :
    ((engineFrom create).version sandbox expression).1 = sandbox.plainVersion? expression := by
  refine Option.ext fun text => version_eq_some_iff.trans ?_
  rw [Sandbox.plainVersion?]
  generalize sandbox.evaluate expression = evaluation at kept room ⊢
  obtain ⟨completion, left⟩ := evaluation
  have converted {value : Value} (printable : Sandbox.kindOf value = .printable) :
      left.textOf value = value.plainText? := Sandbox.textOf_of_keepsConverter kept room printable
  constructor
  · rintro ⟨value, _, same, printable, printed⟩
    cases same
    rwa [converted printable] at printed
  · intro plain
    cases completion with
    | value value =>
      have printable : Sandbox.kindOf value = .printable := by
        cases value with
        | text _ | number _ | bool _ => rfl
        | _ => cases plain
      refine ⟨value, left, rfl, printable, ?_⟩
      rwa [converted printable]
    | thrown _ | interrupted _ => cases plain

/-- Without time or stack for the function of the language there is no version. -/
theorem version_of_no_room (kept : (sandbox.evaluate expression).2.machine.keepsConverter)
    (noRoom : ¬ (sandbox.evaluate expression).2.machine.HasRoom) :
    ((engineFrom create).version sandbox expression).1 = none := by
  refine Option.eq_none_iff_forall_ne_some.mpr fun text printed => ?_
  obtain ⟨value, left, ended, _, converted⟩ := version_eq_some_iff.mp printed
  rw [ended] at kept noRoom
  rw [Sandbox.textOf_of_no_room kept noRoom] at converted
  cases converted

end

end Script

namespace ScriptProbe

open Script (Sandbox engineFrom)

variable {probe : ScriptProbe} {create : ScriptLimits → Option Sandbox} {blocks : List String}
  {matchers : List Plugin.ScriptMatcher} {state : Sandbox}

/-- The version of the matcher that is the outcome is read off the sandbox that the blocks and the
checks leave behind. It is the text that the language has for the value if the global name for the
conversion still refers to the function of the language, and there is none if this function has no
room left. In general it is what a function makes of the value that a page may have chosen. -/
theorem version_by_converter (begins : probe.Begins (engineFrom create) blocks matchers state)
    {place : Nat} {version : Option String}
    (matched : probe.probe (engineFrom create) blocks matchers = .ok (.matched place version)) :
    ∃ matcher, matchers[place]? = some matcher ∧
      let before : Sandbox := (engineFrom create).stateAt
        ((engineFrom create).after state blocks) (matchers.map (·.check)) (place + 1)
      let left := (before.evaluate matcher.version).2
      (left.machine.keepsConverter →
        (left.machine.HasRoom → version = before.plainVersion? matcher.version) ∧
        (¬ left.machine.HasRoom → version = none)) ∧
      ∀ text, version = some text ↔ ∃ value,
        (before.evaluate matcher.version).1 = .value value ∧
        Sandbox.kindOf value = .printable ∧ left.Converts value text := by
  obtain ⟨_, matcher, found, rfl⟩ := appliesFirst_of_matched begins matched
  refine ⟨matcher, found, fun kept => ⟨fun room => ?_, fun noRoom => ?_⟩, fun text => ?_⟩
  · exact Script.version_of_keepsConverter kept room
  · exact Script.version_of_no_room kept noRoom
  · refine Script.version_eq_some_iff.trans ?_
    simp only [Sandbox.textOf_eq_some_iff]
    constructor
    · rintro ⟨value, left, ended, printable, converted⟩
      rw [ended]
      exact ⟨value, rfl, printable, converted⟩
    · rintro ⟨value, isValue, printable, converted⟩
      exact ⟨value, _, Prod.ext isValue rfl, printable, converted⟩

end ScriptProbe

/-! ### A page with nothing but the conversion -/

namespace SmallPage

open Script (Sandbox engineFrom bareMachine PropertyTable)

/-- A sandbox whose only global name is that of the conversion. -/
def sandbox : Sandbox where
  machine := { bareMachine with
    objects := #[
      ⟨none, .ordinary, PropertyTable.empty.set "String" (.unlisted (.object 1)), true⟩,
      ⟨none, .native ⟨.text, "String"⟩, .empty, true⟩]
    stack := 524288
    deadline := 3000000 }

def engine : ScriptEngine := engineFrom fun _ => some sandbox

/-- The sandbox with its `window`. -/
def state : Sandbox := sandbox.seed.toOption.getD sandbox

theorem seeded : sandbox.seed = .ok state := by
  have seeds : sandbox.seed.isOk := by decide +kernel
  rw [state]
  cases ended : sandbox.seed with
  | ok state => rfl
  | error text =>
    rw [ended] at seeds
    cases seeds

/-- A block that assigns the global name for the conversion. -/
def assignment : String := "String = function () \x7b return '9' \x7d"

/-- The sandbox once a block and a check are evaluated. -/
def reached (block check : String) : Sandbox :=
  engine.stateAt (engine.after state [block]) [check] 1

theorem begins (block check version : String) (short : ScriptProbe.totalBytes [block] ≤ 524288) :
    ScriptProbe.standard.Begins engine [block] [⟨check, version⟩] state where
  asked := List.cons_ne_nil _ _
  short := short
  reachable := by decide
  sandbox := ⟨sandbox, rfl, seeded⟩

theorem probe_of_toOption {block check version : String} {outcome : ProbeOutcome}
    (ends : (ScriptProbe.standard.probe engine [block] [⟨check, version⟩]).toOption =
      some outcome) :
    ScriptProbe.standard.probe engine [block] [⟨check, version⟩] = .ok outcome := by
  cases probed : ScriptProbe.standard.probe engine [block] [⟨check, version⟩] with
  | ok other =>
    rw [probed] at ends
    exact congrArg Except.ok (Option.some.inj ends)
  | error text =>
    rw [probed] at ends
    cases ends

end SmallPage

open SmallPage in
/-- A page that assigns another global name does not touch the version. -/
theorem ScriptProbe.version_by_converter_kept :
    ScriptProbe.standard.Begins engine ["var Number = 1"] [⟨"Number", "'1.0'"⟩] state ∧
      ScriptProbe.standard.probe engine ["var Number = 1"] [⟨"Number", "'1.0'"⟩] =
        .ok (.matched 0 (some "1.0")) ∧
      (reached "var Number = 1" "Number").plainVersion? "'1.0'" = some "1.0" := by
  have begun := begins "var Number = 1" "Number" "'1.0'" (by decide)
  have matched : ScriptProbe.standard.probe engine ["var Number = 1"] [⟨"Number", "'1.0'"⟩] =
      .ok (.matched 0 (some "1.0")) := probe_of_toOption (by decide +kernel)
  obtain ⟨_, found, kept, _⟩ := ScriptProbe.version_by_converter begun matched
  cases found
  have plain := (kept (by decide +kernel)).1 ⟨by decide +kernel, by decide +kernel⟩
  exact ⟨begun, matched, plain.symm⟩

open SmallPage in
/-- A page that assigns the global name for the conversion chooses the version of what it makes
appear. -/
theorem ScriptProbe.version_by_page_function :
    ScriptProbe.standard.Begins engine [assignment] [⟨"1", "'1.0'"⟩] state ∧
      (reached assignment "1").plainVersion? "'1.0'" = some "1.0" ∧
      ScriptProbe.standard.probe engine [assignment] [⟨"1", "'1.0'"⟩] =
        .ok (.matched 0 (some "9")) :=
  ⟨begins _ _ _ (by decide), by decide +kernel, probe_of_toOption (by decide +kernel)⟩

end Fingerprint
