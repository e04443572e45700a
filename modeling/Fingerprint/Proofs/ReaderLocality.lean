import Fingerprint.MessagePack.Decode

/-!
Readers of MessagePack take values one after the other.

A reader that takes a value does not look at what follows the value. So it takes nothing from bytes
that break off inside a value.
-/

set_option autoImplicit false

namespace Fingerprint.MessagePack

section

variable {α β : Type}

/-- Whether a reader takes a value without a look at what follows it. -/
structure Local (reader : Reader α) : Prop where
  append : ∀ {bytes : List UInt8} {value : α} {rest : List UInt8},
    reader bytes = some (value, rest) → ∀ more, reader (bytes ++ more) = some (value, rest ++ more)

/-- Whether a reader takes a value from all bytes that begin with these, and leaves what follows
them. -/
def Takes (reader : Reader α) (bytes : List UInt8) (value : α) : Prop :=
  ∀ rest, reader (bytes ++ rest) = some (value, rest)

theorem Local.pure (value : α) : Local fun bytes => some (value, bytes) := by
  refine ⟨fun found more => ?_⟩
  cases found
  rfl

theorem Local.bind {reader : Reader α} {next : α → Reader β} (first : Local reader)
    (second : ∀ value, Local (next value)) :
    Local fun bytes => (reader bytes).bind fun taken => next taken.1 taken.2 := by
  refine ⟨fun found more => ?_⟩
  obtain ⟨⟨head, behind⟩, taken, continued⟩ := Option.bind_eq_some_iff.mp found
  simp only [first.append taken more, Option.bind_some]
  exact (second head).append continued more

theorem Local.map {reader : Reader α} (make : α → β) (first : Local reader) :
    Local fun bytes => (reader bytes).map fun taken => (make taken.1, taken.2) := by
  refine ⟨fun found more => ?_⟩
  obtain ⟨⟨head, behind⟩, taken, made⟩ := Option.map_eq_some_iff.mp found
  cases made
  simp only [first.append taken more, Option.map_some]

theorem local_readNumber (start count : Nat) : Local (readNumber start count) := by
  induction count generalizing start with
  | zero => exact Local.pure start
  | succ count ih =>
    refine ⟨fun {bytes value rest} found more => ?_⟩
    cases bytes with
    | nil => cases found
    | cons byte bytes => exact (ih (start * 256 + byte.toNat)).append found more

theorem local_withLength {read : Nat → Reader α} (count : Nat)
    (next : ∀ length, Local (read length)) : Local (withLength count read) :=
  (local_readNumber 0 count).bind next

end

theorem local_readBytes (count : Nat) : Local (readBytes count) := by
  induction count with
  | zero => exact Local.pure []
  | succ count ih =>
    refine ⟨fun {bytes value rest} found more => ?_⟩
    cases bytes with
    | nil => cases found
    | cons byte bytes =>
      have tail := ih.bind fun tail => Local.pure (byte :: tail)
      exact tail.append found more

theorem local_readText (count : Nat) : Local (readText count) :=
  (local_readBytes count).bind fun bytes => Local.pure (textOfBytes bytes)

theorem local_readBinary (count : Nat) : Local (readBinary count) :=
  (local_readBytes count).bind fun bytes => Local.pure (Data.bytes bytes)

theorem local_readExtension (count : Nat) : Local (readExtension count) :=
  (local_readBytes (count + 1)).bind fun _ => Local.pure Data.unreadable

section

variable {read : Reader Data} (parts : Local read)

include parts

theorem local_readItems (count : Nat) : Local (readItems read count) := by
  induction count with
  | zero => exact Local.pure []
  | succ count ih => exact parts.bind fun item => ih.bind fun items => Local.pure (item :: items)

theorem local_readEntries (count : Nat) : Local (readEntries read count) := by
  induction count with
  | zero => exact Local.pure []
  | succ count ih =>
    exact parts.bind fun key => parts.bind fun value => ih.bind fun entries =>
      Local.pure ((key, value) :: entries)

theorem local_readList (count : Nat) : Local (readList read count) :=
  (local_readItems parts count).bind fun items => Local.pure (Data.list items)

theorem local_readRecord (count : Nat) : Local (readRecord read count) :=
  (local_readEntries parts count).bind fun entries => Local.pure (Data.record entries)

theorem local_composed {marker : Nat} {reader : Reader Data}
    (found : composed? read marker = some reader) : Local reader := by
  unfold composed? at found
  split at found
  · exact Option.some.inj found ▸ local_readRecord parts _
  · split at found
    · exact Option.some.inj found ▸ local_readList parts _
    · split at found
      · exact Option.some.inj found ▸ local_withLength 2 (local_readList parts)
      · exact Option.some.inj found ▸ local_withLength 4 (local_readList parts)
      · exact Option.some.inj found ▸ local_withLength 2 (local_readRecord parts)
      · exact Option.some.inj found ▸ local_withLength 4 (local_readRecord parts)
      · cases found

end

theorem local_readScalar (marker : Nat) : Local (readScalar marker) := by
  refine ⟨fun {bytes value rest} found more => ?_⟩
  unfold readScalar at found ⊢
  split at found
  next small =>
    rw [if_pos small]
    exact (Local.pure _).append found more
  next large =>
    rw [if_neg large]
    split at found
    next text =>
      rw [if_pos text]
      exact (local_readText _).append found more
    next other =>
      rw [if_neg other]
      split at found
      next negative =>
        rw [if_pos negative]
        exact (Local.pure _).append found more
      next coded =>
        rw [if_neg coded]
        dsimp only at found ⊢
        -- One case per marker; each is one of the readers above.
        split at found
        all_goals first
          | exact (Local.pure _).append found more
          | exact (local_withLength _ local_readText).append found more
          | exact (local_withLength _ local_readBinary).append found more
          | exact (local_withLength _ local_readExtension).append found more
          | exact ((local_readNumber 0 _).map _).append found more
          | exact ((local_readNumber 0 8).map fun bits => Data.float (.ofNat bits)).append
              found more
          | exact (local_readExtension _).append found more
          | cases found

theorem local_read (depth : Nat) : Local (read depth) := by
  induction depth with
  | zero =>
    refine ⟨fun {bytes value rest} found more => ?_⟩
    cases bytes <;> cases found
  | succ depth ih =>
    refine ⟨fun {bytes value rest} found more => ?_⟩
    cases bytes with
    | nil => cases found
    | cons marker bytes =>
      rw [List.cons_append]
      simp only [read] at found ⊢
      split at found
      next reader composed =>
        split at found
        · cases found
        next nested =>
          rw [if_neg nested]
          exact (local_composed ih composed).append found more
      next scalar => exact (local_readScalar marker.toNat).append found more

/-! ### The bytes of a value -/

section

variable {α β : Type} {reader : Reader α} {front : List UInt8} {value : α}

theorem Takes.map (make : α → β) (taken : Takes reader front value) :
    Takes (fun bytes => (reader bytes).bind fun taken => some (make taken.1, taken.2)) front
      (make value) := by
  intro rest
  simp only [taken rest, Option.bind_some]

/-- What begins with a header is read by the reader for which the header stands. -/
theorem Takes.headed {body : Reader α} {header : List UInt8} (taken : Takes body front value)
    (stands : ∀ bytes, reader (header ++ bytes) = body bytes) :
    Takes reader (header ++ front) value := by
  intro rest
  rw [List.append_assoc, stands, taken]

/-- A value that a reader takes from bytes is not taken from fewer of them. -/
theorem Takes.truncated (taken : Takes reader front value) (confined : Local reader) {cut : Nat}
    (short : cut < front.length) : reader (front.take cut) = none := by
  cases found : reader (front.take cut) with
  | none => rfl
  | some result =>
    -- Then the missing bytes would stay behind when all bytes are read.
    have extended := confined.append found (front.drop cut)
    have complete := taken []
    rw [List.take_append_drop] at extended
    rw [List.append_nil, extended] at complete
    have behind : result.2 ++ front.drop cut = [] := (Prod.ext_iff.mp (Option.some.inj complete)).2
    have missing : front.drop cut = [] := (List.append_eq_nil_iff.mp behind).2
    exact absurd (List.drop_eq_nil_iff.mp missing) (Nat.not_le.mpr short)

end

end Fingerprint.MessagePack
