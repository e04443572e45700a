/-!
White space at the ends of texts, texts without regard to the case of ASCII letters, texts inside
texts, and the words and the first line of a text.

A blank is a character with the Unicode property `White_Space`.
-/

namespace Fingerprint.Text

/-- Whether a character is white space. -/
def isBlank (c : Char) : Bool :=
  let code := c.toNat
  (0x09 ≤ code && code ≤ 0x0D) || code == 0x20 || code == 0x85 || code == 0xA0 || code == 0x1680 ||
  (0x2000 ≤ code && code ≤ 0x200A) || code == 0x2028 || code == 0x2029 || code == 0x202F ||
  code == 0x205F || code == 0x3000

/-- The characters without the longest front and back part that satisfy `drop`. -/
def trimList (drop : Char → Bool) (chars : List Char) : List Char :=
  ((chars.dropWhile drop).reverse.dropWhile drop).reverse

/-- The text without the characters at its ends that satisfy `drop`. -/
def trimBy (drop : Char → Bool) (text : String) : String :=
  String.ofList (trimList drop text.toList)

/-- The text without white space at its ends. -/
def trim (text : String) : String := trimBy isBlank text

/-- Whether a text holds white space only. -/
def isBlankText (text : String) : Bool := text.toList.all isBlank

/-- The text with its ASCII letters in lower case. -/
def toLowerAscii (text : String) : String := String.ofList (text.toList.map Char.toLower)

theorem toLower_cases (c : Char) :
    c.toLower = c ∨ (0x41 ≤ c.toNat ∧ c.toNat ≤ 0x5A ∧ c.toLower.toNat = c.toNat + 0x20) := by
  by_cases upper : c.val ≥ 'A'.val ∧ c.val ≤ 'Z'.val
  · have low : 0x41 ≤ c.toNat := UInt32.le_iff_toNat_le.mp upper.1
    have high : c.toNat ≤ 0x5A := UInt32.le_iff_toNat_le.mp upper.2
    have shifted : c.toLower.toNat = (c.toNat + 0x20) % 2 ^ 32 :=
      congrArg Char.toNat (dif_pos upper)
    rw [Nat.mod_eq_of_lt (by omega)] at shifted
    exact .inr ⟨low, high, shifted⟩
  · exact .inl (dif_neg upper)

theorem toLower_toLower (c : Char) : c.toLower.toLower = c.toLower := by
  rcases toLower_cases c with same | ⟨_, _, shifted⟩
  · rw [same, same]
  · rcases toLower_cases c.toLower with same | ⟨_, upper, _⟩
    · exact same
    · omega

@[simp] theorem toLowerAscii_toLowerAscii (text : String) :
    toLowerAscii (toLowerAscii text) = toLowerAscii text := by
  rw [toLowerAscii, toLowerAscii, String.toList_ofList, List.map_map]
  exact congrArg String.ofList (List.map_congr_left fun c _ => toLower_toLower c)

/-- Whether two texts are equal but for the case of ASCII letters. -/
def sameIgnoringCase (left right : String) : Bool :=
  left.toList.map Char.toLower = right.toList.map Char.toLower

def occursInList (word : List Char) : List Char → Bool
  | [] => word.isEmpty
  | c :: rest => word.isPrefixOf (c :: rest) || occursInList word rest

/-- Whether a word stands anywhere in a text. -/
def occursIn (word text : String) : Bool := occursInList word.toList text.toList

/-- The words of a text in which spaces and line feeds separate them. `word` holds the characters of
the word being read, last first. -/
def wordsOfList (word : List Char) : List Char → List (List Char)
  | [] => if word.isEmpty then [] else [word.reverse]
  | c :: rest =>
    if c = ' ' || c = '\n' then
      if word.isEmpty then wordsOfList [] rest else word.reverse :: wordsOfList [] rest
    else wordsOfList (c :: word) rest

/-- The text up to its first line feed. -/
def firstLine (text : String) : String := String.ofList (text.toList.takeWhile (· ≠ '\n'))

def words (text : String) : List (List Char) := wordsOfList [] text.toList

end Fingerprint.Text
