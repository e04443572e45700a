import Fingerprint.Unicode.Property

/-!
The characters that the names in scripts consist of.
-/

namespace Fingerprint.Script.NameChar

def startSet : Unicode.CodePoints.Index := ((Unicode.propertyNamed? "idstart").getD .empty).index

def continueSet : Unicode.CodePoints.Index :=
  ((Unicode.propertyNamed? "idcontinue").getD .empty).index

/-- Whether a name can start with a character. -/
def starts (c : Char) : Bool :=
  if c.toNat < 0x80 then c.isAlpha || c = '$' || c = '_' else startSet.contains c.toNat

/-- Whether a name can go on with a character. -/
def continues (c : Char) : Bool :=
  if c.toNat < 0x80 then c.isAlphanum || c = '$' || c = '_'
  else continueSet.contains c.toNat || c = '\u200C' || c = '\u200D'

end Fingerprint.Script.NameChar
