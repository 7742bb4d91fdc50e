/-!
# Texts

Classes of characters and comparisons of texts, after the Unicode properties they are defined by.
-/

namespace BtDaemon.Text

/-- The characters of the category Cc. -/
def isControl (char : Char) : Bool :=
  char.toNat ≤ 0x1f || (0x7f ≤ char.toNat && char.toNat ≤ 0x9f)

/-- The characters of the property `White_Space`. -/
def isWhitespace (char : Char) : Bool :=
  let code := char.toNat
  (9 ≤ code && code ≤ 13) || code == 0x20 || code == 0x85 || code == 0xa0 || code == 0x1680 ||
    (0x2000 ≤ code && code ≤ 0x200a) || code == 0x2028 || code == 0x2029 || code == 0x202f ||
    code == 0x205f || code == 0x3000

/-- Nothing is left of the text when it is trimmed. -/
def isBlank (text : String) : Bool := text.toList.all isWhitespace

def toAsciiLowercase (text : String) : List Char := text.toList.map Char.toLower

def eqIgnoreAsciiCase (first second : String) : Bool :=
  toAsciiLowercase first == toAsciiLowercase second

end BtDaemon.Text
