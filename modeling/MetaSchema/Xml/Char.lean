import MetaSchema.Text.Ranges

/-!
# Character classes of XML

* `isChar`: the characters that a document may hold.
* `isSpace`: the four characters that separate the parts of a tag.
* `isNameStart`, `isNamePart`: the characters of names. The colon is none of them; it separates
  the two parts of a qualified name.
-/

namespace MetaSchema.Xml

open Text

/-- A character that may stand in a document. -/
def isChar (c : Char) : Bool :=
  if c.toNat < 0x20 then c == '\t' || c == '\n' || c == '\r'
  else c.toNat != 0xFFFE && c.toNat != 0xFFFF

def isSpace (c : Char) : Bool := c == ' ' || c == '\t' || c == '\n' || c == '\r'

/-- The ranges of code points beyond ASCII that may start a name. -/
def nameStartRanges : List (Nat × Nat) :=
  [(0xC0, 0xD6), (0xD8, 0xF6), (0xF8, 0x2FF), (0x370, 0x37D), (0x37F, 0x1FFF), (0x200C, 0x200D),
    (0x2070, 0x218F), (0x2C00, 0x2FEF), (0x3001, 0xD7FF), (0xF900, 0xFDCF), (0xFDF0, 0xFFFD),
    (0x10000, 0xEFFFF)]

/-- The ranges of code points beyond ASCII that may follow in a name but not start it. -/
def nameExtraRanges : List (Nat × Nat) := [(0xB7, 0xB7), (0x300, 0x36F), (0x203F, 0x2040)]

/-- A character that a part of a name may start with. -/
def isNameStart (c : Char) : Bool := c.isAlpha || c == '_' || inRanges nameStartRanges c

/-- A character that a part of a name may hold. -/
def isNamePart (c : Char) : Bool :=
  isNameStart c || c.isDigit || c == '-' || c == '.' || inRanges nameExtraRanges c

end MetaSchema.Xml
