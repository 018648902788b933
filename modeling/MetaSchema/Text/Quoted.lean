import MetaSchema.Text.GraphemeExtend
import MetaSchema.Text.Numeral
import MetaSchema.Text.Unprintable

/-!
# Quoted text

How a text is shown inside a message: between double quotes, so that nothing in it can be taken
for the message around it.

* `joinsPrevious`: a character that would be drawn on the one before it.
* `escape`: one character as it is shown.
* `quote`: a whole text.
-/

namespace MetaSchema.Text

/-- The characters that have a short escape, with the letter that follows the backslash. -/
def shortEscapes : List (Char × Char) :=
  [('\x00', '0'), ('\t', 't'), ('\r', 'r'), ('\n', 'n'), ('\\', '\\'), ('"', '"')]

/-- The halfwidth sound marks of katakana extend a grapheme, but each has a cell of its own. -/
def isSoundMark (c : Char) : Bool := c == '\uff9e' || c == '\uff9f'

/-- A character that would be drawn on the one before it. -/
def joinsPrevious (c : Char) : Bool := extendsGrapheme c && !isSoundMark c

/-- A character as it is shown in a quoted text: a short escape where there is one, its code point
where the character would not be seen or would join the one before it, and itself otherwise. -/
def escape (c : Char) : List Char :=
  match shortEscapes.lookup c with
  | some letter => ['\\', letter]
  | none =>
    if 0x20 ≤ c.toNat && c.toNat < 0x7F then [c]
    else if joinsPrevious c || isUnprintable c then
      ['\\', 'u', '\x7b'] ++ hexDigits c.toNat ++ ['\x7d']
    else [c]

/-- A text between double quotes, with its characters escaped. -/
def quote (s : String) : String :=
  String.ofList ('"' :: s.toList.flatMap escape ++ ['"'])

example : quote "a\"b\\\n'é\u0301\u200b" = "\"a\\\"b\\\\\\n'é\\u\x7b301\x7d\\u\x7b200b\x7d\"" := by
  decide +kernel

end MetaSchema.Text
