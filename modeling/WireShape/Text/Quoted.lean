import WireShape.Text.GraphemeExtend
import WireShape.Text.Unprintable

/-! # Quoted text

Text in double quotes, in which every character that could not be told apart on the page is written
by its number. -/

namespace WireShape.Text.Quoted

/-- `n` in hexadecimal, in lower case and without leading zeros. -/
def hex (n : Nat) : List Char :=
  Nat.toDigits 16 n

/-- The voicing marks of halfwidth kana. They extend a grapheme, but are letters with a width of
their own. -/
def isHalfwidthVoicingMark (c : Char) : Bool :=
  c = '\uff9e' || c = '\uff9f'

/-- Whether `c` would not be seen as a character of its own: it joins the one before it, or it leaves
nothing on the page. -/
def isHidden (c : Char) : Bool :=
  (isGraphemeExtend c && !isHalfwidthVoicingMark c) || isDefaultIgnorable c || isUnprintable c

/-- The written form of one character. -/
def encodeChar (c : Char) : List Char :=
  if c = '"' then ['\\', '"']
  else if c = '\\' then ['\\', '\\']
  else if c = '\n' then ['\\', 'n']
  else if c = '\r' then ['\\', 'r']
  else if c = '\t' then ['\\', 't']
  else if c = '\x00' then ['\\', '0']
  else if isHidden c then
    ['\\', 'u', '\x7b'] ++ hex c.toNat ++ ['\x7d']
  else [c]

/-- `cs` between double quotes. -/
def encode (cs : List Char) : List Char :=
  '"' :: cs.flatMap encodeChar ++ ['"']

end WireShape.Text.Quoted
