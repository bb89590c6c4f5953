import Lanewise.Basic
import Lanewise.Text.CodePoints

namespace Lanewise.Text

-- The characters with the Unicode property White_Space.
def isBlank (c : Char) : Bool :=
  let n := c.toNat
  (9 ≤ n && n ≤ 13) || n == 0x20 || n == 0x85 || n == 0xA0 || n == 0x1680 ||
    (0x2000 ≤ n && n ≤ 0x200A) || n == 0x2028 || n == 0x2029 || n == 0x202F || n == 0x205F ||
    n == 0x3000

def trimRight (text : List Char) : List Char :=
  (text.reverse.dropWhile isBlank).reverse

-- The text without the blanks at its two ends. Blanks inside it stay.
def trim (text : List Char) : List Char :=
  trimRight (text.dropWhile isBlank)

-- Whether a reader sees a character by itself: it is assigned, shows something of its own and
-- is no mark on the character before it. Of the separators only the plain blank counts.
def isVisible (c : Char) : Bool :=
  let n := c.toNat
  !(isInRanges unseen n || isInRanges extending n || isInRanges unassigned n)

-- A character inside a quoted text. An apostrophe needs no escape between double quotes.
def escape (c : Char) : List Char :=
  if c = '"' then ['\\', '"']
  else if c = '\\' then ['\\', '\\']
  else if c = '\n' then ['\\', 'n']
  else if c = '\r' then ['\\', 'r']
  else if c = '\t' then ['\\', 't']
  else if c.toNat = 0 then ['\\', '0']
  else if isVisible c then [c]
  else ['\\', 'u', '\x7b'] ++ (shortHex c.toNat).toList ++ ['\x7d']

-- A text between double quotes, on one line and with every character of it visible.
def quoted (text : List Char) : List Char :=
  '"' :: text.flatMap escape ++ ['"']

example : quoted ['a', '"', '\t', '\''] = ['"', 'a', '\\', '"', '\\', 't', '\'', '"'] := by
  decide +kernel

example : escape '\u200B' = ['\\', 'u', '\x7b', '2', '0', '0', 'b', '\x7d'] := by
  decide +kernel

example : escape '\u0301' = ['\\', 'u', '\x7b', '3', '0', '1', '\x7d'] := by
  decide +kernel

example : escape '\uFF9E' = ['\uFF9E'] := by
  decide +kernel

end Lanewise.Text
