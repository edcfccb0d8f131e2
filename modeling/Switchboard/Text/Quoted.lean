import Switchboard.Text.PrintableTable

/-!
# Quoted text

The quoted form of a text for people who read logs: between double quotes, with a backslash before
quotes and backslashes, short names for tab, line feed, carriage return and the null character, and
code points in braces for all that has no visible form or would attach to the character before it.
-/

namespace Switchboard.Text

/-- The hexadecimal digits of a number, lowercase, without leading zeros. -/
def hexDigits (n : Nat) : List Char := Nat.toDigits 16 n

/-- A code point between braces: the letter u, then the hexadecimal number. -/
def escapedCodePoint (n : Nat) : List Char :=
  ['\\', 'u', '\x7b'] ++ hexDigits n ++ ['\x7d']

/-- One character inside double quotes. -/
def quotedChar (c : Char) : List Char :=
  if c = Char.ofNat 0 then ['\\', '0']
  else if c = '\t' then ['\\', 't']
  else if c = '\r' then ['\\', 'r']
  else if c = '\n' then ['\\', 'n']
  else if c = '"' then ['\\', '"']
  else if c = '\\' then ['\\', '\\']
  else if 0x20 ≤ c.toNat && c.toNat < 0x7F then [c]
  else if extendingRanges.has c.toNat || invisibleRanges.has c.toNat then
    escapedCodePoint c.toNat
  else [c]

/-- A text between double quotes. -/
def quoted (s : String) : String :=
  String.ofList ('"' :: s.toList.flatMap quotedChar ++ ['"'])

end Switchboard.Text
