import Conformance.Text.GraphemeExtend
import Conformance.Text.Hexadecimal
import Conformance.Text.Unprintable

/-!
# Conformance.Text.Quoted

Strings between double quotes, as type texts, error messages and debug texts
show them. Quotes, backslashes, the usual controls and every character that
would not show as itself are escaped; all others stand for themselves.
-/

namespace Conformance.Text

/-- The letters of Hangul that are drawn as nothing. -/
def isFiller (c : Char) : Bool :=
  c == '\u115F' || c == '\u1160' || c == '\u3164' || c == '\uFFA0'

/-- Whether a character is drawn onto the one before it. The two halfwidth voicing
marks of Katakana declare a grapheme but take a place of their own. -/
def isJoined (c : Char) : Bool :=
  graphemeExtendRanges.contains c.toNat && !(c == '\uFF9E' || c == '\uFF9F')

/-- Whether a character shows as itself. -/
def showsItself (c : Char) : Bool :=
  c == ' ' || !(unprintableRanges.contains c.toNat || isJoined c || isFiller c)

/-- A character as it stands between quotes. -/
def escape (c : Char) : List Char :=
  if c = '"' then ['\\', '"']
  else if c = '\\' then ['\\', '\\']
  else if c = '\n' then ['\\', 'n']
  else if c = '\r' then ['\\', 'r']
  else if c = '\t' then ['\\', 't']
  else if c = '\x00' then ['\\', '0']
  else if showsItself c then [c]
  else '\\' :: 'u' :: '\x7b' :: (hexChars c.toNat ++ ['\x7d'])

/-- A string between quotes. -/
def quoteChars (cs : List Char) : List Char := '"' :: (cs.flatMap escape ++ ['"'])

def quote (s : String) : String := String.ofList (quoteChars s.toList)

end Conformance.Text
