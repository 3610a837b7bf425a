import SearchDsl.Text.GraphemeExtend
import SearchDsl.Text.Printable
/-!
Quoted text as error messages show it: the text between double quotes, where the quote, the
backslash, NUL, tab, line feed and carriage return are written with a backslash, every character
that extends a grapheme or is not printable is written `\u{hex}` (lower-case hex, no padding),
and every other character as itself.
-/

namespace SearchDsl.Text

def unicodeEscape (c : Char) : List Char :=
  ['\\', 'u', '\x7b'] ++ Nat.toDigits 16 c.toNat ++ ['\x7d']

/-- How one character is written inside quoted text. -/
def escapeChar (c : Char) : List Char :=
  if c.toNat = 0 then ['\\', '0']
  else if c = '\t' then ['\\', 't']
  else if c = '\r' then ['\\', 'r']
  else if c = '\n' then ['\\', 'n']
  else if c = '\\' then ['\\', '\\']
  else if c = '"' then ['\\', '"']
  else if isGraphemeExtend c then unicodeEscape c
  else if isPrintable c then [c]
  else unicodeEscape c

def quoted (s : String) : String :=
  String.ofList ('"' :: s.toList.flatMap escapeChar ++ ['"'])

end SearchDsl.Text
