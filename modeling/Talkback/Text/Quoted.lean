import Talkback.Text.Printable

/-!
Quoted text: how a character or a string is written between quotes so that every character
can be read back. Tab, return, newline, NUL and the backslash take a short escape; the quote
that delimits the text is escaped, the other one is not; a character that is not printable
is written as `\u{…}` with its code point in lower-case hexadecimal; every other character
stands for itself.
-/

namespace Talkback.Text

/-- Lower-case hexadecimal digits of `n`, most significant first, without leading zeros. -/
def hexDigits (n : Nat) : String :=
  String.ofList (Nat.toDigits 16 n)

/-- A character as it is written inside quotes delimited by `quote`. -/
def escapeChar (quote : Char) (c : Char) : String :=
  if c = '\t' then "\\t"
  else if c = '\r' then "\\r"
  else if c = '\n' then "\\n"
  else if c = '\\' then "\\\\"
  else if c = quote then "\\" ++ String.singleton c
  else if c.toNat = 0 then "\\0"
  else if isPrintable c then String.singleton c
  else "\\u\x7b" ++ hexDigits c.toNat ++ "\x7d"

/-- A string between double quotes. -/
def quoteString (s : String) : String :=
  "\"" ++ String.join (s.toList.map (escapeChar '"')) ++ "\""

/-- A character between single quotes. -/
def quoteChar (c : Char) : String :=
  "'" ++ escapeChar '\'' c ++ "'"

end Talkback.Text
