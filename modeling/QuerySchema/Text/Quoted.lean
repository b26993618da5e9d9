import QuerySchema.Text.Hex
import QuerySchema.Text.Printable

/-!
Names and values between quotes, as messages show them.

A text stands between single quotes; when it holds a single quote and no double quote it stands
between double quotes instead. The backslash, the quote in use and every character that is not
printable are written as escapes, so a message never holds a line end of the text it quotes.
-/

namespace QuerySchema.Text

/-- The quote that encloses a text. -/
def quoteFor (cs : List Char) : Char :=
  if cs.contains '\'' && !cs.contains '"' then '"' else '\''

/-- One character between quotes: `\n`, `\r`, `\t` and the backslash have short escapes, other
unprintable characters take two, four or eight hexadecimal digits. -/
def quotedChar (quote c : Char) : List Char :=
  if c = quote || c = '\\' then ['\\', c]
  else if c = '\n' then ['\\', 'n']
  else if c = '\r' then ['\\', 'r']
  else if c = '\t' then ['\\', 't']
  else if isPrintable c then [c]
  else if c.toNat < 0x100 then '\\' :: 'x' :: hexDigits 2 c.toNat
  else if c.toNat < 0x10000 then '\\' :: 'u' :: hexDigits 4 c.toNat
  else '\\' :: 'U' :: hexDigits 8 c.toNat

/-- A text between quotes, character by character. -/
def quotedChars (cs : List Char) : List Char :=
  let quote := quoteFor cs
  quote :: (cs.flatMap (quotedChar quote) ++ [quote])

/-- A text between quotes. -/
def quoted (s : String) : String := String.ofList (quotedChars s.toList)

end QuerySchema.Text
