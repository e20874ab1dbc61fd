import ProtoInterfaces.Text.Printable

/-!
# Quoted texts

A text is shown between single quotes, or between double quotes if it holds a single quote and
no double one. A backslash, the quote in use, a line feed, a carriage return and a tab are
escaped by name; every other character that is not printable by its code in two, four or eight
lower-case hexadecimal digits, as few of them as hold it.
-/
namespace ProtoInterfaces.Text

/-- The lower-case hexadecimal digit of a number below sixteen. -/
def hexDigit (value : Nat) : Char :=
  if value < 10 then Char.ofNat (48 + value) else Char.ofNat (87 + value)

/-- The last hexadecimal digits of a number, a fixed count of them. -/
def hexDigits : (count : Nat) → (value : Nat) → Text
  | 0, _ => []
  | count + 1, value => hexDigits count (value / 16) ++ [hexDigit (value % 16)]

/-- The escape of a character by its code. -/
def escapeCode (c : Char) : Text :=
  if c.toNat < 0x100 then ['\\', 'x'] ++ hexDigits 2 c.toNat
  else if c.toNat < 0x10000 then ['\\', 'u'] ++ hexDigits 4 c.toNat
  else ['\\', 'U'] ++ hexDigits 8 c.toNat

/-- A character as it stands between the given quotes. -/
def quotedCharacter (quote c : Char) : Text :=
  if c = quote || c = '\\' then ['\\', c]
  else if c = '\n' then ['\\', 'n']
  else if c = '\r' then ['\\', 'r']
  else if c = '\t' then ['\\', 't']
  else if isPrintable c then [c]
  else escapeCode c

/-- The quote that a text is shown between. -/
def quoteFor (text : Text) : Char :=
  if text.contains '\'' && !text.contains '"' then '"' else '\''

/-- A text between quotes. -/
def quoted (text : Text) : Text :=
  [quoteFor text] ++ text.flatMap (quotedCharacter (quoteFor text)) ++ [quoteFor text]

end ProtoInterfaces.Text
