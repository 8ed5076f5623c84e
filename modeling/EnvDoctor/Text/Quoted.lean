import EnvDoctor.Text.Digit
import EnvDoctor.Text.Printable
import EnvDoctor.Text.Surrogate

/-!
# Quoted text

The written form of a text between quotes. Single quotes are used unless the text holds a single
quote and no double quote. The chosen quote and the backslash are escaped, and so is every
character that is not printable.
-/

namespace EnvDoctor.Text

/-- The quote that needs the fewest escapes, a single one when both do. -/
def quoteFor (s : List Char) : Char :=
  if s.contains '\'' && !s.contains '"' then '"' else '\''

/-- The numeric escape of a character: two, four or eight hexadecimal digits. -/
def numericEscape (c : Char) : List Char :=
  let n := codePoint c
  if n < 0x100 then '\\' :: 'x' :: hexPadded 2 n
  else if n < 0x10000 then '\\' :: 'u' :: hexPadded 4 n
  else '\\' :: 'U' :: hexPadded 8 n

def quotedChar (quote c : Char) : List Char :=
  if c = quote ∨ c = '\\' then ['\\', c]
  else if c = '\t' then ['\\', 't']
  else if c = '\n' then ['\\', 'n']
  else if c = '\r' then ['\\', 'r']
  else if isPrintable c then [c]
  else numericEscape c

def quoted (s : List Char) : List Char :=
  let quote := quoteFor s
  quote :: s.flatMap (quotedChar quote) ++ [quote]

def quote (s : String) : String :=
  String.ofList (quoted s.toList)

end EnvDoctor.Text
