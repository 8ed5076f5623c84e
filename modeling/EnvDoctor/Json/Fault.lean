import EnvDoctor.Numeral
import EnvDoctor.Text.Lines

/-!
# Faults of JSON texts

Why a text is no JSON document, and where.
-/

namespace EnvDoctor.Json

inductive Cause where
  | expectingValue
  | expectingName
  | expectingColon
  | expectingComma
  | extraData
  | unterminatedString
  | controlCharacter
  | invalidEscape
  | invalidUnicodeEscape
  | byteOrderMark
  deriving DecidableEq, Repr

def Cause.message : Cause → String
  | expectingValue => "Expecting value"
  | expectingName => "Expecting property name enclosed in double quotes"
  | expectingColon => "Expecting ':' delimiter"
  | expectingComma => "Expecting ',' delimiter"
  | extraData => "Extra data"
  | unterminatedString => "Unterminated string starting at"
  | controlCharacter => "Invalid control character at"
  | invalidEscape => "Invalid \\escape"
  | invalidUnicodeEscape => "Invalid \\uXXXX escape"
  | byteOrderMark => "Unexpected UTF-8 BOM (decode using utf-8-sig)"

/-- What is wrong, with the number of characters from there to the end of the text; or a number
that is too long. -/
inductive Fault where
  | malformed (cause : Cause) (left : Nat)
  | tooLong (numeral : Numeral.TooLong)
  deriving DecidableEq, Repr

def Fault.message (text : List Char) : Fault → String
  | malformed cause left =>
    let position := text.length - left
    let place := Text.placeOf text position
    cause.message ++ ": line " ++ toString place.line ++ " column " ++ toString place.column ++
      " (char " ++ toString position ++ ")"
  | tooLong numeral => numeral.message

end EnvDoctor.Json
