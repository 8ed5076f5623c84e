import EnvDoctor.Numeral
import EnvDoctor.Pattern.Basic
import EnvDoctor.Text.Lines
import EnvDoctor.Text.Quoted

/-!
# Faults of patterns

Why a text is no pattern. Most faults have a position, counted in characters from zero; for a
pattern of several lines the line and the column are added.
-/

namespace EnvDoctor.Pattern

inductive Cause where
  | escapeAtEnd
  | badEscape (text : List Char)
  | incompleteEscape (text : List Char)
  | octalTooLarge (text : List Char)
  | missingBrace
  | unknownCharacterName (name : List Char)
  | unterminatedSet
  | badRange (low high : List Char)
  | nothingToRepeat
  | multipleRepeat
  | repeatOrder
  | unterminatedGroup
  | unterminatedComment
  | unbalancedParenthesis
  | unexpectedEnd
  | unknownExtension (text : List Char)
  | missingName (what : String)
  | unterminatedName (terminator : Char)
  | badName (name : List Char)
  | unknownName (name : List Char)
  | duplicateName (name : List Char) (group earlier : Nat)
  | badGroupNumber
  | invalidReference (group : Nat)
  | noRepetition (preference : Preference)
  | openGroup
  | groupOfLookbehind
  | tooManyBranches
  | lateGlobalFlags
  | unknownFlag
  | missingAfterFlags (what : String)
  | badFlags (why : String)
  | variableLookbehind
  | lookbehindTooWide
  deriving DecidableEq, Repr

def Preference.repetitionWord : Preference → String
  | greedy => "MAX_REPEAT"
  | lazy => "MIN_REPEAT"
  | possessive => "POSSESSIVE_REPEAT"

def Cause.message : Cause → String
  | escapeAtEnd => "bad escape (end of pattern)"
  | badEscape text => "bad escape " ++ String.ofList text
  | incompleteEscape text => "incomplete escape " ++ String.ofList text
  | octalTooLarge text => "octal escape value " ++ String.ofList text ++ " outside of range 0-0o377"
  | missingBrace => "missing \x7b"
  | unknownCharacterName name => "undefined character name " ++ String.ofList (Text.quoted name)
  | unterminatedSet => "unterminated character set"
  | badRange low high => "bad character range " ++ String.ofList (low ++ '-' :: high)
  | nothingToRepeat => "nothing to repeat"
  | multipleRepeat => "multiple repeat"
  | repeatOrder => "min repeat greater than max repeat"
  | unterminatedGroup => "missing ), unterminated subpattern"
  | unterminatedComment => "missing ), unterminated comment"
  | unbalancedParenthesis => "unbalanced parenthesis"
  | unexpectedEnd => "unexpected end of pattern"
  | unknownExtension text => "unknown extension " ++ String.ofList text
  | missingName what => "missing " ++ what
  | unterminatedName terminator => "missing " ++ String.singleton terminator ++ ", unterminated name"
  | badName name => "bad character in group name " ++ String.ofList (Text.quoted name)
  | unknownName name => "unknown group name " ++ String.ofList (Text.quoted name)
  | duplicateName name group earlier =>
    "redefinition of group name " ++ String.ofList (Text.quoted name) ++ " as group " ++
      toString group ++ "; was group " ++ toString earlier
  | badGroupNumber => "bad group number"
  | invalidReference group => "invalid group reference " ++ toString group
  | noRepetition preference =>
    "internal: unsupported template operator " ++ preference.repetitionWord
  | openGroup => "cannot refer to an open group"
  | groupOfLookbehind => "cannot refer to group defined in the same lookbehind subpattern"
  | tooManyBranches => "conditional backref with more than two branches"
  | lateGlobalFlags => "global flags not at the start of the expression"
  | unknownFlag => "unknown flag"
  | missingAfterFlags what => "missing " ++ what
  | badFlags why => "bad inline flags: " ++ why
  | variableLookbehind => "look-behind requires fixed-width pattern"
  | lookbehindTooWide => "looks too much behind"

/-- What is wrong with a text that is no pattern. All faults but the first are about limits of
patterns and not about their syntax. -/
inductive Fault where
  | malformed (cause : Cause) (position : Option Nat)
  | repetitionTooLarge
  | countTooLong (numeral : Numeral.TooLong)
  | codePointTooLarge
  | clashingFlags
  deriving DecidableEq, Repr

def Fault.isLimit : Fault → Bool
  | malformed _ _ => false
  | _ => true

def Fault.message (pattern : List Char) : Fault → String
  | malformed cause none => cause.message
  | malformed cause (some position) =>
    let place := Text.placeOf pattern position
    let lines :=
      if pattern.contains '\n' then
        " (line " ++ toString place.line ++ ", column " ++ toString place.column ++ ")"
      else ""
    cause.message ++ " at position " ++ toString position ++ lines
  | repetitionTooLarge => "the repetition number is too large"
  | countTooLong numeral => numeral.message
  | codePointTooLarge => "Python int too large to convert to C int"
  | clashingFlags => "ASCII and UNICODE flags are incompatible"

end EnvDoctor.Pattern
