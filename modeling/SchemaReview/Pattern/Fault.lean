import SchemaReview.Text.Quoted

/-!
# Why a text is not a pattern

Faults of a text, with their places, and the one fault that a pattern shows only when it is matched.
-/
namespace SchemaReview.Pattern

inductive Fault where
  | badEscapeAtEnd
  | badEscape (escape : String)
  | incompleteEscape (escape : String)
  | octalOutOfRange (escape : String)
  | missingBrace
  | missingCharacterName
  | unterminatedCharacterName
  | undefinedCharacterName (name : String)
  | openGroupReference
  | sameLookbehindReference
  | invalidGroupReference (number : Nat)
  | unterminatedSet
  | badRange (first last : String)
  | leastAboveMost
  | nothingToRepeat
  | multipleRepeat
  | unexpectedEnd
  | missingGroupName
  | unterminatedGroupName (terminator : String)
  | badGroupName (name : String)
  | unknownGroupName (name : String)
  | redefinedGroup (name : String) (number previous : Nat)
  | badGroupNumber
  | unknownExtension (text : String)
  | unterminatedComment
  | unterminatedGroup
  | tooManyBranches
  | flagsNotAtStart
  | localeFlag
  | incompatibleFlags
  | missingFlagEnd
  | unknownFlag
  | missingFlag
  | missingColon
  | globalFlagOn
  | globalFlagOff
  | classFlagOff
  | flagOnAndOff
  | unbalanced
  | lookbehindTooLong
  | variableLookbehind
  | asciiWithUnicode
  | tooManyRounds
  | brokenGroup
deriving DecidableEq, Repr

def Fault.text : Fault → String
  | .badEscapeAtEnd => "bad escape (end of pattern)"
  | .badEscape e => "bad escape " ++ e
  | .incompleteEscape e => "incomplete escape " ++ e
  | .octalOutOfRange e => "octal escape value " ++ e ++ " outside of range 0-0o377"
  | .missingBrace => "missing \x7b"
  | .missingCharacterName => "missing character name"
  | .unterminatedCharacterName => "missing \x7d, unterminated name"
  | .undefinedCharacterName n => "undefined character name " ++ Text.quoted n
  | .openGroupReference => "cannot refer to an open group"
  | .sameLookbehindReference =>
    "cannot refer to group defined in the same lookbehind subpattern"
  | .invalidGroupReference n => "invalid group reference " ++ toString n
  | .unterminatedSet => "unterminated character set"
  | .badRange a b => "bad character range " ++ a ++ "-" ++ b
  | .leastAboveMost => "min repeat greater than max repeat"
  | .nothingToRepeat => "nothing to repeat"
  | .multipleRepeat => "multiple repeat"
  | .unexpectedEnd => "unexpected end of pattern"
  | .missingGroupName => "missing group name"
  | .unterminatedGroupName t => "missing " ++ t ++ ", unterminated name"
  | .badGroupName n => "bad character in group name " ++ Text.quoted n
  | .unknownGroupName n => "unknown group name " ++ Text.quoted n
  | .redefinedGroup n g p =>
    "redefinition of group name " ++ Text.quoted n ++ " as group " ++ toString g ++
      "; was group " ++ toString p
  | .badGroupNumber => "bad group number"
  | .unknownExtension t => "unknown extension ?" ++ t
  | .unterminatedComment => "missing ), unterminated comment"
  | .unterminatedGroup => "missing ), unterminated subpattern"
  | .tooManyBranches => "conditional backref with more than two branches"
  | .flagsNotAtStart => "global flags not at the start of the expression"
  | .localeFlag => "bad inline flags: cannot use 'L' flag with a str pattern"
  | .incompatibleFlags => "bad inline flags: flags 'a', 'u' and 'L' are incompatible"
  | .missingFlagEnd => "missing -, : or )"
  | .unknownFlag => "unknown flag"
  | .missingFlag => "missing flag"
  | .missingColon => "missing :"
  | .globalFlagOn => "bad inline flags: cannot turn on global flag"
  | .globalFlagOff => "bad inline flags: cannot turn off global flag"
  | .classFlagOff => "bad inline flags: cannot turn off flags 'a', 'u' and 'L'"
  | .flagOnAndOff => "bad inline flags: flag turned on and off"
  | .unbalanced => "unbalanced parenthesis"
  | .lookbehindTooLong => "looks too much behind"
  | .variableLookbehind => "look-behind requires fixed-width pattern"
  | .asciiWithUnicode => "ASCII and UNICODE flags are incompatible"
  | .tooManyRounds => "the repetition number is too large"
  | .brokenGroup =>
    "The span of capturing group is wrong, please report a bug for the re module."

/-- Whether a fault lies in how a pattern is spelled. The others break off what asks for the
pattern. -/
def Fault.isSpelling : Fault → Bool
  | .asciiWithUnicode | .tooManyRounds | .brokenGroup => false
  | _ => true

/-- A fault with its place in the pattern, where it has one. -/
structure PatternError where
  fault : Fault
  position : Option Nat
deriving DecidableEq, Repr

/-- The fault and its place; in a pattern of several lines also as line and column. -/
def PatternError.describe (e : PatternError) (pattern : String) : String :=
  match e.position with
  | none => e.fault.text
  | some p =>
    let before := pattern.toList.take p
    let lines :=
      if pattern.toList.contains '\n' then
        " (line " ++ toString (before.count '\n' + 1) ++ ", column " ++
          toString ((before.reverse.takeWhile (· != '\n')).length + 1) ++ ")"
      else ""
    e.fault.text ++ " at position " ++ toString p ++ lines

end SchemaReview.Pattern
