import Dialogue.Text.Quoted

/-!
# What can be wrong with a regular expression

A malformed expression is reported by its cause and, where there is one, the place of the cause in
the pattern. Further faults concern no place: a repetition count, the reach of a lookbehind or a
nesting of groups beyond the supported range, and the two character modes asked for at once. One
fault shows only when a text is searched: a match in which a group closes before the place where it
opens.
-/

namespace Dialogue.Regex

/-- Why a pattern is no regular expression. -/
inductive Cause where
  | escapeAtEnd
  | badEscape (escape : String)
  | incompleteEscape (escape : String)
  | octalTooLarge (escape : String)
  | missing (what : String)
  | unterminatedName (terminator : Char)
  | undefinedCharacter (name : String)
  | openGroup
  | lookbehindGroup
  | invalidGroup (number : Nat)
  | badGroupNumber
  | badGroupName (name : String)
  | unknownGroup (name : String)
  | redefinedGroup (name : String) (number earlier : Nat)
  | unterminatedSet
  | badRange (low high : String)
  | minAboveMax
  | nothingToRepeat
  | multipleRepeat
  | endOfPattern
  | unknownExtension (text : String)
  | unterminatedComment
  | unterminatedGroup
  | thirdBranch
  | lateFlags
  | unknownFlag
  | localeFlag
  | incompatibleFlags
  | globalFlagOn
  | typeFlagOff
  | globalFlagOff
  | flagOnAndOff
  | unbalancedParenthesis
  | lookbehindWidth
  | templateRepeat (operator : String)

/-- The wording of a cause. -/
def Cause.message : Cause → String
  | .escapeAtEnd => "bad escape (end of pattern)"
  | .badEscape escape => "bad escape " ++ escape
  | .incompleteEscape escape => "incomplete escape " ++ escape
  | .octalTooLarge escape => "octal escape value " ++ escape ++ " outside of range 0-0o377"
  | .missing what => "missing " ++ what
  | .unterminatedName terminator =>
    "missing " ++ String.singleton terminator ++ ", unterminated name"
  | .undefinedCharacter name => "undefined character name " ++ Text.quoted name
  | .openGroup => "cannot refer to an open group"
  | .lookbehindGroup => "cannot refer to group defined in the same lookbehind subpattern"
  | .invalidGroup number => "invalid group reference " ++ toString number
  | .badGroupNumber => "bad group number"
  | .badGroupName name => "bad character in group name " ++ Text.quoted name
  | .unknownGroup name => "unknown group name " ++ Text.quoted name
  | .redefinedGroup name number earlier =>
    "redefinition of group name " ++ Text.quoted name ++ " as group " ++ toString number ++
      "; was group " ++ toString earlier
  | .unterminatedSet => "unterminated character set"
  | .badRange low high => "bad character range " ++ low ++ "-" ++ high
  | .minAboveMax => "min repeat greater than max repeat"
  | .nothingToRepeat => "nothing to repeat"
  | .multipleRepeat => "multiple repeat"
  | .endOfPattern => "unexpected end of pattern"
  | .unknownExtension text => "unknown extension ?" ++ text
  | .unterminatedComment => "missing ), unterminated comment"
  | .unterminatedGroup => "missing ), unterminated subpattern"
  | .thirdBranch => "conditional backref with more than two branches"
  | .lateFlags => "global flags not at the start of the expression"
  | .unknownFlag => "unknown flag"
  | .localeFlag => "bad inline flags: cannot use 'L' flag with a str pattern"
  | .incompatibleFlags => "bad inline flags: flags 'a', 'u' and 'L' are incompatible"
  | .globalFlagOn => "bad inline flags: cannot turn on global flag"
  | .typeFlagOff => "bad inline flags: cannot turn off flags 'a', 'u' and 'L'"
  | .globalFlagOff => "bad inline flags: cannot turn off global flag"
  | .flagOnAndOff => "bad inline flags: flag turned on and off"
  | .unbalancedParenthesis => "unbalanced parenthesis"
  | .lookbehindWidth => "look-behind requires fixed-width pattern"
  | .templateRepeat operator => "internal: unsupported template operator " ++ operator

/-- A pattern that cannot be used. -/
inductive Fault where
  | malformed (pattern : String) (cause : Cause) (place : Option Nat)
  | repetitionTooLarge
  | reachTooLarge
  | nestedTooDeep
  | asciiAndUnicode
  | twistedGroup

/-- The line and the column of a place, both counted from one. -/
def lineAndColumn (pattern : String) (place : Nat) : Nat × Nat :=
  let before := pattern.toList.take place
  (before.count '\n' + 1, (before.reverse.takeWhile (· ≠ '\n')).length + 1)

/-- The message of a fault: the cause, its place, and the line when the pattern has several. -/
def Fault.message : Fault → String
  | .malformed pattern cause place =>
    match place with
    | none => cause.message
    | some place =>
      let (line, column) := lineAndColumn pattern place
      cause.message ++ " at position " ++ toString place ++
        (if pattern.toList.contains '\n' then
          " (line " ++ toString line ++ ", column " ++ toString column ++ ")" else "")
  | .repetitionTooLarge => "the repetition number is too large"
  | .reachTooLarge => "invalid SRE code"
  | .nestedTooDeep => "maximum recursion depth exceeded"
  | .twistedGroup =>
    "The span of capturing group is wrong, please report a bug for the re module."
  | .asciiAndUnicode => "ASCII and UNICODE flags are incompatible"

end Dialogue.Regex
