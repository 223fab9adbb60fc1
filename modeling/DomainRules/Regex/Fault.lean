import DomainRules.Text.Quoted

/-! What can be wrong with a regular expression. -/

namespace DomainRules.Regex

inductive Complaint
  | danglingBackslash
  | missing (what : String)
  | unterminatedName (terminator : Char)
  | incompleteEscape (escape : String)
  | badEscape (escape : String)
  | octalTooLarge (escape : String)
  | unknownCharacterName (name : String)
  | openGroup
  | lookbehindGroup
  | noSuchGroup (number : Nat)
  | unterminatedSet
  | badRange (low high : String)
  | nothingToRepeat
  | multipleRepeat
  | boundsSwapped
  | unexpectedEnd
  | badGroupName (name : String)
  | unknownGroupName (name : String)
  | redefinedGroup (name : String) (number earlier : Nat)
  | badGroupNumber
  | unknownExtension (text : String)
  | unterminatedComment
  | unterminatedGroup
  | unbalanced
  | tooManyBranches
  | flagsNotFirst
  | unknownFlag
  | localeFlag
  | clashingFlags
  | globalFlagOn
  | globalFlagOff
  | alphabetFlagOff
  | flagOnAndOff
  | lookbehindWidth
  | lookbehindTooFar
  | templateLoop (operator : String)
  deriving DecidableEq

def Complaint.message : Complaint → String
  | danglingBackslash => "bad escape (end of pattern)"
  | missing what => "missing " ++ what
  | unterminatedName terminator => "missing " ++ terminator.toString ++ ", unterminated name"
  | incompleteEscape escape => "incomplete escape " ++ escape
  | badEscape escape => "bad escape " ++ escape
  | octalTooLarge escape => "octal escape value " ++ escape ++ " outside of range 0-0o377"
  | unknownCharacterName name => "undefined character name " ++ Text.quoted name
  | openGroup => "cannot refer to an open group"
  | lookbehindGroup => "cannot refer to group defined in the same lookbehind subpattern"
  | noSuchGroup number => "invalid group reference " ++ toString number
  | unterminatedSet => "unterminated character set"
  | badRange low high => "bad character range " ++ low ++ "-" ++ high
  | nothingToRepeat => "nothing to repeat"
  | multipleRepeat => "multiple repeat"
  | boundsSwapped => "min repeat greater than max repeat"
  | unexpectedEnd => "unexpected end of pattern"
  | badGroupName name => "bad character in group name " ++ Text.quoted name
  | unknownGroupName name => "unknown group name " ++ Text.quoted name
  | redefinedGroup name number earlier =>
    "redefinition of group name " ++ Text.quoted name ++ " as group " ++ toString number
      ++ "; was group " ++ toString earlier
  | badGroupNumber => "bad group number"
  | unknownExtension text => "unknown extension ?" ++ text
  | unterminatedComment => "missing ), unterminated comment"
  | unterminatedGroup => "missing ), unterminated subpattern"
  | unbalanced => "unbalanced parenthesis"
  | tooManyBranches => "conditional backref with more than two branches"
  | flagsNotFirst => "global flags not at the start of the expression"
  | unknownFlag => "unknown flag"
  | localeFlag => "bad inline flags: cannot use 'L' flag with a str pattern"
  | clashingFlags => "bad inline flags: flags 'a', 'u' and 'L' are incompatible"
  | globalFlagOn => "bad inline flags: cannot turn on global flag"
  | globalFlagOff => "bad inline flags: cannot turn off global flag"
  | alphabetFlagOff => "bad inline flags: cannot turn off flags 'a', 'u' and 'L'"
  | flagOnAndOff => "bad inline flags: flag turned on and off"
  | lookbehindWidth => "look-behind requires fixed-width pattern"
  | lookbehindTooFar => "looks too much behind"
  | templateLoop operator => "internal: unsupported template operator " ++ operator

/-- Most faults are complaints about a place in the expression. A loop bound can be beyond all bounds or too
long to read, two alphabets can be asked for at once, and groups can be nested deeper than the host can follow. -/
inductive Fault
  | complaint (complaint : Complaint) (position : Option Nat)
  | hugeBound
  | longBound (digits : Nat)
  | twoAlphabets
  | nestedTooDeep
  deriving DecidableEq

/-- The complaint and its place; an expression of several lines has line and column added. -/
def Complaint.reason (complaint : Complaint) (source : List Char) : Option Nat → String
  | none => complaint.message
  | some position =>
    let placed := complaint.message ++ " at position " ++ toString position
    if source.contains '\n' then
      let before := source.take position
      placed ++ " (line " ++ toString (before.count '\n' + 1) ++ ", column "
        ++ toString ((before.reverse.takeWhile (· ≠ '\n')).length + 1) ++ ")"
    else placed

end DomainRules.Regex
