/-!
# Defects of patterns

What can be wrong with a search pattern. A message tells the position in characters, and the line
and column as well when the pattern has several lines.
-/

namespace StreamLabel.Pattern

/-- A defect in a pattern; parameters hold the text shown. -/
inductive Defect where
  | danglingEscape
  | badEscape (text : String)
  | incompleteEscape (text : String)
  | octalTooLarge (text : String)
  | missingCharacterBrace
  | unknownCharacter (quotedName : String)
  | missing (what : String)
  | openName (closer : String)
  | badName (quotedName : String)
  | unknownName (quotedName : String)
  | redefinedName (quotedName : String) (index earlier : Nat)
  | openGroup
  | sameLookBehind
  | noGroup (index : Nat)
  | zeroGroup
  | manyBranches
  | openSet
  | badRange (low high : String)
  | nothingToRepeat
  | multipleRepeat
  | repeatOrder
  | unexpectedEnd
  | openGroupText
  | openComment
  | unknownExtension (text : String)
  | flagsNotAtStart
  | localeFlag
  | repertoireClash
  | globalFlagOn
  | globalFlagOff
  | repertoireOff
  | flagOnAndOff
  | unknownFlag
  | missingFlagEnd
  | missingFlag
  | missingColon
  | unbalanced
  | lookBehindWidth
  | bareRepeat (operator : String)
deriving DecidableEq, Repr

namespace Defect

def text : Defect → String
  | .danglingEscape => "bad escape (end of pattern)"
  | .badEscape t => "bad escape " ++ t
  | .incompleteEscape t => "incomplete escape " ++ t
  | .octalTooLarge t => "octal escape value " ++ t ++ " outside of range 0-0o377"
  | .missingCharacterBrace => "missing \x7b"
  | .unknownCharacter name => "undefined character name " ++ name
  | .missing what => "missing " ++ what
  | .openName closer => "missing " ++ closer ++ ", unterminated name"
  | .badName name => "bad character in group name " ++ name
  | .unknownName name => "unknown group name " ++ name
  | .redefinedName name index earlier =>
    "redefinition of group name " ++ name ++ " as group " ++ toString index ++ "; was group " ++
      toString earlier
  | .openGroup => "cannot refer to an open group"
  | .sameLookBehind => "cannot refer to group defined in the same lookbehind subpattern"
  | .noGroup index => "invalid group reference " ++ toString index
  | .zeroGroup => "bad group number"
  | .manyBranches => "conditional backref with more than two branches"
  | .openSet => "unterminated character set"
  | .badRange low high => "bad character range " ++ low ++ "-" ++ high
  | .nothingToRepeat => "nothing to repeat"
  | .multipleRepeat => "multiple repeat"
  | .repeatOrder => "min repeat greater than max repeat"
  | .unexpectedEnd => "unexpected end of pattern"
  | .openGroupText => "missing ), unterminated subpattern"
  | .openComment => "missing ), unterminated comment"
  | .unknownExtension t => "unknown extension " ++ t
  | .flagsNotAtStart => "global flags not at the start of the expression"
  | .localeFlag => "bad inline flags: cannot use 'L' flag with a str pattern"
  | .repertoireClash => "bad inline flags: flags 'a', 'u' and 'L' are incompatible"
  | .globalFlagOn => "bad inline flags: cannot turn on global flag"
  | .globalFlagOff => "bad inline flags: cannot turn off global flag"
  | .repertoireOff => "bad inline flags: cannot turn off flags 'a', 'u' and 'L'"
  | .flagOnAndOff => "bad inline flags: flag turned on and off"
  | .unknownFlag => "unknown flag"
  | .missingFlagEnd => "missing -, : or )"
  | .missingFlag => "missing flag"
  | .missingColon => "missing :"
  | .unbalanced => "unbalanced parenthesis"
  | .lookBehindWidth => "look-behind requires fixed-width pattern"
  | .bareRepeat operator => "internal: unsupported template operator " ++ operator

/-- The message of a defect of `pattern` at a position, if it has one. -/
def message (d : Defect) (pattern : String) : Option Nat → String
  | none => d.text
  | some pos =>
    let cs := pattern.toList
    let before := cs.take pos
    let base := d.text ++ " at position " ++ toString pos
    if cs.contains '\n' then
      let line := before.count '\n' + 1
      let column := (before.reverse.takeWhile (· != '\n')).length + 1
      base ++ " (line " ++ toString line ++ ", column " ++ toString column ++ ")"
    else base

end Defect

/-- Why a pattern gives no answer without being malformed. The last comes up only when a match is
found: a group is noted to end before it begins. -/
inductive Refusal where
  | repetitionTooLarge
  | tooManyDigits (count : Nat)
  | asciiAndUnicode
  | wrongSpan
deriving DecidableEq, Repr

def Refusal.message : Refusal → String
  | .repetitionTooLarge => "the repetition number is too large"
  | .tooManyDigits count =>
    "Exceeds the limit (4300 digits) for integer string conversion: value has " ++
      toString count ++ " digits; use sys.set_int_max_str_digits() to increase the limit"
  | .asciiAndUnicode => "ASCII and UNICODE flags are incompatible"
  | .wrongSpan =>
    "The span of capturing group is wrong, please report a bug for the re module."

/-- The outcome of reading a pattern that gives none. -/
inductive Rejection where
  | malformed (defect : Defect) (position : Option Nat)
  | refused (r : Refusal)
deriving DecidableEq, Repr

end StreamLabel.Pattern
