import StreamLabel.Number.Basic
import StreamLabel.Template.Builder
import StreamLabel.Template.Printer

/-!
# Parse errors

What can be wrong with the text of a template, and where. Positions count characters; the message
of an error gives the place as an offset into the UTF-8 text.
-/

namespace StreamLabel

/-- The part that was looked for and not found. -/
inductive Expected where
  | space
  | dot
  | property
  | brace
deriving DecidableEq, Repr

inductive Cause where
  /-- The text ends inside a placeholder. -/
  | openPlaceholder
  | missingBrace
  | openRegex
  | openBranch
  | openBranches
  | expectedQuote
  | expectedBars
  | expectedBracket
  | regexWithoutBranches
  | comparisonWithoutBranches
  | conditionWithoutBranches (condition : Condition)
  | unknownNamespace (name : String)
  | invalidModifier (first : Char)
  | formatterWithBranches (name : String)
  | expected (part : Expected)
  | unclosedRegex
  | tooDeep (limit : Int)
  /-- A placeholder cannot be built of what was read. -/
  | unbuilt (e : BuildError)
deriving DecidableEq, Repr

namespace Cause

/-- The kinds that errors are sorted by. -/
inductive Kind where
  | unterminatedPlaceholder
  | unterminatedBranch
  | malformedBranches
  | missingBranches
  | unknownNamespace
  | invalidOperator
  | malformedPlaceholder
  | nestingTooDeep
  /-- No error of the text. -/
  | unbuilt
deriving DecidableEq, Repr

/-- The code of a kind, empty for what is no error of the text. -/
def Kind.code : Kind → String
  | .unterminatedPlaceholder => "unterminated_placeholder"
  | .unterminatedBranch => "unterminated_branch"
  | .malformedBranches => "malformed_branches"
  | .missingBranches => "missing_branches"
  | .unknownNamespace => "unknown_namespace"
  | .invalidOperator => "invalid_operator"
  | .malformedPlaceholder => "malformed_placeholder"
  | .nestingTooDeep => "nesting_too_deep"
  | .unbuilt => ""

def kind : Cause → Kind
  | .openPlaceholder | .missingBrace | .openRegex => .unterminatedPlaceholder
  | .openBranch => .unterminatedBranch
  | .openBranches | .expectedQuote | .expectedBars | .expectedBracket => .malformedBranches
  | .regexWithoutBranches | .comparisonWithoutBranches | .conditionWithoutBranches _ =>
    .missingBranches
  | .unknownNamespace _ => .unknownNamespace
  | .invalidModifier _ | .formatterWithBranches _ => .invalidOperator
  | .expected _ | .unclosedRegex => .malformedPlaceholder
  | .tooDeep _ => .nestingTooDeep
  | .unbuilt _ => .unbuilt

def branchesForm : String := "[\"...\"||\"...\"]"

def text : Cause → String
  | .openPlaceholder => "Unterminated placeholder"
  | .missingBrace => "Unterminated placeholder: missing '\x7d'"
  | .openRegex => "Unterminated placeholder: regex runs to end of input"
  | .openBranch => "Unterminated branch: missing closing '\"'"
  | .openBranches => "Unterminated branches: missing ']'"
  | .expectedQuote => "Expected quoted branch template"
  | .expectedBars => "Expected '||' between branches"
  | .expectedBracket => "Expected ']' after branches"
  | .regexWithoutBranches => "Regex modifier requires branches " ++ branchesForm
  | .comparisonWithoutBranches => "Comparison modifier requires branches " ++ branchesForm
  | .conditionWithoutBranches condition =>
    "Modifier '" ++ condition.text ++ "' requires branches " ++ branchesForm
  | .unknownNamespace name =>
    "Unknown namespace '" ++ name ++ "' (expected stream, provider or addon)"
  | .invalidModifier c => "Invalid modifier starting with '" ++ c.toString ++ "'"
  | .formatterWithBranches name =>
    "Formatter '" ++ name ++ "' cannot take branches; use a comparison or /regex/ to branch"
  | .expected .space => "Expected namespace"
  | .expected .dot => "Expected '.' after namespace"
  | .expected .property => "Expected property name"
  | .expected .brace => "Expected '\x7d'"
  | .unclosedRegex => "Unterminated regex pattern"
  | .tooDeep limit => "Branches nested deeper than " ++ toString limit ++ " levels"
  | .unbuilt e => e.message

/-- The text of the cause holds no number that is not written. -/
def isWritable : Cause → Bool
  | .tooDeep limit => (Number.int limit).isWritable
  | _ => true

end Cause

/-- How many bytes the characters take in UTF-8. -/
def utf8Length : List Char → Nat
  | [] => 0
  | c :: cs => c.utf8Size + utf8Length cs

structure ParseError where
  cause : Cause
  position : Nat
  byteOffset : Nat
deriving DecidableEq, Repr

namespace ParseError

def kind (e : ParseError) : Cause.Kind := e.cause.kind

def message (e : ParseError) : String :=
  match e.cause with
  | .unbuilt failure => failure.message
  | cause => cause.text ++ " at offset " ++ toString e.byteOffset

end ParseError

end StreamLabel
