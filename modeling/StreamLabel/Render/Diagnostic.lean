import StreamLabel.Template.Printer

/-!
# Diagnostics

What went wrong at a placeholder while a template was rendered. Rendering goes on with a fallback.
-/

namespace StreamLabel

inductive Anomaly where
  | invalidPattern (pattern message : String)
  | unknownFormatter (name : String) (available : List String)
  | formatterFailed (name message : String)
  | tooDeep (limit : Int)
deriving DecidableEq, Repr

namespace Anomaly

def code : Anomaly → String
  | .invalidPattern _ _ => "invalid_regex"
  | .unknownFormatter _ _ => "unknown_formatter"
  | .formatterFailed _ _ => "formatter_failed"
  | .tooDeep _ => "nesting_too_deep"

def message : Anomaly → String
  | .invalidPattern pattern message => "Invalid regex /" ++ pattern ++ "/: " ++ message
  | .unknownFormatter name available =>
    "Unknown formatter '" ++ name ++ "' (available: " ++ ", ".intercalate available ++
      "), rendering raw value"
  | .formatterFailed name message => "Formatter '" ++ name ++ "' failed: " ++ message
  | .tooDeep limit => "Branches nested deeper than " ++ toString limit ++ " levels"

end Anomaly

structure Diagnostic where
  anomaly : Anomaly
  placeholder : Node
deriving Repr

namespace Diagnostic

def code (d : Diagnostic) : String := d.anomaly.code

def message (d : Diagnostic) : String := d.anomaly.message

def text (d : Diagnostic) : String :=
  d.code ++ ": " ++ d.message ++ " in " ++ d.placeholder.text

end Diagnostic

end StreamLabel
