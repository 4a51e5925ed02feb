import StreamLabel.Unicode.Casing

/-!
# Levels

Levels of messages are numbers, the grave ones high; some have names.
-/

namespace StreamLabel

abbrev Level := Int

namespace Level

def notSet : Level := 0
def debug : Level := 10
def info : Level := 20
def warning : Level := 30
def error : Level := 40
def critical : Level := 50

/-- The levels that messages name. -/
def named : List (Level × String) := [
  (critical, "CRITICAL"), (error, "ERROR"), (warning, "WARNING"), (info, "INFO"),
  (debug, "DEBUG"), (notSet, "NOTSET")]

def name (l : Level) : String :=
  match named.lookup l with
  | some s => s
  | none => "Level " ++ toString l

/-- Further names by which levels are asked for. -/
def synonyms : List (String × Level) := [("FATAL", critical), ("WARN", warning)]

/-- Something with a name that is no level, with what there is to say when it is taken for one. -/
structure Foreign where
  name : String
  message : String
  /-- It is not even a name of the right type. -/
  mistyped : Bool
deriving DecidableEq, Repr

/-- The names that stand for layouts of lines instead of levels. -/
def foreign : List Foreign := [
  ⟨"BASIC_FORMAT", "Unknown level: '%(levelname)s:%(name)s:%(message)s'", false⟩,
  ⟨"_STYLES",
    "Level not an integer or a valid string: \x7b'%': (<class 'logging.PercentStyle'>, " ++
    "'%(levelname)s:%(name)s:%(message)s'), '\x7b': (<class 'logging.StrFormatStyle'>, " ++
    "'\x7blevelname\x7d:\x7bname\x7d:\x7bmessage\x7d'), '$': " ++
    "(<class 'logging.StringTemplateStyle'>, " ++
    "'$\x7blevelname\x7d:$\x7bname\x7d:$\x7bmessage\x7d')\x7d", true⟩]

/-- What a name stands for when a level is asked for. -/
inductive Meaning where
  | level (l : Level)
  | unknown
  /-- The name belongs to something else than a level. -/
  | foreign (f : Foreign)
deriving DecidableEq, Repr

/-- What a name in any case stands for. -/
def meaning (s : String) : Meaning :=
  let s := String.ofList (Unicode.upper s.toList)
  match (named.find? (·.2 == s)).map (·.1) |>.or (synonyms.lookup s) with
  | some l => .level l
  | none => ((foreign.find? (·.name == s)).map .foreign).getD .unknown

end Level

end StreamLabel
