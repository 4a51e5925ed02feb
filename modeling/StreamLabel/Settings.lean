import StreamLabel.Number.Integer

/-!
# Settings

Limits read from variables of the environment. A variable that is missing, blank, no whole number or
negative leaves the limit at its default.
-/

namespace StreamLabel

/-- Variables and their values. -/
abbrev Environment := List (String × String)

namespace Environment

def unset (e : Environment) (name : String) : Environment := e.filter (·.1 != name)

def set (e : Environment) (name value : String) : Environment := (name, value) :: e.unset name

/-- A whole number from zero on. -/
def number (e : Environment) (name : String) (default : Nat) : Nat :=
  match e.lookup name with
  | none => default
  | some raw =>
    match Integer.read? raw.toList with
    | some (.ofNat n) => n
    | _ => default

end Environment

structure Settings where
  /-- How deep branches may nest. -/
  nestingLimit : Nat
  /-- How many templates are stored; zero means any number. -/
  templateCapacity : Nat
  /-- How long templates are stored, in seconds; zero means for ever. -/
  templateLifetime : Nat
  /-- How many patterns are stored; zero means any number. -/
  patternCapacity : Nat
deriving DecidableEq, Repr

namespace Settings

def ofEnvironment (e : Environment) : Settings where
  nestingLimit := e.number "STREAMFMT_MAX_NESTING_DEPTH" 32
  templateCapacity := e.number "STREAMFMT_TEMPLATE_CACHE_SIZE" 1024
  templateLifetime := e.number "STREAMFMT_TEMPLATE_CACHE_TTL" 0
  patternCapacity := e.number "STREAMFMT_REGEX_CACHE_SIZE" 256

end Settings

/-- The version that the library reports. -/
def version : String := "1.0.0"

end StreamLabel
