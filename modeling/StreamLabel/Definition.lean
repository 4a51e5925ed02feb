import StreamLabel.Json.Reader
import StreamLabel.Unicode.Blank

/-!
# Formatter definitions

A definition is the text of two templates, for a name and a description. It is exchanged as a JSON
object behind `custom:`. Where the templates were pasted between the quotes without escapes, the
text is no JSON; then it is cut at the fixed frame around them, the name being as long as possible.
-/

namespace StreamLabel

open Unicode

structure Definition where
  name : String := ""
  description : String := ""
deriving DecidableEq, Repr

namespace Definition

/-- A part of a definition that is not as it should be. -/
inductive Flaw where
  | notJson
  | notText (field : String)
deriving DecidableEq, Repr

inductive Refused where
  | notObject
  | flawed (flaws : List Flaw)
deriving DecidableEq, Repr

/-- The message about a text that is no object at all. -/
def notObjectMessage : String :=
  "Formatter definition must be a JSON object, optionally prefixed with 'custom:'"

def marker : String := "custom:"

/-- The exchanged text of a definition. -/
def text (d : Definition) : String :=
  marker ++ Json.print .compact
    (.object [("name", .text d.name), ("description", .text d.description)])

/-! ### Plain JSON -/

/-- The text of a field, empty if it is missing. -/
def textField (fields : List (String × Json)) (name : String) : Except Flaw String :=
  match Json.lastField? name fields with
  | none => .ok ""
  | some (.text s) => .ok s
  | some _ => .error (.notText name)

def ofFields (fields : List (String × Json)) : Except (List Flaw) Definition :=
  match textField fields "name", textField fields "description" with
  | .ok name, .ok description => .ok ⟨name, description⟩
  | .error e, .ok _ | .ok _, .error e => .error [e]
  | .error e, .error f => .error [e, f]

def ofJson (payload : List Char) : Except (List Flaw) Definition :=
  match Json.read payload with
  | some (.object fields) => ofFields fields
  | _ => .error [.notJson]

/-! ### The frame -/

/-- What follows the tokens, with any blanks around each of them passed. -/
def afterTokens? : List String → List Char → Option (List Char)
  | [], cs => some cs
  | token :: tokens, cs =>
    match Json.afterToken? token (cs.dropWhile isBlank) with
    | some rest => afterTokens? tokens rest
    | none => none

/-- What follows a quote that ends the name and the tokens up to the quote of the description. -/
def afterName? : List Char → Option (List Char)
  | '"' :: cs => afterTokens? [",", "\"description\"", ":", "\""] cs
  | _ => none

/-- The parts before and behind the last place where the name may end. -/
def splitName? : List Char → Option (List Char × List Char)
  | [] => none
  | c :: cs =>
    match splitName? cs with
    | some (name, description) => some (c :: name, description)
    | none => (afterName? (c :: cs)).map ([], ·)

/-- The text without the brace, the blanks and the quote at its end. -/
def beforeEnd? (cs : List Char) : Option (List Char) :=
  match cs.reverse with
  | '\x7d' :: rest =>
    match rest.dropWhile isBlank with
    | '"' :: rest => some rest.reverse
    | _ => none
  | _ => none

/-- Cuts the templates out of their frame as they stand. -/
def ofFrame? (payload : List Char) : Option Definition := do
  let inner ← afterTokens? ["\"name\"", ":", "\""] (← Json.afterToken? "\x7b" payload)
  let (name, description) ← splitName? (← beforeEnd? inner)
  some ⟨String.ofList name, String.ofList description⟩

/-- The text of the object, without blanks around the whole and without the marker. -/
def payload (s : String) : List Char :=
  let cs := strip s.toList
  (Json.afterToken? marker cs).getD cs

def read (s : String) : Except Refused Definition :=
  let cs := payload s
  if cs.head? ≠ some '\x7b' then .error .notObject
  else
    match ofJson cs with
    | .ok d => .ok d
    | .error flaws =>
      match ofFrame? cs with
      | some d => .ok d
      | none => .error (.flawed flaws)

end Definition

end StreamLabel
