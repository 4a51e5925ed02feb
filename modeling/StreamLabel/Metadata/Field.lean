import StreamLabel.Context
import StreamLabel.Number.Numeral

/-!
# Fields of metadata

A field has a kind, and values of other kinds are converted to it where nothing is lost: whole
fractions and numerals to whole numbers, bytes to texts, a few words and numbers to truth values.
-/

namespace StreamLabel

open Unicode

inductive FieldKind where
  | text
  | whole
  /-- A whole number from zero on. -/
  | size
  | truth
  /-- A list of texts, empty where it is missing. -/
  | texts
deriving DecidableEq, Repr

/-- Why a value does not fit a field. -/
inductive FieldFault where
  | textType
  | textEncoding
  | wholeType
  | wholeNumeral
  | wholeTooLarge
  | notWhole
  | notFinite
  | negative
  | truthType
  | truthWord
  | listType
deriving DecidableEq, Repr

def FieldFault.code : FieldFault → String
  | .textType => "string_type"
  | .textEncoding => "string_unicode"
  | .wholeType => "int_type"
  | .wholeNumeral => "int_parsing"
  | .wholeTooLarge => "int_parsing_size"
  | .notWhole => "int_from_float"
  | .notFinite => "finite_number"
  | .negative => "greater_than_equal"
  | .truthType => "bool_type"
  | .truthWord => "bool_parsing"
  | .listType => "list_type"

def decodeUtf8? (bytes : List UInt8) : Option String := String.fromUTF8? ⟨bytes.toArray⟩

namespace FieldKind

def toText : Value → Except FieldFault String
  | .text s => .ok s
  | .bytes bs =>
    match decodeUtf8? bs with
    | some s => .ok s
    | none => .error .textEncoding
  | _ => .error .textType

/-- Reads a numeral. -/
def wholeOfText (s : String) : Except FieldFault Int :=
  match Numeral.read s.toList with
  | .ok n => .ok n
  | .error .tooLong => .error .wholeTooLarge
  | .error .malformed => .error .wholeNumeral

def wholeOfFloat : Float64 → Except FieldFault Int
  | .finite x =>
    match x.toInt? with
    | some n => if n.natAbs < Nat.pow 2 63 then .ok n else .error .wholeTooLarge
    | none => .error .notWhole
  | _ => .error .notFinite

def toWhole : Value → Except FieldFault Int
  | .int n => .ok n
  | .bool b => .ok (if b then 1 else 0)
  | .float x => wholeOfFloat x
  | .text s => wholeOfText s
  | .bytes bs =>
    match decodeUtf8? bs with
    | some s => wholeOfText s
    | none => .error .wholeNumeral
  | _ => .error .wholeType

def toSize (v : Value) : Except FieldFault Int :=
  match toWhole v with
  | .ok n => if n < 0 then .error .negative else .ok n
  | e => e

def truthOfText (s : String) : Except FieldFault Bool :=
  let word := String.ofList (s.toList.map Char.toLower)
  if word ∈ ["0", "off", "f", "false", "n", "no"] then .ok false
  else if word ∈ ["1", "on", "t", "true", "y", "yes"] then .ok true
  else .error .truthWord

/-- The largest magnitude of a number that may stand for a truth value, exclusive. -/
def truthBound : Nat := Nat.pow 2 63

/-- Of the whole numbers only zero and one are truth values. Those outside a signed word are of
another type altogether. -/
def truthOfWhole (n : Int) : Except FieldFault Bool :=
  if n = 0 then .ok false
  else if n = 1 then .ok true
  else if -(truthBound : Int) ≤ n ∧ n < truthBound then .error .truthWord
  else .error .truthType

/-- A fraction that is whole counts like the whole number, and no other fraction fits. The lower end
of a signed word is no longer inside for a fraction. -/
def truthOfFloat : Float64 → Except FieldFault Bool
  | .finite x =>
    match x.toInt? with
    | some n => if n.natAbs < truthBound then truthOfWhole n else .error .truthType
    | none => .error .truthType
  | _ => .error .truthType

def toTruth : Value → Except FieldFault Bool
  | .bool b => .ok b
  | .int n => truthOfWhole n
  | .float x => truthOfFloat x
  | .text s => truthOfText s
  | .bytes bs =>
    match decodeUtf8? bs with
    | some s => truthOfText s
    | none => .error .truthWord
  | _ => .error .truthType

/-- The texts of a list, or the faults of its items with their places. -/
def toTexts (items : List Value) : Except (List (String × FieldFault)) (List String) :=
  let results := items.map toText
  let faults := results.zipIdx.filterMap fun (r, i) =>
    match r with
    | .error fault => some ("." ++ toString i, fault)
    | .ok _ => none
  if faults.isEmpty then
    .ok (results.filterMap fun r => match r with | .ok s => some s | .error _ => none)
  else .error faults

/-- Attaches a fault to the field itself. -/
def atField {α : Type} (r : Except FieldFault α) (f : α → Value) :
    Except (List (String × FieldFault)) Value :=
  match r with
  | .ok a => .ok (f a)
  | .error fault => .error [("", fault)]

/-- The value that a field of the kind takes for `v`, or the faults by place inside the field. -/
def accept : FieldKind → Value → Except (List (String × FieldFault)) Value
  | .texts, .list items =>
    match toTexts items with
    | .ok ss => .ok (.list (ss.map .text))
    | .error faults => .error faults
  | .texts, _ => .error [("", .listType)]
  | _, .null => .ok .null
  | .text, v => atField (toText v) .text
  | .whole, v => atField (toWhole v) .int
  | .size, v => atField (toSize v) .int
  | .truth, v => atField (toTruth v) .bool

end FieldKind

end StreamLabel
