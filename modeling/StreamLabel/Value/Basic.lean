import StreamLabel.Number.Basic
import StreamLabel.Text.Quoted

/-!
# Values

What a property may hold, and the text of a value inside a table, where texts are quoted.
-/

namespace StreamLabel

inductive Value where
  | null
  | bool (b : Bool)
  | int (n : Int)
  | float (x : Float64)
  | text (s : String)
  | bytes (bs : List UInt8)
  | list (items : List Value)
  | table (entries : List (String × Value))
deriving Inhabited

namespace Value

/-- Puts an entry into a table: a key that is there keeps its place and takes the new value. -/
def insertEntry (key : String) (v : Value) : List (String × Value) → List (String × Value)
  | [] => [(key, v)]
  | (k, w) :: rest => if k = key then (k, v) :: rest else (k, w) :: insertEntry key v rest

/-- The table of a list of entries, read from the front. -/
def ofEntries (entries : List (String × Value)) : Value :=
  .table (entries.foldl (fun acc e => insertEntry e.1 e.2 acc) [])

def floatText : Float64 → String
  | .finite x => String.ofList x.shortestText
  | .infinity negative => if negative then "-inf" else "inf"
  | .nan _ => "nan"

def openTable : String := "\x7b"
def closeTable : String := "\x7d"

mutual

/-- The text of a value as it stands inside a list or a table. -/
def inner : Value → String
  | .null => "None"
  | .bool b => if b then "True" else "False"
  | .int n => toString n
  | .float x => floatText x
  | .text s => quoted s
  | .bytes bs => quotedBytes bs
  | .list items => "[" ++ ", ".intercalate (innerItems items) ++ "]"
  | .table entries => openTable ++ ", ".intercalate (innerEntries entries) ++ closeTable

def innerItems : List Value → List String
  | [] => []
  | v :: vs => inner v :: innerItems vs

def innerEntries : List (String × Value) → List String
  | [] => []
  | (k, v) :: rest => (quoted k ++ ": " ++ inner v) :: innerEntries rest

end

end Value

end StreamLabel
