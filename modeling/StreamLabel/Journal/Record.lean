import StreamLabel.Journal.Level
import StreamLabel.Json.Basic

/-!
# Records

A message with its level and where it comes from, and its two written forms: a line of text with
bars between the parts, and a line of JSON.
-/

namespace StreamLabel

structure Record where
  logger : String
  level : Level
  message : CodePoints
  /-- The module and the line that the message comes from. -/
  origin : String
  line : Int

namespace Record

/-- The last part of a path. -/
def fileName (path : List Char) : List Char := (path.reverse.takeWhile (· != '/')).reverse

/-- A file name without its last extension. Points at the beginning start no extension. -/
def stem (name : List Char) : List Char :=
  let extension := name.reverse.takeWhile (· != '.')
  let front := name.take (name.length - extension.length - 1)
  if name.contains '.' && front.any (· != '.') then front else name

/-- The name of the module in the file at a path. -/
def moduleOf (path : String) : String := String.ofList (stem (fileName path.toList))

/-- The names of the fields of the JSON form and their written values, the moment first. -/
def fields (r : Record) (moment : String) : List (String × String) := [
  ("timestamp", Json.quote true moment),
  ("level", Json.quote true r.level.name),
  ("logger", Json.quote true r.logger),
  ("message", Json.quotePoints true r.message),
  ("module", Json.quote true r.origin),
  ("line", toString r.line)]

/-- One line of JSON in ASCII. -/
def jsonText (fields : List (String × String)) : String :=
  let style := Json.Style.spaced
  let written := fields.map fun (name, v) => Json.quote style.ascii name ++ style.colon ++ v
  "\x7b" ++ style.comma.intercalate written ++ "\x7d"

/-- The text form; the level's name takes at least eight places. -/
def plainText (r : Record) (moment line : String) : String :=
  let name := r.level.name
  let padded := name ++ String.ofList (List.replicate (8 - name.length) ' ')
  " | ".intercalate [moment, padded, r.logger ++ ":" ++ line, r.message.text]

end Record

end StreamLabel
