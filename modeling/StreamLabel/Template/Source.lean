import StreamLabel.Template.Parser
import StreamLabel.Text.CodePoints

/-!
# Templates in any text

A text that is given by its code points may hold halves of surrogate pairs. They are read like any
other character that is no sign of the grammar; the tree and the messages show the replacement
character for them. But an error cannot be reported where one precedes it, since the bytes up to the
error are counted, and none whose message would hold a number that is not written.
-/

namespace StreamLabel.Template

/-- Why a text gives no template. -/
inductive Failure where
  | error (e : ParseError)
  /-- The text in front of an error has no bytes. -/
  | unencodable (u : Unencodable)
  /-- The message of an error would hold a number that is not written. -/
  | unwritable (u : Unwritable)
deriving DecidableEq, Repr

namespace Failure

/-- The failure of a text that has an error. Its message is made before the bytes are counted. -/
def ofError (source : CodePoints) (e : ParseError) : Failure :=
  if e.cause.isWritable then
    match CodePoints.unencodable? (source.take e.position) with
    | none => .error e
    | some u => .unencodable u
  else .unwritable .tooManyDigits

end Failure

/-- Reads a template whose branches may nest down to `limit` levels from any text. -/
def read (source : CodePoints) (limit : Int) : Except Failure Template :=
  (parse source.text limit).mapError (Failure.ofError source)

end StreamLabel.Template
