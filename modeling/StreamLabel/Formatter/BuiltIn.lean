import StreamLabel.Formatter.Size
import StreamLabel.Unicode.Casing

/-!
# Built-in formatters

Sizes, and the three casings of the canonical text.
-/

namespace StreamLabel

namespace Formatter

/-- A formatter that maps the canonical text. -/
def ofText (f : List Char → List Char) (v : Resolved) : Except Failure String :=
  match v.written with
  | .ok text => .ok (String.ofList (f text.toList))
  | .error u => .error (.unwritable u)

def size : Formatter :=
  ⟨"size", .numeric, "Byte count as a readable size (e.g., '2.50 GB')", Size.format⟩

def upper : Formatter :=
  ⟨"upper", .text, "Uppercase text (e.g., 'webdl' -> 'WEBDL')", ofText Unicode.upper⟩

def lower : Formatter :=
  ⟨"lower", .text, "Lowercase text (e.g., 'BluRay' -> 'bluray')", ofText Unicode.lower⟩

def title : Formatter :=
  ⟨"title", .text, "Title case text (e.g., 'the office' -> 'The Office')", ofText Unicode.title⟩

end Formatter

def Registry.builtIn : Registry := [.size, .upper, .lower, .title]

end StreamLabel
