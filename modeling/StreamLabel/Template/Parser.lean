import StreamLabel.Template.ParseError
import StreamLabel.Unicode.Blank
import StreamLabel.Unicode.Identifier

/-!
# Reading templates

    template    := (literal | placeholder)*
    placeholder := '{' namespace '.' property ('::' modifier)? '}'
    modifier    := operator operand branches | '/' pattern '/' branches | name
    branches    := '[' '"' template '"' '||' '"' template '"' ']'

Blanks between the parts of a placeholder are skipped. Inside the quotes of a branch a backslash
escapes a quote or a backslash; at the top level text has no escapes. Every reader starts at a
cursor and returns what it read with the cursor behind it, or the first fault and its position.
-/

namespace StreamLabel

open Unicode

/-- A place in the text: how many characters precede it, and those that follow. -/
structure Cursor where
  pos : Nat
  rest : List Char
deriving DecidableEq, Repr

namespace Cursor

def skip (n : Nat) (c : Cursor) : Cursor := ⟨c.pos + n, c.rest.drop n⟩

/-- Passes the longest run of characters that `p` picks. -/
def skipWhile (p : Char → Bool) (c : Cursor) : Cursor :=
  c.skip (c.rest.takeWhile p).length

def skipBlanks (c : Cursor) : Cursor := c.skipWhile isBlank

def startsWith (c : Cursor) (token : String) : Bool := token.toList.isPrefixOf c.rest

end Cursor

structure Fault where
  cause : Cause
  position : Nat
deriving DecidableEq, Repr

abbrev Reader (α : Type) := Cursor → Except Fault (α × Cursor)

namespace Reader

/-- A letter or low line and the letters, digits and low lines after it; empty if there is none. -/
def name (c : Cursor) : String × Cursor :=
  match c.rest with
  | [] => ("", c)
  | d :: _ =>
    if isAsciiNameStart d then
      let cs := c.rest.takeWhile isAsciiNamePart
      (String.ofList cs, c.skip cs.length)
    else ("", c)

/-- The fault of a placeholder that opens at `start` and lacks a part at `c`. -/
def placeholderFault (start : Nat) (part : Expected) (c : Cursor) : Fault :=
  if c.rest.isEmpty then ⟨.missingBrace, start⟩ else ⟨.expected part, c.pos⟩

/-- The fault of branches that open at `start` and lack a part at `c`. -/
def branchesFault (start : Nat) (cause : Cause) (c : Cursor) : Fault :=
  if c.rest.isEmpty then ⟨.openBranches, start⟩ else ⟨cause, c.pos⟩

/-! ### Conditions -/

/-- Blanks and then a bracket. -/
def bracketFollows (cs : List Char) : Bool :=
  match cs.dropWhile isBlank with
  | '[' :: _ => true
  | _ => false

/-- The length of a pattern: up to the first slash, outside pairs of a backslash and a character,
that a bracket follows. -/
def patternLength? : List Char → Option Nat
  | [] => none
  | '\\' :: [] => none
  | '\\' :: _ :: cs => (patternLength? cs).map (· + 2)
  | c :: cs =>
    if c = '/' ∧ bracketFollows cs then some 0 else (patternLength? cs).map (· + 1)

/-- A slash stands outside pairs of a backslash and a character. -/
def hasSlash : List Char → Bool
  | [] => false
  | '\\' :: [] => false
  | '\\' :: _ :: cs => hasSlash cs
  | c :: cs => c == '/' || hasSlash cs

/-- Reads `/pattern/` from its first slash, in the placeholder that opens at `start`. -/
def regex (start : Nat) : Reader Condition := fun c =>
  let body := c.rest.drop 1
  match patternLength? body with
  | some n => .ok (.regex (String.ofList (body.take n)), c.skip (n + 2))
  | none =>
    if hasSlash body then .error ⟨.regexWithoutBranches, c.pos⟩
    else if c.rest.contains '\x7d' then .error ⟨.unclosedRegex, c.pos⟩
    else .error ⟨.openRegex, start⟩

def endsOperand (c : Char) : Bool := c == '[' || c == '\x7d'

/-- Reads an operand up to its bracket. The modifier begins at `modifier`, its placeholder at
`start`. -/
def operand (start modifier : Nat) : Reader String := fun c =>
  let raw := c.rest.takeWhile fun d => !endsOperand d
  match c.rest.drop raw.length with
  | [] => .error ⟨.openPlaceholder, start⟩
  | d :: _ =>
    if d = '[' then .ok (String.ofList (strip raw), c.skip raw.length)
    else .error ⟨.comparisonWithoutBranches, modifier⟩

/-- The operators, each before those that begin it. -/
def operators : List CompareOp := [.ge, .le, .gt, .lt, .eq]

def operator? (c : Cursor) : Option CompareOp := operators.find? fun op => c.startsWith op.symbol

/-! ### Placeholders -/

/-- What was read behind the two colons of a placeholder: a modifier, and branches if there are any. -/
structure Modifier where
  kind : StreamLabel.Modifier
  yes : Option (List Node × String) := none
  no : Option (List Node × String) := none

namespace Modifier

abbrev absent : Modifier := { kind := .none }

abbrev format (name : String) : Modifier := { kind := .format name }

abbrev choice (condition : Condition) (yes no : List Node × String) : Modifier :=
  ⟨.condition condition, some yes, some no⟩

/-- Builds the placeholder that opens at `start`. -/
def build (m : Modifier) (start : Nat) (ref : Reference) : Except Fault Node :=
  (Node.build start ref m.kind m.yes m.no).mapError fun e => ⟨.unbuilt e, start⟩

end Modifier

/-- Reads a branch from its quote on. The branches open at `start`. -/
def quotedBranch (branch : Reader (List Node × String)) (start : Nat) :
    Reader (List Node × String) := fun c =>
  if c.startsWith "\"" then branch c else .error (branchesFault start .expectedQuote c)

/-- Reads two branches from their bracket on. -/
def branches (branch : Reader (List Node × String)) :
    Reader ((List Node × String) × (List Node × String)) := fun c => do
  let (yes, d) ← quotedBranch branch c.pos (c.skip 1).skipBlanks
  let d := d.skipBlanks
  if d.startsWith "||" then
    let (no, e) ← quotedBranch branch c.pos (d.skip 2).skipBlanks
    let e := e.skipBlanks
    if e.startsWith "]" then .ok ((yes, no), e.skip 1)
    else .error (branchesFault c.pos .expectedBracket e)
  else .error (branchesFault c.pos .expectedBars d)

/-- Reads the condition at the front, if one is there. -/
def condition (start : Nat) (c : Cursor) : Option (Except Fault (Condition × Cursor)) :=
  if c.startsWith "/" then some (regex start c)
  else
    (operator? c).map fun op =>
      match operand start c.pos (c.skip op.symbol.length) with
      | .ok (text, d) => .ok (.compare op text, d)
      | .error f => .error f

/-- Reads the modifier of the placeholder that opens at `start`. -/
def modifier (branch : Reader (List Node × String)) (start : Nat) : Reader Modifier := fun c =>
  match c.rest with
  | [] => .error ⟨.openPlaceholder, start⟩
  | first :: _ =>
    match condition start c with
    | some result => do
      let (condition, d) ← result
      let d := d.skipBlanks
      if d.startsWith "[" then do
        let ((yes, no), e) ← branches branch d
        .ok (.choice condition yes no, e)
      else .error ⟨.conditionWithoutBranches condition, c.pos⟩
    | none =>
      let (formatter, d) := name c
      if formatter = "" then .error ⟨.invalidModifier first, c.pos⟩
      else
        let d := d.skipBlanks
        if d.startsWith "[" then .error ⟨.formatterWithBranches formatter, c.pos⟩
        else .ok (.format formatter, d)

/-- Reads the namespace and the property of the placeholder that opens at `start`. -/
def reference (start : Nat) : Reader Reference := fun c => do
  let c := c.skipBlanks
  let (spaceName, d) := name c
  if spaceName = "" then .error (placeholderFault start .space d)
  else
    match Namespace.ofName? spaceName with
    | none => .error ⟨.unknownNamespace spaceName, c.pos⟩
    | some space =>
      let d := d.skipBlanks
      if d.startsWith "." then
        let (property, e) := name (d.skip 1).skipBlanks
        if property = "" then .error (placeholderFault start .property e)
        else .ok (⟨space, property⟩, e)
      else .error (placeholderFault start .dot d)

/-- Reads a placeholder from its brace on; `branch` reads a branch from its quote on. -/
def placeholder (branch : Reader (List Node × String)) : Reader Node := fun c => do
  let (ref, d) ← reference c.pos (c.skip 1)
  let d := d.skipBlanks
  let (found, e) ←
    if d.startsWith "::" then modifier branch c.pos (d.skip 2).skipBlanks
    else .ok (.absent, d)
  let e := e.skipBlanks
  if e.startsWith "\x7d" then do
    let node ← found.build c.pos ref
    .ok (node, e.skip 1)
  else .error (placeholderFault c.pos .brace e)

/-! ### Sequences and branches -/

/-- The literal of the reversed text `text`, if there is any, before `nodes`. -/
def flush (text : List Char) (nodes : List Node) : List Node :=
  if text.isEmpty then nodes else .literal (String.ofList text.reverse) :: nodes

/-- A quote or a backslash, which a backslash escapes inside a branch. -/
def isEscapable (c : Char) : Bool := c == '"' || c == '\\'

/-- The character that an escape at the front of a branch stands for. -/
def escaped? : List Char → Option Char
  | '\\' :: c :: _ => if isEscapable c then some c else none
  | _ => none

/-- Reads text and placeholders to the end, or to the closing quote of the branch whose opening
quote stands at `quote`. The next `skip` characters belong to what was read before, and `text` is
the literal text since then, reversed. -/
def sequence (placeholder : Reader Node) (quote : Option Nat) :
    (pos : Nat) → (rest : List Char) → (skip : Nat) → (text : List Char) →
      Except Fault (List Node × Cursor)
  | pos, [], _, text =>
    match quote with
    | some q => .error ⟨.openBranch, q⟩
    | none => .ok (flush text [], ⟨pos, []⟩)
  | pos, _ :: cs, skip + 1, text => sequence placeholder quote (pos + 1) cs skip text
  | pos, c :: cs, 0, text =>
    match (if quote.isSome then escaped? (c :: cs) else none) with
    | some e => sequence placeholder quote (pos + 1) cs 1 (e :: text)
    | none =>
      if quote.isSome ∧ c = '"' then .ok (flush text [], ⟨pos, c :: cs⟩)
      else if c = '\x7b' then do
        let (node, next) ← placeholder ⟨pos, c :: cs⟩
        let (nodes, stop) ← sequence placeholder quote (pos + 1) cs (next.pos - pos - 1) []
        .ok (flush text (node :: nodes), stop)
      else sequence placeholder quote (pos + 1) cs 0 (c :: text)

/-- Reads a branch from its quote on, with `levels` more levels of branches allowed from here. -/
def branch (limit : Int) : (levels : Nat) → Reader (List Node × String)
  | 0 => fun c => .error ⟨.tooDeep limit, c.pos⟩
  | levels + 1 => fun c => do
    let (nodes, stop) ←
      sequence (placeholder (branch limit levels)) (some c.pos) (c.pos + 1) (c.rest.drop 1) 0 []
    let source := (c.rest.drop 1).take (stop.pos - c.pos - 1)
    .ok ((nodes, String.ofList source), stop.skip 1)

/-- Reads a whole text whose branches may nest down to `limit` levels. -/
def template (limit : Int) (cs : List Char) : Except Fault (List Node × Cursor) :=
  sequence (placeholder (branch limit limit.toNat)) none 0 cs 0 []

end Reader

namespace Template

/-- Reads a template whose branches may nest down to `limit` levels. -/
def parse (source : String) (limit : Int) : Except ParseError Template :=
  match Reader.template limit source.toList with
  | .ok (nodes, _) => .ok ⟨nodes, source⟩
  | .error f => .error ⟨f.cause, f.position, utf8Length (source.toList.take f.position)⟩

/-- The nesting allowed where nothing else is said. -/
def defaultLimit : Int := 32

end Template

end StreamLabel
