import StreamLabel.Number.Integer
import StreamLabel.Pattern.Fold
import StreamLabel.Pattern.Defect
import StreamLabel.Text.Quoted
import StreamLabel.Unicode.Identifier
import StreamLabel.Unicode.Name

/-!
# Reading patterns

A pattern is read token by token, a token being a character or a backslash with the character after
it. The token ahead is always looked at first, so that a backslash at the very end is found as soon
as it comes into view. Positions in errors are those of the token ahead, less an offset.
-/

namespace StreamLabel.Pattern

open Unicode

/-! ### Tokens -/

inductive Token where
  | plain (c : Char)
  | escaped (c : Char)
deriving DecidableEq, Repr

def Token.text : Token → List Char
  | .plain c => [c]
  | .escaped c => ['\\', c]

/-- How far a pattern has been read, and what was met in it. -/
structure Progress where
  pos : Nat
  rest : List Char
  flags : Flags
  names : List (String × Nat)
  /-- The widths of the groups begun so far, in order; none while a group is open. -/
  widths : List (Option Width)
  /-- Inside a look behind: only groups with a smaller number may be referred to. -/
  bound : Option Nat
  /-- The groups that conditions ask for by number, and where. -/
  asked : List (Nat × Nat)

abbrev ReadM := StateT Progress (Except Rejection)

namespace Progress

/-- How many groups there are, the whole pattern being one. -/
def groups (p : Progress) : Nat := p.widths.length + 1

def width (p : Progress) (index : Nat) : Option Width :=
  if index = 0 then none else (p.widths[index - 1]?).join

end Progress

def failAt {α : Type} (defect : Defect) (pos : Nat) : ReadM α :=
  throw (.malformed defect (some pos))

/-- Fails `offset` characters before the token ahead. -/
def fail {α : Type} (defect : Defect) (offset : Nat) : ReadM α := do
  failAt defect ((← get).pos - offset)

/-- Fails if a backslash is all that is left. -/
def checkAhead : ReadM Unit := do
  let p ← get
  if p.rest = ['\\'] then failAt .danglingEscape p.pos

def peek : ReadM (Option Token) := do
  match (← get).rest with
  | [] => return none
  | '\\' :: c :: _ => return some (.escaped c)
  | c :: _ => return some (.plain c)

/-- Passes the token ahead, if there is one. -/
def next : ReadM (Option Token) := do
  match ← peek with
  | none => return none
  | some t =>
    modify fun p => { p with pos := p.pos + t.text.length, rest := p.rest.drop t.text.length }
    checkAhead
    return some t

/-- Passes the character `c` if it is ahead. -/
def accept (c : Char) : ReadM Bool := do
  if (← peek) = some (.plain c) then
    let _ ← next
    return true
  else return false

/-- Reads at most `n` characters that `p` picks. -/
def takeUpTo (p : Char → Bool) : Nat → ReadM (List Char)
  | 0 => return []
  | n + 1 => do
    match ← peek with
    | some (.plain c) =>
      if p c then
        let _ ← next
        return c :: (← takeUpTo p n)
      else return []
    | _ => return []

/-- Reads a name up to the character `closer`; `what` tells what it names. -/
def nameUntil (closer : Char) (what : String) : ReadM (List Char) := do
  go [] ((← get).rest.length + 1)
where
  go (read : List Char) : Nat → ReadM (List Char)
    | 0 => return read
    | fuel + 1 => do
      match ← next with
      | none =>
        if read.isEmpty then fail (.missing what) 0
        else fail (.openName closer.toString) read.length
      | some t =>
        if t = .plain closer then
          if read.isEmpty then fail (.missing what) 1 else return read
        else go (read ++ t.text) fuel

/-! ### Escapes -/

def isHexDigit (c : Char) : Bool := (hexDigitValue? c).isSome

def isOctalDigit (c : Char) : Bool := '0' ≤ c ∧ c ≤ '7'

def isAsciiLetter (c : Char) : Bool := c.isAlpha

def octalValue (digits : List Char) : Nat :=
  digits.foldl (fun n c => n * 8 + (c.toNat - '0'.toNat)) 0

/-- The text of an escape that begins with `c`. -/
def escapeText (c : Char) (digits : List Char) : String := String.ofList ('\\' :: c :: digits)

/-- The control characters that have a letter, and the backslash. -/
def control? : Char → Option Nat
  | 'a' => some 7
  | 'f' => some 12
  | 'n' => some 10
  | 'r' => some 13
  | 't' => some 9
  | 'v' => some 11
  | '\\' => some 92
  | _ => none

def category? : Char → Option (Category × Bool)
  | 'd' => some (.digit, false)
  | 'D' => some (.digit, true)
  | 's' => some (.space, false)
  | 'S' => some (.space, true)
  | 'w' => some (.word, false)
  | 'W' => some (.word, true)
  | _ => none

def anchor? : Char → Option Anchor
  | 'A' => some .textStart
  | 'Z' => some .textEnd
  | 'b' => some .wordEdge
  | 'B' => some .noWordEdge
  | _ => none

/-- Reads the digits of an escape that takes `count` of them. -/
def hexEscape (c : Char) (count : Nat) : ReadM Nat := do
  let digits ← takeUpTo isHexDigit count
  let size := digits.length + 2
  if digits.length ≠ count then fail (.incompleteEscape (escapeText c digits)) size
  else if 0x10ffff < hexValue digits then fail (.badEscape (escapeText c digits)) size
  else return hexValue digits

/-- Reads an escape that means the same inside and outside of sets. -/
def codeEscape (c : Char) : ReadM Nat := do
  if c = 'x' then hexEscape c 2
  else if c = 'u' then hexEscape c 4
  else if c = 'U' then hexEscape c 8
  else if c = 'N' then
    if ← accept '\x7b' then
      let name ← nameUntil '\x7d' "character name"
      match codeNamed? name with
      | some n => return n
      | none => fail (.unknownCharacter (quoted (String.ofList name))) (name.length + 4)
    else fail .missingCharacterBrace 0
  else if isAsciiLetter c || isAsciiDigit c then fail (.badEscape (escapeText c [])) 2
  else return c.toNat

/-- The code point of octal digits, the first of which is `c`. -/
def octal (c : Char) (digits : List Char) : ReadM Nat :=
  if 0o377 < octalValue (c :: digits) then
    fail (.octalTooLarge (escapeText c digits)) (digits.length + 2)
  else return octalValue (c :: digits)

def setEscape (c : Char) : ReadM Member := do
  if c = 'b' then return .code 8
  else
    match control? c, category? c with
    | some n, _ => return .code n
    | _, some (k, negated) => return .category k negated
    | _, _ =>
      if isOctalDigit c then return .code (← octal c (← takeUpTo isOctalDigit 2))
      else return .code (← codeEscape c)

/-- Fails if the group may not be referred to inside the look behind being read. -/
def checkBound (index : Nat) : ReadM Unit := do
  let p ← get
  match p.bound with
  | none => return
  | some bound =>
    if (p.width index).isNone then fail .openGroup 0
    else if bound ≤ index then fail .sameLookBehind 0

/-- Reads what follows a backslash and the digit `c`: a code point in three octal digits, or the
number of a group. -/
def digitEscape (c : Char) : ReadM Expr := do
  let more ← takeUpTo isAsciiDigit 1
  let last ←
    if isOctalDigit c && !more.isEmpty && more.all isOctalDigit then takeUpTo isOctalDigit 1
    else pure []
  if !last.isEmpty then return .code (← octal c (more ++ last))
  else
    let index := ofDigitValues ((c :: more).map fun d => d.toNat - '0'.toNat)
    let p ← get
    if p.groups ≤ index then fail (.noGroup index) (more.length + 1)
    else if (p.width index).isNone then fail .openGroup (more.length + 2)
    else
      checkBound index
      return .backreference index

def escape (c : Char) : ReadM Expr := do
  match anchor? c, category? c, control? c with
  | some a, _, _ => return .anchor a
  | _, some (k, negated), _ => return .set false [.category k negated]
  | _, _, some n => return .code n
  | _, _, _ =>
    if c = '0' then return .code (← octal c (← takeUpTo isOctalDigit 2))
    else if isAsciiDigit c then digitEscape c
    else return .code (← codeEscape c)

/-! ### Sets -/

def setMember : Token → ReadM Member
  | .plain c => return .code c.toNat
  | .escaped c => setEscape c

/-- Reads the members of the set whose bracket stands at `start`, up to its closing bracket. -/
def setMembers (start : Nat) : List Member → Nat → ReadM (List Member)
  | members, 0 => return members
  | members, fuel + 1 => do
    match ← next with
    | none => failAt .openSet start
    | some this =>
      if this = .plain ']' ∧ members ≠ [] then return members
      else
        let low ← setMember this
        if ← accept '-' then
          match ← next with
          | none => failAt .openSet start
          | some that =>
            if that = .plain ']' then return members ++ [low, .code '-'.toNat]
            else
              let high ← setMember that
              let bad : ReadM (List Member) :=
                fail (.badRange (String.ofList this.text) (String.ofList that.text))
                  (this.text.length + 1 + that.text.length)
              match low, high with
              | .code a, .code b =>
                if b < a then bad else setMembers start (members ++ [.range a b]) fuel
              | _, _ => bad
        else setMembers start (members ++ [low]) fuel

/-- Reads a set from behind its bracket. -/
def charSet : ReadM Expr := do
  let p ← get
  let negated ← accept '^'
  let members ← setMembers (p.pos - 1) [] (p.rest.length + 1)
  match members.eraseDups, negated with
  | [.code n], false => return .code n
  | [.code n], true => return .notCode n
  | members, negated => return .set negated members

/-! ### Repetition -/

/-- An expression in a sequence, or several that stand in a group without effects. -/
inductive Item where
  | one (e : Expr)
  | many (es : List Expr)

def Item.toExpr : Item → Expr
  | .one e => e
  | .many es => .ofList es

/-- The expressions of items given in reverse. -/
def Item.spread (items : List Item) : List Expr :=
  items.reverse.flatMap fun
    | .one e => [e]
    | .many es => es

/-- Counts from here on are refused. -/
def countLimit : Nat := Nat.pow 2 32 - 1

def readCount (digits : List Char) : ReadM Nat :=
  if digitLimit < digits.length then throw (.refused (.tooManyDigits digits.length))
  else
    let n := ofDigitValues (digits.map fun d => d.toNat - '0'.toNat)
    if countLimit ≤ n then throw (.refused .repetitionTooLarge) else return n

/-- Reads counts from behind their brace. If no closing brace follows, nothing is read. -/
def bounds? : ReadM (Option (Nat × Option Nat)) := do
  let start ← get
  if (← peek) = some (.plain '\x7d') then return none
  else
    let low ← takeUpTo isAsciiDigit start.rest.length
    let high ← if ← accept ',' then takeUpTo isAsciiDigit start.rest.length else pure low
    if ← accept '\x7d' then
      let least ← if low.isEmpty then pure 0 else readCount low
      if high.isEmpty then return some (least, none)
      else
        let most ← readCount high
        if most < least then failAt .repeatOrder start.pos else return some (least, some most)
    else
      set start
      return none

/-- The item in front of a repetition whose sign stands at `start`. -/
def repeatable (start : Nat) : List Item → ReadM (Expr × List Item)
  | [] => failAt .nothingToRepeat start
  | .one (.anchor _) :: _ => failAt .nothingToRepeat start
  | .one (.repeated _ _ _ _) :: _ => failAt .multipleRepeat start
  | item :: items => return (item.toExpr, items)

/-- Reads the sign behind the count of a repetition. One sign at most belongs to it: what follows is
a repetition of its own. -/
def greed : ReadM Greed := do
  if ← accept '?' then return .lazy
  else if ← accept '+' then return .possessive
  else return .greedy

def repetition (start : Nat) (items : List Item) (least : Nat) (most : Option Nat) :
    ReadM (List Item) := do
  let (body, items) ← repeatable start items
  return .one (.repeated (← greed) least most body) :: items

/-! ### Flags -/

/-- The defect of a token where a flag was looked for. -/
def flagDefect (missing : Defect) : Token → Defect
  | .plain c => if isLetter c then .unknownFlag else missing
  | .escaped _ => missing

def Token.flag? : Token → Option (Char × Flag)
  | .plain c => (Flag.ofLetter? c).map (c, ·)
  | .escaped _ => none

/-- Reads flags to turn on, of which `flag` was just read, and the sign that ends them. -/
def flagsOn (on : Flags) (flag : Flag) : Nat → ReadM (Flags × Char)
  | 0 => return (on, ')')
  | fuel + 1 => do
    if flag = .locale then fail .localeFlag 0
    else if flag.isRepertoire && on.any fun f => f.isRepertoire && f != flag then
      fail .repertoireClash 0
    else
      let on := on ++ [flag]
      match ← next with
      | none => fail .missingFlagEnd 0
      | some t =>
        match t, t.flag? with
        | _, some (_, f) => flagsOn on f fuel
        | .plain ')', _ => return (on, ')')
        | .plain '-', _ => return (on, '-')
        | .plain ':', _ => return (on, ':')
        | _, _ => fail (flagDefect .missingFlagEnd t) t.text.length

/-- Reads flags to turn off up to a colon, of which `flag` was just read. -/
def flagsOff (off : Flags) (flag : Flag) : Nat → ReadM Flags
  | 0 => return off
  | fuel + 1 => do
    if flag.isRepertoire then fail .repertoireOff 0
    else
      let off := off ++ [flag]
      match ← next with
      | none => fail .missingColon 0
      | some t =>
        match t, t.flag? with
        | _, some (_, f) => flagsOff off f fuel
        | .plain ':', _ => return off
        | _, _ => fail (flagDefect .missingColon t) t.text.length

/-- Reads flags from behind their first sign. Flags for the whole pattern are put in force, and
nothing is returned. -/
def flags? (first : Option Flag) : ReadM (Option (Flags × Flags)) := do
  let fuel := (← get).rest.length + 1
  let (on, sign) ←
    match first with
    | some flag => flagsOn [] flag fuel
    | none => pure ([], '-')
  if sign = ')' then
    modify fun p => { p with flags := p.flags ++ on }
    return none
  else if on.contains .bareTemplate then fail .globalFlagOn 1
  else
    let off ←
      if sign = '-' then do
        match ← next with
        | none => fail .missingFlag 0
        | some t =>
          match t.flag? with
          | some (_, f) => flagsOff [] f fuel
          | none => fail (flagDefect .missingFlag t) t.text.length
      else pure []
    if off.contains .bareTemplate then fail .globalFlagOff 1
    else if on.any off.contains then fail .flagOnAndOff 1
    else return some (on, off)

/-! ### Groups -/

/-- Passes the parenthesis that closes the group opened at `start`. -/
def close (start : Nat) : ReadM Unit := do
  if ← accept ')' then return else failAt .openGroupText start

def groupName (closer : Char) : ReadM String := do
  let name ← nameUntil closer "group name"
  if isIdentifier name then return String.ofList name
  else fail (.badName (quoted (String.ofList name))) (name.length + 1)

/-- The number of the group called `name`, which was just read. -/
def groupNamed (name : String) : ReadM Nat := do
  match (← get).names.lookup name with
  | some index => return index
  | none => fail (.unknownName (quoted name)) (name.length + 1)

/-- Opens a group and returns its number. -/
def openGroup (name : Option String) : ReadM Nat := do
  let p ← get
  match name with
  | none =>
    set { p with widths := p.widths ++ [none] }
    return p.groups
  | some name =>
    match p.names.lookup name with
    | some earlier => fail (.redefinedName (quoted name) p.groups earlier) (name.length + 1)
    | none =>
      set { p with widths := p.widths ++ [none], names := p.names ++ [(name, p.groups)] }
      return p.groups

def widthOf (e : Expr) : ReadM Width := do
  let p ← get
  return e.width fun i => (p.width i).getD default

def closeGroup (index : Nat) (e : Expr) : ReadM Unit := do
  let w ← widthOf e
  modify fun p => { p with widths := p.widths.set (index - 1) (some w) }

def namedBackreference : ReadM Expr := do
  let name ← groupName ')'
  let index ← groupNamed name
  if ((← get).width index).isNone then fail .openGroup (name.length + 1)
  else
    checkBound index
    return .backreference index

/-- One more than the greatest number a group may have. -/
def groupLimit : Nat := Nat.pow 2 30 - 1

/-- Reads the name or the number of the group that a condition asks for. -/
def conditionGroup : ReadM Nat := do
  let name ← nameUntil ')' "group name"
  let size := name.length + 1
  if isIdentifier name then
    let index ← groupNamed (String.ofList name)
    checkBound index
    return index
  else
    match Integer.read? name with
    | some (.ofNat 0) => fail .zeroGroup size
    | some (.ofNat index) =>
      if groupLimit ≤ index then fail (.noGroup index) size
      else
        modify fun p =>
          if (p.asked.lookup index).isSome then p
          else { p with asked := p.asked ++ [(index, p.pos - size)] }
        checkBound index
        return index
    | _ => fail (.badName (quoted (String.ofList name))) size

/-- Passes a comment up to the parenthesis that closes the group opened at `start`. -/
def skipCommentGroup (start : Nat) : Nat → ReadM Unit
  | 0 => return
  | fuel + 1 => do
    match ← next with
    | none => failAt .openComment start
    | some t => if t = .plain ')' then return else skipCommentGroup start fuel

/-- Passes the rest of a line. -/
def skipLine : Nat → ReadM Unit
  | 0 => return
  | fuel + 1 => do
    match ← next with
    | none => return
    | some t => if t = .plain '\n' then return else skipLine fuel

/-! ### Alternatives and sequences -/

/-- Takes the leaves that all alternatives begin with out of them. -/
def commonLeaves : List (List Expr) → Nat → List Expr × List (List Expr)
  | alternatives, 0 => ([], alternatives)
  | alternatives, fuel + 1 =>
    match alternatives with
    | (e :: es) :: rest =>
      if rest.all fun other => other.head?.any e.sameLeaf then
        let (leaves, alternatives) := commonLeaves (es :: rest.map (·.drop 1)) fuel
        (e :: leaves, alternatives)
      else ([], alternatives)
    | alternatives => ([], alternatives)

/-- One sequence for several alternatives. Characters and sets become one set. -/
def joinAlternatives (alternatives : List (List Expr)) : List Expr :=
  match alternatives with
  | [es] => es
  | alternatives =>
    let fuel := alternatives.flatten.length
    let (leaves, alternatives) := commonLeaves alternatives fuel
    let single : List Expr → Option (List Member)
      | [e] => e.members?
      | _ => none
    match alternatives.mapM single with
    | some sets => leaves ++ [.set false sets.flatten.eraseDups]
    | none => leaves ++ [.ofAlternatives (alternatives.map .ofList)]

def isVerboseBlank (c : Char) : Bool := isAsciiBlank c

mutual

/-- Reads alternatives up to a parenthesis or the end; `top` tells that they are those of the whole
pattern. -/
def alternation (top verbose : Bool) : Nat → ReadM (List Expr)
  | 0 => return []
  | fuel + 1 => do return joinAlternatives (← alternatives top verbose true fuel)
termination_by structural fuel => fuel

def alternatives (top verbose first : Bool) : Nat → ReadM (List (List Expr))
  | 0 => return []
  | fuel + 1 => do
    let es ← sequence verbose (top && first) [] fuel
    if ← accept '|' then
      let flags := (← get).flags
      let verbose := if top then flags.contains .verbose else verbose
      return es :: (← alternatives top verbose false fuel)
    else return [es]
termination_by structural fuel => fuel

/-- Reads a sequence behind the reversed `items`; `first` tells that flags for the whole pattern may
stand at its beginning. -/
def sequence (verbose first : Bool) (items : List Item) : Nat → ReadM (List Expr)
  | 0 => return Item.spread items
  | fuel + 1 => do
    match ← peek with
    | none | some (.plain '|') | some (.plain ')') => return Item.spread items
    | some t =>
      let start := (← get).pos
      let _ ← next
      match t with
      | .escaped c => sequence verbose first (.one (← escape c) :: items) fuel
      | .plain c =>
        if verbose && isVerboseBlank c then sequence verbose first items fuel
        else if verbose && c == '#' then
          skipLine ((← get).rest.length + 1)
          sequence verbose first items fuel
        else
          match c with
          | '[' => sequence verbose first (.one (← charSet) :: items) fuel
          | '.' => sequence verbose first (.one .any :: items) fuel
          | '^' => sequence verbose first (.one (.anchor .lineStart) :: items) fuel
          | '$' => sequence verbose first (.one (.anchor .lineEnd) :: items) fuel
          | '?' => sequence verbose first (← repetition start items 0 (some 1)) fuel
          | '*' => sequence verbose first (← repetition start items 0 none) fuel
          | '+' => sequence verbose first (← repetition start items 1 none) fuel
          | '\x7b' =>
            match ← bounds? with
            | some (least, most) =>
              sequence verbose first (← repetition start items least most) fuel
            | none => sequence verbose first (.one (.code c.toNat) :: items) fuel
          | '(' =>
            match ← group verbose (first && items.isEmpty) start fuel with
            | some item => sequence verbose first (item :: items) fuel
            | none =>
              let flags := (← get).flags
              let verbose := verbose || first && items.isEmpty && flags.contains .verbose
              sequence verbose first items fuel
          | c => sequence verbose first (.one (.code c.toNat) :: items) fuel
termination_by structural fuel => fuel

/-- Reads a group whose parenthesis stands at `start`; comments and flags for the whole pattern give
no item. -/
def group (verbose mayFlag : Bool) (start : Nat) : Nat → ReadM (Option Item)
  | 0 => return none
  | fuel + 1 => do
    if ← accept '?' then
      match ← next with
      | none => fail .unexpectedEnd 0
      | some t =>
        match t with
        | .plain 'P' =>
          if ← accept '<' then
            let name ← groupName '>'
            capture verbose (some name) start fuel
          else if ← accept '=' then return some (.one (← namedBackreference))
          else
            match ← next with
            | none => fail .unexpectedEnd 0
            | some t =>
              fail (.unknownExtension (String.ofList ('?' :: 'P' :: t.text))) (t.text.length + 2)
        | .plain ':' =>
          let es ← alternation false verbose fuel
          close start
          return some (.many es)
        | .plain '#' =>
          skipCommentGroup start ((← get).rest.length + 1)
          return none
        | .plain '=' => look none false verbose start fuel
        | .plain '!' => look none true verbose start fuel
        | .plain '<' =>
          match ← next with
          | none => fail .unexpectedEnd 0
          | some (.plain '=') => look (some (← get).groups) false verbose start fuel
          | some (.plain '!') => look (some (← get).groups) true verbose start fuel
          | some t =>
            fail (.unknownExtension (String.ofList ('?' :: '<' :: t.text))) (t.text.length + 2)
        | .plain '(' => conditional verbose start fuel
        | .plain '>' =>
          let es ← alternation false verbose fuel
          close start
          return some (.one (.atomic (.ofList es)))
        | t =>
          if t = .plain '-' || t.flag?.isSome then
            match ← flags? (t.flag?.map (·.2)) with
            | none =>
              if mayFlag then return none else failAt .flagsNotAtStart start
            | some (on, off) =>
              let verbose := (verbose || on.contains .verbose) && !off.contains .verbose
              let es ← alternation false verbose fuel
              close start
              if on.isEmpty && off.isEmpty then return some (.many es)
              else return some (.one (.group none on off (.ofList es)))
          else
            fail (.unknownExtension (String.ofList ('?' :: t.text))) (t.text.length + 1)
    else capture verbose none start fuel
termination_by structural fuel => fuel

/-- Reads the body of a group that is referred to by number. -/
def capture (verbose : Bool) (name : Option String) (start : Nat) : Nat → ReadM (Option Item)
  | 0 => return none
  | fuel + 1 => do
    let index ← openGroup name
    let e := Expr.ofList (← alternation false verbose fuel)
    close start
    closeGroup index e
    return some (.one (.group (some index) [] [] e))
termination_by structural fuel => fuel

/-- Reads the body of a look ahead, or behind if `bound` tells how many groups precede it. -/
def look (bound : Option Nat) (negated verbose : Bool) (start : Nat) : Nat → ReadM (Option Item)
  | 0 => return none
  | fuel + 1 => do
    let outer := (← get).bound
    if outer.isNone then modify fun p => { p with bound := bound }
    let e := Expr.ofList (← alternation false verbose fuel)
    modify fun p => { p with bound := outer }
    close start
    let w ← widthOf e
    return some (.one (.look (bound.map fun _ => w) negated e))
termination_by structural fuel => fuel

/-- Reads a condition and the one or two sequences it chooses from. -/
def conditional (verbose : Bool) (start : Nat) : Nat → ReadM (Option Item)
  | 0 => return none
  | fuel + 1 => do
    let index ← conditionGroup
    let yes ← sequence verbose false [] fuel
    let no ←
      if ← accept '|' then
        let no ← sequence verbose false [] fuel
        if (← peek) = some (.plain '|') then fail .manyBranches 0 else pure no
      else pure []
    close start
    return some (.one (.conditional index (.ofList yes) (.ofList no)))
termination_by structural fuel => fuel

end

end StreamLabel.Pattern
