import StreamLabel.Pattern.Board
import StreamLabel.Pattern.Program

/-!
# Matching

A program is run at a place of a text; the first way through it that succeeds is the result. What is
left to do at the end of a round is given as a goal. A free round of a repetition that would start
where the last one did is not begun. The rounds of a possessive repetition are settled one by one;
after a round that fails, matching goes on from the place noted last.
-/

namespace StreamLabel.Pattern

open Unicode

/-- What is to be done at a place. -/
abbrev Goal := Nat → Board → Outcome

namespace Anchor

/-- There is a word character on exactly one side of `pos`. -/
def isEdge (text : Array Char) (ascii : Bool) (pos : Nat) : Bool :=
  let isWordAt (c : Option Char) : Bool := c.any (Category.word.holds ascii)
  isWordAt (if pos = 0 then none else text[pos - 1]?) != isWordAt text[pos]?

def holds (text : Array Char) (flags : Flags) (pos : Nat) : Anchor → Bool
  | .textStart => pos == 0
  | .textEnd => pos == text.size
  | .lineStart =>
    pos == 0 || flags.contains .multiline && text[pos - 1]? == some '\n'
  | .lineEnd =>
    pos == text.size || text[pos]? == some '\n' &&
      (flags.contains .multiline || pos + 1 == text.size)
  | .wordEdge => !text.isEmpty && isEdge text flags.ascii pos
  | .noWordEdge => !text.isEmpty && !isEdge text flags.ascii pos

end Anchor

/-! ### Repetition of single characters -/

namespace Single

def takesAt (s : Single) (text : Array Char) (pos : Nat) : Bool := text[pos]?.any s.takes

/-- How many of the next `most` characters are taken, before the first that is not. -/
def runLength (s : Single) (text : Array Char) (pos : Nat) : (most : Nat) → Nat → Nat
  | 0, n => n
  | most + 1, n =>
    if s.takesAt text (pos + n) then s.runLength text pos most (n + 1) else n

/-- The board after a run of characters; a test that goes character by character notes its end. -/
def noteRun (s : Single) (b : Board) (pos : Nat) : Board :=
  if s.sight = .cases then b.note pos else b

end Single

/-- Tries places from `pos + count` down to `pos + least`, but only those that `fits` admits. -/
def tryDown (fits : Nat → Bool) (attempt : Goal) (undo : Board → Board) (pos least : Nat) :
    (count : Nat) → Board → Outcome
  | 0, b =>
    if least = 0 && fits pos then (attempt pos b).otherwise fun b => .failure (undo b)
    else .failure b
  | count + 1, b =>
    if count + 1 < least then .failure b
    else if fits (pos + (count + 1)) then
      (attempt (pos + (count + 1)) b).otherwise fun b =>
        tryDown fits attempt undo pos least count (undo b)
    else tryDown fits attempt undo pos least count b

/-- Tries `pos` and the places after it, as long as the characters between are taken. -/
def tryUp (s : Single) (text : Array Char) (attempt : Goal) (undo : Board → Board) :
    (left pos : Nat) → Board → Outcome
  | 0, _, b => .failure b
  | left + 1, pos, b =>
    (attempt pos b).otherwise fun b =>
      let b := (undo b).note pos
      if s.takesAt text pos then
        tryUp s text attempt undo left (pos + 1) (s.noteRun b (pos + 1))
      else .failure b

/-- Repeats a single character and does the rest, of which `code` and `isEnd` tell what it begins
with. -/
def repeatSingle (text : Array Char) (nested : Bool) (greed : Greed) (least : Nat)
    (most : Option Nat) (s : Single) (code : Option Nat) (isEnd : Bool) (rest : Goal)
    (pos : Nat) (b : Board) : Outcome :=
  let room := text.size - pos
  if room < least then .failure b
  else
    let attempt (p : Nat) (b : Board) : Outcome := rest p (b.note p)
    let limit : Nat :=
      match greed with
      | .lazy => least
      | _ => most.elim room (min room)
    let n := s.runLength text pos limit 0
    let b := s.noteRun (b.note pos) (pos + n)
    let undo (lost : Board) : Board := lost.restore b nested
    if n < least then .failure b
    else
      match greed with
      | .greedy =>
        if isEnd && pos + n == text.size then .success (b.note text.size)
        else
          let fits (p : Nat) : Bool := code.all fun k => text[p]?.any (·.toNat == k)
          tryDown fits attempt undo pos least n b
      | .lazy =>
        if isEnd then .success (b.note (pos + n))
        else
          let left := most.elim room (min room) - least + 1
          tryUp s text attempt undo left (pos + n) b
      | .possessive =>
        if isEnd && pos + n == text.size then .success (b.note text.size) else rest (pos + n) b

/-! ### Repetition of longer parts -/

/-- A repetition whose rounds may be given back. -/
structure Loop where
  /-- Runs one round, and at its end the goal. -/
  round : Nat → Board → Goal → Outcome
  /-- What comes after the last round. -/
  rest : Goal
  least : Nat
  most : Option Nat
  /-- The repetition stands inside another one. -/
  nested : Bool

/-- Another round may begin at `pos` after `count` rounds, the last free one of which began at
`last`. -/
def mayGoOn (most : Option Nat) (count : Nat) (last : Option Nat) (pos : Nat) : Bool :=
  most.all (count < ·) && last != some pos

namespace Loop

def greedy (r : Loop) : (fuel count : Nat) → (last : Option Nat) → Goal
  | 0, _, _, pos, b => r.rest pos b
  | fuel + 1, count, last, pos, b =>
    let b := b.note pos
    if count < r.least then (r.round pos b (r.greedy fuel (count + 1) last)).noteLost pos
    else if mayGoOn r.most count last pos then
      (r.round pos b (r.greedy fuel (count + 1) (some pos))).otherwise fun lost =>
        (r.rest pos ((lost.restore b true).note pos)).noteLost pos
    else (r.rest pos b).noteLost pos

def lazily (r : Loop) : (fuel count : Nat) → (last : Option Nat) → Goal
  | 0, _, _, pos, b => r.rest pos b
  | fuel + 1, count, last, pos, b =>
    let b := b.note pos
    if count < r.least then (r.round pos b (r.lazily fuel (count + 1) last)).noteLost pos
    else
      (r.rest pos b).otherwise fun lost =>
        let b := (lost.restore b r.nested).note pos
        if mayGoOn r.most count last pos then
          (r.round pos b (r.lazily fuel (count + 1) (some pos))).noteLost pos
        else .failure b

end Loop

/-- Runs so many rounds, each from the place noted by the one before. -/
def settle (round : Goal) : (least : Nat) → Board → Outcome
  | 0, b => .success b
  | least + 1, b =>
    let o := round b.noted b
    if o.found then settle round least o.board else o

/-- Runs rounds until one fails or starts where the one before did. The marks of the round that
fails are taken back, but not the place it noted. -/
def exhaust (round : Goal) (most : Option Nat) :
    (fuel count : Nat) → (last : Option Nat) → Board → Board
  | 0, _, _, b => b
  | fuel + 1, count, last, b =>
    if mayGoOn most count last b.noted then
      let o := round b.noted b
      if o.found then exhaust round most fuel (count + 1) (some b.noted) o.board
      else o.board.restore b true
    else b

/-! ### Programs -/

/-- The text from `pos` on begins with what stands between `a` and `b`. -/
def repeatsSpan (text : Array Char) (flags : Flags) (a b pos : Nat) : Bool :=
  let fold (c : Char) : Char := if flags.ignoreCase then flags.fold c else c
  (List.range (b - a)).all fun i =>
    match text[a + i]?, text[pos + i]? with
    | some c, some d => fold c == fold d
    | _, _ => false

/-- More rounds than a repetition can run in a text before it is back where it was. -/
def roundLimit (text : Array Char) (least : Nat) : Nat :=
  least + (text.size + 2) * (text.size + 2)

namespace Program

/-- The program begins with a plain test that the character at `pos` fails. -/
def isBarred (text : Array Char) (pos : Nat) : Program → Bool
  | .single s _ => s.isPlain && !s.takesAt text pos
  | _ => false

/-- Runs a program at a place. With `nested` it stands inside a repetition, and choices take back
marks as well; at the end of a round of that repetition the goal is next. -/
def run (text : Array Char) : Program → (nested : Bool) → Goal → Goal
  | .success, _, _, pos, b => .success (b.note pos)
  | .roundEnd, _, goal, pos, b => goal pos b
  | .failure, _, _, _, b => .failure b
  | .leave rest, nested, goal, pos, b => rest.run text nested goal pos b
  | .single s rest, nested, goal, pos, b =>
    if s.takesAt text pos then rest.run text nested goal (pos + 1) b else .failure b
  | .anchor a flags rest, nested, goal, pos, b =>
    if a.holds text flags pos then rest.run text nested goal pos b else .failure b
  | .mark index rest, nested, goal, pos, b => rest.run text nested goal pos (b.mark index pos)
  | .backreference index flags rest, nested, goal, pos, b =>
    match b.group? (markOf index) with
    | some (first, last) =>
      if repeatsSpan text flags first last pos then
        rest.run text nested goal (pos + (last - first)) b
      else .failure b
    | none => .failure b
  | .conditional index yes no, nested, goal, pos, b =>
    if (b.group? (markOf index)).isSome then yes.run text nested goal pos b
    else no.run text nested goal pos b
  | .choice this others, nested, goal, pos, b =>
    if this.isBarred text pos then others.run text nested goal pos b
    else
      (this.run text nested goal pos (b.note pos)).otherwise fun lost =>
        others.run text nested goal pos (lost.restore b nested)
  | .repeatSingle greed least most s rest, nested, goal, pos, b =>
    Pattern.repeatSingle text nested greed least most s rest.code? rest.isSuccess
      (rest.run text nested goal) pos b
  | .repeated greed least most body rest, nested, goal, pos, b =>
    let fuel := roundLimit text least
    let loop : Loop :=
      ⟨fun p b goal => body.run text true goal p b, rest.run text nested goal, least, most, nested⟩
    let round : Goal := body.run text nested fun _ b => .failure b
    match greed with
    | .greedy => loop.greedy fuel 0 none pos (b.note pos)
    | .lazy => loop.lazily fuel 0 none pos (b.note pos)
    | .possessive =>
      let o := settle round least (b.note pos)
      if o.found then
        let b := exhaust round most fuel least none o.board
        rest.run text nested goal b.noted b
      else o.noteLost pos
  | .atomic body rest, nested, goal, pos, b =>
    let o := body.run text nested (fun _ b => .failure b) pos (b.note pos)
    if o.found then rest.run text nested goal o.board.noted o.board else o.noteLost pos
  | .look back negated body rest, nested, goal, pos, b =>
    if pos < back then
      if negated then rest.run text nested goal pos b else .failure b
    else
      let o := body.run text nested (fun _ b => .failure b) (pos - back) (b.note (pos - back))
      match o.found, negated with
      | true, false => rest.run text nested goal pos o.board
      | false, true => rest.run text nested goal pos (o.board.restore b nested)
      | _, _ => .failure o.board

end Program

end StreamLabel.Pattern
