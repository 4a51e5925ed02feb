import StreamLabel.Journal.Record
import StreamLabel.Settings
import StreamLabel.Text.Percent

/-!
# Journals

A journal takes messages once it is set up, and hands each to the handlers whose level it reaches:
to the console, and to a file if a directory is named. Setting up a second time changes nothing, and
setting up fails where something else than a level is asked for by name. Only messages of the
library's own loggers arrive.
-/

namespace StreamLabel

inductive Sink where
  | console
  | file (path : String)
deriving DecidableEq, Repr

structure Handler where
  sink : Sink
  level : Level

structure Journal where
  handlers : List Handler := []
  /-- Lines are written as JSON. -/
  json : Bool := false
  /-- What was handed to the handlers, in order. -/
  written : List (Sink × Record) := []

namespace Journal

/-- The logger of the library; the names of all others begin with it and a point. -/
def root : String := "streamfmt"

def isOwn (logger : String) : Bool :=
  logger == root || (root ++ ".").toList.isPrefixOf logger.toList

/-- Messages below this level go nowhere. -/
def floor : Level := Level.debug

def write (j : Journal) (r : Record) : Journal :=
  if isOwn r.logger && floor ≤ r.level then
    let reached := j.handlers.filter (·.level ≤ r.level)
    { j with written := j.written ++ reached.map fun h => (h.sink, r) }
  else j

/-- Fills in a message and writes it; a message that cannot be filled in is dropped. -/
def log (j : Journal) (logger : String) (level : Level) (message : String)
    (args : List Percent.Argument) : Journal :=
  match Percent.format message args with
  | .ok text => j.write ⟨logger, level, text, "", 0⟩
  | .error _ => j

/-- What may be said when a journal is set up, in place of the environment. -/
structure Wishes where
  level : Option String := none
  directory : Option String := none
  json : Option Bool := none

/-- The level asked for by the environment, the usual one if it has no name. -/
def environmentLevel (e : Environment) : Except Level.Foreign Level :=
  match Level.meaning ((e.lookup "LOG_LEVEL").getD "INFO") with
  | .level l => .ok l
  | .unknown => .ok Level.info
  | .foreign f => .error f

/-- The level of the console. The lowest level and unknown names leave it to the environment. -/
def consoleLevel (e : Environment) (w : Wishes) : Except Level.Foreign Level :=
  match w.level.map Level.meaning with
  | some (.level l) => if l = Level.notSet then environmentLevel e else .ok l
  | some (.foreign f) => .error f
  | some .unknown | none => environmentLevel e

/-- The file to be written. -/
def filePath? (e : Environment) (w : Wishes) : Option String :=
  let named (directory : Option String) : Option String := directory.filter (· ≠ "")
  ((named w.directory).or (named (e.lookup "LOG_DIR"))).map (· ++ "/streamfmt.log")

def wantsJson (e : Environment) (w : Wishes) : Bool :=
  w.json.getD (Unicode.lower ((e.lookup "LOG_FORMAT").getD "text").toList == "json".toList)

/-- The messages that a journal begins with. -/
def greeting (level : Level) (path : Option String) (json : Bool) : List String := [
  "[STARTUP] streamfmt " ++ version,
  "[STARTUP] Log level: " ++ level.name,
  "[STARTUP] Log file: " ++ path.getD "disabled",
  "[STARTUP] Log format: " ++ if json then "JSON" else "text"]

/-- Sets a journal up, if that has not been done before. -/
def setUp (j : Journal) (e : Environment) (w : Wishes) : Except Level.Foreign Journal :=
  if j.handlers.isEmpty then do
    let level ← consoleLevel e w
    let path := filePath? e w
    let json := wantsJson e w
    let handlers := ⟨.console, level⟩ :: (path.map fun p => ⟨.file p, Level.debug⟩).toList
    return (greeting level path json).foldl
      (fun j text => j.write ⟨root, Level.info, .ofString text, "", 0⟩)
      { j with handlers := handlers, json := json }
  else .ok j

/-- The records that a sink was handed. -/
def recordsOf (j : Journal) (sink : Sink) : List Record :=
  j.written.filterMap fun w => if w.1 = sink then some w.2 else none

end Journal

end StreamLabel
