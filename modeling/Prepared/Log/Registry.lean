import Prepared.Error
import Prepared.Log.Record
import Prepared.Text.Upper

/-!
# The log

Loggers have dotted names; those below the root logger hand their records to
its handlers. A logger that has been asked for by name carries a filter, which
marks its records with the correlation id. Configuring the log replaces the
handlers and the level of the root logger as a whole.
-/

namespace Prepared.Log

open Text

/-- A handler writes lines to the console or to a file, or keeps records for inspection. -/
inductive Handler
  | console (structured : Bool)
  | file (number : Nat)
  | probe
deriving DecidableEq, Repr

structure Registry where
  loggers : List String
  filtered : List String
  level : Level
  handlers : List Handler
  /-- Do records go on from the root logger to the handlers of the process? -/
  propagates : Bool
  correlation : Option String

/-- What a handler has got: a line, or a record and the id its logger marked it with. -/
inductive Delivery
  | line (handler : Handler) (text : String)
  | record (entry : Entry) (mark : Option String)

namespace Registry

/-- The loggers of the library exist from the start, and all but the root carry a filter. -/
def initial : Registry :=
  let named :=
    [Logger.converter, Logger.validator, Logger.driver, Logger.blocking, Logger.waiting, Logger.connection]
  { loggers := Logger.root :: named, filtered := named, level := Level.notSet, handlers := [], propagates := true
    correlation := none }

/-- The name under which a logger is kept: names that do not begin as the root
does are put below it. -/
def fullName (name : String) : String :=
  if Logger.root.toList.isPrefixOf name.toList then name else Logger.root ++ "." ++ name

/-- The prefixes of a reversed name at which a parent is looked for, longest
first and reversed too. After a dot the next character is passed over. -/
def parentNames : List Char → List (List Char)
  | [] => []
  | ['.'] => []
  | '.' :: c :: s => (c :: s) :: parentNames s
  | _ :: s => parentNames s

/-- Do the records of a logger come to the root within so many parents? -/
def reachesRoot (r : Registry) : Nat → String → Bool
  | 0, name => name == Logger.root
  | n + 1, name =>
    if name = Logger.root then true
    else
      let parents := (parentNames name.toList.reverse).map fun p => String.ofList p.reverse
      match parents.find? r.loggers.contains with
      | some p => r.reachesRoot n p
      | none => false

def isBelowRoot (r : Registry) (name : String) : Bool := r.reachesRoot name.length name

/-- Without a level of its own, the root logger takes that of the process. -/
def effectiveLevel (r : Registry) : Level := if r.level = Level.notSet then Level.warning else r.level

def insertName (names : List String) (name : String) : List String :=
  if names.contains name then names else names ++ [name]

/-- The root logger, or the logger of a name, which from then on carries a filter. -/
def get (r : Registry) (name : Option String) : Registry × String :=
  match name with
  | none => (r, Logger.root)
  | some s =>
    let full := fullName s
    ({ r with loggers := insertName r.loggers full, filtered := insertName r.filtered full }, full)

def filterCount (r : Registry) (name : String) : Nat := r.filtered.count name

def mark (r : Registry) (logger : String) : Option String :=
  if r.filtered.contains logger then r.correlation.filter (· != "") else none

def record (e : Entry) : Record :=
  { entry := e, seconds := 0, milliseconds := 0, module := "m", function := some "f", line := 0 }

/-- What one handler makes of an entry. A line that cannot be written is left out. -/
def deliverTo (r : Registry) (e : Entry) (h : Handler) : List Delivery :=
  let structured := ((record e).structured none r.correlation).toOption
  match h with
  | .console true | .file _ => structured.toList.map fun s => .line h (String.ofList s)
  | .console false => [.line h (String.ofList (record e).simple)]
  | .probe => [.record e (r.mark e.logger)]

def accepts (r : Registry) (e : Entry) : Bool :=
  r.isBelowRoot e.logger && decide (r.effectiveLevel ≤ e.level)

def emit (r : Registry) (e : Entry) : List Delivery :=
  if r.accepts e then r.handlers.flatMap (r.deliverTo e) else []

def emitAll (r : Registry) (es : List Entry) : List Delivery := es.flatMap r.emit

structure Settings where
  level : String := "INFO"
  style : String := "structured"
  file : Option Nat := none
  probe : Bool := false

/-- The console always, then a file and a probe if asked for. Files are always structured. -/
def Settings.handlers (s : Settings) : List Handler :=
  .console (s.style == "structured") :: s.file.toList.map .file ++ if s.probe then [.probe] else []

def configuredEntry (s : Settings) : Entry :=
  { level := Level.info
    logger := Logger.root
    message := "sqlprep logging configured"
    extra :=
      [("level", .text s.level), ("format_style", .text s.style),
        ("handlers_count", .int s.handlers.length)] }

def Settings.levelName (s : Settings) : String := String.ofList (upper s.level.toList)

/-- Replaces level and handlers, keeps records from the process, and says so. An unknown level changes nothing. -/
def configure (r : Registry) (s : Settings) : Except Failure (Registry × List Delivery) :=
  match Level.ofName? s.levelName with
  | none => .error (.foreign .attribute s!"module 'logging' has no attribute '{s.levelName}'")
  | some level =>
    let r := { r with level, handlers := s.handlers, propagates := false }
    .ok (r, r.emit (configuredEntry s))

/-- The parameters of `log` that an extra field cannot be named after. -/
def reserved : List String := ["logger", "level", "message"]

/-- Logs a message with extra fields through the logger of a name. -/
def log (r : Registry) (name : Option String) (level : Level) (message : String) (extra : List (String × Value)) :
    Registry × Except Failure (List Delivery) :=
  let (r, logger) := r.get name
  match extra.find? (reserved.contains ·.1) with
  | some (field, _) =>
    (r, .error (.foreign .type s!"log_with_context() got multiple values for argument '{field}'"))
  | none => (r, .ok (r.emit { level, logger, message, extra }))

end Registry
end Prepared.Log
