import Prepared.Operation.Statement
import Prepared.Rewrite
import Prepared.Transport

/-!
# Statements

A template that is prepared on a connection, to be used once. Its placeholders
are counted when it is made, and it moves from prepared through executing to
idle; only a prepared one can be used.
-/

namespace Prepared

open Number Text

namespace Mode

def logger : Mode → String
  | .blocking => Logger.blocking
  | .waiting => Logger.waiting

def statementName : Mode → String
  | .blocking => "Statement"
  | .waiting => "AsyncStatement"

end Mode

inductive Stage
  | prepared
  | executing
  | idle
deriving DecidableEq, Repr

def Stage.name : Stage → String
  | .prepared => "prepared"
  | .executing => "executing"
  | .idle => "idle"

/-- A statement `inherits` the configuration of its connection when it is given
none. It is `claimed` when the claim on the connection was granted to it. -/
structure Statement where
  sql : String
  config : Config
  inherits : Bool
  claimed : Bool
  profile : Profile
  stage : Stage := .prepared

structure Statement.Details where
  numInput : Int
  isKnown : Bool
  style : Style
  stage : Stage
  sql : String
  description : String
  config : String

namespace Statement

/-- A new statement; what counting notes comes with it. -/
def make (shared : Config) (sql : String) (config : Option Config) (claimed : Bool) : Noted Statement :=
  (countPlaceholders sql).map fun profile =>
    { sql, config := config.getD shared, inherits := config.isNone, claimed, profile }

def description (s : Statement) (mode : Mode) : String :=
  mode.statementName ++ "(sql=" ++ String.ofList (quoted s.sql.toList) ++
    s!", num_input={s.profile.count}, state={s.stage.name})"

def details (s : Statement) (mode : Mode) : Except Overlong Details := do
  let config ← s.config.description
  return {
    numInput := s.profile.count
    isKnown := s.profile.isKnown
    style := s.profile.style
    stage := s.stage
    sql := s.sql
    description := s.description mode
    config }

def operation (s : Statement) : Except Failure Operation :=
  (Operation.detect s.config.dialect s.sql).mapError (·.failure)

/-- A statement that was used before has given its claim back. -/
def spent (stage : Stage) : Raised :=
  let text := s!"Statement is {stage.name} and no longer holds its connection; " ++
    "prepare it again to execute another time"
  { failure := .own { family := .statementState, detail := text } }

def notClosable : Raised :=
  { failure := .own { family := .unsupportedOperation, detail := "Not implemented." } }

def queryEntry (p : Purpose) (r : Rewrite) : Entry :=
  { level := .info
    logger := Logger.driver
    message := p.label ++ " <" ++ String.ofList r.sql ++ ">"
    extra :=
      [("operation", .text p.name), ("parameter_style", .text r.style.name), ("complete", .bool r.complete)] }

/-- The query for one use of the statement, and what is logged while it is made. -/
def build (s : Statement) (p : Purpose) (values : List Value) : List Entry × Except Raised String :=
  let r := rewrite s.config s.sql values (some s.profile)
  let entries := r.notes.map (·.entry)
  match r.value with
  | .error e => (entries, .error (e.raised s.sql))
  | .ok q => (entries ++ [queryEntry p q], .ok (String.ofList q.sql))

/-- A failure to send is logged when the statement was used for its effect. -/
def sendWarnings (mode : Mode) (p : Purpose) (f : Failure) : List Entry :=
  match p, f with
  | .exec, .own { family := .send, .. } =>
    [{ level := .warning, logger := mode.logger, message := "Exec: " ++ f.message }]
  | _, _ => []

end Statement
end Prepared
