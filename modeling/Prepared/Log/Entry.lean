import Prepared.Value.Basic

/-!
# Log entries

What is logged while statements are prepared and run: a level, the name of a
logger, a message and further fields.
-/

namespace Prepared

/-- Severities are numbers; a few have names. -/
abbrev Level := Int

namespace Level

def debug : Level := 10
def info : Level := 20
def warning : Level := 30
def error : Level := 40
def critical : Level := 50
def notSet : Level := 0

def name (l : Level) : String :=
  if l = debug then "DEBUG"
  else if l = info then "INFO"
  else if l = warning then "WARNING"
  else if l = error then "ERROR"
  else if l = critical then "CRITICAL"
  else if l = notSet then "NOTSET"
  else s!"Level {l}"

/-- The level that a name in capitals stands for; two levels have a second name. -/
def ofName? (s : String) : Option Level :=
  match s with
  | "DEBUG" => some debug
  | "INFO" => some info
  | "WARNING" | "WARN" => some warning
  | "ERROR" => some error
  | "CRITICAL" | "FATAL" => some critical
  | "NOTSET" => some notSet
  | _ => none

end Level

namespace Logger

def root : String := "sqlprep"
def converter : String := "sqlprep.parameters.converter"
def validator : String := "sqlprep.parameters.validator"
def driver : String := "sqlprep.driver"
def blocking : String := "sqlprep.driver.sync"
def waiting : String := "sqlprep.driver.async"
def connection : String := "sqlprep.driver.connection"

end Logger

/-- The extra fields keep their order. -/
structure Entry where
  level : Level
  logger : String
  message : String
  extra : List (String × Value) := []

end Prepared
