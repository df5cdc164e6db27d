import Prepared.Json.Write
import Prepared.Log.Entry
import Prepared.Value.Equality

/-!
# Log records

A record is an entry with the moment and the place it comes from. It is written
as one line of JSON: its own fields first, then the correlation id when there
is one, then the extra fields, then the exception. A field that comes later
under an earlier name takes its place.
-/

namespace Prepared.Log

open Number Text

structure Record where
  entry : Entry
  seconds : Int
  milliseconds : Nat
  module : String
  function : Option String
  line : Int
  exception : Option String := none

/-- The name of a file without its folder and its last extension; dots in front begin no extension. -/
def moduleName (path : List Char) : List Char :=
  let file := (path.reverse.takeWhile (· != '/')).reverse
  let dots := file.takeWhile (· == '.')
  let rest := file.dropWhile (· == '.')
  if rest.contains '.' then
    dots ++ ((rest.reverse.dropWhile (· != '.')).drop 1).reverse
  else file

def dateField (t : Moment) (code : Char) : List Char :=
  match code with
  | 'Y' => signed (t.day.year < 0) (Nat.toDigits 10 t.day.year.natAbs)
  | 'm' => padded 2 t.day.month
  | 'd' => padded 2 t.day.day
  | 'H' => padded 2 t.clock.hour
  | 'M' => padded 2 t.clock.minute
  | 'S' => padded 2 t.clock.second
  | '%' => ['%']
  | c => ['%', c]

def dateText (t : Moment) : List Char → List Char
  | [] => []
  | '%' :: c :: s => dateField t c ++ dateText t s
  | c :: s => c :: dateText t s

def Record.moment (r : Record) : Moment := Moment.ofSeconds r.seconds

def usualFormat : String := "%Y-%m-%d %H:%M:%S"

/-- A given format replaces everything, milliseconds included. -/
def Record.timestamp (r : Record) (format : Option String) : List Char :=
  match format.filter (· != "") with
  | some f => dateText r.moment f.toList
  | none => dateText r.moment usualFormat.toList ++ ',' :: padded 3 r.milliseconds

def textField (name : String) (s : String) : Value × Value := (.text name, .text s)

def Record.ownFields (r : Record) (format : Option String) : List (Value × Value) :=
  [textField "timestamp" (String.ofList (r.timestamp format)),
    textField "level" r.entry.level.name,
    textField "logger" r.entry.logger,
    textField "message" r.entry.message,
    textField "module" r.module,
    (.text "function", r.function.elim .null .text),
    (.text "line", .int r.line)]

/-- An empty id is none. -/
def correlationField (id : Option String) : List (Value × Value) :=
  match id with
  | some s => if s = "" then [] else [textField "correlation_id" s]
  | none => []

/-- All fields, later ones in the place of earlier ones of the same name. -/
def Record.fields (r : Record) (format correlation : Option String) : List (Value × Value) :=
  let extra := r.entry.extra.map fun (name, v) => (Value.text name, v)
  let exception := r.exception.toList.map (textField "exception")
  (r.ownFields format ++ correlationField correlation ++ extra ++ exception).foldl
    (fun es e => Value.insertEntry es e.1 e.2) []

def Record.structured (r : Record) (format correlation : Option String) : Except Overlong (List Char) :=
  Json.write (.dict (r.fields format correlation))

/-- The plain form: moment, logger, level and message. -/
def Record.simple (r : Record) : List Char :=
  r.timestamp none ++ " - ".toList ++ r.entry.logger.toList ++ " - ".toList ++ r.entry.level.name.toList ++
    " - ".toList ++ r.entry.message.toList

end Prepared.Log
