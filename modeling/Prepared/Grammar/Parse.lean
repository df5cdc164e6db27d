import Prepared.Grammar.Token

/-!
# Reading tokens

Readers take what they know from the front of the tokens. A reader that finds
nothing of its kind takes nothing and says so; one that finds the beginning but
not the rest stops the whole reading.
-/

namespace Prepared.Grammar

/-- Why reading stops: the tokens are not in the language, or a row is taken
apart that has no values. -/
inductive Halt
  | unreadable
  | emptyRow
deriving DecidableEq, Repr

abbrev Parse := StateT (List Token) (Except Halt)

namespace Parse

variable {α : Type}

def fail : Parse α := throw .unreadable

def upcoming : Parse (Option Token) := return (← get).head?

def skip : Parse Unit := modify (·.drop 1)

def startWith : List String → List Token → Bool
  | [], _ => true
  | _, [] => false
  | m :: ms, t :: ts => t.is m && startWith ms ts

def follows (marks : List String) : Parse Bool := return startWith marks (← get)

def followsOne (marks : List String) : Parse Bool := return (← upcoming).any fun t => marks.any t.is

def acceptAll (marks : List String) : Parse Bool := do
  let found ← follows marks
  if found then modify (·.drop marks.length)
  return found

def accept (mark : String) : Parse Bool := acceptAll [mark]

def acceptOne (marks : List String) : Parse Bool := do
  let found ← followsOne marks
  if found then skip
  return found

def acceptAny (phrases : List (List String)) : Parse Bool := phrases.anyM acceptAll

def acceptString : Parse Bool := do
  let found := (← upcoming) == some .string
  if found then skip
  return found

def acceptNumber : Parse Bool := do
  let found := (← upcoming) == some .number
  if found then skip
  return found

def expect (mark : String) : Parse Unit := do
  if !(← accept mark) then fail

def need (p : Parse (Option α)) : Parse α := do
  match ← p with
  | some a => return a
  | none => fail

def needTrue (p : Parse Bool) : Parse Unit := do
  if !(← p) then fail

/-- Takes nothing where the reader finds nothing or cannot go on. -/
def attempt (p : Parse Bool) : Parse Bool := fun ts =>
  match p ts with
  | .ok (true, rest) => .ok (true, rest)
  | .ok (false, _) | .error .unreadable => .ok (false, ts)
  | .error e => .error e

/-- Reads as often as something is found, at most `n` times. -/
def repeated (p : Parse Bool) : Nat → Parse Unit
  | 0 => return
  | n + 1 => do if ← p then repeated p n

/-- Reads as often as something is found. Whatever is found takes a token. -/
def many (p : Parse Bool) : Parse Unit := do
  if ← p then repeated p (← get).length

def listedMore (p : Parse (Option α)) : Nat → Parse (List α)
  | 0 => return []
  | n + 1 => do
    if ← accept "," then
      let a ← p
      return a.toList ++ (← listedMore p n)
    else return []

/-- Everything between commas. Nothing at all may stand between two of them. -/
def listed (p : Parse (Option α)) : Parse (List α) := do
  let a ← p
  if ← follows [","] then return a.toList ++ (← listedMore p (← get).length)
  else return a.toList

def enclosed (p : Parse α) : Parse α := do
  expect "("
  let a ← p
  expect ")"
  return a

def afterMark (mark : String) (p : Parse Unit) : Parse Bool := do
  let found ← accept mark
  if found then p
  return found

def rest : Parse Unit := set ([] : List Token)

end Parse

/-- What a part of a statement turned out to be, as far as its surroundings care. -/
inductive Form
  | term
  | literal
  | column
  | select
  | union
  | difference
  | subquery
  | rows
  | insert
  | update
  | delete
  | create
  | drop
  | alter
  | command
  | other
deriving DecidableEq, Repr

namespace Form

def isQuery : Form → Bool
  | .select | .union | .difference | .subquery => true
  | _ => false

/-- May table expressions stand in front? -/
def takesTables : Form → Bool
  | .insert | .update | .delete | .create | .other => true
  | f => f.isQuery

end Form

/-- Words that are no name for a table where it is used. -/
def barredBehindTable : List String := ["ANTI", "ASOF", "FULL", "LEFT", "LOCK", "NATURAL", "RIGHT", "SEMI", "WINDOW"]

/-- How a table may be written: with a list of columns, followed by joins. The
barred words give it no new name. -/
structure TableShape where
  hasColumns : Bool := false
  joins : Bool := false
  barred : List String := barredBehindTable

/-- How a query may be written: in parentheses, as a table, followed by an
operator on whole queries. -/
structure QueryShape where
  nested : Bool := false
  table : Bool := false
  operators : Bool := true

/-- The readers of what may occur inside of anything else. -/
structure Rules where
  dialect : Dialect
  unary : Parse (Option Form)
  bitwise : Parse (Option Form)
  equality : Parse (Option Form)
  condition : Parse (Option Form)
  typeName : Parse Bool
  query : QueryShape → Parse (Option Form)
  modifiers : Form → Parse Form
  operators : Form → Parse Form
  table : TableShape → Parse Bool
  joins : Parse Bool
  statement : Parse (Option Form)

end Prepared.Grammar
