import Prepared.Value.Basic

/-!
# Equality of values

Numbers are equal when they are the same number, whatever their form; what is
no number equals nothing, and what signals that it is none cannot be compared
with a number at all. Octets are equal by content, sequences item by item,
dictionaries whatever their order. Nothing is compared after the first
difference. An argument equals another of the same kind and an equal value.
What lies in one place is one value; compared with itself, a collection is not
asked for its items.
-/

namespace Prepared

open Number

/-- Why two values cannot be compared: one of them signals that it is no number. -/
inductive Incomparable
  | signaling
deriving DecidableEq, Repr

/-- The exact number that a value is. -/
def Value.number? : Value → Option Decimal
  | .bool b => some (.finite false (if b then 1 else 0) 0)
  | .int n => some (.finite (n < 0) n.natAbs 0)
  | .float x => some x.toDecimal
  | .decimal d => some d
  | _ => none

namespace Number.Decimal

/-- Equal numbers have one canonical form: no trailing zeros, no negative zero. -/
def canonical : Decimal → Decimal
  | .finite negative coefficient exponent =>
    if coefficient = 0 then .finite false 0 0
    else
      let zeros := ((Nat.toDigits 10 coefficient).reverse.takeWhile (· == '0')).length
      .finite negative (coefficient / Nat.pow 10 zeros) (exponent + zeros)
  | d => d

def isNan : Decimal → Bool
  | .nan .. => true
  | _ => false

def isSignaling : Decimal → Bool
  | .nan _ signaling _ => signaling
  | _ => false

def same (a b : Decimal) : Except Incomparable Bool :=
  if a.isSignaling || b.isSignaling then .error .signaling
  else .ok (!a.isNan && a.canonical == b.canonical)

end Number.Decimal

namespace Value

mutual

def equal : Value → Value → Except Incomparable Bool
  | .null, .null => .ok true
  | .text s, .text t => .ok (s == t)
  | .octets _ a, .octets _ b => .ok (a == b)
  | .date a, .date b => .ok (a == b)
  | .dateTime a, .dateTime b => .ok (a.same b)
  | .clock a, .clock b => .ok (a.same b)
  | .list a, .list b => if a.length = b.length then equalItems a b else .ok false
  | .tuple a, .tuple b => equalItems a b
  | .dict a, .dict b => if a.length = b.length then entriesIn a b else .ok false
  | .typed k v, .typed l w => if k = l then equal v w else .ok false
  | v, w =>
    match v.number?, w.number? with
    | some a, some b => a.same b
    | _, _ => .ok false

/-- The items are compared before the lengths. -/
def equalItems : List Value → List Value → Except Incomparable Bool
  | [], [] => .ok true
  | v :: vs, w :: ws => do if ← equal v w then equalItems vs ws else return false
  | _, _ => .ok false

/-- Has every entry on the left an equal one on the right? -/
def entriesIn : List (Value × Value) → List (Value × Value) → Except Incomparable Bool
  | [], _ => .ok true
  | (k, v) :: es, fs =>
    match fs.find? fun f => (equal k f.1).toOption == some true with
    | some f => do if ← equal v f.2 then entriesIn es fs else return false
    | none => .ok false

end

/-- Is it equal to itself? A collection is, whatever its items are. -/
def equalsItself : Value → Except Incomparable Bool
  | .list _ | .tuple _ | .dict _ => .ok true
  | .typed _ v => v.equalsItself
  | v => v.equal v

/-- Are the values known to be equal? -/
def isEqual (v w : Value) : Bool := (equal v w).toOption == some true

/-- Puts an entry into a dictionary; the place of an equal key is kept. -/
def insertEntry (entries : List (Value × Value)) (key value : Value) : List (Value × Value) :=
  match entries with
  | [] => [(key, value)]
  | (k, v) :: es => if isEqual k key then (k, value) :: es else (k, v) :: insertEntry es key value

def dictOf (entries : List (Value × Value)) : Value :=
  .dict (entries.foldl (fun es e => insertEntry es e.1 e.2) [])

end Value

def Argument.equal (a b : Argument) : Except Incomparable Bool :=
  if a.kind = b.kind then a.value.equal b.value else .ok false

/-- A value and where it lies. -/
structure Ref where
  value : Value
  place : Nat

def Ref.equal (r s : Ref) : Except Incomparable Bool :=
  if r.place = s.place then r.value.equalsItself else r.value.equal s.value

end Prepared
