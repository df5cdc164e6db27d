import Prepared.Text.Digit

/-!
# Dates and times

Days of the Gregorian calendar, times of day with an optional offset from
universal time, and moments counted in seconds from the start of 1970.
-/

namespace Prepared

open Text

structure Date where
  year : Nat
  month : Nat
  day : Nat
deriving DecidableEq, Repr

/-- The offset is in seconds east of universal time. -/
structure Clock where
  hour : Nat
  minute : Nat
  second : Nat
  microsecond : Nat
  offset : Option Int
deriving DecidableEq, Repr

structure DateTime where
  date : Date
  clock : Clock
deriving DecidableEq, Repr

/-- Days from the start of 1970 to a date. Years begin in March, so that the
leap day is the last of its year. -/
def Date.toDays (d : Date) : Int :=
  let y : Int := if d.month ≤ 2 then d.year - 1 else d.year
  let era := Int.fdiv y 400
  let yearOfEra := y - era * 400
  let monthFromMarch : Int := (d.month + 9) % 12
  let dayOfYear := (153 * monthFromMarch + 2) / 5 + d.day - 1
  let dayOfEra := yearOfEra * 365 + yearOfEra / 4 - yearOfEra / 100 + dayOfYear
  era * 146097 + dayOfEra - 719468

/-- A year, a month and a day; years before the first go on below it. -/
structure CivilDay where
  year : Int
  month : Nat
  day : Nat
deriving DecidableEq, Repr

def CivilDay.ofDays (days : Int) : CivilDay :=
  let z := days + 719468
  let era := Int.fdiv z 146097
  let dayOfEra := z - era * 146097
  let yearOfEra := (dayOfEra - dayOfEra / 1460 + dayOfEra / 36524 - dayOfEra / 146096) / 365
  let dayOfYear := dayOfEra - (365 * yearOfEra + yearOfEra / 4 - yearOfEra / 100)
  let monthFromMarch := (5 * dayOfYear + 2) / 153
  let day := dayOfYear - (153 * monthFromMarch + 2) / 5 + 1
  let month := if monthFromMarch < 10 then monthFromMarch + 3 else monthFromMarch - 9
  let year := yearOfEra + era * 400 + (if month ≤ 2 then 1 else 0)
  ⟨year, month.toNat, day.toNat⟩

/-- A point in universal time. -/
structure Moment where
  day : CivilDay
  clock : Clock
deriving DecidableEq, Repr

/-- The moment that is `seconds` after the start of 1970. -/
def Moment.ofSeconds (seconds : Int) : Moment :=
  let days := Int.fdiv seconds 86400
  let rest := (seconds - days * 86400).toNat
  ⟨.ofDays days, ⟨rest / 3600, rest / 60 % 60, rest % 60, 0, none⟩⟩

def Date.text (d : Date) : List Char :=
  padded 4 d.year ++ '-' :: padded 2 d.month ++ '-' :: padded 2 d.day

/-- An offset in hours and minutes, with seconds only where there are some. -/
def offsetText (offset : Int) : List Char :=
  let n := offset.natAbs
  (if offset < 0 then '-' else '+') :: padded 2 (n / 3600) ++ ':' :: padded 2 (n / 60 % 60) ++
    (if n % 60 = 0 then [] else ':' :: padded 2 (n % 60))

/-- The time of day without its offset; a fraction has six digits or is left out. -/
def Clock.local (t : Clock) : List Char :=
  padded 2 t.hour ++ ':' :: padded 2 t.minute ++ ':' :: padded 2 t.second ++
    (if t.microsecond = 0 then [] else '.' :: padded 6 t.microsecond)

def Clock.text (t : Clock) : List Char :=
  t.local ++ (t.offset.map offsetText).getD []

/-- The wire form of an offset: the nearest whole minute of a day, half a minute
going down, and a letter when none is left. -/
def offsetWireText (offset : Int) : List Char :=
  let n := (offset.natAbs + 29) / 60 % 1440
  if n = 0 then ['Z'] else (if offset < 0 then '-' else '+') :: padded 2 (n / 60) ++ ':' :: padded 2 (n % 60)

def Clock.wireText (t : Clock) : List Char := t.local ++ (t.offset.map offsetWireText).getD []

def DateTime.text (separator : Char) (t : DateTime) : List Char :=
  t.date.text ++ separator :: t.clock.text

def DateTime.wireText (t : DateTime) : List Char :=
  t.date.text ++ 'T' :: t.clock.wireText

/-- Microseconds since midnight, in universal time when there is an offset. -/
def Clock.toMicroseconds (t : Clock) : Int :=
  let seconds : Int := t.hour * 3600 + t.minute * 60 + t.second
  (seconds - t.offset.getD 0) * 1000000 + t.microsecond

/-- The same time of day; a time with an offset never equals one without. -/
def Clock.same (s t : Clock) : Bool :=
  s.offset.isSome == t.offset.isSome && s.toMicroseconds == t.toMicroseconds

def DateTime.same (s t : DateTime) : Bool :=
  s.clock.offset.isSome == t.clock.offset.isSome &&
    s.date.toDays * 86400000000 + s.clock.toMicroseconds ==
      t.date.toDays * 86400000000 + t.clock.toMicroseconds

/-! ## Reading -/

/-- The number that exactly `width` digits at the front spell, and the rest. -/
def field? (width : Nat) (s : List Char) : Option (Nat × List Char) :=
  let ds := s.take width
  if ds.length = width ∧ ds.all isDigit then some (digitsValue ds, s.drop width) else none

/-- As `field?`, after a separator. -/
def fieldAfter? (c : Char) (width : Nat) : List Char → Option (Nat × List Char)
  | d :: s => if d = c then field? width s else none
  | [] => none

def Date.read? (s : List Char) : Option (Date × List Char) := do
  let (year, s) ← field? 4 s
  let (month, s) ← fieldAfter? '-' 2 s
  let (day, s) ← fieldAfter? '-' 2 s
  return (⟨year, month, day⟩, s)

def Date.ofText? (s : List Char) : Option Date :=
  match Date.read? s with
  | some (d, []) => some d
  | _ => none

/-- A fraction of a second in microseconds; digits after the sixth are dropped. -/
def fraction? : List Char → Nat × List Char
  | '.' :: s =>
    let ds := s.takeWhile isDigit
    (digitsValue ((ds ++ List.replicate 6 '0').take 6), s.dropWhile isDigit)
  | s => (0, s)

/-- Hours and minutes, then seconds if a colon follows. -/
def hours? (s : List Char) : Option ((Nat × Nat × Nat) × List Char) := do
  let (hour, s) ← field? 2 s
  let (minute, s) ← fieldAfter? ':' 2 s
  match fieldAfter? ':' 2 s with
  | some (second, s) => return ((hour, minute, second), s)
  | none => return ((hour, minute, 0), s)

def offset? : List Char → Option (Option Int)
  | [] => some none
  | ['Z'] => some (some 0)
  | c :: s =>
    match hours? s with
    | some ((h, m, sec), []) =>
      let n : Int := h * 3600 + m * 60 + sec
      if c = '+' then some (some n) else if c = '-' then some (some (-n)) else none
    | _ => none

def Clock.ofText? (s : List Char) : Option Clock := do
  let ((hour, minute, second), s) ← hours? s
  let (microsecond, s) := fraction? s
  let offset ← offset? s
  return ⟨hour, minute, second, microsecond, offset⟩

def DateTime.ofText? (s : List Char) : Option DateTime := do
  let (date, s) ← Date.read? s
  match s with
  | [] => return ⟨date, ⟨0, 0, 0, 0, none⟩⟩
  | _ :: s => return ⟨date, ← Clock.ofText? s⟩

end Prepared
