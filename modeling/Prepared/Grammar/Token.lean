import Prepared.Grammar.Word
import Prepared.Text.Digit
import Prepared.Text.Hex
import Prepared.Text.Upper

/-!
# Tokens

A statement as a list of words, quoted names, strings, numbers and symbols.
Blanks and comments are skipped. Reading fails only where a quote or a comment
is not closed.
-/

namespace Prepared.Grammar

open Text

/-- Words are in capitals. A hint to the planner is a symbol. -/
inductive Token
  | word (upper : String)
  | name
  | string
  | number
  | symbol (text : String)
deriving DecidableEq, Repr

def Token.is (t : Token) (s : String) : Bool := t == .word s || t == .symbol s

/-- Symbols of several characters, longer ones before those that they begin with. -/
def longSymbols (d : Dialect) : List String :=
  (match d with
    | .postgres => ["@>", "<@", "@@", "||/", "|/", "#-", "?|", "?&"]
    | .duckdb => ["@>", "<@", "//", "**", "^@"]
    | .mysql => ["@@"]
    | _ => []) ++
  ["<=>", "->>", "#>>", "<->", "~~~", "~~*", "==", "::", "||", "|>", ">=", "<=", "<>", "!=", ":=", "->", "=>", "#>",
    "&&", "??", "~~", "~*"]

/-- Characters that are a token of their own, or begin one that is no word. -/
def isSign (c : Char) : Bool := "()[]\x7b\x7d&^:,-.+;/\\*~<=>|%!?@#$'\"`".toList.contains c

def isWordChar (d : Dialect) (c : Char) : Bool := !isBlank c && (!isSign c || d.wordSigns.contains c)

def startsWith (s : List Char) (mark : String) : Bool := mark.toList.isPrefixOf s

/-- The text after a quote that ends with `close`. A doubled mark does not end
it, and neither does one after a backslash where those are special. -/
def afterQuote (escapes : Bool) (close : Char) : List Char → Option (List Char)
  | [] => none
  | [c] => if c = close then some [] else none
  | c :: c' :: s =>
    if c = close then if c' = close then afterQuote escapes close s else some (c' :: s)
    else if escapes && c == '\\' then afterQuote escapes close s
    else afterQuote escapes close (c' :: s)

/-- The text after a comment that is `depth` levels deep. -/
def afterComment (nests : Bool) : Nat → List Char → Option (List Char)
  | _, [] | _, [_] => none
  | depth, c :: c' :: s =>
    if c = '*' ∧ c' = '/' then
      match depth with
      | 0 | 1 => some s
      | n + 1 => afterComment nests n s
    else if nests ∧ c = '/' ∧ c' = '*' then afterComment nests (depth + 1) s
    else afterComment nests depth (c' :: s)

/-- The text after a number that has begun. A sign counts in it only after the mark of an exponent. -/
def afterNumber (hasPoint hasExponent signable : Bool) : List Char → List Char
  | [] => []
  | c :: s =>
    if isDigit c then afterNumber hasPoint hasExponent signable s
    else if c = '.' ∧ !hasPoint then afterNumber true hasExponent signable s
    else if (c = '-' ∨ c = '+') ∧ signable then afterNumber hasPoint hasExponent false s
    else if (c = 'e' ∨ c = 'E') ∧ !hasExponent then afterNumber hasPoint true true s
    else c :: s

/-- A number in base sixteen or two that begins with a zero; with a digit of no such base it is a name. -/
def basedNumber? (d : Dialect) (c : Char) (s : List Char) : Option (Token × List Char) :=
  match s with
  | [] => none
  | letter :: s =>
    if c = '0' ∧ d.baseLetters.contains letter then
      let (digits, rest) := s.span fun c => !isBlank c && !isSign c
      let base := if letter = 'x' ∨ letter = 'X' then 16 else 2
      let good := !digits.isEmpty && digits.all fun c => (hexValue? c).any (· < base)
      some (if good then .number else .name, rest)
    else none

def startsLineComment (d : Dialect) (s : List Char) : Bool :=
  d.lineMarks.any fun mark =>
    startsWith s mark &&
      (d != .mysql || mark != "--" || ((s.drop 2).head?.elim true isBlank))

/-- Does a hint begin here, rather than a comment? -/
def startsHint (d : Dialect) (s : List Char) : Bool :=
  startsWith s "/*+" && !(d == .postgres || d == .sqlite || d == .bigquery)

def afterMark? (mark : List Char) : List Char → Option (List Char)
  | [] => none
  | c :: s => if mark.isPrefixOf (c :: s) then some ((c :: s).drop mark.length) else afterMark? mark s

/-- The mark that a string between dollar signs begins with. -/
def dollarMark? (d : Dialect) (c : Char) (s : List Char) : Option (List Char) :=
  let word := s.takeWhile fun c => c.isAlpha || c == '_'
  if d.hasDollarQuotes && c == '$' && (s.drop word.length).head? == some '$' then
    some (c :: word ++ ['$'])
  else none

/-- Quoted text that begins here, and what follows it. -/
def quote? (d : Dialect) (c : Char) (s : List Char) : Option (Token × Option (List Char)) :=
  match d.nameMarks.lookup c with
  | some close => some (.name, afterQuote false close s)
  | none =>
    if d.stringMarks.contains c then some (.string, afterQuote d.hasEscapes c s)
    else
      match dollarMark? d c s, s with
      | some mark, s => some (.string, afterMark? mark (s.drop (mark.length - 1)))
      | none, mark :: s =>
        if d.stringLetters.contains c && d.stringMarks.contains mark then
          some (.string, afterQuote d.hasEscapes mark s)
        else none
      | none, [] => none

/-- The token that begins with the first character, if that is not to be
skipped, and the text after it. -/
def scan (d : Dialect) (c : Char) (s : List Char) : Option (Option Token × List Char) :=
  if isBlank c then some (none, s)
  else if startsLineComment d (c :: s) then
    some (none, s.dropWhile fun c => c != '\n' && c != '\r')
  else if startsHint d (c :: s) then
    (afterComment d.nestsComments 1 (s.drop 1)).map (some (.symbol "/*+"), ·)
  else if startsWith (c :: s) "/*" then (afterComment d.nestsComments 1 (s.drop 1)).map (none, ·)
  else if isDigit c then
    match basedNumber? d c s with
    | some (t, rest) => some (some t, rest)
    | none => some (some .number, afterNumber false false false s)
  else
    match quote? d c s with
    | some (t, rest) => rest.map (some t, ·)
    | none =>
      match (longSymbols d).find? (startsWith (c :: s)) with
      | some mark => some (some (.symbol mark), s.drop (mark.length - 1))
      | none =>
        if isSign c then some (some (.symbol c.toString), s)
        else
          let w := upper (c :: s.takeWhile (isWordChar d))
          some (some (.word (String.ofList w)), s.dropWhile (isWordChar d))

/-- Every token takes at least one character, so as many steps as there are characters are enough. -/
def tokensWithin (d : Dialect) : Nat → List Char → Option (List Token)
  | _, [] => some []
  | 0, _ :: _ => none
  | n + 1, c :: s =>
    match scan d c s with
    | none => none
    | some (t, rest) => (tokensWithin d n rest).map (t.toList ++ ·)

def joinPhrases (phrases : List (String × String)) : List Token → List Token
  | [] => []
  | t :: ts =>
    match t, joinPhrases phrases ts with
    | .word a, .word b :: rest =>
      if phrases.contains (a, b) then .word (a ++ " " ++ b) :: rest else .word a :: .word b :: rest
    | t, rest => t :: rest

def tokens? (d : Dialect) (s : List Char) : Option (List Token) :=
  (tokensWithin d s.length s).map (joinPhrases d.phrases)

end Prepared.Grammar
