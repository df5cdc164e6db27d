import Prepared.Literal.Quoting

/-!
# Reading a string

How a dialect reads a string between single quotes. It ends at the first quote
that does not stand for itself. A quote does when it is doubled, where a dialect
has that, or follows a backslash, where those are special. What a backslash and
the text behind it stand for is a rule of the dialect.
-/

namespace Prepared

open Dialect (quote backslash)

/-- From the text behind a backslash, `escape?` has what it stands for and how many
characters of it belong to the escape. -/
structure StringRules where
  doubled : Bool := true
  multiline : Bool := true
  escape? : Option (List Char → Option (List Char × Nat)) := none

namespace StringRules

/-- The value of a string behind its first quote, and the text behind its last. -/
def readBody? (k : StringRules) : List Char → Option (List Char × List Char)
  | [] => none
  | c :: r =>
    if c = quote then
      if k.doubled ∧ r.head? = some quote then (k.readBody? r.tail).map fun p => (c :: p.1, p.2)
      else some ([], r)
    else if (c = '\n' ∨ c = '\r') ∧ !k.multiline then none
    else
      match if c = backslash then k.escape? else none with
      | none => (k.readBody? r).map fun p => (c :: p.1, p.2)
      | some escape =>
        match escape r with
        | none => none
        | some (u, taken) => (k.readBody? (r.drop taken)).map fun p => (u ++ p.1, p.2)
termination_by s => s.length
decreasing_by all_goals simp only [List.length_cons, List.length_tail, List.length_drop]; omega

/-- The value of the string that begins here, and the text behind it. -/
def readString? (k : StringRules) : List Char → Option (List Char × List Char)
  | c :: r => if c = quote then k.readBody? r else none
  | [] => none

/-- Nothing is special in a string of the standard but the quote. -/
def standard : StringRules := {}

end StringRules

namespace Quoting

def sequences (q : Quoting) : List (Char × List Char) :=
  if q.doubles then q.escapes else (quote, [quote]) :: q.escapes

/-- The rules of a dialect that has the escapes of a table and no others. -/
def rules (q : Quoting) : StringRules where
  doubled := q.doubles
  escape? :=
    if q.sequences.isEmpty then none
    else some fun s => (q.sequences.find? (·.2.isPrefixOf s)).map fun e => ([e.1], e.2.length)

end Quoting
end Prepared
