import Prepared.Rewrite.Sequential

/-!
# Numbered markers

The leftmost marker of the query is replaced by the argument that it names,
then the leftmost one after the inserted text, until there is none left. The
query changes while it is searched, and inserted text is never searched again.
-/

namespace Prepared

open Number Text Template

/-- Is text that goes into the query at a position between quotes already? Seen
locally, when a quote stands right before it; otherwise, when the query ends with one. -/
def quotedAlready (config : Config) (query : List Char) (start : Nat) : Bool :=
  if config.looksLocally then decide (0 < start) && query[start - 1]? == some Dialect.quote
  else query.getLast? == some Dialect.quote

/-- The text that an argument has at a position of the query. -/
def Argument.numberedText (a : Argument) (config : Config) (query : List Char) (start : Nat) :
    Except LiteralError (List Char) :=
  if config.escapes then a.literal config.dialect
  else if a.isText then
    a.plainText.map fun s => if quotedAlready config query start then s else inQuotes s
  else a.plainText

/-- What a rewriting of markers gives: the query, and why it stopped, if it did. -/
abbrev Pass := Noted (Except RewriteError (List Char × Option Overlong))

def argumentAt (arguments : List Argument) (digits : List Char) (index : Nat) : Except RewriteError Argument :=
  match index with
  | 0 => .error (.indexOutOfRange digits arguments.length)
  | k + 1 => (arguments[k]?).elim (.error (.indexOutOfRange digits arguments.length)) .ok

def replacement (config : Config) (arguments : List Argument) (query : List Char) (m : Marker) (index : Nat) :
    Except RewriteError (List Char) := do
  let a ← argumentAt arguments m.digits index
  (a.numberedText config query m.start).mapError .literal

def splice (query : List Char) (m : Marker) (value : List Char) : List Char :=
  query.take m.start ++ value ++ query.drop m.stop

def numberedFrom (config : Config) (arguments : List Argument) (query : List Char) (position : Nat) : Pass :=
  match _h : markerFrom? query position with
  | none => Noted.pure (.ok (query, none))
  | some m =>
    match readDigits m.digits with
    | .error reason =>
      if config.isStrict then Noted.pure (.error (.unreadableIndex m.digits reason))
      else ⟨[.stopped m.digits reason], .ok (query, some reason)⟩
    | .ok index =>
      match replacement config arguments query m index with
      | .error e => Noted.pure (.error e)
      | .ok value =>
        (numberedFrom config arguments (splice query m value) (m.start + value.length)).after
          [.replaced m.digits value]
-- Behind the inserted text the query is as long as it was behind the marker.
termination_by query.length - position
decreasing_by
  have := markerFrom?_bounds _h
  simp only [splice, List.length_append, List.length_take, List.length_drop, Marker.stop] at this ⊢
  omega

def rewriteNumbered (config : Config) (template : List Char) (arguments : List Argument) :
    Noted (Except RewriteError Rewrite) :=
  (numberedFrom config arguments template 0).map fun r =>
    r.map fun (sql, stopped) => { sql, style := .numeric, stopped }

end Prepared
