import Prepared.Rewrite.Numbered

/-!
# Rewriting

A template and its arguments become a literal query. The style decides how, and
it is either the one found while counting or the one that the number of
arguments suggests.
-/

namespace Prepared

open Template

def countNotes (template : String) : List Note :=
  if (profile template.toList).style = .none then [.noPlaceholders template] else []

def countPlaceholders (template : String) : Noted Profile :=
  ⟨countNotes template, profile template.toList⟩

/-- With unified detection the style that counting found, and otherwise question
marks exactly when there are as many of them as arguments. -/
def chooseStyle (config : Config) (template : String) (arguments : Nat) (known : Option Profile) : Noted Style :=
  if config.isUnified then
    match known with
    | some p => Noted.pure p.style
    | none => (countPlaceholders template).map (·.style)
  else Noted.pure (if template.toList.count qmark = arguments then .qmark else .numeric)

def rewriteAs (style : Style) (config : Config) (template : List Char) (arguments : List Argument) :
    Noted (Except RewriteError Rewrite) :=
  match style with
  | .none => Noted.pure (.ok { sql := template, style := .none })
  | .qmark =>
    Noted.pure <| (rewriteSequential config template arguments).map fun sql => { sql, style := .qmark }
  | .numeric => rewriteNumbered config template arguments

/-- The query for a template and its arguments; `known` is what counting the
template gave, when that has been done. -/
def rewrite (config : Config) (template : String) (values : List Value) (known : Option Profile) :
    Noted (Except RewriteError Rewrite) :=
  let arguments := values.map Argument.ofValue
  let style := chooseStyle config template arguments.length known
  (rewriteAs style.value config template.toList arguments).after style.notes

end Prepared
