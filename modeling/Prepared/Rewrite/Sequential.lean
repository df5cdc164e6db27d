import Prepared.Rewrite.Basic

/-!
# Question marks

Arguments take the places of the question marks, in order.
-/

namespace Prepared

open Text

/-- Text between single quotes, with nothing escaped. -/
def inQuotes (s : List Char) : List Char := Dialect.quote :: s ++ [Dialect.quote]

/-- Outside of literals, only a text with a space in it is put between quotes. -/
def Argument.sequentialText (a : Argument) (config : Config) : Except LiteralError (List Char) :=
  if config.escapes then a.literal config.dialect
  else a.plainText.map fun s => if s.contains ' ' then inQuotes s else s

/-- Texts with segments between them, from a segment on. -/
def interleave : List (List Char) → List (List Char) → List Char
  | [], _ => []
  | s :: ss, [] => s ++ interleave ss []
  | s :: ss, t :: ts => s ++ t ++ interleave ss ts

def rewriteSequential (config : Config) (template : List Char) (arguments : List Argument) :
    Except RewriteError (List Char) :=
  let segments := Template.segments template
  let expected := segments.length - 1
  if expected ≠ arguments.length then .error (.argumentCount expected arguments.length)
  else do
    let texts ← arguments.mapM fun a => (a.sequentialText config).mapError .literal
    return interleave segments texts

end Prepared
