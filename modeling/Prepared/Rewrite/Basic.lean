import Prepared.Literal.Write
import Prepared.Log.Entry
import Prepared.Template.Count

/-!
# Results of a rewriting

A rewriting either fails, or gives a query and tells whether it stopped early.
What it notes on the way is kept in order, also when it fails.
-/

namespace Prepared

open Number Text

inductive RewriteError
  | argumentCount (expected supplied : Nat)
  | indexOutOfRange (digits : List Char) (supplied : Nat)
  | unreadableIndex (digits : List Char) (reason : Overlong)
  | literal (e : LiteralError)
deriving DecidableEq, Repr

/-- Something worth logging. -/
inductive Note
  | noPlaceholders (template : String)
  | replaced (digits value : List Char)
  | stopped (digits : List Char) (reason : Overlong)
deriving DecidableEq, Repr

/-- At most this much of a marker is shown. -/
def shownLength : Nat := 32

def shownMarker (digits : List Char) : String := String.ofList (('$' :: digits).take shownLength)

def Note.entry : Note → Entry
  | .noPlaceholders template =>
    { level := .debug, logger := Logger.validator
      message := "No placeholders detected in <" ++ template ++ ">" }
  | .replaced digits value =>
    { level := .debug, logger := Logger.converter
      message := "Replacing " ++ String.ofList ('$' :: digits) ++ " with " ++ String.ofList value }
  | .stopped digits reason =>
    { level := .warning, logger := Logger.converter
      message := "Matched " ++ shownMarker digits ++ " as a placeholder but cannot get index: " ++ reason.message }

/-- The error as the caller of a rewriting of `template` sees it. -/
def RewriteError.raised (template : String) : RewriteError → Raised
  | .argumentCount expected supplied =>
    let text := s!"Query has {expected} '?' placeholder(s) but {supplied} argument(s) were supplied"
    { failure := .own (.aboutTemplate .parameterCount text (some template)) }
  | .indexOutOfRange digits supplied =>
    let text := "Placeholder " ++ String.ofList ('$' :: digits) ++
      s!" refers to argument {digitsValue digits} but {supplied} were supplied"
    { failure := .own (.aboutTemplate .placeholderIndex text (some template)) }
  | .unreadableIndex digits reason =>
    let text := "Matched " ++ shownMarker digits ++ " as a placeholder but cannot get index"
    { failure := .own (.aboutTemplate .placeholderParse text (some template))
      cause := some (.overlong reason) }
  | .literal e => { failure := e.failure }

/-- A query, the style that was followed, and why the rewriting stopped before
the end of the template, if it did. -/
structure Rewrite where
  sql : List Char
  style : Style
  stopped : Option Overlong := none
deriving DecidableEq, Repr

def Rewrite.complete (r : Rewrite) : Bool := r.stopped.isNone

structure Noted (α : Type) where
  notes : List Note
  value : α
deriving Repr

namespace Noted

def pure {α : Type} (a : α) : Noted α := ⟨[], a⟩

def map {α β : Type} (f : α → β) (x : Noted α) : Noted β := ⟨x.notes, f x.value⟩

def after {α : Type} (notes : List Note) (x : Noted α) : Noted α := ⟨notes ++ x.notes, x.value⟩

@[simp] theorem value_after {α : Type} (notes : List Note) (x : Noted α) : (x.after notes).value = x.value := rfl

@[simp] theorem notes_after {α : Type} (notes : List Note) (x : Noted α) :
    (x.after notes).notes = notes ++ x.notes := rfl

@[simp] theorem after_nil {α : Type} (x : Noted α) : x.after [] = x := rfl

@[simp] theorem after_after {α : Type} (notes notes' : List Note) (x : Noted α) :
    (x.after notes').after notes = x.after (notes ++ notes') := by
  simp [after]

@[simp] theorem value_map {α β : Type} (f : α → β) (x : Noted α) : (x.map f).value = f x.value := rfl

@[simp] theorem notes_map {α β : Type} (f : α → β) (x : Noted α) : (x.map f).notes = x.notes := rfl

end Noted
end Prepared
