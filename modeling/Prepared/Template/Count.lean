import Prepared.Template.Marker

/-!
# Placeholders of a template

How many arguments a template asks for, and in which style. Question marks win:
where there is one, numbered markers are not looked for. Numbered markers are
probed as plain substrings, from the first index up to the first that is absent.
-/

namespace Prepared

inductive Style
  | none
  | qmark
  | numeric
deriving DecidableEq, Repr

def Style.name : Style → String
  | .none => "none"
  | .qmark => "qmark"
  | .numeric => "numeric"

def Style.ofName? (s : String) : Option Style := [Style.none, .qmark, .numeric].find? (·.name == s)

structure Profile where
  count : Int
  style : Style
deriving DecidableEq, Repr

def unknownCount : Int := -1

def Profile.isKnown (p : Profile) : Bool := p.count != unknownCount

namespace Template

def qmark : Char := '?'

def occursIn (needle : List Char) : List Char → Bool
  | [] => needle.isEmpty
  | c :: s => needle.isPrefixOf (c :: s) || occursIn needle s

/-- The marker of an index, without leading zeros. -/
def label (index : Nat) : List Char := '$' :: Nat.toDigits 10 index

/-- The length of the run of indexes `1, 2, …` whose markers occur. A marker
takes at least one character of its own, so the length of the text bounds the run. -/
def contiguous (s : List Char) : Nat :=
  ((List.range s.length).takeWhile fun k => occursIn (label (k + 1)) s).length

def profile (s : List Char) : Profile :=
  let marks := s.count qmark
  if 0 < marks then ⟨marks, .qmark⟩
  else
    let indexes := contiguous s
    if 0 < indexes then ⟨indexes, .numeric⟩ else ⟨0, .none⟩

/-- The text between question marks: one segment more than there are marks. -/
def segments : List Char → List (List Char)
  | [] => [[]]
  | c :: s =>
    if c = qmark then [] :: segments s
    else match segments s with
      | [] => [[c]]
      | t :: ts => (c :: t) :: ts

theorem length_segments (s : List Char) : (segments s).length = s.count qmark + 1 := by
  induction s with
  | nil => rfl
  | cons c s ih =>
    by_cases h : c = qmark
    · simp [segments, h, ih]
    · simp only [segments, h, if_false, List.count_cons]
      cases hs : segments s with
      | nil => simp [hs] at ih
      | cons t ts => simp [hs] at ih ⊢; simp [ih, h]

end Template
end Prepared
