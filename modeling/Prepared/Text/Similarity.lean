/-!
# Similarity

How alike two texts are: the longest run that they share, and the runs that
they share on either side of it, against the length of both.
-/

namespace Prepared.Text

def commonLength : List Char → List Char → Nat
  | a :: s, b :: t => if a = b then commonLength s t + 1 else 0
  | _, _ => 0

/-- A run that stands at `left` in one text and at `right` in the other. -/
structure SharedRun where
  left : Nat
  right : Nat
  size : Nat

/-- The longest shared run, the earliest in the first text and then in the second. -/
def longestRun (s t : List Char) : SharedRun :=
  let places := (List.range s.length).flatMap fun i => (List.range t.length).map fun j => (i, j)
  places.foldl
    (fun best (i, j) =>
      let size := commonLength (s.drop i) (t.drop j)
      if best.size < size then ⟨i, j, size⟩ else best)
    ⟨0, 0, 0⟩

/-- The length of all shared runs; each is found between those found before, at most `n` deep. -/
def sharedLength : Nat → List Char → List Char → Nat
  | 0, _, _ => 0
  | n + 1, s, t =>
    let run := longestRun s t
    if run.size = 0 then 0
    else
      run.size + sharedLength n (s.take run.left) (t.take run.right) +
        sharedLength n (s.drop (run.left + run.size)) (t.drop (run.right + run.size))

/-- Twice what two texts share, and what they have in all. -/
structure Similarity where
  shared : Nat
  total : Nat

def similarity (s t : List Char) : Similarity := ⟨2 * sharedLength s.length s t, s.length + t.length⟩

namespace Similarity

/-- Texts are close when three parts in five are shared. -/
def isClose (r : Similarity) : Bool := 3 * r.total ≤ 5 * r.shared

def less (r q : Similarity) : Bool := r.shared * q.total < q.shared * r.total

end Similarity

/-- The closest of some names to a text, if any is close; of equals the last in the alphabet. -/
def closest? (names : List String) (text : List Char) : Option String :=
  let scored := (names.map fun name => (similarity name.toList text, name)).filter (·.1.isClose)
  (scored.foldl
    (fun best r => match best with
      | none => some r
      | some b => if b.1.less r.1 || (!r.1.less b.1 && b.2 < r.2) then some r else some b)
    none).map (·.2)

end Prepared.Text
