import Prepared.Literal.Write
import Prepared.Proofs.Number.Spelling

/-!
# Scanning a query

A query is read from left to right: plain text, strings between single quotes,
identifiers between double quotes, and comments, up to the end of a line or
between `/*` and `*/`. Main statement: from plain text a literal of the generic
dialect leads back to plain text, and the only one that does not is a negative
number right after a minus sign, which opens a comment.
-/

namespace Prepared

open Number Text

inductive Region
  | plain
  | string
  | identifier
  | lineComment
  | blockComment
deriving DecidableEq

/-- `last` is the character before, where it may open or close a comment
together with the next one. -/
structure Scanner where
  region : Region := .plain
  last : Option Char := none
deriving DecidableEq

namespace Scanner

def step (x : Scanner) (c : Char) : Scanner :=
  match x.region with
  | .plain =>
    if c = '\'' then { region := .string }
    else if c = '"' then { region := .identifier }
    else if c = '-' ∧ x.last = some '-' then { region := .lineComment }
    else if c = '*' ∧ x.last = some '/' then { region := .blockComment }
    else { last := some c }
  | .string => if c = '\'' then {} else { region := .string }
  | .identifier => if c = '"' then {} else { region := .identifier }
  | .lineComment => if c = '\n' then {} else { region := .lineComment }
  | .blockComment =>
    if c = '/' ∧ x.last = some '*' then {} else { region := .blockComment, last := some c }

def run (x : Scanner) (s : List Char) : Scanner := s.foldl step x

def behind (s : List Char) : Scanner := run {} s

@[simp] theorem run_nil (x : Scanner) : x.run [] = x := rfl

@[simp] theorem run_cons (x : Scanner) (c : Char) (s : List Char) : x.run (c :: s) = (x.step c).run s := rfl

theorem run_append (x : Scanner) (s t : List Char) : x.run (s ++ t) = (x.run s).run t := List.foldl_append

theorem behind_append (s t : List Char) : behind (s ++ t) = (behind s).run t := run_append _ s t

/-- In plain text, behind no character that could open a comment. -/
structure Settled (x : Scanner) : Prop where
  plain : x.region = .plain
  minus : x.last ≠ some '-'
  slash : x.last ≠ some '/'

def Agree (x y : Scanner) : Prop := x = y ∨ x.Settled ∧ y.Settled

section
variable {x y : Scanner} {c : Char} {s : List Char}

theorem Settled.step_eq (hx : x.Settled) (hy : y.Settled) (c : Char) : x.step c = y.step c := by
  simp only [step, hx.plain, hy.plain, hx.minus, hy.minus, hx.slash, hy.slash]

theorem Agree.step (h : Agree x y) (c : Char) : Agree (x.step c) (y.step c) := by
  rcases h with rfl | ⟨hx, hy⟩
  · exact Or.inl rfl
  · exact Or.inl (hx.step_eq hy c)

theorem Agree.run (h : Agree x y) (s : List Char) : Agree (x.run s) (y.run s) := by
  induction s generalizing x y with
  | nil => exact h
  | cons c s ih => exact ih (h.step c)

theorem Agree.region (h : Agree x y) : x.region = y.region := by
  rcases h with rfl | ⟨hx, hy⟩
  · rfl
  · rw [hx.plain, hy.plain]

/-! ## The character before -/

theorem last_step (h : (x.step c).region = .plain) : (x.step c).last = some '-' ↔ c = '-' := by
  unfold step at h ⊢
  cases hx : x.region <;> simp only [hx] at h ⊢ <;> grind

theorem last_behind (h : (behind s).region = .plain) : (behind s).last = some '-' ↔ s.getLast? = some '-' := by
  rcases List.eq_nil_or_concat s with rfl | ⟨s, c, rfl⟩
  · simp [behind]
  · rw [List.concat_eq_append, behind_append, run_cons, run_nil] at h ⊢
    rw [last_step h, List.getLast?_concat]
    simp

/-! ## Text that says nothing to the scanner -/

/-- The character neither delimits a region nor has a part in a comment's delimiter. -/
def Quiet (c : Char) : Prop := c ∉ ['\'', '"', '-', '*', '/', '\n']

theorem quiet_of_isWordChar (h : isWordChar c = true) : Quiet c := by
  intro hc
  simp only [List.mem_cons, List.not_mem_nil, or_false] at hc
  rcases hc with rfl | rfl | rfl | rfl | rfl | rfl <;> exact absurd h (by decide)

theorem Quiet.step_eq (hc : Quiet c) (hx : x.region = .plain) : x.step c = { last := some c } := by
  simp only [Quiet, List.mem_cons, List.not_mem_nil, or_false, not_or] at hc
  simp only [step, hx, hc.1, hc.2.1, hc.2.2.1, hc.2.2.2.1, false_and, if_false]

theorem Quiet.settled (hc : Quiet c) : Settled { last := some c } := by
  simp only [Quiet, List.mem_cons, List.not_mem_nil, or_false, not_or] at hc
  exact ⟨rfl, by simpa using hc.2.2.1, by simpa using hc.2.2.2.2.1⟩

theorem run_quiet (hne : s ≠ []) (hs : ∀ c ∈ s, Quiet c) (hx : x.region = .plain) : (x.run s).Settled := by
  induction s generalizing x with
  | nil => exact absurd rfl hne
  | cons c s ih =>
    have hc := hs c (by simp)
    rw [run_cons, hc.step_eq hx]
    cases s with
    | nil => exact hc.settled
    | cons d s => exact ih (by simp) (fun e he => hs e (by simp [he])) rfl

/-! ## Literals -/

theorem run_writeChars (s : List Char) :
    ({ region := .string } : Scanner).run (s.flatMap Dialect.generic.quoting.writeChar) = { region := .string } := by
  induction s with
  | nil => rfl
  | cons c s ih =>
    rw [List.flatMap_cons, run_append]
    have hchar : ({ region := .string } : Scanner).run (Dialect.generic.quoting.writeChar c) =
        { region := .string } := by
      by_cases hc : c = '\''
      · subst hc
        rfl
      · have hself : Dialect.generic.quoting.writeChar c = [c] := by
          simp [Quoting.writeChar, Quoting.escape?, Dialect.quoting, Dialect.escapes, Dialect.quote, hc]
        rw [hself]
        simp [step, hc]
    rw [hchar, ih]

theorem run_writeString (s : List Char) (hx : x.region = .plain) :
    (x.run (Dialect.generic.writeString s)).Settled := by
  have hopen : x.step '\'' = { region := .string } := by simp [step, hx]
  have hclose : x.run (Dialect.generic.writeString s) = {} := by
    rw [Dialect.writeString, Quoting.writeString, Dialect.quote, List.cons_append, run_cons, hopen, run_append,
      run_writeChars]
    rfl
  rw [hclose]
  exact ⟨rfl, by simp, by simp⟩

theorem run_word (hs : IsWord s) (hx : x.region = .plain) : (x.run s).Settled :=
  run_quiet hs.1 (fun c hc => quiet_of_isWordChar (hs.2 c hc)) hx

theorem Settled.minus_eq (hx : x.Settled) : x.step '-' = { last := some '-' } := by
  simp [step, hx.plain, hx.minus]

theorem run_magnitude (hs : IsMagnitude s) (hx : x.region = .plain) : (x.run s).Settled := by
  rcases hs with hs | ⟨v, w, rfl, hv, hw⟩
  · exact run_word hs hx
  · rw [run_append, run_cons, (run_word hv hx).minus_eq]
    exact run_word hw rfl

/-- A number leads from plain text to plain text, unless two minus signs meet. -/
theorem run_spelling (hs : IsSpelling s) (hx : x.region = .plain) (h : s.head? = some '-' → x.last ≠ some '-') :
    (x.run s).Settled := by
  obtain ⟨negative, m, rfl, hm⟩ := hs
  cases negative with
  | false => exact run_magnitude hm hx
  | true =>
    have hminus : x.step '-' = { last := some '-' } := by simp [step, hx, h rfl]
    rw [signed, if_pos rfl, run_cons, hminus]
    exact run_magnitude hm rfl

theorem run_spelling_comment (hs : IsSpelling s) (hx : x.region = .plain) (hlast : x.last = some '-')
    (h : s.head? = some '-') : (x.run s).region = .lineComment := by
  have hcomment : ∀ t : List Char, '\n' ∉ t →
      ({ region := .lineComment } : Scanner).run t = { region := .lineComment } := by
    intro t ht
    induction t with
    | nil => rfl
    | cons c t ih =>
      have hc : c ≠ '\n' := fun hc => ht (by simp [hc])
      rw [run_cons, show ({ region := .lineComment } : Scanner).step c = { region := .lineComment } by simp [step, hc]]
      exact ih fun hm => ht (by simp [hm])
  obtain ⟨t, rfl⟩ : ∃ t, s = '-' :: t := by
    cases s with
    | nil => cases h
    | cons c t => exact ⟨t, by rw [Option.some.inj h]⟩
  have hnewline : '\n' ∉ t := by
    intro hm
    rcases hs.mem (List.mem_cons_of_mem '-' hm) with hc | hc
    · exact absurd hc (by decide)
    · exact absurd hc (by decide)
  rw [run_cons, show x.step '-' = { region := .lineComment } by simp [step, hx, hlast], hcomment t hnewline]

end
end Scanner
end Prepared
