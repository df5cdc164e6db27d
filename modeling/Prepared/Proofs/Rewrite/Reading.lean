import Prepared.Proofs.Literal.Number
import Prepared.Proofs.Literal.Scanner
import Prepared.Proofs.Rewrite.Filling
import Prepared.Value.Equality

/-!
# Reading a rewritten query

Literals of the generic dialect in the places of markers that stand in plain
text. Main statement: the rest of the template is read as it was, exactly when
no negative number comes right after a minus sign of the template. Two minus
signs open a comment, and nothing keeps them apart.
-/

namespace Prepared

open Number Text Template

/-! ## The literals -/

def Value.IsUnwrapped (v : Value) : Prop := ∀ k w, v ≠ .typed k w

theorem Argument.ofValue_eq {v : Value} (h : v.IsUnwrapped) : Argument.ofValue v = ⟨v.kind, v⟩ := by
  cases v with
  | typed k w => exact absurd rfl (h k w)
  | _ => rfl

theorem isSpelling_of_isWord {s : List Char} (h : IsWord s) : IsSpelling s := ⟨false, s, rfl, Or.inl h⟩

def Value.isFinite (v : Value) : Bool := v.number?.all Decimal.isFinite

theorem isFinite_of_kind {v : Value} (h : v.kind ≠ .float) : v.isFinite = true := by
  cases v with
  | float | decimal => exact absurd rfl h
  | _ => rfl

theorem isNotation_plainText {v : Value} (h : v.kind = .integer ∨ v.kind = .float) {s : List Char}
    (hs : (Argument.mk v.kind v).plainText = .ok s) : IsNotation v.isFinite s := by
  cases v with
  | int n =>
    cases hn : integerText n with
    | error e =>
      simp only [Argument.plainText, Argument.text, Value.kind, Value.plain, Value.description, hn] at hs
      cases hs
    | ok t =>
      simp only [Argument.plainText, Argument.text, Value.kind, Value.plain, Value.description, hn] at hs
      obtain rfl := Except.ok.inj hs
      exact isNumber_integerText hn
  | float x =>
    obtain rfl := Except.ok.inj hs
    exact x.isNotation_text
  | decimal d =>
    obtain rfl := Except.ok.inj hs
    exact d.isNotation_text
  | _ => simp [Value.kind] at h

theorem literal_cases {v : Value} (h : v.IsUnwrapped) {setting : Value}
    (generic : Dialect.ofSetting setting = .ok .generic) {t : List Char}
    (ht : (Argument.ofValue v).literal setting = .ok t) :
    IsSpelling t ∨ ∃ s, t = Dialect.generic.writeString s := by
  rw [Argument.ofValue_eq h] at ht
  obtain ⟨s, hs⟩ := Argument.hasText_of_literal ht
  rw [Argument.literal_eq hs, generic] at ht
  obtain rfl := Except.ok.inj ht
  have hnull : IsSpelling "NULL".toList := isSpelling_of_isWord (by decide)
  have hbool (b : Bool) : IsSpelling (Dialect.generic.writeBool b) := by
    cases b <;> exact isSpelling_of_isWord (by decide)
  unfold Argument.literalIn
  cases hk : v.kind with
  | null => exact Or.inl hnull
  | boolean => exact Or.inl (hbool _)
  | integer => exact Or.inl (isNotation_plainText (Or.inl hk) hs).number.isSpelling
  | float => exact Or.inl (isNotation_plainText (Or.inr hk) hs).number.isSpelling
  | text => exact Or.inr ⟨s, rfl⟩
  | other => exact Or.inr ⟨s, rfl⟩

/-! ## The outline -/

namespace Outline

def upTo (l : Outline) (i : Nat) : Outline := { l with slots := l.slots.take i }

/-- Behind every text that went into a slot the query is plain text, and what
the template has up to the next marker is read as in the template. -/
structure ReadsAlike (l : Outline) (vs : List (List Char)) : Prop where
  value : ∀ i v, vs[i]? = some v → (Scanner.behind ((l.upTo i).fill vs ++ v)).region = .plain
  text : ∀ i x v p, l.slots[i]? = some x → vs[i]? = some v → p <+: x.text →
    (Scanner.behind ((l.upTo i).fill vs ++ v ++ p)).region = (Scanner.behind ((l.upTo i).spell ++ x.marker ++ p)).region

def MeetsMinus (l : Outline) (vs : List (List Char)) (i : Nat) : Prop :=
  ∃ v, vs[i]? = some v ∧ v.head? = some '-' ∧ (l.upTo i).spell.getLast? = some '-'

end Outline

theorem fillSlots_take_succ {xs : List Slot} {vs : List (List Char)} {i : Nat} {x : Slot} {v : List Char}
    (hx : xs[i]? = some x) (hv : vs[i]? = some v) :
    fillSlots vs (xs.take (i + 1)) = fillSlots vs (xs.take i) ++ v ++ x.text := by
  induction xs generalizing vs i with
  | nil => cases hx
  | cons y ys ih =>
    cases vs with
    | nil => cases hv
    | cons w ws =>
      cases i with
      | zero =>
        obtain rfl := Option.some.inj hx
        obtain rfl := Option.some.inj hv
        simp [fillSlots]
      | succ i =>
        rw [List.take_succ_cons, List.take_succ_cons, fillSlots, fillSlots, ih hx hv]
        simp

theorem fillSlots_nil_take_succ {xs : List Slot} {i : Nat} {x : Slot} (hx : xs[i]? = some x) :
    fillSlots [] (xs.take (i + 1)) = fillSlots [] (xs.take i) ++ x.marker ++ x.text := by
  rw [fillSlots_nil, fillSlots_nil, List.take_add_one, hx]
  simp [Slot.spell]

theorem quiet_of_mem_marker {style : Style} {s : List Char} {x : Slot} (hx : x ∈ (Outline.of style s).slots) :
    x.marker ≠ [] ∧ ∀ c ∈ x.marker, Scanner.Quiet c := by
  cases style with
  | none => cases hx
  | qmark =>
    obtain ⟨p, -, rfl⟩ := List.mem_map.mp hx
    exact ⟨by simp, by simp [Scanner.Quiet, qmark]⟩
  | numeric =>
    obtain ⟨y, hy, rfl⟩ := List.mem_map.mp hx
    refine ⟨by simp [Site.slot], fun c hc => ?_⟩
    rcases List.mem_cons.mp hc with rfl | hc
    · simp [Scanner.Quiet]
    · exact Scanner.quiet_of_isWordChar (isWordChar_of_isDigit (((cut_of s).proper y hy).digits c hc))

section
variable {l : Outline} {vs : List (List Char)} (length : vs.length = l.slots.length)
  (markers : ∀ x ∈ l.slots, x.marker ≠ [] ∧ ∀ c ∈ x.marker, Scanner.Quiet c)
  (literals : ∀ v ∈ vs, IsSpelling v ∨ ∃ s, v = Dialect.generic.writeString s)
  (plain : ∀ i < l.slots.length, (Scanner.behind (l.upTo i).spell).region = .plain)
include length markers literals plain

omit length in
theorem settled_of_agree {i : Nat} {x : Slot} {v : List Char} (hx : l.slots[i]? = some x) (hv : vs[i]? = some v)
    (agree : Scanner.Agree (Scanner.behind ((l.upTo i).fill vs)) (Scanner.behind (l.upTo i).spell))
    (apart : ¬ l.MeetsMinus vs i) :
    (Scanner.behind ((l.upTo i).fill vs ++ v)).Settled ∧ (Scanner.behind ((l.upTo i).spell ++ x.marker)).Settled := by
  obtain ⟨hi, -⟩ := List.getElem?_eq_some_iff.mp hx
  have hplain := plain i hi
  have hmarker := markers x (List.mem_of_getElem? hx)
  rw [Scanner.behind_append, Scanner.behind_append]
  refine ⟨?_, Scanner.run_quiet hmarker.1 hmarker.2 hplain⟩
  have hplain' : (Scanner.behind ((l.upTo i).fill vs)).region = .plain := agree.region.trans hplain
  rcases literals v (List.mem_of_getElem? hv) with hspelling | ⟨s, rfl⟩
  · refine Scanner.run_spelling hspelling hplain' fun hminus hlast => apart ⟨v, hv, hminus, ?_⟩
    rw [← Scanner.last_behind hplain]
    rcases agree with heq | ⟨hsettled, -⟩
    · rw [← heq]
      exact hlast
    · exact absurd hlast hsettled.minus
  · exact Scanner.run_writeString s hplain'

theorem agree_upTo {n : Nat} (hn : n ≤ l.slots.length) (apart : ∀ i < n, ¬ l.MeetsMinus vs i) :
    Scanner.Agree (Scanner.behind ((l.upTo n).fill vs)) (Scanner.behind (l.upTo n).spell) := by
  induction n with
  | zero => exact Or.inl (by simp [Outline.upTo, Outline.spell, Outline.fill, fillSlots])
  | succ n ih =>
    have hlt : n < vs.length := by omega
    have hx : l.slots[n]? = some l.slots[n] := List.getElem?_eq_getElem (by omega)
    have hv : vs[n]? = some vs[n] := List.getElem?_eq_getElem hlt
    have agree := ih (by omega) fun i hi => apart i (by omega)
    -- Behind the text and behind the marker nothing is left to tell the two scanners apart.
    have hsettled := settled_of_agree markers literals plain hx hv agree (apart n (by omega))
    have hfill : (l.upTo (n + 1)).fill vs = (l.upTo n).fill vs ++ vs[n] ++ l.slots[n].text := by
      simp only [Outline.fill, Outline.upTo, fillSlots_take_succ hx hv, List.append_assoc]
    have hspell : (l.upTo (n + 1)).spell = (l.upTo n).spell ++ l.slots[n].marker ++ l.slots[n].text := by
      simp only [Outline.spell, Outline.fill, Outline.upTo, fillSlots_nil_take_succ hx, List.append_assoc]
    rw [hfill, hspell, Scanner.behind_append _ l.slots[n].text, Scanner.behind_append _ l.slots[n].text]
    exact Scanner.Agree.run (Or.inr hsettled) _

theorem readsAlike_of_apart (apart : ∀ i, ¬ l.MeetsMinus vs i) : l.ReadsAlike vs := by
  have hsettled {i : Nat} {x : Slot} {v : List Char} (hx : l.slots[i]? = some x) (hv : vs[i]? = some v) :=
    settled_of_agree markers literals plain hx hv
      (agree_upTo length markers literals plain
        (Nat.le_of_lt (List.getElem?_eq_some_iff.mp hx).choose) fun j _ => apart j) (apart i)
  constructor
  · intro i v hv
    obtain ⟨hi, -⟩ := List.getElem?_eq_some_iff.mp hv
    exact (hsettled (List.getElem?_eq_getElem (by omega)) hv).1.plain
  · intro i x v p hx hv _
    rw [Scanner.behind_append _ p, Scanner.behind_append _ p]
    exact (Scanner.Agree.run (Or.inr (hsettled hx hv)) p).region

/-- Where two minus signs meet for the first time, the text is read as a comment. -/
theorem apart_of_readsAlike (h : l.ReadsAlike vs) (i : Nat) : ¬ l.MeetsMinus vs i := by
  induction i using Nat.strongRecOn with
  | ind i ih =>
    rintro ⟨v, hv, hminus, hlast⟩
    obtain ⟨hi, -⟩ := List.getElem?_eq_some_iff.mp hv
    have hplain := plain i (by omega)
    have agree := agree_upTo length markers literals plain (show i ≤ l.slots.length by omega) ih
    rw [← Scanner.last_behind hplain] at hlast
    -- A scanner that is settled has no minus sign behind it, so both are in the same state.
    have heq : Scanner.behind ((l.upTo i).fill vs) = Scanner.behind (l.upTo i).spell := by
      rcases agree with heq | ⟨-, hsettled⟩
      · exact heq
      · exact absurd hlast hsettled.minus
    have hvalue := h.value i v hv
    rw [Scanner.behind_append, heq] at hvalue
    rcases literals v (List.mem_of_getElem? hv) with hspelling | ⟨s, rfl⟩
    · rw [Scanner.run_spelling_comment hspelling hplain hlast hminus] at hvalue
      cases hvalue
    · cases hminus

end

/-- A complete rewriting with literals of the generic dialect, all of whose
markers stand in plain text: values leave the reading of the template as it
was, unless one brings a minus sign right behind another. -/
theorem rewrite_readsAlike_iff (config : Config) (template : String) (values : List Value) (known : Option Profile)
    (escapes : config.escapes = true) (generic : Dialect.ofSetting config.dialect = .ok .generic)
    (unwrapped : ∀ v ∈ values, v.IsUnwrapped) {r : Rewrite}
    (h : (rewrite config template values known).value = .ok r) (complete : r.complete = true)
    (plain : ∀ i < (Outline.of r.style template.toList).slots.length,
      (Scanner.behind ((Outline.of r.style template.toList).upTo i).spell).region = .plain) :
    ∃ vs, (Outline.of r.style template.toList).Takes config (values.map Argument.ofValue) vs ∧
      vs.length = (Outline.of r.style template.toList).slots.length ∧
      r.sql = (Outline.of r.style template.toList).fill vs ∧
      ((Outline.of r.style template.toList).ReadsAlike vs ↔
        ∀ i, ¬ (Outline.of r.style template.toList).MeetsMinus vs i) := by
  obtain ⟨vs, hwalk, hsql⟩ := rewriteAs_ok h
  have hstopped : r.stopped = none := Option.isNone_iff_eq_none.mp complete
  have hlength := hwalk.length_eq (by rw [hstopped])
  have literals : ∀ v ∈ vs, IsSpelling v ∨ ∃ s, v = Dialect.generic.writeString s := by
    intro v hv
    obtain ⟨i, hi⟩ := List.mem_iff_getElem?.mp hv
    obtain ⟨x, a, -, ⟨n, -, ha⟩, s, hs, hshown⟩ := hwalk.writes hi
    obtain ⟨value, hmem, rfl⟩ := List.mem_map.mp (List.mem_of_getElem? ha)
    rw [Argument.bareText, if_pos escapes] at hs
    rcases hshown with rfl | ⟨hnot, -⟩
    · exact literal_cases (unwrapped value hmem) generic hs
    · rw [escapes] at hnot
      cases hnot
  have markers : ∀ x ∈ (Outline.of r.style template.toList).slots,
      x.marker ≠ [] ∧ ∀ c ∈ x.marker, Scanner.Quiet c := fun x => quiet_of_mem_marker
  refine ⟨vs, hwalk.takes, hlength, hsql, fun hreads => ?_, fun apart => ?_⟩
  · exact apart_of_readsAlike hlength markers literals plain hreads
  · exact readsAlike_of_apart hlength markers literals plain apart

/-- A text with a quote and two minus signs, and a negative number that keeps its distance. -/
theorem rewrite_readsAlike_apart :
    let config : Config := { literalStyle := .escaped }
    let template := "SELECT ?, 5 - ? -- rest"
    let values : List Value := [.text "it's --", .int (-3)]
    let r : Rewrite := ⟨"SELECT 'it''s --', 5 - -3 -- rest".toList, .qmark, none⟩
    let l := Outline.of r.style template.toList
    config.escapes = true ∧ Dialect.ofSetting config.dialect = .ok .generic ∧ (∀ v ∈ values, v.IsUnwrapped) ∧
      (rewrite config template values none).value = .ok r ∧ r.complete = true ∧
      (∀ i < l.slots.length, (Scanner.behind (l.upTo i).spell).region = .plain) ∧
      ∃ vs, vs.length = l.slots.length ∧ r.sql = l.fill vs ∧ l.ReadsAlike vs := by
  intro config template values r l
  have unwrapped : ∀ v ∈ values, v.IsUnwrapped := by
    intro v hv k w
    rcases List.mem_cons.mp hv with rfl | hv
    · exact Value.noConfusion
    · obtain rfl := List.mem_singleton.mp hv
      exact Value.noConfusion
  have h : (rewrite config template values none).value = .ok r := by decide +kernel
  have plain : ∀ i < l.slots.length, (Scanner.behind (l.upTo i).spell).region = .plain := by decide
  obtain ⟨vs, -, hlength, hsql, hiff⟩ :=
    rewrite_readsAlike_iff config template values none rfl rfl unwrapped h rfl plain
  have blanks : ∀ i < l.slots.length, (l.upTo i).spell.getLast? = some ' ' := by decide
  refine ⟨rfl, rfl, unwrapped, h, rfl, plain, vs, hlength, hsql, hiff.mpr fun i => ?_⟩
  rintro ⟨v, hv, -, hlast⟩
  obtain ⟨hi, -⟩ := List.getElem?_eq_some_iff.mp hv
  rw [blanks i (hlength ▸ hi)] at hlast
  exact absurd hlast (by decide)

/-- The marker stands in plain text, and what follows it is read as a comment. -/
theorem rewrite_misread :
    let config : Config := { literalStyle := .escaped }
    let template := "SELECT 5-? FROM t"
    let l := Outline.of .qmark template.toList
    (rewrite config template [.int (-3)] none).value = .ok ⟨"SELECT 5--3 FROM t".toList, .qmark, none⟩ ∧
      l.fill ["-3".toList] = "SELECT 5--3 FROM t".toList ∧
      (∀ i < l.slots.length, (Scanner.behind (l.upTo i).spell).region = .plain) ∧
      (Scanner.behind "SELECT 5--3".toList).region = .lineComment ∧ ¬ l.ReadsAlike ["-3".toList] := by
  intro config template l
  have hcomment : (Scanner.behind "SELECT 5--3".toList).region = .lineComment := by decide
  refine ⟨by decide +kernel, by decide, by decide, hcomment, fun h => ?_⟩
  have hplain := h.value 0 "-3".toList rfl
  rw [show (l.upTo 0).fill ["-3".toList] ++ "-3".toList = "SELECT 5--3".toList by decide, hcomment] at hplain
  cases hplain

end Prepared
