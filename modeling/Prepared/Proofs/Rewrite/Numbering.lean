import Mathlib.Data.List.Forall2
import Prepared.Proofs.Rewrite.Agreement

/-!
# Numbering question marks

A template with question marks says the same when they are numbered, from left
to right. The marks then become sites of a cut, between the same texts, and
each asks for the argument that its mark asked for. As literals, arguments have
one text wherever they stand. Main statement: both templates are rewritten to
one query, each in the style of its markers.
-/

namespace Prepared

open Number Text Template

namespace Template

/-- The text with numbered markers in the places of its question marks, after
the first `n` of them. -/
def numberMarks : Nat → List Char → List Char
  | _, [] => []
  | n, c :: s => if c = qmark then label (n + 1) ++ numberMarks (n + 1) s else c :: numberMarks n s

def numberedSites (n : Nat) (ts : List (List Char)) : List Site :=
  (ts.zipIdx n).map fun p => ⟨Nat.toDigits 10 (p.2 + 1), p.1⟩

theorem numberedSites_cons (n : Nat) (t : List Char) (ts : List (List Char)) :
    numberedSites n (t :: ts) = ⟨Nat.toDigits 10 (n + 1), t⟩ :: numberedSites (n + 1) ts := by
  simp [numberedSites]

theorem digits_numberedSites (n : Nat) (ts : List (List Char)) :
    (numberedSites n ts).map (·.digits) = (List.range' (n + 1) ts.length).map (Nat.toDigits 10) := by
  induction ts generalizing n with
  | nil => rfl
  | cons t ts ih => rw [numberedSites_cons, List.map_cons, ih, List.length_cons, List.range'_succ, List.map_cons]

theorem spell_numberedSites (n : Nat) (s : List Char) :
    (segments s).headD [] ++ spellSites (numberedSites n (segments s).tail) = numberMarks n s := by
  induction s generalizing n with
  | nil => rfl
  | cons c s ih =>
    obtain ⟨t, ts, hs⟩ := segments_eq_cons s
    by_cases hc : c = qmark
    · have ih := ih (n + 1)
      rw [hs] at ih
      simp only [segments, numberMarks, if_pos hc, hs, List.headD_cons, List.tail_cons, numberedSites_cons,
        spellSites_cons, Site.spell, ← ih, label]
      simp
    · have ih := ih n
      rw [hs] at ih
      simp only [segments, numberMarks, if_neg hc, hs, List.headD_cons, List.tail_cons] at ih ⊢
      rw [List.cons_append, ih]

theorem count_numberMarks (n : Nat) (s : List Char) : (numberMarks n s).count qmark = 0 := by
  apply List.count_eq_zero_of_not_mem
  induction s generalizing n with
  | nil => exact List.not_mem_nil
  | cons c s ih =>
    intro hm
    unfold numberMarks at hm
    split at hm
    · rcases List.mem_append.mp hm with hm | hm
      · rcases List.mem_cons.mp hm with he | hm
        · exact absurd he (by decide)
        · exact absurd (isDigit_of_mem_toDigits hm) (by decide)
      · exact ih (n + 1) hm
    · rename_i hc
      rcases List.mem_cons.mp hm with he | hm
      · exact hc he.symm
      · exact ih n hm

/-! ## The cut -/

theorem segments_infix (s : List Char) :
    (segments s).headD [] <+: s ∧ ∀ t ∈ (segments s).tail, qmark :: t <:+: s := by
  induction s with
  | nil => exact ⟨List.prefix_rfl, fun t ht => absurd ht List.not_mem_nil⟩
  | cons c s ih =>
    obtain ⟨t, ts, hs⟩ := segments_eq_cons s
    rw [hs] at ih
    obtain ⟨hhead, htail⟩ := ih
    by_cases hc : c = qmark
    · subst hc
      simp only [segments, if_pos, hs, List.headD_cons, List.tail_cons]
      refine ⟨List.nil_prefix, fun u hu => ?_⟩
      rcases List.mem_cons.mp hu with rfl | hu
      · exact ((List.prefix_cons_inj qmark).mpr hhead).isInfix
      · exact List.infix_cons (htail u hu)
    · simp only [segments, if_neg hc, hs, List.headD_cons, List.tail_cons]
      exact ⟨(List.prefix_cons_inj c).mpr hhead, fun u hu => List.infix_cons (htail u hu)⟩

section
variable {s : List Char} (dollars : Unmarked s) (questions : ∀ d, isDigit d = true → ¬ [qmark, d] <:+: s)
include dollars questions

theorem numberMarks_cut : cut (numberMarks 0 s) = ⟨(segments s).headD [], numberedSites 0 (segments s).tail⟩ := by
  obtain ⟨hhead, htail⟩ := segments_infix s
  refine (cut_of _).unique ⟨spell_numberedSites 0 s, dollars.of_infix hhead.isInfix, fun x hx => ?_⟩
  obtain ⟨p, hp, rfl⟩ := List.mem_map.mp hx
  have hinfix := htail p.1 (List.fst_mem_of_mem_zipIdx hp)
  refine ⟨Nat.toDigits_ne_nil, fun d hd => isDigit_of_mem_toDigits hd, fun d hd => ?_, ?_⟩
  · -- A digit right after a number would be right after the mark in the template.
    cases hdigit : isDigit d with
    | false => rfl
    | true =>
      have hpair : [qmark, d] <+: qmark :: p.1 := by
        obtain ⟨r, hr⟩ := List.head?_eq_some_iff.mp hd
        rw [show p.1 = d :: r from hr]
        exact ⟨r, rfl⟩
      exact absurd (hpair.isInfix.trans hinfix) (questions d hdigit)
  · exact dollars.of_infix ((List.suffix_cons qmark p.1).isInfix.trans hinfix)

theorem numbered_numberMarks : Numbered (s.count qmark) (numberMarks 0 s) := by
  have hlength : (segments s).tail.length = s.count qmark := by rw [List.length_tail, length_segments]; omega
  have hdigits : (cut (numberMarks 0 s)).sites.map (·.digits) =
      (List.range' 1 (s.count qmark)).map (Nat.toDigits 10) := by
    rw [numberMarks_cut dollars questions, digits_numberedSites, hlength]
  rw [numbered_iff, hdigits]
  exact ⟨fun _ => id, fun _ => id⟩

end

end Template

/-! ## Slots that ask for the same -/

structure Slot.Alike (x y : Slot) : Prop where
  number : x.number = y.number
  text : x.text = y.text

theorem numberedSites_alike {n : Nat} {ts : List (List Char)} (h : n + ts.length < 10 ^ digitLimit) :
    List.Forall₂ Slot.Alike (questionSlots n ts) ((numberedSites n ts).map Site.slot) := by
  induction ts generalizing n with
  | nil => exact .nil
  | cons t ts ih =>
    rw [List.length_cons] at h
    rw [questionSlots_cons, numberedSites_cons, List.map_cons]
    refine .cons ⟨?_, rfl⟩ (ih (by omega))
    exact (readDigits_toDigits (by omega)).symm

section
variable {config : Config} {arguments : List Argument}

theorem Slot.Alike.fate_ok {x y : Slot} (h : x.Alike y) {s : List Char} (hx : x.fate config arguments = .ok s) :
    y.fate config arguments = .ok s := by
  obtain ⟨a, ⟨n, hn, ha⟩, hs⟩ := Slot.asks_of_fate hx
  have hasks : y.Asks arguments a := ⟨n, h.number ▸ hn, ha⟩
  rw [hasks.fate, hs]
  rfl

theorem Walk.fillSlots_eq (escapes : config.escapes = true) {xs ys : List Slot} (hxy : List.Forall₂ Slot.Alike xs ys)
    {vs ws : List (List Char)} {finish finish' : Except RewriteError (Option Overlong)}
    (h : Walk config arguments xs vs finish) (complete : finish = .ok none)
    (h' : Walk config arguments ys ws finish') (complete' : finish' = .ok none) :
    fillSlots vs xs = fillSlots ws ys := by
  have hshown {s v : List Char} (hv : Shown config s v) : v = s :=
    hv.resolve_right fun hquoted => by simp [escapes] at hquoted
  induction h generalizing ys ws with
  | done =>
    cases hxy
    rfl
  | ended fate => exact absurd (complete ▸ fate) Slot.fate_ne
  | written fate shown _ ih =>
    cases hxy with
    | cons hslot hrest =>
      cases h' with
      | ended fate' => exact absurd (complete' ▸ fate') Slot.fate_ne
      | written fate' shown' rest' =>
        obtain rfl := Except.ok.inj ((hslot.fate_ok fate).symm.trans fate')
        rw [fillSlots, fillSlots, hshown shown, hshown shown', hslot.text, ih hrest complete rest']

end

/-- As literals, as many values as there are question marks come to the same
query, whether the marks are numbered or not. -/
theorem rewrite_numberMarks (config : Config) (escapes : config.escapes = true) (template : String)
    {values : List Value} (hpos : 1 ≤ values.length) (hfew : values.length < 10 ^ digitLimit)
    (marks : template.toList.count qmark = values.length) (dollars : Unmarked template.toList)
    (questions : ∀ d, isDigit d = true → ¬ [qmark, d] <:+: template.toList)
    (renders : ∀ v ∈ values, (Argument.ofValue v).Renders config) {known known' : Option Profile}
    (hknown : known = none ∨ known = some (profile template.toList))
    (hknown' : known' = none ∨ known' = some (profile (numberMarks 0 template.toList))) :
    ∃ r r', (rewrite config template values known).value = .ok r ∧
      (rewrite config (String.ofList (numberMarks 0 template.toList)) values known').value = .ok r' ∧
      r.sql = r'.sql ∧ r.style = .qmark ∧ r'.style = .numeric ∧ r.complete = true ∧ r'.complete = true := by
  let numbered := numberMarks 0 template.toList
  have hrenders : ∀ a ∈ values.map Argument.ofValue, a.Renders config := by simpa using renders
  have hlength : (values.map Argument.ofValue).length = values.length := List.length_map _
  have hcut := numberMarks_cut dollars questions
  have hnumbered : Numbered values.length numbered := marks ▸ numbered_numberMarks dollars questions
  have hnone : numbered.count qmark = 0 := count_numberMarks 0 template.toList
  have hchosen : chooseStyle config template values.length known = Noted.pure .qmark := by
    rw [← marks]
    exact chooseStyle_qmark hknown (by rw [profile_of_marks (by omega)])
  have hchosen' : chooseStyle config (String.ofList numbered) values.length known' = Noted.pure .numeric := by
    apply chooseStyle_numeric
    · rwa [String.toList_ofList]
    · rw [String.toList_ofList, hnumbered.profile_eq hpos hnone]
    · rwa [String.toList_ofList]
    · omega
  obtain ⟨r, hr, hstyle, hcomplete⟩ := rewriteAs_marks hrenders (hlength.trans marks.symm)
  obtain ⟨r', hr', hstyle', hcomplete'⟩ := rewriteAs_complete hnumbered hfew hrenders hlength
  obtain ⟨vs, hwalk, hsql⟩ := rewriteAs_ok hr
  obtain ⟨ws, hwalk', hsql'⟩ := rewriteAs_ok hr'
  rw [hstyle] at hwalk hsql
  rw [hstyle'] at hwalk' hsql'
  refine ⟨r, r', ?_, ?_, ?_, hstyle, hstyle', hcomplete, hcomplete'⟩
  · rw [rewrite_of_style hchosen]
    exact hr
  · rw [rewrite_of_style hchosen', String.toList_ofList]
    exact hr'
  · have hslots : List.Forall₂ Slot.Alike (Outline.of .qmark template.toList).slots
        (Outline.of .numeric numbered).slots := by
      simp only [Outline.of, numbered, hcut]
      apply numberedSites_alike
      rw [List.length_tail, length_segments, marks]
      omega
    have hhead : (Outline.of .numeric numbered).head = (Outline.of .qmark template.toList).head := by
      simp only [Outline.of, numbered, hcut]
    have hfill := hwalk.fillSlots_eq escapes hslots (congrArg Except.ok (Option.isNone_iff_eq_none.mp hcomplete))
      hwalk' (congrArg Except.ok (Option.isNone_iff_eq_none.mp hcomplete'))
    rw [hsql, hsql', Outline.fill, Outline.fill, hhead, hfill]

/-- A dollar sign right before a mark, quotes around another, and values that look like markers. -/
theorem rewrite_numberMarks_dollar :
    let config : Config := { literalStyle := .escaped, dialect := .text "mysql" }
    let template := "$?+'?'"
    let values : List Value := [.text "it's $2 \\ ?", .bool true]
    config.escapes = true ∧ 1 ≤ values.length ∧ values.length < 10 ^ digitLimit ∧
      template.toList.count qmark = values.length ∧ Unmarked template.toList ∧
      (∀ d, isDigit d = true → ¬ [qmark, d] <:+: template.toList) ∧
      (∀ v ∈ values, (Argument.ofValue v).Renders config) ∧
      String.ofList (numberMarks 0 template.toList) = "$$1+'$2'" ∧
      ∃ r r', (rewrite config template values none).value = .ok r ∧
        (rewrite config "$$1+'$2'" values none).value = .ok r' ∧
        r.sql = r'.sql ∧ r.style = .qmark ∧ r'.style = .numeric ∧ r.complete = true ∧ r'.complete = true := by
  intro config template values
  have hfew : values.length < 10 ^ digitLimit :=
    Nat.lt_of_lt_of_le (show 2 < 10 ^ 1 by decide) (Nat.pow_le_pow_right (by decide) (by decide))
  have dollars : Unmarked template.toList := by
    intro d hd hi
    have hnext : d = '?' := by simpa [template, List.infix_cons_iff] using hi
    subst hnext
    cases hd
  have questions : ∀ d, isDigit d = true → ¬ [qmark, d] <:+: template.toList := by
    intro d hd hi
    have hnext : d = '+' ∨ d = '\'' := by simpa [template, qmark, List.infix_cons_iff] using hi
    rcases hnext with rfl | rfl <;> cases hd
  have renders : ∀ v ∈ values, (Argument.ofValue v).Renders config := by
    intro v hv
    rcases List.mem_cons.mp hv with rfl | hv
    · exact ⟨_, rfl⟩
    · obtain rfl := List.mem_singleton.mp hv
      exact ⟨_, rfl⟩
  have hnumbered : String.ofList (numberMarks 0 template.toList) = "$$1+'$2'" := by decide
  have hquery := rewrite_numberMarks config rfl template (by decide) hfew (by decide) dollars questions renders
    (Or.inl (Eq.refl none)) (Or.inl (Eq.refl none))
  rw [hnumbered] at hquery
  exact ⟨rfl, by decide, hfew, by decide, dollars, questions, renders, hnumbered, hquery⟩

end Prepared
