import Prepared.Proofs.Rewrite.Agreement

/-!
# The two ways to detect a style

Unified detection takes the style that counting found; the historical one goes
by the number of arguments alone. Which of them is set decides about the style
and about nothing else, so the two agree wherever they come to the same style.
Main statement: when that is, and what each of them does where it is not.
-/

namespace Prepared

open Number Text Template

def Config.detecting (config : Config) (flag : Value) : Config := { config with unifiedStyleDetection := flag }

section
variable (config : Config) (flag : Value) (arguments : List Argument)

theorem fillSites_detecting (xs : List Site) (written : List Char) :
    fillSites (config.detecting flag) arguments written xs = fillSites config arguments written xs := by
  induction xs generalizing written with
  | nil => rfl
  | cons x xs ih =>
    have hreplacement : replacement (config.detecting flag) = replacement config := rfl
    have hstrict : (config.detecting flag).isStrict = config.isStrict := rfl
    simp only [fillSites, hreplacement, hstrict, ih]

theorem rewriteAs_detecting (style : Style) (template : List Char) :
    rewriteAs style (config.detecting flag) template arguments = rewriteAs style config template arguments := by
  cases style with
  | none => rfl
  | qmark => rfl
  | numeric => simp only [rewriteAs, rewriteNumbered_eq _ _ (cut_of template), fillSites_detecting]

end

/-! ## The style that is found -/

theorem contiguous_pos {s : List Char} (h : s.count qmark = 0) (hcount : 0 < (profile s).count) :
    0 < contiguous s := by
  rw [profile_of_no_marks h] at hcount
  split at hcount
  · assumption
  · exact absurd hcount (Int.lt_irrefl 0)

theorem contiguous_eq_zero {s : List Char} (h : s.count qmark = 0) (hcount : (profile s).count = 0) :
    contiguous s = 0 := by
  rw [profile_of_no_marks h] at hcount
  split at hcount
  · exact Int.ofNat_eq_zero.mp hcount
  · omega

theorem sites_ne_nil_of_contiguous {s : List Char} (h : 0 < contiguous s) : (cut s).sites ≠ [] := by
  intro hnil
  obtain ⟨x, hx, -⟩ := ((cut_of s).label_infix_iff 1).mp (label_infix_of_contiguous h)
  rw [hnil] at hx
  cases hx

section
variable {config : Config} {template : String} {known : Option Profile}

theorem chooseStyle_unified (hknown : known = none ∨ known = some (profile template.toList))
    (hu : config.isUnified = true) (n : Nat) :
    (chooseStyle config template n known).value = (profile template.toList).style ∧
      ((profile template.toList).style ≠ .none → (chooseStyle config template n known).notes = []) := by
  unfold chooseStyle
  rcases hknown with rfl | rfl <;> simp [hu, countPlaceholders, countNotes, Noted.map, Noted.pure]

theorem chooseStyle_legacy (hu : config.isUnified = false) (n : Nat) :
    chooseStyle config template n known =
      Noted.pure (if template.toList.count qmark = n then .qmark else .numeric) := by
  simp [chooseStyle, hu]

end

theorem rewrite_value {config : Config} {template : String} {values : List Value} {known : Option Profile} :
    (rewrite config template values known).value =
      (rewriteAs (chooseStyle config template values.length known).value config template.toList
        (values.map Argument.ofValue)).value := by
  simp only [rewrite, List.length_map, Noted.value_after]

section
variable {config : Config} {on off : Value} {template : String} {values : List Value} {known : Option Profile}

theorem rewrite_unified (hknown : known = none ∨ known = some (profile template.toList)) (hon : on.truthy = true)
    {style : Style} (hstyle : (profile template.toList).style = style) (hne : style ≠ .none) :
    rewrite (config.detecting on) template values known =
      rewriteAs style config template.toList (values.map Argument.ofValue) := by
  have hu : (config.detecting on).isUnified = true := hon
  obtain ⟨hvalue, hnotes⟩ := chooseStyle_unified hknown hu values.length
  have hchosen : chooseStyle (config.detecting on) template values.length known = Noted.pure style := by
    generalize chooseStyle (config.detecting on) template values.length known = chosen at hvalue hnotes ⊢
    obtain ⟨notes, found⟩ := chosen
    rw [hstyle] at hvalue hnotes
    obtain rfl : found = style := hvalue
    obtain rfl : notes = [] := hnotes hne
    rfl
  rw [rewrite_of_style hchosen, rewriteAs_detecting]

theorem rewrite_legacy (hoff : off.truthy = false) {style : Style}
    (hstyle : (if template.toList.count qmark = values.length then Style.qmark else .numeric) = style) :
    rewrite (config.detecting off) template values known =
      rewriteAs style config template.toList (values.map Argument.ofValue) := by
  have hu : (config.detecting off).isUnified = false := hoff
  have hchosen : chooseStyle (config.detecting off) template values.length known = _ :=
    chooseStyle_legacy hu values.length
  rw [hstyle] at hchosen
  rw [rewrite_of_style hchosen, rewriteAs_detecting]

end

/-! ## Nothing to fill the slots with -/

section
variable {config : Config}

theorem Walk.eq_nil {xs : List Slot} {vs : List (List Char)} {finish : Except RewriteError (Option Overlong)}
    (h : Walk config [] xs vs finish) (complete : finish = .ok none) : xs = [] := by
  cases h with
  | done => rfl
  | ended fate =>
    rw [complete] at fate
    exact absurd fate Slot.fate_ne
  | written fate =>
    obtain ⟨a, ⟨n, -, ha⟩, -⟩ := Slot.asks_of_fate fate
    cases ha

theorem rewriteAs_numeric_nil {template : List Char} (h : (cut template).sites ≠ []) {r : Rewrite}
    (hr : (rewriteAs .numeric config template []).value = .ok r) : r.complete = false := by
  obtain ⟨vs, finish, hwalk, hvalue⟩ :=
    rewriteAs_walk config .numeric template (show Style.numeric = .qmark → _ = ([] : List Argument).length from nofun)
  rw [hvalue] at hr
  cases finish with
  | error e => cases hr
  | ok stopped =>
    cases hr
    cases stopped with
    | some reason => rfl
    | none => exact absurd (List.map_eq_nil_iff.mp (hwalk.eq_nil rfl)) h

theorem rewriteAs_qmark_nil {template : List Char} (h : template.count qmark = 0) :
    ∃ r, (rewriteAs .qmark config template []).value = .ok r ∧ r.sql = template ∧ r.complete = true := by
  obtain ⟨vs, finish, hwalk, hvalue⟩ :=
    rewriteAs_walk config .qmark template (show Style.qmark = .qmark → _ = ([] : List Argument).length from fun _ => h)
  have hslots : (Outline.of .qmark template).slots = [] := by
    have htail : (segments template).tail = [] := List.eq_nil_of_length_eq_zero (by simp [length_segments, h])
    simp [Outline.of, htail, questionSlots]
  rw [hslots] at hwalk
  cases hwalk
  exact ⟨_, hvalue, Outline.spell_of .qmark template, rfl⟩

end

/-- A template with question marks is rewritten alike in both ways when the
arguments are as many, and unified detection insists on that; so is one without
question marks that counting finds markers in, as long as there are arguments.
When there are none the historical way leaves the markers in the query and
calls it complete, which the unified way never does. Where counting finds
nothing, the unified way leaves the template as it is. -/
theorem rewrite_detecting (config : Config) {on off : Value} (hon : on.truthy = true) (hoff : off.truthy = false)
    (template : String) (values : List Value) {known : Option Profile}
    (hknown : known = none ∨ known = some (profile template.toList)) (known' : Option Profile) :
    let unified := rewrite (config.detecting on) template values known
    let legacy := rewrite (config.detecting off) template values known'
    let marks := template.toList.count qmark
    let count := (profile template.toList).count
    (0 < marks → marks = values.length → unified = legacy) ∧
      (0 < marks → marks ≠ values.length →
        ∃ e f, unified.value = .error e ∧ (e.raised template).failure = .own f ∧ f.family = .parameterCount) ∧
      (marks = 0 → 0 < count → values ≠ [] → unified = legacy) ∧
      (marks = 0 → 0 < count → values = [] →
        (∃ r, legacy.value = .ok r ∧ r.sql = template.toList ∧ r.complete = true) ∧
          ∀ r, unified.value = .ok r → r.complete = false) ∧
      (marks = 0 → count = 0 →
        ∃ r, unified.value = .ok r ∧ r.sql = template.toList ∧ r.style = .none ∧ r.complete = true) := by
  intro unified legacy marks count
  have hunified {style : Style} (h : (profile template.toList).style = style) (hne : style ≠ .none) :
      unified = rewriteAs style config template.toList (values.map Argument.ofValue) :=
    rewrite_unified hknown hon h hne
  have hlegacy {style : Style} (h : (if marks = values.length then Style.qmark else .numeric) = style) :
      legacy = rewriteAs style config template.toList (values.map Argument.ofValue) := rewrite_legacy hoff h
  have hmarked (hpos : 0 < marks) : (profile template.toList).style = .qmark := by rw [profile_of_marks hpos]
  have hnumbered (hzero : marks = 0) (hcount : 0 < count) : (profile template.toList).style = .numeric := by
    rw [profile_of_no_marks hzero, if_pos (contiguous_pos hzero hcount)]
  refine ⟨fun hpos hequal => ?_, fun hpos hne => ?_, fun hzero hcount hsome => ?_,
    fun hzero hcount hnone => ⟨?_, fun r hr => ?_⟩, fun hzero hcount => ?_⟩
  · rw [hunified (hmarked hpos) nofun, hlegacy (if_pos hequal)]
  · have hvalue : (rewriteAs .qmark config template.toList (values.map Argument.ofValue)).value = _ :=
      rewriteAs_argumentCount template.toList (by rw [List.length_map]; exact hne)
    rw [← hunified (hmarked hpos) nofun] at hvalue
    exact ⟨_, _, hvalue, rfl, rfl⟩
  · have hlength : marks ≠ values.length := by
      rw [hzero]
      exact fun he => hsome (List.length_eq_zero_iff.mp he.symm)
    rw [hunified (hnumbered hzero hcount) nofun, hlegacy (if_neg hlength)]
  · -- No marks and no arguments are equally many, so the historical way counts them as filled.
    have hlength : marks = values.length := by rw [hzero, hnone]; rfl
    rw [hlegacy (if_pos hlength), hnone]
    exact rewriteAs_qmark_nil hzero
  · rw [hunified (hnumbered hzero hcount) nofun, hnone] at hr
    exact rewriteAs_numeric_nil (sites_ne_nil_of_contiguous (contiguous_pos hzero hcount)) hr
  · have hstyle : (profile template.toList).style = .none := by
      rw [profile_of_no_marks hzero, contiguous_eq_zero hzero hcount]
      rfl
    refine ⟨{ sql := template.toList, style := .none }, ?_, rfl, rfl, rfl⟩
    have hu : (config.detecting on).isUnified = true := hon
    have hchosen := (chooseStyle_unified hknown hu values.length).1
    exact rewrite_value.trans (by rw [hchosen, hstyle]; rfl)

/-- Markers with a gap between them, one argument, and none. -/
theorem rewrite_detecting_gap :
    let config : Config := { strictParsing := .bool true }
    let template := "SELECT '$1', $3"
    let known := some (profile template.toList)
    let unified (values : List Value) := rewrite (config.detecting (.bool true)) template values known
    let legacy (values : List Value) := rewrite (config.detecting .null) template values none
    (Value.bool true).truthy = true ∧ Value.null.truthy = false ∧
      (known = none ∨ known = some (profile template.toList)) ∧
      unified [.text "a ?"] = legacy [.text "a ?"] ∧
      (∃ r, (legacy []).value = .ok r ∧ r.sql = template.toList ∧ r.complete = true) ∧
      ∀ r, (unified []).value = .ok r → r.complete = false := by
  intro config template known unified legacy
  have hon : (Value.bool true).truthy = true := rfl
  have hoff : Value.null.truthy = false := rfl
  have hknown : known = none ∨ known = some (profile template.toList) := Or.inr rfl
  have hmarks : template.toList.count qmark = 0 := by decide
  have hcount : 0 < (profile template.toList).count := by decide
  obtain ⟨-, -, hsome, -⟩ := rewrite_detecting config hon hoff template [.text "a ?"] hknown none
  obtain ⟨-, -, -, hnone, -⟩ := rewrite_detecting config hon hoff template [] hknown none
  obtain ⟨hlegacy, hunified⟩ := hnone hmarks hcount rfl
  exact ⟨hon, hoff, hknown, hsome hmarks hcount (List.cons_ne_nil _ _), hlegacy, hunified⟩

end Prepared
