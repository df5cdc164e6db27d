import Prepared.Proofs.Rewrite.Detection

/-!
# What is complete

With unified detection, a rewriting that does not stop early is called
complete. It has replaced every numbered marker whenever counting has found
one, whichever of them are missing and however they are spelled. Counting looks
for the marker of the first index as a plain substring, so it finds none where
no marker begins with that digit. Main statement: then, and only then, a
complete rewriting leaves markers in the query.
-/

namespace Prepared

open Number Text Template

/-- Every numbered marker of the template has given way to the text of the argument that it asks for. -/
def Rewrite.FillsMarkers (r : Rewrite) (config : Config) (template : List Char) (arguments : List Argument) : Prop :=
  ∃ vs, (Outline.of .numeric template).Takes config arguments vs ∧
    vs.length = (Outline.of .numeric template).slots.length ∧ r.sql = (Outline.of .numeric template).fill vs

namespace Template

theorem contiguous_pos_of_label {s : List Char} (h : label 1 <:+: s) : 0 < contiguous s := by
  apply Nat.pos_of_ne_zero
  intro hzero
  have hstop := (contiguous_spec s).2
  rw [hzero] at hstop
  exact hstop h

/-- Counting finds numbered markers exactly where one of them begins with the digit one. -/
theorem contiguous_pos_iff {s : List Char} :
    0 < contiguous s ↔ ∃ x ∈ (cut s).sites, x.digits.head? = some '1' := by
  have hlabel : label 1 <:+: s ↔ ∃ x ∈ (cut s).sites, x.digits.head? = some '1' := by
    rw [(cut_of s).label_infix_iff]
    refine exists_congr fun x => and_congr_right fun _ => ?_
    change ['1'] <+: x.digits ↔ x.digits.head? = some '1'
    cases x.digits <;> simp [List.cons_prefix_cons, eq_comm]
  exact ⟨fun h => hlabel.mp (label_infix_of_contiguous h), fun h => contiguous_pos_of_label (hlabel.mpr h)⟩

end Template

section
variable {config : Config} {template : List Char} {arguments : List Argument} {r : Rewrite}

theorem fillsMarkers_of_numeric (h : (rewriteAs .numeric config template arguments).value = .ok r)
    (complete : r.complete = true) : r.FillsMarkers config template arguments := by
  obtain ⟨vs, finish, hwalk, hvalue⟩ :=
    rewriteAs_walk config .numeric template (show Style.numeric = .qmark → _ = arguments.length from nofun)
  rw [h] at hvalue
  cases finish with
  | error e => cases hvalue
  | ok stopped =>
    obtain rfl := Except.ok.inj hvalue
    obtain rfl : stopped = none := Option.isNone_iff_eq_none.mp complete
    exact ⟨vs, hwalk.takes, hwalk.length_eq rfl, rfl⟩

theorem fillsMarkers_of_none (hsites : (cut template).sites = []) (hsql : r.sql = template) :
    r.FillsMarkers config template arguments := by
  have hslots : (Outline.of .numeric template).slots = [] := by rw [Outline.of, hsites]; rfl
  have htakes : (Outline.of .numeric template).Takes config arguments [] := by
    refine ⟨Nat.zero_le _, fun i v hv => ?_⟩
    rw [List.getElem?_nil] at hv
    cases hv
  refine ⟨[], htakes, by rw [hslots]; rfl, ?_⟩
  exact hsql.trans (Outline.spell_of .numeric template).symm

end

/-- A complete rewriting with unified detection has replaced every numbered
marker of a template without question marks, if there is none or one of them
begins with the digit one. Otherwise the template is left as it is. -/
theorem rewrite_fillsMarkers (config : Config) (template : String) (values : List Value) {known : Option Profile}
    (hknown : known = none ∨ known = some (profile template.toList)) (unified : config.isUnified = true)
    (hmarks : qmark ∉ template.toList) {r : Rewrite} (h : (rewrite config template values known).value = .ok r)
    (complete : r.complete = true) :
    ((cut template.toList).sites = [] ∨ (∃ x ∈ (cut template.toList).sites, x.digits.head? = some '1') →
      r.FillsMarkers config template.toList (values.map Argument.ofValue)) ∧
    ((∀ x ∈ (cut template.toList).sites, x.digits.head? ≠ some '1') →
      r.style = .none ∧ r.sql = template.toList) := by
  have hprofile := profile_of_no_marks (List.count_eq_zero_of_not_mem hmarks)
  obtain ⟨hchosen, -⟩ := chooseStyle_unified hknown unified values.length
  rw [rewrite_value, hchosen, hprofile] at h
  by_cases hfound : 0 < contiguous template.toList
  · rw [if_pos hfound] at h
    refine ⟨fun _ => fillsMarkers_of_numeric h complete, fun hnone => ?_⟩
    obtain ⟨x, hx, hd⟩ := contiguous_pos_iff.mp hfound
    exact absurd hd (hnone x hx)
  · rw [if_neg hfound] at h
    obtain rfl := Except.ok.inj h
    refine ⟨fun hsome => ?_, fun _ => ⟨rfl, rfl⟩⟩
    rcases hsome with hsites | hone
    · exact fillsMarkers_of_none hsites rfl
    · exact absurd (contiguous_pos_iff.mpr hone) hfound

/-- Counting stops at a gap, rewriting does not. -/
theorem rewrite_fillsMarkers_gap :
    let config : Config := { unifiedStyleDetection := .bool true }
    let template := "SELECT $1, $3"
    let known := some (profile template.toList)
    let values : List Value := [.text "a", .null, .int 5]
    let r : Rewrite := ⟨"SELECT 'a', 5".toList, .numeric, none⟩
    (known = none ∨ known = some (profile template.toList)) ∧ config.isUnified = true ∧ qmark ∉ template.toList ∧
      (rewrite config template values known).value = .ok r ∧ r.complete = true ∧
      r.FillsMarkers config template.toList (values.map Argument.ofValue) := by
  intro config template known values r
  have hknown : known = none ∨ known = some (profile template.toList) := Or.inr rfl
  have hmarks : qmark ∉ template.toList := by decide
  have h : (rewrite config template values known).value = .ok r := by decide +kernel
  have hone : ∃ x ∈ (cut template.toList).sites, x.digits.head? = some '1' := contiguous_pos_iff.mp (by decide)
  exact ⟨hknown, rfl, hmarks, h, rfl,
    (rewrite_fillsMarkers config template values hknown rfl hmarks h rfl).1 (Or.inr hone)⟩

/-- Two arguments are given and one is asked for, but the marker stays in the query. -/
theorem rewrite_passes_marker :
    let config : Config := { unifiedStyleDetection := .bool true }
    let template := "SELECT $2"
    let values : List Value := [.int 1, .int 2]
    let r : Rewrite := ⟨template.toList, .none, none⟩
    config.isUnified = true ∧ qmark ∉ template.toList ∧ (rewrite config template values none).value = .ok r ∧
      r.complete = true ∧ ¬ r.FillsMarkers config template.toList (values.map Argument.ofValue) := by
  intro config template values r
  refine ⟨rfl, by decide, by decide +kernel, rfl, ?_⟩
  rintro ⟨vs, htakes, hlength, hsql⟩
  have hsites : (cut "SELECT $2".toList).sites = [⟨['2'], []⟩] := rfl
  have hslots : (Outline.of .numeric template.toList).slots = [⟨"$2".toList, .ok 2, []⟩] := by
    change (Outline.of .numeric "SELECT $2".toList).slots = _
    rw [Outline.of, hsites]
    rfl
  rw [hslots] at hlength
  obtain ⟨v, rfl⟩ := List.length_eq_one_iff.mp hlength
  obtain ⟨x, a, hx, ⟨n, hn, ha⟩, s, hs, hshown⟩ := htakes.writes 0 v rfl
  rw [hslots] at hx
  obtain rfl := Option.some.inj hx
  obtain rfl : 1 = n := Nat.succ.inj (Except.ok.inj hn)
  obtain rfl := Option.some.inj ha
  have htext : (Argument.ofValue (.int 2)).bareText config = .ok "2".toList := by decide +kernel
  obtain rfl := Except.ok.inj (htext.symm.trans hs)
  rcases hshown with rfl | ⟨-, rfl⟩
  · exact absurd hsql (by decide)
  · exact absurd hsql (by decide)

end Prepared
