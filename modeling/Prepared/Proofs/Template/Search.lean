import Prepared.Proofs.Template.Probe
import Prepared.Rewrite

/-!
# The search for numbered markers

Counting looks for the marker of one index after the other, beginning with one,
and nothing bounds the search but the template. The markers that it finds need
not stand in different places: one dollar sign serves as many indexes as digits
follow it. Main statement: the search ends, with the one number up to which all
markers occur and no further, and this is at most the number of digits. It
decides the style of a template without question marks.
-/

namespace Prepared

open Number Text Template

namespace Template

/-- A search from one index on ends at another: it goes on past an index whose marker
occurs, and ends at one whose marker does not. -/
inductive SearchEnds (s : List Char) : Nat → Nat → Prop
  | here {i : Nat} (absent : occursIn (label i) s = false) : SearchEnds s i i
  | later {i n : Nat} (found : occursIn (label i) s = true) (rest : SearchEnds s (i + 1) n) : SearchEnds s i n

section
variable {s : List Char} {i n : Nat}

theorem SearchEnds.spec (h : SearchEnds s i n) :
    i ≤ n ∧ (∀ k, i ≤ k → k < n → label k <:+: s) ∧ ¬ label n <:+: s := by
  induction h with
  | here absent =>
    refine ⟨Nat.le_refl _, fun k hle hlt => by omega, ?_⟩
    rw [← occursIn_iff, Bool.not_eq_true]
    exact absent
  | @later i n found _ ih =>
    obtain ⟨hle, hall, hstop⟩ := ih
    refine ⟨by omega, fun k hik hkn => ?_, hstop⟩
    by_cases hk : k = i
    · subst hk
      exact occursIn_iff.mp found
    · exact hall k (by omega) hkn

theorem searchEnds_of_run (hle : i ≤ n) (hall : ∀ k, i ≤ k → k < n → label k <:+: s) (hstop : ¬ label n <:+: s) :
    SearchEnds s i n := by
  induction hle using Nat.decreasingInduction with
  | self => exact .here (by rwa [← Bool.not_eq_true, occursIn_iff])
  | of_succ k hlt ih =>
    exact .later (occursIn_iff.mpr (hall k (Nat.le_refl k) hlt)) (ih fun j hj => hall j (by omega))

theorem searchEnds_iff :
    SearchEnds s 1 (n + 1) ↔ (∀ i, 1 ≤ i → i ≤ n → label i <:+: s) ∧ ¬ label (n + 1) <:+: s := by
  constructor
  · intro h
    obtain ⟨-, hall, hstop⟩ := h.spec
    exact ⟨fun i hpos hle => hall i hpos (by omega), hstop⟩
  · rintro ⟨hall, hstop⟩
    exact searchEnds_of_run (by omega) (fun k hpos hlt => hall k hpos (by omega)) hstop

theorem run_iff : ((∀ i, 1 ≤ i → i ≤ n → label i <:+: s) ∧ ¬ label (n + 1) <:+: s) ↔ n = contiguous s := by
  constructor
  · rintro ⟨hall, hstop⟩
    exact (contiguous_eq hall hstop).symm
  · rintro rfl
    exact contiguous_spec s

end

theorem profile_count_nonneg (s : List Char) : 0 ≤ (profile s).count := by
  by_cases h : 1 ≤ s.count qmark
  · rw [profile_of_marks h]
    exact Int.natCast_nonneg _
  · rw [profile_of_no_marks (by omega)]
    split <;> simp

end Template

/-- The search for the markers of a template without question marks ends at one place
only, behind the run of markers that occur. There are at most as many of them as digits,
and the style is numeric when there are any. No template is counted as unknown. -/
theorem countPlaceholders_search (template : String) :
    (qmark ∉ template.toList →
      (∀ n, SearchEnds template.toList 1 (n + 1) ↔ n = contiguous template.toList) ∧
        (∀ n, (∀ i, 1 ≤ i → i ≤ n → label i <:+: template.toList) ∧ ¬ label (n + 1) <:+: template.toList ↔
          n = contiguous template.toList) ∧
        contiguous template.toList ≤ template.toList.countP isDigit ∧
        (countPlaceholders template).value.count = contiguous template.toList ∧
        ((countPlaceholders template).value.style = .numeric ↔ 0 < contiguous template.toList) ∧
        ((countPlaceholders template).value.style = .none ↔ contiguous template.toList = 0)) ∧
      0 ≤ (countPlaceholders template).value.count ∧ (countPlaceholders template).value.isKnown = true := by
  have hcount : 0 ≤ (profile template.toList).count := profile_count_nonneg template.toList
  refine ⟨fun hmarks => ⟨fun n => searchEnds_iff.trans run_iff, fun n => run_iff,
    le_digits_of_labels (contiguous_spec _).1, ?_⟩, hcount, ?_⟩
  · have hprofile := profile_of_no_marks (List.count_eq_zero_of_not_mem hmarks)
    simp only [countPlaceholders, hprofile]
    by_cases hpos : 0 < contiguous template.toList
    · simp [hpos, Nat.ne_of_gt hpos]
    · simp [Nat.eq_zero_of_not_pos hpos]
  · simp only [Profile.isKnown, unknownCount, countPlaceholders, bne_iff_ne, ne_eq]
    omega

/-- One dollar sign serves the first index and two more that are not looked for. -/
theorem countPlaceholders_search_shared :
    let template := "$2 of $123"
    qmark ∉ template.toList ∧ contiguous template.toList = 2 ∧ SearchEnds template.toList 1 3 ∧
      ¬ SearchEnds template.toList 1 2 ∧ template.toList.countP isDigit = 4 ∧
      (countPlaceholders template).value.style = .numeric := by
  intro template
  have hmarks : qmark ∉ template.toList := by decide
  have hrun : contiguous template.toList = 2 := by decide
  obtain ⟨hends, -, -, -, hstyle, -⟩ := (countPlaceholders_search template).1 hmarks
  exact ⟨hmarks, hrun, (hends 2).mpr hrun.symm, fun h => by simpa [hrun] using (hends 1).mp h, by decide,
    hstyle.mpr (by rw [hrun]; decide)⟩

end Prepared
