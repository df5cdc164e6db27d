import Mathlib.Data.List.Infix
import Mathlib.Data.List.Nodup
import Mathlib.Data.List.Perm.Subperm
import Prepared.Proofs.Number.Digits
import Prepared.Proofs.Template.Cut
import Prepared.Template.Count

/-!
# Probing for markers

Counting looks for the marker of an index as a plain substring. It is one
exactly when the digits of some site of the cut begin with those of the index,
so one site may answer for several indexes. Main statement: the run that
counting finds is the one number up to which every marker occurs and after
which the next does not.
-/

namespace Prepared.Template

open Text Number

theorem occursIn_iff {needle : List Char} : ∀ {s : List Char}, occursIn needle s = true ↔ needle <:+: s
  | [] => by simp [occursIn]
  | c :: s => by simp [occursIn, List.infix_cons_iff, occursIn_iff]

/-! ## Where a marker occurs -/

section
variable {ds : List Char} (hne : ds ≠ []) (hd : ∀ d ∈ ds, isDigit d = true)
include hd

theorem isPrefix_of_append {a b : List Char} (hb : ∀ c ∈ b.head?, isDigit c = false) (h : ds <+: a ++ b) :
    ds <+: a := by
  rcases List.prefix_or_prefix_of_prefix h (List.prefix_append a b) with h | ⟨r, rfl⟩
  · exact h
  · obtain ⟨q, hq⟩ := (List.prefix_append_right_inj a).mp h
    cases r with
    | nil => simp
    | cons c r =>
      have hdigit := hd c (by simp)
      rw [hb c (by simp [← hq])] at hdigit
      cases hdigit

omit hd in
theorem infix_after_digits {as b : List Char} (has : ∀ d ∈ as, isDigit d = true)
    (h : '$' :: ds <:+: as ++ b) : '$' :: ds <:+: b := by
  induction as with
  | nil => exact h
  | cons a as ih =>
    rcases List.infix_cons_iff.mp h with hp | hi
    · obtain ⟨rfl, -⟩ := List.cons_prefix_cons.mp hp
      exact absurd (has '$' (by simp)) (by decide)
    · exact ih (fun d hm => has d (by simp [hm])) hi

include hne

theorem infix_after_unmarked {t : List Char} (ht : Unmarked t) {xs : List Site}
    (h : '$' :: ds <:+: t ++ spellSites xs) : '$' :: ds <:+: spellSites xs := by
  induction t with
  | nil => exact h
  | cons c t ih =>
    rcases List.infix_cons_iff.mp h with hp | hi
    · obtain ⟨rfl, q, hq⟩ := List.cons_prefix_cons.mp hp
      obtain ⟨d, ds', rfl⟩ := List.exists_cons_of_ne_nil hne
      have hnone : ∀ e ∈ (t ++ spellSites xs).head?, isDigit e = false := by
        refine head?_spellSites fun e he => ?_
        cases t with
        | nil => cases he
        | cons f t =>
          obtain rfl : f = e := Option.some.inj he
          exact ht.head
      have hfirst : (t ++ spellSites xs).head? = some d := congrArg List.head? hq.symm
      have hdigit := hd d (by simp)
      rw [hnone d hfirst] at hdigit
      cases hdigit
    · exact ih ht.tail hi

/-- A marker occurs where the digits of a site begin with its digits. -/
theorem infix_spellSites_iff {xs : List Site} (hx : ∀ x ∈ xs, x.Proper) :
    '$' :: ds <:+: spellSites xs ↔ ∃ x ∈ xs, ds <+: x.digits := by
  induction xs with
  | nil => simp [spellSites]
  | cons x xs ih =>
    have hp := hx x (by simp)
    have hspell : spellSites (x :: xs) = '$' :: (x.digits ++ (x.text ++ spellSites xs)) := by
      simp [spellSites, Site.spell]
    have ih := ih fun y hy => hx y (by simp [hy])
    rw [hspell, List.infix_cons_iff, List.cons_prefix_cons, List.exists_mem_cons_iff, ← ih]
    constructor
    · rintro (⟨-, h⟩ | h)
      · exact Or.inl (isPrefix_of_append hd (head?_spellSites hp.longest) h)
      · exact Or.inr (infix_after_unmarked hne hd hp.unmarked (infix_after_digits hp.digits h))
    · rintro (h | h)
      · exact Or.inl ⟨rfl, h.trans (List.prefix_append _ _)⟩
      · refine Or.inr (h.trans ?_)
        rw [← List.append_assoc]
        exact (List.suffix_append _ _).isInfix

theorem Cut.Of.infix_iff {k : Cut} {s : List Char} (h : k.Of s) :
    '$' :: ds <:+: s ↔ ∃ x ∈ k.sites, ds <+: x.digits := by
  rw [← infix_spellSites_iff hne hd h.proper, ← h.spells]
  exact ⟨infix_after_unmarked hne hd h.unmarked, fun hi => hi.trans (List.suffix_append _ _).isInfix⟩

end

theorem Cut.Of.label_infix_iff {k : Cut} {s : List Char} (h : k.Of s) (i : Nat) :
    label i <:+: s ↔ ∃ x ∈ k.sites, Nat.toDigits 10 i <+: x.digits :=
  h.infix_iff Nat.toDigits_ne_nil fun _ => isDigit_of_mem_toDigits

/-! ## The run -/

def beginnings (xs : List Site) : List (List Char) := xs.flatMap fun x => x.digits.inits.tail

theorem length_beginnings {xs : List Site} (hx : ∀ x ∈ xs, x.Proper) :
    (beginnings xs).length ≤ (spellSites xs).countP isDigit := by
  induction xs with
  | nil => exact Nat.le_refl 0
  | cons x xs ih =>
    have ih := ih fun y hy => hx y (by simp [hy])
    have hdigits : x.digits.countP isDigit = x.digits.length := List.countP_eq_length.mpr (hx x (by simp)).digits
    simp only [beginnings, List.flatMap_cons, List.length_append, List.length_tail, List.length_inits,
      spellSites_cons, Site.spell, List.countP_append, List.countP_cons, hdigits] at ih ⊢
    omega

theorem mem_beginnings {ds : List Char} (hne : ds ≠ []) {x : Site} {xs : List Site} (hx : x ∈ xs)
    (h : ds <+: x.digits) : ds ∈ beginnings xs := by
  refine List.mem_flatMap.mpr ⟨x, hx, ?_⟩
  have hinit : ds ∈ x.digits.inits := (List.mem_inits _ _).mpr h
  cases hi : x.digits.inits with
  | nil => rw [hi] at hinit; cases hinit
  | cons a as =>
    rw [hi] at hinit
    rcases List.mem_cons.mp hinit with rfl | hmem
    · have hnil : x.digits.inits.head? = some [] := by cases x.digits <;> rfl
      rw [hi] at hnil
      exact absurd (Option.some.inj hnil) hne
    · exact hmem

/-- Every marker of a run takes a digit of the text, so the digits bound the run. -/
theorem le_digits_of_labels {s : List Char} {n : Nat} (h : ∀ i, 1 ≤ i → i ≤ n → label i <:+: s) :
    n ≤ s.countP isDigit := by
  have hk := cut_of s
  let numerals := (List.range' 1 n).map (Nat.toDigits 10)
  have hnodup : numerals.Nodup := List.Nodup.map (fun _ _ => toDigits_injective) List.nodup_range'
  have hsub : numerals ⊆ beginnings (cut s).sites := by
    intro ds hds
    obtain ⟨i, hi, rfl⟩ := List.mem_map.mp hds
    obtain ⟨hi₁, hi₂⟩ := List.mem_range'_1.mp hi
    obtain ⟨x, hx, hp⟩ := (hk.label_infix_iff i).mp (h i hi₁ (by omega))
    exact mem_beginnings Nat.toDigits_ne_nil hx hp
  have hle := (List.subperm_of_subset hnodup hsub).length_le
  have hbound := length_beginnings hk.proper
  have hsites : spellSites (cut s).sites <:+ s := ⟨(cut s).head, hk.spells⟩
  have hdigits : (spellSites (cut s).sites).countP isDigit ≤ s.countP isDigit := hsites.sublist.countP_le
  simp only [numerals, List.length_map, List.length_range'] at hle
  omega

theorem length_takeWhile_range {p : Nat → Bool} {n m : Nat} (hn : n ≤ m) (hp : ∀ k < n, p k = true)
    (hnot : p n = false) : ((List.range m).takeWhile p).length = n := by
  obtain ⟨r, rfl⟩ := Nat.exists_eq_add_of_le hn
  have hstop : ((List.range r).map (n + ·)).takeWhile p = [] := by
    cases r with
    | zero => rfl
    | succ r => simp [List.range_succ_eq_map, hnot]
  rw [List.range_add, List.takeWhile_append_of_pos fun k hk => hp k (List.mem_range.mp hk), hstop]
  simp

/-- Counting finds the run that ends before the first marker that does not occur. -/
theorem contiguous_eq {s : List Char} {n : Nat} (h : ∀ i, 1 ≤ i → i ≤ n → label i <:+: s)
    (hstop : ¬ label (n + 1) <:+: s) : contiguous s = n := by
  refine length_takeWhile_range ((le_digits_of_labels h).trans List.countP_le_length) (fun k hk => ?_) ?_
  · exact occursIn_iff.mpr (h (k + 1) (by omega) (by omega))
  · rw [← Bool.not_eq_true, occursIn_iff]
    exact hstop

theorem exists_run (s : List Char) :
    ∃ n, (∀ i, 1 ≤ i → i ≤ n → label i <:+: s) ∧ ¬ label (n + 1) <:+: s := by
  by_contra hnone
  have hall (n : Nat) : ∀ i, 1 ≤ i → i ≤ n → label i <:+: s := by
    induction n with
    | zero => intro i hpos hle; omega
    | succ n ih =>
      intro i hpos hle
      by_cases hlast : i = n + 1
      · subst hlast
        by_contra hstop
        exact hnone ⟨n, ih, hstop⟩
      · exact ih i hpos (by omega)
  have := le_digits_of_labels (hall (s.countP isDigit + 1))
  omega

theorem contiguous_spec (s : List Char) :
    (∀ i, 1 ≤ i → i ≤ contiguous s → label i <:+: s) ∧ ¬ label (contiguous s + 1) <:+: s := by
  obtain ⟨n, hrun, hstop⟩ := exists_run s
  rw [contiguous_eq hrun hstop]
  exact ⟨hrun, hstop⟩

theorem label_infix_of_contiguous {s : List Char} (h : 0 < contiguous s) : label 1 <:+: s :=
  (contiguous_spec s).1 1 (Nat.le_refl 1) h

/-! ## The profile -/

theorem profile_of_marks {s : List Char} (h : 1 ≤ s.count qmark) : profile s = ⟨s.count qmark, .qmark⟩ := by
  simp only [profile]
  rw [if_pos (show 0 < s.count qmark from h)]

theorem profile_of_no_marks {s : List Char} (h : s.count qmark = 0) :
    profile s = if 0 < contiguous s then ⟨contiguous s, .numeric⟩ else ⟨0, .none⟩ := by
  simp [profile, h]

end Prepared.Template
