import Mathlib.Logic.ExistsUnique
import Prepared.Template.Marker

/-!
# Cuts

A template is cut at its markers: the text before the first of them, and for
each its digits and the text up to the next. The digits are as many as there
are, and no marker is left in the text between. Main statement: every template
has exactly one cut. It is the one that a search from left to right finds.
-/

namespace Prepared.Template

open Text

/-- A marker's digits, and the text after it up to the next marker. -/
structure Site where
  digits : List Char
  text : List Char

def Site.spell (x : Site) : List Char := '$' :: x.digits ++ x.text

structure Cut where
  head : List Char
  sites : List Site

def spellSites (xs : List Site) : List Char := xs.flatMap Site.spell

def Cut.spell (k : Cut) : List Char := k.head ++ spellSites k.sites

theorem spellSites_cons (x : Site) (xs : List Site) : spellSites (x :: xs) = x.spell ++ spellSites xs :=
  List.flatMap_cons

theorem spellSites_ne_nil {xs : List Site} (h : xs ≠ []) : spellSites xs ≠ [] := by
  cases xs with
  | nil => exact absurd rfl h
  | cons x xs => simp [spellSites_cons, Site.spell]

def fillWith (vs : List (List Char)) (xs : List Site) : List Char :=
  (vs.zip xs).flatMap fun p => p.1 ++ p.2.text

def Cut.fill (k : Cut) (vs : List (List Char)) : List Char := k.head ++ fillWith vs k.sites

def Unmarked (s : List Char) : Prop := ∀ d, isDigit d = true → ¬ ['$', d] <:+: s

/-- A site as a cut has it: some digits, and text that neither goes on with a
digit nor has a marker in it. -/
structure Site.Proper (x : Site) : Prop where
  nonempty : x.digits ≠ []
  digits : ∀ d ∈ x.digits, isDigit d = true
  longest : ∀ d ∈ x.text.head?, isDigit d = false
  unmarked : Unmarked x.text

structure Cut.Of (k : Cut) (s : List Char) : Prop where
  spells : k.spell = s
  unmarked : Unmarked k.head
  proper : ∀ x ∈ k.sites, x.Proper

theorem unmarked_nil : Unmarked [] := fun d _ h => by simpa using h.length_le

theorem Unmarked.of_infix {s t : List Char} (h : Unmarked s) (ht : t <:+: s) : Unmarked t :=
  fun d hd hs => h d hd (hs.trans ht)

theorem Unmarked.tail {c : Char} {s : List Char} (h : Unmarked (c :: s)) : Unmarked s :=
  h.of_infix (List.infix_cons List.infix_rfl)

theorem Unmarked.head {d : Char} {s : List Char} (h : Unmarked ('$' :: d :: s)) : isDigit d = false := by
  cases hd : isDigit d with
  | false => rfl
  | true => exact absurd ⟨[], s, rfl⟩ (h d hd)

theorem Unmarked.cons {c : Char} {s : List Char} (h : Unmarked s)
    (hc : c = '$' → ∀ d ∈ s.head?, isDigit d = false) : Unmarked (c :: s) := by
  intro d hd hi
  rcases List.infix_cons_iff.mp hi with hp | hi
  · obtain ⟨r, hr⟩ := hp
    simp only [List.cons_append, List.nil_append, List.cons.injEq] at hr
    obtain ⟨rfl, rfl⟩ := hr
    have := hc rfl d rfl
    rw [hd] at this; cases this
  · exact h d hd hi

/-! ## A search finds the first site -/

theorem leadingMarker?_eq_none {c : Char} {s : List Char} (hc : c = '$' → ∀ d ∈ s.head?, isDigit d = false) :
    leadingMarker? (c :: s) = none := by
  unfold leadingMarker?
  split
  · rename_i r heq
    obtain ⟨rfl, rfl⟩ := List.cons.inj heq
    cases s with
    | nil => simp
    | cons d s => simp [hc rfl d rfl]
  · rfl

theorem takeWhile_digits {ds s : List Char} (hds : ∀ d ∈ ds, isDigit d = true)
    (hs : ∀ d ∈ s.head?, isDigit d = false) : (ds ++ s).takeWhile isDigit = ds := by
  rw [List.takeWhile_append_of_pos hds]
  cases s with
  | nil => simp
  | cons c s => simp [hs c rfl]

theorem head?_spellSites {t : List Char} {xs : List Site} (ht : ∀ d ∈ t.head?, isDigit d = false) :
    ∀ d ∈ (t ++ spellSites xs).head?, isDigit d = false := by
  intro d hd
  cases t with
  | cons c t => exact ht d hd
  | nil =>
    cases xs with
    | nil => cases hd
    | cons x xs =>
      obtain rfl : '$' = d := Option.some.inj hd
      decide

theorem firstMarker?_skip {t : List Char} (ht : Unmarked t) (xs : List Site) :
    firstMarker? (t ++ spellSites xs) = (firstMarker? (spellSites xs)).map (·.shift t.length) := by
  induction t with
  | nil =>
    cases h : firstMarker? (spellSites xs) with
    | none => simp [h]
    | some m => simp [h, Marker.shift]
  | cons c t ih =>
    have hl : leadingMarker? (c :: (t ++ spellSites xs)) = none := by
      refine leadingMarker?_eq_none fun hc => ?_
      subst hc
      refine head?_spellSites fun d hd => ?_
      cases t with
      | nil => cases hd
      | cons e t =>
        obtain rfl : e = d := Option.some.inj hd
        exact ht.head
    rw [List.cons_append, firstMarker?, hl, ih ht.tail]
    simp only [Option.map_map, List.length_cons]
    congr 1
    funext m
    simp only [Function.comp, Marker.shift, Marker.mk.injEq, and_true]
    omega

theorem firstMarker?_site {x : Site} (hx : x.Proper) (xs : List Site) :
    firstMarker? (spellSites (x :: xs)) = some ⟨0, x.digits⟩ := by
  have hspell : spellSites (x :: xs) = '$' :: (x.digits ++ (x.text ++ spellSites xs)) := by
    simp [spellSites, Site.spell]
  have hds : (x.digits ++ (x.text ++ spellSites xs)).takeWhile isDigit = x.digits :=
    takeWhile_digits hx.digits (head?_spellSites hx.longest)
  rw [hspell, firstMarker?]
  simp [leadingMarker?, hds, hx.nonempty]

theorem firstMarker?_nil {t : List Char} (ht : Unmarked t) : firstMarker? t = none := by
  have := firstMarker?_skip ht []
  simpa [spellSites, firstMarker?] using this

theorem firstMarker?_cons {t : List Char} (ht : Unmarked t) {x : Site} (hx : x.Proper) (xs : List Site) :
    firstMarker? (t ++ spellSites (x :: xs)) = some ⟨t.length, x.digits⟩ := by
  rw [firstMarker?_skip ht, firstMarker?_site hx]
  rfl

/-! ## Existence -/

def consCut (c : Char) (k : Cut) : Cut :=
  if c = '$' ∧ k.head.takeWhile isDigit ≠ [] then
    ⟨[], ⟨k.head.takeWhile isDigit, k.head.dropWhile isDigit⟩ :: k.sites⟩
  else ⟨c :: k.head, k.sites⟩

def cut (s : List Char) : Cut := s.foldr consCut ⟨[], []⟩

theorem Unmarked.dropWhile {s : List Char} (h : Unmarked s) (p : Char → Bool) : Unmarked (s.dropWhile p) :=
  h.of_infix (List.dropWhile_suffix p).isInfix

theorem consCut_of {k : Cut} {s : List Char} (h : k.Of s) (c : Char) : (consCut c k).Of (c :: s) := by
  unfold consCut
  split
  · rename_i hc
    obtain ⟨rfl, hne⟩ := hc
    refine ⟨?_, unmarked_nil, ?_⟩
    · rw [← h.spells]
      simp [Cut.spell, spellSites, Site.spell]
    · intro x hx
      rcases List.mem_cons.mp hx with rfl | hx
      · refine ⟨hne, fun d hd => List.all_eq_true.mp List.all_takeWhile d hd, fun d hd => ?_,
          h.unmarked.dropWhile _⟩
        have := List.head?_dropWhile_not isDigit k.head
        rw [hd] at this
        simpa using this
      · exact h.proper x hx
  · rename_i hc
    refine ⟨?_, h.unmarked.cons fun hdollar d hd => ?_, h.proper⟩
    · rw [← h.spells]; rfl
    · cases hk : k.head with
      | nil => rw [hk] at hd; cases hd
      | cons e t =>
        rw [hk] at hd
        obtain rfl : e = d := Option.some.inj hd
        cases he : isDigit e with
        | false => rfl
        | true => exact absurd ⟨hdollar, by simp [hk, he]⟩ hc

theorem cut_of (s : List Char) : (cut s).Of s := by
  induction s with
  | nil => exact ⟨rfl, unmarked_nil, fun x hx => by cases hx⟩
  | cons c s ih => exact consCut_of ih c

/-! ## Uniqueness -/

theorem sites_unique {t t' : List Char} (ht : Unmarked t) (ht' : Unmarked t') :
    ∀ (xs xs' : List Site), (∀ x ∈ xs, x.Proper) → (∀ x ∈ xs', x.Proper) →
      t ++ spellSites xs = t' ++ spellSites xs' → t = t' ∧ xs = xs'
  | [], [], _, _, h => by simpa [spellSites] using h
  | [], x' :: xs', _, hx', h => by
    have hf := firstMarker?_cons ht' (hx' x' (by simp)) xs'
    rw [← h] at hf
    simp [spellSites, firstMarker?_nil ht] at hf
  | x :: xs, [], hx, _, h => by
    have hf := firstMarker?_cons ht (hx x (by simp)) xs
    rw [h] at hf
    simp [spellSites, firstMarker?_nil ht'] at hf
  | x :: xs, x' :: xs', hx, hx', h => by
    have hp := hx x (by simp)
    have hp' := hx' x' (by simp)
    have hf := firstMarker?_cons ht hp xs
    rw [h, firstMarker?_cons ht' hp' xs'] at hf
    -- The first markers agree in place and digits, so what comes before and after them does.
    simp only [Option.some.injEq, Marker.mk.injEq] at hf
    obtain ⟨rfl, hrest⟩ := List.append_inj h hf.1.symm
    have hrest' : x.text ++ spellSites xs = x'.text ++ spellSites xs' := by
      simpa [spellSites, Site.spell, hf.2] using hrest
    obtain ⟨htext, rfl⟩ := sites_unique hp.unmarked hp'.unmarked xs xs'
      (fun y hy => hx y (by simp [hy])) (fun y hy => hx' y (by simp [hy])) hrest'
    refine ⟨rfl, ?_⟩
    congr 1
    cases x; cases x'
    simp_all

theorem Cut.Of.unique {k k' : Cut} {s : List Char} (h : k.Of s) (h' : k'.Of s) : k = k' := by
  obtain ⟨hh, hs⟩ := sites_unique h.unmarked h'.unmarked k.sites k'.sites h.proper h'.proper
    (h.spells.trans h'.spells.symm)
  cases k; cases k'
  simp_all

theorem existsUnique_cut (s : List Char) : ∃! k : Cut, k.Of s :=
  ⟨cut s, cut_of s, fun _ h => h.unique (cut_of s)⟩

end Prepared.Template
