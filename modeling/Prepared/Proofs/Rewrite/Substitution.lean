import Mathlib.Data.List.Basic
import Prepared.Proofs.Template.Cut
import Prepared.Rewrite

/-!
# Substitution

The search for markers changes the text that it searches. Where it stands, the
query is what has been written so far and then the rest of the template, which
nobody has touched; so it comes to one pass over the sites of the template's
cut. Main statement: when every marker names an argument, the query is the
template with a text in the place of each marker, and that text depends on the
template and on what stands before it.
-/

namespace Prepared

open Number Text Template

/-! ## One pass over the sites -/

section
variable (config : Config) (arguments : List Argument)

def fillSites (written : List Char) : List Site → Pass
  | [] => Noted.pure (.ok (written, none))
  | x :: xs =>
    match readDigits x.digits with
    | .error reason =>
      if config.isStrict then Noted.pure (.error (.unreadableIndex x.digits reason))
      else ⟨[.stopped x.digits reason], .ok (written ++ spellSites (x :: xs), some reason)⟩
    | .ok index =>
      match replacement config arguments (written ++ spellSites (x :: xs)) ⟨written.length, x.digits⟩ index with
      | .error e => Noted.pure (.error e)
      | .ok value => (fillSites (written ++ value ++ x.text) xs).after [.replaced x.digits value]

theorem markerFrom?_append (written s : List Char) :
    markerFrom? (written ++ s) written.length = (firstMarker? s).map (·.shift written.length) := by
  rw [markerFrom?, List.drop_left]

theorem numberedFrom_of_none {query : List Char} {position : Nat} (h : markerFrom? query position = none) :
    numberedFrom config arguments query position = Noted.pure (.ok (query, none)) := by
  rw [numberedFrom]
  split
  · rfl
  · rename_i m hm
    rw [h] at hm; cases hm

theorem numberedFrom_of_some {query : List Char} {position : Nat} {m : Marker}
    (h : markerFrom? query position = some m) :
    numberedFrom config arguments query position =
      match readDigits m.digits with
      | .error reason =>
        if config.isStrict then Noted.pure (.error (.unreadableIndex m.digits reason))
        else ⟨[.stopped m.digits reason], .ok (query, some reason)⟩
      | .ok index =>
        match replacement config arguments query m index with
        | .error e => Noted.pure (.error e)
        | .ok value =>
          (numberedFrom config arguments (splice query m value) (m.start + value.length)).after
            [.replaced m.digits value] := by
  rw [numberedFrom]
  split
  · rename_i hm
    rw [h] at hm; cases hm
  · rename_i m' hm
    rw [h] at hm; cases hm
    rfl

theorem splice_site (written value : List Char) (x : Site) (xs : List Site) :
    splice (written ++ spellSites (x :: xs)) ⟨written.length, x.digits⟩ value =
      written ++ value ++ (x.text ++ spellSites xs) := by
  have hspell : written ++ spellSites (x :: xs) =
      (written ++ '$' :: x.digits) ++ (x.text ++ spellSites xs) := by
    simp [spellSites, Site.spell]
  have hstop : written.length + 1 + x.digits.length = (written ++ '$' :: x.digits).length := by
    simp only [List.length_append, List.length_cons]; omega
  unfold splice Marker.stop
  simp only [List.take_left]
  rw [hspell, hstop, List.drop_left]

theorem numberedFrom_append (xs : List Site) (hx : ∀ x ∈ xs, x.Proper) :
    ∀ (written t : List Char), Unmarked t →
      numberedFrom config arguments (written ++ (t ++ spellSites xs)) written.length =
        fillSites config arguments (written ++ t) xs := by
  induction xs with
  | nil =>
    intro written t ht
    have hm : markerFrom? (written ++ (t ++ spellSites [])) written.length = none := by
      rw [markerFrom?_append]
      simp [spellSites, firstMarker?_nil ht]
    rw [numberedFrom_of_none config arguments hm, fillSites]
    simp [spellSites]
  | cons x xs ih =>
    intro written t ht
    have hp := hx x (by simp)
    have hm : markerFrom? (written ++ (t ++ spellSites (x :: xs))) written.length =
        some ⟨(written ++ t).length, x.digits⟩ := by
      rw [markerFrom?_append, firstMarker?_cons ht hp]
      simp [Marker.shift]
    rw [numberedFrom_of_some config arguments hm, fillSites, ← List.append_assoc]
    dsimp only
    cases readDigits x.digits with
    | error reason => rfl
    | ok index =>
      dsimp only
      cases replacement config arguments (written ++ t ++ spellSites (x :: xs))
        ⟨(written ++ t).length, x.digits⟩ index with
      | error e => rfl
      | ok value =>
        have hlength : (written ++ t).length + value.length = (written ++ t ++ value).length := by
          simp only [List.length_append]
        dsimp only
        rw [splice_site, hlength,
          ih (fun y hy => hx y (by simp [hy])) (written ++ t ++ value) x.text hp.unmarked]

theorem rewriteNumbered_eq {k : Cut} {template : List Char} (h : k.Of template) :
    rewriteNumbered config template arguments =
      (fillSites config arguments k.head k.sites).map fun r =>
        r.map fun (sql, stopped) => { sql, style := .numeric, stopped } := by
  have := numberedFrom_append config arguments k.sites h.proper [] k.head h.unmarked
  rw [rewriteNumbered, ← h.spells]
  simp only [List.nil_append, List.length_nil] at this
  rw [Cut.spell, this]

end

/-! ## The text at a site -/

/-- The text that an argument has at a marker of a template, when `before` has
been written in front of it. -/
def Argument.siteText (a : Argument) (config : Config) (template before : List Char) :
    Except LiteralError (List Char) :=
  if config.escapes then a.literal config.dialect
  else if a.isText then
    a.plainText.map fun s =>
      if (if config.looksLocally then before else template).getLast? = some Dialect.quote then s
      else inQuotes s
  else a.plainText

theorem getElem?_last (before rest : List Char) (h : before ≠ []) :
    (before ++ rest)[before.length - 1]? = before.getLast? := by
  have := List.length_pos_iff.mpr h
  rw [List.getElem?_append_left (by omega), List.getLast?_eq_getElem?]

theorem quotedAlready_eq (config : Config) {before rest template : List Char}
    (hlast : (before ++ rest).getLast? = template.getLast?) :
    quotedAlready config (before ++ rest) before.length =
      decide ((if config.looksLocally then before else template).getLast? = some Dialect.quote) := by
  unfold quotedAlready
  by_cases hl : config.looksLocally
  · rw [if_pos hl, if_pos hl]
    by_cases hb : before = []
    · subst hb; simp
    · rw [getElem?_last before rest hb, Bool.eq_iff_iff]
      simp [List.length_pos_iff, hb]
  · rw [if_neg hl, if_neg hl, hlast, Bool.eq_iff_iff]
    simp

theorem numberedText_eq (a : Argument) (config : Config) {before rest template : List Char}
    (hlast : (before ++ rest).getLast? = template.getLast?) :
    a.numberedText config (before ++ rest) before.length = a.siteText config template before := by
  unfold Argument.numberedText Argument.siteText
  simp only [quotedAlready_eq config hlast, decide_eq_true_eq]

def Argument.Renders (a : Argument) (config : Config) : Prop :=
  ∃ s, (if config.escapes then a.literal config.dialect else a.plainText) = .ok s

theorem Argument.Renders.siteText {a : Argument} {config : Config} (h : a.Renders config)
    (template before : List Char) : ∃ v, a.siteText config template before = .ok v := by
  obtain ⟨s, hs⟩ := h
  unfold Argument.siteText
  by_cases he : config.escapes
  · rw [if_pos he] at hs ⊢
    exact ⟨s, hs⟩
  · rw [if_neg he] at hs ⊢
    rw [hs]
    split
    · exact ⟨_, rfl⟩
    · exact ⟨s, rfl⟩

/-! ## When every marker names an argument -/

def Names (arguments : List Argument) (x : Site) (a : Argument) : Prop :=
  ∃ n, readDigits x.digits = .ok (n + 1) ∧ arguments[n]? = some a

section
variable {config : Config} {arguments : List Argument}

theorem exists_names {x : Site}
    (h : ∃ n, readDigits x.digits = .ok n ∧ 1 ≤ n ∧ n ≤ arguments.length) : ∃ a, Names arguments x a := by
  obtain ⟨n, hn, hpos, hle⟩ := h
  obtain ⟨k, rfl⟩ : ∃ k, n = k + 1 := ⟨n - 1, by omega⟩
  exact ⟨arguments[k], k, hn, List.getElem?_eq_getElem (by omega)⟩

theorem fillSites_cons {written v template : List Char} {x : Site} {xs : List Site} {a : Argument}
    (hlast : (written ++ spellSites (x :: xs)).getLast? = template.getLast?)
    (hx : Names arguments x a) (hv : a.siteText config template written = .ok v) :
    fillSites config arguments written (x :: xs) =
      (fillSites config arguments (written ++ v ++ x.text) xs).after [.replaced x.digits v] := by
  obtain ⟨n, hn, ha⟩ := hx
  have hat : argumentAt arguments x.digits (n + 1) = .ok a := by simp [argumentAt, ha]
  have hr : replacement config arguments (written ++ spellSites (x :: xs)) ⟨written.length, x.digits⟩ (n + 1) =
      .ok v := by
    have ht := (numberedText_eq a config hlast).trans hv
    simp [replacement, hat, ht, bind, Except.bind, Except.mapError]
  rw [fillSites, hn]
  simp only [hr]

def replacements (vs : List (List Char)) (xs : List Site) : List Note :=
  (vs.zip xs).map fun p => .replaced p.2.digits p.1

/-- Sites that name an argument with a text are filled one after the other, and the
pass goes on behind them. -/
theorem fillSites_append {template : List Char} (ys : List Site) :
    ∀ (xs : List Site) (written : List Char),
      (xs ≠ [] → (spellSites (xs ++ ys)).getLast? = template.getLast?) →
      (∀ x ∈ xs, ∃ a, Names arguments x a ∧ a.Renders config) →
      ∃ vs, vs.length = xs.length ∧
        fillSites config arguments written (xs ++ ys) =
          (fillSites config arguments (written ++ fillWith vs xs) ys).after (replacements vs xs) ∧
        ∀ i x, xs[i]? = some x → ∃ a v, Names arguments x a ∧ vs[i]? = some v ∧
          a.siteText config template (written ++ fillWith (vs.take i) xs) = .ok v
  | [], written, _, _ => ⟨[], rfl, by simp [fillWith, replacements], fun i x h => by simp at h⟩
  | x :: xs, written, hlast, hn => by
    obtain ⟨a, ha, hr⟩ := hn x (by simp)
    obtain ⟨v, hv⟩ := hr.siteText template written
    have hlast₁ : (written ++ spellSites (x :: (xs ++ ys))).getLast? = template.getLast? := by
      rw [List.getLast?_append_of_ne_nil _ (spellSites_ne_nil (by simp))]
      exact hlast (by simp)
    have hlast₂ : xs ≠ [] → (spellSites (xs ++ ys)).getLast? = template.getLast? := by
      intro hxs
      rw [← hlast (by simp), List.cons_append, spellSites_cons,
        List.getLast?_append_of_ne_nil _ (spellSites_ne_nil (by simp [hxs]))]
    obtain ⟨vs, hlen, hpass, hsites⟩ :=
      fillSites_append ys xs (written ++ v ++ x.text) hlast₂ fun y hy => hn y (by simp [hy])
    refine ⟨v :: vs, by simp [hlen], ?_, ?_⟩
    · rw [List.cons_append, fillSites_cons hlast₁ ha hv, hpass]
      simp [fillWith, replacements]
    · intro i y hy
      cases i with
      | zero =>
        obtain rfl : x = y := by simpa using hy
        exact ⟨a, v, ha, rfl, by simpa [fillWith] using hv⟩
      | succ i =>
        obtain ⟨b, w, hb, hw, ht⟩ := hsites i y (by simpa using hy)
        exact ⟨b, w, hb, by simpa using hw, by simpa [fillWith] using ht⟩

theorem fillSites_ok (hr : ∀ a ∈ arguments, a.Renders config) {template : List Char} (xs : List Site)
    (written : List Char) (hlast : xs ≠ [] → (spellSites xs).getLast? = template.getLast?)
    (hn : ∀ x ∈ xs, ∃ n, readDigits x.digits = .ok n ∧ 1 ≤ n ∧ n ≤ arguments.length) :
    ∃ vs, vs.length = xs.length ∧
      (fillSites config arguments written xs).value = .ok (written ++ fillWith vs xs, none) ∧
      ∀ i x, xs[i]? = some x → ∃ a v, Names arguments x a ∧ vs[i]? = some v ∧
        a.siteText config template (written ++ fillWith (vs.take i) xs) = .ok v := by
  have hnames : ∀ x ∈ xs, ∃ a, Names arguments x a ∧ a.Renders config := by
    intro x hx
    obtain ⟨a, ha⟩ := exists_names (hn x hx)
    exact ⟨a, ha, hr a (List.mem_of_getElem? ha.choose_spec.2)⟩
  obtain ⟨vs, hlen, hpass, hsites⟩ := fillSites_append [] xs written (by simpa using hlast) hnames
  refine ⟨vs, hlen, ?_, hsites⟩
  rw [List.append_nil] at hpass
  rw [hpass, Noted.value_after]
  rfl

end

/-- When every marker names an argument, the query is the template with a text
for every marker. The text at a marker is that of its argument, seen from the
template and from what stands before the marker. -/
theorem rewrite_fill (config : Config) (template : String) (values : List Value) (known : Option Profile)
    (numeric : (chooseStyle config template values.length known).value = .numeric)
    (renders : ∀ v ∈ values, (Argument.ofValue v).Renders config) :
    (∃! k : Cut, k.Of template.toList) ∧
      ∀ k : Cut, k.Of template.toList →
        (∀ x ∈ k.sites, ∃ n, readDigits x.digits = .ok n ∧ 1 ≤ n ∧ n ≤ values.length) →
        ∃ r vs, (rewrite config template values known).value = .ok r ∧
          r.style = .numeric ∧ r.complete = true ∧ r.stopped = none ∧
          vs.length = k.sites.length ∧ r.sql = k.fill vs ∧
          ∀ i x, k.sites[i]? = some x → ∃ a v, Names (values.map Argument.ofValue) x a ∧ vs[i]? = some v ∧
            a.siteText config template.toList (k.fill (vs.take i)) = .ok v := by
  refine ⟨existsUnique_cut _, fun k hk hn => ?_⟩
  have hr : ∀ a ∈ values.map Argument.ofValue, a.Renders config := by
    intro a ha
    obtain ⟨v, hv, rfl⟩ := List.mem_map.mp ha
    exact renders v hv
  have hlast : k.sites ≠ [] → (spellSites k.sites).getLast? = template.toList.getLast? := by
    intro hne
    rw [← hk.spells, Cut.spell, List.getLast?_append_of_ne_nil _ (spellSites_ne_nil hne)]
  obtain ⟨vs, hlen, hvalue, hsites⟩ := fillSites_ok hr k.sites k.head hlast (by simpa using hn)
  refine ⟨⟨k.fill vs, .numeric, none⟩, vs, ?_, rfl, rfl, rfl, hlen, rfl, hsites⟩
  unfold rewrite
  simp only [List.length_map, numeric, Noted.value_after, rewriteAs]
  rw [rewriteNumbered_eq config _ hk, Noted.value_map, hvalue]
  rfl

/-- A quote right before the first marker, two markers side by side, and an
argument that looks like a marker. -/
theorem rewrite_fill_adjacent :
    let config : Config := { localQuoteContext := .bool true }
    let values : List Value := [.text "it's $2", .null]
    let k := cut "'$1' $2$1".toList
    (chooseStyle config "'$1' $2$1" values.length none).value = .numeric ∧
      (∀ v ∈ values, (Argument.ofValue v).Renders config) ∧
      (∀ x ∈ k.sites, ∃ n, readDigits x.digits = .ok n ∧ 1 ≤ n ∧ n ≤ values.length) ∧
      ∃ r vs, (rewrite config "'$1' $2$1" values none).value = .ok r ∧ r.complete = true ∧
        vs.length = 3 ∧ r.sql = k.fill vs := by
  intro config values k
  have numeric : (chooseStyle config "'$1' $2$1" values.length none).value = .numeric := by decide
  have renders : ∀ v ∈ values, (Argument.ofValue v).Renders config := by
    intro v hv
    rcases List.mem_cons.mp hv with rfl | hv
    · exact ⟨_, rfl⟩
    · obtain rfl := List.mem_singleton.mp hv
      exact ⟨_, rfl⟩
  have names : ∀ x ∈ k.sites, ∃ n, readDigits x.digits = .ok n ∧ 1 ≤ n ∧ n ≤ values.length := by
    have hk : k.sites = [⟨['1'], ['\'', ' ']⟩, ⟨['2'], []⟩, ⟨['1'], []⟩] := rfl
    rw [hk]
    simp [readDigits, digitLimit, digitsValue, digitValue, values]
  refine ⟨numeric, renders, names, ?_⟩
  obtain ⟨r, vs, hr, -, hc, -, hlen, hsql, -⟩ :=
    (rewrite_fill config "'$1' $2$1" values none numeric renders).2 k (cut_of _) names
  exact ⟨r, vs, hr, hc, hlen, hsql⟩

end Prepared
