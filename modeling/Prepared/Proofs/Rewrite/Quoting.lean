import Prepared.Proofs.Rewrite.Stopping

/-!
# Quotes seen locally

With local quote context, a text goes between quotes unless a quote stands
right before its marker. The character that is looked at is one of the query,
which has changed up to the marker. Where template text stands before the
marker it is the template's own, and what other arguments are does not matter.
Right behind another marker it is the last of what was written there, and the
closing quote of one text is taken for an opening quote of the next. Main
statement: this is the only place where the rule looks at anything but the
template.
-/

namespace Prepared

open Number Text Template

def quotedBehind (before s : List Char) : List Char :=
  if before.getLast? = some Dialect.quote then s else inQuotes s

namespace Template.Cut

def before (k : Cut) (i : Nat) : List Char := k.head ++ spellSites (k.sites.take i)

def Abuts (k : Cut) (i : Nat) : Prop := ∃ j x, i = j + 1 ∧ k.sites[j]? = some x ∧ x.text = []

variable {k : Cut}

theorem before_succ {i : Nat} {x : Site} (h : k.sites[i]? = some x) : k.before (i + 1) = k.before i ++ x.spell := by
  rw [before, before, List.take_add_one, h, Option.toList_some, spellSites, spellSites, List.flatMap_append,
    List.flatMap_singleton, List.append_assoc]

theorem fillWith_take_succ : ∀ {vs : List (List Char)} {xs : List Site} {i : Nat} {v : List Char} {x : Site},
    vs[i]? = some v → xs[i]? = some x → fillWith (vs.take (i + 1)) xs = fillWith (vs.take i) xs ++ v ++ x.text
  | v :: vs, x :: xs, 0, _, _, hv, hx => by
    obtain rfl := Option.some.inj hv
    obtain rfl := Option.some.inj hx
    simp [fillWith]
  | w :: vs, y :: xs, i + 1, v, x, hv, hx => by
    have ih := @fillWith_take_succ vs xs i v x hv hx
    simp only [fillWith] at ih
    simp [fillWith, ih]

theorem fill_take_succ {vs : List (List Char)} {i : Nat} {v : List Char} {x : Site} (hv : vs[i]? = some v)
    (hx : k.sites[i]? = some x) : k.fill (vs.take (i + 1)) = k.fill (vs.take i) ++ v ++ x.text := by
  simp only [fill, fillWith_take_succ hv hx, List.append_assoc]

theorem getLast?_fill {vs : List (List Char)} {i : Nat} (hi : i ≤ vs.length) (hlen : vs.length ≤ k.sites.length)
    (h : ¬ k.Abuts i) : (k.fill (vs.take i)).getLast? = (k.before i).getLast? := by
  cases i with
  | zero => simp [fill, before, fillWith, spellSites]
  | succ j =>
    have hv : vs[j]? = some vs[j] := List.getElem?_eq_getElem (by omega)
    have hx : k.sites[j]? = some k.sites[j] := List.getElem?_eq_getElem (by omega)
    have hne : k.sites[j].text ≠ [] := fun hnil => h ⟨j, _, rfl, hx, hnil⟩
    rw [fill_take_succ hv hx, before_succ hx, Site.spell, List.getLast?_append_of_ne_nil _ hne,
      ← List.append_assoc, List.getLast?_append_of_ne_nil _ hne]

theorem getLast?_before_ne {s : List Char} (hk : k.Of s) {i : Nat} (h : k.Abuts i) :
    (k.before i).getLast? ≠ some Dialect.quote := by
  obtain ⟨j, x, rfl, hx, hnil⟩ := h
  have hp := hk.proper x (List.mem_of_getElem? hx)
  rw [before_succ hx, Site.spell, hnil, List.append_nil, List.getLast?_append_of_ne_nil _ (by simp),
    ← List.singleton_append, List.getLast?_append_of_ne_nil _ hp.nonempty]
  intro hlast
  have hdigit := hp.digits _ (List.mem_of_getLast? hlast)
  exact absurd hdigit (by decide)

end Template.Cut

theorem inQuotes_ne (s : List Char) : inQuotes s ≠ s := by
  intro h
  have hlength := congrArg List.length h
  simp only [inQuotes, List.length_append, List.length_cons, List.length_nil] at hlength
  omega

theorem Names.unique {arguments : List Argument} {x : Site} {a b : Argument} (ha : Names arguments x a)
    (hb : Names arguments x b) : a = b := by
  obtain ⟨n, hn, ha⟩ := ha
  obtain ⟨m, hm, hb⟩ := hb
  obtain rfl : n = m := by simpa [hn] using hm
  exact Option.some.inj (ha.symm.trans hb)

theorem siteText_of_isText {a : Argument} {config : Config} {template before s : List Char}
    (near : config.looksLocally = true) (heuristic : config.escapes = false) (ht : a.isText = true)
    (hs : a.plainText = .ok s) : a.siteText config template before = .ok (quotedBehind before s) := by
  simp [Argument.siteText, heuristic, ht, near, hs, quotedBehind, Except.map]

/-- A rewriting of markers that succeeds has filled the first of them, all if it is complete. -/
theorem rewrite_takes {config : Config} {template : String} {values : List Value} {known : Option Profile}
    (numeric : (chooseStyle config template values.length known).value = .numeric)
    (renders : ∀ v ∈ values, (Argument.ofValue v).Renders config) {k : Cut} (hk : k.Of template.toList) {r : Rewrite}
    (h : (rewrite config template values known).value = .ok r) :
    ∃ vs, k.Takes config template.toList (values.map Argument.ofValue) vs ∧
      r.sql = k.fill vs ++ spellSites (k.sites.drop vs.length) ∧
      (r.complete = true → vs.length = k.sites.length) := by
  have hr : ∀ a ∈ values.map Argument.ofValue, a.Renders config := List.forall_mem_map.mpr renders
  have hvalue := rewrite_value_of_numeric numeric hk
  rw [h] at hvalue
  rcases Site.leftmost k.sites (values.map Argument.ofValue).length with hgood | ⟨good, x, rest, hsites, hgood, hx⟩
  · obtain ⟨vs, hlen, htakes, hpass⟩ := fillSites_takes hk hr (List.append_nil k.sites).symm hgood
    rw [hpass] at hvalue
    obtain rfl := Except.ok.inj hvalue
    exact ⟨vs, htakes, by simp [hlen, spellSites], fun _ => hlen⟩
  · obtain ⟨vs, hlen, htakes, hpass⟩ := fillSites_takes hk hr hsites hgood
    rw [hpass, Noted.value_after] at hvalue
    by_cases hread : x.IsUnreadable
    · rw [fillSites_unreadable hread] at hvalue
      by_cases strict : config.isStrict = true
      · rw [if_pos strict] at hvalue
        cases hvalue
      · rw [if_neg strict] at hvalue
        obtain rfl := Except.ok.inj hvalue
        exact ⟨vs, htakes, by simp [hlen, hsites], fun hc => by cases hc⟩
    · rw [fillSites_outOfRange hread hx] at hvalue
      cases hvalue

/-- A text stands between quotes by the rule of its template's site, but where its
marker is right behind another and a quote was written there. -/
theorem rewrite_quotesLocally (config : Config) (template : String) (values : List Value) (known : Option Profile)
    (numeric : (chooseStyle config template values.length known).value = .numeric)
    (renders : ∀ v ∈ values, (Argument.ofValue v).Renders config) (near : config.looksLocally = true)
    (heuristic : config.escapes = false) {k : Cut} (hk : k.Of template.toList) {r : Rewrite}
    (h : (rewrite config template values known).value = .ok r) :
    ∃ vs, vs.length ≤ k.sites.length ∧ r.sql = k.fill vs ++ spellSites (k.sites.drop vs.length) ∧
      (r.complete = true → vs.length = k.sites.length) ∧
      ∀ i v x a s, vs[i]? = some v → k.sites[i]? = some x → Names (values.map Argument.ofValue) x a →
        a.isText = true → a.plainText = .ok s →
        v = quotedBehind (k.fill (vs.take i)) s ∧
        (v = quotedBehind (k.before i) s ↔
          ¬ (k.Abuts i ∧ (k.fill (vs.take i)).getLast? = some Dialect.quote)) := by
  obtain ⟨vs, htakes, hsql, hcomplete⟩ := rewrite_takes numeric renders hk h
  refine ⟨vs, htakes.length_le, hsql, hcomplete, fun i v x a s hv hx ha ht hs => ?_⟩
  have hv' : v = quotedBehind (k.fill (vs.take i)) s := by
    obtain ⟨y, b, hy, hb, hw⟩ := htakes.text i v hv
    obtain rfl : y = x := Option.some.inj (hy.symm.trans hx)
    obtain rfl := hb.unique ha
    rw [siteText_of_isText near heuristic ht hs] at hw
    exact (Except.ok.inj hw).symm
  refine ⟨hv', ?_⟩
  by_cases habut : k.Abuts i
  · -- The template has a digit there, so by its rule the text would stand between quotes.
    have hsite : quotedBehind (k.before i) s = inQuotes s := if_neg (k.getLast?_before_ne hk habut)
    rw [hv', hsite]
    by_cases hquote : (k.fill (vs.take i)).getLast? = some Dialect.quote
    · simp [quotedBehind, hquote, habut, (inQuotes_ne s).symm]
    · simp [quotedBehind, hquote]
  · have hi : i ≤ vs.length := Nat.le_of_lt (List.getElem?_eq_some_iff.mp hv).1
    have hlast := k.getLast?_fill hi htakes.length_le habut
    simp [hv', quotedBehind, hlast, habut]

/-- One text between quotes of the template, and one that is put between quotes of its own. -/
theorem rewrite_quotesLocally_sites :
    let config : Config := { localQuoteContext := .bool true }
    let template := "'$1' $2"
    let values : List Value := [.text "x", .text "y"]
    let k := cut template.toList
    let r : Rewrite := ⟨"'x' 'y'".toList, .numeric, none⟩
    (chooseStyle config template values.length none).value = .numeric ∧
      (∀ v ∈ values, (Argument.ofValue v).Renders config) ∧ config.looksLocally = true ∧ config.escapes = false ∧
      k.Of template.toList ∧ (rewrite config template values none).value = .ok r ∧
      ∃ vs, r.sql = k.fill vs ∧ vs = [quotedBehind (k.before 0) "x".toList, quotedBehind (k.before 1) "y".toList] := by
  intro config template values k r
  have numeric : (chooseStyle config template values.length none).value = .numeric := by decide
  have renders : ∀ v ∈ values, (Argument.ofValue v).Renders config := by
    intro v hv
    rcases List.mem_cons.mp hv with rfl | hv
    · exact ⟨_, rfl⟩
    · obtain rfl := List.mem_singleton.mp hv
      exact ⟨_, rfl⟩
  have hk : k.Of template.toList := cut_of _
  have h : (rewrite config template values none).value = .ok r := by decide +kernel
  have hsites : k.sites = [⟨['1'], ['\'', ' ']⟩, ⟨['2'], []⟩] := show (cut "'$1' $2".toList).sites = _ from rfl
  have hone : Names (values.map Argument.ofValue) ⟨['1'], ['\'', ' ']⟩ (Argument.ofValue (.text "x")) :=
    ⟨0, by decide, rfl⟩
  have htwo : Names (values.map Argument.ofValue) ⟨['2'], []⟩ (Argument.ofValue (.text "y")) := ⟨1, by decide, rfl⟩
  have habut : ∀ i, i < 2 → ¬ k.Abuts i := by
    rintro i hi ⟨j, x, rfl, hx, hnil⟩
    obtain rfl : j = 0 := by omega
    rw [hsites] at hx
    obtain rfl := Option.some.inj hx
    cases hnil
  obtain ⟨vs, -, hsql, hcomplete, htext⟩ :=
    rewrite_quotesLocally config template values none numeric renders rfl rfl hk h
  obtain ⟨v, w, rfl⟩ := List.length_eq_two.mp (show vs.length = 2 by rw [hcomplete rfl, hsites]; rfl)
  have hv := (htext 0 v _ _ _ rfl (by rw [hsites]; rfl) hone rfl rfl).2.mpr fun hq => habut 0 (by decide) hq.1
  have hw := (htext 1 w _ _ _ rfl (by rw [hsites]; rfl) htwo rfl rfl).2.mpr fun hq => habut 1 (by decide) hq.1
  refine ⟨numeric, renders, rfl, rfl, hk, h, [v, w], ?_, by rw [hv, hw]⟩
  rw [hsql, hsites]
  exact List.append_nil _

/-- No quote stands before either marker in the template, but the one that closes the
first text lets the second stand without any. Another first argument changes that. -/
theorem rewrite_closes_quote :
    let config : Config := { localQuoteContext := .bool true }
    let k := cut "$1$2".toList
    let given (v : Value) := (rewrite config "$1$2" [v, .text "b"] none).value
    (k.before 0).getLast? = none ∧ (k.before 1).getLast? = some '1' ∧
      k.fill [quotedBehind (k.before 0) "a".toList, quotedBehind (k.before 1) "b".toList] = "'a''b'".toList ∧
      given (.text "a") = .ok ⟨"'a'b".toList, .numeric, none⟩ ∧
      given (.int 1) = .ok ⟨"1'b'".toList, .numeric, none⟩ := by
  decide +kernel

end Prepared
