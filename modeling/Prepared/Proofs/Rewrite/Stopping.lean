import Prepared.Proofs.Rewrite.Detection

/-!
# Where a rewriting of markers stops

A marker is bad when its index is too long to be read, or names no argument.
The markers before the first bad one get their texts, and nothing behind it
matters. Main statement: what the rewriting gives is decided by the leftmost
bad marker alone, and strict parsing changes only how an index that cannot be
read ends it.
-/

namespace Prepared

open Number Text Template

namespace Template.Site

def IsUnreadable (x : Site) : Prop := digitLimit < x.digits.length

/-- The marker is unreadable, or its index is zero or greater than the number of arguments. -/
def IsBad (x : Site) (supplied : Nat) : Prop :=
  x.IsUnreadable ∨ digitsValue x.digits = 0 ∨ supplied < digitsValue x.digits

instance (x : Site) : Decidable x.IsUnreadable := inferInstanceAs (Decidable (_ < _))

instance (x : Site) (supplied : Nat) : Decidable (x.IsBad supplied) := inferInstanceAs (Decidable (_ ∨ _))

variable {x : Site}

theorem readDigits_of_unreadable (h : x.IsUnreadable) : readDigits x.digits = .error (.read x.digits.length) :=
  if_neg (Nat.not_le.mpr h)

theorem readDigits_of_readable (h : ¬ x.IsUnreadable) : readDigits x.digits = .ok (digitsValue x.digits) :=
  if_pos (Nat.not_lt.mp h)

theorem names_of_not_isBad {arguments : List Argument} (h : ¬ x.IsBad arguments.length) :
    ∃ a, Names arguments x a := by
  unfold IsBad at h
  apply exists_names
  refine ⟨digitsValue x.digits, readDigits_of_readable fun hx => h (.inl hx), ?_, ?_⟩
  · omega
  · omega

/-- Either no site is bad, or there is a leftmost bad one. -/
theorem leftmost (xs : List Site) (supplied : Nat) :
    (∀ x ∈ xs, ¬ x.IsBad supplied) ∨
      ∃ good x rest, xs = good ++ x :: rest ∧ (∀ y ∈ good, ¬ y.IsBad supplied) ∧ x.IsBad supplied := by
  cases hfind : xs.find? fun x => decide (x.IsBad supplied) with
  | none =>
    left
    intro x hx
    simpa using List.find?_eq_none.mp hfind x hx
  | some x =>
    right
    obtain ⟨hx, good, rest, hxs, hgood⟩ := List.find?_eq_some_iff_append.mp hfind
    exact ⟨good, x, rest, hxs, by simpa using hgood, by simpa using hx⟩

end Template.Site

/-! ## One site -/

section
variable {config : Config} {arguments : List Argument} {x : Site}

theorem fillSites_unreadable (h : x.IsUnreadable) (written : List Char) (xs : List Site) :
    fillSites config arguments written (x :: xs) =
      if config.isStrict then Noted.pure (.error (.unreadableIndex x.digits (.read x.digits.length)))
      else ⟨[.stopped x.digits (.read x.digits.length)],
        .ok (written ++ spellSites (x :: xs), some (.read x.digits.length))⟩ := by
  rw [fillSites, Site.readDigits_of_unreadable h]

theorem argumentAt_of_isBad (hr : ¬ x.IsUnreadable) (h : x.IsBad arguments.length) :
    argumentAt arguments x.digits (digitsValue x.digits) = .error (.indexOutOfRange x.digits arguments.length) := by
  rcases h.resolve_left hr with hzero | hmany
  · rw [hzero]; rfl
  · obtain ⟨n, hn⟩ := Nat.exists_eq_succ_of_ne_zero (Nat.ne_zero_of_lt hmany)
    have hnone : arguments[n]? = none := List.getElem?_eq_none (by omega)
    rw [hn, argumentAt, hnone]
    rfl

theorem fillSites_outOfRange (hr : ¬ x.IsUnreadable) (h : x.IsBad arguments.length) (written : List Char)
    (xs : List Site) :
    fillSites config arguments written (x :: xs) =
      Noted.pure (.error (.indexOutOfRange x.digits arguments.length)) := by
  rw [fillSites, Site.readDigits_of_readable hr]
  simp only [replacement, argumentAt_of_isBad hr h]
  rfl

theorem not_isBad_of_replacement {query value : List Char} {m : Marker} (hm : m.digits = x.digits)
    (hr : ¬ x.IsUnreadable) (h : replacement config arguments query m (digitsValue x.digits) = .ok value) :
    ¬ x.IsBad arguments.length := by
  intro hbad
  simp only [replacement, hm, argumentAt_of_isBad hr hbad] at h
  cases h

end

/-! ## The markers before a bad one -/

/-- Texts for the first markers of a cut, each that of the argument which its marker
names, as the template and what is written before the marker have it. -/
structure Template.Cut.Takes (k : Cut) (config : Config) (template : List Char) (arguments : List Argument)
    (vs : List (List Char)) : Prop where
  length_le : vs.length ≤ k.sites.length
  text : ∀ i v, vs[i]? = some v → ∃ x a, k.sites[i]? = some x ∧ Names arguments x a ∧
    a.siteText config template (k.fill (vs.take i)) = .ok v

theorem fillWith_append_of_length_le : ∀ (vs : List (List Char)) (xs ys : List Site), vs.length ≤ xs.length →
    fillWith vs (xs ++ ys) = fillWith vs xs
  | [], _, _, _ => rfl
  | v :: vs, [], _, h => absurd h (Nat.not_succ_le_zero _)
  | v :: vs, x :: xs, ys, h => by
    have ih := fillWith_append_of_length_le vs xs ys (Nat.le_of_succ_le_succ h)
    simp only [fillWith] at ih
    simp [fillWith, ih]

section
variable {config : Config} {arguments : List Argument} {template : List Char} {k : Cut}

theorem fillSites_takes (hk : k.Of template) (hr : ∀ a ∈ arguments, a.Renders config) {good rest : List Site}
    (hsites : k.sites = good ++ rest) (hgood : ∀ y ∈ good, ¬ y.IsBad arguments.length) :
    ∃ vs, vs.length = good.length ∧ k.Takes config template arguments vs ∧
      fillSites config arguments k.head k.sites =
        (fillSites config arguments (k.fill vs) rest).after (replacements vs good) := by
  have hlast : good ≠ [] → (spellSites (good ++ rest)).getLast? = template.getLast? := by
    intro hne
    have hsome : spellSites (good ++ rest) ≠ [] := spellSites_ne_nil (by simp [hne])
    rw [← hk.spells, Cut.spell, hsites, List.getLast?_append_of_ne_nil _ hsome]
  have hnames : ∀ y ∈ good, ∃ a, Names arguments y a ∧ a.Renders config := by
    intro y hy
    obtain ⟨a, n, hn, ha⟩ := Site.names_of_not_isBad (hgood y hy)
    exact ⟨a, ⟨n, hn, ha⟩, hr a (List.mem_of_getElem? ha)⟩
  obtain ⟨vs, hlen, hpass, htext⟩ := fillSites_append rest good k.head hlast hnames
  have hfill : ∀ ws : List (List Char), ws.length ≤ good.length → k.fill ws = k.head ++ fillWith ws good := by
    intro ws hws
    rw [Cut.fill, hsites, fillWith_append_of_length_le ws good rest hws]
  refine ⟨vs, hlen, ⟨by simp [hsites, hlen], fun i v hv => ?_⟩, by rw [hsites, hpass, hfill vs (Nat.le_of_eq hlen)]⟩
  have hi : i < good.length := hlen ▸ (List.getElem?_eq_some_iff.mp hv).1
  obtain ⟨a, w, ha, hw, ht⟩ := htext i good[i] (List.getElem?_eq_getElem hi)
  obtain rfl : w = v := Option.some.inj (hw.symm.trans hv)
  refine ⟨good[i], a, by rw [hsites, List.getElem?_append_left hi, List.getElem?_eq_getElem hi], ha, ?_⟩
  rw [hfill _ (by simp; omega)]
  exact ht

/-- Strict parsing matters only where an index that cannot be read comes before any
marker that names no argument. -/
theorem fillSites_strictness (flag : Value) (xs : List Site) (written : List Char)
    (h : ∀ good x rest, xs = good ++ x :: rest → x.IsUnreadable → ∃ y ∈ good, y.IsBad arguments.length) :
    fillSites { config with strictParsing := flag } arguments written xs =
      fillSites config arguments written xs := by
  induction xs generalizing written with
  | nil => rfl
  | cons x xs ih =>
    have hread : ¬ x.IsUnreadable := by
      intro hx
      obtain ⟨y, hy, -⟩ := h [] x xs rfl hx
      cases hy
    have hsame : replacement { config with strictParsing := flag } = replacement config := rfl
    simp only [fillSites, Site.readDigits_of_readable hread, hsame]
    cases hv : replacement config arguments (written ++ spellSites (x :: xs)) ⟨written.length, x.digits⟩
        (digitsValue x.digits) with
    | error e => rfl
    | ok value =>
      dsimp only
      rw [ih]
      intro good z rest hxs hz
      obtain ⟨y, hy, hbad⟩ := h (x :: good) z rest (by rw [hxs]; rfl) hz
      rcases List.mem_cons.mp hy with rfl | hy
      · exact absurd hbad (not_isBad_of_replacement rfl hread hv)
      · exact ⟨y, hy, hbad⟩

end

/-! ## The rewriting as a whole -/

section
variable {config : Config} {template : String} {values : List Value} {known : Option Profile} {k : Cut}
  (numeric : (chooseStyle config template values.length known).value = .numeric) (hk : k.Of template.toList)

include numeric hk in
theorem rewrite_value_of_numeric :
    (rewrite config template values known).value =
      (fillSites config (values.map Argument.ofValue) k.head k.sites).value.map fun (sql, stopped) =>
        { sql, style := .numeric, stopped } := by
  rw [rewrite_value, numeric, rewriteAs, rewriteNumbered_eq config _ hk, Noted.value_map]

include hk in
theorem rewrite_strictness (flag : Value)
    (h : ∀ good x rest, k.sites = good ++ x :: rest → x.IsUnreadable → ∃ y ∈ good, y.IsBad values.length) :
    rewrite { config with strictParsing := flag } template values known = rewrite config template values known := by
  have hstyle : chooseStyle { config with strictParsing := flag } = chooseStyle config := rfl
  have hfill : fillSites { config with strictParsing := flag } (values.map Argument.ofValue) k.head k.sites =
      fillSites config (values.map Argument.ofValue) k.head k.sites :=
    fillSites_strictness flag k.sites k.head (by simpa using h)
  simp only [rewrite, hstyle]
  cases hs : (chooseStyle config template (values.map Argument.ofValue).length known).value with
  | none => rfl
  | qmark => rfl
  | numeric => simp only [rewriteAs, rewriteNumbered_eq _ _ hk, hfill]

end

/-- Without a bad marker a rewriting is complete. With one, the leftmost decides,
whatever follows it. -/
theorem rewrite_leftmost (config : Config) (template : String) (values : List Value) (known : Option Profile)
    (numeric : (chooseStyle config template values.length known).value = .numeric)
    (renders : ∀ v ∈ values, (Argument.ofValue v).Renders config) {k : Cut} (hk : k.Of template.toList) :
    ((∀ x ∈ k.sites, ¬ x.IsBad values.length) →
      ∃ r, (rewrite config template values known).value = .ok r ∧ r.complete = true) ∧
    (∀ good x rest, k.sites = good ++ x :: rest → (∀ y ∈ good, ¬ y.IsBad values.length) → x.IsBad values.length →
      (¬ x.IsUnreadable →
        (rewrite config template values known).value = .error (.indexOutOfRange x.digits values.length) ∧
        ∃ text, (RewriteError.indexOutOfRange x.digits values.length).raised template =
          { failure := .own (.aboutTemplate .placeholderIndex text (some template)) }) ∧
      (x.IsUnreadable → config.isStrict = true →
        (rewrite config template values known).value = .error (.unreadableIndex x.digits (.read x.digits.length)) ∧
        ∃ text, (RewriteError.unreadableIndex x.digits (.read x.digits.length)).raised template =
          { failure := .own (.aboutTemplate .placeholderParse text (some template))
            cause := some (.overlong (.read x.digits.length)) }) ∧
      (x.IsUnreadable → config.isStrict = false → ∃ r vs, (rewrite config template values known).value = .ok r ∧
        r.style = .numeric ∧ r.complete = false ∧ r.stopped = some (.read x.digits.length) ∧
        vs.length = good.length ∧ k.Takes config template.toList (values.map Argument.ofValue) vs ∧
        r.sql = k.fill vs ++ spellSites (x :: rest))) ∧
    ((∀ good x rest, k.sites = good ++ x :: rest → x.IsUnreadable → ∃ y ∈ good, y.IsBad values.length) →
      ∀ flag, rewrite { config with strictParsing := flag } template values known =
        rewrite config template values known) := by
  have hr : ∀ a ∈ values.map Argument.ofValue, a.Renders config := List.forall_mem_map.mpr renders
  have hvalue := rewrite_value_of_numeric numeric hk
  refine ⟨fun hgood => ?_, fun good x rest hsites hgood hx => ?_, fun h flag => rewrite_strictness hk flag h⟩
  · obtain ⟨vs, -, -, hpass⟩ := fillSites_takes hk hr (List.append_nil k.sites).symm (by simpa using hgood)
    rw [hpass] at hvalue
    exact ⟨_, hvalue, rfl⟩
  · obtain ⟨vs, hlen, htakes, hpass⟩ := fillSites_takes hk hr hsites (by simpa using hgood)
    rw [hpass, Noted.value_after] at hvalue
    refine ⟨fun hread => ?_, fun hread strict => ?_, fun hread lenient => ?_⟩
    · rw [fillSites_outOfRange hread (by simpa using hx), List.length_map] at hvalue
      exact ⟨hvalue, _, rfl⟩
    · rw [fillSites_unreadable hread, if_pos strict] at hvalue
      exact ⟨hvalue, _, rfl⟩
    · rw [fillSites_unreadable hread, if_neg (by simp [lenient])] at hvalue
      exact ⟨_, vs, hvalue, rfl, rfl, rfl, hlen, htakes, rfl⟩

/-- An index with leading zeros that is too long, between a marker that gets its text
and one that names no argument. -/
theorem rewrite_leftmost_zeros :
    let good : List Site := [⟨['1'], [' ']⟩]
    let x : Site := ⟨List.replicate 4301 '0', [';']⟩
    let rest : List Site := [⟨['9'], []⟩]
    let k : Cut := ⟨['('], good ++ x :: rest⟩
    let values : List Value := [.text "a"]
    (chooseStyle {} (String.ofList k.spell) values.length none).value = .numeric ∧
      (∀ v ∈ values, (Argument.ofValue v).Renders {}) ∧ k.Of (String.ofList k.spell).toList ∧
      (∀ y ∈ good, ¬ y.IsBad values.length) ∧ x.IsBad values.length ∧ x.IsUnreadable ∧
      ∃ r vs, (rewrite {} (String.ofList k.spell) values none).value = .ok r ∧ r.complete = false ∧
        vs.length = 1 ∧ r.sql = k.fill vs ++ spellSites (x :: rest) := by
  intro good x rest k values
  have hone : ∀ c, Unmarked [c] := fun c d _ h => by simpa using h.length_le
  have hk : k.Of (String.ofList k.spell).toList := by
    refine ⟨String.toList_ofList.symm, hone _, ?_⟩
    intro y hy
    simp only [k, good, rest, List.singleton_append, List.mem_cons, List.not_mem_nil, or_false] at hy
    rcases hy with rfl | rfl | rfl
    · exact ⟨by simp, List.forall_mem_singleton.mpr rfl, by rintro d ⟨⟩; rfl, hone _⟩
    · refine ⟨List.cons_ne_nil _ _, fun d hd => ?_, by rintro d ⟨⟩; rfl, hone _⟩
      rw [List.eq_of_mem_replicate hd]; rfl
    · exact ⟨by simp, List.forall_mem_singleton.mpr rfl, by rintro d ⟨⟩, unmarked_nil⟩
  have hmarks : qmark ∉ k.spell := by decide +kernel
  have numeric : (chooseStyle {} (String.ofList k.spell) values.length none).value = .numeric := by
    rw [chooseStyle_legacy rfl, String.toList_ofList, List.count_eq_zero_of_not_mem hmarks]
    rfl
  have renders : ∀ v ∈ values, (Argument.ofValue v).Renders {} := by
    intro v hv
    obtain rfl := List.mem_singleton.mp hv
    exact ⟨_, rfl⟩
  have hgood : ∀ y ∈ good, ¬ y.IsBad values.length := by decide
  have hread : x.IsUnreadable := by
    rw [Site.IsUnreadable, List.length_replicate]; decide
  have hx : x.IsBad values.length := .inl hread
  obtain ⟨-, hleft, -⟩ := rewrite_leftmost {} (String.ofList k.spell) values none numeric renders hk
  obtain ⟨-, -, hlenient⟩ := hleft good x rest rfl hgood hx
  obtain ⟨r, vs, hr, -, hc, -, hlen, -, hsql⟩ := hlenient hread rfl
  exact ⟨numeric, renders, hk, hgood, hx, hread, r, vs, hr, hc, hlen, hsql⟩

end Prepared
