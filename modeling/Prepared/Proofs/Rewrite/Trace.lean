import Prepared.Proofs.Rewrite.Stopping

/-!
# The trace of a rewriting

What a rewriting logs is a trace of it: one entry for each marker that has been
replaced, with the text that took its place. Replaying a trace needs nothing but
the template. The marker that comes next is searched in what has not been read
yet, so markers inside of the texts are never met. Main statement: the trace of a
rewriting replays to its query, and a warning closes the trace exactly when the
rewriting has stopped early.
-/

namespace Prepared

open Number Text Template

structure Replaced where
  digits : List Char
  text : List Char

def Replaced.entry (r : Replaced) : Entry := (Note.replaced r.digits r.text).entry

def Noted.trace {α : Type} (x : Noted α) : List Entry := (x.notes.map Note.entry).filter (·.logger == Logger.converter)

/-- Puts the texts in the places of the leftmost markers, one after the other:
what is written in the end, and what is unread. A marker with other digits
contradicts the trace. -/
def replay? (written unread : List Char) : List Replaced → Option (List Char × List Char)
  | [] => some (written, unread)
  | r :: rs =>
    match firstMarker? unread with
    | none => none
    | some m =>
      if m.digits = r.digits then replay? (written ++ unread.take m.start ++ r.text) (unread.drop m.stop) rs
      else none

/-- How a rewriting ends that has got so far: the entry that closes its trace, if
there is one, and what it gives. -/
inductive Closes (config : Config) (supplied : Nat) (written unread : List Char) :
    List Entry → Except RewriteError Rewrite → Prop
  | complete (read : firstMarker? unread = none) :
    Closes config supplied written unread [] (.ok ⟨written ++ unread, .numeric, none⟩)
  | stopped {m : Marker} (next : firstMarker? unread = some m) (unreadable : digitLimit < m.digits.length)
      (lenient : config.isStrict = false) :
    Closes config supplied written unread [(Note.stopped m.digits (.read m.digits.length)).entry]
      (.ok ⟨written ++ unread, .numeric, some (.read m.digits.length)⟩)
  | refused {m : Marker} (next : firstMarker? unread = some m) (unreadable : digitLimit < m.digits.length)
      (strict : config.isStrict = true) :
    Closes config supplied written unread [] (.error (.unreadableIndex m.digits (.read m.digits.length)))
  | outOfRange {m : Marker} (next : firstMarker? unread = some m) (readable : m.digits.length ≤ digitLimit)
      (names : digitsValue m.digits = 0 ∨ supplied < digitsValue m.digits) :
    Closes config supplied written unread [] (.error (.indexOutOfRange m.digits supplied))

/-! ## Traces -/

section
variable {α : Type}

theorem Noted.trace_after (notes : List Note) (x : Noted α) :
    (x.after notes).trace = (Noted.mk notes ()).trace ++ x.trace := by
  simp [trace]

theorem trace_chooseStyle (config : Config) (template : String) (n : Nat) (known : Option Profile) :
    (chooseStyle config template n known).trace = [] := by
  have hcount : (countPlaceholders template).trace = [] := by
    unfold countPlaceholders countNotes
    split <;> rfl
  unfold chooseStyle
  split
  · cases known with
    | none => exact hcount
    | some p => rfl
  · rfl

theorem trace_rewrite (config : Config) (template : String) (values : List Value) (known : Option Profile) :
    (rewrite config template values known).trace =
      (rewriteAs (chooseStyle config template values.length known).value config template.toList
        (values.map Argument.ofValue)).trace := by
  have hchoose := trace_chooseStyle config template (values.map Argument.ofValue).length known
  rw [rewrite, Noted.trace_after, ← List.length_map Argument.ofValue]
  exact (congrArg (· ++ _) hchoose).trans (List.nil_append _)

end

theorem Closes.warns_iff {config : Config} {supplied : Nat} {written unread : List Char} {closing : List Entry}
    {outcome : Except RewriteError Rewrite} (h : Closes config supplied written unread closing outcome) :
    (∃ e ∈ closing, e.level = Level.warning) ↔ ∃ r, outcome = .ok r ∧ r.complete = false := by
  cases h with
  | complete =>
    refine iff_of_false (by simp) ?_
    rintro ⟨r, hr, hcomplete⟩
    obtain rfl := Except.ok.inj hr
    cases hcomplete
  | stopped => exact iff_of_true ⟨_, List.mem_singleton_self _, rfl⟩ ⟨_, rfl, rfl⟩
  | refused | outOfRange => exact iff_of_false (by simp) (by simp)

/-! ## Replaying -/

def replaced (vs : List (List Char)) (xs : List Site) : List Replaced := (vs.zip xs).map fun p => ⟨p.2.digits, p.1⟩

theorem entries_replacements (vs : List (List Char)) (xs : List Site) :
    (replacements vs xs).map Note.entry = (replaced vs xs).map Replaced.entry := by
  rw [replacements, replaced, List.map_map, List.map_map]
  rfl

theorem trace_replacements (vs : List (List Char)) (xs : List Site) :
    (Noted.mk (replacements vs xs) ()).trace = (replaced vs xs).map Replaced.entry := by
  rw [Noted.trace, entries_replacements, List.filter_eq_self]
  intro e he
  obtain ⟨r, -, rfl⟩ := List.mem_map.mp he
  rfl

/-- Texts for the sites up to some of them replay to what they fill, and the
sites from there on are unread. -/
theorem replay?_sites {xs : List Site} (hx : ∀ x ∈ xs, x.Proper) (ys : List Site) :
    ∀ (vs : List (List Char)) (written t : List Char), vs.length = xs.length → Unmarked t →
      ∃ w u, replay? written (t ++ spellSites (xs ++ ys)) (replaced vs xs) = some (w, u ++ spellSites ys) ∧
        Unmarked u ∧ w ++ u = written ++ t ++ fillWith vs xs := by
  induction xs with
  | nil =>
    intro vs written t hlength ht
    obtain rfl := List.length_eq_zero_iff.mp hlength
    exact ⟨written, t, rfl, ht, by simp [fillWith]⟩
  | cons x xs ih =>
    intro vs written t hlength ht
    obtain ⟨v, vs, rfl⟩ := List.exists_cons_of_length_eq_add_one hlength
    have hp := hx x (by simp)
    have hfirst : firstMarker? (t ++ spellSites (x :: (xs ++ ys))) = some ⟨t.length, x.digits⟩ :=
      firstMarker?_cons ht hp _
    -- What is unread behind the marker begins with the text of its site.
    have hdrop : (t ++ spellSites (x :: (xs ++ ys))).drop (t.length + 1 + x.digits.length) =
        x.text ++ spellSites (xs ++ ys) := by
      have hspell : t ++ spellSites (x :: (xs ++ ys)) =
          (t ++ '$' :: x.digits) ++ (x.text ++ spellSites (xs ++ ys)) := by
        simp [spellSites_cons, Site.spell]
      have hstop : t.length + 1 + x.digits.length = (t ++ '$' :: x.digits).length := by
        simp only [List.length_append, List.length_cons]
        omega
      rw [hspell, hstop, List.drop_left]
    obtain ⟨w, u, hreplay, hu, hfill⟩ := ih (fun y hy => hx y (by simp [hy])) vs (written ++ t ++ v) x.text
      (Nat.succ.inj hlength) hp.unmarked
    refine ⟨w, u, ?_, hu, ?_⟩
    · rw [List.cons_append, replaced, List.zip_cons_cons, List.map_cons, replay?, hfirst]
      simp only [if_true, Marker.stop, List.take_left, hdrop]
      exact hreplay
    · rw [hfill]
      simp [fillWith]

/-! ## One pass over the sites -/

section
variable {config : Config} {arguments : List Argument} {template : List Char} {k : Cut}

theorem fillSites_replays (hk : k.Of template) (hr : ∀ a ∈ arguments, a.Renders config) {good rest : List Site}
    (hsites : k.sites = good ++ rest) (hgood : ∀ y ∈ good, ¬ y.IsBad arguments.length) :
    ∃ rs written u, replay? [] template rs = some (written, u ++ spellSites rest) ∧ Unmarked u ∧
      k.Takes config template arguments (rs.map (·.text)) ∧
      (fillSites config arguments k.head k.sites).value = (fillSites config arguments (written ++ u) rest).value ∧
      (fillSites config arguments k.head k.sites).trace =
        rs.map Replaced.entry ++ (fillSites config arguments (written ++ u) rest).trace := by
  obtain ⟨vs, hlength, htakes, hpass⟩ := fillSites_takes hk hr hsites hgood
  obtain ⟨written, u, hreplay, hu, hfill⟩ :=
    replay?_sites (fun x hx => hk.proper x (by simp [hsites, hx])) rest vs [] k.head hlength hk.unmarked
  have htemplate : k.head ++ spellSites (good ++ rest) = template := by
    rw [← hsites]
    exact hk.spells
  have htexts : (replaced vs good).map (·.text) = vs := by
    rw [replaced, List.map_map]
    exact List.map_fst_zip (Nat.le_of_eq hlength)
  have hwritten : k.fill vs = written ++ u := by
    rw [hfill, Cut.fill, hsites, fillWith_append_of_length_le vs good rest (Nat.le_of_eq hlength)]
    rfl
  refine ⟨replaced vs good, written, u, htemplate ▸ hreplay, hu, htexts.symm ▸ htakes, ?_, ?_⟩
  · rw [hpass, hwritten, Noted.value_after]
  · rw [hpass, hwritten, Noted.trace_after, trace_replacements]

theorem closes_nil (written : List Char) {u : List Char} (hu : Unmarked u) (supplied : Nat) :
    let pass := fillSites config arguments (written ++ u) []
    Closes config supplied written (u ++ spellSites []) pass.trace
      (pass.value.map fun (sql, stopped) => { sql, style := .numeric, stopped }) := by
  have hunread : u ++ spellSites [] = u := List.append_nil u
  intro pass
  rw [hunread]
  exact .complete (firstMarker?_nil hu)

theorem closes_bad (written : List Char) {u : List Char} (hu : Unmarked u) {x : Site} (hp : x.Proper)
    (hx : x.IsBad arguments.length) (xs : List Site) :
    let pass := fillSites config arguments (written ++ u) (x :: xs)
    Closes config arguments.length written (u ++ spellSites (x :: xs)) pass.trace
      (pass.value.map fun (sql, stopped) => { sql, style := .numeric, stopped }) := by
  intro pass
  have hnext := firstMarker?_cons hu hp xs
  by_cases hread : x.IsUnreadable
  · by_cases strict : config.isStrict = true
    · simp only [pass, fillSites_unreadable hread, if_pos strict]
      exact Closes.refused (m := ⟨u.length, x.digits⟩) hnext hread strict
    · simp only [pass, fillSites_unreadable hread, if_neg strict, List.append_assoc]
      exact Closes.stopped (m := ⟨u.length, x.digits⟩) hnext hread (Bool.eq_false_iff.mpr strict)
  · simp only [pass, fillSites_outOfRange hread hx]
    exact Closes.outOfRange (m := ⟨u.length, x.digits⟩) hnext (Nat.not_lt.mp hread) (hx.resolve_left hread)

end

/-! ## The rewriting as a whole -/

theorem rewrite_trace_of_numeric {config : Config} {template : String} {values : List Value} {known : Option Profile}
    (numeric : (chooseStyle config template values.length known).value = .numeric)
    (renders : ∀ v ∈ values, (Argument.ofValue v).Renders config) :
    ∃ rs closing written unread,
      (rewrite config template values known).trace = rs.map Replaced.entry ++ closing ∧
      replay? [] template.toList rs = some (written, unread) ∧
      (cut template.toList).Takes config template.toList (values.map Argument.ofValue) (rs.map (·.text)) ∧
      Closes config values.length written unread closing (rewrite config template values known).value := by
  have hk := cut_of template.toList
  have hr : ∀ a ∈ values.map Argument.ofValue, a.Renders config := List.forall_mem_map.mpr renders
  have hvalue := rewrite_value_of_numeric numeric hk
  have htrace : (rewrite config template values known).trace =
      (fillSites config (values.map Argument.ofValue) (cut template.toList).head
        (cut template.toList).sites).trace := by
    rw [trace_rewrite, numeric, rewriteAs, rewriteNumbered_eq config _ hk]
    rfl
  rcases Site.leftmost (cut template.toList).sites (values.map Argument.ofValue).length with
    hgood | ⟨good, x, rest, hsites, hgood, hx⟩
  · obtain ⟨rs, written, u, hreplay, hu, htakes, hpass, hentries⟩ :=
      fillSites_replays hk hr (List.append_nil _).symm hgood
    rw [hpass] at hvalue
    rw [hentries] at htrace
    exact ⟨rs, _, written, _, htrace, hreplay, htakes, hvalue ▸ closes_nil written hu _⟩
  · obtain ⟨rs, written, u, hreplay, hu, htakes, hpass, hentries⟩ := fillSites_replays hk hr hsites hgood
    have hp : x.Proper := hk.proper x (by simp [hsites])
    have hcloses := @closes_bad config _ written u hu x hp hx rest
    rw [List.length_map] at hcloses
    rw [hpass] at hvalue
    rw [hentries] at htrace
    exact ⟨rs, _, written, _, htrace, hreplay, htakes, hvalue ▸ hcloses⟩

/-- The trace of a rewriting of markers has an entry for each marker that was
replaced, and it replays to the query. The text of each is that of the argument
that the marker names. A warning closes the trace exactly when the rewriting has
stopped early; when it has failed, the trace ends before the marker that it has
failed at. In the other styles nothing is traced. -/
theorem rewrite_traces (config : Config) (template : String) (values : List Value) (known : Option Profile)
    (renders : ∀ v ∈ values, (Argument.ofValue v).Renders config) :
    let trace := (rewrite config template values known).trace
    let outcome := (rewrite config template values known).value
    ((chooseStyle config template values.length known).value ≠ .numeric → trace = []) ∧
    ((chooseStyle config template values.length known).value = .numeric → ∃ rs closing written unread,
      trace = rs.map Replaced.entry ++ closing ∧ replay? [] template.toList rs = some (written, unread) ∧
      (cut template.toList).Takes config template.toList (values.map Argument.ofValue) (rs.map (·.text)) ∧
      Closes config values.length written unread closing outcome ∧
      (∀ e ∈ rs.map Replaced.entry, e.level = Level.debug) ∧
      ((∃ e ∈ trace, e.level = Level.warning) ↔ ∃ r, outcome = .ok r ∧ r.complete = false)) := by
  intro trace outcome
  refine ⟨fun hstyle => ?_, fun hstyle => ?_⟩
  · change (rewrite config template values known).trace = []
    rw [trace_rewrite]
    cases hs : (chooseStyle config template values.length known).value with
    | none => rfl
    | qmark => rfl
    | numeric => exact absurd hs hstyle
  · obtain ⟨rs, closing, written, unread, htrace, hreplay, htakes, hcloses⟩ := rewrite_trace_of_numeric hstyle renders
    have hdebug : ∀ e ∈ rs.map Replaced.entry, e.level = Level.debug := by
      intro e he
      obtain ⟨r, -, rfl⟩ := List.mem_map.mp he
      rfl
    refine ⟨rs, closing, written, unread, htrace, hreplay, htakes, hcloses, hdebug, ?_⟩
    have hwarns : (∃ e ∈ trace, e.level = Level.warning) ↔ ∃ e ∈ closing, e.level = Level.warning := by
      change (∃ e ∈ (rewrite config template values known).trace, _) ↔ _
      rw [htrace]
      refine ⟨?_, fun ⟨e, he, hlevel⟩ => ⟨e, List.mem_append_right _ he, hlevel⟩⟩
      rintro ⟨e, he, hlevel⟩
      rcases List.mem_append.mp he with he | he
      · have hlow := hdebug e he
        rw [hlevel] at hlow
        cases hlow
      · exact ⟨e, he, hlevel⟩
    exact hwarns.trans hcloses.warns_iff

/-- Markers and quotes inside of a text, two markers side by side, and one that
names no argument. -/
theorem rewrite_traces_markers :
    let config : Config := {}
    let template := "($2$1, '$9'"
    let values : List Value := [.text "$2's", .null]
    (∀ v ∈ values, (Argument.ofValue v).Renders config) ∧
      (chooseStyle config template values.length none).value = .numeric ∧
      (rewrite config template values none).value = .error (.indexOutOfRange ['9'] 2) ∧
      ∃ rs closing written unread,
        (rewrite config template values none).trace = rs.map Replaced.entry ++ closing ∧
        replay? [] template.toList rs = some (written, unread) ∧
        Closes config values.length written unread closing (rewrite config template values none).value := by
  intro config template values
  have renders : ∀ v ∈ values, (Argument.ofValue v).Renders config := by
    intro v hv
    rcases List.mem_cons.mp hv with rfl | hv
    · exact ⟨_, rfl⟩
    · obtain rfl := List.mem_singleton.mp hv
      exact ⟨_, rfl⟩
  have numeric : (chooseStyle config template values.length none).value = .numeric := by decide
  have fails : (rewrite config template values none).value = .error (.indexOutOfRange ['9'] 2) := by decide +kernel
  obtain ⟨rs, closing, written, unread, htrace, hreplay, -, hcloses, -⟩ :=
    (rewrite_traces config template values none renders).2 numeric
  exact ⟨renders, numeric, fails, rs, closing, written, unread, htrace, hreplay, hcloses⟩

end Prepared
