import Prepared.Proofs.Rewrite.Detection

/-!
# Question marks in sequence

A template with question marks is cut at them, and the texts of the arguments
are put between the segments. Main statement: that comes to one pass over the
characters of the template, in which every mark gives way to the text of the
next argument and everything else is copied. Texts are not looked at again, and
where marks and arguments differ in number nothing is written at all, whoever
said that the template has question marks.
-/

namespace Prepared

open Template

def fillMarks : List (List Char) → List Char → List Char
  | _, [] => []
  | [], c :: s => c :: fillMarks [] s
  | t :: ts, c :: s => if c = qmark then t ++ fillMarks ts s else c :: fillMarks (t :: ts) s

/-- The text of an argument in the place of a question mark: its literal, or else
its plain text, between quotes when there is a space in it. -/
inductive Argument.Fills (config : Config) (a : Argument) : List Char → Prop
  | literal {t : List Char} (escapes : config.escapes = true) (written : a.literal config.dialect = .ok t) :
    Argument.Fills config a t
  | spaced {s : List Char} (heuristic : config.escapes = false) (written : a.plainText = .ok s) (space : ' ' ∈ s) :
    Argument.Fills config a (inQuotes s)
  | plain {s : List Char} (heuristic : config.escapes = false) (written : a.plainText = .ok s) (space : ' ' ∉ s) :
    Argument.Fills config a s

/-! ## Segments and characters -/

theorem fillMarks_cons {c : Char} (hc : c ≠ qmark) (ts : List (List Char)) (s : List Char) :
    fillMarks ts (c :: s) = c :: fillMarks ts s := by
  cases ts with
  | nil => rfl
  | cons t ts => rw [fillMarks, if_neg hc]

theorem interleave_cons_cons (c : Char) (u : List Char) (us ts : List (List Char)) :
    interleave ((c :: u) :: us) ts = c :: interleave (u :: us) ts := by
  cases ts <;> simp [interleave]

theorem interleave_segments {s : List Char} {ts : List (List Char)} (h : ts.length = s.count qmark) :
    interleave (segments s) ts = fillMarks ts s := by
  induction s generalizing ts with
  | nil =>
    obtain rfl := List.length_eq_zero_iff.mp h
    rfl
  | cons c s ih =>
    by_cases hc : c = qmark
    · subst hc
      rw [List.count_cons_self] at h
      obtain ⟨t, ts, rfl⟩ := List.exists_cons_of_length_eq_add_one h
      rw [segments, if_pos rfl, fillMarks, if_pos rfl, interleave, ih (by simpa using h), List.nil_append]
    · rw [List.count_cons_of_ne hc] at h
      obtain ⟨u, us, hs⟩ := segments_eq_cons s
      rw [fillMarks_cons hc, ← ih h, hs]
      simp only [segments, if_neg hc, hs, interleave_cons_cons]

/-! ## The texts -/

section
variable {config : Config}

theorem Argument.Renders.fills {a : Argument} (h : a.Renders config) :
    ∃ t, a.sequentialText config = .ok t ∧ a.Fills config t := by
  obtain ⟨s, hs⟩ := h
  unfold sequentialText
  cases he : config.escapes with
  | true =>
    simp only [he, if_true] at hs ⊢
    exact ⟨s, hs, .literal he hs⟩
  | false =>
    simp only [he, Bool.false_eq_true, if_false] at hs ⊢
    by_cases hspace : ' ' ∈ s
    · exact ⟨inQuotes s, by simp [hs, hspace, Except.map], .spaced he hs hspace⟩
    · exact ⟨s, by simp [hs, hspace, Except.map], .plain he hs hspace⟩

theorem exists_fills {arguments : List Argument} (renders : ∀ a ∈ arguments, a.Renders config) :
    ∃ ts, (arguments.mapM fun a => (a.sequentialText config).mapError RewriteError.literal) = .ok ts ∧
      List.Forall₂ (Argument.Fills config) arguments ts := by
  induction arguments with
  | nil => exact ⟨[], rfl, .nil⟩
  | cons a arguments ih =>
    obtain ⟨t, ht, hfills⟩ := (renders a (by simp)).fills
    obtain ⟨ts, hts, hrest⟩ := ih fun b hb => renders b (by simp [hb])
    refine ⟨t :: ts, ?_, .cons hfills hrest⟩
    rw [List.mapM_cons, ht, hts]
    rfl

theorem rewriteAs_fillMarks {template : List Char} {arguments : List Argument}
    (renders : ∀ a ∈ arguments, a.Renders config) (marks : template.count qmark = arguments.length) :
    ∃ ts, List.Forall₂ (Argument.Fills config) arguments ts ∧
      (rewriteAs .qmark config template arguments).value = .ok ⟨fillMarks ts template, .qmark, none⟩ := by
  obtain ⟨ts, hts, hfills⟩ := exists_fills renders
  have hexpected : (segments template).length - 1 = arguments.length := by
    rw [length_segments, marks, Nat.add_sub_cancel]
  have hsql := interleave_segments (hfills.length_eq.symm.trans marks.symm)
  refine ⟨ts, hfills, ?_⟩
  simp only [rewriteAs, Noted.pure, rewriteSequential, hexpected, ne_eq, not_true_eq_false, if_false, hts,
    ← hsql]
  rfl

end

/-- With the algorithm for question marks, whatever made it the one to use: as many
marks as arguments are filled in one pass over the template, and any other number is
an error that gives the template. -/
theorem rewrite_fillMarks (config : Config) (template : String) (values : List Value) (known : Option Profile)
    (marks : (chooseStyle config template values.length known).value = .qmark) :
    (template.toList.count qmark ≠ values.length →
      ∃ e f, (rewrite config template values known).value = .error e ∧
        (e.raised template).failure = .own f ∧ f.family = .parameterCount ∧ f.sql = some template) ∧
    (template.toList.count qmark = values.length → (∀ v ∈ values, (Argument.ofValue v).Renders config) →
      ∃ ts, List.Forall₂ (fun v t => (Argument.ofValue v).Fills config t) values ts ∧
        (rewrite config template values known).value = .ok ⟨fillMarks ts template.toList, .qmark, none⟩) := by
  have hvalue : (rewrite config template values known).value = _ := rewrite_value
  rw [marks] at hvalue
  refine ⟨fun differ => ?_, fun equal renders => ?_⟩
  · have hdiffer : template.toList.count qmark ≠ (values.map Argument.ofValue).length := by rwa [List.length_map]
    exact ⟨_, _, hvalue.trans (rewriteAs_argumentCount _ hdiffer), rfl, rfl, rfl⟩
  · have hequal : template.toList.count qmark = (values.map Argument.ofValue).length := by rwa [List.length_map]
    obtain ⟨ts, hfills, hsql⟩ := rewriteAs_fillMarks (List.forall_mem_map.mpr renders) hequal
    exact ⟨ts, List.forall₂_map_left_iff.mp hfills, hvalue.trans hsql⟩

/-- A profile of another template: marks at both ends and side by side are filled, one
of them with a mark, and a template without marks is refused. -/
theorem rewrite_fillMarks_stale :
    let config : Config := { unifiedStyleDetection := .bool true }
    let known : Option Profile := some ⟨7, .qmark⟩
    let values : List Value := [.text "a ?", .text "?", .int 7]
    let rewritten (template : String) := (rewrite config template values known).value
    (chooseStyle config "??, $1?" values.length known).value = .qmark ∧
      (chooseStyle config "$1" values.length known).value = .qmark ∧
      (∀ v ∈ values, (Argument.ofValue v).Renders config) ∧
      (∃ ts, List.Forall₂ (fun v t => (Argument.ofValue v).Fills config t) values ts ∧
        rewritten "??, $1?" = .ok ⟨fillMarks ts "??, $1?".toList, .qmark, none⟩) ∧
      ∃ e f, rewritten "$1" = .error e ∧ (e.raised "$1").failure = .own f ∧ f.family = .parameterCount ∧
        f.sql = some "$1" := by
  intro config known values rewritten
  have marks : (chooseStyle config "??, $1?" values.length known).value = .qmark := rfl
  have stale : (chooseStyle config "$1" values.length known).value = .qmark := rfl
  have renders : ∀ v ∈ values, (Argument.ofValue v).Renders config := by
    simp only [values, List.forall_mem_cons]
    exact ⟨⟨_, rfl⟩, ⟨_, rfl⟩, ⟨"7".toList, by decide +kernel⟩, nofun⟩
  exact ⟨marks, stale, renders, (rewrite_fillMarks config _ values known marks).2 (by decide) renders,
    (rewrite_fillMarks config _ values known stale).1 (by decide)⟩

end Prepared
