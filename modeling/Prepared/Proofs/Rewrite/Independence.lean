import Prepared.Proofs.Rewrite.Filling

/-!
# Independence of the values

Two lists of as many values steer a rewriting in the same way, whatever text
they have: markers and quotes inside of it are never looked at. Main statement:
either both rewritings fail with one error, which speaks of the template, or
they fill the same slots of the template in the same style and stop for the
same reason.
-/

namespace Prepared

open Number Text Template

/-- Outcomes of rewriting one template with two lists of arguments that differ
in nothing but the texts of the arguments. -/
inductive Parallel (config : Config) (template : List Char) (as bs : List Argument) :
    Except RewriteError Rewrite → Except RewriteError Rewrite → Prop
  | failed (e : RewriteError) : Parallel config template as bs (.error e) (.error e)
  | filled (style : Style) (stopped : Option Overlong) {vs ws : List (List Char)} (length : ws.length = vs.length)
      (takes : (Outline.of style template).Takes config as vs)
      (takes' : (Outline.of style template).Takes config bs ws) :
      Parallel config template as bs (.ok ⟨(Outline.of style template).fill vs, style, stopped⟩)
        (.ok ⟨(Outline.of style template).fill ws, style, stopped⟩)

section
variable {config : Config} {as bs : List Argument} (length : bs.length = as.length)
  (texts : ∀ a ∈ as, a.HasText) (texts' : ∀ b ∈ bs, b.HasText)
include length texts texts'

theorem Slot.fate_or (config : Config) (x : Slot) :
    (∃ s t, x.fate config as = .ok s ∧ x.fate config bs = .ok t) ∨
      ∃ finish, x.fate config as = .error finish ∧ x.fate config bs = .error finish := by
  unfold Slot.fate
  cases x.number with
  | error reason => exact Or.inr ⟨_, rfl, rfl⟩
  | ok n =>
    rcases n with _ | k
    · -- The error gives the number of arguments, which is the same for both.
      exact Or.inr ⟨_, rfl, by rw [← length]; rfl⟩
    · by_cases hk : k < as.length
      · have ha : as[k]? = some as[k] := List.getElem?_eq_getElem hk
        have hb : bs[k]? = some bs[k] := List.getElem?_eq_getElem (by omega)
        simp only [argumentAt, ha, hb, Option.elim]
        rcases (texts _ (List.mem_of_getElem? ha)).bareText_or (texts' _ (List.mem_of_getElem? hb)) config with
          ⟨s, t, hs, ht⟩ | ⟨e, he, he'⟩
        · exact Or.inl ⟨s, t, by rw [hs]; rfl, by rw [ht]; rfl⟩
        · exact Or.inr ⟨.error (.literal e), by rw [he]; rfl, by rw [he']; rfl⟩
      · have ha : as[k]? = none := List.getElem?_eq_none (by omega)
        have hb : bs[k]? = none := List.getElem?_eq_none (by omega)
        simp only [argumentAt, ha, hb, Option.elim, length]
        exact Or.inr ⟨_, rfl, rfl⟩

/-- Two walks over the same slots end in the same way after as many texts. -/
theorem Walk.parallel {xs : List Slot} {vs ws : List (List Char)}
    {finish finish' : Except RewriteError (Option Overlong)} (h : Walk config as xs vs finish)
    (h' : Walk config bs xs ws finish') :
    finish' = finish ∧ ws.length = vs.length := by
  induction h generalizing ws with
  | done => cases h'; exact ⟨rfl, rfl⟩
  | @ended x _ finish fate =>
    rcases x.fate_or length texts texts' config with ⟨s, t, hs, ht⟩ | ⟨f, hf, hf'⟩
    · cases fate.symm.trans hs
    · cases fate.symm.trans hf
      cases h' with
      | ended fate' => cases fate'.symm.trans hf'; exact ⟨rfl, rfl⟩
      | written fate' => cases fate'.symm.trans hf'
  | @written x _ _ _ _ _ fate _ _ ih =>
    rcases x.fate_or length texts texts' config with ⟨s, t, hs, ht⟩ | ⟨f, hf, hf'⟩
    · cases h' with
      | ended fate' => cases fate'.symm.trans ht
      | written _ _ rest' =>
        obtain ⟨hfinish, hlength⟩ := ih rest'
        exact ⟨hfinish, congrArg (· + 1) hlength⟩
    · cases fate.symm.trans hf

theorem rewriteAs_parallel (style : Style) (template : List Char) :
    Parallel config template as bs (rewriteAs style config template as).value
      (rewriteAs style config template bs).value := by
  by_cases h : style = .qmark → template.count qmark = as.length
  · obtain ⟨vs, finish, hwalk, hvalue⟩ := rewriteAs_walk config style template h
    obtain ⟨ws, finish', hwalk', hvalue'⟩ :=
      rewriteAs_walk config style template fun hq => (h hq).trans length.symm
    obtain ⟨rfl, hlength⟩ := hwalk.parallel length texts texts' hwalk'
    rw [hvalue, hvalue']
    cases finish' with
    | error e => exact .failed e
    | ok stopped => exact .filled style stopped hlength hwalk.takes hwalk'.takes
  · obtain ⟨rfl, hcount⟩ := Classical.not_imp.mp h
    rw [rewriteAs_argumentCount template hcount, rewriteAs_argumentCount template (by rwa [length]), length]
    exact .failed _

end

theorem RewriteError.raised_sql (e : RewriteError) (template : String) {f : Fault}
    (h : (e.raised template).failure = .own f) : f.sql = some template := by
  cases e with
  | argumentCount | indexOutOfRange | unreadableIndex =>
    obtain rfl := Failure.own.inj h
    rfl
  | literal e =>
    cases e with
    | overlong o => cases h
    | dialect e => cases e <;> cases h

/-- Values steer a rewriting by nothing but their number. Where it fails, it
fails alike for all of them: the error that is raised, with its message and its
template, is the same. -/
theorem rewrite_independent (config : Config) (template : String) (known : Option Profile) {values values' : List Value}
    (length : values'.length = values.length) (texts : ∀ v ∈ values, (Argument.ofValue v).HasText)
    (texts' : ∀ v ∈ values', (Argument.ofValue v).HasText) :
    Parallel config template.toList (values.map Argument.ofValue) (values'.map Argument.ofValue)
        (rewrite config template values known).value (rewrite config template values' known).value ∧
      ∀ e, (rewrite config template values known).value = .error e →
        (rewrite config template values' known).value = .error e ∧
          ∀ f, (e.raised template).failure = .own f → f.sql = some template := by
  have hparallel : Parallel config template.toList (values.map Argument.ofValue) (values'.map Argument.ofValue)
      (rewrite config template values known).value (rewrite config template values' known).value := by
    unfold rewrite
    simp only [List.length_map, Noted.value_after, length]
    exact rewriteAs_parallel (by simp [length]) (by simpa using texts) (by simpa using texts') _ _
  refine ⟨hparallel, fun e he => ⟨?_, fun f hf => e.raised_sql template hf⟩⟩
  generalize (rewrite config template values known).value = r at hparallel he
  generalize (rewrite config template values' known).value = r' at hparallel ⊢
  cases hparallel with
  | failed e' => exact he
  | filled => cases he

/-- Values that look like markers and open quotes, against values that do not. -/
theorem rewrite_independent_markers :
    let template := "SELECT $1, '$2', $1"
    let values : List Value := [.text "$2 ? it's", .text "$9"]
    let values' : List Value := [.null, .bool true]
    values'.length = values.length ∧ (∀ v ∈ values, (Argument.ofValue v).HasText) ∧
      (∀ v ∈ values', (Argument.ofValue v).HasText) ∧
      Parallel {} template.toList (values.map Argument.ofValue) (values'.map Argument.ofValue)
        (rewrite {} template values none).value (rewrite {} template values' none).value := by
  intro template values values'
  have texts : ∀ v ∈ values, (Argument.ofValue v).HasText := by
    intro v hv
    rcases List.mem_cons.mp hv with rfl | hv
    · exact ⟨_, rfl⟩
    · obtain rfl := List.mem_singleton.mp hv
      exact ⟨_, rfl⟩
  have texts' : ∀ v ∈ values', (Argument.ofValue v).HasText := by
    intro v hv
    rcases List.mem_cons.mp hv with rfl | hv
    · exact ⟨_, rfl⟩
    · obtain rfl := List.mem_singleton.mp hv
      exact ⟨_, rfl⟩
  have length : values'.length = values.length := rfl
  exact ⟨length, texts, texts', (rewrite_independent {} template none length texts texts').1⟩

end Prepared
