import Prepared.Proofs.Rewrite.Detection

/-!
# Why a rewriting fails

A rewriting fails because the arguments are too many or too few, because a
marker asks for one that is not there or cannot be read, or because an argument
that it puts into the query has no text. Each of these belongs to a setting, a
style or an argument. Main statement: all of them but the last are errors of
the library, and the last is the failure to write the argument.
-/

namespace Prepared

open Number Text Template

def Config.NamesDialect (config : Config) : Prop := ∃ d, Dialect.ofSetting config.dialect = .ok d

inductive RewriteError.Arises (config : Config) (style : Style) (template : List Char) (arguments : List Argument) :
    RewriteError → Prop
  | count {expected supplied : Nat} (marks : style = .qmark) (differ : template.count qmark ≠ arguments.length) :
    Arises config style template arguments (.argumentCount expected supplied)
  | index {digits : List Char} {supplied : Nat} :
    Arises config style template arguments (.indexOutOfRange digits supplied)
  | unreadable {digits : List Char} {reason : Overlong} (strict : config.isStrict = true) :
    Arises config style template arguments (.unreadableIndex digits reason)
  | text {a : Argument} {e : LiteralError} (given : a ∈ arguments) (fails : a.bareText config = .error e) :
    Arises config style template arguments (.literal e)

inductive Refusal (config : Config) (values : List Value) : Failure → Prop
  | index {f : Fault} (family : f.family = .placeholderIndex) : Refusal config values (.own f)
  | unreadable {f : Fault} (family : f.family = .placeholderParse) (strict : config.isStrict = true) :
    Refusal config values (.own f)
  | count {f : Fault} (family : f.family = .parameterCount) (unified : config.isUnified = true) :
    Refusal config values (.own f)
  | text {v : Value} {o : Overlong} (given : v ∈ values) (fails : (Argument.ofValue v).text = .error o) :
    Refusal config values (.overlong o)

section
variable {config : Config} {arguments : List Argument}

theorem Argument.text_of_bareText {a : Argument} (hd : config.NamesDialect) {e : LiteralError}
    (h : a.bareText config = .error e) : ∃ o, a.text = .error o ∧ e = .overlong o := by
  obtain ⟨d, hd⟩ := hd
  cases ht : a.text with
  | ok s =>
    have hs : a.plainText = .ok s := by rw [plainText, ht]; rfl
    unfold bareText at h
    split at h
    · rw [literal_eq hs, hd] at h
      cases h
    · rw [hs] at h
      cases h
  | error o =>
    refine ⟨o, rfl, ?_⟩
    have hs : a.plainText = .error (.overlong o) := by rw [plainText, ht]; rfl
    unfold bareText at h
    split at h
    · have hliteral : a.literal config.dialect = .error (.overlong o) := by
        unfold literal literalBy
        cases hk : a.kind with
        | null => rw [text, hk] at ht; cases ht
        | boolean => rw [text, hk] at ht; cases ht
        | _ => rw [hs]; rfl
      exact Except.error.inj (h.symm.trans hliteral)
    · exact Except.error.inj (h.symm.trans hs)

theorem argumentAt_error {digits : List Char} {n : Nat} {e : RewriteError}
    (h : argumentAt arguments digits n = .error e) : e = .indexOutOfRange digits arguments.length := by
  cases n with
  | zero => exact (Except.error.inj h).symm
  | succ k =>
    rw [argumentAt] at h
    cases hk : arguments[k]? with
    | none => rw [hk] at h; exact (Except.error.inj h).symm
    | some a => rw [hk] at h; cases h

variable {style : Style} {template : List Char} {e : RewriteError}

theorem Slot.arises_of_fate {x : Slot} (h : x.fate config arguments = .error (.error e)) :
    e.Arises config style template arguments := by
  unfold Slot.fate at h
  cases hx : x.number with
  | error reason =>
    rw [hx] at h
    by_cases hs : config.isStrict = true
    · simp only [hs, if_true] at h
      obtain rfl := Except.error.inj (Except.error.inj h)
      exact .unreadable hs
    · simp [hs] at h
  | ok n =>
    cases hn : argumentAt arguments x.digits n with
    | error e' =>
      simp only [hx, hn] at h
      obtain rfl := Except.error.inj (Except.error.inj h)
      rw [argumentAt_error hn]
      exact .index
    | ok a =>
      simp only [hx, hn] at h
      obtain ⟨k, -, hk⟩ := argumentAt_ok hn
      cases ha : a.bareText config with
      | ok s => rw [ha] at h; cases h
      | error le =>
        rw [ha] at h
        obtain rfl := Except.error.inj (Except.error.inj h)
        exact .text (List.mem_of_getElem? hk) ha

theorem Walk.arises {xs : List Slot} {vs : List (List Char)} {finish : Except RewriteError (Option Overlong)}
    (h : Walk config arguments xs vs finish) (fails : finish = .error e) :
    e.Arises config style template arguments := by
  induction h with
  | done => cases fails
  | ended fate => exact Slot.arises_of_fate (fails ▸ fate)
  | written _ _ _ ih => exact ih fails

theorem rewriteAs_arises (h : (rewriteAs style config template arguments).value = .error e) :
    e.Arises config style template arguments := by
  by_cases hcount : style = .qmark → template.count qmark = arguments.length
  · obtain ⟨vs, finish, hwalk, hvalue⟩ := rewriteAs_walk config style template hcount
    rw [hvalue] at h
    cases finish with
    | ok stopped => cases h
    | error e' =>
      obtain rfl : e' = e := Except.error.inj h
      exact hwalk.arises rfl
  · obtain ⟨hstyle, hne⟩ := Classical.not_imp.mp hcount
    subst hstyle
    rw [rewriteAs_argumentCount template hne] at h
    obtain rfl := Except.error.inj h
    exact .count rfl hne

end

/-- What is wrong with a rewriting, as its caller sees it. Only unified
detection takes question marks that are more or fewer than the arguments. -/
theorem rewrite_refusal {config : Config} (hd : config.NamesDialect) {template : String} {values : List Value}
    {known : Option Profile} {e : RewriteError} (h : (rewrite config template values known).value = .error e) :
    Refusal config values (e.raised template).failure := by
  rw [rewrite_value] at h
  cases rewriteAs_arises h with
  | count marks differ =>
    refine .count rfl ?_
    rw [List.length_map] at differ
    by_contra hu
    rw [chooseStyle_legacy (Bool.not_eq_true _ ▸ hu)] at marks
    simp [Noted.pure, differ] at marks
  | index => exact .index rfl
  | unreadable strict => exact .unreadable rfl strict
  | text given fails =>
    obtain ⟨v, hv, rfl⟩ := List.mem_map.mp given
    obtain ⟨o, ho, rfl⟩ := Argument.text_of_bareText hd fails
    exact .text hv ho

end Prepared
