import Prepared.Proofs.Rewrite.Substitution
import Prepared.Proofs.Template.Outline

/-!
# Filling an outline

What a rewriting gives, seen from the outline of its template. Arguments fill
the slots from the left. A slot that no argument can fill ends the rewriting,
with an error or with the rest of the template as it is. Main statement: a
rewriting in either style is a walk over the slots of its outline, once the
arguments are as many as the question marks.
-/

namespace Prepared

open Number Text Template

/-! ## The text of an argument -/

def Shown (config : Config) (s v : List Char) : Prop := v = s ∨ config.escapes = false ∧ v = inQuotes s

namespace Argument

def bareText (a : Argument) (config : Config) : Except LiteralError (List Char) :=
  if config.escapes then a.literal config.dialect else a.plainText

def Writes (a : Argument) (config : Config) (v : List Char) : Prop :=
  ∃ s, a.bareText config = .ok s ∧ Shown config s v

def HasText (a : Argument) : Prop := ∃ s, a.plainText = .ok s

def literalIn (a : Argument) (s : List Char) (d : Dialect) : List Char :=
  match a.kind with
  | .null => "NULL".toList
  | .boolean => d.writeBool a.value.truthy
  | .integer | .float => Literal.number s
  | .text | .other => d.writeString s

variable {a b : Argument} {config : Config} {s : List Char}

theorem literal_eq (h : a.plainText = .ok s) (setting : Value) :
    a.literal setting = ((Dialect.ofSetting setting).mapError .dialect).map (a.literalIn s) := by
  unfold literal literalBy literalIn Dialect.generatorFor
  cases Dialect.ofSetting setting <;> cases a.kind <;> simp [h, bind, Except.bind, Except.map, Except.mapError] <;> rfl

theorem hasText_of_literal {setting : Value} (h : a.literal setting = .ok s) : a.HasText := by
  unfold literal literalBy at h
  cases hk : a.kind with
  | null => exact ⟨"NULL".toList, by rw [plainText, text, hk]; rfl⟩
  | boolean => exact ⟨_, by rw [plainText, text, hk]; rfl⟩
  | _ =>
    cases hp : a.plainText with
    | ok t => exact ⟨t, hp⟩
    | error e =>
      rw [hk, hp] at h
      cases h

theorem HasText.bareText_or (ha : a.HasText) (hb : b.HasText) (config : Config) :
    (∃ s t, a.bareText config = .ok s ∧ b.bareText config = .ok t) ∨
      ∃ e, a.bareText config = .error e ∧ b.bareText config = .error e := by
  obtain ⟨s, hs⟩ := ha
  obtain ⟨t, ht⟩ := hb
  by_cases he : config.escapes = true
  · simp only [bareText, he, if_true, literal_eq hs, literal_eq ht]
    cases Dialect.ofSetting config.dialect with
    | ok d => exact Or.inl ⟨_, _, rfl, rfl⟩
    | error e => exact Or.inr ⟨.dialect e, rfl, rfl⟩
  · left
    simp only [bareText, if_neg he]
    exact ⟨s, t, hs, ht⟩

def quotedUnless (a : Argument) (config : Config) (already : Bool) (s : List Char) : List Char :=
  if config.escapes then s else if a.isText then if already then s else inQuotes s else s

theorem shown_quotedUnless (a : Argument) (config : Config) (already : Bool) (s : List Char) :
    Shown config s (a.quotedUnless config already s) := by
  unfold Shown quotedUnless
  by_cases he : config.escapes = true
  · simp [he]
  · by_cases ht : a.isText = true <;> cases already <;> simp [he, ht]

theorem numberedText_eq_map (a : Argument) (config : Config) (query : List Char) (start : Nat) :
    a.numberedText config query start =
      (a.bareText config).map (a.quotedUnless config (quotedAlready config query start)) := by
  unfold numberedText bareText quotedUnless
  by_cases he : config.escapes = true
  · simp only [he, if_true]
    cases a.literal config.dialect <;> rfl
  · by_cases ht : a.isText = true
    · simp only [he, ht, if_true]
      rfl
    · simp only [he, ht]
      cases a.plainText <;> rfl

def quotedSpaced (config : Config) (s : List Char) : List Char :=
  if !config.escapes && s.contains ' ' then inQuotes s else s

theorem shown_quotedSpaced (config : Config) (s : List Char) : Shown config s (quotedSpaced config s) := by
  unfold Shown quotedSpaced
  by_cases he : config.escapes = true
  · simp [he]
  · cases s.contains ' ' <;> simp [he]

theorem sequentialText_eq_map (a : Argument) (config : Config) :
    a.sequentialText config = (a.bareText config).map (quotedSpaced config) := by
  unfold sequentialText bareText quotedSpaced
  by_cases he : config.escapes = true
  · simp only [he, if_true]
    cases a.literal config.dialect <;> rfl
  · simp [he]

end Argument

/-! ## A walk over the slots -/

namespace Slot

def Asks (x : Slot) (arguments : List Argument) (a : Argument) : Prop :=
  ∃ n, x.number = .ok (n + 1) ∧ arguments[n]? = some a

def fate (x : Slot) (config : Config) (arguments : List Argument) :
    Except (Except RewriteError (Option Overlong)) (List Char) :=
  match x.number with
  | .error reason =>
    .error (if config.isStrict then .error (.unreadableIndex x.digits reason) else .ok (some reason))
  | .ok n =>
    match argumentAt arguments x.digits n with
    | .error e => .error (.error e)
    | .ok a => (a.bareText config).mapError fun e => .error (.literal e)

end Slot

/-- Texts for the first slots of an outline, each that of the argument that its slot asks for. -/
structure Outline.Takes (l : Outline) (config : Config) (arguments : List Argument) (vs : List (List Char)) : Prop where
  length_le : vs.length ≤ l.slots.length
  writes : ∀ (i : Nat) (v : List Char), vs[i]? = some v →
    ∃ (x : Slot) (a : Argument), l.slots[i]? = some x ∧ x.Asks arguments a ∧ a.Writes config v

/-- Texts go into slots from the left, until there is no slot left or the
rewriting ends at one. -/
inductive Walk (config : Config) (arguments : List Argument) :
    List Slot → List (List Char) → Except RewriteError (Option Overlong) → Prop
  | done : Walk config arguments [] [] (.ok none)
  | ended {x : Slot} {xs : List Slot} {finish : Except RewriteError (Option Overlong)}
      (fate : x.fate config arguments = .error finish) : Walk config arguments (x :: xs) [] finish
  | written {x : Slot} {xs : List Slot} {s v : List Char} {vs : List (List Char)}
      {finish : Except RewriteError (Option Overlong)} (fate : x.fate config arguments = .ok s)
      (shown : Shown config s v) (rest : Walk config arguments xs vs finish) :
      Walk config arguments (x :: xs) (v :: vs) finish

section
variable {config : Config} {arguments : List Argument}

theorem argumentAt_ok {digits : List Char} {n : Nat} {a : Argument} (h : argumentAt arguments digits n = .ok a) :
    ∃ k, n = k + 1 ∧ arguments[k]? = some a := by
  cases n with
  | zero => cases h
  | succ k =>
    rw [argumentAt] at h
    cases hk : arguments[k]? with
    | none => rw [hk] at h; cases h
    | some b =>
      rw [hk] at h
      obtain rfl : b = a := Except.ok.inj h
      exact ⟨k, rfl, hk⟩

theorem Slot.Asks.fate {x : Slot} {a : Argument} (h : x.Asks arguments a) (config : Config) :
    x.fate config arguments = (a.bareText config).mapError fun e => .error (.literal e) := by
  obtain ⟨n, hn, ha⟩ := h
  simp only [Slot.fate, hn, argumentAt, ha, Option.elim]

theorem Slot.asks_of_fate {x : Slot} {s : List Char} (h : x.fate config arguments = .ok s) :
    ∃ a : Argument, x.Asks arguments a ∧ a.bareText config = .ok s := by
  unfold Slot.fate at h
  cases hx : x.number with
  | error reason => rw [hx] at h; cases h
  | ok n =>
    cases hn : argumentAt arguments x.digits n with
    | error e => simp only [hx, hn] at h; cases h
    | ok a =>
      simp only [hx, hn] at h
      obtain ⟨k, rfl, hk⟩ := argumentAt_ok hn
      refine ⟨a, ⟨k, hx, hk⟩, ?_⟩
      cases ha : a.bareText config with
      | error e => rw [ha] at h; cases h
      | ok t => rw [ha] at h; exact congrArg Except.ok (Except.ok.inj h)

theorem walk_fillSites (config : Config) (arguments : List Argument) (xs : List Site) (written : List Char) :
    ∃ vs finish, Walk config arguments (xs.map Site.slot) vs finish ∧
      (fillSites config arguments written xs).value =
        finish.map fun stopped => (written ++ fillSlots vs (xs.map Site.slot), stopped) := by
  induction xs generalizing written with
  | nil => exact ⟨[], .ok none, .done, by simp [fillSites, fillSlots, Noted.pure, Except.map]⟩
  | cons x xs ih =>
    rw [fillSites]
    cases hread : readDigits x.digits with
    | error reason =>
      refine ⟨[], _, .ended (by simp only [Slot.fate, Site.slot, hread]; rfl), ?_⟩
      rw [spell_slots]
      cases config.isStrict <;> rfl
    | ok n =>
      cases hn : argumentAt arguments x.digits n with
      | error e =>
        refine ⟨[], .error e, .ended ?_, by simp only [replacement, hn]; rfl⟩
        simp only [Slot.fate, Slot.digits, Site.slot, hread, List.tail_cons, hn]
      | ok a =>
        obtain ⟨k, rfl, hk⟩ := argumentAt_ok hn
        have hfate := Slot.Asks.fate (x := x.slot) ⟨k, hread, hk⟩ config
        -- The query around the site decides about quotes only, so any text that is written is shown.
        have hreplacement : replacement config arguments (written ++ spellSites (x :: xs)) ⟨written.length, x.digits⟩
            (k + 1) = (a.numberedText config (written ++ spellSites (x :: xs)) written.length).mapError .literal := by
          simp only [replacement, hn]
          rfl
        simp only [hreplacement, Argument.numberedText_eq_map]
        cases ha : a.bareText config with
        | error e => exact ⟨[], _, .ended (by rw [hfate, ha]; rfl), rfl⟩
        | ok s =>
          have hshown := a.shown_quotedUnless config
            (quotedAlready config (written ++ spellSites (x :: xs)) written.length) s
          obtain ⟨vs, finish, hwalk, hvalue⟩ := ih (written ++ a.quotedUnless config
            (quotedAlready config (written ++ spellSites (x :: xs)) written.length) s ++ x.text)
          refine ⟨_ :: vs, finish, .written (by rw [hfate, ha]; rfl) hshown hwalk, ?_⟩
          simp only [Except.map, Except.mapError, Noted.value_after, hvalue]
          simp [fillSlots, Site.slot]

theorem walk_mapM (config : Config) (before after : List Argument) (ts : List (List Char))
    (h : after.length = ts.length) :
    ∃ vs finish, Walk config (before ++ after) (questionSlots before.length ts) vs finish ∧
      (after.mapM fun a => (a.sequentialText config).mapError RewriteError.literal) = finish.map (fun _ => vs) ∧
      ∀ stopped, finish = .ok stopped → stopped = none := by
  induction after generalizing before ts with
  | nil =>
    obtain rfl := List.length_eq_zero_iff.mp h.symm
    exact ⟨[], .ok none, .done, rfl, fun _ hs => (Except.ok.inj hs).symm⟩
  | cons a after ih =>
    obtain ⟨t, ts, rfl⟩ := List.exists_cons_of_length_eq_add_one h.symm
    have hasks : (Slot.mk [qmark] (.ok (before.length + 1)) t).Asks (before ++ a :: after) a :=
      ⟨before.length, rfl, by simp⟩
    have hfate := hasks.fate config
    rw [questionSlots_cons, List.mapM_cons, Argument.sequentialText_eq_map]
    cases ha : a.bareText config with
    | error e => exact ⟨[], _, .ended (by rw [hfate, ha]; rfl), rfl, fun _ hs => by cases hs⟩
    | ok s =>
      -- The argument goes over to those before, so the next mark asks for the next one.
      obtain ⟨vs, finish, hwalk, hvalue, hnone⟩ := ih (before ++ [a]) ts (by simpa using h)
      rw [List.append_assoc, List.singleton_append, List.length_append, List.length_singleton] at hwalk
      refine ⟨_ :: vs, finish, .written (by rw [hfate, ha]; rfl) (Argument.shown_quotedSpaced config s) hwalk, ?_,
        hnone⟩
      change ((after.mapM fun b => (b.sequentialText config).mapError RewriteError.literal) >>=
        fun ws => pure (Argument.quotedSpaced config s :: ws)) = _
      rw [hvalue]
      cases finish <;> rfl

theorem Walk.length_le {xs : List Slot} {vs : List (List Char)} {finish : Except RewriteError (Option Overlong)}
    (h : Walk config arguments xs vs finish) : vs.length ≤ xs.length := by
  induction h with
  | done => exact Nat.le_refl 0
  | ended => exact Nat.zero_le _
  | written _ _ _ ih => exact Nat.succ_le_succ ih

theorem Slot.fate_ne {x : Slot} : x.fate config arguments ≠ .error (.ok none) := by
  intro h
  unfold Slot.fate at h
  cases hx : x.number with
  | error reason =>
    rw [hx] at h
    by_cases hs : config.isStrict = true
    · simp [hs] at h
    · simp [hs] at h
  | ok n =>
    cases hn : argumentAt arguments x.digits n with
    | error e => simp [hx, hn] at h
    | ok a => cases ha : a.bareText config <;> simp [hx, hn, ha, Except.mapError] at h

theorem Walk.length_eq {xs : List Slot} {vs : List (List Char)} {finish : Except RewriteError (Option Overlong)}
    (h : Walk config arguments xs vs finish) (complete : finish = .ok none) : vs.length = xs.length := by
  induction h with
  | done => rfl
  | ended fate => exact absurd (complete ▸ fate) Slot.fate_ne
  | written _ _ _ ih => exact congrArg (· + 1) (ih complete)

theorem Walk.writes {xs : List Slot} {vs : List (List Char)} {finish : Except RewriteError (Option Overlong)}
    (h : Walk config arguments xs vs finish) {i : Nat} {v : List Char} (hv : vs[i]? = some v) :
    ∃ (x : Slot) (a : Argument), xs[i]? = some x ∧ x.Asks arguments a ∧ a.Writes config v := by
  induction h generalizing i with
  | done => cases hv
  | ended => cases hv
  | written fate shown _ ih =>
    cases i with
    | zero =>
      obtain rfl := Option.some.inj hv
      obtain ⟨a, hasks, ha⟩ := Slot.asks_of_fate fate
      exact ⟨_, a, rfl, hasks, _, ha, shown⟩
    | succ i => exact ih hv

theorem Walk.takes {l : Outline} {vs : List (List Char)} {finish : Except RewriteError (Option Overlong)}
    (h : Walk config arguments l.slots vs finish) : l.Takes config arguments vs :=
  ⟨h.length_le, fun _ _ => h.writes⟩

/-! ## Every rewriting is a walk -/

theorem interleave_cons (t : List Char) (ts vs : List (List Char)) (n : Nat) (h : vs.length = ts.length) :
    interleave (t :: ts) vs = t ++ fillSlots vs (questionSlots n ts) := by
  induction ts generalizing t vs n with
  | nil =>
    obtain rfl := List.length_eq_zero_iff.mp h
    simp [interleave, questionSlots, fillSlots]
  | cons u ts ih =>
    obtain ⟨v, vs, rfl⟩ := List.exists_cons_of_length_eq_add_one h
    rw [interleave, ih u vs (n + 1) (by simpa using h), questionSlots_cons, fillSlots]
    simp

theorem length_questionSlots (n : Nat) (ts : List (List Char)) : (questionSlots n ts).length = ts.length := by
  simp [questionSlots]

/-- A rewriting that gets past the count of arguments is a walk over the outline of its template. -/
theorem rewriteAs_walk (config : Config) (style : Style) (template : List Char)
    (h : style = .qmark → template.count qmark = arguments.length) :
    ∃ vs finish, Walk config arguments (Outline.of style template).slots vs finish ∧
      (rewriteAs style config template arguments).value =
        finish.map fun stopped => ⟨(Outline.of style template).fill vs, style, stopped⟩ := by
  cases style with
  | none =>
    refine ⟨[], .ok none, .done, ?_⟩
    simp [rewriteAs, Noted.pure, Except.map, Outline.of, Outline.fill, fillSlots]
  | numeric =>
    obtain ⟨vs, finish, hwalk, hvalue⟩ :=
      walk_fillSites config arguments (cut template).sites (cut template).head
    refine ⟨vs, finish, hwalk, ?_⟩
    rw [rewriteAs, rewriteNumbered_eq config arguments (cut_of template), Noted.value_map, hvalue]
    cases finish <;> rfl
  | qmark =>
    obtain ⟨t, ts, hs⟩ := segments_eq_cons template
    have hlength : arguments.length = ts.length := by
      have hlen := length_segments template
      rw [hs, List.length_cons, h rfl] at hlen
      omega
    obtain ⟨vs, finish, hwalk, hvalue, hnone⟩ := walk_mapM config [] arguments ts hlength
    refine ⟨vs, finish, by simpa [Outline.of, hs] using hwalk, ?_⟩
    simp only [rewriteAs, Noted.pure, rewriteSequential, hs, List.length_cons, Nat.add_sub_cancel, hlength,
      ne_eq, not_true_eq_false, if_false, hvalue]
    cases finish with
    | error e => rfl
    | ok stopped =>
      obtain rfl := hnone stopped rfl
      have hlen := (hwalk.length_eq rfl).trans (length_questionSlots 0 ts)
      simp [Except.map, bind, Except.bind, pure, Except.pure, Outline.of, hs, Outline.fill,
        interleave_cons t ts vs 0 hlen]

theorem rewriteAs_argumentCount (template : List Char) (h : template.count qmark ≠ arguments.length) :
    (rewriteAs .qmark config template arguments).value =
      .error (.argumentCount (template.count qmark) arguments.length) := by
  have hlen : (segments template).length - 1 = template.count qmark := by rw [length_segments]; omega
  simp only [rewriteAs, Noted.pure, rewriteSequential, hlen, ne_eq, h, not_false_eq_true, if_true]
  rfl

/-- A rewriting that succeeds has filled the outline of its template. -/
theorem rewriteAs_ok {style : Style} {template : List Char} {r : Rewrite}
    (h : (rewriteAs style config template arguments).value = .ok r) :
    ∃ vs, Walk config arguments (Outline.of r.style template).slots vs (.ok r.stopped) ∧
      r.sql = (Outline.of r.style template).fill vs := by
  by_cases hcount : style = .qmark → template.count qmark = arguments.length
  · obtain ⟨vs, finish, hwalk, hvalue⟩ := rewriteAs_walk config style template hcount
    rw [h] at hvalue
    cases finish with
    | error e => cases hvalue
    | ok stopped =>
      cases hvalue
      exact ⟨vs, hwalk, rfl⟩
  · obtain ⟨rfl, hne⟩ := Classical.not_imp.mp hcount
    rw [rewriteAs_argumentCount template hne] at h
    cases h

end

end Prepared
