import Prepared.Operation.Statement

/-!
# Telling operations

Every text has a first word or none, so a template that is no statement is told
by that. What can go wrong is before: the name of the dialect may be unknown, and
the reader may break off at a row without values. Main statement: nothing else
keeps the operation of a template from being told.
-/

namespace Prepared

open Grammar Text

namespace Dialect

/-- A setting names a dialect, or the generic one by being empty. -/
def IsKnown (setting : String) : Prop :=
  setting = "" ∨ String.ofList (trim (nameIn setting).toList) ∈ known.map Prod.fst

instance (setting : String) : Decidable (IsKnown setting) := inferInstanceAs (Decidable (_ ∨ _))

theorem ofName?_eq_none {s : String} : ofName? s = none ↔ String.ofList (trim s.toList) ∉ known.map Prod.fst := by
  simp only [ofName?, List.lookup_eq_none_iff, List.mem_map, not_exists, not_and, bne_iff_ne]
  exact forall₂_congr fun _ _ => ne_comm

theorem ofSetting_of_isKnown {s : String} (h : IsKnown s) : ∃ d, ofSetting (.text s) = .ok d := by
  by_cases hs : s = ""
  · subst hs
    exact ⟨.generic, rfl⟩
  · have hmem := h.resolve_left hs
    cases hname : ofName? (nameIn s) with
    | none => exact absurd hmem (ofName?_eq_none.mp hname)
    | some d => exact ⟨d, by simp [ofSetting, Value.truthy, hs, hname]⟩

theorem ofSetting_of_not_isKnown {s : String} (h : ¬ IsKnown s) :
    ofSetting (.text s) = .error (.unknown (nameIn s)) := by
  obtain ⟨hs, hmem⟩ := not_or.mp h
  simp [ofSetting, Value.truthy, hs, ofName?_eq_none.mpr hmem]

end Dialect

namespace Operation

def Breaks (d : Dialect) (sql : List Char) : Prop := ∃ ts, tokens? d sql = some ts ∧ readTokens d ts = .error .emptyRow

def settingOf (dialect : Option String) : Value := dialect.elim .null .text

/-- What comes of telling the operation of a template: it is told, or the dialect is
unknown, or the reader breaks off. -/
inductive Detects (dialect : Option String) (sql : String) : Except Unknown Operation → Prop
  | told (known : ∀ s, dialect = some s → Dialect.IsKnown s) (o : Operation) : Detects dialect sql (.ok o)
  | unknown {s : String} (given : dialect = some s) (unknown : ¬ Dialect.IsKnown s) :
    Detects dialect sql (.error (.dialect (.unknown (Dialect.nameIn s))))
  | broken {d : Dialect} (known : Dialect.ofSetting (settingOf dialect) = .ok d) (breaks : Breaks d sql.toList) :
    Detects dialect sql (.error .emptyRow)

theorem ofText?_cases (d : Dialect) (sql : List Char) :
    (∃ o, ofText? d sql = .ok o) ∨ Breaks d sql ∧ ofText? d sql = .error .emptyRow := by
  unfold ofText?
  cases hts : tokens? d sql with
  | none => exact .inl ⟨none, rfl⟩
  | some ts =>
    dsimp only
    cases hread : readTokens d ts with
    | ok f => exact .inl ⟨f.operation?, rfl⟩
    | error halt =>
      cases halt with
      | unreadable => exact .inl ⟨none, rfl⟩
      | emptyRow => exact .inr ⟨⟨ts, hts, hread⟩, rfl⟩

theorem detect_of_unknown {setting : Value} {e : DialectError} (h : Dialect.ofSetting setting = .error e)
    (sql : String) : detect setting sql = .error (.dialect e) := by
  rw [detect, h]
  rfl

theorem detect_of_known {setting : Value} {d : Dialect} (h : Dialect.ofSetting setting = .ok d) (sql : String) :
    detect setting sql = (ofText? d sql.toList).map fun o => o.getD (ofFirstWord sql.toList) := by
  rw [detect, h]
  rfl

theorem detects_detect (dialect : Option String) (sql : String) :
    Detects dialect sql (detect (settingOf dialect) sql) := by
  have htells {d : Dialect} (hd : Dialect.ofSetting (settingOf dialect) = .ok d)
      (hknown : ∀ s, dialect = some s → Dialect.IsKnown s) : Detects dialect sql (detect (settingOf dialect) sql) := by
    rw [detect_of_known hd]
    rcases ofText?_cases d sql.toList with ⟨o, ho⟩ | ⟨hbreaks, he⟩
    · rw [ho]
      exact .told hknown _
    · rw [he]
      exact .broken hd hbreaks
  cases dialect with
  | none => exact htells (d := .generic) rfl nofun
  | some s =>
    by_cases hs : Dialect.IsKnown s
    · obtain ⟨d, hd⟩ := Dialect.ofSetting_of_isKnown hs
      exact htells hd fun _ he => Option.some.inj he ▸ hs
    · rw [settingOf, Option.elim_some, detect_of_unknown (Dialect.ofSetting_of_not_isKnown hs)]
      exact .unknown rfl hs

/-- A dialect that nobody knows is no reason to fall back on the first word. -/
theorem detect_unnamed :
    ∃ e, detect (settingOf "nope") "SELECT 1" = .error e ∧ e.failure = .foreign .value "Unknown dialect 'nope'." := by
  have hunknown : ¬ Dialect.IsKnown "nope" := by decide +kernel
  exact ⟨_, detect_of_unknown (Dialect.ofSetting_of_not_isKnown hunknown) _, by decide +kernel⟩

end Operation
end Prepared
