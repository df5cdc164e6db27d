import Prepared.Proofs.Operation.Detection
import Prepared.Proofs.Session.Exclusion

/-!
# Asking for the operation

A statement keeps its template and its configuration for good; only its stage
changes. Main statement: asking for its operation at any later time, in whatever
stage it is, is answered as it would have been when it was made, and telling the
operation fails for an unknown dialect and where the reader breaks off, and for
nothing else.
-/

namespace Prepared.Session

variable {s : Session} {i : Nat} {st : Statement}

theorem kept_setStage (hst : s.statements[i]? = some st) (j : Nat) (stage : Stage) :
    ∃ stage', (s.setStage j stage).statements[i]? = some { st with stage := stage' } := by
  rw [setStage, List.getElem?_modify, hst]
  by_cases hj : j = i
  · exact ⟨stage, by simp [hj]⟩
  · exact ⟨st.stage, by simp [hj]⟩

theorem kept_occur (hst : s.statements[i]? = some st) (e : Happening) :
    ∃ stage, (s.occur e).statements[i]? = some { st with stage } := by
  rcases statements_occur s e with he | ⟨t, -, ht, he⟩
  · exact ⟨st.stage, he ▸ hst⟩
  · rw [he]
    rcases statements_move ht with he | ⟨sql, config, claimed, he⟩ | ⟨u, values, st', -, -, -, he⟩ | ⟨u, outcome, -, he⟩
    · exact ⟨st.stage, he ▸ hst⟩
    · refine ⟨st.stage, ?_⟩
      rw [he, List.getElem?_append_left (List.getElem?_eq_some_iff.mp hst).1]
      exact hst
    · rw [he]
      exact kept_setStage hst u.statement .executing
    · rw [he]
      exact kept_setStage hst u.statement .idle

theorem kept_evolve (hst : s.statements[i]? = some st) (hs : List Happening) :
    ∃ stage, (s.evolve hs).statements[i]? = some { st with stage } := by
  induction hs generalizing s st with
  | nil => exact ⟨st.stage, hst⟩
  | cons e hs ih =>
    obtain ⟨stage, hnext⟩ := kept_occur hst e
    have hlater := ih hnext
    exact hlater

theorem occur_operation {t : Task} {name : String} (hst : s.statements[i]? = some st)
    (ht : s.task? t.number = some t) (hc : t.control = .start (.operation name)) (hname : s.find? name = some i) :
    s.occur (.move t.number) =
      s.goto t (.done (.ofOperation ((Operation.detect st.config.dialect st.sql).mapError (·.failure)))) := by
  have hmove : s.occur (.move t.number) = s.move t := happen_move ht (by simp [canMove, hc])
  rw [hmove, move, hc]
  simp only [start, answerFrom, hname, Option.bind_some, hst, Option.elim_some]
  rfl

/-- Telling the operation of a template comes to one of them, unless the dialect is
unknown or the reader breaks off. A statement that has been made is the same ever after
but for its stage, and whoever asks for its operation gets the same answer every time. -/
theorem operation_steady (dialect : Option String) (sql : String) :
    Operation.Detects dialect sql (Operation.detect (Operation.settingOf dialect) sql) ∧
    ∀ mode config hs i st, ((opened mode config).evolve hs).statements[i]? = some st → ∀ hs',
      let s := ((opened mode config).evolve hs).evolve hs'
      (∃ stage, s.statements[i]? = some { st with stage }) ∧
      ∀ t name, s.task? t.number = some t → t.control = .start (.operation name) → s.find? name = some i →
        s.occur (.move t.number) =
          s.goto t (.done (.ofOperation ((Operation.detect st.config.dialect st.sql).mapError (·.failure)))) := by
  refine ⟨Operation.detects_detect dialect sql, fun mode config hs i st hst hs' => ?_⟩
  intro s
  obtain ⟨stage, hkept⟩ := kept_evolve hst hs'
  refine ⟨⟨stage, hkept⟩, fun t name ht hc hname => ?_⟩
  have hanswer := occur_operation hkept ht hc hname
  exact hanswer

/-- A statement is asked in the middle of its use and again when it is idle. -/
theorem operation_steady_used :
    let made := (opened .blocking {}).evolve [.launch 0 (.prepare "a" "DELETE FROM t" none), .move 0, .move 0]
    let midway := made.evolve [.launch 1 (.use "a" .exec []), .move 1, .move 1, .launch 2 (.operation "a")]
    let after := made.evolve
      [.launch 1 (.use "a" .exec []), .move 1, .move 1, .move 1, .move 1, .move 1, .move 1, .move 1,
        .launch 2 (.operation "a")]
    let asking : Task := { number := 2, control := .start (.operation "a") }
    midway.stage? 0 = some .executing ∧ after.stage? 0 = some .idle ∧
      midway.occur (.move 2) = midway.goto asking (.done (.operation .delete)) ∧
      after.occur (.move 2) = after.goto asking (.done (.operation .delete)) := by
  intro made midway after asking
  have hdetect : Operation.detect .null "DELETE FROM t" = .ok .delete := by decide +kernel
  obtain ⟨st, hst, hdialect, hsql⟩ : ∃ st, made.statements[0]? = some st ∧ st.config.dialect = .null ∧
      st.sql = "DELETE FROM t" := ⟨_, rfl, rfl, rfl⟩
  have hasked := fun hs => ((operation_steady none "").2 .blocking {} _ 0 st hst hs).2 asking "a"
  rw [hdialect, hsql, hdetect] at hasked
  refine ⟨by decide +kernel, by decide +kernel, ?_, ?_⟩
  · have hname : midway.find? "a" = some 0 := by decide +kernel
    exact hasked _ rfl rfl hname
  · have hname : after.find? "a" = some 0 := by decide +kernel
    exact hasked _ rfl rfl hname

end Prepared.Session
