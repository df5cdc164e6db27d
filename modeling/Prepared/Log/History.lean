import Prepared.Log.Registry

/-!
# What is asked of the log

Requests come one after the other. One that fails leaves the log as it was, but
for the logger that it asked for.
-/

namespace Prepared.Log

open Text

inductive Request
  | get (name : Option String)
  | configure (settings : Registry.Settings)
  | correlate (id : Option String)
  | log (name : Option String) (level : Level) (message : String) (extra : List (String × Value))
  /-- Something else that logs is done, a rewriting or a use. -/
  | note (entries : List Entry)

namespace Registry

/-- Only the root logger changes, and only when the level is known. -/
theorem configure_cases {r r' : Registry} {s : Settings} {ds : List Delivery} (h : r.configure s = .ok (r', ds)) :
    ∃ level, Level.ofName? s.levelName = some level ∧
      r' = { r with level, handlers := s.handlers, propagates := false } ∧ ds = r'.emit (configuredEntry s) := by
  unfold configure at h
  cases hlevel : Level.ofName? s.levelName with
  | none => simp [hlevel] at h
  | some level =>
    simp only [hlevel, Except.ok.injEq, Prod.mk.injEq] at h
    exact ⟨level, rfl, h.1.symm, h.1 ▸ h.2.symm⟩

theorem log_registry (r : Registry) (name : Option String) (level : Level) (message : String)
    (extra : List (String × Value)) : (r.log name level message extra).1 = (r.get name).1 := by
  unfold log
  cases extra.find? (reserved.contains ·.1) <;> rfl

/-- The log after a request, and what its handlers get from it. -/
def handle (r : Registry) : Request → Registry × Except Failure (List Delivery)
  | .get name => ((r.get name).1, .ok [])
  | .configure settings =>
    match r.configure settings with
    | .ok (r, ds) => (r, .ok ds)
    | .error e => (r, .error e)
  | .correlate id => ({ r with correlation := id }, .ok [])
  | .log name level message extra => r.log name level message extra
  | .note entries => (r, .ok (r.emitAll entries))

def follow (r : Registry) (qs : List Request) : Registry := qs.foldl (fun r q => (r.handle q).1) r

end Registry
end Prepared.Log
