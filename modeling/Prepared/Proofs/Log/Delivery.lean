import Prepared.Proofs.Log.Namespace

/-!
# Delivery

Whatever has been asked of the log, its root logger stands as the last settings
with a known level left it. A record at an enabled level comes once to each of
the handlers of those settings, and no other handler gets anything. Two things
can keep it from one: a logger with two dots behind the root may be cut off from
the handlers, and a line of JSON cannot be written when an integer in it is too
long. Main statement: there is nothing else.
-/

namespace Prepared.Log

open Registry

/-! ## The settings that count -/

def Request.settings? : Request → Option Settings
  | .configure s => if (Level.ofName? s.levelName).isSome then some s else none
  | _ => none

def current (qs : List Request) : Option Settings := (qs.filterMap Request.settings?).getLast?

/-- The root logger is as these settings leave it, or as it is from the start. -/
structure Registry.StandsAt (r : Registry) (s : Option Settings) : Prop where
  level : s.elim (some Level.notSet) (fun s => Level.ofName? s.levelName) = some r.level
  handlers : r.handlers = s.elim [] Settings.handlers
  propagates : r.propagates = s.isNone

theorem current_snoc (qs : List Request) (q : Request) : current (qs ++ [q]) = q.settings?.or (current qs) := by
  unfold current
  cases hq : q.settings? with
  | none => simp [hq]
  | some s => simp [hq]

theorem follow_snoc (r : Registry) (qs : List Request) (q : Request) :
    r.follow (qs ++ [q]) = ((r.follow qs).handle q).1 := by
  simp [follow]

variable {r : Registry} {s : Option Settings}

theorem Registry.StandsAt.get (h : r.StandsAt s) (name : Option String) : (r.get name).1.StandsAt s := by
  cases name with
  | none => exact h
  | some _ => exact ⟨h.level, h.handlers, h.propagates⟩

theorem handle_configure_of_unknown {t : Settings} (h : Level.ofName? t.levelName = none) :
    (r.handle (.configure t)).1 = r ∧ ∃ f, (r.handle (.configure t)).2 = .error f := by
  simp [handle, configure, h]

theorem Registry.StandsAt.handle (h : r.StandsAt s) (q : Request) : (r.handle q).1.StandsAt (q.settings?.or s) := by
  cases q with
  | get name => exact h.get name
  | configure t =>
    cases hlevel : Level.ofName? t.levelName with
    | none =>
      rw [(handle_configure_of_unknown hlevel).1]
      simpa [Request.settings?, hlevel] using h
    | some level =>
      simp only [Registry.handle, configure, Request.settings?, hlevel, Option.isSome_some, if_true, Option.some_or]
      exact ⟨hlevel, rfl, rfl⟩
  | correlate id => exact ⟨h.level, h.handlers, h.propagates⟩
  | log name level message extra =>
    rw [Registry.handle, log_registry]
    exact h.get name
  | note entries => exact h

theorem follow_standsAt (qs : List Request) : (Registry.initial.follow qs).StandsAt (current qs) := by
  induction qs using List.reverseRecOn with
  | nil => exact ⟨rfl, rfl, rfl⟩
  | append_singleton qs q ih =>
    rw [follow_snoc, current_snoc]
    exact ih.handle q

theorem Registry.Settings.handlers_nodup (t : Settings) : t.handlers.Nodup := by
  unfold Settings.handlers
  cases t.file <;> by_cases hp : t.probe = true <;> simp [hp]

/-! ## What the handlers get -/

def Delivery.handler : Delivery → Handler
  | .line h _ => h
  | .record .. => .probe

def Registry.writes (r : Registry) (e : Entry) : Handler → Bool
  | .console true | .file _ => ((record e).structured none r.correlation).toOption.isSome
  | .console false | .probe => true

inductive Delivery.Shows (r : Registry) (e : Entry) : Delivery → Prop
  | structured {h : Handler} {line : List Char} (json : h = .console true ∨ ∃ n, h = .file n)
      (written : (Registry.record e).structured none r.correlation = .ok line) :
    Shows r e (.line h (String.ofList line))
  | simple : Shows r e (.line (.console false) (String.ofList (Registry.record e).simple))
  | kept : Shows r e (.record e (r.mark e.logger))

theorem deliverTo_handlers (r : Registry) (e : Entry) (h : Handler) :
    (r.deliverTo e h).map Delivery.handler = if r.writes e h then [h] else [] := by
  unfold deliverTo writes
  cases hw : (record e).structured none r.correlation with
  | error o => split <;> simp [Except.toOption, Delivery.handler]
  | ok line => split <;> simp [Except.toOption, Delivery.handler]

theorem shows_of_mem_deliverTo {e : Entry} {h : Handler} {d : Delivery} (hd : d ∈ r.deliverTo e h) :
    d.Shows r e := by
  cases hw : (record e).structured none r.correlation with
  | error o =>
    cases h with
    | console structured =>
      cases structured with
      | true => simp [deliverTo, hw, Except.toOption] at hd
      | false => obtain rfl := List.mem_singleton.mp hd; exact .simple
    | file n => simp [deliverTo, hw, Except.toOption] at hd
    | probe => obtain rfl := List.mem_singleton.mp hd; exact .kept
  | ok line =>
    cases h with
    | console structured =>
      cases structured with
      | true =>
        obtain rfl : d = _ := by simpa [deliverTo, hw, Except.toOption] using hd
        exact .structured (.inl rfl) hw
      | false => obtain rfl := List.mem_singleton.mp hd; exact .simple
    | file n =>
      obtain rfl : d = _ := by simpa [deliverTo, hw, Except.toOption] using hd
      exact .structured (.inr ⟨n, rfl⟩) hw
    | probe => obtain rfl := List.mem_singleton.mp hd; exact .kept

theorem emit_handlers (r : Registry) (e : Entry) :
    (r.emit e).map Delivery.handler = if r.accepts e then r.handlers.filter (r.writes e) else [] := by
  unfold emit
  by_cases ha : r.accepts e = true
  · rw [if_pos ha, if_pos ha]
    induction r.handlers with
    | nil => rfl
    | cons h hs ih =>
      rw [List.flatMap_cons, List.map_append, deliverTo_handlers, ih, List.filter_cons]
      by_cases hw : r.writes e h = true <;> simp [hw]
  · rw [if_neg ha, if_neg ha]
    rfl

theorem shows_of_mem_emit {e : Entry} {d : Delivery} (hd : d ∈ r.emit e) : d.Shows r e := by
  unfold emit at hd
  split at hd
  · obtain ⟨h, -, hd⟩ := List.mem_flatMap.mp hd
    exact shows_of_mem_deliverTo hd
  · cases hd

theorem handler_mem_of_emit {e : Entry} {d : Delivery} (hd : d ∈ r.emit e) : d.handler ∈ r.handlers := by
  have hmem : d.handler ∈ (r.emit e).map Delivery.handler := List.mem_map_of_mem hd
  rw [emit_handlers] at hmem
  split at hmem
  · exact (List.mem_filter.mp hmem).1
  · cases hmem

section
variable {name : Option String} {level : Level} {message : String} {extra : List (String × Value)}

theorem log_of_free (h : extra.find? (reserved.contains ·.1) = none) :
    (r.log name level message extra).2 =
      .ok ((r.get name).1.emit { level, logger := (r.get name).2, message, extra }) := by
  simp only [log, h]

theorem log_of_reserved {field : String × Value} (h : extra.find? (reserved.contains ·.1) = some field) :
    (r.log name level message extra).2 =
      .error (.foreign .type s!"log_with_context() got multiple values for argument '{field.1}'") := by
  simp only [log, h]

end

theorem exists_emit_of_handle {q : Request} {ds : List Delivery} (h : (r.handle q).2 = .ok ds) {d : Delivery}
    (hd : d ∈ ds) : ∃ e, d ∈ (r.handle q).1.emit e := by
  cases q with
  | get name => cases h; cases hd
  | configure t =>
    cases hc : r.configure t with
    | error f => simp [Registry.handle, hc] at h
    | ok p =>
      obtain ⟨r', ds'⟩ := p
      obtain ⟨level, -, -, hds⟩ := configure_cases hc
      simp only [Registry.handle, hc, Except.ok.injEq] at h ⊢
      exact ⟨configuredEntry t, hds ▸ h ▸ hd⟩
  | correlate id => cases h; cases hd
  | log name level message extra =>
    rw [Registry.handle, log_registry]
    cases hfind : extra.find? (reserved.contains ·.1) with
    | some field =>
      rw [Registry.handle, log_of_reserved hfind] at h
      cases h
    | none =>
      rw [Registry.handle, log_of_free hfind] at h
      obtain rfl := Except.ok.inj h
      exact ⟨_, hd⟩
  | note entries =>
    cases h
    obtain ⟨e, -, hd⟩ := List.mem_flatMap.mp hd
    exact ⟨e, hd⟩

theorem handler_mem_of_handle {q : Request} {ds : List Delivery} (h : (r.handle q).2 = .ok ds) {d : Delivery}
    (hd : d ∈ ds) : d.handler ∈ (r.handle q).1.handlers := by
  obtain ⟨e, hd⟩ := exists_emit_of_handle h hd
  exact handler_mem_of_emit hd

theorem effectiveLevel_le_of_accepts {e : Entry} (h : r.accepts e = true) : r.effectiveLevel ≤ e.level := by
  unfold accepts at h
  simp only [Bool.and_eq_true, decide_eq_true_eq] at h
  exact h.2

/-- An enabled entry inside the namespace comes to all handlers that can write it, or
its logger is cut off by the two dots behind the root. -/
theorem emit_of_inNamespace (hroot : Logger.root ∈ r.loggers) {e : Entry} (he : InNamespace e.logger)
    (hlevel : r.effectiveLevel ≤ e.level) :
    (r.emit e).map Delivery.handler = r.handlers.filter (r.writes e) ∨ Doubled e.logger ∧ r.emit e = [] := by
  by_cases hbelow : r.isBelowRoot e.logger = true
  · left
    rw [emit_handlers, if_pos (by simp [accepts, hbelow, hlevel])]
  · right
    refine ⟨by_contra fun hd => hbelow (reachesRoot_of_inNamespace hroot he hd (Nat.le_refl _)), ?_⟩
    exact loses_of_isBelowRoot (Bool.not_eq_true _ ▸ hbelow) e rfl

/-- The root logger is as the last settings with a known level left it. A record is
written once to each of their handlers if its level is enabled, but for the two ways
to lose it, and to no other handler. Unknown levels change nothing. -/
theorem follow_delivers (qs : List Request) :
    let r := Registry.initial.follow qs
    r.StandsAt (current qs) ∧ r.handlers.Nodup ∧
    (∀ e, InNamespace e.logger →
      (r.effectiveLevel ≤ e.level →
        (r.emit e).map Delivery.handler = r.handlers.filter (r.writes e) ∨ Doubled e.logger ∧ r.emit e = []) ∧
      (e.level < r.effectiveLevel → r.emit e = []) ∧ ∀ d ∈ r.emit e, d.Shows r e) ∧
    (∀ name level message extra, extra.find? (reserved.contains ·.1) = none →
      (r.handle (.log name level message extra)).2 =
        .ok ((r.follow [.get name]).emit { level, logger := loggerOf name, message, extra })) ∧
    (∀ q ds, (r.handle q).2 = .ok ds → ∀ d ∈ ds, d.handler ∈ (current (qs ++ [q])).elim [] Settings.handlers) ∧
    ∀ t, Level.ofName? t.levelName = none →
      (r.handle (.configure t)).1 = r ∧ ∃ f, (r.handle (.configure t)).2 = .error f := by
  intro r
  have hstands : r.StandsAt (current qs) := follow_standsAt qs
  refine ⟨hstands, ?_, fun e he => ⟨fun hlevel => ?_, fun hlevel => ?_, fun d hd => shows_of_mem_emit hd⟩, ?_, ?_,
    fun t ht => handle_configure_of_unknown ht⟩
  · rw [hstands.handlers]
    cases current qs with
    | none => exact List.nodup_nil
    | some t => exact t.handlers_nodup
  · exact emit_of_inNamespace (mem_loggers_follow root_mem_initial qs) he hlevel
  · unfold emit
    exact if_neg fun ha => absurd (effectiveLevel_le_of_accepts ha) (Int.not_le.mpr hlevel)
  · intro name level message extra hfree
    rw [Registry.handle, log_of_free hfree, get_logger]
    rfl
  · intro q ds hds d hd
    have hnext := follow_standsAt (qs ++ [q])
    rw [follow_snoc] at hnext
    rw [← hnext.handlers]
    exact handler_mem_of_handle hds hd

/-- A second configuration with other handlers, and then one with an unknown level. -/
theorem follow_delivers_last :
    let qs : List Request :=
      [.configure { file := some 0 }, .configure { level := "notset", style := "simple", probe := true },
        .configure { level := "loud", file := some 1 }]
    let r := Registry.initial.follow qs
    let e : Entry := { level := Level.warning, logger := "sqlprep.db", message := "m" }
    InNamespace e.logger ∧ r.effectiveLevel ≤ e.level ∧
      (r.emit e).map Delivery.handler = [.console false, .probe] ∧
      (r.emit { e with level := Level.info }).map Delivery.handler = [] := by
  intro qs r e
  have he : InNamespace e.logger := by decide +kernel
  have hlevel : r.effectiveLevel ≤ e.level := by decide +kernel
  have hbelow : Level.info < r.effectiveLevel := by decide +kernel
  obtain ⟨hstands, -, hall, -⟩ := follow_delivers qs
  refine ⟨he, hlevel, ?_, ?_⟩
  · rcases (hall e he).1 hlevel with hd | ⟨hd, -⟩
    · rw [hd]; decide +kernel
    · exact absurd hd (by decide +kernel)
  · rw [(hall { e with level := Level.info } he).2.1 hbelow]
    rfl

/-- A logger whose name goes on behind the root with two dots is cut off from all
handlers, and a line with an integer of too many digits is left out. -/
theorem follow_loses :
    let r := (Registry.initial.follow [.configure { probe := true }]).follow [.get (some ".x")]
    let far : Entry := { level := Level.error, logger := loggerOf (some ".x"), message := "m" }
    let long : Entry :=
      { level := Level.error, logger := "sqlprep.x", message := "m", extra := [("n", .int (Nat.pow 10 4300))] }
    r.handlers = [.console true, .probe] ∧ r.effectiveLevel ≤ Level.error ∧
      far.logger = "sqlprep..x" ∧ InNamespace far.logger ∧ (r.emit far).map Delivery.handler = [] ∧
      InNamespace long.logger ∧ (r.emit long).map Delivery.handler = [.probe] := by
  decide +kernel

end Prepared.Log
