import Prepared.Proofs.Log.Delivery
import Prepared.Proofs.Log.Line

/-!
# Fields of a record's own

Extra fields are put in after those of the record's own, so one that goes by the
name of such a field takes its place. Main statement: nothing else can, so a field
of the record's own is read from the line as it is unless an extra field has its
name; the record that tells of a configuration has an extra field of that kind.
-/

namespace Prepared.Log

open Number Text

/-- What stands in a line under the name of a field of the record's own: the field
itself, or what the extra field of its name comes back as. -/
inductive Held (limit : Nat) (extra shown : List (String × Value)) (f : String × Value) : Prop
  | own (free : f.1 ∉ extra.map Prod.fst) (held : shown.lookup f.1 = some f.2)
  | overwritten {v w : Value} (given : (f.1, v) ∈ extra) (comes : Json.Shows limit v w)
    (held : shown.lookup f.1 = some w)

theorem Held.of_free {limit : Nat} {extra shown : List (String × Value)} {f : String × Value}
    (h : Held limit extra shown f) (hfree : f.1 ∉ extra.map Prod.fst) : shown.lookup f.1 = some f.2 := by
  cases h with
  | own _ held => exact held
  | overwritten given => exact absurd (List.mem_map_of_mem given) hfree

theorem Held.of_given {limit : Nat} {extra shown : List (String × Value)} {f : String × Value}
    (h : Held limit extra shown f) (hdistinct : (extra.map Prod.fst).Nodup) {v : Value} (hgiven : (f.1, v) ∈ extra) :
    ∃ w, Json.Shows limit v w ∧ shown.lookup f.1 = some w := by
  cases h with
  | own free => exact absurd (List.mem_map_of_mem hgiven) free
  | @overwritten v' w given comes held =>
    have hsame : v' = v := Option.some.inj ((lookup_of_mem hdistinct given).symm.trans (lookup_of_mem hdistinct hgiven))
    exact ⟨w, hsame ▸ comes, held⟩

theorem Held.kept_iff {limit : Nat} {extra shown : List (String × Value)} {f : String × Value}
    (h : Held limit extra shown f) (hdistinct : (extra.map Prod.fst).Nodup) :
    shown.lookup f.1 = some f.2 ↔ ∀ v, (f.1, v) ∈ extra → Json.Shows limit v f.2 := by
  constructor
  · intro hkept v hgiven
    obtain ⟨w, hcomes, hw⟩ := h.of_given hdistinct hgiven
    obtain rfl : w = f.2 := Option.some.inj (hw.symm.trans hkept)
    exact hcomes
  · intro hall
    cases h with
    | own _ held => exact held
    | overwritten given comes held => rw [held, comes.unique (hall _ given)]

/-! ## A line -/

namespace Record

variable {r : Record} {format correlation : Option String}

theorem names_sublist (r : Record) (format correlation : Option String) :
    ((r.front format correlation).map Prod.fst ++ r.back.map Prod.fst).Sublist standardNames := by
  rw [← List.map_append]
  exact r.sublist_standardNames format correlation

theorem front_distinct (r : Record) (format correlation : Option String) :
    ((r.front format correlation).map Prod.fst).Nodup :=
  ((List.sublist_append_left _ _).trans (names_sublist r format correlation)).nodup (by decide)

theorem front_not_back {f : String × Value} (hf : f ∈ r.front format correlation) : f.1 ∉ r.back.map Prod.fst := by
  have hdistinct := (names_sublist r format correlation).nodup (by decide)
  intro hback
  exact (List.nodup_append.mp hdistinct).2.2 _ (List.mem_map_of_mem hf) _ hback rfl

theorem mem_standardNames {f : String × Value} (hf : f ∈ r.front format correlation) : f.1 ∈ standardNames :=
  (names_sublist r format correlation).subset (List.mem_append_left _ (List.mem_map_of_mem hf))

theorem lookup_lineFields (hdistinct : (r.entry.extra.map Prod.fst).Nodup) {f : String × Value}
    (hf : f ∈ r.front format correlation) :
    (mergeFields (r.lineFields format correlation)).lookup f.1 = some ((r.entry.extra.lookup f.1).getD f.2) := by
  have hback : r.back.reverse.lookup f.1 = none := lookup_of_not_mem (by simpa using front_not_back hf)
  have hfront : (r.front format correlation).reverse.lookup f.1 = some f.2 := by
    rw [lookup_reverse (front_distinct ..), lookup_of_mem (front_distinct ..) hf]
  rw [lookup_mergeFields, lineFields, List.reverse_append, List.reverse_append, List.lookup_append, List.lookup_append,
    hback, hfront, lookup_reverse hdistinct]
  cases r.entry.extra.lookup f.1 <;> rfl

theorem front_value {f : String × Value} (hf : f ∈ r.front format correlation) :
    (∃ s, f.2 = .text s) ∨ f.2 = .null ∨ f.2 = .int r.line := by
  simp only [front, List.mem_append, List.mem_cons, List.not_mem_nil, or_false, List.mem_map] at hf
  rcases hf with (rfl | rfl | rfl | rfl | rfl | rfl | rfl) | ⟨id, -, rfl⟩
  · exact .inl ⟨_, rfl⟩
  · exact .inl ⟨_, rfl⟩
  · exact .inl ⟨_, rfl⟩
  · exact .inl ⟨_, rfl⟩
  · exact .inl ⟨_, rfl⟩
  · cases r.function with
    | none => exact .inr (.inl rfl)
    | some s => exact .inl ⟨s, rfl⟩
  · exact .inr (.inr rfl)
  · exact .inl ⟨id, rfl⟩

theorem front_shows {limit : Nat} {f : String × Value} (hf : f ∈ r.front format correlation) {w : Value}
    (h : Json.Shows limit f.2 w) : w = f.2 := by
  rcases front_value hf with ⟨s, hs⟩ | hnull | hint
  · rw [hs] at h ⊢
    exact h.unique (Json.shows_text limit s)
  · rw [hnull] at h ⊢
    exact h.unique (Json.shows_null limit)
  · rw [hint] at h ⊢
    have ⟨_, hprinted, _⟩ := h
    exact h.unique (Json.shows_int limit hprinted)

/-- What is read from the line of a record is a dictionary in which each field of the
record's own is held. -/
theorem held_of_read (hdistinct : (r.entry.extra.map Prod.fst).Nodup) {limit : Nat} {line : List Char} {d : Value}
    (hline : r.structured format correlation = .ok line) (hread : Json.readWithin (limit + 1) line = .ok d) :
    ∃ shown, d = .dict (named shown) ∧ (shown.map Prod.fst).Nodup ∧
      ∀ f ∈ r.front format correlation, Held limit r.entry.extra shown f := by
  rw [structured, fields_eq] at hline
  have hnames := nodup_mergeFields (r.lineFields format correlation)
  obtain ⟨shown, hshown, rfl⟩ := (Json.shows_named hnames).mp ⟨line, hline, hread⟩
  refine ⟨shown, rfl, Json.names_of_shows hshown ▸ hnames, fun f hf => ?_⟩
  obtain ⟨w, hheld, hcomes⟩ := Json.lookup_shown hshown (lookup_lineFields hdistinct hf)
  by_cases hname : f.1 ∈ r.entry.extra.map Prod.fst
  · obtain ⟨g, hg, hgname⟩ := List.mem_map.mp hname
    rw [← hgname, lookup_of_mem hdistinct hg] at hcomes
    exact .overwritten (hgname ▸ hg) hcomes hheld
  · rw [lookup_of_not_mem hname] at hcomes
    exact .own hname (front_shows hf hcomes ▸ hheld)

theorem exists_read {limit : Nat} {printed : List Char} (hprinted : integerText r.line = .ok printed)
    (hextra : ∀ f ∈ r.entry.extra, ∃ w, Json.Shows limit f.2 w) :
    ∃ line d, r.structured format correlation = .ok line ∧ Json.readWithin (limit + 1) line = .ok d := by
  have hall : ∀ f ∈ mergeFields (r.lineFields format correlation), ∃ w, Json.Shows limit f.2 w := by
    intro f hf
    rcases mem_lineFields hprinted (mem_mergeFields hf) with hf | ⟨hjson, hdepth⟩
    · exact hextra f hf
    · exact ⟨f.2, Json.shows_self hjson (by omega)⟩
  obtain ⟨shown, hshown⟩ := Json.exists_shown hall
  obtain ⟨line, hline, hread⟩ := (Json.shows_named (nodup_mergeFields _)).mpr ⟨shown, hshown, rfl⟩
  exact ⟨line, _, by rw [structured, fields_eq]; exact hline, hread⟩

end Record

/-! ## What is delivered -/

variable {reg reg' : Registry} {e : Entry} {h : Handler} {text : String} {ds : List Delivery}

theorem structured_of_mem_emit (hd : .line h text ∈ reg.emit e) (hjson : h ≠ .console false) :
    (Registry.record e).structured none reg.correlation = .ok text.toList := by
  cases shows_of_mem_emit hd with
  | structured _ written => rw [written, String.toList_ofList]
  | simple => exact absurd rfl hjson

theorem integerText_line (e : Entry) : integerText (Registry.record e).line = .ok ['0'] :=
  show integerText 0 = _ from if_pos (by decide +kernel)

theorem exists_line (haccepts : reg.accepts e = true) (hconsole : .console true ∈ reg.handlers) {limit : Nat}
    (hextra : ∀ f ∈ e.extra, ∃ w, Json.Shows limit f.2 w) :
    ∃ text d, .line (.console true) text ∈ reg.emit e ∧ Json.readWithin (limit + 1) text.toList = .ok d := by
  obtain ⟨line, d, hline, hread⟩ : ∃ line d, (Registry.record e).structured none reg.correlation = .ok line ∧
      Json.readWithin (limit + 1) line = .ok d := Record.exists_read (integerText_line e) hextra
  refine ⟨String.ofList line, d, ?_, by rwa [String.toList_ofList]⟩
  rw [Registry.emit, if_pos haccepts]
  refine List.mem_flatMap.mpr ⟨.console true, hconsole, ?_⟩
  simp [Registry.deliverTo, hline, Except.toOption]

theorem configuredEntry_shows (s : Registry.Settings) (limit : Nat) :
    ∀ f ∈ (Registry.configuredEntry s).extra, ∃ w, Json.Shows limit f.2 w := by
  have hfew : s.handlers.length ≤ 3 := by
    unfold Registry.Settings.handlers
    cases s.file <;> cases s.probe <;> simp
  intro f hf
  simp only [Registry.configuredEntry, List.mem_cons, List.not_mem_nil, or_false] at hf
  rcases hf with rfl | rfl | rfl
  · exact ⟨_, Json.shows_text limit _⟩
  · exact ⟨_, Json.shows_text limit _⟩
  · exact ⟨_, Json.shows_int limit (if_pos (Nat.lt_of_le_of_lt hfew (by decide +kernel)))⟩

theorem configure_of_known {s : Registry.Settings} {level : Level} (hlevel : Level.ofName? s.levelName = some level) :
    reg.configure s = .ok ({ reg with level, handlers := s.handlers, propagates := false },
      Registry.emit { reg with level, handlers := s.handlers, propagates := false } (Registry.configuredEntry s)) := by
  simp only [Registry.configure, hlevel]

theorem configure_reads {s : Registry.Settings} (hconfigure : reg.configure s = .ok (reg', ds))
    (hd : .line h text ∈ ds) (hjson : h ≠ .console false) (limit : Nat) :
    ∃ shown, Json.readWithin (limit + 1) text.toList = .ok (.dict (named shown)) ∧
      shown.lookup "level" = some (.text s.level) ∧
      ∀ f ∈ (Registry.record (Registry.configuredEntry s)).front none reg.correlation, f.1 ≠ "level" →
        shown.lookup f.1 = some f.2 := by
  obtain ⟨level, -, rfl, rfl⟩ := Registry.configure_cases hconfigure
  have hline := structured_of_mem_emit hd hjson
  obtain ⟨line, d, hwritten, hread⟩ := Record.exists_read (integerText_line _) (configuredEntry_shows s limit)
  obtain rfl := Except.ok.inj (hline.symm.trans hwritten)
  have hnames : (Registry.record (Registry.configuredEntry s)).entry.extra.map Prod.fst =
      ["level", "format_style", "handlers_count"] := rfl
  have hdistinct : ((Registry.record (Registry.configuredEntry s)).entry.extra.map Prod.fst).Nodup := by
    rw [hnames]
    decide
  obtain ⟨shown, rfl, -, hheld⟩ := Record.held_of_read hdistinct hline hread
  refine ⟨shown, hread, ?_, fun f hf hname => (hheld f hf).of_free fun hmem => ?_⟩
  · have hlevel := hheld ("level", .text Level.info.name)
      (by simp [Record.front, Registry.record, Registry.configuredEntry])
    obtain ⟨w, hcomes, hshown⟩ := hlevel.of_given (v := .text s.level) hdistinct (List.mem_cons_self ..)
    rw [hshown, hcomes.unique (Json.shows_text limit s.level)]
  · have hother : ∀ n ∈ standardNames, n ∈ ["level", "format_style", "handlers_count"] → n = "level" := by decide
    exact hname (hother f.1 (Record.mem_standardNames hf) (hnames ▸ hmem))

theorem log_reads {name : Option String} {level : Level} {message : String} {extra : List (String × Value)}
    (hdistinct : (extra.map Prod.fst).Nodup) (hlog : (reg.log name level message extra).2 = .ok ds)
    (hd : .line h text ∈ ds) (hjson : h ≠ .console false) {limit : Nat} {d : Value}
    (hread : Json.readWithin (limit + 1) text.toList = .ok d) :
    ∃ shown, d = .dict (named shown) ∧ shown.lookup "level" = some (.text level.name) ∧
      shown.lookup "logger" = some (.text (reg.get name).2) ∧ shown.lookup "message" = some (.text message) := by
  cases hreserved : extra.find? (Registry.reserved.contains ·.1) with
  | some field =>
    rw [log_of_reserved hreserved] at hlog
    cases hlog
  | none =>
    rw [log_of_free hreserved] at hlog
    obtain rfl := Except.ok.inj hlog
    obtain ⟨shown, rfl, -, hheld⟩ := Record.held_of_read hdistinct (structured_of_mem_emit hd hjson) hread
    have hfree : ∀ n ∈ Registry.reserved, n ∉ extra.map Prod.fst := by
      intro n hn hmem
      obtain ⟨f, hf, rfl⟩ := List.mem_map.mp hmem
      exact absurd (List.contains_iff_mem.mpr hn) (by simpa using List.find?_eq_none.mp hreserved f hf)
    have hown : ∀ n v, n ∈ Registry.reserved → (n, v) ∈ Record.front (Registry.record
        { level, logger := (reg.get name).2, message, extra }) none (reg.get name).1.correlation →
        shown.lookup n = some v :=
      fun n v hn hf => (hheld (n, v) hf).of_free (hfree n hn)
    refine ⟨shown, rfl, hown _ _ (by decide) ?_, hown _ _ (by decide) ?_, hown _ _ (by decide) ?_⟩
    all_goals simp [Record.front, Registry.record]

/-- What is read from the line of a record is a dictionary in which each field of the
record's own is held, as it is unless an extra field of its name comes back as something
else; and something is read whenever the extra fields come back. The record that tells
of a configuration comes with the level that was asked for in the place of its own, and
otherwise as it is. Of what is logged with extra fields, the level, the logger and the
message come as they are. -/
theorem lines_hold (r : Record) (format correlation : Option String) :
    ((r.entry.extra.map Prod.fst).Nodup →
      (∀ limit line d, r.structured format correlation = .ok line → Json.readWithin (limit + 1) line = .ok d →
        ∃ shown, d = .dict (named shown) ∧ (shown.map Prod.fst).Nodup ∧
          ∀ f ∈ r.front format correlation, Held limit r.entry.extra shown f ∧
            (shown.lookup f.1 = some f.2 ↔ ∀ v, (f.1, v) ∈ r.entry.extra → Json.Shows limit v f.2)) ∧
      ∀ limit printed, integerText r.line = .ok printed → (∀ f ∈ r.entry.extra, ∃ w, Json.Shows limit f.2 w) →
        ∃ line d, r.structured format correlation = .ok line ∧ Json.readWithin (limit + 1) line = .ok d) ∧
    ∀ (reg : Registry) (ds : List Delivery) h text, .line h text ∈ ds → h ≠ .console false →
      (∀ s reg', reg.configure s = .ok (reg', ds) → ∀ limit, ∃ shown,
        Json.readWithin (limit + 1) text.toList = .ok (.dict (named shown)) ∧
          shown.lookup "level" = some (.text s.level) ∧
          ∀ f ∈ (Registry.record (Registry.configuredEntry s)).front none reg.correlation, f.1 ≠ "level" →
            shown.lookup f.1 = some f.2) ∧
      ∀ name level message extra, (extra.map Prod.fst).Nodup → (reg.log name level message extra).2 = .ok ds →
        ∀ limit d, Json.readWithin (limit + 1) text.toList = .ok d → ∃ shown, d = .dict (named shown) ∧
          shown.lookup "level" = some (.text level.name) ∧ shown.lookup "logger" = some (.text (reg.get name).2) ∧
          shown.lookup "message" = some (.text message) := by
  refine ⟨fun hdistinct => ⟨fun limit line d hline hread => ?_, fun limit printed hprinted hextra => ?_⟩,
    fun reg ds h text hd hjson => ⟨fun s reg' hconfigure limit => ?_,
      fun name level message extra hdistinct hlog limit d hread => ?_⟩⟩
  · obtain ⟨shown, hd, hnames, hheld⟩ := Record.held_of_read hdistinct hline hread
    exact ⟨shown, hd, hnames, fun f hf => ⟨hheld f hf, (hheld f hf).kept_iff hdistinct⟩⟩
  · exact Record.exists_read hprinted hextra
  · exact configure_reads hconfigure hd hjson limit
  · exact log_reads hdistinct hlog hd hjson hread

/-- A record whose module goes under in an extra field, and a log that is configured and used. -/
theorem lines_hold_used :
    let e : Entry :=
      { level := Level.error, logger := "a", message := "b", extra := [("module", .text "x"), ("tree", .list [.null])] }
    let r : Record := { Registry.record e with exception := some "E" }
    let s : Registry.Settings := { level := "Debug" }
    let reg : Registry := { Registry.initial with level := Level.debug, handlers := s.handlers, propagates := false }
    (∃ line shown, r.structured none (some "id") = .ok line ∧ Json.read line = .ok (.dict (named shown)) ∧
      shown.lookup "module" = some (.text "x") ∧ shown.lookup "correlation_id" = some (.text "id")) ∧
    (∃ ds text shown, Registry.initial.configure s = .ok (reg, ds) ∧ .line (.console true) text ∈ ds ∧
      Json.read text.toList = .ok (.dict (named shown)) ∧ shown.lookup "level" = some (.text "Debug") ∧
      shown.lookup "message" = some (.text "sqlprep logging configured")) ∧
    ∃ ds text shown, (reg.log (some "db") Level.warning "m" e.extra).2 = .ok ds ∧ .line (.console true) text ∈ ds ∧
      Json.read text.toList = .ok (.dict (named shown)) ∧ shown.lookup "logger" = some (.text "sqlprep.db") := by
  intro e r s reg
  have hdistinct : (e.extra.map Prod.fst).Nodup := by decide
  have hextra : ∀ f ∈ e.extra, ∃ w, Json.Shows 989 f.2 w := by
    intro f hf
    rcases List.mem_pair.mp hf with rfl | rfl
    · exact ⟨_, Json.shows_text _ _⟩
    · exact ⟨_, Json.shows_list.mpr ⟨[.null], .cons (Json.shows_null _) .nil, rfl⟩⟩
  refine ⟨?_, ?_, ?_⟩
  · obtain ⟨hheld, hexists⟩ := (lines_hold r none (some "id")).1 hdistinct
    obtain ⟨line, d, hline, hread⟩ := hexists 989 _ (integerText_line e) hextra
    obtain ⟨shown, rfl, -, hheld⟩ := hheld _ _ _ hline hread
    have hmodule := hheld ("module", .text "m") (by simp [Record.front, r, Registry.record])
    have hid := hheld ("correlation_id", .text "id") (by simp [Record.front, Option.filter])
    obtain ⟨w, hcomes, hw⟩ := hmodule.1.of_given hdistinct (List.mem_cons_self ..)
    refine ⟨line, shown, hline, hread, ?_, hid.1.of_free (by decide)⟩
    rw [hw, hcomes.unique (Json.shows_text _ _)]
  · have hconfigure : Registry.initial.configure s = .ok (reg, reg.emit (Registry.configuredEntry s)) :=
      configure_of_known (by decide +kernel)
    obtain ⟨text, -, hmem, -⟩ := @exists_line reg _ (by decide +kernel) (by decide) _ (configuredEntry_shows s 989)
    obtain ⟨shown, hread, hlevel, hothers⟩ := ((lines_hold r none none).2 _ _ _ _ hmem (by decide)).1 _ _ hconfigure 989
    refine ⟨_, text, shown, hconfigure, hmem, hread, hlevel, ?_⟩
    exact hothers ("message", .text "sqlprep logging configured")
      (by simp [Record.front, Registry.record, Registry.configuredEntry]) (by decide)
  · have hlog : (reg.log (some "db") Level.warning "m" e.extra).2 = .ok _ := log_of_free rfl
    obtain ⟨text, d, hmem, hread⟩ := @exists_line (reg.get (some "db")).1
      { level := Level.warning, logger := "sqlprep.db", message := "m", extra := e.extra }
      (by decide +kernel) (by decide) _ hextra
    obtain ⟨shown, rfl, -, hlogger, -⟩ :=
      ((lines_hold r none none).2 _ _ _ _ hmem (by decide)).2 _ _ _ _ hdistinct hlog _ _ hread
    exact ⟨_, text, shown, hlog, hmem, hread, hlogger⟩

/-- The first line of a log that is configured for debugging is of no such level. -/
theorem level_replaced :
    ∃ reg ds text shown, Registry.initial.configure { level := "DEBUG" } = .ok (reg, ds) ∧
      .line (.console true) text ∈ ds ∧ Json.read text.toList = .ok (.dict (named shown)) ∧
      shown.lookup "level" = some (.text "DEBUG") ∧
      (Registry.configuredEntry { level := "DEBUG" }).level.name = "INFO" := by
  let s : Registry.Settings := { level := "DEBUG" }
  let reg : Registry := { Registry.initial with level := Level.debug, handlers := s.handlers, propagates := false }
  have hconfigure : Registry.initial.configure s = .ok (reg, reg.emit (Registry.configuredEntry s)) :=
    configure_of_known (by decide +kernel)
  obtain ⟨text, -, hmem, -⟩ := @exists_line reg _ (by decide +kernel) (by decide) _ (configuredEntry_shows s 989)
  obtain ⟨shown, hread, hlevel, -⟩ := configure_reads hconfigure hmem (by decide) 989
  exact ⟨reg, _, text, shown, hconfigure, hmem, hread, hlevel, rfl⟩

end Prepared.Log
