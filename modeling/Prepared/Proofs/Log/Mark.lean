import Prepared.Proofs.Log.Delivery

/-!
# Marks

A logger that is got by its name carries a filter from then on, and never a
second one; the filter marks its records with the id that is current. Main
statement: which loggers carry a filter depends on nothing but the names that
have been asked for, and what a record is marked with on nothing but its logger
and the id that was set last.
-/

namespace Prepared.Log

open Registry

/-! ## What has been asked for -/

def Request.name? : Request → Option String
  | .get name | .log name .. => name
  | _ => none

def Request.id? : Request → Option (Option String)
  | .correlate id => some id
  | _ => none

def Asked (qs : List Request) (logger : String) : Prop :=
  logger ∈ Registry.initial.filtered ∨ ∃ q ∈ qs, q.name?.map fullName = some logger

instance (qs : List Request) (logger : String) : Decidable (Asked qs logger) := inferInstanceAs (Decidable (_ ∨ _))

def currentId (qs : List Request) : Option String := (qs.filterMap Request.id?).getLast?.join

/-- What the records of a logger are marked with: the id that was set last, unless it is
empty or the logger carries no filter. -/
def markAfter (qs : List Request) (logger : String) : Option String :=
  if Asked qs logger then (currentId qs).filter (· != "") else none

theorem asked_snoc {qs : List Request} {q : Request} {logger : String} :
    Asked (qs ++ [q]) logger ↔ Asked qs logger ∨ q.name?.map fullName = some logger := by
  simp [Asked, or_assoc, or_and_right, exists_or]

theorem currentId_snoc (qs : List Request) (q : Request) :
    currentId (qs ++ [q]) = q.id?.getD (currentId qs) := by
  unfold currentId
  cases hq : q.id? with
  | none => simp [hq]
  | some id => simp [hq]

theorem fullName_eq_root {name : String} : fullName name = Logger.root ↔ name = Logger.root := by
  unfold fullName
  split
  · rfl
  · rename_i h
    -- Below the root there are only longer names.
    refine ⟨fun heq => ?_, fun heq => absurd ?_ h⟩
    · have hlen := congrArg (fun s : String => s.toList.length) heq
      simp at hlen
    · rw [heq]
      exact List.isPrefixOf_iff_prefix.mpr List.prefix_rfl

/-! ## Filters -/

variable {r : Registry} {qs : List Request}

theorem get_filtered (r : Registry) (name : Option String) :
    (r.get name).1.filtered = name.elim r.filtered fun s => insertName r.filtered (fullName s) := by
  cases name <;> rfl

theorem get_correlation (r : Registry) (name : Option String) : (r.get name).1.correlation = r.correlation := by
  cases name <;> rfl

theorem handle_cases (r : Registry) (q : Request) :
    (r.handle q).1.filtered = (q.name?.elim r.filtered fun s => insertName r.filtered (fullName s)) ∧
      (r.handle q).1.correlation = q.id?.getD r.correlation := by
  cases q with
  | get name => exact ⟨get_filtered r name, get_correlation r name⟩
  | configure t =>
    cases hc : r.configure t with
    | error f => simp [Registry.handle, hc, Request.name?, Request.id?]
    | ok p =>
      obtain ⟨level, -, hr', -⟩ := configure_cases hc
      simp [Registry.handle, hc, hr', Request.name?, Request.id?]
  | correlate id => exact ⟨rfl, rfl⟩
  | log name level message extra =>
    rw [Registry.handle, log_registry]
    exact ⟨get_filtered r name, get_correlation r name⟩
  | note entries => exact ⟨rfl, rfl⟩

theorem nodup_insertName {names : List String} (h : names.Nodup) (name : String) : (insertName names name).Nodup := by
  unfold insertName
  split
  · exact h
  · rename_i hname
    refine List.nodup_append.mpr ⟨h, by simp, ?_⟩
    rintro x hx _ hy rfl
    exact hname (List.contains_iff_mem.mpr (List.mem_singleton.mp hy ▸ hx))

structure Registry.CarriesAfter (r : Registry) (qs : List Request) : Prop where
  nodup : r.filtered.Nodup
  mem_iff : ∀ logger, logger ∈ r.filtered ↔ Asked qs logger
  correlation : r.correlation = currentId qs

theorem Registry.CarriesAfter.handle (h : r.CarriesAfter qs) (q : Request) :
    (r.handle q).1.CarriesAfter (qs ++ [q]) := by
  obtain ⟨hfiltered, hcorrelation⟩ := handle_cases r q
  refine ⟨?_, fun logger => ?_, ?_⟩
  · rw [hfiltered]
    cases q.name? with
    | none => exact h.nodup
    | some s => exact nodup_insertName h.nodup _
  · rw [hfiltered, asked_snoc, ← h.mem_iff]
    cases q.name? with
    | none => simp
    | some s => simp [mem_insertName, eq_comm]
  · rw [hcorrelation, currentId_snoc, h.correlation]

theorem follow_carries (qs : List Request) : (Registry.initial.follow qs).CarriesAfter qs := by
  induction qs using List.reverseRecOn with
  | nil => exact ⟨by decide +kernel, fun logger => by simp [Asked, follow], rfl⟩
  | append_singleton qs q ih =>
    rw [follow_snoc]
    exact ih.handle q

theorem Registry.CarriesAfter.filterCount (h : r.CarriesAfter qs) (logger : String) :
    r.filterCount logger = if Asked qs logger then 1 else 0 := by
  rw [Registry.filterCount, h.nodup.count]
  exact if_congr (h.mem_iff logger) rfl rfl

theorem Registry.CarriesAfter.mark (h : r.CarriesAfter qs) (logger : String) : r.mark logger = markAfter qs logger :=
  if_congr (List.contains_iff_mem.trans (h.mem_iff logger)) (congrArg _ h.correlation) rfl

/-! ## Deliveries -/

theorem Registry.CarriesAfter.shows (h : r.CarriesAfter qs) {e : Entry} {d : Delivery} (hd : d.Shows r e) :
    match d with
    | .record e mark => mark = markAfter qs e.logger
    | .line _ text =>
      text.toList = (record e).simple ∨ (record e).structured none (currentId qs) = .ok text.toList := by
  cases hd with
  | structured _ written => exact .inr (by rw [← h.correlation, written, String.toList_ofList])
  | simple => exact .inl String.toList_ofList
  | kept => exact h.mark e.logger

/-- No logger carries two filters, and each that was ever got by its name carries one;
so does the root exactly if it was got by its own name. Every record is marked with the
id that was set last before it, if that is not empty and its logger carries a filter,
and every line of JSON is written under that id. -/
theorem follow_marks (qs : List Request) :
    let r := Registry.initial.follow qs
    (∀ logger, r.filterCount logger ≤ 1 ∧ (r.filterCount logger = 1 ↔ Asked qs logger)) ∧
    (∀ q ∈ qs, ∀ name, q.name? = some name → r.filterCount (fullName name) = 1) ∧
    (r.filterCount Logger.root = 1 ↔ ∃ q ∈ qs, q.name? = some Logger.root) ∧
    ∀ q ds, (r.handle q).2 = .ok ds →
      (∀ e mark, .record e mark ∈ ds → mark = markAfter (qs ++ [q]) e.logger) ∧
      ∀ handler text, .line handler text ∈ ds →
        ∃ e, text.toList = (record e).simple ∨
          (record e).structured none (currentId (qs ++ [q])) = .ok text.toList := by
  intro r
  have hcarries : r.CarriesAfter qs := follow_carries qs
  have hcount : ∀ logger, r.filterCount logger = 1 ↔ Asked qs logger := by
    intro logger
    rw [hcarries.filterCount]
    split <;> simp [*]
  refine ⟨fun logger => ⟨?_, hcount logger⟩, fun q hq name hname => ?_, ?_, fun q ds hds => ⟨?_, ?_⟩⟩
  · rw [hcarries.filterCount]
    split <;> omega
  · exact (hcount _).mpr (.inr ⟨q, hq, by rw [hname]; rfl⟩)
  · have hroot : Logger.root ∉ Registry.initial.filtered := by decide +kernel
    simp [hcount, Asked, hroot, fullName_eq_root]
  · intro e mark hd
    obtain ⟨e', hd⟩ := exists_emit_of_handle hds hd
    exact (hcarries.handle q).shows (shows_of_mem_emit hd)
  · intro handler text hd
    obtain ⟨e', hd⟩ := exists_emit_of_handle hds hd
    exact ⟨e', (hcarries.handle q).shows (shows_of_mem_emit hd)⟩

/-- A logger that is got twice by two spellings of its name, under an id that is not the first. -/
theorem follow_marks_latest :
    let qs : List Request :=
      [.configure { style := "simple", probe := true }, .correlate (some "a"), .get (some "db"),
        .get (some "sqlprep.db"), .get none, .correlate (some "b")]
    let q : Request := .log (some "db") Level.warning "m" []
    let e : Entry := { level := Level.warning, logger := "sqlprep.db", message := "m" }
    let r := Registry.initial.follow qs
    (∃ ds, (r.handle q).2 = .ok ds ∧ .record e (some "b") ∈ ds ∧ some "b" = markAfter (qs ++ [q]) e.logger) ∧
      r.filterCount (fullName "db") = 1 ∧ r.filterCount Logger.root ≤ 1 ∧ ¬ r.filterCount Logger.root = 1 := by
  intro qs q e r
  obtain ⟨hcount, hnamed, hroot, hmarks⟩ := follow_marks qs
  have hds : ∃ text, (r.handle q).2 = .ok [.line (.console false) text, .record e (some "b")] := ⟨_, rfl⟩
  obtain ⟨text, hds⟩ := hds
  have hmem : Delivery.record e (some "b") ∈ [.line (.console false) text, .record e (some "b")] := by simp
  refine ⟨⟨_, hds, hmem, (hmarks q _ hds).1 e _ hmem⟩, hnamed (.get (some "db")) (by simp [qs]) "db" rfl,
    (hcount _).1, fun h => ?_⟩
  obtain ⟨q', hq', hname⟩ := hroot.mp h
  simp only [qs, List.mem_cons, List.not_mem_nil, or_false] at hq'
  rcases hq' with rfl | rfl | rfl | rfl | rfl | rfl <;> simp [Request.name?, Logger.root] at hname

end Prepared.Log
