import Prepared.Log.Record
import Prepared.Proofs.Json.Reading

/-!
# Structured lines

A record is written as one line of JSON. Main statement: whatever the texts in
it, the line has no line break in it, and what is read from it is the record,
field by field and in order.
-/

namespace Prepared.Log

open Number Text

/-- The names that an extra field must not have, in the order of their fields. -/
def standardNames : List String :=
  ["timestamp", "level", "logger", "message", "module", "function", "line", "correlation_id", "exception"]

namespace Record

variable (r : Record) (format correlation : Option String)

/-- The fields before the extra ones. There is a correlation id only if it is not empty. -/
def front : List (String × Value) :=
  [("timestamp", .text (String.ofList (r.timestamp format))),
    ("level", .text r.entry.level.name),
    ("logger", .text r.entry.logger),
    ("message", .text r.entry.message),
    ("module", .text r.module),
    ("function", r.function.elim .null .text),
    ("line", .int r.line)] ++
  (correlation.filter (· ≠ "")).toList.map fun id => ("correlation_id", .text id)

def back : List (String × Value) := r.exception.toList.map fun e => ("exception", .text e)

def lineFields : List (String × Value) := r.front format correlation ++ r.entry.extra ++ r.back

theorem sublist_standardNames : ((r.front format correlation ++ r.back).map Prod.fst).Sublist standardNames := by
  have hid : (((correlation.filter (· ≠ "")).toList.map fun id => ("correlation_id", Value.text id)).map
      Prod.fst).Sublist ["correlation_id"] := by
    cases correlation.filter (· ≠ "") with
    | none => exact List.nil_sublist _
    | some id => exact List.Sublist.refl _
  have hback : (r.back.map Prod.fst).Sublist ["exception"] := by
    unfold back
    cases r.exception with
    | none => exact List.nil_sublist _
    | some e => exact List.Sublist.refl _
  rw [front, List.map_append, List.map_append]
  exact ((List.Sublist.refl _).append hid).append hback

theorem lineFields_distinct (hdistinct : (r.entry.extra.map Prod.fst).Nodup)
    (hfree : ∀ f ∈ r.entry.extra, f.1 ∉ standardNames) : ((r.lineFields format correlation).map Prod.fst).Nodup := by
  have hsub := r.sublist_standardNames format correlation
  have hown : ((r.front format correlation ++ r.back).map Prod.fst).Nodup := hsub.nodup (by decide)
  have hperm : ((r.lineFields format correlation).map Prod.fst).Perm
      (r.entry.extra.map Prod.fst ++ (r.front format correlation ++ r.back).map Prod.fst) := by
    rw [← List.map_append, lineFields, ← List.append_assoc]
    exact (List.perm_append_comm.append_right _).map _
  rw [hperm.nodup_iff, List.nodup_append]
  refine ⟨hdistinct, hown, ?_⟩
  rintro _ hextra name hname rfl
  obtain ⟨f, hf, rfl⟩ := List.mem_map.mp hextra
  exact hfree f hf (hsub.subset hname)

theorem fields_eq : r.fields format correlation = named (mergeFields (r.lineFields format correlation)) := by
  have hid : correlationField correlation =
      named ((correlation.filter (· ≠ "")).toList.map fun id => ("correlation_id", .text id)) := by
    cases correlation with
    | none => rfl
    | some id => by_cases h : id = "" <;> simp [correlationField, textField, named, h, Option.filter]
  have hback : r.exception.toList.map (textField "exception") = named r.back := by
    unfold back
    cases r.exception <;> rfl
  have hall : r.ownFields format ++ correlationField correlation ++ named r.entry.extra ++
      r.exception.toList.map (textField "exception") = named (r.lineFields format correlation) := by
    rw [hid, hback, lineFields, front]
    simp only [named, List.map_append]
    rfl
  calc r.fields format correlation
      = (r.ownFields format ++ correlationField correlation ++ named r.entry.extra ++
          r.exception.toList.map (textField "exception")).foldl (fun es e => Value.insertEntry es e.1 e.2) [] := rfl
    _ = named (mergeFields (r.lineFields format correlation)) := by
        rw [hall]
        exact foldl_insertEntry [] _

theorem fields_eq_named (hdistinct : ((r.lineFields format correlation).map Prod.fst).Nodup) :
    r.fields format correlation = named (r.lineFields format correlation) := by
  rw [fields_eq, mergeFields_of_distinct hdistinct]

variable {r format correlation}

theorem mem_lineFields {printed : List Char} (hline : integerText r.line = .ok printed) {f : String × Value}
    (hf : f ∈ r.lineFields format correlation) : f ∈ r.entry.extra ∨ f.2.IsJson ∧ f.2.depth = 0 := by
  have htext : ∀ s, (Value.text s).IsJson ∧ (Value.text s).depth = 0 := fun s => ⟨.text s, rfl⟩
  have hfunction : (r.function.elim Value.null Value.text).IsJson ∧
      (r.function.elim Value.null Value.text).depth = 0 := by
    cases r.function with
    | none => exact ⟨.null, rfl⟩
    | some s => exact htext s
  simp only [lineFields, front, back, List.mem_append, List.mem_cons, List.not_mem_nil, or_false, List.mem_map] at hf
  rcases hf with ((hf | ⟨id, -, rfl⟩) | hf) | ⟨e, -, rfl⟩
  · right
    rcases hf with rfl | rfl | rfl | rfl | rfl | rfl | rfl
    · exact htext _
    · exact htext _
    · exact htext _
    · exact htext _
    · exact htext _
    · exact hfunction
    · exact ⟨.int hline, rfl⟩
  · exact .inr (htext id)
  · exact .inl hf
  · exact .inr (htext e)

/-- A record with extra fields of JSON's own, under names of their own, is written as a
line without controls, from which any reader that allows for enough open collections
gets the record's fields back: all of them, in order and as they were. `Json.read`
allows for `Json.depthLimit` of them. -/
theorem structured_reads {printed : List Char} (hline : integerText r.line = .ok printed)
    (hextra : ∀ f ∈ r.entry.extra, f.2.IsJson) (hdistinct : (r.entry.extra.map Prod.fst).Nodup)
    (hfree : ∀ f ∈ r.entry.extra, f.1 ∉ standardNames) :
    ∃ line, r.structured format correlation = .ok line ∧ (∀ c ∈ line, 0x20 ≤ c.toNat) ∧
      ∀ limit, 0 < limit → (∀ f ∈ r.entry.extra, f.2.depth < limit) →
        Json.readWithin limit line = .ok (.dict (named (r.lineFields format correlation))) := by
  have hnames := r.lineFields_distinct format correlation hdistinct hfree
  have hjson : ∀ f ∈ r.lineFields format correlation, f.2.IsJson := by
    intro f hf
    rcases mem_lineFields hline hf with hf | ⟨hf, -⟩
    · exact hextra f hf
    · exact hf
  obtain ⟨line, hwrite, hvisible, hread⟩ := Json.readWithin_write (.dict hnames hjson)
  refine ⟨line, ?_, hvisible, ?_⟩
  · rw [structured, r.fields_eq_named format correlation hnames]
    exact hwrite
  · intro limit hpos hdepth
    refine hread limit (depth_named hpos fun f hf => ?_)
    rcases mem_lineFields hline hf with hf | ⟨-, hzero⟩
    · exact hdepth f hf
    · rw [hzero]
      exact hpos

/-- A message that would go on as a line of its own, and collections in one another. -/
theorem structured_reads_nested :
    let r : Record :=
      { entry :=
          { level := Level.info, logger := "sqlprep.db", message := "a\"\n\u0001",
            extra :=
              [("sql", .text "'\\\t"),
                ("tree", .list [.int (-10), .dict (named [("", .null), ("𝄞", .list [])])])] }
        seconds := 0, milliseconds := 0, module := "m", function := none, line := 7, exception := some "E\r" }
    integerText r.line = .ok ['7'] ∧ (∀ f ∈ r.entry.extra, f.2.IsJson) ∧ (r.entry.extra.map Prod.fst).Nodup ∧
      (∀ f ∈ r.entry.extra, f.1 ∉ standardNames) ∧
      ∃ line, r.structured none (some "id") = .ok line ∧ '\n' ∉ line ∧
        Json.read line = .ok (.dict (named (r.lineFields none (some "id")))) := by
  intro r
  have hline : integerText r.line = .ok ['7'] := show integerText 7 = _ from if_pos (by decide +kernel)
  have hint : integerText (-10) = .ok ['-', '1', '0'] := if_pos (by decide +kernel)
  have hdict : (Value.dict (named [("", .null), ("𝄞", .list [])])).IsJson := by
    refine .dict (by decide) fun f hf => ?_
    rcases List.mem_pair.mp hf with rfl | rfl
    · exact .null
    · exact .list fun v hv => absurd hv List.not_mem_nil
  have hextra : ∀ f ∈ r.entry.extra, f.2.IsJson := by
    intro f hf
    rcases List.mem_pair.mp hf with rfl | rfl
    · exact .text _
    · refine .list fun v hv => ?_
      rcases List.mem_pair.mp hv with rfl | rfl
      · exact .int hint
      · exact hdict
  have hdistinct : (r.entry.extra.map Prod.fst).Nodup := by decide
  have hfree : ∀ f ∈ r.entry.extra, f.1 ∉ standardNames := by decide
  obtain ⟨line, hwrite, hvisible, hread⟩ := @structured_reads r none (some "id") _ hline hextra hdistinct hfree
  refine ⟨hline, hextra, hdistinct, hfree, line, hwrite, ?_, hread Json.depthLimit (by decide) (by decide)⟩
  intro hbreak
  exact absurd (hvisible _ hbreak) (by decide)

end Record

end Prepared.Log
