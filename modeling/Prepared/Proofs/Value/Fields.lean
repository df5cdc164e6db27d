import Mathlib.Data.List.Nodup
import Prepared.Value.Equality

/-!
# Fields by name

The entries of a dictionary whose keys are texts are fields. A field that is put among
others takes the place of the one of its name. Main statement: of fields put in one
after the other each name is left once, with the value that came last under it.
-/

namespace Prepared

def named (fields : List (String × Value)) : List (Value × Value) := fields.map fun f => (.text f.1, f.2)

def putField (fields : List (String × Value)) (f : String × Value) : List (String × Value) :=
  match fields with
  | [] => [f]
  | g :: gs => if g.1 = f.1 then f :: gs else g :: putField gs f

def mergeFields (fields : List (String × Value)) : List (String × Value) := fields.foldl putField []

variable {fields done : List (String × Value)} {f : String × Value}

theorem insertEntry_named (fields : List (String × Value)) (f : String × Value) :
    Value.insertEntry (named fields) (.text f.1) f.2 = named (putField fields f) := by
  induction fields with
  | nil => rfl
  | cons g gs ih =>
    change Value.insertEntry ((.text g.1, g.2) :: named gs) (.text f.1) f.2 = _
    rw [Value.insertEntry, ih, putField]
    by_cases h : g.1 = f.1
    · rw [if_pos h, if_pos (by simp [Value.isEqual, Value.equal, Except.toOption, h])]
      exact congrArg (fun n => (Value.text n, f.2) :: named gs) h
    · rw [if_neg h, if_neg (by simp [Value.isEqual, Value.equal, Except.toOption, h])]
      rfl

theorem foldl_insertEntry (done fields : List (String × Value)) :
    (named fields).foldl (fun es e => Value.insertEntry es e.1 e.2) (named done) =
      named (fields.foldl putField done) := by
  induction fields generalizing done with
  | nil => rfl
  | cons f fs ih =>
    change (named fs).foldl _ (Value.insertEntry (named done) (.text f.1) f.2) = _
    rw [insertEntry_named, ih, List.foldl_cons]

theorem dictOf_named (fields : List (String × Value)) :
    Value.dictOf (named fields) = .dict (named (mergeFields fields)) :=
  congrArg Value.dict (foldl_insertEntry [] fields)

/-! ## Distinct names -/

theorem putField_of_fresh (h : f.1 ∉ fields.map Prod.fst) : putField fields f = fields ++ [f] := by
  induction fields with
  | nil => rfl
  | cons g gs ih =>
    rw [List.map_cons, List.mem_cons, not_or] at h
    rw [putField, if_neg (Ne.symm h.1), ih h.2]
    rfl

theorem foldl_putField (h : ((done ++ fields).map Prod.fst).Nodup) : fields.foldl putField done = done ++ fields := by
  induction fields generalizing done with
  | nil => simp
  | cons f fs ih =>
    have hfresh : f.1 ∉ done.map Prod.fst := by
      rw [List.map_append, List.nodup_append] at h
      intro hm
      exact h.2.2 f.1 hm f.1 (List.mem_cons_self ..) rfl
    rw [List.foldl_cons, putField_of_fresh hfresh, ih (by simpa using h), List.append_assoc]
    rfl

theorem mergeFields_of_distinct (h : (fields.map Prod.fst).Nodup) : mergeFields fields = fields := foldl_putField h

/-! ## Names and values -/

theorem names_putField (h : f.1 ∈ fields.map Prod.fst) : (putField fields f).map Prod.fst = fields.map Prod.fst := by
  induction fields with
  | nil => cases h
  | cons g gs ih =>
    rw [putField]
    split
    · rename_i heq
      rw [List.map_cons, List.map_cons, heq]
    · rename_i hne
      have hgs : f.1 ∈ gs.map Prod.fst := (List.mem_cons.mp h).resolve_left (Ne.symm hne)
      rw [List.map_cons, List.map_cons, ih hgs]

theorem nodup_putField (h : (fields.map Prod.fst).Nodup) (f : String × Value) :
    ((putField fields f).map Prod.fst).Nodup := by
  by_cases hf : f.1 ∈ fields.map Prod.fst
  · rwa [names_putField hf]
  · rw [putField_of_fresh hf, List.map_append, List.nodup_append]
    exact ⟨h, List.nodup_singleton _, fun n hn m hm heq => hf (List.mem_singleton.mp hm ▸ heq ▸ hn)⟩

theorem nodup_mergeFields (fields : List (String × Value)) : ((mergeFields fields).map Prod.fst).Nodup := by
  have hfold : ∀ done : List (String × Value), (done.map Prod.fst).Nodup →
      ((fields.foldl putField done).map Prod.fst).Nodup := by
    induction fields with
    | nil => exact fun _ h => h
    | cons f fs ih => exact fun done h => ih _ (nodup_putField h f)
  exact hfold [] List.nodup_nil

theorem mem_putField {g : String × Value} (h : g ∈ putField fields f) : g = f ∨ g ∈ fields := by
  induction fields with
  | nil => exact .inl (List.mem_singleton.mp h)
  | cons k ks ih =>
    rw [putField] at h
    split at h
    · exact (List.mem_cons.mp h).imp_right (List.mem_cons_of_mem _)
    · rcases List.mem_cons.mp h with rfl | h
      · exact .inr (List.mem_cons_self ..)
      · exact (ih h).imp_right (List.mem_cons_of_mem _)

theorem mem_mergeFields {fields : List (String × Value)} (h : f ∈ mergeFields fields) : f ∈ fields := by
  have hfold : ∀ done : List (String × Value), f ∈ fields.foldl putField done → f ∈ done ∨ f ∈ fields := by
    clear h
    induction fields with
    | nil => exact fun _ => .inl
    | cons g gs ih =>
      intro done h
      rcases ih _ h with h | h
      · rcases mem_putField h with rfl | h
        · exact .inr (List.mem_cons_self ..)
        · exact .inl h
      · exact .inr (List.mem_cons_of_mem _ h)
  exact (hfold [] h).resolve_left List.not_mem_nil

theorem lookup_field (f : String × Value) (fields : List (String × Value)) (name : String) :
    (f :: fields).lookup name = if name = f.1 then some f.2 else fields.lookup name := by
  change List.lookup name ((f.1, f.2) :: fields) = _
  rw [List.lookup_cons]
  by_cases h : name = f.1
  · rw [if_pos h, beq_iff_eq.mpr h]
  · rw [if_neg h, beq_eq_false_iff_ne.mpr h]

theorem lookup_putField (fields : List (String × Value)) (f : String × Value) (name : String) :
    (putField fields f).lookup name = if name = f.1 then some f.2 else fields.lookup name := by
  induction fields with
  | nil => exact lookup_field f [] name
  | cons g gs ih =>
    rw [putField]
    split
    · rename_i heq
      rw [lookup_field, lookup_field, heq]
      split <;> rfl
    · rename_i hne
      rw [lookup_field, lookup_field, ih]
      split
      · rename_i hg
        rw [if_neg (hg ▸ hne)]
      · rfl

theorem lookup_mergeFields (fields : List (String × Value)) (name : String) :
    (mergeFields fields).lookup name = fields.reverse.lookup name := by
  have hfold : ∀ done : List (String × Value),
      (fields.foldl putField done).lookup name = (fields.reverse.lookup name).or (done.lookup name) := by
    induction fields with
    | nil => exact fun _ => rfl
    | cons f fs ih =>
      intro done
      rw [List.foldl_cons, ih, lookup_putField, List.reverse_cons, List.lookup_append, Option.or_assoc, lookup_field]
      split <;> rfl
  rw [mergeFields, hfold]
  exact Option.or_none

theorem lookup_of_mem (hdistinct : (fields.map Prod.fst).Nodup) (hf : f ∈ fields) : fields.lookup f.1 = some f.2 := by
  induction fields with
  | nil => cases hf
  | cons g gs ih =>
    rw [List.map_cons, List.nodup_cons] at hdistinct
    rw [lookup_field]
    rcases List.mem_cons.mp hf with rfl | hf
    · exact if_pos rfl
    · have hne : f.1 ≠ g.1 := fun heq => hdistinct.1 (heq ▸ List.mem_map_of_mem hf)
      rw [if_neg hne, ih hdistinct.2 hf]

theorem lookup_of_not_mem {name : String} (h : name ∉ fields.map Prod.fst) : fields.lookup name = none := by
  induction fields with
  | nil => rfl
  | cons g gs ih =>
    rw [List.map_cons, List.mem_cons, not_or] at h
    rw [lookup_field, if_neg h.1, ih h.2]

theorem lookup_reverse (hdistinct : (fields.map Prod.fst).Nodup) (name : String) :
    fields.reverse.lookup name = fields.lookup name := by
  by_cases hname : name ∈ fields.map Prod.fst
  · obtain ⟨f, hf, rfl⟩ := List.mem_map.mp hname
    have hreversed : (fields.reverse.map Prod.fst).Nodup := by
      rw [List.map_reverse]
      exact List.nodup_reverse.mpr hdistinct
    rw [lookup_of_mem hdistinct hf, lookup_of_mem hreversed (List.mem_reverse.mpr hf)]
  · have hreversed : name ∉ fields.reverse.map Prod.fst := by
      rw [List.map_reverse]
      exact fun h => hname (List.mem_reverse.mp h)
    rw [lookup_of_not_mem hname, lookup_of_not_mem hreversed]

end Prepared
