import Prepared.Proofs.Json.Nesting

/-!
# Reading back what is written

A list comes back item by item and a dictionary field by field. The values that
JSON has a form of its own for come back as they were, in whatever collections
they stand. Main statement: writing such a value never fails, the text has no
controls in it, and a reader that allows for enough open collections gets the
value back.
-/

namespace Prepared

open Number Text

/-- A value that JSON has a form for: nothing, a truth value, an integer short enough to be
printed, a text, or a list or a dictionary by texts of such values. -/
inductive Value.IsJson : Value → Prop
  | null : IsJson .null
  | bool (b : Bool) : IsJson (.bool b)
  | int {i : Int} {s : List Char} (printed : integerText i = .ok s) : IsJson (.int i)
  | text (s : String) : IsJson (.text s)
  | list {items : List Value} (items_isJson : ∀ v ∈ items, IsJson v) : IsJson (.list items)
  | dict {fields : List (String × Value)} (distinct : (fields.map Prod.fst).Nodup)
      (fields_isJson : ∀ f ∈ fields, IsJson f.2) : IsJson (.dict (named fields))

mutual

def Value.depth : Value → Nat
  | .list items => Value.depthOfItems items + 1
  | .tuple items => Value.depthOfItems items + 1
  | .dict entries => Value.depthOfEntries entries + 1
  | .typed _ v => v.depth
  | _ => 0

def Value.depthOfItems : List Value → Nat
  | [] => 0
  | v :: vs => max v.depth (Value.depthOfItems vs)

def Value.depthOfEntries : List (Value × Value) → Nat
  | [] => 0
  | (_, v) :: es => max v.depth (Value.depthOfEntries es)

end

theorem depthOfEntries_named_cons (f : String × Value) (fields : List (String × Value)) :
    Value.depthOfEntries (named (f :: fields)) = max f.2.depth (Value.depthOfEntries (named fields)) := rfl

theorem depth_named {fields : List (String × Value)} {n : Nat} (hpos : 0 < n) (h : ∀ f ∈ fields, f.2.depth < n) :
    (Value.dict (named fields)).depth ≤ n := by
  induction fields with
  | nil => exact hpos
  | cons f fs ih =>
    have hrest : (Value.dict (named fs)).depth ≤ n := ih fun g hg => h g (List.mem_cons_of_mem _ hg)
    have hfirst := h f (List.mem_cons_self ..)
    rw [Value.depth] at hrest
    rw [Value.depth, depthOfEntries_named_cons]
    omega

theorem depth_le_of_mem {vs : List Value} {v : Value} (h : v ∈ vs) : v.depth ≤ Value.depthOfItems vs := by
  induction vs with
  | nil => cases h
  | cons w ws ih =>
    rw [Value.depthOfItems]
    rcases List.mem_cons.mp h with rfl | h
    · exact Nat.le_max_left ..
    · exact Nat.le_trans (ih h) (Nat.le_max_right ..)

theorem depth_le_of_field {fields : List (String × Value)} {f : String × Value} (h : f ∈ fields) :
    f.2.depth ≤ Value.depthOfEntries (named fields) := by
  induction fields with
  | nil => cases h
  | cons g gs ih =>
    rw [depthOfEntries_named_cons]
    rcases List.mem_cons.mp h with rfl | h
    · exact Nat.le_max_left ..
    · exact Nat.le_trans (ih h) (Nat.le_max_right ..)

namespace Json

/-! ## What is read from the text of a value -/

/-- A value comes back as another when its text is read, with room for so many open collections. -/
def Shows (room : Nat) (v w : Value) : Prop := ∃ s, write v = .ok s ∧ readWithin room s = .ok w

theorem Shows.unique {room : Nat} {v w w' : Value} (h : Shows room v w) (h' : Shows room v w') : w = w' := by
  obtain ⟨s, hs, hw⟩ := h
  obtain ⟨s', hs', hw'⟩ := h'
  obtain rfl := Except.ok.inj (hs.symm.trans hs')
  exact Except.ok.inj (hw.symm.trans hw')

theorem shows_text (room : Nat) (s : String) : Shows room (.text s) (.text s) :=
  ⟨_, rfl, by rw [(stands_string s.toList).2, String.ofList_toList]⟩

theorem shows_null (room : Nat) : Shows room .null .null := ⟨_, rfl, stands_null.2 room⟩

theorem shows_bool (room : Nat) (b : Bool) : Shows room (.bool b) (.bool b) := ⟨_, rfl, (stands_bool b).2 room⟩

theorem shows_int (room : Nat) {i : Int} {s : List Char} (printed : integerText i = .ok s) :
    Shows room (.int i) (.int i) :=
  ⟨s, printed, (stands_integer printed).2 room⟩

theorem shows_list {room : Nat} {vs : List Value} {w : Value} :
    Shows (room + 1) (.list vs) w ↔ ∃ ws, List.Forall₂ (Shows room) vs ws ∧ w = .list ws := by
  have hread : ∀ {ss}, vs.mapM write = .ok ss →
      readWithin (room + 1) (array ss) = (ss.mapM (readWithin room)).map .list := fun hss =>
    (stands_array fun s hs => by
      obtain ⟨v, -, hv⟩ := exists_of_mem_mapM hss hs
      exact stands_write v hv).2 room
  have hshows : ∀ {ws}, (∃ ss, vs.mapM write = .ok ss ∧ ss.mapM (readWithin room) = .ok ws) ↔
      List.Forall₂ (Shows room) vs ws := by
    simp only [mapM_eq_ok, forall₂_comp]
    exact Iff.rfl
  constructor
  · rintro ⟨s, hs, hw⟩
    rw [write, writeItems_eq] at hs
    obtain ⟨ss, hss, rfl⟩ := map_eq_ok.mp hs
    rw [hread hss] at hw
    obtain ⟨ws, hws, rfl⟩ := map_eq_ok.mp hw
    exact ⟨ws, hshows.mp ⟨ss, hss, hws⟩, rfl⟩
  · rintro ⟨ws, hws, rfl⟩
    obtain ⟨ss, hss, hws⟩ := hshows.mpr hws
    exact ⟨array ss, by rw [write, writeItems_eq, hss]; rfl, by rw [hread hss, hws]; rfl⟩

def ShowsField (room : Nat) (f g : String × Value) : Prop := f.1 = g.1 ∧ Shows room f.2 g.2

theorem showsField_iff {room : Nat} {f g : String × Value} :
    (∃ p, memberParts (.text f.1, f.2) = .ok p ∧ readMember (readWithin room) p = .ok g) ↔ ShowsField room f g := by
  constructor
  · rintro ⟨p, hparts, hread⟩
    obtain ⟨hkey, hwrite⟩ := memberParts_eq_ok.mp hparts
    obtain ⟨v, hv, rfl⟩ := map_eq_ok.mp hread
    have hkey : f.1.toList = p.1 := Except.ok.inj hkey
    exact ⟨by rw [← hkey, String.ofList_toList], p.2, hwrite, hv⟩
  · rintro ⟨hname, s, hwrite, hread⟩
    refine ⟨(f.1.toList, s), memberParts_eq_ok.mpr ⟨rfl, hwrite⟩, map_eq_ok.mpr ⟨g.2, hread, ?_⟩⟩
    rw [String.ofList_toList, hname]

theorem names_of_shows {room : Nat} {fields shown : List (String × Value)}
    (h : List.Forall₂ (ShowsField room) fields shown) : shown.map Prod.fst = fields.map Prod.fst := by
  induction h with
  | nil => rfl
  | cons hfg _ ih => rw [List.map_cons, List.map_cons, ih, hfg.1]

theorem shows_named {room : Nat} {fields : List (String × Value)} (hdistinct : (fields.map Prod.fst).Nodup)
    {w : Value} : Shows (room + 1) (.dict (named fields)) w ↔
      ∃ shown, List.Forall₂ (ShowsField room) fields shown ∧ w = .dict (named shown) := by
  have hread : ∀ {ps}, (named fields).mapM memberParts = .ok ps → readWithin (room + 1) (object (ps.map member)) =
      (ps.mapM (readMember (readWithin room))).map fun shown => .dict (named (mergeFields shown)) := fun hps =>
    (stands_object fun p hp => by
      obtain ⟨e, -, he⟩ := exists_of_mem_mapM hps hp
      exact stands_write e.2 (memberParts_eq_ok.mp he).2).2 room
  have hshows : ∀ {shown}, (∃ ps, (named fields).mapM memberParts = .ok ps ∧
      ps.mapM (readMember (readWithin room)) = .ok shown) ↔ List.Forall₂ (ShowsField room) fields shown := by
    simp only [mapM_eq_ok, named, List.forall₂_map_left_iff, forall₂_comp, showsField_iff, implies_true]
  have hmerged : ∀ {shown}, List.Forall₂ (ShowsField room) fields shown → mergeFields shown = shown :=
    fun h => mergeFields_of_distinct (names_of_shows h ▸ hdistinct)
  constructor
  · rintro ⟨s, hs, hw⟩
    rw [write, writeMembers_eq] at hs
    obtain ⟨ms, hms, rfl⟩ := map_eq_ok.mp hs
    obtain ⟨ps, hps, rfl⟩ := map_eq_ok.mp hms
    rw [hread hps] at hw
    obtain ⟨shown, hshown, rfl⟩ := map_eq_ok.mp hw
    have hfields := hshows.mp ⟨ps, hps, hshown⟩
    exact ⟨shown, hfields, by rw [hmerged hfields]⟩
  · rintro ⟨shown, hfields, rfl⟩
    obtain ⟨ps, hps, hshown⟩ := hshows.mpr hfields
    refine ⟨object (ps.map member), by rw [write, writeMembers_eq, hps]; rfl, ?_⟩
    rw [hread hps, hshown]
    change Except.ok (Value.dict (named (mergeFields shown))) = _
    rw [hmerged hfields]

theorem exists_shown {room : Nat} {fields : List (String × Value)} (h : ∀ f ∈ fields, ∃ w, Shows room f.2 w) :
    ∃ shown, List.Forall₂ (ShowsField room) fields shown := by
  induction fields with
  | nil => exact ⟨[], .nil⟩
  | cons f fs ih =>
    obtain ⟨w, hw⟩ := h f (List.mem_cons_self ..)
    obtain ⟨shown, hshown⟩ := ih fun g hg => h g (List.mem_cons_of_mem _ hg)
    exact ⟨(f.1, w) :: shown, .cons ⟨rfl, hw⟩ hshown⟩

theorem lookup_shown {room : Nat} {fields shown : List (String × Value)}
    (h : List.Forall₂ (ShowsField room) fields shown) {name : String} {v : Value} (hv : fields.lookup name = some v) :
    ∃ w, shown.lookup name = some w ∧ Shows room v w := by
  induction h with
  | nil => cases hv
  | cons hfg _ ih =>
    rw [lookup_field] at hv ⊢
    rw [← hfg.1]
    split at hv
    · rename_i hname
      obtain rfl := Option.some.inj hv
      exact ⟨_, if_pos hname, hfg.2⟩
    · rename_i hname
      rw [if_neg hname]
      exact ih hv

/-! ## Values of JSON's own -/

theorem shows_self {v : Value} (h : v.IsJson) {limit : Nat} (hlimit : v.depth ≤ limit) : Shows limit v v := by
  induction h generalizing limit with
  | null => exact shows_null limit
  | bool b => exact shows_bool limit b
  | int printed => exact shows_int limit printed
  | text s => exact shows_text limit s
  | @list vs _ ih =>
    rw [Value.depth] at hlimit
    obtain ⟨room, rfl⟩ := Nat.exists_eq_add_of_le' hlimit
    have hitems : ∀ v ∈ vs, Shows (room + Value.depthOfItems vs) v v := fun v hv =>
      ih v hv (Nat.le_trans (depth_le_of_mem hv) (Nat.le_add_left ..))
    exact shows_list.mpr ⟨vs, List.forall₂_same.mpr hitems, rfl⟩
  | @dict fields distinct _ ih =>
    rw [Value.depth] at hlimit
    obtain ⟨room, rfl⟩ := Nat.exists_eq_add_of_le' hlimit
    have hfields : ∀ f ∈ fields, ShowsField (room + Value.depthOfEntries (named fields)) f f := fun f hf =>
      ⟨rfl, ih f hf (Nat.le_trans (depth_le_of_field hf) (Nat.le_add_left ..))⟩
    exact (shows_named distinct).mpr ⟨fields, List.forall₂_same.mpr hfields, rfl⟩

/-- A value of JSON's own is written as a text without controls, from which it is read back. -/
theorem readWithin_write {v : Value} (h : v.IsJson) :
    ∃ s, write v = .ok s ∧ Visible s ∧ ∀ limit, v.depth ≤ limit → readWithin limit s = .ok v := by
  obtain ⟨s, hwrite, -⟩ := shows_self h (Nat.le_refl _)
  refine ⟨s, hwrite, (stands_write v hwrite).visible, fun limit hlimit => ?_⟩
  obtain ⟨s', hwrite', hread⟩ := shows_self h hlimit
  obtain rfl := Except.ok.inj (hwrite.symm.trans hwrite')
  exact hread

end Json
end Prepared
