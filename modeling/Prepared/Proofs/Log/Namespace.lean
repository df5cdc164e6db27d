import Prepared.Log.History
import Mathlib.Data.List.Infix

/-!
# The namespace of the log

The loggers inside the namespace are the root logger and those whose names go on
behind its name with a dot. A name is taken to be inside as soon as it begins
with the letters of the root, so that some loggers are kept outside. Their
records are lost, and so may be those of a logger with two dots right behind the
root, whose parents are looked for past the root. Main statement: all other
loggers hand every record to the handlers, whatever is asked of the log before
and after.
-/

namespace Prepared.Log

/-- The name of the root logger, or one that goes on behind it with a dot. -/
def InNamespace (name : String) : Prop :=
  name = Logger.root ∨ Logger.root.toList ++ ['.'] <+: name.toList

instance (name : String) : Decidable (InNamespace name) := inferInstanceAs (Decidable (_ ∨ _))

/-- The name begins with the letters of the root, but goes on without a dot. -/
def Strays (name : String) : Prop := Logger.root.toList <+: name.toList ∧ ¬ InNamespace name

instance (name : String) : Decidable (Strays name) := inferInstanceAs (Decidable (_ ∧ _))

def Doubled (name : String) : Prop := Logger.root.toList ++ ['.', '.'] <+: name.toList

instance (name : String) : Decidable (Doubled name) := inferInstanceAs (Decidable (_ <+: _))

/-! ## Names of parents -/

theorem eq_append_of_mem_parentNames {p s : List Char} (h : p ∈ Registry.parentNames s) :
    ∃ u, s = u ++ '.' :: p := by
  fun_induction Registry.parentNames s with
  | case1 => cases h
  | case2 => cases h
  | case3 c s ih =>
    rcases List.mem_cons.mp h with rfl | h
    · exact ⟨[], rfl⟩
    · obtain ⟨u, rfl⟩ := ih h
      exact ⟨'.' :: c :: u, rfl⟩
  | case4 c s _ _ ih =>
    obtain ⟨u, rfl⟩ := ih h
    exact ⟨c :: u, rfl⟩

theorem parentNames_of_ne {c : Char} (hc : c ≠ '.') (s : List Char) :
    Registry.parentNames (c :: s) = Registry.parentNames s := by
  rw [Registry.parentNames] <;> simp [hc]

theorem parentNames_dot (c : Char) (s : List Char) :
    Registry.parentNames ('.' :: c :: s) = (c :: s) :: Registry.parentNames s := rfl

theorem mem_parentNames {s : List Char} (hs : s ≠ []) :
    ∀ (u : List Char), u.getLast? ≠ some '.' → s ∈ Registry.parentNames (u ++ '.' :: s)
  | [], _ => by
    obtain ⟨c, s, rfl⟩ := List.exists_cons_of_ne_nil hs
    exact List.mem_cons_self ..
  | [c], h => by
    have hc : c ≠ '.' := fun e => h (by rw [e]; rfl)
    rw [List.cons_append, parentNames_of_ne hc]
    exact mem_parentNames hs [] (by simp)
  | c :: d :: u, h => by
    by_cases hc : c = '.'
    · rw [hc, List.cons_append, List.cons_append, parentNames_dot]
      refine List.mem_cons_of_mem _ (mem_parentNames hs u ?_)
      cases u with
      | nil => simp
      | cons e u => simpa using h
    · rw [List.cons_append, parentNames_of_ne hc]
      exact mem_parentNames hs (d :: u) (by simpa using h)

theorem find_parentNames_doubled {f : List Char → Bool} {s : List Char} (hs : Registry.parentNames s = [])
    (h₁ : f ('.' :: s) = false) (h₂ : f ('.' :: '.' :: s) = true) :
    ∀ u : List Char, (∀ v, v ≠ [] → v.length < u.length → f (v ++ '.' :: '.' :: s) = false) →
      ∀ p, (Registry.parentNames (u ++ '.' :: '.' :: s)).find? f = some p → p = '.' :: '.' :: s
  | [], _, p, hp => by
    rw [List.nil_append, parentNames_dot, hs, List.find?_singleton, h₁] at hp
    cases hp
  | [c], _, p, hp => by
    by_cases hc : c = '.'
    · rw [hc, List.cons_append, List.nil_append, parentNames_dot, List.find?_cons_of_pos h₂] at hp
      exact (Option.some.inj hp).symm
    · rw [List.cons_append, parentNames_of_ne hc] at hp
      exact find_parentNames_doubled hs h₁ h₂ [] (fun v _ hv => absurd hv (Nat.not_lt_zero _)) p hp
  | c :: d :: u, hf, p, hp => by
    by_cases hc : c = '.'
    · rw [hc, List.cons_append, List.cons_append, parentNames_dot,
        List.find?_cons_of_neg (by simpa using hf (d :: u) (by simp) (by simp))] at hp
      exact find_parentNames_doubled hs h₁ h₂ u
        (fun v hv hlt => hf v hv (by rw [List.length_cons, List.length_cons]; omega)) p hp
    · rw [List.cons_append, parentNames_of_ne hc] at hp
      exact find_parentNames_doubled hs h₁ h₂ (d :: u) (fun v hv hlt => hf v hv (Nat.lt_succ_of_lt hlt)) p hp

def parents (name : String) : List String :=
  (Registry.parentNames name.toList.reverse).map fun p => String.ofList p.reverse

theorem mem_parents {p name : String} :
    p ∈ parents name ↔ p.toList.reverse ∈ Registry.parentNames name.toList.reverse := by
  unfold parents
  constructor
  · intro h
    obtain ⟨q, hq, rfl⟩ := List.mem_map.mp h
    simpa using hq
  · intro h
    exact List.mem_map.mpr ⟨_, h, by simp⟩

theorem isPrefix_of_mem_parents {p name : String} (h : p ∈ parents name) : p.toList ++ ['.'] <+: name.toList := by
  obtain ⟨u, hu⟩ := eq_append_of_mem_parentNames (mem_parents.mp h)
  exact ⟨u.reverse, by simpa using (congrArg List.reverse hu).symm⟩

theorem eq_root_or_prefix_of_mem_parents {p name : String} (h : p ∈ parents name)
    (hn : Logger.root.toList ++ ['.'] <+: name.toList) :
    p = Logger.root ∨ Logger.root.toList ++ ['.'] <+: p.toList := by
  -- Both go up to a dot in the same name, and there is no dot inside the name of the root.
  have hnoDot : '.' ∉ Logger.root.toList := by decide +kernel
  rcases List.prefix_or_prefix_of_prefix (isPrefix_of_mem_parents h) hn with hle | hle
  · rcases List.prefix_concat_iff.mp hle with heq | hlt
    · exact .inl (String.toList_injective (List.append_cancel_right heq))
    · exact absurd (hlt.subset (List.mem_append_right _ (List.mem_singleton_self _))) hnoDot
  · rcases List.prefix_concat_iff.mp hle with heq | hlt
    · exact .inl (String.toList_injective (List.append_cancel_right heq)).symm
    · exact .inr hlt

theorem InNamespace.of_parent {p name : String} (h : p ∈ parents name) (hp : InNamespace p) : InNamespace name := by
  refine .inr ?_
  rcases hp with rfl | hp
  · exact isPrefix_of_mem_parents h
  · exact hp.trans ((List.prefix_append ..).trans (isPrefix_of_mem_parents h))

theorem root_mem_parents {name : String} (hn : Logger.root.toList ++ ['.'] <+: name.toList) (hd : ¬ Doubled name) :
    Logger.root ∈ parents name := by
  obtain ⟨rest, hrest⟩ := hn
  rw [mem_parents, ← hrest, List.append_assoc, List.reverse_append, List.reverse_append, List.append_assoc]
  refine mem_parentNames (by decide +kernel) rest.reverse fun hlast => hd ?_
  rw [List.getLast?_reverse] at hlast
  obtain ⟨rest, rfl⟩ := List.head?_eq_some_iff.mp hlast
  exact ⟨rest, by simpa using hrest⟩

/-! ## Chains of parents -/

variable {r : Registry}

theorem reachesRoot_succ (r : Registry) (n : Nat) (name : String) :
    r.reachesRoot (n + 1) name =
      if name = Logger.root then true
      else match (parents name).find? r.loggers.contains with
        | some p => r.reachesRoot n p
        | none => false := rfl

theorem length_lt_of_mem_parents {p name : String} (h : p ∈ parents name) : p.toList.length < name.toList.length := by
  have := (isPrefix_of_mem_parents h).length_le
  rw [List.length_append, List.length_singleton] at this
  exact this

/-- Every parent on the way is the root or, closer than the root, of the same kind. -/
theorem reachesRoot_of_inNamespace (hroot : Logger.root ∈ r.loggers) {n : Nat} :
    ∀ {name : String}, InNamespace name → ¬ Doubled name → name.toList.length ≤ n →
      r.reachesRoot n name = true := by
  induction n with
  | zero =>
    intro name hname _ hlen
    rcases hname with rfl | hn
    · rfl
    · exact absurd hn.length_le (by rw [Nat.le_zero.mp hlen, List.length_append]; simp)
  | succ n ih =>
    intro name hname hd hlen
    rw [reachesRoot_succ]
    split
    · rfl
    · rename_i hne
      have hn := hname.resolve_left hne
      cases hfind : (parents name).find? r.loggers.contains with
      | none =>
        exact absurd (List.contains_iff_mem.mpr hroot)
          (List.find?_eq_none.mp hfind _ (root_mem_parents hn hd))
      | some p =>
        have hp := List.mem_of_find?_eq_some hfind
        refine ih (eq_root_or_prefix_of_mem_parents hp hn) (fun hdp => hd ?_) ?_
        · exact hdp.trans ((List.prefix_append ..).trans (isPrefix_of_mem_parents hp))
        · exact Nat.lt_succ_iff.mp (Nat.lt_of_lt_of_le (length_lt_of_mem_parents hp) hlen)

theorem reachesRoot_of_not_inNamespace {n : Nat} :
    ∀ {name : String}, ¬ InNamespace name → r.reachesRoot n name = false := by
  induction n with
  | zero => exact fun hname => beq_eq_false_iff_ne.mpr fun h => hname (.inl h)
  | succ n ih =>
    intro name hname
    rw [reachesRoot_succ, if_neg fun h => hname (.inl h)]
    cases hfind : (parents name).find? r.loggers.contains with
    | none => rfl
    | some p => exact ih fun hp => hname (hp.of_parent (List.mem_of_find?_eq_some hfind))

section
variable {name : String} (hone : Logger.root ++ "." ∉ r.loggers) (htwo : Logger.root ++ ".." ∈ r.loggers)
  (hmore : ∀ x ∈ r.loggers, Doubled x → x = Logger.root ++ ".." ∨ name.toList.length ≤ x.toList.length)

include hone htwo hmore in
theorem find_parents_doubled {x p : String} (hx : Doubled x) (hlen : x.toList.length ≤ name.toList.length)
    (hp : (parents x).find? r.loggers.contains = some p) : p = Logger.root ++ ".." := by
  obtain ⟨rest, hrest⟩ := hx
  -- Read from its end, a name comes to the two dots only after all longer candidates.
  have hrev : x.toList.reverse = rest.reverse ++ '.' :: '.' :: Logger.root.toList.reverse := by
    rw [← hrest]; simp
  rw [parents, List.find?_map, hrev] at hp
  obtain ⟨q, hq, rfl⟩ := Option.map_eq_some_iff.mp hp
  rw [find_parentNames_doubled (by decide +kernel) ?_ ?_ _ ?_ q hq]
  · simp
  · simpa using hone
  · simpa using htwo
  · intro v hv hlt
    have hv' : Doubled (String.ofList (v ++ '.' :: '.' :: Logger.root.toList.reverse).reverse) :=
      ⟨v.reverse, by simp⟩
    refine Bool.eq_false_iff.mpr fun hmem => ?_
    rcases hmore _ (List.contains_iff_mem.mp hmem) hv' with heq | hle
    · exact hv (by simpa using congrArg String.toList heq)
    · rw [← hrest] at hlen
      simp at hle hlen hlt
      omega

include hone htwo hmore in
theorem reachesRoot_of_doubled (hd : Doubled name) {n : Nat} :
    ∀ {x : String}, Doubled x → x.toList.length ≤ name.toList.length → r.reachesRoot n x = false := by
  have hne : ∀ {x : String}, Doubled x → x ≠ Logger.root := by
    rintro x hx rfl
    exact absurd hx (by decide +kernel)
  induction n with
  | zero => exact fun hx _ => beq_eq_false_iff_ne.mpr (hne hx)
  | succ n ih =>
    intro x hx hlen
    rw [reachesRoot_succ, if_neg (hne hx)]
    cases hfind : (parents x).find? r.loggers.contains with
    | none => rfl
    | some p =>
      obtain rfl := find_parents_doubled hone htwo hmore hx hlen hfind
      exact ih (by decide +kernel) (by simpa using hd.length_le)

end

/-! ## Requests -/

theorem mem_insertName {x name : String} {names : List String} :
    x ∈ Registry.insertName names name ↔ x ∈ names ∨ x = name := by
  unfold Registry.insertName
  split
  · rename_i h
    exact ⟨.inl, fun hx => hx.elim id fun hx => hx ▸ List.contains_iff_mem.mp h⟩
  · rw [List.mem_append, List.mem_singleton]

theorem mem_loggers_get {x : String} (h : x ∈ r.loggers) (name : Option String) : x ∈ (r.get name).1.loggers := by
  cases name with
  | none => exact h
  | some s => exact mem_insertName.mpr (.inl h)

theorem mem_loggers_handle {x : String} (h : x ∈ r.loggers) (q : Request) : x ∈ (r.handle q).1.loggers := by
  cases q with
  | get name => exact mem_loggers_get h name
  | configure settings =>
    unfold Registry.handle
    cases hr : r.configure settings with
    | error e => simpa only [hr] using h
    | ok p =>
      obtain ⟨level, -, hr', -⟩ := Registry.configure_cases hr
      simpa only [hr, hr'] using h
  | correlate id => exact h
  | log name level message extra =>
    rw [Registry.handle, Registry.log_registry]
    exact mem_loggers_get h name
  | note entries => exact h

theorem mem_loggers_follow {x : String} (h : x ∈ r.loggers) (qs : List Request) : x ∈ (r.follow qs).loggers := by
  induction qs generalizing r with
  | nil => exact h
  | cons q qs ih => exact ih (mem_loggers_handle h q)

theorem root_mem_initial : Logger.root ∈ Registry.initial.loggers := List.mem_cons_self ..

/-! ## Delivery -/

/-- All that the logger logs at an enabled level reaches all handlers. -/
def Serves (r : Registry) (logger : String) : Prop :=
  ∀ e : Entry, e.logger = logger → r.effectiveLevel ≤ e.level → r.emit e = r.handlers.flatMap (r.deliverTo e)

def Loses (r : Registry) (logger : String) : Prop := ∀ e : Entry, e.logger = logger → r.emit e = []

theorem serves_of_isBelowRoot {logger : String} (h : r.isBelowRoot logger = true) : Serves r logger := by
  rintro e rfl hlevel
  simp [Registry.emit, Registry.accepts, h, hlevel]

theorem loses_of_isBelowRoot {logger : String} (h : r.isBelowRoot logger = false) : Loses r logger := by
  rintro e rfl
  simp [Registry.emit, Registry.accepts, h]

theorem not_serves_of_loses {logger : String} (hh : Handler.console false ∈ r.handlers) (h : Loses r logger) :
    ¬ Serves r logger := by
  intro hserves
  have hall := hserves { level := r.effectiveLevel, logger, message := "" } rfl (Int.le_refl _)
  rw [h _ rfl, eq_comm, List.flatMap_eq_nil_iff] at hall
  cases hall _ hh

def loggerOf (name : Option String) : String := name.elim Logger.root Registry.fullName

theorem get_handlers (r : Registry) (name : Option String) : (r.get name).1.handlers = r.handlers := by
  cases name <;> rfl

theorem get_logger (r : Registry) (name : Option String) : (r.get name).2 = loggerOf name := by
  cases name <;> rfl

theorem inNamespace_fullName (s : String) : InNamespace (Registry.fullName s) ↔ ¬ Strays s := by
  unfold Registry.fullName
  by_cases hs : Logger.root.toList <+: s.toList
  · rw [if_pos (List.isPrefixOf_iff_prefix.mpr hs)]
    exact ⟨fun hin h => h.2 hin, fun h => by_contra fun hin => h ⟨hs, hin⟩⟩
  · rw [if_neg (mt List.isPrefixOf_iff_prefix.mp hs)]
    exact ⟨fun _ h => hs h.1, fun _ => .inr ⟨s.toList, by simp⟩⟩

def cuttingOff : List Request := [.get (some "."), .configure { style := "simple" }]

theorem loses_of_doubled {name : Option String} (hd : Doubled (loggerOf name)) :
    Loses ((Registry.initial.follow cuttingOff).get name).1 (loggerOf name) := by
  cases name with
  | none => exact absurd hd (by decide +kernel)
  | some s =>
    have hmem : ∀ {x}, x ∈ ((Registry.initial.follow cuttingOff).get (some s)).1.loggers ↔
        x ∈ (Registry.initial.follow cuttingOff).loggers ∨ x = Registry.fullName s := mem_insertName
    refine loses_of_isBelowRoot (reachesRoot_of_doubled ?_ ?_ ?_ hd hd (Nat.le_refl _))
    · rw [hmem]
      rintro (h | h)
      · exact absurd h (by decide +kernel)
      · exact absurd (h ▸ hd : Doubled (Logger.root ++ ".")) (by decide +kernel)
    · exact hmem.mpr (.inl (by decide +kernel))
    · intro x hx hdx
      rcases hmem.mp hx with hx | rfl
      · have hall : ∀ x ∈ (Registry.initial.follow cuttingOff).loggers, Doubled x → x = Logger.root ++ ".." := by
          decide +kernel
        exact .inl (hall x hx hdx)
      · exact .inr (Nat.le_refl _)

/-- The log once `before` has been asked of it, then the logger of a name, then `after`. -/
def logAfter (before : List Request) (name : Option String) (after : List Request) : Registry :=
  ((Registry.initial.follow before).get name).1.follow after

/-- The logger of a name is inside the namespace unless the name strays, and a logger
outside never gets a record to a handler. Those inside get all of them to all handlers,
whatever is asked of the log before and after, but for those with two dots behind the
root. -/
theorem get_namespace (name : Option String) :
    (∀ r : Registry, InNamespace (r.get name).2 ↔ ∀ s ∈ name, ¬ Strays s) ∧
      (¬ InNamespace (loggerOf name) → ∀ before after, Loses (logAfter before name after) (loggerOf name)) ∧
      ((∀ before after, Serves (logAfter before name after) (loggerOf name)) ↔
        InNamespace (loggerOf name) ∧ ¬ Doubled (loggerOf name)) := by
  refine ⟨fun r => ?_, fun hout before after => ?_, fun hserves => ?_, fun h before after => ?_⟩
  · rw [get_logger]
    cases name with
    | none => simp [loggerOf, InNamespace]
    | some s => simpa [loggerOf] using inNamespace_fullName s
  · exact loses_of_isBelowRoot (reachesRoot_of_not_inNamespace hout)
  · have hconsole : Handler.console false ∈ (logAfter cuttingOff name []).handlers :=
      get_handlers (Registry.initial.follow cuttingOff) name ▸ List.mem_cons_self ..
    have hlost : ¬ Loses (logAfter cuttingOff name []) (loggerOf name) := fun h =>
      not_serves_of_loses hconsole h (hserves _ _)
    exact ⟨by_contra fun hout => hlost (loses_of_isBelowRoot (reachesRoot_of_not_inNamespace hout)),
      fun hd => hlost (loses_of_doubled hd)⟩
  · exact serves_of_isBelowRoot <| reachesRoot_of_inNamespace
      (mem_loggers_follow (mem_loggers_get (mem_loggers_follow root_mem_initial before) name) after) h.1 h.2
      (Nat.le_refl _)

theorem get_namespace_kept :
    (InNamespace (loggerOf (some "db")) ∧
      Serves (logAfter [.get (some ".x")] (some "db") [.configure {}]) (loggerOf (some "db"))) ∧
      ¬ InNamespace (loggerOf (some "sqlprepared")) ∧
      Loses (logAfter [] (some "sqlprepared") [.configure {}]) (loggerOf (some "sqlprepared")) :=
  have hkept : InNamespace (loggerOf (some "db")) ∧ ¬ Doubled (loggerOf (some "db")) := by decide +kernel
  have hout : ¬ InNamespace (loggerOf (some "sqlprepared")) := by decide +kernel
  ⟨⟨hkept.1, (get_namespace (some "db")).2.2.mpr hkept _ _⟩, hout, (get_namespace (some "sqlprepared")).2.1 hout _ _⟩

/-- A name that begins with the letters of the root is left as it is, and what its
logger logs is lost. -/
theorem get_strays :
    (Registry.initial.get (some "sqlprepx")).2 = "sqlprepx" ∧ ¬ InNamespace "sqlprepx" ∧
      let r := logAfter [] (some "sqlprepx") [.configure {}]
      r.handlers = [.console true] ∧ r.effectiveLevel ≤ Level.critical ∧
        (r.emit { level := Level.critical, logger := "sqlprepx", message := "lost" }).isEmpty = true := by
  decide +kernel

end Prepared.Log
