import Prepared.Proofs.Text.Trim
import Prepared.Transport

/-!
# Guards

A guard turns the foreign failures of what it surrounds into errors of its
family. Main statement: of guards around one another the innermost does so, and
the others let its error pass. Whether the text of the error names its cause
depends on what the cause has to say: a lead alone keeps the name of a silent
cause from being said.
-/

namespace Prepared

open Number Text

/-- The errors that a guard makes are of its family and say its lead first. -/
structure Guard where
  family : Family
  lead : String

/-- What comes out of guards around one another. The first is the innermost. -/
def Raised.leave (r : Raised) (guards : List Guard) : Raised := guards.foldl (fun r g => r.wrap g.family g.lead) r

/-- What the text of an error must say last to name its cause: the text of the cause,
or its name if that text is blank. -/
def Failure.told (f : Failure) : List Char :=
  if trim f.message.toList = [] then f.name.toList else trim f.message.toList

/-- The text begins with the lead, but for blanks around it, ends with what tells the
cause, and is more than the lead. -/
structure NamesCause (lead : String) (cause : Failure) (text : List Char) : Prop where
  begins : trim lead.toList <+: text
  ends : cause.told <:+ text
  not_empty : text ≠ []
  not_lead : text ≠ trim lead.toList

theorem ForeignKind.name_spelled (k : ForeignKind) : k.name ≠ "" ∧ ∀ c ∈ k.name.toList, isBlank c = false := by
  cases k with
  | other name => exact ⟨name.text_ne_empty, name.no_blank⟩
  | _ => exact ⟨by decide, fun c hc => Bool.eq_false_iff.mpr (List.any_eq_false.mp (by decide) c hc)⟩

/-! ## Texts of errors -/

theorem Fault.message_eq (family : Family) (said : String) :
    (Fault.message { family, detail := said }).toList = trim said.toList := by
  simp [Fault.message]

theorem Fault.build_text (family : Family) {said : String} (h : said ≠ "") :
    Fault.build family [.text said] "" "" = .ok { family, detail := said } := by
  have hplain : (Value.text said).plain = .ok said.toList := rfl
  have htruthy : (Value.text said).truthy = true := bne_iff_ne.mpr h
  have hvalues : Fault.ofValues family [.text said] "" "" = .ok { family, detail := said } := by
    simp [ofValues, htruthy, hplain, Except.map, pure, Except.pure, bind, Except.bind]
  cases family with
  | parameter | placeholderIndex | placeholderParse | parameterCount =>
    simp [build, Family.isParameter, hplain, bind, Except.bind, aboutTemplate, h, pure, Except.pure]
  | _ => exact hvalues

section
variable {lead text : String}

theorem namesCause_of_text (kind : ForeignKind) (h : trim text.toList ≠ []) :
    NamesCause lead (.foreign kind text) (trim (lead ++ text).toList) := by
  have htold : (Failure.foreign kind text).told = trim text.toList := if_neg h
  rw [String.toList_append, trim_append_of_ne h]
  split
  · rename_i hlead
    have hblank : trim lead.toList = [] := trim_eq_nil.mpr (trimStart_eq_nil.mp hlead)
    exact ⟨hblank ▸ List.nil_prefix, htold ▸ List.suffix_rfl, h, hblank ▸ h⟩
  · have hend : trimEnd text.toList ≠ [] := fun he => h (trim_eq_nil.mpr (trimEnd_eq_nil.mp he))
    have hstart : trim lead.toList <+: trimStart lead.toList := trimEnd_prefix _
    refine ⟨hstart.trans (List.prefix_append ..), ?_, by simp [hend], fun heq => ?_⟩
    · rw [htold]
      exact (trim_suffix_trimEnd h).trans (List.suffix_append ..)
    · -- The lead would be longer than itself.
      have hle := hstart.length_le
      have hpos := List.length_pos_iff.mpr hend
      rw [← heq, List.length_append] at hle
      omega

theorem namesCause_of_silence (kind : ForeignKind) : NamesCause "" (.foreign kind "") (trim kind.name.toList) := by
  obtain ⟨hne, hblank⟩ := kind.name_spelled
  have hname : kind.name.toList ≠ [] := fun h => hne (String.toList_eq_nil_iff.mp h)
  rw [trim_eq_self hblank]
  exact ⟨List.nil_prefix, List.suffix_rfl, hname, hname⟩

theorem not_namesCause_of_blank (cause : Failure) (h : trim text.toList = []) :
    trim (lead ++ text).toList = trim lead.toList ∧ ¬ NamesCause lead cause (trim (lead ++ text).toList) := by
  have hlead : trim (lead ++ text).toList = trim lead.toList := by
    rw [String.toList_append, trim_append_of_blank h]
  exact ⟨hlead, fun hnames => hnames.not_lead hlead⟩

end

/-! ## Guards around one another -/

theorem leave_own (fault : Fault) (cause : Option Failure) (guards : List Guard) :
    Raised.leave ⟨.own fault, cause⟩ guards = ⟨.own fault, cause⟩ := by
  induction guards with
  | nil => rfl
  | cons g guards ih => exact ih

theorem leave_interrupt (kind : Interrupt) (text : String) (cause : Option Failure) (guards : List Guard) :
    Raised.leave ⟨.interrupt kind text, cause⟩ guards = ⟨.interrupt kind text, cause⟩ := by
  induction guards with
  | nil => rfl
  | cons g guards ih => exact ih

def Guard.said (g : Guard) (kind : ForeignKind) (text : String) : String :=
  if g.lead ++ text = "" then kind.name else g.lead ++ text

theorem leave_foreign (g : Guard) (kind : ForeignKind) (text : String) (cause : Option Failure)
    (outer : List Guard) :
    Raised.leave ⟨.foreign kind text, cause⟩ (g :: outer) =
      ⟨.own { family := g.family, detail := g.said kind text }, some (.foreign kind text)⟩ :=
  leave_own _ _ outer

theorem Guard.said_ne_empty (g : Guard) (kind : ForeignKind) (text : String) : g.said kind text ≠ "" := by
  unfold said
  split
  · exact kind.name_spelled.1
  · rename_i h
    exact h

/-- Errors of the library and interrupts leave any guards as they are. A foreign failure
leaves them as one error, which the innermost makes with the failure as its cause. The
text of that error names the cause just when the cause has a text that is not blank or
there is nothing to say but its name; otherwise it is the lead alone. -/
theorem leave_names (outer : List Guard) :
    (∀ fault cause, Raised.leave ⟨.own fault, cause⟩ outer = ⟨.own fault, cause⟩) ∧
    (∀ kind text cause, Raised.leave ⟨.interrupt kind text, cause⟩ outer = ⟨.interrupt kind text, cause⟩) ∧
    ∀ (g : Guard) kind text cause, ∃ said fault,
      Fault.build g.family [.text said] "" "" = .ok fault ∧ fault.family = g.family ∧
      Raised.leave ⟨.foreign kind text, cause⟩ (g :: outer) = ⟨.own fault, some (.foreign kind text)⟩ ∧
      (NamesCause g.lead (.foreign kind text) fault.message.toList ↔
        trim text.toList ≠ [] ∨ g.lead = "" ∧ text = "") ∧
      (NamesCause g.lead (.foreign kind text) fault.message.toList ∨ fault.message.toList = trim g.lead.toList) := by
  refine ⟨fun fault cause => leave_own fault cause outer,
    fun kind text cause => leave_interrupt kind text cause outer, fun g kind text cause => ?_⟩
  refine ⟨g.said kind text, _, Fault.build_text g.family (g.said_ne_empty kind text), rfl,
    leave_foreign g kind text cause outer, ?_⟩
  rw [Fault.message_eq, Guard.said]
  by_cases htext : trim text.toList = []
  · by_cases hsilent : g.lead ++ text = ""
    · obtain ⟨hlead, rfl⟩ : g.lead = "" ∧ text = "" := by simpa using hsilent
      have hnames : NamesCause g.lead (.foreign kind "") (trim kind.name.toList) :=
        hlead ▸ namesCause_of_silence kind
      rw [if_pos hsilent]
      exact ⟨iff_of_true hnames (.inr ⟨hlead, rfl⟩), .inl hnames⟩
    · obtain ⟨hlead, hnot⟩ := not_namesCause_of_blank (.foreign kind text) htext
      rw [if_neg hsilent]
      refine ⟨iff_of_false hnot ?_, .inr hlead⟩
      rintro (h | ⟨hl, rfl⟩)
      · exact h htext
      · exact hsilent (by rw [hl]; rfl)
  · have hsaid : g.lead ++ text ≠ "" := by
      rintro h
      obtain ⟨-, rfl⟩ : g.lead = "" ∧ text = "" := by simpa using h
      exact htext rfl
    have hnames : NamesCause g.lead (.foreign kind text) (trim (g.lead ++ text).toList) :=
      namesCause_of_text kind htext
    rw [if_neg hsaid]
    exact ⟨iff_of_true hnames (.inl htext), .inl hnames⟩

/-- Behind the lead of a failure to send, a cause without a text is not named. -/
theorem leave_bare_lead :
    let cause : Failure := .foreign .system ""
    let r := Raised.leave ⟨cause, none⟩ [⟨.send, Transport.sendLead⟩]
    r.cause = some cause ∧ r.failure.message = "Cannot send query to server:" ∧
      ¬ NamesCause Transport.sendLead cause r.failure.message.toList := by
  refine ⟨rfl, by decide +kernel, fun h => h.not_lead (by decide +kernel)⟩

end Prepared
