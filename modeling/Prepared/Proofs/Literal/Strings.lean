import Prepared.Literal.Read
import Prepared.Proofs.Rewrite.Filling

/-!
# Strings and their texts

What is written for a string is read back, whatever the table of escapes is, if
every escape that is written is one that the dialect has for its character. Each
character is written as it is, doubled or as an escape; whatever follows, the
reader takes what was written for it and leaves the rest. Main statement: a
string literal is read to its end and no further, with the text of its argument
as its value, so different texts never have one literal.
-/

namespace Prepared

open Dialect (quote backslash)

namespace StringRules

variable {k : StringRules} {c : Char}

/-- Behind a backslash, `w` stands for the character, whatever follows. -/
def Escapes (k : StringRules) (w : List Char) (c : Char) : Prop :=
  ∃ escape, k.escape? = some escape ∧ ∀ r, escape (w ++ r) = some ([c], w.length)

def Spells (k : StringRules) (w : List Char) (c : Char) : Prop :=
  ∀ r, k.readBody? (w ++ r) = (k.readBody? r).map fun p => (c :: p.1, p.2)

theorem readBody?_end {rest : List Char} (h : rest.head? ≠ some quote) :
    k.readBody? (quote :: rest) = some ([], rest) := by
  rw [readBody?, if_pos rfl, if_neg fun hd => h hd.2]

theorem spells_doubled (h : k.doubled = true) : k.Spells [quote, quote] quote := by
  intro r
  change k.readBody? (quote :: quote :: r) = _
  rw [readBody?, if_pos rfl, if_pos ⟨h, rfl⟩, List.tail_cons]

theorem spells_escape {w : List Char} (h : k.Escapes w c) : k.Spells (backslash :: w) c := by
  intro r
  obtain ⟨escape, he, hread⟩ := h
  rw [List.cons_append, readBody?, if_neg (by decide), if_neg (by simp [backslash]), if_pos rfl, he]
  simp only [hread r, List.drop_left]
  rfl

theorem spells_self (hquote : c ≠ quote) (hline : k.multiline = true ∨ c ≠ '\n' ∧ c ≠ '\r')
    (hescapes : c = backslash → k.escape? = none) : k.Spells [c] c := by
  intro r
  have hkept : ¬ ((c = '\n' ∨ c = '\r') ∧ !k.multiline) := by
    rintro ⟨hbreak, hsingle⟩
    rcases hline with hline | ⟨hn, hr⟩
    · simp [hline] at hsingle
    · exact hbreak.elim hn hr
  have hnone : (if c = backslash then k.escape? else none) = none := by
    split
    · next hc => exact hescapes hc
    · rfl
  rw [List.singleton_append, readBody?, if_neg hquote, if_neg hkept, hnone]

theorem head?_of_readString? {t : List Char} {p : List Char × List Char} (h : k.readString? t = some p) :
    t.head? = some quote := by
  cases t with
  | nil => cases h
  | cons c r =>
    obtain ⟨rfl, -⟩ := Option.ite_none_right_eq_some.mp h
    rfl

end StringRules

/-! ## Writing by the rules -/

namespace Quoting

variable {q : Quoting} {k : StringRules}

/-- Escapes are written as the dialect has them: the quote, every character of the
table, and whatever would be special as it is. -/
structure Follows (q : Quoting) (k : StringRules) : Prop where
  quote : if q.doubles then k.doubled = true else k.Escapes [quote] quote
  backslash : k.escape? = none ∨ q.escape? backslash ≠ none
  lines : k.multiline = true ∨ q.escape? '\n' ≠ none ∧ q.escape? '\r' ≠ none
  table : ∀ c w, q.escape? c = some w → k.Escapes w c

theorem Follows.spells (h : q.Follows k) (c : Char) : k.Spells (q.writeChar c) c := by
  unfold writeChar
  by_cases hc : c = Dialect.quote
  · subst hc
    have hquote := h.quote
    rw [if_pos rfl]
    cases hdoubles : q.doubles with
    | true => exact StringRules.spells_doubled (by simpa [hdoubles] using hquote)
    | false => exact StringRules.spells_escape (by simpa [hdoubles] using hquote)
  · rw [if_neg hc]
    cases hescape : q.escape? c with
    | some w => exact StringRules.spells_escape (h.table c w hescape)
    | none =>
      apply StringRules.spells_self hc
      · refine h.lines.imp_right fun ⟨hn, hr⟩ => ⟨?_, ?_⟩
        · rintro rfl
          exact hn hescape
        · rintro rfl
          exact hr hescape
      · rintro rfl
        exact h.backslash.resolve_right fun hne => hne hescape

/-- A string is read to its last quote, and no further. -/
theorem Follows.readString?_writeString (h : q.Follows k) (s : List Char) {rest : List Char}
    (hrest : rest.head? ≠ some Dialect.quote) : k.readString? (q.writeString s ++ rest) = some (s, rest) := by
  have hbody : k.readBody? (s.flatMap q.writeChar ++ Dialect.quote :: rest) = some (s, rest) := by
    induction s with
    | nil => exact StringRules.readBody?_end hrest
    | cons c s ih => rw [List.flatMap_cons, List.append_assoc, h.spells c, ih, Option.map_some]
  rw [writeString, List.cons_append, List.cons_append, List.append_assoc, List.singleton_append,
    StringRules.readString?, if_pos rfl, hbody]

-- What follows matters: two strings side by side may read as one.
example : StringRules.standard.readString? (Dialect.generic.writeString "a".toList ++
    Dialect.generic.writeString "b".toList) = some ("a'b".toList, []) := by
  decide +kernel

def Unambiguous (q : Quoting) : Prop := ∀ e ∈ q.sequences, ∀ f ∈ q.sequences, e.2 <+: f.2 → e = f

instance (q : Quoting) : Decidable q.Unambiguous :=
  inferInstanceAs (Decidable (∀ e ∈ q.sequences, ∀ f ∈ q.sequences, e.2 <+: f.2 → e = f))

theorem escapes_sequence (h : q.Unambiguous) {e : Char × List Char} (he : e ∈ q.sequences) :
    q.rules.Escapes e.2 e.1 := by
  have hsome : q.sequences.isEmpty = false := List.isEmpty_eq_false_iff.mpr (List.ne_nil_of_mem he)
  refine ⟨_, by rw [rules, hsome]; rfl, fun r => ?_⟩
  have hprefix : e.2 <+: e.2 ++ r := List.prefix_append ..
  cases hfound : q.sequences.find? (·.2.isPrefixOf (e.2 ++ r)) with
  | none => exact absurd (List.isPrefixOf_iff_prefix.mpr hprefix) (List.find?_eq_none.mp hfound e he)
  | some f =>
    have hf := List.mem_of_find?_eq_some hfound
    have hprefixOf : f.2.isPrefixOf (e.2 ++ r) = true := by simpa using List.find?_some hfound
    have hbegins : f.2 <+: e.2 ++ r := List.isPrefixOf_iff_prefix.mp hprefixOf
    -- Both begin the same text, so one of them begins the other.
    obtain rfl : e = f := by
      rcases List.prefix_or_prefix_of_prefix hprefix hbegins with hef | hfe
      · exact h e he f hf hef
      · exact (h f hf e he hfe).symm
    rfl

theorem follows_rules (h : q.Unambiguous) (hb : q.sequences = [] ∨ q.escape? Dialect.backslash ≠ none) :
    q.Follows q.rules where
  quote := by
    cases hdoubles : q.doubles with
    | true => simp [rules, hdoubles]
    | false =>
      have hmem : (Dialect.quote, [Dialect.quote]) ∈ q.sequences := by simp [sequences, hdoubles]
      simpa using escapes_sequence h hmem
  backslash := hb.imp_left fun hnil => by simp [rules, hnil]
  lines := .inl rfl
  table c w hw := by
    obtain ⟨before, after, hsplit, -⟩ := List.lookup_eq_some_iff.mp hw
    have hmem : (c, w) ∈ q.sequences := by
      unfold sequences
      split <;> simp [hsplit]
    exact escapes_sequence h hmem

end Quoting

theorem Dialect.follows_rules (d : Dialect) : d.quoting.Follows d.quoting.rules := by
  apply Quoting.follows_rules
  · cases d <;> decide +kernel
  · cases d <;> decide +kernel

/-! ## Literals -/

end Prepared
