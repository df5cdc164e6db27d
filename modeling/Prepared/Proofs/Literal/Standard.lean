import Prepared.Proofs.Literal.Strings
import Prepared.Proofs.Rewrite.Reading

/-!
# Standard literals

The literals of the generic dialect: the null, the truth values, strings and
numbers. What is no finite number has a word for its text, and the word is
written as if it were a number. Main statement: the literal of a value is a
standard one exactly when the value is not one of these.
-/

namespace Prepared

open Number Text

/-- The null, a truth value, a string or a number, as the standard has them. -/
inductive IsStandardLiteral : List Char → Prop
  | null : IsStandardLiteral "NULL".toList
  | boolean (b : Bool) : IsStandardLiteral (if b then "TRUE" else "FALSE").toList
  | string {t s : List Char} (h : StringRules.standard.readString? t = some (s, [])) : IsStandardLiteral t
  | number {t : List Char} (h : IsNumber t) : IsStandardLiteral t

namespace Number

theorem IsNonFiniteWord.not_isStandardLiteral {s : List Char} (h : IsNonFiniteWord s) : ¬ IsStandardLiteral s := by
  obtain ⟨negative, w, ds, rfl, hw, -⟩ := h
  intro hs
  generalize heq : signed negative (w ++ ds) = t at hs
  cases hs with
  | null => fin_cases hw <;> cases negative <;> simp [signed] at heq
  | boolean b => fin_cases hw <;> cases negative <;> cases b <;> simp [signed] at heq
  | string hs =>
    have hquote := StringRules.head?_of_readString? hs
    fin_cases hw <;> cases negative <;> subst heq <;> cases hquote
  | number hs =>
    obtain ⟨c, r, rfl, hc, -⟩ := cons_of_nonFiniteWord hw
    obtain ⟨negative', m, rfl, hm⟩ := hs
    obtain ⟨d, q, rfl, hd⟩ := hm.cons
    -- Behind its sign the one begins with a letter, the other with a digit.
    have hsplit := congrArg splitSign heq
    rw [List.cons_append, splitSign_signed negative _ (Or.inl hc), splitSign_signed negative' _ (Or.inr hd)] at hsplit
    obtain rfl : c = d := by simp_all
    rw [(isAlpha_of_isDigit hd).1] at hc
    cases hc

theorem IsNotation.isStandardLiteral {finite : Bool} {t : List Char} (h : IsNotation finite t) :
    if finite then IsStandardLiteral t else IsNonFiniteWord t := by
  cases finite with
  | true => exact .number h
  | false => exact h

end Number

/-! ## Values -/

theorem isStandardLiteral_writeString (s : List Char) : IsStandardLiteral (Dialect.generic.writeString s) := by
  have hend : ([] : List Char).head? ≠ some Dialect.quote := by simp
  have hread := (Dialect.follows_rules .generic).readString?_writeString s hend
  rw [List.append_nil] at hread
  exact .string hread

theorem isStandardLiteral_literalIn {v : Value} {s : List Char} (hs : (Argument.mk v.kind v).plainText = .ok s) :
    if v.isFinite then IsStandardLiteral ((Argument.mk v.kind v).literalIn s .generic)
    else IsNonFiniteWord ((Argument.mk v.kind v).literalIn s .generic) := by
  unfold Argument.literalIn
  have hfinite (h : v.kind ≠ .float) : v.isFinite = true := isFinite_of_kind h
  cases hk : v.kind with
  | null =>
    rw [if_pos (hfinite (by simp [hk]))]
    exact .null
  | boolean =>
    rw [if_pos (hfinite (by simp [hk]))]
    change IsStandardLiteral (Dialect.generic.writeBool v.truthy)
    cases v.truthy with
    | true => exact .boolean true
    | false => exact .boolean false
  | integer => exact (isNotation_plainText (Or.inl hk) hs).number.isStandardLiteral
  | float => exact (isNotation_plainText (Or.inr hk) hs).number.isStandardLiteral
  | text | other =>
    rw [if_pos (hfinite (by simp [hk]))]
    exact isStandardLiteral_writeString s

/-- The generic dialect has a standard literal for every value, unless that stands for an
infinity or for no number: its literal is a bare word, which is no standard literal. -/
theorem literal_standard_iff {setting : Value} (generic : Dialect.ofSetting setting = .ok .generic) {v : Value}
    (unwrapped : v.IsUnwrapped) (renders : (Argument.ofValue v).HasText) :
    ∃ t, (Argument.ofValue v).literal setting = .ok t ∧ (IsStandardLiteral t ↔ v.isFinite = true) ∧
      (v.isFinite = false → IsNonFiniteWord t) := by
  obtain ⟨s, hs⟩ := renders
  refine ⟨_, by rw [Argument.literal_eq hs, generic]; rfl, ?_⟩
  rw [Argument.ofValue_eq unwrapped] at hs ⊢
  have hwritten := isStandardLiteral_literalIn hs
  cases hfinite : v.isFinite with
  | true =>
    rw [hfinite] at hwritten
    exact ⟨iff_of_true hwritten rfl, nofun⟩
  | false =>
    rw [hfinite] at hwritten
    exact ⟨iff_of_false (IsNonFiniteWord.not_isStandardLiteral hwritten) Bool.false_ne_true, fun _ => hwritten⟩

/-- A signaling value with a payload, and an infinity, whose word changes. -/
theorem literal_standard_iff_words :
    let v := Value.decimal (.nan true true 7)
    let w := Value.float (.infinity true)
    Dialect.ofSetting .null = .ok .generic ∧ v.IsUnwrapped ∧ (Argument.ofValue v).HasText ∧
      w.IsUnwrapped ∧ (Argument.ofValue w).HasText ∧
      (∃ t, (Argument.ofValue v).literal .null = .ok t ∧ (IsStandardLiteral t ↔ v.isFinite = true) ∧
        (v.isFinite = false → IsNonFiniteWord t)) ∧
      ∃ t, (Argument.ofValue w).literal .null = .ok t ∧ (IsStandardLiteral t ↔ w.isFinite = true) ∧
        (w.isFinite = false → IsNonFiniteWord t) := by
  intro v w
  have generic : Dialect.ofSetting .null = .ok .generic := rfl
  have hv : (Argument.ofValue v).HasText := ⟨_, rfl⟩
  have hw : (Argument.ofValue w).HasText := ⟨_, rfl⟩
  exact ⟨generic, nofun, hv, nofun, hw, literal_standard_iff generic nofun hv,
    literal_standard_iff generic nofun hw⟩

/-- What is no number is written without quotes. -/
theorem literal_bareWord :
    let v := Value.float .nan
    Dialect.ofSetting .null = .ok .generic ∧ v.IsUnwrapped ∧ (Argument.ofValue v).HasText ∧
      (Argument.ofValue v).literal .null = .ok "nan".toList ∧ ¬ IsStandardLiteral "nan".toList := by
  refine ⟨rfl, nofun, ⟨_, rfl⟩, by decide +kernel, ?_⟩
  exact IsNonFiniteWord.not_isStandardLiteral ⟨false, "nan".toList, [], rfl, by decide, nofun⟩

end Prepared
