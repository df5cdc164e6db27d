import Prepared.Proofs.Number.Rounding
import Prepared.Proofs.Rewrite.Reading

/-!
# Numbers keep their value

An integer or a decimal has one text in a rewritten query, wherever it goes: what
it reads as, or its literal. Main statement: this text denotes the number itself,
with all its digits, unless it is the literal of a negative decimal. There the
sign is taken off by arithmetic, and what arithmetic has no room for is lost.
-/

namespace Prepared

open Number Text

/-- The sign and the magnitude of a number: an integer that is not too long to be written, or a decimal. -/
inductive Value.Measures : Value → Bool → ℚ → Prop
  | integer {n : Int} (h : n.natAbs < 10 ^ digitLimit) : Measures (.int n) (decide (n < 0)) n.natAbs
  | decimal (negative : Bool) (coefficient : Nat) (exponent : Int) :
    Measures (.decimal (.finite negative coefficient exponent)) negative (coefficient * 10 ^ exponent)

/-- Arithmetic takes the sign off a decimal that does not read as an integer, and gives its magnitude. -/
structure Number.Decimal.Recomputed (d m : Decimal) : Prop where
  negative : d.isNegative = true
  unread : integer? d.text = none
  reach : d.isInReach = true
  magnitude : d.magnitude? = some m

def Value.IsRecomputed (v : Value) : Prop := ∃ d m, v = .decimal d ∧ d.Recomputed m

/-! ## Literals -/

namespace Number.Decimal

variable {negative : Bool} {coefficient : Nat} {exponent : Int}

theorem Recomputed.number_eq {m : Decimal} (h : (finite negative coefficient exponent).Recomputed m) :
    Literal.number (finite negative coefficient exponent).text = '-' :: m.text := by
  have hread : ofText? (finite negative coefficient exponent).text = some (finite negative coefficient exponent) := by
    rw [ofText?_text, Option.filter_some, if_pos h.reach]
  have hmagnitude : Literal.negativeMagnitude? (finite negative coefficient exponent).text = some m.text := by
    rw [Literal.negativeMagnitude?, h.unread]
    simp only [hread, h.negative, if_true, h.magnitude, Option.map_some]
  rw [Literal.number, hmagnitude]

theorem number_text (h : ∀ m, ¬ (finite negative coefficient exponent).Recomputed m) :
    Literal.number (finite negative coefficient exponent).text = (finite negative coefficient exponent).text := by
  cases hm : Literal.negativeMagnitude? (finite negative coefficient exponent).text with
  | none => rw [Literal.number, hm, (isNumber_text negative coefficient exponent).isSpelling.trim_eq]
  | some s =>
    have hread := integer?_text negative coefficient exponent
    rw [Literal.number, hm]
    rw [Literal.negativeMagnitude?] at hm
    split at hm
    · next n hn =>
      obtain ⟨hlt, hs⟩ := Option.ite_none_right_eq_some.mp hm
      obtain rfl := Option.some.inj hs
      rw [hn] at hread
      obtain ⟨⟨rfl, -⟩, hvalue⟩ := Option.ite_none_right_eq_some.mp hread.symm
      obtain rfl := Option.some.inj hvalue
      cases negative with
      | false => exact absurd hlt (by simp)
      | true => simp [text_zero, signed]
    · next hunread =>
      split at hm
      · next d hd =>
        rw [ofText?_text, Option.filter_eq_some_iff] at hd
        obtain ⟨heq, hreach⟩ := hd
        obtain rfl := Option.some.inj heq
        obtain ⟨hnegative, hm⟩ := Option.ite_none_right_eq_some.mp hm
        obtain ⟨m, hmagnitude, -⟩ := Option.map_eq_some_iff.mp hm
        exact absurd ⟨hnegative, hunread, hreach, hmagnitude⟩ (h m)
      · cases hm

theorem denotes_number_iff (negative : Bool) (coefficient : Nat) (exponent : Int) :
    (∃ y, Denotes (Literal.number (finite negative coefficient exponent).text) negative y) ∧
      (Denotes (Literal.number (finite negative coefficient exponent).text) negative (coefficient * 10 ^ exponent) ↔
        ∀ m, (finite negative coefficient exponent).Recomputed m → Fits arithmetic (coefficient * 10 ^ exponent)) := by
  by_cases h : ∃ m, (finite negative coefficient exponent).Recomputed m
  · obtain ⟨m, hm⟩ := h
    obtain rfl : negative = true := (Bool.and_eq_true_iff.mp hm.negative).1
    obtain ⟨c, e, rfl, hexact⟩ := rounded?_exact_iff (by decide) hm.magnitude
    have hwritten : Denotes (Literal.number (finite true coefficient exponent).text) true (c * 10 ^ e) := by
      rw [hm.number_eq]
      exact denotes_text true c e
    refine ⟨⟨_, hwritten⟩, fun hdenotes _ _ => hexact.mp (hwritten.unique hdenotes).2, fun hfits => ?_⟩
    rw [← hexact.mpr (hfits _ hm)]
    exact hwritten
  · have hnone : ∀ m, ¬ (finite negative coefficient exponent).Recomputed m := not_exists.mp h
    have hdenotes := denotes_text negative coefficient exponent
    rw [number_text hnone]
    exact ⟨⟨_, hdenotes⟩, fun _ m hm => absurd hm (hnone m), fun _ => hdenotes⟩

end Number.Decimal

/-! ## Texts in a query -/

theorem isSpelling_plain {s : List Char} (h : IsSpelling s) : ' ' ∉ s ∧ Dialect.quote ∉ s ∧ '"' ∉ s := by
  have hout (c : Char) (hminus : c ≠ '-') (hword : isWordChar c = false) : c ∉ s := fun hc => by
    rcases h.mem hc with rfl | hc
    · exact hminus rfl
    · rw [hword] at hc
      cases hc
  exact ⟨hout _ (by decide) (by decide), hout _ (by decide) (by decide), hout _ (by decide) (by decide)⟩

theorem Argument.inserted_number {a : Argument} (hkind : a.kind = .integer ∨ a.kind = .float) {s : List Char}
    (hs : a.plainText = .ok s) (hspelling : IsSpelling s) {config : Config}
    (generic : Dialect.ofSetting config.dialect = .ok .generic) (query : List Char) (start : Nat) :
    a.numberedText config query start = .ok (if config.escapes then Literal.number s else s) ∧
      a.sequentialText config = .ok (if config.escapes then Literal.number s else s) := by
  have hbare : a.bareText config = .ok (if config.escapes then Literal.number s else s) := by
    have hliteral : a.literalIn s .generic = Literal.number s := by
      rcases hkind with hk | hk <;> rw [literalIn, hk]
    unfold bareText
    split
    · rw [literal_eq hs, generic, ← hliteral]
      rfl
    · exact hs
  have htext : a.isText = false := by
    rcases hkind with hk | hk <;> rw [isText, hk] <;> rfl
  rw [numberedText_eq_map, sequentialText_eq_map, hbare]
  cases he : config.escapes with
  | true => simp [Except.map, quotedUnless, quotedSpaced, he]
  | false => simp [Except.map, quotedUnless, quotedSpaced, he, htext, (isSpelling_plain hspelling).1]

theorem plainText_integer {n : Int} (h : n.natAbs < 10 ^ digitLimit) :
    (Argument.ofValue (.int n)).plainText = .ok (Decimal.finite (decide (n < 0)) n.natAbs 0).text ∧
      ∀ m, ¬ (Decimal.finite (decide (n < 0)) n.natAbs 0).Recomputed m := by
  constructor
  · have htext : integerText n = .ok (Decimal.finite (decide (n < 0)) n.natAbs 0).text := by
      rw [integerText, Nat.pow_eq, if_pos h, Decimal.text_zero]
    simp only [Argument.plainText, Argument.text, Argument.ofValue, Value.kind, Value.plain, Value.description, htext]
    rfl
  · intro m hm
    have hcount : digitCount n.natAbs ≤ digitLimit := (digitCount_le_iff (by decide)).mpr h
    have hunread := hm.unread
    rw [Decimal.integer?_text, if_pos ⟨rfl, hcount⟩] at hunread
    cases hunread

theorem Value.Measures.exists_text {v : Value} {negative : Bool} {x : ℚ} (h : v.Measures negative x) :
    ((Argument.ofValue v).kind = .integer ∨ (Argument.ofValue v).kind = .float) ∧
      ∃ c e, (Argument.ofValue v).plainText = .ok (Decimal.finite negative c e).text ∧ x = c * 10 ^ e ∧
        (v.IsRecomputed ↔ ∃ m, (Decimal.finite negative c e).Recomputed m) := by
  cases h with
  | @integer n h =>
    obtain ⟨htext, hnone⟩ := plainText_integer h
    refine ⟨Or.inl rfl, n.natAbs, 0, htext, by simp, fun hv => ?_, fun ⟨m, hm⟩ => absurd hm (hnone m)⟩
    obtain ⟨d, m, hd, -⟩ := hv
    cases hd
  | decimal negative c e =>
    refine ⟨Or.inr rfl, c, e, rfl, rfl, fun hv => ?_, fun ⟨m, hm⟩ => ⟨_, m, rfl, hm⟩⟩
    obtain ⟨d, m, hd, hm⟩ := hv
    obtain rfl := Value.decimal.inj hd
    exact ⟨m, hm⟩

/-- An integer or a decimal goes into the query without spaces or quotes, and in
either algorithm alike. What is inserted denotes a number of the same sign. It denotes
the number itself, unless it is a literal whose magnitude is computed: then it does
exactly when arithmetic has room for the number. -/
theorem number_denotes_iff (config : Config) (generic : Dialect.ofSetting config.dialect = .ok .generic)
    (query : List Char) (start : Nat) {v : Value} {negative : Bool} {x : ℚ} (measures : v.Measures negative x) :
    ∃ t, (Argument.ofValue v).numberedText config query start = .ok t ∧
      (Argument.ofValue v).sequentialText config = .ok t ∧ (' ' ∉ t ∧ Dialect.quote ∉ t ∧ '"' ∉ t) ∧
      (∃ y, Denotes t negative y) ∧
      (Denotes t negative x ↔ (config.escapes = true → v.IsRecomputed → Fits Decimal.arithmetic x)) := by
  obtain ⟨hkind, c, e, htext, rfl, hrecomputed⟩ := measures.exists_text
  have hnumber := Decimal.isNumber_text negative c e
  obtain ⟨hnumbered, hsequential⟩ :=
    Argument.inserted_number hkind htext hnumber.isSpelling generic query start
  refine ⟨_, hnumbered, hsequential, ?_⟩
  rw [hrecomputed]
  cases config.escapes with
  | true =>
    obtain ⟨hsome, hiff⟩ := Decimal.denotes_number_iff negative c e
    refine ⟨isSpelling_plain hnumber.number.isSpelling, hsome, hiff.trans ?_⟩
    simp
  | false =>
    have hdenotes := Decimal.denotes_text negative c e
    exact ⟨isSpelling_plain hnumber.isSpelling, ⟨_, hdenotes⟩, fun _ => nofun, fun _ => hdenotes⟩

/-- All the digits that there is room for, and a power of ten that takes the point out of them. -/
theorem number_denotes_iff_room :
    let config : Config := { literalStyle := .escaped }
    let v := Value.decimal (.finite true 1234567890123456789012345678 7)
    let x : ℚ := (1234567890123456789012345678 : Nat) * 10 ^ (7 : Int)
    Dialect.ofSetting config.dialect = .ok .generic ∧ v.Measures true x ∧
      ∃ t, (Argument.ofValue v).numberedText config "-$1".toList 1 = .ok t ∧
        (Argument.ofValue v).sequentialText config = .ok t ∧ Denotes t true x := by
  intro config v x
  have generic : Dialect.ofSetting config.dialect = .ok .generic := rfl
  have measures : v.Measures true x := .decimal true 1234567890123456789012345678 7
  obtain ⟨t, hnumbered, hsequential, -, -, hiff⟩ := number_denotes_iff config generic "-$1".toList 1 measures
  exact ⟨generic, measures, t, hnumbered, hsequential,
    hiff.mpr fun _ _ => ⟨1234567890123456789012345678, 7, by decide +kernel, by decide, rfl⟩⟩

/-- One digit more is rounded away. -/
theorem number_rounded :
    let config : Config := { literalStyle := .escaped }
    let v := Value.decimal (.finite true 12345678901234567890123456789 (-28))
    let x : ℚ := (12345678901234567890123456789 : Nat) * 10 ^ (-28 : Int)
    let t := "-1.234567890123456789012345679".toList
    Dialect.ofSetting config.dialect = .ok .generic ∧ v.Measures true x ∧
      (Argument.ofValue v).numberedText config "$1".toList 0 = .ok t ∧
      (Argument.ofValue v).sequentialText config = .ok t ∧ ¬ Denotes t true x := by
  intro config v x t
  refine ⟨rfl, .decimal true 12345678901234567890123456789 (-28), by decide +kernel, by decide +kernel, fun h => ?_⟩
  have hwritten := Decimal.denotes_text true 1234567890123456789012345679 (-27)
  have htext : (Decimal.finite true 1234567890123456789012345679 (-27)).text = t := by decide +kernel
  rw [htext] at hwritten
  have heq := (hwritten.unique h).2
  rw [show (-27 : Int) = -28 + (1 : Nat) from rfl, scaled_zpow, scaled_inj] at heq
  exact absurd heq (by decide)

end Prepared
