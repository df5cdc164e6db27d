import Mathlib.Algebra.Order.Field.Basic
import Mathlib.Data.Rat.Cast.Order
import Prepared.Proofs.Literal.Number

/-!
# What a text denotes

A text in the notation of numbers denotes a sign and a magnitude: its digits,
read as one whole number, times a power of ten. Main statements: a text denotes
one number at most, the text of an integer and that of a decimal denote them,
whatever their digits and exponents, and both are read back from their texts.
-/

namespace Prepared.Number

open Text

inductive FractionOf : List Char → List Char → Prop
  | absent : FractionOf [] []
  | point {ds : List Char} (h : IsDigits ds) : FractionOf ('.' :: ds) ds

inductive ExponentOf : List Char → Int → Prop
  | absent : ExponentOf [] 0
  | power {e : Char} {ds : List Char} (letter : e = 'e' ∨ e = 'E') (h : IsDigits ds) :
    ExponentOf (e :: ds) (digitsValue ds)
  | plus {e : Char} {ds : List Char} (letter : e = 'e' ∨ e = 'E') (h : IsDigits ds) :
    ExponentOf (e :: '+' :: ds) (digitsValue ds)
  | minus {e : Char} {ds : List Char} (letter : e = 'e' ∨ e = 'E') (h : IsDigits ds) :
    ExponentOf (e :: '-' :: ds) (-digitsValue ds)

/-- The digits of a numeral without a sign, those behind the point apart, and its power of ten. -/
inductive NumeralOf : List Char → List Char → List Char → Int → Prop
  | intro {whole fraction exponent ds : List Char} {e : Int} (hwhole : IsDigits whole)
      (hfraction : FractionOf fraction ds) (hexponent : ExponentOf exponent e) :
    NumeralOf (whole ++ fraction ++ exponent) whole ds e

/-- The number that a text denotes: the minus sign, if there is one, and the magnitude. -/
def Denotes (s : List Char) (negative : Bool) (x : ℚ) : Prop :=
  ∃ m whole ds e, s = signed negative m ∧ NumeralOf m whole ds e ∧
    x = digitsValue (whole ++ ds) * 10 ^ (e - ds.length)

/-! ## Reading -/

theorem takeWhile_isDigit {ds r : List Char} (hds : ∀ c ∈ ds, isDigit c = true)
    (hr : ∀ c ∈ r.head?, isDigit c = false) :
    (ds ++ r).takeWhile isDigit = ds ∧ (ds ++ r).dropWhile isDigit = r := by
  have htake : r.takeWhile isDigit = [] := by
    cases r with
    | nil => rfl
    | cons c r => rw [List.takeWhile_cons, hr c rfl]; rfl
  have hdrop : r.dropWhile isDigit = r := by
    cases r with
    | nil => rfl
    | cons c r => rw [List.dropWhile_cons, hr c rfl]; rfl
  rw [List.takeWhile_append_of_pos hds, List.dropWhile_append_of_pos hds, htake, hdrop, List.append_nil]
  exact ⟨rfl, rfl⟩

theorem signed_inj {negative : Bool} {m m' : List Char} : signed negative m = signed negative m' ↔ m = m' := by
  cases negative <;> simp [signed]

theorem splitSign_digits {ds : List Char} (h : IsDigits ds) : splitSign ds = (false, ds) := by
  obtain ⟨c, r, rfl⟩ := List.exists_cons_of_ne_nil h.1
  exact splitSign_signed false r (Or.inr (h.2 c (by simp)))

theorem fractionPart_eq {s : List Char} (h : ∀ c ∈ s.head?, c ≠ '.') : fractionPart s = ([], s) := by
  unfold fractionPart
  split
  · next r => exact absurd rfl (h '.' rfl)
  · rfl

namespace ExponentOf

variable {s : List Char} {e : Int} (h : ExponentOf s e)
include h

theorem head?_eq : ∀ c ∈ s.head?, isDigit c = false ∧ c ≠ '.' := by
  cases h with
  | absent => exact nofun
  | power letter | plus letter | minus letter =>
    rintro c ⟨⟩
    rcases letter with rfl | rfl <;> decide

theorem exponentPart?_eq : exponentPart? s = some e := by
  cases h with
  | absent => rfl
  | power letter hds =>
    rw [exponentPart?, if_pos letter, splitSign_digits hds]
    simp [hds.1, List.all_eq_true.mpr hds.2]
  | plus letter hds =>
    rw [exponentPart?, if_pos letter]
    simp [splitSign, hds.1, List.all_eq_true.mpr hds.2]
  | minus letter hds =>
    rw [exponentPart?, if_pos letter]
    simp [splitSign, hds.1, List.all_eq_true.mpr hds.2]

end ExponentOf

theorem NumeralOf.decimalPart?_eq {m whole ds : List Char} {e : Int} (h : NumeralOf m whole ds e) (negative : Bool) :
    decimalPart? negative m = some (.finite negative whole ds e) := by
  obtain ⟨hwhole, hfraction, hexponent⟩ := h
  have hexp := hexponent.head?_eq
  cases hfraction with
  | absent =>
    rename_i exponent
    obtain ⟨htake, hdrop⟩ := takeWhile_isDigit hwhole.2 fun c hc => (hexp c hc).1
    have hnone := fractionPart_eq fun c hc => (hexp c hc).2
    rw [List.append_nil, decimalPart?, htake, hdrop, hnone]
    simp [hwhole.1, hexponent.exponentPart?_eq]
  | point hds =>
    rename_i exponent
    have hpoint : ∀ c ∈ (('.' :: ds) ++ exponent).head?, isDigit c = false := by
      rintro c ⟨⟩
      rfl
    obtain ⟨htake, hdrop⟩ := takeWhile_isDigit hwhole.2 hpoint
    obtain ⟨htake', hdrop'⟩ := takeWhile_isDigit hds.2 fun c hc => (hexp c hc).1
    rw [List.append_assoc, decimalPart?, htake, hdrop]
    simp [fractionPart, hwhole.1, htake', hdrop', hexponent.exponentPart?_eq]

theorem NumeralOf.cons {m whole ds : List Char} {e : Int} (h : NumeralOf m whole ds e) :
    ∃ c r, m = c :: r ∧ isDigit c = true := by
  obtain ⟨hwhole, -, -⟩ := h
  obtain ⟨c, r, rfl⟩ := List.exists_cons_of_ne_nil hwhole.1
  exact ⟨c, _, rfl, hwhole.2 c (by simp)⟩

theorem NumeralOf.ofText?_eq {m whole ds : List Char} {e : Int} (h : NumeralOf m whole ds e) (negative : Bool) :
    Numeral.ofText? (signed negative m) = some (.finite negative whole ds e) := by
  obtain ⟨c, r, rfl, hc⟩ := h.cons
  rw [Numeral.ofText?_digit negative r hc, h.decimalPart?_eq]

theorem Denotes.unique {s : List Char} {negative negative' : Bool} {x x' : ℚ} (h : Denotes s negative x)
    (h' : Denotes s negative' x') : negative = negative' ∧ x = x' := by
  obtain ⟨m, whole, ds, e, rfl, hm, rfl⟩ := h
  obtain ⟨m', whole', ds', e', hs, hm', rfl⟩ := h'
  have heq := hm.ofText?_eq negative
  rw [hs, hm'.ofText?_eq negative'] at heq
  obtain ⟨rfl, rfl, rfl, rfl⟩ := Numeral.finite.inj (Option.some.inj heq)
  exact ⟨rfl, rfl⟩

/-! ## Texts -/

theorem digitsValue_zeros (n : Nat) (ds : List Char) : digitsValue (List.replicate n '0' ++ ds) = digitsValue ds := by
  have hzeros : digitsValue (List.replicate n '0') = 0 := by
    induction n with
    | zero => rfl
    | succ n ih =>
      rw [List.replicate_succ', digitsValue_append, ih]
      rfl
  rw [digitsValue_append, hzeros, Nat.mul_zero, Nat.zero_add]

theorem IsDigits.pointed_of_le {ds : List Char} (hds : IsDigits ds) {place : Int} (h : place ≤ ds.length) :
    ∃ whole fraction fs, Decimal.pointed ds place = whole ++ fraction ∧ IsDigits whole ∧ FractionOf fraction fs ∧
      digitsValue (whole ++ fs) = digitsValue ds ∧ (fs.length : Int) = ds.length - place := by
  unfold Decimal.pointed
  split
  · have hzeros : ['0'] ++ (List.replicate (-place).toNat '0' ++ ds) =
        List.replicate ((-place).toNat + 1) '0' ++ ds := by
      simp [List.replicate_succ]
    refine ⟨['0'], _, List.replicate (-place).toNat '0' ++ ds, rfl, by decide, .point (hds.zeros_append _), ?_, ?_⟩
    · rw [hzeros, digitsValue_zeros]
    · rw [List.length_append, List.length_replicate]
      omega
  · split
    · have hnone : place.toNat - ds.length = 0 := by omega
      refine ⟨ds, [], [], by simp [hnone], hds, .absent, by rw [List.append_nil], ?_⟩
      rw [List.length_nil]
      omega
    · refine ⟨_, _, _, rfl, hds.take (by omega), .point (hds.drop (by omega)), ?_, ?_⟩
      · rw [List.take_append_drop]
      · rw [List.length_drop]
        omega

namespace Decimal

theorem exponentOf_exponentText (e : Int) : ExponentOf (exponentText e) e := by
  have hds := isDigits_toDigits e.natAbs
  unfold exponentText
  split
  · have h : ExponentOf ('E' :: '-' :: Nat.toDigits 10 e.natAbs) _ := .minus (Or.inr rfl) hds
    have hneg : -(e.natAbs : Int) = e := by omega
    rwa [digitsValue_toDigits, hneg] at h
  · have h : ExponentOf ('E' :: '+' :: Nat.toDigits 10 e.natAbs) _ := .plus (Or.inr rfl) hds
    have hpos : (e.natAbs : Int) = e := by omega
    rwa [digitsValue_toDigits, hpos] at h

theorem pointed_numeralOf (coefficient : Nat) (place : Int) {e : Int} {t : List Char}
    (hplace : place ≤ (Nat.toDigits 10 coefficient).length) (ht : ExponentOf t e) :
    ∃ whole ds, NumeralOf (pointed (Nat.toDigits 10 coefficient) place ++ t) whole ds e ∧
      digitsValue (whole ++ ds) = coefficient ∧
      e - ds.length = e + place - (Nat.toDigits 10 coefficient).length := by
  obtain ⟨whole, fraction, ds, hsplit, hwhole, hfraction, hvalue, hlength⟩ :=
    (isDigits_toDigits coefficient).pointed_of_le hplace
  refine ⟨whole, ds, ?_, by rw [hvalue, digitsValue_toDigits], by omega⟩
  rw [hsplit]
  exact .intro hwhole hfraction ht

theorem text_numeralOf (negative : Bool) (coefficient : Nat) (exponent : Int) :
    ∃ m whole ds e, (Decimal.finite negative coefficient exponent).text = signed negative m ∧
      NumeralOf m whole ds e ∧ digitsValue (whole ++ ds) = coefficient ∧ e - ds.length = exponent := by
  have hpos : 0 < (Nat.toDigits 10 coefficient).length := List.length_pos_iff.mpr Nat.toDigits_ne_nil
  have hplain (place : Int) (hplace : place ≤ (Nat.toDigits 10 coefficient).length) :=
    pointed_numeralOf coefficient place hplace .absent
  simp only [List.append_nil] at hplain
  unfold text
  dsimp only
  split
  · obtain ⟨whole, ds, hm, hvalue, hexponent⟩ :=
      hplain (exponent + (Nat.toDigits 10 coefficient).length) (by omega)
    exact ⟨_, whole, ds, 0, rfl, hm, hvalue, by omega⟩
  · split
    · obtain ⟨whole, ds, hm, hvalue, hexponent⟩ := hplain 1 (by omega)
      exact ⟨_, whole, ds, 0, rfl, hm, hvalue, by omega⟩
    · obtain ⟨whole, ds, hm, hvalue, hexponent⟩ :=
        pointed_numeralOf coefficient 1 (by omega) (exponentOf_exponentText _)
      exact ⟨_, whole, ds, _, rfl, hm, hvalue, by omega⟩

theorem denotes_text (negative : Bool) (coefficient : Nat) (exponent : Int) :
    Denotes (Decimal.finite negative coefficient exponent).text negative (coefficient * 10 ^ exponent) := by
  obtain ⟨m, whole, ds, e, htext, hm, hvalue, hexponent⟩ := text_numeralOf negative coefficient exponent
  exact ⟨m, whole, ds, e, htext, hm, by rw [hvalue, hexponent]⟩

theorem isNumber_text (negative : Bool) (coefficient : Nat) (exponent : Int) :
    IsNumber (Decimal.finite negative coefficient exponent).text :=
  ⟨negative, text_finite negative coefficient exponent⟩

/-- A decimal is read back from its text. -/
theorem ofText?_text (negative : Bool) (coefficient : Nat) (exponent : Int) :
    ofText? (Decimal.finite negative coefficient exponent).text =
      (some (.finite negative coefficient exponent)).filter isInReach := by
  obtain ⟨m, whole, ds, e, htext, hm, hvalue, hexponent⟩ := text_numeralOf negative coefficient exponent
  rw [ofText?, (isNumber_text negative coefficient exponent).isSpelling.plainDigits_eq, htext, hm.ofText?_eq]
  simp only [Option.map_some, ofNumeral, hvalue, hexponent]

end Decimal

/-! ## Integers -/

theorem anyDigit?_of_isDigit {c : Char} (h : isDigit c = true) : anyDigit? c = some (digitValue c) := by
  have hlt : c.toNat < 0x80 := by
    simp only [isDigit, Bool.and_eq_true, decide_eq_true_eq] at h
    exact Nat.lt_of_le_of_lt h.2 (by decide)
  exact forall_ascii (p := fun c => isDigit c = true → anyDigit? c = some (digitValue c)) (by decide +kernel) hlt h

theorem groupedDigits?_digits {ds : List Char} (h : IsDigits ds) : groupedDigits? ds = some (ds.map digitValue) := by
  obtain ⟨c, r, rfl⟩ := List.exists_cons_of_ne_nil h.1
  induction r generalizing c with
  | nil => simp [groupedDigits?, anyDigit?_of_isDigit (h.2 c (by simp))]
  | cons d r ih =>
    have hrest := ih d ⟨by simp, fun x hx => h.2 x (by simp [hx])⟩
    have hd : d ≠ '_' := by
      rintro rfl
      exact absurd (h.2 '_' (by simp)) (by decide)
    rw [groupedDigits?]
    · simp [anyDigit?_of_isDigit (h.2 c (by simp)), hrest]
    · simp
    · rintro rest heq
      exact hd (List.cons.inj heq).1

theorem groupedDigits?_eq_none {s : List Char} {c : Char} (hc : c ∈ s) (hnone : anyDigit? c = none) (hne : c ≠ '_') :
    groupedDigits? s = none := by
  fun_induction groupedDigits? s with
  | case1 => cases hc
  | case2 d =>
    obtain rfl := List.mem_singleton.mp hc
    rw [hnone]
    rfl
  | case3 d r ih =>
    rcases List.mem_cons.mp hc with rfl | hc
    · simp [hnone]
    · rcases List.mem_cons.mp hc with rfl | hc
      · exact absurd rfl hne
      · simp [ih hc]
  | case4 d r _ _ ih =>
    rcases List.mem_cons.mp hc with rfl | hc
    · simp [hnone]
    · simp [ih hc]

theorem placesValue_map (ds : List Char) : placesValue (ds.map digitValue) = digitsValue ds := by
  rw [placesValue, List.foldl_map]
  rfl

theorem integer?_signed (negative : Bool) {c : Char} {r : List Char} (hc : isDigit c = true)
    (h : IsSpelling (signed negative (c :: r))) :
    integer? (signed negative (c :: r)) = (groupedDigits? (c :: r)).bind fun ds =>
      if ds.length ≤ digitLimit then some (if negative then -(placesValue ds : Int) else placesValue ds)
      else none := by
  rw [integer?, h.trim_eq, splitSign_signed negative r (Or.inr hc)]
  refine Option.bind_congr fun ds _ => ?_
  by_cases hlength : ds.length ≤ digitLimit <;> simp [hlength, guard]

namespace Decimal

theorem text_zero (negative : Bool) (coefficient : Nat) :
    (Decimal.finite negative coefficient 0).text = signed negative (Nat.toDigits 10 coefficient) := by
  have hpos : 0 < (Nat.toDigits 10 coefficient).length := List.length_pos_iff.mpr Nat.toDigits_ne_nil
  have hplain : (0 : Int) ≤ 0 ∧ -6 < 0 + ((Nat.toDigits 10 coefficient).length : Int) := by omega
  unfold text
  dsimp only
  rw [if_pos hplain, pointed_of_length_le Nat.toDigits_ne_nil (by omega)]
  simp

theorem text_mark (negative : Bool) (coefficient : Nat) {exponent : Int} (h : exponent ≠ 0) :
    ∃ m, (Decimal.finite negative coefficient exponent).text = signed negative m ∧ ('.' ∈ m ∨ 'E' ∈ m) := by
  have hpos : 0 < (Nat.toDigits 10 coefficient).length := List.length_pos_iff.mpr Nat.toDigits_ne_nil
  refine ⟨_, rfl, ?_⟩
  split
  · left
    unfold pointed
    split
    · simp
    · rw [if_neg (by omega)]
      simp
  · rw [if_neg (by omega)]
    right
    simp [exponentText]

theorem integer?_text (negative : Bool) (coefficient : Nat) (exponent : Int) :
    integer? (Decimal.finite negative coefficient exponent).text =
      if exponent = 0 ∧ digitCount coefficient ≤ digitLimit then
        some (if negative then -(coefficient : Int) else coefficient)
      else none := by
  have hspelling := (isNumber_text negative coefficient exponent).isSpelling
  by_cases hzero : exponent = 0
  · subst hzero
    have hds := isDigits_toDigits coefficient
    obtain ⟨c, r, hcons, hc⟩ := hds.isNumeral.cons
    rw [text_zero, hcons] at hspelling
    rw [text_zero, hcons, integer?_signed negative hc hspelling, ← hcons, groupedDigits?_digits hds]
    simp [placesValue_map, digitsValue_toDigits, digitCount]
  · obtain ⟨m, htext, hmark⟩ := text_mark negative coefficient hzero
    obtain ⟨m', whole, ds, e, htext', hm, -⟩ := text_numeralOf negative coefficient exponent
    obtain rfl := signed_inj.mp (htext'.symm.trans htext)
    obtain ⟨c, r, rfl, hc⟩ := hm.cons
    have hgroups : groupedDigits? (c :: r) = none := by
      rcases hmark with hmark | hmark
      · exact groupedDigits?_eq_none hmark (by decide) (by decide)
      · exact groupedDigits?_eq_none hmark (by decide) (by decide)
    rw [htext] at hspelling ⊢
    rw [integer?_signed negative hc hspelling, hgroups, if_neg fun h => hzero h.1]
    rfl

end Decimal
end Prepared.Number
