import Mathlib.Data.List.Basic
import Mathlib.Data.List.TakeWhile
import Prepared.Json.Token
import Prepared.Json.Write
import Prepared.Proofs.Number.Digits

/-!
# The tokens of what is written

A string, a word or an integer that has been written is one token again. For
words and integers that takes the character after them: it must neither go on a
word nor a number.
-/

namespace Prepared.Json

open Number Text

def lex (m : Mode) (s : List Char) : List Token := tokensFrom m (s.map some)

@[simp] theorem lex_nil (m : Mode) : lex m [] = ending m := rfl

theorem lex_cons (m : Mode) (c : Char) (s : List Char) :
    lex m (c :: s) = (advance m c).1 ++ lex (advance m c).2 s := rfl

/-- What follows goes on neither a word nor a number. -/
def Parted (rest : List Char) : Prop := ∀ c ∈ rest.head?, isNumberChar c = false ∧ c.isLower = false

@[simp] theorem parted_nil : Parted [] := by
  intro c hc
  cases hc

theorem parted_cons {c : Char} (h : isNumberChar c = false ∧ c.isLower = false) (s : List Char) : Parted (c :: s) := by
  intro d hd
  cases hd
  exact h

/-! ## Strings -/

theorem hex_four {n : Nat} (h : n < 0x20) : hex 4 n = ['0', '0', hexDigit (n / 16), hexDigit (n % 16)] := by
  have h₁ : n / 16 % 16 = n / 16 := Nat.mod_eq_of_lt (by omega)
  have h₂ : n / 16 / 16 = 0 := by omega
  simp only [hex, h₁, h₂]
  rfl

theorem lex_control (s : List Char) {c : Char} (h : c.toNat < 0x20) (rest : List Char) :
    lex (.string s false) ('\\' :: 'u' :: hex 4 c.toNat ++ rest) = lex (.string (c :: s) false) rest := by
  have hzero : hexValue? '0' = some 0 := by decide
  have hhigh := hexValue?_hexDigit (c.toNat / 16) (by omega)
  have hlow := hexValue?_hexDigit (c.toNat % 16) (by omega)
  have hvalue : 16 * (c.toNat / 16) + c.toNat % 16 = c.toNat := Nat.div_add_mod c.toNat 16
  have hunit : unit s false none c.toNat = ([], .string (c :: s) false) := by
    have hlow : ¬ (0xD800 ≤ c.toNat ∧ c.toNat < 0xDC00) := by omega
    have hhigh : ¬ (0xDC00 ≤ c.toNat ∧ c.toNat < 0xE000) := by omega
    simp only [unit, if_neg hlow, if_neg hhigh, Char.ofNat_toNat]
  rw [hex_four h]
  simp [lex_cons, advance, hzero, hhigh, hlow, hvalue, hunit]

theorem lex_escapeChar (s : List Char) (c : Char) (rest : List Char) :
    lex (.string s false) (escapeChar c ++ rest) = lex (.string (c :: s) false) rest := by
  unfold escapeChar
  split
  · next h => rcases h with rfl | rfl <;> rfl
  split
  · next h => subst h; rfl
  split
  · next h => subst h; rfl
  split
  · next h => subst h; rfl
  split
  · next h => rw [← Char.ofNat_toNat c, h]; rfl
  split
  · next h => rw [← Char.ofNat_toNat c, h]; rfl
  split
  · next h => exact lex_control s h rest
  · next hquote _ _ _ _ _ hcontrol =>
    rw [not_or] at hquote
    simp [lex_cons, advance, hquote.1, hquote.2, hcontrol]

theorem lex_escaped (acc s rest : List Char) :
    lex (.string acc false) (s.flatMap escapeChar ++ '"' :: rest) = .text (acc.reverse ++ s) :: lex .between rest := by
  induction s generalizing acc with
  | nil => simp [lex_cons, advance, stringToken]
  | cons c s ih =>
    rw [List.flatMap_cons, List.append_assoc, lex_escapeChar, ih]
    simp

theorem lex_string (s rest : List Char) : lex .between (string s ++ rest) = .text s :: lex .between rest := by
  have hopen : lex .between (string s ++ rest) = lex (.string [] false) (s.flatMap escapeChar ++ '"' :: rest) := by
    simp [string, lex_cons, advance, opening, isSpace]
  rw [hopen, lex_escaped]
  rfl

/-! ## Words -/

theorem lex_collect (mode : List Char → Mode) {w : List Char}
    (hw : ∀ c ∈ w, ∀ acc, advance (mode acc) c = ([], mode (c :: acc))) (acc rest : List Char) :
    lex (mode acc) (w ++ rest) = lex (mode (w.reverse ++ acc)) rest := by
  induction w generalizing acc with
  | nil => rfl
  | cons c w ih =>
    rw [List.cons_append, lex_cons, hw c (List.mem_cons_self ..)]
    simp only [List.nil_append]
    rw [ih (fun d hd => hw d (List.mem_cons_of_mem _ hd))]
    simp

theorem lex_word_end (acc : List Char) {rest : List Char} (h : Parted rest) :
    lex (.word acc) rest = wordToken acc.reverse :: lex .between rest := by
  cases rest with
  | nil => rfl
  | cons c rest => simp [lex_cons, advance, (h c rfl).2]

theorem lex_lower {c : Char} {w : List Char} (hc : opening c = ([], .word [c])) (hw : w.all Char.isLower = true)
    {rest : List Char} (hrest : Parted rest) :
    lex .between (c :: w ++ rest) = wordToken (c :: w) :: lex .between rest := by
  rw [List.cons_append, lex_cons]
  simp only [advance, hc, List.nil_append]
  have hlower := List.all_eq_true.mp hw
  rw [lex_collect .word (fun d hd acc => by simp [advance, hlower d hd]), lex_word_end _ hrest]
  simp

/-! ## Numbers -/

theorem opening_of_isNumberChar {c : Char} (h : isNumberChar c = true) : opening c = ([], .number [c]) := by
  have hne : ∀ d, isNumberChar d = false → c ≠ d := by
    rintro d hd rfl
    exact absurd h (by simp [hd])
  have hspace : isSpace c = false := by
    simp [isSpace, hne ' ' rfl, hne '\t' rfl, hne '\n' rfl, hne '\r' rfl]
  simp [opening, h, hspace, hne '"' rfl, hne '[' rfl, hne ']' rfl, hne (Char.ofNat 0x7B) rfl,
    hne (Char.ofNat 0x7D) rfl, hne ':' rfl, hne ',' rfl]

theorem lex_number_end (acc : List Char) {rest : List Char} (h : Parted rest) :
    lex (.number acc) rest = numberTokens acc.reverse ++ lex .between rest := by
  cases rest with
  | nil => simp [ending]
  | cons c rest => simp [lex_cons, advance, (h c rfl).1]

theorem lex_numberChars {w : List Char} (hne : w ≠ []) (hw : ∀ c ∈ w, isNumberChar c = true) {rest : List Char}
    (h : Parted rest) : lex .between (w ++ rest) = numberTokens w ++ lex .between rest := by
  obtain ⟨c, w, rfl⟩ := List.exists_cons_of_ne_nil hne
  rw [List.cons_append, lex_cons]
  simp only [advance, opening_of_isNumberChar (hw c (List.mem_cons_self ..)), List.nil_append]
  have hrest : ∀ d ∈ w, isNumberChar d = true := fun d hd => hw d (List.mem_cons_of_mem _ hd)
  rw [lex_collect .number (fun d hd acc => by simp [advance, hrest d hd]), lex_number_end _ h]
  simp

theorem digitsAfter_of_digits {ds : List Char} (hds : ∀ c ∈ ds, isDigit c = true) (hne : ds ≠ []) :
    digitsAfter ds = some (ds, []) := by
  rw [digitsAfter, List.takeWhile_eq_self_iff.mpr hds, List.dropWhile_eq_nil_iff.mpr hds, if_neg (by simp [hne])]

theorem number?_signed (negative : Bool) {ds : List Char} (hds : ∀ c ∈ ds, isDigit c = true) (hne : ds ≠ [])
    (hzero : ds.head? ≠ some '0' ∨ ds.length = 1) :
    number? (signed negative ds) = some (wholeNumber negative ds, []) := by
  have hnoSign : ∀ r, ds ≠ '-' :: r := by
    rintro r rfl
    exact absurd (hds '-' (List.mem_cons_self ..)) (by decide)
  unfold number?
  split
  next minus r heq =>
    have hsplit : minus = negative ∧ r = ds := by
      cases negative with
      | true =>
        obtain ⟨rfl, rfl⟩ := Prod.mk.inj heq
        exact ⟨rfl, rfl⟩
      | false =>
        split at heq
        · next r' hs => exact absurd hs (hnoSign r')
        · obtain ⟨rfl, rfl⟩ := Prod.mk.inj heq
          exact ⟨rfl, rfl⟩
    obtain ⟨rfl, rfl⟩ := hsplit
    rw [digitsAfter_of_digits hds hne]
    change Option.bind (guard (r.head? ≠ some '0' ∨ r.length = 1)) _ = _
    rw [guard, if_pos hzero]
    rfl

theorem isNumberChar_of_isDigit {c : Char} (h : isDigit c = true) : isNumberChar c = true := by
  simp [isNumberChar, h]

theorem isNumberChar_of_mem_signed {negative : Bool} {ds : List Char} (hds : ∀ c ∈ ds, isDigit c = true) :
    ∀ c ∈ signed negative ds, isNumberChar c = true := by
  intro c hc
  cases negative with
  | true =>
    rcases List.mem_cons.mp hc with rfl | hc
    · rfl
    · exact isNumberChar_of_isDigit (hds c hc)
  | false => exact isNumberChar_of_isDigit (hds c hc)

theorem signed_ne_nil (negative : Bool) {ds : List Char} (hne : ds ≠ []) : signed negative ds ≠ [] := by
  cases negative with
  | true => exact List.cons_ne_nil '-' ds
  | false => exact hne

theorem wholeNumber_toDigits {i : Int} (h : i.natAbs < 10 ^ digitLimit) :
    wholeNumber (i < 0) (Nat.toDigits 10 i.natAbs) = .literal (.int i) := by
  rw [wholeNumber, readDigits_toDigits h]
  by_cases hi : i < 0
  · have habs : -(i.natAbs : Int) = i := by omega
    rw [decide_eq_true hi]
    exact congrArg (fun j => Token.literal (.int j)) habs
  · have habs : (i.natAbs : Int) = i := by omega
    rw [decide_eq_false hi]
    exact congrArg (fun j => Token.literal (.int j)) habs

theorem lex_integer {i : Int} {s : List Char} (h : integerText i = .ok s) {rest : List Char} (hrest : Parted rest) :
    lex .between (s ++ rest) = .literal (.int i) :: lex .between rest := by
  have hpow : ∀ k, Nat.pow 10 k = 10 ^ k := fun _ => rfl
  rw [integerText, hpow] at h
  split at h
  · next hfew =>
    obtain rfl := Except.ok.inj h
    have hds : ∀ c ∈ Nat.toDigits 10 i.natAbs, isDigit c = true := fun c hc => isDigit_of_mem_toDigits hc
    have hzero : (Nat.toDigits 10 i.natAbs).head? ≠ some '0' ∨ (Nat.toDigits 10 i.natAbs).length = 1 := by
      by_cases hi : i.natAbs = 0
      · right; rw [hi]; rfl
      · exact .inl (head?_toDigits hi)
    rw [lex_numberChars (signed_ne_nil _ Nat.toDigits_ne_nil) (isNumberChar_of_mem_signed hds) hrest, numberTokens,
      number?_signed _ hds Nat.toDigits_ne_nil hzero, wholeNumber_toDigits hfew]
    rfl
  · cases h

/-! ## No controls -/

def Visible (s : List Char) : Prop := ∀ c ∈ s, 0x20 ≤ c.toNat

instance (s : List Char) : Decidable (Visible s) := List.decidableBAll (fun c : Char => 0x20 ≤ c.toNat) s

theorem visible_cons {c : Char} {s : List Char} (hc : 0x20 ≤ c.toNat) (hs : Visible s) : Visible (c :: s) := by
  intro d hd
  rcases List.mem_cons.mp hd with rfl | hd
  · exact hc
  · exact hs d hd

theorem visible_append {s t : List Char} (hs : Visible s) (ht : Visible t) : Visible (s ++ t) := by
  intro c hc
  rcases List.mem_append.mp hc with hc | hc
  · exact hs c hc
  · exact ht c hc

theorem visible_escapeChar (c : Char) : Visible (escapeChar c) := by
  unfold escapeChar
  split
  · next h => rcases h with rfl | rfl <;> decide
  split
  · decide
  split
  · decide
  split
  · decide
  split
  · decide
  split
  · decide
  split
  · next h =>
    have hdigit : ∀ d < 16, 0x20 ≤ (hexDigit d).toNat := by decide
    rw [hex_four h]
    refine visible_cons (by decide) (visible_cons (by decide) (visible_cons (by decide) (visible_cons (by decide) ?_)))
    exact visible_cons (hdigit _ (by omega)) (visible_cons (hdigit _ (by omega)) (by decide))
  · next h => exact visible_cons (Nat.not_lt.mp h) (by decide)

theorem visible_string (s : List Char) : Visible (string s) := by
  refine visible_append (visible_cons (by decide) fun c hc => ?_) (by decide)
  obtain ⟨d, -, hc⟩ := List.mem_flatMap.mp hc
  exact visible_escapeChar d c hc

theorem visible_integerText {i : Int} {s : List Char} (h : integerText i = .ok s) : Visible s := by
  have hdigits : Visible (Nat.toDigits 10 i.natAbs) := by
    intro c hc
    have hdigit := isDigit_of_mem_toDigits hc
    simp only [isDigit, Bool.and_eq_true, decide_eq_true_eq, Char.le_def, UInt32.le_iff_toNat_le] at hdigit
    exact Nat.le_trans (by decide) hdigit.1
  unfold integerText at h
  split at h
  · obtain rfl := Except.ok.inj h
    unfold signed
    split
    · exact visible_cons (by decide) hdigits
    · exact hdigits
  · cases h

end Prepared.Json
