import Mathlib.Algebra.Group.Nat.Defs
import Mathlib.Data.List.Infix
import Mathlib.Order.Monotone.Basic
import Mathlib.Tactic.SplitIfs
import Prepared.Text.Utf8

/-!
# What octets read as

Octets read as characters and gaps, from left to right. Where the octets of a
character stand, they read as that character. Where none stands, what a
character begins with reads as one gap, as far as it goes, and one octet if no
character begins so. The decoder does not look ahead; it knows the characters
that can still come of what it has read (`Unfinished.Spans`), and these are
exactly the characters that begin with those octets (`Pending`). Main statements:
the decoder gives what the octets read as, which is one text, and characters are
read wherever they stand.
-/

namespace Prepared.Text.Utf8

def Begins (u : List UInt8) : Prop := ∃ c, u <+: String.utf8EncodeChar c

/-- What stands before the rest is one gap: there is no character here, and these
octets are as many as a character begins with, or else one. -/
structure Gap (u rest : List UInt8) : Prop where
  nonempty : u ≠ []
  unreadable : ∀ c, ¬ String.utf8EncodeChar c <+: u ++ rest
  begins : Begins u ∨ u.length = 1
  longest : ∀ v, v <+: u ++ rest → Begins v ∨ v.length = 1 → v.length ≤ u.length

inductive Reads : List UInt8 → List Char → Prop
  | nil : Reads [] []
  | char (c : Char) {rest : List UInt8} {s : List Char} (h : Reads rest s) :
    Reads (String.utf8EncodeChar c ++ rest) (c :: s)
  | gap {u rest : List UInt8} {s : List Char} (hu : Gap u rest) (h : Reads rest s) :
    Reads (u ++ rest) (replacement :: s)

/-! ## The octets of a character -/

def tail : Nat → Nat → List UInt8
  | 0, v => [UInt8.ofNat (v % 64 + 128)]
  | k + 1, v => UInt8.ofNat (v / 64 ^ (k + 1) % 64 + 128) :: tail k v

theorem tail_eq_cons (k v : Nat) : ∃ r, tail k v = UInt8.ofNat (v / 64 ^ k % 64 + 128) :: r := by
  cases k with
  | zero => exact ⟨[], by rw [tail, Nat.pow_zero, Nat.div_one]⟩
  | succ k => exact ⟨tail k v, rfl⟩

theorem tail_ne_nil (k v : Nat) : tail k v ≠ [] := by
  cases k <;> simp [tail]

theorem toNat_ofNat {v : Nat} (h : v.isValidChar) : (Char.ofNat v).toNat = v := by
  rw [Char.ofNat, dif_pos h]
  rfl

theorem isValidChar_toNat (c : Char) : c.toNat.isValidChar := c.valid

def least : Nat → Nat
  | 0 => 0x80
  | 1 => 0x800
  | 2 => 0x10000
  | _ => 0x110000

def mark : Nat → Nat
  | 0 => 0xC0
  | 1 => 0xE0
  | 2 => 0xF0
  | _ => 0xF8

theorem encodeChar_cases (c : Char) :
    (c.toNat < 0x80 ∧ ∃ b : UInt8, b.toNat = c.toNat ∧ String.utf8EncodeChar c = [b]) ∨
      ∃ k < 3, least k ≤ c.toNat ∧ c.toNat < least (k + 1) ∧
        ∃ b : UInt8, b.toNat = mark k + c.toNat / 64 ^ (k + 1) ∧ String.utf8EncodeChar c = b :: tail k c.toNat := by
  have hvalid := isValidChar_toNat c
  have hv : c.val.toNat = c.toNat := rfl
  unfold Nat.isValidChar at hvalid
  unfold String.utf8EncodeChar
  simp only [hv]
  split
  · exact Or.inl ⟨by omega, _, by rw [UInt8.toNat_ofNat']; omega, rfl⟩
  · right
    split
    · refine ⟨0, by decide, ?_, ?_, _, ?_, rfl⟩ <;> simp only [least, mark, UInt8.toNat_ofNat'] <;> omega
    · split
      · refine ⟨1, by decide, ?_, ?_, _, ?_, rfl⟩ <;> simp only [least, mark, UInt8.toNat_ofNat'] <;> omega
      · refine ⟨2, by decide, ?_, ?_, _, ?_, rfl⟩ <;> simp only [least, mark, UInt8.toNat_ofNat'] <;> omega

theorem monotone_least : Monotone least :=
  monotone_nat_of_le_succ fun n => match n with
    | 0 | 1 | 2 => by decide
    | _ + 3 => le_rfl

theorem monotone_mark : Monotone mark :=
  monotone_nat_of_le_succ fun n => match n with
    | 0 | 1 | 2 => by decide
    | _ + 3 => le_rfl

theorem mark_bounds {k v : Nat} (hk : k < 3) (hv : v < least (k + 1)) :
    mark k ≤ mark k + v / 64 ^ (k + 1) ∧ mark k + v / 64 ^ (k + 1) < mark (k + 1) := by
  obtain rfl | rfl | rfl : k = 0 ∨ k = 1 ∨ k = 2 := by omega
  all_goals
    simp only [least, mark] at hv ⊢
    omega

theorem eq_of_between {f : Nat → Nat} (hf : Monotone f) {j k n : Nat} (hj : f j ≤ n ∧ n < f (j + 1))
    (hk : f k ≤ n ∧ n < f (k + 1)) : j = k := by
  rcases Nat.lt_trichotomy j k with hlt | heq | hlt
  · have hle : f (j + 1) ≤ f k := hf hlt
    omega
  · exact heq
  · have hle : f (k + 1) ≤ f j := hf hlt
    omega

theorem encodeChar_inj {c d : Char} {r s : List UInt8}
    (h : String.utf8EncodeChar c ++ r = String.utf8EncodeChar d ++ s) : c = d ∧ r = s := by
  have hdecode (c : Char) (r : List UInt8) : (String.utf8EncodeChar c ++ r).toByteArray.utf8DecodeChar? 0 = some c := by
    rw [List.toByteArray_append]
    exact ByteArray.utf8DecodeChar?_utf8EncodeChar_append
  have hc := hdecode c r
  rw [h, hdecode d s] at hc
  obtain rfl := Option.some.inj hc
  exact ⟨rfl, List.append_cancel_left h⟩

/-! ## What can still come -/

def Unfinished.Spans (p : Unfinished) (v : Nat) : Prop :=
  64 * p.bits + p.low ≤ v / 64 ^ p.owed + 0x80 ∧ v / 64 ^ p.owed + 0x80 ≤ 64 * p.bits + p.high

/-- What has been read of an unfinished character: the characters that can still
come are those that begin with it, and it holds no whole one. -/
structure Pending (u : List UInt8) (p : Unfinished) : Prop where
  begun : u ≠ []
  low : 0x80 ≤ p.low
  range : p.low ≤ p.high
  high : p.high ≤ 0xBF
  valid : ∀ v, p.Spans v → v.isValidChar
  spells : ∀ c : Char, p.Spans c.toNat → String.utf8EncodeChar c = u ++ tail p.owed c.toNat
  spans : ∀ c : Char, u <+: String.utf8EncodeChar c → p.Spans c.toNat
  unread : ∀ c : Char, ¬ String.utf8EncodeChar c <+: u

namespace Pending

variable {u rest : List UInt8} {p : Unfinished} {b : UInt8}

theorem begins (h : Pending u p) : Begins u := by
  -- The least code point that can come.
  let v := (64 * p.bits + p.low - 0x80) * 64 ^ p.owed
  have hdiv : v / 64 ^ p.owed = 64 * p.bits + p.low - 0x80 := Nat.mul_div_cancel _ (Nat.pow_pos (by decide))
  have hspans : p.Spans v := by
    have hlow := h.low
    have hrange := h.range
    unfold Unfinished.Spans
    omega
  refine ⟨Char.ofNat v, ?_⟩
  rw [h.spells (Char.ofNat v) (by rwa [toNat_ofNat (h.valid v hspans)])]
  exact List.prefix_append ..

theorem next (h : Pending u p) {c : Char} (hc : u ++ [b] <+: String.utf8EncodeChar c) :
    p.low ≤ b.toNat ∧ b.toNat ≤ p.high ∧ c.toNat / 64 ^ p.owed + 0x80 = 64 * p.bits + b.toNat := by
  have hspans := h.spans c ((List.prefix_append u [b]).trans hc)
  rw [h.spells c hspans, List.prefix_append_right_inj] at hc
  obtain ⟨r, hr⟩ := tail_eq_cons p.owed c.toNat
  rw [hr, List.cons_prefix_cons] at hc
  have hb : b.toNat = c.toNat / 64 ^ p.owed % 64 + 128 := by
    rw [hc.1, UInt8.toNat_ofNat']
    omega
  have hlow := h.low
  have hhigh := h.high
  unfold Unfinished.Spans at hspans
  omega

theorem refuses (h : Pending u p) (hb : ¬ (p.low ≤ b.toNat ∧ b.toNat ≤ p.high)) (c : Char) :
    ¬ u ++ [b] <+: String.utf8EncodeChar c :=
  fun hc => hb ⟨(h.next hc).1, (h.next hc).2.1⟩

theorem spells_next (h : Pending u p) (hb : p.low ≤ b.toNat ∧ b.toNat ≤ p.high) {c : Char}
    (hc : c.toNat / 64 ^ p.owed + 0x80 = 64 * p.bits + b.toNat) :
    ∃ r, tail p.owed c.toNat = b :: r ∧ String.utf8EncodeChar c = u ++ [b] ++ r := by
  have hlow := h.low
  have hhigh := h.high
  obtain ⟨r, hr⟩ := tail_eq_cons p.owed c.toNat
  have hoctet : UInt8.ofNat (c.toNat / 64 ^ p.owed % 64 + 128) = b := by
    rw [← UInt8.toNat_inj, UInt8.toNat_ofNat']
    omega
  have hspans : p.Spans c.toNat := by
    unfold Unfinished.Spans
    omega
  rw [hoctet] at hr
  exact ⟨r, hr, by rw [h.spells c hspans, hr, List.append_assoc]; rfl⟩

theorem finish (h : Pending u p) (howed : p.owed = 0) (hb : p.low ≤ b.toNat ∧ b.toNat ≤ p.high) :
    String.utf8EncodeChar (Char.ofNat (64 * p.bits + (b.toNat - 0x80))) = u ++ [b] := by
  have hlow := h.low
  let v := 64 * p.bits + (b.toNat - 0x80)
  have hdiv : v / 64 ^ p.owed + 0x80 = 64 * p.bits + b.toNat := by
    rw [howed, Nat.pow_zero, Nat.div_one]
    omega
  have hvalid : v.isValidChar := by
    refine h.valid v ?_
    unfold Unfinished.Spans
    omega
  obtain ⟨r, hr, hspells⟩ := h.spells_next hb (c := Char.ofNat v) (by rwa [toNat_ofNat hvalid])
  rw [howed] at hr
  obtain rfl := (List.cons.inj hr).2
  rw [hspells, List.append_nil]

theorem advance (h : Pending u p) {k : Nat} (howed : p.owed = k + 1) (hb : p.low ≤ b.toNat ∧ b.toNat ≤ p.high) :
    Pending (u ++ [b]) ⟨64 * p.bits + (b.toNat - 0x80), k, 0x80, 0xBF⟩ := by
  have hlow := h.low
  have hspans (v : Nat) : (⟨64 * p.bits + (b.toNat - 0x80), k, 0x80, 0xBF⟩ : Unfinished).Spans v ↔
      v / 64 ^ p.owed + 0x80 = 64 * p.bits + b.toNat := by
    have hdiv : v / 64 ^ p.owed = v / 64 ^ k / 64 := by rw [howed, Nat.pow_succ, Nat.div_div_eq_div_mul]
    unfold Unfinished.Spans
    dsimp only
    omega
  have hspells (c : Char) (hc : c.toNat / 64 ^ p.owed + 0x80 = 64 * p.bits + b.toNat) :
      String.utf8EncodeChar c = u ++ [b] ++ tail k c.toNat := by
    obtain ⟨r, hr, hspells⟩ := h.spells_next hb hc
    rw [howed] at hr
    obtain rfl := (List.cons.inj hr).2
    exact hspells
  refine ⟨by simp, le_rfl, (by decide : 0x80 ≤ 0xBF), le_rfl, fun v hv => ?_,
    fun c hc => hspells c ((hspans _).mp hc), fun c hc => (hspans _).mpr (h.next hc).2.2, fun c hc => ?_⟩
  · refine h.valid v ?_
    have hv := (hspans v).mp hv
    unfold Unfinished.Spans
    omega
  · rcases List.prefix_concat_iff.mp hc with hwhole | hpart
    · have hrest := hspells c (h.next (hwhole ▸ List.prefix_rfl)).2.2
      rw [hwhole] at hrest
      exact tail_ne_nil k _ (List.append_right_eq_self.mp hrest.symm)
    · exact h.unread c hpart

theorem gap (h : Pending u p) (hrest : ∀ b r, rest = b :: r → ∀ c, ¬ u ++ [b] <+: String.utf8EncodeChar c) :
    Gap u rest := by
  -- What is longer goes on with the next octet.
  have hlong {v : List UInt8} (hv : v <+: u ++ rest) (hlt : u.length < v.length) :
      ∃ b r, rest = b :: r ∧ u ++ [b] <+: v := by
    have hu : u <+: v := List.prefix_of_prefix_length_le (List.prefix_append u rest) hv hlt.le
    obtain ⟨w, rfl⟩ := hu
    cases w with
    | nil => simp at hlt
    | cons b w =>
      obtain ⟨r, rfl⟩ := (List.prefix_append_right_inj u).mp hv
      exact ⟨b, w ++ r, rfl, by simp⟩
  refine ⟨h.begun, fun c hc => ?_, Or.inl h.begins, fun v hv hshort => ?_⟩
  · by_cases hle : (String.utf8EncodeChar c).length ≤ u.length
    · exact h.unread c (List.prefix_of_prefix_length_le hc (List.prefix_append u rest) hle)
    · obtain ⟨b, r, hr, hub⟩ := hlong hc (Nat.not_le.mp hle)
      exact hrest b r hr c hub
  · by_contra hlt
    obtain ⟨b, r, hr, hub⟩ := hlong hv (Nat.not_le.mp hlt)
    rcases hshort with ⟨c, hc⟩ | hone
    · exact hrest b r hr c (hub.trans hc)
    · exact h.begun (List.length_eq_zero_iff.mp (by omega))

end Pending

/-! ## The first octet -/

section
variable {b : UInt8} {k : Nat} {c : Char}

theorem size_of_lead (hb : mark k ≤ b.toNat ∧ b.toNat < mark (k + 1)) {w : List UInt8}
    (h : String.utf8EncodeChar c = b :: w) :
    least k ≤ c.toNat ∧ c.toNat < least (k + 1) ∧ b.toNat = mark k + c.toNat / 64 ^ (k + 1) := by
  rcases encodeChar_cases c with ⟨hv, b', hb', he⟩ | ⟨j, hj, hl, hv, b', hb', he⟩
  · obtain rfl := (List.cons.inj (h.symm.trans he)).1
    have hmark : 0xC0 ≤ mark k := monotone_mark (Nat.zero_le k)
    omega
  · obtain rfl := (List.cons.inj (h.symm.trans he)).1
    obtain rfl : j = k := eq_of_between monotone_mark (hb' ▸ mark_bounds hj hv) hb
    exact ⟨hl, hv, hb'⟩

theorem spells_of_size (hl : least k ≤ c.toNat) (hv : c.toNat < least (k + 1))
    (hb : b.toNat = mark k + c.toNat / 64 ^ (k + 1)) : String.utf8EncodeChar c = b :: tail k c.toNat := by
  rcases encodeChar_cases c with ⟨hsmall, -⟩ | ⟨j, -, hl', hv', b', hb', he⟩
  · have hleast : 0x80 ≤ least k := monotone_least (Nat.zero_le k)
    omega
  · obtain rfl : j = k := eq_of_between monotone_least ⟨hl', hv'⟩ ⟨hl, hv⟩
    obtain rfl : b' = b := UInt8.toNat_inj.mp (hb'.trans hb.symm)
    exact he

theorem pending_lead {bits low high : Nat} (hb : mark k ≤ b.toNat ∧ b.toNat < mark (k + 1)) (hlow : 0x80 ≤ low)
    (hrange : low ≤ high) (hhigh : high ≤ 0xBF)
    (spans : ∀ v, (⟨bits, k, low, high⟩ : Unfinished).Spans v ↔
      v.isValidChar ∧ least k ≤ v ∧ v < least (k + 1) ∧ b.toNat = mark k + v / 64 ^ (k + 1)) :
    Pending [b] ⟨bits, k, low, high⟩ := by
  have hspans (c : Char) (hc : [b] <+: String.utf8EncodeChar c) :
      (⟨bits, k, low, high⟩ : Unfinished).Spans c.toNat := by
    obtain ⟨w, hw⟩ := hc
    exact (spans _).mpr ⟨isValidChar_toNat c, size_of_lead hb hw.symm⟩
  have hspells (c : Char) (hc : (⟨bits, k, low, high⟩ : Unfinished).Spans c.toNat) :
      String.utf8EncodeChar c = [b] ++ tail k c.toNat := by
    obtain ⟨-, hl, hv, hbv⟩ := (spans _).mp hc
    exact spells_of_size hl hv hbv
  refine ⟨by simp, hlow, hrange, hhigh, fun v hv => ((spans v).mp hv).1, hspells, hspans, fun c hc => ?_⟩
  rcases List.prefix_cons_iff.mp hc with hnil | ⟨t, ht, hprefix⟩
  · exact String.utf8EncodeChar_ne_nil hnil
  · obtain rfl := List.prefix_nil.mp hprefix
    have hrest := hspells c (hspans c (ht ▸ List.prefix_rfl))
    rw [ht] at hrest
    exact tail_ne_nil _ _ (List.append_right_eq_self.mp hrest.symm)

theorem not_lead (hb : 0x80 ≤ b.toNat) (hb' : b.toNat < 0xC2 ∨ 0xF5 ≤ b.toNat) (c : Char) :
    ¬ [b] <+: String.utf8EncodeChar c := by
  rintro ⟨w, hw⟩
  rcases encodeChar_cases c with ⟨hv, b', hbv, he⟩ | ⟨j, hj, hl, hv, b', hbv, he⟩
  · obtain rfl := (List.cons.inj (hw.trans he)).1
    omega
  · obtain rfl := (List.cons.inj (hw.trans he)).1
    obtain rfl | rfl | rfl : j = 0 ∨ j = 1 ∨ j = 2 := by omega
    all_goals
      simp only [least, mark] at hl hv hbv
      omega

/-- What the decoder does with an octet between characters. -/
theorem start_cases (b : UInt8) :
    (∃ c, start b = ([some c], none) ∧ String.utf8EncodeChar c = [b]) ∨
      (start b = ([none], none) ∧ ∀ c, ¬ [b] <+: String.utf8EncodeChar c) ∨
      ∃ p, start b = ([], some p) ∧ Pending [b] p := by
  have hlt := b.toNat_lt
  unfold start
  dsimp only
  split
  · rename_i hsmall
    have hn : (Char.ofNat b.toNat).toNat = b.toNat := toNat_ofNat (Or.inl (by omega))
    refine Or.inl ⟨_, rfl, ?_⟩
    rcases encodeChar_cases (Char.ofNat b.toNat) with ⟨-, b', hb', he⟩ | ⟨j, -, hl, -⟩
    · obtain rfl : b' = b := UInt8.toNat_inj.mp (hb'.trans hn)
      exact he
    · have hleast : 0x80 ≤ least j := monotone_least (Nat.zero_le j)
      omega
  · rename_i hlarge
    right
    split
    · exact Or.inl ⟨rfl, not_lead (by omega) (by omega)⟩
    · split
      · refine Or.inr ⟨_, rfl, pending_lead (by simp only [mark]; omega) le_rfl (by decide) le_rfl fun v => ?_⟩
        simp only [mark, least, Unfinished.Spans, Nat.isValidChar]
        omega
      · split
        · refine Or.inr ⟨_, rfl, pending_lead (by simp only [mark]; omega) ?_ ?_ ?_ fun v => ?_⟩
          · split_ifs <;> omega
          · split_ifs <;> omega
          · split_ifs <;> omega
          · simp only [mark, least, Unfinished.Spans, Nat.isValidChar]
            split_ifs <;> omega
        · split
          · refine Or.inr ⟨_, rfl, pending_lead (by simp only [mark]; omega) ?_ ?_ ?_ fun v => ?_⟩
            · split_ifs <;> omega
            · split_ifs <;> omega
            · split_ifs <;> omega
            · simp only [mark, least, Unfinished.Spans, Nat.isValidChar]
              split_ifs <;> omega
          · exact Or.inl ⟨rfl, not_lead (by omega) (by omega)⟩

end

/-! ## What the decoder reads -/

theorem gap_single {b : UInt8} (h : ∀ c, ¬ [b] <+: String.utf8EncodeChar c) (rest : List UInt8) : Gap [b] rest := by
  have hlead {v : List UInt8} (hne : v ≠ []) (hv : v <+: [b] ++ rest) : [b] <+: v :=
    List.prefix_of_prefix_length_le (List.prefix_append [b] rest) hv (List.length_pos_iff.mpr hne)
  refine ⟨by simp, fun c hc => h c (hlead String.utf8EncodeChar_ne_nil hc), Or.inr rfl, fun v hv hshort => ?_⟩
  rcases hshort with ⟨c, hc⟩ | hone
  · by_cases hne : v = []
    · simp [hne]
    · exact absurd ((hlead hne hv).trans hc) (h c)
  · exact hone.le

def fill (units : List (Option Char)) : List Char := units.map (·.getD replacement)

theorem reads_unitsFrom (bytes : List UInt8) :
    Reads bytes (fill (unitsFrom none bytes)) ∧
      ∀ u p, Pending u p → Reads (u ++ bytes) (fill (unitsFrom (some p) bytes)) := by
  induction bytes with
  | nil => exact ⟨.nil, fun u p h => .gap (h.gap nofun) .nil⟩
  | cons b rest ih =>
    obtain ⟨hnone, hsome⟩ := ih
    have hstart : Reads (b :: rest) (fill ((start b).1 ++ unitsFrom (start b).2 rest)) := by
      rcases start_cases b with ⟨c, hs, hc⟩ | ⟨hs, hno⟩ | ⟨p, hs, hp⟩
      · rw [hs, ← List.singleton_append, ← hc]
        exact .char c hnone
      · rw [hs, ← List.singleton_append]
        exact .gap (gap_single hno rest) hnone
      · rw [hs]
        exact hsome [b] p hp
    refine ⟨hstart, fun u p h => ?_⟩
    rw [unitsFrom, step]
    split
    · rename_i hb
      have hsplit : u ++ b :: rest = u ++ [b] ++ rest := by simp
      cases howed : p.owed with
      | zero =>
        dsimp only
        rw [hsplit, ← h.finish howed hb]
        generalize Char.ofNat (64 * p.bits + (b.toNat - 0x80)) = c
        exact .char c hnone
      | succ k =>
        rw [hsplit]
        exact hsome _ _ (h.advance howed hb)
    · rename_i hb
      refine .gap (h.gap fun b' r hr => ?_) hstart
      obtain ⟨rfl, -⟩ := List.cons.inj hr
      exact h.refuses hb

theorem reads_decode (bytes : List UInt8) : Reads bytes (decode bytes) := (reads_unitsFrom bytes).1

theorem Gap.unique {u v r s : List UInt8} (hu : Gap u r) (hv : Gap v s) (h : u ++ r = v ++ s) : u = v ∧ r = s := by
  have hlength : u.length = v.length := by
    refine le_antisymm (hv.longest u ?_ hu.begins) (hu.longest v ?_ hv.begins)
    · exact h ▸ List.prefix_append u r
    · exact h ▸ List.prefix_append v s
  exact List.append_inj h hlength

theorem Reads.unique {bytes : List UInt8} {s t : List Char} (hs : Reads bytes s) (ht : Reads bytes t) : s = t := by
  induction hs generalizing t with
  | nil =>
    generalize he : [] = bytes at ht
    cases ht with
    | nil => rfl
    | char c => exact absurd (List.append_eq_nil_iff.mp he.symm).1 String.utf8EncodeChar_ne_nil
    | gap hu => exact absurd (List.append_eq_nil_iff.mp he.symm).1 hu.nonempty
  | @char c rest s hs ih =>
    generalize he : String.utf8EncodeChar c ++ rest = bytes at ht
    cases ht with
    | nil => exact absurd (List.append_eq_nil_iff.mp he).1 String.utf8EncodeChar_ne_nil
    | char d ht =>
      obtain ⟨rfl, rfl⟩ := encodeChar_inj he
      rw [ih ht]
    | gap hu => exact absurd (he ▸ List.prefix_append _ _) (hu.unreadable c)
  | @gap u rest s hu hs ih =>
    generalize he : u ++ rest = bytes at ht
    cases ht with
    | nil => exact absurd (List.append_eq_nil_iff.mp he).1 hu.nonempty
    | char d ht => exact absurd (he ▸ List.prefix_append _ _) (hu.unreadable d)
    | gap hv ht =>
      obtain ⟨rfl, rfl⟩ := hu.unique hv he
      rw [ih ht]

/-- The decoder gives the one text that octets read as. -/
theorem reads_iff {bytes : List UInt8} {s : List Char} : Reads bytes s ↔ s = decode bytes :=
  ⟨fun h => h.unique (reads_decode bytes), fun h => h ▸ reads_decode bytes⟩

/-! ## Characters in their place -/

theorem Reads.encode_append (t : List Char) {rest : List UInt8} {s : List Char} (h : Reads rest s) :
    Reads (encode t ++ rest) (t ++ s) := by
  induction t with
  | nil => exact h
  | cons c t ih =>
    rw [encode, List.flatMap_cons, List.append_assoc]
    exact .char c ih

theorem decode_encode (s : List Char) : decode (encode s) = s := by
  have hreads := Reads.encode_append s .nil
  rw [List.append_nil, List.append_nil] at hreads
  exact (reads_iff.mp hreads).symm

theorem eq_nil_of_first {c d : Char} {b : UInt8} {u w : List UInt8} (hc : String.utf8EncodeChar c = b :: w)
    (hd : u ++ [b] <+: String.utf8EncodeChar d) : u = [] := by
  obtain ⟨r, hr⟩ := hd
  have hb : b.IsUTF8FirstByte := by
    have hfirst := @UInt8.isUTF8FirstByte_getElem_zero_utf8EncodeChar c
    simpa only [hc, List.getElem_cons_zero] using hfirst
  have hget : (String.utf8EncodeChar d)[u.length]? = some b := by simp [← hr]
  obtain ⟨hlt, hget⟩ := List.getElem?_eq_some_iff.mp hget
  exact List.length_eq_zero_iff.mp (UInt8.isUTF8FirstByte_getElem_utf8EncodeChar.mp (hget ▸ hb))

theorem Begins.prefix {u v r : List UInt8} {c : Char} (hu : Begins u) (hv : v ≠ [])
    (h : u <+: v ++ (String.utf8EncodeChar c ++ r)) : u <+: v := by
  by_cases hle : u.length ≤ v.length
  · exact List.prefix_of_prefix_length_le h (List.prefix_append ..) hle
  · obtain ⟨w, rfl⟩ := List.prefix_of_prefix_length_le (List.prefix_append ..) h (Nat.not_le.mp hle).le
    obtain ⟨d, hd⟩ := hu
    rw [List.prefix_append_right_inj] at h
    cases hc : String.utf8EncodeChar c with
    | nil => exact absurd hc String.utf8EncodeChar_ne_nil
    | cons b x =>
      cases w with
      | nil => simp
      | cons b' w =>
        rw [hc, List.cons_append, List.cons_prefix_cons] at h
        obtain ⟨rfl, -⟩ := h
        have hfirst : v ++ [b'] <+: v ++ b' :: w := (List.prefix_append_right_inj v).mpr (by simp)
        exact absurd (eq_nil_of_first hc (hfirst.trans hd)) hv

theorem Gap.append {u rest : List UInt8} (h : Gap u rest) (c : Char) (r : List UInt8) :
    Gap u (rest ++ (String.utf8EncodeChar c ++ r)) := by
  have hne : u ++ rest ≠ [] := fun he => h.nonempty (List.append_eq_nil_iff.mp he).1
  have hshort {v : List UInt8} (hv : Begins v) (hp : v <+: u ++ (rest ++ (String.utf8EncodeChar c ++ r))) :
      v <+: u ++ rest := hv.prefix hne (by rwa [List.append_assoc])
  refine ⟨h.nonempty, fun d hd => ?_, h.begins, fun v hv hv' => ?_⟩
  · exact h.unreadable d (hshort ⟨d, List.prefix_rfl⟩ hd)
  · rcases hv' with hbegins | hone
    · exact h.longest v (hshort hbegins hv) (Or.inl hbegins)
    · exact hone.le.trans (List.length_pos_iff.mpr h.nonempty)

/-- A text in the middle of octets is read, whatever stands around it. -/
theorem Reads.around {p q : List UInt8} {s₁ s₂ t : List Char} (hp : Reads p s₁) (hq : Reads q s₂) (ht : t ≠ []) :
    Reads (p ++ encode t ++ q) (s₁ ++ t ++ s₂) := by
  induction hp with
  | nil => exact .encode_append t hq
  | char c _ ih =>
    simp only [List.append_assoc, List.cons_append] at ih ⊢
    exact .char c ih
  | @gap u rest s hu _ ih =>
    obtain ⟨c, t, rfl⟩ := List.exists_cons_of_ne_nil ht
    have hgap := hu.append c (encode t ++ q)
    have hoctets : u ++ rest ++ encode (c :: t) ++ q =
        u ++ (rest ++ (String.utf8EncodeChar c ++ (encode t ++ q))) := by
      simp [encode]
    rw [hoctets]
    simp only [encode, List.flatMap_cons, List.append_assoc, List.cons_append] at ih hgap ⊢
    exact .gap hgap ih

theorem decode_around (p q : List UInt8) {t : List Char} (ht : t ≠ []) :
    decode (p ++ encode t ++ q) = decode p ++ t ++ decode q :=
  (reads_iff.mp ((reads_decode p).around (reads_decode q) ht)).symm

end Prepared.Text.Utf8
