import Prepared.Operation.Keyword
import Prepared.Proofs.Text.Capital
import Prepared.Proofs.Text.Trim

/-!
# The leading word

A text begins with blanks and parentheses, then comes its first word, which ends
where no identifier can go on. Main statement: the first word tells the operation
if it ends at a blank and no parenthesis stands behind a blank that is neither a
space nor a tab nor the end of a line; otherwise the operation stays unknown.
-/

namespace Prepared.Operation

open Text

/-- The characters that can continue an identifier. Those of ASCII are given; beyond it
an alphabet has its own, the two letters with a plain capital among them but no blank. -/
structure Alphabet where
  continues : Char → Bool
  ascii : ∀ c, c.toNat < 0x80 → continues c = (c.isAlphanum || c == '_' || c == '$')
  long_s : continues 'ſ' = true
  dotless_i : continues 'ı' = true
  no_blank : ∀ c, isBlank c = true → continues c = false

namespace Alphabet
variable (A : Alphabet)

theorem not_paren : A.continues '(' = false := A.ascii '(' (by decide)

theorem continues_of_isAlpha {c : Char} (h : c.isAlpha = true) : A.continues c = true := by
  simp [A.ascii c (lt_of_isAlpha h), Char.isAlphanum, h]

/-- In front of the first word of a text stands `w`, behind it `r`. -/
structure Leads (w word r : List Char) : Prop where
  front : ∀ c ∈ w, isBlank c = true ∨ c = '('
  within : ∀ c ∈ word, A.continues c = true
  behind : ∀ c ∈ r.head?, A.continues c = false
  whole : word = [] → ∀ c ∈ r.head?, ¬ (isBlank c = true ∨ c = '(')

end Alphabet

def InCase (word : List Char) (keyword : String) : Prop := word.map Char.toUpper = keyword.toList

instance (word : List Char) (keyword : String) : Decidable (InCase word keyword) :=
  inferInstanceAs (Decidable (_ = _))

/-- What is skipped in front of the word is all that stands there, and what is read ends with it. -/
structure Reached (w r : List Char) : Prop where
  opened : '(' ∉ w.dropWhile isOpening
  ended : ∀ c ∈ r.head?, isBlank c = true

instance (w r : List Char) : Decidable (Reached w r) :=
  decidable_of_iff ('(' ∉ w.dropWhile isOpening ∧ r.head?.all isBlank = true)
    ⟨fun h => ⟨h.1, (Option.all_eq_true ..).mp h.2⟩, fun h => ⟨h.opened, (Option.all_eq_true ..).mpr h.ended⟩⟩

theorem Alphabet.exists_leads (A : Alphabet) (sql : List Char) :
    ∃ w word r, sql = w ++ (word ++ r) ∧ A.Leads w word r := by
  let skips (c : Char) : Bool := isBlank c || c == '('
  let rest := sql.dropWhile skips
  have hrest : ∀ c ∈ rest.head?, ¬ (isBlank c = true ∨ c = '(') := by
    intro c hc
    have hhead := List.head?_dropWhile_not skips sql
    rw [show (sql.dropWhile skips).head? = some c from hc] at hhead
    simpa [skips] using hhead
  refine ⟨sql.takeWhile skips, rest.takeWhile A.continues, rest.dropWhile A.continues, by simp [rest], ?_, ?_, ?_, ?_⟩
  · intro c hc
    simpa [skips] using List.mem_takeWhile_imp hc
  · exact fun c hc => List.mem_takeWhile_imp hc
  · intro c hc
    have hhead := List.head?_dropWhile_not A.continues rest
    rwa [show (rest.dropWhile A.continues).head? = some c from hc] at hhead
  · intro hword
    have hsame : rest.dropWhile A.continues = rest := by
      have := List.takeWhile_append_dropWhile (p := A.continues) (l := rest)
      rwa [hword] at this
    rwa [hsame]

/-! ## Keywords -/

theorem spelledOut_keywords : ∀ e ∈ keywords, IsSpelledOut e.1.toList := by
  have hcapitals : ∀ e ∈ keywords, e.1.toList.all Char.isUpper = true := by decide
  have hpairs : ∀ e ∈ keywords, ∀ p ∈ ligatures, ¬ p <:+: e.1.toList := by decide +kernel
  exact fun e he => ⟨List.all_eq_true.mp (hcapitals e he), hpairs e he⟩

theorem told_keywords : ∀ e ∈ keywords, ofKeyword e.1.toList = e.2 ∧ e.2 ≠ .unknown := by decide +kernel

theorem inCase_plain_iff {word : List Char} {k : String} :
    InCase (word.map plainLetter) k ↔ word.map plainCapital = k.toList := by
  rw [InCase, List.map_map]
  rfl

theorem InCase.plain {word : List Char} {e : String × Operation} (he : e ∈ keywords) (h : InCase word e.1) :
    InCase (word.map plainLetter) e.1 := by
  have hword : word.map plainLetter = word.map id := by
    apply List.map_congr_left
    intro c hc
    have hupper := (spelledOut_keywords e he).1 c.toUpper (h ▸ List.mem_map_of_mem hc)
    rw [Char.isUpper_toUpper_eq_isAlpha] at hupper
    exact plainLetter_of_lt (lt_of_isAlpha hupper)
  rwa [hword, List.map_id]

theorem ofKeyword_upper {word : List Char} {e : String × Operation} (he : e ∈ keywords)
    (h : InCase (word.map plainLetter) e.1) : ofKeyword (upper word) = e.2 := by
  rw [(upper_eq_iff (spelledOut_keywords e he)).mpr (inCase_plain_iff.mp h)]
  exact (told_keywords e he).1

theorem exists_keyword {word : List Char} (h : ofKeyword (upper word) ≠ .unknown) :
    ∃ e ∈ keywords, InCase (word.map plainLetter) e.1 := by
  unfold ofKeyword at h
  cases hfound : keywords.lookup (String.ofList (upper word)) with
  | none => simp [hfound] at h
  | some o =>
    obtain ⟨before, after, hsplit, -⟩ := List.lookup_eq_some_iff.mp hfound
    have hmem : (String.ofList (upper word), o) ∈ keywords := by simp [hsplit]
    have hupper : upper word = (String.ofList (upper word)).toList := by simp
    refine ⟨_, hmem, inCase_plain_iff.mpr ?_⟩
    exact (upper_eq_iff (spelledOut_keywords _ hmem)).mp hupper

theorem Alphabet.continues_of_told (A : Alphabet) {word : List Char} (h : ofKeyword (upper word) ≠ .unknown) :
    ∀ c ∈ word, A.continues c = true := by
  intro c hc
  obtain ⟨e, he, hcase⟩ := exists_keyword h
  have hmem : plainCapital c ∈ e.1.toList := inCase_plain_iff.mp hcase ▸ List.mem_map_of_mem hc
  rcases letter_of_isUpper ((spelledOut_keywords e he).1 _ hmem) with rfl | rfl | halpha
  · exact A.long_s
  · exact A.dotless_i
  · exact A.continues_of_isAlpha halpha

/-! ## The first word -/

section
variable {A : Alphabet} {w word r : List Char}

theorem Alphabet.Leads.head (leads : A.Leads w word r) :
    ∀ c ∈ (word ++ r).head?, ¬ (isBlank c = true ∨ c = '(') := by
  cases word with
  | nil => exact leads.whole rfl
  | cons c word =>
    intro d hd
    obtain rfl : c = d := Option.some.inj hd
    have hcontinues := leads.within c (by simp)
    rintro (hblank | rfl)
    · simp [A.no_blank c hblank] at hcontinues
    · simp [A.not_paren] at hcontinues

theorem Alphabet.Leads.dropWhile (leads : A.Leads w word r) {p : Char → Bool}
    (hp : ∀ c, p c = true → isBlank c = true ∨ c = '(') : (word ++ r).dropWhile p = word ++ r := by
  cases hs : word ++ r with
  | nil => rfl
  | cons c s =>
    have hc : ¬ p c = true := fun h => leads.head c (by simp [hs]) (hp c h)
    rw [List.dropWhile_cons_of_neg hc]

theorem Alphabet.Leads.firstWord (leads : A.Leads w word r) :
    firstWord ((w ++ (word ++ r)).dropWhile isOpening) =
      (trimStart (w.dropWhile isOpening) ++ (word ++ r)).takeWhile (!isBlank ·) := by
  have hopening : (word ++ r).dropWhile isOpening = word ++ r := by
    apply leads.dropWhile
    intro c hc
    simp only [isOpening, Bool.or_eq_true, beq_iff_eq] at hc
    rcases hc with (((rfl | rfl) | rfl) | rfl) | rfl <;> decide
  have hblank : trimStart (word ++ r) = word ++ r := leads.dropWhile fun c hc => .inl hc
  have hdrop : (w ++ (word ++ r)).dropWhile isOpening = w.dropWhile isOpening ++ (word ++ r) := by
    rw [List.dropWhile_append]
    split
    · rename_i hnil
      rw [hopening, List.isEmpty_iff.mp hnil]
      rfl
    · rfl
  rw [Text.firstWord, hdrop, trimStart_append]
  split
  · rename_i hnil
    rw [hblank, hnil]
    rfl
  · rfl

theorem Alphabet.Leads.left_nil (leads : A.Leads w word r) (h : '(' ∉ w.dropWhile isOpening) :
    trimStart (w.dropWhile isOpening) = [] := by
  rw [trimStart_eq_nil]
  intro c hc
  have hmem : c ∈ w := (List.dropWhile_suffix isOpening).subset hc
  exact (leads.front c hmem).resolve_right fun he => h (he ▸ hc)

theorem Alphabet.Leads.left_cons (leads : A.Leads w word r) (h : '(' ∈ w.dropWhile isOpening) :
    ∃ t, trimStart (w.dropWhile isOpening) = '(' :: t := by
  cases hleft : trimStart (w.dropWhile isOpening) with
  | nil => exact absurd (trimStart_eq_nil.mp hleft '(' h) (by decide)
  | cons c t =>
    have hmem : c ∈ w := by
      apply (List.dropWhile_suffix isOpening).subset
      apply (trimStart_suffix _).subset
      simp [hleft]
    have hblank : isBlank c = false := by
      have hhead := List.head?_dropWhile_not isBlank (w.dropWhile isOpening)
      rwa [← trimStart, hleft] at hhead
    have hparen : c = '(' := (leads.front c hmem).resolve_left (by simp [hblank])
    exact ⟨t, by rw [hparen]⟩

/-- The whole text is told by the word itself or not at all. -/
theorem Alphabet.Leads.ofFirstWord_eq (leads : A.Leads w word r) :
    ofFirstWord (w ++ (word ++ r)) = if Reached w r then ofKeyword (upper word) else .unknown := by
  have hunknown {c : Char} (s : List Char) (hc : A.continues c = false) (hmem : c ∈ s) :
      ofKeyword (upper s) = .unknown := by
    by_contra htold
    have := A.continues_of_told htold c hmem
    simp [hc] at this
  unfold ofFirstWord
  rw [leads.firstWord]
  by_cases hopened : '(' ∈ w.dropWhile isOpening
  -- What is read begins with a parenthesis that was not skipped, and so is no keyword.
  · obtain ⟨t, hleft⟩ := leads.left_cons hopened
    have hnot : ¬ Reached w r := fun h => h.opened hopened
    have hmem : '(' ∈ (trimStart (w.dropWhile isOpening) ++ (word ++ r)).takeWhile (!isBlank ·) := by
      simp [hleft, show isBlank '(' = false by decide]
    rw [if_neg hnot, hunknown _ A.not_paren hmem]
  · have hword : ∀ c ∈ word, (!isBlank c) = true := by
      intro c hc
      by_contra hblank
      have := A.no_blank c (by simpa using hblank)
      simp [leads.within c hc] at this
    rw [leads.left_nil hopened, List.nil_append, List.takeWhile_append_of_pos hword]
    cases r with
    | nil =>
      have hreached : Reached w [] := ⟨hopened, fun c hc => by simp at hc⟩
      simp [hreached]
    | cons c r =>
      by_cases hblank : isBlank c = true
      · have hreached : Reached w (c :: r) := ⟨hopened, fun d hd => Option.some.inj hd ▸ hblank⟩
        simp [hreached, hblank]
      · -- The first word goes on behind the identifier.
        have hnot : ¬ Reached w (c :: r) := fun h => hblank (h.ended c rfl)
        have hmem : c ∈ word ++ (c :: r).takeWhile (!isBlank ·) := by simp [hblank]
        rw [if_neg hnot, hunknown _ (leads.behind c rfl) hmem]

end

/-- Every text has a first word. Where it is reached, a keyword tells its operation, even one spelled
with a letter that merely has the capital of another; elsewhere nothing is told. -/
theorem ofFirstWord_leading (A : Alphabet) :
    (∀ sql, ∃ w word r, sql = w ++ (word ++ r) ∧ A.Leads w word r) ∧
    ∀ w word r, A.Leads w word r →
      (∀ e ∈ keywords, InCase word e.1 →
        ofFirstWord (w ++ (word ++ r)) = if Reached w r then e.2 else .unknown) ∧
      ((∀ e ∈ keywords, ¬ InCase word e.1) →
        (ofFirstWord (w ++ (word ++ r)) ≠ .unknown ↔
          Reached w r ∧ ∃ e ∈ keywords, InCase (word.map plainLetter) e.1)) := by
  refine ⟨A.exists_leads, fun w word r leads => ?_⟩
  rw [leads.ofFirstWord_eq]
  refine ⟨fun e he hcase => ?_, fun _ => ?_⟩
  · rw [ofKeyword_upper he (hcase.plain he)]
  · constructor
    · intro htold
      by_cases hreached : Reached w r
      · rw [if_pos hreached] at htold
        exact ⟨hreached, exists_keyword htold⟩
      · simp [hreached] at htold
    · rintro ⟨hreached, e, he, hcase⟩
      rw [if_pos hreached, ofKeyword_upper he hcase]
      exact (told_keywords e he).2

def Alphabet.wide : Alphabet where
  continues c := c.isAlphanum || c == '_' || c == '$' || (0x80 ≤ c.toNat && !isBlank c)
  ascii c h := by simp [Nat.not_le.mpr h]
  long_s := by decide
  dotless_i := by decide
  no_blank c h := by
    have hplain : c.isAlphanum = false := by
      by_contra halnum
      have hzero : '0'.toNat = 0x30 := rfl
      have hnine : '9'.toNat = 0x39 := rfl
      simp only [Char.isAlphanum, Char.isAlpha, Bool.not_eq_false, Bool.or_eq_true, isUpper_iff, isLower_iff,
        Char.isDigit_iff_toNat] at halnum
      simp only [isBlank, Bool.or_eq_true, Bool.and_eq_true, decide_eq_true_eq, beq_iff_eq] at h
      omega
    have hunderscore : c ≠ '_' := by rintro rfl; exact absurd h (by decide)
    have hdollar : c ≠ '$' := by rintro rfl; exact absurd h (by decide)
    simp [hplain, hunderscore, hdollar, h]

theorem Alphabet.leads_of_all {A : Alphabet} {w word r : List Char}
    (front : w.all (fun c => isBlank c || c == '(') = true) (within : word.all A.continues = true) (hword : word ≠ [])
    (behind : r.head?.all (!A.continues ·) = true) : A.Leads w word r := by
  constructor
  · simpa using front
  · simpa using within
  · intro c hc
    simpa using (Option.all_eq_true ..).mp behind c hc
  · exact fun h => absurd h hword

theorem ofFirstWord_leading_nested :
    Alphabet.wide.Leads "( \n(".toList "Select".toList " 1))".toList ∧
      ofFirstWord "( \n(Select 1))".toList = .select := by
  have leads : Alphabet.wide.Leads "( \n(".toList "Select".toList " 1))".toList :=
    Alphabet.leads_of_all (by decide) (by decide) (by decide) (by decide)
  have htold := ((ofFirstWord_leading Alphabet.wide).2 _ _ _ leads).1 ("SELECT", .select) (by decide) (by decide)
  rw [if_pos (by decide)] at htold
  exact ⟨leads, htold⟩

/-- A word goes on to the next blank, parentheses are skipped up to the first rarer blank only,
and the long s counts as an s. -/
theorem ofFirstWord_misled :
    (Alphabet.wide.Leads [] "SELECT".toList "*FROM t".toList ∧ ofFirstWord "SELECT*FROM t".toList = .unknown) ∧
    (Alphabet.wide.Leads "\x0c(".toList "SELECT".toList " 1)".toList ∧
      ofFirstWord "\x0c(SELECT 1)".toList = .unknown) ∧
    (Alphabet.wide.Leads [] "ſelect".toList " 1".toList ∧ (∀ e ∈ keywords, ¬ InCase "ſelect".toList e.1) ∧
      ofFirstWord "ſelect 1".toList = .select) := by
  refine ⟨⟨?_, by decide +kernel⟩, ⟨?_, by decide +kernel⟩, ⟨?_, by decide +kernel, by decide +kernel⟩⟩
  all_goals exact Alphabet.leads_of_all (by decide) (by decide) (by decide) (by decide)

end Prepared.Operation
