import Prepared.Proofs.Rewrite.Filling
import Prepared.Proofs.Template.Probe

/-!
# Counting and rewriting agree

Counting probes for plain substrings, rewriting reads markers as long as they
go. On a template whose markers carry the numbers from one up to some number
the two agree. Main statement: as many arguments as counting finds fill every
slot, more change nothing, and fewer leave a marker without an argument.
-/

namespace Prepared

open Number Text Template

namespace Template

/-- The markers of the text carry the numbers from one up to `n`, in any order
and any of them more than once. -/
def Numbered (n : Nat) (s : List Char) : Prop :=
  ∀ ds, ds ∈ (cut s).sites.map (·.digits) ↔ ∃ i, 1 ≤ i ∧ i ≤ n ∧ ds = Nat.toDigits 10 i

theorem numbered_iff {n : Nat} {s : List Char} :
    Numbered n s ↔ (∀ ds ∈ (cut s).sites.map (·.digits), ds ∈ (List.range' 1 n).map (Nat.toDigits 10)) ∧
      ∀ ds ∈ (List.range' 1 n).map (Nat.toDigits 10), ds ∈ (cut s).sites.map (·.digits) := by
  have hrange (ds : List Char) :
      ds ∈ (List.range' 1 n).map (Nat.toDigits 10) ↔ ∃ i, 1 ≤ i ∧ i ≤ n ∧ ds = Nat.toDigits 10 i := by
    simp only [List.mem_map, List.mem_range'_1]
    constructor
    · rintro ⟨i, hi, rfl⟩
      exact ⟨i, hi.1, by omega, rfl⟩
    · rintro ⟨i, hpos, hle, rfl⟩
      exact ⟨i, ⟨hpos, by omega⟩, rfl⟩
  simp only [hrange]
  exact ⟨fun h => ⟨fun ds => (h ds).mp, fun ds => (h ds).mpr⟩, fun h ds => ⟨h.1 ds, h.2 ds⟩⟩

instance (n : Nat) (s : List Char) : Decidable (Numbered n s) := decidable_of_iff' _ numbered_iff

section
variable {n : Nat} {s : List Char} (h : Numbered n s)
include h

theorem Numbered.site {x : Site} (hx : x ∈ (cut s).sites) : ∃ i, 1 ≤ i ∧ i ≤ n ∧ x.digits = Nat.toDigits 10 i :=
  (h x.digits).mp (List.mem_map_of_mem hx)

theorem Numbered.exists_site {i : Nat} (hpos : 1 ≤ i) (hle : i ≤ n) :
    ∃ x ∈ (cut s).sites, x.digits = Nat.toDigits 10 i :=
  List.mem_map.mp ((h _).mpr ⟨i, hpos, hle, rfl⟩)

theorem Numbered.contiguous_eq : contiguous s = n := by
  refine Template.contiguous_eq (fun i hpos hle => ?_) fun hnext => ?_
  · obtain ⟨x, hx, hd⟩ := h.exists_site hpos hle
    exact ((cut_of s).label_infix_iff i).mpr ⟨x, hx, by rw [hd]⟩
  · obtain ⟨x, hx, hprefix⟩ := ((cut_of s).label_infix_iff (n + 1)).mp hnext
    obtain ⟨i, -, hle, hd⟩ := h.site hx
    rw [hd] at hprefix
    have := le_of_toDigits_isPrefix hprefix
    omega

theorem Numbered.profile_eq (hpos : 1 ≤ n) (hmarks : s.count qmark = 0) : profile s = ⟨n, .numeric⟩ := by
  simp [profile, hmarks, h.contiguous_eq, show 0 < n from hpos]

end

end Template

/-! ## The style -/

section
variable {config : Config} {template : String} {known : Option Profile}
  (hknown : known = none ∨ known = some (profile template.toList))
include hknown

theorem chooseStyle_numeric {n : Nat} (hstyle : (profile template.toList).style = .numeric)
    (hmarks : template.toList.count qmark = 0) (hn : n ≠ 0) :
    chooseStyle config template n known = Noted.pure .numeric := by
  unfold chooseStyle
  by_cases hu : config.isUnified = true
  · rcases hknown with rfl | rfl <;> simp [hu, countPlaceholders, countNotes, hstyle, Noted.map, Noted.pure]
  · simp [hu, hmarks, hn.symm]

theorem chooseStyle_qmark (hstyle : (profile template.toList).style = .qmark) :
    chooseStyle config template (template.toList.count qmark) known = Noted.pure .qmark := by
  unfold chooseStyle
  by_cases hu : config.isUnified = true
  · rcases hknown with rfl | rfl <;> simp [hu, countPlaceholders, countNotes, hstyle, Noted.map, Noted.pure]
  · simp [hu]

end

theorem rewrite_of_style {config : Config} {template : String} {values : List Value} {known : Option Profile}
    {style : Style} (h : chooseStyle config template values.length known = Noted.pure style) :
    rewrite config template values known =
      rewriteAs style config template.toList (values.map Argument.ofValue) := by
  simp only [rewrite, List.length_map, h, Noted.pure, Noted.after_nil]

/-! ## The slots -/

section
variable {config : Config} {arguments : List Argument}

theorem Walk.complete {xs : List Slot} {vs : List (List Char)} {finish : Except RewriteError (Option Overlong)}
    (h : Walk config arguments xs vs finish) (hx : ∀ x ∈ xs, ∃ s, x.fate config arguments = .ok s) :
    finish = .ok none := by
  induction h with
  | done => rfl
  | ended fate =>
    obtain ⟨s, hs⟩ := hx _ List.mem_cons_self
    cases fate.symm.trans hs
  | written _ _ _ ih => exact ih fun x hm => hx x (by simp [hm])

theorem Walk.absent {xs : List Slot} {vs : List (List Char)} {finish : Except RewriteError (Option Overlong)}
    (h : Walk config arguments xs vs finish)
    (hx : ∀ x ∈ xs, (∃ s, x.fate config arguments = .ok s) ∨
      x.fate config arguments = .error (.error (.indexOutOfRange x.digits arguments.length)))
    (hend : ∃ x ∈ xs, ∀ s, x.fate config arguments ≠ .ok s) :
    ∃ digits, finish = .error (.indexOutOfRange digits arguments.length) := by
  induction h with
  | done => obtain ⟨x, hm, -⟩ := hend; cases hm
  | ended fate =>
    rcases hx _ List.mem_cons_self with ⟨s, hs⟩ | he
    · cases fate.symm.trans hs
    · cases fate.symm.trans he
      exact ⟨_, rfl⟩
  | written fate _ _ ih =>
    refine ih (fun x hm => hx x (by simp [hm])) ?_
    obtain ⟨x, hm, hne⟩ := hend
    rcases List.mem_cons.mp hm with rfl | hm
    · exact absurd fate (hne _)
    · exact ⟨x, hm, hne⟩

theorem Slot.Asks.fate_ok {x : Slot} {a : Argument} (h : x.Asks arguments a) (ha : a.Renders config) :
    ∃ s, x.fate config arguments = .ok s := by
  obtain ⟨s, hs⟩ := ha
  exact ⟨s, by rw [h.fate, show a.bareText config = .ok s from hs]; rfl⟩

theorem questionSlots_ask {n : Nat} {ts : List (List Char)} (h : arguments.length = n + ts.length) {x : Slot}
    (hx : x ∈ questionSlots n ts) : ∃ a, x.Asks arguments a := by
  obtain ⟨p, hp, rfl⟩ := List.mem_map.mp hx
  obtain ⟨hge, hlt, -⟩ := List.mem_zipIdx hp
  exact ⟨arguments[p.2], p.2, rfl, List.getElem?_eq_getElem (by omega)⟩

theorem fillSites_congr {bs : List Argument} {xs : List Site}
    (h : ∀ x ∈ xs, ∃ n, readDigits x.digits = .ok n ∧
      argumentAt arguments x.digits n = argumentAt bs x.digits n) (written : List Char) :
    fillSites config arguments written xs = fillSites config bs written xs := by
  induction xs generalizing written with
  | nil => rfl
  | cons x xs ih =>
    obtain ⟨n, hn, heq⟩ := h x (by simp)
    have ih := ih fun y hy => h y (by simp [hy])
    simp only [fillSites, hn, replacement, heq, ih]

end

section
variable {config : Config} {template : List Char} {arguments : List Argument} {n : Nat}
  (numbered : Numbered n template) (hn : n < 10 ^ digitLimit)
include numbered hn

theorem Template.Numbered.read {x : Site} (hx : x ∈ (cut template).sites) :
    ∃ k, k < n ∧ readDigits x.digits = .ok (k + 1) := by
  obtain ⟨i, hpos, hle, hd⟩ := numbered.site hx
  obtain ⟨k, rfl⟩ : ∃ k, i = k + 1 := ⟨i - 1, by omega⟩
  exact ⟨k, by omega, by rw [hd, readDigits_toDigits (by omega)]⟩

theorem rewriteAs_take (hlength : n ≤ arguments.length) :
    rewriteAs .numeric config template arguments = rewriteAs .numeric config template (arguments.take n) := by
  have hsites : ∀ x ∈ (cut template).sites, ∃ m, readDigits x.digits = .ok m ∧
      argumentAt arguments x.digits m = argumentAt (arguments.take n) x.digits m := by
    intro x hx
    obtain ⟨k, hk, hread⟩ := numbered.read hn hx
    have hget : arguments[k]? = some arguments[k] := List.getElem?_eq_getElem (by omega)
    refine ⟨k + 1, hread, ?_⟩
    simp only [argumentAt, List.getElem?_take_of_lt hk, hget, Option.elim]
  simp only [rewriteAs, rewriteNumbered_eq _ _ (cut_of template), fillSites_congr hsites]

variable (renders : ∀ a ∈ arguments, a.Renders config)
include renders

theorem rewriteAs_complete (hlength : arguments.length = n) :
    ∃ r, (rewriteAs .numeric config template arguments).value = .ok r ∧ r.style = .numeric ∧ r.complete = true := by
  obtain ⟨vs, finish, hwalk, hvalue⟩ :=
    rewriteAs_walk config .numeric template (show Style.numeric = .qmark → _ = arguments.length from nofun)
  obtain rfl : finish = .ok none := by
    refine hwalk.complete fun x hx => ?_
    obtain ⟨y, hy, rfl⟩ := List.mem_map.mp hx
    obtain ⟨k, hk, hread⟩ := numbered.read hn hy
    have hget : arguments[k]? = some arguments[k] := List.getElem?_eq_getElem (by omega)
    exact Slot.Asks.fate_ok ⟨k, hread, hget⟩ (renders _ (List.mem_of_getElem? hget))
  exact ⟨_, hvalue, rfl, rfl⟩

theorem rewriteAs_absent (hlength : arguments.length < n) :
    ∃ digits, (rewriteAs .numeric config template arguments).value =
      .error (.indexOutOfRange digits arguments.length) := by
  obtain ⟨vs, finish, hwalk, hvalue⟩ :=
    rewriteAs_walk config .numeric template (show Style.numeric = .qmark → _ = arguments.length from nofun)
  have hpast {x : Site} {k : Nat} (hread : readDigits x.digits = .ok (k + 1)) (hk : arguments.length ≤ k) :
      x.slot.fate config arguments = .error (.error (.indexOutOfRange x.slot.digits arguments.length)) := by
    simp only [Slot.fate, Site.slot, hread, argumentAt, List.getElem?_eq_none hk, Option.elim]
  -- The first site past the arguments need not be the one that carries `n`, but there is one.
  obtain ⟨digits, rfl⟩ := hwalk.absent
    (fun x hx => by
      obtain ⟨y, hy, rfl⟩ := List.mem_map.mp hx
      obtain ⟨k, -, hread⟩ := numbered.read hn hy
      by_cases hk : k < arguments.length
      · have hget : arguments[k]? = some arguments[k] := List.getElem?_eq_getElem hk
        exact Or.inl (Slot.Asks.fate_ok ⟨k, hread, hget⟩ (renders _ (List.mem_of_getElem? hget)))
      · exact Or.inr (hpast hread (by omega)))
    (by
      obtain ⟨y, hy, hd⟩ := numbered.exists_site (i := n) (by omega) (Nat.le_refl n)
      obtain ⟨k, rfl⟩ : ∃ k, n = k + 1 := ⟨n - 1, by omega⟩
      refine ⟨y.slot, List.mem_map_of_mem hy, fun s hs => ?_⟩
      cases (hpast (by rw [hd, readDigits_toDigits hn]) (by omega)).symm.trans hs)
  exact ⟨digits, hvalue⟩

end

theorem rewriteAs_marks {config : Config} {template : List Char} {arguments : List Argument}
    (renders : ∀ a ∈ arguments, a.Renders config) (hlength : arguments.length = template.count qmark) :
    ∃ r, (rewriteAs .qmark config template arguments).value = .ok r ∧ r.style = .qmark ∧ r.complete = true := by
  obtain ⟨vs, finish, hwalk, hvalue⟩ :=
    rewriteAs_walk config .qmark template fun _ => hlength.symm
  obtain rfl : finish = .ok none := by
    refine hwalk.complete fun x hx => ?_
    have htail : arguments.length = 0 + (segments template).tail.length := by
      rw [List.length_tail, length_segments]
      omega
    obtain ⟨a, hasks⟩ := questionSlots_ask htail hx
    exact hasks.fate_ok (renders a (List.mem_of_getElem? hasks.choose_spec.2))
  exact ⟨_, hvalue, rfl, rfl⟩

/-- Counting a template and rewriting it agree: on markers that carry the
numbers from one up to `n`, and on question marks. -/
theorem rewrite_agrees (config : Config) (template : String) (values : List Value) (known : Option Profile)
    (hknown : known = none ∨ known = some (profile template.toList))
    (renders : ∀ v ∈ values, (Argument.ofValue v).Renders config) :
    (∀ n, 1 ≤ n → n < 10 ^ digitLimit → qmark ∉ template.toList → Numbered n template.toList →
      profile template.toList = ⟨n, .numeric⟩ ∧
        (values.length = n → ∃ r, (rewrite config template values known).value = .ok r ∧
          r.style = .numeric ∧ r.complete = true) ∧
        (n < values.length → rewrite config template values known = rewrite config template (values.take n) known) ∧
        (1 ≤ values.length → values.length < n → ∃ e f, (rewrite config template values known).value = .error e ∧
          (e.raised template).failure = .own f ∧ f.family = .placeholderIndex)) ∧
    ∀ k, 1 ≤ k → template.toList.count qmark = k →
      profile template.toList = ⟨k, .qmark⟩ ∧
        (values.length = k → ∃ r, (rewrite config template values known).value = .ok r ∧
          r.style = .qmark ∧ r.complete = true) := by
  have hrenders : ∀ a ∈ values.map Argument.ofValue, a.Renders config := by simpa using renders
  constructor
  · intro n hpos hn hmarks numbered
    have hcount := List.count_eq_zero_of_not_mem hmarks
    have hprofile := numbered.profile_eq hpos hcount
    have hstyle (values : List Value) (hne : values.length ≠ 0) : rewrite config template values known =
        rewriteAs .numeric config template.toList (values.map Argument.ofValue) :=
      rewrite_of_style (chooseStyle_numeric hknown (by rw [hprofile]) hcount hne)
    refine ⟨hprofile, fun hlength => ?_, fun hmore => ?_, fun hsome hfew => ?_⟩
    · rw [hstyle values (by omega)]
      exact rewriteAs_complete numbered hn hrenders (by simpa using hlength)
    · have htake : (values.take n).length ≠ 0 := by rw [List.length_take]; omega
      rw [hstyle values (by omega), hstyle _ htake, List.map_take]
      exact rewriteAs_take numbered hn (by rw [List.length_map]; omega)
    · rw [hstyle values (by omega)]
      obtain ⟨digits, hvalue⟩ := rewriteAs_absent numbered hn hrenders (by simpa using hfew)
      let e := RewriteError.indexOutOfRange digits (values.map Argument.ofValue).length
      obtain ⟨f, hf, hfamily⟩ : ∃ f, (e.raised template).failure = .own f ∧ f.family = .placeholderIndex :=
        ⟨_, rfl, rfl⟩
      exact ⟨e, f, hvalue, hf, hfamily⟩
  · rintro k hpos rfl
    have hprofile := profile_of_marks hpos
    refine ⟨hprofile, fun hlength => ?_⟩
    have hstyle : chooseStyle config template values.length known = Noted.pure .qmark := by
      rw [hlength]
      exact chooseStyle_qmark hknown (by rw [hprofile])
    rw [rewrite_of_style hstyle]
    exact rewriteAs_marks hrenders (by simpa using hlength)

/-- Ten markers, the last of which begins like the first; ten arguments, and nine. -/
theorem rewrite_agrees_ten :
    let config : Config := { unifiedStyleDetection := .bool true }
    let template := "$10, $9, $8, $7, $6, $5, $4, $3, $2, $1 or $10"
    let known := some (profile template.toList)
    let values := List.replicate 10 (Value.text "$1 ?")
    (known = none ∨ known = some (profile template.toList)) ∧ (∀ v ∈ values, (Argument.ofValue v).Renders config) ∧
      10 < 10 ^ digitLimit ∧ qmark ∉ template.toList ∧ Numbered 10 template.toList ∧
      profile template.toList = ⟨10, .numeric⟩ ∧
      (∃ r, (rewrite config template values known).value = .ok r ∧ r.style = .numeric ∧ r.complete = true) ∧
      ∃ e f, (rewrite config template (values.take 9) known).value = .error e ∧
        (e.raised template).failure = .own f ∧ f.family = .placeholderIndex := by
  intro config template known values
  have hknown : known = none ∨ known = some (profile template.toList) := Or.inr rfl
  have renders : ∀ v ∈ values, (Argument.ofValue v).Renders config := by
    intro v hv
    obtain rfl := List.eq_of_mem_replicate hv
    exact ⟨_, rfl⟩
  have hn : 10 < 10 ^ digitLimit :=
    Nat.lt_of_lt_of_le (show 10 < 10 ^ 2 by decide) (Nat.pow_le_pow_right (by decide) (by decide))
  have hmarks : qmark ∉ template.toList := by decide
  have numbered : Numbered 10 template.toList := by decide
  obtain ⟨hprofile, hequal, -⟩ :=
    (rewrite_agrees config template values known hknown renders).1 10 (by decide) hn hmarks numbered
  obtain ⟨-, -, -, hfew⟩ := (rewrite_agrees config template (values.take 9) known hknown
    fun v hv => renders v (List.mem_of_mem_take hv)).1 10 (by decide) hn hmarks numbered
  exact ⟨hknown, renders, hn, hmarks, numbered, hprofile, hequal rfl, hfew (by decide) (by decide)⟩

end Prepared
