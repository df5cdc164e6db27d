import Mathlib.Data.List.Forall2
import Prepared.Proofs.Rewrite.Substitution
import Prepared.Proofs.Text.Utf8

/-!
# Octets among the values

A rewriting sees no more of an argument than its kind, its text and whether it
is true. Octets have the kind of a text, and their text is what they read as, so
octets can take the place of the text that they encode. Main statement: this
changes nothing, neither the query nor an error nor what is noted; and octets
that encode no text stand for the text that they read as.
-/

namespace Prepared

open Number Text Template

structure Argument.Alike (a b : Argument) : Prop where
  kind : b.kind = a.kind
  text : b.plainText = a.plainText
  truthy : a.kind = .boolean → b.value.truthy = a.value.truthy

/-- A value, and what may be bound in its place: for a text, the octets that encode it. -/
inductive Encoded : Value → Value → Prop
  | same (v : Value) : Encoded v v
  | text (s : String) (growable : Bool) : Encoded (.text s) (.octets growable (Utf8.encode s.toList))
  | typed (s : String) (growable : Bool) :
    Encoded (.typed .text (.text s)) (.typed .text (.octets growable (Utf8.encode s.toList)))

namespace Argument.Alike

variable {a b : Argument}

theorem refl (a : Argument) : a.Alike a := ⟨rfl, rfl, fun _ => rfl⟩

theorem literal (h : a.Alike b) (setting : Value) : b.literal setting = a.literal setting := by
  unfold Argument.literal literalBy
  rw [h.kind, h.text]
  cases hk : a.kind with
  | boolean => rw [h.truthy hk]
  | _ => rfl

theorem numberedText (h : a.Alike b) (config : Config) (query : List Char) (start : Nat) :
    b.numberedText config query start = a.numberedText config query start := by
  unfold Argument.numberedText isText
  rw [h.literal, h.kind, h.text]

theorem sequentialText (h : a.Alike b) (config : Config) : b.sequentialText config = a.sequentialText config := by
  unfold Argument.sequentialText
  rw [h.literal, h.text]

end Argument.Alike

/-! ## Two lists of arguments -/

section
variable {config : Config} {as bs : List Argument} (alike : List.Forall₂ Argument.Alike as bs)
include alike

theorem replacement_alike (query : List Char) (m : Marker) (index : Nat) :
    replacement config bs query m index = replacement config as query m index := by
  have hlength := alike.length_eq
  unfold replacement argumentAt
  cases index with
  | zero => rw [hlength]
  | succ k =>
    dsimp only
    by_cases hk : k < as.length
    · have hb : k < bs.length := hlength ▸ hk
      have hab : as[k].Alike bs[k] := alike.get hk hb
      rw [List.getElem?_eq_getElem hk, List.getElem?_eq_getElem hb]
      exact congrArg (Except.mapError RewriteError.literal) (hab.numberedText config query m.start)
    · rw [List.getElem?_eq_none (Nat.not_lt.mp hk), List.getElem?_eq_none (by omega), hlength]

theorem fillSites_alike (xs : List Site) (written : List Char) :
    fillSites config bs written xs = fillSites config as written xs := by
  induction xs generalizing written with
  | nil => rfl
  | cons x xs ih => simp only [fillSites, replacement_alike alike, ih]

theorem rewriteSequential_alike (template : List Char) :
    rewriteSequential config template bs = rewriteSequential config template as := by
  have htexts : (bs.mapM fun a => (a.sequentialText config).mapError RewriteError.literal) =
      as.mapM fun a => (a.sequentialText config).mapError RewriteError.literal := by
    clear template
    induction alike with
    | nil => rfl
    | cons hab _ ih => simp only [List.mapM_cons, hab.sequentialText, ih]
  unfold rewriteSequential
  rw [alike.length_eq, htexts]

theorem rewriteAs_alike (style : Style) (template : List Char) :
    rewriteAs style config template bs = rewriteAs style config template as := by
  cases style with
  | none => rfl
  | qmark => rw [rewriteAs, rewriteAs, rewriteSequential_alike alike]
  | numeric =>
    rw [rewriteAs, rewriteAs, rewriteNumbered_eq _ _ (cut_of template), rewriteNumbered_eq _ _ (cut_of template),
      fillSites_alike alike]

end

theorem rewrite_alike (config : Config) (template : String) {values values' : List Value} (known : Option Profile)
    (alike : List.Forall₂ (fun v v' => (Argument.ofValue v).Alike (Argument.ofValue v')) values values') :
    rewrite config template values' known = rewrite config template values known := by
  have harguments : List.Forall₂ Argument.Alike (values.map Argument.ofValue) (values'.map Argument.ofValue) :=
    List.forall₂_map_left_iff.mpr (List.forall₂_map_right_iff.mpr alike)
  have hlength := harguments.length_eq
  unfold rewrite
  dsimp only
  rw [← hlength, rewriteAs_alike harguments]

/-! ## Octets -/

theorem alike_octets (s : String) (growable : Bool) {bytes : List UInt8} (h : Utf8.decode bytes = s.toList) :
    (Argument.mk .text (.text s)).Alike (.mk .text (.octets growable bytes)) :=
  ⟨rfl, congrArg (fun t => (Except.ok t).mapError LiteralError.overlong) h, nofun⟩

theorem Encoded.alike {v v' : Value} (h : Encoded v v') : (Argument.ofValue v).Alike (Argument.ofValue v') := by
  cases h with
  | same => exact .refl _
  | text s growable => exact alike_octets s growable (Utf8.decode_encode _)
  | typed s growable => exact alike_octets s growable (Utf8.decode_encode _)

/-- Octets in the place of texts that they encode change nothing in a rewriting.
Whatever octets there are, they have one text, which is what they read as: each
gap is one replacement character, and every text that is encoded somewhere
between them is there, with what stands before and behind it read for itself.
They can be rewritten with as that text. -/
theorem rewrite_octets (config : Config) (template : String) (known : Option Profile) :
    (∀ values values', List.Forall₂ Encoded values values' →
      rewrite config template values' known = rewrite config template values known) ∧
    ∀ growable bytes, ∃ s, (Argument.ofValue (.octets growable bytes)).plainText = .ok s ∧
      (∀ t, Utf8.Reads bytes t ↔ t = s) ∧
      (∀ p t q, bytes = p ++ Utf8.encode t ++ q → t ≠ [] →
        ∃ s₁ s₂, Utf8.Reads p s₁ ∧ Utf8.Reads q s₂ ∧ s = s₁ ++ t ++ s₂) ∧
      ∀ before after, rewrite config template (before ++ .octets growable bytes :: after) known =
        rewrite config template (before ++ .text (String.ofList s) :: after) known := by
  refine ⟨fun values values' h => ?_, fun growable bytes => ?_⟩
  · exact rewrite_alike config template known (h.imp fun _ _ hv => hv.alike)
  · refine ⟨Utf8.decode bytes, rfl, fun t => Utf8.reads_iff, fun p t q hbytes ht => ?_, fun before after => ?_⟩
    · subst hbytes
      exact ⟨_, _, Utf8.reads_decode p, Utf8.reads_decode q, Utf8.decode_around p q ht⟩
    · have hsame (vs : List Value) :
          List.Forall₂ (fun v v' => (Argument.ofValue v).Alike (Argument.ofValue v')) vs vs :=
        List.forall₂_same.mpr fun _ _ => .refl _
      have hoctets := alike_octets (String.ofList (Utf8.decode bytes)) growable (String.toList_ofList).symm
      exact rewrite_alike config template known (List.rel_append (hsame before) (.cons hoctets (hsame after)))

/-- A text of three octets, and octets that break off in the middle of a character and go on with no character. -/
theorem rewrite_octets_gaps :
    let config : Config := {}
    let values := [Value.text "€", .text "$1 ?", .null]
    let values' := [Value.octets true [0xE2, 0x82, 0xAC], .text "$1 ?", .null]
    let broken : List UInt8 := [0x61, 0xE2, 0x82, 0x62, 0xED, 0xA0, 0xF1, 0x80, 0xC3]
    let gap := Utf8.replacement
    List.Forall₂ Encoded values values' ∧
      rewrite config "$2, $1" values' none = rewrite config "$2, $1" values none ∧
      Utf8.Reads broken ['a', gap, 'b', gap, gap, gap, gap] ∧
      rewrite config "$1" [.octets false broken] none =
        rewrite config "$1" [.text "a\uFFFDb\uFFFD\uFFFD\uFFFD\uFFFD"] none := by
  intro config values values' broken gap
  have hencoded : List.Forall₂ Encoded values values' :=
    .cons (.text "€" true) (.cons (.same _) (.cons (.same _) .nil))
  have hdecode : Utf8.decode broken = ['a', gap, 'b', gap, gap, gap, gap] := by decide +kernel
  obtain ⟨s, -, hreads, -, hrewrite⟩ := (rewrite_octets config "$1" none).2 false broken
  obtain rfl : Utf8.decode broken = s := (hreads _).mp (Utf8.reads_decode broken)
  refine ⟨hencoded, (rewrite_octets config "$2, $1" none).1 values values' hencoded, ?_, ?_⟩
  · exact hdecode ▸ Utf8.reads_decode broken
  · have hbroken := hrewrite [] []
    rw [hdecode] at hbroken
    exact hbroken

end Prepared
