import Mathlib.Data.List.Forall2
import Prepared.Json.Read
import Prepared.Proofs.Json.Token
import Prepared.Proofs.Number.Notation
import Prepared.Proofs.Value.Fields

/-!
# Texts inside collections

Inside a collection the text of an item is read as it is on its own, only that fewer
collections may still be opened in it; an error of its own is met there too. Main
statement: whatever value a text is written from, it has no controls in it and stands
by itself in that way.
-/

namespace Prepared

open Number Text

/-! ## Results one after the other -/

theorem mapM_eq_ok {α β ε : Type} {f : α → Except ε β} {xs : List α} {ys : List β} :
    xs.mapM f = .ok ys ↔ List.Forall₂ (fun x y => f x = .ok y) xs ys := by
  induction xs generalizing ys with
  | nil => simp [pure, Except.pure, eq_comm]
  | cons x xs ih =>
    rw [List.mapM_cons, List.forall₂_cons_left_iff]
    cases hx : f x with
    | error e => simp [bind, Except.bind]
    | ok y =>
      cases hxs : xs.mapM f with
      | error e =>
        have hnone : ∀ ys, ¬ List.Forall₂ (fun x y => f x = .ok y) xs ys := fun ys h => by
          rw [← ih, hxs] at h
          cases h
        simp [bind, Except.bind, hnone]
      | ok zs => simp [bind, Except.bind, hxs, ← ih, pure, Except.pure, eq_comm]

theorem map_eq_ok {α β ε : Type} {f : α → β} {x : Except ε α} {y : β} : x.map f = .ok y ↔ ∃ a, x = .ok a ∧ f a = y := by
  cases x <;> simp [Except.map]

theorem exists_of_mem_mapM {α β ε : Type} {f : α → Except ε β} {xs : List α} {ys : List β} (h : xs.mapM f = .ok ys)
    {y : β} (hy : y ∈ ys) : ∃ x ∈ xs, f x = .ok y := by
  replace h := mapM_eq_ok.mp h
  induction h with
  | nil => cases hy
  | @cons x _ xs _ hx _ ih =>
    rcases List.mem_cons.mp hy with rfl | hy
    · exact ⟨x, List.mem_cons_self .., hx⟩
    · obtain ⟨z, hz, hfz⟩ := ih hy
      exact ⟨z, List.mem_cons_of_mem _ hz, hfz⟩

theorem forall₂_comp {α β γ : Type} {R : α → β → Prop} {S : β → γ → Prop} {xs : List α} {zs : List γ} :
    (∃ ys, List.Forall₂ R xs ys ∧ List.Forall₂ S ys zs) ↔ List.Forall₂ (fun x z => ∃ y, R x y ∧ S y z) xs zs := by
  constructor
  · rintro ⟨ys, hxy, hyz⟩
    induction hxy generalizing zs with
    | nil =>
      cases hyz
      exact .nil
    | cons h _ ih =>
      cases hyz with
      | cons h' hyz => exact .cons ⟨_, h, h'⟩ (ih hyz)
  · intro h
    induction h with
    | nil => exact ⟨[], .nil, .nil⟩
    | cons h _ ih =>
      obtain ⟨y, hx, hz⟩ := h
      obtain ⟨ys, hxs, hzs⟩ := ih
      exact ⟨y :: ys, .cons hx hxs, .cons hz hzs⟩

namespace Json

/-! ## Steps of the reader -/

theorem run_of_step {limit : Nat} {s s' : State} {t : Token} (h : step limit s t = .ok s') (ts : List Token) :
    run limit s (t :: ts) = run limit s' ts := by
  rw [run, h]
  rfl

/-- With `depth` collections open, a text in the place of a value has that outcome, and
unless it is an error the reader goes on behind the text. -/
def Reads (limit depth : Nat) (s : List Char) (o : Except ReadError Value) : Prop :=
  ∀ ⦃frames : List Frame⦄ ⦃expect : Expect⦄ ⦃rest : List Char⦄,
    frames.length = depth → expect = .value ∨ expect = .valueOrClose → Parted rest →
      run limit ⟨frames, expect⟩ (lex .between (s ++ rest)) =
        o.bind fun v => run limit ⟨frames, .close v⟩ (lex .between rest)

theorem step_start {limit : Nat} {frames : List Frame} {expect : Expect} {t : Token}
    (hexp : expect = .value ∨ expect = .valueOrClose) (ht : t ≠ .arrayClose) :
    step limit ⟨frames, expect⟩ t = startValue limit frames t := by
  rcases hexp with rfl | rfl
  · rfl
  · cases t with
    | arrayClose => exact absurd rfl ht
    | _ => rfl

theorem Reads.readWithin_eq {limit : Nat} {s : List Char} {o : Except ReadError Value} (h : Reads limit 0 s o) :
    readWithin limit s = o := by
  have hrun := @h [] .value [] rfl (.inl rfl) parted_nil
  rw [List.append_nil] at hrun
  change ofTokens limit (lex .between s) = o
  rw [ofTokens, hrun]
  cases o <;> rfl

/-! ## Collections -/

def following (close : Char) (ss : List (List Char)) (rest : List Char) : List Char :=
  ss.flatMap (',' :: ·) ++ close :: rest

theorem following_cons (close : Char) (s : List Char) (ss : List (List Char)) (rest : List Char) :
    following close (s :: ss) rest = ',' :: (s ++ following close ss rest) := by
  simp [following]

theorem parted_following {close : Char} (h : isNumberChar close = false ∧ close.isLower = false)
    (ss : List (List Char)) (rest : List Char) : Parted (following close ss rest) := by
  cases ss with
  | nil => exact parted_cons h rest
  | cons s ss =>
    rw [following_cons]
    exact parted_cons (by decide) _

theorem intercalate_comma (s : List Char) (ss : List (List Char)) :
    [','].intercalate (s :: ss) = s ++ ss.flatMap (',' :: ·) := by
  induction ss generalizing s with
  | nil => simp
  | cons t ss ih => rw [List.intercalate_cons_cons, ih, List.flatMap_cons]; simp

def member (m : List Char × List Char) : List Char := string m.1 ++ ':' :: m.2

def readMember (read : List Char → Except ReadError Value) (m : List Char × List Char) :
    Except ReadError (String × Value) :=
  (read m.2).map fun v => (String.ofList m.1, v)

section
variable {limit : Nat} {frames : List Frame} {read : List Char → Except ReadError Value}

theorem run_items {ss : List (List Char)} (h : ∀ s ∈ ss, Reads limit (frames.length + 1) s (read s))
    (done : List Value) (v : Value) (rest : List Char) :
    run limit ⟨.array done :: frames, .close v⟩ (lex .between (following ']' ss rest)) =
      (ss.mapM read).bind fun vs => run limit ⟨frames, .close (.list (done ++ v :: vs))⟩ (lex .between rest) := by
  induction ss generalizing done v with
  | nil => exact run_of_step rfl _
  | cons s ss ih =>
    have hparted : Parted (following ']' ss rest) := parted_following (by decide) ss rest
    have hitem : run limit ⟨.array done :: frames, .close v⟩ (lex .between (following ']' (s :: ss) rest)) =
        (read s).bind fun w =>
          run limit ⟨.array (done ++ [v]) :: frames, .close w⟩ (lex .between (following ']' ss rest)) := by
      rw [following_cons]
      calc run limit ⟨.array done :: frames, .close v⟩ (lex .between (',' :: (s ++ following ']' ss rest)))
          = run limit ⟨.array (done ++ [v]) :: frames, .value⟩ (lex .between (s ++ following ']' ss rest)) :=
            run_of_step rfl _
        _ = _ := h s (List.mem_cons_self ..) rfl (.inl rfl) hparted
    rw [hitem, List.mapM_cons]
    cases read s with
    | error e => rfl
    | ok w =>
      have hrest := ih (fun t ht => h t (List.mem_cons_of_mem _ ht)) (done ++ [v]) w
      simp only [List.append_assoc, List.cons_append, List.nil_append] at hrest
      change run limit ⟨.array (done ++ [v]) :: frames, .close w⟩ (lex .between (following ']' ss rest)) = _
      rw [hrest]
      cases ss.mapM read <;> rfl

theorem run_member {m : List Char × List Char} {o : Except ReadError Value}
    (h : Reads limit (frames.length + 1) m.2 o) (entries : List (Value × Value)) (first : Bool)
    {rest : List Char} (hrest : Parted rest) :
    run limit ⟨frames, .key entries first⟩ (lex .between (member m ++ rest)) =
      o.bind fun v => run limit ⟨.object entries m.1 :: frames, .close v⟩ (lex .between rest) :=
  calc run limit ⟨frames, .key entries first⟩ (lex .between (member m ++ rest))
      = run limit ⟨frames, .colon entries m.1⟩ (lex .between (':' :: m.2 ++ rest)) := by
        rw [member, List.append_assoc, lex_string]
        exact run_of_step (by cases first <;> rfl) _
    _ = run limit ⟨.object entries m.1 :: frames, .value⟩ (lex .between (m.2 ++ rest)) := run_of_step rfl _
    _ = _ := h rfl (.inl rfl) hrest

theorem run_members {ms : List (List Char × List Char)} (h : ∀ m ∈ ms, Reads limit (frames.length + 1) m.2 (read m.2))
    (entries : List (Value × Value)) (key : List Char) (v : Value) (rest : List Char) :
    run limit ⟨.object entries key :: frames, .close v⟩ (lex .between (following objectClose (ms.map member) rest)) =
      (ms.mapM (readMember read)).bind fun fields =>
        run limit ⟨frames, .close (.dict ((named ((String.ofList key, v) :: fields)).foldl
          (fun es e => Value.insertEntry es e.1 e.2) entries))⟩ (lex .between rest) := by
  induction ms generalizing entries key v with
  | nil => exact run_of_step rfl _
  | cons m ms ih =>
    have hparted : Parted (following objectClose (ms.map member) rest) := parted_following (by decide) _ rest
    have hmember : run limit ⟨.object entries key :: frames, .close v⟩
          (lex .between (following objectClose ((m :: ms).map member) rest)) =
        (read m.2).bind fun w =>
          run limit ⟨.object (Value.insertEntry entries (.text (String.ofList key)) v) m.1 :: frames, .close w⟩
            (lex .between (following objectClose (ms.map member) rest)) := by
      rw [List.map_cons, following_cons]
      calc run limit ⟨.object entries key :: frames, .close v⟩
            (lex .between (',' :: (member m ++ following objectClose (ms.map member) rest)))
          = run limit ⟨frames, .key (Value.insertEntry entries (.text (String.ofList key)) v) false⟩
              (lex .between (member m ++ following objectClose (ms.map member) rest)) := run_of_step rfl _
        _ = _ := run_member (h m (List.mem_cons_self ..)) _ _ hparted
    rw [hmember, List.mapM_cons, readMember]
    cases read m.2 with
    | error e => rfl
    | ok w =>
      change run limit ⟨.object _ m.1 :: frames, .close w⟩
        (lex .between (following objectClose (ms.map member) rest)) = _
      rw [ih (fun n hn => h n (List.mem_cons_of_mem _ hn))]
      cases ms.mapM (readMember read) <;> rfl

variable {depth : Nat}

theorem reads_array {ss : List (List Char)} (h : ∀ s ∈ ss, Reads limit (depth + 1) s (read s))
    (hdepth : depth < limit) : Reads limit depth (array ss) ((ss.mapM read).map .list) := by
  intro frames expect rest hframes hexp hrest
  subst hframes
  have hopen : step limit ⟨frames, expect⟩ .arrayOpen = .ok ⟨.array [] :: frames, .valueOrClose⟩ := by
    rw [step_start (t := .arrayOpen) hexp (by simp), startValue, if_pos hdepth]
  cases ss with
  | nil =>
    change run limit _ (.arrayOpen :: .arrayClose :: lex .between rest) = _
    rw [run_of_step hopen]
    exact run_of_step rfl _
  | cons s ss =>
    have htext : array (s :: ss) ++ rest = '[' :: (s ++ following ']' ss rest) := by
      simp [array, intercalate_comma, following]
    have hfirst : run limit ⟨frames, expect⟩ (lex .between (array (s :: ss) ++ rest)) =
        (read s).bind fun v => run limit ⟨.array [] :: frames, .close v⟩ (lex .between (following ']' ss rest)) :=
      calc run limit ⟨frames, expect⟩ (lex .between (array (s :: ss) ++ rest))
          = run limit ⟨.array [] :: frames, .valueOrClose⟩ (lex .between (s ++ following ']' ss rest)) := by
            rw [htext]
            exact run_of_step hopen _
        _ = _ := h s (List.mem_cons_self ..) rfl (.inr rfl) (parted_following (by decide) ss rest)
    rw [hfirst, List.mapM_cons]
    cases read s with
    | error e => rfl
    | ok v =>
      change run limit ⟨.array [] :: frames, .close v⟩ (lex .between (following ']' ss rest)) = _
      rw [run_items (fun t ht => h t (List.mem_cons_of_mem _ ht))]
      cases ss.mapM read <;> rfl

theorem reads_object {ms : List (List Char × List Char)} (h : ∀ m ∈ ms, Reads limit (depth + 1) m.2 (read m.2))
    (hdepth : depth < limit) :
    Reads limit depth (object (ms.map member))
      ((ms.mapM (readMember read)).map fun fields => .dict (named (mergeFields fields))) := by
  simp only [← dictOf_named]
  intro frames expect rest hframes hexp hrest
  subst hframes
  have hopen : step limit ⟨frames, expect⟩ .objectOpen = .ok ⟨frames, .key [] true⟩ := by
    rw [step_start (t := .objectOpen) hexp (by simp), startValue, if_pos hdepth]
  cases ms with
  | nil =>
    change run limit _ (.objectOpen :: .objectClose :: lex .between rest) = _
    rw [run_of_step hopen]
    exact run_of_step rfl _
  | cons m ms =>
    have htext : object ((m :: ms).map member) ++ rest =
        objectOpen :: (member m ++ following objectClose (ms.map member) rest) := by
      simp [object, intercalate_comma, following]
    have hfirst : run limit ⟨frames, expect⟩ (lex .between (object ((m :: ms).map member) ++ rest)) =
        (read m.2).bind fun v => run limit ⟨.object [] m.1 :: frames, .close v⟩
          (lex .between (following objectClose (ms.map member) rest)) :=
      calc run limit ⟨frames, expect⟩ (lex .between (object ((m :: ms).map member) ++ rest))
          = run limit ⟨frames, .key [] true⟩
              (lex .between (member m ++ following objectClose (ms.map member) rest)) := by
            rw [htext]
            exact run_of_step hopen _
        _ = _ := run_member (h m (List.mem_cons_self ..)) [] true (parted_following (by decide) _ rest)
    rw [hfirst, List.mapM_cons, readMember]
    cases read m.2 with
    | error e => rfl
    | ok v =>
      change run limit ⟨.object [] m.1 :: frames, .close v⟩
        (lex .between (following objectClose (ms.map member) rest)) = _
      rw [run_members (fun n hn => h n (List.mem_cons_of_mem _ hn))]
      cases ms.mapM (readMember read) <;> rfl

theorem reads_of_token {s : List Char} {t : Token} {o : Except ReadError Value}
    (hlex : ∀ rest, Parted rest → ∃ ts, lex .between (s ++ rest) = t :: ts ∧ ∀ v, o = .ok v → ts = lex .between rest)
    (ht : t ≠ .arrayClose) (hstart : ∀ frames, frames.length = depth →
      startValue limit frames t = o.map fun v => ⟨frames, .close v⟩) : Reads limit depth s o := by
  intro frames expect rest hframes hexp hrest
  obtain ⟨ts, hts, hgo⟩ := hlex rest hrest
  rw [hts, run, step_start hexp ht, hstart frames hframes]
  cases o with
  | error e => rfl
  | ok v => rw [hgo v rfl]; rfl

theorem reads_tooDeep {s : List Char} (h : s.head? = some '[' ∨ s.head? = some objectOpen) (hdepth : limit ≤ depth) :
    Reads limit depth s (.error .tooDeep) := by
  have hclosed : ∀ frames : List Frame, frames.length = depth → ¬ frames.length < limit := fun _ _ => by omega
  obtain _ | ⟨c, s⟩ := s
  · simp at h
  · rcases h with h | h
    · obtain rfl := Option.some.inj h
      exact reads_of_token (t := .arrayOpen) (fun rest _ => ⟨_, rfl, by simp⟩) (by simp)
        fun frames hframes => if_neg (hclosed frames hframes)
    · obtain rfl := Option.some.inj h
      exact reads_of_token (t := .objectOpen) (fun rest _ => ⟨_, rfl, by simp⟩) (by simp)
        fun frames hframes => if_neg (hclosed frames hframes)

end

/-! ## Texts of their own -/

/-- A text without controls that is read the same wherever a value may stand, whatever is open around it. -/
structure Stands (s : List Char) : Prop where
  visible : Visible s
  reads : ∀ depth room, Reads (depth + room) depth s (readWithin room s)

theorem stands_of {s : List Char} (hs : Visible s) {o : Nat → Except ReadError Value}
    (h : ∀ depth room, Reads (depth + room) depth s (o room)) : Stands s ∧ ∀ room, readWithin room s = o room := by
  have heq : ∀ room, readWithin room s = o room := fun room => by
    have hzero := h 0 room
    rw [Nat.zero_add] at hzero
    exact hzero.readWithin_eq
  exact ⟨⟨hs, fun depth room => heq room ▸ h depth room⟩, heq⟩

theorem stands_within {s : List Char} (hs : Visible s) (hopens : s.head? = some '[' ∨ s.head? = some objectOpen)
    {o : Nat → Except ReadError Value} (h : ∀ depth room, Reads (depth + (room + 1)) depth s (o room)) :
    Stands s ∧ ∀ room, readWithin (room + 1) s = o room := by
  have hall : ∀ depth room, Reads (depth + room) depth s (if room = 0 then .error .tooDeep else o (room - 1)) := by
    intro depth room
    cases room with
    | zero => exact reads_tooDeep hopens (by omega)
    | succ room => exact h depth room
  obtain ⟨hstands, heq⟩ := stands_of hs hall
  exact ⟨hstands, fun room => heq (room + 1)⟩

theorem Stands.reads_below {s : List Char} (h : Stands s) (depth room : Nat) :
    Reads (depth + (room + 1)) (depth + 1) s (readWithin room s) := by
  have hreads := h.reads (depth + 1) room
  rwa [show depth + 1 + room = depth + (room + 1) by omega] at hreads

theorem visible_intercalate {ss : List (List Char)} (h : ∀ s ∈ ss, Visible s) : Visible ([','].intercalate ss) := by
  cases ss with
  | nil => exact fun c hc => absurd hc List.not_mem_nil
  | cons s ss =>
    rw [intercalate_comma]
    refine visible_append (h s (List.mem_cons_self ..)) fun c hc => ?_
    obtain ⟨t, ht, hc⟩ := List.mem_flatMap.mp hc
    exact visible_cons (by decide) (h t (List.mem_cons_of_mem _ ht)) c hc

theorem stands_array {ss : List (List Char)} (h : ∀ s ∈ ss, Stands s) :
    Stands (array ss) ∧ ∀ room, readWithin (room + 1) (array ss) = (ss.mapM (readWithin room)).map .list := by
  have hvisible : Visible (array ss) :=
    visible_append (visible_cons (by decide) (visible_intercalate fun s hs => (h s hs).visible)) (by decide)
  exact stands_within hvisible (.inl rfl) fun depth room =>
    reads_array (fun s hs => (h s hs).reads_below depth room) (by omega)

theorem stands_object {ms : List (List Char × List Char)} (h : ∀ m ∈ ms, Stands m.2) :
    Stands (object (ms.map member)) ∧ ∀ room, readWithin (room + 1) (object (ms.map member)) =
      (ms.mapM (readMember (readWithin room))).map fun fields => .dict (named (mergeFields fields)) := by
  have hmembers : ∀ s ∈ ms.map member, Visible s := by
    intro s hs
    obtain ⟨m, hm, rfl⟩ := List.mem_map.mp hs
    exact visible_append (visible_string _) (visible_cons (by decide) (h m hm).visible)
  have hvisible : Visible (object (ms.map member)) :=
    visible_append (visible_cons (by decide) (visible_intercalate hmembers)) (by decide)
  exact stands_within hvisible (.inr rfl) fun depth room =>
    reads_object (fun m hm => (h m hm).reads_below depth room) (by omega)

theorem stands_of_literal {s : List Char} {v : Value} (hs : Visible s)
    (hlex : ∀ rest, Parted rest → lex .between (s ++ rest) = .literal v :: lex .between rest) :
    Stands s ∧ ∀ room, readWithin room s = .ok v :=
  stands_of hs fun _ _ => reads_of_token (t := .literal v) (fun rest hrest => ⟨_, hlex rest hrest, fun _ _ => rfl⟩)
    (by simp) fun _ _ => rfl

theorem stands_string (s : List Char) :
    Stands (string s) ∧ ∀ room, readWithin room (string s) = .ok (.text (String.ofList s)) :=
  stands_of (visible_string s) fun _ _ => reads_of_token (t := .text s)
    (fun rest _ => ⟨_, lex_string s rest, fun _ _ => rfl⟩) (by simp) fun _ _ => rfl

theorem stands_integer {i : Int} {s : List Char} (h : integerText i = .ok s) :
    Stands s ∧ ∀ room, readWithin room s = .ok (.int i) :=
  stands_of_literal (visible_integerText h) fun _ hrest => lex_integer h hrest

theorem stands_null : Stands "null".toList ∧ ∀ room, readWithin room "null".toList = .ok .null :=
  stands_of_literal (by decide) fun _ hrest => lex_lower rfl rfl hrest

theorem stands_bool (b : Bool) : Stands (if b then "true" else "false").toList ∧
    ∀ room, readWithin room (if b then "true" else "false").toList = .ok (.bool b) := by
  cases b with
  | true => exact stands_of_literal (by decide) fun _ hrest => lex_lower rfl rfl hrest
  | false => exact stands_of_literal (by decide) fun _ hrest => lex_lower rfl rfl hrest

/-! ## Numbers -/

section
variable {s : List Char}

theorem isNumberChar_of_isDigits (h : IsDigits s) : ∀ c ∈ s, isNumberChar c = true :=
  fun c hc => isNumberChar_of_isDigit (h.2 c hc)

theorem isNumberChar_of_isFraction (h : IsFraction s) : ∀ c ∈ s, isNumberChar c = true := by
  cases h with
  | absent => exact fun _ hc => absurd hc List.not_mem_nil
  | point hds => exact List.forall_mem_cons.mpr ⟨rfl, isNumberChar_of_isDigits hds⟩

theorem isNumberChar_of_isExponent (h : IsExponent s) : ∀ c ∈ s, isNumberChar c = true := by
  cases h with
  | absent => exact fun _ hc => absurd hc List.not_mem_nil
  | power letter signs hds =>
    refine List.forall_mem_cons.mpr ⟨?_, List.forall_mem_append.mpr ⟨?_, isNumberChar_of_isDigits hds⟩⟩
    · rcases letter with rfl | rfl <;> rfl
    · rcases signs with rfl | rfl | rfl
      · exact fun _ hc => absurd hc List.not_mem_nil
      · exact List.forall_mem_singleton.mpr rfl
      · exact List.forall_mem_singleton.mpr rfl

theorem isNumberChar_of_isNumber (h : IsNumber s) : ∀ c ∈ s, isNumberChar c = true := by
  obtain ⟨negative, m, rfl, whole, fraction, exponent, rfl, hwhole, hfraction, hexponent⟩ := h
  have hmagnitude : ∀ c ∈ whole ++ fraction ++ exponent, isNumberChar c = true := by
    simp only [List.forall_mem_append]
    exact ⟨⟨isNumberChar_of_isDigits hwhole, isNumberChar_of_isFraction hfraction⟩,
      isNumberChar_of_isExponent hexponent⟩
  cases negative with
  | true => exact List.forall_mem_cons.mpr ⟨rfl, hmagnitude⟩
  | false => exact hmagnitude

end

theorem number?_token {s r : List Char} {t : Token} (h : number? s = some (t, r)) :
    (∃ v, t = .literal v) ∨ ∃ e, t = .fault e := by
  have hwhole : ∀ negative ds, (∃ v, wholeNumber negative ds = .literal v) ∨
      ∃ e, wholeNumber negative ds = .fault e := by
    intro negative ds
    unfold wholeNumber
    cases readDigits ds with
    | ok n => exact .inl ⟨_, rfl⟩
    | error e => exact .inr ⟨_, rfl⟩
  have hfloat : ∀ n, (∃ v, floatNumber n = .literal v) ∨ ∃ e, floatNumber n = .fault e := by
    intro n
    unfold floatNumber
    split
    · exact .inl ⟨_, rfl⟩
    · exact .inr ⟨_, rfl⟩
  unfold number? at h
  simp only [Option.bind_eq_bind, Option.bind_eq_some_iff, Prod.exists] at h
  obtain ⟨whole, r', -, -, -, fraction, -, -, exponent, rest, -, h⟩ := h
  split at h
  · obtain ⟨rfl, -⟩ := Prod.mk.inj (Option.some.inj h)
    exact hwhole _ _
  · obtain ⟨rfl, -⟩ := Prod.mk.inj (Option.some.inj h)
    exact hfloat _

theorem visible_of_isNumberChar {s : List Char} (h : ∀ c ∈ s, isNumberChar c = true) : Visible s := by
  intro c hc
  have hchar := h c hc
  simp only [isNumberChar, isDigit, Bool.or_eq_true, Bool.and_eq_true, decide_eq_true_eq, beq_iff_eq, Char.le_def,
    UInt32.le_iff_toNat_le] at hchar
  rcases hchar with ((((h | rfl) | rfl) | rfl) | rfl) | rfl
  · exact Nat.le_trans (by decide) h.1
  all_goals decide

theorem stands_numberChars {s : List Char} (hne : s ≠ []) (hchars : ∀ c ∈ s, isNumberChar c = true) : Stands s := by
  have hs : Visible s := visible_of_isNumberChar hchars
  have hlex : ∀ rest, Parted rest → lex .between (s ++ rest) = numberTokens s ++ lex .between rest :=
    fun rest hrest => lex_numberChars hne hchars hrest
  have hfault : ∀ {e ts}, numberTokens s = .fault e :: ts → Stands s := by
    intro e ts hts
    refine (stands_of hs (o := fun _ => .error e) fun _ _ => ?_).1
    refine reads_of_token (t := .fault e) (fun rest hrest => ?_) (by simp) fun _ _ => rfl
    rw [hlex rest hrest, hts]
    exact ⟨_, rfl, by simp⟩
  cases hnumber : number? s with
  | none => exact hfault (by rw [numberTokens, hnumber])
  | some found =>
    obtain ⟨t, r⟩ := found
    rcases number?_token hnumber with ⟨v, rfl⟩ | ⟨e, rfl⟩
    · cases r with
      | nil =>
        refine (@stands_of_literal _ v hs fun rest hrest => ?_).1
        rw [hlex rest hrest, numberTokens, hnumber]
        rfl
      | cons c r =>
        -- What is left over is an error after the value.
        refine (stands_of hs (o := fun _ => .error .malformed) fun _ _ => ?_).1
        intro frames expect rest _ hexp hrest
        rw [hlex rest hrest, numberTokens, hnumber]
        change run _ _ (.literal v :: .fault .malformed :: lex .between rest) = _
        rw [run, step_start (t := .literal v) hexp (by simp)]
        rfl
    · cases r with
      | nil => exact hfault (by rw [numberTokens, hnumber])
      | cons c r => exact hfault (by rw [numberTokens, hnumber])

theorem stands_float (x : Binary64) : Stands (float x) := by
  cases x with
  | finite negative mantissa exponent =>
    have hnumber : IsNumber (float (.finite negative mantissa exponent)) :=
      isNumber_finite layout negative mantissa exponent
    have hne : float (.finite negative mantissa exponent) ≠ [] := by
      obtain ⟨_, m, heq, whole, _, _, rfl, hwhole, -⟩ := hnumber
      rw [heq]
      exact signed_ne_nil _ (by simp [hwhole.1])
    exact stands_numberChars hne (isNumberChar_of_isNumber hnumber)
  | _ => exact stands_null.1

/-! ## Values -/

theorem writeItems_eq (vs : List Value) : writeItems vs = vs.mapM write := by
  induction vs with
  | nil => rfl
  | cons v vs ih => rw [writeItems, List.mapM_cons, ih]

def memberParts (e : Value × Value) : Except Overlong (List Char × List Char) := do
  let key ← keyText e.1
  let value ← write e.2
  return (key, value)

theorem memberParts_eq_ok {e : Value × Value} {p : List Char × List Char} :
    memberParts e = .ok p ↔ keyText e.1 = .ok p.1 ∧ write e.2 = .ok p.2 := by
  obtain ⟨key, text⟩ := p
  cases hkey : keyText e.1 <;> cases hwrite : write e.2 <;>
    simp [memberParts, hkey, hwrite, bind, Except.bind, pure, Except.pure]

theorem writeMembers_eq (es : List (Value × Value)) : writeMembers es = (es.mapM memberParts).map (·.map member) := by
  induction es with
  | nil => rfl
  | cons e es ih =>
    rw [writeMembers, List.mapM_cons, memberParts, ih]
    cases keyText e.1 with
    | error _ => rfl
    | ok key =>
      cases write e.2 with
      | error _ => rfl
      | ok value => cases es.mapM memberParts <;> rfl

mutual

/-- Whatever value a text is written from, it stands by itself. -/
theorem stands_write (v : Value) {s : List Char} (h : write v = .ok s) : Stands s := by
  cases v with
  | null => exact Except.ok.inj h ▸ stands_null.1
  | bool b => exact Except.ok.inj h ▸ (stands_bool b).1
  | int n => exact (stands_integer h).1
  | float x => exact Except.ok.inj h ▸ stands_float x
  | list items | tuple items =>
    rw [write, writeItems_eq] at h
    obtain ⟨ss, hss, rfl⟩ := map_eq_ok.mp h
    refine (stands_array fun s hs => ?_).1
    obtain ⟨v, hv, hwrite⟩ := exists_of_mem_mapM hss hs
    exact stands_items items v hv hwrite
  | dict entries =>
    rw [write, writeMembers_eq] at h
    obtain ⟨ms, hms, rfl⟩ := map_eq_ok.mp h
    obtain ⟨ps, hps, rfl⟩ := map_eq_ok.mp hms
    refine (stands_object fun p hp => ?_).1
    obtain ⟨e, he, hparts⟩ := exists_of_mem_mapM hps hp
    exact stands_entries entries e he (memberParts_eq_ok.mp hparts).2
  | typed kind value =>
    obtain ⟨t, -, rfl⟩ := map_eq_ok.mp h
    exact (stands_string t).1
  | decimal _ | text _ | octets _ _ | date _ | dateTime _ | clock _ => exact Except.ok.inj h ▸ (stands_string _).1

theorem stands_items (vs : List Value) : ∀ v ∈ vs, ∀ {s : List Char}, write v = .ok s → Stands s := by
  cases vs with
  | nil => exact fun _ hv => absurd hv List.not_mem_nil
  | cons w ws =>
    intro v hv s h
    rcases List.mem_cons.mp hv with heq | hv
    · rw [heq] at h
      exact stands_write w h
    · exact stands_items ws v hv h

theorem stands_entries (es : List (Value × Value)) : ∀ e ∈ es, ∀ {s : List Char}, write e.2 = .ok s → Stands s := by
  cases es with
  | nil => exact fun _ he => absurd he List.not_mem_nil
  | cons f fs =>
    obtain ⟨k, w⟩ := f
    intro e he s h
    rcases List.mem_cons.mp he with heq | he
    · rw [heq] at h
      exact stands_write w h
    · exact stands_entries fs e he h

end

end Json
end Prepared
