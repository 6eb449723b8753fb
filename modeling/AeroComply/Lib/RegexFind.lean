import AeroComply.Lib.Regex

/-!
# RegexFind — what a search finds

`Reads` says which texts a pattern reads between what is before and what is after them; the matcher
tries exactly these.  A search answers with the first place that has one.

A pattern between word boundaries reads parts that stand between characters that are no word
characters.  `find_eq_some_iff`: the search finds the first of them.  `firstPart_intercalate`: in a
text that is put together with such a character, it is the first one of the first piece that has one.
-/

namespace Regex

variable {α κ : Type}

section Reads

variable (char : κ → α → Bool) (word : α → Bool)

/-- The pattern reads the text, between what is before and what is after it. -/
def Reads : Pattern κ → Option α → List α → List α → Prop
  | .empty, _, w, _ => w = []
  | .one k, _, w, _ => ∃ a, w = [a] ∧ char k a = true
  | .boundary, prev, w, after => w = [] ∧ wordAt word prev ≠ wordAt word after.head?
  | .seq r s, prev, w, after =>
    ∃ u v, w = u ++ v ∧ Reads r prev u (v ++ after) ∧ Reads s (u.getLast?.or prev) v after
  | .alt r s, prev, w, after => Reads r prev w after ∨ Reads s prev w after
  | .many k, _, w, _ => ∀ a ∈ w, char k a = true

end Reads

variable {char : κ → α → Bool} {word : α → Bool} {r : Pattern κ}

theorem getLast?_cons_or (a : α) (as : List α) (prev : Option α) :
    (a :: as).getLast?.or prev = as.getLast?.or (some a) := by
  rw [List.getLast?_cons]
  cases as.getLast? <;> rfl

theorem getLast?_append_or (u v : List α) (prev : Option α) :
    (u ++ v).getLast?.or prev = v.getLast?.or (u.getLast?.or prev) := by
  rw [List.getLast?_append, Option.or_assoc]

variable {rest : List α} {prev : Option α}

theorem mem_manyFrom_iff {k : κ} : ∀ {prev : Option α} {d : Cursor α},
    d ∈ manyFrom char k prev rest ↔
      ∃ w, rest = w ++ d.rest ∧ d.prev = w.getLast?.or prev ∧ ∀ a ∈ w, char k a = true := by
  induction rest with
  | nil =>
    intro prev d
    rw [manyFrom, List.mem_singleton]
    constructor
    · rintro rfl
      exact ⟨[], rfl, rfl, List.forall_mem_nil _⟩
    · rintro ⟨w, hrest, hprev, -⟩
      obtain ⟨rfl, hd⟩ := List.append_eq_nil_iff.1 hrest.symm
      cases d
      cases hd
      cases hprev
      rfl
  | cons a as ih =>
    intro prev d
    have hstart : d = ⟨prev, a :: as⟩ ↔ a :: as = d.rest ∧ d.prev = prev := by
      cases d
      constructor
      · intro h
        cases h
        exact ⟨rfl, rfl⟩
      · rintro ⟨hrest, hprev⟩
        cases hrest
        cases hprev
        rfl
    rw [manyFrom]
    by_cases hmatch : char k a = true
    · rw [if_pos hmatch, List.mem_append, List.mem_singleton, ih, hstart]
      constructor
      · rintro (⟨w, hrest, hprev, hall⟩ | ⟨hrest, hprev⟩)
        · refine ⟨a :: w, congrArg (a :: ·) hrest, ?_, ?_⟩
          · rw [getLast?_cons_or]
            exact hprev
          · intro b hb
            rcases List.mem_cons.1 hb with rfl | hb
            · exact hmatch
            · exact hall b hb
        · exact ⟨[], hrest, hprev, List.forall_mem_nil _⟩
      · rintro ⟨w, hrest, hprev, hall⟩
        cases w with
        | nil => exact Or.inr ⟨hrest, hprev⟩
        | cons b w =>
          obtain ⟨rfl, has⟩ := List.cons.inj hrest
          rw [getLast?_cons_or] at hprev
          exact Or.inl ⟨w, has, hprev, fun b hb => hall b (List.mem_cons_of_mem _ hb)⟩
    · rw [if_neg hmatch, List.mem_singleton, hstart]
      constructor
      · rintro ⟨hrest, hprev⟩
        exact ⟨[], hrest, hprev, List.forall_mem_nil _⟩
      · rintro ⟨w, hrest, hprev, hall⟩
        cases w with
        | nil => exact ⟨hrest, hprev⟩
        | cons b w =>
          obtain ⟨rfl, -⟩ := List.cons.inj hrest
          exact absurd (hall a List.mem_cons_self) hmatch

theorem mem_matchFrom_iff (r : Pattern κ) : ∀ {prev : Option α} {rest : List α} {d : Cursor α},
    d ∈ matchFrom char word r ⟨prev, rest⟩ ↔
      ∃ w, rest = w ++ d.rest ∧ d.prev = w.getLast?.or prev ∧ Reads char word r prev w d.rest := by
  induction r with
  | empty =>
    intro prev rest d
    rw [matchFrom, List.mem_singleton]
    constructor
    · rintro rfl
      exact ⟨[], rfl, rfl, rfl⟩
    · rintro ⟨w, rfl, hprev, rfl⟩
      cases d
      cases hprev
      rfl
  | one k =>
    intro prev rest d
    cases rest with
    | nil =>
      constructor
      · intro hd
        cases hd
      · rintro ⟨w, hrest, -, a, rfl, -⟩
        cases hrest
    | cons b rest =>
      rw [matchFrom]
      constructor
      · intro hd
        split at hd
        · next hmatch =>
          rw [List.mem_singleton.1 hd]
          exact ⟨[b], rfl, rfl, b, rfl, hmatch⟩
        · cases hd
      · rintro ⟨w, hrest, hprev, a, rfl, hmatch⟩
        obtain ⟨rfl, rfl⟩ := List.cons.inj hrest
        rw [if_pos hmatch, List.mem_singleton]
        cases d
        cases hprev
        rfl
  | boundary =>
    intro prev rest d
    rw [matchFrom]
    constructor
    · intro hd
      split at hd
      · next hne =>
        rw [List.mem_singleton.1 hd]
        exact ⟨[], rfl, rfl, rfl, hne⟩
      · cases hd
    · rintro ⟨w, rfl, hprev, rfl, hne⟩
      rw [List.nil_append, if_pos hne, List.mem_singleton]
      cases d
      cases hprev
      rfl
  | seq r s ihr ihs =>
    intro prev rest d
    rw [matchFrom, List.mem_flatMap]
    constructor
    · rintro ⟨⟨mid, rest'⟩, he, hd⟩
      obtain ⟨u, rfl, hmid, hr⟩ := ihr.1 he
      obtain ⟨v, hrest, hprev, hs⟩ := ihs.1 hd
      dsimp only at hmid hrest hr
      rw [hrest] at hr
      rw [hmid] at hprev hs
      refine ⟨u ++ v, ?_, ?_, u, v, rfl, hr, hs⟩
      · rw [hrest, List.append_assoc]
      · rw [getLast?_append_or]
        exact hprev
    · rintro ⟨w, rfl, hprev, u, v, rfl, hr, hs⟩
      refine ⟨⟨u.getLast?.or prev, v ++ d.rest⟩, ihr.2 ⟨u, ?_, rfl, hr⟩, ihs.2 ⟨v, rfl, ?_, hs⟩⟩
      · exact List.append_assoc u v d.rest
      · rw [hprev, getLast?_append_or]
  | alt r s ihr ihs =>
    intro prev rest d
    rw [matchFrom, List.mem_append, ihr, ihs]
    constructor
    · rintro (⟨w, hrest, hprev, hr⟩ | ⟨w, hrest, hprev, hs⟩)
      · exact ⟨w, hrest, hprev, Or.inl hr⟩
      · exact ⟨w, hrest, hprev, Or.inr hs⟩
    · rintro ⟨w, hrest, hprev, hr | hs⟩
      · exact Or.inl ⟨w, hrest, hprev, hr⟩
      · exact Or.inr ⟨w, hrest, hprev, hs⟩
  | many k =>
    intro prev rest d
    exact mem_manyFrom_iff

theorem class_of_reads (r : Pattern κ) : ∀ {prev : Option α} {w after : List α},
    Reads char word r prev w after → ∀ a ∈ w, ∃ k ∈ r.classes, char k a = true := by
  induction r with
  | empty =>
    rintro prev w after rfl a ha
    cases ha
  | one k =>
    rintro prev w after ⟨b, rfl, hb⟩ a ha
    exact ⟨k, List.mem_singleton_self k, List.mem_singleton.1 ha ▸ hb⟩
  | boundary =>
    rintro prev w after ⟨rfl, -⟩ a ha
    cases ha
  | seq r s ihr ihs =>
    rintro prev w after ⟨u, v, rfl, hr, hs⟩ a ha
    rcases List.mem_append.1 ha with ha | ha
    · obtain ⟨k, hk, hmatch⟩ := ihr hr a ha
      exact ⟨k, List.mem_append_left _ hk, hmatch⟩
    · obtain ⟨k, hk, hmatch⟩ := ihs hs a ha
      exact ⟨k, List.mem_append_right _ hk, hmatch⟩
  | alt r s ihr ihs =>
    rintro prev w after (hr | hs) a ha
    · obtain ⟨k, hk, hmatch⟩ := ihr hr a ha
      exact ⟨k, List.mem_append_left _ hk, hmatch⟩
    · obtain ⟨k, hk, hmatch⟩ := ihs hs a ha
      exact ⟨k, List.mem_append_right _ hk, hmatch⟩
  | many k =>
    intro prev w after h a ha
    exact ⟨k, List.mem_singleton_self k, h a ha⟩

section Shapes

variable {prev : Option α} {w after : List α} {k : κ}

theorem reads_bounded : Reads char word (.cat [.boundary, r, .boundary]) prev w after ↔
    wordAt word prev ≠ wordAt word (w ++ after).head? ∧ Reads char word r prev w after ∧
      wordAt word (w.getLast?.or prev) ≠ wordAt word after.head? := by
  constructor
  · rintro ⟨_, _, rfl, ⟨rfl, hleft⟩, _, _, rfl, hreads, rfl, hright⟩
    rw [List.append_nil] at hleft ⊢
    exact ⟨hleft, hreads, hright⟩
  · rintro ⟨hleft, hreads, hright⟩
    refine ⟨[], w, rfl, ⟨rfl, hleft⟩, w, [], (List.append_nil w).symm, hreads, rfl, ?_⟩
    exact hright

theorem reads_atMost_one {n : Nat} : Reads char word (.atMost (.one k) n) prev w after ↔
    w.length ≤ n ∧ ∀ a ∈ w, char k a = true := by
  induction n generalizing prev w with
  | zero =>
    rw [Nat.le_zero, List.length_eq_zero_iff]
    constructor
    · rintro rfl
      exact ⟨rfl, fun a ha => (nomatch ha)⟩
    · exact fun h => h.1
  | succ n ih =>
    constructor
    · rintro (⟨_, v, rfl, ⟨a, rfl, ha⟩, hv⟩ | rfl)
      · obtain ⟨hlength, hall⟩ := ih.1 hv
        refine ⟨Nat.succ_le_succ hlength, fun b hb => ?_⟩
        rcases List.mem_cons.1 hb with rfl | hb
        · exact ha
        · exact hall b hb
      · exact ⟨Nat.zero_le _, fun a ha => (nomatch ha)⟩
    · rintro ⟨hlength, hall⟩
      cases w with
      | nil => exact Or.inr rfl
      | cons a v =>
        refine Or.inl ⟨[a], v, rfl, ⟨a, rfl, hall a List.mem_cons_self⟩, ih.2 ⟨?_, ?_⟩⟩
        · exact Nat.le_of_succ_le_succ hlength
        · exact fun b hb => hall b (List.mem_cons_of_mem a hb)

/-- A bounded repetition of one class reads its characters, as many as it may. -/
theorem reads_between_one {m n : Nat} : Reads char word (.between (.one k) m n) prev w after ↔
    m ≤ w.length ∧ w.length ≤ m + n ∧ ∀ a ∈ w, char k a = true := by
  induction m generalizing prev w with
  | zero =>
    rw [Nat.zero_add]
    exact reads_atMost_one.trans ⟨fun h => ⟨Nat.zero_le _, h⟩, fun h => h.2⟩
  | succ m ih =>
    constructor
    · rintro ⟨_, v, rfl, ⟨a, rfl, ha⟩, hv⟩
      obtain ⟨hleast, hmost, hall⟩ := ih.1 hv
      rw [List.singleton_append, List.length_cons]
      refine ⟨by omega, by omega, fun b hb => ?_⟩
      rcases List.mem_cons.1 hb with rfl | hb
      · exact ha
      · exact hall b hb
    · rintro ⟨hleast, hmost, hall⟩
      cases w with
      | nil =>
        rw [List.length_nil] at hleast
        omega
      | cons a v =>
        rw [List.length_cons] at hleast hmost
        refine ⟨[a], v, rfl, ⟨a, rfl, hall a List.mem_cons_self⟩, ih.2 ⟨by omega, by omega, ?_⟩⟩
        exact fun b hb => hall b (List.mem_cons_of_mem a hb)

end Shapes

/-! ## The search -/

section Find

variable (char word)

/-- What is read between a place and a later one. -/
def matched (rest : List α) (d : Cursor α) : List α := rest.take (rest.length - d.rest.length)

/-- The text of the first match that begins here or later. -/
def findFrom (r : Pattern κ) : Option α → List α → Option (List α)
  | prev, [] => (matchFrom char word r ⟨prev, []⟩).head?.map (matched [])
  | prev, a :: as =>
    ((matchFrom char word r ⟨prev, a :: as⟩).head?.map (matched (a :: as))).or
      (findFrom r (some a) as)

/-- `re.search(…).group(0)`. -/
def find (r : Pattern κ) (text : List α) : Option (List α) := findFrom char word r none text

end Find

theorem head?_matchFrom_eq_some {rest w : List α}
    (h : (matchFrom char word r ⟨prev, rest⟩).head?.map (matched rest) = some w) :
    ∃ after, rest = w ++ after ∧ Reads char word r prev w after := by
  obtain ⟨d, hd, hw⟩ := Option.map_eq_some_iff.1 h
  obtain ⟨w', rfl, -, hreads⟩ := (mem_matchFrom_iff r).1 (List.mem_of_mem_head? hd)
  have hsame : w' = w := by
    rw [← hw, matched, List.length_append, Nat.add_sub_cancel, List.take_left]
  exact ⟨d.rest, hsame ▸ rfl, hsame ▸ hreads⟩

theorem head?_matchFrom_eq_none
    (h : (matchFrom char word r ⟨prev, rest⟩).head?.map (matched rest) = none) {w after : List α}
    (hrest : rest = w ++ after) : ¬Reads char word r prev w after := by
  intro hreads
  have hmem := (mem_matchFrom_iff r (d := ⟨w.getLast?.or prev, after⟩)).2 ⟨w, hrest, rfl, hreads⟩
  rw [Option.map_eq_none_iff, List.head?_eq_none_iff] at h
  rw [h] at hmem
  cases hmem

/-- A search answers with what the pattern reads at the first place where it reads something. -/
theorem findFrom_eq_some {rest w : List α} : ∀ {prev : Option α},
    findFrom char word r prev rest = some w →
      ∃ before after, rest = before ++ w ++ after ∧
        Reads char word r (before.getLast?.or prev) w after ∧
        ∀ before' w' after', rest = before' ++ w' ++ after' →
          Reads char word r (before'.getLast?.or prev) w' after' →
            before.length ≤ before'.length := by
  induction rest with
  | nil =>
    intro prev h
    obtain ⟨after, hrest, hreads⟩ := head?_matchFrom_eq_some h
    exact ⟨[], after, hrest, hreads, fun _ _ _ _ _ => Nat.zero_le _⟩
  | cons a as ih =>
    intro prev h
    rw [findFrom, Option.or_eq_some_iff] at h
    rcases h with h | ⟨hnone, h⟩
    · obtain ⟨after, hrest, hreads⟩ := head?_matchFrom_eq_some h
      exact ⟨[], after, hrest, hreads, fun _ _ _ _ _ => Nat.zero_le _⟩
    · obtain ⟨before, after, rfl, hreads, hfirst⟩ := ih h
      refine ⟨a :: before, after, rfl, getLast?_cons_or a before prev ▸ hreads, ?_⟩
      intro before' w' after' hrest' hreads'
      cases before' with
      | nil => exact absurd hreads' (head?_matchFrom_eq_none hnone hrest')
      | cons b before' =>
        rw [List.cons_append, List.cons_append] at hrest'
        obtain ⟨rfl, hnext⟩ := List.cons.inj hrest'
        rw [getLast?_cons_or] at hreads'
        exact Nat.succ_le_succ (hfirst before' w' after' hnext hreads')

theorem findFrom_eq_none : ∀ {prev : Option α},
    findFrom char word r prev rest = none →
      ∀ before w after, rest = before ++ w ++ after →
        ¬Reads char word r (before.getLast?.or prev) w after := by
  induction rest with
  | nil =>
    intro prev h before w after hrest
    obtain ⟨hleft, hafter⟩ := List.append_eq_nil_iff.1 hrest.symm
    obtain ⟨rfl, hw⟩ := List.append_eq_nil_iff.1 hleft
    exact head?_matchFrom_eq_none h (by rw [hw, hafter]; rfl)
  | cons a as ih =>
    intro prev h before w after hrest
    rw [findFrom, Option.or_eq_none_iff] at h
    cases before with
    | nil => exact head?_matchFrom_eq_none h.1 hrest
    | cons b before =>
      rw [List.cons_append, List.cons_append] at hrest
      obtain ⟨rfl, hnext⟩ := List.cons.inj hrest
      rw [getLast?_cons_or]
      exact ih h.2 before w after hnext

/-! ## Parts between characters that are no word characters -/

/-- A good part of the text, with what is before and after it. -/
structure PartAt (word : α → Bool) (good : List α → Prop) (text before w after : List α) : Prop where
  eq : text = before ++ w ++ after
  good : good w
  left : wordAt word before.getLast? = false
  right : wordAt word after.head? = false

/-- The good part that begins first. -/
def FirstPart (word : α → Bool) (good : List α → Prop) (text w : List α) : Prop :=
  ∃ before after, PartAt word good text before w after ∧
    ∀ before' w' after', PartAt word good text before' w' after' → before.length ≤ before'.length

/-- The text has no good part. -/
def NoPart (word : α → Bool) (good : List α → Prop) (text : List α) : Prop :=
  ∀ before w after, ¬PartAt word good text before w after

/-- The pattern reads the good parts, and at no place two of them. -/
structure ReadsParts (char : κ → α → Bool) (word : α → Bool) (r : Pattern κ)
    (good : List α → Prop) : Prop where
  reads : ∀ prev w after, Reads char word r prev w after ↔
    good w ∧ wordAt word prev = false ∧ wordAt word after.head? = false
  unique : ∀ w w' after after', w ++ after = w' ++ after' → good w → good w' →
    wordAt word after.head? = false → wordAt word after'.head? = false → w = w'

section Parts

variable {good : List α → Prop} {text : List α}

theorem ReadsParts.partAt_iff (h : ReadsParts char word r good) {before w after : List α} :
    PartAt word good text before w after ↔
      text = before ++ w ++ after ∧ Reads char word r (before.getLast?.or none) w after := by
  rw [Option.or_none, h.reads]
  constructor
  · rintro ⟨heq, hgood, hleft, hright⟩
    exact ⟨heq, hgood, hleft, hright⟩
  · rintro ⟨heq, hgood, hleft, hright⟩
    exact ⟨heq, hgood, hleft, hright⟩

theorem ReadsParts.find_eq_none (h : ReadsParts char word r good) :
    find char word r text = none ↔ NoPart word good text := by
  constructor
  · intro hnone before w after hpart
    obtain ⟨heq, hreads⟩ := h.partAt_iff.1 hpart
    exact findFrom_eq_none hnone before w after heq hreads
  · intro hno
    cases hfound : find char word r text with
    | none => rfl
    | some w =>
      obtain ⟨before, after, heq, hreads, -⟩ := findFrom_eq_some hfound
      exact absurd (h.partAt_iff.2 ⟨heq, hreads⟩) (hno before w after)

variable {pieces : List (List α)} {w : List α}

theorem ReadsParts.firstPart_of_find (h : ReadsParts char word r good)
    (hfound : find char word r text = some w) : FirstPart word good text w := by
  obtain ⟨before, after, heq, hreads, hfirst⟩ := findFrom_eq_some hfound
  refine ⟨before, after, h.partAt_iff.2 ⟨heq, hreads⟩, fun before' w' after' hpart => ?_⟩
  obtain ⟨heq', hreads'⟩ := h.partAt_iff.1 hpart
  exact hfirst before' w' after' heq' hreads'

theorem ReadsParts.partAt_unique (h : ReadsParts char word r good)
    {before before' w w' after after' : List α} (hpart : PartAt word good text before w after)
    (hpart' : PartAt word good text before' w' after') (hlength : before.length = before'.length) :
    w = w' := by
  have heq : before ++ (w ++ after) = before' ++ (w' ++ after') := by
    rw [← List.append_assoc, ← List.append_assoc, ← hpart.eq, ← hpart'.eq]
  exact h.unique _ _ _ _ (List.append_inj_right heq hlength) hpart.good hpart'.good hpart.right
    hpart'.right

theorem ReadsParts.firstPart_unique (h : ReadsParts char word r good) {w w' : List α}
    (hw : FirstPart word good text w) (hw' : FirstPart word good text w') : w = w' := by
  obtain ⟨before, after, hpart, hfirst⟩ := hw
  obtain ⟨before', after', hpart', hfirst'⟩ := hw'
  have hlength : before.length = before'.length :=
    Nat.le_antisymm (hfirst _ _ _ hpart') (hfirst' _ _ _ hpart)
  exact h.partAt_unique hpart hpart' hlength

theorem ReadsParts.find_eq_some (h : ReadsParts char word r good) :
    find char word r text = some w ↔ FirstPart word good text w := by
  constructor
  · exact h.firstPart_of_find
  · intro hw
    cases hfound : find char word r text with
    | none =>
      obtain ⟨before, after, hpart, -⟩ := hw
      exact absurd hpart (h.find_eq_none.1 hfound before w after)
    | some w' => exact congrArg some (h.firstPart_unique (h.firstPart_of_find hfound) hw)

/-! ## A text of several pieces -/

variable {sep : α} {piece rest : List α}

/-- A part is on one side of a character that no good part has. -/
theorem partAt_append_cons (hsep : word sep = false) (hgood : ∀ w, good w → sep ∉ w)
    {before w after : List α} : PartAt word good (piece ++ sep :: rest) before w after ↔
      (∃ after', after = after' ++ sep :: rest ∧ PartAt word good piece before w after') ∨
      ∃ before', before = piece ++ sep :: before' ∧ PartAt word good rest before' w after := by
  constructor
  · rintro ⟨heq, hw, hleft, hright⟩
    have hnot : sep ∉ w := hgood w hw
    rcases List.append_eq_append_iff.1 heq with ⟨mid, hmid, hrest⟩ | ⟨after', hpiece, rfl⟩
    · cases mid with
      | nil =>
        rw [List.append_nil] at hmid
        exact Or.inl ⟨[], hrest.symm, by rw [hmid, List.append_nil], hw, hleft, rfl⟩
      | cons a mid =>
        obtain ⟨rfl, rfl⟩ := List.cons.inj hrest
        rcases List.append_eq_append_iff.1 hmid with ⟨left, -, rfl⟩ | ⟨left, rfl, hseps⟩
        · exact absurd (List.mem_append_right left List.mem_cons_self) hnot
        · cases left with
          | nil =>
            rw [List.nil_append] at hseps
            exact absurd (hseps ▸ List.mem_cons_self) hnot
          | cons b left =>
            obtain ⟨rfl, rfl⟩ := List.cons.inj hseps
            refine Or.inr ⟨left, rfl, rfl, hw, ?_, hright⟩
            rw [List.getLast?_append, List.getLast?_cons] at hleft
            cases hlast : left.getLast? with
            | none => rfl
            | some a =>
              rw [hlast] at hleft
              exact hleft
    · refine Or.inl ⟨after', rfl, hpiece, hw, hleft, ?_⟩
      cases after' with
      | nil => rfl
      | cons a after' => exact hright
  · rintro (⟨after', rfl, hpart⟩ | ⟨before', rfl, hpart⟩)
    · refine ⟨?_, hpart.good, hpart.left, ?_⟩
      · rw [hpart.eq, List.append_assoc]
      · cases after' with
        | nil => exact hsep
        | cons a after' => exact hpart.right
    · refine ⟨?_, hpart.good, ?_, hpart.right⟩
      · rw [hpart.eq]
        simp only [List.append_assoc, List.cons_append]
      · rw [List.getLast?_append, getLast?_cons_or]
        cases hlast : before'.getLast? with
        | none => exact hsep
        | some a =>
          have hleft := hpart.left
          rw [hlast] at hleft
          exact hleft

theorem PartAt.length_le {before w after : List α} (h : PartAt word good text before w after) :
    before.length ≤ text.length := by
  rw [h.eq, List.length_append, List.length_append]
  omega

theorem firstPart_append_cons (hsep : word sep = false) (hgood : ∀ w, good w → sep ∉ w) :
    FirstPart word good (piece ++ sep :: rest) w ↔
      FirstPart word good piece w ∨ (NoPart word good piece ∧ FirstPart word good rest w) := by
  constructor
  · rintro ⟨before, after, hpart, hfirst⟩
    rcases (partAt_append_cons hsep hgood).1 hpart with ⟨after', rfl, hin⟩ | ⟨before', rfl, hin⟩
    · refine Or.inl ⟨before, after', hin, fun left v right hother => ?_⟩
      exact hfirst left v _ ((partAt_append_cons hsep hgood).2 (Or.inl ⟨right, rfl, hother⟩))
    · refine Or.inr ⟨fun left v right hother => ?_, before', after, hin, ?_⟩
      · have hle := hfirst left v _
          ((partAt_append_cons hsep hgood).2 (Or.inl ⟨right, rfl, hother⟩))
        have hlength := hother.length_le
        rw [List.length_append, List.length_cons] at hle
        omega
      · intro left v right hother
        have hle := hfirst _ v right
          ((partAt_append_cons hsep hgood).2 (Or.inr ⟨left, rfl, hother⟩))
        simp only [List.length_append, List.length_cons] at hle
        omega
  · rintro (⟨before, after, hpart, hfirst⟩ | ⟨hno, before, after, hpart, hfirst⟩)
    · refine ⟨before, _, (partAt_append_cons hsep hgood).2 (Or.inl ⟨after, rfl, hpart⟩), ?_⟩
      intro left v right hother
      rcases (partAt_append_cons hsep hgood).1 hother with ⟨right', -, hin⟩ | ⟨left', rfl, -⟩
      · exact hfirst left v right' hin
      · have hlength := hpart.length_le
        rw [List.length_append, List.length_cons]
        omega
    · refine ⟨_, after, (partAt_append_cons hsep hgood).2 (Or.inr ⟨before, rfl, hpart⟩), ?_⟩
      intro left v right hother
      rcases (partAt_append_cons hsep hgood).1 hother with ⟨right', -, hin⟩ | ⟨left', rfl, hin⟩
      · exact absurd hin (hno left v right')
      · have hle := hfirst left' v right hin
        simp only [List.length_append, List.length_cons]
        omega

/-- The first part of the first piece that has one. -/
def FirstIn (word : α → Bool) (good : List α → Prop) (pieces : List (List α)) (w : List α) : Prop :=
  ∃ earlier piece later, pieces = earlier ++ piece :: later ∧
    (∀ p ∈ earlier, NoPart word good p) ∧ FirstPart word good piece w

theorem firstIn_cons :
    FirstIn word good (piece :: pieces) w ↔
      FirstPart word good piece w ∨ (NoPart word good piece ∧ FirstIn word good pieces w) := by
  constructor
  · rintro ⟨earlier, p, later, heq, hno, hfirst⟩
    cases earlier with
    | nil =>
      obtain ⟨rfl, -⟩ := List.cons.inj heq
      exact Or.inl hfirst
    | cons q earlier =>
      obtain ⟨rfl, hrest⟩ := List.cons.inj heq
      exact Or.inr ⟨hno _ List.mem_cons_self, earlier, p, later, hrest,
        fun p hp => hno p (List.mem_cons_of_mem _ hp), hfirst⟩
  · rintro (hfirst | ⟨hpiece, earlier, p, later, rfl, hno, hfirst⟩)
    · exact ⟨[], piece, pieces, rfl, fun p hp => (nomatch hp), hfirst⟩
    · refine ⟨piece :: earlier, p, later, rfl, fun q hq => ?_, hfirst⟩
      rcases List.mem_cons.1 hq with rfl | hq
      · exact hpiece
      · exact hno q hq

/-- **A TEXT OF SEVERAL PIECES**: its first part is the first part of the first piece that has
one. -/
theorem firstPart_intercalate (hsep : word sep = false) (hgood : ∀ w, good w → sep ∉ w)
    (hne : pieces ≠ []) :
    FirstPart word good ([sep].intercalate pieces) w ↔ FirstIn word good pieces w := by
  induction pieces with
  | nil => exact absurd rfl hne
  | cons piece pieces ih =>
    cases pieces with
    | nil =>
      rw [List.intercalate_singleton, firstIn_cons]
      constructor
      · exact Or.inl
      · rintro (hfirst | ⟨-, earlier, p, later, heq, -⟩)
        · exact hfirst
        · cases earlier <;> cases heq
    | cons next pieces =>
      rw [List.intercalate_cons_cons, List.append_assoc, List.singleton_append, firstIn_cons,
        firstPart_append_cons hsep hgood, ih (List.cons_ne_nil next pieces)]

/-- A good part of one of the pieces: the piece, and the place in it. -/
def InPieces (word : α → Bool) (good : List α → Prop) (pieces : List (List α)) (k i : Nat)
    (w : List α) : Prop :=
  ∃ piece before after, pieces[k]? = some piece ∧ PartAt word good piece before w after ∧
    before.length = i

theorem good_of_inPieces {k i : Nat} (h : InPieces word good pieces k i w) : good w := by
  obtain ⟨piece, before, after, -, hpart, -⟩ := h
  exact hpart.good

theorem FirstIn.least (h : FirstIn word good pieces w) :
    ∃ k i, InPieces word good pieces k i w ∧
      ∀ k' i' w', InPieces word good pieces k' i' w' → k < k' ∨ (k = k' ∧ i ≤ i') := by
  obtain ⟨earlier, piece, later, rfl, hno, before, after, hpart, hfirst⟩ := h
  have hpiece : (earlier ++ piece :: later)[earlier.length]? = some piece := by
    rw [List.getElem?_append_right (Nat.le_refl _), Nat.sub_self]
    rfl
  refine ⟨earlier.length, before.length, ⟨piece, before, after, hpiece, hpart, rfl⟩, ?_⟩
  rintro k' i' w' ⟨piece', before', after', hpiece', hpart', rfl⟩
  rcases Nat.lt_trichotomy earlier.length k' with hlt | rfl | hgt
  · exact Or.inl hlt
  · rw [hpiece] at hpiece'
    cases hpiece'
    exact Or.inr ⟨rfl, hfirst before' w' after' hpart'⟩
  · rw [List.getElem?_append_left hgt] at hpiece'
    exact absurd hpart' (hno piece' (List.mem_of_getElem? hpiece') before' w' after')

theorem ReadsParts.inPieces_unique (h : ReadsParts char word r good) {k i : Nat} {w w' : List α}
    (hw : InPieces word good pieces k i w) (hw' : InPieces word good pieces k i w') : w = w' := by
  obtain ⟨piece, before, after, hpiece, hpart, rfl⟩ := hw
  obtain ⟨piece', before', after', hpiece', hpart', hlength⟩ := hw'
  rw [hpiece] at hpiece'
  cases hpiece'
  exact h.partAt_unique hpart hpart' hlength.symm

theorem ReadsParts.exists_firstIn (h : ReadsParts char word r good) {k i : Nat}
    (hw : InPieces word good pieces k i w) :
    ∃ w', FirstIn word good pieces w' := by
  induction pieces generalizing k with
  | nil =>
    obtain ⟨piece, before, after, hpiece, -⟩ := hw
    cases hpiece
  | cons first pieces ih =>
    cases hfound : find char word r first with
    | some w' => exact ⟨w', firstIn_cons.2 (Or.inl (h.find_eq_some.1 hfound))⟩
    | none =>
      have hno := h.find_eq_none.1 hfound
      obtain ⟨piece, before, after, hpiece, hpart, hlength⟩ := hw
      cases k with
      | zero =>
        cases hpiece
        exact absurd hpart (hno before w after)
      | succ k =>
        obtain ⟨w', hfirst⟩ := ih ⟨piece, before, after, hpiece, hpart, hlength⟩
        exact ⟨w', firstIn_cons.2 (Or.inr ⟨hno, hfirst⟩)⟩

end Parts
end Regex
