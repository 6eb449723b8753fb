import Mathlib.Data.List.Basic
import Mathlib.Data.List.TakeWhile

/-!
# Regex — searching a text for a pattern with word boundaries

Patterns without captures: characters of a class, boundaries between a word character and another
one, sequences, choices and bounded repetitions.  The classes are data; `char` says which characters
a class has, and `word` which characters make up words.

A boundary looks at the two characters around it, so whether a part of a text matches depends on what
stands around it.  `search_of_delimited`: a part that stands between characters that are no word
characters is searched as it is alone.  `search_congr`: only the characters of the text count.
-/

namespace Regex

variable {α κ : Type}

/-- A pattern over character classes. -/
inductive Pattern (κ : Type) where
  | empty
  | one (k : κ)
  | boundary
  | seq (r s : Pattern κ)
  | alt (r s : Pattern κ)
  | many (k : κ)

namespace Pattern

/-- `r?` -/
def opt (r : Pattern κ) : Pattern κ := .alt .empty r

/-- `r{0,n}` -/
def upTo (r : Pattern κ) : Nat → Pattern κ
  | 0 => .empty
  | n + 1 => .alt .empty (.seq r (upTo r n))

/-- `r{0,n}`, as much as possible. -/
def atMost (r : Pattern κ) : Nat → Pattern κ
  | 0 => .empty
  | n + 1 => .alt (.seq r (atMost r n)) .empty

/-- `r{m,m+n}`, as much as possible. -/
def between (r : Pattern κ) : Nat → Nat → Pattern κ
  | 0, n => atMost r n
  | m + 1, n => .seq r (between r m n)

def cat : List (Pattern κ) → Pattern κ
  | [] => .empty
  | [r] => r
  | r :: rs => .seq r (cat rs)

/-- The character classes of a pattern. -/
def classes : Pattern κ → List κ
  | .empty => []
  | .one k => [k]
  | .boundary => []
  | .seq r s => classes r ++ classes s
  | .alt r s => classes r ++ classes s
  | .many k => [k]

end Pattern

/-- A place in a text: the character before it, and the characters after it. -/
structure Cursor (α : Type) where
  prev : Option α
  rest : List α

section Search

variable (char : κ → α → Bool) (word : α → Bool)

/-- A word character is there. -/
def wordAt (c : Option α) : Bool := c.any word

/-- The places up to which there are only characters of the class, the last one first. -/
def manyFrom (k : κ) : Option α → List α → List (Cursor α)
  | prev, [] => [⟨prev, []⟩]
  | prev, a :: as =>
    if char k a then manyFrom k (some a) as ++ [⟨prev, a :: as⟩] else [⟨prev, a :: as⟩]

/-- The places where a match that begins here can end, in the order in which they are tried. -/
def matchFrom : Pattern κ → Cursor α → List (Cursor α)
  | .empty, c => [c]
  | .one k, ⟨_, rest⟩ =>
    match rest with
    | [] => []
    | a :: as => if char k a then [⟨some a, as⟩] else []
  | .boundary, c => if wordAt word c.prev ≠ wordAt word c.rest.head? then [c] else []
  | .seq r s, c => (matchFrom r c).flatMap (matchFrom s)
  | .alt r s, c => matchFrom r c ++ matchFrom s c
  | .many k, ⟨prev, rest⟩ => manyFrom char k prev rest

/-- A match begins at the character after `prev` or at a later one. -/
def searchFrom (r : Pattern κ) : Option α → List α → Bool
  | prev, [] => !(matchFrom char word r ⟨prev, []⟩).isEmpty
  | prev, a :: as => !(matchFrom char word r ⟨prev, a :: as⟩).isEmpty || searchFrom r (some a) as

/-- `re.search`. -/
def search (r : Pattern κ) (text : List α) : Bool := searchFrom char word r none text

end Search

section Delimited

variable {char : κ → α → Bool} {word : α → Bool}

/-- `part` stands in the text between characters that satisfy `p`, or at an end of it. -/
structure Delimited (p : α → Prop) (text part : List α) : Prop where
  around : ∃ before after, text = before ++ part ++ after ∧
    (∀ a, before.getLast? = some a → p a) ∧ ∀ a, after.head? = some a → p a

theorem Delimited.refl (p : α → Prop) (text : List α) : Delimited p text text := by
  refine ⟨[], [], by rw [List.nil_append, List.append_nil], fun a ha => ?_, fun a ha => ?_⟩
  · cases ha
  · cases ha

variable {p : α → Prop} {after : List α}

theorem Delimited.trans {text part inner : List α} (h : Delimited p text part)
    (h' : Delimited p part inner) : Delimited p text inner := by
  obtain ⟨before, after, rfl, hbefore, hafter⟩ := h.around
  obtain ⟨left, right, rfl, hleft, hright⟩ := h'.around
  refine ⟨before ++ left, right ++ after, by simp only [List.append_assoc], ?_, ?_⟩
  · intro a ha
    rw [List.getLast?_append] at ha
    cases hlast : left.getLast? with
    | none =>
      rw [hlast] at ha
      exact hbefore a ha
    | some b =>
      rw [hlast] at ha
      cases ha
      exact hleft a hlast
  · intro a ha
    rw [List.head?_append] at ha
    cases hhead : right.head? with
    | none =>
      rw [hhead] at ha
      exact hafter a ha
    | some b =>
      rw [hhead] at ha
      cases ha
      exact hright a hhead

theorem delimited_iff {text part : List α} : Delimited p text part ↔
    ∃ i, i < text.length + 1 ∧ part <+: text.drop i ∧ (∀ a ∈ (text.take i).getLast?, p a) ∧
      ∀ a ∈ (text.drop (i + part.length)).head?, p a := by
  constructor
  · rintro ⟨before, after, rfl, hbefore, hafter⟩
    refine ⟨before.length, ?_, ?_, ?_, ?_⟩
    · rw [List.length_append, List.length_append]
      omega
    · rw [List.append_assoc, List.drop_left]
      exact List.prefix_append part after
    · rwa [List.append_assoc, List.take_left]
    · rwa [← List.length_append, List.drop_left]
  · rintro ⟨i, -, ⟨after, hafter⟩, hbefore, hnext⟩
    have hdrop : text.drop (i + part.length) = after := by
      rw [← List.drop_drop, ← hafter, List.drop_left]
    rw [hdrop] at hnext
    refine ⟨text.take i, after, ?_, hbefore, hnext⟩
    rw [List.append_assoc, hafter, List.take_append_drop]

instance [DecidableEq α] {p : α → Prop} [DecidablePred p] {text part : List α} :
    Decidable (Delimited p text part) :=
  decidable_of_iff _ delimited_iff.symm

theorem Delimited.length_le {text part : List α} (h : Delimited p text part) :
    part.length ≤ text.length := by
  obtain ⟨before, after, rfl, _⟩ := h.around
  rw [List.length_append, List.length_append]
  omega

/-- Two places that a pattern does not tell apart, within the part. -/
structure Inside (word : α → Bool) (after : List α) (c c' : Cursor α) : Prop where
  prev : wordAt word c'.prev = wordAt word c.prev
  rest : c'.rest = c.rest ++ after

theorem start_mem_manyFrom (k : κ) (prev : Option α) (rest : List α) :
    ⟨prev, rest⟩ ∈ manyFrom char k prev rest := by
  cases rest with
  | nil => exact List.mem_singleton_self _
  | cons a as =>
    rw [manyFrom]
    split
    · exact List.mem_append_right _ (List.mem_singleton_self _)
    · exact List.mem_singleton_self _

theorem manyFrom_inside {k : κ} {rest : List α} :
    ∀ {prev prev' : Option α} {d : Cursor α}, wordAt word prev' = wordAt word prev →
      d ∈ manyFrom char k prev rest →
      ∃ d' ∈ manyFrom char k prev' (rest ++ after), Inside word after d d' := by
  induction rest with
  | nil =>
    intro prev prev' d hprev hd
    rw [List.mem_singleton.1 hd]
    exact ⟨⟨prev', after⟩, start_mem_manyFrom k prev' after, hprev, rfl⟩
  | cons a as ih =>
    intro prev prev' d hprev hd
    have hstart : Inside word after ⟨prev, a :: as⟩ ⟨prev', a :: as ++ after⟩ := ⟨hprev, rfl⟩
    rw [manyFrom] at hd
    split at hd
    · next hmatch =>
      rw [List.cons_append, manyFrom, if_pos hmatch]
      rcases List.mem_append.1 hd with hd | hd
      · obtain ⟨d', hd', hinside⟩ := ih rfl hd
        exact ⟨d', List.mem_append_left _ hd', hinside⟩
      · rw [List.mem_singleton.1 hd]
        exact ⟨_, List.mem_append_right _ (List.mem_singleton_self _), hstart⟩
    · rw [List.mem_singleton.1 hd]
      exact ⟨_, start_mem_manyFrom k prev' (a :: as ++ after), hstart⟩

/-- What matches in the part matches there in the text. -/
theorem matchFrom_inside (hafter : wordAt word after.head? = false) (r : Pattern κ) :
    ∀ {c c' d : Cursor α}, Inside word after c c' →
      d ∈ matchFrom char word r c → ∃ d' ∈ matchFrom char word r c', Inside word after d d' := by
  induction r with
  | empty =>
    intro c c' d hc hd
    rw [List.mem_singleton.1 hd]
    exact ⟨c', List.mem_singleton_self c', hc⟩
  | one k =>
    rintro ⟨prev, rest⟩ ⟨prev', rest'⟩ d ⟨_, hrest⟩ hd
    cases rest with
    | nil => cases hd
    | cons a as =>
      cases hrest
      rw [matchFrom] at hd
      split at hd
      · next hmatch =>
        rw [List.mem_singleton.1 hd]
        refine ⟨⟨some a, as ++ after⟩, ?_, rfl, rfl⟩
        rw [matchFrom, if_pos hmatch]
        exact List.mem_singleton_self _
      · cases hd
  | boundary =>
    intro c c' d hc hd
    have hnext : wordAt word c'.rest.head? = wordAt word c.rest.head? := by
      rw [hc.rest, List.head?_append]
      cases c.rest.head? with
      | none => exact hafter
      | some a => rfl
    rw [matchFrom] at hd
    split at hd
    · next hne =>
      rw [List.mem_singleton.1 hd]
      refine ⟨c', ?_, hc⟩
      rw [matchFrom, hc.prev, hnext, if_pos hne]
      exact List.mem_singleton_self c'
    · cases hd
  | seq r s ihr ihs =>
    intro c c' d hc hd
    obtain ⟨e, he, hd⟩ := List.mem_flatMap.1 hd
    obtain ⟨e', he', hinside⟩ := ihr hc he
    obtain ⟨d', hd', hinside'⟩ := ihs hinside hd
    exact ⟨d', List.mem_flatMap.2 ⟨e', he', hd'⟩, hinside'⟩
  | alt r s ihr ihs =>
    intro c c' d hc hd
    rcases List.mem_append.1 hd with hd | hd
    · obtain ⟨d', hd', hinside⟩ := ihr hc hd
      exact ⟨d', List.mem_append_left _ hd', hinside⟩
    · obtain ⟨d', hd', hinside⟩ := ihs hc hd
      exact ⟨d', List.mem_append_right _ hd', hinside⟩
  | many k =>
    rintro ⟨prev, rest⟩ ⟨prev', rest'⟩ d ⟨hprev, hrest⟩ hd
    cases hrest
    exact manyFrom_inside hprev hd

theorem not_isEmpty_iff {l : List α} : (!l.isEmpty) = true ↔ ∃ a, a ∈ l := by
  cases l with
  | nil => simp
  | cons a as => simp

theorem searchFrom_inside (hafter : wordAt word after.head? = false) (r : Pattern κ) :
    ∀ {part : List α} {prev prev' : Option α},
      wordAt word prev' = wordAt word prev → searchFrom char word r prev part = true →
      searchFrom char word r prev' (part ++ after) = true := by
  intro part
  induction part with
  | nil =>
    intro prev prev' hprev h
    rw [searchFrom] at h
    obtain ⟨d, hd⟩ := not_isEmpty_iff.1 h
    have hinside : Inside word after ⟨prev, []⟩ ⟨prev', after⟩ := ⟨hprev, rfl⟩
    obtain ⟨d', hd', _⟩ := matchFrom_inside hafter r hinside hd
    have hfound := not_isEmpty_iff.2 ⟨d', hd'⟩
    rw [List.nil_append]
    cases after with
    | nil => exact hfound
    | cons a as =>
      rw [searchFrom, hfound]
      rfl
  | cons a as ih =>
    intro prev prev' hprev h
    rw [searchFrom, Bool.or_eq_true] at h
    rw [List.cons_append, searchFrom, Bool.or_eq_true]
    rcases h with h | h
    · obtain ⟨d, hd⟩ := not_isEmpty_iff.1 h
      have hinside : Inside word after ⟨prev, a :: as⟩ ⟨prev', a :: (as ++ after)⟩ := ⟨hprev, rfl⟩
      obtain ⟨d', hd', _⟩ := matchFrom_inside hafter r hinside hd
      exact Or.inl (not_isEmpty_iff.2 ⟨d', hd'⟩)
    · exact Or.inr (ih rfl h)

theorem searchFrom_append (r : Pattern κ) (before rest : List α) : ∀ {prev : Option α},
    searchFrom char word r (before.getLast?.or prev) rest = true →
      searchFrom char word r prev (before ++ rest) = true := by
  induction before with
  | nil => exact fun h => h
  | cons a as ih =>
    intro prev h
    rw [List.cons_append, searchFrom, Bool.or_eq_true]
    refine Or.inr (ih ?_)
    have hlast : (a :: as).getLast?.or prev = as.getLast?.or (some a) := by
      rw [List.getLast?_cons]
      cases as.getLast? <;> rfl
    rw [← hlast]
    exact h

/-- **A PART BETWEEN NON-WORD CHARACTERS**: what is found in it is found in the text. -/
theorem search_of_delimited {r : Pattern κ} {text part : List α}
    (hpart : Delimited (fun a => word a = false) text part) (h : search char word r part = true) :
    search char word r text = true := by
  obtain ⟨before, after, rfl, hbefore, hafter⟩ := hpart.around
  have hnone : ∀ o : Option α, (∀ a, o = some a → word a = false) → wordAt word o = false := by
    intro o ho
    cases o with
    | none => rfl
    | some a => exact ho a rfl
  rw [search, List.append_assoc]
  refine searchFrom_append r before (part ++ after) ?_
  refine searchFrom_inside (hnone _ hafter) r ?_ h
  rw [Option.or_none, hnone _ hbefore]
  rfl

end Delimited

section Runs

/-- `re.findall(r"[…]+", text)` of a class: the longest stretches of its characters. -/
def runs (p : α → Bool) (text : List α) : List (List α) :=
  (text.splitOnP fun a => !p a).filter fun w => !w.isEmpty

variable {p : α → Bool}

theorem runs_append_cons {a : α} (ha : p a = false) (before after : List α) :
    runs p (before ++ a :: after) = runs p before ++ runs p after := by
  rw [runs, List.splitOnP_append_cons before after (by rw [ha, Bool.not_false]), List.filter_append]
  rfl

theorem runs_of_forall {w : List α} (hne : w ≠ []) (hall : ∀ a ∈ w, p a = true) :
    runs p w = [w] := by
  have hsplit : (w.splitOnP fun a => !p a) = [w] :=
    List.splitOnP_eq_singleton fun a ha => by rw [hall a ha, Bool.not_true]
  rw [runs, hsplit, List.filter_singleton]
  cases w with
  | nil => exact absurd rfl hne
  | cons a as => rfl

theorem mem_runs_append_of_left {text w : List α} (hnext : ∀ a, text.head? = some a → p a = false)
    (hne : w ≠ []) (hall : ∀ a ∈ w, p a = true) : w ∈ runs p (w ++ text) := by
  cases text with
  | nil =>
    rw [List.append_nil, runs_of_forall hne hall]
    exact List.mem_singleton_self w
  | cons a rest =>
    rw [runs_append_cons (hnext a rfl), runs_of_forall hne hall]
    exact List.mem_cons_self

/-- A run is a stretch of characters of the class that stands between characters that are not. -/
theorem mem_runs_iff {text w : List α} :
    w ∈ runs p text ↔ w ≠ [] ∧ (∀ a ∈ w, p a = true) ∧ Delimited (fun a => p a = false) text w := by
  constructor
  · -- the text up to its first character that is not in the class, and the rest
    induction hlength : text.length using Nat.strong_induction_on generalizing text with
    | h n ih =>
    intro hw
    have hfirst : ∀ a ∈ text.takeWhile p, p a = true := fun a ha => List.mem_takeWhile_imp ha
    cases hrest : text.dropWhile p with
    | nil =>
      have htext : text.takeWhile p = text := by
        have happend := List.takeWhile_append_dropWhile (p := p) (l := text)
        rwa [hrest, List.append_nil] at happend
      rw [htext] at hfirst
      by_cases hne : text = []
      · rw [hne] at hw
        cases hw
      · rw [runs_of_forall hne hfirst, List.mem_singleton] at hw
        rw [hw]
        exact ⟨hne, hfirst, .refl _ _⟩
    | cons a rest =>
      have ha : p a = false := by
        have hhead := List.head?_dropWhile_not p text
        rw [hrest] at hhead
        simpa using hhead
      have htext : text = text.takeWhile p ++ a :: rest := by
        rw [← hrest, List.takeWhile_append_dropWhile]
      rw [htext, runs_append_cons ha, List.mem_append] at hw
      rcases hw with hw | hw
      · have hne : text.takeWhile p ≠ [] := by
          intro hnil
          rw [hnil] at hw
          cases hw
        rw [runs_of_forall hne hfirst, List.mem_singleton] at hw
        rw [hw]
        refine ⟨hne, hfirst, ⟨[], a :: rest, htext, fun b hb => ?_, fun b hb => ?_⟩⟩
        · cases hb
        · cases hb
          exact ha
      · have hshort : rest.length < n := by
          have hlen := congrArg List.length htext
          rw [List.length_append, List.length_cons] at hlen
          omega
        obtain ⟨hne, hall, hpart⟩ := ih rest.length hshort rfl hw
        refine ⟨hne, hall, Delimited.trans ⟨text.takeWhile p ++ [a], [], ?_, ?_, ?_⟩ hpart⟩
        · rw [List.append_nil, List.append_assoc]
          exact htext
        · intro b hb
          rw [List.getLast?_append_of_ne_nil _ (List.cons_ne_nil a [])] at hb
          cases hb
          exact ha
        · intro b hb
          cases hb
  · rintro ⟨hne, hall, ⟨before, after, rfl, hbefore, hafter⟩⟩
    have hrun := mem_runs_append_of_left hafter hne hall
    rw [List.append_assoc]
    rcases List.eq_nil_or_concat before with rfl | ⟨init, a, rfl⟩
    · exact hrun
    · rw [List.concat_eq_append, List.append_assoc, List.singleton_append,
        runs_append_cons (hbefore a (by rw [List.concat_eq_append, List.getLast?_concat]))]
      exact List.mem_append_right _ hrun

end Runs

section Congr

variable {char char' : κ → α → Bool} {word word' : α → Bool}

/-- The characters around a place are among the given ones. -/
def Within (chars : List α) (c : Cursor α) : Prop :=
  (∀ a, c.prev = some a → a ∈ chars) ∧ ∀ a ∈ c.rest, a ∈ chars

theorem manyFrom_congr {chars : List α} {k : κ} (hchar : ∀ a ∈ chars, char k a = char' k a)
    {rest : List α} : ∀ {prev : Option α}, Within chars ⟨prev, rest⟩ →
      manyFrom char k prev rest = manyFrom char' k prev rest ∧
        ∀ d ∈ manyFrom char k prev rest, Within chars d := by
  induction rest with
  | nil =>
    intro prev hwithin
    refine ⟨rfl, fun d hd => ?_⟩
    rw [List.mem_singleton.1 hd]
    exact hwithin
  | cons a as ih =>
    intro prev hwithin
    have ha : a ∈ chars := hwithin.2 a List.mem_cons_self
    have hnext : Within chars ⟨some a, as⟩ := by
      refine ⟨fun b hb => ?_, fun b hb => hwithin.2 b (List.mem_cons_of_mem a hb)⟩
      cases hb
      exact ha
    obtain ⟨heq, hall⟩ := ih hnext
    rw [manyFrom, manyFrom, ← hchar a ha, heq]
    refine ⟨rfl, fun d hd => ?_⟩
    rw [← heq] at hd
    split at hd
    · rcases List.mem_append.1 hd with hd | hd
      · exact hall d hd
      · rw [List.mem_singleton.1 hd]
        exact hwithin
    · rw [List.mem_singleton.1 hd]
      exact hwithin

theorem matchFrom_congr {chars : List α} (hword : ∀ a ∈ chars, word a = word' a) (r : Pattern κ)
    (hchar : ∀ k ∈ r.classes, ∀ a ∈ chars, char k a = char' k a) :
    ∀ {c : Cursor α}, Within chars c → matchFrom char word r c = matchFrom char' word' r c ∧
      ∀ d ∈ matchFrom char word r c, Within chars d := by
  induction r with
  | empty =>
    intro c hc
    refine ⟨rfl, fun d hd => ?_⟩
    rw [List.mem_singleton.1 hd]
    exact hc
  | one k =>
    rintro ⟨prev, rest⟩ ⟨_, hrest⟩
    cases rest with
    | nil => exact ⟨rfl, fun d hd => by cases hd⟩
    | cons a as =>
      rw [matchFrom, matchFrom, ← hchar k (List.mem_singleton_self k) a (hrest a List.mem_cons_self)]
      refine ⟨rfl, fun d hd => ?_⟩
      split at hd
      · rw [List.mem_singleton.1 hd]
        refine ⟨fun b hb => ?_, fun b hb => hrest b (List.mem_cons_of_mem a hb)⟩
        cases hb
        exact hrest a List.mem_cons_self
      · cases hd
  | boundary =>
    intro c hc
    have hat : ∀ o : Option α, (∀ a, o = some a → a ∈ chars) → wordAt word o = wordAt word' o := by
      intro o ho
      cases o with
      | none => rfl
      | some a => exact hword a (ho a rfl)
    have hhead : ∀ a, c.rest.head? = some a → a ∈ chars :=
      fun a ha => hc.2 a (List.mem_of_mem_head? ha)
    rw [matchFrom, matchFrom, hat _ hc.1, hat _ hhead]
    refine ⟨rfl, fun d hd => ?_⟩
    split at hd
    · rw [List.mem_singleton.1 hd]
      exact hc
    · cases hd
  | seq r s ihr ihs =>
    intro c hc
    have hr := ihr (fun k hk => hchar k (List.mem_append_left _ hk)) hc
    have hs := fun {d : Cursor α} (hd : Within chars d) =>
      ihs (fun k hk => hchar k (List.mem_append_right _ hk)) hd
    constructor
    · rw [matchFrom, matchFrom, ← hr.1, List.flatMap_def, List.flatMap_def]
      congr 1
      exact List.map_congr_left fun d hd => (hs (hr.2 d hd)).1
    · intro e he
      obtain ⟨d, hd, he⟩ := List.mem_flatMap.1 he
      exact (hs (hr.2 d hd)).2 e he
  | alt r s ihr ihs =>
    intro c hc
    have hr := ihr (fun k hk => hchar k (List.mem_append_left _ hk)) hc
    have hs := ihs (fun k hk => hchar k (List.mem_append_right _ hk)) hc
    constructor
    · rw [matchFrom, matchFrom, hr.1, hs.1]
    · intro d hd
      rcases List.mem_append.1 hd with hd | hd
      · exact hr.2 d hd
      · exact hs.2 d hd
  | many k =>
    rintro ⟨prev, rest⟩ hc
    exact manyFrom_congr (hchar k (List.mem_singleton_self k)) hc

/-- **ONLY THE CHARACTERS OF THE TEXT COUNT**. -/
theorem search_congr {r : Pattern κ} {text : List α} (hword : ∀ a ∈ text, word a = word' a)
    (hchar : ∀ k ∈ r.classes, ∀ a ∈ text, char k a = char' k a) :
    search char word r text = search char' word' r text := by
  have hfrom : ∀ (rest : List α) (prev : Option α), Within text ⟨prev, rest⟩ →
      searchFrom char word r prev rest = searchFrom char' word' r prev rest := by
    intro rest
    induction rest with
    | nil =>
      intro prev hwithin
      rw [searchFrom, searchFrom, (matchFrom_congr hword r hchar hwithin).1]
    | cons a as ih =>
      intro prev hwithin
      rw [searchFrom, searchFrom, (matchFrom_congr hword r hchar hwithin).1, ih]
      refine ⟨fun b hb => ?_, fun b hb => hwithin.2 b (List.mem_cons_of_mem a hb)⟩
      cases hb
      exact hwithin.2 a List.mem_cons_self
  refine hfrom text none ⟨fun a ha => ?_, fun a ha => ha⟩
  cases ha

end Congr
end Regex
