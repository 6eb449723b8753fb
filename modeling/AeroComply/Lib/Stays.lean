import AeroComply.Lib.WindowSum

/-!
# Stays — where items are, and where they were

A stay is a half-open span of time that an item spends at a place; the stay that is not over is
open.  `move` ends the open stays of an item and begins one at the place it goes to, if any.

`isAt_move` says what a move changes: nothing before the instant of the move.  From it,
`met_move`: what the records of a time and a place add up to over the stays of an item changes by
those of the very instant alone.
-/

namespace Stays

open WindowSum (total total_split total_congr within)

variable {Item Place T : Type}

structure Stay (Item Place T : Type) where
  item : Item
  place : Place
  since : T
  leftAt : Option T := none

section Moves

variable [DecidableEq Item]

/-- The open stays of the item end. -/
def leave (stays : List (Stay Item Place T)) (i : Item) (now : T) : List (Stay Item Place T) :=
  stays.map fun s => if s.item = i && s.leftAt.isNone then { s with leftAt := some now } else s

/-- The item goes to a place, or away. -/
def move (stays : List (Stay Item Place T)) (i : Item) (now : T) (dest : Option Place) :
    List (Stay Item Place T) :=
  leave stays i now ++ dest.toList.map fun a => { item := i, place := a, since := now }

/-- The open stays of the item are at the place, or there is none. -/
structure Tracks (stays : List (Stay Item Place T)) (i : Item) (link : Option Place) : Prop where
  atLink : ∀ s ∈ stays, s.item = i → s.leftAt = none → link = some s.place
  isOpen : ∀ a, link = some a → ∃ s ∈ stays, s.item = i ∧ s.place = a ∧ s.leftAt = none

theorem mem_move {stays : List (Stay Item Place T)} {i : Item} {now : T} {dest : Option Place}
    {s : Stay Item Place T} : s ∈ move stays i now dest ↔
      (∃ x ∈ stays, (if x.item = i && x.leftAt.isNone then { x with leftAt := some now } else x) = s) ∨
        ∃ a, dest = some a ∧ s = { item := i, place := a, since := now } := by
  rw [move, leave, List.mem_append, List.mem_map, List.mem_map]
  refine or_congr Iff.rfl ?_
  constructor
  · rintro ⟨a, ha, rfl⟩
    exact ⟨a, Option.mem_toList.1 ha, rfl⟩
  · rintro ⟨a, rfl, rfl⟩
    exact ⟨a, List.mem_singleton_self a, rfl⟩

theorem tracks_move (stays : List (Stay Item Place T)) (i : Item) (now : T) (dest : Option Place) :
    Tracks (move stays i now dest) i dest := by
  constructor
  · intro s hs hitem hopen
    rcases mem_move.1 hs with ⟨x, _, rfl⟩ | ⟨a, rfl, rfl⟩
    · -- an old stay of the item is over
      split at hopen
      · cases hopen
      · next hother =>
        rw [if_neg hother] at hitem
        exact absurd (by simp [hitem, hopen]) hother
    · rfl
  · rintro a rfl
    exact ⟨_, mem_move.2 (Or.inr ⟨a, rfl, rfl⟩), rfl, rfl, rfl⟩

theorem tracks_move_of_ne {stays : List (Stay Item Place T)} {i j : Item} (hne : j ≠ i) (now : T)
    (dest : Option Place) {link : Option Place} (h : Tracks stays j link) :
    Tracks (move stays i now dest) j link := by
  constructor
  · intro s hs hitem hopen
    rcases mem_move.1 hs with ⟨x, hx, rfl⟩ | ⟨a, rfl, rfl⟩
    · split at hopen
      · cases hopen
      · next hother =>
        rw [if_neg hother] at hitem ⊢
        exact h.atLink x hx hitem hopen
    · exact absurd hitem.symm hne
  · intro a ha
    obtain ⟨s, hs, hitem, hplace, hopen⟩ := h.isOpen a ha
    have hkept : ¬(s.item = i && s.leftAt.isNone) = true := by simp [hitem, hne]
    exact ⟨s, mem_move.2 (Or.inl ⟨s, hs, if_neg hkept⟩), hitem, hplace, hopen⟩

end Moves

section Times

variable [LinearOrder T]

/-- All stays have begun, and those that are over are. -/
def Past (stays : List (Stay Item Place T)) (t : T) : Prop :=
  ∀ s ∈ stays, s.since ≤ t ∧ ∀ t', s.leftAt = some t' → t' ≤ t

variable {stays : List (Stay Item Place T)} {i : Item} {now : T} {link : Option Place}

theorem Past.mono {t t' : T} (h : Past stays t) (hle : t ≤ t') :
    Past stays t' := fun s hs =>
  ⟨le_trans (h s hs).1 hle, fun x hx => le_trans ((h s hs).2 x hx) hle⟩

variable [DecidableEq Item]

theorem past_move {dest : Option Place} (h : Past stays now) :
    Past (move stays i now dest) now := by
  intro s hs
  rcases mem_move.1 hs with ⟨x, hx, rfl⟩ | ⟨a, rfl, rfl⟩
  · obtain ⟨hsince, hleft⟩ := h x hx
    split
    · refine ⟨hsince, fun t' ht' => ?_⟩
      cases ht'
      exact le_refl _
    · exact ⟨hsince, hleft⟩
  · refine ⟨le_refl _, fun t' ht' => ?_⟩
    cases ht'

variable [DecidableEq Place]

/-- The item is at the place at the time. -/
def isAt (stays : List (Stay Item Place T)) (i : Item) (a : Place) (t : T) : Bool :=
  stays.any fun s => s.item = i && s.place = a && within (some s.since) s.leftAt t

theorem isAt_eq_true {a : Place} {t : T} :
    isAt stays i a t = true ↔ ∃ s ∈ stays, s.item = i ∧ s.place = a ∧
      within (some s.since) s.leftAt t = true := by
  rw [isAt, List.any_eq_true]
  simp only [Bool.and_eq_true, decide_eq_true_eq, and_assoc]

theorem isAt_now (htracks : Tracks stays i link) (hpast : Past stays now) (a : Place) :
    isAt stays i a now = decide (link = some a) := by
  rw [Bool.eq_iff_iff, decide_eq_true_eq, isAt_eq_true]
  constructor
  · rintro ⟨s, hs, hitem, hplace, hwithin⟩
    cases hleft : s.leftAt with
    | none =>
      rw [← hplace]
      exact htracks.atLink s hs hitem hleft
    | some t' =>
      rw [hleft] at hwithin
      exact absurd (WindowSum.within_some_some.1 hwithin).2 (not_lt.2 ((hpast s hs).2 t' hleft))
  · intro hlink
    obtain ⟨s, hs, hitem, hplace, hopen⟩ := htracks.isOpen a hlink
    refine ⟨s, hs, hitem, hplace, ?_⟩
    simp [hopen, within, (hpast s hs).1]

/-- **WHAT A MOVE CHANGES**: nothing before its instant, and nothing of the other items. -/
theorem isAt_move {i j : Item} {dest : Option Place} {t : T} (h : j ≠ i ∨ t < now) (a : Place) :
    isAt (move stays i now dest) j a t = isAt stays j a t := by
  rw [Bool.eq_iff_iff, isAt_eq_true, isAt_eq_true]
  constructor
  · rintro ⟨s, hs, hitem, hplace, hwithin⟩
    rcases mem_move.1 hs with ⟨x, hx, rfl⟩ | ⟨a', rfl, rfl⟩
    · split at hwithin
      · next hended =>
        rw [if_pos hended] at hitem hplace
        simp only [Bool.and_eq_true, Option.isNone_iff_eq_none] at hended
        refine ⟨x, hx, hitem, hplace, ?_⟩
        rw [hended.2]
        have hsince := (WindowSum.within_some_some.1 hwithin).1
        simp [within, hsince]
      · next hkept =>
        rw [if_neg hkept] at hitem hplace
        exact ⟨x, hx, hitem, hplace, hwithin⟩
    · rcases h with hne | hlt
      · exact absurd hitem.symm hne
      · have hnever : within (some now) none t = false := by simp [within, hlt]
        rw [hnever] at hwithin
        cases hwithin
  · rintro ⟨s, hs, hitem, hplace, hwithin⟩
    by_cases hended : (s.item = i && s.leftAt.isNone) = true
    · rcases h with hne | hlt
      · simp only [Bool.and_eq_true, decide_eq_true_eq] at hended
        exact absurd (hitem.symm.trans hended.1) hne
      · refine ⟨{ s with leftAt := some now }, mem_move.2 (Or.inl ⟨s, hs, if_pos hended⟩), hitem,
          hplace, ?_⟩
        simp only [Bool.and_eq_true, Option.isNone_iff_eq_none] at hended
        rw [hended.2] at hwithin
        have hsince : s.since ≤ t := by simpa [within] using hwithin
        exact WindowSum.within_some_some.2 ⟨hsince, hlt⟩
    · exact ⟨s, mem_move.2 (Or.inl ⟨s, hs, if_neg hended⟩), hitem, hplace, hwithin⟩

/-! ## Records at places and times -/

variable {Record : Type} (place : Record → Place) (time : Record → T) (val : Record → Int)

/-- What the records add up to that find the item at their place at their time. -/
def met (p : Record → Bool) (stays : List (Stay Item Place T)) (i : Item) (rows : List Record) :
    Int := total (fun r => p r && isAt stays i (place r) (time r)) val rows

/-- What the records of one instant at one place add up to. -/
def atInstant (p : Record → Bool) (now : T) (link : Option Place) (rows : List Record) : Int :=
  total (fun r => p r && decide (time r = now) && decide (link = some (place r))) val rows

variable {place time val}

/-- **WHAT A MOVE ADDS UP TO**: the records of its very instant, at the new place for those at
the old one. -/
theorem met_move {p : Record → Bool} (dest : Option Place) {rows : List Record}
    (htracks : Tracks stays i link) (hpast : Past stays now) (hrows : ∀ r ∈ rows, time r ≤ now) :
    met place time val p (move stays i now dest) i rows + atInstant place time val p now link rows
      = met place time val p stays i rows + atInstant place time val p now dest rows := by
  have hsplit : ∀ (stays' : List (Stay Item Place T)) (link' : Option Place),
      Tracks stays' i link' → Past stays' now →
      met place time val p stays' i rows
        = atInstant place time val p now link' rows
          + total (fun r => p r && isAt stays' i (place r) (time r) && !decide (time r = now)) val
              rows := by
    intro stays' link' htracks' hpast'
    rw [met, total_split _ fun r => decide (time r = now)]
    congr 1
    refine total_congr fun r _ => ?_
    by_cases hnow : time r = now
    · rw [hnow, isAt_now htracks' hpast']
      cases p r <;> simp
    · simp [hnow]
  rw [hsplit _ _ (tracks_move stays i now dest) (past_move hpast), hsplit _ _ htracks hpast]
  have hbefore : total (fun r => p r && isAt (move stays i now dest) i (place r) (time r) &&
        !decide (time r = now)) val rows
      = total (fun r => p r && isAt stays i (place r) (time r) && !decide (time r = now)) val
          rows := by
    refine total_congr fun r hr => ?_
    by_cases hnow : time r = now
    · simp [hnow]
    · rw [isAt_move (Or.inr (lt_of_le_of_ne (hrows r hr) hnow))]
  rw [hbefore]
  omega

theorem met_move_of_ne {p : Record → Bool} {i j : Item} (hne : j ≠ i) (now : T)
    (dest : Option Place) (rows : List Record) :
    met place time val p (move stays i now dest) j rows = met place time val p stays j rows :=
  total_congr fun r _ => by rw [isAt_move (Or.inl hne)]

theorem met_append {p : Record → Bool} (rows : List Record) (r : Record) :
    met place time val p stays i (rows ++ [r]) = met place time val p stays i rows
      + if p r && isAt stays i (place r) (time r) then val r else 0 := by
  show (((rows ++ [r]).filter _).map val).sum = ((rows.filter _).map val).sum + _
  rw [List.filter_append, List.map_append, List.sum_append]
  congr 1
  by_cases hp : (p r && isAt stays i (place r) (time r)) = true
  · simp [hp]
  · simp [hp]

end Times
end Stays
