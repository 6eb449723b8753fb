import Mathlib.Data.List.Basic

/-!
# Lockstep — two runs of one judge, item by item

A judge goes through a list, numbers the items, remembers those it has seen and may
stop with an error.  Run on two lists, it shows the same exactly when the items agree
pairwise, given the earlier ones.

`shown_eq_iff` is the rule: agreement has to say when two items are judged alike from
one memory, and items that agree have to be remembered alike.
-/

namespace Lockstep

variable {Item Mem Out View Err : Type} (judge : Mem → Nat → Item → Except Err Out)
  (remember : Mem → Item → Mem)

/-- The judge on a list, from a memory and a number. -/
def run : Mem → Nat → List Item → Except Err (List Out)
  | _, _, [] => .ok []
  | mem, number, i :: items =>
    match judge mem number i with
    | .error e => .error e
    | .ok o => (run (remember mem i) (number + 1) items).map (o :: ·)

/-- Two lists of one length agree, item by item. -/
def AllAgree (Agree : List Item → Item → Item → Prop) : List Item → List Item → List Item → Prop
  | _, [], [] => True
  | earlier, p :: ps, q :: qs => Agree earlier p q ∧ AllAgree Agree (earlier ++ [p]) ps qs
  | _, _, _ => False

variable {judge remember}

theorem run_cons_eq_ok {mem : Mem} {number : Nat} {i : Item} {items : List Item} {outs : List Out} :
    run judge remember mem number (i :: items) = .ok outs ↔
      ∃ o rest, judge mem number i = .ok o ∧
        run judge remember (remember mem i) (number + 1) items = .ok rest ∧ outs = o :: rest := by
  rw [run]
  cases hjudge : judge mem number i with
  | error e =>
    constructor
    · intro h
      cases h
    · rintro ⟨o, rest, ho, _⟩
      cases ho
  | ok o =>
    cases hrest : run judge remember (remember mem i) (number + 1) items with
    | error e =>
      constructor
      · intro h
        cases h
      · rintro ⟨_, rest, _, h, _⟩
        cases h
    | ok rest =>
      constructor
      · intro h
        cases h
        exact ⟨o, rest, rfl, rfl, rfl⟩
      · rintro ⟨o', rest', ho, hr, rfl⟩
        cases ho
        cases hr
        rfl

variable (judge remember)

/-- **LOCKSTEP RULE**: the two runs answer and show the same exactly when the lists agree. -/
theorem shown_eq_iff (shown : Out → View) (Agree : List Item → Item → Item → Prop) (start : Mem)
    (hstep : ∀ earlier p q number, Agree earlier p q ↔
      ∃ o o', judge (earlier.foldl remember start) number p = .ok o ∧
        judge (earlier.foldl remember start) number q = .ok o' ∧ shown o' = shown o)
    (hkept : ∀ earlier p q, Agree earlier p q → ∀ mem, remember mem q = remember mem p) :
    ∀ (ps qs earlier : List Item) (number : Nat),
      (∃ os os', run judge remember (earlier.foldl remember start) number ps = .ok os ∧
        run judge remember (earlier.foldl remember start) number qs = .ok os' ∧
        os'.map shown = os.map shown) ↔ AllAgree Agree earlier ps qs := by
  intro ps
  induction ps with
  | nil =>
    intro qs earlier number
    cases qs with
    | nil => exact iff_of_true ⟨[], [], rfl, rfl, rfl⟩ trivial
    | cons q qs =>
      refine iff_of_false ?_ fun h => h
      rintro ⟨os, os', hp, hq, hshown⟩
      cases hp
      obtain ⟨o, rest, _, _, rfl⟩ := run_cons_eq_ok.1 hq
      cases hshown
  | cons p ps ih =>
    intro qs earlier number
    cases qs with
    | nil =>
      refine iff_of_false ?_ fun h => h
      rintro ⟨os, os', hp, hq, hshown⟩
      cases hq
      obtain ⟨o, rest, _, _, rfl⟩ := run_cons_eq_ok.1 hp
      cases hshown
    | cons q qs =>
      have hrest := ih qs (earlier ++ [p]) (number + 1)
      rw [List.foldl_append, List.foldl_cons, List.foldl_nil] at hrest
      constructor
      · rintro ⟨os, os', hp, hq, hshown⟩
        obtain ⟨o, rest, ho, hruns, rfl⟩ := run_cons_eq_ok.1 hp
        obtain ⟨o', rest', ho', hruns', rfl⟩ := run_cons_eq_ok.1 hq
        rw [List.map_cons, List.map_cons, List.cons.injEq] at hshown
        have hagree : Agree earlier p q := (hstep earlier p q number).2 ⟨o, o', ho, ho', hshown.1⟩
        rw [hkept earlier p q hagree] at hruns'
        exact ⟨hagree, hrest.1 ⟨rest, rest', hruns, hruns', hshown.2⟩⟩
      · rintro ⟨hagree, hall⟩
        obtain ⟨rest, rest', hruns, hruns', hshown⟩ := hrest.2 hall
        obtain ⟨o, o', ho, ho', heq⟩ := (hstep earlier p q number).1 hagree
        rw [← hkept earlier p q hagree] at hruns'
        refine ⟨o :: rest, o' :: rest', run_cons_eq_ok.2 ⟨o, rest, ho, hruns, rfl⟩,
          run_cons_eq_ok.2 ⟨o', rest', ho', hruns', rfl⟩, ?_⟩
        rw [List.map_cons, List.map_cons, heq, hshown]

end Lockstep
