import Mathlib.Data.List.Basic

/-!
# Batch — items taken one after the other, any of which may fail

An item is tried in the state that the ones before it have left, and a failure does
not stop the batch.  `run` keeps the count of what went through and the list of what
did not.

`failures_eq_nil_iff` is the rule for a batch without failures: it asks what a step
does after steps that all went through, and answers with a condition on the items
alone.  `forall_visits` is the rule for a batch with or without them: what a step
keeps for the items to come holds of each when its turn comes.
-/

namespace Batch

variable {State Item Err : Type}

/-- What a batch leaves: how many items went through, and the others with their errors. -/
structure Outcome (State Item Err : Type) where
  state : State
  done : Nat
  failures : List (Item × Err)

/-- The items in their order; a failed one moves the state on too. -/
def run (step : State → Item → Except Err Unit × State) (s : State) :
    List Item → Outcome State Item Err
  | [] => ⟨s, 0, []⟩
  | i :: items =>
    match step s i with
    | (.ok _, s') =>
      let rest := run step s' items
      { rest with done := rest.done + 1 }
    | (.error e, s') =>
      let rest := run step s' items
      { rest with failures := (i, e) :: rest.failures }

/-- The items, each with the state it was tried in. -/
def visits (step : State → Item → Except Err Unit × State) (s : State) :
    List Item → List (State × Item)
  | [] => []
  | i :: items => (s, i) :: visits step (step s i).2 items

/-- Every item is accepted, given the ones before it. -/
def AllAccepted (Accepted : List Item → Item → Prop) (earlier : List Item) : List Item → Prop
  | [] => True
  | i :: items => Accepted earlier i ∧ AllAccepted Accepted (earlier ++ [i]) items

section Run

variable {step : State → Item → Except Err Unit × State} {s s' : State} {i : Item}
  {items : List Item}

theorem run_cons_ok {x : Unit} (h : step s i = (.ok x, s')) :
    run step s (i :: items) =
      { run step s' items with done := (run step s' items).done + 1 } := by
  rw [run, h]

theorem run_cons_error {e : Err} (h : step s i = (.error e, s')) :
    run step s (i :: items) =
      { run step s' items with failures := (i, e) :: (run step s' items).failures } := by
  rw [run, h]

theorem done_add_failures (items : List Item) :
    ∀ s, (run step s items).done + (run step s items).failures.length = items.length := by
  induction items with
  | nil =>
    intro s
    rfl
  | cons i items ih =>
    intro s
    cases h : step s i with
    | mk answer s' =>
      have hrest := ih s'
      cases answer with
      | ok x =>
        rw [run_cons_ok h]
        show (run step s' items).done + 1 + (run step s' items).failures.length = items.length + 1
        omega
      | error e =>
        rw [run_cons_error h]
        show (run step s' items).done + ((run step s' items).failures.length + 1) = items.length + 1
        omega

theorem failures_eq_nil_iff_done (s : State) (items : List Item) :
    (run step s items).failures = [] ↔ (run step s items).done = items.length := by
  have hsum : (run step s items).done + (run step s items).failures.length = items.length :=
    done_add_failures items s
  rw [← List.length_eq_zero_iff]
  omega

/-- **BATCH RULE**: `Reached earlier s` describes the states after items that all went
through.  If a step from such a state goes through exactly when its item is accepted, a batch
has no failure exactly when every item of it is accepted. -/
theorem failures_eq_nil_iff (Reached : List Item → State → Prop)
    {Accepted : List Item → Item → Prop} (all : List Item)
    (hstep : ∀ earlier i rest, all = earlier ++ i :: rest → ∀ s, Reached earlier s →
      (Accepted earlier i ∧ ∃ s', step s i = (.ok (), s') ∧ Reached (earlier ++ [i]) s') ∨
      (¬Accepted earlier i ∧ ∃ e s', step s i = (.error e, s'))) :
    ∀ (items earlier : List Item) (s : State), all = earlier ++ items → Reached earlier s →
      ((run step s items).failures = [] ↔ AllAccepted Accepted earlier items) := by
  intro items
  induction items with
  | nil =>
    intro earlier s _ _
    exact iff_of_true rfl trivial
  | cons i items ih =>
    intro earlier s hall hreached
    rcases hstep earlier i items hall s hreached with
      ⟨haccepted, s', hrun, hnext⟩ | ⟨hrefused, e, s', hrun⟩
    · rw [run_cons_ok hrun, AllAccepted]
      have hrest := ih (earlier ++ [i]) s' (by rw [hall, List.append_cons]) hnext
      exact ⟨fun h => ⟨haccepted, hrest.1 h⟩, fun h => hrest.2 h.2⟩
    · rw [run_cons_error hrun, AllAccepted]
      refine iff_of_false ?_ fun h => hrefused h.1
      intro h
      cases h

/-- **VISIT RULE**: if the step of an item keeps every item apart from it ready, each item is
ready in the state it is tried in. -/
theorem forall_visits {Ready : State → Item → Prop} {Apart : Item → Item → Prop}
    (hstep : ∀ s i j, Apart i j → Ready s i → Ready s j → Ready (step s i).2 j) :
    ∀ s, items.Pairwise Apart → (∀ i ∈ items, Ready s i) →
      ∀ v ∈ visits step s items, Ready v.1 v.2 := by
  induction items with
  | nil =>
    intro s _ _ v hv
    cases hv
  | cons i items ih =>
    intro s hapart hready v hv
    obtain ⟨hi, hrest⟩ := List.pairwise_cons.1 hapart
    rcases List.mem_cons.1 hv with rfl | hv
    · exact hready i List.mem_cons_self
    · refine ih (step s i).2 hrest (fun j hj => ?_) v hv
      exact hstep s i j (hi j hj) (hready i List.mem_cons_self)
        (hready j (List.mem_cons_of_mem _ hj))

end Run
end Batch
