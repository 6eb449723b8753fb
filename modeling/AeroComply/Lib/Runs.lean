import Mathlib.Data.List.Chain

/-!
# Runs — histories of attempted operations

A caller issues operations in some order; an operation that fails leaves the
state as it was.  `visited` lists every state such a history passes through.
An invariant is shown once, per operation, and the two rules below carry it
(or a reflexive and transitive relation to the start) over the whole history.

`Ok` is a condition on the operation and the state it is issued in: the run
rules ask it of every step of the history (`StepsMeet`), and a history with no
condition at all uses `fun _ _ => True`.
-/

namespace Runs

variable {State Action Err : Type}

/-- Issue `a` in `s`: a failed operation leaves `s`. -/
def attempt (step : State → Action → Except Err State) (s : State) (a : Action) : State :=
  match step s a with
  | .ok s' => s'
  | .error _ => s

/-- Every state the history passes through, the first one included. -/
def visited (step : State → Action → Except Err State) (s : State) : List Action → List State
  | [] => [s]
  | a :: as => s :: visited step (attempt step s a) as

/-- Each operation of the history meets `Ok` in the state it is issued in. -/
def StepsMeet (step : State → Action → Except Err State) (Ok : State → Action → Prop)
    (s : State) : List Action → Prop
  | [] => True
  | a :: as => Ok s a ∧ StepsMeet step Ok (attempt step s a) as

/-- The conditions along a concrete history can be computed. -/
def decidableStepsMeet (step : State → Action → Except Err State) (Ok : State → Action → Prop)
    [∀ s a, Decidable (Ok s a)] : ∀ s as, Decidable (StepsMeet step Ok s as)
  | _, [] => isTrue trivial
  | s, a :: as =>
    have := decidableStepsMeet step Ok (attempt step s a) as
    inferInstanceAs (Decidable (Ok s a ∧ StepsMeet step Ok (attempt step s a) as))

instance (step : State → Action → Except Err State) (Ok : State → Action → Prop)
    [∀ s a, Decidable (Ok s a)] (s : State) (as : List Action) :
    Decidable (StepsMeet step Ok s as) := decidableStepsMeet step Ok s as

section Rules

theorem stepsMeet_true (step : State → Action → Except Err State) :
    ∀ (s : State) (as : List Action), StepsMeet step (fun _ _ => True) s as := by
  intro s as
  induction as generalizing s with
  | nil => trivial
  | cons a as ih => exact ⟨trivial, ih (attempt step s a)⟩

theorem attempt_cases (step : State → Action → Except Err State) (s : State) (a : Action) :
    attempt step s a = s ∨ step s a = .ok (attempt step s a) := by
  rw [attempt]
  cases h : step s a with
  | ok s' => exact Or.inr rfl
  | error e => exact Or.inl rfl

variable {step : State → Action → Except Err State} {Ok : State → Action → Prop}

variable {R : State → State → Prop} {Inv : State → Prop} {P : State → Prop} {s : State} {T : Type}

/-- **INVARIANT RULE**: what the operations preserve holds in every state of a history. -/
theorem visited_invariant (hstep : ∀ s a s', Inv s → Ok s a → step s a = .ok s' → Inv s') :
    ∀ (as : List Action) (s : State), Inv s → StepsMeet step Ok s as →
      ∀ s' ∈ visited step s as, Inv s' := by
  intro as
  induction as with
  | nil =>
    intro s hs _ s' hs'
    rw [List.mem_singleton.1 hs']
    exact hs
  | cons a as ih =>
    intro s hs hok s' hs'
    rcases List.mem_cons.1 hs' with rfl | htl
    · exact hs
    · refine ih (attempt step s a) ?_ hok.2 s' htl
      rcases attempt_cases step s a with h | h
      · rw [h]; exact hs
      · exact hstep s a _ hs hok.1 h

/-- **PREORDER RULE**: a reflexive and transitive relation that every operation keeps,
under an invariant, relates the first state of a history to every state of it. -/
theorem visited_preorder (hrefl : ∀ s, R s s) (htrans : ∀ s₁ s₂ s₃, R s₁ s₂ → R s₂ s₃ → R s₁ s₃)
    (hstep : ∀ s a s', Inv s → Ok s a → step s a = .ok s' → Inv s' ∧ R s s') :
    ∀ (as : List Action) (s : State), Inv s → StepsMeet step Ok s as →
      ∀ s' ∈ visited step s as, R s s' := by
  intro as
  induction as with
  | nil =>
    intro s _ _ s' hs'
    rw [List.mem_singleton.1 hs']
    exact hrefl s
  | cons a as ih =>
    intro s hs hok s' hs'
    rcases List.mem_cons.1 hs' with rfl | htl
    · exact hrefl s'
    · rcases attempt_cases step s a with h | h
      · have hR := ih (attempt step s a) (by rw [h]; exact hs) hok.2 s' htl
        rw [h] at hR
        exact hR
      · obtain ⟨hinv, hR⟩ := hstep s a _ hs hok.1 h
        exact htrans _ _ _ hR (ih (attempt step s a) hinv hok.2 s' htl)

/-- **CHAIN RULE**: a reflexive relation that every operation keeps, under an invariant,
relates each state of a history to the next one. -/
theorem visited_isChain (hrefl : ∀ s, R s s)
    (hstep : ∀ s a s', Inv s → Ok s a → step s a = .ok s' → Inv s' ∧ R s s') :
    ∀ (as : List Action) (s : State), Inv s → StepsMeet step Ok s as →
      (visited step s as).IsChain R := by
  intro as
  induction as with
  | nil =>
    intro s _ _
    exact List.isChain_singleton s
  | cons a as ih =>
    intro s hs hok
    have hone : Inv (attempt step s a) ∧ R s (attempt step s a) := by
      rcases attempt_cases step s a with h | h
      · rw [h]
        exact ⟨hs, hrefl s⟩
      · exact hstep s a _ hs hok.1 h
    have hrest := ih (attempt step s a) hone.1 hok.2
    -- the next state is the first one of the rest
    cases as with
    | nil => exact List.isChain_pair.2 hone.2
    | cons b as => exact List.isChain_cons_cons.2 ⟨hone.2, hrest⟩

theorem stepsMeet_of_forall : ∀ (as : List Action) (s : State), (∀ a ∈ as, ∀ s, Ok s a) →
    StepsMeet step Ok s as := by
  intro as
  induction as with
  | nil => exact fun _ _ => trivial
  | cons a as ih =>
    intro s h
    exact ⟨h a List.mem_cons_self s, ih _ fun b hb => h b (List.mem_cons_of_mem a hb)⟩

variable {Inv : T → State → Prop} {Pre : State → Action → Prop} {as : List Action}

/-- **EXACT RULE UNDER A CONDITION**: in a history whose operations all meet `Pre`, where such an
operation keeps `P` exactly when it meets `Ok`, `P` holds all along exactly when every
operation does.  `Inv` holds whatever such operation is called. -/
theorem forall_visited_iff_of_kept (Inv : State → Prop)
    (hinv : ∀ s a, Inv s → Pre s a → Inv (attempt step s a)) :
    ∀ (as : List Action) (s : State), Inv s → P s → StepsMeet step Pre s as →
      (∀ s a, Inv s → P s → Pre s a → (P (attempt step s a) ↔ Ok s a)) →
      ((∀ s' ∈ visited step s as, P s') ↔ StepsMeet step Ok s as) := by
  intro as
  induction as with
  | nil =>
    intro s _ hP _ _
    refine ⟨fun _ => trivial, fun _ s' hs' => ?_⟩
    rw [List.mem_singleton.1 hs']
    exact hP
  | cons a as ih =>
    intro s hs hP hpre hstep
    have hrest : P (attempt step s a) →
        ((∀ s' ∈ visited step (attempt step s a) as, P s') ↔
          StepsMeet step Ok (attempt step s a) as) := fun hPa =>
      ih _ (hinv s a hs hpre.1) hPa hpre.2 hstep
    have hone := hstep s a hs hP hpre.1
    have hfirst : attempt step s a ∈ visited step (attempt step s a) as := by
      cases as with
      | nil => exact List.mem_singleton_self _
      | cons b as => exact List.mem_cons_self
    constructor
    · intro h
      have hPa : P (attempt step s a) := h _ (List.mem_cons_of_mem _ hfirst)
      exact ⟨hone.1 hPa, (hrest hPa).1 fun s' hs' => h s' (List.mem_cons_of_mem _ hs')⟩
    · rintro ⟨hok, hoks⟩ s' hs'
      rcases List.mem_cons.1 hs' with rfl | htl
      · exact hP
      · exact (hrest (hone.2 hok)).2 hoks s' htl

theorem forall_visited_iff_of_meets (Inv : State → Prop)
    (hinv : ∀ s a, Inv s → Inv (attempt step s a)) :
    ∀ (as : List Action) (s : State), Inv s → P s → StepsMeet step Pre s as →
      (∀ s a, Inv s → P s → Pre s a → (P (attempt step s a) ↔ Ok s a)) →
      ((∀ s' ∈ visited step s as, P s') ↔ StepsMeet step Ok s as) :=
  forall_visited_iff_of_kept Inv fun s a hs _ => hinv s a hs

/-- **EXACT RULE**: where an operation of the history keeps `P` exactly when it meets `Ok`,
`P` holds all along the history exactly when every operation does.  `Inv` holds whatever
is called. -/
theorem forall_visited_iff {Inv P : State → Prop} (hinv : ∀ s a, Inv s → Inv (attempt step s a))
    (as : List Action) (s : State) (hs : Inv s) (hP : P s)
    (hstep : ∀ s, Inv s → P s → ∀ a ∈ as, (P (attempt step s a) ↔ Ok s a)) :
    (∀ s' ∈ visited step s as, P s') ↔ StepsMeet step Ok s as :=
  forall_visited_iff_of_meets Inv hinv as s hs hP (stepsMeet_of_forall as s fun _ ha _ => ha)
    fun s a hs hP ha => hstep s hs hP a ha

/-- **EXACT RULE FOR ALL PAIRS**: where an operation keeps `P` and relates the state before to the
state after exactly when it meets `Ok`, all states of a history satisfy `P`, and earlier ones
relate to later ones, exactly when every operation does. -/
theorem pairwise_visited_iff (htrans : ∀ s₁ s₂ s₃, R s₁ s₂ → R s₂ s₃ → R s₁ s₃)
    (hstep : ∀ s a, P s → ((P (attempt step s a) ∧ R s (attempt step s a)) ↔ Ok s a)) :
    ∀ (as : List Action) (s : State), P s →
      (((∀ s' ∈ visited step s as, P s') ∧ (visited step s as).Pairwise R) ↔
        StepsMeet step Ok s as) := by
  intro as
  induction as with
  | nil =>
    intro s hs
    refine ⟨fun _ => trivial, fun _ => ⟨?_, List.pairwise_singleton _ _⟩⟩
    intro s' hs'
    rw [List.mem_singleton.1 hs']
    exact hs
  | cons a as ih =>
    intro s hs
    -- the history goes on from the state after the operation
    obtain ⟨rest, hrest⟩ : ∃ rest, visited step (attempt step s a) as
        = attempt step s a :: rest := by
      cases as with
      | nil => exact ⟨_, rfl⟩
      | cons b as => exact ⟨_, rfl⟩
    rw [visited, List.forall_mem_cons, List.pairwise_cons, StepsMeet, ← hstep s a hs]
    constructor
    · rintro ⟨⟨_, hall⟩, hrel, hpair⟩
      have hmem : attempt step s a ∈ visited step (attempt step s a) as :=
        hrest ▸ List.mem_cons_self
      exact ⟨⟨hall _ hmem, hrel _ hmem⟩, (ih _ (hall _ hmem)).1 ⟨hall, hpair⟩⟩
    · rintro ⟨⟨hP, hR⟩, hmeets⟩
      obtain ⟨hall, hpair⟩ := (ih _ hP).2 hmeets
      refine ⟨⟨hs, hall⟩, ?_, hpair⟩
      intro s' hs'
      rw [hrest] at hs' hpair
      rcases List.mem_cons.1 hs' with rfl | htl
      · exact hR
      · exact htrans _ _ _ hR ((List.pairwise_cons.1 hpair).1 s' htl)

/-- **PREORDER RULE FOR ALL PAIRS**: a preorder that every operation keeps, under an invariant,
relates earlier states of a history to later ones. -/
theorem pairwise_visited (hrefl : ∀ s, R s s) (htrans : ∀ s₁ s₂ s₃, R s₁ s₂ → R s₂ s₃ → R s₁ s₃)
    (hstep : ∀ s a s', P s → step s a = .ok s' → P s' ∧ R s s') (as : List Action) (hs : P s) :
    (∀ s' ∈ visited step s as, P s') ∧ (visited step s as).Pairwise R := by
  refine (pairwise_visited_iff htrans (fun s a hs => ?_) as s hs).2 (stepsMeet_true step s as)
  rw [iff_true]
  rcases attempt_cases step s a with hsame | hok
  · rw [hsame]
    exact ⟨hs, hrefl s⟩
  · exact hstep s a _ hs hok

/-! ## Parts of a history -/

theorem stepsMeet_append {as bs : List Action} :
    StepsMeet step Ok s (as ++ bs) ↔
      StepsMeet step Ok s as ∧ StepsMeet step Ok (as.foldl (attempt step) s) bs := by
  induction as generalizing s with
  | nil => exact ⟨fun h => ⟨trivial, h⟩, fun h => h.2⟩
  | cons a as ih =>
    constructor
    · rintro ⟨hok, hrest⟩
      obtain ⟨has, hbs⟩ := ih.1 hrest
      exact ⟨⟨hok, has⟩, hbs⟩
    · rintro ⟨⟨hok, has⟩, hbs⟩
      exact ⟨hok, ih.2 ⟨has, hbs⟩⟩

/-- **PASSAGE RULE**: if a state in `A` is only ever left for a state in `B`, a history from
`A` either ends in `A` or passed through `B`. -/
theorem stays_or_passes {A B : State → Prop}
    (hstep : ∀ s a, A s → Ok s a → A (attempt step s a) ∨ B (attempt step s a)) :
    ∀ (as : List Action) (s : State), A s → StepsMeet step Ok s as →
      A (as.foldl (attempt step) s) ∨
        ∃ before after, as = before ++ after ∧ B (before.foldl (attempt step) s) := by
  intro as
  induction as with
  | nil =>
    intro s hs _
    exact Or.inl hs
  | cons a as ih =>
    rintro s hs ⟨hok, hrest⟩
    rcases hstep s a hs hok with hA | hB
    · rcases ih _ hA hrest with hend | ⟨before, after, rfl, hmid⟩
      · exact Or.inl hend
      · exact Or.inr ⟨a :: before, after, rfl, hmid⟩
    · exact Or.inr ⟨[a], as, rfl, hB⟩

/-! ## Histories with a clock

Each operation carries the time it is issued at, and the clock does not go back. -/

/-- **TIMED RULE**: an invariant that may mention the time, and a reflexive and transitive
relation between the states before and after each operation. -/
theorem visited_timed [LE T] (time : Action → T) (hrefl : ∀ s, R s s)
    (htrans : ∀ s₁ s₂ s₃, R s₁ s₂ → R s₂ s₃ → R s₁ s₃)
    (hlater : ∀ t t' s, t ≤ t' → Inv t s → Inv t' s)
    (hstep : ∀ s a s', Inv (time a) s → Ok s a → step s a = .ok s' → Inv (time a) s' ∧ R s s') :
    ∀ (as : List Action) (t : T) (s : State), Inv t s → (∀ a ∈ as, t ≤ time a) →
      (as.map time).Pairwise (· ≤ ·) → StepsMeet step Ok s as →
      (∀ s' ∈ visited step s as, R s s' ∧ ∃ t', Inv t' s') ∧ (visited step s as).Pairwise R := by
  intro as
  induction as with
  | nil =>
    intro t s hs _ _ _
    refine ⟨?_, List.pairwise_singleton _ _⟩
    intro s' hs'
    rw [List.mem_singleton.1 hs']
    exact ⟨hrefl s, t, hs⟩
  | cons a as ih =>
    intro t s hs hfrom hclock hok
    have hnow : Inv (time a) s := hlater _ _ _ (hfrom a List.mem_cons_self) hs
    obtain ⟨hafter, hclock⟩ := List.pairwise_cons.1 hclock
    have hfrom' : ∀ a' ∈ as, time a ≤ time a' :=
      fun a' ha' => hafter _ (List.mem_map_of_mem ha')
    have hone : Inv (time a) (attempt step s a) ∧ R s (attempt step s a) := by
      rcases attempt_cases step s a with h | h
      · rw [h]
        exact ⟨hnow, hrefl s⟩
      · exact hstep s a _ hnow hok.1 h
    obtain ⟨hrest, hpair⟩ := ih (time a) (attempt step s a) hone.1 hfrom' hclock hok.2
    have hall : ∀ s' ∈ visited step (attempt step s a) as, R s s' :=
      fun s' hs' => htrans _ _ _ hone.2 (hrest s' hs').1
    refine ⟨?_, List.pairwise_cons.2 ⟨hall, hpair⟩⟩
    intro s' hs'
    rcases List.mem_cons.1 hs' with rfl | htl
    · exact ⟨hrefl s', t, hs⟩
    · exact ⟨hall s' htl, (hrest s' htl).2⟩

theorem visited_timed_of_start [Preorder T] [Nonempty T] (time : Action → T) (hrefl : ∀ s, R s s)
    (htrans : ∀ s₁ s₂ s₃, R s₁ s₂ → R s₂ s₃ → R s₁ s₃)
    (hlater : ∀ t t' s, t ≤ t' → Inv t s → Inv t' s)
    (hstep : ∀ s a s', Inv (time a) s → Ok s a → step s a = .ok s' → Inv (time a) s' ∧ R s s')
    (hs : ∀ t, Inv t s) (hclock : (as.map time).Pairwise (· ≤ ·)) (hok : StepsMeet step Ok s as) :
    (∀ s' ∈ visited step s as, R s s' ∧ ∃ t', Inv t' s') ∧ (visited step s as).Pairwise R := by
  cases as with
  | nil =>
    obtain ⟨t⟩ := ‹Nonempty T›
    refine visited_timed time hrefl htrans hlater hstep [] t s (hs t) ?_ hclock hok
    intro a ha
    cases ha
  | cons a as =>
    refine visited_timed time hrefl htrans hlater hstep (a :: as) (time a) s (hs _) ?_ hclock hok
    intro a' ha'
    rcases List.mem_cons.1 ha' with rfl | htl
    · exact le_refl _
    · exact (List.pairwise_cons.1 hclock).1 _ (List.mem_map_of_mem htl)

/-- **TIMED INVARIANT RULE**: no condition on the operations, and no relation. -/
theorem visited_timed_invariant [Preorder T] [Nonempty T] (time : Action → T)
    (hlater : ∀ t t' s, t ≤ t' → Inv t s → Inv t' s)
    (hstep : ∀ s a s', Inv (time a) s → step s a = .ok s' → Inv (time a) s') (hs : ∀ t, Inv t s)
    (hclock : (as.map time).Pairwise (· ≤ ·)) :
    ∀ s' ∈ visited step s as, ∃ t, Inv t s' := by
  have hall := (visited_timed_of_start (R := fun _ _ => True) time (fun _ => trivial)
    (fun _ _ _ _ _ => trivial) hlater (fun s a s' hinv _ h => ⟨hstep s a s' hinv h, trivial⟩)
    hs hclock (stepsMeet_true step s as)).1
  exact fun s' hs' => (hall s' hs').2

end Rules
end Runs
