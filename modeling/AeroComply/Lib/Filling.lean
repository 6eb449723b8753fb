import Mathlib.Data.List.Nodup
import Mathlib.Data.List.Perm.Basic

/-!
# Filling — slots that take the first item that fits

One pass over a list of slots.  Each takes the first item that fits it and that no slot before it has
taken; a slot that finds none stays empty.

`Filled`: what holds of the slots passed so far.  `placed_append_rest_perm`: the items in the slots
and those that are left over are the items, each once.
-/

namespace Filling

variable {σ ι κ : Type}

/-- The keys of the items that were taken, and the slots so far with what each has. -/
structure State (σ ι κ : Type) where
  used : List κ := []
  filled : List (σ × Option ι) := []

/-- The items in the slots. -/
def placed (filled : List (σ × Option ι)) : List ι := filled.filterMap Prod.snd

variable {used : List κ} {slot : σ} {i : ι}

theorem mem_placed {filled : List (σ × Option ι)} :
    i ∈ placed filled ↔ ∃ slot, (slot, some i) ∈ filled := by
  rw [placed, List.mem_filterMap]
  constructor
  · rintro ⟨⟨slot, _⟩, hmem, rfl⟩
    exact ⟨slot, hmem⟩
  · rintro ⟨slot, hmem⟩
    exact ⟨_, hmem, rfl⟩

theorem placed_append_some (filled : List (σ × Option ι)) (slot : σ) (i : ι) :
    placed (filled ++ [(slot, some i)]) = placed filled ++ [i] := by
  rw [placed, List.filterMap_append]
  rfl

theorem placed_append_none (filled : List (σ × Option ι)) (slot : σ) :
    placed (filled ++ [(slot, none)]) = placed filled := by
  rw [placed, List.filterMap_append]
  exact List.append_nil _

variable (key : ι → κ) (fits : σ → ι → Bool) (items : List ι)

/-- What the slots passed so far have: each item at most once, only items that fit, and all items that
fit an empty slot. -/
structure Filled (slots : List σ) (st : State σ ι κ) : Prop where
  map_fst : st.filled.map Prod.fst = slots
  used_eq : st.used = (placed st.filled).map key
  nodup : st.used.Nodup
  subset : ∀ i ∈ placed st.filled, i ∈ items
  fits_of_some : ∀ slot i, (slot, some i) ∈ st.filled → fits slot i = true
  used_of_none : ∀ slot, (slot, none) ∈ st.filled →
    ∀ i ∈ items, fits slot i = true → key i ∈ st.used

variable [DecidableEq κ]

/-- The first item that fits the slot and is not taken. -/
def pick (used : List κ) (slot : σ) : Option ι :=
  items.find? fun i => fits slot i && !used.contains (key i)

/-- One slot further. -/
def step (st : State σ ι κ) (slot : σ) : State σ ι κ :=
  match pick key fits items st.used slot with
  | some i => { used := st.used ++ [key i], filled := st.filled ++ [(slot, some i)] }
  | none => { st with filled := st.filled ++ [(slot, none)] }

/-- The whole pass. -/
def fill (slots : List σ) : State σ ι κ := slots.foldl (step key fits items) {}

/-- The items that no slot has taken. -/
def rest (used : List κ) : List ι := items.filter fun i => !used.contains (key i)

variable {key fits items}

omit [DecidableEq κ] in
theorem Filled.nil : Filled key fits items [] ({} : State σ ι κ) := by
  refine ⟨rfl, rfl, List.nodup_nil, fun i hi => ?_, fun slot i hi => ?_, fun slot hslot => ?_⟩
  · cases hi
  · cases hi
  · cases hslot

theorem pick_eq_some (h : pick key fits items used slot = some i) :
    i ∈ items ∧ fits slot i = true ∧ key i ∉ used := by
  have hfound := List.find?_some h
  rw [Bool.and_eq_true, Bool.not_eq_true', List.contains_eq_mem, decide_eq_false_iff_not] at hfound
  exact ⟨List.mem_of_find?_eq_some h, hfound.1, hfound.2⟩

theorem pick_eq_none (h : pick key fits items used slot = none) :
    ∀ i ∈ items, fits slot i = true → key i ∈ used := by
  intro i hi hfits
  by_contra hfree
  refine List.find?_eq_none.1 h i hi ?_
  rw [hfits, List.contains_eq_mem, decide_eq_false hfree]
  rfl

theorem Filled.step {slots : List σ} {st : State σ ι κ} (h : Filled key fits items slots st)
    (slot : σ) : Filled key fits items (slots ++ [slot]) (step key fits items st slot) := by
  rw [Filling.step]
  split
  · next i hpick =>
    obtain ⟨hi, hfits, hfree⟩ := pick_eq_some hpick
    refine ⟨?_, ?_, ?_, fun j hj => ?_, fun s j hj => ?_, fun s hs j hj hsj => ?_⟩
    · rw [List.map_append, h.map_fst]
      rfl
    · rw [placed_append_some, List.map_append, ← h.used_eq]
      rfl
    · exact List.nodup_append.2 ⟨h.nodup, List.nodup_singleton _, fun k hk k' hk' hsame =>
        hfree (List.mem_singleton.1 hk' ▸ hsame ▸ hk)⟩
    · rw [placed_append_some] at hj
      rcases List.mem_append.1 hj with hj | hj
      · exact h.subset j hj
      · exact List.mem_singleton.1 hj ▸ hi
    · rcases List.mem_append.1 hj with hj | hj
      · exact h.fits_of_some s j hj
      · cases List.mem_singleton.1 hj
        exact hfits
    · rcases List.mem_append.1 hs with hs | hs
      · exact List.mem_append_left _ (h.used_of_none s hs j hj hsj)
      · cases List.mem_singleton.1 hs
  · next hpick =>
    refine ⟨?_, ?_, h.nodup, ?_, fun s j hj => ?_, fun s hs j hj hsj => ?_⟩
    · rw [List.map_append, h.map_fst]
      rfl
    · rw [placed_append_none]
      exact h.used_eq
    · rw [placed_append_none]
      exact h.subset
    · rcases List.mem_append.1 hj with hj | hj
      · exact h.fits_of_some s j hj
      · cases List.mem_singleton.1 hj
    · rcases List.mem_append.1 hs with hs | hs
      · exact h.used_of_none s hs j hj hsj
      · cases List.mem_singleton.1 hs
        exact pick_eq_none hpick j hj hsj

/-- **AFTER THE PASS**. -/
theorem filled_fill (slots : List σ) : Filled key fits items slots (fill key fits items slots) := by
  have hfrom : ∀ (later passed : List σ) (st : State σ ι κ), Filled key fits items passed st →
      Filled key fits items (passed ++ later) (later.foldl (step key fits items) st) := by
    intro later
    induction later with
    | nil =>
      intro passed st h
      rw [List.append_nil]
      exact h
    | cons slot later ih =>
      intro passed st h
      have hlater := ih (passed ++ [slot]) _ (h.step slot)
      rw [List.append_assoc] at hlater
      exact hlater
  exact hfrom slots [] {} Filled.nil

section Once

variable {slots : List σ} {st : State σ ι κ} (h : Filled key fits items slots st)
  (hnodup : (items.map key).Nodup)

omit [DecidableEq κ] in
include h hnodup in
theorem Filled.mem_placed_iff {i : ι} (hi : i ∈ items) : i ∈ placed st.filled ↔ key i ∈ st.used := by
  rw [h.used_eq]
  constructor
  · exact List.mem_map_of_mem
  · intro hkey
    obtain ⟨j, hj, hsame⟩ := List.mem_map.1 hkey
    rw [← List.inj_on_of_nodup_map hnodup (h.subset j hj) hi hsame]
    exact hj

include h hnodup in
/-- **EACH ITEM ONCE**: in a slot, or left over. -/
theorem Filled.placed_append_rest_perm :
    (placed st.filled ++ rest key items st.used).Perm items := by
  have hplaced : (placed st.filled).Nodup := (h.used_eq ▸ h.nodup).of_map
  have hitems : items.Nodup := hnodup.of_map
  have hmem : ∀ {i}, i ∈ rest key items st.used ↔ i ∈ items ∧ key i ∉ st.used := by
    intro i
    rw [rest, List.mem_filter, Bool.not_eq_true', List.contains_eq_mem, decide_eq_false_iff_not]
  refine (List.perm_ext_iff_of_nodup ?_ hitems).2 fun i => ?_
  · refine List.nodup_append.2 ⟨hplaced, hitems.filter _, ?_⟩
    rintro i hi _ hrest rfl
    exact (hmem.1 hrest).2 ((h.mem_placed_iff hnodup (h.subset i hi)).1 hi)
  · rw [List.mem_append]
    constructor
    · rintro (hi | hi)
      · exact h.subset i hi
      · exact (hmem.1 hi).1
    · intro hi
      by_cases hused : key i ∈ st.used
      · exact Or.inl ((h.mem_placed_iff hnodup hi).2 hused)
      · exact Or.inr (hmem.2 ⟨hi, hused⟩)

end Once

end Filling
