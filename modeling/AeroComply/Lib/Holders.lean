import Mathlib.Data.Set.Insert

/-!
# Holders — claimed items and the live holders that carry them

A register says which holders are live, which items each one carries, and which
items are claimed.  It is exclusive when every claimed item is carried by exactly
one live holder.

Three things happen to a register: claims are given up, a holder is retired, and a
new one opens, claiming some of what it carries.  The first never harms; for the
other two the rules say exactly when exclusiveness survives.
-/

namespace Holders

variable {H I : Type}

@[ext] structure Register (H I : Type) where
  live : Set H
  carries : H → Set I
  claimed : Set I

namespace Register

/-- Every claimed item is carried by exactly one live holder. -/
def Exclusive (r : Register H I) : Prop :=
  ∀ i ∈ r.claimed, ∃! h, h ∈ r.live ∧ i ∈ r.carries h

/-- The holder is live no more; the claims stay. -/
def retire (r : Register H I) (h : H) : Register H I := { r with live := r.live \ {h} }

/-- A new live holder, with what it carries and what it claims. -/
def opened (r : Register H I) (h : H) (items claims : Set I) : Register H I where
  live := insert h r.live
  carries h' := r.carries h' ∪ {i | h' = h ∧ i ∈ items}
  claimed := r.claimed ∪ claims

variable {r r' : Register H I} {h : H} {items claims : Set I}

/-- **GIVING UP**: with fewer claims, on the same holders, a register stays exclusive. -/
theorem Exclusive.of_claimed_subset (hr : r.Exclusive) (hlive : r'.live = r.live)
    (hcarries : r'.carries = r.carries) (hsub : r'.claimed ⊆ r.claimed) : r'.Exclusive := by
  intro i hi
  rw [hlive, hcarries]
  exact hr i (hsub hi)

/-- **RETIREMENT**: a live holder can be retired exactly when it carries nothing claimed. -/
theorem exclusive_retire_iff (hr : r.Exclusive) (hlive : h ∈ r.live) :
    (r.retire h).Exclusive ↔ ∀ i ∈ r.claimed, i ∉ r.carries h := by
  constructor
  · intro hex i hi hcarried
    -- the holder that remains is a second one
    obtain ⟨h', ⟨⟨hlive', hne⟩, hcarried'⟩, _⟩ := hex i hi
    exact hne ((hr i hi).unique ⟨hlive', hcarried'⟩ ⟨hlive, hcarried⟩)
  · intro hfree i hi
    obtain ⟨h', ⟨hlive', hcarried'⟩, honly⟩ := hr i hi
    refine ⟨h', ⟨⟨hlive', ?_⟩, hcarried'⟩, ?_⟩
    · rintro rfl
      exact hfree i hi hcarried'
    · rintro h'' ⟨⟨hlive'', _⟩, hcarried''⟩
      exact honly h'' ⟨hlive'', hcarried''⟩

/-- **OPENING**: a new holder that carries what it claims, and nothing that is claimed already,
opens exactly when no live holder carries what it claims. -/
theorem exclusive_opened_iff (hr : r.Exclusive) (hnew : h ∉ r.live) (hempty : r.carries h = ∅)
    (hclaims : claims ⊆ items) (hfree : ∀ i ∈ r.claimed, i ∉ items) :
    (r.opened h items claims).Exclusive ↔ ∀ i ∈ claims, ∀ h' ∈ r.live, i ∉ r.carries h' := by
  constructor
  · intro hex i hi h' hlive' hcarried'
    have hne : h' ≠ h := by
      rintro rfl
      exact hnew hlive'
    exact hne ((hex i (Or.inr hi)).unique ⟨Or.inr hlive', Or.inl hcarried'⟩
      ⟨Or.inl rfl, Or.inr ⟨rfl, hclaims hi⟩⟩)
  · intro hnone i hi
    rcases hi with hi | hi
    · -- an old claim keeps its holder
      obtain ⟨h', ⟨hlive', hcarried'⟩, honly⟩ := hr i hi
      refine ⟨h', ⟨Or.inr hlive', Or.inl hcarried'⟩, ?_⟩
      rintro h'' ⟨hlive'', hcarried'' | ⟨_, hitem⟩⟩
      · rcases hlive'' with rfl | hlive''
        · rw [hempty] at hcarried''
          cases hcarried''
        · exact honly h'' ⟨hlive'', hcarried''⟩
      · exact absurd hitem (hfree i hi)
    · -- a new claim is on the new holder only
      refine ⟨h, ⟨Or.inl rfl, Or.inr ⟨rfl, hclaims hi⟩⟩, ?_⟩
      rintro h'' ⟨hlive'', hcarried'' | ⟨rfl, _⟩⟩
      · rcases hlive'' with rfl | hlive''
        · rfl
        · exact absurd hcarried'' (hnone i hi h'' hlive'')
      · rfl

end Register
end Holders
