import Mathlib.Order.Basic

/-!
# Rounds — a bounded loop with an early exit

`for _ in range(n): … break … else: …`.  A round goes on with a new state or leaves the loop with a
result; a loop that is never left ends in the state after its last round.

`forElse_next` and `forElse_stop`: what a round keeps holds after the loop, and what a round leaves
with holds of the result.  The invariant may speak of the number of rounds so far.
-/

namespace Rounds

variable {State Result : Type}

/-- One round: on to the next one, or out of the loop. -/
inductive Outcome (State Result : Type) where
  | next (s : State)
  | stop (r : Result)

/-- At most `n` rounds. -/
def forElse (body : State → Outcome State Result) : Nat → State → Outcome State Result
  | 0, s => .next s
  | n + 1, s =>
    match body s with
    | .next s' => forElse body n s'
    | .stop r => .stop r

section Rules

variable {body : State → Outcome State Result} {Inv : Nat → State → Prop} {n : Nat}

theorem forElse_from (hnext : ∀ i s s', i < n → Inv i s → body s = .next s' → Inv (i + 1) s')
    {Post : Result → Prop} (hstop : ∀ i s r, i < n → Inv i s → body s = .stop r → Post r) :
    ∀ (k i : Nat), i + k = n → ∀ s, Inv i s →
      (∀ s', forElse body k s = .next s' → Inv n s') ∧
        ∀ r, forElse body k s = .stop r → Post r := by
  intro k
  induction k with
  | zero =>
    intro i hi s hs
    rw [Nat.add_zero] at hi
    subst hi
    refine ⟨fun s' h => ?_, fun r h => ?_⟩
    · cases h
      exact hs
    · cases h
  | succ k ih =>
    intro i hi s hs
    have hlt : i < n := by omega
    rw [forElse]
    cases hbody : body s with
    | next s' => exact ih (i + 1) (by omega) s' (hnext i s s' hlt hs hbody)
    | stop r =>
      refine ⟨fun s' h => ?_, fun r' h => ?_⟩
      · cases h
      · cases h
        exact hstop i s r hlt hs hbody

/-- **AFTER THE LAST ROUND**: the invariant, at the number of rounds. -/
theorem forElse_next (hnext : ∀ i s s', i < n → Inv i s → body s = .next s' → Inv (i + 1) s')
    {s s' : State} (hs : Inv 0 s) (h : forElse body n s = .next s') : Inv n s' := by
  have hrounds := forElse_from hnext (fun _ _ _ _ _ _ => trivial) n 0 (Nat.zero_add n) s hs
  exact hrounds.1 s' h

/-- **LEFT EARLY**: what the rounds leave with, under the invariant. -/
theorem forElse_stop (hnext : ∀ i s s', i < n → Inv i s → body s = .next s' → Inv (i + 1) s')
    {Post : Result → Prop} (hstop : ∀ i s r, i < n → Inv i s → body s = .stop r → Post r)
    {s : State} {r : Result} (hs : Inv 0 s) (h : forElse body n s = .stop r) : Post r :=
  (forElse_from hnext hstop n 0 (Nat.zero_add n) s hs).2 r h

end Rules
end Rounds
