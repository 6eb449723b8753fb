import Mathlib.Data.Nat.Init
import Mathlib.Logic.Function.Basic

/-!
# Quota — counters that bound what is admitted

Every slot has a limit and a counter.  A hit moves the counter of its slot on and
is admitted while the counter stays within the limit.  Counters may be forgotten,
as a bounded table forgets them; what is then still bounded is what this module
says.

`Accounts` relates what has been admitted to what is counted: nothing exceeds its
limit, and the counter of a slot that can still be hit has seen everything that
was admitted there.  One rule for each thing that happens: a hit, a counter that
is forgotten, a slot that closes.
-/

namespace Quota

variable {Slot : Type}

/-- What has been admitted is within the limits, and counted wherever a slot is open. -/
structure Accounts (limit : Slot → Nat) (isOpen : Slot → Prop) (admitted counted : Slot → Nat) :
    Prop where
  within : ∀ s, admitted s ≤ limit s
  tracked : ∀ s, isOpen s → admitted s ≤ counted s

variable {limit admitted counted : Slot → Nat} {isOpen : Slot → Prop}

theorem Accounts.start : Accounts limit isOpen (fun _ => 0) (fun _ => 0) :=
  ⟨fun s => Nat.zero_le (limit s), fun _ _ => Nat.le_refl 0⟩

theorem Accounts.close {isOpen' : Slot → Prop} (h : Accounts limit isOpen admitted counted)
    (hclose : ∀ s, isOpen' s → isOpen s) : Accounts limit isOpen' admitted counted :=
  ⟨h.within, fun s hs => h.tracked s (hclose s hs)⟩

theorem Accounts.forget {counted' : Slot → Nat} (h : Accounts limit isOpen admitted counted)
    (hkept : ∀ s, isOpen s → limit s = 0 ∨ counted s ≤ counted' s) :
    Accounts limit isOpen admitted counted' := by
  refine ⟨h.within, ?_⟩
  intro s hs
  rcases hkept s hs with hzero | hle
  · have hnone : admitted s ≤ 0 := hzero ▸ h.within s
    exact Nat.le_trans hnone (Nat.zero_le _)
  · exact Nat.le_trans (h.tracked s hs) hle

variable [DecidableEq Slot]

/-- The counters after a hit. -/
def count (counted : Slot → Nat) (slot : Slot) : Slot → Nat :=
  Function.update counted slot (counted slot + 1)

/-- What has been admitted after a hit. -/
def pass (limit admitted counted : Slot → Nat) (slot : Slot) : Slot → Nat :=
  if counted slot + 1 ≤ limit slot then Function.update admitted slot (admitted slot + 1)
  else admitted

theorem pass_of_le {slot : Slot} (h : counted slot + 1 ≤ limit slot) :
    pass limit admitted counted slot slot = admitted slot + 1 := by
  rw [pass, if_pos h, Function.update_self]

theorem le_pass (slot s : Slot) : admitted s ≤ pass limit admitted counted slot s := by
  rw [pass]
  by_cases hle : counted slot + 1 ≤ limit slot
  · rw [if_pos hle]
    by_cases hs : s = slot
    · subst hs
      rw [Function.update_self]
      exact Nat.le_succ _
    · exact Nat.le_of_eq (Function.update_of_ne hs _ _).symm
  · exact Nat.le_of_eq (congrFun (if_neg hle) s).symm

theorem Accounts.hit {slot : Slot} (h : Accounts limit isOpen admitted counted)
    (hopen : isOpen slot) :
    Accounts limit isOpen (pass limit admitted counted slot) (count counted slot) := by
  have hslot : admitted slot ≤ counted slot := h.tracked slot hopen
  refine ⟨?_, ?_⟩
  · intro s
    show (if counted slot + 1 ≤ limit slot then _ else admitted) s ≤ limit s
    by_cases hle : counted slot + 1 ≤ limit slot
    · rw [if_pos hle]
      by_cases hs : s = slot
      · subst hs
        rw [Function.update_self]
        omega
      · rw [Function.update_of_ne hs]
        exact h.within s
    · rw [if_neg hle]
      exact h.within s
  · intro s hs
    show (if counted slot + 1 ≤ limit slot then _ else admitted) s
      ≤ Function.update counted slot (counted slot + 1) s
    by_cases hss : s = slot
    · subst hss
      rw [Function.update_self]
      by_cases hle : counted s + 1 ≤ limit s
      · rw [if_pos hle, Function.update_self]
        omega
      · rw [if_neg hle]
        omega
    · rw [Function.update_of_ne hss]
      by_cases hle : counted slot + 1 ≤ limit slot
      · rw [if_pos hle, Function.update_of_ne hss]
        exact h.tracked s hs
      · rw [if_neg hle]
        exact h.tracked s hs

end Quota
