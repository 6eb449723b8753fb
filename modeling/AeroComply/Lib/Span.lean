import Mathlib.Order.Lattice
import Mathlib.Data.List.Nodup

/-!
# Spans — half-open stretches of time

A span runs from its start up to its end, which is not part of it; without an end
it runs on forever.  Nothing says that the end comes after the start: a span may
be empty.

`overlaps` is the test a writer makes on the four bounds.  It says nothing of
empty spans, but it never misses a shared instant, and that is all the reader of
spans with one holder at a time needs.
-/

namespace Spans

variable {T : Type} [LinearOrder T]

/-- A start, and an end unless the span is open. -/
structure Span (T : Type) where
  start : T
  stop : Option T

/-- `t` has been reached by the end of the span. -/
def reached (stop : Option T) (t : T) : Bool :=
  match stop with
  | none => false
  | some stop => decide (stop ≤ t)

namespace Span

/-- `t` lies in the span. -/
def covers (s : Span T) (t : T) : Bool := decide (s.start ≤ t) && !reached s.stop t

/-- Neither span ends before the other one starts. -/
def overlaps (s s' : Span T) : Bool := !reached s.stop s'.start && !reached s'.stop s.start

theorem overlaps_comm (s s' : Span T) : s.overlaps s' = s'.overlaps s := Bool.and_comm _ _

theorem reached_of_le {stop : Option T} {t t' : T} (h : t' ≤ t) (hr : reached stop t' = true) :
    reached stop t = true := by
  cases stop with
  | none => exact nomatch hr
  | some stop =>
    have hle : stop ≤ t' := of_decide_eq_true hr
    exact decide_eq_true (le_trans hle h)

/-- **SHARED INSTANT**: spans that cover one instant overlap. -/
theorem overlaps_of_covers {s s' : Span T} {t : T} (h : s.covers t = true)
    (h' : s'.covers t = true) : s.overlaps s' = true := by
  rw [covers, Bool.and_eq_true, decide_eq_true_eq, Bool.not_eq_true'] at h h'
  have hopen : reached s.stop s'.start = false :=
    Bool.eq_false_iff.2 fun hr => Bool.eq_false_iff.1 h.2 (reached_of_le h'.1 hr)
  have hopen' : reached s'.stop s.start = false :=
    Bool.eq_false_iff.2 fun hr => Bool.eq_false_iff.1 h'.2 (reached_of_le h.1 hr)
  rw [overlaps, hopen, hopen']
  rfl

end Span

/-- **ONE HOLDER**: of rows with pairwise separate spans, at most one covers an instant. -/
theorem length_covering_le_one {α : Type} {rows : List α} (hnodup : rows.Nodup) (span : α → Span T)
    (hsep : ∀ x ∈ rows, ∀ y ∈ rows, x ≠ y → (span x).overlaps (span y) = false) (t : T) :
    (rows.filter fun x => (span x).covers t).length ≤ 1 := by
  have hone : ∀ x ∈ rows.filter (fun x => (span x).covers t),
      ∀ y ∈ rows.filter (fun x => (span x).covers t), x = y := by
    intro x hx y hy
    obtain ⟨hmem, hcov⟩ := List.mem_filter.1 hx
    obtain ⟨hmem', hcov'⟩ := List.mem_filter.1 hy
    by_contra hne
    have hover := Span.overlaps_of_covers hcov hcov'
    rw [hsep x hmem y hmem' hne] at hover
    cases hover
  have hn := hnodup.filter fun x => (span x).covers t
  match hl : rows.filter fun x => (span x).covers t with
  | [] => exact Nat.zero_le 1
  | [_] => exact Nat.le_refl 1
  | x :: y :: l =>
    rw [hl] at hone hn
    have hxy : x = y := hone x (by simp) y (by simp)
    rw [hxy] at hn
    exact absurd hn (by simp)

end Spans
