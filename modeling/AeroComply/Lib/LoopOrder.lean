import Mathlib.Data.List.Sort
import AeroComply.Lib.Table

/-!
# LoopOrder — tables filled by a loop, in any order of the loop

A loop that writes every row over the one with its key leaves the last row of each key, one that
writes a row only where its key is free leaves the first.  Where no two rows of the loop share a
key there is no first and last, and what the loop leaves does not depend on its order
(`find?_foldl_upsert_perm`, `find?_foldl_insertNew_perm`).  Two tables that read back the same are
the same rows, and sorting them by an order that tells keys apart gives one list
(`insertionSort_rows_eq`).
-/

namespace Relational
namespace Table

variable {α κ : Type}

section Lists

variable [DecidableEq κ]

theorem find?_key_perm (f : α → κ) {l l' : List α} (hl : l.Perm l') (hn : (l.map f).Nodup)
    (k : κ) : l.find? (fun a => f a = k) = l'.find? (fun a => f a = k) := by
  let : Keyed α κ := ⟨f⟩
  have hn' : (l'.map f).Nodup := (hl.map f).nodup_iff.1 hn
  ext r
  rw [show (fun a => decide (f a = k)) = hasKey k from rfl, find?_of_nodup hn,
    find?_of_nodup hn', hl.mem_iff]

theorem find?_reverse_key (f : α → κ) {l : List α} (hn : (l.map f).Nodup) (k : κ) :
    l.reverse.find? (fun a => f a = k) = l.find? (fun a => f a = k) :=
  (find?_key_perm f (List.reverse_perm l).symm hn k).symm

/-- Where the first row that satisfies `p` is the last one too, it is the only one. -/
theorem eq_of_find?_reverse {l : List α} (hn : l.Nodup) {p : α → Bool} {x : α}
    (hfirst : l.find? p = some x) (hlast : l.reverse.find? p = some x) :
    ∀ a ∈ l, p a = true → a = x := by
  obtain ⟨-, before, after, hl, hbefore⟩ := List.find?_eq_some_iff_append.1 hfirst
  obtain ⟨-, after', before', hl', hafter'⟩ := List.find?_eq_some_iff_append.1 hlast
  have hsplit : l = before'.reverse ++ x :: after'.reverse := by
    rw [← List.reverse_reverse l, hl']
    simp
  -- the row stands in one place only
  obtain ⟨-, htail, hdisj⟩ := List.nodup_append.1 (hl ▸ hn)
  have hbefore_x : x ∉ before := fun hx => hdisj x hx x List.mem_cons_self rfl
  have hafter_x : x ∉ after := (List.nodup_cons.1 htail).1
  have hone : after = after'.reverse :=
    ((List.append_cons_inj_of_notMem hbefore_x hafter_x).1 (hl.symm.trans hsplit)).2.2
  intro a ha hpa
  rw [hl] at ha
  rcases List.mem_append.1 ha with ha | ha
  · have hnot := hbefore a ha
    rw [hpa] at hnot
    cases hnot
  · rcases List.mem_cons.1 ha with rfl | ha
    · rfl
    · rw [hone, List.mem_reverse] at ha
      have hnot := hafter' a ha
      rw [hpa] at hnot
      cases hnot

end Lists

section Loops

variable [Keyed α κ] [DecidableEq κ]

/-- **THE ORDER OF A LOOP OF WRITES** over rows of pairwise different keys does not matter. -/
theorem find?_foldl_upsert_perm {l l' : List α} (hl : l.Perm l')
    (hn : (l.map Keyed.key).Nodup) {t t' : Table α} (ht : ∀ k, t.find? k = t'.find? k) (k : κ) :
    (l.foldl upsert t).find? k = (l'.foldl upsert t').find? k := by
  have hn' : (l'.map Keyed.key).Nodup := (hl.map _).nodup_iff.1 hn
  rw [find?_foldl_upsert, find?_foldl_upsert, ht]
  congr 1
  calc l.reverse.find? (hasKey k)
      = l.find? (hasKey k) := find?_reverse_key Keyed.key hn k
    _ = l'.find? (hasKey k) := find?_key_perm Keyed.key hl hn k
    _ = l'.reverse.find? (hasKey k) := (find?_reverse_key Keyed.key hn' k).symm

theorem find?_foldl_insertNew_perm {l l' : List α} (hl : l.Perm l')
    (hn : (l.map Keyed.key).Nodup) {t t' : Table α} (ht : ∀ k, t.find? k = t'.find? k) (k : κ) :
    (l.foldl insertNew t).find? k = (l'.foldl insertNew t').find? k := by
  rw [find?_foldl_insertNew, find?_foldl_insertNew, ht]
  exact congrArg _ (find?_key_perm Keyed.key hl hn k)

theorem perm_of_find?_eq {t t' : Table α} (h : ∀ k, t.find? k = t'.find? k) :
    t.rows.Perm t'.rows := by
  refine (List.perm_ext_iff_of_nodup t.nodup.of_map t'.nodup.of_map).2 fun r => ?_
  have hmem : ∀ t : Table α, r ∈ t.rows ↔ t.find? (Keyed.key r) = some r := by
    intro t
    rw [find?_eq_some]
    exact ⟨fun hr => ⟨hr, rfl⟩, fun hr => hr.1⟩
  rw [hmem, hmem, h]

theorem insertionSort_rows_eq {le : α → α → Prop} [DecidableRel le] [Std.Total le]
    [IsTrans α le] {t t' : Table α} (h : ∀ k, t.find? k = t'.find? k)
    (hanti : ∀ a b, le a b → le b a → Keyed.key a = Keyed.key b) :
    t.rows.insertionSort le = t'.rows.insertionSort le := by
  have hperm := perm_of_find?_eq h
  have hsorted := (List.perm_insertionSort le t.rows).trans
    (hperm.trans (List.perm_insertionSort le t'.rows).symm)
  refine List.Perm.eq_of_pairwise ?_ (List.pairwise_insertionSort le _)
    (List.pairwise_insertionSort le _) hsorted
  intro a b ha hb hab hba
  have ha : a ∈ t.rows := (List.perm_insertionSort le t.rows).mem_iff.1 ha
  have hb : b ∈ t'.rows := (List.perm_insertionSort le t'.rows).mem_iff.1 hb
  exact eq_of_key_eq ha (hperm.mem_iff.2 hb) (hanti a b hab hba)

end Loops
end Table
end Relational
