import AeroComply.Lib.Table

/-!
# Edits — a batch of writes to a table

A batch writes its rows one after the other, each over the row with its key or,
where there is none, at the end.  If the rows of the batch have different keys,
what the table holds afterwards does not depend on their order: the rows of the
batch, and the old rows with other keys.

A batch that deletes removes rows the table was read for beforehand.
-/

namespace Relational

variable {α κ : Type} [Keyed α κ] [DecidableEq κ]

namespace Table

variable {t : Table α} {r x : α}

theorem mem_iff_find? : x ∈ t.rows ↔ t.find? (Keyed.key x) = some x :=
  (find?_eq_some.trans (and_iff_left rfl)).symm

theorem mem_upsert : x ∈ (t.upsert r).rows ↔ x = r ∨ x ∈ t.rows ∧ Keyed.key x ≠ Keyed.key r := by
  rw [mem_iff_find?, find?_upsert]
  by_cases hkey : Keyed.key r = Keyed.key x
  · rw [if_pos hkey]
    constructor
    · intro h
      cases h
      exact Or.inl rfl
    · rintro (rfl | ⟨-, hne⟩)
      · rfl
      · exact absurd hkey.symm hne
  · rw [if_neg hkey, ← mem_iff_find?]
    constructor
    · exact fun h => Or.inr ⟨h, fun heq => hkey heq.symm⟩
    · rintro (rfl | ⟨h, -⟩)
      · exact absurd rfl hkey
      · exact h

theorem upsert_of_mem (hr : r ∈ t.rows) : t.upsert r = t := by
  rw [upsert, insert?_eq_none.2 ⟨r, hr, rfl⟩]
  exact save_self hr

theorem upsert_of_key {old : α} (ho : old ∈ t.rows) (hkey : Keyed.key old = Keyed.key r) :
    t.upsert r = t.save r := by
  rw [upsert, insert?_eq_none.2 ⟨old, ho, hkey⟩]
  rfl

theorem upsert_of_insert? {t' : Table α} (h : t.insert? r = some t') : t.upsert r = t' := by
  rw [upsert, h]
  rfl

/-- **A BATCH OF WRITES** with different keys: its rows, and the old rows with other keys. -/
theorem mem_foldl_upsert {rows : List α} (hkeys : (rows.map Keyed.key).Nodup) :
    ∀ {t : Table α}, x ∈ (rows.foldl upsert t).rows ↔
      x ∈ rows ∨ x ∈ t.rows ∧ Keyed.key x ∉ rows.map Keyed.key := by
  induction rows with
  | nil =>
    intro t
    exact ⟨fun h => Or.inr ⟨h, List.not_mem_nil⟩, fun h => (h.resolve_left List.not_mem_nil).1⟩
  | cons r rows ih =>
    intro t
    rw [List.map_cons, List.nodup_cons] at hkeys
    rw [List.foldl_cons, ih hkeys.2, mem_upsert, List.mem_cons, List.map_cons, List.mem_cons,
      not_or]
    constructor
    · rintro (h | ⟨rfl | ⟨h, hne⟩, hlater⟩)
      · exact Or.inl (Or.inr h)
      · exact Or.inl (Or.inl rfl)
      · exact Or.inr ⟨h, hne, hlater⟩
    · rintro ((rfl | h) | ⟨h, hne, hlater⟩)
      · exact Or.inr ⟨Or.inl rfl, hkeys.1⟩
      · exact Or.inl h
      · exact Or.inr ⟨Or.inr ⟨h, hne⟩, hlater⟩

theorem mem_foldl_deleteWhere {rows : List α} : ∀ {t : Table α},
    x ∈ (rows.foldl (fun t r => t.deleteWhere fun y => Keyed.key y = Keyed.key r) t).rows ↔
      x ∈ t.rows ∧ ∀ r ∈ rows, Keyed.key x ≠ Keyed.key r := by
  induction rows with
  | nil => exact fun {t} => (and_iff_left fun _ h => (nomatch h)).symm
  | cons r rows ih =>
    intro t
    have hrow : x ∈ (t.deleteWhere fun y => Keyed.key y = Keyed.key r).rows ↔
        x ∈ t.rows ∧ Keyed.key x ≠ Keyed.key r := by
      show x ∈ t.rows.filter _ ↔ _
      rw [List.mem_filter, Bool.not_eq_true', decide_eq_false_iff_not]
    rw [List.foldl_cons, ih, hrow, List.forall_mem_cons, and_assoc]

end Table
end Relational
