import AeroComply.Lib.Table

/-!
# Settled — rows of which something never changes again

A row is final from some moment on.  `Settles final kept t t'` says that what `kept` reads off the
final rows of `t` stands in `t'` as well: an insert settles everything, and a write settles
everything exactly when it leaves `kept` of a final row alone.
-/

namespace Relational

namespace Settled

variable {α κ β : Type} [Keyed α κ]

/-- The final rows are still there, with what is kept of them. -/
def Settles (final : α → Prop) (kept : α → β) (t t' : Table α) : Prop :=
  ∀ r ∈ t.rows, final r → ∃ r' ∈ t'.rows, Keyed.key r' = Keyed.key r ∧ kept r' = kept r

variable {final : α → Prop} {kept : α → β} {t t' t'' : Table α}

theorem settles_refl (final : α → Prop) (kept : α → β) (t : Table α) : Settles final kept t t :=
  fun r hr _ => ⟨r, hr, rfl, rfl⟩

theorem settles_trans (hfinal : ∀ r r', kept r' = kept r → final r → final r')
    (h : Settles final kept t t') (h' : Settles final kept t' t'') :
    Settles final kept t t'' := by
  intro r hr hr_final
  obtain ⟨r', hr', hkey, hkept⟩ := h r hr hr_final
  obtain ⟨r'', hr'', hkey', hkept'⟩ := h' r' hr' (hfinal r r' hkept hr_final)
  exact ⟨r'', hr'', hkey'.trans hkey, hkept'.trans hkept⟩

variable [DecidableEq κ]

theorem settles_insert? {r : α} (h : t.insert? r = some t') : Settles final kept t t' :=
  fun x hx _ => ⟨x, (Table.mem_insert? h).2 (Or.inl hx), rfl, rfl⟩

/-- **ONE WRITE**: it settles the table exactly when it keeps what is kept of a final row. -/
theorem settles_save_iff {r old : α} (hold : old ∈ t.rows) (hkey : Keyed.key old = Keyed.key r) :
    Settles final kept t (t.save r) ↔ (final old → kept r = kept old) := by
  constructor
  · intro h hfinal
    obtain ⟨r', hr', hkey', hkept⟩ := h old hold hfinal
    rcases (Table.mem_save_of_mem hold hkey).1 hr' with ⟨_, hne⟩ | rfl
    · exact absurd (hkey'.trans hkey) hne
    · exact hkept
  · intro h x hx hfinal
    rcases Table.kept_or_replaced hold hkey hx with hmem | ⟨rfl, hmem⟩
    · exact ⟨x, hmem, rfl, rfl⟩
    · exact ⟨r, hmem, hkey.symm, h hfinal⟩

end Settled
end Relational
