import Mathlib.Data.List.Nodup

/-!
# Relational — tables keyed by a primary key

A table is the list of its rows in insertion order, carrying the proof that no
two rows share a key.  The four writes of a relational store (insert, save,
delete, and the empty table) keep that proof, so a table with a duplicate key
cannot be built, and every reader may use that a key names at most one row.

Row order is part of the value: `insert?` appends, `save` writes in place, and
`delete` keeps the order of what remains.
-/

namespace Relational

/-- A row type with a primary key. -/
class Keyed (α : Type) (κ : outParam Type) where
  key : α → κ

/-- The rows of a table, no two of them with the same key. -/
structure Table (α : Type) {κ : Type} [Keyed α κ] where
  rows : List α
  nodup : (rows.map Keyed.key).Nodup

namespace Table

variable {α κ : Type} [Keyed α κ]

/-- The table of one row. -/
def single (a : α) : Table α := ⟨[a], List.nodup_singleton _⟩

/-- The table without rows. -/
def empty : Table α := ⟨[], List.nodup_nil⟩

instance : Inhabited (Table α) := ⟨empty⟩

@[ext] theorem ext {t t' : Table α} (h : t.rows = t'.rows) : t = t' := by
  cases t
  cases t'
  cases h
  rfl

instance [DecidableEq α] : DecidableEq (Table α) := fun t t' =>
  decidable_of_iff (t.rows = t'.rows) ⟨ext, fun h => h ▸ rfl⟩

/-- The rows that satisfy `p`, in table order. -/
def select (t : Table α) (p : α → Bool) : List α := t.rows.filter p

variable {t : Table α} {p : α → Bool} {r : α} {f : α → α} {k : κ}

theorem mem_select :
    r ∈ t.select p ↔ r ∈ t.rows ∧ p r = true := List.mem_filter

theorem eq_of_key_eq {r r' : α} (h : r ∈ t.rows) (h' : r' ∈ t.rows)
    (hk : Keyed.key r = Keyed.key r') : r = r' :=
  List.inj_on_of_nodup_map t.nodup h h' hk

theorem select_eq_singleton (hr : r ∈ t.rows) (hp : p r = true)
    (honly : ∀ x ∈ t.rows, p x = true → x = r) : t.select p = [r] := by
  have hnodup : (t.select p).Nodup := (List.Nodup.of_map _ t.nodup).filter _
  refine List.perm_singleton.1 ((List.perm_ext_iff_of_nodup hnodup (List.nodup_singleton r)).2 ?_)
  intro x
  rw [mem_select, List.mem_singleton]
  constructor
  · rintro ⟨hx, hpx⟩
    exact honly x hx hpx
  · rintro rfl
    exact ⟨hr, hp⟩

variable {rows : List α} {l : List α} {x : α}

theorem select_appended {t t' : Table α} (h : t'.rows = t.rows ++ rows)
    (hp : ∀ r ∈ rows, p r = true) (hnone : ∀ x ∈ t.rows, ¬p x = true) : t'.select p = rows := by
  rw [select, h, List.filter_append, List.filter_eq_nil_iff.2 hnone, List.nil_append]
  exact List.filter_eq_self.2 hp

theorem select_added {t t' : Table α} (h : t'.rows = t.rows ++ [r]) (hp : p r = true)
    (hnone : ∀ x ∈ t.rows, ¬p x = true) : t'.select p = [r] := by
  refine select_appended h (fun x hx => ?_) hnone
  rw [List.mem_singleton.1 hx]
  exact hp

theorem select_of_rows_map {t t' : Table α} (h : t'.rows = t.rows.map f) (hp : ∀ r, p (f r) = p r) :
    t'.select p = (t.select p).map f := by
  show t'.rows.filter p = (t.rows.filter p).map f
  rw [h, List.filter_map]
  congr 1
  exact List.filter_congr fun r _ => hp r

/-- Delete every row that satisfies `p`. -/
def deleteWhere (t : Table α) (p : α → Bool) : Table α where
  rows := t.rows.filter (fun r => !p r)
  nodup := t.nodup.sublist (List.filter_sublist.map _)

theorem select_deleteWhere {p q : α → Bool} :
    (t.deleteWhere q).select p = (t.select p).filter (fun r => !q r) := by
  show (t.rows.filter (fun r => !q r)).filter p = (t.rows.filter p).filter (fun r => !q r)
  rw [List.filter_filter, List.filter_filter]
  apply List.filter_congr
  intro r _
  exact Bool.and_comm _ _

theorem length_select_eq_one :
    (t.select p).length = 1 ↔ ∃! k, ∃ r ∈ t.rows, p r = true ∧ Keyed.key r = k := by
  constructor
  · intro h
    obtain ⟨r, hr⟩ := List.length_eq_one_iff.1 h
    have hmem : r ∈ t.rows ∧ p r = true := by
      rw [← mem_select, hr]
      exact List.mem_singleton_self r
    refine ⟨Keyed.key r, ⟨r, hmem.1, hmem.2, rfl⟩, ?_⟩
    rintro k ⟨r', hr', hp', rfl⟩
    have hfound : r' ∈ t.select p := mem_select.2 ⟨hr', hp'⟩
    rw [hr, List.mem_singleton] at hfound
    rw [hfound]
  · rintro ⟨k, ⟨r, hr, hp, rfl⟩, honly⟩
    have hone : t.select p = [r] := select_eq_singleton hr hp fun x hx hpx =>
      eq_of_key_eq hx hr (honly _ ⟨x, hx, hpx, rfl⟩)
    rw [hone]
    rfl

theorem any_deleteWhere {p q : α → Bool} :
    (t.deleteWhere q).rows.any p = t.rows.any fun r => !q r && p r := by
  show (t.rows.filter fun r => !q r).any p = _
  rw [List.any_filter]

variable [DecidableEq κ]

/-- The row has key `k`. -/
def hasKey (k : κ) (r : α) : Bool := decide (Keyed.key r = k)

@[simp] theorem hasKey_eq_true : hasKey k r = true ↔ Keyed.key r = k :=
  decide_eq_true_iff

/-- The row with key `k`, if there is one. -/
def find? (t : Table α) (k : κ) : Option α :=
  t.rows.find? (hasKey k)

theorem find?_of_nodup (hn : (l.map Keyed.key).Nodup) :
    l.find? (hasKey k) = some r ↔ r ∈ l ∧ Keyed.key r = k := by
  constructor
  · intro h
    exact ⟨List.mem_of_find?_eq_some h, hasKey_eq_true.1 (List.find?_some h)⟩
  · rintro ⟨hr, hk⟩
    cases hf : l.find? (hasKey k) with
    | none =>
      have hne := List.find?_eq_none.1 hf r hr
      exact absurd (hasKey_eq_true.2 hk) hne
    | some r' =>
      have hk' : Keyed.key r' = k := hasKey_eq_true.1 (List.find?_some hf)
      have heq : r = r' :=
        List.inj_on_of_nodup_map hn hr (List.mem_of_find?_eq_some hf) (hk.trans hk'.symm)
      rw [heq]

theorem find?_eq_some :
    t.find? k = some r ↔ r ∈ t.rows ∧ Keyed.key r = k := find?_of_nodup t.nodup

theorem find?_perm (hl : l.Perm t.rows) (k : κ) :
    l.find? (hasKey k) = t.find? k := by
  have hn : (l.map Keyed.key).Nodup := (hl.map _).nodup_iff.2 t.nodup
  ext r
  rw [find?_of_nodup hn, find?_eq_some, hl.mem_iff]

/-- Append `r`, unless its key is taken. -/
def insert? (t : Table α) (r : α) : Option (Table α) :=
  if h : Keyed.key r ∈ t.rows.map Keyed.key then none
  else some
    { rows := t.rows ++ [r]
      nodup := by
        rw [List.map_append, List.map_singleton]
        exact List.Nodup.append t.nodup (List.nodup_singleton _)
          (List.disjoint_singleton.2 h) }

theorem insert?_eq_some {t t' : Table α} (h : t.insert? r = some t') :
    Keyed.key r ∉ t.rows.map Keyed.key ∧ t'.rows = t.rows ++ [r] := by
  rw [insert?] at h
  split at h
  · cases h
  · next hk =>
    cases h
    exact ⟨hk, rfl⟩

theorem mem_insert? {t t' : Table α} {r x : α} (h : t.insert? r = some t') :
    x ∈ t'.rows ↔ x ∈ t.rows ∨ x = r := by
  rw [(insert?_eq_some h).2, List.mem_append, List.mem_singleton]

/-- Write `r` over the row with its key; no row is added or moved. -/
def save (t : Table α) (r : α) : Table α where
  rows := t.rows.map (fun x => if Keyed.key x = Keyed.key r then r else x)
  nodup := by
    have hk : (t.rows.map (fun x => if Keyed.key x = Keyed.key r then r else x)).map Keyed.key
        = t.rows.map Keyed.key := by
      rw [List.map_map]
      apply List.map_congr_left
      intro x _
      by_cases hx : Keyed.key x = Keyed.key r
      · simp [hx]
      · simp [hx]
    rw [hk]
    exact t.nodup

theorem rows_save_of_rows_map {t t' : Table α} (h : t'.rows = t.rows.map f)
    (hf : ∀ x, Keyed.key (f x) = Keyed.key x) (r : α) :
    (t'.save r).rows = t.rows.map fun x => if Keyed.key x = Keyed.key r then r else f x := by
  show t'.rows.map _ = _
  rw [h, List.map_map]
  refine List.map_congr_left ?_
  intro x _
  rw [Function.comp_apply, hf]

theorem map_save {β : Type} {f : α → β} (h : ∀ x ∈ t.rows, Keyed.key x = Keyed.key r → f x = f r) :
    (t.save r).rows.map f = t.rows.map f := by
  show (t.rows.map _).map f = _
  rw [List.map_map]
  refine List.map_congr_left ?_
  intro x hx
  show f (if Keyed.key x = Keyed.key r then r else x) = f x
  split
  · next hk => exact (h x hx hk).symm
  · rfl

theorem mem_save {r x : α} :
    x ∈ (t.save r).rows ↔
      (x ∈ t.rows ∧ Keyed.key x ≠ Keyed.key r) ∨
      (x = r ∧ ∃ y ∈ t.rows, Keyed.key y = Keyed.key r) := by
  show x ∈ t.rows.map _ ↔ _
  rw [List.mem_map]
  constructor
  · rintro ⟨y, hy, rfl⟩
    by_cases hk : Keyed.key y = Keyed.key r
    · rw [if_pos hk]
      exact Or.inr ⟨rfl, y, hy, hk⟩
    · rw [if_neg hk]
      exact Or.inl ⟨hy, hk⟩
  · rintro (⟨hx, hk⟩ | ⟨rfl, y, hy, hk⟩)
    · exact ⟨x, hx, if_neg hk⟩
    · exact ⟨y, hy, if_pos hk⟩

theorem mem_save_of_mem {r old x : α} (ho : old ∈ t.rows) (hk : Keyed.key old = Keyed.key r) :
    x ∈ (t.save r).rows ↔ (x ∈ t.rows ∧ Keyed.key x ≠ Keyed.key r) ∨ x = r := by
  rw [mem_save]
  constructor
  · rintro (h | ⟨h, -⟩)
    · exact Or.inl h
    · exact Or.inr h
  · rintro (h | h)
    · exact Or.inl h
    · exact Or.inr ⟨h, old, ho, hk⟩

theorem kept_or_replaced {r old x : α} (ho : old ∈ t.rows) (hk : Keyed.key old = Keyed.key r)
    (hx : x ∈ t.rows) :
    x ∈ (t.save r).rows ∨ (x = old ∧ r ∈ (t.save r).rows) := by
  by_cases hkey : Keyed.key x = Keyed.key r
  · exact Or.inr ⟨eq_of_key_eq hx ho (hkey.trans hk.symm), (mem_save_of_mem ho hk).2 (Or.inr rfl)⟩
  · exact Or.inl ((mem_save_of_mem ho hk).2 (Or.inl ⟨hx, hkey⟩))

theorem eq_or_replaced {r old x x' : α} (hx' : x' ∈ (t.save r).rows) (ho : old ∈ t.rows)
    (hk : Keyed.key old = Keyed.key r) (hx : x ∈ t.rows) (hkey : Keyed.key x' = Keyed.key x) :
    x' = x ∨ (x' = r ∧ x = old) := by
  rcases mem_save.1 hx' with ⟨hmem, _⟩ | ⟨rfl, _⟩
  · exact Or.inl (eq_of_key_eq hmem hx hkey)
  · exact Or.inr ⟨rfl, eq_of_key_eq hx ho (hkey.symm.trans hk.symm)⟩

/-- `UPDATE … WHERE p`: rewrite the rows that satisfy `p`, keeping their keys. -/
def updateWhere (t : Table α) (p : α → Bool) (f : α → α)
    (hf : ∀ x, Keyed.key (f x) = Keyed.key x) : Table α where
  rows := t.rows.map (fun x => if p x then f x else x)
  nodup := by
    have hk : (t.rows.map (fun x => if p x then f x else x)).map Keyed.key
        = t.rows.map Keyed.key := by
      rw [List.map_map]
      apply List.map_congr_left
      intro x _
      by_cases hx : p x = true
      · simp [hx, hf]
      · simp [hx]
    rw [hk]
    exact t.nodup

omit [DecidableEq κ] in
theorem mem_updateWhere {hf : ∀ x, Keyed.key (f x) = Keyed.key x} :
    x ∈ (t.updateWhere p f hf).rows ↔ ∃ y ∈ t.rows, (if p y then f y else y) = x := List.mem_map

omit [DecidableEq κ] in
theorem select_updateWhere_other {p q : α → Bool} {hf : ∀ x, Keyed.key (f x) = Keyed.key x}
    (h : ∀ x ∈ t.rows, p x = true → q x = false ∧ q (f x) = false) :
    (t.updateWhere p f hf).select q = t.select q := by
  show (t.rows.map (fun x => if p x then f x else x)).filter q = t.rows.filter q
  revert h
  generalize t.rows = rows
  intro h
  induction rows with
  | nil => rfl
  | cons x rows ih =>
    have hrest := ih fun y hy => h y (List.mem_cons_of_mem _ hy)
    rw [List.map_cons]
    by_cases hp : p x = true
    · obtain ⟨hout, hout'⟩ := h x List.mem_cons_self hp
      rw [if_pos hp, List.filter_cons_of_neg (Bool.eq_false_iff.1 hout'),
        List.filter_cons_of_neg (Bool.eq_false_iff.1 hout), hrest]
    · rw [if_neg hp, List.filter_cons, List.filter_cons, hrest]

omit [DecidableEq κ] in
theorem forall_updateWhere (hf : ∀ x, Keyed.key (f x) = Keyed.key x) {P : α → Prop}
    (h : ∀ x ∈ t.rows, P x) (hstep : ∀ x, P x → P (f x)) :
    ∀ x ∈ (t.updateWhere p f hf).rows, P x := by
  intro x hx
  obtain ⟨y, hy, rfl⟩ := mem_updateWhere.1 hx
  split
  · exact hstep y (h y hy)
  · exact h y hy

theorem save_self (hr : r ∈ t.rows) : t.save r = t := by
  have hid : ∀ x ∈ t.rows, (if Keyed.key x = Keyed.key r then r else x) = id x := by
    intro x hx
    by_cases hk : Keyed.key x = Keyed.key r
    · rw [if_pos hk]
      exact (eq_of_key_eq hx hr hk).symm
    · exact if_neg hk
  ext1
  show t.rows.map (fun x => if Keyed.key x = Keyed.key r then r else x) = t.rows
  rw [List.map_congr_left hid, List.map_id]

/-- A relation between earlier and later rows survives a write, if the new value relates
to the other rows as the value it replaces did. -/
theorem pairwise_save {R : α → α → Prop} (h : t.rows.Pairwise R)
    (hleft : ∀ x ∈ t.rows, Keyed.key x = Keyed.key r → ∀ y, R x y → R r y)
    (hright : ∀ y ∈ t.rows, Keyed.key y = Keyed.key r → ∀ x, R x y → R x r) :
    (t.save r).rows.Pairwise R := by
  show (t.rows.map (fun x => if Keyed.key x = Keyed.key r then r else x)).Pairwise R
  rw [List.pairwise_map]
  refine h.imp_of_mem ?_
  intro x y hx hy hxy
  have hstep : R (if Keyed.key x = Keyed.key r then r else x) y := by
    by_cases hk : Keyed.key x = Keyed.key r
    · rw [if_pos hk]
      exact hleft x hx hk y hxy
    · rw [if_neg hk]
      exact hxy
  by_cases hk : Keyed.key y = Keyed.key r
  · rw [if_pos hk]
    exact hright y hy hk _ hstep
  · rw [if_neg hk]
    exact hstep

/-! ## Queries after a write -/

theorem select_insert? {t t' : Table α} (h : t.insert? r = some t') (p : α → Bool) :
    t'.select p = t.select p ++ [r].filter p := by
  show t'.rows.filter p = t.rows.filter p ++ [r].filter p
  rw [(insert?_eq_some h).2, List.filter_append]

/-- A write that keeps the row's place in a query rewrites the query's answer. -/
theorem select_save (hp : ∀ x ∈ t.rows, Keyed.key x = Keyed.key r → p x = p r) :
    (t.save r).select p
      = (t.select p).map (fun x => if Keyed.key x = Keyed.key r then r else x) := by
  show (t.rows.map (fun x => if Keyed.key x = Keyed.key r then r else x)).filter p
    = (t.rows.filter p).map (fun x => if Keyed.key x = Keyed.key r then r else x)
  rw [List.filter_map]
  congr 1
  apply List.filter_congr
  intro x hx
  show p (if Keyed.key x = Keyed.key r then r else x) = p x
  by_cases hk : Keyed.key x = Keyed.key r
  · rw [if_pos hk]
    exact (hp x hx hk).symm
  · rw [if_neg hk]

theorem select_save_of_not (hr : p r = false)
    (hp : ∀ x ∈ t.rows, Keyed.key x = Keyed.key r → p x = false) :
    (t.save r).select p = t.select p := by
  rw [select_save (fun x hx hk => (hp x hx hk).trans hr.symm)]
  have hid : ∀ x ∈ t.select p, (if Keyed.key x = Keyed.key r then r else x) = id x := by
    intro x hx
    obtain ⟨hmem, hpx⟩ := mem_select.1 hx
    have hk : ¬Keyed.key x = Keyed.key r := by
      intro hk
      rw [hp x hmem hk] at hpx
      cases hpx
    exact if_neg hk
  rw [List.map_congr_left hid, List.map_id]

/-- A write counts for a query what the new value adds, less what the old one did. -/
theorem length_select_save {r old : α} (ho : old ∈ t.rows) (hk : Keyed.key old = Keyed.key r)
    (p : α → Bool) :
    ((t.save r).select p).length + (if p old then 1 else 0)
      = (t.select p).length + (if p r then 1 else 0) := by
  -- the row stands somewhere, and its key nowhere else
  obtain ⟨before, after, hrows⟩ := List.append_of_mem ho
  have hother : ∀ x ∈ before ++ after, Keyed.key x ≠ Keyed.key r := by
    intro x hx hkx
    have hnodup := t.nodup
    rw [hrows, List.map_append, List.map_cons] at hnodup
    have hout := (List.nodup_middle.1 hnodup).notMem
    rw [← List.map_append] at hout
    exact hout (List.mem_map.2 ⟨x, hx, hkx.trans hk.symm⟩)
  have hkeep : ∀ l : List α, (∀ x ∈ l, x ∈ before ++ after) →
      l.map (fun x => if Keyed.key x = Keyed.key r then r else x) = l := by
    intro l hl
    rw [List.map_congr_left fun x hx => if_neg (hother x (hl x hx)), List.map_id']
  have hsave : (t.save r).rows = before ++ r :: after := by
    show t.rows.map _ = _
    rw [hrows, List.map_append, List.map_cons, if_pos hk,
      hkeep before fun _ hx => List.mem_append_left _ hx,
      hkeep after fun _ hx => List.mem_append_right _ hx]
  rw [select, select, hsave, hrows, ← List.countP_eq_length_filter,
    ← List.countP_eq_length_filter, List.countP_append, List.countP_append, List.countP_cons,
    List.countP_cons]
  omega

/-! ## Tables as dictionaries -/

/-- `d[key] = value`: write in place, or append a new key. -/
def upsert (t : Table α) (r : α) : Table α := (t.insert? r).getD (t.save r)

/-- `if key not in d: d[key] = value`. -/
def insertNew (t : Table α) (r : α) : Table α := (t.insert? r).getD t

theorem insert?_eq_none :
    t.insert? r = none ↔ ∃ y ∈ t.rows, Keyed.key y = Keyed.key r := by
  rw [insert?]
  by_cases h : Keyed.key r ∈ t.rows.map Keyed.key
  · rw [dif_pos h]
    exact ⟨fun _ => List.mem_map.1 h, fun _ => rfl⟩
  · rw [dif_neg h]
    exact ⟨fun hn => (nomatch hn), fun hy => absurd (List.mem_map.2 hy) h⟩

theorem find?_eq_none :
    t.find? k = none ↔ ∀ y ∈ t.rows, Keyed.key y ≠ k := by
  rw [find?]
  rw [List.find?_eq_none]
  exact ⟨fun h y hy hk => h y hy (hasKey_eq_true.2 hk),
    fun h y hy hd => h y hy (hasKey_eq_true.1 hd)⟩

theorem find?_insert? {t t' : Table α} (h : t.insert? r = some t') (k : κ) :
    t'.find? k = if Keyed.key r = k then some r else t.find? k := by
  obtain ⟨hfresh, hrows⟩ := insert?_eq_some h
  ext x
  rw [find?_eq_some, mem_insert? h]
  by_cases hk : Keyed.key r = k
  · rw [if_pos hk]
    constructor
    · rintro ⟨hx | rfl, hxk⟩
      · exact absurd (List.mem_map.2 ⟨x, hx, hxk.trans hk.symm⟩) hfresh
      · rfl
    · intro hx
      cases hx
      exact ⟨Or.inr rfl, hk⟩
  · rw [if_neg hk, find?_eq_some]
    constructor
    · rintro ⟨hx | rfl, hxk⟩
      · exact ⟨hx, hxk⟩
      · exact absurd hxk hk
    · rintro ⟨hx, hxk⟩
      exact ⟨Or.inl hx, hxk⟩

theorem find?_save {r old : α} (ho : old ∈ t.rows) (hold : Keyed.key old = Keyed.key r) (k : κ) :
    (t.save r).find? k = if Keyed.key r = k then some r else t.find? k := by
  ext x
  rw [find?_eq_some, mem_save_of_mem ho hold]
  by_cases hk : Keyed.key r = k
  · rw [if_pos hk]
    constructor
    · rintro ⟨⟨_, hne⟩ | rfl, hxk⟩
      · exact absurd (hxk.trans hk.symm) hne
      · rfl
    · intro hx
      cases hx
      exact ⟨Or.inr rfl, hk⟩
  · rw [if_neg hk, find?_eq_some]
    constructor
    · rintro ⟨⟨hx, _⟩ | rfl, hxk⟩
      · exact ⟨hx, hxk⟩
      · exact absurd hxk hk
    · rintro ⟨hx, hxk⟩
      exact ⟨Or.inl ⟨hx, fun hxr => hk (hxr.symm.trans hxk)⟩, hxk⟩

theorem find?_updateWhere_hasKey (t : Table α) (k₀ : κ) (f : α → α)
    (hf : ∀ x, Keyed.key (f x) = Keyed.key x) (k : κ) :
    (t.updateWhere (hasKey k₀) f hf).find? k
      = if k₀ = k then (t.find? k).map f else t.find? k := by
  ext x
  rw [find?_eq_some, mem_updateWhere]
  by_cases hk : k₀ = k
  · subst hk
    rw [if_pos rfl, Option.map_eq_some_iff]
    constructor
    · rintro ⟨⟨y, hy, rfl⟩, hkey⟩
      by_cases hyk : Keyed.key y = k₀
      · rw [if_pos (hasKey_eq_true.2 hyk)]
        exact ⟨y, find?_eq_some.2 ⟨hy, hyk⟩, rfl⟩
      · rw [if_neg (fun h => hyk (hasKey_eq_true.1 h))] at hkey
        exact absurd hkey hyk
    · rintro ⟨y, hy, rfl⟩
      obtain ⟨hy, hyk⟩ := find?_eq_some.1 hy
      exact ⟨⟨y, hy, if_pos (hasKey_eq_true.2 hyk)⟩, (hf y).trans hyk⟩
  · rw [if_neg hk, find?_eq_some]
    constructor
    · rintro ⟨⟨y, hy, rfl⟩, hkey⟩
      by_cases hyk : Keyed.key y = k₀
      · rw [if_pos (hasKey_eq_true.2 hyk), hf] at hkey
        exact absurd (hyk.symm.trans hkey) hk
      · rw [if_neg (fun h => hyk (hasKey_eq_true.1 h))] at hkey ⊢
        exact ⟨hy, hkey⟩
    · rintro ⟨hx, hkey⟩
      exact ⟨⟨x, hx, if_neg fun h => hk ((hasKey_eq_true.1 h).symm.trans hkey)⟩, hkey⟩

theorem updateWhere_hasKey {hf : ∀ x, Keyed.key (f x) = Keyed.key x} {old : α}
    (h : t.find? k = some old) :
    t.updateWhere (hasKey k) f hf = t.save (f old) := by
  obtain ⟨ho, rfl⟩ := find?_eq_some.1 h
  ext1
  refine List.map_congr_left ?_
  intro x hx
  by_cases hk : Keyed.key x = Keyed.key old
  · rw [if_pos (hasKey_eq_true.2 hk), if_pos (hk.trans (hf old).symm), eq_of_key_eq hx ho hk]
  · rw [if_neg (fun h => hk (hasKey_eq_true.1 h)), if_neg fun h => hk (h.trans (hf old))]

theorem find?_upsert (t : Table α) (r : α) (k : κ) :
    (t.upsert r).find? k = if Keyed.key r = k then some r else t.find? k := by
  rw [upsert]
  cases h : t.insert? r with
  | some t' => exact find?_insert? h k
  | none =>
    obtain ⟨old, ho, hold⟩ := insert?_eq_none.1 h
    exact find?_save ho hold k

theorem find?_deleteWhere (t : Table α) (p : α → Bool) (k : κ) :
    (t.deleteWhere p).find? k = (t.find? k).filter fun r => !p r := by
  ext r
  rw [find?_eq_some, Option.mem_def.symm, Option.mem_filter_iff, Option.mem_def, find?_eq_some]
  show r ∈ t.rows.filter (fun r => !p r) ∧ _ ↔ _
  rw [List.mem_filter]
  exact and_right_comm

theorem rows_upsert_of_fresh (h : ∀ x ∈ t.rows, Keyed.key x ≠ Keyed.key r) :
    (t.upsert r).rows = t.rows ++ [r] := by
  rw [upsert]
  cases hinsert : t.insert? r with
  | some t' => exact (insert?_eq_some hinsert).2
  | none =>
    obtain ⟨x, hx, hkey⟩ := insert?_eq_none.1 hinsert
    exact absurd hkey (h x hx)

theorem find?_insertNew (t : Table α) (r : α) (k : κ) :
    (t.insertNew r).find? k = (t.find? k).or (if Keyed.key r = k then some r else none) := by
  rw [insertNew]
  cases h : t.insert? r with
  | some t' =>
    show t'.find? k = _
    rw [find?_insert? h]
    by_cases hk : Keyed.key r = k
    · have hnone : t.find? k = none := by
        rw [find?_eq_none]
        intro y hy hyk
        exact (insert?_eq_some h).1 (List.mem_map.2 ⟨y, hy, hyk.trans hk.symm⟩)
      rw [if_pos hk, hnone]
      exact (if_pos hk).symm
    · rw [if_neg hk, if_neg hk]
      exact (Option.or_none).symm
  | none =>
    show t.find? k = _
    by_cases hk : Keyed.key r = k
    · obtain ⟨y, hy, hyk⟩ := insert?_eq_none.1 h
      rw [find?_eq_some.2 ⟨hy, hyk.trans hk⟩]
      rfl
    · rw [if_neg hk]
      exact (Option.or_none).symm

theorem find?_foldl_upsert (rows : List α) (k : κ) :
    ∀ t : Table α, (rows.foldl upsert t).find? k
      = (rows.reverse.find? (hasKey k)).or (t.find? k) := by
  induction rows with
  | nil => exact fun _ => rfl
  | cons r rows ih =>
    intro t
    rw [List.foldl_cons, ih, find?_upsert, List.reverse_cons, List.find?_append]
    by_cases hk : Keyed.key r = k
    · rw [if_pos hk, List.find?_cons_of_pos (hasKey_eq_true.2 hk), Option.or_assoc]
      rfl
    · rw [if_neg hk, List.find?_cons_of_neg (fun h => hk (hasKey_eq_true.1 h)), Option.or_assoc]
      rfl

/-- What a loop of writes leaves was written, or was there. -/
theorem mem_of_mem_foldl_upsert (h : x ∈ (rows.foldl upsert t).rows) :
    x ∈ rows ∨ x ∈ t.rows := by
  have hfound : (rows.foldl upsert t).find? (Keyed.key x) = some x := find?_eq_some.2 ⟨h, rfl⟩
  rw [find?_foldl_upsert, Option.or_eq_some_iff] at hfound
  rcases hfound with hwritten | ⟨-, hthere⟩
  · exact Or.inl (List.mem_reverse.1 (List.mem_of_find?_eq_some hwritten))
  · exact Or.inr (find?_eq_some.1 hthere).1

theorem find?_foldl_insertNew (rows : List α) (k : κ) :
    ∀ t : Table α, (rows.foldl insertNew t).find? k
      = (t.find? k).or (rows.find? (hasKey k)) := by
  induction rows with
  | nil => exact fun _ => Option.or_none.symm
  | cons r rows ih =>
    intro t
    rw [List.foldl_cons, ih, find?_insertNew, Option.or_assoc]
    by_cases hk : Keyed.key r = k
    · rw [if_pos hk, List.find?_cons_of_pos (hasKey_eq_true.2 hk)]
      rfl
    · rw [if_neg hk, List.find?_cons_of_neg (fun h => hk (hasKey_eq_true.1 h))]
      rfl

end Table
end Relational
