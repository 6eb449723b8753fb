import Mathlib.Data.List.Induction
import Mathlib.Data.List.Nodup

/-!
# Latest — one row for each key, the latest one

A dictionary from keys to rows, filled in one pass: a row is noted if its key is new or if it is later
than the row noted under its key.  The dictionary is the list of its values in the order of their
keys' first rows.

`foldl_note_spec`: after the pass every key has one row, a row of the pass, and no row of that key is
later.  Of rows that come at the same time the first is kept.
-/

namespace Latest

variable {α κ : Type} (key : α → κ) (later : α → α → Bool)

/-- One row further. -/
def note [DecidableEq κ] (latest : List α) (a : α) : List α :=
  match latest.find? (fun current => key current = key a) with
  | none => latest ++ [a]
  | some current =>
    if later a current then latest.map (fun x => if key x = key a then a else x) else latest

/-- What the dictionary `latest` says of the rows seen so far. -/
structure Notes (rows latest : List α) : Prop where
  nodup : (latest.map key).Nodup
  mem : ∀ x ∈ latest, x ∈ rows
  exists_key : ∀ a ∈ rows, ∃ x ∈ latest, key x = key a
  not_later : ∀ a ∈ rows, ∀ x ∈ latest, key x = key a → later a x = false

variable {key later}

theorem Notes.eq_of_key {rows latest : List α} (h : Notes key later rows latest) {x y : α}
    (hx : x ∈ latest) (hy : y ∈ latest) (hkey : key x = key y) : x = y :=
  List.inj_on_of_nodup_map h.nodup hx hy hkey

theorem Notes.nil : Notes key later [] [] := by
  refine ⟨List.nodup_nil, fun x hx => ?_, fun a ha => ?_, fun a ha => ?_⟩
  · cases hx
  · cases ha
  · cases ha

variable {rows : List α} {a : α}

theorem Notes.append {rows latest : List α} (hirrefl : ∀ a, later a a = false)
    (h : Notes key later rows latest) (hnew : ∀ x ∈ latest, key x ≠ key a) :
    Notes key later (rows ++ [a]) (latest ++ [a]) := by
  refine ⟨?_, fun x hx => ?_, fun b hb => ?_, fun b hb x hx hkey => ?_⟩
  · rw [List.map_append, List.nodup_append]
    refine ⟨h.nodup, List.nodup_singleton _, ?_⟩
    rintro _ hk _ hk' rfl
    obtain ⟨x, hx, hxa⟩ := List.mem_map.1 hk
    rw [List.map_singleton, List.mem_singleton] at hk'
    exact hnew x hx (hxa.trans hk')
  · rcases List.mem_append.1 hx with hx | hx
    · exact List.mem_append_left _ (h.mem x hx)
    · exact List.mem_append_right _ hx
  · rcases List.mem_append.1 hb with hb | hb
    · obtain ⟨x, hx, hkey⟩ := h.exists_key b hb
      exact ⟨x, List.mem_append_left _ hx, hkey⟩
    · exact ⟨b, List.mem_append_right _ hb, rfl⟩
  · rcases List.mem_append.1 hb with hb | hb
    · rcases List.mem_append.1 hx with hx | hx
      · exact h.not_later b hb x hx hkey
      · obtain ⟨y, hy, hyb⟩ := h.exists_key b hb
        rw [List.mem_singleton.1 hx] at hkey
        exact absurd (hyb.trans hkey.symm) (hnew y hy)
    · rw [List.mem_singleton.1 hb] at hkey ⊢
      rcases List.mem_append.1 hx with hx | hx
      · exact absurd hkey (hnew x hx)
      · rw [List.mem_singleton.1 hx]
        exact hirrefl a

theorem Notes.replace [DecidableEq κ] {rows latest : List α} (hirrefl : ∀ a, later a a = false)
    (htrans : ∀ a b c, later a b = true → later b c = true → later a c = true)
    (h : Notes key later rows latest) {a current : α} (hcurrent : current ∈ latest)
    (hkey : key current = key a) (hlater : later a current = true) :
    Notes key later (rows ++ [a]) (latest.map fun x => if key x = key a then a else x) := by
  have hkeys : ∀ x, key (if key x = key a then a else x) = key x := by
    intro x
    split
    · next hx => exact hx.symm
    · rfl
  refine ⟨?_, fun y hy => ?_, fun b hb => ?_, fun b hb y hy hyb => ?_⟩
  · have hmap : (latest.map fun x => if key x = key a then a else x).map key = latest.map key := by
      rw [List.map_map]
      exact List.map_congr_left fun x _ => hkeys x
    rw [hmap]
    exact h.nodup
  · obtain ⟨x, hx, rfl⟩ := List.mem_map.1 hy
    split
    · exact List.mem_append_right _ (List.mem_singleton_self a)
    · exact List.mem_append_left _ (h.mem x hx)
  · have hold : ∃ x ∈ latest, key x = key b := by
      rcases List.mem_append.1 hb with hb | hb
      · exact h.exists_key b hb
      · rw [List.mem_singleton.1 hb]
        exact ⟨current, hcurrent, hkey⟩
    obtain ⟨x, hx, hxb⟩ := hold
    exact ⟨_, List.mem_map_of_mem hx, (hkeys x).trans hxb⟩
  · obtain ⟨x, hx, rfl⟩ := List.mem_map.1 hy
    rw [hkeys] at hyb
    split
    · next hxa =>
      rcases List.mem_append.1 hb with hb | hb
      · have heq := h.eq_of_key hx hcurrent (hxa.trans hkey.symm)
        have hold := h.not_later b hb x hx hyb
        refine Bool.eq_false_iff.2 fun hba => ?_
        rw [heq, htrans b a current hba hlater] at hold
        cases hold
      · rw [List.mem_singleton.1 hb]
        exact hirrefl a
    · next hxa =>
      rcases List.mem_append.1 hb with hb | hb
      · exact h.not_later b hb x hx hyb
      · rw [List.mem_singleton.1 hb] at hyb
        exact absurd hyb hxa

theorem Notes.keep {rows latest : List α} (h : Notes key later rows latest) {a current : α}
    (hcurrent : current ∈ latest) (hkey : key current = key a)
    (hlater : later a current = false) : Notes key later (rows ++ [a]) latest := by
  refine ⟨h.nodup, fun x hx => List.mem_append_left _ (h.mem x hx), fun b hb => ?_, ?_⟩
  · rcases List.mem_append.1 hb with hb | hb
    · exact h.exists_key b hb
    · rw [List.mem_singleton.1 hb]
      exact ⟨current, hcurrent, hkey⟩
  · intro b hb x hx hxb
    rcases List.mem_append.1 hb with hb | hb
    · exact h.not_later b hb x hx hxb
    · rw [List.mem_singleton.1 hb] at hxb ⊢
      rw [h.eq_of_key hx hcurrent (hxb.trans hkey.symm)]
      exact hlater

theorem Notes.note [DecidableEq κ] {rows latest : List α} (hirrefl : ∀ a, later a a = false)
    (htrans : ∀ a b c, later a b = true → later b c = true → later a c = true)
    (h : Notes key later rows latest) (a : α) :
    Notes key later (rows ++ [a]) (note key later latest a) := by
  rw [Latest.note]
  cases hfind : latest.find? (fun current => key current = key a) with
  | none =>
    refine h.append hirrefl fun x hx hkey => ?_
    exact List.find?_eq_none.1 hfind x hx (decide_eq_true hkey)
  | some current =>
    have hcurrent := List.mem_of_find?_eq_some hfind
    have hmatch := List.find?_some hfind
    have hkey : key current = key a := of_decide_eq_true hmatch
    show Notes key later (rows ++ [a]) (if later a current = true then _ else _)
    split
    · next hlater => exact h.replace hirrefl htrans hcurrent hkey hlater
    · next hlater => exact h.keep hcurrent hkey (Bool.eq_false_iff.2 hlater)

/-- **AFTER THE PASS**: one row for each key, and none of its rows is later. -/
theorem foldl_note_spec [DecidableEq κ] (hirrefl : ∀ a, later a a = false)
    (htrans : ∀ a b c, later a b = true → later b c = true → later a c = true) (rows : List α) :
    Notes key later rows (rows.foldl (note key later) []) := by
  have hfrom : ∀ (rest seen latest : List α), Notes key later seen latest →
      Notes key later (seen ++ rest) (rest.foldl (note key later) latest) := by
    intro rest
    induction rest with
    | nil =>
      intro seen latest h
      rw [List.append_nil]
      exact h
    | cons a rest ih =>
      intro seen latest h
      have hrest := ih (seen ++ [a]) _ (h.note hirrefl htrans a)
      rw [List.append_assoc] at hrest
      exact hrest
  exact hfrom rows [] [] Notes.nil

/-! ## Which row that is -/

variable (key later) in
/-- Of the rows of its key, `a` is later than all before it, and none after it is later. -/
def Kept (rows : List α) (a : α) : Prop :=
  ∃ before after, rows = before ++ a :: after ∧
    (∀ x ∈ before, key x = key a → later a x = true) ∧
      ∀ x ∈ after, key x = key a → later x a = false

theorem Kept.mem (h : Kept key later rows a) : a ∈ rows := by
  obtain ⟨_, _, rfl, _⟩ := h
  exact List.mem_append_right _ List.mem_cons_self

theorem Kept.append {a b : α} (h : Kept key later rows a) (hb : key b = key a → later b a = false) :
    Kept key later (rows ++ [b]) a := by
  obtain ⟨l, l', rfl, hbefore, hafter⟩ := h
  refine ⟨l, l' ++ [b], by rw [List.append_assoc, List.cons_append], hbefore, fun x hx => ?_⟩
  rcases List.mem_append.1 hx with hx | hx
  · exact hafter x hx
  · rw [List.mem_singleton.1 hx]
    exact hb

theorem Kept.eq_of_key {a b : α} (ha : Kept key later rows a) (hb : Kept key later rows b)
    (hkey : key a = key b) : a = b := by
  obtain ⟨l, l', rfl, hbefore, hafter⟩ := ha
  obtain ⟨m, m', heq, hbefore', hafter'⟩ := hb
  rcases List.append_eq_append_iff.1 heq with ⟨k, rfl, hk⟩ | ⟨k, rfl, hk⟩
  · cases k with
    | nil => exact (List.cons.inj hk).1
    | cons c k =>
      -- `a` comes before `b`
      obtain ⟨rfl, rfl⟩ := List.cons.inj hk
      have hlater := hbefore' a (List.mem_append_right _ List.mem_cons_self) hkey
      rw [hafter b (List.mem_append_right _ List.mem_cons_self) hkey.symm] at hlater
      cases hlater
  · cases k with
    | nil => exact (List.cons.inj hk).1.symm
    | cons c k =>
      obtain ⟨rfl, rfl⟩ := List.cons.inj hk
      have hlater := hbefore b (List.mem_append_right _ List.mem_cons_self) hkey.symm
      rw [hafter' a (List.mem_append_right _ List.mem_cons_self) hkey] at hlater
      cases hlater

section Kept

variable [DecidableEq κ]
variable (hirrefl : ∀ a, later a a = false)
  (htrans : ∀ a b c, later a b = true → later b c = true → later a c = true)
  (hneg : ∀ a b c, later a b = true → later c b = false → later a c = true)

include hirrefl htrans hneg in
theorem kept_of_mem_foldl_note (rows : List α) :
    ∀ a ∈ rows.foldl (note key later) [], Kept key later rows a := by
  induction rows using List.reverseRecOn with
  | nil =>
    intro a ha
    cases ha
  | append_singleton rows b ih =>
    intro a ha
    have hnotes : Notes key later rows (rows.foldl (note key later) []) :=
      foldl_note_spec hirrefl htrans rows
    rw [List.foldl_append, List.foldl_cons, List.foldl_nil, note] at ha
    split at ha
    · next hnone =>
      have hnew : ∀ x ∈ rows, key x ≠ key b := by
        intro x hx hkey
        obtain ⟨y, hy, hyx⟩ := hnotes.exists_key x hx
        have := List.find?_eq_none.1 hnone y hy
        rw [decide_eq_true_eq] at this
        exact this (hyx.trans hkey)
      rcases List.mem_append.1 ha with ha | ha
      · refine (ih a ha).append fun hkey => ?_
        exact absurd hkey.symm (hnew a (hnotes.mem a ha))
      · rw [List.mem_singleton.1 ha]
        exact ⟨rows, [], rfl, fun x hx hkey => absurd hkey (hnew x hx), fun x hx => nomatch hx⟩
    · next current hcurrent =>
      have hmem := List.mem_of_find?_eq_some hcurrent
      have hkeyb : key current = key b := by simpa using List.find?_some hcurrent
      split at ha
      · next hlater =>
        obtain ⟨y, hy, hya⟩ := List.mem_map.1 ha
        split at hya
        · subst hya
          refine ⟨rows, [], rfl, fun x hx hkey => ?_, fun x hx => nomatch hx⟩
          exact hneg _ _ _ hlater (hnotes.not_later x hx current hmem (hkeyb.trans hkey.symm))
        · next hother =>
          subst hya
          exact (ih y hy).append fun hkey => absurd hkey.symm hother
      · next hlater =>
        refine (ih a ha).append fun hkey => ?_
        rw [hnotes.eq_of_key ha hmem (hkey.symm.trans hkeyb.symm)]
        exact Bool.eq_false_iff.2 hlater

include hirrefl htrans hneg in
/-- **THE ROW OF A KEY** is the first of its latest rows. -/
theorem mem_foldl_note_iff {rows : List α} {a : α} :
    a ∈ rows.foldl (note key later) [] ↔ Kept key later rows a := by
  constructor
  · exact kept_of_mem_foldl_note hirrefl htrans hneg rows a
  · intro h
    have hnotes : Notes key later rows (rows.foldl (note key later) []) :=
      foldl_note_spec hirrefl htrans rows
    obtain ⟨x, hx, hkey⟩ := hnotes.exists_key a h.mem
    rw [← (kept_of_mem_foldl_note hirrefl htrans hneg rows x hx).eq_of_key h hkey]
    exact hx

end Kept

/-! ## Rows that come at different times -/

variable (key later) in
/-- No row of its key is later than `a`. -/
def Greatest (rows : List α) (a : α) : Prop :=
  a ∈ rows ∧ ∀ b ∈ rows, key b = key a → later b a = false

variable (key later) in
/-- Of two rows of one key, one is later. -/
def Apart (rows : List α) : Prop :=
  ∀ a ∈ rows, ∀ b ∈ rows, key a = key b → later a b = false → later b a = false → a = b

theorem Greatest.perm {rows rows' : List α} (hperm : rows.Perm rows') :
    Greatest key later rows a ↔ Greatest key later rows' a := by
  simp only [Greatest, hperm.mem_iff]

theorem Apart.perm {rows rows' : List α} (hperm : rows.Perm rows') (h : Apart key later rows) :
    Apart key later rows' := by
  intro a ha b hb
  exact h a (hperm.mem_iff.2 ha) b (hperm.mem_iff.2 hb)

section Apart

variable [DecidableEq κ]
variable (hirrefl : ∀ a, later a a = false)
  (htrans : ∀ a b c, later a b = true → later b c = true → later a c = true)

include hirrefl htrans in
theorem mem_foldl_note_iff_greatest {rows : List α} (hapart : Apart key later rows) {a : α} :
    a ∈ rows.foldl (note key later) [] ↔ Greatest key later rows a := by
  have hnotes : Notes key later rows (rows.foldl (note key later) []) :=
    foldl_note_spec hirrefl htrans rows
  constructor
  · intro ha
    exact ⟨hnotes.mem a ha, fun b hb hkey => hnotes.not_later b hb a ha hkey.symm⟩
  · rintro ⟨ha, hgreatest⟩
    obtain ⟨x, hx, hkey⟩ := hnotes.exists_key a ha
    have hxa := hgreatest x (hnotes.mem x hx) hkey
    have hax := hnotes.not_later a ha x hx hkey
    rw [hapart a ha x (hnotes.mem x hx) hkey.symm hax hxa]
    exact hx

include hirrefl htrans in
/-- **ORDER FREE**: rows read in another order leave the same rows noted. -/
theorem foldl_note_perm {rows rows' : List α} (hperm : rows.Perm rows')
    (hapart : Apart key later rows) :
    (rows.foldl (note key later) []).Perm (rows'.foldl (note key later) []) := by
  have hnotes : Notes key later rows (rows.foldl (note key later) []) :=
    foldl_note_spec hirrefl htrans rows
  have hnotes' : Notes key later rows' (rows'.foldl (note key later) []) :=
    foldl_note_spec hirrefl htrans rows'
  refine (List.perm_ext_iff_of_nodup hnotes.nodup.of_map hnotes'.nodup.of_map).2 fun a => ?_
  rw [mem_foldl_note_iff_greatest hirrefl htrans hapart,
    mem_foldl_note_iff_greatest hirrefl htrans (hapart.perm hperm)]
  exact Greatest.perm hperm

end Apart

end Latest
