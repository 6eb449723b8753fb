import Mathlib.Data.List.DropRight

/-!
# Strings — pieces of a text

What is left of a text by the operations that cut it: the pieces between separators, the text without
what it begins or ends with, and the parts before and after the last separator.  Each is described by
what it has of the text.
-/

namespace Strings

variable {α : Type}

variable {p : α → Bool} {a : α}

theorem mem_of_mem_splitOnP {text piece : List α} (h : piece ∈ text.splitOnP p) (ha : a ∈ piece) :
    a ∈ text ∧ p a = false := by
  induction text generalizing piece with
  | nil =>
    rw [List.splitOnP_nil, List.mem_singleton] at h
    rw [h] at ha
    cases ha
  | cons b text ih =>
    rw [List.splitOnP_cons_eq_if_modifyHead] at h
    by_cases hb : p b = true
    · rw [if_pos hb] at h
      rcases List.mem_cons.1 h with rfl | h
      · cases ha
      · exact ⟨List.mem_cons_of_mem _ (ih h ha).1, (ih h ha).2⟩
    · rw [if_neg hb] at h
      cases hsplit : text.splitOnP p with
      | nil => exact absurd hsplit (List.splitOnP_ne_nil p text)
      | cons first rest =>
        rw [hsplit] at h ih
        rcases List.mem_cons.1 h with rfl | h
        · rcases List.mem_cons.1 ha with rfl | ha
          · exact ⟨List.mem_cons_self, Bool.not_eq_true _ ▸ hb⟩
          · obtain ⟨hmem, hnot⟩ := ih List.mem_cons_self ha
            exact ⟨List.mem_cons_of_mem _ hmem, hnot⟩
        · obtain ⟨hmem, hnot⟩ := ih (List.mem_cons_of_mem _ h) ha
          exact ⟨List.mem_cons_of_mem _ hmem, hnot⟩

/-- The text without the characters at both ends that satisfy `p`. -/
def strip (p : α → Bool) (text : List α) : List α := (text.dropWhile p).rdropWhile p

theorem mem_of_mem_strip {text : List α} (h : a ∈ strip p text) :
    a ∈ text :=
  (List.dropWhile_sublist p).subset ((List.rdropWhile_prefix p _).subset h)

theorem head_strip {text : List α} (h : (strip p text).head? = some a) :
    p a = false := by
  have hprefix : strip p text <+: text.dropWhile p := List.rdropWhile_prefix p _
  cases hstrip : strip p text with
  | nil =>
    rw [hstrip] at h
    cases h
  | cons b rest =>
    rw [hstrip] at h hprefix
    cases h
    obtain ⟨tail, htail⟩ := hprefix
    have hne : text.dropWhile p ≠ [] := by
      rw [← htail]
      exact List.cons_ne_nil _ _
    have hhead := List.head_dropWhile_not p hne
    simp only [← htail, List.cons_append, List.head_cons] at hhead
    exact hhead

section Join

variable {sep : List α}

theorem intercalate_append {xs ys : List (List α)} (hxs : xs ≠ []) (hys : ys ≠ []) :
    sep.intercalate (xs ++ ys) = sep.intercalate xs ++ sep ++ sep.intercalate ys := by
  induction xs with
  | nil => exact absurd rfl hxs
  | cons x xs ih =>
    rw [List.cons_append]
    cases xs with
    | nil => rw [List.nil_append, List.intercalate_cons_of_ne_nil hys, List.intercalate_singleton]
    | cons x' xs =>
      rw [List.intercalate_cons_of_ne_nil (List.append_ne_nil_of_left_ne_nil (List.cons_ne_nil _ _) _),
        ih (List.cons_ne_nil _ _), List.intercalate_cons_cons]
      simp only [List.append_assoc]

theorem intercalate_flatMap {β : Type} (f : β → List (List α)) (hf : ∀ b, f b ≠ []) (bs : List β) :
    sep.intercalate (bs.map fun b => sep.intercalate (f b)) = sep.intercalate (bs.flatMap f) := by
  induction bs with
  | nil => rfl
  | cons b bs ih =>
    rw [List.map_cons, List.flatMap_cons]
    cases bs with
    | nil => rw [List.map_nil, List.intercalate_singleton, List.flatMap_nil, List.append_nil]
    | cons b' bs =>
      have hne : (b' :: bs).flatMap f ≠ [] := by
        rw [List.flatMap_cons]
        exact List.append_ne_nil_of_left_ne_nil (hf b') _
      rw [List.intercalate_cons_of_ne_nil (by rw [List.map_cons]; exact List.cons_ne_nil _ _), ih,
        intercalate_append (hf b) hne]

end Join

theorem prefix_append_cons_iff {sep : α} {piece : List α} (hsep : sep ∉ piece) {text rest : List α} :
    piece <+: text ++ sep :: rest ↔ piece <+: text := by
  constructor
  · intro h
    rcases List.prefix_or_prefix_of_prefix h (List.prefix_append text (sep :: rest)) with
      hshort | ⟨tail, rfl⟩
    · exact hshort
    · rw [List.prefix_append_right_inj] at h
      cases tail with
      | nil =>
        exact ⟨[], by rw [List.append_nil, List.append_nil]⟩
      | cons a tail =>
        obtain ⟨rfl, -⟩ := List.cons_prefix_cons.1 h
        exact absurd (List.mem_append_right text List.mem_cons_self) hsep
  · exact fun h => h.trans (List.prefix_append _ _)

section Partition

variable [DecidableEq α]

/-- The text without the occurrences of `piece`, found from left to right; `skip` characters of one
are still to be left out. -/
def removeFrom (piece : List α) : ℕ → List α → List α
  | _, [] => []
  | skip + 1, _ :: rest => removeFrom piece skip rest
  | 0, c :: rest =>
    if piece ≠ [] ∧ piece <+: c :: rest then removeFrom piece (piece.length - 1) rest
    else c :: removeFrom piece 0 rest

/-- `s.replace(piece, "")`. -/
def removeAll (piece text : List α) : List α := removeFrom piece 0 text

/-- The text with `new` in the place of each occurrence of `piece`, found from left to right; `skip`
characters of one are still to be left out. -/
def replaceFrom (piece new : List α) : ℕ → List α → List α
  | _, [] => []
  | skip + 1, _ :: rest => replaceFrom piece new skip rest
  | 0, c :: rest =>
    if piece ≠ [] ∧ piece <+: c :: rest then new ++ replaceFrom piece new (piece.length - 1) rest
    else c :: replaceFrom piece new 0 rest

/-- `s.replace(piece, new)`, of a `piece` that is not empty. -/
def replaceAll (piece new text : List α) : List α := replaceFrom piece new 0 text

/-- What stands between the occurrences of `piece`, found in the same way. -/
def splitFrom (piece : List α) : ℕ → List α → List (List α)
  | _, [] => [[]]
  | skip + 1, _ :: rest => splitFrom piece skip rest
  | 0, c :: rest =>
    if piece ≠ [] ∧ piece <+: c :: rest then [] :: splitFrom piece (piece.length - 1) rest
    else (splitFrom piece 0 rest).modifyHead (c :: ·)

/-- `s.split(piece)`. -/
def splitText (piece text : List α) : List (List α) := splitFrom piece 0 text

theorem splitFrom_ne_nil (piece text : List α) : ∀ skip, splitFrom piece skip text ≠ [] := by
  induction text with
  | nil =>
    intro skip
    rw [splitFrom]
    exact List.cons_ne_nil _ _
  | cons c rest ih =>
    intro skip
    cases skip with
    | succ skip => exact ih skip
    | zero =>
      rw [splitFrom]
      split
      · exact List.cons_ne_nil _ _
      · exact mt List.modifyHead_eq_nil_iff.1 (ih 0)

theorem replaceFrom_eq_intercalate (piece new text : List α) : ∀ skip,
    replaceFrom piece new skip text = new.intercalate (splitFrom piece skip text) := by
  induction text with
  | nil =>
    intro skip
    rw [replaceFrom, splitFrom, List.intercalate_singleton]
  | cons c rest ih =>
    intro skip
    cases skip with
    | succ skip => exact ih skip
    | zero =>
      rw [replaceFrom, splitFrom]
      split
      · rw [ih, List.intercalate_cons_of_ne_nil (splitFrom_ne_nil _ _ _), List.nil_append]
      · rw [ih]
        obtain ⟨first, pieces, hsplit⟩ :=
          List.exists_cons_of_ne_nil (splitFrom_ne_nil piece rest 0)
        rw [hsplit, List.modifyHead_cons, List.intercalate_cons_cons_left]

theorem replaceAll_eq_intercalate (piece new text : List α) :
    replaceAll piece new text = new.intercalate (splitText piece text) :=
  replaceFrom_eq_intercalate piece new text 0

section Separator

variable {sep : α} {piece new : List α}

theorem replaceFrom_append_cons (hsep : sep ∉ piece) (rest : List α) (text : List α) :
    ∀ skip, skip ≤ text.length →
      replaceFrom piece new skip (text ++ sep :: rest) =
        replaceFrom piece new skip text ++ sep :: replaceFrom piece new 0 rest := by
  induction text with
  | nil =>
    intro skip hskip
    obtain rfl : skip = 0 := Nat.le_zero.1 hskip
    have hnot : ¬(piece ≠ [] ∧ piece <+: sep :: rest) := by
      rintro ⟨hne, hprefix⟩
      rw [← List.nil_append (sep :: rest), prefix_append_cons_iff hsep, List.prefix_nil] at hprefix
      exact hne hprefix
    have hstep : replaceFrom piece new 0 (sep :: rest) = sep :: replaceFrom piece new 0 rest := by
      rw [replaceFrom, if_neg hnot]
    exact hstep
  | cons c text ih =>
    intro skip hskip
    cases skip with
    | succ skip => exact ih skip (Nat.le_of_succ_le_succ hskip)
    | zero =>
      have hwhole : piece <+: c :: (text ++ sep :: rest) ↔ piece <+: c :: text := by
        rw [← List.cons_append]
        exact prefix_append_cons_iff hsep
      rw [List.cons_append, replaceFrom, replaceFrom]
      by_cases hfound : piece ≠ [] ∧ piece <+: c :: text
      · have hlength := hfound.2.length_le
        rw [List.length_cons] at hlength
        rw [if_pos hfound, if_pos ⟨hfound.1, hwhole.2 hfound.2⟩, ih (piece.length - 1) (by omega),
          List.append_assoc]
      · rw [if_neg hfound, if_neg fun h => hfound ⟨h.1, hwhole.1 h.2⟩, ih 0 (Nat.zero_le _),
          List.cons_append]

theorem replaceAll_intercalate (hsep : sep ∉ piece) (parts : List (List α)) :
    replaceAll piece new ([sep].intercalate parts) =
      [sep].intercalate (parts.map (replaceAll piece new)) := by
  induction parts with
  | nil => rfl
  | cons part parts ih =>
    cases parts with
    | nil => rw [List.map_singleton, List.intercalate_singleton, List.intercalate_singleton]
    | cons next parts =>
      rw [List.intercalate_cons_cons, List.append_assoc, List.singleton_append, List.map_cons,
        List.map_cons, List.intercalate_cons_cons, ← List.map_cons, ← ih, replaceAll,
        replaceFrom_append_cons hsep _ _ 0 (Nat.zero_le _), List.append_assoc]
      rfl

end Separator

/-- `s.rpartition(sep)`: before the last separator, the separator, and after it; without a
separator everything is after it. -/
def rpartition (sep : α) (text : List α) : List α × List α × List α :=
  let upToSep := text.rdropWhile (· ≠ sep)
  if upToSep.isEmpty then ([], [], text)
  else (upToSep.dropLast, [sep], text.rtakeWhile (· ≠ sep))

theorem rpartition_spec (sep : α) (text : List α) :
    (rpartition sep text).1 ++ (rpartition sep text).2.1 ++ (rpartition sep text).2.2 = text := by
  rw [rpartition]
  split
  · rfl
  · next h =>
    have hne : text.rdropWhile (· ≠ sep) ≠ [] := mt List.isEmpty_iff.2 h
    have hlast : (text.rdropWhile (· ≠ sep)).getLast hne = sep := by
      simpa using List.rdropWhile_last_not _ text hne
    calc (text.rdropWhile (· ≠ sep)).dropLast ++ [sep] ++ text.rtakeWhile (· ≠ sep)
        = (text.rdropWhile (· ≠ sep)).dropLast ++ [(text.rdropWhile (· ≠ sep)).getLast hne]
            ++ text.rtakeWhile (· ≠ sep) := by rw [hlast]
      _ = text.rdropWhile (· ≠ sep) ++ text.rtakeWhile (· ≠ sep) := by
          rw [List.dropLast_append_getLast]
      _ = text := List.rdropWhile_append_rtakeWhile

theorem rpartition_sep {sep : α} {text : List α} (h : (rpartition sep text).2.1 ≠ []) :
    (rpartition sep text).2.1 = [sep] := by
  rw [rpartition] at h ⊢
  split
  · next hnone =>
    rw [if_pos hnone] at h
    exact absurd rfl h
  · rfl

end Partition
end Strings
