import Mathlib.Data.List.Sort
import Mathlib.Data.List.Perm.Basic

/-!
# Timeline — the latest entries of a timeline that is merged from sources

A source is a list of rows; a row has the time its source is sorted by, and the
entries it stands for on the timeline, whose times may be others.  A view reads
the latest rows of every source (`Source.read`), filters their entries, and
shows the latest of those.

`IsWindow time k full out` says that `out` is what it should be: the first `k`
entries of the whole timeline, in some order from the newest to the oldest.  The
view shows a window of the whole timeline exactly when every matching entry it
has not read is `Covered`: `k` of the matching entries it has read are as late
(`isWindow_filter_iff`).
-/

namespace Timeline

variable {α ε τ : Type} [LinearOrder τ]

/-- `ORDER BY time DESC`; of entries of one time the first of the list comes first. -/
def newestFirst (time : α → τ) (l : List α) : List α :=
  l.insertionSort fun a b => time b ≤ time a

/-- `ORDER BY time DESC LIMIT k`. -/
def latest (time : α → τ) (k : Nat) (l : List α) : List α := (newestFirst time l).take k

/-- What `LIMIT k` leaves out. -/
def older (time : α → τ) (k : Nat) (l : List α) : List α := (newestFirst time l).drop k

/-- The first `k` entries of the timeline, up to the order of entries of one time. -/
def IsWindow (time : α → τ) (k : Nat) (full out : List α) : Prop :=
  ∃ order : List α, order.Perm full ∧ order.Pairwise (fun a b => time b ≤ time a) ∧
    out = order.take k

/-- Of the entries `kept`, `k` are as late as each one of `missed`. -/
def Covered (time : α → τ) (k : Nat) (kept missed : List α) : Prop :=
  ∀ e ∈ missed, k ≤ kept.countP fun c => time e ≤ time c

section Order

variable {time : α → τ} {k : Nat}

theorem perm_newestFirst (l : List α) : (newestFirst time l).Perm l := List.perm_insertionSort _ l

theorem pairwise_newestFirst (l : List α) :
    (newestFirst time l).Pairwise fun a b => time b ≤ time a := by
  have htotal : Std.Total fun a b : α => time b ≤ time a := ⟨fun a b => le_total _ _⟩
  have htrans : IsTrans α fun a b => time b ≤ time a := ⟨fun _ _ _ hab hbc => hbc.trans hab⟩
  exact List.pairwise_insertionSort _ l

theorem newestFirst_eq_self {l : List α} (h : l.Pairwise fun a b => time b ≤ time a) :
    newestFirst time l = l := h.insertionSort_eq

theorem latest_append_older (l : List α) :
    latest time k l ++ older time k l = newestFirst time l := List.take_append_drop k _

theorem latest_older_perm (l : List α) : (latest time k l ++ older time k l).Perm l := by
  rw [latest_append_older]
  exact perm_newestFirst l

theorem pairwise_latest (l : List α) :
    (latest time k l).Pairwise fun a b => time b ≤ time a :=
  (pairwise_newestFirst l).sublist (List.take_sublist k _)

theorem le_of_mem_older {l : List α} {x y : α} (hx : x ∈ latest time k l)
    (hy : y ∈ older time k l) : time y ≤ time x := by
  have hsorted : (newestFirst time l).Pairwise fun a b => time b ≤ time a :=
    pairwise_newestFirst l
  rw [← latest_append_older (k := k), List.pairwise_append] at hsorted
  exact hsorted.2.2 x hx y hy

theorem le_of_mem_take {t : τ} : ∀ {k : Nat} {l : List α},
    l.Pairwise (fun a b => time b ≤ time a) → (k ≤ l.countP fun c => t ≤ time c) →
      ∀ x ∈ l.take k, t ≤ time x := by
  intro k l
  induction l generalizing k with
  | nil =>
    intro _ _ x hx
    rw [List.take_nil] at hx
    cases hx
  | cons a l ih =>
    intro hsorted hcount x hx
    obtain ⟨hhead, htail⟩ := List.pairwise_cons.1 hsorted
    by_cases ha : t ≤ time a
    · cases k with
      | zero =>
        rw [List.take_zero] at hx
        cases hx
      | succ k =>
        rw [List.take_succ_cons] at hx
        rcases List.mem_cons.1 hx with rfl | hx
        · exact ha
        · rw [List.countP_cons_of_pos (by simpa using ha)] at hcount
          exact ih htail (Nat.le_of_succ_le_succ hcount) x hx
    · -- nothing after an entry before `t` is as late as `t`
      have hnone : (a :: l).countP (fun c => t ≤ time c) = 0 := by
        rw [List.countP_eq_zero]
        intro b hb hle
        have htb : t ≤ time b := by simpa using hle
        rcases List.mem_cons.1 hb with rfl | hb
        · exact ha htb
        · exact ha (htb.trans (hhead b hb))
      rw [hnone, Nat.le_zero] at hcount
      rw [hcount, List.take_zero] at hx
      cases hx

theorem IsWindow.length_eq {full out : List α} (h : IsWindow time k full out) :
    out.length = min k full.length := by
  obtain ⟨order, hperm, -, rfl⟩ := h
  rw [List.length_take, hperm.length_eq]

theorem Covered.le {kept missed : List α} (h : Covered time k kept missed) {x e : α}
    (hx : x ∈ latest time k kept) (he : e ∈ missed) : time e ≤ time x := by
  refine le_of_mem_take (pairwise_newestFirst kept) ?_ x hx
  rw [(perm_newestFirst kept).countP_eq]
  exact h e he

theorem length_latest (l : List α) : (latest time k l).length = min k l.length := by
  rw [latest, List.length_take, (perm_newestFirst l).length_eq]

theorem latest_perm {l : List α} (h : l.length ≤ k) : (latest time k l).Perm l := by
  rw [latest, List.take_of_length_le ((perm_newestFirst l).length_eq.le.trans h)]
  exact perm_newestFirst l

theorem map_latest {β : Type} (f : β → α) (l : List β) :
    (latest (time ∘ f) k l).map f = latest time k (l.map f) := by
  rw [latest, latest, List.map_take, newestFirst, newestFirst]
  exact congrArg (List.take k) (List.map_insertionSort _ _ f l fun _ _ _ _ => Iff.rfl)

theorem flatMap_latest_perm {lists : List (List α)} (h : ∀ l ∈ lists, l.length ≤ k) :
    (lists.flatMap (latest time k)).Perm lists.flatten := by
  rw [← List.flatMap_id]
  exact List.Perm.flatMap_left lists fun l hl => latest_perm (h l hl)

theorem length_flatMap_latest_eq_iff (lists : List (List α)) :
    (lists.flatMap (latest time k)).length = lists.flatten.length ↔
      ∀ l ∈ lists, l.length ≤ k := by
  have hle : ∀ lists : List (List α),
      (lists.flatMap (latest time k)).length ≤ lists.flatten.length := by
    intro lists
    induction lists with
    | nil => exact Nat.le_refl 0
    | cons l lists ih =>
      rw [List.flatMap_cons, List.flatten_cons, List.length_append, List.length_append,
        length_latest]
      exact Nat.add_le_add (Nat.min_le_right _ _) ih
  induction lists with
  | nil => exact ⟨fun _ _ h => (nomatch h), fun _ => rfl⟩
  | cons l lists ih =>
    rw [List.flatMap_cons, List.flatten_cons, List.length_append, List.length_append,
      length_latest, List.forall_mem_cons]
    have hrest := hle lists
    constructor
    · intro h
      exact ⟨by omega, ih.1 (by omega)⟩
    · rintro ⟨hl, hlists⟩
      rw [ih.2 hlists, Nat.min_eq_right hl]

/-- **WINDOWS OF A PART**: the latest `k` of the entries kept are a window of all entries exactly
when the entries missed are covered. -/
theorem isWindow_latest_iff {full kept missed : List α} (hsplit : (kept ++ missed).Perm full) :
    IsWindow time k full (latest time k kept) ↔ Covered time k kept missed := by
  constructor
  · rintro ⟨order, hperm, hsorted, hout⟩ e he
    -- the entry is past the first `k` of the order, so there are `k`, all as late
    have hrest : (latest time k kept ++ order.drop k).Perm
        (latest time k kept ++ (older time k kept ++ missed)) := by
      rw [hout, List.take_append_drop, ← hout, ← List.append_assoc]
      exact hperm.trans (hsplit.symm.trans ((latest_older_perm kept).symm.append_right missed))
    have hmem : e ∈ order.drop k := by
      rw [((List.perm_append_left_iff _).1 hrest).mem_iff]
      exact List.mem_append_right _ he
    have hlength : (latest time k kept).length = k := by
      have hlt : k < order.length := by
        by_contra hle
        rw [List.drop_eq_nil_of_le (Nat.le_of_not_lt hle)] at hmem
        cases hmem
      rw [hout, List.length_take, Nat.min_eq_left hlt.le]
    have hlate : (latest time k kept).countP (fun c => time e ≤ time c)
        = (latest time k kept).length := by
      rw [List.countP_eq_length]
      intro x hx
      rw [hout] at hx
      rw [← List.take_append_drop k order, List.pairwise_append] at hsorted
      exact decide_eq_true (hsorted.2.2 x hx e hmem)
    calc k = (latest time k kept).countP fun c => time e ≤ time c := (hlate.trans hlength).symm
      _ ≤ (newestFirst time kept).countP fun c => time e ≤ time c :=
        (List.take_sublist k _).countP_le
      _ = kept.countP fun c => time e ≤ time c := (perm_newestFirst kept).countP_eq _
  · intro hcovered
    refine ⟨latest time k kept ++ newestFirst time (older time k kept ++ missed), ?_, ?_, ?_⟩
    · have hrest : (latest time k kept ++ newestFirst time (older time k kept ++ missed)).Perm
          (latest time k kept ++ (older time k kept ++ missed)) :=
        (perm_newestFirst _).append_left _
      rw [← List.append_assoc] at hrest
      exact hrest.trans (((latest_older_perm kept).append_right missed).trans hsplit)
    · rw [List.pairwise_append]
      refine ⟨pairwise_latest kept, pairwise_newestFirst _, fun x hx y hy => ?_⟩
      rcases List.mem_append.1 ((perm_newestFirst _).mem_iff.1 hy) with hy | hy
      · exact le_of_mem_older hx hy
      · exact hcovered.le hx hy
    · by_cases hk : k ≤ kept.length
      · have hlength : (latest time k kept).length = k := by
          rw [latest, List.length_take, (perm_newestFirst kept).length_eq, Nat.min_eq_left hk]
        rw [List.take_append_of_le_length hlength.ge, List.take_of_length_le hlength.le]
      · -- fewer than `k` were kept, so nothing was left out and nothing missed
        have holder : older time k kept = [] := by
          rw [older, List.drop_eq_nil_iff, (perm_newestFirst kept).length_eq]
          exact Nat.le_of_not_le hk
        have hmissed : missed = [] := by
          by_contra hne
          obtain ⟨e, he⟩ := List.exists_mem_of_ne_nil missed hne
          exact hk ((hcovered e he).trans List.countP_le_length)
        rw [holder, hmissed]
        show _ = List.take k (latest time k kept ++ [])
        rw [List.append_nil, latest, List.take_take, Nat.min_self]

end Order

/-! ## Sources -/

/-- A row of a source: what the source is sorted by, and the row's entries on the timeline. -/
structure Row (τ ε : Type) where
  key : τ
  entries : List ε

/-- The rows of one query. -/
abbrev Source (τ ε : Type) := List (Row τ ε)

namespace Source

def all (s : Source τ ε) : List ε := s.flatMap Row.entries

/-- The entries of the latest `k` rows. -/
def read (k : Nat) (s : Source τ ε) : List ε := all (latest Row.key k s)

/-- The entries of the rows past the latest `k`. -/
def unread (k : Nat) (s : Source τ ε) : List ε := all (older Row.key k s)

theorem read_unread_perm (k : Nat) (s : Source τ ε) : (s.read k ++ s.unread k).Perm s.all := by
  have happend : s.read k ++ s.unread k = all (latest Row.key k s ++ older Row.key k s) :=
    List.flatMap_append.symm
  rw [happend]
  exact (latest_older_perm s).flatMap_right _

theorem unread_eq_nil {k : Nat} {s : Source τ ε} (h : s.length ≤ k) : s.unread k = [] := by
  have holder : older Row.key k s = [] := by
    rw [older, List.drop_eq_nil_iff, (perm_newestFirst s).length_eq]
    exact h
  rw [unread, holder]
  rfl

end Source

theorem flatMap_read_unread_perm (k : Nat) (sources : List (Source τ ε)) :
    (sources.flatMap (Source.read k) ++ sources.flatMap (Source.unread k)).Perm
      (sources.flatMap Source.all) := by
  induction sources with
  | nil => exact List.Perm.refl _
  | cons s sources ih =>
    rw [List.flatMap_cons, List.flatMap_cons, List.flatMap_cons]
    have hswap : (s.read k ++ sources.flatMap (Source.read k) ++
        (s.unread k ++ sources.flatMap (Source.unread k))).Perm
        (s.read k ++ s.unread k ++
          (sources.flatMap (Source.read k) ++ sources.flatMap (Source.unread k))) := by
      rw [List.append_assoc, List.append_assoc]
      exact (List.perm_append_comm_assoc _ _ _).append_left _
    exact hswap.trans ((s.read_unread_perm k).append ih)

theorem flatMap_unread_eq_nil {k : Nat} {sources : List (Source τ ε)}
    (h : ∀ s ∈ sources, s.length ≤ k) : sources.flatMap (Source.unread k) = [] :=
  List.flatMap_eq_nil_iff.2 fun s hs => Source.unread_eq_nil (h s hs)

theorem filter_and_not_perm {p q : α → Bool} (h : ∀ a, p a = true → q a = true) (l : List α) :
    (l.filter p ++ l.filter fun a => q a && !p a).Perm (l.filter q) := by
  have hsplit := List.filter_append_perm p (l.filter q)
  rw [List.filter_filter, List.filter_filter] at hsplit
  have hp : l.filter (fun a => p a && q a) = l.filter p := by
    refine List.filter_congr fun a _ => ?_
    cases hpa : p a with
    | true => rw [h a hpa, Bool.and_self]
    | false => rw [Bool.false_and]
  have hnot : l.filter (fun a => !p a && q a) = l.filter fun a => q a && !p a :=
    List.filter_congr fun a _ => Bool.and_comm _ _
  rw [hp, hnot] at hsplit
  exact hsplit

/-- **FILTERED WINDOWS**: of what is read, the entries that match, cut to the latest `k`, are a
window of the matching timeline exactly when the matching entries that were not read are covered. -/
theorem isWindow_filter_iff {time : ε → τ} {k : Nat} {full kept missed : List ε}
    (hsplit : (kept ++ missed).Perm full) (matching : ε → Bool) :
    IsWindow time k (full.filter matching) (latest time k (kept.filter matching)) ↔
      Covered time k (kept.filter matching) (missed.filter matching) := by
  refine isWindow_latest_iff ?_
  rw [← List.filter_append]
  exact hsplit.filter matching

end Timeline
