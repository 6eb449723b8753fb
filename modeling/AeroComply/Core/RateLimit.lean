import AeroComply.Core.Base
import AeroComply.Lib.Quota
import AeroComply.Lib.Runs
import AeroComply.Lib.Table
import Mathlib.Data.Rat.Floor

/-!
# RateLimit — fixed windows in one dictionary (`app/core/rate_limit.py`)

The counters of all buckets share one dictionary.  A hit that leaves more than
20 000 of them deletes every counter whose window index is smaller than its own,
although buckets number their windows by their own length: a hit of a one-minute
bucket deletes the counters of the five-minute buckets, windows that are still
running included.
-/

namespace AeroComply

open Relational (Keyed Table)

/-- A budget: so many calls in a window of so many seconds. -/
structure RateBucket where
  limit : Nat
  windowSeconds : Nat
  windowSeconds_pos : 0 < windowSeconds

/-- `(bucket, key, window_index)`. -/
structure BucketKey where
  bucket : String
  key : String
  windowIndex : Int
  deriving DecidableEq, Repr

structure WindowCount where
  bucketKey : BucketKey
  count : Nat

instance : Keyed WindowCount BucketKey := ⟨WindowCount.bucketKey⟩

namespace RateLimit

def maxTrackedWindows : Nat := 20000

/-- `self._counts`. -/
abbrev Counts := Table WindowCount

/-- `self._counts.get(bucket_key, 0)`. -/
def tracked (counts : Counts) (bucketKey : BucketKey) : Nat :=
  ((counts.find? bucketKey).map WindowCount.count).getD 0

/-- `int(time.time() // window_seconds)`. -/
def windowIndex (now : ℚ) (windowSeconds : Nat) : Int := ⌊now / windowSeconds⌋

/-- `if len(self._counts) > _MAX_TRACKED_WINDOWS:` and what it deletes. -/
def prune (counts : Counts) (index : Int) : Counts :=
  if maxTrackedWindows < counts.rows.length then
    counts.deleteWhere fun c => decide (c.bucketKey.windowIndex < index)
  else counts

/-- `_FixedWindowLimiter.hit`: what it raises, and the counters it leaves. -/
def hit (counts : Counts) (now : ℚ) (bucket key : String) (limit windowSeconds : Nat) :
    Except Error Unit × Counts :=
  let index := windowIndex now windowSeconds
  let bucketKey : BucketKey := ⟨bucket, key, index⟩
  let count := tracked counts bucketKey + 1
  (raiseIf (limit < count)
      (.aeroComply "Too many requests. Please try again shortly." "rate_limited"),
    prune (counts.upsert ⟨bucketKey, count⟩) index)

/-- A call of `hit`, at the time it is made. -/
structure Hit where
  now : ℚ
  bucket : String
  key : String

section Calls

variable (buckets : String → RateBucket)

/-- The counter that a call moves on. -/
def Hit.window (h : Hit) : BucketKey :=
  ⟨h.bucket, h.key, windowIndex h.now (buckets h.bucket).windowSeconds⟩

def Hit.run (counts : Counts) (h : Hit) : Except Error Unit × Counts :=
  hit counts h.now h.bucket h.key (buckets h.bucket).limit (buckets h.bucket).windowSeconds

/-- The counters are moved on whether the call returns or raises. -/
def step (counts : Counts) (h : Hit) : Except Error Counts := .ok (h.run buckets counts).2

/-- The counters after a sequence of calls. -/
def after (hits : List Hit) : Counts := hits.foldl (Runs.attempt (step buckets)) .empty

/-- The calls that return normally, in their order. -/
def returned (counts : Counts) : List Hit → List Hit
  | [] => []
  | h :: hits =>
    let rest := returned (Runs.attempt (step buckets) counts h) hits
    if (h.run buckets counts).1.isOk then h :: rest else rest

/-- How many of the calls in a window return normally. -/
def admitted (hits : List Hit) (w : BucketKey) : Nat :=
  (returned buckets .empty hits).countP fun h => h.window buckets = w

/-- The limit of a window is its bucket's. -/
def windowLimit (w : BucketKey) : Nat := (buckets w.bucket).limit

/-- In every window, at most `limit` calls return normally. -/
def Limited (hits : List Hit) : Prop :=
  ∀ w : BucketKey, admitted buckets hits w ≤ windowLimit buckets w

/-- The window has not ended at `now`. -/
def Running (now : ℚ) (w : BucketKey) : Prop :=
  now < (w.windowIndex + 1) * (buckets w.bucket).windowSeconds

/-- The times of the calls do not go back. -/
def Clocked (hits : List Hit) : Prop := hits.Pairwise fun h h' => h.now ≤ h'.now

/-- The counters once the call has been counted. -/
def Hit.counted (counts : Counts) (h : Hit) : Counts :=
  counts.upsert ⟨h.window buckets, tracked counts (h.window buckets) + 1⟩

/-- If the call leaves more than 20 000 counters, those with a smaller index are of windows
that have ended (or of a bucket that admits nothing). -/
def PrunesEnded (counts : Counts) (h : Hit) : Prop :=
  maxTrackedWindows < (h.counted buckets counts).rows.length →
    ∀ c ∈ (h.counted buckets counts).rows,
      c.bucketKey.windowIndex < (h.window buckets).windowIndex →
        windowLimit buckets c.bucketKey = 0 ∨ ¬Running buckets h.now c.bucketKey

end Calls
/-! ## One call -/

section OneCall

variable {buckets : String → RateBucket} {counts : Counts}

theorem tracked_upsert (counts : Counts) (k w : BucketKey) (n : Nat) :
    tracked (counts.upsert ⟨k, n⟩) w = Function.update (tracked counts) k n w := by
  rw [tracked, Table.find?_upsert]
  by_cases hw : w = k
  · subst hw
    rw [Function.update_self]
    simp [Keyed.key]
  · rw [Function.update_of_ne hw, if_neg (fun hk => hw hk.symm)]
    rfl

theorem tracked_prune (counts : Counts) (index : Int) (w : BucketKey) :
    tracked (prune counts index) w = tracked counts w ∨
      maxTrackedWindows < counts.rows.length ∧ w.windowIndex < index ∧
        ∃ c ∈ counts.rows, c.bucketKey = w := by
  rw [prune]
  by_cases hlen : maxTrackedWindows < counts.rows.length
  · rw [if_pos hlen, tracked, Table.find?_deleteWhere]
    cases hfound : counts.find? w with
    | none =>
      left
      rw [tracked, hfound]
      rfl
    | some c =>
      obtain ⟨hc, hkey⟩ := Table.find?_eq_some.1 hfound
      have hcw : c.bucketKey = w := hkey
      by_cases hlt : w.windowIndex < index
      · exact Or.inr ⟨hlen, hlt, c, hc, hcw⟩
      · left
        rw [tracked, hfound, Option.filter_some, hcw, if_pos (by simp [hlt])]
  · rw [if_neg hlen]
    exact Or.inl rfl

theorem mem_of_mem_prune {index : Int} {c : WindowCount} (h : c ∈ (prune counts index).rows) :
    c ∈ counts.rows := by
  rw [prune] at h
  by_cases hlen : maxTrackedWindows < counts.rows.length
  · rw [if_pos hlen] at h
    exact (List.mem_filter.1 h).1
  · rw [if_neg hlen] at h
    exact h

theorem find?_counted (counts : Counts) (h : Hit) (w : BucketKey) :
    (h.counted buckets counts).find? w
      = if h.window buckets = w then some ⟨h.window buckets, tracked counts (h.window buckets) + 1⟩
        else counts.find? w := Table.find?_upsert _ _ _

theorem run_isOk (h : Hit) :
    (h.run buckets counts).1.isOk = true ↔
      tracked counts (h.window buckets) + 1 ≤ windowLimit buckets (h.window buckets) := by
  show (raiseIf (windowLimit buckets (h.window buckets)
    < tracked counts (h.window buckets) + 1) _).isOk = true ↔ _
  by_cases hlt : windowLimit buckets (h.window buckets) < tracked counts (h.window buckets) + 1
  · simp only [raiseIf, if_pos hlt]
    refine ⟨fun hok => ?_, fun hle => absurd hlt (Nat.not_lt.2 hle)⟩
    cases hok
  · simp only [raiseIf, if_neg hlt]
    exact ⟨fun _ => Nat.not_lt.1 hlt, fun _ => rfl⟩

theorem running_window (h : Hit) : Running buckets h.now (h.window buckets) := by
  have hpos : (0 : ℚ) < (buckets h.bucket).windowSeconds :=
    Nat.cast_pos.2 (buckets h.bucket).windowSeconds_pos
  have hlt : h.now / (buckets h.bucket).windowSeconds
      < (windowIndex h.now (buckets h.bucket).windowSeconds : ℚ) + 1 := Int.lt_floor_add_one _
  exact (div_lt_iff₀ hpos).1 hlt

theorem Running.earlier {now now' : ℚ} {w : BucketKey} (h : Running buckets now' w)
    (hle : now ≤ now') : Running buckets now w := lt_of_le_of_lt hle h

theorem attempt_step (counts : Counts) (h : Hit) :
    Runs.attempt (step buckets) counts h
      = prune (h.counted buckets counts) (h.window buckets).windowIndex := rfl

theorem tracked_attempt (counts : Counts) (h : Hit) (w : BucketKey) :
    tracked (Runs.attempt (step buckets) counts h) w
        = Quota.count (tracked counts) (h.window buckets) w ∨
      maxTrackedWindows < (h.counted buckets counts).rows.length ∧
        w.windowIndex < (h.window buckets).windowIndex ∧
        ∃ c ∈ (h.counted buckets counts).rows, c.bucketKey = w := by
  rw [attempt_step]
  rcases tracked_prune (h.counted buckets counts) (h.window buckets).windowIndex w with
    hkept | hpruned
  · left
    rw [hkept, Hit.counted, tracked_upsert]
    rfl
  · exact Or.inr hpruned

theorem tracked_attempt_of_prunesEnded {h : Hit} (hended : PrunesEnded buckets counts h)
    (w : BucketKey) (hw : Running buckets h.now w) :
    windowLimit buckets w = 0 ∨
      Quota.count (tracked counts) (h.window buckets) w
        ≤ tracked (Runs.attempt (step buckets) counts h) w := by
  rcases tracked_attempt counts h w with hkept | ⟨hlen, hlt, c, hc, rfl⟩
  · exact Or.inr (le_of_eq hkept.symm)
  · rcases hended hlen c hc hlt with hzero | hover
    · exact Or.inl hzero
    · exact absurd hw hover

end OneCall

/-! ## Sequences of calls -/

section Sequences

variable {buckets : String → RateBucket}

theorem returned_append (counts : Counts) (hits more : List Hit) :
    returned buckets counts (hits ++ more)
      = returned buckets counts hits
        ++ returned buckets (hits.foldl (Runs.attempt (step buckets)) counts) more := by
  induction hits generalizing counts with
  | nil => rfl
  | cons h hits ih =>
    rw [List.cons_append, returned, returned, ih, List.foldl_cons]
    by_cases hok : (h.run buckets counts).1.isOk = true
    · rw [if_pos hok, if_pos hok, List.cons_append]
    · rw [if_neg hok, if_neg hok]

theorem after_append (hits more : List Hit) :
    after buckets (hits ++ more)
      = more.foldl (Runs.attempt (step buckets)) (after buckets hits) := List.foldl_append

theorem admitted_append_singleton (hits : List Hit) (h : Hit) :
    admitted buckets (hits ++ [h])
      = Quota.pass (windowLimit buckets) (admitted buckets hits)
          (tracked (after buckets hits)) (h.window buckets) := by
  have hreturned : returned buckets .empty (hits ++ [h])
      = returned buckets .empty hits
        ++ if (h.run buckets (after buckets hits)).1.isOk then [h] else [] :=
    returned_append .empty hits [h]
  funext w
  rw [admitted, hreturned, List.countP_append, Quota.pass]
  by_cases hok : tracked (after buckets hits) (h.window buckets) + 1
      ≤ windowLimit buckets (h.window buckets)
  · rw [if_pos (run_isOk h |>.2 hok), if_pos hok, List.countP_singleton]
    by_cases hw : w = h.window buckets
    · subst hw
      rw [Function.update_self, if_pos (decide_eq_true rfl)]
      rfl
    · rw [Function.update_of_ne hw, if_neg (fun hd => hw (of_decide_eq_true hd).symm)]
      rfl
  · rw [if_neg (fun h' => hok (run_isOk h |>.1 h')), if_neg hok]
    rfl

theorem accounts_of_prunesEnded (hits : List Hit) (hclock : Clocked hits)
    (hended : Runs.StepsMeet (step buckets) (PrunesEnded buckets) .empty hits) (now : ℚ)
    (hnow : ∀ h ∈ hits, h.now ≤ now) :
    Quota.Accounts (windowLimit buckets) (Running buckets now) (admitted buckets hits)
      (tracked (after buckets hits)) := by
  induction hits using List.reverseRecOn generalizing now with
  | nil => exact Quota.Accounts.start
  | append_singleton hits h ih =>
    obtain ⟨hclock, _, hlast⟩ := List.pairwise_append.1 hclock
    obtain ⟨hbefore, hprunes, _⟩ := Runs.stepsMeet_append.1 hended
    have hthen : ∀ h' ∈ hits, h'.now ≤ h.now :=
      fun h' hh' => hlast h' hh' h (List.mem_singleton_self h)
    have hhit := (ih hclock hbefore h.now hthen).hit (running_window h)
    have hforget := hhit.forget fun w hw => tracked_attempt_of_prunesEnded hprunes w hw
    have hlater : h.now ≤ now := hnow h (List.mem_append_right _ (List.mem_singleton_self h))
    rw [admitted_append_singleton, after_append]
    exact hforget.close fun w hw => hw.earlier hlater

/-! ## What a deleted counter costs -/

theorem admitted_pos_of_tracked (hits : List Hit) :
    ∀ w c, (after buckets hits).find? w = some c → windowLimit buckets w ≠ 0 →
      0 < admitted buckets hits w := by
  induction hits using List.reverseRecOn with
  | nil =>
    intro w c hfound
    cases hfound
  | append_singleton hits h ih =>
    intro w c hfound hlimit
    rw [after_append] at hfound
    have hrow : c ∈ (prune (h.counted buckets (after buckets hits))
        (h.window buckets).windowIndex).rows := (Table.find?_eq_some.1 hfound).1
    have hcounted : (h.counted buckets (after buckets hits)).find? w = some c :=
      Table.find?_eq_some.2 ⟨mem_of_mem_prune hrow, (Table.find?_eq_some.1 hfound).2⟩
    rw [admitted_append_singleton]
    rw [find?_counted] at hcounted
    by_cases hw : h.window buckets = w
    · subst hw
      cases hbefore : (after buckets hits).find? (h.window buckets) with
      | some c' => exact lt_of_lt_of_le (ih _ c' hbefore hlimit) (Quota.le_pass _ _)
      | none =>
        have hzero : tracked (after buckets hits) (h.window buckets) = 0 := by
          rw [tracked, hbefore]
          rfl
        rw [Quota.pass_of_le (by omega)]
        exact Nat.succ_pos _
    · rw [if_neg hw] at hcounted
      exact lt_of_lt_of_le (ih w c hcounted hlimit) (Quota.le_pass _ _)

theorem admitted_append_replicate (g : Hit) (hits : List Hit) (n : Nat)
    (hn : tracked (after buckets hits) (g.window buckets) + n
      ≤ windowLimit buckets (g.window buckets)) :
    admitted buckets (hits ++ List.replicate n g) (g.window buckets)
      = admitted buckets hits (g.window buckets) + n := by
  induction n generalizing hits with
  | zero => rw [List.replicate_zero, List.append_nil, Nat.add_zero]
  | succ n ih =>
    have hcount : tracked (after buckets (hits ++ [g])) (g.window buckets)
        = tracked (after buckets hits) (g.window buckets) + 1 := by
      rw [after_append]
      rcases tracked_attempt (after buckets hits) g (g.window buckets) with hkept | ⟨_, hlt, _⟩
      · exact hkept.trans (Function.update_self _ _ _)
      · exact absurd hlt (lt_irrefl _)
    rw [List.replicate_succ, List.append_cons, ih (hits ++ [g]) (by omega),
      admitted_append_singleton, Quota.pass_of_le (by omega)]
    omega

variable {hits : List Hit} {h : Hit}

/-- **A RUNNING WINDOW STARTS OVER**: once a call has deleted its counter, a full limit of
calls is admitted in it again. -/
theorem exceeded_of_deleted {h g : Hit} {c : WindowCount}
    (hfound : (after buckets hits).find? (g.window buckets) = some c)
    (hlimit : windowLimit buckets (g.window buckets) ≠ 0)
    (hlen : maxTrackedWindows < (h.counted buckets (after buckets hits)).rows.length)
    (hlt : (g.window buckets).windowIndex < (h.window buckets).windowIndex) :
    ¬Limited buckets
      (hits ++ h :: List.replicate (windowLimit buckets (g.window buckets)) g) := by
  intro hlimited
  have hdeleted : tracked (after buckets (hits ++ [h])) (g.window buckets) = 0 := by
    rw [after_append]
    show tracked (prune (h.counted buckets (after buckets hits)) (h.window buckets).windowIndex) _ = 0
    rw [prune, if_pos hlen, tracked, Table.find?_deleteWhere]
    cases hrow : (h.counted buckets (after buckets hits)).find? (g.window buckets) with
    | none => rfl
    | some c' =>
      have hkey : c'.bucketKey = g.window buckets := (Table.find?_eq_some.1 hrow).2
      rw [Option.filter_some, hkey, if_neg (by simp [hlt])]
      rfl
  have hone : 0 < admitted buckets (hits ++ [h]) (g.window buckets) := by
    rw [admitted_append_singleton]
    exact lt_of_lt_of_le (admitted_pos_of_tracked hits _ c hfound hlimit) (Quota.le_pass _ _)
  have hall := admitted_append_replicate g (hits ++ [h])
    (windowLimit buckets (g.window buckets)) (by rw [hdeleted, Nat.zero_add])
  rw [← List.append_cons] at hall
  have hle := hlimited (g.window buckets)
  rw [hall] at hle
  omega

theorem windowIndex_mono {now now' : ℚ} (h : now ≤ now') (windowSeconds : Nat) :
    windowIndex now windowSeconds ≤ windowIndex now' windowSeconds :=
  Int.floor_le_floor (div_le_div_of_nonneg_right h (Nat.cast_nonneg _))

theorem window_of_running {w : BucketKey} {began now : ℚ} (hle : began ≤ now)
    (hbegan : windowIndex began (buckets w.bucket).windowSeconds = w.windowIndex)
    (hrunning : Running buckets now w) :
    (⟨now, w.bucket, w.key⟩ : Hit).window buckets = w := by
  have hpos : (0 : ℚ) < (buckets w.bucket).windowSeconds :=
    Nat.cast_pos.2 (buckets w.bucket).windowSeconds_pos
  have hfrom : w.windowIndex ≤ windowIndex now (buckets w.bucket).windowSeconds :=
    hbegan ▸ windowIndex_mono hle _
  have hupto : windowIndex now (buckets w.bucket).windowSeconds < w.windowIndex + 1 := by
    refine Int.floor_lt.2 ?_
    rw [div_lt_iff₀ hpos]
    push_cast
    exact hrunning
  have hindex : windowIndex now (buckets w.bucket).windowSeconds = w.windowIndex := by omega
  show (⟨w.bucket, w.key, windowIndex now (buckets w.bucket).windowSeconds⟩ : BucketKey) = w
  rw [hindex]

theorem mem_of_mem_returned {counts : Counts} (hmem : h ∈ returned buckets counts hits) :
    h ∈ hits := by
  induction hits generalizing counts with
  | nil => exact hmem
  | cons h' hits ih =>
    rw [returned] at hmem
    by_cases hok : (h'.run buckets counts).1.isOk = true
    · rw [if_pos hok] at hmem
      rcases List.mem_cons.1 hmem with rfl | hrest
      · exact List.mem_cons_self
      · exact List.mem_cons_of_mem h' (ih hrest)
    · rw [if_neg hok] at hmem
      exact List.mem_cons_of_mem h' (ih hmem)

/-- **A DELETED RUNNING WINDOW CAN BE EXCEEDED**, by calls made at the time of the deletion. -/
theorem exceeded_of_not_prunesEnded (hclock : Clocked (hits ++ [h]))
    (hprunes : ¬PrunesEnded buckets (after buckets hits) h) :
    ∃ more, Clocked (hits ++ h :: more) ∧ ¬Limited buckets (hits ++ h :: more) := by
  rw [PrunesEnded] at hprunes
  push Not at hprunes
  obtain ⟨hlen, c, hc, hlt, hlimit, hrunning⟩ := hprunes
  obtain ⟨hclock, _, hlast⟩ := List.pairwise_append.1 hclock
  have hbefore : ∀ h' ∈ hits, h'.now ≤ h.now :=
    fun h' hh' => hlast h' hh' h (List.mem_singleton_self h)
  have hne : h.window buckets ≠ c.bucketKey := by
    intro heq
    rw [heq] at hlt
    exact lt_irrefl _ hlt
  have hfound : (after buckets hits).find? c.bucketKey = some c := by
    have hrow : (h.counted buckets (after buckets hits)).find? c.bucketKey = some c :=
      Table.find?_eq_some.2 ⟨hc, rfl⟩
    rw [find?_counted, if_neg hne] at hrow
    exact hrow
  -- the window has begun: something was admitted in it
  obtain ⟨h', hh', hwindow⟩ := List.countP_pos_iff.1 (admitted_pos_of_tracked hits _ c hfound hlimit)
  have hwindow : h'.window buckets = c.bucketKey := of_decide_eq_true hwindow
  have hbegan : windowIndex h'.now (buckets c.bucketKey.bucket).windowSeconds
      = c.bucketKey.windowIndex := by
    rw [← hwindow]
    rfl
  have hg := window_of_running (hbefore h' (mem_of_mem_returned hh')) hbegan hrunning
  refine ⟨List.replicate (windowLimit buckets c.bucketKey)
    ⟨h.now, c.bucketKey.bucket, c.bucketKey.key⟩, ?_, ?_⟩
  · refine List.pairwise_append.2 ⟨hclock, ?_, ?_⟩
    · refine List.pairwise_cons.2 ⟨?_, List.pairwise_replicate.2 (Or.inr (le_refl _))⟩
      intro g hmem
      rw [List.eq_of_mem_replicate hmem]
    · intro a ha g hmem
      rcases List.mem_cons.1 hmem with rfl | hmem
      · exact hbefore a ha
      · rw [List.eq_of_mem_replicate hmem]
        exact hbefore a ha
  · rw [← hg] at hfound hlimit hlt
    have hexceeded := exceeded_of_deleted hfound hlimit hlen hlt
    rw [hg] at hexceeded
    exact hexceeded

/-- Some time is past all the calls. -/
theorem exists_now (hits : List Hit) : ∃ now, ∀ h ∈ hits, h.now ≤ now := by
  induction hits with
  | nil => exact ⟨0, fun h hh => (nomatch hh)⟩
  | cons h hits ih =>
    obtain ⟨now, hnow⟩ := ih
    refine ⟨max h.now now, ?_⟩
    intro h' hh'
    rcases List.mem_cons.1 hh' with rfl | hrest
    · exact le_max_left _ _
    · exact (hnow h' hrest).trans (le_max_right _ _)

/-- **THE LIMIT HOLDS WHILE ENDED WINDOWS ARE PRUNED**, and only then: a call that deletes the
counter of a running window can be followed by calls that exceed its limit. -/
theorem limited_while_prunesEnded (buckets : String → RateBucket) (hits : List Hit)
    (hclock : Clocked hits) :
    (Runs.StepsMeet (step buckets) (PrunesEnded buckets) .empty hits → Limited buckets hits) ∧
      ∀ before h, before ++ [h] <+: hits → ¬PrunesEnded buckets (after buckets before) h →
        ∃ more, Clocked (before ++ h :: more) ∧ ¬Limited buckets (before ++ h :: more) := by
  constructor
  · intro hended
    obtain ⟨now, hnow⟩ := exists_now hits
    exact (accounts_of_prunesEnded hits hclock hended now hnow).within
  · intro before h hprefix hprunes
    exact exceeded_of_not_prunesEnded (List.Pairwise.sublist hprefix.sublist hclock) hprunes

end Sequences

/-! ## Twenty thousand clients log in during a password reset's five minutes -/

/-- The budgets of the authentication endpoints: five reset mails in five minutes, twenty
logins in one. -/
def authBuckets (bucket : String) : RateBucket :=
  if bucket = "auth_forgot_password" then ⟨5, 300, by decide⟩ else ⟨20, 60, by decide⟩

/-- An address for each client. -/
def clientHost (i : Nat) : String :=
  String.ofList ['1', Nat.digitChar (i / 10000 % 10), Nat.digitChar (i / 1000 % 10), '.',
    '1', Nat.digitChar (i / 100 % 10), '.', '1', Nat.digitChar (i / 10 % 10), '.',
    '1', Nat.digitChar (i % 10)]

/-- A login and a request for a reset mail, twenty minutes into the epoch. -/
def login (i : Nat) : Hit := ⟨1200, "auth_login", clientHost i⟩
def forgotPassword : Hit := ⟨1200, "auth_forgot_password", "203.0.113.7"⟩

theorem digitChar_inj : ∀ a < 10, ∀ b < 10, Nat.digitChar a = Nat.digitChar b → a = b := by
  decide

theorem clientHost_inj {i j : Nat} (hi : i < 100000) (hj : j < 100000)
    (h : clientHost i = clientHost j) : i = j := by
  have hchars := String.ofList_injective h
  simp only [List.cons.injEq, true_and, and_true] at hchars
  obtain ⟨h₄, h₃, h₂, h₁, h₀⟩ := hchars
  have hdigit : ∀ m n, Nat.digitChar (m % 10) = Nat.digitChar (n % 10) → m % 10 = n % 10 :=
    fun m n => digitChar_inj _ (Nat.mod_lt m (by decide)) _ (Nat.mod_lt n (by decide))
  have e₄ := hdigit _ _ h₄
  have e₃ := hdigit _ _ h₃
  have e₂ := hdigit _ _ h₂
  have e₁ := hdigit _ _ h₁
  have e₀ := hdigit _ _ h₀
  omega

variable {buckets : String → RateBucket} {h : Hit}

theorem rows_counted_of_nodup {hits : List Hit}
    (hrows : (after buckets hits).rows = hits.map fun h => ⟨h.window buckets, 1⟩)
    (hnodup : ((hits ++ [h]).map (Hit.window buckets)).Nodup) :
    (h.counted buckets (after buckets hits)).rows
      = (hits ++ [h]).map fun h => ⟨h.window buckets, 1⟩ := by
  rw [List.map_append, List.nodup_append] at hnodup
  have hfresh : ∀ c ∈ (after buckets hits).rows, Keyed.key c ≠ h.window buckets := by
    intro c hc
    rw [hrows] at hc
    obtain ⟨h', hh', rfl⟩ := List.mem_map.1 hc
    exact hnodup.2.2 _ (List.mem_map_of_mem hh') _ (List.mem_singleton_self _)
  have hzero : tracked (after buckets hits) (h.window buckets) = 0 := by
    rw [tracked, Table.find?_eq_none.2 hfresh]
    rfl
  rw [Hit.counted, hzero, Table.rows_upsert_of_fresh hfresh, hrows, List.map_append]
  rfl

theorem rows_after_of_nodup (hits : List Hit) (hnodup : (hits.map (Hit.window buckets)).Nodup)
    (hlen : hits.length ≤ maxTrackedWindows) :
    (after buckets hits).rows = hits.map fun h => ⟨h.window buckets, 1⟩ := by
  induction hits using List.reverseRecOn with
  | nil => rfl
  | append_singleton hits h ih =>
    have hbefore : (hits.map (Hit.window buckets)).Nodup :=
      hnodup.sublist ((List.sublist_append_left _ _).map _)
    have hshort : hits.length ≤ maxTrackedWindows :=
      le_trans (List.sublist_append_left _ _).length_le hlen
    have hcounted := rows_counted_of_nodup (ih hbefore hshort) hnodup
    rw [after_append]
    show (prune (h.counted buckets (after buckets hits)) (h.window buckets).windowIndex).rows = _
    rw [prune, if_neg, hcounted]
    rw [hcounted, List.length_map]
    exact Nat.not_lt.2 hlen

theorem logins_nodup (n : Nat) (hn : n ≤ 100000) :
    ((forgotPassword :: (List.range n).map login).map (Hit.window authBuckets)).Nodup := by
  rw [List.map_cons, List.map_map, List.nodup_cons]
  constructor
  · intro hmem
    obtain ⟨i, _, hi⟩ := List.mem_map.1 hmem
    exact absurd (congrArg BucketKey.bucket hi)
      (show "auth_login" ≠ "auth_forgot_password" by decide)
  · refine (List.nodup_range).map_on ?_
    intro i hi j hj h
    have hi' := List.mem_range.1 hi
    have hj' := List.mem_range.1 hj
    exact clientHost_inj (by omega) (by omega) (congrArg BucketKey.key h)

theorem forgotPassword_windowIndex : (forgotPassword.window authBuckets).windowIndex = 4 := by
  show ⌊(1200 : ℚ) / (300 : Nat)⌋ = 4
  norm_num

theorem login_windowIndex (i : Nat) : ((login i).window authBuckets).windowIndex = 20 := by
  show ⌊(1200 : ℚ) / (60 : Nat)⌋ = 20
  norm_num

theorem now_eq {n : Nat}
    (hmem : h ∈ forgotPassword :: (List.range n).map login ++
    login n :: List.replicate 5 forgotPassword) :
    h.now = 1200 := by
  rcases List.mem_append.1 hmem with hmem | hmem
  · rcases List.mem_cons.1 hmem with rfl | hlogin
    · rfl
    · obtain ⟨i, _, rfl⟩ := List.mem_map.1 hlogin
      rfl
  · rcases List.mem_cons.1 hmem with rfl | hmem
    · rfl
    · rw [List.eq_of_mem_replicate hmem]
      rfl

/-- One reset mail is sent; 20 000 clients log in; five more reset mails are sent. -/
theorem logins_exceed_resets :
    ¬∀ (buckets : String → RateBucket) (hits : List Hit), Clocked hits → Limited buckets hits := by
  intro hall
  obtain ⟨n, hn⟩ : ∃ n, n + 1 = maxTrackedWindows := ⟨19999, rfl⟩
  have hmany : n + 1 ≤ 100000 := hn ▸ (by decide)
  have hlogins : forgotPassword :: (List.range (n + 1)).map login
      = (forgotPassword :: (List.range n).map login) ++ [login n] := by
    rw [List.range_succ, List.map_append, List.map_singleton, List.cons_append]
  have hrows := rows_after_of_nodup (forgotPassword :: (List.range n).map login)
    (logins_nodup n (by omega)) (by simp [hn])
  have hcounted := rows_counted_of_nodup hrows (hlogins ▸ logins_nodup (n + 1) hmany)
  have hfound : (after authBuckets (forgotPassword :: (List.range n).map login)).find?
      (forgotPassword.window authBuckets) = some ⟨forgotPassword.window authBuckets, 1⟩ := by
    rw [Table.find?_eq_some, hrows]
    exact ⟨List.mem_cons_self, rfl⟩
  have hlen : maxTrackedWindows < ((login n).counted authBuckets
      (after authBuckets (forgotPassword :: (List.range n).map login))).rows.length := by
    rw [hcounted, ← hlogins]
    simp [hn]
  have hindex : (forgotPassword.window authBuckets).windowIndex
      < ((login n).window authBuckets).windowIndex := by
    rw [forgotPassword_windowIndex, login_windowIndex]
    decide
  refine exceeded_of_deleted hfound (by decide) hlen hindex (hall authBuckets _ ?_)
  refine List.pairwise_of_forall_mem_list ?_
  intro h hh h' hh'
  rw [now_eq hh, now_eq hh']

/-- Two logins and a request for a reset mail prune nothing. -/
theorem logins_limited :
    Clocked [login 1, forgotPassword, login 2] ∧
      Limited authBuckets [login 1, forgotPassword, login 2] := by
  have hclock : Clocked [login 1, forgotPassword, login 2] := by
    simp [Clocked, login, forgotPassword]
  refine ⟨hclock, (limited_while_prunesEnded authBuckets _ hclock).1 ⟨?_, ?_, ?_, trivial⟩⟩
  all_goals
    intro hlen
    exact absurd hlen (by decide)

end RateLimit
end AeroComply
