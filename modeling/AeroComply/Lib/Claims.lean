import AeroComply.Lib.Runs

/-!
# Claims — transactions that claim a row before they work

Any number of calls run against one store.  A call reads without a lock, claims
with one conditional write that takes the lock of the row, does the rest of its
work in the same transaction, and commits; it can raise at any point, and then
what it has not committed is rolled back and the lock released.  A call that
finds the lock taken waits.

If nothing can be claimed any more once a call has gone through (`ClaimedOnce`),
every interleaving comes to the same as running at most one of the calls alone:
that is `visited_linear`.
-/

namespace Claims

variable {Store Seen Held Err : Type}

/-- The three parts of a call. -/
structure Transaction (Store Seen Held Err : Type) where
  read : Store → Except Err Seen
  claim : Seen → Store → Except Err (Store × Held)
  work : Held → Store → Except Err Store

/-- The call with nobody else around. -/
def Transaction.alone (t : Transaction Store Seen Held Err) (s : Store) : Except Err Store := do
  let seen ← t.read s
  let (claimed, held) ← t.claim seen s
  t.work held claimed

theorem Transaction.alone_of {t : Transaction Store Seen Held Err} {s claimed : Store} {seen : Seen}
    {held : Held} (hread : t.read s = .ok seen) (hclaim : t.claim seen s = .ok (claimed, held)) :
    t.alone s = t.work held claimed := by
  rw [alone, hread]
  show (t.claim seen s >>= fun x => t.work x.2 x.1) = _
  rw [hclaim]
  rfl

/-- How far a call has come; from the claim on, with what its transaction has written. -/
inductive Progress (Store Seen Held Err : Type)
  | idle
  | seen (seen : Seen)
  | holding (held : Held) (working : Store)
  | ready (working : Store)
  | done
  | failed (e : Err)

/-- The call has the lock. -/
def Progress.locks : Progress Store Seen Held Err → Bool
  | .holding _ _ | .ready _ => true
  | .idle | .seen _ | .done | .failed _ => false

/-- What is durable, who has the lock, and where each call is. -/
structure System (Store Seen Held Err : Type) where
  committed : Store
  holder : Option Nat := none
  progress : Nat → Progress Store Seen Held Err := fun _ => .idle

namespace System

variable (r : System Store Seen Held Err)

/-- Only the call itself moves on. -/
def moved (who : Nat) (p : Progress Store Seen Held Err) : System Store Seen Held Err :=
  { r with progress := Function.update r.progress who p }

/-- The call moves on and lets go of the lock. -/
def released (who : Nat) (p : Progress Store Seen Held Err) : System Store Seen Held Err :=
  { r.moved who p with holder := none }

@[simp] theorem moved_progress_self (who : Nat) (p : Progress Store Seen Held Err) :
    (r.moved who p).progress who = p := Function.update_self ..

theorem moved_progress_of_ne {who i : Nat} (h : i ≠ who) (p : Progress Store Seen Held Err) :
    (r.moved who p).progress i = r.progress i := Function.update_of_ne h ..

@[simp] theorem released_progress (who : Nat) (p : Progress Store Seen Held Err) :
    (r.released who p).progress = (r.moved who p).progress := rfl

end System

/-- A call takes its next step, or raises. -/
inductive Event (Err : Type)
  | go (who : Nat)
  | raise (who : Nat) (e : Err)

variable (calls : Nat → Transaction Store Seen Held Err)

/-- The next step of a call. -/
def next (r : System Store Seen Held Err) (who : Nat) : System Store Seen Held Err :=
  match r.progress who with
  | .idle =>
    match (calls who).read r.committed with
    | .ok seen => r.moved who (.seen seen)
    | .error e => r.moved who (.failed e)
  | .seen seen =>
    -- the lock is taken: wait
    if r.holder.isSome then r
    else
      match (calls who).claim seen r.committed with
      | .ok (working, held) => { r.moved who (.holding held working) with holder := some who }
      | .error e => r.moved who (.failed e)
  | .holding held working =>
    match (calls who).work held working with
    | .ok working => r.moved who (.ready working)
    | .error e => r.released who (.failed e)
  -- nobody else has written since the claim
  | .ready working => { r.released who .done with committed := working }
  | .done | .failed _ => r

/-- The call raises; its transaction is rolled back. -/
def abort (r : System Store Seen Held Err) (who : Nat) (e : Err) : System Store Seen Held Err :=
  match r.progress who with
  | .idle | .seen _ => r.moved who (.failed e)
  | .holding _ _ | .ready _ => r.released who (.failed e)
  | .done | .failed _ => r

def step (r : System Store Seen Held Err) :
    Event Err → Except Err (System Store Seen Held Err)
  | .go who => .ok (next calls r who)
  | .raise who e => .ok (abort r who e)

/-- Once a call has gone through from `s`, no call can claim. -/
def ClaimedOnce (s : Store) : Prop :=
  ∀ i s', (calls i).alone s = .ok s' → ∀ j seen, ∃ e, (calls j).claim seen s' = .error e

/-! ## The invariant -/

/-- What a call that is under way has done, as long as nothing is committed. -/
def OnTheWay (s : Store) (t : Transaction Store Seen Held Err) :
    Progress Store Seen Held Err → Prop
  | .idle | .failed _ => True
  | .seen seen => t.read s = .ok seen
  | .holding held working => t.alone s = t.work held working
  | .ready working => t.alone s = .ok working
  | .done => False

structure Undecided (s : Store) (r : System Store Seen Held Err) : Prop where
  committed : r.committed = s
  onTheWay : ∀ i, OnTheWay s (calls i) (r.progress i)
  locked : ∀ i, (r.progress i).locks = true → r.holder = some i

/-- One call has gone through, and nobody holds the lock. -/
structure Decided (s : Store) (who : Nat) (r : System Store Seen Held Err) : Prop where
  committed : (calls who).alone s = .ok r.committed
  done : r.progress who = .done
  only : ∀ i, r.progress i = .done → i = who
  free : r.holder = none
  unlocked : ∀ i, (r.progress i).locks = false

variable {calls} {s : Store} {r : System Store Seen Held Err} {who : Nat}

theorem Undecided.moved (h : Undecided calls s r) {p : Progress Store Seen Held Err}
    (hp : OnTheWay s (calls who) p) (hlock : p.locks = true → r.holder = some who) :
    Undecided calls s (r.moved who p) where
  committed := h.committed
  onTheWay := by
    intro i
    by_cases hi : i = who
    · subst hi
      rw [System.moved_progress_self]
      exact hp
    · rw [System.moved_progress_of_ne r hi]
      exact h.onTheWay i
  locked := by
    intro i hl
    by_cases hi : i = who
    · subst hi
      rw [System.moved_progress_self] at hl
      exact hlock hl
    · rw [System.moved_progress_of_ne r hi] at hl
      exact h.locked i hl

theorem Undecided.claimed (h : Undecided calls s r) (hfree : r.holder = none) {held : Held}
    {working : Store} (hp : (calls who).alone s = (calls who).work held working) :
    Undecided calls s { r.moved who (.holding held working) with holder := some who } where
  committed := h.committed
  onTheWay := by
    intro i
    show OnTheWay s (calls i) ((r.moved who (.holding held working)).progress i)
    by_cases hi : i = who
    · subst hi
      rw [System.moved_progress_self]
      exact hp
    · rw [System.moved_progress_of_ne r hi]
      exact h.onTheWay i
  locked := by
    intro i hl
    by_cases hi : i = who
    · rw [hi]
    · have hl' : (r.progress i).locks = true := by
        rw [← System.moved_progress_of_ne r hi (.holding held working)]
        exact hl
      exact absurd (h.locked i hl') (by rw [hfree]; exact fun he => nomatch he)

/-- The holder gives up. -/
theorem Undecided.released (h : Undecided calls s r) (hl : (r.progress who).locks = true) (e : Err) :
    Undecided calls s (r.released who (.failed e)) where
  committed := h.committed
  onTheWay := by
    have hfailed : Undecided calls s (r.moved who (.failed e)) :=
      h.moved trivial (fun he => nomatch he)
    exact hfailed.onTheWay
  locked := by
    intro i hi
    by_cases hw : i = who
    · subst hw
      rw [System.released_progress, System.moved_progress_self] at hi
      cases hi
    · rw [System.released_progress, System.moved_progress_of_ne r hw] at hi
      have hsame := (h.locked i hi).symm.trans (h.locked who hl)
      exact absurd (Option.some.inj hsame) hw

theorem Undecided.commits (h : Undecided calls s r) {working : Store}
    (hp : r.progress who = .ready working) :
    Decided calls s who { r.released who .done with committed := working } where
  committed := by
    have hready := h.onTheWay who
    rw [hp] at hready
    exact hready
  done := System.moved_progress_self r who .done
  only := by
    intro i hi
    by_contra hne
    have hdone : r.progress i = .done :=
      (System.moved_progress_of_ne r hne .done).symm.trans hi
    have habsurd := h.onTheWay i
    rw [hdone] at habsurd
    exact habsurd
  free := rfl
  unlocked := by
    intro i
    show ((r.moved who .done).progress i).locks = false
    by_cases hi : i = who
    · subst hi
      rw [System.moved_progress_self]
      rfl
    · rw [System.moved_progress_of_ne r hi]
      refine Bool.eq_false_iff.2 fun hl => hi ?_
      have hlock : (r.progress who).locks = true := by rw [hp]; rfl
      exact Option.some.inj ((h.locked i hl).symm.trans (h.locked who hlock))

theorem Decided.moved {i : Nat} (h : Decided calls s who r) {p : Progress Store Seen Held Err}
    (hi : r.progress i ≠ .done) (hp : p.locks = false) (hdone : p ≠ .done) :
    Decided calls s who (r.moved i p) where
  committed := h.committed
  done := by
    have hne : who ≠ i := by
      rintro rfl
      exact hi h.done
    rw [System.moved_progress_of_ne r hne]
    exact h.done
  only := by
    intro j hj
    by_cases hji : j = i
    · subst hji
      rw [System.moved_progress_self] at hj
      exact absurd hj hdone
    · rw [System.moved_progress_of_ne r hji] at hj
      exact h.only j hj
  free := h.free
  unlocked := by
    intro j
    by_cases hji : j = i
    · subst hji
      rw [System.moved_progress_self]
      exact hp
    · rw [System.moved_progress_of_ne r hji]
      exact h.unlocked j

/-! ## Steps -/

theorem Undecided.next (h : Undecided calls s r) (i : Nat) :
    Undecided calls s (Claims.next calls r i) ∨ Decided calls s i (Claims.next calls r i) := by
  have hway := h.onTheWay i
  rw [Claims.next]
  cases hp : r.progress i with
  | idle =>
    left
    cases hr : (calls i).read r.committed with
    | ok seen =>
      rw [h.committed] at hr
      exact h.moved hr (fun he => nomatch he)
    | error e => exact h.moved trivial (fun he => nomatch he)
  | seen seen =>
    left
    rw [hp] at hway
    dsimp only
    cases hh : r.holder with
    | some other => exact h
    | none =>
      rw [if_neg (by exact Bool.false_ne_true)]
      cases hc : (calls i).claim seen r.committed with
      | ok x =>
        rw [h.committed] at hc
        exact h.claimed hh (Transaction.alone_of hway hc)
      | error e => exact h.moved trivial (fun he => nomatch he)
  | holding held working =>
    left
    rw [hp] at hway
    have hlock : (r.progress i).locks = true := by rw [hp]; rfl
    dsimp only
    cases hw : (calls i).work held working with
    | ok working' => exact h.moved (hway.trans hw) (fun _ => h.locked i hlock)
    | error e => exact h.released hlock e
  | ready working => exact Or.inr (h.commits hp)
  | done => exact Or.inl h
  | failed e => exact Or.inl h

theorem Undecided.abort (h : Undecided calls s r) (i : Nat) (e : Err) :
    Undecided calls s (Claims.abort r i e) := by
  rw [Claims.abort]
  cases hp : r.progress i with
  | idle => exact h.moved trivial (fun he => nomatch he)
  | seen seen => exact h.moved trivial (fun he => nomatch he)
  | holding held working => exact h.released (by rw [hp]; rfl) e
  | ready working => exact h.released (by rw [hp]; rfl) e
  | done => exact h
  | failed _ => exact h

theorem Decided.next (hone : ClaimedOnce calls s) (h : Decided calls s who r) (i : Nat) :
    Decided calls s who (Claims.next calls r i) := by
  have hlock := h.unlocked i
  rw [Claims.next]
  cases hp : r.progress i with
  | idle =>
    have hi : r.progress i ≠ .done := by rw [hp]; exact fun he => nomatch he
    cases (calls i).read r.committed with
    | ok seen => exact h.moved hi rfl (fun he => nomatch he)
    | error e => exact h.moved hi rfl (fun he => nomatch he)
  | seen seen =>
    have hi : r.progress i ≠ .done := by rw [hp]; exact fun he => nomatch he
    -- the row is no longer there to be claimed
    obtain ⟨e, hc⟩ := hone who r.committed h.committed i seen
    dsimp only
    rw [h.free, hc]
    exact h.moved hi rfl (fun he => nomatch he)
  | holding held working =>
    rw [hp] at hlock
    cases hlock
  | ready working =>
    rw [hp] at hlock
    cases hlock
  | done => exact h
  | failed e => exact h

theorem Decided.abort (h : Decided calls s who r) (i : Nat) (e : Err) :
    Decided calls s who (Claims.abort r i e) := by
  have hlock := h.unlocked i
  rw [Claims.abort]
  cases hp : r.progress i with
  | idle => exact h.moved (by rw [hp]; exact fun he => nomatch he) rfl (fun he => nomatch he)
  | seen seen => exact h.moved (by rw [hp]; exact fun he => nomatch he) rfl (fun he => nomatch he)
  | holding held working =>
    rw [hp] at hlock
    cases hlock
  | ready working =>
    rw [hp] at hlock
    cases hlock
  | done => exact h
  | failed _ => exact h

/-! ## Runs -/

/-- Nothing committed yet, or one call gone through. -/
def Linear (calls : Nat → Transaction Store Seen Held Err) (s : Store)
    (r : System Store Seen Held Err) : Prop :=
  Undecided calls s r ∨ ∃ who, Decided calls s who r

/-- A call that has gone through stays so, and nothing is committed after it. -/
def Settles (r r' : System Store Seen Held Err) : Prop :=
  ∀ who, r.progress who = .done → r'.progress who = .done ∧ r'.committed = r.committed

theorem start_undecided (s : Store) :
    Undecided calls s { committed := s } where
  committed := rfl
  onTheWay := fun _ => trivial
  locked := fun _ h => nomatch h

theorem Undecided.not_done (h : Undecided calls s r) (i : Nat) : r.progress i ≠ .done := by
  intro hi
  have habsurd := h.onTheWay i
  rw [hi] at habsurd
  exact habsurd

theorem Decided.settles {r' : System Store Seen Held Err} (h : Decided calls s who r)
    (h' : Decided calls s who r') : Settles r r' := by
  intro i hi
  have hwho := h.only i hi
  subst hwho
  exact ⟨h'.done, Except.ok.inj (h'.committed.symm.trans h.committed)⟩

theorem step_linear (hone : ClaimedOnce calls s) {r' : System Store Seen Held Err} {e : Event Err}
    (h : Linear calls s r) (hstep : step calls r e = .ok r') :
    Linear calls s r' ∧ Settles r r' := by
  rcases h with h | ⟨who, h⟩
  · have hset : Settles r r' := fun i hi => absurd hi (h.not_done i)
    cases e with
    | go i =>
      cases hstep
      rcases h.next i with h' | h'
      · exact ⟨Or.inl h', hset⟩
      · exact ⟨Or.inr ⟨i, h'⟩, hset⟩
    | raise i e =>
      cases hstep
      exact ⟨Or.inl (h.abort i e), hset⟩
  · cases e with
    | go i =>
      cases hstep
      exact ⟨Or.inr ⟨who, h.next hone i⟩, h.settles (h.next hone i)⟩
    | raise i e =>
      cases hstep
      exact ⟨Or.inr ⟨who, h.abort i e⟩, h.settles (h.abort i e)⟩

theorem Settles.trans {r₁ r₂ r₃ : System Store Seen Held Err} (h : Settles r₁ r₂)
    (h' : Settles r₂ r₃) : Settles r₁ r₃ := by
  intro i hi
  obtain ⟨hdone, hsame⟩ := h i hi
  obtain ⟨hdone', hsame'⟩ := h' i hdone
  exact ⟨hdone', hsame'.trans hsame⟩

/-- **ONE AT MOST**: every state of an interleaving is that of none of the calls, or of one of
them run alone; and what has gone through stays. -/
theorem visited_linear (hone : ClaimedOnce calls s) (es : List (Event Err)) :
    (∀ r ∈ Runs.visited (step calls) { committed := s } es, Linear calls s r) ∧
    (Runs.visited (step calls) { committed := s } es).Pairwise Settles := by
  have hstart : Linear calls s { committed := s } := Or.inl (start_undecided s)
  have hstep : ∀ r e r', Linear calls s r → True → step calls r e = .ok r' →
      Linear calls s r' ∧ Settles r r' := fun _ _ _ h _ hstep => step_linear hone h hstep
  have hok := Runs.stepsMeet_true (step calls) { committed := s } es
  constructor
  · exact Runs.visited_invariant (fun r e r' h hok hstep' => (hstep r e r' h hok hstep').1) es _
      hstart hok
  · have hchain := Runs.visited_isChain (fun _ i hi => ⟨hi, rfl⟩) hstep es _ hstart hok
    have : IsTrans (System Store Seen Held Err) Settles := ⟨fun _ _ _ => Settles.trans⟩
    exact hchain.pairwise

end Claims
