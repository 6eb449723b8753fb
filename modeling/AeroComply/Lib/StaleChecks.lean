import AeroComply.Lib.Runs

/-!
# StaleChecks — a status checked when it is read, and written later

Any number of calls move the status of one record.  A call reads the record without a
lock, checks the move against the status it has read, writes by key, which takes the lock
of the record and waits for it, and commits; it can raise at any point, and then what it
has not committed is rolled back.

`past` keeps what was committed before, so that the statuses that were ever committed can
be read off a state.  They follow the table exactly when every commit that finds another
status than its call has read finds one that the table still lets it leave that way:
`forall_visited_path_iff`.
-/

namespace StaleChecks

variable {Store Seen Err St : Type}

/-- The parts of a call. -/
structure Move (Store Seen Err : Type) where
  read : Store → Except Err Seen
  check : Seen → Store → Except Err Unit
  write : Seen → Store → Store

/-- The call with nobody else around. -/
def Move.alone (m : Move Store Seen Err) (s : Store) : Except Err Store := do
  let seen ← m.read s
  m.check seen s
  pure (m.write seen s)

/-- How far a call has come. -/
inductive Progress (Store Seen Err : Type)
  | idle
  | seen (seen : Seen)
  | checked (seen : Seen)
  | written (seen : Seen) (working : Store)
  | done
  | failed (e : Err)

/-- What is committed, what was committed before it (the oldest first), and the calls. -/
structure System (Store Seen Err : Type) where
  committed : Store
  past : List Store := []
  holder : Option Nat := none
  progress : Nat → Progress Store Seen Err := fun _ => .idle

namespace System

variable (r : System Store Seen Err)

/-- Only the call itself moves on. -/
def moved (who : Nat) (p : Progress Store Seen Err) : System Store Seen Err :=
  { r with progress := Function.update r.progress who p }

/-- Everything that was ever committed. -/
def history : List Store := r.past ++ [r.committed]

@[simp] theorem moved_committed (who : Nat) (p : Progress Store Seen Err) :
    (r.moved who p).committed = r.committed := rfl

@[simp] theorem moved_past (who : Nat) (p : Progress Store Seen Err) :
    (r.moved who p).past = r.past := rfl

@[simp] theorem moved_progress_self (who : Nat) (p : Progress Store Seen Err) :
    (r.moved who p).progress who = p := Function.update_self ..

theorem moved_progress_of_ne {who i : Nat} (h : i ≠ who) (p : Progress Store Seen Err) :
    (r.moved who p).progress i = r.progress i := Function.update_of_ne h ..

end System

/-- A call takes its next step, or raises. -/
inductive Event (Err : Type)
  | go (who : Nat)
  | raise (who : Nat) (e : Err)

variable (calls : Nat → Move Store Seen Err)

/-- The next step of a call. -/
def next (r : System Store Seen Err) (who : Nat) : System Store Seen Err :=
  match r.progress who with
  | .idle =>
    match (calls who).read r.committed with
    | .ok seen => r.moved who (.seen seen)
    | .error e => r.moved who (.failed e)
  | .seen seen =>
    match (calls who).check seen r.committed with
    | .ok () => r.moved who (.checked seen)
    | .error e => r.moved who (.failed e)
  | .checked seen =>
    -- the lock is taken: wait
    if r.holder.isSome then r
    else
      { r.moved who (.written seen ((calls who).write seen r.committed)) with holder := some who }
  | .written _ working =>
    { r.moved who .done with committed := working, past := r.history, holder := none }
  | .done | .failed _ => r

/-- The call raises; its transaction is rolled back. -/
def abort (r : System Store Seen Err) (who : Nat) (e : Err) : System Store Seen Err :=
  match r.progress who with
  | .idle | .seen _ | .checked _ => r.moved who (.failed e)
  | .written _ _ => { r.moved who (.failed e) with holder := none }
  | .done | .failed _ => r

def step (r : System Store Seen Err) : Event Err → Except Err (System Store Seen Err)
  | .go who => .ok (next calls r who)
  | .raise who e => .ok (abort r who e)

/-! ## Moves along a table -/

/-- The status of the record, the status a call has read, and the table of moves. -/
structure Machine (Store Seen St : Type) where
  status : Store → St
  seenStatus : Seen → St
  Allowed : St → St → Prop

variable (m : Machine Store Seen St)

/-- The table lets the record go from the one store to the other. -/
def Machine.Step (s s' : Store) : Prop := m.Allowed (m.status s) (m.status s')

/-- The statuses that were ever committed follow the table. -/
def Path (r : System Store Seen Err) : Prop := r.history.IsChain m.Step

/-- A call that commits over another status than it has read finds one that the table lets it
leave for its own. -/
def StillAllowed (r : System Store Seen Err) : Event Err → Prop
  | .go who => ∀ seen working, r.progress who = .written seen working →
      m.status r.committed ≠ m.seenStatus seen → m.Step r.committed working
  | .raise _ _ => True

/-- Where the status is still as it was read, the call moves along the table. -/
def Moves (c : Move Store Seen Err) (seen : Seen) : Prop :=
  ∀ s, m.status s = m.seenStatus seen → m.Step s (c.write seen s)

/-- Every call checks the move against the status it has read. -/
def Checks : Prop :=
  ∀ i seen s, (calls i).check seen s = .ok () → Moves m (calls i) seen

/-- The calls have checked before they write, and nobody commits while one has written. -/
structure Sound (r : System Store Seen Err) : Prop where
  checked : ∀ i seen, r.progress i = .checked seen → Moves m (calls i) seen
  written : ∀ i seen working, r.progress i = .written seen working →
    Moves m (calls i) seen ∧ r.holder = some i ∧ working = (calls i).write seen r.committed

variable {calls m} {r : System Store Seen Err} {who : Nat}

theorem start_sound (s : Store) : Sound calls m { committed := s } where
  checked := nofun
  written := nofun

variable {p : Progress Store Seen Err} {seen : Seen}

theorem Sound.moved (h : Sound calls m r)
    (hchecked : ∀ seen, p = .checked seen → Moves m (calls who) seen)
    (hwritten : ∀ seen working, p ≠ .written seen working) : Sound calls m (r.moved who p) where
  checked := by
    intro i seen hi
    by_cases hw : i = who
    · subst hw
      rw [System.moved_progress_self] at hi
      exact hchecked seen hi
    · rw [System.moved_progress_of_ne r hw] at hi
      exact h.checked i seen hi
  written := by
    intro i seen working hi
    by_cases hw : i = who
    · subst hw
      rw [System.moved_progress_self] at hi
      exact absurd hi (hwritten seen working)
    · rw [System.moved_progress_of_ne r hw] at hi
      exact h.written i seen working hi

theorem Sound.wrote (h : Sound calls m r) (hp : r.progress who = .checked seen)
    (hfree : r.holder = none) :
    Sound calls m { r.moved who (.written seen ((calls who).write seen r.committed)) with
      holder := some who } where
  checked := by
    intro i seen' hi
    by_cases hw : i = who
    · subst hw
      exact absurd ((System.moved_progress_self r i _).symm.trans hi) nofun
    · exact h.checked i seen' ((System.moved_progress_of_ne r hw _).symm.trans hi)
  written := by
    intro i seen' working hi
    by_cases hw : i = who
    · subst hw
      obtain ⟨rfl, rfl⟩ := Progress.written.inj ((System.moved_progress_self r i _).symm.trans hi)
      exact ⟨h.checked i seen hp, rfl, rfl⟩
    · -- another call would hold the lock
      obtain ⟨_, hholder, _⟩ :=
        h.written i seen' working ((System.moved_progress_of_ne r hw _).symm.trans hi)
      rw [hfree] at hholder
      cases hholder

theorem Sound.released (h : Sound calls m r) {working : Store}
    (hp : r.progress who = .written seen working) (hchecked : ∀ seen, p ≠ .checked seen)
    (hwritten : ∀ seen working, p ≠ .written seen working) (committed : Store) (past : List Store) :
    Sound calls m ⟨committed, past, none, (r.moved who p).progress⟩ where
  checked := by
    intro i seen' hi
    by_cases hw : i = who
    · subst hw
      exact absurd ((System.moved_progress_self r i p).symm.trans hi) (hchecked seen')
    · exact h.checked i seen' ((System.moved_progress_of_ne r hw p).symm.trans hi)
  written := by
    intro i seen' working' hi
    by_cases hw : i = who
    · subst hw
      exact absurd ((System.moved_progress_self r i p).symm.trans hi) (hwritten seen' working')
    · obtain ⟨_, hother, _⟩ :=
        h.written i seen' working' ((System.moved_progress_of_ne r hw p).symm.trans hi)
      obtain ⟨_, hholder, _⟩ := h.written who seen working hp
      exact absurd (Option.some.inj (hother.symm.trans hholder)) hw

/-! ## Steps -/

theorem Sound.next (hcalls : Checks calls m) (h : Sound calls m r) (who : Nat) :
    Sound calls m (next calls r who) := by
  rw [StaleChecks.next]
  cases hp : r.progress who with
  | idle =>
    cases (calls who).read r.committed with
    | ok seen => exact h.moved nofun nofun
    | error e => exact h.moved nofun nofun
  | seen seen =>
    dsimp only
    cases hc : (calls who).check seen r.committed with
    | ok u =>
      refine h.moved ?_ nofun
      rintro _ ⟨⟩
      exact hcalls who seen r.committed hc
    | error e =>
      exact h.moved nofun nofun
  | checked seen =>
    cases hh : r.holder with
    | some other => exact h
    | none => exact h.wrote hp hh
  | written seen working =>
    have hdone := h.released hp (p := .done) nofun nofun working r.history
    exact hdone
  | done => exact h
  | failed e => exact h

theorem Sound.abort (h : Sound calls m r) (who : Nat) (e : Err) :
    Sound calls m (abort r who e) := by
  rw [StaleChecks.abort]
  cases hp : r.progress who with
  | idle => exact h.moved nofun nofun
  | seen seen => exact h.moved nofun nofun
  | checked seen => exact h.moved nofun nofun
  | written seen working =>
    have hfailed := h.released (p := .failed e) hp nofun nofun r.committed r.past
    exact hfailed
  | done => exact h
  | failed _ => exact h

theorem Sound.attempt (hcalls : Checks calls m) (h : Sound calls m r) (e : Event Err) :
    Sound calls m (Runs.attempt (step calls) r e) := by
  cases e with
  | go who => exact h.next hcalls who
  | raise who e => exact h.abort who e

theorem history_next (calls : Nat → Move Store Seen Err) (r : System Store Seen Err) (who : Nat) :
    (∃ seen working, r.progress who = .written seen working ∧
        (next calls r who).history = r.history ++ [working]) ∨
      ((∀ seen working, r.progress who ≠ .written seen working) ∧
        (next calls r who).history = r.history) := by
  rw [StaleChecks.next]
  cases hp : r.progress who with
  | written seen working => exact Or.inl ⟨seen, working, rfl, rfl⟩
  | idle =>
    refine Or.inr ⟨nofun, ?_⟩
    cases (calls who).read r.committed <;> rfl
  | seen seen =>
    refine Or.inr ⟨nofun, ?_⟩
    dsimp only
    cases (calls who).check seen r.committed <;> rfl
  | checked seen =>
    refine Or.inr ⟨nofun, ?_⟩
    cases hh : r.holder <;> simp [System.history]
  | done => exact Or.inr ⟨nofun, rfl⟩
  | failed e => exact Or.inr ⟨nofun, rfl⟩

theorem history_abort (r : System Store Seen Err) (who : Nat) (e : Err) :
    (abort r who e).history = r.history := by
  rw [StaleChecks.abort]
  cases r.progress who <;> rfl

theorem isChain_append_singleton {α : Type} {R : α → α → Prop} {l : List α} {a b : α} :
    ((l ++ [a]) ++ [b]).IsChain R ↔ (l ++ [a]).IsChain R ∧ R a b := by
  rw [List.isChain_append]
  refine and_congr_right fun _ => ?_
  simp

/-- **ONE COMMIT**: the path goes on exactly when the commit finds a status it may leave. -/
theorem path_attempt_iff (h : Sound calls m r) (hpath : Path m r) (e : Event Err) :
    Path m (Runs.attempt (step calls) r e) ↔ StillAllowed m r e := by
  cases e with
  | raise who e =>
    show Path m (StaleChecks.abort r who e) ↔ True
    rw [Path, history_abort]
    exact iff_of_true hpath trivial
  | go who =>
    show Path m (StaleChecks.next calls r who) ↔ _
    rw [Path]
    rcases history_next calls r who with ⟨seen, working, hp, hhist⟩ | ⟨hp, hhist⟩
    · rw [hhist, System.history, isChain_append_singleton]
      constructor
      · rintro ⟨_, hstep⟩ seen' working' hp' _
        obtain ⟨rfl, rfl⟩ := Progress.written.inj (hp.symm.trans hp')
        exact hstep
      · intro hok
        refine ⟨hpath, ?_⟩
        obtain ⟨hmoves, _, hworking⟩ := h.written who seen working hp
        by_cases hsame : m.status r.committed = m.seenStatus seen
        · rw [hworking]
          exact hmoves r.committed hsame
        · exact hok seen working hp hsame
    · rw [hhist]
      exact iff_of_true hpath fun seen working hw => absurd hw (hp seen working)

/-- **PATHS**: in an interleaving the committed statuses follow the table all along exactly when
every commit finds the status that its call has read, or one that may be left as well. -/
theorem forall_visited_path_iff (hcalls : Checks calls m) (s : Store) (es : List (Event Err)) :
    (∀ r ∈ Runs.visited (step calls) { committed := s } es, Path m r) ↔
      Runs.StepsMeet (step calls) (StillAllowed m) { committed := s } es := by
  have hinv : ∀ r e, Sound calls m r → Sound calls m (Runs.attempt (step calls) r e) :=
    fun _ e h => h.attempt hcalls e
  exact Runs.forall_visited_iff hinv es _ (start_sound s) (List.isChain_singleton s)
    fun _ h hpath e _ => path_attempt_iff h hpath e

theorem Path.exists_allowed (h : Path m r) {s : Store} (hs : s ∈ r.past) :
    ∃ s' ∈ r.history, m.Step s s' := by
  obtain ⟨before, after, hpast⟩ := List.append_of_mem hs
  cases after with
  | nil =>
    refine ⟨r.committed, by simp [System.history], ?_⟩
    rw [Path, System.history, hpast, isChain_append_singleton] at h
    exact h.2
  | cons s' after =>
    refine ⟨s', by simp [System.history, hpast], ?_⟩
    rw [Path, System.history, hpast] at h
    have hpair : [s, s'].IsChain m.Step := by
      refine h.infix ⟨before, after ++ [r.committed], ?_⟩
      simp
    exact List.isChain_pair.1 hpair

end StaleChecks
