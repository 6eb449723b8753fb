import AeroComply.Import.Completeness

/-!
# CommitRace — commits and configurations of one job at the same time

Any number of `commit_import_job` and `configure_import_job` calls on one job.  A
commit claims the job by the `UPDATE … WHERE status IN (VALIDATED, STAGED)`, reads
it, takes its rows one after the other and writes the final status.  A configuration
reads the job without a lock, validates its rows again and writes the job back, its
status among the columns that have changed for it.

So a configuration that has read STAGED writes VALIDATED whatever the status is by
then: a job that a commit has claimed can be claimed again.  `once_while_unclaimed`
says that this is the only way.
-/

namespace AeroComply

open Relational (Table)
open Sessions (Call)

namespace ImportService

namespace CommitRace

/-- What the `UPDATE` of a loaded row writes in a column: a changed value is written, and an
unchanged one may be left out. -/
structure Flush where
  column : {α : Type} → [DecidableEq α] → (loaded assigned stored : α) → α
  changed : ∀ {α : Type} [DecidableEq α] (loaded assigned stored : α), loaded ≠ assigned →
    column loaded assigned stored = assigned
  either : ∀ {α : Type} [DecidableEq α] (loaded assigned stored : α),
    column loaded assigned stored = assigned ∨ column loaded assigned stored = stored

/-- An unchanged value is left out. -/
def Flush.netChanges : Flush where
  column loaded assigned stored := if loaded = assigned then stored else assigned
  changed _ _ _ h := if_neg h
  either loaded assigned _ := by
    by_cases h : loaded = assigned
    · exact Or.inr (if_pos h)
    · exact Or.inl (if_neg h)

inductive JobCall
  | commit (actorUserId : Option UUID) (run : CommitRun)
  | configure (now : Nat → PyDateTime) (columnMapping matchStrategy : Option (Dict String))

/-- A row that a commit has still to take: its number, and the call on the services. -/
structure PendingRow where
  rowNumber : Nat
  commitRow : Call Database Error Unit

/-- How far a call has come. -/
inductive Progress
  | idle
  -- a commit: its claim is durable, it has read the job, it is through
  | claimed
  | importing (todo : List PendingRow) (created : Nat) (failures : List (Nat × Error))
  | committed
  -- a configuration: it has read the job, it has validated the rows again
  | loaded (job : ImportJob)
  | validated (job assigned : ImportJob)
  -- it raised, or a configuration is through
  | ended

/-- The call is a commit that got past its claim. -/
def Progress.passed : Progress → Bool
  | .claimed | .importing _ _ _ | .committed => true
  | .idle | .loaded _ | .validated _ _ | .ended => false

/-- The job, the tables its rows are written to, what each row has created in which call, and
where each call is. -/
structure Race where
  job : ImportJob
  db : Database
  created : List (Nat × Nat) := []
  progress : Nat → Progress := fun _ => .idle

/-- Only the call itself moves on. -/
def Race.moved (r : Race) (who : Nat) (progress : Progress) : Race :=
  { r with progress := Function.update r.progress who progress }

variable (py : Interpreter) (flush : Flush) (calls : Nat → JobCall)

/-- The rows that a commit of the job takes. -/
def rowsOf (actorUserId : Option UUID) (run : CommitRun) (job : ImportJob) : List PendingRow :=
  match job.rowResults with
  | .aircraft rows => (importable rows).map fun row =>
    ⟨row.rowNumber, commitAircraftRow run job.organizationId row⟩
  | .flight rows => (importable rows).map fun row =>
    ⟨row.rowNumber, commitFlightRow py run job.organizationId actorUserId job.id row⟩

/-- The final write of a commit. -/
def finish (run : CommitRun) (created : Nat) (failures : List (Nat × Error)) (job : ImportJob) :
    ImportJob :=
  { job with
    status := finalStatus { db := {}, created, failures }
    rowsCreated := created
    rowsFailed := failures.length
    completedAt := some run.finishedAt
    errorSummary :=
      if failures = [] then none
      else some ("; ".intercalate (failures.map fun f => failureMessage f.1 f.2)) }

/-- The next step of a commit. -/
def commitStep (r : Race) (who : Nat) (actorUserId : Option UUID) (run : CommitRun) : Race :=
  match r.progress who with
  | .idle =>
    if isOpen r.job.status then
      { r.moved who .claimed with job := { r.job with status := .importing } }
    else r.moved who .ended
  | .claimed => r.moved who (.importing (rowsOf py actorUserId run r.job) 0 [])
  | .importing (row :: todo) created failures =>
    let r' := { r with db := Sessions.left row.commitRow r.db }
    match Sessions.answer row.commitRow r.db with
    | .ok _ => { r'.moved who (.importing todo (created + 1) failures) with
        created := (who, row.rowNumber) :: r.created }
    | .error e => r'.moved who (.importing todo created (failures ++ [(row.rowNumber, e)]))
  | .importing [] created failures =>
    { r.moved who .committed with job := finish run created failures r.job }
  | .committed | .loaded _ | .validated _ _ | .ended => r

/-- The job with its rows validated again. -/
def configured (db : Database) (now : Nat → PyDateTime)
    (columnMapping matchStrategy : Option (Dict String)) (job : ImportJob) :
    Except Error ImportJob := do
  let columnMapping := columnMapping.getD job.columnMapping
  let strategy := mergedStrategy job.matchStrategy matchStrategy
  let rowResults ← validateDomain py db job.organizationId now job.rowResults.domain
    (storedRows py job.rowResults) columnMapping strategy
  pure (withCounters
    { job with columnMapping, matchStrategy := strategy, rowResults, status := .validated })

/-- The write of a configuration, onto the row as it is by then. -/
def written (job assigned stored : ImportJob) : ImportJob :=
  { stored with
    status := flush.column job.status assigned.status stored.status
    columnMapping := flush.column job.columnMapping assigned.columnMapping stored.columnMapping
    matchStrategy := flush.column job.matchStrategy assigned.matchStrategy stored.matchStrategy
    rowResults := flush.column job.rowResults assigned.rowResults stored.rowResults
    rowsValid := flush.column job.rowsValid assigned.rowsValid stored.rowsValid
    rowsInvalid := flush.column job.rowsInvalid assigned.rowsInvalid stored.rowsInvalid
    warningCount := flush.column job.warningCount assigned.warningCount stored.warningCount
    errorCount := flush.column job.errorCount assigned.errorCount stored.errorCount }

/-- The next step of a configuration. -/
def configureStep (r : Race) (who : Nat) (now : Nat → PyDateTime)
    (columnMapping matchStrategy : Option (Dict String)) : Race :=
  match r.progress who with
  | .idle => if isOpen r.job.status then r.moved who (.loaded r.job) else r.moved who .ended
  | .loaded job =>
    match configured py r.db now columnMapping matchStrategy job with
    | .ok assigned => r.moved who (.validated job assigned)
    | .error _ => r.moved who .ended
  | .validated job assigned =>
    { r.moved who .ended with job := written flush job assigned r.job }
  | .claimed | .importing _ _ _ | .committed | .ended => r

/-- The call `who` takes its next step. -/
def step (r : Race) (who : Nat) : Except Error Race :=
  match calls who with
  | .commit actorUserId run => .ok (commitStep py r who actorUserId run)
  | .configure now columnMapping matchStrategy =>
    .ok (configureStep py flush r who now columnMapping matchStrategy)

/-- At most one commit has got past its claim, and every row has created records in one call at
most. -/
structure Once (r : Race) : Prop where
  claim : ∀ i j, (r.progress i).passed = true → (r.progress j).passed = true → i = j
  row : ∀ i j n, (i, n) ∈ r.created → (j, n) ∈ r.created → i = j

/-- A configuration that writes by now leaves the status of a job that is no longer open as it
is. -/
def LeavesClaimed (r : Race) (who : Nat) : Prop :=
  ∀ job assigned, r.progress who = .validated job assigned → isOpen r.job.status = false →
    flush.column job.status assigned.status r.job.status = r.job.status

/-- Nothing has happened to the job yet. -/
def start (job : ImportJob) (db : Database) : Race := { job, db }

/-- The state after some steps. -/
def after (job : ImportJob) (db : Database) (es : List Nat) : Race :=
  es.foldl (Runs.attempt (step py flush calls)) (start job db)

/-! ## What a step does -/

section Steps

variable {py} {flush} {calls} {r : Race} {who : Nat}

/-- What one step of a call can do to the job, to the log of what was created, and to where the
call is. -/
inductive Moves (flush : Flush) (r : Race) (who : Nat) : Race → Prop
  | stays : Moves flush r who r
  | claims (h : r.progress who = .idle) (hopen : isOpen r.job.status = true) :
      Moves flush r who { r.moved who .claimed with job := { r.job with status := .importing } }
  | imports (h : (r.progress who).passed = true) {p : Progress} (hp : p.passed = true)
      {db : Database} {created : List (Nat × Nat)}
      (hcreated : ∀ i n, (i, n) ∈ created → (i, n) ∈ r.created ∨ i = who) :
      Moves flush r who { r.moved who p with db, created }
  | finishes (h : (r.progress who).passed = true) {job : ImportJob}
      (hjob : isOpen job.status = false) :
      Moves flush r who { r.moved who .committed with job }
  | raises (h : (r.progress who).passed = false) : Moves flush r who (r.moved who .ended)
  | loads (h : r.progress who = .idle) (hopen : isOpen r.job.status = true) :
      Moves flush r who (r.moved who (.loaded r.job))
  | validates {job assigned : ImportJob} (h : r.progress who = .loaded job)
      (hassigned : assigned.status = .validated) :
      Moves flush r who (r.moved who (.validated job assigned))
  | writes {job assigned : ImportJob} (h : r.progress who = .validated job assigned) :
      Moves flush r who { r.moved who .ended with job := written flush job assigned r.job }

theorem finish_closed (run : CommitRun) (created : Nat) (failures : List (Nat × Error))
    (job : ImportJob) : isOpen (finish run created failures job).status = false := by
  show isOpen (finalStatus _) = false
  rw [finalStatus]
  split
  · rfl
  · split
    · rfl
    · rfl

theorem configured_status {db : Database} {now : Nat → PyDateTime}
    {columnMapping matchStrategy : Option (Dict String)} {job assigned : ImportJob}
    (h : configured py db now columnMapping matchStrategy job = .ok assigned) :
    assigned.status = .validated := by
  obtain ⟨rowResults, _, h⟩ := bind_eq_ok.1 h
  cases pure_eq_ok.1 h
  rfl

theorem commitStep_moves (actorUserId : Option UUID) (run : CommitRun) :
    Moves flush r who (commitStep py r who actorUserId run) := by
  rw [commitStep]
  cases hprogress : r.progress who with
  | idle =>
    by_cases hopen : isOpen r.job.status = true
    · simp only [if_pos hopen]
      exact .claims hprogress hopen
    · simp only [if_neg hopen]
      exact .raises (by rw [hprogress]; rfl)
  | claimed => exact .imports (by rw [hprogress]; rfl) rfl fun _ _ hin => Or.inl hin
  | importing todo created failures =>
    have hpassed : (r.progress who).passed = true := by
      rw [hprogress]
      rfl
    cases todo with
    | nil => exact .finishes hpassed (finish_closed run created failures r.job)
    | cons row todo =>
      simp only
      cases Sessions.answer row.commitRow r.db with
      | ok x =>
        refine .imports hpassed rfl ?_
        intro i n hin
        rcases List.mem_cons.1 hin with hnow | hold
        · exact Or.inr (congrArg Prod.fst hnow)
        · exact Or.inl hold
      | error e => exact .imports hpassed rfl fun _ _ hin => Or.inl hin
  | committed => exact .stays
  | loaded job => exact .stays
  | validated job assigned => exact .stays
  | ended => exact .stays

theorem configureStep_moves (now : Nat → PyDateTime)
    (columnMapping matchStrategy : Option (Dict String)) :
    Moves flush r who (configureStep py flush r who now columnMapping matchStrategy) := by
  rw [configureStep]
  cases hprogress : r.progress who with
  | idle =>
    by_cases hopen : isOpen r.job.status = true
    · simp only [if_pos hopen]
      exact .loads hprogress hopen
    · simp only [if_neg hopen]
      exact .raises (by rw [hprogress]; rfl)
  | loaded job =>
    simp only
    cases hconfigured : configured py r.db now columnMapping matchStrategy job with
    | ok assigned => exact .validates hprogress (configured_status hconfigured)
    | error e => exact .raises (by rw [hprogress]; rfl)
  | validated job assigned => exact .writes hprogress
  | claimed => exact .stays
  | importing todo created failures => exact .stays
  | committed => exact .stays
  | ended => exact .stays

/-- **ONE STEP**, whichever call takes it. -/
theorem step_moves (py : Interpreter) (flush : Flush) (calls : Nat → JobCall) (r : Race)
    (who : Nat) : ∃ r', step py flush calls r who = .ok r' ∧ Moves flush r who r' := by
  rw [step]
  cases calls who with
  | commit actorUserId run => exact ⟨_, rfl, commitStep_moves actorUserId run⟩
  | configure now columnMapping matchStrategy =>
    exact ⟨_, rfl, configureStep_moves now columnMapping matchStrategy⟩

theorem attempt_moves (r : Race) (who : Nat) :
    Moves flush r who (Runs.attempt (step py flush calls) r who) := by
  obtain ⟨r', hstep, hmoves⟩ := step_moves py flush calls r who
  rw [Runs.attempt, hstep]
  exact hmoves

@[simp] theorem moved_progress_self (p : Progress) : (r.moved who p).progress who = p :=
  Function.update_self ..

theorem moved_progress_of_ne {i : Nat} (h : i ≠ who) (p : Progress) :
    (r.moved who p).progress i = r.progress i := Function.update_of_ne h ..

theorem passed_self {p : Progress} (hp : p.passed = true) :
    ((r.moved who p).progress who).passed = true := by
  rw [moved_progress_self]
  exact hp

theorem passed_moved {p : Progress} (hp : p.passed = (r.progress who).passed) (i : Nat) :
    ((r.moved who p).progress i).passed = (r.progress i).passed := by
  by_cases hi : i = who
  · subst hi
    rw [moved_progress_self, hp]
  · rw [moved_progress_of_ne hi]

end Steps

/-! ## The claim -/

section Claim

variable {py} {flush} {calls} {r r' : Race} {who : Nat}

/-- While the job is open no commit has got past its claim, and only a commit that has creates
records. -/
structure Claimed (r : Race) : Prop where
  unclaimed : isOpen r.job.status = true → ∀ i, (r.progress i).passed = false
  claim : ∀ i j, (r.progress i).passed = true → (r.progress j).passed = true → i = j
  created : ∀ i n, (i, n) ∈ r.created → (r.progress i).passed = true

theorem Claimed.once (h : Claimed r) : Once r where
  claim := h.claim
  row i j n hi hj := h.claim i j (h.created i n hi) (h.created j n hj)

theorem Claimed.next (h : Claimed r) {p : Progress} {job : ImportJob} {db : Database}
    {created : List (Nat × Nat)} (hp : p.passed = (r.progress who).passed)
    (hjob : isOpen job.status = true → isOpen r.job.status = true)
    (hcreated : ∀ i n, (i, n) ∈ created → (r.progress i).passed = true) :
    Claimed { r.moved who p with job, db, created } := by
  refine ⟨?_, ?_, ?_⟩
  · intro hopen i
    exact (passed_moved hp i).trans (h.unclaimed (hjob hopen) i)
  · intro i j hi hj
    exact h.claim i j ((passed_moved hp i).symm.trans hi) ((passed_moved hp j).symm.trans hj)
  · intro i n hin
    exact (passed_moved hp i).trans (hcreated i n hin)

theorem Claimed.claimed (h : Claimed r) (hopen : isOpen r.job.status = true) :
    Claimed { r.moved who .claimed with job := { r.job with status := .importing } } := by
  have hnobody := h.unclaimed hopen
  have honly : ∀ i, ((r.moved who .claimed).progress i).passed = true → i = who := by
    intro i hi
    by_contra hne
    rw [moved_progress_of_ne hne, hnobody i] at hi
    cases hi
  refine ⟨fun hstill => (nomatch hstill), ?_, ?_⟩
  · intro i j hi hj
    exact (honly i hi).trans (honly j hj).symm
  · intro i n hin
    have hpassed := h.created i n hin
    rw [hnobody i] at hpassed
    cases hpassed

/-- **A CLAIM IS KEPT** by every move that opens no closed job. -/
theorem Claimed.moves (h : Claimed r) (hmoves : Moves flush r who r')
    (hleaves : LeavesClaimed flush r who) : Claimed r' := by
  cases hmoves with
  | stays => exact h
  | claims _ hopen => exact h.claimed hopen
  | imports hpassed hp hcreated =>
    refine h.next (hp.trans hpassed.symm) id ?_
    intro i n hin
    rcases hcreated i n hin with hold | rfl
    · exact h.created i n hold
    · exact hpassed
  | finishes hpassed hjob =>
    refine h.next hpassed.symm ?_ h.created
    intro hopen
    rw [hjob] at hopen
    cases hopen
  | raises hpassed => exact h.next hpassed.symm id h.created
  | loads hprogress _ => exact h.next (by rw [hprogress]; rfl) id h.created
  | validates hprogress _ => exact h.next (by rw [hprogress]; rfl) id h.created
  | @writes job assigned hprogress =>
    refine h.next (by rw [hprogress]; rfl) ?_ h.created
    intro hopen
    by_contra hclosed
    have hstatus := hleaves job assigned hprogress (eq_false_of_ne_true hclosed)
    exact hclosed ((congrArg isOpen hstatus).symm.trans hopen)

/-- What a configuration is about to write is VALIDATED, and if the job is closed by then, a
commit has claimed it. -/
structure Watched (r : Race) : Prop where
  loaded : ∀ i job, r.progress i = .loaded job →
    isOpen r.job.status = true ∨ ∃ j, (r.progress j).passed = true
  validated : ∀ i job assigned, r.progress i = .validated job assigned →
    assigned.status = .validated ∧
      (isOpen r.job.status = true ∨ ∃ j, (r.progress j).passed = true)

theorem Moves.keeps (hmoves : Moves flush r who r')
    (hassigned : ∀ job assigned, r.progress who = .validated job assigned →
      assigned.status = .validated)
    (h : isOpen r.job.status = true ∨ ∃ j, (r.progress j).passed = true) :
    isOpen r'.job.status = true ∨ ∃ j, (r'.progress j).passed = true := by
  cases hmoves with
  | stays => exact h
  | claims _ _ => exact Or.inr ⟨who, passed_self rfl⟩
  | imports _ hp _ => exact Or.inr ⟨who, passed_self hp⟩
  | finishes _ _ => exact Or.inr ⟨who, passed_self rfl⟩
  | raises hpassed =>
    have hp : Progress.ended.passed = (r.progress who).passed := hpassed.symm
    exact h.imp id fun ⟨j, hj⟩ => ⟨j, (passed_moved hp j).trans hj⟩
  | loads hprogress _ =>
    exact h.imp id fun ⟨j, hj⟩ => ⟨j, (passed_moved (by rw [hprogress]; rfl) j).trans hj⟩
  | validates hprogress _ =>
    exact h.imp id fun ⟨j, hj⟩ => ⟨j, (passed_moved (by rw [hprogress]; rfl) j).trans hj⟩
  | @writes job assigned hprogress =>
    refine h.imp ?_ fun ⟨j, hj⟩ => ⟨j, (passed_moved (by rw [hprogress]; rfl) j).trans hj⟩
    intro hopen
    show isOpen (flush.column job.status assigned.status r.job.status) = true
    rcases flush.either job.status assigned.status r.job.status with hnew | hold
    · rw [hnew, hassigned job assigned hprogress]
      rfl
    · rw [hold]
      exact hopen

theorem Moves.others (hmoves : Moves flush r who r') {i : Nat} (hi : i ≠ who) :
    r'.progress i = r.progress i := by
  cases hmoves with
  | stays => rfl
  | _ => exact Function.update_of_ne hi ..

theorem Moves.loaded (hmoves : Moves flush r who r') {job : ImportJob}
    (h : r'.progress who = .loaded job) :
    r' = r ∨ r'.job = job ∧ isOpen job.status = true := by
  cases hmoves with
  | stays => exact Or.inl rfl
  | loads _ hopen =>
    cases (moved_progress_self _).symm.trans h
    exact Or.inr ⟨rfl, hopen⟩
  | imports _ hp _ =>
    cases (moved_progress_self _).symm.trans h
    cases hp
  | _ => cases (moved_progress_self _).symm.trans h

theorem Moves.validated (hmoves : Moves flush r who r') {job assigned : ImportJob}
    (h : r'.progress who = .validated job assigned) :
    r' = r ∨ assigned.status = .validated ∧ r.progress who = .loaded job := by
  cases hmoves with
  | stays => exact Or.inl rfl
  | validates hprogress hassigned =>
    cases (moved_progress_self _).symm.trans h
    exact Or.inr ⟨hassigned, hprogress⟩
  | imports _ hp _ =>
    cases (moved_progress_self _).symm.trans h
    cases hp
  | _ => cases (moved_progress_self _).symm.trans h

theorem Watched.moves (h : Watched r) (hmoves : Moves flush r who r') : Watched r' := by
  have hkeeps := hmoves.keeps fun job assigned hp => (h.validated who job assigned hp).1
  refine ⟨?_, ?_⟩
  · intro i job hi
    by_cases hwho : i = who
    · subst hwho
      rcases hmoves.loaded hi with rfl | ⟨rfl, hopen⟩
      · exact h.loaded i job hi
      · exact Or.inl hopen
    · rw [hmoves.others hwho] at hi
      exact hkeeps (h.loaded i job hi)
  · intro i job assigned hi
    by_cases hwho : i = who
    · subst hwho
      rcases hmoves.validated hi with rfl | ⟨hassigned, hloaded⟩
      · exact h.validated i job assigned hi
      · exact ⟨hassigned, hkeeps (h.loaded i job hloaded)⟩
    · rw [hmoves.others hwho] at hi
      obtain ⟨hassigned, hheld⟩ := h.validated i job assigned hi
      exact ⟨hassigned, hkeeps hheld⟩

end Claim

/-! ## Interleavings -/

section Interleavings

variable {py} {flush} {calls} {job : ImportJob} {db : Database}

theorem start_claimed : Claimed (start job db) where
  unclaimed _ _ := rfl
  claim _ _ hi _ := (nomatch hi)
  created _ _ hin := (nomatch hin)

theorem after_append (es more : List Nat) :
    after py flush calls job db (es ++ more)
      = more.foldl (Runs.attempt (step py flush calls)) (after py flush calls job db es) :=
  List.foldl_append

theorem watched_after (es : List Nat) : Watched (after py flush calls job db es) := by
  induction es using List.reverseRecOn with
  | nil => exact ⟨fun _ _ hi => (nomatch hi), fun _ _ _ hi => (nomatch hi)⟩
  | append_singleton es who ih =>
    rw [after_append]
    exact ih.moves (attempt_moves _ who)

/-- **CLAIMED AGAIN**: once a configuration has opened a closed job, the next commit gets past its
claim too. -/
theorem not_once_of_opened {es : List Nat} {who : Nat}
    (hopens : ¬LeavesClaimed flush (after py flush calls job db es) who)
    (hconfigure : ∃ now columnMapping matchStrategy,
      calls who = .configure now columnMapping matchStrategy) {k : Nat}
    {actorUserId : Option UUID} {run : CommitRun} (hcommit : calls k = .commit actorUserId run)
    (hidle : (after py flush calls job db es).progress k = .idle) :
    ¬Once (after py flush calls job db (es ++ [who, k])) := by
  intro honce
  rw [LeavesClaimed] at hopens
  push Not at hopens
  obtain ⟨loaded, assigned, hprogress, hclosed, hwritten⟩ := hopens
  obtain ⟨now, columnMapping, matchStrategy, hcall⟩ := hconfigure
  -- the job was claimed in the meantime
  obtain ⟨hassigned, hheld⟩ := (watched_after es).validated who loaded assigned hprogress
  obtain ⟨j, hj⟩ := hheld.resolve_left (ne_true_of_eq_false hclosed)
  have hwho : k ≠ who := by
    rintro rfl
    rw [hidle] at hprogress
    cases hprogress
  have hjwho : j ≠ who := by
    rintro rfl
    rw [hprogress] at hj
    cases hj
  have hjk : j ≠ k := by
    rintro rfl
    rw [hidle] at hj
    cases hj
  -- what the configuration leaves behind, and that the commit finds it open
  obtain ⟨opened, hopened⟩ : ∃ opened : Race, opened =
      { (after py flush calls job db es).moved who .ended with
        job := written flush loaded assigned (after py flush calls job db es).job } := ⟨_, rfl⟩
  have hwrites :
      Runs.attempt (step py flush calls) (after py flush calls job db es) who = opened := by
    rw [Runs.attempt, step, hcall, hopened]
    simp only [configureStep, hprogress]
  have hopen : isOpen opened.job.status = true := by
    have hstatus := (flush.either loaded.status assigned.status _).resolve_right hwritten
    rw [hopened]
    exact (congrArg isOpen (hstatus.trans hassigned)).trans rfl
  have hothers : ∀ i, i ≠ who →
      opened.progress i = (after py flush calls job db es).progress i := by
    intro i hi
    rw [hopened]
    exact moved_progress_of_ne hi _
  have hclaims : (Runs.attempt (step py flush calls) opened k).progress
      = (opened.moved k .claimed).progress := by
    rw [Runs.attempt, step, hcommit]
    simp only [commitStep, (hothers k hwho).trans hidle, if_pos hopen]
  rw [after_append, List.foldl_cons, List.foldl_cons, List.foldl_nil, hwrites] at honce
  refine hjk (honce.claim j k ?_ ?_)
  · rw [hclaims, moved_progress_of_ne hjk, hothers j hjwho]
    exact hj
  · rw [hclaims]
    exact passed_self rfl

/-- **ONCE WHILE UNCLAIMED**: as long as no configuration writes the status of a job that is no
longer open, at most one commit gets past its claim and every row creates records in one
call at most; and when one does, the next commit gets past its claim as well. -/
theorem once_while_unclaimed (py : Interpreter) (flush : Flush) (calls : Nat → JobCall)
    (job : ImportJob) (db : Database) (es : List Nat) :
    (Runs.StepsMeet (step py flush calls) (LeavesClaimed flush) (start job db) es →
      ∀ r ∈ Runs.visited (step py flush calls) (start job db) es, Once r) ∧
    ∀ who, ¬LeavesClaimed flush (after py flush calls job db es) who →
      (∃ now columnMapping matchStrategy, calls who = .configure now columnMapping matchStrategy) →
      ∀ k actorUserId run, calls k = .commit actorUserId run →
        (after py flush calls job db es).progress k = .idle →
        ¬Once (after py flush calls job db (es ++ [who, k])) := by
  constructor
  · intro hmeet r hr
    refine (Runs.visited_invariant ?_ es _ start_claimed hmeet r hr).once
    intro s who s' hs hleaves hstep
    obtain ⟨t, ht, hmoves⟩ := step_moves py flush calls s who
    cases ht.symm.trans hstep
    exact hs.moves hmoves hleaves
  · intro who hopens hconfigure k actorUserId run hcommit hidle
    exact not_once_of_opened hopens hconfigure hcommit hidle

theorem leavesClaimed_of_validated {r : Race} {who : Nat}
    (h : ∀ job assigned, r.progress who = .validated job assigned →
      job.status = assigned.status) : LeavesClaimed .netChanges r who := by
  intro job assigned hprogress _
  exact if_pos (h job assigned hprogress)

/-- Nothing about the job is STAGED. -/
structure Unstaged (r : Race) : Prop where
  job : r.job.status ≠ .staged
  loaded : ∀ i job, r.progress i = .loaded job → job.status = .validated
  validated : ∀ i job assigned, r.progress i = .validated job assigned →
    job.status = .validated ∧ assigned.status = .validated

theorem Unstaged.moves {r r' : Race} {who : Nat} (h : Unstaged r)
    (hmoves : Moves flush r who r') : Unstaged r' where
  job := by
    cases hmoves with
    | finishes _ hjob =>
      intro hstaged
      rw [hstaged] at hjob
      cases hjob
    | @writes job assigned hprogress =>
      intro hstaged
      replace hstaged : flush.column job.status assigned.status r.job.status = .staged := hstaged
      rcases flush.either job.status assigned.status r.job.status with hnew | hold
      · rw [hnew, (h.validated who job assigned hprogress).2] at hstaged
        cases hstaged
      · exact h.job (hold.symm.trans hstaged)
    | claims _ _ => exact fun hstaged => (nomatch hstaged)
    | _ => exact h.job
  loaded i job hi := by
    by_cases hwho : i = who
    · subst hwho
      rcases hmoves.loaded hi with rfl | ⟨hjob, hopen⟩
      · exact h.loaded i job hi
      · cases hmoves with
        | loads _ _ =>
          simp only [isOpen, Bool.or_eq_true, decide_eq_true_eq] at hopen
          exact hopen.resolve_right (hjob ▸ h.job)
        | stays => exact h.loaded i job hi
        | imports _ hp _ =>
          cases (moved_progress_self _).symm.trans hi
          cases hp
        | _ => cases (moved_progress_self _).symm.trans hi
    · rw [hmoves.others hwho] at hi
      exact h.loaded i job hi
  validated i job assigned hi := by
    by_cases hwho : i = who
    · subst hwho
      rcases hmoves.validated hi with rfl | ⟨hassigned, hloaded⟩
      · exact h.validated i job assigned hi
      · exact ⟨h.loaded i job hloaded, hassigned⟩
    · rw [hmoves.others hwho] at hi
      exact h.validated i job assigned hi

/-- **ONCE UNLESS STAGED**: with changed columns written only, no interleaving of commits and
configurations of a job that is not STAGED lets two commits past their claim. -/
theorem once_of_not_staged (hjob : job.status ≠ .staged) (es : List Nat) :
    ∀ r ∈ Runs.visited (step py .netChanges calls) (start job db) es, Once r := by
  have hstart : Claimed (start job db) ∧ Unstaged (start job db) :=
    ⟨start_claimed, hjob, fun _ _ hi => (nomatch hi), fun _ _ _ hi => (nomatch hi)⟩
  have hkept : ∀ s who s', Claimed s ∧ Unstaged s → True →
      step py .netChanges calls s who = .ok s' → Claimed s' ∧ Unstaged s' := by
    intro s who s' ⟨hclaimed, hunstaged⟩ _ hstep
    obtain ⟨t, ht, hmoves⟩ := step_moves py .netChanges calls s who
    cases ht.symm.trans hstep
    refine ⟨hclaimed.moves hmoves (leavesClaimed_of_validated ?_), hunstaged.moves hmoves⟩
    intro job assigned hprogress
    obtain ⟨hold, hnew⟩ := hunstaged.validated who job assigned hprogress
    rw [hold, hnew]
  intro r hr
  exact (Runs.visited_invariant hkept es _ hstart (Runs.stepsMeet_true _ _ es) r hr).1.once

end Interleavings

/-! ## Runs -/

/-- Every column that has been assigned is written. -/
def Flush.everyColumn : Flush where
  column _ assigned _ := assigned
  changed _ _ _ _ := rfl
  either _ _ _ := Or.inl rfl

/-- A job of one aircraft that is not there yet. -/
def oneAircraft (status : ImportJobStatus) : ImportJob where
  id := 9
  organizationId := 1
  filename := "fleet.csv"
  fileHash := none
  status
  selectedSheet := "CSV"
  columnMapping := Table.empty
  matchStrategy := Table.empty
  rowsTotal := 1
  rowsValid := 1
  rowResults := .aircraft [{ rowNumber := 1, status := .valid, errors := [], warnings := []
                             data := ⟨"VT-A", "1", "A320", "ACTIVE"⟩ }]

/-- The first call configures the job, all others commit it. -/
def configureOrCommit : Nat → JobCall
  | 0 => .configure (fun _ => Interpreter.newYear) none none
  | _ => .commit none numberedRun

/-- The job is read and validated again, committed by one call, written back, and committed by
another: the second claim succeeds too, whether every column is written or, for a job that is
STAGED, the changed ones only. -/
theorem writtenBack_committed_twice :
    ¬Once (after .ascii .everyColumn configureOrCommit (oneAircraft .validated) {} [0, 0, 1, 0, 2])
      ∧ ¬Once (after .ascii .netChanges configureOrCommit (oneAircraft .staged) {} [0, 0, 1, 0, 2])
      := by
  constructor
  · intro honce
    exact absurd (honce.claim 1 2 (by decide) (by decide)) (by decide)
  · intro honce
    exact absurd (honce.claim 1 2 (by decide) (by decide)) (by decide)

/-- The job is committed and configured one after the other. -/
theorem committed_once :
    Runs.StepsMeet (step .ascii .netChanges configureOrCommit) (LeavesClaimed .netChanges)
        (start (oneAircraft .staged) {}) [0, 0, 0, 1, 2] ∧
      ∀ r ∈ Runs.visited (step .ascii .netChanges configureOrCommit)
        (start (oneAircraft .staged) {}) [0, 0, 0, 1, 2], Once r := by
  have hmeet : Runs.StepsMeet (step .ascii .netChanges configureOrCommit)
      (LeavesClaimed .netChanges) (start (oneAircraft .staged) {}) [0, 0, 0, 1, 2] := by
    refine ⟨?_, ?_, ?_, ?_, ?_, trivial⟩
    · intro job assigned hprogress
      cases hprogress
    · intro job assigned hprogress
      cases hprogress
    · intro job assigned _ hclosed
      exact absurd hclosed (by decide)
    · intro job assigned _ hclosed
      exact absurd hclosed (by decide)
    · intro job assigned hprogress
      cases hprogress
  exact ⟨hmeet, (once_while_unclaimed .ascii .netChanges configureOrCommit (oneAircraft .staged) {}
    [0, 0, 0, 1, 2]).1 hmeet⟩

/-- The same order, for a job that is not STAGED. -/
theorem validated_once :
    (oneAircraft .validated).status ≠ .staged ∧
      ∀ r ∈ Runs.visited (step .ascii .netChanges configureOrCommit)
        (start (oneAircraft .validated) {}) [0, 0, 1, 0, 2], Once r :=
  ⟨by decide, once_of_not_staged (by decide) [0, 0, 1, 0, 2]⟩

end CommitRace
end ImportService
end AeroComply
