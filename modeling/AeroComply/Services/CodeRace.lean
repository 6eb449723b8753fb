import AeroComply.Services.EmailChange

/-!
# CodeRace — one-time codes confirmed at the same time

Any number of calls that ask for a code, confirm one or revoke an invitation, of any
users and purposes.  A confirmation reads the user and the newest code without a lock,
compares, and writes: one more attempt than it has read, or that the code is consumed
and what that changes of the account.

Between the comparison and the write other calls compare with the same row, so both
bounds fail.  `guarded_while_undisturbed` says that this is the only way: they hold
when no other call stands between its comparison with the row and its write, and the
row is still as it was read.
-/

namespace AeroComply

open Relational (Table)

namespace CodeRace

open AuthService
open Sessions (Call)

/-- The columns of a user that a service sets. -/
structure AccountChange where
  set : User → User
  id_set : ∀ user, (set user).id = user.id

/-- The callers of `_consume_code`. -/
inductive Confirmation
  | emailVerification (userId : UUID)
  | passwordReset (email newPassword : String) (salt : Nat)
  | accountOnboarding (email newPassword : String) (salt : Nat)
  | emailChange (userId : UUID)

/-- The callers of `_issue_code`. -/
inductive CodeRequest
  | emailVerification (userId : UUID)
  | passwordReset (email : String)
  | accountOnboarding (userId : UUID)
  | emailChange (userId : UUID) (newEmail : String)

inductive CodeCall
  | confirm (now : DateTime) (code : String) (confirmation : Confirmation)
  | request (now : DateTime) (generated : GeneratedCode) (request : CodeRequest)
  | revoke (now : DateTime) (actorUserId userId : UUID)

/-- How far a call has come. -/
inductive Progress
  | idle
  -- a confirmation: it has read the user and the code, the code is right, the code is wrong
  | holding (user : User) (change : AccountChange) (row : AuthVerificationCode)
  | matched (user : User) (change : AccountChange) (row : AuthVerificationCode)
  | missed (row : AuthVerificationCode)
  -- a request that has passed the cool-down, and a revocation that has found an invitation
  | asked (user : User) (change : AccountChange)
  | revoking (user : User) (row : AuthVerificationCode)
  | returned
  | raised

/-- The row that the call has compared a code with and is still to write. -/
def Progress.writing : Progress → Option AuthVerificationCode
  | .matched _ _ row | .missed row => some row
  | .idle | .holding _ _ _ | .asked _ _ | .revoking _ _ | .returned | .raised => none

/-- What is stored, the rows that a wrong code was compared with and the rows that a call which
returned has consumed, each with the call, and where each call is. -/
structure Race where
  db : Database
  compared : List (Nat × UUID) := []
  consumed : List (Nat × UUID) := []
  progress : Nat → Progress := fun _ => .idle

/-- Only the call itself moves on. -/
def Race.moved (r : Race) (who : Nat) (progress : Progress) : Race :=
  { r with progress := Function.update r.progress who progress }

/-- `UPDATE auth_verification_codes SET attempts = … WHERE id = …`. -/
def setAttempts (db : Database) (codeId : UUID) (attempts : Nat) : Database :=
  { db with
    authVerificationCodes := db.authVerificationCodes.updateWhere (Table.hasKey codeId)
      (fun row => { row with attempts }) fun _ => rfl }

/-- `UPDATE auth_verification_codes SET consumed_at = … WHERE id = …`. -/
def setConsumed (db : Database) (codeId : UUID) (now : DateTime) : Database :=
  { db with
    authVerificationCodes := db.authVerificationCodes.updateWhere (Table.hasKey codeId)
      (fun row => { row with consumedAt := some now }) fun _ => rfl }

/-- The address that the user would have by now is another user's. -/
def emailClash (db : Database) (user : User) (change : AccountChange) : Bool :=
  (db.users.find? user.id).any fun stored =>
    (change.set stored).email ≠ stored.email &&
      db.users.rows.any fun u => u.id ≠ user.id && u.email = (change.set stored).email

/-- `UPDATE users SET … WHERE id = …`; the addresses of users are unique. -/
def setAccount (db : Database) (user : User) (change : AccountChange) : Except Error Database := do
  raiseIf (emailClash db user change) .integrity
  pure { db with users := db.users.updateWhere (Table.hasKey user.id) change.set change.id_set }

variable (ctx : PasswordContext) (py : Interpreter)

namespace Confirmation

def purpose : Confirmation → String
  | .emailVerification _ => VerificationPurpose.emailVerification
  | .passwordReset _ _ _ => VerificationPurpose.passwordReset
  | .accountOnboarding _ _ _ => VerificationPurpose.accountOnboarding
  | .emailChange _ => VerificationPurpose.emailChange

def action : Confirmation → String
  | .emailVerification _ => "auth.email_verified"
  | .passwordReset _ _ _ => "auth.password_reset_completed"
  | .accountOnboarding _ _ _ => "auth.onboarding_completed"
  | .emailChange _ => "user.email_changed"

/-- The user, and what a consumed code changes of the account. -/
def account (db : Database) : Confirmation → Except Error (User × AccountChange)
  | .emailVerification userId => do
    let user ← getUser db userId
    pure (user, ⟨fun u => { u with emailVerified := true }, fun _ => rfl⟩)
  | .passwordReset email newPassword salt => do
    let user ← activeUser db email
    pure (user, ⟨fun u => { u with hashedPassword := ctx.hash salt newPassword }, fun _ => rfl⟩)
  | .accountOnboarding email newPassword salt => do
    let user ← activeUser db email
    pure (user, ⟨fun u =>
      { u with hashedPassword := ctx.hash salt newPassword, emailVerified := true }, fun _ => rfl⟩)
  | .emailChange userId => do
    let (user, pending) ← pendingChange db userId
    pure (user, ⟨fun u => { u with email := pending, pendingEmail := none, emailVerified := true },
      fun _ => rfl⟩)

/-- What a confirmation has read when it compares. -/
def reads (db : Database) (now : DateTime) (confirmation : Confirmation) :
    Except Error (User × AccountChange × AuthVerificationCode) := do
  let (user, change) ← confirmation.account ctx db
  let row ← usableCode db user.id confirmation.purpose now
  pure (user, change, row)

def service (now : DateTime) (code : String) : Confirmation → Call Database Error Unit
  | .emailVerification userId => confirmEmailVerification ctx now userId code
  | .passwordReset email newPassword salt => resetPassword ctx now email code newPassword salt
  | .accountOnboarding email newPassword salt =>
    completeAccountOnboarding ctx now email code newPassword salt
  | .emailChange userId => do
    let _ ← confirmEmailChange ctx now userId code

end Confirmation

namespace CodeRequest

def purpose : CodeRequest → String
  | .emailVerification _ => VerificationPurpose.emailVerification
  | .passwordReset _ => VerificationPurpose.passwordReset
  | .accountOnboarding _ => VerificationPurpose.accountOnboarding
  | .emailChange _ _ => VerificationPurpose.emailChange

def action : CodeRequest → String
  | .emailVerification _ => "auth.email_verification_requested"
  | .passwordReset _ => "auth.password_reset_requested"
  | .accountOnboarding _ => "auth.onboarding_email_requested"
  | .emailChange _ _ => "user.email_change_requested"

/-- The user who is sent a code, and what is written of the account with it. -/
def account (db : Database) : CodeRequest → Except Error (Option (User × AccountChange))
  | .emailVerification userId => do
    let user ← unverifiedUser db userId
    pure (some (user, ⟨id, fun _ => rfl⟩))
  | .passwordReset email => do
    let user ← userByEmail db email
    pure (user.map fun user => (user, ⟨id, fun _ => rfl⟩))
  | .accountOnboarding userId => do
    let user ← getUser db userId
    pure (some (user, ⟨id, fun _ => rfl⟩))
  | .emailChange userId newEmail => do
    let user ← getUser db userId
    let clean := cleanEmail py newEmail
    raiseIf (clean = py.lower user.email)
      (.conflict "New email address is identical to your current email." "identical_email")
    let existing ← emailTaken db user.id clean
    raiseIf existing.isSome
      (.conflict "This email address is already associated with another account." "email_in_use")
    pure (some (user, ⟨fun u => { u with pendingEmail := some clean }, fun _ => rfl⟩))

end CodeRequest

variable (calls : Nat → CodeCall)

/-- The next step of a confirmation. -/
def confirmStep (r : Race) (who : Nat) (now : DateTime) (code : String)
    (confirmation : Confirmation) : Race :=
  match r.progress who with
  | .idle =>
    match confirmation.reads ctx r.db now with
    | .ok (user, change, row) => r.moved who (.holding user change row)
    | .error _ => r.moved who .raised
  | .holding user change row =>
    if ctx.verify code row.codeHash then r.moved who (.matched user change row)
    else { r.moved who (.missed row) with compared := (who, row.id) :: r.compared }
  | .missed row =>
    { r.moved who .raised with db := setAttempts r.db row.id (row.attempts + 1) }
  | .matched user change row =>
    match setAccount (setConsumed r.db row.id now) user change with
    | .ok db => { r.moved who .returned with
        db := recordUserEvent db user confirmation.action
        consumed := (who, row.id) :: r.consumed }
    | .error _ => r.moved who .raised
  | .asked _ _ | .revoking _ _ | .returned | .raised => r

/-- The next step of a request: it reads the user and the newest code, and writes. -/
def requestStep (r : Race) (who : Nat) (now : DateTime) (generated : GeneratedCode)
    (request : CodeRequest) : Race :=
  match r.progress who with
  | .idle =>
    match request.account py r.db with
    | .ok (some (user, change)) =>
      if coolingDown (latestCode r.db user.id request.purpose) now then r.moved who .raised
      else r.moved who (.asked user change)
    | .ok none => r.moved who .returned
    | .error _ => r.moved who .raised
  | .asked user change =>
    match setAccount r.db user change, addRow r.db.authVerificationCodes
        (issuedRow ctx user request.purpose now generated) with
    | .ok db, .ok codes => { r.moved who .returned with
        db := recordUserEvent { db with authVerificationCodes := codes } user request.action }
    | _, _ => r.moved who .raised
  | .holding _ _ _ | .matched _ _ _ | .missed _ | .revoking _ _ | .returned | .raised => r

/-- The next step of a revocation. -/
def revokeStep (r : Race) (who : Nat) (now : DateTime) (actorUserId userId : UUID) : Race :=
  match r.progress who with
  | .idle =>
    match pendingInvitation r.db userId with
    | .ok (user, row) => r.moved who (.revoking user row)
    | .error _ => r.moved who .raised
  | .revoking user row => { r.moved who .returned with
      db := (setConsumed r.db row.id now).recordAuditEvent user.organizationId (some actorUserId)
        "platform.organization.invitation_revoked" "User" (some user.id) }
  | .holding _ _ _ | .matched _ _ _ | .missed _ | .asked _ _ | .returned | .raised => r

/-- The call `who` takes its next step. -/
def step (r : Race) (who : Nat) : Except Error Race :=
  match calls who with
  | .confirm now code confirmation => .ok (confirmStep ctx r who now code confirmation)
  | .request now generated request => .ok (requestStep ctx py r who now generated request)
  | .revoke now actorUserId userId => .ok (revokeStep r who now actorUserId userId)

/-- Nothing has been called yet. -/
def start (db : Database) : Race := { db }

/-- The state after some steps. -/
def after (db : Database) (es : List Nat) : Race :=
  es.foldl (Runs.attempt (step ctx py calls)) (start db)

/-- How many wrong codes have been compared with a row. -/
def guesses (r : Race) (codeId : UUID) : Nat := r.compared.countP fun x => x.2 = codeId

/-- One call at most has consumed a code, and no code was guessed more often than allowed. -/
structure Guarded (r : Race) : Prop where
  once : ∀ i j codeId, (i, codeId) ∈ r.consumed → (j, codeId) ∈ r.consumed → i = j
  bounded : ∀ codeId, guesses r codeId ≤ otpMaxAttempts

/-- A call that compares does so with a row that is still as it has read it, while no other call
is between a comparison with that row and its write. -/
def Undisturbed (r : Race) (who : Nat) : Prop :=
  ∀ user change row, r.progress who = .holding user change row →
    r.db.authVerificationCodes.find? row.id = some row ∧
      ∀ i other, (r.progress i).writing = some other → other.id ≠ row.id

/-! ## What is stored of a code -/

section Codes

variable {db db' : Database} {codeId : UUID}

/-- The attempts that are stored of a code. -/
def tries (db : Database) (codeId : UUID) : Nat :=
  ((db.authVerificationCodes.find? codeId).map AuthVerificationCode.attempts).getD 0

/-- The code is stored, and consumed. -/
def Spent (db : Database) (codeId : UUID) : Prop :=
  ∃ row, db.authVerificationCodes.find? codeId = some row ∧ row.consumedAt.isSome = true

/-- A write that loses no code and makes none usable again. -/
structure Grows (db db' : Database) : Prop where
  stored : ∀ codeId, (db.authVerificationCodes.find? codeId).isSome = true →
    (db'.authVerificationCodes.find? codeId).isSome = true
  spent : ∀ codeId, Spent db codeId → Spent db' codeId

theorem Grows.refl (db : Database) : Grows db db := ⟨fun _ h => h, fun _ h => h⟩

theorem find?_setAttempts (db : Database) (codeId : UUID) (attempts : Nat) (c : UUID) :
    (setAttempts db codeId attempts).authVerificationCodes.find? c
      = if codeId = c then (db.authVerificationCodes.find? c).map fun row => { row with attempts }
        else db.authVerificationCodes.find? c :=
  Table.find?_updateWhere_hasKey db.authVerificationCodes codeId
    (fun row => { row with attempts }) (fun _ => rfl) c

theorem find?_setConsumed (db : Database) (codeId : UUID) (now : DateTime) (c : UUID) :
    (setConsumed db codeId now).authVerificationCodes.find? c
      = if codeId = c then
          (db.authVerificationCodes.find? c).map fun row => { row with consumedAt := some now }
        else db.authVerificationCodes.find? c :=
  Table.find?_updateWhere_hasKey db.authVerificationCodes codeId
    (fun row => { row with consumedAt := some now }) (fun _ => rfl) c

theorem grows_setAttempts (db : Database) (codeId : UUID) (attempts : Nat) :
    Grows db (setAttempts db codeId attempts) := by
  refine ⟨?_, ?_⟩
  · intro c h
    rw [find?_setAttempts]
    split
    · rw [Option.isSome_map]
      exact h
    · exact h
  · rintro c ⟨row, hrow, hspent⟩
    rw [Spent, find?_setAttempts, hrow]
    split
    · exact ⟨_, rfl, hspent⟩
    · exact ⟨row, rfl, hspent⟩

theorem grows_setConsumed (db : Database) (codeId : UUID) (now : DateTime) :
    Grows db (setConsumed db codeId now) := by
  refine ⟨?_, ?_⟩
  · intro c h
    rw [find?_setConsumed]
    split
    · rw [Option.isSome_map]
      exact h
    · exact h
  · rintro c ⟨row, hrow, hspent⟩
    rw [Spent, find?_setConsumed, hrow]
    split
    · exact ⟨_, rfl, rfl⟩
    · exact ⟨row, rfl, hspent⟩

variable {row : AuthVerificationCode} {attempts : Nat}

theorem grows_insert? (h : db.authVerificationCodes.insert? row = some db'.authVerificationCodes) :
    Grows db db' := by
  refine ⟨?_, ?_⟩
  · intro c hc
    rw [Table.find?_insert? h]
    split
    · rfl
    · exact hc
  · rintro c ⟨old, hold, hspent⟩
    refine ⟨old, ?_, hspent⟩
    rw [Table.find?_insert? h, if_neg ?_]
    · exact hold
    · rintro rfl
      have hmem := Table.find?_eq_some.1 hold
      exact (Table.insert?_eq_some h).1 (List.mem_map.2 ⟨old, hmem.1, hmem.2⟩)

theorem tries_setAttempts_self (h : (db.authVerificationCodes.find? codeId).isSome = true) :
    tries (setAttempts db codeId attempts) codeId = attempts := by
  obtain ⟨row, hrow⟩ := Option.isSome_iff_exists.1 h
  rw [tries, find?_setAttempts, if_pos rfl, hrow]
  rfl

theorem tries_setAttempts_of_ne {c : UUID} (h : codeId ≠ c) :
    tries (setAttempts db codeId attempts) c = tries db c := by
  rw [tries, find?_setAttempts, if_neg h, tries]

theorem tries_setConsumed (db : Database) (codeId : UUID) (now : DateTime) (c : UUID) :
    tries (setConsumed db codeId now) c = tries db c := by
  rw [tries, find?_setConsumed, tries]
  split
  · rw [Option.map_map]
    rfl
  · rfl

theorem tries_insert? (h : db.authVerificationCodes.insert? row = some db'.authVerificationCodes)
    (hnew : row.attempts = 0) (c : UUID) : tries db' c = tries db c := by
  rw [tries, tries, Table.find?_insert? h]
  split
  · next hkey =>
    have hfresh : db.authVerificationCodes.find? c = none := by
      refine Table.find?_eq_none.2 ?_
      intro y hy hyc
      exact (Table.insert?_eq_some h).1 (List.mem_map.2 ⟨y, hy, hyc.trans hkey.symm⟩)
    rw [hfresh, Option.map_some, hnew]
    rfl
  · rfl

theorem spent_setConsumed {now : DateTime}
    (h : (db.authVerificationCodes.find? codeId).isSome = true) :
    Spent (setConsumed db codeId now) codeId := by
  obtain ⟨row, hrow⟩ := Option.isSome_iff_exists.1 h
  refine ⟨{ row with consumedAt := some now }, ?_, rfl⟩
  rw [find?_setConsumed, if_pos rfl, hrow]
  rfl

end Codes

/-! ## What a step does -/

section Steps

variable {ctx} {py} {calls} {r : Race} {who : Nat}

/-- What one step of a call can do to the codes, to the two logs, and to where the call is. -/
inductive Moves (r : Race) (who : Nat) : Race → Prop
  | stays : Moves r who r
  | turns (h : (r.progress who).writing = none) {p : Progress} (hp : p.writing = none)
      (hreads : ∀ user change row, p = .holding user change row →
        r.db.authVerificationCodes.find? row.id = some row ∧ row.consumedAt = none ∧
          row.attempts < otpMaxAttempts) :
      Moves r who (r.moved who p)
  | agrees {user : User} {change : AccountChange} {row : AuthVerificationCode}
      (h : r.progress who = .holding user change row) :
      Moves r who (r.moved who (.matched user change row))
  | misses {user : User} {change : AccountChange} {row : AuthVerificationCode}
      (h : r.progress who = .holding user change row) :
      Moves r who { r.moved who (.missed row) with compared := (who, row.id) :: r.compared }
  | counts {row : AuthVerificationCode} (h : r.progress who = .missed row) :
      Moves r who { r.moved who .raised with db := setAttempts r.db row.id (row.attempts + 1) }
  | consumes {user : User} {change : AccountChange} {row : AuthVerificationCode}
      (h : r.progress who = .matched user change row) {now : DateTime} {db : Database}
      (hdb : db.authVerificationCodes = (setConsumed r.db row.id now).authVerificationCodes) :
      Moves r who { r.moved who .returned with
        db, consumed := (who, row.id) :: r.consumed }
  | fails {user : User} {change : AccountChange} {row : AuthVerificationCode}
      (h : r.progress who = .matched user change row) : Moves r who (r.moved who .raised)
  | issues (h : (r.progress who).writing = none) {row : AuthVerificationCode}
      (hnew : row.attempts = 0) {db : Database}
      (hdb : r.db.authVerificationCodes.insert? row = some db.authVerificationCodes) :
      Moves r who { r.moved who .returned with db }
  | revokes (h : (r.progress who).writing = none) {codeId : UUID} {now : DateTime} {db : Database}
      (hdb : db.authVerificationCodes = (setConsumed r.db codeId now).authVerificationCodes) :
      Moves r who { r.moved who .returned with db }

variable {change : AccountChange} {user : User} {i : Nat}

theorem codes_setAccount {db db' : Database} (h : setAccount db user change = .ok db') :
    db'.authVerificationCodes = db.authVerificationCodes := by
  obtain ⟨_, _, h⟩ := bind_eq_ok.1 h
  cases pure_eq_ok.1 h
  rfl

theorem reads_eq_ok {db : Database} {now : DateTime} {confirmation : Confirmation}
    {row : AuthVerificationCode} (h : confirmation.reads ctx db now = .ok (user, change, row)) :
    db.authVerificationCodes.find? row.id = some row ∧ row.consumedAt = none ∧
      row.attempts < otpMaxAttempts := by
  obtain ⟨⟨user', change'⟩, _, h⟩ := bind_eq_ok.1 h
  obtain ⟨row', husable, h⟩ := bind_eq_ok.1 h
  cases pure_eq_ok.1 h
  obtain ⟨hlatest, hopen, htries⟩ := usableCode_eq_ok husable
  exact ⟨Table.find?_eq_some.2 ⟨(latestCode_eq_some hlatest).1, rfl⟩, hopen, htries⟩

theorem confirmStep_moves (now : DateTime) (code : String) (confirmation : Confirmation) :
    Moves r who (confirmStep ctx r who now code confirmation) := by
  rw [confirmStep]
  cases hprogress : r.progress who with
  | idle =>
    have hidle : (r.progress who).writing = none := by
      rw [hprogress]
      rfl
    simp only
    cases hreads : confirmation.reads ctx r.db now with
    | ok x =>
      obtain ⟨user, change, row⟩ := x
      refine .turns hidle rfl ?_
      intro _ _ _ heq
      cases heq
      exact reads_eq_ok hreads
    | error e => exact .turns hidle rfl fun _ _ _ heq => (nomatch heq)
  | holding user change row =>
    cases hverify : ctx.verify code row.codeHash with
    | true =>
      simp only [hverify, if_true]
      exact .agrees hprogress
    | false =>
      simp only [hverify, Bool.false_eq_true, if_false]
      exact .misses hprogress
  | missed row => exact .counts hprogress
  | matched user change row =>
    simp only
    cases haccount : setAccount (setConsumed r.db row.id now) user change with
    | ok db =>
      have hcodes : (recordUserEvent db user confirmation.action).authVerificationCodes
          = (setConsumed r.db row.id now).authVerificationCodes := by
        rw [← codes_setAccount haccount]
        rfl
      exact .consumes hprogress hcodes
    | error e => exact .fails hprogress
  | asked user change => exact .stays
  | revoking user row => exact .stays
  | returned => exact .stays
  | raised => exact .stays

theorem requestStep_moves (now : DateTime) (generated : GeneratedCode) (request : CodeRequest) :
    Moves r who (requestStep ctx py r who now generated request) := by
  rw [requestStep]
  cases hprogress : r.progress who with
  | idle =>
    have hidle : (r.progress who).writing = none := by
      rw [hprogress]
      rfl
    simp only
    cases request.account py r.db with
    | ok found =>
      cases found with
      | none => exact .turns hidle rfl fun _ _ _ heq => (nomatch heq)
      | some x =>
        simp only
        split
        · exact .turns hidle rfl fun _ _ _ heq => (nomatch heq)
        · exact .turns hidle rfl fun _ _ _ heq => (nomatch heq)
    | error e => exact .turns hidle rfl fun _ _ _ heq => (nomatch heq)
  | asked user change =>
    have hasked : (r.progress who).writing = none := by
      rw [hprogress]
      rfl
    simp only
    cases haccount : setAccount r.db user change with
    | error e => exact .turns hasked rfl fun _ _ _ heq => (nomatch heq)
    | ok db =>
      cases hcodes : addRow r.db.authVerificationCodes
          (issuedRow ctx user request.purpose now generated) with
      | error e => exact .turns hasked rfl fun _ _ _ heq => (nomatch heq)
      | ok codes => exact .issues hasked rfl (addRowOrRaise_eq_ok.1 hcodes)
  | holding user change row => exact .stays
  | matched user change row => exact .stays
  | missed row => exact .stays
  | revoking user row => exact .stays
  | returned => exact .stays
  | raised => exact .stays

theorem revokeStep_moves (now : DateTime) (actorUserId userId : UUID) :
    Moves r who (revokeStep r who now actorUserId userId) := by
  rw [revokeStep]
  cases hprogress : r.progress who with
  | idle =>
    have hidle : (r.progress who).writing = none := by
      rw [hprogress]
      rfl
    simp only
    cases pendingInvitation r.db userId with
    | ok x => exact .turns hidle rfl fun _ _ _ heq => (nomatch heq)
    | error e => exact .turns hidle rfl fun _ _ _ heq => (nomatch heq)
  | revoking user row => exact .revokes (by rw [hprogress]; rfl) rfl
  | holding user change row => exact .stays
  | matched user change row => exact .stays
  | missed row => exact .stays
  | asked user change => exact .stays
  | returned => exact .stays
  | raised => exact .stays

/-- **ONE STEP**, whichever call takes it. -/
theorem step_moves (ctx : PasswordContext) (py : Interpreter) (calls : Nat → CodeCall) (r : Race)
    (who : Nat) : ∃ r', step ctx py calls r who = .ok r' ∧ Moves r who r' := by
  rw [step]
  cases calls who with
  | confirm now code confirmation => exact ⟨_, rfl, confirmStep_moves now code confirmation⟩
  | request now generated request => exact ⟨_, rfl, requestStep_moves now generated request⟩
  | revoke now actorUserId userId => exact ⟨_, rfl, revokeStep_moves now actorUserId userId⟩

@[simp] theorem moved_progress_self (p : Progress) : (r.moved who p).progress who = p :=
  Function.update_self ..

theorem moved_progress_of_ne (h : i ≠ who) (p : Progress) :
    (r.moved who p).progress i = r.progress i := Function.update_of_ne h ..

theorem moved_cases {p q : Progress} (h : (r.moved who p).progress i = q) :
    (i = who ∧ p = q) ∨ (i ≠ who ∧ r.progress i = q) := by
  by_cases hi : i = who
  · subst hi
    exact Or.inl ⟨rfl, (moved_progress_self p).symm.trans h⟩
  · exact Or.inr ⟨hi, (moved_progress_of_ne hi p).symm.trans h⟩

/-- No step loses a code or makes one usable again. -/
theorem Moves.grows {r' : Race} (hmoves : Moves r who r') : Grows r.db r'.db := by
  cases hmoves with
  | counts _ => exact grows_setAttempts ..
  | @consumes _ _ row _ now db hdb =>
    have hgrows := grows_setConsumed r.db row.id now
    exact ⟨fun c hc => hdb ▸ hgrows.stored c hc, fun c hc => by
      rw [Spent, hdb]
      exact hgrows.spent c hc⟩
  | @revokes _ codeId now db hdb =>
    have hgrows := grows_setConsumed r.db codeId now
    exact ⟨fun c hc => hdb ▸ hgrows.stored c hc, fun c hc => by
      rw [Spent, hdb]
      exact hgrows.spent c hc⟩
  | issues _ _ hdb => exact grows_insert? hdb
  | _ => exact Grows.refl r.db

end Steps

/-! ## A call alone -/

section Alone

variable {ctx} {py} {calls} {who : Nat} {now : DateTime} {code : String}
variable {confirmation : Confirmation} {db : Database}
variable {user : User} {change : AccountChange} {row : AuthVerificationCode}

/-- What a confirmation writes, when nobody else writes in between. -/
def confirmed (ctx : PasswordContext) (db : Database) (now : DateTime) (code action : String) :
    Except Error (User × AccountChange × AuthVerificationCode) → Database
  | .error _ => db
  | .ok (user, change, row) =>
    if ctx.verify code row.codeHash then
      recordUserEvent (saveUser (saveCode db { row with consumedAt := some now }) (change.set user))
        user action
    else saveCode db { row with attempts := row.attempts + 1 }

theorem committed_consumeCode {α : Type} (db : Database) (user : User) (purpose : String)
    (f : Unit → Call Database Error α) :
    ((consumeCode ctx user purpose now code >>= f) ⟨db, db⟩).2.committed
      = match usableCode db user.id purpose now with
        | .error _ => db
        | .ok row =>
          if ctx.verify code row.codeHash then
            (f () ⟨db, saveCode db { row with consumedAt := some now }⟩).2.committed
          else saveCode db { row with attempts := row.attempts + 1 } := by
  cases husable : usableCode db user.id purpose now with
  | error e =>
    have hconsume : consumeCode ctx user purpose now code ⟨db, db⟩ = (.error e, ⟨db, db⟩) := by
      rw [consumeCode, Sessions.bind_of_error (Sessions.query_of husable)]
    rw [Sessions.bind_of_error hconsume]
  | ok row =>
    cases hverify : ctx.verify code row.codeHash with
    | true =>
      have hconsume : consumeCode ctx user purpose now code ⟨db, db⟩
          = (.ok (), ⟨db, saveCode db { row with consumedAt := some now }⟩) := by
        rw [consumeCode, Sessions.bind_of_ok (Sessions.query_of husable), hverify]
        rfl
      rw [Sessions.bind_of_ok hconsume]
      simp only [hverify, if_true]
    | false =>
      have hconsume : consumeCode ctx user purpose now code ⟨db, db⟩
          = (.error invalidCode, ⟨saveCode db { row with attempts := row.attempts + 1 },
              saveCode db { row with attempts := row.attempts + 1 }⟩) := by
        rw [consumeCode, Sessions.bind_of_ok (Sessions.query_of husable), hverify]
        rfl
      rw [Sessions.bind_of_error hconsume]
      simp only [hverify, Bool.false_eq_true, if_false]

theorem left_confirmAccount (purpose action : String) (read : Database → Except Error User)
    (change : AccountChange) (db : Database) :
    Sessions.left (confirmAccount ctx purpose action read change.set now code) db
      = confirmed ctx db now code action (do
          let user ← read db
          let row ← usableCode db user.id purpose now
          pure (user, change, row)) := by
  rw [Sessions.left, confirmAccount]
  cases hread : read db with
  | error e =>
    rw [Sessions.bind_of_error (Sessions.query_of hread)]
    rfl
  | ok user =>
    rw [Sessions.bind_of_ok (Sessions.query_of hread), committed_consumeCode]
    show _ = confirmed ctx db now code action ((usableCode db user.id purpose now).bind _)
    cases usableCode db user.id purpose now with
    | error e => rfl
    | ok row => rfl

theorem left_service (confirmation : Confirmation) (db : Database) :
    Sessions.left (confirmation.service ctx now code) db
      = confirmed ctx db now code confirmation.action (confirmation.reads ctx db now) := by
  cases confirmation with
  | emailVerification userId =>
    rw [Confirmation.reads, Confirmation.account, Confirmation.service, confirmEmailVerification,
      left_confirmAccount _ _ _ ⟨fun u => { u with emailVerified := true }, fun _ => rfl⟩]
    cases getUser db userId with
    | error e => rfl
    | ok user => rfl
  | passwordReset email newPassword salt =>
    rw [Confirmation.reads, Confirmation.account, Confirmation.service, resetPassword,
      left_confirmAccount _ _ _
        ⟨fun u => { u with hashedPassword := ctx.hash salt newPassword }, fun _ => rfl⟩]
    cases activeUser db email with
    | error e => rfl
    | ok user => rfl
  | accountOnboarding email newPassword salt =>
    rw [Confirmation.reads, Confirmation.account, Confirmation.service, completeAccountOnboarding,
      left_confirmAccount _ _ _
        ⟨fun u => { u with hashedPassword := ctx.hash salt newPassword, emailVerified := true },
          fun _ => rfl⟩]
    cases activeUser db email with
    | error e => rfl
    | ok user => rfl
  | emailChange userId =>
    rw [Confirmation.service, Sessions.left_discard, Sessions.left, confirmEmailChange,
      Confirmation.reads, Confirmation.account]
    cases hpending : pendingChange db userId with
    | error e =>
      rw [Sessions.bind_of_error (Sessions.query_of hpending)]
      rfl
    | ok x =>
      obtain ⟨user, pending⟩ := x
      rw [Sessions.bind_of_ok (Sessions.query_of hpending), committed_consumeCode]
      show _ = confirmed ctx db now code _
        ((usableCode db user.id VerificationPurpose.emailChange now).bind _)
      cases usableCode db user.id VerificationPurpose.emailChange now with
      | error e => rfl
      | ok row => rfl

/-! The steps, one by one. -/

theorem confirmStep_raised {r : Race} (h : r.progress who = .raised) :
    confirmStep ctx r who now code confirmation = r := by
  simp only [confirmStep, h]

theorem confirmStep_holding {r : Race} (h : r.progress who = .holding user change row) :
    confirmStep ctx r who now code confirmation
      = if ctx.verify code row.codeHash then r.moved who (.matched user change row)
        else { r.moved who (.missed row) with compared := (who, row.id) :: r.compared } := by
  simp only [confirmStep, h]

theorem confirmStep_missed {r : Race} (h : r.progress who = .missed row) :
    confirmStep ctx r who now code confirmation
      = { r.moved who .raised with db := setAttempts r.db row.id (row.attempts + 1) } := by
  simp only [confirmStep, h]

/-- The last write, when the address is free. -/
theorem confirmStep_matched {r : Race} (h : r.progress who = .matched user change row)
    (haccount : setAccount (setConsumed r.db row.id now) user change = .ok db) :
    confirmStep ctx r who now code confirmation
      = { r.moved who .returned with
          db := recordUserEvent db user confirmation.action
          consumed := (who, row.id) :: r.consumed } := by
  simp only [confirmStep, h, haccount]

theorem setAttempts_of_find? (h : db.authVerificationCodes.find? row.id = some row)
    (attempts : Nat) :
    setAttempts db row.id attempts = saveCode db { row with attempts } :=
  congrArg (fun codes => { db with authVerificationCodes := codes }) (Table.updateWhere_hasKey h)

theorem setConsumed_of_find? (h : db.authVerificationCodes.find? row.id = some row)
    (now : DateTime) :
    setConsumed db row.id now = saveCode db { row with consumedAt := some now } :=
  congrArg (fun codes => { db with authVerificationCodes := codes }) (Table.updateWhere_hasKey h)

theorem setAccount_of_find? (h : db.users.find? user.id = some user)
    (hfree : emailClash db user change = false) :
    setAccount db user change = .ok (saveUser db (change.set user)) := by
  rw [setAccount, hfree, Table.updateWhere_hasKey h]
  rfl

theorem find?_of_mem (h : user ∈ db.users.rows) :
    db.users.find? user.id = some user := Table.find?_eq_some.2 ⟨h, rfl⟩

theorem emailClash_of_same (h : ∀ u, (change.set u).email = u.email) :
    emailClash db user change = false := by
  rw [emailClash, Option.any_eq_false]
  intro stored _
  simp [h stored]

/-- The user that a confirmation has read stands in the table, and the address that the
confirmation would give them is nobody else's. -/
theorem account_eq_ok (h : confirmation.account ctx db = .ok (user, change)) :
    db.users.find? user.id = some user ∧ emailClash db user change = false := by
  cases confirmation with
  | emailVerification userId =>
    obtain ⟨u, hget, h⟩ := bind_eq_ok.1 h
    cases pure_eq_ok.1 h
    exact ⟨find?_of_mem (getUser_eq_ok hget).1, emailClash_of_same fun _ => rfl⟩
  | passwordReset email newPassword salt =>
    obtain ⟨u, hget, h⟩ := bind_eq_ok.1 h
    cases pure_eq_ok.1 h
    exact ⟨find?_of_mem (activeUser_eq_ok hget), emailClash_of_same fun _ => rfl⟩
  | accountOnboarding email newPassword salt =>
    obtain ⟨u, hget, h⟩ := bind_eq_ok.1 h
    cases pure_eq_ok.1 h
    exact ⟨find?_of_mem (activeUser_eq_ok hget), emailClash_of_same fun _ => rfl⟩
  | emailChange userId =>
    obtain ⟨⟨u, pending⟩, hpending, h⟩ := bind_eq_ok.1 h
    cases pure_eq_ok.1 h
    obtain ⟨hmem, rfl, _, htaken⟩ := EmailChange.pendingChange_eq_ok hpending
    refine ⟨find?_of_mem hmem, ?_⟩
    rw [emailClash, find?_of_mem hmem, Option.any_some]
    refine Bool.and_eq_false_imp.2 fun _ => List.any_eq_false.2 ?_
    intro other hother hclash
    simp only [Bool.and_eq_true, decide_eq_true_eq] at hclash
    have hselected : other ∈ db.users.select fun x => x.email = pending && x.id ≠ user.id :=
      Table.mem_select.2 ⟨hother, by simpa [and_comm] using hclash⟩
    rw [scalarOneOrNone_eq_none htaken] at hselected
    cases hselected

/-- **ALONE**: a confirmation that takes its steps with no other call in between does what the
service does. -/
theorem alone_left (db : Database) (hcall : calls who = .confirm now code confirmation) :
    (after ctx py calls db [who, who, who]).db
      = Sessions.left (confirmation.service ctx now code) db := by
  have hsteps : ∀ r, Runs.attempt (step ctx py calls) r who
      = confirmStep ctx r who now code confirmation := by
    intro r
    rw [Runs.attempt, step, hcall]
  rw [left_service, after, List.foldl_cons, List.foldl_cons, List.foldl_cons, List.foldl_nil,
    hsteps, hsteps, hsteps]
  cases hreads : confirmation.reads ctx db now with
  | error e =>
    have hidle : confirmStep ctx (start db) who now code confirmation
        = (start db).moved who .raised := by
      rw [confirmStep]
      simp only [start, hreads]
    rw [hidle, confirmStep_raised (moved_progress_self _), confirmStep_raised (moved_progress_self _)]
    rfl
  | ok x =>
    obtain ⟨user, change, row⟩ := x
    have hidle : confirmStep ctx (start db) who now code confirmation
        = (start db).moved who (.holding user change row) := by
      rw [confirmStep]
      simp only [start, hreads]
    obtain ⟨hfound, _, _⟩ := reads_eq_ok hreads
    obtain ⟨⟨user', change'⟩, haccount, hreads⟩ := bind_eq_ok.1 hreads
    obtain ⟨row', _, hreads⟩ := bind_eq_ok.1 hreads
    cases pure_eq_ok.1 hreads
    obtain ⟨huser, hclash⟩ := account_eq_ok haccount
    rw [hidle, confirmStep_holding (moved_progress_self _), confirmed]
    cases ctx.verify code row.codeHash with
    | true =>
      have hwrite : setAccount (setConsumed db row.id now) user change
          = .ok (saveUser (setConsumed db row.id now) (change.set user)) :=
        setAccount_of_find? huser hclash
      have hlast : ∀ r : Race, r.progress who = .matched user change row → r.db = db →
          (confirmStep ctx r who now code confirmation).db
            = recordUserEvent (saveUser (setConsumed db row.id now) (change.set user)) user
                confirmation.action := by
        rintro r hr rfl
        rw [confirmStep_matched hr hwrite]
      rw [if_pos rfl, if_pos rfl, ← setConsumed_of_find? hfound now]
      exact hlast _ (moved_progress_self _) rfl
    | false =>
      have hlast : ∀ r : Race, r.progress who = .missed row → r.db = db →
          (confirmStep ctx r who now code confirmation).db
            = setAttempts db row.id (row.attempts + 1) := by
        rintro r hr rfl
        rw [confirmStep_missed hr]
      rw [if_neg Bool.false_ne_true, if_neg Bool.false_ne_true,
        ← setAttempts_of_find? hfound (row.attempts + 1)]
      exact hlast _ (moved_progress_self _) rfl

end Alone

/-! ## Between the comparison and the write -/

section Serial

variable {r r' : Race} {who : Nat}
variable {user : User} {change : AccountChange} {row : AuthVerificationCode}

/-- What a call holds is stored, and was usable when it was read. -/
structure Held (r : Race) : Prop where
  usable : ∀ i user change row, r.progress i = .holding user change row →
    row.consumedAt = none ∧ row.attempts < otpMaxAttempts
  stored : ∀ i user change row, r.progress i = .holding user change row →
    (r.db.authVerificationCodes.find? row.id).isSome = true
  writes : ∀ i row, (r.progress i).writing = some row →
    (r.db.authVerificationCodes.find? row.id).isSome = true

theorem Moves.holding (hmoves : Moves r who r') {i : Nat}
    (h : r'.progress i = .holding user change row) :
    r.progress i = .holding user change row ∨
      r.db.authVerificationCodes.find? row.id = some row ∧ row.consumedAt = none ∧
        row.attempts < otpMaxAttempts := by
  cases hmoves with
  | stays => exact Or.inl h
  | turns _ _ hreads =>
    rcases moved_cases h with ⟨_, hp⟩ | ⟨_, hold⟩
    · exact Or.inr (hreads user change row hp)
    · exact Or.inl hold
  | _ =>
    rcases moved_cases h with ⟨_, hp⟩ | ⟨_, hold⟩
    · cases hp
    · exact Or.inl hold

/-- A call that is about to write has just compared, or did so before. -/
theorem Moves.writing (hmoves : Moves r who r') {i : Nat} (h : (r'.progress i).writing = some row) :
    (r.progress i).writing = some row ∨
      i = who ∧ ∃ user change, r.progress who = .holding user change row := by
  cases hmoves with
  | stays => exact Or.inl h
  | turns _ hp _ =>
    rcases moved_cases rfl with ⟨_, hself⟩ | ⟨_, hold⟩
    · rw [← hself, hp] at h
      cases h
    · rw [← hold] at h
      exact Or.inl h
  | agrees hprogress =>
    rcases moved_cases rfl with ⟨hi, hself⟩ | ⟨_, hold⟩
    · rw [← hself] at h
      cases h
      exact Or.inr ⟨hi, _, _, hprogress⟩
    · rw [← hold] at h
      exact Or.inl h
  | misses hprogress =>
    rcases moved_cases rfl with ⟨hi, hself⟩ | ⟨_, hold⟩
    · rw [← hself] at h
      cases h
      exact Or.inr ⟨hi, _, _, hprogress⟩
    · rw [← hold] at h
      exact Or.inl h
  | _ =>
    rcases moved_cases rfl with ⟨_, hself⟩ | ⟨_, hold⟩
    · rw [← hself] at h
      cases h
    · rw [← hold] at h
      exact Or.inl h

theorem Held.moves (h : Held r) (hmoves : Moves r who r') : Held r' where
  usable i user change row hi := by
    rcases hmoves.holding hi with hold | ⟨_, hopen, htries⟩
    · exact h.usable i user change row hold
    · exact ⟨hopen, htries⟩
  stored i user change row hi := by
    refine hmoves.grows.stored row.id ?_
    rcases hmoves.holding hi with hold | ⟨hfound, _⟩
    · exact h.stored i user change row hold
    · rw [hfound]
      rfl
  writes i row hi := by
    refine hmoves.grows.stored row.id ?_
    rcases hmoves.writing hi with hold | ⟨_, user, change, hold⟩
    · exact h.writes i row hold
    · exact h.stored who user change row hold

/-- One call at most is between its comparison with a row and its write. -/
def Serial (r : Race) : Prop :=
  ∀ i j row other, (r.progress i).writing = some row → (r.progress j).writing = some other →
    row.id = other.id → i = j

theorem Serial.moves (h : Serial r) (hmoves : Moves r who r') (hok : Undisturbed r who) :
    Serial r' := by
  intro i j row other hi hj hid
  rcases hmoves.writing hi with hi | ⟨rfl, user, change, hwho⟩
  · rcases hmoves.writing hj with hj | ⟨rfl, user, change, hwho⟩
    · exact h i j row other hi hj hid
    · exact absurd hid ((hok user change other hwho).2 i row hi)
  · rcases hmoves.writing hj with hj | ⟨rfl, _⟩
    · exact absurd hid.symm ((hok user change row hwho).2 j other hj)
    · rfl

end Serial

/-! ## Guesses -/

section Guesses

variable {r r' : Race} {who : Nat}
variable {user : User} {change : AccountChange} {row : AuthVerificationCode}

/-- Every guess is counted in the row, but for one that is about to be. -/
structure Counted (r : Race) : Prop where
  missed : ∀ i row, r.progress i = .missed row → guesses r row.id ≤ row.attempts + 1
  quiet : ∀ codeId, (∀ i row, r.progress i = .missed row → row.id ≠ codeId) →
    guesses r codeId ≤ tries r.db codeId
  bounded : ∀ codeId, guesses r codeId ≤ otpMaxAttempts

theorem Counted.moved (h : Counted r) {p : Progress} {db : Database} {consumed : List (Nat × UUID)}
    (hwho : ∀ row, r.progress who ≠ .missed row) (hp : ∀ row, p ≠ .missed row)
    (htries : ∀ codeId, tries db codeId = tries r.db codeId) :
    Counted { r.moved who p with db, consumed } where
  missed i row hi := by
    rcases moved_cases hi with ⟨_, hself⟩ | ⟨_, hold⟩
    · exact absurd hself (hp row)
    · exact h.missed i row hold
  quiet codeId hquiet := by
    refine (h.quiet codeId ?_).trans (htries codeId).ge
    intro i row hi
    have hne : i ≠ who := by
      rintro rfl
      exact hwho row hi
    exact hquiet i row ((moved_progress_of_ne hne p).trans hi)
  bounded := h.bounded

theorem not_missed_of_writing {q : Progress} (h : q.writing = none) (row : AuthVerificationCode) :
    q ≠ .missed row := by
  rintro rfl
  cases h

theorem guesses_misses (row : AuthVerificationCode) (codeId : UUID) :
    guesses { r.moved who (.missed row) with compared := (who, row.id) :: r.compared } codeId
      = guesses r codeId + if row.id = codeId then 1 else 0 := by
  rw [guesses, List.countP_cons, guesses]
  simp only [decide_eq_true_eq]

/-- A guess, at a row that is as it was read. -/
theorem Counted.misses (h : Counted r) (hheld : Held r) (hok : Undisturbed r who)
    (hprogress : r.progress who = .holding user change row) :
    Counted { r.moved who (.missed row) with compared := (who, row.id) :: r.compared } := by
  obtain ⟨hfound, halone⟩ := hok user change row hprogress
  -- no guess at this row is still to be counted
  have hquiet : guesses r row.id ≤ row.attempts := by
    have htries : tries r.db row.id = row.attempts := by
      rw [tries, hfound]
      rfl
    rw [← htries]
    refine h.quiet row.id ?_
    intro i other hi
    exact halone i other (by rw [hi]; rfl)
  refine ⟨?_, ?_, ?_⟩
  · intro i other hi
    rw [guesses_misses]
    rcases moved_cases hi with ⟨_, hself⟩ | ⟨_, hold⟩
    · cases hself
      rw [if_pos rfl]
      omega
    · rw [if_neg (halone i other (by rw [hold]; rfl)).symm]
      exact h.missed i other hold
  · intro codeId hothers
    have hne : row.id ≠ codeId := hothers who row (moved_progress_self _)
    rw [guesses_misses, if_neg hne]
    refine h.quiet codeId ?_
    intro i other hi
    refine hothers i other ((moved_progress_of_ne ?_ _).trans hi)
    rintro rfl
    cases hprogress.symm.trans hi
  · intro codeId
    rw [guesses_misses]
    have hbounded := h.bounded codeId
    have htries := (hheld.usable who user change row hprogress).2
    split
    · next hid =>
      subst hid
      omega
    · exact hbounded

theorem Counted.counts (h : Counted r) (hheld : Held r) (hprogress : r.progress who = .missed row) :
    Counted { r.moved who .raised with db := setAttempts r.db row.id (row.attempts + 1) } where
  missed i other hi := by
    rcases moved_cases hi with ⟨_, hself⟩ | ⟨_, hold⟩
    · cases hself
    · exact h.missed i other hold
  quiet codeId hquiet := by
    show guesses r codeId ≤ tries (setAttempts r.db row.id (row.attempts + 1)) codeId
    by_cases hid : row.id = codeId
    · subst hid
      rw [tries_setAttempts_self (hheld.writes who row (by rw [hprogress]; rfl))]
      exact h.missed who row hprogress
    · rw [tries_setAttempts_of_ne hid]
      refine h.quiet codeId ?_
      intro i other hi
      by_cases hwho : i = who
      · subst hwho
        cases hprogress.symm.trans hi
        exact hid
      · exact hquiet i other ((moved_progress_of_ne hwho _).trans hi)
  bounded := h.bounded

theorem Counted.moves (h : Counted r) (hheld : Held r) (hmoves : Moves r who r')
    (hok : Undisturbed r who) : Counted r' := by
  cases hmoves with
  | stays => exact h
  | turns hwho hp _ =>
    exact h.moved (not_missed_of_writing hwho) (not_missed_of_writing hp) fun _ => rfl
  | agrees hprogress =>
    exact h.moved (fun row => hprogress ▸ nofun) nofun fun _ => rfl
  | misses hprogress => exact h.misses hheld hok hprogress
  | counts hprogress => exact h.counts hheld hprogress
  | consumes hprogress hdb =>
    refine h.moved (fun row => hprogress ▸ nofun) nofun ?_
    intro codeId
    rw [tries, hdb]
    exact tries_setConsumed r.db _ _ codeId
  | fails hprogress =>
    exact h.moved (fun row => hprogress ▸ nofun) nofun fun _ => rfl
  | issues hwho hnew hdb =>
    exact h.moved (not_missed_of_writing hwho) nofun (tries_insert? hdb hnew)
  | revokes hwho hdb =>
    refine h.moved (not_missed_of_writing hwho) nofun ?_
    intro codeId
    rw [tries, hdb]
    exact tries_setConsumed r.db _ _ codeId

end Guesses

/-! ## Consumption -/

section Consumption

variable {r r' : Race} {who : Nat}
variable {user : User} {change : AccountChange} {row : AuthVerificationCode}

/-- What has been consumed is spent, and nobody is about to consume it again. -/
structure Consumed (r : Race) : Prop where
  spent : ∀ i codeId, (i, codeId) ∈ r.consumed → Spent r.db codeId
  matched : ∀ i user change row, r.progress i = .matched user change row →
    ∀ j, (j, row.id) ∉ r.consumed
  once : ∀ i j codeId, (i, codeId) ∈ r.consumed → (j, codeId) ∈ r.consumed → i = j

theorem Consumed.moved (h : Consumed r) {p : Progress} {db : Database}
    {compared : List (Nat × UUID)} (hp : ∀ user change row, p ≠ .matched user change row)
    (hgrows : Grows r.db db) : Consumed { r.moved who p with db, compared } where
  spent i codeId hin := hgrows.spent codeId (h.spent i codeId hin)
  matched i user change row hi := by
    rcases moved_cases hi with ⟨_, hself⟩ | ⟨_, hold⟩
    · exact absurd hself (hp user change row)
    · exact h.matched i user change row hold
  once := h.once

theorem Consumed.agrees (h : Consumed r) (hheld : Held r) (hok : Undisturbed r who)
    (hprogress : r.progress who = .holding user change row) :
    Consumed (r.moved who (.matched user change row)) where
  spent := h.spent
  matched i user' change' other hi j := by
    rcases moved_cases hi with ⟨_, hself⟩ | ⟨_, hold⟩
    · cases hself
      intro hin
      obtain ⟨stored, hstored, hspent⟩ := h.spent j row.id hin
      cases hstored.symm.trans (hok user change row hprogress).1
      rw [(hheld.usable who user change row hprogress).1] at hspent
      cases hspent
    · exact h.matched i user' change' other hold j
  once := h.once

theorem Consumed.consumes (h : Consumed r) (hheld : Held r) (hserial : Serial r)
    (hprogress : r.progress who = .matched user change row) {now : DateTime} {db : Database}
    (hdb : db.authVerificationCodes = (setConsumed r.db row.id now).authVerificationCodes) :
    Consumed { r.moved who .returned with db, consumed := (who, row.id) :: r.consumed } := by
  have hwriting : (r.progress who).writing = some row := by
    rw [hprogress]
    rfl
  refine ⟨?_, ?_, ?_⟩
  · intro i codeId hin
    show Spent db codeId
    rw [Spent, hdb]
    rcases List.mem_cons.1 hin with hnow | hold
    · cases hnow
      exact spent_setConsumed (hheld.writes who row hwriting)
    · exact (grows_setConsumed r.db row.id now).spent codeId (h.spent i codeId hold)
  · intro i user' change' other hi j hin
    rcases moved_cases hi with ⟨_, hself⟩ | ⟨hne, hold⟩
    · cases hself
    · rcases List.mem_cons.1 hin with hnow | hbefore
      · refine hne (hserial i who other row (by rw [hold]; rfl) hwriting ?_)
        exact congrArg Prod.snd hnow
      · exact h.matched i user' change' other hold j hbefore
  · have hfirst := h.matched who user change row hprogress
    intro i j codeId hi hj
    rcases List.mem_cons.1 hi with hi | hi
    · cases hi
      rcases List.mem_cons.1 hj with hj | hj
      · exact (congrArg Prod.fst hj).symm
      · exact absurd hj (hfirst j)
    · rcases List.mem_cons.1 hj with hj | hj
      · cases hj
        exact absurd hi (hfirst i)
      · exact h.once i j codeId hi hj

theorem Consumed.moves (h : Consumed r) (hheld : Held r) (hserial : Serial r)
    (hmoves : Moves r who r') (hok : Undisturbed r who) : Consumed r' := by
  have hgrows := hmoves.grows
  cases hmoves with
  | stays => exact h
  | turns _ hp _ =>
    refine h.moved ?_ hgrows
    rintro _ _ _ rfl
    cases hp
  | agrees hprogress => exact h.agrees hheld hok hprogress
  | consumes hprogress hdb => exact h.consumes hheld hserial hprogress hdb
  | _ => exact h.moved nofun hgrows

end Consumption

/-! ## Runs -/

variable {ctx} {py} {calls} {db : Database}

/-- Everything that holds as long as the calls are not disturbed. -/
structure Orderly (r : Race) : Prop where
  held : Held r
  serial : Serial r
  counted : Counted r
  consumed : Consumed r

theorem Orderly.guarded {r : Race} (h : Orderly r) : Guarded r :=
  ⟨h.consumed.once, h.counted.bounded⟩

theorem start_orderly : Orderly (start db) where
  held := ⟨nofun, nofun, nofun⟩
  serial := nofun
  counted := ⟨nofun, fun _ _ => Nat.zero_le _, fun _ => Nat.zero_le _⟩
  consumed := ⟨nofun, nofun, nofun⟩

theorem Orderly.moves {r r' : Race} {who : Nat} (h : Orderly r) (hmoves : Moves r who r')
    (hok : Undisturbed r who) : Orderly r' where
  held := h.held.moves hmoves
  serial := h.serial.moves hmoves hok
  counted := h.counted.moves h.held hmoves hok
  consumed := h.consumed.moves h.held h.serial hmoves hok

/-- **GUARDED WHILE UNDISTURBED**: in every interleaving whose comparisons find the row as it was
read, and no other call between a comparison with it and its write, each code is consumed by
one call at most and compared with `OTP_MAX_ATTEMPTS` wrong codes at most. -/
theorem guarded_while_undisturbed (ctx : PasswordContext) (py : Interpreter)
    (calls : Nat → CodeCall) (db : Database) (es : List Nat)
    (h : Runs.StepsMeet (step ctx py calls) Undisturbed (start db) es) :
    ∀ r ∈ Runs.visited (step ctx py calls) (start db) es, Guarded r := by
  have hkept : ∀ s who s', Orderly s → Undisturbed s who → step ctx py calls s who = .ok s' →
      Orderly s' := by
    intro s who s' hs hok hstep
    obtain ⟨t, ht, hmoves⟩ := step_moves ctx py calls s who
    cases ht.symm.trans hstep
    exact hs.moves hmoves hok
  intro r hr
  exact (Runs.visited_invariant hkept es _ start_orderly h r hr).guarded

/-! ## One user and one code -/

/-- A code for a new password, sent at instant 0. -/
def resetCode : AuthVerificationCode where
  id := 1
  userId := 1
  purpose := VerificationPurpose.passwordReset
  codeHash := "123456"
  expiresAt := 600000000
  createdAt := 0

def oneReset : Database :=
  { users := .single { id := 1, organizationId := 1, email := "pilot@fleet.aero" }
    authVerificationCodes := .single resetCode }

/-- Everybody tries the code. -/
def resetsWith (code : String) (who : Nat) : CodeCall :=
  .confirm 1000000 code (.passwordReset "pilot@fleet.aero" "new password" who)

/-- Two calls consume the code, both having read it first; and six wrong codes are compared with
it, all six calls having read that none was tried. -/
theorem code_unguarded :
    ¬Guarded (after .plain .ascii (resetsWith "123456") oneReset [0, 1, 0, 1, 0, 1]) ∧
      ¬Guarded (after .plain .ascii (resetsWith "000000") oneReset
        [0, 1, 2, 3, 4, 5, 0, 1, 2, 3, 4, 5]) := by
  constructor
  · intro h
    exact absurd (h.once 0 1 1 (by decide) (by decide)) (by decide)
  · intro h
    exact absurd (h.bounded 1) (by decide)

/-- One call after the other. -/
theorem code_guarded :
    Runs.StepsMeet (step .plain .ascii (resetsWith "123456")) Undisturbed (start oneReset)
        [0, 0, 0, 1, 1, 1] ∧
      ∀ r ∈ Runs.visited (step .plain .ascii (resetsWith "123456")) (start oneReset)
        [0, 0, 0, 1, 1, 1], Guarded r := by
  have hfree : ∀ r who, (match r.progress who with | .holding _ _ _ => true | _ => false) = false →
      Undisturbed r who := by
    intro r who h user change row hprogress
    rw [hprogress] at h
    cases h
  have hmeet : Runs.StepsMeet (step .plain .ascii (resetsWith "123456")) Undisturbed
      (start oneReset) [0, 0, 0, 1, 1, 1] := by
    refine ⟨hfree _ _ (by decide), ?_, hfree _ _ (by decide),
      hfree _ _ (by decide), hfree _ _ (by decide), hfree _ _ (by decide),
      trivial⟩
    obtain ⟨r, hstep, hmoves⟩ :=
      step_moves .plain .ascii (resetsWith "123456") (start oneReset) 0
    have hattempt :
        Runs.attempt (step .plain .ascii (resetsWith "123456")) (start oneReset) 0 = r := by
      rw [Runs.attempt, hstep]
    intro user change row hprogress
    have hrow : (match (Runs.attempt (step .plain .ascii (resetsWith "123456"))
        (start oneReset) 0).progress 0 with
      | .holding _ _ row => some row
      | _ => none) = some resetCode := by decide
    rw [hprogress] at hrow
    cases Option.some.inj hrow
    refine ⟨by decide, ?_⟩
    -- nobody has compared yet
    intro i other hwriting
    rw [hattempt] at hwriting
    rcases hmoves.writing hwriting with hbefore | ⟨_, _, _, hbefore⟩
    · cases hbefore
    · cases hbefore
  exact ⟨hmeet, guarded_while_undisturbed .plain .ascii _ oneReset _ hmeet⟩

/-- One call, and nobody else. -/
theorem alone_reset :
    (after .plain .ascii (resetsWith "123456") oneReset [0, 0, 0]).db
      = Sessions.left ((Confirmation.passwordReset "pilot@fleet.aero" "new password" 0).service
        .plain 1000000 "123456") oneReset :=
  alone_left oneReset rfl

end CodeRace
end AeroComply
