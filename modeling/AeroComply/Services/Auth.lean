import AeroComply.Lib.Sessions
import AeroComply.Models.Database

/-!
# Auth — one-time codes and what they confirm

`app/services/auth_service.py`: the codes that are mailed for a purpose, how one
is consumed, and the services that ask for it.  A service is a call in a session:
`_consume_code` commits the attempt it counts before it raises, so a refused call
can leave something behind.

What the server and the interpreter draw (row ids, codes, salts) are arguments;
the instant of a call is one argument, and `created_at` is that instant.
-/

namespace AeroComply

open Relational (Table)

/-- `app/core/security.py`: a hash is salted, and verifies the text it was made of. -/
structure PasswordContext where
  hash : Nat → String → String
  verify : String → String → Bool
  verify_hash : ∀ salt plain password, verify plain (hash salt password) = true ↔ plain = password

namespace PasswordContext

/-- Salt and text written side by side. -/
def plain : PasswordContext where
  hash _ password := password
  verify plain hashed := decide (plain = hashed)
  verify_hash _ _ _ := decide_eq_true_iff

end PasswordContext

/-- What is drawn for a new code: the id of its row, the code, and the salt of its hash. -/
structure GeneratedCode where
  id : UUID
  code : String
  salt : Nat
  deriving DecidableEq

/-- A message with a code in it. -/
structure CodeEmail where
  recipient : String
  code : String
  purposeLabel : String
  deriving DecidableEq

/-- The profile that the account services return. -/
structure CurrentUser where
  id : UUID
  organizationId : UUID
  email : String
  fullName : String
  roles : List String
  emailVerified : Bool
  pendingEmail : Option String

namespace AuthService

open Sessions (Call)

def otpTtlMinutes : Int := 10

def otpMaxAttempts : Nat := 5

def otpResendCooldownSeconds : Int := 60

/-- `timedelta(seconds=1)`. -/
def oneSecond : Int := 1000000

/-- `UnauthorizedError("Invalid or expired code")`. -/
def invalidCode : Error := .unauthorized "Invalid or expired code"

/-- `db.get(User, user_id)`. -/
def getUser (db : Database) (userId : UUID) : Except Error User :=
  match db.users.find? userId with
  | some user => .ok user
  | none => .error (.notFound "User not found")

/-- `SELECT … WHERE user_id = … AND purpose = … ORDER BY created_at DESC LIMIT 1`. -/
def latestCode (db : Database) (userId : UUID) (purpose : String) : Option AuthVerificationCode :=
  newestBy AuthVerificationCode.createdAt
    (db.authVerificationCodes.select fun row => row.userId = userId && row.purpose = purpose)

/-- The newest code is not consumed, and less than a minute old. -/
def coolingDown (latest : Option AuthVerificationCode) (now : DateTime) : Bool :=
  latest.any fun row =>
    row.consumedAt.isNone && decide (now - row.createdAt < otpResendCooldownSeconds * oneSecond)

variable (ctx : PasswordContext)

/-- The row `_issue_code` adds. -/
def issuedRow (user : User) (purpose : String) (now : DateTime) (generated : GeneratedCode) :
    AuthVerificationCode where
  id := generated.id
  userId := user.id
  purpose := purpose
  codeHash := ctx.hash generated.salt generated.code
  expiresAt := now + otpTtlMinutes * 60 * oneSecond
  createdAt := now

/-- `_issue_code`; the code it returns is the one that was generated. -/
def issueCode (db : Database) (user : User) (purpose : String) (now : DateTime)
    (generated : GeneratedCode) : Except Error Database := do
  raiseIf (coolingDown (latestCode db user.id purpose) now)
    (.conflict "A code was already sent recently. Please wait before requesting another."
      "otp_cooldown")
  let codes ← addRow db.authVerificationCodes (issuedRow ctx user purpose now generated)
  pure { db with authVerificationCodes := codes }

/-- The newest row, if a code may still be compared with it. -/
def usableCode (db : Database) (userId : UUID) (purpose : String) (now : DateTime) :
    Except Error AuthVerificationCode :=
  match latestCode db userId purpose with
  | none => .error invalidCode
  | some row => do
    raiseIf (row.consumedAt.isSome) invalidCode
    raiseIf (otpMaxAttempts ≤ row.attempts) invalidCode
    raiseIf (row.expiresAt < now) invalidCode
    pure row

/-- Write the row of a code. -/
def saveCode (db : Database) (row : AuthVerificationCode) : Database :=
  { db with authVerificationCodes := db.authVerificationCodes.save row }

/-- Write the row of a user. -/
def saveUser (db : Database) (user : User) : Database :=
  { db with users := db.users.save user }

/-- `_consume_code`: a wrong code is counted and committed, a right one marks the row. -/
def consumeCode (user : User) (purpose : String) (now : DateTime) (code : String) :
    Call Database Error Unit := do
  let row ← Sessions.query fun db => usableCode db user.id purpose now
  if ctx.verify code row.codeHash then
    Sessions.update fun db => .ok (saveCode db { row with consumedAt := some now })
  else do
    Sessions.transaction fun db => .ok (saveCode db { row with attempts := row.attempts + 1 })
    Sessions.query fun _ => .error invalidCode

def rolesForUser (db : Database) (userId : UUID) : List String :=
  (db.userRoles.select fun r => r.userId = userId).map UserRole.roleName

def userToCurrentUser (db : Database) (user : User) : CurrentUser where
  id := user.id
  organizationId := user.organizationId
  email := user.email
  fullName := user.fullName
  roles := rolesForUser db user.id
  emailVerified := user.emailVerified
  pendingEmail := user.pendingEmail

/-- The last reading of a call, after `db.refresh(user)`. -/
def currentUser (userId : UUID) : Call Database Error CurrentUser :=
  Sessions.query fun db => (getUser db userId).map (userToCurrentUser db)

/-- `record_audit_event` about the user, by the user. -/
def recordUserEvent (db : Database) (user : User) (action : String) : Database :=
  db.recordAuditEvent user.organizationId (some user.id) action "User" (some user.id)

/-! ## The email address of a user -/

section EmailChange

variable (py : Interpreter)

/-- Another user has the address; the query fails on two. -/
def emailTaken (db : Database) (userId : UUID) (email : String) : Except Error (Option User) :=
  scalarOneOrNone (db.users.select fun u => u.email = email && u.id ≠ userId)

/-- `new_email.strip().lower()`. -/
def cleanEmail (newEmail : String) : String := py.lower (py.unicode.strip newEmail)

/-- What `request_email_change` writes before it commits. -/
def writeEmailRequest (db : Database) (now : DateTime) (userId : UUID) (newEmail : String)
    (generated : GeneratedCode) : Except Error Database := do
  let user ← getUser db userId
  let clean := cleanEmail py newEmail
  raiseIf (clean = py.lower user.email)
    (.conflict "New email address is identical to your current email." "identical_email")
  let existing ← emailTaken db user.id clean
  raiseIf existing.isSome
    (.conflict "This email address is already associated with another account." "email_in_use")
  let db := saveUser db { user with pendingEmail := some clean }
  let db ← issueCode ctx db user VerificationPurpose.emailChange now generated
  pure (recordUserEvent db user "user.email_change_requested")

/-- `request_email_change`, with the message it sends. -/
def requestEmailChange (now : DateTime) (userId : UUID) (newEmail : String)
    (generated : GeneratedCode) : Call Database Error CodeEmail := do
  Sessions.transaction fun db => writeEmailRequest ctx py db now userId newEmail generated
  pure ⟨cleanEmail py newEmail, generated.code, "Email address change"⟩

/-- What `confirm_email_change` checks before it looks at the code. -/
def pendingChange (db : Database) (userId : UUID) : Except Error (User × String) := do
  let user ← getUser db userId
  match user.pendingEmail.filter (· ≠ "") with
  | none => .error (.conflict "No pending email change request found." "no_pending_email")
  | some pending =>
    let existing ← emailTaken db user.id pending
    raiseIf existing.isSome
      (.conflict "This email address was claimed by another account." "email_in_use")
    pure (user, pending)

/-- What `confirm_email_change` does once the code is consumed. -/
def adoptEmail (user : User) (pending : String) : Call Database Error CurrentUser := do
  Sessions.transaction fun db =>
    .ok (recordUserEvent
      (saveUser db { user with email := pending, pendingEmail := none, emailVerified := true })
      user "user.email_changed")
  currentUser user.id

def confirmEmailChange (now : DateTime) (userId : UUID) (code : String) :
    Call Database Error CurrentUser := do
  let (user, pending) ← Sessions.query fun db => pendingChange db userId
  consumeCode ctx user VerificationPurpose.emailChange now code
  adoptEmail user pending

def cancelEmailChange (userId : UUID) : Call Database Error CurrentUser := do
  let user ← Sessions.query fun db => getUser db userId
  if (user.pendingEmail.filter (· ≠ "")).isSome then
    Sessions.transaction fun db =>
      .ok (recordUserEvent (saveUser db { user with pendingEmail := none }) user
        "user.email_change_cancelled")
  currentUser userId

end EmailChange

/-! ## The other purposes -/

/-- What is written before a code is mailed for a purpose. -/
def writeCodeRequest (db : Database) (user : User) (purpose action : String) (now : DateTime)
    (generated : GeneratedCode) : Except Error Database := do
  let db ← issueCode ctx db user purpose now generated
  pure (recordUserEvent db user action)

/-- The user, whose address is not verified yet. -/
def unverifiedUser (db : Database) (userId : UUID) : Except Error User := do
  let user ← getUser db userId
  raiseIf user.emailVerified (.conflict "Email is already verified" "already_verified")
  pure user

/-- The active user with an address, if there is one. -/
def userByEmail (db : Database) (email : String) : Except Error (Option User) := do
  let found ← scalarOneOrNone (db.users.select fun u => u.email = email)
  pure (found.filter User.isActive)

/-- The active user with an address; the error is the one for a wrong code. -/
def activeUser (db : Database) (email : String) : Except Error User := do
  match ← userByEmail db email with
  | none => .error invalidCode
  | some user => pure user

/-- `request_account_onboarding`, with the message it sends. -/
def requestAccountOnboarding (now : DateTime) (userId : UUID) (generated : GeneratedCode) :
    Call Database Error CodeEmail := do
  let user ← Sessions.query fun db => getUser db userId
  Sessions.transaction fun db => writeCodeRequest ctx db user
    VerificationPurpose.accountOnboarding "auth.onboarding_email_requested" now generated
  pure ⟨user.email, generated.code, "Account setup"⟩

/-- The services that change the account of a user for a code that is consumed. -/
def confirmAccount (purpose action : String) (read : Database → Except Error User)
    (change : User → User) (now : DateTime) (code : String) : Call Database Error Unit := do
  let user ← Sessions.query read
  consumeCode ctx user purpose now code
  Sessions.transaction fun db => .ok (recordUserEvent (saveUser db (change user)) user action)

def confirmEmailVerification (now : DateTime) (userId : UUID) (code : String) :
    Call Database Error Unit :=
  confirmAccount ctx VerificationPurpose.emailVerification "auth.email_verified"
    (fun db => getUser db userId) (fun user => { user with emailVerified := true }) now code

/-- `reset_password`; `salt` is drawn for the new hash. -/
def resetPassword (now : DateTime) (email code newPassword : String) (salt : Nat) :
    Call Database Error Unit :=
  confirmAccount ctx VerificationPurpose.passwordReset "auth.password_reset_completed"
    (fun db => activeUser db email)
    (fun user => { user with hashedPassword := ctx.hash salt newPassword }) now code

def completeAccountOnboarding (now : DateTime) (email code newPassword : String) (salt : Nat) :
    Call Database Error Unit :=
  confirmAccount ctx VerificationPurpose.accountOnboarding "auth.onboarding_completed"
    (fun db => activeUser db email)
    (fun user => { user with hashedPassword := ctx.hash salt newPassword, emailVerified := true })
    now code

/-- The invitation that `revoke_account_onboarding` finds. -/
def pendingInvitation (db : Database) (userId : UUID) :
    Except Error (User × AuthVerificationCode) := do
  let user ← getUser db userId
  match (latestCode db userId VerificationPurpose.accountOnboarding).filter
      (·.consumedAt.isNone) with
  | none => .error (.conflict "There is no pending invitation to revoke for this user."
      "no_pending_invitation")
  | some latest => pure (user, latest)

/-! ## Users -/

section Users

variable {db : Database} {userId : UUID} {user : User}

theorem getUser_eq_ok (h : getUser db userId = .ok user) : user ∈ db.users.rows ∧ user.id = userId := by
  rw [getUser] at h
  cases hfound : db.users.find? userId with
  | none =>
    rw [hfound] at h
    cases h
  | some u =>
    rw [hfound] at h
    cases h
    exact Table.find?_eq_some.1 hfound

theorem getUser_of_mem (h : user ∈ db.users.rows) : getUser db user.id = .ok user := by
  have hfound : db.users.find? user.id = some user := Table.find?_eq_some.2 ⟨h, rfl⟩
  rw [getUser, hfound]

theorem getUser_saveUser {user' : User} (h : user ∈ db.users.rows) (hid : user'.id = user.id) :
    getUser (saveUser db user') user.id = .ok user' := by
  have hmem : user' ∈ (saveUser db user').users.rows :=
    (Table.mem_save_of_mem h hid.symm).2 (Or.inr rfl)
  rw [← hid]
  exact getUser_of_mem hmem

theorem activeUser_eq_ok {email : String} (h : activeUser db email = .ok user) :
    user ∈ db.users.rows := by
  obtain ⟨found, hfound, h⟩ := bind_eq_ok.1 h
  obtain ⟨only, honly, hfilter⟩ := bind_eq_ok.1 hfound
  cases pure_eq_ok.1 hfilter
  cases hactive : only.filter User.isActive with
  | none =>
    rw [hactive] at h
    cases h
  | some u =>
    rw [hactive] at h
    cases pure_eq_ok.1 h
    rw [(Option.filter_eq_some_iff.1 hactive).1] at honly
    have hselected : user ∈ db.users.select fun u => u.email = email := by
      rw [scalarOneOrNone_eq_some honly]
      exact List.mem_singleton_self user
    exact (Table.mem_select.1 hselected).1

end Users

/-! ## The newest code -/

section LatestCode

variable {ctx} {db db' : Database} {row : AuthVerificationCode} {userId : UUID} {purpose : String}

theorem latestCode_eq_some (h : latestCode db userId purpose = some row) :
    row ∈ db.authVerificationCodes.rows ∧ row.userId = userId ∧ row.purpose = purpose := by
  simpa [and_assoc] using Table.mem_select.1 (mem_of_newestBy h)

theorem latestCode_saveCode {row' : AuthVerificationCode}
    (hrow : row ∈ db.authVerificationCodes.rows)
    (hsame : row' = { row with consumedAt := row'.consumedAt, attempts := row'.attempts })
    (userId : UUID) (purpose : String) :
    latestCode (saveCode db row') userId purpose
      = (latestCode db userId purpose).map fun x => if x.id = row'.id then row' else x := by
  have hid : row'.id = row.id := by
    rw [hsame]
  have hkept : ∀ x ∈ db.authVerificationCodes.rows, x.id = row'.id → x = row :=
    fun x hx hk => Table.eq_of_key_eq hx hrow (hk.trans hid)
  rw [latestCode, latestCode, saveCode, Table.select_save]
  · refine newestBy_map ?_
    intro x hx
    show (if x.id = row'.id then row' else x).createdAt = x.createdAt
    by_cases hk : x.id = row'.id
    · rw [if_pos hk, hkept x (Table.mem_select.1 hx).1 hk, hsame]
    · rw [if_neg hk]
  · intro x hx hk
    rw [hkept x hx hk, hsame]

theorem latestCode_of_saveCode {row' x' : AuthVerificationCode}
    (h : latestCode (saveCode db row') userId purpose = some x') (hopen : x'.consumedAt = none)
    (hrow : row ∈ db.authVerificationCodes.rows)
    (hsame : row' = { row with consumedAt := row'.consumedAt, attempts := row'.attempts })
    (hkept : row'.consumedAt = none → row.consumedAt = none) :
    ∃ x, latestCode db userId purpose = some x ∧ x.consumedAt = none ∧ x.id = x'.id ∧
      x.codeHash = x'.codeHash := by
  rw [latestCode_saveCode hrow hsame] at h
  obtain ⟨x, hx, rfl⟩ := Option.map_eq_some_iff.1 h
  refine ⟨x, hx, ?_⟩
  by_cases hid : x.id = row'.id
  · have hxrow : x = row := by
      refine Table.eq_of_key_eq (latestCode_eq_some hx).1 hrow (hid.trans ?_)
      rw [hsame]
      rfl
    rw [if_pos hid] at hopen
    rw [if_pos hid, hxrow]
    exact ⟨hkept hopen, by rw [hsame], by rw [hsame]⟩
  · rw [if_neg hid] at hopen
    rw [if_neg hid]
    exact ⟨hopen, rfl, rfl⟩

theorem latestCode_insert? (db db' : Database) (h : db.authVerificationCodes.insert? row
      = some db'.authVerificationCodes) (userId : UUID) (purpose : String) :
    latestCode db' userId purpose
      = if row.userId = userId ∧ row.purpose = purpose then
          match latestCode db userId purpose with
          | none => some row
          | some r => if r.createdAt < row.createdAt then some row else some r
        else latestCode db userId purpose := by
  rw [latestCode, latestCode, Table.select_insert? h]
  by_cases hrow : row.userId = userId ∧ row.purpose = purpose
  · rw [if_pos hrow, List.filter_cons_of_pos (by simp [hrow]), List.filter_nil,
      newestBy_append_singleton]
    cases newestBy AuthVerificationCode.createdAt (db.authVerificationCodes.select _) with
    | none => rfl
    | some r => rfl
  · rw [if_neg hrow, List.filter_cons_of_neg (by simpa using hrow), List.filter_nil,
      List.append_nil]

variable {now : DateTime} {generated : GeneratedCode} {user : User}

/-- A code that goes out is the newest one, or the newest one is spent. -/
theorem latestCode_issueCode (h : issueCode ctx db user purpose now generated = .ok db') :
    latestCode db' user.id purpose = some (issuedRow ctx user purpose now generated) ∨
      ∃ r, latestCode db' user.id purpose = some r ∧ r.consumedAt.isSome = true := by
  obtain ⟨_, hcool, h⟩ := bind_eq_ok.1 h
  obtain ⟨codes, hadd, h⟩ := bind_eq_ok.1 h
  cases pure_eq_ok.1 h
  have hlatest := latestCode_insert? db { db with authVerificationCodes := codes }
    (addRowOrRaise_eq_ok.1 hadd) user.id purpose
  rw [if_pos ⟨rfl, rfl⟩] at hlatest
  have hcool := raiseIf_eq_ok.1 hcool
  cases hold : latestCode db user.id purpose with
  | none =>
    rw [hold] at hlatest
    exact Or.inl hlatest
  | some r =>
    rw [hold] at hlatest hcool
    by_cases hspent : r.consumedAt.isSome = true
    · by_cases hnewer : r.createdAt < now
      · exact Or.inl (hlatest.trans (if_pos hnewer))
      · exact Or.inr ⟨r, hlatest.trans (if_neg hnewer), hspent⟩
    · -- an unconsumed code is at least a minute old
      left
      refine hlatest.trans (if_pos ?_)
      have hold : ¬(now - r.createdAt < otpResendCooldownSeconds * oneSecond) := by
        intro hlt
        refine hcool ?_
        rw [coolingDown, Option.any_some, decide_eq_true hlt, Bool.and_true]
        simpa using hspent
      have hlater : ∀ a b : Int, ¬(a - b < 60 * 1000000) → b < a := fun a b h => by omega
      exact hlater now r.createdAt hold

theorem issueCode_frame (h : issueCode ctx db user purpose now generated = .ok db') :
    ∃ codes, db.authVerificationCodes.insert? (issuedRow ctx user purpose now generated) = some codes
      ∧ db' = { db with authVerificationCodes := codes } := by
  obtain ⟨_, _, h⟩ := bind_eq_ok.1 h
  obtain ⟨codes, hadd, h⟩ := bind_eq_ok.1 h
  exact ⟨codes, addRowOrRaise_eq_ok.1 hadd, (pure_eq_ok.1 h).symm⟩

theorem usableCode_eq_ok (h : usableCode db userId purpose now = .ok row) :
    latestCode db userId purpose = some row ∧ row.consumedAt = none ∧
      row.attempts < otpMaxAttempts := by
  rw [usableCode] at h
  cases hlatest : latestCode db userId purpose with
  | none =>
    rw [hlatest] at h
    cases h
  | some r =>
    rw [hlatest] at h
    obtain ⟨_, hspent, h⟩ := bind_eq_ok.1 h
    obtain ⟨_, htries, h⟩ := bind_eq_ok.1 h
    obtain ⟨_, _, h⟩ := bind_eq_ok.1 h
    cases pure_eq_ok.1 h
    have hspent := raiseIf_eq_ok.1 hspent
    have htries := raiseIf_eq_ok.1 htries
    exact ⟨rfl, by simpa using hspent, by omega⟩

/-- What `_consume_code` does: it raises and leaves nothing, it counts a wrong code and raises,
or it marks the row in what the caller is about to commit. -/
theorem consumeCode_cases (ctx : PasswordContext) (db : Database) (user : User) (purpose : String)
    (now : DateTime) (code : String) :
    (∃ e, consumeCode ctx user purpose now code ⟨db, db⟩ = (.error e, ⟨db, db⟩)) ∨
    ∃ row, usableCode db user.id purpose now = .ok row ∧
      ((ctx.verify code row.codeHash = false ∧
          consumeCode ctx user purpose now code ⟨db, db⟩
            = (.error invalidCode, ⟨saveCode db { row with attempts := row.attempts + 1 },
                saveCode db { row with attempts := row.attempts + 1 }⟩)) ∨
        (ctx.verify code row.codeHash = true ∧
          consumeCode ctx user purpose now code ⟨db, db⟩
            = (.ok (), ⟨db, saveCode db { row with consumedAt := some now }⟩))) := by
  cases husable : usableCode db user.id purpose now with
  | error e =>
    left
    refine ⟨e, ?_⟩
    rw [consumeCode, Sessions.bind_of_error (Sessions.query_of husable)]
  | ok row =>
    right
    refine ⟨row, rfl, ?_⟩
    rw [consumeCode, Sessions.bind_of_ok (Sessions.query_of husable)]
    cases hverify : ctx.verify code row.codeHash with
    | true =>
      right
      exact ⟨rfl, rfl⟩
    | false =>
      left
      exact ⟨rfl, rfl⟩

end LatestCode

end AuthService
end AeroComply
