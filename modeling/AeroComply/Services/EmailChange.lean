import AeroComply.Services.Auth

/-!
# EmailChange — an address is adopted with proof that it was reached

Any sequence of `request_email_change`, `confirm_email_change` and
`cancel_email_change` calls of any users.  The pending address is a column of the
user, the code is a row of another table, and nothing links the two.

What holds the pair together is the newest code of the user: a request that goes
through writes both, and one that is refused by the cool-down writes neither.
`adopted_with_proof` follows from that (`Paired`) for every sequence.
-/

namespace AeroComply

open Relational (Table)

namespace EmailChange

open AuthService
open Sessions (Call)

inductive EmailCall
  | request (now : DateTime) (userId : UUID) (newEmail : String) (generated : GeneratedCode)
  | confirm (now : DateTime) (userId : UUID) (code : String)
  | cancel (userId : UUID)

variable (ctx : PasswordContext) (py : Interpreter)

def call : EmailCall → Call Database Error Unit
  | .request now userId newEmail generated => do
    let _ ← requestEmailChange ctx py now userId newEmail generated
  | .confirm now userId code => do
    let _ ← confirmEmailChange ctx now userId code
  | .cancel userId => do
    let _ ← cancelEmailChange userId

/-- The database after a sequence of calls. -/
def after (db : Database) (calls : List EmailCall) : Database :=
  Sessions.after (call ctx py) db calls

/-- One of the calls was a request of the user that wrote the row with id `codeId` and sent
`code` to `email`. -/
def SentTo (db : Database) (calls : List EmailCall) (userId codeId : UUID) (code email : String) :
    Prop :=
  ∃ before now newEmail generated rest,
    calls = before ++ .request now userId newEmail generated :: rest ∧
    Sessions.answer (requestEmailChange ctx py now userId newEmail generated)
      (after ctx py db before) = .ok ⟨email, code, "Email address change"⟩ ∧
    generated.id = codeId ∧ generated.code = code

/-- What a confirmation that adopts `email` has shown: the code is one that an earlier request
of the user sent to `email`, its row is still the newest one of the user and not consumed,
and nobody else has the address. -/
def ProvenBy (db : Database) (calls : List EmailCall) (userId : UUID) (code email : String) :
    Prop :=
  (∃ row, latestCode (after ctx py db calls) userId VerificationPurpose.emailChange = some row ∧
    row.consumedAt = none ∧ SentTo ctx py db calls userId row.id code email) ∧
  ∀ u ∈ (after ctx py db calls).users.rows, u.id ≠ userId → u.email ≠ email

section Specs

variable {ctx} {py} {db db' : Database} {userId : UUID}

/-! ## What the calls leave -/

theorem writeEmailRequest_eq_ok {now : DateTime} {newEmail : String} {generated : GeneratedCode}
    (h : writeEmailRequest ctx py db now userId newEmail generated = .ok db') :
    ∃ user ∈ db.users.rows, user.id = userId ∧
      db'.users = db.users.save { user with pendingEmail := some (cleanEmail py newEmail) } ∧
      ∃ codes, issueCode ctx db user VerificationPurpose.emailChange now generated
          = .ok { db with authVerificationCodes := codes } ∧
        db'.authVerificationCodes = codes := by
  obtain ⟨user, hget, h⟩ := bind_eq_ok.1 h
  obtain ⟨_, _, h⟩ := bind_eq_ok.1 h
  obtain ⟨existing, _, h⟩ := bind_eq_ok.1 h
  obtain ⟨_, _, h⟩ := bind_eq_ok.1 h
  obtain ⟨issued, hissue, h⟩ := bind_eq_ok.1 h
  obtain ⟨hmem, hid⟩ := getUser_eq_ok hget
  obtain ⟨_, hcool, hissue⟩ := bind_eq_ok.1 hissue
  obtain ⟨codes, hadd, hissue⟩ := bind_eq_ok.1 hissue
  cases pure_eq_ok.1 hissue
  cases pure_eq_ok.1 h
  refine ⟨user, hmem, hid, rfl, codes, ?_, rfl⟩
  exact bind_eq_ok.2 ⟨(), hcool, bind_eq_ok.2 ⟨codes, hadd, rfl⟩⟩

theorem pendingChange_eq_ok {user : User} {pending : String}
    (h : pendingChange db userId = .ok (user, pending)) :
    user ∈ db.users.rows ∧ user.id = userId ∧ user.pendingEmail = some pending ∧
      emailTaken db userId pending = .ok none := by
  obtain ⟨u, hget, h⟩ := bind_eq_ok.1 h
  obtain ⟨hmem, hid⟩ := getUser_eq_ok hget
  cases hpending : u.pendingEmail.filter (· ≠ "") with
  | none =>
    rw [hpending] at h
    cases h
  | some p =>
    rw [hpending] at h
    obtain ⟨existing, htaken, h⟩ := bind_eq_ok.1 h
    obtain ⟨_, hnone, h⟩ := bind_eq_ok.1 h
    cases pure_eq_ok.1 h
    have hnone : existing = none := by
      simpa using raiseIf_eq_ok.1 hnone
    rw [hid, hnone] at htaken
    exact ⟨hmem, hid, (Option.filter_eq_some_iff.1 hpending).1, htaken⟩

/-- What a confirmation does: nothing, a wrong code is counted, or the address is adopted. -/
theorem confirm_cases (ctx : PasswordContext) (py : Interpreter) (db : Database) (now : DateTime)
    (userId : UUID) (code : String) :
    Sessions.left (call ctx py (.confirm now userId code)) db = db ∨
    (∃ row, latestCode db userId VerificationPurpose.emailChange = some row ∧
      Sessions.left (call ctx py (.confirm now userId code)) db
        = saveCode db { row with attempts := row.attempts + 1 }) ∨
    ∃ user ∈ db.users.rows, user.id = userId ∧ ∃ pending, user.pendingEmail = some pending ∧
      emailTaken db userId pending = .ok none ∧
      ∃ row, usableCode db userId VerificationPurpose.emailChange now = .ok row ∧
        ctx.verify code row.codeHash = true ∧
        (Sessions.answer (confirmEmailChange ctx now userId code) db).isOk = true ∧
        Sessions.left (call ctx py (.confirm now userId code)) db
          = recordUserEvent
              (saveUser (saveCode db { row with consumedAt := some now })
                { user with email := pending, pendingEmail := none, emailVerified := true })
              user "user.email_changed" := by
  have hleft : Sessions.left (call ctx py (.confirm now userId code)) db
      = Sessions.left (confirmEmailChange ctx now userId code) db := Sessions.left_discard db
  rw [hleft]
  cases hpending : pendingChange db userId with
  | error e =>
    left
    rw [Sessions.left, confirmEmailChange, Sessions.bind_of_error (Sessions.query_of hpending)]
  | ok found =>
    obtain ⟨user, pending⟩ := found
    obtain ⟨hmem, rfl, hcolumn, htaken⟩ := pendingChange_eq_ok hpending
    have hrun : confirmEmailChange ctx now user.id code ⟨db, db⟩
        = (consumeCode ctx user VerificationPurpose.emailChange now code >>= fun _ =>
            adoptEmail user pending) ⟨db, db⟩ := by
      rw [confirmEmailChange, Sessions.bind_of_ok (Sessions.query_of hpending)]
    rcases consumeCode_cases ctx db user VerificationPurpose.emailChange now code with
      ⟨e, hconsume⟩ | ⟨row, husable, ⟨_, hconsume⟩ | ⟨hverify, hconsume⟩⟩
    · left
      rw [Sessions.left, hrun, Sessions.bind_of_error hconsume]
    · right
      left
      refine ⟨row, (usableCode_eq_ok husable).1, ?_⟩
      rw [Sessions.left, hrun, Sessions.bind_of_error hconsume]
    · right
      right
      rw [Sessions.bind_of_ok hconsume] at hrun
      refine ⟨user, hmem, rfl, pending, hcolumn, htaken, row, husable, hverify, ?_, ?_⟩
      · let saved := { user with email := pending, pendingEmail := none, emailVerified := true }
        have hread : getUser (saveUser (saveCode db { row with consumedAt := some now }) saved)
            user.id = .ok saved := getUser_saveUser hmem rfl
        rw [Sessions.answer, hrun]
        show ((getUser (saveUser (saveCode db { row with consumedAt := some now }) saved) user.id).map
          _).isOk = true
        rw [hread]
        rfl
      · rw [Sessions.left, hrun]
        rfl

theorem request_cases (ctx : PasswordContext) (py : Interpreter) (db : Database) (now : DateTime)
    (userId : UUID) (newEmail : String) (generated : GeneratedCode) :
    Sessions.left (call ctx py (.request now userId newEmail generated)) db = db ∨
    Sessions.answer (requestEmailChange ctx py now userId newEmail generated) db
        = .ok ⟨cleanEmail py newEmail, generated.code, "Email address change"⟩ ∧
      writeEmailRequest ctx py db now userId newEmail generated
        = .ok (Sessions.left (call ctx py (.request now userId newEmail generated)) db) := by
  have hleft : Sessions.left (call ctx py (.request now userId newEmail generated)) db
      = Sessions.left (requestEmailChange ctx py now userId newEmail generated) db :=
    Sessions.left_discard db
  rw [hleft]
  cases hwrite : writeEmailRequest ctx py db now userId newEmail generated with
  | error e =>
    left
    rw [Sessions.left, requestEmailChange,
      Sessions.bind_of_error (Sessions.transaction_of_error hwrite)]
  | ok db' =>
    right
    rw [Sessions.left, Sessions.answer, requestEmailChange,
      Sessions.bind_of_ok (Sessions.transaction_of_ok hwrite)]
    exact ⟨rfl, rfl⟩

theorem cancel_cases (ctx : PasswordContext) (py : Interpreter) (db : Database) (userId : UUID) :
    Sessions.left (call ctx py (.cancel userId)) db = db ∨
    ∃ user ∈ db.users.rows, user.id = userId ∧
      Sessions.left (call ctx py (.cancel userId)) db
        = recordUserEvent (saveUser db { user with pendingEmail := none }) user
            "user.email_change_cancelled" := by
  have hleft : Sessions.left (call ctx py (.cancel userId)) db
      = Sessions.left (cancelEmailChange userId) db := Sessions.left_discard db
  rw [hleft]
  cases hget : getUser db userId with
  | error e =>
    left
    rw [Sessions.left, cancelEmailChange, Sessions.bind_of_error (Sessions.query_of hget)]
  | ok user =>
    obtain ⟨hmem, hid⟩ := getUser_eq_ok hget
    by_cases hpending : (user.pendingEmail.filter (· ≠ "")).isSome = true
    · right
      refine ⟨user, hmem, hid, ?_⟩
      rw [Sessions.left, cancelEmailChange, Sessions.bind_of_ok (Sessions.query_of hget),
        if_pos hpending]
      rfl
    · left
      rw [Sessions.left, cancelEmailChange, Sessions.bind_of_ok (Sessions.query_of hget),
        if_neg hpending]
      rfl

/-! ## One call -/

/-- **WHAT IS PENDING AFTER A CALL** was pending before, with the same newest code, or the call is
the request that sent the newest code there. -/
theorem pending_after (c : EmailCall) {user : User} {email : String} {row : AuthVerificationCode}
    (huser : user ∈ (Sessions.left (call ctx py c) db).users.rows)
    (hpending : user.pendingEmail = some email)
    (hrow : latestCode (Sessions.left (call ctx py c) db) user.id VerificationPurpose.emailChange
      = some row) (hopen : row.consumedAt = none) :
    (user ∈ db.users.rows ∧ ∃ row₀, latestCode db user.id VerificationPurpose.emailChange
        = some row₀ ∧ row₀.consumedAt = none ∧ row₀.id = row.id ∧ row₀.codeHash = row.codeHash) ∨
    ∃ now newEmail generated, c = .request now user.id newEmail generated ∧
      Sessions.answer (requestEmailChange ctx py now user.id newEmail generated) db
        = .ok ⟨email, generated.code, "Email address change"⟩ ∧
      generated.id = row.id ∧ row.codeHash = ctx.hash generated.salt generated.code := by
  cases c with
  | request now userId newEmail generated =>
    rcases request_cases ctx py db now userId newEmail generated with hsame | ⟨hanswer, hwrite⟩
    · rw [hsame] at huser hrow
      exact Or.inl ⟨huser, row, hrow, hopen, rfl, rfl⟩
    · obtain ⟨asked, hasked, rfl, husers, codes, hissue, hcodes⟩ := writeEmailRequest_eq_ok hwrite
      rw [latestCode, hcodes] at hrow
      rw [husers] at huser
      rcases Table.mem_save.1 huser with ⟨huser, hother⟩ | ⟨rfl, _⟩
      · -- the code of another user's request shows nowhere here
        left
        obtain ⟨codes', hinsert, hdb⟩ := issueCode_frame hissue
        have hlatest := latestCode_insert? db { db with authVerificationCodes := codes }
          (by rw [hdb]; exact hinsert) user.id VerificationPurpose.emailChange
        rw [if_neg fun h => hother h.1.symm] at hlatest
        exact ⟨huser, row, hlatest.symm.trans hrow, hopen, rfl, rfl⟩
      · cases hpending
        rcases latestCode_issueCode hissue with hnew | ⟨spent, hlatest, hspent⟩
        · cases Option.some.inj (hrow.symm.trans hnew)
          exact Or.inr ⟨now, newEmail, generated, rfl, hanswer, rfl, rfl⟩
        · cases Option.some.inj (hrow.symm.trans hlatest)
          rw [hopen] at hspent
          cases hspent
  | confirm now userId code =>
    left
    rcases confirm_cases ctx py db now userId code with hsame | ⟨tried, htried, hsame⟩ |
      ⟨adopter, hadopter, rfl, pending, _, _, consumed, husable, _, _, hsame⟩
    · rw [hsame] at huser hrow
      exact ⟨huser, row, hrow, hopen, rfl, rfl⟩
    · rw [hsame] at huser hrow
      exact ⟨huser, latestCode_of_saveCode hrow hopen (latestCode_eq_some htried).1 rfl id⟩
    · rw [hsame] at huser hrow
      have hconsumed := (latestCode_eq_some (usableCode_eq_ok husable).1).1
      rcases Table.mem_save.1 huser with ⟨huser, _⟩ | ⟨rfl, _⟩
      · refine ⟨huser, latestCode_of_saveCode hrow hopen hconsumed rfl fun h => ?_⟩
        cases h
      · cases hpending
  | cancel userId =>
    left
    rcases cancel_cases ctx py db userId with hsame | ⟨canceller, hcanceller, rfl, hsame⟩
    · rw [hsame] at huser hrow
      exact ⟨huser, row, hrow, hopen, rfl, rfl⟩
    · rw [hsame] at huser hrow
      rcases Table.mem_save.1 huser with ⟨huser, _⟩ | ⟨rfl, _⟩
      · exact ⟨huser, row, hrow, hopen, rfl, rfl⟩
      · cases hpending

/-- **ONLY A CONFIRMATION CHANGES AN ADDRESS**, to the pending one, against the newest code. -/
theorem email_changed (c : EmailCall) {u u' : User} (hu : u ∈ db.users.rows)
    (hu' : u' ∈ (Sessions.left (call ctx py c) db).users.rows) (hid : u'.id = u.id)
    (hne : u'.email ≠ u.email) :
    ∃ now code, c = .confirm now u.id code ∧
      (Sessions.answer (confirmEmailChange ctx now u.id code) db).isOk = true ∧
      u.pendingEmail = some u'.email ∧ emailTaken db u.id u'.email = .ok none ∧
      ∃ row, usableCode db u.id VerificationPurpose.emailChange now = .ok row ∧
        ctx.verify code row.codeHash = true := by
  have hsame : u' ∉ db.users.rows := fun hmem => hne (congrArg _ (Table.eq_of_key_eq hmem hu hid))
  cases c with
  | request now userId newEmail generated =>
    rcases request_cases ctx py db now userId newEmail generated with heq | ⟨_, hwrite⟩
    · rw [heq] at hu'
      exact absurd hu' hsame
    · obtain ⟨asked, hasked, rfl, husers, _⟩ := writeEmailRequest_eq_ok hwrite
      rw [husers] at hu'
      rcases Table.eq_or_replaced hu' hasked rfl hu hid with rfl | ⟨rfl, rfl⟩
      · exact absurd rfl hne
      · exact absurd rfl hne
  | confirm now userId code =>
    rcases confirm_cases ctx py db now userId code with heq | ⟨tried, htried, heq⟩ |
      ⟨adopter, hadopter, rfl, pending, hpending, htaken, row, husable, hverify, hanswer, heq⟩
    · rw [heq] at hu'
      exact absurd hu' hsame
    · rw [heq] at hu'
      exact absurd hu' hsame
    · rw [heq] at hu'
      rcases Table.eq_or_replaced hu' hadopter rfl hu hid with rfl | ⟨rfl, rfl⟩
      · exact absurd rfl hne
      · exact ⟨now, code, rfl, hanswer, hpending, htaken, row, husable, hverify⟩
  | cancel userId =>
    rcases cancel_cases ctx py db userId with heq | ⟨canceller, hcanceller, rfl, heq⟩
    · rw [heq] at hu'
      exact absurd hu' hsame
    · rw [heq] at hu'
      rcases Table.eq_or_replaced hu' hcanceller rfl hu hid with rfl | ⟨rfl, rfl⟩
      · exact absurd rfl hne
      · exact absurd rfl hne

end Specs

/-! ## Sequences of calls -/

section Sequences

variable {ctx} {py} {db : Database}

theorem after_append_singleton (db : Database) (calls : List EmailCall) (c : EmailCall) :
    after ctx py db (calls ++ [c]) = Sessions.left (call ctx py c) (after ctx py db calls) := by
  rw [after, Sessions.after, List.foldl_append]
  rfl

theorem SentTo.append {calls : List EmailCall} {userId codeId : UUID} {code email : String}
    (h : SentTo ctx py db calls userId codeId code email) (c : EmailCall) :
    SentTo ctx py db (calls ++ [c]) userId codeId code email := by
  obtain ⟨before, now, newEmail, generated, rest, rfl, hsent⟩ := h
  exact ⟨before, now, newEmail, generated, rest ++ [c], by simp, hsent⟩

/-- The newest code of a user with a pending address, if it can still be used, was sent to that
address. -/
def Paired (ctx : PasswordContext) (py : Interpreter) (db : Database) (calls : List EmailCall) :
    Prop :=
  ∀ user ∈ (after ctx py db calls).users.rows, ∀ email, user.pendingEmail = some email →
    ∀ row, latestCode (after ctx py db calls) user.id VerificationPurpose.emailChange = some row →
      row.consumedAt = none →
      ∃ salt code, row.codeHash = ctx.hash salt code ∧
        SentTo ctx py db calls user.id row.id code email

theorem paired (hstart : ∀ u ∈ db.users.rows, u.pendingEmail = none) (calls : List EmailCall) :
    Paired ctx py db calls := by
  induction calls using List.reverseRecOn with
  | nil =>
    intro user huser email hpending
    rw [hstart user huser] at hpending
    cases hpending
  | append_singleton calls c ih =>
    intro user huser email hpending row hrow hopen
    rw [after_append_singleton] at huser hrow
    rcases pending_after c huser hpending hrow hopen with
      ⟨huser, row₀, hrow₀, hopen₀, hid, hhash⟩ |
      ⟨now, newEmail, generated, rfl, hanswer, hid, hhash⟩
    · obtain ⟨salt, code, hcode, hsent⟩ := ih user huser email hpending row₀ hrow₀ hopen₀
      rw [← hid, ← hhash]
      exact ⟨salt, code, hcode, hsent.append c⟩
    · exact ⟨generated.salt, generated.code, hhash,
        calls, now, newEmail, generated, [], rfl, hanswer, hid, rfl⟩

/-- **ADOPTED WITH PROOF**: in every sequence of calls that starts with nothing pending, an
address changes only by a confirmation that goes through, and the code it was given is the one
an earlier request of the same user sent to the new address, not consumed and not replaced
since, while nobody else has the address. -/
theorem adopted_with_proof (ctx : PasswordContext) (py : Interpreter) (db : Database)
    (hstart : ∀ u ∈ db.users.rows, u.pendingEmail = none) (calls : List EmailCall) (c : EmailCall)
    (u u' : User) (hu : u ∈ (after ctx py db calls).users.rows)
    (hu' : u' ∈ (after ctx py db (calls ++ [c])).users.rows) (hid : u'.id = u.id)
    (hne : u'.email ≠ u.email) :
    ∃ now code, c = .confirm now u.id code ∧
      (Sessions.answer (confirmEmailChange ctx now u.id code) (after ctx py db calls)).isOk = true ∧
      ProvenBy ctx py db calls u.id code u'.email := by
  rw [after_append_singleton] at hu'
  obtain ⟨now, code, rfl, hanswer, hpending, htaken, row, husable, hverify⟩ :=
    email_changed c hu hu' hid hne
  obtain ⟨hlatest, hopen, _⟩ := usableCode_eq_ok husable
  obtain ⟨salt, sent, hhash, hsent⟩ := paired hstart calls u hu u'.email hpending row hlatest hopen
  rw [hhash, ctx.verify_hash] at hverify
  subst hverify
  refine ⟨now, code, rfl, hanswer, ⟨row, hlatest, hopen, hsent⟩, ?_⟩
  intro v hv hvid hvemail
  have hnone := List.filter_eq_nil_iff.1 (scalarOneOrNone_eq_none htaken) v hv
  exact hnone (by simp [hvid, hvemail])

end Sequences

/-- A user, and another one in the same organization. -/
def twoUsers : Database where
  users := ⟨[{ id := 1, organizationId := 1, email := "old@aero.test" },
    { id := 2, organizationId := 1, email := "other@aero.test" }], by decide⟩

/-- A request is cancelled, a second one confirmed; the first code is tried in between. -/
def changeOfMind : List EmailCall :=
  [.request 0 1 "First@aero.test" ⟨10, "111111", 0⟩,
    .cancel 1,
    .request 61000000 1 " Second@aero.test" ⟨11, "222222", 1⟩,
    .confirm 62000000 1 "111111"]

theorem changeOfMind_proven :
    ProvenBy .plain .ascii twoUsers changeOfMind 1 "222222" "second@aero.test" := by
  obtain ⟨now, code, hc, _, hproven⟩ := adopted_with_proof .plain .ascii twoUsers (by decide)
    changeOfMind (.confirm 63000000 1 "222222")
    { id := 1, organizationId := 1, email := "old@aero.test"
      pendingEmail := some "second@aero.test" }
    { id := 1, organizationId := 1, email := "second@aero.test", emailVerified := true }
    (by decide +kernel) (by decide +kernel) rfl (by decide)
  cases hc
  exact hproven

end EmailChange
end AeroComply
