import AeroComply.Lib.Claims
import AeroComply.Services.Approval

/-!
# ApprovalRace — decisions on one approval request at the same time

Any number of `approve_approval_request`, `reject_approval_request` and
`cancel_approval_request` calls on one request, interleaved in any order: each
reads the row, claims it with the `UPDATE … WHERE status = 'PENDING'`, and runs
the rest in the same transaction, which an error at any point rolls back.

`decisions_exclusive` says that every interleaving leaves what at most one of
the calls leaves when it runs alone.
-/

namespace AeroComply

open Relational (Keyed Table)

namespace ApprovalRace

open ApprovalService TenantEntitlementAdminService
open Claims (Transaction System Event ClaimedOnce)

inductive DecisionCall
  | approve (now : DateTime) (newId : UUID) (actorUserId : Option UUID)
      (callerRoles : List String) (decisionReason : Option String)
  | reject (now : DateTime) (actorUserId : Option UUID) (decisionReason : Option String)
  | cancel (now : DateTime) (actorUserId : Option UUID)

/-- The call with nobody else around. -/
def decide (db : Database) (approvalId : UUID) : DecisionCall → Except Error Database
  | .approve now newId actor roles reason =>
    (approveApprovalRequest db now newId actor roles approvalId reason).map Prod.fst
  | .reject now actor reason =>
    (rejectApprovalRequest db now actor approvalId reason).map Prod.fst
  | .cancel now actor => (cancelApprovalRequest db now actor approvalId).map Prod.fst

/-! ## The steps of a call -/

/-- What the call checks of the row it has read; only an approval checks anything. -/
def checkSeen (approvalId : UUID) (approval : ApprovalRequest) : DecisionCall → Except Error Unit
  | .approve _ _ actor _ _ => do
    raiseIf (approval.status ≠ .pending) (notPending approvalId approval.status)
    raiseIf (isSelfApproval approval actor)
      (.forbidden "You cannot approve your own approval request; a different reviewer is required."
        "self_approval_forbidden")
  | .reject _ _ _ | .cancel _ _ => .ok ()

/-- What the claim writes. -/
def decided : DecisionCall → ApprovalRequest → ApprovalRequest
  | .approve now _ actor _ reason => decision .approved now actor reason
  | .reject now actor reason => decision .rejected now actor reason
  | .cancel now actor => fun approval =>
    decision .canceled now actor approval.decisionReason approval

/-- The log entry of the decision. -/
def logged (db : Database) (approval : ApprovalRequest) : DecisionCall → Database
  | .approve _ _ actor _ _ => db.recordAuditEvent approval.organizationId actor
      "platform.approval_request.approved" "ApprovalRequest" (some approval.id)
  | .reject _ actor _ => db.recordAuditEvent approval.organizationId actor
      "platform.approval_request.rejected" "ApprovalRequest" (some approval.id)
  | .cancel _ actor => db.recordAuditEvent approval.organizationId actor
      "platform.approval_request.canceled" "ApprovalRequest" (some approval.id)

/-- The mutation; only an approval has one. -/
def execute (db : Database) (approval : ApprovalRequest) : DecisionCall → Except Error Database
  | .approve now newId actor roles _ =>
    if approval.requestType = ApprovalRequestType.featureOverrideExpansion then
      (executeFeatureOverride db now newId actor roles approval).map Prod.fst
    else (executeUsageLimit db newId actor roles approval).map Prod.fst
  | .reject _ _ _ | .cancel _ _ => .ok db

/-- The call as the steps it takes against the database. -/
def transaction (approvalId : UUID) (call : DecisionCall) :
    Transaction Database ApprovalRequest ApprovalRequest Error where
  read db := do
    let approval ← getApprovalRequest db approvalId
    checkSeen approvalId approval call
    pure approval
  -- the conditional UPDATE looks at the row as it is now
  claim _ db := claimPending db approvalId (decided call)
  work approval db := execute (logged db approval call) approval call

section Alone

variable {db db' : Database} {approvalId : UUID} {call : DecisionCall}

theorem map_fst_pair {α β : Type} (x : Except Error (Database × α)) (b : β) :
    ((fun r => (r.1, b)) <$> x).map Prod.fst = x.map Prod.fst := by
  cases x <;> rfl

theorem claimPending_of_pending {approval : ApprovalRequest}
    (hget : getApprovalRequest db approvalId = .ok approval) (hpend : approval.status = .pending)
    (f : ApprovalRequest → ApprovalRequest) :
    claimPending db approvalId f
      = .ok ({ db with approvalRequests := db.approvalRequests.save (f approval) }, f approval) := by
  simp [claimPending, hget, hpend, raiseIf]

/-- With nobody else around the steps are the service function. -/
theorem alone_eq : (transaction approvalId call).alone db = decide db approvalId call := by
  rw [Transaction.alone]
  cases hget : getApprovalRequest db approvalId with
  | error e =>
    cases call <;> simp [transaction, decide, approveApprovalRequest, rejectApprovalRequest,
      cancelApprovalRequest, claimPending, hget] <;> rfl
  | ok approval =>
    by_cases hpend : approval.status = .pending
    · have hclaim := claimPending_of_pending hget hpend
      cases call with
      | approve now newId actor roles reason =>
        by_cases hself : isSelfApproval approval actor
        · simp [transaction, decide, approveApprovalRequest, hget, checkSeen, raiseIf, hpend, hself]
          rfl
        · simp only [transaction, decide, approveApprovalRequest, hclaim, hget, checkSeen, raiseIf,
            hpend, hself, decided, execute, logged, ok_bind, ne_eq, not_true_eq_false, if_false,
            bind_pure_comp]
          show (if _ then _ else _) = Except.map _ (if _ then _ else _)
          split
          · exact (map_fst_pair _ _).symm
          · exact (map_fst_pair _ _).symm
      | reject now actor reason =>
        simp only [transaction, decide, rejectApprovalRequest, hclaim, hget, checkSeen, decided,
          execute, logged, ok_bind]
        rfl
      | cancel now actor =>
        simp only [transaction, decide, cancelApprovalRequest, hclaim, hget, checkSeen, decided,
          execute, logged, ok_bind]
        rfl
    · cases call <;> simp [transaction, decide, approveApprovalRequest, rejectApprovalRequest,
        cancelApprovalRequest, claimPending, hget, checkSeen, raiseIf, hpend] <;> rfl

end Alone

/-! ## What one call leaves -/

/-- The reviewer of an approved request is not its requester. -/
def FourEyes (approval : ApprovalRequest) : Prop :=
  approval.status = .approved → approval.requestedByUserId.isSome = true →
    approval.reviewedByUserId ≠ approval.requestedByUserId

def isApproval : DecisionCall → Bool
  | .approve _ _ _ _ _ => true
  | .reject _ _ _ | .cancel _ _ => false

section Specs

variable {db db' : Database} {approvalId : UUID} {call : DecisionCall} {approval : ApprovalRequest}

theorem decided_id : (decided call approval).id = approval.id := by
  cases call <;> rfl

theorem decided_not_pending : (decided call approval).status ≠ .pending := by
  cases call <;> exact fun h => nomatch h

theorem decided_approved : (decided call approval).status = .approved ↔ isApproval call = true := by
  cases call
  · exact iff_of_true rfl rfl
  · exact iff_of_false (fun h => nomatch h) (fun h => nomatch h)
  · exact iff_of_false (fun h => nomatch h) (fun h => nomatch h)

theorem decided_fourEyes {x : Unit} (h : checkSeen approvalId approval call = .ok x) :
    FourEyes (decided call approval) := by
  intro happroved hsome heq
  cases call with
  | approve now newId actor roles reason =>
    obtain ⟨_, _, h⟩ := bind_eq_ok.1 h
    exact raiseIf_eq_ok.1 h ⟨hsome, heq.symm⟩
  | reject => cases happroved
  | cancel => cases happroved

theorem execute_frame (h : execute db approval call = .ok db') :
    db'.approvalRequests = db.approvalRequests ∧ (isApproval call = false → db' = db) := by
  cases call with
  | approve now newId actor roles reason =>
    refine ⟨?_, fun he => nomatch he⟩
    simp only [execute] at h
    split at h
    · obtain ⟨_, h⟩ := map_fst_eq_ok h
      obtain ⟨_, _, rfl⟩ := (executeFeatureOverride_spec h).1.frame
      rfl
    · obtain ⟨_, h⟩ := map_fst_eq_ok h
      rw [executeUsageLimit] at h
      split at h
      · cases h
      · obtain ⟨existing, _, h⟩ := bind_eq_ok.1 h
        cases existing with
        | some _ =>
          obtain ⟨_, _, _, hedit, _⟩ := updateUsageLimit_spec h
          obtain ⟨_, _, rfl⟩ := hedit.frame
          rfl
        | none =>
          obtain ⟨_, _, hedit, _⟩ := createUsageLimit_spec h
          obtain ⟨_, _, rfl⟩ := hedit.frame
          rfl
  | reject =>
    cases h
    exact ⟨rfl, fun _ => rfl⟩
  | cancel =>
    cases h
    exact ⟨rfl, fun _ => rfl⟩

theorem logged_eq (db : Database) (approval : ApprovalRequest) (call : DecisionCall) :
    ∃ auditEvents, logged db approval call = { db with auditEvents } := by
  cases call <;> exact ⟨_, rfl⟩

/-- **ONE DECISION**: a call that goes through found the request pending, wrote its decision, and
only an approval touched the entitlements. -/
theorem decide_eq_ok (h : decide db approvalId call = .ok db') :
    ∃ a, db.approvalRequests.find? approvalId = some a ∧ a.status = .pending ∧
      checkSeen approvalId a call = .ok () ∧
      db'.approvalRequests = db.approvalRequests.save (decided call a) ∧
      (isApproval call = false →
        db'.featureOverrides = db.featureOverrides ∧ db'.usageLimits = db.usageLimits) := by
  rw [← alone_eq] at h
  obtain ⟨seen, hread, h⟩ := bind_eq_ok.1 h
  obtain ⟨⟨claimed, held⟩, hclaim, h⟩ := bind_eq_ok.1 h
  obtain ⟨a, hget, hread⟩ := bind_eq_ok.1 hread
  obtain ⟨_, hcheck, hread⟩ := bind_eq_ok.1 hread
  rw [pure_eq_ok] at hread
  subst hread
  rw [getApprovalRequest_eq_ok] at hget
  obtain ⟨b, hb, hpend, rfl, rfl⟩ := claimPending_spec hclaim
  obtain rfl : a = b := Option.some.inj (hget.symm.trans hb)
  let claimed := { db with approvalRequests := db.approvalRequests.save (decided call a) }
  have hexec : execute (logged claimed (decided call a) call) (decided call a) call = .ok db' := h
  obtain ⟨auditEvents, hlog⟩ := logged_eq claimed (decided call a) call
  rw [hlog] at hexec
  obtain ⟨hrequests, hsame⟩ := execute_frame hexec
  refine ⟨a, hget, hpend, hcheck, hrequests, ?_⟩
  intro hcall
  rw [hsame hcall]
  exact ⟨rfl, rfl⟩

theorem find?_decided (h : decide db approvalId call = .ok db') :
    ∃ a, db.approvalRequests.find? approvalId = some a ∧ a.status = .pending ∧
      checkSeen approvalId a call = .ok () ∧
      db'.approvalRequests.find? approvalId = some (decided call a) := by
  obtain ⟨a, hfind, hpend, hcheck, hrows, _⟩ := decide_eq_ok h
  obtain ⟨hmem, hid⟩ := Table.find?_eq_some.1 hfind
  refine ⟨a, hfind, hpend, hcheck, ?_⟩
  have hkey : Keyed.key (decided call a) = approvalId := decided_id.trans hid
  rw [hrows, Table.find?_save hmem decided_id.symm, if_pos hkey]

end Specs

/-! ## Any number of calls -/

variable (approvalId : UUID) (calls : Nat → DecisionCall)

def transactions (i : Nat) : Transaction Database ApprovalRequest ApprovalRequest Error :=
  transaction approvalId (calls i)

theorem claimedOnce (db : Database) : ClaimedOnce (transactions approvalId calls) db := by
  intro i db' halone j seen
  obtain ⟨a, _, _, _, hfind⟩ := find?_decided (alone_eq.symm.trans halone)
  refine ⟨notPending approvalId (decided (calls i) a).status, ?_⟩
  show claimPending db' approvalId (decided (calls j)) = _
  rw [claimPending, getApprovalRequest_eq_ok.2 hfind, ok_bind, raiseIf,
    if_pos decided_not_pending]
  rfl

/-- Every state the interleaving `es` of the calls passes through. -/
def states (db : Database) (es : List (Event Error)) :
    List (System Database ApprovalRequest ApprovalRequest Error) :=
  Runs.visited (Claims.step (transactions approvalId calls)) { committed := db } es

/-- What holds in a state of an interleaving that started from `db`. -/
structure Exclusive (db : Database) (r : System Database ApprovalRequest ApprovalRequest Error) :
    Prop where
  /-- At most one call has ended successfully. -/
  once : ∀ i j, r.progress i = .done → r.progress j = .done → i = j
  /-- What is committed is the start, or what one successful call leaves on its own. -/
  linear : (r.committed = db ∧ ∀ i, r.progress i ≠ .done) ∨
    ∃ i, r.progress i = .done ∧ decide db approvalId (calls i) = .ok r.committed
  /-- The entitlements have changed only if the request is APPROVED. -/
  together : (r.committed.featureOverrides = db.featureOverrides ∧
      r.committed.usageLimits = db.usageLimits) ∨
    ∃ a, r.committed.approvalRequests.find? approvalId = some a ∧ a.status = .approved
  /-- The reviewer is not the requester. -/
  fourEyes : ∀ a, r.committed.approvalRequests.find? approvalId = some a → FourEyes a

/-- A request that is decided stays as it is, and so does everything else. -/
def Final (r r' : System Database ApprovalRequest ApprovalRequest Error) : Prop :=
  ∀ a, r.committed.approvalRequests.find? approvalId = some a → a.status ≠ .pending →
    r'.committed = r.committed

variable {approvalId calls} {db : Database}

theorem exclusive_of_linear
    (hstart : ∀ a, db.approvalRequests.find? approvalId = some a → FourEyes a)
    {r : System Database ApprovalRequest ApprovalRequest Error}
    (h : Claims.Linear (transactions approvalId calls) db r) : Exclusive approvalId calls db r := by
  rcases h with h | ⟨who, h⟩
  · exact {
      once := fun i _ hi _ => absurd hi (h.not_done i)
      linear := Or.inl ⟨h.committed, h.not_done⟩
      together := Or.inl (by rw [h.committed]; exact ⟨rfl, rfl⟩)
      fourEyes := by rw [h.committed]; exact hstart }
  · have hdecide : decide db approvalId (calls who) = .ok r.committed :=
      alone_eq.symm.trans h.committed
    obtain ⟨a, _, _, hcheck, hfind⟩ := find?_decided hdecide
    obtain ⟨_, _, _, _, _, hsame⟩ := decide_eq_ok hdecide
    exact {
      once := fun i j hi hj => (h.only i hi).trans (h.only j hj).symm
      linear := Or.inr ⟨who, h.done, hdecide⟩
      together := by
        cases hcall : isApproval (calls who) with
        | false => exact Or.inl (hsame hcall)
        | true => exact Or.inr ⟨_, hfind, decided_approved.2 hcall⟩
      fourEyes := by
        intro b hb
        obtain rfl : decided (calls who) a = b := Option.some.inj (hfind.symm.trans hb)
        exact decided_fourEyes hcheck }

theorem final_of_settles {r r' : System Database ApprovalRequest ApprovalRequest Error}
    (h : Claims.Linear (transactions approvalId calls) db r)
    (h' : Claims.Linear (transactions approvalId calls) db r') (hset : Claims.Settles r r') :
    Final approvalId r r' := by
  intro a hfind hdecided
  rcases h with h | ⟨who, h⟩
  · rcases h' with h' | ⟨who, h'⟩
    · rw [h.committed, h'.committed]
    · -- a call that goes through finds the request pending
      rw [h.committed] at hfind
      obtain ⟨b, hb, hpend, _⟩ := decide_eq_ok (alone_eq.symm.trans h'.committed)
      obtain rfl : a = b := Option.some.inj (hfind.symm.trans hb)
      exact absurd hpend hdecided
  · exact (hset who h.done).2

/-- **EXCLUSIVE DECISIONS**: however the calls are interleaved and wherever they fail, in every
state at most one has ended successfully, what is committed is what that one leaves on its
own, the entitlements change only together with status APPROVED, and the reviewer is not the
requester; and once the request is decided nothing changes any more. -/
theorem decisions_exclusive (approvalId : UUID) (calls : Nat → DecisionCall) (db : Database)
    (hstart : ∀ a, db.approvalRequests.find? approvalId = some a → FourEyes a)
    (es : List (Event Error)) :
    (∀ r ∈ states approvalId calls db es, Exclusive approvalId calls db r) ∧
    (states approvalId calls db es).Pairwise (Final approvalId) := by
  obtain ⟨hlinear, hsettles⟩ := Claims.visited_linear (claimedOnce approvalId calls db) es
  constructor
  · intro r hr
    exact exclusive_of_linear hstart (hlinear r hr)
  · refine hsettles.imp_of_mem ?_
    intro r r' hr hr' hset
    exact final_of_settles (hlinear r hr) (hlinear r' hr') hset

/-- Two approvals by different reviewers, a rejection and a cancellation of one request. -/
def fourCalls : Nat → DecisionCall
  | 0 => .approve 10 20 (some 9) ["PLATFORM_ADMIN"] none
  | 1 => .approve 10 21 (some 10) ["PLATFORM_ADMIN"] none
  | 2 => .reject 11 (some 9) none
  | _ => .cancel 12 (some 8)

/-- All read before any claims; the second approval waits for the first, which raises, and then
goes through; the rejection finds the request decided. -/
def allAtOnce : List (Event Error) :=
  [.go 0, .go 1, .go 2, .go 3, .go 0, .go 1, .go 0, .raise 0 .integrity, .go 1, .go 1, .go 2,
    .go 1, .go 2, .go 3]

theorem allAtOnce_exclusive :
    ((∀ r ∈ states 7 fourCalls pendingOverBlock allAtOnce,
        Exclusive 7 fourCalls pendingOverBlock r) ∧
      (states 7 fourCalls pendingOverBlock allAtOnce).Pairwise (Final 7)) ∧
    ∃ r ∈ states 7 fourCalls pendingOverBlock allAtOnce, r.progress 1 = .done ∧
      (r.committed.approvalRequests.find? 7).map ApprovalRequest.status = some .approved ∧
      r.committed.featureOverrides.rows.map TenantFeatureOverride.enabled = [true] := by
  refine ⟨decisions_exclusive 7 fourCalls pendingOverBlock ?_ allAtOnce, ?_⟩
  · intro a ha happroved
    obtain rfl : blockRequest = a := Option.some.inj ha
    cases happroved
  · refine ⟨_, List.getLast_mem (List.cons_ne_nil _ _), ?_⟩
    exact ⟨rfl, rfl, rfl⟩

end ApprovalRace
end AeroComply
