import AeroComply.Lib.Runs
import AeroComply.Lib.Span
import AeroComply.Services.TenantEntitlementAdmin

/-!
# Subscription — writing the subscriptions of a tenant

`app/services/subscription_service.py`.  A subscription that grants access is
checked against the others of its organization that do: the ranges of dates must
not overlap.  A SCHEDULED one is not checked before it is moved into a granting
status.

`one_current_subscription` connects the check to the reader of
`entitlement_service`: whatever is called, an instant never has two current
subscriptions, and the resolver never answers AMBIGUOUS.
-/

namespace AeroComply

open Relational (Table)
open Spans (Span)

namespace SubscriptionService

open EntitlementService
open TenantEntitlementAdminService (requireOrganization changeOf changeOf_getD changeOf_map_getD)

def allowedTransitions : SubscriptionStatus → List SubscriptionStatus
  | .trialing => [.active, .pastDue, .canceled]
  | .active => [.pastDue, .canceled]
  | .pastDue => [.active, .canceled]
  | .scheduled => [.trialing, .active, .canceled]
  | .canceled => []

/-- `_validate_status`: the status that the text names. -/
def validateStatus (status : String) : Except Error SubscriptionStatus :=
  match SubscriptionStatus.ofText? status with
  | some status => .ok status
  | none => .error (.conflict ("Invalid subscription status " ++ pyRepr status) "invalid_status")

/-- `end is not None and start >= end`. -/
def hasEnded (endsAt : Option DateTime) (start : DateTime) : Bool :=
  match endsAt with
  | none => false
  | some endsAt => decide (endsAt ≤ start)

def rangesOverlap (aStart : DateTime) (aEnd : Option DateTime) (bStart : DateTime)
    (bEnd : Option DateTime) : Bool :=
  if hasEnded aEnd bStart then false
  else if hasEnded bEnd aStart then false
  else true

/-- The other subscriptions of the organization that grant access. -/
def othersGranting (db : Database) (organizationId : UUID) (excludeSubscriptionId : Option UUID) :
    List Subscription :=
  db.subscriptions.select fun s =>
    s.organizationId = organizationId && isGrantingStatus s.status &&
      !decide (some s.id = excludeSubscriptionId)

def ambiguousState (organizationId conflicting : UUID) : Error :=
  .conflict (s!"Creating/updating this subscription would produce two " ++
      s!"simultaneously-current subscriptions for organization {organizationId} " ++
      s!"(conflicts with subscription {conflicting}).") "ambiguous_subscription_state"

def assertNoAmbiguity (db : Database) (organizationId : UUID) (status : SubscriptionStatus)
    (startsAt : DateTime) (endsAt : Option DateTime) (excludeSubscriptionId : Option UUID) :
    Except Error Unit :=
  if isGrantingStatus status = false then .ok ()
  else
    match (othersGranting db organizationId excludeSubscriptionId).find? fun other =>
      rangesOverlap startsAt endsAt other.startsAt other.endsAt with
    | some other => .error (ambiguousState organizationId other.id)
    | none => .ok ()

def getSubscription (db : Database) (subscriptionId : UUID) : Except Error Subscription :=
  match db.subscriptions.find? subscriptionId with
  | some sub => .ok sub
  | none => .error (.notFound "Subscription not found")

/-- `db.get(Plan, plan_id)` or an error. -/
def requirePlan (db : Database) (planId : UUID) : Except Error Unit :=
  match db.plans.find? planId with
  | some _ => .ok ()
  | none => .error (.notFound "Plan not found")

/-- `if plan_id is not None`: the plan exists. -/
def requireGivenPlan (db : Database) : Option UUID → Except Error Unit
  | none => .ok ()
  | some planId => requirePlan db planId

/-- The insert and the log entry of a new subscription. -/
def addSubscription (db : Database) (actorUserId : Option UUID) (sub : Subscription)
    (refused action : String) : Except Error (Database × Subscription) := do
  let subscriptions ← addRowOrRaise db.subscriptions sub
    (.conflict refused "subscription_conflict")
  pure (({ db with subscriptions }).recordAuditEvent sub.organizationId actorUserId action
    "Subscription" (some sub.id), sub)

def createSubscription (db : Database) (newId : UUID) (actorUserId : Option UUID)
    (organizationId planId : UUID) (status : String) (startsAt : DateTime)
    (endsAt : Option DateTime) : Except Error (Database × Subscription) := do
  let _ ← requireOrganization db organizationId
  requirePlan db planId
  let status ← validateStatus status
  assertNoAmbiguity db organizationId status startsAt endsAt none
  addSubscription db actorUserId { id := newId, organizationId, planId, status, startsAt, endsAt }
    "Could not create subscription" "platform.subscription.created"

/-- The status an update moves to, along `_ALLOWED_TRANSITIONS`. -/
def newStatus (sub : Subscription) : Option String → Except Error SubscriptionStatus
  | none => .ok sub.status
  | some status =>
    if status = sub.status.value then .ok sub.status
    else do
      let target ← validateStatus status
      raiseIf (target ∉ allowedTransitions sub.status)
        (.conflict ("Invalid subscription lifecycle transition " ++ pyRepr sub.status.value ++
          " -> " ++ pyRepr status) "invalid_transition")
      pure target

def updateSubscription (db : Database) (actorUserId : Option UUID) (subscriptionId : UUID)
    (status : Option String) (planId : Option UUID) (startsAt endsAt : Option DateTime) :
    Except Error (Database × Subscription) := do
  let sub ← getSubscription db subscriptionId
  let status ← newStatus sub status
  requireGivenPlan db planId
  assertNoAmbiguity db sub.organizationId status (startsAt.getD sub.startsAt)
    (endsAt.or sub.endsAt) (some sub.id)
  let planChange := changeOf sub.planId planId
  let startChange := changeOf sub.startsAt startsAt
  let endChange := changeOf sub.endsAt (endsAt.map some)
  let updated := { sub with
    status
    planId := planChange.getD sub.planId
    startsAt := startChange.getD sub.startsAt
    endsAt := endChange.getD sub.endsAt }
  let db' := { db with subscriptions := db.subscriptions.save updated }
  if status ≠ sub.status ∨ planChange.isSome ∨ startChange.isSome ∨ endChange.isSome then
    pure (db'.recordAuditEvent sub.organizationId actorUserId "platform.subscription.updated"
      "Subscription" (some sub.id), updated)
  else pure (db', updated)

/-- `cancel_subscription`; a canceled one is left as it is. -/
def cancelSubscription (db : Database) (actorUserId : Option UUID) (subscriptionId : UUID) :
    Except Error (Database × Subscription) := do
  let sub ← getSubscription db subscriptionId
  raiseIf (.canceled ∉ allowedTransitions sub.status ∧ sub.status ≠ .canceled)
    (.conflict ("Cannot cancel a subscription in status " ++ pyRepr sub.status.value)
      "invalid_transition")
  if sub.status = .canceled then pure (db, sub)
  else
    let canceled := { sub with status := .canceled }
    pure (({ db with subscriptions := db.subscriptions.save canceled }).recordAuditEvent
      sub.organizationId actorUserId "platform.subscription.canceled" "Subscription"
      (some sub.id), canceled)

def scheduleSubscription (db : Database) (newId : UUID) (actorUserId : Option UUID)
    (organizationId planId : UUID) (startsAt : DateTime) (endsAt : Option DateTime) :
    Except Error (Database × Subscription) := do
  let _ ← requireOrganization db organizationId
  requirePlan db planId
  addSubscription db actorUserId
    { id := newId, organizationId, planId, status := .scheduled, startsAt, endsAt }
    "Could not schedule subscription" "platform.subscription.scheduled"

/-! ## The check, read as spans -/

/-- The stretch of time a subscription runs over. -/
def span (s : Subscription) : Span DateTime := ⟨s.startsAt, s.endsAt⟩

theorem rangesOverlap_eq (s s' : Subscription) :
    rangesOverlap s.startsAt s.endsAt s'.startsAt s'.endsAt = (span s).overlaps (span s') := by
  have hreach : ∀ endsAt start, hasEnded endsAt start = Spans.reached endsAt start := by
    intro endsAt start
    cases endsAt <;> rfl
  rw [rangesOverlap, Span.overlaps, hreach, hreach]
  show _ = (!Spans.reached s.endsAt s'.startsAt && !Spans.reached s'.endsAt s.startsAt)
  cases Spans.reached s.endsAt s'.startsAt with
  | true => rfl
  | false => cases Spans.reached s'.endsAt s.startsAt <;> rfl

theorem isCurrent_eq (t : DateTime) (s : Subscription) :
    isCurrent t s = (isGrantingStatus s.status && (span s).covers t) := by
  rw [isCurrent, Span.covers, Bool.and_assoc]
  congr 2
  show _ = !Spans.reached s.endsAt t
  cases s.endsAt with
  | none => rfl
  | some endsAt =>
    show decide (t < endsAt) = !decide (endsAt ≤ t)
    rw [← decide_not]
    exact decide_eq_decide.2 not_le.symm

/-- No other subscription of its organization that grants access overlaps `sub`. -/
def Free (db : Database) (sub : Subscription) : Prop :=
  isGrantingStatus sub.status = true → ∀ other ∈ db.subscriptions.rows,
    other.organizationId = sub.organizationId → isGrantingStatus other.status = true →
      other.id ≠ sub.id → (span sub).overlaps (span other) = false

/-- The subscriptions of an organization that grant access have separate spans. -/
def Separate (org : UUID) (db : Database) : Prop :=
  ∀ s ∈ db.subscriptions.rows, s.organizationId = org → isGrantingStatus s.status = true →
    Free db s

section Writes

variable {db db' : Database} {org : UUID} {sub : Subscription}

theorem free_of_not_granting (h : isGrantingStatus sub.status = false) : Free db sub := by
  intro hg
  rw [h] at hg
  cases hg

theorem free_of_assertNoAmbiguity {exclude : Option UUID} {x : Unit}
    (h : assertNoAmbiguity db sub.organizationId sub.status sub.startsAt sub.endsAt exclude = .ok x)
    (hex : ∀ id, exclude = some id → id = sub.id) : Free db sub := by
  intro hg other hmem horg hother hid
  rw [assertNoAmbiguity, if_neg (by rw [hg]; exact fun he => nomatch he)] at h
  split at h
  · cases h
  · next hnone =>
    have hsel : other ∈ othersGranting db sub.organizationId exclude := by
      have hne : ¬some other.id = exclude := fun he => hid (hex other.id he.symm)
      simp [othersGranting, Table.mem_select, hmem, horg, hother, hne]
    rw [← rangesOverlap_eq]
    exact Bool.eq_false_iff.2 (List.find?_eq_none.1 hnone other hsel)

/-- `db'` is `db` with one subscription added or written over, free in `db`. -/
inductive Wrote (db : Database) (subscriptions : Table Subscription) : Prop
  | nothing (h : subscriptions = db.subscriptions)
  | added (sub : Subscription) (hfree : Free db sub)
      (h : db.subscriptions.insert? sub = some subscriptions)
  | saved (old sub : Subscription) (hold : old ∈ db.subscriptions.rows) (hid : old.id = sub.id)
      (horg : old.organizationId = sub.organizationId) (hfree : Free db sub)
      (h : subscriptions = db.subscriptions.save sub)

/-- The new row and the rows it leaves alone are separate from one another. -/
theorem Separate.wrote {subscriptions : Table Subscription} {auditEvents : List AuditEvent}
    (hs : Separate org db) (h : Wrote db subscriptions) :
    Separate org { db with subscriptions, auditEvents } := by
  -- the rows of the new table: old ones with another key, and the one written
  have hrows : subscriptions = db.subscriptions ∨ ∃ sub, Free db sub ∧
      ∀ x ∈ subscriptions.rows, (x ∈ db.subscriptions.rows ∧ x.id ≠ sub.id) ∨ x = sub := by
    cases h with
    | nothing h => exact Or.inl h
    | added sub hfree h =>
      refine Or.inr ⟨sub, hfree, ?_⟩
      intro x hx
      rcases (Table.mem_insert? h).1 hx with hold | rfl
      · exact Or.inl ⟨hold, fun hid =>
          (Table.insert?_eq_some h).1 (List.mem_map.2 ⟨x, hold, hid⟩)⟩
      · exact Or.inr rfl
    | saved old sub hold hid horg hfree h =>
      subst h
      exact Or.inr ⟨sub, hfree, fun x hx => (Table.mem_save_of_mem hold hid).1 hx⟩
  rcases hrows with rfl | ⟨sub, hfree, hrows⟩
  · exact hs
  · intro s hmem horg hg _ other hother horg' hg' hid
    rcases hrows s hmem with ⟨hmem, _⟩ | rfl
    · rcases hrows other hother with ⟨hother, _⟩ | rfl
      · exact hs s hmem horg hg hg other hother horg' hg' hid
      · rw [Span.overlaps_comm]
        exact hfree hg' s hmem horg'.symm hg hid.symm
    · rcases hrows other hother with ⟨hother, _⟩ | rfl
      · exact hfree hg other hother horg' hg' hid
      · exact absurd rfl hid

end Writes

/-! ## What the calls write -/

section Specs

variable {db db' : Database} {newId : UUID} {actor : Option UUID} {org : UUID}
  {sub : Subscription} {refused action : String}

variable {subscriptionId : UUID} {endsAt : Option DateTime} {startsAt : DateTime} {planId : UUID}

theorem getSubscription_eq_ok :
    getSubscription db subscriptionId = .ok sub ↔
      db.subscriptions.find? subscriptionId = some sub := by
  rw [getSubscription]
  cases db.subscriptions.find? subscriptionId with
  | none => exact ⟨fun h => (nomatch h), fun h => (nomatch h)⟩
  | some s =>
    constructor
    · intro h
      cases h
      rfl
    · intro h
      cases h
      rfl

theorem addSubscription_wrote {sub' : Subscription}
    (h : addSubscription db actor sub refused action = .ok (db', sub')) (hfree : Free db sub) :
    ∃ subscriptions auditEvents, db' = { db with subscriptions, auditEvents } ∧
      Wrote db subscriptions := by
  obtain ⟨subscriptions, hadd, h⟩ := bind_eq_ok.1 h
  rw [pure_eq_ok] at h
  obtain ⟨rfl, rfl⟩ := Prod.mk.inj h
  exact ⟨subscriptions, _, rfl, .added sub hfree (addRowOrRaise_eq_ok.1 hadd)⟩

theorem createSubscription_wrote {status : String}
    (h : createSubscription db newId actor org planId status startsAt endsAt = .ok (db', sub)) :
    ∃ subscriptions auditEvents, db' = { db with subscriptions, auditEvents } ∧
      Wrote db subscriptions := by
  obtain ⟨_, _, h⟩ := bind_eq_ok.1 h
  obtain ⟨_, _, h⟩ := bind_eq_ok.1 h
  obtain ⟨status, _, h⟩ := bind_eq_ok.1 h
  obtain ⟨_, hcheck, h⟩ := bind_eq_ok.1 h
  exact addSubscription_wrote h (free_of_assertNoAmbiguity hcheck fun _ he => nomatch he)

theorem scheduleSubscription_wrote
    (h : scheduleSubscription db newId actor org planId startsAt endsAt = .ok (db', sub)) :
    ∃ subscriptions auditEvents, db' = { db with subscriptions, auditEvents } ∧
      Wrote db subscriptions := by
  obtain ⟨_, _, h⟩ := bind_eq_ok.1 h
  obtain ⟨_, _, h⟩ := bind_eq_ok.1 h
  exact addSubscription_wrote h (free_of_not_granting rfl)

theorem updateSubscription_wrote {status : Option String} {planId : Option UUID}
    {startsAt endsAt : Option DateTime}
    (h : updateSubscription db actor subscriptionId status planId startsAt endsAt
      = .ok (db', sub)) :
    ∃ subscriptions auditEvents, db' = { db with subscriptions, auditEvents } ∧
      Wrote db subscriptions := by
  obtain ⟨old, hget, h⟩ := bind_eq_ok.1 h
  obtain ⟨target, _, h⟩ := bind_eq_ok.1 h
  obtain ⟨_, _, h⟩ := bind_eq_ok.1 h
  obtain ⟨_, hcheck, h⟩ := bind_eq_ok.1 h
  obtain ⟨hmem, _⟩ := Table.find?_eq_some.1 (getSubscription_eq_ok.1 hget)
  have hdb : ∃ log, db' = { db with
      subscriptions := db.subscriptions.save { old with
        status := target
        planId := (changeOf old.planId planId).getD old.planId
        startsAt := (changeOf old.startsAt startsAt).getD old.startsAt
        endsAt := (changeOf old.endsAt (endsAt.map some)).getD old.endsAt }
      auditEvents := log } := by
    dsimp only at h
    split at h
    · rw [pure_eq_ok] at h
      exact ⟨_, (Prod.mk.inj h).1.symm⟩
    · rw [pure_eq_ok] at h
      exact ⟨_, (Prod.mk.inj h).1.symm⟩
  obtain ⟨log, rfl⟩ := hdb
  -- the dates written are the dates checked
  rw [changeOf_getD, changeOf_getD, changeOf_map_getD]
  let updated : Subscription := { old with
    status := target
    planId := planId.getD old.planId
    startsAt := startsAt.getD old.startsAt
    endsAt := endsAt.or old.endsAt }
  have hchecked : assertNoAmbiguity db updated.organizationId updated.status updated.startsAt
      updated.endsAt (some old.id) = .ok _ := hcheck
  have hfree : Free db updated :=
    free_of_assertNoAmbiguity hchecked fun id he => (Option.some.inj he).symm
  exact ⟨_, _, rfl, .saved old updated hmem rfl rfl hfree rfl⟩

theorem cancelSubscription_wrote (h : cancelSubscription db actor subscriptionId = .ok (db', sub)) :
    ∃ subscriptions auditEvents, db' = { db with subscriptions, auditEvents } ∧
      Wrote db subscriptions := by
  obtain ⟨old, hget, h⟩ := bind_eq_ok.1 h
  obtain ⟨_, _, h⟩ := bind_eq_ok.1 h
  obtain ⟨hmem, _⟩ := Table.find?_eq_some.1 (getSubscription_eq_ok.1 hget)
  split at h
  · rw [pure_eq_ok] at h
    exact ⟨db.subscriptions, db.auditEvents, (Prod.mk.inj h).1.symm, .nothing rfl⟩
  · rw [pure_eq_ok] at h
    exact ⟨_, _, (Prod.mk.inj h).1.symm,
      .saved old { old with status := .canceled } hmem rfl rfl (free_of_not_granting rfl) rfl⟩

end Specs

/-! ## Runs -/

inductive SubscriptionCall
  | create (newId : UUID) (actorUserId : Option UUID) (organizationId planId : UUID)
      (status : String) (startsAt : DateTime) (endsAt : Option DateTime)
  | update (actorUserId : Option UUID) (subscriptionId : UUID) (status : Option String)
      (planId : Option UUID) (startsAt endsAt : Option DateTime)
  | cancel (actorUserId : Option UUID) (subscriptionId : UUID)
  | schedule (newId : UUID) (actorUserId : Option UUID) (organizationId planId : UUID)
      (startsAt : DateTime) (endsAt : Option DateTime)

def step (db : Database) : SubscriptionCall → Except Error Database
  | .create newId actor org planId status startsAt endsAt =>
    (createSubscription db newId actor org planId status startsAt endsAt).map Prod.fst
  | .update actor subscriptionId status planId startsAt endsAt =>
    (updateSubscription db actor subscriptionId status planId startsAt endsAt).map Prod.fst
  | .cancel actor subscriptionId => (cancelSubscription db actor subscriptionId).map Prod.fst
  | .schedule newId actor org planId startsAt endsAt =>
    (scheduleSubscription db newId actor org planId startsAt endsAt).map Prod.fst

section Runs

variable {db db' : Database} {org : UUID}

theorem step_wrote {call : SubscriptionCall} (h : step db call = .ok db') :
    ∃ subscriptions auditEvents, db' = { db with subscriptions, auditEvents } ∧
      Wrote db subscriptions := by
  cases call with
  | create =>
    obtain ⟨_, h⟩ := map_fst_eq_ok h
    exact createSubscription_wrote h
  | update =>
    obtain ⟨_, h⟩ := map_fst_eq_ok h
    exact updateSubscription_wrote h
  | cancel =>
    obtain ⟨_, h⟩ := map_fst_eq_ok h
    exact cancelSubscription_wrote h
  | schedule =>
    obtain ⟨_, h⟩ := map_fst_eq_ok h
    exact scheduleSubscription_wrote h

theorem Separate.step {call : SubscriptionCall} (hs : Separate org db)
    (h : SubscriptionService.step db call = .ok db') : Separate org db' := by
  obtain ⟨subscriptions, auditEvents, rfl, hw⟩ := step_wrote h
  exact hs.wrote hw

theorem separate_of_none (h : ∀ s ∈ db.subscriptions.rows, s.organizationId ≠ org) :
    Separate org db :=
  fun s hs horg => absurd horg (h s hs)

/-- The subscriptions of an organization that are current at an instant. -/
def currentAt (db : Database) (org : UUID) (t : DateTime) : List Subscription :=
  db.subscriptions.select fun s => s.organizationId = org && isCurrent t s

theorem Separate.one_current (hs : Separate org db) (t : DateTime) :
    (currentAt db org t).length ≤ 1 := by
  have hnodup : (db.subscriptions.select fun s =>
      s.organizationId = org && isGrantingStatus s.status).Nodup :=
    (List.Nodup.of_map _ db.subscriptions.nodup).filter _
  have hone := Spans.length_covering_le_one hnodup span ?_ t
  · have heq : currentAt db org t = (db.subscriptions.select fun s =>
        s.organizationId = org && isGrantingStatus s.status).filter
          fun s => (span s).covers t := by
      show db.subscriptions.rows.filter _ = (db.subscriptions.rows.filter _).filter _
      rw [List.filter_filter]
      refine List.filter_congr ?_
      intro s _
      rw [isCurrent_eq, ← Bool.and_assoc, Bool.and_comm]
    rw [heq]
    exact hone
  · intro x hx y hy hne
    simp only [Table.mem_select, Bool.and_eq_true, decide_eq_true_eq] at hx hy
    refine hs x hx.1 hx.2.1 hx.2.2 hx.2.2 y hy.1 (hy.2.1.trans hx.2.1.symm) hy.2.2 ?_
    intro hid
    exact hne (Table.eq_of_key_eq hx.1 hy.1 hid.symm)

theorem currentSubscriptions_eq (db : Database) (org : UUID) (t : DateTime) :
    currentSubscriptions db org t = currentAt db org t := by
  rw [currentSubscriptions, currentAt, Table.select, Table.select, List.filter_filter]
  refine List.filter_congr ?_
  intro s _
  rw [isCurrent]
  cases decide (s.organizationId = org) <;> cases isGrantingStatus s.status <;>
    cases decide (s.startsAt ≤ t) <;> simp

theorem not_ambiguous {t : DateTime} (h : (currentAt db org t).length ≤ 1) :
    (resolveEntitlements db org t).resolutionStatus ≠ .ambiguous := by
  rw [← currentSubscriptions_eq] at h
  simp only [resolveEntitlements]
  split
  · intro he
    cases he
  · split
    · intro he
      cases he
    · split
      · intro he
        cases he
      · split
        · intro he
          cases he
        · split
          · intro he
            cases he
          · next plan _ =>
            show (if plan.isActive then _ else _) ≠ EntitlementResolutionStatus.ambiguous
            split
            · intro he
              cases he
            · intro he
              cases he
        · next hnil hone =>
          cases hc : currentSubscriptions db org t with
          | nil => exact absurd hc hnil
          | cons s rest =>
            cases rest with
            | nil => exact absurd hc (hone s)
            | cons s' rest =>
              rw [hc] at h
              simp at h

/-- **ONE CURRENT SUBSCRIPTION**: from an organization without subscriptions, whatever calls are
made in whatever order, no instant has two current subscriptions of it, and the resolver
never answers AMBIGUOUS. -/
theorem one_current_subscription (h : ∀ s ∈ db.subscriptions.rows, s.organizationId ≠ org)
    (calls : List SubscriptionCall) :
    ∀ db' ∈ Runs.visited SubscriptionService.step db calls, ∀ t,
      (currentAt db' org t).length ≤ 1 ∧
        (resolveEntitlements db' org t).resolutionStatus ≠ .ambiguous := by
  intro db' hdb' t
  have hstep : ∀ s a s', Separate org s → True → SubscriptionService.step s a = .ok s' →
      Separate org s' := fun _ _ _ hs _ hstep => hs.step hstep
  have hsep := Runs.visited_invariant hstep calls db (separate_of_none h)
    (Runs.stepsMeet_true _ _ _) db' hdb'
  exact ⟨hsep.one_current t, not_ambiguous (hsep.one_current t)⟩

end Runs

/-- An organization and a plan, no subscription yet. -/
def tenant : Database where
  organizations := .single { id := 1 }
  plans := .single { id := 2, code := "BASIC" }

/-- A trial, a scheduled subscription that takes over when it ends, and two more that are refused:
one that overlaps both, and the scheduled one moved forward into the trial. -/
def trialThenPaid : List SubscriptionCall :=
  [.create 3 none 1 2 "TRIALING" 0 (some 10), .schedule 4 none 1 2 10 none,
    .create 5 none 1 2 "ACTIVE" 9 none, .update none 4 (some "ACTIVE") none none none,
    .update none 4 none none (some 9) none]

theorem trialThenPaid_one_current :
    (∀ db' ∈ Runs.visited step tenant trialThenPaid, ∀ t, (currentAt db' 1 t).length ≤ 1 ∧
      (resolveEntitlements db' 1 t).resolutionStatus ≠ .ambiguous) ∧
    ([9, 10].map fun t => (currentAt (trialThenPaid.foldl (Runs.attempt step) tenant) 1 t).map
      Subscription.id) = [[3], [4]] :=
  ⟨one_current_subscription (by intro s hs; cases hs) trialThenPaid, by decide⟩

end SubscriptionService
end AeroComply
