import AeroComply.Services.Provisioning

/-!
# NewTenant — all of a tenant, or nothing of it

What `provision_organization` leaves.  A call that raises before its commit has added
no row: nothing is durable before the commit, and what the handler commits after it
are deletions.  A call that commits has added one organization with one
administrator, and its one subscription makes the resolver answer with the plan.

`Adds` is what the transaction writes; the onboarding mail keeps it, whether it is
sent or not.
-/

namespace AeroComply

open Relational (Table)
open Sessions (Call Session Uncommitted Atomic Always)

namespace ProvisioningService

open EntitlementService
open PlatformService (createOrganization createOrganizationAdmin)
open TenantService (IsActiveAdmin)

/-! ## The statement -/

/-- No organization, user, role, subscription or audit event of `db'` is new. -/
structure AddsNothing (db db' : Database) : Prop where
  organizations : ∀ o ∈ db'.organizations.rows, o ∈ db.organizations.rows
  users : ∀ u ∈ db'.users.rows, u ∈ db.users.rows
  userRoles : ∀ r ∈ db'.userRoles.rows, r ∈ db.userRoles.rows
  subscriptions : ∀ s ∈ db'.subscriptions.rows, s ∈ db.subscriptions.rows
  auditEvents : ∀ e ∈ db'.auditEvents, e ∈ db.auditEvents

/-- No row of another table names the organization yet, as `uuid4` promises of a new id. -/
structure Fresh (db : Database) (organizationId : UUID) : Prop where
  users : ∀ u ∈ db.users.rows, u.organizationId ≠ organizationId
  subscriptions : ∀ s ∈ db.subscriptions.rows, s.organizationId ≠ organizationId
  featureOverrides : ∀ o ∈ db.featureOverrides.rows, o.organizationId ≠ organizationId
  usageLimits : ∀ l ∈ db.usageLimits.rows, l.organizationId ≠ organizationId

/-- The configuration that a row of the plan sets. -/
def planConfiguration (pl : PlanLimit) : UsageLimitConfiguration :=
  ⟨pl.limitKey, pl.limitKey, pl.limitValue, pl.isUnlimited⟩

/-- The row of a plan that sets a limit key. -/
def planLimit? (planLimits : List PlanLimit) (limitKey : String) : Option PlanLimit :=
  planLimits.reverse.find? fun pl => pl.limitKey = limitKey

/-- The answer of the resolver is the plan: active, with the plan's features and limits. -/
structure GrantsPlan (db : Database) (planId : UUID) (r : EntitlementResolution) : Prop where
  active : r.resolutionStatus = .active
  features : ∀ featureKey,
    featureEnabled r featureKey = planEnables (planFeaturesOf db planId) featureKey
  limits : ∀ c, c ∈ r.usageLimits ↔
    ∃ pl, planLimit? (planLimitsOf db planId) c.limitKey = some pl ∧ c = planConfiguration pl

/-- One organization more, with one user, who administers it, and with the plan from `start` on. -/
structure WorkingTenant (db db' : Database) (planId : UUID) (start : DateTime)
    (organization : Organization) (admin : User) : Prop where
  organizations : db'.organizations.rows = db.organizations.rows ++ [organization]
  users : (db'.users.select fun u => u.organizationId = organization.id) = [admin]
  admin : IsActiveAdmin db' organization.id admin
  plan : ∀ t, start ≤ t → GrantsPlan db planId (resolveEntitlements db' organization.id t)

/-! ## What the steps commit -/

section Failures

variable {platform : Platform} {actorUserId : UUID} {now : DateTime} {ids : ProvisioningIds}
  {request : ProvisionOrganizationRequest}

theorem mayFail_uncommitted (point : FailurePoint) : Uncommitted (mayFail platform point) := by
  rw [mayFail]
  cases platform.fault point with
  | none => exact Uncommitted.pure ()
  | some e => exact Uncommitted.raise e

theorem mayFail_eq_ok {point : FailurePoint} {u : Unit} {s s' : Session Database}
    (h : mayFail platform point s = (.ok u, s')) : s = s' := by
  rw [mayFail] at h
  cases hf : platform.fault point with
  | none =>
    rw [hf] at h
    cases h
    rfl
  | some e =>
    rw [hf] at h
    cases h

theorem flushSubscription_uncommitted (sub : Subscription) :
    Uncommitted (flushSubscription platform sub) := by
  refine Uncommitted.rescue ?_ fun e => ?_
  · exact (mayFail_uncommitted _).bind fun _ => Uncommitted.update _
  · cases e with
    | integrity => exact Uncommitted.rollback.bind fun _ => Uncommitted.raise _
    | _ => exact Uncommitted.raise _

theorem createSubscription_uncommitted {newId : UUID} {actorUserId : Option UUID}
    {organizationId planId : UUID} {status : String} {startsAt : DateTime}
    {endsAt : Option DateTime} :
    Uncommitted (createSubscription platform newId actorUserId organizationId planId status
      startsAt endsAt) := by
  refine (mayFail_uncommitted _).bind fun _ => ?_
  refine (Uncommitted.query _).bind fun _ => ?_
  refine (flushSubscription_uncommitted _).bind fun _ => ?_
  exact (Uncommitted.update _).bind fun _ => Uncommitted.pure _

theorem provisionTenant_atomic (plan : Plan) (org : Organization) :
    Atomic (provisionTenant platform actorUserId now ids request plan org) := by
  refine (mayFail_uncommitted _).bind_atomic fun _ => ?_
  refine (Uncommitted.act _).bind_atomic fun _ => ?_
  refine createSubscription_uncommitted.bind_atomic fun _ => ?_
  refine (mayFail_uncommitted _).bind_atomic fun _ => ?_
  refine (Uncommitted.query _).bind_atomic fun _ => ?_
  refine (Uncommitted.update _).bind_atomic fun _ => ?_
  refine (mayFail_uncommitted _).bind_atomic fun _ => ?_
  exact Atomic.commit.bind_pure _

theorem AddsNothing.refl (db : Database) : AddsNothing db db :=
  ⟨fun _ h => h, fun _ h => h, fun _ h => h, fun _ h => h, fun _ h => h⟩

theorem AddsNothing.deletePartial {db db' : Database} (h : AddsNothing db db')
    (organizationId : UUID) :
    AddsNothing db (ProvisioningService.deletePartial db' organizationId) where
  organizations o ho := h.organizations o (List.mem_of_mem_filter ho)
  users u hu := h.users u (List.mem_of_mem_filter hu)
  userRoles r hr := h.userRoles r (List.mem_of_mem_filter hr)
  subscriptions s hs := h.subscriptions s (List.mem_of_mem_filter hs)
  auditEvents := h.auditEvents

theorem mayFail_always {P : Database → Prop} (point : FailurePoint) :
    Always P (mayFail platform point) := by
  rw [mayFail]
  cases platform.fault point with
  | none => exact Always.pure ()
  | some e => exact Always.raise e

theorem rollbackPartialProvisioning_always (db : Database) (organizationId : Option UUID) :
    Always (AddsNothing db) (rollbackPartialProvisioning platform organizationId) := by
  cases organizationId with
  | none => exact Always.pure ()
  | some organizationId =>
    refine Always.rescue ?_ fun _ => Always.rollback
    refine Always.rollback.bind fun _ => ?_
    refine (mayFail_always _).bind fun _ => ?_
    refine (Always.update ?_).bind fun _ => Always.commit
    intro db₁ db₂ h hok
    cases hok
    exact h.deletePartial organizationId

/-- **ALL OR NOTHING**: a call that raises before its commit has added no row. -/
theorem provisionTransaction_error {db : Database} {e : Error} {s' : Session Database}
    (h : provisionTransaction platform actorUserId now ids request ⟨db, db⟩ = (.error e, s')) :
    AddsNothing db s'.committed := by
  refine (mayFail_uncommitted _).bind_error (AddsNothing.refl db) ?_ h
  intro _ s₁ hs₁ h
  refine (Uncommitted.query _).bind_error (hs₁ ▸ AddsNothing.refl db) ?_ h
  intro plan s₂ hs₂ h
  have hcreate : ∀ e : Error, Uncommitted (Sessions.rollback >>= fun _ => Sessions.raise e :
      Call Database Error Organization) :=
    fun _ => Uncommitted.rollback.bind fun _ => Uncommitted.raise _
  refine (Uncommitted.rescue ((mayFail_uncommitted _).bind fun _ => Uncommitted.act _)
    hcreate).bind_error (hs₂ ▸ hs₁ ▸ AddsNothing.refl db) ?_ h
  intro org s₃ hs₃ h
  -- the tenant's part gives up everything, and the handler goes on from what was there
  obtain ⟨e₁, s₄, hfail, h⟩ := Sessions.rescue_eq_error h
  have hs₄ : s₄.committed = db :=
    (provisionTenant_atomic plan org s₃ e₁ s₄ hfail).trans (hs₃.trans (hs₂.trans hs₁))
  have hnone : AddsNothing db s₄.committed := hs₄.symm ▸ AddsNothing.refl db
  have hcompensate : Always (AddsNothing db)
      (rollbackPartialProvisioning platform (some org.id) >>= fun _ => Sessions.raise e₁ :
        Call Database Error Provisioned) :=
    (rollbackPartialProvisioning_always db (some org.id)).bind fun _ => Always.raise e₁
  have hhandler := hcompensate ⟨s₄.committed, s₄.committed⟩ hnone hnone
  rw [Sessions.rollback_bind] at h
  rw [h] at hhandler
  exact hhandler.1

end Failures

/-! ## What the transaction writes -/

/-- `db'` is `db` with the rows of a new tenant. -/
structure Adds (db db' : Database) (organization : Organization) (admin : User)
    (subscription : Subscription) : Prop where
  organizations : db'.organizations.rows = db.organizations.rows ++ [organization]
  users : db'.users.rows = db.users.rows ++ [admin]
  role : ⟨admin.id, "ORG_ADMIN", organization.id⟩ ∈ db'.userRoles.rows
  subscriptions : db'.subscriptions.rows = db.subscriptions.rows ++ [subscription]
  plans : db'.plans = db.plans
  planFeatures : db'.planFeatures = db.planFeatures
  planLimits : db'.planLimits = db.planLimits
  featureOverrides : db'.featureOverrides = db.featureOverrides
  usageLimits : db'.usageLimits = db.usageLimits

/-- The rows of a tenant: an organization in good standing, an active user of it, and a subscription
to the plan, open-ended from `start` on, in the status that the request names. -/
structure TenantRows (platform : Platform) (db : Database) (request : ProvisionOrganizationRequest)
    (start : DateTime) (done : Provisioned) : Prop where
  plan : db.plans.find? request.planId = some done.plan
  planActive : done.plan.isActive = true
  live : done.organization.status = OrganizationStatus.active ∧ done.organization.deletedAt = none
  member : done.admin.organizationId = done.organization.id
  userActive : done.admin.isActive = true
  subscribed : done.subscription.organizationId = done.organization.id ∧
    done.subscription.planId = request.planId
  status : SubscriptionStatus.ofText? request.subscriptionStatus = some done.subscription.status
  period : done.subscription.startsAt = start ∧ done.subscription.endsAt = none

section Success

variable {platform : Platform} {actorUserId : UUID} {now : DateTime} {ids : ProvisioningIds}
  {request : ProvisionOrganizationRequest} {db db' : Database} {s s' : Session Database}

variable {organization : Organization} {org : Organization} {done : Provisioned} {newId : UUID}
  {admin : User} {plan : Plan}

theorem preflight_eq_ok (h : preflight platform db request = .ok plan) :
    db.plans.find? request.planId = some plan ∧ plan.isActive = true := by
  rw [preflight] at h
  cases hfound : db.plans.find? request.planId with
  | none =>
    rw [hfound] at h
    cases h
  | some found =>
    rw [hfound] at h
    obtain ⟨_, hactive, h⟩ := bind_eq_ok.1 h
    obtain ⟨_, _, h⟩ := bind_eq_ok.1 h
    obtain ⟨_, _, h⟩ := bind_eq_ok.1 h
    cases pure_eq_ok.1 h
    exact ⟨rfl, by simpa using raiseIf_eq_ok.1 hactive⟩

variable {actor : Option UUID} {sub : Subscription}

theorem createOrganization_eq_ok {name : String}
    (h : createOrganization db newId actor name = .ok (db', org)) :
    org = { id := newId, name } ∧ ∃ organizations auditEvents,
      organizations.rows = db.organizations.rows ++ [org] ∧
        db' = { db with organizations, auditEvents } := by
  obtain ⟨organizations, hadd, h⟩ := bind_eq_ok.1 h
  rw [pure_eq_ok] at h
  obtain ⟨rfl, rfl⟩ := Prod.mk.inj h
  exact ⟨rfl, organizations, _, (Table.insert?_eq_some (addRowOrRaise_eq_ok.1 hadd)).2, rfl⟩

theorem createOrganizationAdmin_eq_ok {account : NewAccount} {org : UUID} {email fullName : String}
    (h : createOrganizationAdmin platform.passwords db account actor org email fullName
      = .ok (db', admin)) :
    admin.organizationId = org ∧ admin.isActive = true ∧ ∃ users userRoles auditEvents,
      users.rows = db.users.rows ++ [admin] ∧ ⟨admin.id, "ORG_ADMIN", org⟩ ∈ userRoles.rows ∧
        db' = { db with users, userRoles, auditEvents } := by
  obtain ⟨_, _, h⟩ := bind_eq_ok.1 h
  obtain ⟨_, _, h⟩ := bind_eq_ok.1 h
  obtain ⟨_, _, h⟩ := bind_eq_ok.1 h
  obtain ⟨users, husers, h⟩ := bind_eq_ok.1 h
  obtain ⟨userRoles, hroles, h⟩ := bind_eq_ok.1 h
  rw [pure_eq_ok] at h
  obtain ⟨rfl, rfl⟩ := Prod.mk.inj h
  refine ⟨rfl, rfl, users, userRoles, _, ?_, ?_, rfl⟩
  · exact (Table.insert?_eq_some (addRowOrRaise_eq_ok.1 husers)).2
  · exact (Table.mem_insert? (addRowOrRaise_eq_ok.1 hroles)).2 (Or.inr rfl)

theorem flushSubscription_eq_ok {u : Unit} (h : flushSubscription platform sub s = (.ok u, s')) :
    ∃ subscriptions, subscriptions.rows = s.working.subscriptions.rows ++ [sub] ∧
      s' = { s with working := { s.working with subscriptions } } := by
  have hguard := Sessions.rescue_eq_ok (by
    intro e s₁ a s₂ hanswer
    cases e with
    | integrity => cases hanswer
    | _ => cases hanswer) h
  obtain ⟨_, s₁, hfault, hwrite⟩ := Sessions.bind_eq_ok hguard
  cases mayFail_eq_ok hfault
  obtain ⟨w, hinsert, rfl⟩ := Sessions.update_eq_ok hwrite
  obtain ⟨subscriptions, hadd, hw⟩ := bind_eq_ok.1 hinsert
  cases pure_eq_ok.1 hw
  exact ⟨subscriptions, (Table.insert?_eq_some (addRowOrRaise_eq_ok.1 hadd)).2, rfl⟩

theorem createSubscription_eq_ok {org planId : UUID} {status : String} {startsAt : DateTime}
    {endsAt : Option DateTime}
    (h : createSubscription platform newId actor org planId status startsAt endsAt s
      = (.ok sub, s')) :
    SubscriptionStatus.ofText? status = some sub.status ∧
      sub = { id := newId, organizationId := org, planId, status := sub.status, startsAt, endsAt } ∧
      ∃ subscriptions auditEvents, subscriptions.rows = s.working.subscriptions.rows ++ [sub] ∧
        s' = { s with working := { s.working with subscriptions, auditEvents } } := by
  obtain ⟨_, s₁, hfault, h⟩ := Sessions.bind_eq_ok h
  cases mayFail_eq_ok hfault
  obtain ⟨named, s₁, hread, h⟩ := Sessions.bind_eq_ok h
  obtain ⟨hcheck, rfl⟩ := Sessions.query_eq_ok hread
  obtain ⟨_, s₂, hflush, h⟩ := Sessions.bind_eq_ok h
  obtain ⟨subscriptions, hrows, rfl⟩ := flushSubscription_eq_ok hflush
  obtain ⟨_, s₃, hlog, h⟩ := Sessions.bind_eq_ok h
  obtain ⟨w, hw, rfl⟩ := Sessions.update_eq_ok hlog
  cases hw
  cases h
  refine ⟨?_, rfl, subscriptions, _, hrows, rfl⟩
  -- the status is the one that the text names
  obtain ⟨_, _, hcheck⟩ := bind_eq_ok.1 hcheck
  obtain ⟨_, _, hcheck⟩ := bind_eq_ok.1 hcheck
  obtain ⟨named', hnamed, hcheck⟩ := bind_eq_ok.1 hcheck
  obtain ⟨_, _, hcheck⟩ := bind_eq_ok.1 hcheck
  cases pure_eq_ok.1 hcheck
  rw [SubscriptionService.validateStatus] at hnamed
  split at hnamed
  · next found hfound =>
    cases hnamed
    exact hfound
  · cases hnamed

theorem provisionTenant_eq_ok
    (h : provisionTenant platform actorUserId now ids request plan org s = (.ok done, s')) :
    s'.working = s'.committed ∧ done.plan = plan ∧ done.organization = org ∧
      done.admin.organizationId = org.id ∧ done.admin.isActive = true ∧
      SubscriptionStatus.ofText? request.subscriptionStatus = some done.subscription.status ∧
      done.subscription
        = ⟨ids.subscriptionId, org.id, request.planId, done.subscription.status, now, none⟩ ∧
      ∃ users userRoles subscriptions auditEvents,
        users.rows = s.working.users.rows ++ [done.admin] ∧
        ⟨done.admin.id, "ORG_ADMIN", org.id⟩ ∈ userRoles.rows ∧
        subscriptions.rows = s.working.subscriptions.rows ++ [done.subscription] ∧
        s'.committed = { s.working with users, userRoles, subscriptions, auditEvents } := by
  obtain ⟨_, s₁, hfault, h⟩ := Sessions.bind_eq_ok h
  cases mayFail_eq_ok hfault
  obtain ⟨admin, s₁, hadmin, h⟩ := Sessions.bind_eq_ok h
  obtain ⟨w, hcreate, rfl⟩ := Sessions.act_eq_ok hadmin
  obtain ⟨horg, hactive, users, userRoles, _, husers, hrole, rfl⟩ :=
    createOrganizationAdmin_eq_ok hcreate
  obtain ⟨sub, s₂, hsub, h⟩ := Sessions.bind_eq_ok h
  obtain ⟨hstatus, hsubscription, subscriptions, _, hsubscriptions, rfl⟩ :=
    createSubscription_eq_ok hsub
  obtain ⟨_, s₃, hfault, h⟩ := Sessions.bind_eq_ok h
  cases mayFail_eq_ok hfault
  obtain ⟨entitlements, s₃, hread, h⟩ := Sessions.bind_eq_ok h
  obtain ⟨_, rfl⟩ := Sessions.query_eq_ok hread
  obtain ⟨_, s₄, hlog, h⟩ := Sessions.bind_eq_ok h
  obtain ⟨w, hw, rfl⟩ := Sessions.update_eq_ok hlog
  cases hw
  obtain ⟨_, s₅, hfault, h⟩ := Sessions.bind_eq_ok h
  cases mayFail_eq_ok hfault
  cases h
  exact ⟨rfl, rfl, rfl, horg, hactive, hstatus, hsubscription, users, userRoles, subscriptions, _,
    husers, hrole, hsubscriptions, rfl⟩

/-- **THE TRANSACTION** that goes through has added the rows of one tenant, and committed them. -/
theorem provisionTransaction_eq_ok
    (h : provisionTransaction platform actorUserId now ids request ⟨db, db⟩ = (.ok done, s')) :
    s'.working = s'.committed ∧ TenantRows platform db request now done ∧
      done.organization.id = ids.organizationId ∧
      Adds db s'.committed done.organization done.admin done.subscription := by
  obtain ⟨_, s₁, hfault, h⟩ := Sessions.bind_eq_ok h
  cases mayFail_eq_ok hfault
  obtain ⟨plan, s₁, hread, h⟩ := Sessions.bind_eq_ok h
  obtain ⟨hpreflight, rfl⟩ := Sessions.query_eq_ok hread
  obtain ⟨hplan, hplanActive⟩ := preflight_eq_ok hpreflight
  obtain ⟨org, s₁, hguarded, h⟩ := Sessions.bind_eq_ok h
  -- neither handler answers
  have hcreate := Sessions.rescue_eq_ok (by
    intro e s₁ a s₂ hanswer
    cases hanswer) hguarded
  have htenant := Sessions.rescue_eq_ok (by
    intro e s₁ a s₂ hanswer
    obtain ⟨_, _, _, hanswer⟩ := Sessions.bind_eq_ok hanswer
    obtain ⟨_, _, _, hanswer⟩ := Sessions.bind_eq_ok hanswer
    cases hanswer) h
  obtain ⟨_, s₂, hfault, hact⟩ := Sessions.bind_eq_ok hcreate
  cases mayFail_eq_ok hfault
  obtain ⟨w, hinsert, rfl⟩ := Sessions.act_eq_ok hact
  obtain ⟨rfl, organizations, _, horganizations, rfl⟩ := createOrganization_eq_ok hinsert
  obtain ⟨hsame, hplan', horg, hmember, hactive, hstatus, hsub, users, userRoles, subscriptions, _,
    husers, hrole, hsubscriptions, hdb⟩ := provisionTenant_eq_ok htenant
  have hrows : TenantRows platform db request now done :=
    { plan := hplan' ▸ hplan
      planActive := hplan' ▸ hplanActive
      live := by
        rw [horg]
        exact ⟨rfl, rfl⟩
      member := by rw [hmember, horg]
      userActive := hactive
      subscribed := by
        rw [hsub, horg]
        exact ⟨rfl, rfl⟩
      status := hstatus
      period := by
        rw [hsub]
        exact ⟨rfl, rfl⟩ }
  refine ⟨hsame, hrows, by rw [horg], ?_⟩
  rw [hdb, horg]
  exact ⟨horganizations, husers, hrole, hsubscriptions, rfl, rfl, rfl, rfl, rfl⟩

theorem Adds.frame (h : Adds db db' organization admin sub)
    (authVerificationCodes : Table AuthVerificationCode) (auditEvents : List AuditEvent) :
    Adds db { db' with authVerificationCodes, auditEvents } organization admin sub :=
  ⟨h.organizations, h.users, h.role, h.subscriptions, h.plans, h.planFeatures, h.planLimits,
    h.featureOverrides, h.usageLimits⟩

/-- **THE MAIL** writes no row of the tenant, whether it is sent or not. -/
theorem inviteAdmin_always {user : User} {P : Database → Prop}
    (hframe : ∀ db authVerificationCodes auditEvents, P db →
      P { db with authVerificationCodes, auditEvents }) :
    Always P (inviteAdmin platform actorUserId now ids organization user) := by
  refine Always.rescue ?_ fun e => ?_
  · refine (mayFail_always _).bind fun _ => ?_
    refine Always.bind ?_ fun email => ?_
    · refine (Always.query _).bind fun user => ?_
      refine Always.bind ?_ fun _ => Always.pure _
      refine (Always.update ?_).bind fun _ => Always.commit
      intro db db' hdb h
      obtain ⟨issued, hissue, h⟩ := bind_eq_ok.1 h
      obtain ⟨codes, _, rfl⟩ := AuthService.issueCode_frame hissue
      cases pure_eq_ok.1 h
      exact hframe db codes _ hdb
    · cases platform.send email with
      | none => exact Always.pure true
      | some e => exact Always.raise e
  · refine (mayFail_always _).bind fun _ => ?_
    refine Always.bind ?_ fun _ => Always.pure false
    refine (Always.update ?_).bind fun _ => Always.commit
    intro db db' hdb h
    cases h
    exact hframe db db.authVerificationCodes _ hdb

end Success

/-! ## The resolver on the new tenant -/

theorem mem_effectiveLimitsFrom_nil {planLimits : List PlanLimit} {c : UsageLimitConfiguration} :
    c ∈ (effectiveLimitsFrom planLimits []).rows ↔
      ∃ pl, planLimit? planLimits c.limitKey = some pl ∧ c = planConfiguration pl := by
  have hfind : (effectiveLimitsFrom planLimits []).find? c.limitKey
      = (planLimit? planLimits c.limitKey).map planConfiguration := by
    show ((planLimits.map planConfiguration).foldl Table.upsert Table.empty).find? c.limitKey = _
    rw [Table.find?_foldl_upsert, ← List.map_reverse, List.find?_map]
    exact Option.or_none
  have hmem : c ∈ (effectiveLimitsFrom planLimits []).rows ↔
      (effectiveLimitsFrom planLimits []).find? c.limitKey = some c := by
    rw [Table.find?_eq_some]
    exact (and_iff_left rfl).symm
  rw [hmem, hfind, Option.map_eq_some_iff]
  constructor
  · rintro ⟨pl, hpl, rfl⟩
    exact ⟨pl, hpl, rfl⟩
  · rintro ⟨pl, hpl, hc⟩
    exact ⟨pl, hpl, hc.symm⟩

section Resolver

variable {platform : Platform} {db db' : Database} {request : ProvisionOrganizationRequest}
  {now t : DateTime} {done : Provisioned}

theorem currentSubscriptions_of_adds (hrows : TenantRows platform db request now done)
    (hadds : Adds db db' done.organization done.admin done.subscription)
    (hfresh : Fresh db done.organization.id)
    (hgrants : isGrantingStatus done.subscription.status = true) (ht : now ≤ t) :
    currentSubscriptions db' done.organization.id t = [done.subscription] := by
  rw [SubscriptionService.currentSubscriptions_eq, SubscriptionService.currentAt]
  refine Table.select_added hadds.subscriptions ?_ ?_
  · have hcurrent : isCurrent t done.subscription = true := by
      rw [isCurrent, hgrants, hrows.period.1, hrows.period.2, decide_eq_true ht]
      rfl
    rw [hcurrent, decide_eq_true hrows.subscribed.1]
    rfl
  · intro s hs h
    rw [Bool.and_eq_true, decide_eq_true_eq] at h
    exact hfresh.subscriptions s hs h.1

theorem grantsPlan_of_adds (hrows : TenantRows platform db request now done)
    (hadds : Adds db db' done.organization done.admin done.subscription)
    (hfresh : Fresh db done.organization.id)
    (hgrants : isGrantingStatus done.subscription.status = true) (ht : now ≤ t) :
    GrantsPlan db request.planId (resolveEntitlements db' done.organization.id t) := by
  have hcurrent := currentSubscriptions_of_adds hrows hadds hfresh hgrants ht
  have horg : db'.organizations.find? done.organization.id = some done.organization := by
    refine Table.find?_eq_some.2 ⟨?_, rfl⟩
    rw [hadds.organizations]
    exact List.mem_append_right _ (List.mem_singleton_self _)
  have hplan : db'.plans.find? done.subscription.planId = some done.plan := by
    rw [hadds.plans, hrows.subscribed.2]
    exact hrows.plan
  have hid : done.plan.id = request.planId := (Table.find?_eq_some.1 hrows.plan).2
  have hlive : ¬done.organization.status = OrganizationStatus.suspended := by
    rw [hrows.live.1]
    decide
  have hkept : ¬done.organization.deletedAt.isSome = true := by
    rw [hrows.live.2]
    decide
  have hforce : planInForce db' done.organization.id t = some done.plan := by
    rw [planInForce, horg]
    dsimp only
    rw [if_neg hlive, if_neg hkept, hcurrent]
    exact hplan
  have hoverrides : overridesOf db' done.organization.id = [] := by
    rw [overridesOf, hadds.featureOverrides]
    refine List.filter_eq_nil_iff.2 fun o ho h => ?_
    exact hfresh.featureOverrides o ho (of_decide_eq_true h)
  have hlimits : usageLimitsOf db' done.organization.id = [] := by
    rw [usageLimitsOf, hadds.usageLimits]
    refine List.filter_eq_nil_iff.2 fun l hl h => ?_
    exact hfresh.usageLimits l hl (of_decide_eq_true h)
  refine ⟨?_, fun featureKey => ?_, fun c => ?_⟩
  · rw [resolveEntitlements, horg]
    dsimp only
    rw [if_neg hlive, if_neg hkept, hcurrent]
    dsimp only
    rw [hplan]
    exact if_pos hrows.planActive
  · rw [featureEnabled_of_plan hforce, hoverrides, hid, planFeaturesOf, hadds.planFeatures]
    rfl
  · rw [(resolve_of_plan hforce).2, List.mem_insertionSort, hlimits, hid, planLimitsOf,
      hadds.planLimits]
    exact mem_effectiveLimitsFrom_nil

/-- **A WORKING TENANT**: the rows that the transaction adds. -/
theorem workingTenant_of_adds (hrows : TenantRows platform db request now done)
    (hadds : Adds db db' done.organization done.admin done.subscription)
    (hfresh : Fresh db done.organization.id)
    (hgrants : isGrantingStatus done.subscription.status = true) :
    WorkingTenant db db' request.planId now done.organization done.admin where
  organizations := hadds.organizations
  users := by
    refine Table.select_added hadds.users (decide_eq_true hrows.member) ?_
    exact fun u hu h => hfresh.users u hu (of_decide_eq_true h)
  admin := by
    refine ⟨?_, hrows.member, hrows.userActive, hadds.role⟩
    rw [hadds.users]
    exact List.mem_append_right _ (List.mem_singleton_self _)
  plan _ ht := grantsPlan_of_adds hrows hadds hfresh hgrants ht

theorem granting_of_mem {status : SubscriptionStatus} {text : String}
    (h : SubscriptionStatus.ofText? text = some status)
    (hmem : text ∈ ["TRIALING", "ACTIVE", "PAST_DUE"]) : isGrantingStatus status = true := by
  simp only [List.mem_cons, List.not_mem_nil, or_false] at hmem
  rcases hmem with rfl | rfl | rfl
  all_goals
    cases h
    rfl

end Resolver

/-! ## The call -/

section Call

variable (platform : Platform) (actorUserId : UUID) (now : DateTime) (ids : ProvisioningIds)
  (request : ProvisionOrganizationRequest) (db : Database)

theorem inviteAdmin_answers (hnote : platform.fault .onboardingFailure = none)
    (organization : Organization) (admin : User) (s : Session Database) :
    ∃ sent s', inviteAdmin platform actorUserId now ids organization admin s = (.ok sent, s') := by
  rw [inviteAdmin, Sessions.rescue]
  split
  · next sent s' _ => exact ⟨sent, s', rfl⟩
  · have hpoint : mayFail platform .onboardingFailure = pure () := by rw [mayFail, hnote]
    rw [hpoint]
    exact ⟨false, _, rfl⟩

theorem raised_adds_nothing {e : Error}
    (h : Sessions.answer (provisionTransaction platform actorUserId now ids request) db
      = .error e) :
    Sessions.answer (provisionOrganization platform actorUserId now ids request) db = .error e ∧
      AddsNothing db
        (Sessions.left (provisionOrganization platform actorUserId now ids request) db) := by
  have hraised : provisionTransaction platform actorUserId now ids request ⟨db, db⟩
      = (.error e, (provisionTransaction platform actorUserId now ids request ⟨db, db⟩).2) :=
    Prod.ext h rfl
  rw [Sessions.answer, Sessions.left, provisionOrganization, Sessions.bind_of_error hraised]
  exact ⟨rfl, provisionTransaction_error hraised⟩

theorem returned_works {result : ProvisionOrganizationResult}
    (h : Sessions.answer (provisionOrganization platform actorUserId now ids request) db
      = .ok result)
    (hstatus : request.subscriptionStatus ∈ ["TRIALING", "ACTIVE", "PAST_DUE"])
    (hfresh : Fresh db ids.organizationId) :
    WorkingTenant db
      (Sessions.left (provisionOrganization platform actorUserId now ids request) db)
      request.planId now result.organization result.admin := by
  have hanswered : provisionOrganization platform actorUserId now ids request ⟨db, db⟩
      = (.ok result, (provisionOrganization platform actorUserId now ids request ⟨db, db⟩).2) :=
    Prod.ext h rfl
  rw [Sessions.left]
  obtain ⟨done, s₁, htransaction, hrest⟩ := Sessions.bind_eq_ok hanswered
  obtain ⟨sent, s₂, hmail, hrest⟩ := Sessions.bind_eq_ok hrest
  obtain ⟨hsame, hrows, hid, hadds⟩ := provisionTransaction_eq_ok htransaction
  -- what is committed at the end is what the mail leaves, and the mail keeps the rows
  have hinvite : Always
      (fun db' => Adds db db' done.organization done.admin done.subscription)
      (inviteAdmin platform actorUserId now ids done.organization done.admin) :=
    inviteAdmin_always fun _ codes log h => h.frame codes log
  have hkept := hinvite s₁ hadds (hsame ▸ hadds)
  rw [hmail] at hkept
  cases hrest
  exact workingTenant_of_adds hrows hkept.1 (hid ▸ hfresh) (granting_of_mem hrows.status hstatus)

theorem committed_returns (hnote : platform.fault .onboardingFailure = none) {done : Provisioned}
    (h : Sessions.answer (provisionTransaction platform actorUserId now ids request) db = .ok done)
    (send : CodeEmail → Option Error) :
    ∃ sent, Sessions.answer (provisionOrganization { platform with send } actorUserId now ids
      request) db = .ok (done.result sent) := by
  have hcommitted : provisionTransaction { platform with send } actorUserId now ids request
      ⟨db, db⟩
      = (.ok done, (provisionTransaction platform actorUserId now ids request ⟨db, db⟩).2) :=
    Prod.ext h rfl
  obtain ⟨sent, s', hmail⟩ := inviteAdmin_answers { platform with send } actorUserId now ids hnote
    done.organization done.admin
    (provisionTransaction platform actorUserId now ids request ⟨db, db⟩).2
  refine ⟨sent, ?_⟩
  rw [Sessions.answer, provisionOrganization, Sessions.bind_of_ok hcommitted,
    Sessions.bind_of_ok hmail]
  rfl

/-- **PROVISIONING**: a call that raises before its commit raises that error and has added no row;
a call that returns has added one working tenant; and once the transaction is committed, the call
returns what it committed whatever becomes of the mail. -/
theorem provisioning_all_or_nothing :
    (∀ e, Sessions.answer (provisionTransaction platform actorUserId now ids request) db
        = .error e →
      Sessions.answer (provisionOrganization platform actorUserId now ids request) db = .error e ∧
        AddsNothing db
          (Sessions.left (provisionOrganization platform actorUserId now ids request) db)) ∧
    (∀ result, Sessions.answer (provisionOrganization platform actorUserId now ids request) db
        = .ok result →
      request.subscriptionStatus ∈ ["TRIALING", "ACTIVE", "PAST_DUE"] →
      Fresh db ids.organizationId →
      WorkingTenant db
        (Sessions.left (provisionOrganization platform actorUserId now ids request) db)
        request.planId now result.organization result.admin) ∧
    (platform.fault .onboardingFailure = none →
      ∀ done, Sessions.answer (provisionTransaction platform actorUserId now ids request) db
          = .ok done →
        ∀ send, ∃ sent, Sessions.answer (provisionOrganization { platform with send } actorUserId
          now ids request) db = .ok (done.result sent)) := by
  refine ⟨fun e h => ?_, fun result h hstatus hfresh => ?_, fun hnote done h send => ?_⟩
  · exact raised_adds_nothing platform actorUserId now ids request db h
  · exact returned_works platform actorUserId now ids request db h hstatus hfresh
  · exact committed_returns platform actorUserId now ids request db hnote h send

end Call

/-- A store with one plan, which enables one feature and allows one asset. -/
def onePlan : Database where
  plans := .single { id := 2, code := "BASIC" }
  planFeatures := .single { id := 3, planId := 2, featureKey := "LISA" }
  planLimits := .single { id := 4, planId := 2, limitKey := "max_assets", limitValue := some 1 }

def lowerAscii (s : String) : String := String.ofList (s.toList.map Char.toLower)

/-- A platform whose mail server is down, and whose database fails at a given point. -/
def offline (down : Option FailurePoint) : Platform where
  py := { Interpreter.ascii with lower := lowerAscii }
  sqlLower := lowerAscii
  passwords := .plain
  fault point := if some point = down then some .dataError else none
  send _ := some .assertionError

def acmeIds : ProvisioningIds := ⟨5, ⟨6, "discarded", 0⟩, 7, ⟨8, "123456", 0⟩⟩

def acmeTrial : ProvisionOrganizationRequest := ⟨" Acme ", 2, "TRIALING", "Ann@acme.com", "Ann"⟩

def acme : Organization := { id := 5, name := "Acme" }

def ann : User :=
  { id := 6, organizationId := 5, email := "ann@acme.com", hashedPassword := "discarded",
    fullName := "Ann" }

/-- Without the mail the tenant works; without the commit it is not there. -/
theorem acme_all_or_nothing :
    WorkingTenant onePlan
      (Sessions.left (provisionOrganization (offline none) 9 0 acmeIds acmeTrial) onePlan) 2 0 acme
      ann ∧
    AddsNothing onePlan
      (Sessions.left (provisionOrganization (offline (some .commit)) 9 0 acmeIds acmeTrial)
        onePlan) :=
  ⟨(provisioning_all_or_nothing (offline none) 9 0 acmeIds acmeTrial onePlan).2.1
      ⟨acme, ⟨7, 5, 2, .trialing, 0, none⟩, ann, false, some "BASIC", 1, 1⟩ (by rfl) (by decide)
      ⟨nofun, nofun, nofun, nofun⟩,
    ((provisioning_all_or_nothing (offline (some .commit)) 9 0 acmeIds acmeTrial onePlan).1
      .dataError (by rfl)).2⟩

end ProvisioningService
end AeroComply
