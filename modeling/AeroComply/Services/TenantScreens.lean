import AeroComply.Services.TenantUsers

/-!
# TenantScreens — the invitations and the dashboard of a tenant

`app/services/tenant_service.py`: `list_tenant_invitations` and `get_tenant_dashboard`, between
the calls by which a tenant manages its users and an invited user accepts.

The listing reads the role of every invited user, and fails on a user that has several of them.
`available_along_iff` says along which sequences of calls the two screens answer.
-/

namespace AeroComply

open Relational (Table)

structure TenantProfileResponse where
  id : UUID
  name : String
  status : String
  primaryContactEmail : Option String
  primaryContactName : Option String

structure TenantTeamMember where
  userId : UUID
  fullName : String
  email : String
  role : String

structure TenantTeamResponse where
  id : String
  name : String
  description : String
  leadRole : String
  memberCount : Nat
  members : List TenantTeamMember

structure TenantDashboardAttentionItem where
  severity : String
  category : String
  title : String
  message : String
  linkHref : Option String
  linkLabel : Option String

structure TenantDashboardResponse where
  organization : TenantProfileResponse
  usersCount : Nat
  activeUsersCount : Nat
  pendingInvitationsCount : Nat
  fleetCount : Nat
  aircraftCount : Nat
  droneCount : Nat
  facilityCount : Nat
  teamCount : Nat
  currentPlan : Option String
  subscriptionStatus : Option SubscriptionStatus
  effectiveFeaturesCount : Nat
  attentionItems : List TenantDashboardAttentionItem

namespace TenantService

open EntitlementService (resolveEntitlements)
open Sessions (Call Keeps)

/-! ## The screens -/

/-- The users of the tenant, in the order of their creation. -/
def tenantUsers (db : Database) (organizationId : UUID) : List User :=
  db.users.select fun u => u.organizationId = organizationId

def getTenantProfile (db : Database) (organizationId : UUID) :
    Except Error TenantProfileResponse :=
  match db.organizations.find? organizationId with
  | none => .error (.notFound "Organization not found")
  | some org =>
    let primaryUser := (tenantUsers db organizationId).head?
    .ok {
      id := org.id
      name := org.name
      status := org.status
      primaryContactEmail := primaryUser.map User.email
      primaryContactName := primaryUser.map User.fullName }

def listTenantUsers (db : Database) (organizationId : UUID) : List TenantUserResponse :=
  (tenantUsers db organizationId).map fun u => {
    id := u.id
    email := u.email
    fullName := u.fullName
    isActive := u.isActive
    roles := memberRoles db organizationId u.id }

/-- The codes by which users of the tenant were invited, with the users, newest first. -/
def invitationRows (db : Database) (organizationId : UUID) : List (AuthVerificationCode × User) :=
  ((db.authVerificationCodes.select fun code =>
      code.purpose = VerificationPurpose.accountOnboarding).flatMap fun code =>
    (db.users.select fun u => u.id = code.userId && u.organizationId = organizationId).map
      (code, ·)).insertionSort fun a b => b.1.createdAt ≤ a.1.createdAt

/-- The entry of an invited user with a role. -/
def invitationOf (now : DateTime) (code : AuthVerificationCode) (user : User) (role : String) :
    TenantInvitationResponse :=
  let (status, canResend, canCancel) :=
    if code.consumedAt.isSome then
      (if user.emailVerified then "ACCEPTED" else "CANCELLED", false, false)
    else if code.expiresAt < now then ("EXPIRED", true, false)
    else ("PENDING", true, true)
  { id := code.id
    userId := user.id
    email := user.email
    fullName := user.fullName
    role
    status
    createdAt := code.createdAt
    expiresAt := code.expiresAt
    canResend
    canCancel }

/-- The loop over the codes: the newest one of each user counts. -/
def collectInvitations (db : Database) (now : DateTime) (organizationId : UUID) :
    List UUID → List (AuthVerificationCode × User) → Except Error (List TenantInvitationResponse)
  | _, [] => .ok []
  | seen, (code, user) :: rows =>
    if user.id ∈ seen then collectInvitations db now organizationId seen rows
    else do
      let role ← scalarOneOrNone (memberRoles db organizationId user.id)
      let rest ← collectInvitations db now organizationId (user.id :: seen) rows
      pure (invitationOf now code user ((role.filter (· ≠ "")).getD "VIEWER") :: rest)

def listTenantInvitations (db : Database) (now : DateTime) (organizationId : UUID) :
    Except Error (List TenantInvitationResponse) :=
  collectInvitations db now organizationId [] (invitationRows db organizationId)

/-- An entry of `team_definitions`. -/
structure TeamDefinition where
  id : String
  name : String
  description : String
  leadRole : String
  roles : List String

def teamDefinitions : List TeamDefinition :=
  [{ id := "team-flight-ops"
     name := "Flight Operations"
     description := "Pilots, flight crew, and dispatch officers responsible for missions and "
       ++ "aircraft readiness."
     leadRole := "CHIEF_PILOT"
     roles := ["PILOT", "CHIEF_PILOT"] },
   { id := "team-maintenance"
     name := "Maintenance & CAMO"
     description := "CAMO managers, licensed engineers, and technicians executing work orders "
       ++ "and AOG recovery."
     leadRole := "CAMO_MANAGER"
     roles := ["CAMO_MANAGER", "MAINTENANCE_ENGINEER", "TECHNICIAN"] },
   { id := "team-inspection"
     name := "Quality & Inspection"
     description := "Quality assurance inspectors performing RII sign-offs and maintenance "
       ++ "verification."
     leadRole := "QUALITY_MANAGER"
     roles := ["QUALITY_MANAGER", "INSPECTOR"] },
   { id := "team-compliance"
     name := "Regulatory & Safety Compliance"
     description := "Compliance managers auditing requirements against CAA, EASA, and FAA "
       ++ "frameworks."
     leadRole := "COMPLIANCE_MANAGER"
     roles := ["COMPLIANCE_MANAGER"] },
   { id := "team-admin"
     name := "Organization Administration"
     description := "Tenant administrators managing personnel, commercial plans, facilities, "
       ++ "and access."
     leadRole := "ORG_ADMIN"
     roles := ["ORG_ADMIN", "SUPER_ADMIN"] },
   { id := "team-viewers"
     name := "Stakeholders & Viewers"
     description := "External and internal stakeholders with read-only operational visibility."
     leadRole := "VIEWER"
     roles := ["VIEWER"] }]

def getTenantTeams (db : Database) (organizationId : UUID) : List TenantTeamResponse :=
  teamDefinitions.map fun tdef =>
    let members := (listTenantUsers db organizationId).filter fun u => u.roles.any (· ∈ tdef.roles)
    { id := tdef.id
      name := tdef.name
      description := tdef.description
      leadRole := tdef.leadRole
      memberCount := members.length
      members := members.map fun u => ⟨u.id, u.fullName, u.email, u.roles.headD "MEMBER"⟩ }

/-- The assets of a type that the dashboard counts. -/
def assetCount (db : Database) (organizationId : UUID) (assetType : String) : Nat :=
  (db.assets.select fun a => a.organizationId = organizationId && a.assetType = assetType).length

/-- The `attention_items`. -/
def attentionItemsOf (pendingInvitationsCount : Nat) (status : String) (facilityCount : Nat) :
    List TenantDashboardAttentionItem :=
  (if 0 < pendingInvitationsCount then
    [⟨"INFO", "PEOPLE", s!"{pendingInvitationsCount} Pending Invitation(s)",
      s!"There are {pendingInvitationsCount} onboarding invitations waiting to be completed.",
      some "/tenant/invitations", some "Manage Invitations"⟩] else [])
  ++ (if status = OrganizationStatus.suspended then
    [⟨"CRITICAL", "GOVERNANCE", "Tenant Suspended by Platform",
      "This organization is currently suspended. Operational mutations are restricted.",
      some "/tenant/profile", some "Inspect Status"⟩] else [])
  ++ (if facilityCount = 0 then
    [⟨"WARNING", "OPERATIONS", "No Facilities Configured",
      "Fleet assets currently have no registered base facilities.",
      some "/tenant/facilities", some "Add Facility"⟩] else [])

def getTenantDashboard (db : Database) (now : DateTime) (organizationId : UUID) :
    Except Error TenantDashboardResponse := do
  let profile ← getTenantProfile db organizationId
  let users := listTenantUsers db organizationId
  let invitations ← listTenantInvitations db now organizationId
  let pending := (invitations.filter fun i => i.status = "PENDING").length
  let aircraftCount := assetCount db organizationId AssetType.aircraft
  let droneCount := assetCount db organizationId AssetType.drone
  let facilityCount := (db.facilities.select fun f => f.organizationId = organizationId).length
  let entitlements := resolveEntitlements db organizationId now
  pure {
    organization := profile
    usersCount := users.length
    activeUsersCount := (users.filter TenantUserResponse.isActive).length
    pendingInvitationsCount := pending
    fleetCount := aircraftCount + droneCount
    aircraftCount
    droneCount
    facilityCount
    teamCount := (getTenantTeams db organizationId).length
    currentPlan := entitlements.planCode
    subscriptionStatus := entitlements.subscriptionStatus
    effectiveFeaturesCount :=
      (entitlements.effectiveFeatures.rows.filter FeatureSetting.enabled).length
    attentionItems := attentionItemsOf pending profile.status facilityCount }

/-! ## When the screens answer -/

/-- The user is one of the tenant, and a code to set up the account was sent. -/
def Invited (db : Database) (organizationId userId : UUID) : Prop :=
  (userId, organizationId) ∈ db.users.rows.map (fun u => (u.id, u.organizationId)) ∧
    (userId, VerificationPurpose.accountOnboarding) ∈
      db.authVerificationCodes.rows.map fun code => (code.userId, code.purpose)

/-- Every invited user is listed, and once. -/
structure ListsInvited (db : Database) (organizationId : UUID)
    (invitations : List TenantInvitationResponse) : Prop where
  nodup : (invitations.map TenantInvitationResponse.userId).Nodup
  mem_iff : ∀ userId, userId ∈ invitations.map TenantInvitationResponse.userId ↔
    Invited db organizationId userId

/-- The two screens answer, at any time. -/
def ScreensAvailable (organizationId : UUID) (db : Database) : Prop :=
  ∀ now, (∃ invitations, listTenantInvitations db now organizationId = .ok invitations ∧
      ListsInvited db organizationId invitations) ∧
    ∃ dashboard, getTenantDashboard db now organizationId = .ok dashboard

section Screens

variable {db : Database} {organizationId : UUID} {now : DateTime}

theorem scalarOneOrNone_isOk {α : Type} {l : List α} :
    (∃ o, scalarOneOrNone l = .ok o) ↔ l.length ≤ 1 := by
  match l with
  | [] => exact iff_of_true ⟨none, rfl⟩ (Nat.zero_le 1)
  | [a] => exact iff_of_true ⟨some a, rfl⟩ (Nat.le_refl 1)
  | _ :: _ :: _ =>
    refine iff_of_false (fun ⟨_, h⟩ => (nomatch h)) ?_
    simp only [List.length_cons]
    omega

theorem mem_invitationRows {userId : UUID} :
    userId ∈ (invitationRows db organizationId).map (·.2.id) ↔
      Invited db organizationId userId := by
  rw [invitationRows, List.Perm.mem_iff ((List.perm_insertionSort _ _).map _)]
  simp only [Invited, List.mem_map, List.mem_flatMap, Table.mem_select, Prod.exists, Prod.mk.injEq,
    Bool.and_eq_true, decide_eq_true_eq]
  constructor
  · rintro ⟨code, user, ⟨code', ⟨hcode, hpurpose⟩, user', ⟨huser, hid, horg⟩, rfl, rfl⟩, rfl⟩
    exact ⟨⟨user', huser, rfl, horg⟩, code', hcode, hid.symm, hpurpose⟩
  · rintro ⟨⟨user, huser, rfl, horg⟩, code, hcode, hid, hpurpose⟩
    exact ⟨code, user, ⟨code, ⟨hcode, hpurpose⟩, user, ⟨huser, hid.symm, horg⟩, rfl, rfl⟩, rfl⟩

variable {rows : List (AuthVerificationCode × User)} {seen : List UUID}

/-- The loop goes through exactly when no user it comes to has several roles. -/
theorem collectInvitations_isOk :
    (∃ invitations, collectInvitations db now organizationId seen rows = .ok invitations) ↔
      ∀ userId ∈ rows.map (·.2.id), userId ∉ seen →
        (memberRoles db organizationId userId).length ≤ 1 := by
  induction rows generalizing seen with
  | nil => exact iff_of_true ⟨[], rfl⟩ fun _ h => (nomatch h)
  | cons row rows ih =>
    obtain ⟨code, user⟩ := row
    rw [collectInvitations, List.map_cons, List.forall_mem_cons]
    by_cases hseen : user.id ∈ seen
    · rw [if_pos hseen, ih]
      exact ⟨fun h => ⟨fun hnot => absurd hseen hnot, h⟩, fun h => h.2⟩
    · rw [if_neg hseen]
      constructor
      · rintro ⟨invitations, h⟩
        obtain ⟨role, hrole, h⟩ := bind_eq_ok.1 h
        obtain ⟨rest, hrest, -⟩ := bind_eq_ok.1 h
        have hone := scalarOneOrNone_isOk.1 ⟨role, hrole⟩
        refine ⟨fun _ => hone, fun userId hmem hnot => ?_⟩
        by_cases hid : userId = user.id
        · exact hid ▸ hone
        · refine ih.1 ⟨rest, hrest⟩ userId hmem fun h => ?_
          rcases List.mem_cons.1 h with h | h
          · exact hid h
          · exact hnot h
      · rintro ⟨hone, hrows⟩
        obtain ⟨role, hrole⟩ := scalarOneOrNone_isOk.2 (hone hseen)
        obtain ⟨rest, hrest⟩ := ih.2 fun userId hmem hnot =>
          hrows userId hmem fun h => hnot (List.mem_cons_of_mem _ h)
        exact ⟨_, bind_eq_ok.2 ⟨role, hrole, bind_eq_ok.2 ⟨rest, hrest, rfl⟩⟩⟩

/-- The loop lists the users it comes to, each once. -/
theorem collectInvitations_lists {invitations : List TenantInvitationResponse}
    (h : collectInvitations db now organizationId seen rows = .ok invitations) :
    (invitations.map TenantInvitationResponse.userId).Nodup ∧
      ∀ userId, userId ∈ invitations.map TenantInvitationResponse.userId ↔
        userId ∈ rows.map (·.2.id) ∧ userId ∉ seen := by
  induction rows generalizing seen invitations with
  | nil =>
    cases h
    exact ⟨List.nodup_nil, fun _ => ⟨fun h => (nomatch h), fun h => (nomatch h.1)⟩⟩
  | cons row rows ih =>
    obtain ⟨code, user⟩ := row
    rw [collectInvitations] at h
    by_cases hseen : user.id ∈ seen
    · rw [if_pos hseen] at h
      obtain ⟨hnodup, hmem⟩ := ih h
      refine ⟨hnodup, fun userId => ?_⟩
      rw [hmem userId, List.map_cons, List.mem_cons]
      constructor
      · rintro ⟨hrow, hnot⟩
        exact ⟨Or.inr hrow, hnot⟩
      · rintro ⟨rfl | hrow, hnot⟩
        · exact absurd hseen hnot
        · exact ⟨hrow, hnot⟩
    · rw [if_neg hseen] at h
      obtain ⟨role, _, h⟩ := bind_eq_ok.1 h
      obtain ⟨rest, hrest, h⟩ := bind_eq_ok.1 h
      cases pure_eq_ok.1 h
      obtain ⟨hnodup, hmem⟩ := ih hrest
      have hfirst : ∀ role, (invitationOf now code user role).userId = user.id := fun _ => rfl
      rw [List.map_cons, hfirst]
      refine ⟨List.nodup_cons.2 ⟨fun h => ((hmem _).1 h).2 List.mem_cons_self, hnodup⟩, ?_⟩
      intro userId
      rw [List.mem_cons, hmem userId, List.map_cons, List.mem_cons, List.mem_cons]
      by_cases hid : userId = user.id
      · subst hid
        exact iff_of_true (Or.inl rfl) ⟨Or.inl rfl, hseen⟩
      · tauto

/-- **WHEN THE SCREENS ANSWER**: the organization is there, and no invited user has several
roles. -/
theorem screensAvailable_iff : ScreensAvailable organizationId db ↔
    (db.organizations.find? organizationId).isSome = true ∧
      ∀ userId, Invited db organizationId userId →
        (memberRoles db organizationId userId).length ≤ 1 := by
  have hlist : ∀ now, (∃ invitations, listTenantInvitations db now organizationId
      = .ok invitations) ↔ ∀ userId, Invited db organizationId userId →
        (memberRoles db organizationId userId).length ≤ 1 := by
    intro now
    rw [listTenantInvitations, collectInvitations_isOk]
    exact forall_congr' fun userId => by simp [mem_invitationRows]
  constructor
  · intro h
    obtain ⟨⟨invitations, hinvitations, -⟩, dashboard, hdashboard⟩ := h 0
    refine ⟨?_, (hlist 0).1 ⟨invitations, hinvitations⟩⟩
    obtain ⟨profile, hprofile, -⟩ := bind_eq_ok.1 hdashboard
    rw [getTenantProfile] at hprofile
    cases horg : db.organizations.find? organizationId with
    | none =>
      rw [horg] at hprofile
      cases hprofile
    | some org => rfl
  · rintro ⟨horg, hroles⟩ now
    obtain ⟨org, horg⟩ := Option.isSome_iff_exists.1 horg
    obtain ⟨invitations, hinvitations⟩ := (hlist now).2 hroles
    obtain ⟨hnodup, hmem⟩ := collectInvitations_lists hinvitations
    have hprofile : ∃ profile, getTenantProfile db organizationId = .ok profile := by
      rw [getTenantProfile, horg]
      exact ⟨_, rfl⟩
    obtain ⟨profile, hprofile⟩ := hprofile
    refine ⟨⟨invitations, hinvitations, hnodup, fun userId => ?_⟩, ?_⟩
    · rw [hmem userId, mem_invitationRows]
      exact and_iff_left List.not_mem_nil
    · exact ⟨_, bind_eq_ok.2 ⟨profile, hprofile, bind_eq_ok.2 ⟨invitations, hinvitations, rfl⟩⟩⟩

end Screens

/-! ## The calls -/

/-- A call of a tenant, or an invited user who accepts. -/
inductive ScreenAction
  | tenant (organizationId : UUID) (c : TenantCall)
  | completeAccountOnboarding (now : DateTime) (email code newPassword : String) (salt : Nat)

variable (ctx : PasswordContext)

def perform : ScreenAction → Call Database Error Unit
  | .tenant organizationId c => call ctx organizationId c
  | .completeAccountOnboarding now email code newPassword salt =>
    AuthService.completeAccountOnboarding ctx now email code newPassword salt

/-- The calls as steps of a history. -/
def screenStep : Database → ScreenAction → Except Error Database := Sessions.step (perform ctx)

/-- A role update of the tenant that goes through, for an invited user, gives at most one role. -/
def KeepsScreens (organizationId : UUID) (db : Database) : ScreenAction → Prop
  | .tenant tenantId (.updateTenantUserRoles _ userId roles) =>
    tenantId = organizationId → Invited db organizationId userId →
      Assignable db organizationId userId roles →
      (⟨userId, "ORG_ADMIN", organizationId⟩ ∈ db.userRoles.rows → "ORG_ADMIN" ∉ roles →
        otherAdmins db organizationId userId ≠ []) →
      roles.length ≤ 1
  | .tenant _ (.updateTenantUserStatus _ _ _) | .tenant _ (.inviteTenantUser _ _ _ _ _)
  | .completeAccountOnboarding _ _ _ _ _ => True

/-- The foreign key of the roles. -/
def RolesOfUsers (db : Database) : Prop :=
  ∀ r ∈ db.userRoles.rows, r.userId ∈ db.users.rows.map User.id

/-- What the screens read is the same. -/
structure SameScreens (db db' : Database) : Prop where
  organizations : db'.organizations = db.organizations
  userRoles : db'.userRoles = db.userRoles
  users : db'.users.rows.map (fun u => (u.id, u.organizationId)) =
    db.users.rows.map fun u => (u.id, u.organizationId)
  codes : db'.authVerificationCodes.rows.map (fun code => (code.id, code.userId, code.purpose)) =
    db.authVerificationCodes.rows.map fun code => (code.id, code.userId, code.purpose)

namespace SameScreens

variable {db db' db'' : Database} {organizationId : UUID}

theorem refl (db : Database) : SameScreens db db := ⟨rfl, rfl, rfl, rfl⟩

theorem trans (h : SameScreens db db') (h' : SameScreens db' db'') : SameScreens db db'' :=
  ⟨h'.organizations.trans h.organizations, h'.userRoles.trans h.userRoles,
    h'.users.trans h.users, h'.codes.trans h.codes⟩

theorem memberRoles (h : SameScreens db db') (userId : UUID) :
    memberRoles db' organizationId userId = TenantService.memberRoles db organizationId userId := by
  rw [TenantService.memberRoles, TenantService.memberRoles, h.userRoles]

theorem invited (h : SameScreens db db') {userId : UUID} :
    Invited db' organizationId userId ↔ Invited db organizationId userId := by
  have hcodes := congrArg (List.map Prod.snd) h.codes
  rw [List.map_map, List.map_map] at hcodes
  rw [Invited, Invited, h.users]
  exact and_congr_right fun _ => hcodes ▸ Iff.rfl

theorem available (h : SameScreens db db') (hdb : ScreensAvailable organizationId db) :
    ScreensAvailable organizationId db' := by
  rw [screensAvailable_iff] at hdb ⊢
  refine ⟨h.organizations ▸ hdb.1, fun userId hinvited => ?_⟩
  rw [h.memberRoles]
  exact hdb.2 userId (h.invited.1 hinvited)

theorem rolesOfUsers (h : SameScreens db db') (hdb : RolesOfUsers db) : RolesOfUsers db' := by
  have hids : db'.users.rows.map User.id = db.users.rows.map User.id := by
    have hfst := congrArg (List.map Prod.fst) h.users
    rwa [List.map_map, List.map_map] at hfst
  rw [RolesOfUsers, h.userRoles, hids]
  exact hdb

end SameScreens

section Calls

variable {ctx} {db db' : Database} {organizationId tenantId actorUserId userId : UUID}

/-! ### What leaves the screens alone -/

variable {accountId : UUID} {now : DateTime} {user : User}

theorem sameScreens_saveUser
    (hmem : (user.id, user.organizationId) ∈ db.users.rows.map fun u => (u.id, u.organizationId)) :
    SameScreens db (AuthService.saveUser db user) where
  organizations := rfl
  userRoles := rfl
  users := Table.map_save fun x hx hk => by
    obtain ⟨y, hy, hyu⟩ := List.mem_map.1 hmem
    have hxy : x = y := Table.eq_of_key_eq hx hy (hk.trans (congrArg Prod.fst hyu).symm)
    rw [hxy, hyu]
  codes := rfl

theorem sameScreens_saveCode {row : AuthVerificationCode}
    (hmem : (row.id, row.userId, row.purpose) ∈
      db.authVerificationCodes.rows.map fun code => (code.id, code.userId, code.purpose)) :
    SameScreens db (AuthService.saveCode db row) where
  organizations := rfl
  userRoles := rfl
  users := rfl
  codes := Table.map_save fun x hx hk => by
    obtain ⟨y, hy, hyr⟩ := List.mem_map.1 hmem
    have hxy : x = y := Table.eq_of_key_eq hx hy (hk.trans (congrArg Prod.fst hyr).symm)
    rw [hxy, hyr]

theorem updateTenantUserStatus_same {isActive : Bool} :
    Keeps (SameScreens db)
      (updateTenantUserStatus tenantId actorUserId userId isActive) := by
  refine Keeps.bind (Keeps.transaction ?_) fun _ => Keeps.query _
  intro s s' hs h
  obtain ⟨user, hmember, h⟩ := bind_eq_ok.1 h
  obtain ⟨_, _, h⟩ := bind_eq_ok.1 h
  cases pure_eq_ok.1 h
  have hsaved : SameScreens s (AuthService.saveUser s { user with isActive := isActive }) :=
    sameScreens_saveUser (List.mem_map.2 ⟨user, (memberOrRaise_eq_ok hmember).1, rfl⟩)
  exact hs.trans ⟨hsaved.organizations, hsaved.userRoles, hsaved.users, hsaved.codes⟩

theorem consumeCode_same {purpose code : String} :
    Keeps (SameScreens db) (AuthService.consumeCode ctx user purpose now code) := by
  refine Keeps.query_bind fun s row hs hrow => ?_
  have hcode : (row.id, row.userId, row.purpose) ∈
      db.authVerificationCodes.rows.map fun code => (code.id, code.userId, code.purpose) := by
    rw [← hs.codes]
    exact List.mem_map.2
      ⟨row, (AuthService.latestCode_eq_some (AuthService.usableCode_eq_ok hrow).1).1, rfl⟩
  by_cases hverify : ctx.verify code row.codeHash = true
  · rw [if_pos hverify]
    refine Keeps.update fun t t' ht h => ?_
    cases h
    exact ht.trans (sameScreens_saveCode (ht.codes ▸ hcode))
  · rw [if_neg hverify]
    refine Keeps.bind (Keeps.transaction fun t t' ht h => ?_) fun _ => Keeps.query _
    cases h
    exact ht.trans (sameScreens_saveCode (ht.codes ▸ hcode))

theorem completeAccountOnboarding_same {email code newPassword : String} {salt : Nat} :
    Keeps (SameScreens db)
      (AuthService.completeAccountOnboarding ctx now email code newPassword salt) := by
  refine Keeps.query_bind fun s user hs hread => ?_
  have huser : (user.id, user.organizationId) ∈
      db.users.rows.map fun u => (u.id, u.organizationId) := by
    rw [← hs.users]
    exact List.mem_map.2 ⟨user, AuthService.activeUser_eq_ok hread, rfl⟩
  refine Keeps.bind consumeCode_same fun _ => Keeps.transaction fun t t' ht h => ?_
  cases h
  have hsaved : SameScreens t (AuthService.saveUser t
      { user with hashedPassword := ctx.hash salt newPassword, emailVerified := true }) :=
    sameScreens_saveUser (ht.users ▸ huser)
  exact ht.trans ⟨hsaved.organizations, hsaved.userRoles, hsaved.users, hsaved.codes⟩

/-! ### A role update -/

variable {roles : List String} {generated : GeneratedCode}

theorem memberRoles_writeUserRoles
    (h : writeUserRoles db tenantId actorUserId userId roles = .ok db') (id : UUID) :
    memberRoles db' organizationId id =
      if tenantId = organizationId ∧ userId = id then roles
      else memberRoles db organizationId id := by
  obtain ⟨-, hrows⟩ := writeUserRoles_rows h
  have hselect : memberRoles db' organizationId id =
      (((others db tenantId userId).select fun r => r.userId = id &&
          r.organizationId = organizationId) ++
        (assigned tenantId userId roles).filter fun r => r.userId = id &&
          r.organizationId = organizationId).map UserRole.roleName := by
    rw [memberRoles, Table.select, hrows, List.filter_append]
    rfl
  rw [hselect]
  by_cases hsame : tenantId = organizationId ∧ userId = id
  · obtain ⟨rfl, rfl⟩ := hsame
    have hothers : ((others db tenantId userId).select fun r => r.userId = userId &&
        r.organizationId = tenantId) = [] := by
      refine List.filter_eq_nil_iff.2 fun r hr hp => (mem_others.1 hr).2 ?_
      simpa using hp
    have hassigned : ((assigned tenantId userId roles).filter fun r => r.userId = userId &&
        r.organizationId = tenantId) = assigned tenantId userId roles := by
      refine List.filter_eq_self.2 fun r hr => ?_
      simpa using (mem_assigned.1 hr).2
    rw [if_pos ⟨rfl, rfl⟩, hothers, hassigned, List.nil_append, assigned, List.map_map]
    exact List.map_id' roles
  · have hothers : ((others db tenantId userId).select fun r => r.userId = id &&
        r.organizationId = organizationId) = db.userRoles.select fun r => r.userId = id &&
        r.organizationId = organizationId := by
      rw [others, Table.select_deleteWhere]
      refine List.filter_eq_self.2 fun r hr => ?_
      have hread := (Table.mem_select.1 hr).2
      simp only [Bool.and_eq_true, decide_eq_true_eq] at hread
      simp only [Bool.not_eq_true', Bool.and_eq_false_iff, decide_eq_false_iff_not]
      by_contra hboth
      push Not at hboth
      exact hsame ⟨hboth.2.symm.trans hread.2, hboth.1.symm.trans hread.1⟩
    have hassigned : ((assigned tenantId userId roles).filter fun r => r.userId = id &&
        r.organizationId = organizationId) = [] := by
      refine List.filter_eq_nil_iff.2 fun r hr hp => hsame ?_
      obtain ⟨-, huser, htenant⟩ := mem_assigned.1 hr
      simp only [Bool.and_eq_true, decide_eq_true_eq] at hp
      exact ⟨htenant.symm.trans hp.2, huser.symm.trans hp.1⟩
    rw [if_neg hsame, hothers, hassigned, List.append_nil, memberRoles]

theorem rolesOfUsers_writeUserRoles (hdb : RolesOfUsers db)
    (h : writeUserRoles db tenantId actorUserId userId roles = .ok db') : RolesOfUsers db' := by
  obtain ⟨husers, hrows⟩ := writeUserRoles_rows h
  obtain ⟨⟨user, hmem, hid, -⟩, -⟩ := writeUserRoles_iff.1 ⟨db', h⟩
  rw [RolesOfUsers, husers, hrows]
  intro r hr
  rcases List.mem_append.1 hr with hr | hr
  · exact hdb r (mem_others.1 hr).1
  · rw [(mem_assigned.1 hr).2.1, ← hid]
    exact List.mem_map_of_mem hmem

theorem writeUserRoles_frame (h : writeUserRoles db tenantId actorUserId userId roles = .ok db') :
    db'.organizations = db.organizations ∧ db'.users = db.users ∧
      db'.authVerificationCodes = db.authVerificationCodes := by
  obtain ⟨user, _, h⟩ := bind_eq_ok.1 h
  cases hfound : roles.find? (· ∉ supportedTenantRoles) with
  | some r =>
    rw [hfound] at h
    cases h
  | none =>
    rw [hfound] at h
    obtain ⟨_, _, h⟩ := bind_eq_ok.1 h
    obtain ⟨userRoles, _, h⟩ := bind_eq_ok.1 h
    cases pure_eq_ok.1 h
    exact ⟨rfl, rfl, rfl⟩

/-- **A ROLE UPDATE** leaves the screens exactly when it does not give an invited user of the
tenant several roles. -/
theorem available_writeUserRoles_iff (hdb : ScreensAvailable organizationId db)
    (h : writeUserRoles db tenantId actorUserId userId roles = .ok db') :
    ScreensAvailable organizationId db' ↔
      (tenantId = organizationId → Invited db organizationId userId → roles.length ≤ 1) := by
  obtain ⟨horganizations, husers, hcodes⟩ := writeUserRoles_frame h
  have hinvited : ∀ id, Invited db' organizationId id ↔ Invited db organizationId id := by
    intro id
    rw [Invited, Invited, husers, hcodes]
  rw [screensAvailable_iff] at hdb ⊢
  rw [horganizations, and_iff_right hdb.1]
  constructor
  · rintro hroles rfl hmember
    have hthis := hroles userId ((hinvited userId).2 hmember)
    rwa [memberRoles_writeUserRoles h, if_pos ⟨rfl, rfl⟩] at hthis
  · intro hfew id hmember
    rw [memberRoles_writeUserRoles h]
    have hmember := (hinvited id).1 hmember
    split
    · next hsame =>
      obtain ⟨htenant, rfl⟩ := hsame
      exact hfew htenant hmember
    · exact hdb.2 id hmember

/-! ### An invitation -/

/-- The screens answer, and would if the account were that of an invited user. -/
structure ReadyFor (organizationId accountId : UUID) (db : Database) : Prop where
  available : ScreensAvailable organizationId db
  account : (memberRoles db organizationId accountId).length ≤ 1

theorem ReadyFor.same (hdb : ReadyFor organizationId accountId db) (h : SameScreens db db') :
    ReadyFor organizationId accountId db' where
  available := h.available hdb.available
  account := (h.memberRoles accountId).symm ▸ hdb.account

theorem memberRoles_of_new (hlinked : RolesOfUsers db)
    (hnew : accountId ∉ db.users.rows.map User.id) :
    memberRoles db organizationId accountId = [] := by
  have hnone : (db.userRoles.select fun r => r.userId = accountId &&
      r.organizationId = organizationId) = [] := by
    refine List.filter_eq_nil_iff.2 fun r hr hp => hnew ?_
    simp only [Bool.and_eq_true, decide_eq_true_eq] at hp
    exact hp.1 ▸ hlinked r hr
  rw [memberRoles, hnone]
  rfl

variable {now : DateTime} {account : NewAccount} {payload : TenantInvitationRequest}

theorem addInvitedUser_eq_ok (h : addInvitedUser ctx db tenantId now account payload = .ok db') :
    account.id ∉ db.users.rows.map User.id ∧ db'.organizations = db.organizations ∧
      db'.authVerificationCodes = db.authVerificationCodes ∧
      (∃ user : User, user.id = account.id ∧ user.organizationId = tenantId ∧
        db'.users.rows = db.users.rows ++ [user]) ∧
      db'.userRoles.rows = db.userRoles.rows ++ [⟨account.id, payload.role, tenantId⟩] := by
  obtain ⟨_, _, h⟩ := bind_eq_ok.1 h
  obtain ⟨_, _, h⟩ := bind_eq_ok.1 h
  obtain ⟨_, _, h⟩ := bind_eq_ok.1 h
  obtain ⟨_, _, h⟩ := bind_eq_ok.1 h
  obtain ⟨users, husers, h⟩ := bind_eq_ok.1 h
  obtain ⟨userRoles, hroles, h⟩ := bind_eq_ok.1 h
  cases pure_eq_ok.1 h
  obtain ⟨hnew, husers⟩ := Table.insert?_eq_some (addRowOrRaise_eq_ok.1 husers)
  exact ⟨hnew, rfl, rfl, ⟨_, rfl, rfl, husers⟩,
    (Table.insert?_eq_some (addRowOrRaise_eq_ok.1 hroles)).2⟩

theorem memberRoles_addInvitedUser
    (h : addInvitedUser ctx db tenantId now account payload = .ok db') (id : UUID) :
    memberRoles db' organizationId id = memberRoles db organizationId id ++
      if account.id = id ∧ tenantId = organizationId then [payload.role] else [] := by
  obtain ⟨-, -, -, -, hroles⟩ := addInvitedUser_eq_ok h
  rw [memberRoles, Table.select, hroles, List.filter_append, List.map_append]
  congr 1
  by_cases hsame : account.id = id ∧ tenantId = organizationId
  · rw [if_pos hsame, List.filter_cons_of_pos (by simpa using hsame)]
    rfl
  · rw [if_neg hsame, List.filter_cons_of_neg (by simpa using hsame)]
    rfl

theorem rolesOfUsers_addInvitedUser (hlinked : RolesOfUsers db)
    (h : addInvitedUser ctx db tenantId now account payload = .ok db') : RolesOfUsers db' := by
  obtain ⟨-, -, -, ⟨user, hid, -, husers⟩, hroles⟩ := addInvitedUser_eq_ok h
  rw [RolesOfUsers, husers, hroles, List.map_append]
  intro r hr
  rcases List.mem_append.1 hr with hr | hr
  · exact List.mem_append_left _ (hlinked r hr)
  · rw [List.mem_singleton.1 hr]
    exact List.mem_append_right _ (List.mem_singleton.2 hid.symm)

theorem readyFor_addInvitedUser (hlinked : RolesOfUsers db)
    (hdb : ScreensAvailable organizationId db)
    (h : addInvitedUser ctx db tenantId now account payload = .ok db') :
    ReadyFor organizationId account.id db' := by
  obtain ⟨hnew, horganizations, hcodes, ⟨user, hid, horg, husers⟩, hroles⟩ :=
    addInvitedUser_eq_ok h
  have haccount : (memberRoles db' organizationId account.id).length ≤ 1 := by
    rw [memberRoles_addInvitedUser h, memberRoles_of_new hlinked hnew, List.nil_append]
    split
    · exact Nat.le_refl 1
    · exact Nat.zero_le 1
  refine ⟨?_, haccount⟩
  rw [screensAvailable_iff] at hdb ⊢
  refine ⟨horganizations ▸ hdb.1, fun id hinvited => ?_⟩
  by_cases hthis : account.id = id
  · exact hthis ▸ haccount
  · rw [memberRoles_addInvitedUser h, if_neg fun hsame => hthis hsame.1, List.append_nil]
    obtain ⟨hmember, hcode⟩ := hinvited
    rw [husers, List.map_append, List.mem_append, List.map_singleton, List.mem_singleton,
      Prod.mk.injEq] at hmember
    refine hdb.2 id ⟨hmember.resolve_right fun hsame => hthis (hid.symm.trans hsame.1.symm), ?_⟩
    rwa [hcodes] at hcode

theorem readyFor_request :
    Keeps (ReadyFor organizationId account.id)
      (AuthService.requestAccountOnboarding ctx now account.id generated) := by
  refine Keeps.query_bind fun s user _ huser => ?_
  refine Keeps.bind (Keeps.transaction fun t t' ht h => ?_) fun _ => Keeps.pure _
  obtain ⟨issued, hissue, h⟩ := bind_eq_ok.1 h
  obtain ⟨codes, hcodes, rfl⟩ := AuthService.issueCode_frame hissue
  cases pure_eq_ok.1 h
  have huserId := (AuthService.getUser_eq_ok huser).2
  refine ⟨?_, ht.account⟩
  have havailable := ht.available
  rw [screensAvailable_iff] at havailable ⊢
  refine ⟨havailable.1, fun id hinvited => ?_⟩
  by_cases hthis : account.id = id
  · exact hthis ▸ ht.account
  · refine havailable.2 id ⟨hinvited.1, ?_⟩
    have hcode : (id, VerificationPurpose.accountOnboarding) ∈
        codes.rows.map fun code => (code.userId, code.purpose) := hinvited.2
    rw [(Table.insert?_eq_some hcodes).2, List.map_append,
      List.mem_append, List.map_singleton, List.mem_singleton, Prod.mk.injEq] at hcode
    refine hcode.resolve_right fun hsame => hthis ?_
    exact huserId.symm.trans hsame.1.symm

/-- **AN INVITATION** leaves the screens. -/
theorem available_invite (hlinked : RolesOfUsers db) (hdb : ScreensAvailable organizationId db) :
    ScreensAvailable organizationId (Sessions.left
      (inviteTenantUser ctx tenantId actorUserId now account generated payload) db) := by
  cases hadd : addInvitedUser ctx db tenantId now account payload with
  | error e =>
    have hsame : Sessions.left (inviteTenantUser ctx tenantId actorUserId now account generated
        payload) db = db := by
      rw [Sessions.left, inviteTenantUser,
        Sessions.bind_of_error (Sessions.update_of_error hadd)]
    rwa [hsame]
  | ok db' =>
    have hready : ReadyFor organizationId account.id db := by
      refine ⟨hdb, ?_⟩
      rw [memberRoles_of_new hlinked (addInvitedUser_eq_ok hadd).1]
      exact Nat.zero_le 1
    have hready' := readyFor_addInvitedUser hlinked hdb hadd
    have hleft : ReadyFor organizationId account.id (Sessions.left
        (inviteTenantUser ctx tenantId actorUserId now account generated payload) db) := by
      rw [Sessions.left, inviteTenantUser, Sessions.bind_of_ok (Sessions.update_of_ok hadd)]
      refine (Keeps.bind readyFor_request (fun _ => ?_) ⟨db, db'⟩ hready hready').1
      refine Keeps.bind (Keeps.transaction fun t t' ht h => ?_) fun _ => Keeps.query _
      cases h
      exact ht.same ⟨rfl, rfl, rfl, rfl⟩
    exact hleft.available

theorem rolesOfUsers_invite :
    Keeps RolesOfUsers
      (inviteTenantUser ctx tenantId actorUserId now account generated payload) := by
  refine Keeps.bind (Keeps.update fun t t' ht h => rolesOfUsers_addInvitedUser ht h) fun _ => ?_
  refine Keeps.bind ?_ fun _ => Keeps.bind (Keeps.transaction fun t t' ht h => ?_) fun _ =>
    Keeps.query _
  · refine Keeps.query_bind fun s user _ _ => ?_
    refine Keeps.bind (Keeps.transaction fun t t' ht h => ?_) fun _ => Keeps.pure _
    obtain ⟨issued, hissue, h⟩ := bind_eq_ok.1 h
    obtain ⟨codes, -, rfl⟩ := AuthService.issueCode_frame hissue
    cases pure_eq_ok.1 h
    exact ht
  · cases h
    exact ht

end Calls

/-! ## Sequences of calls -/

open Runs (StepsMeet attempt visited)

variable {ctx} {organizationId : UUID}

theorem attempt_screenStep (db : Database) (a : ScreenAction) :
    attempt (screenStep ctx) db a = Sessions.left (perform ctx a) db := rfl

theorem left_updateTenantUserRoles {db : Database} {tenantId actorUserId userId : UUID}
    {roles : List String} :
    Sessions.left (perform ctx (.tenant tenantId (.updateTenantUserRoles actorUserId userId roles)))
        db =
      match writeUserRoles db tenantId actorUserId userId roles with
      | .ok db' => db'
      | .error _ => db := by
  have hleft : Sessions.left (perform ctx
      (.tenant tenantId (.updateTenantUserRoles actorUserId userId roles))) db
      = Sessions.left (updateTenantUserRoles tenantId actorUserId userId roles) db :=
    Sessions.left_discard db
  rw [hleft]
  cases hwrite : writeUserRoles db tenantId actorUserId userId roles with
  | error e =>
    rw [Sessions.left, updateTenantUserRoles,
      Sessions.bind_of_error (Sessions.transaction_of_error hwrite)]
  | ok db' =>
    rw [Sessions.left, updateTenantUserRoles,
      Sessions.bind_of_ok (Sessions.transaction_of_ok hwrite)]
    rfl

theorem sameScreens_updateStatus {db : Database} {tenantId actorUserId userId : UUID}
    {isActive : Bool} :
    SameScreens db (Sessions.left (perform ctx
      (.tenant tenantId (.updateTenantUserStatus actorUserId userId isActive))) db) :=
  (Keeps.bind updateTenantUserStatus_same fun _ => Keeps.pure ()).left (.refl db)

theorem rolesOfUsers_attempt (db : Database) (a : ScreenAction) (hdb : RolesOfUsers db) :
    RolesOfUsers (attempt (screenStep ctx) db a) := by
  rw [attempt_screenStep]
  cases a with
  | tenant tenantId c =>
    cases c with
    | updateTenantUserRoles actorUserId userId roles =>
      rw [left_updateTenantUserRoles]
      cases hwrite : writeUserRoles db tenantId actorUserId userId roles with
      | error _ => exact hdb
      | ok db' => exact rolesOfUsers_writeUserRoles hdb hwrite
    | updateTenantUserStatus actorUserId userId isActive =>
      exact sameScreens_updateStatus.rolesOfUsers hdb
    | inviteTenantUser actorUserId now account generated payload =>
      exact (Keeps.bind rolesOfUsers_invite fun _ => Keeps.pure ()).left hdb
  | completeAccountOnboarding now email code newPassword salt =>
    exact (completeAccountOnboarding_same.left (.refl db)).rolesOfUsers hdb

/-- **ONE CALL** leaves the screens exactly when it meets the condition. -/
theorem available_attempt_iff {db : Database} (hlinked : RolesOfUsers db)
    (hdb : ScreensAvailable organizationId db) (a : ScreenAction) :
    ScreensAvailable organizationId (attempt (screenStep ctx) db a) ↔
      KeepsScreens organizationId db a := by
  rw [attempt_screenStep]
  cases a with
  | tenant tenantId c =>
    cases c with
    | updateTenantUserRoles actorUserId userId roles =>
      rw [left_updateTenantUserRoles]
      cases hwrite : writeUserRoles db tenantId actorUserId userId roles with
      | error _ =>
        refine iff_of_true hdb ?_
        rintro rfl hinvited hassignable hadmin
        -- the update would have gone through
        obtain ⟨user, huser, hmember⟩ := List.mem_map.1 hinvited.1
        obtain ⟨hid, horg⟩ := Prod.mk.inj hmember
        obtain ⟨db', hok⟩ := writeUserRoles_iff.2 ⟨⟨user, huser, hid, horg⟩, hassignable, hadmin⟩
        rw [hwrite] at hok
        cases hok
      | ok db' =>
        refine (available_writeUserRoles_iff hdb hwrite).trans ?_
        obtain ⟨-, hassignable, hadmin⟩ := writeUserRoles_iff.1 ⟨db', hwrite⟩
        constructor
        · intro h htenant hinvited _ _
          exact h htenant hinvited
        · rintro h rfl hinvited
          exact h rfl hinvited hassignable hadmin
    | updateTenantUserStatus actorUserId userId isActive =>
      exact iff_of_true (sameScreens_updateStatus.available hdb) trivial
    | inviteTenantUser actorUserId now account generated payload =>
      have hleft : Sessions.left (perform ctx
          (.tenant tenantId (.inviteTenantUser actorUserId now account generated payload))) db
          = Sessions.left (inviteTenantUser ctx tenantId actorUserId now account generated payload)
            db := Sessions.left_discard db
      rw [hleft]
      exact iff_of_true (available_invite hlinked hdb) trivial
  | completeAccountOnboarding now email code newPassword salt =>
    exact iff_of_true ((completeAccountOnboarding_same.left (.refl db)).available hdb) trivial

/-- **THE SCREENS NEVER FAIL** along a sequence of calls exactly when no role update of the
sequence gives an invited user of the tenant several roles. -/
theorem screens_available_along_iff (ctx : PasswordContext) (organizationId : UUID) (db : Database)
    (actions : List ScreenAction) (hlinked : RolesOfUsers db)
    (hdb : ScreensAvailable organizationId db) :
    (∀ db' ∈ visited (screenStep ctx) db actions, ScreensAvailable organizationId db') ↔
      StepsMeet (screenStep ctx) (KeepsScreens organizationId) db actions :=
  Runs.forall_visited_iff (fun s a => rolesOfUsers_attempt s a) actions db hlinked hdb
    fun _ hlinked hdb a _ => available_attempt_iff hlinked hdb a

/-! ## An invited user with two roles -/

/-- A tenant with its administrator. -/
def oneAdmin : Database where
  organizations := .single { id := 7, name := "Aero" }
  users := .single { id := 1, organizationId := 7 }
  userRoles := .single ⟨1, "ORG_ADMIN", 7⟩

/-- The administrator invites a user. -/
def newcomer : ScreenAction :=
  .tenant 7 (.inviteTenantUser 1 0 ⟨3, "secret", 0⟩ ⟨30, "123456", 0⟩
    ⟨"new@aero.test", "New", "VIEWER"⟩)

theorem available_oneAdmin : RolesOfUsers oneAdmin ∧ ScreensAvailable 7 oneAdmin := by
  refine ⟨fun r hr => ?_, screensAvailable_iff.2 ⟨rfl, fun userId h => (nomatch h.2)⟩⟩
  rw [List.mem_singleton.1 hr]
  exact List.mem_singleton_self 1

/-- The user accepts, and is given another role. -/
theorem newcomer_available :
    (RolesOfUsers oneAdmin ∧ ScreensAvailable 7 oneAdmin) ∧
      ∀ db' ∈ visited (screenStep .plain) oneAdmin [newcomer,
          .completeAccountOnboarding 1 "new@aero.test" "123456" "chosen" 0,
          .tenant 7 (.updateTenantUserRoles 1 3 ["QUALITY_MANAGER"])],
        ScreensAvailable 7 db' := by
  refine ⟨available_oneAdmin, (screens_available_along_iff .plain 7 oneAdmin _
    available_oneAdmin.1 available_oneAdmin.2).2 ⟨trivial, trivial, ?_, trivial⟩⟩
  intro _ _ _ _
  exact Nat.le_refl 1

/-- **TWO ROLES**: the invitations of the tenant cannot be listed any more. -/
theorem newcomer_with_two_roles :
    ¬∀ db' ∈ visited (screenStep .plain) oneAdmin [newcomer,
        .tenant 7 (.updateTenantUserRoles 1 3 ["VIEWER", "QUALITY_MANAGER"])],
      ScreensAvailable 7 db' := by
  intro h
  have hlast := h _ (List.mem_cons_of_mem _ (List.mem_cons_of_mem _ (List.mem_singleton_self _)))
  have hone := (screensAvailable_iff.1 hlast).2 3 ⟨by decide, by decide⟩
  revert hone
  decide

end TenantService
end AeroComply
