import AeroComply.Services.Auth
import AeroComply.Services.LimitEnforcement

/-!
# TenantUsers — roles, activity and invitations in a tenant

`app/services/tenant_service.py`: `update_tenant_user_roles`,
`update_tenant_user_status` and `invite_tenant_user`, as the administrators of an
organization call them.

An administrator is a user that is active and has the role `ORG_ADMIN`.  The
status update refuses to deactivate the caller, so it leaves the caller; the role
update counts the other holders of `ORG_ADMIN` without looking at their activity.
`active_admin_along_iff` says when the organization keeps an administrator.
-/

namespace AeroComply

open Relational (Keyed Table)

structure TenantUserResponse where
  id : UUID
  email : String
  fullName : String
  isActive : Bool
  roles : List String

structure TenantInvitationRequest where
  email : String
  fullName : String
  role : String

structure TenantInvitationResponse where
  id : UUID
  userId : UUID
  email : String
  fullName : String
  role : String
  status : String := "PENDING"
  createdAt : DateTime
  expiresAt : DateTime
  canResend : Bool := true
  canCancel : Bool := true

/-- What is drawn for a new account: its id, and a password that nobody sees. -/
structure NewAccount where
  id : UUID
  password : String
  salt : Nat

namespace TenantService

open Sessions (Call)
open AuthService (latestCode requestAccountOnboarding)

/-- `SUPPORTED_TENANT_ROLES`, by name. -/
def supportedTenantRoles : List String :=
  ["ORG_ADMIN", "CAMO_MANAGER", "COMPLIANCE_MANAGER", "QUALITY_MANAGER", "MAINTENANCE_ENGINEER",
    "VIEWER"]

def memberOrRaise (db : Database) (organizationId userId : UUID) : Except Error User :=
  match db.users.find? userId with
  | some user =>
    if user.organizationId ≠ organizationId then
      .error (.notFound "User not found in this organization")
    else .ok user
  | none => .error (.notFound "User not found in this organization")

def memberRoles (db : Database) (organizationId userId : UUID) : List String :=
  (db.userRoles.select fun r => r.userId = userId && r.organizationId = organizationId).map
    UserRole.roleName

def getTenantUser (db : Database) (organizationId userId : UUID) :
    Except Error TenantUserResponse := do
  let user ← memberOrRaise db organizationId userId
  pure {
    id := user.id
    email := user.email
    fullName := user.fullName
    isActive := user.isActive
    roles := memberRoles db organizationId userId }

/-- The other rows that give `ORG_ADMIN` in the organization. -/
def otherAdmins (db : Database) (organizationId userId : UUID) : List UserRole :=
  db.userRoles.select fun r =>
    r.organizationId = organizationId && r.roleName = "ORG_ADMIN" && r.userId ≠ userId

/-- The rows that a role update writes. -/
def assigned (organizationId userId : UUID) (roles : List String) : List UserRole :=
  roles.map fun r => ⟨userId, r, organizationId⟩

/-- What `update_tenant_user_roles` commits. -/
def writeUserRoles (db : Database) (organizationId actorUserId userId : UUID)
    (roles : List String) : Except Error Database := do
  let _ ← memberOrRaise db organizationId userId
  match roles.find? (· ∉ supportedTenantRoles) with
  | some r => .error (.forbidden (s!"Role '{r}' cannot be assigned by Tenant Administrator. "
      ++ "Only customer tenant roles may be assigned."))
  | none =>
    raiseIf ("ORG_ADMIN" ∈ memberRoles db organizationId userId ∧ "ORG_ADMIN" ∉ roles ∧
        (otherAdmins db organizationId userId).length = 0)
      (.conflict "Cannot remove the only Organization Administrator.")
    let kept := db.userRoles.deleteWhere fun r =>
      r.userId = userId && r.organizationId = organizationId
    let userRoles ← (assigned organizationId userId roles).foldlM addRow kept
    pure ({ db with userRoles := userRoles }.recordAuditEvent organizationId (some actorUserId)
      "tenant.user.roles_updated" "User" (some userId))

def updateTenantUserRoles (organizationId actorUserId userId : UUID) (roles : List String) :
    Call Database Error TenantUserResponse := do
  Sessions.transaction fun db => writeUserRoles db organizationId actorUserId userId roles
  Sessions.query fun db => getTenantUser db organizationId userId

/-- What `update_tenant_user_status` commits. -/
def writeUserStatus (db : Database) (organizationId actorUserId userId : UUID) (isActive : Bool) :
    Except Error Database := do
  let user ← memberOrRaise db organizationId userId
  raiseIf (userId = actorUserId ∧ isActive = false)
    (.conflict "You cannot deactivate your own account.")
  pure ({ db with users := db.users.save { user with isActive := isActive } }.recordAuditEvent
    organizationId (some actorUserId) "tenant.user.status_updated" "User" (some userId))

def updateTenantUserStatus (organizationId actorUserId userId : UUID) (isActive : Bool) :
    Call Database Error TenantUserResponse := do
  Sessions.transaction fun db => writeUserStatus db organizationId actorUserId userId isActive
  Sessions.query fun db => getTenantUser db organizationId userId

variable (ctx : PasswordContext)

/-- The user and the role that `invite_tenant_user` adds. -/
def addInvitedUser (db : Database) (organizationId : UUID) (now : DateTime) (account : NewAccount)
    (payload : TenantInvitationRequest) : Except Error Database := do
  raiseIf (payload.role ∉ supportedTenantRoles)
    (.forbidden s!"Role '{payload.role}' cannot be assigned in customer invitations.")
  LimitEnforcementService.checkUserCreationLimit db organizationId now
  let existing ← scalarOneOrNone
    (db.users.select fun u => u.email = payload.email && u.organizationId = organizationId)
  raiseIf existing.isSome
    (.conflict s!"User with email '{payload.email}' already exists in this organization.")
  let users ← addRow db.users {
    id := account.id
    organizationId := organizationId
    email := payload.email
    fullName := payload.fullName
    hashedPassword := ctx.hash account.salt account.password
    isActive := true
    emailVerified := false }
  let userRoles ← addRow db.userRoles ⟨account.id, payload.role, organizationId⟩
  pure { db with users := users, userRoles := userRoles }

def inviteTenantUser (organizationId actorUserId : UUID) (now : DateTime) (account : NewAccount)
    (generated : GeneratedCode) (payload : TenantInvitationRequest) :
    Call Database Error TenantInvitationResponse := do
  Sessions.update fun db => addInvitedUser ctx db organizationId now account payload
  let _ ← requestAccountOnboarding ctx now account.id generated
  Sessions.transaction fun db => .ok (db.recordAuditEvent organizationId (some actorUserId)
    "tenant.user.invited" "User" (some account.id))
  Sessions.query fun db =>
    match latestCode db account.id VerificationPurpose.accountOnboarding with
    | some row => .ok {
        id := row.id
        userId := account.id
        email := payload.email
        fullName := payload.fullName
        role := payload.role
        createdAt := row.createdAt
        expiresAt := row.expiresAt }
    -- scalar_one() on no row
    | none => .error .noResultFound

/-! ## Calls by administrators -/

inductive TenantCall
  | updateTenantUserRoles (actorUserId userId : UUID) (roles : List String)
  | updateTenantUserStatus (actorUserId userId : UUID) (isActive : Bool)
  | inviteTenantUser (actorUserId : UUID) (now : DateTime) (account : NewAccount)
      (generated : GeneratedCode) (payload : TenantInvitationRequest)

/-- Who makes the call. -/
def TenantCall.actor : TenantCall → UUID
  | .updateTenantUserRoles actor _ _ | .updateTenantUserStatus actor _ _
  | .inviteTenantUser actor _ _ _ _ => actor

def call (organizationId : UUID) : TenantCall → Call Database Error Unit
  | .updateTenantUserRoles actor userId roles => do
    let _ ← updateTenantUserRoles organizationId actor userId roles
  | .updateTenantUserStatus actor userId isActive => do
    let _ ← updateTenantUserStatus organizationId actor userId isActive
  | .inviteTenantUser actor now account generated payload => do
    let _ ← inviteTenantUser ctx organizationId actor now account generated payload

/-- The user is active and holds `ORG_ADMIN`. -/
structure IsActiveAdmin (db : Database) (organizationId : UUID) (user : User) : Prop where
  mem : user ∈ db.users.rows
  member : user.organizationId = organizationId
  active : user.isActive = true
  admin : ⟨user.id, "ORG_ADMIN", organizationId⟩ ∈ db.userRoles.rows

/-- The organization has an active administrator. -/
def HasActiveAdmin (organizationId : UUID) (db : Database) : Prop :=
  ∃ user, IsActiveAdmin db organizationId user

/-- The call is made by an active administrator. -/
def ByActiveAdmin (organizationId : UUID) (db : Database) (c : TenantCall) : Prop :=
  ∃ user, IsActiveAdmin db organizationId user ∧ user.id = c.actor

/-- The roles may be given to the user: they are roles of a tenant, named once each, and the user
has none of them in another organization. -/
structure Assignable (db : Database) (organizationId userId : UUID) (roles : List String) :
    Prop where
  supported : ∀ r ∈ roles, r ∈ supportedTenantRoles
  nodup : roles.Nodup
  here : ∀ r ∈ db.userRoles.rows, r.userId = userId → r.roleName ∈ roles →
    r.organizationId = organizationId

/-- A role update that takes `ORG_ADMIN` from an active administrator, with assignable roles and
another holder of `ORG_ADMIN` around, finds another administrator that is active. -/
def LeavesActiveAdmin (organizationId : UUID) (db : Database) : TenantCall → Prop
  | .updateTenantUserRoles _ userId roles =>
    (∃ user, IsActiveAdmin db organizationId user ∧ user.id = userId) → "ORG_ADMIN" ∉ roles →
      Assignable db organizationId userId roles → otherAdmins db organizationId userId ≠ [] →
      ∃ user, IsActiveAdmin db organizationId user ∧ user.id ≠ userId
  | .updateTenantUserStatus _ _ _ | .inviteTenantUser _ _ _ _ _ => True

/-! ## What a role update does -/

section RoleUpdate

variable {db db' : Database} {organizationId actorUserId userId : UUID} {roles : List String}

variable {user : User} {r : UserRole}

theorem memberOrRaise_eq_ok (h : memberOrRaise db organizationId userId = .ok user) :
    user ∈ db.users.rows ∧ user.id = userId ∧ user.organizationId = organizationId := by
  rw [memberOrRaise] at h
  cases hfound : db.users.find? userId with
  | none =>
    rw [hfound] at h
    cases h
  | some u =>
    rw [hfound] at h
    obtain ⟨hmem, hid⟩ := Table.find?_eq_some.1 hfound
    by_cases horg : u.organizationId ≠ organizationId
    · simp only [if_pos horg] at h
      cases h
    · simp only [if_neg horg] at h
      cases h
      exact ⟨hmem, hid, not_not.1 horg⟩

theorem memberOrRaise_of_mem (hmem : user ∈ db.users.rows)
    (horg : user.organizationId = organizationId) :
    memberOrRaise db organizationId user.id = .ok user := by
  have hfound : db.users.find? user.id = some user := Table.find?_eq_some.2 ⟨hmem, rfl⟩
  rw [memberOrRaise, hfound]
  exact if_neg (not_not.2 horg)

theorem mem_memberRoles {role : String} :
    role ∈ memberRoles db organizationId userId ↔
      ⟨userId, role, organizationId⟩ ∈ db.userRoles.rows := by
  rw [memberRoles, List.mem_map]
  constructor
  · rintro ⟨r, hr, rfl⟩
    rw [Table.mem_select] at hr
    simp only [Bool.and_eq_true, decide_eq_true_eq] at hr
    obtain ⟨hmem, rfl, rfl⟩ := hr
    exact hmem
  · intro hmem
    exact ⟨_, Table.mem_select.2 ⟨hmem, by simp⟩, rfl⟩

/-- The rows a role update keeps. -/
def others (db : Database) (organizationId userId : UUID) : Table UserRole :=
  db.userRoles.deleteWhere fun r => r.userId = userId && r.organizationId = organizationId

theorem mem_others :
    r ∈ (others db organizationId userId).rows ↔
      r ∈ db.userRoles.rows ∧ ¬(r.userId = userId ∧ r.organizationId = organizationId) := by
  show r ∈ db.userRoles.rows.filter _ ↔ _
  rw [List.mem_filter]
  grind

theorem mem_assigned :
    r ∈ assigned organizationId userId roles ↔
      r.roleName ∈ roles ∧ r.userId = userId ∧ r.organizationId = organizationId := by
  rw [assigned, List.mem_map]
  constructor
  · rintro ⟨role, hrole, rfl⟩
    exact ⟨hrole, rfl, rfl⟩
  · rintro ⟨hrole, rfl, rfl⟩
    exact ⟨r.roleName, hrole, rfl⟩

/-- The roles can be written exactly when they are named once each and the user has none of them
elsewhere. -/
theorem nodup_assigned :
    (((others db organizationId userId).rows.map Keyed.key
        ++ (assigned organizationId userId roles).map Keyed.key).Nodup) ↔
      roles.Nodup ∧ ∀ r ∈ db.userRoles.rows, r.userId = userId → r.roleName ∈ roles →
        r.organizationId = organizationId := by
  have hkeys : (assigned organizationId userId roles).map Keyed.key
      = roles.map fun role => (userId, role) := by
    rw [assigned, List.map_map]
    rfl
  have hinj : Function.Injective fun role : String => (userId, role) :=
    fun _ _ h => (Prod.mk.inj h).2
  rw [hkeys, List.nodup_append, List.nodup_map_iff hinj]
  constructor
  · rintro ⟨_, hnodup, hfree⟩
    refine ⟨hnodup, ?_⟩
    intro r hr huser hrole
    by_contra horg
    exact hfree _ (List.mem_map_of_mem (mem_others.2 ⟨hr, fun h => horg h.2⟩)) _
      (List.mem_map_of_mem hrole) (Prod.ext huser rfl)
  · rintro ⟨hnodup, hhere⟩
    refine ⟨(others db organizationId userId).nodup, hnodup, ?_⟩
    intro key hkey key' hkey' heq
    obtain ⟨r, hr, rfl⟩ := List.mem_map.1 hkey
    obtain ⟨role, hrole, rfl⟩ := List.mem_map.1 hkey'
    obtain ⟨hmem, hother⟩ := mem_others.1 hr
    have huser : r.userId = userId := congrArg Prod.fst heq
    have hname : r.roleName = role := congrArg Prod.snd heq
    exact hother ⟨huser, hhere r hmem huser (hname ▸ hrole)⟩

/-- **A ROLE UPDATE** goes through exactly for a member, assignable roles and, if it takes
`ORG_ADMIN` away, another row that gives it; and then it replaces the rows of the member. -/
theorem writeUserRoles_iff :
    (∃ db', writeUserRoles db organizationId actorUserId userId roles = .ok db') ↔
      (∃ user ∈ db.users.rows, user.id = userId ∧ user.organizationId = organizationId) ∧
      Assignable db organizationId userId roles ∧
      (⟨userId, "ORG_ADMIN", organizationId⟩ ∈ db.userRoles.rows → "ORG_ADMIN" ∉ roles →
        otherAdmins db organizationId userId ≠ []) := by
  constructor
  · rintro ⟨db', h⟩
    obtain ⟨user, hmember, h⟩ := bind_eq_ok.1 h
    cases hfound : roles.find? (· ∉ supportedTenantRoles) with
    | some r =>
      rw [hfound] at h
      cases h
    | none =>
      rw [hfound] at h
      obtain ⟨_, hguard, h⟩ := bind_eq_ok.1 h
      obtain ⟨userRoles, hwrite, h⟩ := bind_eq_ok.1 h
      have hsupported : ∀ r ∈ roles, r ∈ supportedTenantRoles := by
        simpa using List.find?_eq_none.1 hfound
      have hrows := rows_of_foldlM_addRow hwrite
      have hnodup := userRoles.nodup
      rw [hrows, List.map_append] at hnodup
      obtain ⟨hnodup, hhere⟩ := nodup_assigned.1 hnodup
      refine ⟨⟨user, memberOrRaise_eq_ok hmember⟩, ⟨hsupported, hnodup, hhere⟩, ?_⟩
      intro hadmin hdropped hnone
      refine raiseIf_eq_ok.1 hguard ⟨mem_memberRoles.2 hadmin, hdropped, ?_⟩
      rw [hnone]
      rfl
  · rintro ⟨⟨user, hmem, rfl, horg⟩, hassignable, hguard⟩
    have hfound : roles.find? (· ∉ supportedTenantRoles) = none := by
      rw [List.find?_eq_none]
      intro r hr
      simpa using hassignable.supported r hr
    obtain ⟨userRoles, hwrite⟩ := exists_foldlM_addRow (t := others db organizationId user.id)
      (nodup_assigned.2 ⟨hassignable.nodup, hassignable.here⟩)
    have hpass : ¬("ORG_ADMIN" ∈ memberRoles db organizationId user.id ∧ "ORG_ADMIN" ∉ roles ∧
        (otherAdmins db organizationId user.id).length = 0) := by
      rintro ⟨hadmin, hdropped, hnone⟩
      exact hguard (mem_memberRoles.1 hadmin) hdropped (List.length_eq_zero_iff.1 hnone)
    rw [writeUserRoles, memberOrRaise_of_mem hmem horg, ok_bind, hfound]
    exact ⟨_, bind_eq_ok.2 ⟨(), raiseIf_eq_ok.2 hpass, bind_eq_ok.2 ⟨userRoles, hwrite, rfl⟩⟩⟩

theorem writeUserRoles_rows
    (h : writeUserRoles db organizationId actorUserId userId roles = .ok db') :
    db'.users = db.users ∧ db'.userRoles.rows
      = (others db organizationId userId).rows ++ assigned organizationId userId roles := by
  obtain ⟨user, _, h⟩ := bind_eq_ok.1 h
  cases hfound : roles.find? (· ∉ supportedTenantRoles) with
  | some r =>
    rw [hfound] at h
    cases h
  | none =>
    rw [hfound] at h
    obtain ⟨_, _, h⟩ := bind_eq_ok.1 h
    obtain ⟨userRoles, hwrite, h⟩ := bind_eq_ok.1 h
    cases pure_eq_ok.1 h
    exact ⟨rfl, rows_of_foldlM_addRow hwrite⟩

theorem isActiveAdmin_writeUserRoles
    (h : writeUserRoles db organizationId actorUserId userId roles = .ok db') :
    IsActiveAdmin db' organizationId user ↔
      (IsActiveAdmin db organizationId user ∧ user.id ≠ userId) ∨
      (user ∈ db.users.rows ∧ user.organizationId = organizationId ∧ user.isActive = true ∧
        user.id = userId ∧ "ORG_ADMIN" ∈ roles) := by
  obtain ⟨husers, hrows⟩ := writeUserRoles_rows h
  constructor
  · rintro ⟨hmem, horg, hactive, hadmin⟩
    rw [husers] at hmem
    rw [hrows, List.mem_append, mem_others, mem_assigned] at hadmin
    rcases hadmin with ⟨hadmin, hother⟩ | ⟨hrole, hid, _⟩
    · exact Or.inl ⟨⟨hmem, horg, hactive, hadmin⟩, fun hid => hother ⟨hid, rfl⟩⟩
    · exact Or.inr ⟨hmem, horg, hactive, hid, hrole⟩
  · rintro (⟨⟨hmem, horg, hactive, hadmin⟩, hid⟩ | ⟨hmem, horg, hactive, hid, hrole⟩)
    · refine ⟨husers ▸ hmem, horg, hactive, ?_⟩
      rw [hrows, List.mem_append, mem_others]
      exact Or.inl ⟨hadmin, fun h => hid h.1⟩
    · refine ⟨husers ▸ hmem, horg, hactive, ?_⟩
      rw [hrows, List.mem_append, mem_assigned]
      exact Or.inr ⟨hrole, hid, rfl⟩

/-- **WHEN A ROLE UPDATE LEAVES AN ADMINISTRATOR**. -/
theorem hasActiveAdmin_updateRoles_iff (h : HasActiveAdmin organizationId db) :
    HasActiveAdmin organizationId (Sessions.left (call ctx organizationId
        (.updateTenantUserRoles actorUserId userId roles)) db) ↔
      LeavesActiveAdmin organizationId db (.updateTenantUserRoles actorUserId userId roles) := by
  have hleft : Sessions.left (call ctx organizationId
      (.updateTenantUserRoles actorUserId userId roles)) db
      = Sessions.left (updateTenantUserRoles organizationId actorUserId userId roles) db :=
    Sessions.left_discard db
  rw [hleft]
  cases hwrite : writeUserRoles db organizationId actorUserId userId roles with
  | error e =>
    have hsame : Sessions.left (updateTenantUserRoles organizationId actorUserId userId roles) db
        = db := by
      rw [Sessions.left, updateTenantUserRoles,
        Sessions.bind_of_error (Sessions.transaction_of_error hwrite)]
    rw [hsame]
    refine iff_of_true h ?_
    rintro ⟨user, hadmin, rfl⟩ hdropped hassignable hothers
    -- the update would have gone through
    obtain ⟨db', hok⟩ := writeUserRoles_iff.2
      ⟨⟨user, hadmin.mem, rfl, hadmin.member⟩, hassignable, fun _ _ => hothers⟩
    rw [hwrite] at hok
    cases hok
  | ok db' =>
    have hwritten : Sessions.left (updateTenantUserRoles organizationId actorUserId userId roles) db
        = db' := by
      rw [Sessions.left, updateTenantUserRoles,
        Sessions.bind_of_ok (Sessions.transaction_of_ok hwrite)]
      rfl
    rw [hwritten]
    obtain ⟨_, hassignable, hguard⟩ := writeUserRoles_iff.1 ⟨db', hwrite⟩
    constructor
    · rintro ⟨user, hadmin⟩ _ hdropped _ _
      rcases (isActiveAdmin_writeUserRoles hwrite).1 hadmin with hother | ⟨_, _, _, _, hrole⟩
      · exact ⟨user, hother⟩
      · exact absurd hrole hdropped
    · intro hleaves
      obtain ⟨user, hadmin⟩ := h
      by_cases hid : user.id = userId
      · subst hid
        by_cases hrole : "ORG_ADMIN" ∈ roles
        · exact ⟨user, (isActiveAdmin_writeUserRoles hwrite).2
            (Or.inr ⟨hadmin.mem, hadmin.member, hadmin.active, rfl, hrole⟩)⟩
        · obtain ⟨other, hother⟩ := hleaves ⟨user, hadmin, rfl⟩ hrole hassignable
            (hguard hadmin.admin hrole)
          exact ⟨other, (isActiveAdmin_writeUserRoles hwrite).2 (Or.inl hother)⟩
      · exact ⟨user, (isActiveAdmin_writeUserRoles hwrite).2 (Or.inl ⟨hadmin, hid⟩)⟩

end RoleUpdate

/-! ## What the other calls do -/

section OtherCalls

variable {db db' : Database} {organizationId actorUserId userId : UUID}

theorem hasActiveAdmin_updateStatus {isActive : Bool}
    (hby : ByActiveAdmin organizationId db (.updateTenantUserStatus actorUserId userId isActive)) :
    HasActiveAdmin organizationId (Sessions.left (call ctx organizationId
      (.updateTenantUserStatus actorUserId userId isActive)) db) := by
  obtain ⟨admin, hadmin, hactor⟩ := hby
  have hleft : Sessions.left (call ctx organizationId
      (.updateTenantUserStatus actorUserId userId isActive)) db
      = Sessions.left (updateTenantUserStatus organizationId actorUserId userId isActive) db :=
    Sessions.left_discard db
  rw [hleft]
  cases hwrite : writeUserStatus db organizationId actorUserId userId isActive with
  | error e =>
    rw [Sessions.left, updateTenantUserStatus,
      Sessions.bind_of_error (Sessions.transaction_of_error hwrite)]
    exact ⟨admin, hadmin⟩
  | ok db' =>
    rw [Sessions.left, updateTenantUserStatus,
      Sessions.bind_of_ok (Sessions.transaction_of_ok hwrite)]
    show HasActiveAdmin organizationId db'
    obtain ⟨user, hmember, hwrite⟩ := bind_eq_ok.1 hwrite
    obtain ⟨_, hself, hwrite⟩ := bind_eq_ok.1 hwrite
    obtain ⟨hmem, hid, horg⟩ := memberOrRaise_eq_ok hmember
    cases pure_eq_ok.1 hwrite
    by_cases hsame : user.id = admin.id
    · -- the caller can only stay active
      have hstays : isActive = true := by
        by_contra hoff
        exact raiseIf_eq_ok.1 hself ⟨hid.symm.trans (hsame.trans hactor), by simpa using hoff⟩
      refine ⟨{ user with isActive := isActive }, ?_, horg, hstays, ?_⟩
      · exact Table.mem_save.2 (Or.inr ⟨rfl, user, hmem, rfl⟩)
      · show (⟨user.id, "ORG_ADMIN", organizationId⟩ : UserRole) ∈ db.userRoles.rows
        rw [hsame]
        exact hadmin.admin
    · refine ⟨admin, ?_, hadmin.member, hadmin.active, hadmin.admin⟩
      exact Table.mem_save.2 (Or.inl ⟨hadmin.mem, fun h => hsame h.symm⟩)

variable {payload : TenantInvitationRequest} {now : DateTime} {generated : GeneratedCode}
  {account : NewAccount}

theorem addInvitedUser_keeps
    (h : addInvitedUser ctx db organizationId now account payload = .ok db')
    (hdb : HasActiveAdmin organizationId db) : HasActiveAdmin organizationId db' := by
  obtain ⟨_, _, h⟩ := bind_eq_ok.1 h
  obtain ⟨_, _, h⟩ := bind_eq_ok.1 h
  obtain ⟨_, _, h⟩ := bind_eq_ok.1 h
  obtain ⟨_, _, h⟩ := bind_eq_ok.1 h
  obtain ⟨users, husers, h⟩ := bind_eq_ok.1 h
  obtain ⟨userRoles, hroles, h⟩ := bind_eq_ok.1 h
  cases pure_eq_ok.1 h
  obtain ⟨admin, hmem, horg, hactive, hadmin⟩ := hdb
  exact ⟨admin, (Table.mem_insert? (addRowOrRaise_eq_ok.1 husers)).2 (Or.inl hmem), horg, hactive,
    (Table.mem_insert? (addRowOrRaise_eq_ok.1 hroles)).2 (Or.inl hadmin)⟩

theorem requestAccountOnboarding_keeps :
    Sessions.Keeps (HasActiveAdmin organizationId)
      (requestAccountOnboarding ctx now userId generated) := by
  refine Sessions.Keeps.query_bind fun db user hdb _ => ?_
  refine Sessions.Keeps.bind (Sessions.Keeps.transaction ?_) fun _ => Sessions.Keeps.pure _
  intro db db' hdb h
  obtain ⟨issued, hissue, h⟩ := bind_eq_ok.1 h
  obtain ⟨codes, _, rfl⟩ := AuthService.issueCode_frame hissue
  cases pure_eq_ok.1 h
  obtain ⟨admin, hmem, horg, hactive, hadmin⟩ := hdb
  exact ⟨admin, hmem, horg, hactive, hadmin⟩

theorem hasActiveAdmin_invite (hdb : HasActiveAdmin organizationId db) :
    HasActiveAdmin organizationId (Sessions.left (call ctx organizationId
      (.inviteTenantUser actorUserId now account generated payload)) db) := by
  refine Sessions.Keeps.left (Sessions.Keeps.bind ?_ fun _ => Sessions.Keeps.pure _) hdb
  refine Sessions.Keeps.bind (Sessions.Keeps.update ?_) fun _ => ?_
  · exact fun _ _ hdb h => addInvitedUser_keeps ctx h hdb
  refine Sessions.Keeps.bind (requestAccountOnboarding_keeps ctx) fun _ => ?_
  refine Sessions.Keeps.bind (Sessions.Keeps.transaction ?_) fun _ => Sessions.Keeps.query _
  intro db db' hdb h
  cases h
  obtain ⟨admin, hmem, horg, hactive, hadmin⟩ := hdb
  exact ⟨admin, hmem, horg, hactive, hadmin⟩

end OtherCalls

/-! ## Sequences of calls -/

/-- The calls as steps of a history. -/
def step (organizationId : UUID) : Database → TenantCall → Except Error Database :=
  Sessions.step (call ctx organizationId)

/-- **THE TENANT KEEPS AN ADMINISTRATOR** along a sequence of calls by administrators exactly when
every role update of the sequence leaves one. -/
theorem active_admin_along_iff (organizationId : UUID) (db : Database) (calls : List TenantCall)
    (hstart : HasActiveAdmin organizationId db)
    (hby : Runs.StepsMeet (step ctx organizationId) (ByActiveAdmin organizationId) db calls) :
    (∀ db' ∈ Runs.visited (step ctx organizationId) db calls, HasActiveAdmin organizationId db') ↔
      Runs.StepsMeet (step ctx organizationId) (LeavesActiveAdmin organizationId) db calls := by
  refine Runs.forall_visited_iff_of_meets (fun _ => True) (fun _ _ h => h) calls db trivial hstart
    hby ?_
  intro s c _ hs hby
  cases c with
  | updateTenantUserRoles actor userId roles => exact hasActiveAdmin_updateRoles_iff ctx hs
  | updateTenantUserStatus actor userId isActive =>
    exact iff_of_true (hasActiveAdmin_updateStatus ctx hby) trivial
  | inviteTenantUser actor now account generated payload =>
    exact iff_of_true (hasActiveAdmin_invite ctx hs) trivial

def twoAdmins : Database where
  users := ⟨[{ id := 1, organizationId := 7 }, { id := 2, organizationId := 7 }], by decide⟩
  userRoles := ⟨[⟨1, "ORG_ADMIN", 7⟩, ⟨2, "ORG_ADMIN", 7⟩], by decide⟩

/-- One administrator deactivates the other, and then gives up the role. -/
def lastOneLeaves : List TenantCall :=
  [.updateTenantUserStatus 1 2 false, .updateTenantUserRoles 1 1 ["VIEWER"]]

/-- The administrator who gives up the role first makes another user one. -/
def handOver : List TenantCall :=
  [.updateTenantUserStatus 1 2 false,
    .inviteTenantUser 1 0 ⟨3, "secret", 0⟩ ⟨30, "123456", 0⟩ ⟨"new@aero.test", "New", "ORG_ADMIN"⟩,
    .updateTenantUserRoles 1 1 ["VIEWER"]]

theorem isActiveAdmin_iff {db : Database} {organizationId : UUID} {user : User} :
    IsActiveAdmin db organizationId user ↔
      user ∈ db.users.rows ∧ user.organizationId = organizationId ∧ user.isActive = true ∧
        ⟨user.id, "ORG_ADMIN", organizationId⟩ ∈ db.userRoles.rows :=
  ⟨fun ⟨hmem, horg, hactive, hadmin⟩ => ⟨hmem, horg, hactive, hadmin⟩,
    fun ⟨hmem, horg, hactive, hadmin⟩ => ⟨hmem, horg, hactive, hadmin⟩⟩

instance (db : Database) (organizationId : UUID) (user : User) :
    Decidable (IsActiveAdmin db organizationId user) := decidable_of_iff _ isActiveAdmin_iff.symm

/-- Whether there is an administrator, and whether one makes the call, can be computed. -/
instance (organizationId : UUID) : DecidablePred (HasActiveAdmin organizationId) := fun db =>
  decidable_of_iff (∃ user ∈ db.users.rows, IsActiveAdmin db organizationId user)
    ⟨fun ⟨user, _, h⟩ => ⟨user, h⟩, fun ⟨user, h⟩ => ⟨user, h.mem, h⟩⟩

instance (organizationId : UUID) (db : Database) (c : TenantCall) :
    Decidable (ByActiveAdmin organizationId db c) :=
  decidable_of_iff
    (∃ user ∈ db.users.rows, IsActiveAdmin db organizationId user ∧ user.id = c.actor)
    ⟨fun ⟨user, _, h⟩ => ⟨user, h⟩, fun ⟨user, h⟩ => ⟨user, h.1.mem, h⟩⟩

theorem lastOneLeaves_leaves_none :
    ¬∀ (ctx : PasswordContext) (organizationId : UUID) (db : Database) (calls : List TenantCall),
      HasActiveAdmin organizationId db →
      Runs.StepsMeet (step ctx organizationId) (ByActiveAdmin organizationId) db calls →
      ∀ db' ∈ Runs.visited (step ctx organizationId) db calls, HasActiveAdmin organizationId db' := by
  intro h
  have hlast := h .plain 7 twoAdmins lastOneLeaves (by decide) (by decide)
    (lastOneLeaves.foldl (Runs.attempt (step .plain 7)) twoAdmins)
    (by simp [Runs.visited, lastOneLeaves])
  revert hlast
  decide

theorem handOver_keeps_admin :
    HasActiveAdmin 7 twoAdmins ∧
      ∀ db' ∈ Runs.visited (step .plain 7) twoAdmins handOver, HasActiveAdmin 7 db' := by
  have hstart : HasActiveAdmin 7 twoAdmins := by decide
  refine ⟨hstart, (active_admin_along_iff .plain 7 twoAdmins handOver hstart (by decide)).2
    ⟨trivial, trivial, fun _ _ _ _ => ?_, trivial⟩⟩
  refine ⟨{ id := 3, organizationId := 7, email := "new@aero.test", hashedPassword := "secret"
            fullName := "New" }, ?_, by decide⟩
  decide

end TenantService
end AeroComply
