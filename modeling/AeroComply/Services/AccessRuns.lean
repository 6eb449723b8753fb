import AeroComply.Services.Access

/-!
# AccessRuns — a request is made with the authority the account had

Registrations, logins, refreshes, role changes, activations, suspensions, deletion requests,
restorations and authenticated requests, one after the other at times that do not go back.

Every access token stands for a moment: the user was active then, the organization live, and
the roles in the token those of the user (`Stands`).  An accepted request comes at most one
lifetime after that moment, so `access_follows_account`.
-/

namespace AeroComply

open Relational (Table)

namespace AccessRuns

open AuthService Deps
open TenantService (writeUserRoles writeUserStatus memberOrRaise_eq_ok)

/-- What the calls run on. -/
structure Setting (Token : Type) where
  passwords : PasswordContext
  unicode : UnicodeTables
  jwt : Jwt Token
  settings : TokenSettings

inductive AccountCall (Token : Type)
  | register (ids : RegistrationIds) (payload : RegisterOrganizationRequest) (tokens : TokenIds)
  | login (email password : String) (tokens : TokenIds)
  | refresh (refreshToken : Token) (tokens : TokenIds)
  | updateRoles (organizationId actorUserId userId : UUID) (roles : List String)
  | updateStatus (organizationId actorUserId userId : UUID) (isActive : Bool)
  | setOrganizationStatus (actorUserId : Option UUID) (organizationId : UUID) (status : String)
  | requestDeletion (actorUserId : Option UUID) (organizationId : UUID) (reason : Option String)
  | restore (actorUserId : Option UUID) (organizationId : UUID)
  | request (credentials : Option Token)

/-- A call, and when it is made. -/
structure TimedCall (Token : Type) where
  time : DateTime
  call : AccountCall Token

/-- A request that was accepted. -/
structure Acceptance where
  time : DateTime
  db : Database
  user : CurrentUser

/-- The database, what it was after each call so far, the claims that were signed, and the
requests that were accepted. -/
structure World where
  db : Database
  past : List (DateTime × Database) := []
  issued : List TokenPayload := []
  accepted : List Acceptance := []

/-- A call has gone through. -/
def World.after (w : World) (now : DateTime) (db : Database) : World :=
  { w with db, past := w.past ++ [(now, db)] }

variable {Token : Type} (c : Setting Token)

/-- `_issue_tokens`, after the call has gone through. -/
def World.issue (w : World) (now : DateTime) (db : Database) (user : User) (roles : List String)
    (tokens : TokenIds) : World :=
  { w.after now db with
    issued := w.issued ++
      [accessPayload c.settings now tokens.access user roles,
        refreshPayload c.settings now tokens.refresh user] }

def step (w : World) (timed : TimedCall Token) : Except Error World :=
  let now := timed.time
  match timed.call with
  | .register ids payload tokens => do
    let (db, user) ← registerOrganization c.passwords w.db now ids payload
    pure (w.issue c now db user ["ORG_ADMIN"] tokens)
  | .login email password tokens => do
    let (db, user, roles) ← authenticate c.passwords w.db email password
    pure (w.issue c now db user roles tokens)
  | .refresh refreshToken tokens => do
    let (user, roles) ← refreshAccessToken c.jwt w.db now refreshToken
    pure (w.issue c now w.db user roles tokens)
  | .updateRoles organizationId actor userId roles => do
    let db ← writeUserRoles w.db organizationId actor userId roles
    pure (w.after now db)
  | .updateStatus organizationId actor userId isActive => do
    let db ← writeUserStatus w.db organizationId actor userId isActive
    pure (w.after now db)
  | .setOrganizationStatus actor organizationId status => do
    let (db, _) ← PlatformService.setOrganizationStatus w.db actor organizationId status
    pure (w.after now db)
  | .requestDeletion actor organizationId reason => do
    let (db, _) ←
      DeletionService.requestOrganizationDeletion c.unicode w.db now organizationId actor reason
    pure (w.after now db)
  | .restore actor organizationId => do
    let db ← RestorationService.restoreOrganization w.db now actor organizationId
    pure (w.after now db)
  | .request credentials => do
    let user ← getCurrentUser c.jwt w.db now credentials
    pure { w.after now w.db with accepted := w.accepted ++ [⟨now, w.db, user⟩] }

/-- Every state that the calls pass through. -/
def states (db : Database) (calls : List (TimedCall Token)) : List World :=
  Runs.visited (step c) { db } calls

/-- A token that a request presents and that is decoded was signed before. -/
def Unforged (w : World) (timed : TimedCall Token) : Prop :=
  match timed.call with
  | .request (some token) =>
    match c.jwt.decode timed.time token with
    | some payload => payload ∈ w.issued
    | none => True
  | .request none | .register _ _ _ | .login _ _ _ | .refresh _ _ | .updateRoles _ _ _ _
  | .updateStatus _ _ _ _ | .setOrganizationStatus _ _ _ | .requestDeletion _ _ _
  | .restore _ _ => True

instance (w : World) (timed : TimedCall Token) : Decidable (Unforged c w timed) := by
  rw [Unforged]
  split
  · split <;> infer_instance
  all_goals infer_instance

/-! ## What a request is accepted for -/

/-- The organization is neither suspended nor deletion-requested. -/
def Live (db : Database) (organizationId : UUID) : Prop :=
  ∀ org, db.organizations.find? organizationId = some org →
    org.status ≠ OrganizationStatus.suspended ∧ org.deletedAt = none

/-- The user is active, the organization live, and the roles are those of the user. -/
structure Entitled (db : Database) (userId organizationId : UUID) (roles : List String) : Prop where
  active : ∃ user, db.users.find? userId = some user ∧ user.isActive = true ∧
    user.organizationId = organizationId
  live : Live db organizationId
  roles : roles = rolesForUser db userId

/-- A moment of the history, at most one access-token lifetime before `now`. -/
def Recent (w : World) (now : DateTime) (moment : DateTime × Database) : Prop :=
  moment ∈ w.past ∧ moment.1 ≤ now ∧ now ≤ moment.1 + c.settings.accessLifetime

/-- What holds of an accepted request. -/
structure Justified (w : World) (a : Acceptance) : Prop where
  /-- The organization is live when the request is made. -/
  live : Live a.db a.user.organizationId
  /-- Within one lifetime before, the account had what the request is made with. -/
  entitled : ∃ moment, Recent c w a.time moment ∧
    Entitled moment.2 a.user.id a.user.organizationId a.user.roles
  /-- A permission that the user had at no moment of the last lifetime is refused. -/
  refused : ∀ permission, (∀ moment, Recent c w a.time moment →
      permission ∉ permissionsForRoles (rolesForUser moment.2 a.user.id)) →
    ∃ e, requirePermission permission a.user = .error e

def RolesHaveUsers (db : Database) : Prop :=
  ∀ r ∈ db.userRoles.rows, ∃ user ∈ db.users.rows, user.id = r.userId

section Calls

variable {db db' : Database} {user : User} {roles : List String} {now : DateTime}

variable {organizationId : UUID} {ctx : PasswordContext} {ids : RegistrationIds}

theorem requireLive_eq_ok {u : Unit} :
    requireLive db organizationId = .ok u ↔ Live db organizationId := by
  rw [requireLive, Live]
  cases db.organizations.find? organizationId with
  | none => exact iff_of_true rfl nofun
  | some org =>
    constructor
    · rintro h _ ⟨⟩
      obtain ⟨_, hstatus, h⟩ := bind_eq_ok.1 h
      rw [raiseIf_eq_ok] at hstatus
      rw [raiseIf_eq_ok, Option.isSome_iff_ne_none, not_not] at h
      exact ⟨hstatus, h⟩
    · intro h
      obtain ⟨hstatus, hdeleted⟩ := h org rfl
      refine bind_eq_ok.2 ⟨(), raiseIf_eq_ok.2 hstatus, raiseIf_eq_ok.2 ?_⟩
      rw [hdeleted]
      exact Bool.false_ne_true

theorem find?_of_scalarOneOrNone {p : User → Bool}
    (h : scalarOneOrNone (db.users.select p) = .ok (some user)) :
    db.users.find? user.id = some user := by
  have hmem : user ∈ db.users.select p := by
    rw [scalarOneOrNone_eq_some h]
    exact List.mem_singleton_self user
  exact Table.find?_eq_some.2 ⟨(Table.mem_select.1 hmem).1, rfl⟩

/-- **LOGIN**: the tokens are for what the account has. -/
theorem authenticate_spec {email password : String}
    (h : authenticate ctx db email password = .ok (db', user, roles)) :
    db'.users = db.users ∧ db'.userRoles = db.userRoles ∧
      Entitled db' user.id user.organizationId roles := by
  obtain ⟨found, hfound, h⟩ := bind_eq_ok.1 h
  cases found with
  | none => cases h
  | some found =>
    obtain ⟨_, hcheck, h⟩ := bind_eq_ok.1 h
    obtain ⟨_, hlive, h⟩ := bind_eq_ok.1 h
    cases h
    rw [raiseIf_eq_ok, not_or, Bool.not_eq_false] at hcheck
    exact ⟨rfl, rfl, ⟨user, find?_of_scalarOneOrNone hfound, hcheck.1, rfl⟩,
      requireLive_eq_ok.1 hlive, rfl⟩

/-- **REFRESH**: the tokens are for what the account has now, whatever the old token says. -/
theorem refreshAccessToken_spec {jwt : Jwt Token} {token : Token}
    (h : refreshAccessToken jwt db now token = .ok (user, roles)) :
    Entitled db user.id user.organizationId roles := by
  rw [refreshAccessToken] at h
  cases hdecode : jwt.decode now token with
  | none =>
    rw [hdecode] at h
    cases h
  | some payload =>
    rw [hdecode] at h
    obtain ⟨_, _, h⟩ := bind_eq_ok.1 h
    cases hfound : db.users.find? payload.sub with
    | none =>
      rw [hfound] at h
      cases h
    | some found =>
      rw [hfound] at h
      obtain ⟨_, hactive, h⟩ := bind_eq_ok.1 h
      obtain ⟨_, hlive, h⟩ := bind_eq_ok.1 h
      cases h
      rw [raiseIf_eq_ok, Bool.not_eq_false] at hactive
      have hid : user.id = payload.sub := (Table.find?_eq_some.1 hfound).2
      exact ⟨⟨user, by rw [hid, hfound], hactive, rfl⟩, requireLive_eq_ok.1 hlive, rfl⟩

theorem getOrCreateDefaultPlan_frame {plan : Plan}
    (h : getOrCreateDefaultPlan db ids = .ok (db', plan)) :
    db'.organizations = db.organizations ∧ db'.users = db.users ∧ db'.userRoles = db.userRoles := by
  obtain ⟨found, _, h⟩ := bind_eq_ok.1 h
  cases found with
  | some found =>
    cases h
    exact ⟨rfl, rfl, rfl⟩
  | none =>
    obtain ⟨_, _, h⟩ := bind_eq_ok.1 h
    obtain ⟨_, _, h⟩ := bind_eq_ok.1 h
    cases h
    exact ⟨rfl, rfl, rfl⟩

theorem rolesForUser_of_added {users : Table User} {userRoles : Table UserRole} {role : String}
    (hroles : RolesHaveUsers db) (huser : addRow db.users user = .ok users)
    (hrole : addRow db.userRoles ⟨user.id, role, organizationId⟩ = .ok userRoles) :
    (userRoles.select fun r => r.userId = user.id).map UserRole.roleName = [role] := by
  obtain ⟨hfresh, _⟩ := Table.insert?_eq_some (addRowOrRaise_eq_ok.1 huser)
  have hnew : [(⟨user.id, role, organizationId⟩ : UserRole)].filter (fun r => r.userId = user.id)
      = [⟨user.id, role, organizationId⟩] := by simp
  rw [Table.select_insert? (addRowOrRaise_eq_ok.1 hrole), hnew]
  have hnone : db.userRoles.select (fun r => r.userId = user.id) = [] := by
    refine List.filter_eq_nil_iff.2 fun r hr hmatch => ?_
    obtain ⟨other, hother, hid⟩ := hroles r hr
    exact hfresh (List.mem_map.2 ⟨other, hother, hid.trans (of_decide_eq_true hmatch)⟩)
  rw [hnone]
  rfl

/-- **REGISTRATION**: the first tokens are for the new administrator. -/
theorem registerOrganization_spec {payload : RegisterOrganizationRequest}
    (hroles : RolesHaveUsers db)
    (h : registerOrganization ctx db now ids payload = .ok (db', user)) :
    RolesHaveUsers db' ∧ Entitled db' user.id user.organizationId ["ORG_ADMIN"] := by
  obtain ⟨_, _, h⟩ := bind_eq_ok.1 h
  obtain ⟨_, _, h⟩ := bind_eq_ok.1 h
  obtain ⟨organizations, horg, h⟩ := bind_eq_ok.1 h
  obtain ⟨users, huser, h⟩ := bind_eq_ok.1 h
  obtain ⟨userRoles, hrole, h⟩ := bind_eq_ok.1 h
  obtain ⟨⟨db₁, plan⟩, hplan, h⟩ := bind_eq_ok.1 h
  obtain ⟨subscriptions, _, h⟩ := bind_eq_ok.1 h
  cases h
  obtain ⟨hsameOrganizations, hsameUsers, hsameRoles⟩ :
      db₁.organizations = organizations ∧ db₁.users = users ∧ db₁.userRoles = userRoles :=
    getOrCreateDefaultPlan_frame hplan
  have huserRow := addRowOrRaise_eq_ok.1 huser
  have hroleRow := addRowOrRaise_eq_ok.1 hrole
  refine ⟨?_, ?_, ?_, ?_⟩
  · intro r hr
    show ∃ user ∈ db₁.users.rows, _
    rw [hsameUsers]
    have hr : r ∈ userRoles.rows := hsameRoles ▸ hr
    rcases (Table.mem_insert? hroleRow).1 hr with hr | rfl
    · obtain ⟨other, hother, hid⟩ := hroles r hr
      exact ⟨other, (Table.mem_insert? huserRow).2 (Or.inl hother), hid⟩
    · exact ⟨_, (Table.mem_insert? huserRow).2 (Or.inr rfl), rfl⟩
  · refine ⟨_, ?_, rfl, rfl⟩
    show db₁.users.find? _ = _
    rw [hsameUsers]
    exact Table.find?_eq_some.2 ⟨(Table.mem_insert? huserRow).2 (Or.inr rfl), rfl⟩
  · intro org hfind
    have hfind : db₁.organizations.find? ids.organizationId = some org := hfind
    have hnew := Table.find?_insert? (addRowOrRaise_eq_ok.1 horg) ids.organizationId
    rw [hsameOrganizations, hnew, if_pos (by rfl)] at hfind
    cases hfind
    have hactive : OrganizationStatus.active ≠ OrganizationStatus.suspended := by decide
    exact ⟨hactive, rfl⟩
  · show _ = (db₁.userRoles.select _).map _
    rw [hsameRoles]
    exact (rolesForUser_of_added hroles huser hrole).symm

theorem rolesHaveUsers_writeUserRoles {organizationId actorUserId userId : UUID}
    (hroles : RolesHaveUsers db)
    (h : writeUserRoles db organizationId actorUserId userId roles = .ok db') :
    RolesHaveUsers db' := by
  obtain ⟨member, hmember, _⟩ := bind_eq_ok.1 h
  obtain ⟨hmem, hid, _⟩ := memberOrRaise_eq_ok hmember
  obtain ⟨husers, hrows⟩ := TenantService.writeUserRoles_rows h
  intro r hr
  rw [husers]
  rw [hrows, List.mem_append] at hr
  rcases hr with hr | hr
  · exact hroles r (TenantService.mem_others.1 hr).1
  · obtain ⟨_, huser, _⟩ := TenantService.mem_assigned.1 hr
    exact ⟨member, hmem, hid.trans huser.symm⟩

theorem rolesHaveUsers_writeUserStatus {organizationId actorUserId userId : UUID} {isActive : Bool}
    (hroles : RolesHaveUsers db)
    (h : writeUserStatus db organizationId actorUserId userId isActive = .ok db') :
    RolesHaveUsers db' := by
  obtain ⟨member, hmember, h⟩ := bind_eq_ok.1 h
  obtain ⟨hmem, _, _⟩ := memberOrRaise_eq_ok hmember
  obtain ⟨_, _, h⟩ := bind_eq_ok.1 h
  cases h
  intro r hr
  obtain ⟨other, hother, hid⟩ := hroles r hr
  rcases Table.kept_or_replaced (r := { member with isActive := isActive }) hmem rfl hother with
    hkept | ⟨rfl, hnew⟩
  · exact ⟨other, hkept, hid⟩
  · exact ⟨_, hnew, hid⟩

end Calls

/-! ## Runs -/

variable {c} {w w' : World} {now now' : DateTime}

/-- The moment that an access token stands for. -/
structure Stands (c : Setting Token) (now : DateTime) (w : World) (p : TokenPayload) : Prop where
  before : p.iat ≤ now
  exp : p.exp = p.iat + c.settings.accessLifetime
  entitled : ∃ db, (p.iat, db) ∈ w.past ∧ Entitled db p.sub p.organizationId p.roles

/-- What holds after calls that were made up to `now`. -/
structure Sound (c : Setting Token) (now : DateTime) (w : World) : Prop where
  roles : RolesHaveUsers w.db
  issued : ∀ p ∈ w.issued, p.type = "access" → Stands c now w p
  accepted : ∀ a ∈ w.accepted, Justified c w a

theorem Stands.mono {p : TokenPayload} (h : Stands c now w p) (hle : now ≤ now')
    (hpast : ∀ moment ∈ w.past, moment ∈ w'.past) : Stands c now' w' p where
  before := le_trans h.before hle
  exp := h.exp
  entitled := by
    obtain ⟨db, hmem, hentitled⟩ := h.entitled
    exact ⟨db, hpast _ hmem, hentitled⟩

theorem Justified.mono {a : Acceptance} (h : Justified c w a)
    (hpast : ∀ moment ∈ w.past, moment ∈ w'.past) : Justified c w' a where
  live := h.live
  entitled := by
    obtain ⟨moment, ⟨hmem, hrecent⟩, hentitled⟩ := h.entitled
    exact ⟨moment, ⟨hpast _ hmem, hrecent⟩, hentitled⟩
  refused := by
    intro permission hnever
    refine h.refused permission fun moment ⟨hmem, hrecent⟩ => ?_
    exact hnever moment ⟨hpast _ hmem, hrecent⟩

theorem Sound.later (h : Sound c now w) (hle : now ≤ now') : Sound c now' w where
  roles := h.roles
  issued := fun p hp htype => (h.issued p hp htype).mono hle fun _ hm => hm
  accepted := h.accepted

theorem mem_past_after {moment : DateTime × Database} (db : Database) (hm : moment ∈ w.past) :
    moment ∈ (w.after now db).past := List.mem_append_left _ hm

theorem Sound.after (h : Sound c now w) {db : Database} (hroles : RolesHaveUsers db) :
    Sound c now (w.after now db) where
  roles := hroles
  issued := fun p hp htype => (h.issued p hp htype).mono le_rfl fun _ => mem_past_after db
  accepted := fun a ha => (h.accepted a ha).mono fun _ => mem_past_after db

theorem Sound.issue (h : Sound c now w) {db : Database} (hroles : RolesHaveUsers db) {user : User}
    {roles : List String} (hentitled : Entitled db user.id user.organizationId roles)
    (tokens : TokenIds) : Sound c now (w.issue c now db user roles tokens) where
  roles := hroles
  issued := by
    intro p hp htype
    rcases List.mem_append.1 hp with hp | hp
    · exact (h.issued p hp htype).mono le_rfl fun _ => mem_past_after db
    · rcases List.mem_pair.1 hp with rfl | rfl
      · exact ⟨le_rfl, rfl, db, List.mem_append_right _ (List.mem_singleton_self _), hentitled⟩
      · -- a refresh token is not an access token
        have hne : "refresh" ≠ "access" := by decide
        exact absurd htype hne
  accepted := fun a ha => (h.accepted a ha).mono fun _ => mem_past_after db

/-- **REQUEST**: an access token that was signed is good for one lifetime from the moment it stands
for. -/
theorem justified_of_accepted (h : Sound c now w) {credentials : Option Token} {user : CurrentUser}
    (hok : getCurrentUser c.jwt w.db now credentials = .ok user)
    (hunforged : Unforged c w ⟨now, .request credentials⟩) : Justified c w ⟨now, w.db, user⟩ := by
  cases credentials with
  | none => cases hok
  | some token =>
    rw [getCurrentUser] at hok
    rw [Unforged] at hunforged
    cases hdecode : c.jwt.decode now token with
    | none =>
      rw [hdecode] at hok
      cases hok
    | some payload =>
      rw [hdecode] at hok
      have hissued : payload ∈ w.issued := by simpa only [hdecode] using hunforged
      obtain ⟨_, htype, hok⟩ := bind_eq_ok.1 hok
      obtain ⟨_, hlive, hok⟩ := bind_eq_ok.1 hok
      cases hok
      rw [raiseIf_eq_ok, not_not] at htype
      have hstands := h.issued payload hissued htype
      obtain ⟨db, hmem, hentitled⟩ := hstands.entitled
      have hexp : now ≤ payload.iat + c.settings.accessLifetime := by
        rw [← hstands.exp]
        exact c.jwt.decode_exp now token payload hdecode
      have hrecent : Recent c w now (payload.iat, db) := ⟨hmem, hstands.before, hexp⟩
      refine ⟨requireLive_eq_ok.1 hlive, ⟨_, hrecent, hentitled⟩, ?_⟩
      intro permission hnever
      have hnot : permission ∉ permissionsForRoles payload.roles := by
        rw [hentitled.roles]
        exact hnever _ hrecent
      exact ⟨_, by rw [requirePermission, raiseIf, if_pos hnot]; rfl⟩

/-- **ONE CALL** keeps it all. -/
theorem step_sound {timed : TimedCall Token} (h : Sound c timed.time w)
    (hunforged : Unforged c w timed) (hstep : step c w timed = .ok w') :
    Sound c timed.time w' := by
  obtain ⟨now, call⟩ := timed
  cases call with
  | register ids payload tokens =>
    obtain ⟨⟨db, user⟩, hcall, hstep⟩ := bind_eq_ok.1 hstep
    cases hstep
    obtain ⟨hroles, hentitled⟩ := registerOrganization_spec h.roles hcall
    exact h.issue hroles hentitled tokens
  | login email password tokens =>
    obtain ⟨⟨db, user, roles⟩, hcall, hstep⟩ := bind_eq_ok.1 hstep
    cases hstep
    obtain ⟨husers, huserRoles, hentitled⟩ := authenticate_spec hcall
    have hroles : RolesHaveUsers db := by
      rw [RolesHaveUsers, husers, huserRoles]
      exact h.roles
    exact h.issue hroles hentitled tokens
  | refresh refreshToken tokens =>
    obtain ⟨⟨user, roles⟩, hcall, hstep⟩ := bind_eq_ok.1 hstep
    cases hstep
    exact h.issue h.roles (refreshAccessToken_spec hcall) tokens
  | updateRoles organizationId actor userId roles =>
    obtain ⟨db, hcall, hstep⟩ := bind_eq_ok.1 hstep
    cases hstep
    exact h.after (rolesHaveUsers_writeUserRoles h.roles hcall)
  | updateStatus organizationId actor userId isActive =>
    obtain ⟨db, hcall, hstep⟩ := bind_eq_ok.1 hstep
    cases hstep
    exact h.after (rolesHaveUsers_writeUserStatus h.roles hcall)
  | setOrganizationStatus actor organizationId status =>
    obtain ⟨⟨db, org⟩, hcall, hstep⟩ := bind_eq_ok.1 hstep
    cases hstep
    obtain ⟨_, _, hcall⟩ := bind_eq_ok.1 hcall
    cases hcall
    exact h.after h.roles
  | requestDeletion actor organizationId reason =>
    obtain ⟨⟨db, org⟩, hcall, hstep⟩ := bind_eq_ok.1 hstep
    cases hstep
    obtain ⟨_, _, hcall⟩ := bind_eq_ok.1 hcall
    obtain ⟨_, _, hcall⟩ := bind_eq_ok.1 hcall
    cases hcall
    exact h.after h.roles
  | restore actor organizationId =>
    obtain ⟨db, hcall, hstep⟩ := bind_eq_ok.1 hstep
    cases hstep
    obtain ⟨_, _, hcall⟩ := bind_eq_ok.1 hcall
    obtain ⟨_, _, hcall⟩ := bind_eq_ok.1 hcall
    cases hcall
    exact h.after h.roles
  | request credentials =>
    obtain ⟨user, hcall, hstep⟩ := bind_eq_ok.1 hstep
    cases hstep
    exact {
      roles := h.roles
      issued := fun p hp htype => (h.issued p hp htype).mono le_rfl fun _ => mem_past_after w.db
      accepted := by
        intro a ha
        rcases List.mem_append.1 ha with ha | ha
        · exact (h.accepted a ha).mono fun _ => mem_past_after w.db
        · rw [List.mem_singleton.1 ha]
          exact (justified_of_accepted h hcall hunforged).mono fun _ => mem_past_after w.db }

/-- **ACCESS FOLLOWS THE ACCOUNT**: every request that is accepted finds its organization live, and
is made with roles that an active account of a live organization had at most one access-token
lifetime before; so a permission that the account has not had since is refused. -/
theorem access_follows_account (c : Setting Token) (db : Database) (hroles : RolesHaveUsers db)
    (calls : List (TimedCall Token))
    (hclock : (calls.map TimedCall.time).Pairwise (· ≤ ·))
    (hunforged : Runs.StepsMeet (step c) (Unforged c) { db } calls) :
    ∀ w ∈ states c db calls, ∀ a ∈ w.accepted, Justified c w a := by
  have hstart : ∀ now, Sound c now { db } := fun now => ⟨hroles, nofun, nofun⟩
  have hrun := (Runs.visited_timed_of_start (R := fun _ _ => True) TimedCall.time (fun _ => trivial)
    (fun _ _ _ _ _ => trivial) (fun _ _ _ hle h => h.later hle)
    (fun w timed w' h hok hstep => ⟨step_sound h hok hstep, trivial⟩) hstart hclock hunforged).1
  intro w hw a ha
  obtain ⟨_, now, hsound⟩ := hrun w hw
  exact hsound.accepted a ha

/-- A tenant with one viewer. -/
def twoAccounts : Database where
  organizations := Table.single { id := 1 }
  users := Table.single { id := 2, organizationId := 1, email := "a@b.c", hashedPassword := "pw" }
  userRoles := Table.single ⟨2, "VIEWER", 1⟩

theorem twoAccounts_rolesHaveUsers : RolesHaveUsers twoAccounts := by
  intro r hr
  obtain rfl := List.mem_singleton.1 hr
  exact ⟨_, List.mem_singleton_self _, rfl⟩

/-- Tokens of half an hour and of a week. -/
def halfAnHour : Setting TokenPayload where
  passwords := .plain
  unicode := .ascii
  jwt := .plain
  settings := ⟨30, 7⟩

/-- The token of the login below. -/
def viewerToken : TokenPayload :=
  accessPayload halfAnHour.settings 0 10
    { id := 2, organizationId := 1, email := "a@b.c", hashedPassword := "pw" } ["VIEWER"]

/-- A login, a role change, and a request with the old token. -/
def roleChanged : List (TimedCall TokenPayload) :=
  [⟨0, .login "a@b.c" "pw" ⟨10, 11⟩⟩, ⟨oneMinute, .updateRoles 1 9 2 ["MAINTENANCE_ENGINEER"]⟩,
    ⟨2 * oneMinute, .request (some viewerToken)⟩]

theorem roleChanged_follows_account :
    (∀ w ∈ states halfAnHour twoAccounts roleChanged, ∀ a ∈ w.accepted, Justified halfAnHour w a) ∧
    ∃ w ∈ states halfAnHour twoAccounts roleChanged,
      w.accepted.map (fun a => a.user.roles) = [["VIEWER"]] ∧
      rolesForUser w.db 2 = ["MAINTENANCE_ENGINEER"] := by
  refine ⟨access_follows_account halfAnHour twoAccounts twoAccounts_rolesHaveUsers roleChanged
    (by decide) (by decide), ?_⟩
  exact ⟨_, List.getLast_mem (List.cons_ne_nil _ _), by decide, by decide⟩

end AccessRuns
end AeroComply
