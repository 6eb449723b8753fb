import AeroComply.Services.LimitEnforcement
import AeroComply.Services.Subscription

/-!
# LostSubscription — the ceilings of a tenant without a plan

A tenant loses its plan when its subscription runs out or is canceled, when a
platform administrator suspends it (`platform_service.set_organization_status`),
and when it asks to be deleted (`deletion_service.request_organization_deletion`).
The resolver then reports no limits, and the checks of
`limit_enforcement_service` read a limit that is not reported as no ceiling.

`lost_keeps_refusals_iff` says where a loss leaves every refusal in place: where
there was nothing to refuse.
-/

namespace AeroComply

open Relational (Keyed Table)

namespace PlatformService

open TenantEntitlementAdminService (requireOrganization)

/-- `set_organization_status`; the callers pass the constants of `OrganizationStatus`. -/
def setOrganizationStatus (db : Database) (actorUserId : Option UUID) (organizationId : UUID)
    (status : String) : Except Error (Database × Organization) := do
  let org ← requireOrganization db organizationId
  let updated := { org with status }
  pure (({ db with organizations := db.organizations.save updated }).recordAuditEvent org.id
    actorUserId s!"platform.organization.{status.toLower}" "Organization" (some org.id), updated)

end PlatformService

namespace DeletionService

open TenantEntitlementAdminService (requireOrganization)

def requestOrganizationDeletion (u : UnicodeTables) (db : Database) (now : DateTime)
    (organizationId : UUID) (actorUserId : Option UUID) (reason : Option String) :
    Except Error (Database × Organization) := do
  let org ← requireOrganization db organizationId
  raiseIf (org.deletedAt.isSome = true)
    (.conflict "Organization deletion has already been requested" "already_deleted")
  let updated := { org with
    deletedAt := some now
    deletedBy := actorUserId
    deletionReason := u.stripOrNone reason }
  pure (({ db with organizations := db.organizations.save updated }).recordAuditEvent
    organizationId actorUserId "organization.deletion_requested" "Organization" (some org.id),
    updated)

end DeletionService

namespace LimitEnforcementService

open EntitlementService (currentSubscriptions isCurrent planInForce)
open SubscriptionService (cancelSubscription getSubscription_eq_ok currentAt
  currentSubscriptions_eq)
open TenantEntitlementAdminService (requireOrganization)
open PlatformService (setOrganizationStatus)
open DeletionService (requestOrganizationDeletion)

/-- The ways an organization loses its current subscription `sub`: the database and the
instant at which it is without. -/
inductive Lost (u : UnicodeTables) (db : Database) (org : UUID) (now : DateTime)
    (sub : Subscription) : Database → DateTime → Prop
  | expired (later : DateTime) (hend : ∃ endsAt, sub.endsAt = some endsAt ∧ endsAt ≤ later)
      (hnone : currentSubscriptions db org later = []) : Lost u db org now sub db later
  | canceled {db' : Database} {canceled : Subscription} (actor : Option UUID)
      (h : cancelSubscription db actor sub.id = .ok (db', canceled)) : Lost u db org now sub db' now
  | suspended {db' : Database} {suspended : Organization} (actor : Option UUID)
      (h : setOrganizationStatus db actor org OrganizationStatus.suspended = .ok (db', suspended)) :
      Lost u db org now sub db' now
  | softDeleted {db' : Database} {deleted : Organization} (actor : Option UUID)
      (reason : Option String)
      (h : requestOrganizationDeletion u db now org actor reason = .ok (db', deleted)) :
      Lost u db org now sub db' now

section Losses

variable {u : UnicodeTables} {db db' : Database} {org : UUID} {now later : DateTime}
  {sub : Subscription}

variable {organization : Organization} {creation : Creation}

theorem requireOrganization_eq_ok :
    requireOrganization db org = .ok organization ↔
      db.organizations.find? org = some organization := by
  rw [requireOrganization]
  cases db.organizations.find? org with
  | none => exact ⟨fun h => (nomatch h), fun h => (nomatch h)⟩
  | some o =>
    constructor
    · intro h
      cases h
      rfl
    · intro h
      cases h
      rfl

theorem planInForce_of_no_current (h : currentSubscriptions db org now = []) :
    planInForce db org now = none := by
  rw [planInForce]
  cases db.organizations.find? org with
  | none => rfl
  | some organization =>
    dsimp only
    rw [h]
    split
    · rfl
    · split
      · rfl
      · rfl

theorem current_of_planInForce {plan : Plan} (h : planInForce db org now = some plan) :
    ∃ s, currentSubscriptions db org now = [s] := by
  rw [planInForce] at h
  cases ho : db.organizations.find? org with
  | none =>
    rw [ho] at h
    cases h
  | some organization =>
    rw [ho] at h
    dsimp only at h
    split at h
    · cases h
    · split at h
      · cases h
      · split at h
        · next s hs => exact ⟨s, hs⟩
        · cases h

theorem planInForce_of_refused (ho : db.organizations.find? org = some organization)
    (h : organization.status = OrganizationStatus.suspended ∨ organization.deletedAt.isSome = true) :
    planInForce db org now = none := by
  rw [planInForce, ho]
  dsimp only
  rcases h with hstatus | hdeleted
  · rw [if_pos hstatus]
  · rw [if_pos hdeleted]
    split
    · rfl
    · rfl

theorem mem_currentSubscriptions {s : Subscription} :
    s ∈ currentSubscriptions db org now ↔
      s ∈ db.subscriptions.rows ∧ s.organizationId = org ∧ isCurrent now s = true := by
  rw [currentSubscriptions_eq, currentAt, Table.mem_select, Bool.and_eq_true, decide_eq_true_eq]

theorem no_current_of_cancel {canceled : Subscription} {actor : Option UUID}
    (h : cancelSubscription db actor sub.id = .ok (db', canceled))
    (hone : currentSubscriptions db org now = [sub]) : currentSubscriptions db' org now = [] := by
  obtain ⟨hmem, _, hcur⟩ := mem_currentSubscriptions.1 (hone ▸ List.mem_singleton_self sub)
  obtain ⟨stored, hget, hrest⟩ := bind_eq_ok.1 h
  obtain ⟨_, _, hwrite⟩ := bind_eq_ok.1 hrest
  have hstored : stored = sub := by
    have hfound := Table.find?_eq_some.1 (getSubscription_eq_ok.1 hget)
    exact Table.eq_of_key_eq hfound.1 hmem hfound.2
  subst hstored
  split at hwrite
  · next hcanceled =>
    rw [isCurrent, hcanceled] at hcur
    cases hcur
  · rw [pure_eq_ok] at hwrite
    obtain ⟨rfl, rfl⟩ := Prod.mk.inj hwrite
    -- what is current now was current before, under another key
    refine List.eq_nil_iff_forall_not_mem.2 fun s hs => ?_
    obtain ⟨hsave, horg, hscur⟩ := mem_currentSubscriptions.1 hs
    let canceled := { stored with status := SubscriptionStatus.canceled }
    have hkey : Keyed.key stored = Keyed.key canceled := rfl
    rcases (Table.mem_save_of_mem hmem hkey).1 hsave with ⟨hold, hne⟩ | rfl
    · have hbefore : s ∈ currentSubscriptions db org now :=
        mem_currentSubscriptions.2 ⟨hold, horg, hscur⟩
      rw [hone, List.mem_singleton] at hbefore
      have hid : s.id = stored.id := congrArg Subscription.id hbefore
      exact hne hid
    · cases hscur

theorem find?_setOrganization {organization updated : Organization}
    (ho : requireOrganization db org = .ok organization) (hid : updated.id = organization.id) :
    (db.organizations.save updated).find? org = some updated := by
  have hfound := Table.find?_eq_some.1 (requireOrganization_eq_ok.1 ho)
  have hkey : Keyed.key organization = Keyed.key updated := hid.symm
  rw [Table.find?_save hfound.1 hkey, if_pos (hkey.symm.trans hfound.2)]

/-- **LOSS**: however the one current subscription is lost, no plan is in force after. -/
theorem Lost.no_plan (hone : currentSubscriptions db org now = [sub])
    (h : Lost u db org now sub db' later) : planInForce db' org later = none := by
  cases h with
  | expired later hend hnone => exact planInForce_of_no_current hnone
  | canceled actor h => exact planInForce_of_no_current (no_current_of_cancel h hone)
  | suspended actor h =>
    obtain ⟨organization, ho, h⟩ := bind_eq_ok.1 h
    rw [pure_eq_ok] at h
    obtain ⟨rfl, rfl⟩ := Prod.mk.inj h
    exact planInForce_of_refused (find?_setOrganization ho rfl) (Or.inl rfl)
  | softDeleted actor reason h =>
    obtain ⟨organization, ho, h⟩ := bind_eq_ok.1 h
    obtain ⟨_, _, h⟩ := bind_eq_ok.1 h
    rw [pure_eq_ok] at h
    obtain ⟨rfl, rfl⟩ := Prod.mk.inj h
    exact planInForce_of_refused (find?_setOrganization ho rfl) (Or.inr rfl)

theorem checkCreation_of_no_plan (h : planInForce db org now = none) :
    checkCreation db org now creation = .ok () := by
  rw [checkCreation_eq_ok, ceilingInForce, h]
  exact WithTop.coe_lt_top _

/-- The check of `creation` refuses. -/
def Refuses (db : Database) (org : UUID) (now : DateTime) (creation : Creation) : Prop :=
  ∃ e, checkCreation db org now creation = .error e

theorem refuses_iff : Refuses db org now creation ↔
    ceilingInForce db org now creation.limitKey
      ≤ ((usageCount db org now creation : Int) : WithTop Int) := by
  rw [← not_lt, ← checkCreation_eq_ok (x := ())]
  cases h : checkCreation db org now creation with
  | ok x =>
    constructor
    · rintro ⟨_, he⟩
      rw [h] at he
      cases he
    · intro hne
      exact absurd rfl hne
  | error e => exact ⟨fun _ he => (nomatch he), fun _ => ⟨e, h⟩⟩

/-- **LOST PLANS**: an organization that loses its current subscription is still refused
what it was refused exactly when what it used was below the ceiling in force, that is,
when nothing was refused. -/
theorem lost_keeps_refusals_iff {creation : Creation}
    (hcurrent : sub ∈ currentSubscriptions db org now)
    (hlost : Lost u db org now sub db' later) :
    (Refuses db org now creation → Refuses db' org later creation) ↔
      ((usageCount db org now creation : Int) : WithTop Int)
        < ceilingInForce db org now creation.limitKey := by
  constructor
  · intro h
    by_contra hreached
    have hrefused : Refuses db org now creation := refuses_iff.2 (not_lt.1 hreached)
    -- a refusal comes from a plan in force, so from one current subscription: the lost one
    obtain ⟨plan, hplan⟩ : ∃ plan, planInForce db org now = some plan := by
      cases hp : planInForce db org now with
      | some plan => exact ⟨plan, rfl⟩
      | none =>
        rw [Refuses, checkCreation_of_no_plan hp] at hrefused
        obtain ⟨_, he⟩ := hrefused
        cases he
    obtain ⟨s, hs⟩ := current_of_planInForce hplan
    have hsub : sub = s := List.mem_singleton.1 (hs ▸ hcurrent)
    obtain ⟨_, he⟩ := h hrefused
    rw [checkCreation_of_no_plan (hlost.no_plan (hsub ▸ hs))] at he
    cases he
  · intro hbelow hrefused
    exact absurd hbelow (not_lt.2 (refuses_iff.1 hrefused))

end Losses

/-- A tenant on a plan for one asset, which it has. -/
def oneAssetTenant : Database where
  organizations := .single { id := 1 }
  plans := .single { id := 2, code := "BASIC" }
  planLimits := .single { id := 3, planId := 2, limitKey := "max_assets", limitValue := some 1 }
  subscriptions :=
    .single { id := 4, organizationId := 1, planId := 2, status := .active, startsAt := 0 }
  assets := .single { id := 5, organizationId := 1 }

def basicSubscription : Subscription :=
  { id := 4, organizationId := 1, planId := 2, status := .active, startsAt := 0 }

/-- The subscription is canceled, and a second asset is let through. -/
def canceledTenant : Database :=
  ({ oneAssetTenant with subscriptions := .single { basicSubscription with status := .canceled } }
    ).recordAuditEvent 1 none "platform.subscription.canceled" "Subscription" (some 4)

theorem canceled_lost (u : UnicodeTables) :
    Lost u oneAssetTenant 1 0 basicSubscription canceledTenant 0 :=
  .canceled none (by rfl)

/-- The tenant is refused a second asset, loses its subscription, and is refused no longer. -/
theorem canceled_loosens_ceiling :
    ¬∀ (db db' : Database) (org : UUID) (now later : DateTime) (sub : Subscription)
      (organization : Organization) (creation : Creation),
      db.organizations.find? org = some organization →
      organization.status = OrganizationStatus.active → organization.deletedAt = none →
      sub ∈ currentSubscriptions db org now → Lost .ascii db org now sub db' later →
      usageCount db' org later creation = usageCount db org now creation →
      Refuses db org now creation → Refuses db' org later creation := by
  intro h
  obtain ⟨_, he⟩ := h oneAssetTenant canceledTenant 1 0 0 basicSubscription { id := 1 } .asset
    rfl rfl rfl (List.mem_singleton_self _) (canceled_lost _) rfl ⟨_, rfl⟩
  cases he

theorem canceled_keeps_seats :
    (Refuses oneAssetTenant 1 0 .user → Refuses canceledTenant 1 0 .user) ↔
      ((usageCount oneAssetTenant 1 0 .user : Int) : WithTop Int)
        < ceilingInForce oneAssetTenant 1 0 Creation.user.limitKey :=
  lost_keeps_refusals_iff (List.mem_singleton_self _) (canceled_lost .ascii)

end LimitEnforcementService
end AeroComply
