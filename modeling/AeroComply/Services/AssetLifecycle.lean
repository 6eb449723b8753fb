import AeroComply.Lib.Runs
import AeroComply.Services.LimitEnforcement

/-!
# AssetLifecycle — creating, deleting and restoring assets

`create_asset` of `app/services/asset_service.py`, `create_drone` of
`drone_service.py`, `soft_delete_asset` of `deletion_service.py` and
`restore_asset` of `restoration_service.py`.  A deletion only marks the row; a
restoration takes the mark off again, whatever the tenant has created since.

`live_within_ceiling_iff` says which runs stay below the ceiling of a plan: the
ones in which every restoration does.
-/

namespace AeroComply

open Relational (Table)

namespace AssetService

open LimitEnforcementService (checkAssetCreationLimit)

/-- The texts fit the columns of `assets`. -/
def columnsFit (a : Asset) : Bool :=
  let fits (width : Nat) (s : Option String) : Bool := s.all fun s => s.length ≤ width
  fits 32 (some a.assetType) && fits 16 a.registration && fits 128 a.manufacturer &&
    fits 128 a.model && fits 128 a.serialNumber && fits 32 (some a.status)

/-- Two assets of an organization do not share a registration. -/
def registrationTaken (db : Database) (a : Asset) : Bool :=
  a.registration.isSome && db.assets.rows.any fun x =>
    x.organizationId = a.organizationId && x.registration = a.registration

/-- `db.add(asset)` and `db.flush()`. -/
def addAsset (db : Database) (a : Asset) : Except Error (Table Asset) := do
  raiseIf (columnsFit a = false) .dataError
  raiseIf (registrationTaken db a = true) .integrity
  raiseIf (a.facilityId.any (fun id => (db.facilities.find? id).isNone) = true) .integrity
  addRow db.assets a

/-- The assets of the organization under a registration, deleted ones included. -/
def withRegistration (db : Database) (organizationId : UUID) (registration : String) :
    List Asset :=
  db.assets.select fun a => a.organizationId = organizationId && a.registration = some registration

structure AssetCreateRequest where
  assetType : String
  registration : String
  manufacturer : Option String := none
  model : Option String := none
  serialNumber : Option String := none
  facilityId : Option UUID := none
  status : String := "ACTIVE"

def createAsset (u : UnicodeTables) (db : Database) (newId : UUID) (now : DateTime)
    (organizationId : UUID) (actorUserId : Option UUID) (payload : AssetCreateRequest) :
    Except Error (Database × Asset) := do
  checkAssetCreationLimit db organizationId now
  let registration := String.ofList (u.normalize payload.registration)
  let existing ← scalarOneOrNone (withRegistration db organizationId registration)
  raiseIf (existing.isSome = true)
    (.conflict ("Asset registration " ++ pyRepr payload.registration ++ " is already in use.")
      "duplicate_registration")
  let asset : Asset :=
    { id := newId, organizationId
      assetType := String.ofList (u.normalize payload.assetType)
      registration := some registration
      manufacturer := u.stripOrNone payload.manufacturer
      model := u.stripOrNone payload.model
      serialNumber := u.stripOrNone payload.serialNumber
      facilityId := payload.facilityId
      status := if payload.status = "" then "ACTIVE"
        else String.ofList (u.normalize payload.status)
      acquiredAt := some now
      createdAt := now }
  let assets ← addAsset db asset
  pure (({ db with assets }).recordAuditEvent organizationId actorUserId "asset.created" "Asset"
    (some newId), asset)

end AssetService

namespace DroneService

open AssetService (addAsset withRegistration)
open LimitEnforcementService (checkAssetCreationLimit)

structure DroneCreateRequest where
  registration : String
  manufacturer : Option String := none
  model : Option String := none
  serialNumber : Option String := none
  facilityId : Option UUID := none

/-- `create_drone`; the registration is taken as it is given. -/
def createDrone (db : Database) (newId : UUID) (now : DateTime) (organizationId : UUID)
    (actorUserId : Option UUID) (payload : DroneCreateRequest) :
    Except Error (Database × Asset) := do
  checkAssetCreationLimit db organizationId now
  let existing ← scalarOneOrNone (withRegistration db organizationId payload.registration)
  raiseIf (existing.isSome = true)
    (.conflict ("Asset registration " ++ pyRepr payload.registration ++ " already in use")
      "duplicate_registration")
  let drone : Asset :=
    { id := newId, organizationId
      assetType := AssetType.drone
      registration := some payload.registration
      manufacturer := payload.manufacturer
      model := payload.model
      serialNumber := payload.serialNumber
      status := "ACTIVE"
      facilityId := payload.facilityId
      createdAt := now }
  let assets ← addAsset db drone
  pure (({ db with assets }).recordAuditEvent organizationId actorUserId "drone.created" "Asset"
    (some newId), drone)

end DroneService

namespace DeletionService

def softDeleteAsset (u : UnicodeTables) (db : Database) (now : DateTime) (organizationId : UUID)
    (actorUserId : Option UUID) (assetId : UUID) (reason : Option String) :
    Except Error (Database × Asset) := do
  let asset ← oneOrRaise
    (db.assets.select fun a => a.id = assetId && a.organizationId = organizationId)
    (.notFound "Asset not found")
  raiseIf (asset.deletedAt.isSome = true)
    (.conflict "Asset is already deleted" "already_deleted")
  let deleted := { asset with
    deletedAt := some now
    deletedBy := actorUserId
    deletionReason := u.stripOrNone reason }
  pure (({ db with assets := db.assets.save deleted }).recordAuditEvent organizationId actorUserId
    "asset.deleted" "Asset" (some asset.id), deleted)

end DeletionService

namespace RestorationService

/-- `restore_asset`: for any organization, and without a look at its limits. -/
def restoreAsset (db : Database) (now : DateTime) (actorUserId : Option UUID) (assetId : UUID) :
    Except Error (Database × Asset) := do
  let asset ← oneOrRaise (db.assets.select fun a => a.id = assetId) (.notFound "Asset not found")
  raiseIf (asset.deletedAt.isNone = true)
    (.conflict "Asset is not currently deleted" "not_deleted")
  let restored := { asset with
    deletedAt := none
    deletedBy := none
    deletionReason := none
    restoredAt := some now
    restoredBy := actorUserId }
  pure (({ db with assets := db.assets.save restored }).recordAuditEvent asset.organizationId
    actorUserId "asset.restored" "Asset" (some asset.id), restored)

end RestorationService

namespace AssetLifecycle

open AssetService (createAsset AssetCreateRequest addAsset)
open DroneService (createDrone DroneCreateRequest)
open DeletionService (softDeleteAsset)
open RestorationService (restoreAsset)
open LimitEnforcementService (checkAssetCreationLimit checkCreationLimit_eq_ok liveAssets
  ceilingInForce)

/-- A call, with the time of the clock and the identifier of a new row. -/
inductive AssetCall
  | createAsset (newId : UUID) (now : DateTime) (organizationId : UUID)
      (actorUserId : Option UUID) (payload : AssetCreateRequest)
  | createDrone (newId : UUID) (now : DateTime) (organizationId : UUID)
      (actorUserId : Option UUID) (payload : DroneCreateRequest)
  | softDeleteAsset (now : DateTime) (organizationId : UUID) (actorUserId : Option UUID)
      (assetId : UUID) (reason : Option String)
  | restoreAsset (now : DateTime) (actorUserId : Option UUID) (assetId : UUID)

def AssetCall.now : AssetCall → DateTime
  | createAsset _ now _ _ _ | createDrone _ now _ _ _ | softDeleteAsset now _ _ _ _
  | restoreAsset now _ _ => now

def step (u : UnicodeTables) (db : Database) : AssetCall → Except Error Database
  | .createAsset newId now org actor payload =>
    (createAsset u db newId now org actor payload).map Prod.fst
  | .createDrone newId now org actor payload =>
    (createDrone db newId now org actor payload).map Prod.fst
  | .softDeleteAsset now org actor assetId reason =>
    (softDeleteAsset u db now org actor assetId reason).map Prod.fst
  | .restoreAsset now actor assetId => (restoreAsset db now actor assetId).map Prod.fst

/-- The live assets of an organization, counted. -/
def liveCount (db : Database) (org : UUID) : Nat := (liveAssets db org).length

/-- A restored asset is below the ceiling: it is not one of the organization's, or it was not
deleted, or fewer than `ceiling` others are live. -/
def WithinCeiling (org : UUID) (ceiling : Int) (db : Database) : AssetCall → Prop
  | .restoreAsset _ _ assetId => ∀ a ∈ db.assets.rows, a.id = assetId → a.organizationId = org →
      a.deletedAt.isSome = true → (liveCount db org : Int) < ceiling
  | _ => True

instance (org : UUID) (ceiling : Int) (db : Database) (call : AssetCall) :
    Decidable (WithinCeiling org ceiling db call) :=
  match call with
  | .restoreAsset _ _ _ => inferInstanceAs (Decidable (∀ _ ∈ _, _ → _ → _ → _))
  | .createAsset .. | .createDrone .. | .softDeleteAsset .. => inferInstanceAs (Decidable True)

section Specs

variable {u : UnicodeTables} {db db' : Database} {org organizationId : UUID} {newId assetId : UUID}
  {now : DateTime} {actor : Option UUID} {asset : Asset}

/-- `a` counts for the ceiling of `org`. -/
def counts (org : UUID) (a : Asset) : Bool := a.organizationId = org && a.deletedAt.isNone

variable {auditEvents : List AuditEvent} {assets : Table Asset}

theorem liveCount_insert (h : addAsset db asset = .ok assets) :
    liveCount { db with assets, auditEvents } org
      = liveCount db org + if counts org asset then 1 else 0 := by
  obtain ⟨_, _, h⟩ := bind_eq_ok.1 h
  obtain ⟨_, _, h⟩ := bind_eq_ok.1 h
  obtain ⟨_, _, h⟩ := bind_eq_ok.1 h
  show (assets.select (counts org)).length = (db.assets.select (counts org)).length + _
  rw [Table.select_insert? (addRowOrRaise_eq_ok.1 h), List.length_append,
    ← List.countP_eq_length_filter, List.countP_singleton]

/-- `db'` is `db` with `old` written over by `new`. -/
structure Rewrote (db db' : Database) (old new : Asset) : Prop where
  mem : old ∈ db.assets.rows
  id : old.id = new.id
  org : old.organizationId = new.organizationId
  eq : ∃ auditEvents, db' = { db with assets := db.assets.save new, auditEvents }

theorem Rewrote.liveCount {old new : Asset} (h : Rewrote db db' old new) (org : UUID) :
    liveCount db' org + (if counts org old then 1 else 0)
      = liveCount db org + if counts org new then 1 else 0 := by
  obtain ⟨_, rfl⟩ := h.eq
  exact Table.length_select_save h.mem h.id (counts org)

/-- What the two creating calls share. -/
structure Created (db db' : Database) (organizationId : UUID) (now : DateTime) : Prop where
  below : ((liveCount db organizationId : Int) : WithTop Int)
    < ceilingInForce db organizationId now "max_assets"
  count : ∀ org, liveCount db' org = liveCount db org + if organizationId = org then 1 else 0
  frame : ∃ assets auditEvents, db' = { db with assets, auditEvents }

theorem created_of_addAsset {x : Unit}
    (hcheck : checkAssetCreationLimit db organizationId now = .ok x)
    (horg : asset.organizationId = organizationId) (hlive : asset.deletedAt = none)
    (hadd : addAsset db asset = .ok assets) :
    Created db { db with assets, auditEvents } organizationId now where
  below := checkCreationLimit_eq_ok.1 hcheck
  count org := by
    rw [liveCount_insert hadd, counts, horg, hlive]
    simp
  frame := ⟨assets, auditEvents, rfl⟩

theorem createAsset_created {payload : AssetCreateRequest}
    (h : createAsset u db newId now organizationId actor payload = .ok (db', asset)) :
    Created db db' organizationId now := by
  obtain ⟨_, hcheck, h⟩ := bind_eq_ok.1 h
  obtain ⟨_, _, h⟩ := bind_eq_ok.1 h
  obtain ⟨_, _, h⟩ := bind_eq_ok.1 h
  obtain ⟨_, hadd, h⟩ := bind_eq_ok.1 h
  rw [pure_eq_ok] at h
  obtain ⟨rfl, rfl⟩ := Prod.mk.inj h
  exact created_of_addAsset hcheck rfl rfl hadd

theorem createDrone_created {payload : DroneCreateRequest}
    (h : createDrone db newId now organizationId actor payload = .ok (db', asset)) :
    Created db db' organizationId now := by
  obtain ⟨_, hcheck, h⟩ := bind_eq_ok.1 h
  obtain ⟨_, _, h⟩ := bind_eq_ok.1 h
  obtain ⟨_, _, h⟩ := bind_eq_ok.1 h
  obtain ⟨_, hadd, h⟩ := bind_eq_ok.1 h
  rw [pure_eq_ok] at h
  obtain ⟨rfl, rfl⟩ := Prod.mk.inj h
  exact created_of_addAsset hcheck rfl rfl hadd

theorem softDeleteAsset_rewrote {reason : Option String}
    (h : softDeleteAsset u db now organizationId actor assetId reason = .ok (db', asset)) :
    asset.deletedAt.isSome = true ∧ ∃ old, Rewrote db db' old asset := by
  obtain ⟨old, hold, h⟩ := bind_eq_ok.1 h
  obtain ⟨_, _, h⟩ := bind_eq_ok.1 h
  rw [pure_eq_ok] at h
  obtain ⟨rfl, rfl⟩ := Prod.mk.inj h
  exact ⟨rfl, old, (mem_of_oneOrRaise hold).1, rfl, rfl, _, rfl⟩

theorem restoreAsset_rewrote (h : restoreAsset db now actor assetId = .ok (db', asset)) :
    asset.deletedAt = none ∧
      ∃ old, old.id = assetId ∧ old.deletedAt.isSome = true ∧ Rewrote db db' old asset := by
  obtain ⟨old, hold, h⟩ := bind_eq_ok.1 h
  obtain ⟨_, hdeleted, h⟩ := bind_eq_ok.1 h
  rw [pure_eq_ok] at h
  obtain ⟨rfl, rfl⟩ := Prod.mk.inj h
  obtain ⟨hmem, hid⟩ := mem_of_oneOrRaise hold
  rw [raiseIf_eq_ok, Option.isNone_iff_eq_none, ← ne_eq, Option.ne_none_iff_isSome] at hdeleted
  exact ⟨rfl, old, of_decide_eq_true hid, hdeleted, hmem, rfl, rfl, _, rfl⟩

theorem restoreAsset_of_deleted {old : Asset} (now : DateTime) (actor : Option UUID)
    (hmem : old ∈ db.assets.rows) (hid : old.id = assetId)
    (hdeleted : old.deletedAt.isSome = true) :
    ∃ db' asset, restoreAsset db now actor assetId = .ok (db', asset) := by
  have hone : oneOrRaise (db.assets.select fun a => a.id = assetId)
      (.notFound "Asset not found") = .ok old :=
    oneOrRaise_of_key hmem (decide_eq_true hid) fun x _ hx =>
      (of_decide_eq_true hx).trans hid.symm
  rw [restoreAsset, hone, ok_bind]
  rw [raiseIf, Option.isNone_eq_false_iff.2 hdeleted, if_neg Bool.false_ne_true]
  exact ⟨_, _, rfl⟩

end Specs

section Runs

variable {u : UnicodeTables} {db db' : Database} {org : UUID} {call : AssetCall}

theorem step_frame (h : step u db call = .ok db') :
    ∃ assets auditEvents, db' = { db with assets, auditEvents } := by
  cases call with
  | createAsset newId now organizationId actor payload =>
    obtain ⟨_, h⟩ := map_fst_eq_ok h
    exact (createAsset_created h).frame
  | createDrone newId now organizationId actor payload =>
    obtain ⟨_, h⟩ := map_fst_eq_ok h
    exact (createDrone_created h).frame
  | softDeleteAsset now organizationId actor assetId reason =>
    obtain ⟨_, h⟩ := map_fst_eq_ok h
    obtain ⟨_, _, hw⟩ := softDeleteAsset_rewrote h
    exact ⟨_, hw.eq⟩
  | restoreAsset now actor assetId =>
    obtain ⟨_, h⟩ := map_fst_eq_ok h
    obtain ⟨_, _, _, _, hw⟩ := restoreAsset_rewrote h
    exact ⟨_, hw.eq⟩

/-- Whatever the time, the ceiling is what it was in `db`. -/
def SameCeiling (org : UUID) (db db' : Database) : Prop :=
  ∀ t, ceilingInForce db' org t "max_assets" = ceilingInForce db org t "max_assets"

theorem step_ceiling (h : step u db call = .ok db') : SameCeiling org db db' := by
  obtain ⟨_, _, rfl⟩ := step_frame h
  exact fun _ => rfl

/-- **STEP**: at or below its ceiling, an organization is there after a call exactly when the
call restores nothing above it. -/
theorem step_le_iff {ceiling : Int}
    (hceiling : ceilingInForce db org call.now "max_assets" = (ceiling : WithTop Int))
    (hle : (liveCount db org : Int) ≤ ceiling) (h : step u db call = .ok db') :
    (liveCount db' org : Int) ≤ ceiling ↔ WithinCeiling org ceiling db call := by
  -- what a creating call adds to the organization was let through by its ceiling
  have hcreated : ∀ organizationId, Created db db' organizationId call.now →
      (liveCount db' org : Int) ≤ ceiling := by
    intro organizationId hc
    by_cases horg : organizationId = org
    · subst horg
      have hbelow := hc.below
      rw [hceiling, WithTop.coe_lt_coe] at hbelow
      have hcount := hc.count organizationId
      rw [if_pos rfl] at hcount
      omega
    · have hcount := hc.count org
      rw [if_neg horg] at hcount
      omega
  cases call with
  | createAsset newId now organizationId actor payload =>
    obtain ⟨_, h⟩ := map_fst_eq_ok h
    exact iff_of_true (hcreated _ (createAsset_created h)) trivial
  | createDrone newId now organizationId actor payload =>
    obtain ⟨_, h⟩ := map_fst_eq_ok h
    exact iff_of_true (hcreated _ (createDrone_created h)) trivial
  | softDeleteAsset now organizationId actor assetId reason =>
    obtain ⟨asset, h⟩ := map_fst_eq_ok h
    obtain ⟨hdeleted, old, hw⟩ := softDeleteAsset_rewrote h
    have hout : counts org asset = false := by
      rw [counts, Option.isNone_eq_false_iff.2 hdeleted, Bool.and_false]
    have hcount := hw.liveCount org
    rw [hout] at hcount
    refine iff_of_true ?_ trivial
    simp only [Bool.false_eq_true, if_false] at hcount
    omega
  | restoreAsset now actor assetId =>
    obtain ⟨asset, h⟩ := map_fst_eq_ok h
    obtain ⟨hlive, old, hid, hdeleted, hw⟩ := restoreAsset_rewrote h
    have hout : counts org old = false := by
      rw [counts, Option.isNone_eq_false_iff.2 hdeleted, Bool.and_false]
    have hin : counts org asset = decide (old.organizationId = org) := by
      rw [counts, hlive, hw.org]
      exact Bool.and_true _
    have hcount := hw.liveCount org
    rw [hout, hin] at hcount
    simp only [Bool.false_eq_true, if_false, decide_eq_true_eq] at hcount
    constructor
    · intro hafter a ha haid horg _
      have hsame : a = old := Table.eq_of_key_eq ha hw.mem (haid.trans hid.symm)
      rw [hsame] at horg
      rw [if_pos horg] at hcount
      omega
    · intro hwithin
      by_cases horg : old.organizationId = org
      · have hbelow := hwithin old hw.mem hid horg hdeleted
        rw [if_pos horg] at hcount
        omega
      · rw [if_neg horg] at hcount
        omega

theorem within_of_error {ceiling : Int} {e : Error} (h : step u db call = .error e) :
    WithinCeiling org ceiling db call := by
  cases call with
  | restoreAsset now actor assetId =>
    intro a ha hid _ hdeleted
    obtain ⟨_, _, hok⟩ := restoreAsset_of_deleted now actor ha hid hdeleted
    rw [step, hok] at h
    cases h
  | createAsset _ _ _ _ _ | createDrone _ _ _ _ _ | softDeleteAsset _ _ _ _ _ => trivial

/-- **CAPACITY**: an organization whose ceiling is `ceiling` at the time of every call, and that
starts at or below it, stays there all along a run exactly when every restoration of one of
its deleted assets finds fewer than `ceiling` live ones. -/
theorem live_within_ceiling_iff {ceiling : Int} (calls : List AssetCall)
    (hceiling : ∀ call ∈ calls,
      ceilingInForce db org call.now "max_assets" = (ceiling : WithTop Int))
    (hstart : (liveCount db org : Int) ≤ ceiling) :
    (∀ db' ∈ Runs.visited (step u) db calls, (liveCount db' org : Int) ≤ ceiling) ↔
      Runs.StepsMeet (step u) (WithinCeiling org ceiling) db calls := by
  have hsame : ∀ s call, SameCeiling org db s → SameCeiling org db (Runs.attempt (step u) s call) := by
    intro s call hs t
    rcases Runs.attempt_cases (step u) s call with h | h
    · rw [h]
      exact hs t
    · exact (step_ceiling h t).trans (hs t)
  refine Runs.forall_visited_iff hsame calls db (fun _ => rfl) hstart ?_
  · intro s hs hle call hcall
    have hnow := (hs call.now).trans (hceiling call hcall)
    rw [Runs.attempt]
    cases h : step u s call with
    | ok s' => exact step_le_iff hnow hle h
    | error e => exact iff_of_true hle (within_of_error h)

end Runs

/-- A tenant on a plan for one asset, which it has. -/
def singleAssetTenant : Database where
  organizations := .single { id := 1 }
  plans := .single { id := 2, code := "BASIC" }
  planLimits := .single { id := 3, planId := 2, limitKey := "max_assets", limitValue := some 1 }
  subscriptions :=
    .single { id := 4, organizationId := 1, planId := 2, status := .active, startsAt := 0 }
  assets := .single { id := 5, organizationId := 1, registration := some "N1" }

/-- The asset is deleted, another one takes its place, and the first one is restored. -/
def replaceAndRestore : List AssetCall :=
  [.softDeleteAsset 1 1 none 5 none,
    .createDrone 6 2 1 none { registration := "N2" },
    .restoreAsset 3 none 5]

theorem restored_over_ceiling :
    ¬∀ (db : Database) (org : UUID) (ceiling : Int) (calls : List AssetCall),
      (∀ call ∈ calls, ceilingInForce db org call.now "max_assets" = (ceiling : WithTop Int)) →
      (liveCount db org : Int) ≤ ceiling →
      ∀ db' ∈ Runs.visited (step .ascii) db calls, (liveCount db' org : Int) ≤ ceiling := by
  intro h
  have hlast := h singleAssetTenant 1 1 replaceAndRestore (by decide) (by decide)
    (replaceAndRestore.foldl (Runs.attempt (step .ascii)) singleAssetTenant)
    (by simp [Runs.visited, replaceAndRestore])
  revert hlast
  decide

/-- The replacement is refused while the first asset is live, and deleted again before the
first one is restored. -/
def replaceWithinCeiling : List AssetCall :=
  [.createAsset 6 1 1 none { assetType := "drone", registration := "n2" },
    .softDeleteAsset 2 1 none 5 (some "sold"),
    .createAsset 6 3 1 none { assetType := "drone", registration := "n2" },
    .softDeleteAsset 4 1 none 6 none,
    .restoreAsset 5 none 5]

theorem replaceWithinCeiling_le :
    Runs.StepsMeet (step .ascii) (WithinCeiling 1 1) singleAssetTenant replaceWithinCeiling ∧
      ∀ db' ∈ Runs.visited (step .ascii) singleAssetTenant replaceWithinCeiling,
        (liveCount db' 1 : Int) ≤ 1 := by
  have hwithin : Runs.StepsMeet (step .ascii) (WithinCeiling 1 1) singleAssetTenant
      replaceWithinCeiling := by decide
  exact ⟨hwithin, (live_within_ceiling_iff replaceWithinCeiling (by decide) (by decide)).2 hwithin⟩

end AssetLifecycle
end AeroComply
