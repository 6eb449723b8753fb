import AeroComply.Lib.Runs
import AeroComply.Services.Mission

/-!
# MissionRuns — authorization over sequences of mission calls

A mission that is authorized, under way or completed should have been authorized, and
one that is over should stay over.  `update_mission` checks neither.  The history keeps,
beside the database, the authorizations that went through and the missions that have
been over; `missions_governed_iff` says which sequences keep both promises.
-/

namespace AeroComply

open Relational (Table)

namespace MissionService

open FlightService (checkPilot)
open Runs (StepsMeet attempt visited)

/-- A call of the mission service. -/
inductive MissionCall
  | create (newId organizationId : UUID) (actorUserId : Option UUID) (payload : MissionCreateRequest)
  | update (organizationId : UUID) (actorUserId : Option UUID) (missionId : UUID)
      (payload : MissionUpdateRequest)
  | authorize (now : DateTime) (organizationId : UUID) (actorUserId : Option UUID)
      (missionId : UUID) (payload : Option MissionAuthorizeRequest)

def call (u : UnicodeTables) (db : Database) : MissionCall → Except Error Database
  | .create newId organizationId actorUserId payload =>
    createMission db newId organizationId actorUserId payload
  | .update organizationId actorUserId missionId payload =>
    updateMission db organizationId actorUserId missionId payload
  | .authorize now organizationId actorUserId missionId payload =>
    authorizeMission u db now organizationId actorUserId missionId payload

/-- An authorization: of which mission, when and by whom. -/
abbrev Authorization := UUID × DateTime × Option UUID

/-- The authorization that a call makes. -/
def MissionCall.authorization : MissionCall → List Authorization
  | .authorize now _ actorUserId missionId _ => [(missionId, now, actorUserId)]
  | _ => []

/-- The database, the authorizations made, and the missions that have been over. -/
structure History where
  db : Database
  authorizations : List Authorization := []
  ended : List UUID := []

def overMissions (db : Database) : List UUID :=
  (db.missions.select fun m => isOver m.status).map Mission.id

/-- One call, recorded. -/
def step (u : UnicodeTables) (h : History) (c : MissionCall) : Except Error History := do
  let db ← call u h.db c
  pure { db, authorizations := h.authorizations ++ c.authorization
         ended := h.ended ++ overMissions db }

/-! ## The promises -/

/-- AUTHORIZED, IN_PROGRESS or COMPLETED. -/
def IsCleared (status : MissionStatus) : Prop :=
  status = .authorized ∨ status = .inProgress ∨ status = .completed

/-- A member of `MissionStatus`. -/
def IsMember (status : MissionStatus) : Prop := ∀ text, status ≠ .other text

/-- What is promised of a mission. -/
structure MissionGoverned (h : History) (m : Mission) : Prop where
  member : IsMember m.status
  cleared : IsCleared m.status → ∃ at_ by_, m.authorizedAt = some at_ ∧
    m.authorizedByUserId = some by_ ∧ (m.id, at_, some by_) ∈ h.authorizations
  final : m.id ∈ h.ended → m.status ≠ .authorized

def Governed (h : History) : Prop := ∀ m ∈ h.db.missions.rows, MissionGoverned h m

/-- What a call must not do: write a status that is no member, clear a mission that has not been
authorized by someone, or authorize one that has been over. -/
def Complies (h : History) : MissionCall → Prop
  | .create .. => True
  | .update organizationId _ missionId payload =>
    ∀ m text, getMission h.db organizationId missionId = .ok m →
      checkPilot h.db organizationId payload.pilotUserId = .ok () → payload.status = some text →
        IsMember (.ofText text) ∧
        (IsCleared (.ofText text) → m.authorizedAt ≠ none ∧ m.authorizedByUserId ≠ none) ∧
        (MissionStatus.ofText text = .authorized → m.id ∉ h.ended)
  | .authorize _ organizationId actorUserId missionId _ =>
    ∀ m, getMission h.db organizationId missionId = .ok m → isOver m.status = false →
      actorUserId ≠ none ∧ m.id ∉ h.ended

/-- Every authorization that a mission shows was made. -/
def Traced (h : History) : Prop :=
  ∀ m ∈ h.db.missions.rows, ∀ at_, m.authorizedAt = some at_ →
    (m.id, at_, m.authorizedByUserId) ∈ h.authorizations

section Steps

variable {u : UnicodeTables} {h h' : History} {c : MissionCall}

variable {m : Mission} {actorUserId : Option UUID}

theorem mem_overMissions {db : Database} (hm : m ∈ db.missions.rows) :
    m.id ∈ overMissions db ↔ isOver m.status = true := by
  constructor
  · intro hid
    obtain ⟨x, hx, hkey⟩ := List.mem_map.1 hid
    obtain ⟨hrow, hover⟩ := Table.mem_select.1 hx
    rw [← Table.eq_of_key_eq hrow hm hkey]
    exact hover
  · exact fun hover => List.mem_map_of_mem (Table.mem_select.2 ⟨hm, hover⟩)

theorem not_authorized_of_over {status : MissionStatus} (hover : isOver status = true) :
    status ≠ .authorized := by
  rintro rfl
  cases hover

theorem governed_row_iff {before : List UUID} (hm : m ∈ h'.db.missions.rows)
    (hended : h'.ended = before ++ overMissions h'.db) :
    MissionGoverned h' m ↔ IsMember m.status ∧
      (IsCleared m.status → ∃ at_ by_, m.authorizedAt = some at_ ∧
        m.authorizedByUserId = some by_ ∧ (m.id, at_, some by_) ∈ h'.authorizations) ∧
      (m.id ∈ before → m.status ≠ .authorized) := by
  constructor
  · intro hgoverned
    refine ⟨hgoverned.member, hgoverned.cleared, fun hbefore => hgoverned.final ?_⟩
    rw [hended]
    exact List.mem_append_left _ hbefore
  · rintro ⟨hmember, hcleared, hover⟩
    refine ⟨hmember, hcleared, fun hid => ?_⟩
    rw [hended] at hid
    rcases List.mem_append.1 hid with hbefore | hnow
    · exact hover hbefore
    · exact not_authorized_of_over ((mem_overMissions hm).1 hnow)

theorem governed_of_kept (hm : m ∈ h'.db.missions.rows)
    (hended : h'.ended = h.ended ++ overMissions h'.db)
    (hauthorizations : h'.authorizations = h.authorizations ++ c.authorization)
    (hgoverned : MissionGoverned h m) : MissionGoverned h' m := by
  rw [governed_row_iff hm hended]
  refine ⟨hgoverned.member, fun hcleared => ?_, hgoverned.final⟩
  obtain ⟨at_, by_, hat, hby, hmade⟩ := hgoverned.cleared hcleared
  refine ⟨at_, by_, hat, hby, ?_⟩
  rw [hauthorizations]
  exact List.mem_append_left _ hmade

theorem governed_save_iff (m' : Mission) (hm : m ∈ h.db.missions.rows) (hid : m'.id = m.id)
    (hrows : h'.db.missions = h.db.missions.save m')
    (hended : h'.ended = h.ended ++ overMissions h'.db)
    (hauthorizations : h'.authorizations = h.authorizations ++ c.authorization)
    (hgoverned : Governed h) :
    Governed h' ↔ IsMember m'.status ∧
      (IsCleared m'.status → ∃ at_ by_, m'.authorizedAt = some at_ ∧
        m'.authorizedByUserId = some by_ ∧ (m.id, at_, some by_) ∈ h'.authorizations) ∧
      (m.id ∈ h.ended → m'.status ≠ .authorized) := by
  have hmem : ∀ x, x ∈ h'.db.missions.rows ↔
      (x ∈ h.db.missions.rows ∧ x.id ≠ m'.id) ∨ x = m' := by
    intro x
    rw [hrows]
    exact Table.mem_save_of_mem hm hid.symm
  have hm' : m' ∈ h'.db.missions.rows := (hmem m').2 (Or.inr rfl)
  rw [← hid, ← governed_row_iff hm' hended]
  constructor
  · exact fun hall => hall m' hm'
  · intro hnew x hx
    rcases (hmem x).1 hx with ⟨hold, _⟩ | rfl
    · exact governed_of_kept hx hended hauthorizations (hgoverned x hold)
    · exact hnew

theorem attempt_of_ok {db : Database} (hcall : call u h.db c = .ok db) :
    attempt (step u) h c = { db, authorizations := h.authorizations ++ c.authorization
                             ended := h.ended ++ overMissions db } := by
  rw [attempt, step, hcall]
  rfl

theorem attempt_of_error {e : Error} (hcall : call u h.db c = .error e) :
    attempt (step u) h c = h := by
  rw [attempt, step, hcall]
  rfl

theorem shown_iff (htraced : Traced h) (hm : m ∈ h.db.missions.rows) (later : List Authorization) :
    (∃ at_ by_, m.authorizedAt = some at_ ∧ m.authorizedByUserId = some by_ ∧
        (m.id, at_, some by_) ∈ h.authorizations ++ later) ↔
      m.authorizedAt ≠ none ∧ m.authorizedByUserId ≠ none := by
  constructor
  · rintro ⟨at_, by_, hat, hby, _⟩
    simp [hat, hby]
  · rintro ⟨hat, hby⟩
    obtain ⟨at_, hat⟩ := Option.ne_none_iff_exists'.1 hat
    obtain ⟨by_, hby⟩ := Option.ne_none_iff_exists'.1 hby
    have hmade := htraced m hm at_ hat
    rw [hby] at hmade
    exact ⟨at_, by_, hat, hby, List.mem_append_left _ hmade⟩

theorem governed_create {newId organizationId : UUID} {payload : MissionCreateRequest}
    (hgoverned : Governed h) :
    Governed (attempt (step u) h (.create newId organizationId actorUserId payload)) := by
  cases hcall : call u h.db (.create newId organizationId actorUserId payload) with
  | error e =>
    rw [attempt_of_error hcall]
    exact hgoverned
  | ok db =>
    rw [attempt_of_ok hcall]
    have hrows := createMission_eq_ok hcall
    intro m hm
    have hm' : m ∈ db.missions.rows := hm
    rw [hrows, List.mem_append, List.mem_singleton] at hm'
    rcases hm' with hold | rfl
    · exact governed_of_kept hm rfl rfl (hgoverned m hold)
    · refine (governed_row_iff hm rfl).2 ⟨?_, ?_, ?_⟩
      · intro text hstatus
        cases hstatus
      · rintro (hstatus | hstatus | hstatus)
        · cases hstatus
        · cases hstatus
        · cases hstatus
      · intro _ hstatus
        cases hstatus

/-- An update keeps the promises exactly when it complies. -/
theorem governed_update_iff {organizationId missionId : UUID} {payload : MissionUpdateRequest}
    (htraced : Traced h) (hgoverned : Governed h) :
    Governed (attempt (step u) h (.update organizationId actorUserId missionId payload)) ↔
      Complies h (.update organizationId actorUserId missionId payload) := by
  cases hcall : call u h.db (.update organizationId actorUserId missionId payload) with
  | error e =>
    rw [attempt_of_error hcall]
    refine iff_of_true hgoverned fun m text hm hpilot _ => ?_
    rw [call, updateMission, hm, ok_bind, hpilot] at hcall
    cases hcall
  | ok db =>
    rw [attempt_of_ok hcall]
    obtain ⟨m, hm, hpilot, rfl⟩ := updateMission_eq_ok.1 hcall
    obtain ⟨hrow, _, _⟩ := mem_of_getMission hm
    have hold := hgoverned m hrow
    rw [governed_save_iff (updatedMission m payload) hrow rfl rfl rfl rfl hgoverned]
    have hshown := shown_iff htraced hrow
      (MissionCall.update organizationId actorUserId missionId payload).authorization
    constructor
    · rintro ⟨hmember, hcleared, hover⟩ m₂ text hm₂ _ htext
      rw [hm] at hm₂
      cases hm₂
      have hstatus : (updatedMission m payload).status = .ofText text := by
        rw [updatedMission, htext]
        rfl
      rw [hstatus] at hmember hcleared hover
      exact ⟨hmember, fun h => hshown.1 (hcleared h), fun h hid => hover hid h⟩
    · intro hcomplies
      cases htext : payload.status with
      | none =>
        have hstatus : (updatedMission m payload).status = m.status := by
          rw [updatedMission, htext]
          rfl
        rw [hstatus]
        refine ⟨hold.member, fun hcleared => ?_, hold.final⟩
        obtain ⟨at_, by_, hat, hby, _⟩ := hold.cleared hcleared
        exact hshown.2 (by simp [hat, hby])
      | some text =>
        have hstatus : (updatedMission m payload).status = .ofText text := by
          rw [updatedMission, htext]
          rfl
        obtain ⟨hmember, hcleared, hover⟩ := hcomplies m text hm hpilot htext
        rw [hstatus]
        exact ⟨hmember, fun h => hshown.2 (hcleared h), fun hid h => hover h hid⟩

theorem governed_authorize_iff {now : DateTime} {organizationId missionId : UUID}
    {payload : Option MissionAuthorizeRequest} (hgoverned : Governed h) :
    Governed (attempt (step u) h (.authorize now organizationId actorUserId missionId payload)) ↔
      Complies h (.authorize now organizationId actorUserId missionId payload) := by
  cases hcall : call u h.db (.authorize now organizationId actorUserId missionId payload) with
  | error e =>
    rw [attempt_of_error hcall]
    refine iff_of_true hgoverned fun m hm hopen => ?_
    rw [call, authorizeMission, hm, ok_bind, hopen] at hcall
    cases hcall
  | ok db =>
    rw [attempt_of_ok hcall]
    obtain ⟨m, hm, hopen, rfl⟩ := authorizeMission_eq_ok.1 hcall
    obtain ⟨hrow, hid, _⟩ := mem_of_getMission hm
    rw [governed_save_iff (authorizedMission u now actorUserId m payload) hrow rfl rfl rfl rfl
      hgoverned]
    constructor
    · rintro ⟨_, hcleared, hover⟩ m₂ hm₂ _
      rw [hm] at hm₂
      cases hm₂
      obtain ⟨_, by_, _, hby, _⟩ := hcleared (Or.inl rfl)
      refine ⟨fun hnone => ?_, fun hended => hover hended rfl⟩
      have hactor : actorUserId = some by_ := hby
      rw [hnone] at hactor
      cases hactor
    · intro hcomplies
      obtain ⟨hactor, hended⟩ := hcomplies m hm hopen
      obtain ⟨by_, hby⟩ := Option.ne_none_iff_exists'.1 hactor
      refine ⟨fun text hstatus => ?_, fun _ => ⟨now, by_, rfl, hby, ?_⟩, fun h => absurd h hended⟩
      · cases hstatus
      · refine List.mem_append_right _ ?_
        rw [hid, hby]
        exact List.mem_singleton_self _

/-- **ONE CALL** keeps the promises exactly when it complies. -/
theorem governed_step_iff (u : UnicodeTables) (htraced : Traced h) (hgoverned : Governed h)
    (c : MissionCall) : Governed (attempt (step u) h c) ↔ Complies h c := by
  cases c with
  | create => exact iff_of_true (governed_create hgoverned) trivial
  | update => exact governed_update_iff htraced hgoverned
  | authorize => exact governed_authorize_iff hgoverned

/-- The authorizations that missions show stay on record, whatever is called. -/
theorem traced_step (u : UnicodeTables) (h : History) (c : MissionCall) (htraced : Traced h) :
    Traced (attempt (step u) h c) := by
  cases hcall : call u h.db c with
  | error e =>
    rw [attempt_of_error hcall]
    exact htraced
  | ok db =>
    rw [attempt_of_ok hcall]
    have hkept : ∀ m ∈ h.db.missions.rows, ∀ at_, m.authorizedAt = some at_ →
        (m.id, at_, m.authorizedByUserId) ∈ h.authorizations ++ c.authorization :=
      fun m hm at_ hat => List.mem_append_left _ (htraced m hm at_ hat)
    intro m hm
    cases c with
    | create newId organizationId actorUserId payload =>
      have hm' : m ∈ db.missions.rows := hm
      rw [createMission_eq_ok hcall, List.mem_append, List.mem_singleton] at hm'
      rcases hm' with hold | rfl
      · exact hkept m hold
      · intro at_ hat
        cases hat
    | update organizationId actorUserId missionId payload =>
      obtain ⟨old, hold, _, rfl⟩ := updateMission_eq_ok.1 hcall
      obtain ⟨hrow, _, _⟩ := mem_of_getMission hold
      have hm' : m ∈ (h.db.missions.save (updatedMission old payload)).rows := hm
      rcases Table.mem_save.1 hm' with ⟨hmem, _⟩ | ⟨rfl, _⟩
      · exact hkept m hmem
      · exact hkept old hrow
    | authorize now organizationId actorUserId missionId payload =>
      obtain ⟨old, hold, _, rfl⟩ := authorizeMission_eq_ok.1 hcall
      obtain ⟨hrow, hid, _⟩ := mem_of_getMission hold
      have hm' : m ∈ (h.db.missions.save
        (authorizedMission u now actorUserId old payload)).rows := hm
      rcases Table.mem_save.1 hm' with ⟨hmem, _⟩ | ⟨rfl, _⟩
      · exact hkept m hmem
      · intro at_ hat
        cases hat
        refine List.mem_append_right _ ?_
        show (old.id, now, actorUserId) ∈ [(missionId, now, actorUserId)]
        rw [hid]
        exact List.mem_singleton_self _

/-- **MISSION AUTHORIZATION** cannot be bypassed in a sequence of calls, from no missions on, exactly
when every call of it complies. -/
theorem missions_governed_iff (u : UnicodeTables) {db : Database} (hnone : db.missions.rows = [])
    (calls : List MissionCall) :
    (∀ h ∈ visited (step u) { db } calls, Governed h) ↔
      StepsMeet (step u) Complies { db } calls := by
  have hempty : ∀ m, m ∉ db.missions.rows := by
    intro m
    rw [hnone]
    exact List.not_mem_nil
  exact Runs.forall_visited_iff (traced_step u) calls { db } (fun m hm => absurd hm (hempty m))
    (fun m hm => absurd hm (hempty m)) fun h htraced hgoverned c _ =>
      governed_step_iff u htraced hgoverned c

end Steps

/-- One asset, and no mission. -/
def oneAsset : Database where
  assets := Table.single { id := 0, organizationId := 0 }

def creation : MissionCall := .create 1 0 (some 2) { assetId := 0, purpose := "Survey" }

def authorization : MissionCall := .authorize 5 0 (some 2) 1 none

def start : MissionCall := .update 0 (some 2) 1 { status := some "IN_PROGRESS" }

/-- Created, authorized and started. -/
theorem authorized_mission_governed :
    oneAsset.missions.rows = [] ∧
      ∀ h ∈ visited (step .ascii) { db := oneAsset } [creation, authorization, start],
        Governed h := by
  refine ⟨rfl, (missions_governed_iff .ascii rfl _).2 ⟨trivial, ?_, ?_, trivial⟩⟩
  · intro m hm _
    cases hm
    exact ⟨by decide, by decide⟩
  · intro m text hm _ htext
    cases hm
    cases htext
    refine ⟨?_, ?_, ?_⟩
    · intro text hstatus
      cases hstatus
    · intro _
      exact ⟨by decide, by decide⟩
    · intro hstatus
      cases hstatus

/-- Created and started. -/
theorem unauthorized_mission_not_governed :
    ¬∀ h ∈ visited (step .ascii) { db := oneAsset } [creation, start], Governed h := by
  intro hall
  have hlast := hall _ (List.mem_cons_of_mem _ (List.mem_cons_of_mem _ (List.mem_singleton_self _)))
  obtain ⟨at_, _, hat, _⟩ := (hlast _ (List.mem_singleton_self _)).cleared (Or.inr (Or.inl rfl))
  cases hat

end MissionService
end AeroComply
