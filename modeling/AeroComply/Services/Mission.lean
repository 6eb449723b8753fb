import AeroComply.Services.Flight

/-!
# Mission — planning, changing and authorizing missions

`app/services/mission_service.py`.  `authorize_mission` refuses a mission that is over;
`update_mission` writes whatever status it is given.
-/

namespace AeroComply

open Relational (Table)

namespace MissionService

open FlightService (checkPilot)

structure MissionCreateRequest where
  assetId : UUID
  pilotUserId : Option UUID := none
  purpose : String
  operatingArea : Option String := none
  plannedStart : Option DateTime := none
  plannedEnd : Option DateTime := none
  notes : Option String := none
  purpose_length : 1 ≤ purpose.length ∧ purpose.length ≤ 255 := by decide
  operatingArea_length : ∀ area ∈ operatingArea, area.length ≤ 255 := by decide

/-- `MissionUpdateRequest`: the status is any text of up to 32 characters. -/
structure MissionUpdateRequest where
  pilotUserId : Option UUID := none
  purpose : Option String := none
  operatingArea : Option String := none
  plannedStart : Option DateTime := none
  plannedEnd : Option DateTime := none
  status : Option String := none
  notes : Option String := none
  purpose_length : ∀ text ∈ purpose, 1 ≤ text.length ∧ text.length ≤ 255 := by decide
  operatingArea_length : ∀ area ∈ operatingArea, area.length ≤ 255 := by decide
  status_length : ∀ text ∈ status, text.length ≤ 32 := by decide

structure MissionAuthorizeRequest where
  notes : Option String := none

/-- The row of a new mission. -/
def newMission (newId organizationId : UUID) (payload : MissionCreateRequest) : Mission where
  id := newId
  organizationId
  assetId := payload.assetId
  pilotUserId := payload.pilotUserId
  purpose := payload.purpose
  operatingArea := payload.operatingArea
  plannedStart := payload.plannedStart
  plannedEnd := payload.plannedEnd
  notes := payload.notes

def createMission (db : Database) (newId organizationId : UUID) (actorUserId : Option UUID)
    (payload : MissionCreateRequest) : Except Error Database := do
  let _ ← db.getAsset organizationId payload.assetId
  checkPilot db organizationId payload.pilotUserId
  let missions ← addRow db.missions (newMission newId organizationId payload)
  pure (({ db with missions }).recordAuditEvent organizationId actorUserId "mission.created"
    "Mission" (some newId))

def getMission (db : Database) (organizationId missionId : UUID) : Except Error Mission :=
  oneOrRaise (db.missions.select fun m => m.id = missionId && m.organizationId = organizationId)
    (.notFound "Mission not found")

/-- The mission, with what the payload gives. -/
def updatedMission (mission : Mission) (payload : MissionUpdateRequest) : Mission :=
  { mission with
    pilotUserId := payload.pilotUserId.or mission.pilotUserId
    purpose := payload.purpose.getD mission.purpose
    operatingArea := payload.operatingArea.or mission.operatingArea
    plannedStart := payload.plannedStart.or mission.plannedStart
    plannedEnd := payload.plannedEnd.or mission.plannedEnd
    status := (payload.status.map MissionStatus.ofText).getD mission.status
    notes := payload.notes.or mission.notes }

def updateMission (db : Database) (organizationId : UUID) (actorUserId : Option UUID)
    (missionId : UUID) (payload : MissionUpdateRequest) : Except Error Database := do
  let mission ← getMission db organizationId missionId
  checkPilot db organizationId payload.pilotUserId
  pure (({ db with missions := db.missions.save (updatedMission mission payload) }).recordAuditEvent
    organizationId actorUserId "mission.updated" "Mission" (some mission.id))

/-- The notes, with the note of the authorization; `strip` reaches that note alone. -/
def notedNotes (u : UnicodeTables) (notes : Option String) :
    Option MissionAuthorizeRequest → Option String
  | none => notes
  | some payload =>
    match payload.notes with
    | none | some "" => notes
    | some note => some (notes.getD "" ++ u.strip ("\n[Authorization Note]: " ++ note))

def authorizedMission (u : UnicodeTables) (now : DateTime) (actorUserId : Option UUID)
    (mission : Mission) (payload : Option MissionAuthorizeRequest) : Mission :=
  { mission with
    status := .authorized
    authorizedAt := some now
    authorizedByUserId := actorUserId
    notes := notedNotes u mission.notes payload }

/-- A mission in this status cannot be authorized. -/
def isOver (status : MissionStatus) : Bool := status = .cancelled || status = .completed

def authorizeMission (u : UnicodeTables) (db : Database) (now : DateTime) (organizationId : UUID)
    (actorUserId : Option UUID) (missionId : UUID) (payload : Option MissionAuthorizeRequest) :
    Except Error Database := do
  let mission ← getMission db organizationId missionId
  raiseIf (isOver mission.status = true)
    (.aeroComply ("Cannot authorize a mission in " ++ mission.status.value ++ " status"))
  pure (({ db with
      missions := db.missions.save (authorizedMission u now actorUserId mission payload) }
    ).recordAuditEvent organizationId actorUserId "mission.authorized" "Mission" (some mission.id))

section Specs

variable {u : UnicodeTables} {db db' : Database} {newId organizationId missionId : UUID}
  {actorUserId : Option UUID} {now : DateTime} {mission : Mission}

theorem mem_of_getMission (h : getMission db organizationId missionId = .ok mission) :
    mission ∈ db.missions.rows ∧ mission.id = missionId ∧
      mission.organizationId = organizationId := by
  simpa using mem_of_oneOrRaise h

theorem createMission_eq_ok {payload : MissionCreateRequest}
    (h : createMission db newId organizationId actorUserId payload = .ok db') :
    db'.missions.rows = db.missions.rows ++ [newMission newId organizationId payload] := by
  obtain ⟨_, _, h⟩ := bind_eq_ok.1 h
  obtain ⟨_, _, h⟩ := bind_eq_ok.1 h
  obtain ⟨missions, hadd, h⟩ := bind_eq_ok.1 h
  cases pure_eq_ok.1 h
  exact (Table.insert?_eq_some (addRowOrRaise_eq_ok.1 hadd)).2

theorem updateMission_eq_ok {payload : MissionUpdateRequest} :
    updateMission db organizationId actorUserId missionId payload = .ok db' ↔
      ∃ mission, getMission db organizationId missionId = .ok mission ∧
        checkPilot db organizationId payload.pilotUserId = .ok () ∧
        ({ db with missions := db.missions.save (updatedMission mission payload) }
          ).recordAuditEvent organizationId actorUserId "mission.updated" "Mission"
            (some mission.id) = db' := by
  simp only [updateMission, bind_eq_ok, pure_eq_ok]
  exact exists_congr fun _ => and_congr_right fun _ => ⟨fun ⟨_, h⟩ => h, fun h => ⟨(), h⟩⟩

theorem authorizeMission_eq_ok {payload : Option MissionAuthorizeRequest} :
    authorizeMission u db now organizationId actorUserId missionId payload = .ok db' ↔
      ∃ mission, getMission db organizationId missionId = .ok mission ∧
        isOver mission.status = false ∧
        ({ db with
            missions := db.missions.save (authorizedMission u now actorUserId mission payload) }
          ).recordAuditEvent organizationId actorUserId "mission.authorized" "Mission"
            (some mission.id) = db' := by
  simp only [authorizeMission, bind_eq_ok, pure_eq_ok, raiseIf_eq_ok, Bool.not_eq_true]
  exact exists_congr fun _ => and_congr_right fun _ => ⟨fun ⟨_, h⟩ => h, fun h => ⟨(), h⟩⟩

end Specs

end MissionService
end AeroComply
