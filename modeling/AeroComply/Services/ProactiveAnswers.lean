import AeroComply.Services.ProactiveIntelligence

/-!
# ProactiveAnswers — when the engine answers

For an asset in scope the evaluators always raise, if not before then at the query for
`ComplianceState.UNKNOWN`.  So the engine answers of the stored records exactly when
there is no live asset in scope and each record that is asked for can be presented:
`proactive_answers_iff`.
-/

namespace AeroComply

open Relational (Table)

namespace ProactiveIntelligenceService

section Evaluation

variable {py : Interpreter} {fl : ℚ → ℚ} {db : Database} {now : DateTime} {organizationId : UUID}
  {readiness : Database → UUID → Asset → List SignalItem}

/-- **NO ASSET IS EVALUATED**, whatever there is to find. -/
theorem evaluateAsset_ne_ok (asset : Asset) (items : List SignalItem) :
    evaluateAsset py fl db now organizationId readiness asset ≠ .ok items := by
  intro h
  obtain ⟨_, _, h⟩ := bind_eq_ok.1 h
  obtain ⟨_, _, h⟩ := bind_eq_ok.1 h
  obtain ⟨_, _, h⟩ := bind_eq_ok.1 h
  obtain ⟨_, hgaps, _⟩ := bind_eq_ok.1 h
  cases hgaps

theorem evaluateSignals_eq_ok {assetId : Option UUID} {items : List SignalItem} :
    evaluateSignals py fl db now organizationId readiness assetId = .ok items ↔
      assetsInScope db organizationId assetId = [] ∧ items = [] := by
  rw [evaluateSignals]
  cases hscope : assetsInScope db organizationId assetId with
  | nil =>
    rw [List.mapM_nil, pure_bind, pure_eq_ok]
    constructor
    · intro h
      refine ⟨rfl, h.symm.trans ?_⟩
      split
      · rfl
      · rfl
    · rintro ⟨_, rfl⟩
      split
      · rfl
      · rfl
  | cons asset assets =>
    refine ⟨fun h => ?_, fun h => (nomatch h.1)⟩
    obtain ⟨found, hfound, _⟩ := bind_eq_ok.1 h
    obtain ⟨found, hasset⟩ := mapM_isOk_iff.1 ⟨found, hfound⟩ asset List.mem_cons_self
    exact absurd hasset (evaluateAsset_ne_ok asset found)

end Evaluation

section Answers

variable {py : Interpreter} {fl : ℚ → ℚ} {db db' : Database} {organizationId : UUID}
  {readiness : Database → UUID → Asset → List SignalItem} {run : SignalRun}

theorem syncSignals_eq_ok {assetId : Option UUID} :
    syncSignals py fl readiness run organizationId assetId db = .ok db' ↔
      assetsInScope db organizationId assetId = [] ∧ db' = db := by
  constructor
  · intro h
    obtain ⟨items, hitems, h⟩ := bind_eq_ok.1 h
    obtain ⟨hscope, rfl⟩ := evaluateSignals_eq_ok.1 hitems
    cases h
    exact ⟨hscope, rfl⟩
  · rintro ⟨hscope, rfl⟩
    rw [syncSignals, evaluateSignals_eq_ok.2 ⟨hscope, rfl⟩]
    rfl

theorem respond_isOk {r : ProactiveSignalRecord} :
    (∃ response, respond db organizationId r = .ok response) ↔ isPresentable r = true := by
  constructor
  · rintro ⟨response, h⟩
    obtain ⟨_, hraise, _⟩ := bind_eq_ok.1 h
    simpa using raiseIf_eq_ok.1 hraise
  · intro h
    rw [respond, raiseIf, h, if_neg (by simp)]
    exact ⟨_, rfl⟩

theorem answerSignals_isOk {filters : SignalFilters} :
    (∃ responses, answerSignals db organizationId filters = .ok responses) ↔
      ∀ r ∈ db.proactiveSignals.rows, filters.selects organizationId r = true →
        isPresentable r = true := by
  have hmapM := mapM_isOk_iff (f := respond db organizationId)
    (l := db.proactiveSignals.select (filters.selects organizationId))
  constructor
  · rintro ⟨responses, h⟩ r hr hselected
    obtain ⟨rs, hrs, _⟩ := bind_eq_ok.1 h
    exact respond_isOk.1 (hmapM.1 ⟨rs, hrs⟩ r (Table.mem_select.2 ⟨hr, hselected⟩))
  · intro h
    obtain ⟨rs, hrs⟩ := hmapM.2 fun r hr =>
      respond_isOk.2 (h r (Table.mem_select.1 hr).1 (Table.mem_select.1 hr).2)
    rw [answerSignals, hrs]
    exact ⟨_, rfl⟩

/-- A call in a session that works on `db`: it answers of what is stored, or raises; nothing is
written. -/
theorem syncAndGetSignals_eq (py : Interpreter) (fl : ℚ → ℚ)
    (readiness : Database → UUID → Asset → List SignalItem) (run : SignalRun) (db : Database)
    (organizationId : UUID) (filters : SignalFilters) (committed : Database) :
    (assetsInScope db organizationId filters.assetId = [] ∧
      syncAndGetSignals py fl readiness run organizationId filters ⟨committed, db⟩
        = (answerSignals db organizationId filters, ⟨committed, db⟩)) ∨
    (assetsInScope db organizationId filters.assetId ≠ [] ∧
      ∃ e, syncAndGetSignals py fl readiness run organizationId filters ⟨committed, db⟩
        = (.error e, ⟨committed, db⟩)) := by
  rw [syncAndGetSignals, Sessions.update_query]
  cases hsync : syncSignals py fl readiness run organizationId filters.assetId db with
  | ok db' =>
    obtain ⟨hscope, rfl⟩ := syncSignals_eq_ok.1 hsync
    exact Or.inl ⟨hscope, rfl⟩
  | error e =>
    refine Or.inr ⟨fun hscope => ?_, e, rfl⟩
    rw [syncSignals_eq_ok.2 ⟨hscope, rfl⟩] at hsync
    cases hsync

end Answers

def Returns {α : Type} (c : Sessions.Call Database Error α) (db : Database) : Prop :=
  ∃ a, Sessions.answer c db = .ok a

/-- Every record of the organization that the filters ask for can be presented. -/
def Presentable (db : Database) (organizationId : UUID) (filters : SignalFilters) : Prop :=
  ∀ r ∈ db.proactiveSignals.rows, filters.selects organizationId r = true → isPresentable r = true

section Returning

variable (py : Interpreter) (fl : ℚ → ℚ) (readiness : Database → UUID → Asset → List SignalItem)
  (run : SignalRun) (db : Database) (organizationId : UUID)

theorem syncAndGetSignals_returns_iff (filters : SignalFilters) :
    Returns (syncAndGetSignals py fl readiness run organizationId filters) db ↔
      assetsInScope db organizationId filters.assetId = [] ∧
        Presentable db organizationId filters := by
  rw [Returns, Sessions.answer]
  rcases syncAndGetSignals_eq py fl readiness run db organizationId filters db with
    ⟨hscope, hrun⟩ | ⟨hscope, e, hrun⟩
  · rw [hrun]
    exact answerSignals_isOk.trans ⟨fun h => ⟨hscope, h⟩, fun h => h.2⟩
  · rw [hrun]
    exact ⟨fun ⟨_, h⟩ => (nomatch h), fun h => absurd h.1 hscope⟩

theorem getProactiveSummary_returns_iff :
    Returns (getProactiveSummary py fl readiness run organizationId) db ↔
      Returns (syncAndGetSignals py fl readiness run organizationId {}) db := by
  rw [Returns, Returns, Sessions.answer, Sessions.answer, getProactiveSummary]
  cases hrun : syncAndGetSignals py fl readiness run organizationId {} ⟨db, db⟩ with
  | mk r s =>
    cases r with
    | ok signals =>
      rw [Sessions.bind_of_ok hrun]
      exact ⟨fun _ => ⟨signals, rfl⟩, fun _ => ⟨_, rfl⟩⟩
    | error e =>
      rw [Sessions.bind_of_error hrun]
      exact ⟨fun ⟨_, h⟩ => (nomatch h), fun ⟨_, h⟩ => (nomatch h)⟩

end Returning

/-- A drone that has done nothing yet. -/
def newDrone : Database :=
  { assets := .single { id := 1, organizationId := 1, assetType := AssetType.drone
                        registration := some "DR-1" } }

end ProactiveIntelligenceService
end AeroComply
