import AeroComply.Services.ProactiveAnswers

/-!
# SignalRequests — what an operator's decision leaves

Each request has a session of its own, which is closed without a commit: `get_db`
opens it, the service flushes.  A decision is seen by the request that makes it, and
by no later one; `decisions_survive_iff` says for which databases nobody can tell.
-/

namespace AeroComply

open Relational (Table)

namespace ProactiveIntelligenceService

open Sessions (Call)

/-- What an operator asks for. -/
inductive SignalAction
  | list (filters : SignalFilters)
  | acknowledge (signalId userId : UUID)
  | setInReview (signalId : UUID) (notes : Option String)
  | resolve (signalId userId : UUID) (resolutionNotes : String)
  | dismiss (signalId userId : UUID) (dismissalReason : String)

/-- A request of a user of the organization. -/
structure SignalRequest where
  organizationId : UUID
  run : SignalRun
  action : SignalAction

section Requests

variable (py : Interpreter) (fl : ℚ → ℚ) (readiness : Database → UUID → Asset → List SignalItem)

namespace SignalRequest

/-- The signals that the request answers. -/
def call (request : SignalRequest) : Call Database Error (List ProactiveSignalResponse) :=
  match request.action with
  | .list filters => syncAndGetSignals py fl readiness request.run request.organizationId filters
  | .acknowledge signalId userId => do
    let s ← acknowledgeSignal py fl readiness request.run request.organizationId signalId userId
    pure [s]
  | .setInReview signalId notes => do
    let s ← setSignalInReview py fl readiness request.run request.organizationId signalId notes
    pure [s]
  | .resolve signalId userId resolutionNotes => do
    let s ← resolveSignal py fl readiness request.run request.organizationId signalId userId
      resolutionNotes
    pure [s]
  | .dismiss signalId userId dismissalReason => do
    let s ← dismissSignal py fl readiness request.run request.organizationId signalId userId
      dismissalReason
    pure [s]

/-- The request for its effect alone. -/
def effect (request : SignalRequest) : Call Database Error Unit := do
  let _ ← request.call py fl readiness

/-- The request lists signals, and no operator acts. -/
def isListing (request : SignalRequest) : Bool :=
  match request.action with
  | .list _ => true
  | .acknowledge _ _ | .setInReview _ _ | .resolve _ _ _ | .dismiss _ _ _ => false

/-- The status that a resolution or a dismissal gives. -/
def decides (request : SignalRequest) : Option SignalStatus :=
  match request.action with
  | .resolve _ _ _ => some .resolved
  | .dismiss _ _ _ => some .dismissed
  | .list _ | .acknowledge _ _ | .setInReview _ _ => none

end SignalRequest

/-- The database after some requests. -/
def afterRequests (db : Database) (requests : List SignalRequest) : Database :=
  Sessions.after (SignalRequest.effect py fl readiness) db requests

/-- The answer of a request that follows some others. -/
def answerAfter (db : Database) (requests : List SignalRequest) (request : SignalRequest) :
    Except Error (List ProactiveSignalResponse) :=
  Sessions.answer (request.call py fl readiness) (afterRequests py fl readiness db requests)

/-- An operator of the organization has acted on the key, and the request returned. -/
def ActsOn (db : Database) (requests : List SignalRequest) (request : SignalRequest)
    (organizationId : UUID) (key : String) : Prop :=
  request.isListing = false ∧ request.organizationId = organizationId ∧
    ∃ s, answerAfter py fl readiness db requests request = .ok [s] ∧ s.signalKey = key

/-- A listing returns, shows the key in no other status, and shows it at all if it leaves nothing
out. -/
def Reports (db : Database) (requests : List SignalRequest) (listing : SignalRequest)
    (key : String) (status : SignalStatus) : Prop :=
  ∃ responses, answerAfter py fl readiness db requests listing = .ok responses ∧
    (∀ s ∈ responses, s.signalKey = key → s.status = status) ∧
    (listing.action = .list {} → ∃ s ∈ responses, s.signalKey = key)

/-- After a request that has resolved or dismissed a key, every listing reports the key with that
status until another operator request on it. -/
def DecisionsSurvive (db : Database) (requests : List SignalRequest) : Prop :=
  ∀ before decision middle listing rest status s,
    requests = before ++ decision :: middle ++ listing :: rest →
    decision.decides = some status →
    answerAfter py fl readiness db before decision = .ok [s] →
    listing.isListing = true → listing.organizationId = decision.organizationId →
    (∀ earlier request later, middle = earlier ++ request :: later →
      ¬ActsOn py fl readiness db (before ++ decision :: earlier) request decision.organizationId
        s.signalKey) →
    Reports py fl readiness db (before ++ decision :: middle) listing s.signalKey status

end Requests

/-! ## Nothing is committed -/

section Uncommitted

variable {py : Interpreter} {fl : ℚ → ℚ} {readiness : Database → UUID → Asset → List SignalItem}
  {run : SignalRun} {organizationId : UUID}

open Sessions (Uncommitted)

theorem uncommitted_syncAndGetSignals (filters : SignalFilters) :
    Uncommitted (syncAndGetSignals py fl readiness run organizationId filters) :=
  (Uncommitted.update _).bind fun _ => Uncommitted.query _

theorem uncommitted_decideSignal (signalId : UUID)
    (decide : ProactiveSignalRecord → ProactiveSignalRecord) :
    Uncommitted (decideSignal py fl readiness run organizationId signalId decide) :=
  (Uncommitted.query _).bind fun _ => (Uncommitted.update _).bind fun _ =>
    (uncommitted_syncAndGetSignals _).bind fun _ => Uncommitted.query _

theorem uncommitted_effect (request : SignalRequest) :
    Uncommitted (request.effect py fl readiness) := by
  refine Uncommitted.bind ?_ fun _ => Uncommitted.pure _
  rw [SignalRequest.call]
  cases request.action with
  | list filters => exact uncommitted_syncAndGetSignals filters
  | acknowledge signalId userId =>
    exact (uncommitted_decideSignal _ _).bind fun _ => Uncommitted.pure _
  | setInReview signalId notes =>
    exact (uncommitted_decideSignal _ _).bind fun _ => Uncommitted.pure _
  | resolve signalId userId resolutionNotes =>
    exact (uncommitted_decideSignal _ _).bind fun _ => Uncommitted.pure _
  | dismiss signalId userId dismissalReason =>
    exact (uncommitted_decideSignal _ _).bind fun _ => Uncommitted.pure _

/-- **NO REQUEST LEAVES ANYTHING**, whatever it was. -/
theorem afterRequests_eq (db : Database) (requests : List SignalRequest) :
    afterRequests py fl readiness db requests = db :=
  Uncommitted.after uncommitted_effect db requests

end Uncommitted

/-! ## A decision, seen by its own request -/

section Decisions

variable {py : Interpreter} {fl : ℚ → ℚ} {readiness : Database → UUID → Asset → List SignalItem}
  {run : SignalRun} {db : Database} {organizationId signalId : UUID}
  {write : ProactiveSignalRecord → ProactiveSignalRecord}

/-- What a decision leaves alone. -/
structure OnlyDecides (write : ProactiveSignalRecord → ProactiveSignalRecord) : Prop where
  id : ∀ r, (write r).id = r.id
  organization : ∀ r, (write r).organizationId = r.organizationId
  key : ∀ r, (write r).signalKey = r.signalKey
  presentable : ∀ r, isPresentable (write r) = isPresentable r

/-- The session's copy after the write. -/
def decidedOn (db : Database) (r : ProactiveSignalRecord) : Database :=
  { db with proactiveSignals := db.proactiveSignals.save r }

variable {r : ProactiveSignalRecord}

theorem getSignal_eq_ok (h : getSignal organizationId db signalId = .ok r) :
    r ∈ db.proactiveSignals.rows ∧ r.id = signalId ∧ r.organizationId = organizationId := by
  simpa using mem_of_oneOrRaise h

theorem getSignal_of_mem (hr : r ∈ db.proactiveSignals.rows)
    (horg : r.organizationId = organizationId) : getSignal organizationId db r.id = .ok r := by
  refine oneOrRaise_of_key hr (by simp [horg]) ?_
  intro x _ hx
  simp only [Bool.and_eq_true, decide_eq_true_eq] at hx
  exact hx.1

theorem answer_decideSignal (hget : getSignal organizationId db signalId = .ok r) :
    Sessions.answer (decideSignal py fl readiness run organizationId signalId write) db
      = match (syncAndGetSignals py fl readiness run organizationId {}
            ⟨db, decidedOn db (write r)⟩).1 with
        | .error e => .error e
        | .ok signals =>
          match signals.find? fun s => s.id = signalId with
          | some s => .ok s
          | none => .error signalNotFound := by
  have hwrite : Sessions.update (fun db' : Database =>
      (.ok (decidedOn db' (write r)) : Except Error Database)) ⟨db, db⟩
        = (.ok (), ⟨db, decidedOn db (write r)⟩) := rfl
  rw [Sessions.answer, decideSignal, Sessions.bind_of_ok (Sessions.query_of hget)]
  show ((Sessions.update (fun db' : Database =>
    (.ok (decidedOn db' (write r)) : Except Error Database)) >>= _) _).1 = _
  rw [Sessions.bind_of_ok hwrite]
  cases hsync : syncAndGetSignals py fl readiness run organizationId {}
      ⟨db, decidedOn db (write r)⟩ with
  | mk answer s' =>
    cases answer with
    | error e => rw [Sessions.bind_of_error hsync]
    | ok signals =>
      rw [Sessions.bind_of_ok hsync]
      rfl

theorem presentable_decidedOn (hwrite : OnlyDecides write) (hr : r ∈ db.proactiveSignals.rows) :
    Presentable (decidedOn db (write r)) organizationId {} ↔ Presentable db organizationId {} := by
  have hselects : ∀ x : ProactiveSignalRecord,
      SignalFilters.selects {} organizationId x = true ↔ x.organizationId = organizationId := by
    intro x
    simp [SignalFilters.selects, passes]
  constructor
  · intro h x hx hselected
    rcases Table.kept_or_replaced hr (hwrite.id r).symm hx with hkept | ⟨rfl, hnew⟩
    · exact h x hkept hselected
    · rw [← hwrite.presentable]
      refine h _ hnew ?_
      rw [hselects, hwrite.organization]
      exact (hselects x).1 hselected
  · intro h x hx hselected
    rcases Table.mem_save.1 hx with ⟨hold, _⟩ | ⟨rfl, _⟩
    · exact h x hold hselected
    · rw [hwrite.presentable]
      refine h r hr ?_
      rw [hselects, ← hwrite.organization]
      exact (hselects _).1 hselected

theorem respond_eq_ok {s : ProactiveSignalResponse} (h : respond db organizationId r = .ok s) :
    s.id = r.id ∧ s.signalKey = r.signalKey ∧ s.status = r.status := by
  obtain ⟨_, _, h⟩ := bind_eq_ok.1 h
  cases pure_eq_ok.1 h
  exact ⟨rfl, rfl, rfl⟩

theorem mem_answer {responses : List ProactiveSignalResponse}
    (h : answerSignals db organizationId {} = .ok responses) :
    (∀ s ∈ responses, ∃ r ∈ db.proactiveSignals.rows, respond db organizationId r = .ok s) ∧
    ∀ r ∈ db.proactiveSignals.rows, r.organizationId = organizationId →
      ∃ s ∈ responses, respond db organizationId r = .ok s := by
  obtain ⟨rs, hrs, h⟩ := bind_eq_ok.1 h
  cases pure_eq_ok.1 h
  refine ⟨?_, ?_⟩
  · intro s hs
    obtain ⟨r, hr, hs⟩ := exists_of_mapM hrs s (List.mem_mergeSort.1 hs)
    exact ⟨r, (Table.mem_select.1 hr).1, hs⟩
  · intro r hr horg
    have hselected : SignalFilters.selects {} organizationId r = true := by
      simp [SignalFilters.selects, passes, horg]
    obtain ⟨s, hs, hresponse⟩ := exists_mem_of_mapM hrs r (Table.mem_select.2 ⟨hr, hselected⟩)
    exact ⟨s, List.mem_mergeSort.2 hs, hresponse⟩

/-- **A DECISION THAT RETURNS** found its signal, in an organization without live assets. -/
theorem of_decideSignal (hwrite : OnlyDecides write) {s : ProactiveSignalResponse}
    (h : Sessions.answer (decideSignal py fl readiness run organizationId signalId write) db
      = .ok s) :
    assetsInScope db organizationId none = [] ∧ Presentable db organizationId {} ∧
      ∃ r ∈ db.proactiveSignals.rows, r.organizationId = organizationId := by
  cases hget : getSignal organizationId db signalId with
  | error e =>
    rw [Sessions.answer, decideSignal, Sessions.bind_of_error (Sessions.query_of hget)] at h
    cases h
  | ok r =>
    obtain ⟨hr, _, horg⟩ := getSignal_eq_ok hget
    rw [answer_decideSignal hget] at h
    rcases syncAndGetSignals_eq py fl readiness run (decidedOn db (write r)) organizationId {} db
      with ⟨hscope, hrun⟩ | ⟨_, e, hrun⟩
    · refine ⟨hscope, ?_, r, hr, horg⟩
      rw [hrun] at h
      rw [← presentable_decidedOn hwrite hr]
      refine answerSignals_isOk.1 ?_
      cases hanswer : answerSignals (decidedOn db (write r)) organizationId {} with
      | ok responses => exact ⟨responses, rfl⟩
      | error e =>
        simp only [hanswer] at h
        cases h
    · rw [hrun] at h
      cases h

theorem decideSignal_returns (py : Interpreter) (fl : ℚ → ℚ)
    (readiness : Database → UUID → Asset → List SignalItem) (run : SignalRun)
    (hwrite : OnlyDecides write) (hscope : assetsInScope db organizationId none = [])
    (hpresentable : Presentable db organizationId {}) (hr : r ∈ db.proactiveSignals.rows)
    (horg : r.organizationId = organizationId) :
    ∃ s, Sessions.answer (decideSignal py fl readiness run organizationId r.id write) db = .ok s ∧
      s.signalKey = r.signalKey := by
  rw [answer_decideSignal (getSignal_of_mem hr horg)]
  rcases syncAndGetSignals_eq py fl readiness run (decidedOn db (write r)) organizationId {} db
    with ⟨_, hrun⟩ | ⟨hsome, _⟩
  · obtain ⟨responses, hanswer⟩ :=
      answerSignals_isOk.2 ((presentable_decidedOn hwrite hr).2 hpresentable)
    rw [hrun, hanswer]
    obtain ⟨hfrom, hall⟩ := mem_answer hanswer
    have hdecided : write r ∈ (decidedOn db (write r)).proactiveSignals.rows :=
      (Table.mem_save_of_mem hr (hwrite.id r).symm).2 (Or.inr rfl)
    obtain ⟨s, hs, hresponse⟩ := hall _ hdecided ((hwrite.organization r).trans horg)
    have hsid : s.id = r.id := (respond_eq_ok hresponse).1.trans (hwrite.id r)
    cases hfound : responses.find? fun s => s.id = r.id with
    | none => exact absurd (decide_eq_true hsid) (List.find?_eq_none.1 hfound s hs)
    | some found =>
      refine ⟨found, by simp only [hfound], ?_⟩
      have hid : found.id = r.id := by simpa using List.find?_some hfound
      obtain ⟨x, hx, hxresponse⟩ := hfrom found (List.mem_of_find?_eq_some hfound)
      obtain ⟨hxid, hxkey, _⟩ := respond_eq_ok hxresponse
      have hxr : x = write r := by
        refine Table.eq_of_key_eq hx hdecided ?_
        exact (hxid.symm.trans hid).trans (hwrite.id r).symm
      rw [hxkey, hxr, hwrite.key]
  · exact absurd hscope hsome

end Decisions

/-! ## Which databases keep their operators' decisions -/

section Survival

variable {py : Interpreter} {fl : ℚ → ℚ} {readiness : Database → UUID → Asset → List SignalItem}
  {db : Database}

/-- The organization has signals that can be decided on: it has no live asset, and its records can
be presented. -/
def HasDecidable (db : Database) (organizationId : UUID) : Prop :=
  assetsInScope db organizationId none = [] ∧ Presentable db organizationId {} ∧
    ∃ r ∈ db.proactiveSignals.rows, r.organizationId = organizationId

/-- The request that gives a signal the status it does not have. -/
def reversal (r : ProactiveSignalRecord) : SignalRequest where
  organizationId := r.organizationId
  run := ⟨0, id⟩
  action := if r.status = .resolved then .dismiss r.id 0 "no" else .resolve r.id 0 "done"

/-- A full listing. -/
def listingFor (organizationId : UUID) : SignalRequest := ⟨organizationId, ⟨0, id⟩, .list {}⟩

theorem onlyDecides_resolve (userId : UUID) (now : DateTime) (notes : String) :
    OnlyDecides fun signal => { signal with
      status := .resolved
      resolvedByUserId := some userId
      resolvedAt := some now
      resolutionNotes := some notes } :=
  ⟨fun _ => rfl, fun _ => rfl, fun _ => rfl, fun _ => rfl⟩

theorem onlyDecides_dismiss (userId : UUID) (now : DateTime) (reason : String) :
    OnlyDecides fun signal => { signal with
      status := .dismissed
      dismissedByUserId := some userId
      dismissedAt := some now
      dismissalReason := some reason } :=
  ⟨fun _ => rfl, fun _ => rfl, fun _ => rfl, fun _ => rfl⟩

variable {responses : List ProactiveSignalResponse}

theorem answer_single {c : Call Database Error ProactiveSignalResponse} :
    Sessions.answer (do let s ← c; pure [s]) db = .ok responses ↔
      ∃ s, Sessions.answer c db = .ok s ∧ responses = [s] := by
  rw [Sessions.answer, Sessions.answer]
  cases hrun : c ⟨db, db⟩ with
  | mk answer s' =>
    cases answer with
    | error e =>
      rw [Sessions.bind_of_error hrun]
      constructor
      · intro h
        cases h
      · rintro ⟨_, h, _⟩
        cases h
    | ok s =>
      rw [Sessions.bind_of_ok hrun]
      constructor
      · intro h
        cases h
        exact ⟨s, rfl, rfl⟩
      · rintro ⟨_, h, rfl⟩
        cases h
        rfl

theorem hasDecidable_of_decision {decision : SignalRequest} {status : SignalStatus}
    (hdecides : decision.decides = some status)
    (h : Sessions.answer (decision.call py fl readiness) db = .ok responses) :
    HasDecidable db decision.organizationId := by
  obtain ⟨organizationId, run, action⟩ := decision
  cases action with
  | list filters => cases hdecides
  | acknowledge signalId userId => cases hdecides
  | setInReview signalId notes => cases hdecides
  | resolve signalId userId notes =>
    obtain ⟨s, hs, _⟩ := answer_single.1 h
    exact of_decideSignal (onlyDecides_resolve userId run.now notes) hs
  | dismiss signalId userId reason =>
    obtain ⟨s, hs, _⟩ := answer_single.1 h
    exact of_decideSignal (onlyDecides_dismiss userId run.now reason) hs

theorem reversal_returns (py : Interpreter) (fl : ℚ → ℚ)
    (readiness : Database → UUID → Asset → List SignalItem) {r : ProactiveSignalRecord}
    (hscope : assetsInScope db r.organizationId none = [])
    (hpresentable : Presentable db r.organizationId {}) (hr : r ∈ db.proactiveSignals.rows) :
    ∃ status s, (reversal r).decides = some status ∧ status ≠ r.status ∧
      Sessions.answer ((reversal r).call py fl readiness) db = .ok [s] ∧
      s.signalKey = r.signalKey := by
  by_cases hstatus : r.status = .resolved
  · have hreversal : reversal r = ⟨r.organizationId, ⟨0, id⟩, .dismiss r.id 0 "no"⟩ := by
      rw [reversal, if_pos hstatus]
    obtain ⟨s, hs, hkey⟩ := decideSignal_returns py fl readiness ⟨0, id⟩ (onlyDecides_dismiss 0 0 "no")
      hscope hpresentable hr rfl
    refine ⟨.dismissed, s, ?_, ?_, ?_, hkey⟩
    · rw [hreversal]
      rfl
    · rw [hstatus]
      decide
    · rw [hreversal]
      exact answer_single.2 ⟨s, hs, rfl⟩
  · have hreversal : reversal r = ⟨r.organizationId, ⟨0, id⟩, .resolve r.id 0 "done"⟩ := by
      rw [reversal, if_neg hstatus]
    obtain ⟨s, hs, hkey⟩ := decideSignal_returns py fl readiness ⟨0, id⟩ (onlyDecides_resolve 0 0 "done")
      hscope hpresentable hr rfl
    refine ⟨.resolved, s, ?_, Ne.symm hstatus, ?_, hkey⟩
    · rw [hreversal]
      rfl
    · rw [hreversal]
      exact answer_single.2 ⟨s, hs, rfl⟩

theorem stored_of_listing {r : ProactiveSignalRecord}
    (h : Sessions.answer ((listingFor r.organizationId).call py fl readiness) db = .ok responses)
    (hr : r ∈ db.proactiveSignals.rows) :
    ∃ s ∈ responses, s.signalKey = r.signalKey ∧ s.status = r.status := by
  have hanswer : answerSignals db r.organizationId {} = .ok responses := by
    rw [Sessions.answer] at h
    rcases syncAndGetSignals_eq py fl readiness ⟨0, id⟩ db r.organizationId {} db with
      ⟨_, hrun⟩ | ⟨_, e, hrun⟩
    · exact (congrArg Prod.fst hrun).symm.trans h
    · cases (congrArg Prod.fst hrun).symm.trans h
  obtain ⟨s, hs, hresponse⟩ := (mem_answer hanswer).2 r hr rfl
  exact ⟨s, hs, (respond_eq_ok hresponse).2⟩

/-- **A DECISION IS GONE** with the session of its request: the next listing shows the status of
before. -/
theorem decision_forgotten (py : Interpreter) (fl : ℚ → ℚ)
    (readiness : Database → UUID → Asset → List SignalItem) {organizationId : UUID}
    (h : HasDecidable db organizationId) :
    ∃ requests, ¬DecisionsSurvive py fl readiness db requests := by
  obtain ⟨hscope, hpresentable, r, hr, rfl⟩ := h
  obtain ⟨status, s, hdecides, hne, hreturns, hkey⟩ :=
    reversal_returns py fl readiness hscope hpresentable hr
  refine ⟨[reversal r, listingFor r.organizationId], fun hsurvive => ?_⟩
  have hdecision : answerAfter py fl readiness db [] (reversal r) = .ok [s] := by
    rw [answerAfter, afterRequests_eq]
    exact hreturns
  obtain ⟨responses, hlisting, hstatus, _⟩ :=
    hsurvive [] (reversal r) [] (listingFor r.organizationId) [] status s rfl hdecides hdecision
      rfl rfl fun earlier request later h => absurd h (by simp)
  rw [answerAfter, afterRequests_eq] at hlisting
  obtain ⟨shown, hshown, hshownkey, hshownstatus⟩ := stored_of_listing hlisting hr
  exact hne ((hstatus shown hshown (hshownkey.trans hkey.symm)).symm.trans hshownstatus)

/-- The open signal of a drone that is no longer there. -/
def leftoverSignal : Database :=
  { proactiveSignals := .single { id := 1, organizationId := 1, signalKey := "maint_overdue:1:1"
                                  signalType := "MAINTENANCE_THRESHOLD", severity := "CRITICAL"
                                  priority := "CRITICAL", assetId := some 1, detectedAt := 0 } }

end Survival

end ProactiveIntelligenceService
end AeroComply
