import AeroComply.Services.AogAvailability

/-!
# AogLifecycle — an event from its declaration to the end, and its blockers

`mark_recovered` refuses while a blocker is open, and the table of transitions has no way out of
RECOVERED or CANCELLED.  `add_blocker` does not look at the status.  `closed_along_iff` says which
histories leave every recovered event without an open blocker.
-/

namespace AeroComply

open Relational (Table)

namespace AogEventStatus

def value : AogEventStatus → String
  | declared => "DECLARED"
  | inRecovery => "IN_RECOVERY"
  | recovered => "RECOVERED"
  | cancelled => "CANCELLED"

end AogEventStatus

namespace AogService

open AogRecoveryService (blockersOfEvent)

structure AogBlockerCreateRequest where
  blockerType : String
  description : String
  sourceReference : Option String := none
  blockerType_length : blockerType.length ≤ 32
  description_length : 1 ≤ description.length
  sourceReference_length : ∀ text ∈ sourceReference, text.length ≤ 255

def allowedTransitions : AogEventStatus → List AogEventStatus
  | .declared => [.inRecovery, .cancelled]
  | .inRecovery => [.recovered, .cancelled]
  | .recovered | .cancelled => []

def requireTransition (current target : AogEventStatus) : Except Error Unit :=
  raiseIf (target ∉ allowedTransitions current)
    (.conflict s!"Cannot transition AOG event from {current.value} to {target.value}"
      "invalid_transition")

def getAogEvent (db : Database) (organizationId eventId : UUID) : Except Error AogEvent :=
  oneOrRaise
    (db.aogEvents.select fun e => e.id = eventId && e.organizationId = organizationId)
    (.notFound "AOG event not found")

def newBlocker (newId organizationId : UUID) (event : AogEvent)
    (payload : AogBlockerCreateRequest) : AogBlocker where
  id := newId
  organizationId := organizationId
  aogEventId := event.id
  blockerType := payload.blockerType
  description := payload.description
  sourceReference := payload.sourceReference

/-- `add_blocker`: in whatever status the event is. -/
def addBlocker (db : Database) (newId organizationId : UUID) (actorUserId : Option UUID)
    (eventId : UUID) (payload : AogBlockerCreateRequest) : Except Error Database := do
  let event ← getAogEvent db organizationId eventId
  let aogBlockers ← addRow db.aogBlockers (newBlocker newId organizationId event payload)
  pure (({ db with aogBlockers }).recordAuditEvent organizationId actorUserId "aog_blocker.added"
    "AogBlocker" (some newId))

def resolveBlocker (db : Database) (organizationId : UUID) (actorUserId : Option UUID)
    (eventId blockerId : UUID) : Except Error Database := do
  let event ← getAogEvent db organizationId eventId
  match (blockersOfEvent db event).find? fun b => b.id = blockerId with
  | none => .error (.notFound "AOG blocker not found on this event")
  | some blocker =>
    let resolved := { blocker with resolved := true }
    pure (({ db with aogBlockers := db.aogBlockers.save resolved }).recordAuditEvent
      organizationId actorUserId "aog_blocker.resolved" "AogBlocker" (some blocker.id))

def transition (db : Database) (organizationId : UUID) (actorUserId : Option UUID)
    (event : AogEvent) (targetStatus : AogEventStatus) (action : String) :
    Except Error Database := do
  requireTransition event.status targetStatus
  let moved := { event with status := targetStatus }
  pure (({ db with aogEvents := db.aogEvents.save moved }).recordAuditEvent organizationId
    actorUserId action "AogEvent" (some event.id))

def startRecovery (db : Database) (organizationId : UUID) (actorUserId : Option UUID)
    (eventId : UUID) : Except Error Database := do
  let event ← getAogEvent db organizationId eventId
  transition db organizationId actorUserId event .inRecovery "aog_event.recovery_started"

def markRecovered (db : Database) (organizationId : UUID) (actorUserId : Option UUID)
    (eventId : UUID) : Except Error Database := do
  let event ← getAogEvent db organizationId eventId
  let unresolved := (blockersOfEvent db event).filter fun b => !b.resolved
  raiseIf (unresolved ≠ [])
    (.conflict "Cannot mark an AOG event recovered while unresolved blockers remain"
      "unresolved_blockers")
  transition db organizationId actorUserId event .recovered "aog_event.recovered"

def cancelAogEvent (db : Database) (organizationId : UUID) (actorUserId : Option UUID)
    (eventId : UUID) : Except Error Database := do
  let event ← getAogEvent db organizationId eventId
  transition db organizationId actorUserId event .cancelled "aog_event.cancelled"

end AogService

namespace AogLifecycle

open AogService
open AogRecoveryService (blockersOfEvent)

/-! ## The operations as actions -/

inductive Action
  | declareAog (newId organizationId : UUID) (actor : Option UUID)
      (payload : AogEventCreateRequest)
  | addBlocker (newId organizationId : UUID) (actor : Option UUID) (eventId : UUID)
      (payload : AogBlockerCreateRequest)
  | resolveBlocker (organizationId : UUID) (actor : Option UUID) (eventId blockerId : UUID)
  | startRecovery (organizationId : UUID) (actor : Option UUID) (eventId : UUID)
  | markRecovered (organizationId : UUID) (actor : Option UUID) (eventId : UUID)
  | cancelAogEvent (organizationId : UUID) (actor : Option UUID) (eventId : UUID)

def step (db : Database) : Action → Except Error Database
  | .declareAog newId org actor payload => AogService.declareAog db newId org actor payload
  | .addBlocker newId org actor eventId payload =>
    AogService.addBlocker db newId org actor eventId payload
  | .resolveBlocker org actor eventId blockerId =>
    AogService.resolveBlocker db org actor eventId blockerId
  | .startRecovery org actor eventId => AogService.startRecovery db org actor eventId
  | .markRecovered org actor eventId => AogService.markRecovered db org actor eventId
  | .cancelAogEvent org actor eventId => AogService.cancelAogEvent db org actor eventId

/-! ## What a call can do -/

/-- The four ways in which a call that goes through changes the events and their blockers. -/
inductive Effect (db : Database) (a : Action) (db' : Database) : Prop
  | declared (event : AogEvent) (hstatus : event.status = .declared)
      (haogEvents : db.aogEvents.insert? event = some db'.aogEvents)
      (haogBlockers : db'.aogBlockers = db.aogBlockers)
  | blockerAdded (event : AogEvent) (hevent : event ∈ db.aogEvents.rows) (blocker : AogBlocker)
      (hof : blocker.aogEventId = event.id)
      (hcall : ∃ actor payload,
        a = .addBlocker blocker.id event.organizationId actor event.id payload)
      (haogBlockers : db.aogBlockers.insert? blocker = some db'.aogBlockers)
      (haogEvents : db'.aogEvents = db.aogEvents)
  | blockerResolved (blocker : AogBlocker) (hblocker : blocker ∈ db.aogBlockers.rows)
      (haogBlockers : db'.aogBlockers = db.aogBlockers.save { blocker with resolved := true })
      (haogEvents : db'.aogEvents = db.aogEvents)
  | moved (event : AogEvent) (hevent : event ∈ db.aogEvents.rows) (target : AogEventStatus)
      (hallowed : target ∈ allowedTransitions event.status)
      (hclosed : target = .recovered → ∀ b ∈ db.aogBlockers.rows, b.aogEventId = event.id →
        b.resolved = true)
      (haogEvents : db'.aogEvents = db.aogEvents.save { event with status := target })
      (haogBlockers : db'.aogBlockers = db.aogBlockers)

variable {db db' : Database}

variable {event : AogEvent} {a : Action}

theorem getAogEvent_eq_ok {org eventId : UUID} (h : getAogEvent db org eventId = .ok event) :
    event ∈ db.aogEvents.rows ∧ event.id = eventId ∧ event.organizationId = org := by
  have hfound := mem_of_oneOrRaise h
  simp only [Bool.and_eq_true, decide_eq_true_eq] at hfound
  exact hfound

theorem getAogEvent_of_mem (h : event ∈ db.aogEvents.rows) :
    getAogEvent db event.organizationId event.id = .ok event := by
  refine oneOrRaise_of_key h (by simp) ?_
  intro x _ hx
  simp only [Bool.and_eq_true, decide_eq_true_eq] at hx
  exact hx.1

theorem mem_blockersOfEvent {b : AogBlocker} :
    b ∈ blockersOfEvent db event ↔ b ∈ db.aogBlockers.rows ∧ b.aogEventId = event.id := by
  rw [blockersOfEvent, Table.mem_select, decide_eq_true_eq]

theorem effect_of_transition {org : UUID} {actor : Option UUID} {target : AogEventStatus}
    {action : String} (hevent : event ∈ db.aogEvents.rows)
    (hclosed : target = .recovered → ∀ b ∈ db.aogBlockers.rows, b.aogEventId = event.id →
      b.resolved = true) :
    Leaves (Effect db a) (transition db org actor event target action) := by
  refine .bind fun _ hallowed => .ok ?_
  have hallowed := not_not.1 (raiseIf_eq_ok.1 hallowed)
  exact .moved event hevent target hallowed hclosed rfl rfl

/-- **ONE CALL**, whichever it is. -/
theorem step_effect (a : Action) : Leaves (Effect db a) (step db a) := by
  cases a with
  | declareAog newId org actor payload =>
    refine .bind fun aircraft _ => .bind fun _ _ => .bind fun _ hrows => .ok ?_
    exact .declared _ rfl (addRowOrRaise_eq_ok.1 hrows) rfl
  | addBlocker newId org actor eventId payload =>
    refine .bind fun event hevent => .bind fun _ hrows => .ok ?_
    obtain ⟨hmem, rfl, rfl⟩ := getAogEvent_eq_ok hevent
    exact .blockerAdded event hmem _ rfl ⟨actor, payload, rfl⟩ (addRowOrRaise_eq_ok.1 hrows) rfl
  | resolveBlocker org actor eventId blockerId =>
    refine .bind fun event hevent => ?_
    dsimp only
    split
    · exact .error _
    · next blocker hfound =>
      have hblocker := (mem_blockersOfEvent.1 (List.mem_of_find?_eq_some hfound)).1
      exact .ok (.blockerResolved blocker hblocker rfl rfl)
  | startRecovery org actor eventId =>
    refine .bind fun event hevent => ?_
    exact effect_of_transition (getAogEvent_eq_ok hevent).1 fun h => absurd h (by decide)
  | markRecovered org actor eventId =>
    refine .bind fun event hevent => .bind fun _ hnone => ?_
    have hnone := not_not.1 (raiseIf_eq_ok.1 hnone)
    refine effect_of_transition (getAogEvent_eq_ok hevent).1 fun _ b hb hof => ?_
    have hopen := List.filter_eq_nil_iff.1 hnone b (mem_blockersOfEvent.2 ⟨hb, hof⟩)
    simpa using hopen
  | cancelAogEvent org actor eventId =>
    refine .bind fun event hevent => ?_
    exact effect_of_transition (getAogEvent_eq_ok hevent).1 fun h => absurd h (by decide)

/-! ## What holds of the tables -/

/-- Every recovered event has all its blockers resolved. -/
def RecoveredClosed (db : Database) : Prop :=
  ∀ event ∈ db.aogEvents.rows, event.status = .recovered →
    ∀ b ∈ db.aogBlockers.rows, b.aogEventId = event.id → b.resolved = true

/-- An event that is RECOVERED or CANCELLED in the first state is so in the second. -/
def Final (db db' : Database) : Prop :=
  ∀ event ∈ db.aogEvents.rows, event.status = .recovered ∨ event.status = .cancelled →
    ∃ event' ∈ db'.aogEvents.rows, event'.id = event.id ∧ event'.status = event.status

theorem Final.refl (db : Database) : Final db db := fun event h _ => ⟨event, h, rfl, rfl⟩

theorem Final.trans {db db' db'' : Database} (h : Final db db') (h' : Final db' db'') :
    Final db db'' := by
  intro event hmem hfinal
  obtain ⟨event', hmem', hid, hstatus⟩ := h event hmem hfinal
  obtain ⟨event'', hmem'', hid', hstatus'⟩ := h' event' hmem' (hstatus ▸ hfinal)
  exact ⟨event'', hmem'', hid'.trans hid, hstatus'.trans hstatus⟩

theorem not_final_of_allowed {status target : AogEventStatus}
    (h : target ∈ allowedTransitions status) : ¬(status = .recovered ∨ status = .cancelled) := by
  rintro (rfl | rfl) <;> cases h

/-- The events are only added to. -/
theorem Effect.final (h : Effect db a db') : Final db db' := by
  intro event hmem hfinal
  cases h with
  | declared new hstatus haogEvents haogBlockers =>
    exact ⟨event, (Table.mem_insert? haogEvents).2 (Or.inl hmem), rfl, rfl⟩
  | blockerAdded _ _ _ _ _ _ haogEvents => exact ⟨event, haogEvents ▸ hmem, rfl, rfl⟩
  | blockerResolved _ _ _ haogEvents => exact ⟨event, haogEvents ▸ hmem, rfl, rfl⟩
  | moved old hold target hallowed _ haogEvents _ =>
    rw [haogEvents]
    rcases Table.kept_or_replaced hold (r := { old with status := target }) rfl hmem with
      hkept | ⟨rfl, -⟩
    · exact ⟨event, hkept, rfl, rfl⟩
    · exact absurd hfinal (not_final_of_allowed hallowed)

/-! ## The blocker that comes too late -/

/-- The call puts a blocker on an event that is recovered. -/
def OntoRecovered (db : Database) : Action → Prop
  | .addBlocker newId org _ eventId _ =>
    (∀ b ∈ db.aogBlockers.rows, b.id ≠ newId) ∧
      ∃ event ∈ db.aogEvents.rows, event.id = eventId ∧ event.organizationId = org ∧
        event.status = .recovered
  | _ => False

instance (db : Database) : DecidablePred (OntoRecovered db) := fun a =>
  match a with
  | .addBlocker newId org _ eventId _ =>
    inferInstanceAs (Decidable ((∀ b ∈ db.aogBlockers.rows, b.id ≠ newId) ∧
      ∃ event ∈ db.aogEvents.rows, event.id = eventId ∧ event.organizationId = org ∧
        event.status = .recovered))
  | .declareAog _ _ _ _ | .resolveBlocker _ _ _ _ | .startRecovery _ _ _ | .markRecovered _ _ _
  | .cancelAogEvent _ _ _ => inferInstanceAs (Decidable False)

theorem not_closed_of_ontoRecovered (h : OntoRecovered db a) :
    ¬RecoveredClosed (Runs.attempt step db a) := by
  cases a with
  | addBlocker newId org actor eventId payload =>
    obtain ⟨hfresh, event, hmem, rfl, rfl, hrecovered⟩ := h
    let blocker := newBlocker newId event.organizationId event payload
    obtain ⟨rows, hrows⟩ : ∃ rows, db.aogBlockers.insert? blocker = some rows :=
      Option.ne_none_iff_exists'.1 fun hnone =>
        have ⟨b, hb, hkey⟩ := Table.insert?_eq_none.1 hnone
        hfresh b hb hkey
    have hadd : addBlocker db newId event.organizationId actor event.id payload =
        .ok (({ db with aogBlockers := rows }).recordAuditEvent event.organizationId actor
          "aog_blocker.added" "AogBlocker" (some newId)) := by
      rw [addBlocker, getAogEvent_of_mem hmem, ok_bind,
        show addRow db.aogBlockers blocker = .ok rows from addRowOrRaise_eq_ok.2 hrows]
      rfl
    have hattempt : (Runs.attempt step db (.addBlocker newId event.organizationId actor event.id
        payload)) = ({ db with aogBlockers := rows }).recordAuditEvent event.organizationId actor
          "aog_blocker.added" "AogBlocker" (some newId) := by
      rw [Runs.attempt, step, hadd]
    intro hclosed
    rw [hattempt] at hclosed
    have hresolved := hclosed event hmem hrecovered blocker
      ((Table.mem_insert? hrows).2 (Or.inr rfl)) rfl
    cases hresolved
  | declareAog | resolveBlocker | startRecovery | markRecovered | cancelAogEvent => exact h.elim

theorem step_recoveredClosed (hok : ¬OntoRecovered db a) (hclosed : RecoveredClosed db) :
    Leaves RecoveredClosed (step db a) := by
  intro db' h event hmem hrecovered b hb hof
  have heffect := step_effect a db' h
  cases heffect with
  | declared new hstatus haogEvents haogBlockers =>
    rw [haogBlockers] at hb
    rcases (Table.mem_insert? haogEvents).1 hmem with hmem | rfl
    · exact hclosed event hmem hrecovered b hb hof
    · exact absurd (hstatus.symm.trans hrecovered) (by decide)
  | blockerAdded target htarget blocker hofTarget hcall haogBlockers haogEvents =>
    rw [haogEvents] at hmem
    rcases (Table.mem_insert? haogBlockers).1 hb with hb | rfl
    · exact hclosed event hmem hrecovered b hb hof
    · -- the call is the blocker on this event
      have hsame : target = event := Table.eq_of_key_eq htarget hmem (hofTarget.symm.trans hof)
      subst hsame
      obtain ⟨actor, payload, rfl⟩ := hcall
      refine absurd ⟨fun x hx hid => ?_, target, htarget, rfl, rfl, hrecovered⟩ hok
      exact (Table.insert?_eq_some haogBlockers).1 (List.mem_map.2 ⟨x, hx, hid⟩)
  | blockerResolved blocker hblocker haogBlockers haogEvents =>
    rw [haogEvents] at hmem
    rw [haogBlockers] at hb
    rcases Table.mem_save.1 hb with ⟨hb, -⟩ | ⟨rfl, -⟩
    · exact hclosed event hmem hrecovered b hb hof
    · rfl
  | moved old hold target hallowed hall haogEvents haogBlockers =>
    rw [haogBlockers] at hb
    rw [haogEvents] at hmem
    rcases Table.mem_save.1 hmem with ⟨hmem, -⟩ | ⟨rfl, -⟩
    · exact hclosed event hmem hrecovered b hb hof
    · exact hall hrecovered b hb hof

theorem attempt_closed_iff (a : Action) (hclosed : RecoveredClosed db) :
    RecoveredClosed (Runs.attempt step db a) ∧ Final db (Runs.attempt step db a) ↔
      ¬OntoRecovered db a := by
  constructor
  · intro h honto
    exact not_closed_of_ontoRecovered honto h.1
  · intro hok
    rcases Runs.attempt_cases step db a with h | h
    · rw [h]
      exact ⟨hclosed, .refl db⟩
    · exact ⟨step_recoveredClosed hok hclosed _ h, (step_effect a _ h).final⟩

/-- **A RECOVERED EVENT HAS NO OPEN BLOCKER**, and nothing leaves RECOVERED or CANCELLED, all along
a history exactly when no call of it puts a blocker on a recovered event. -/
theorem closed_along_iff (db : Database) (hdb : RecoveredClosed db) (as : List Action) :
    ((∀ s ∈ Runs.visited step db as, RecoveredClosed s) ∧
        (Runs.visited step db as).Pairwise Final) ↔
      Runs.StepsMeet step (fun s a => ¬OntoRecovered s a) db as :=
  Runs.pairwise_visited_iff (P := RecoveredClosed) (R := Final) (fun _ _ _ => Final.trans)
    (fun _ a => attempt_closed_iff a) as db hdb

/-! ## A blocker in time, and one too late -/

def onGround : Database where
  aircraft := .single
    { id := 1, organizationId := 1, registration := "N1", msn := "1", aircraftType := "A320" }

theorem sourceReference_unset : ∀ text ∈ (none : Option String), text.length ≤ 255 :=
  fun _ h => (nomatch h)

def missingPart : AogBlockerCreateRequest where
  blockerType := "MATERIAL"
  description := "A part is missing"
  blockerType_length := by decide
  description_length := by decide
  sourceReference_length := sourceReference_unset

theorem critical_length : "CRITICAL".length ≤ 16 := by decide

def declaration : AogEventCreateRequest where
  aircraftId := 1
  severity_length := critical_length

def recovery : List Action :=
  [.declareAog 2 1 none declaration, .addBlocker 3 1 none 2 missingPart,
    .startRecovery 1 none 2, .resolveBlocker 1 none 2 3, .markRecovered 1 none 2]

theorem onGround_closed : RecoveredClosed onGround := fun _ h => (nomatch h)

theorem closed_along_recovery :
    (∀ s ∈ Runs.visited step onGround recovery, RecoveredClosed s) ∧
      (Runs.visited step onGround recovery).Pairwise Final :=
  (closed_along_iff onGround onGround_closed recovery).2 (by decide)

/-- The same history with one more blocker, after the recovery. -/
def lateHistory : List Action := recovery ++ [.addBlocker 4 1 none 2 missingPart]

theorem recovered_with_open_blocker :
    RecoveredClosed onGround ∧ ∃ s ∈ Runs.visited step onGround lateHistory,
      ∃ event ∈ s.aogEvents.rows, event.status = .recovered ∧
        ∃ b ∈ s.aogBlockers.rows, b.aogEventId = event.id ∧ b.resolved = false :=
  ⟨fun _ h => (nomatch h), by decide⟩

end AogLifecycle
end AeroComply
