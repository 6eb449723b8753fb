import AeroComply.Lib.Runs

/-!
# Sessions — calls that commit more than once

A session works on its own copy of a store.  A commit makes the copy durable; a
raised error gives up what was not committed, so a call that commits part of its
work and then fails leaves that part behind.

`Keeps P` is the invariant rule: it asks `P` of the committed store after every
call, and of the working copy while the call goes on.
-/

namespace Sessions

/-- What is durable, and what the session sees. -/
structure Session (Store : Type) where
  committed : Store
  working : Store

/-- A call in a session: it answers or raises, and moves the session on. -/
abbrev Call (Store Err α : Type) := ExceptT Err (StateM (Session Store)) α

variable {Store Err α β : Type}

/-- Write to the working copy, or raise. -/
def update (f : Store → Except Err Store) : Call Store Err Unit := fun s =>
  match f s.working with
  | .ok w => (.ok (), { s with working := w })
  | .error e => (.error e, s)

/-- Write to the working copy and answer, or raise. -/
def act (f : Store → Except Err (Store × α)) : Call Store Err α := fun s =>
  match f s.working with
  | .ok (w, a) => (.ok a, { s with working := w })
  | .error e => (.error e, s)

/-- Read the working copy, or raise. -/
def query (q : Store → Except Err α) : Call Store Err α := fun s => (q s.working, s)

def commit : Call Store Err Unit := fun s => (.ok (), { s with committed := s.working })

/-- Give up what was not committed. -/
def rollback : Call Store Err Unit := fun s => (.ok (), { s with working := s.committed })

def raise (e : Err) : Call Store Err α := fun s => (.error e, s)

/-- `try: … except …`: the handler goes on where the call raised. -/
def rescue (c : Call Store Err α) (handler : Err → Call Store Err α) : Call Store Err α := fun s =>
  match c s with
  | (.ok a, s') => (.ok a, s')
  | (.error e, s') => handler e s'

/-- A write that is committed at once. -/
def transaction (f : Store → Except Err Store) : Call Store Err Unit := do
  update f
  commit

/-- The calls of a list of arguments, one after the other. -/
def each (f : α → Call Store Err Unit) : List α → Call Store Err Unit
  | [] => pure ()
  | a :: as => do
    f a
    each f as

/-- What a call in a fresh session answers. -/
def answer (c : Call Store Err α) (s : Store) : Except Err α := (c ⟨s, s⟩).1

/-- What a call in a fresh session leaves, whether it answers or raises. -/
def left (c : Call Store Err α) (s : Store) : Store := (c ⟨s, s⟩).2.committed

/-- The calls as steps of a history: a step never fails, it leaves what was committed. -/
def step {Action : Type} (call : Action → Call Store Err Unit) (s : Store) (a : Action) :
    Except Err Store := .ok (left (call a) s)

/-- The store after a sequence of calls. -/
def after {Action : Type} (call : Action → Call Store Err Unit) (s : Store) (as : List Action) :
    Store := as.foldl (fun s a => left (call a) s) s

/-! ## Running a call -/

section Run

variable {c : Call Store Err α} {f : α → Call Store Err β} {handler : Err → Call Store Err α}
variable {g : Store → Except Err Store} {q : Store → Except Err α}
variable {s s' : Session Store} {w : Store} {a : α} {e : Err}

theorem bind_of_ok (h : c s = (.ok a, s')) : (c >>= f) s = f a s' := by
  show (match c s with | (r, s'') => ExceptT.bindCont f r s'') = _
  rw [h]
  rfl

theorem bind_of_error (h : c s = (.error e, s')) : (c >>= f) s = (.error e, s') := by
  show (match c s with | (r, s'') => ExceptT.bindCont f r s'') = _
  rw [h]
  rfl

theorem update_of_ok (h : g s.working = .ok w) :
    update g s = (.ok (), { s with working := w }) := by
  rw [update, h]

theorem update_of_error (h : g s.working = .error e) :
    update g s = (.error e, s) := by
  rw [update, h]

theorem query_of {r : Except Err α} (h : q s.working = r) :
    query q s = (r, s) := by
  rw [query, h]

theorem transaction_of_ok (h : g s.working = .ok w) :
    transaction g s = (.ok (), ⟨w, w⟩) := by
  rw [transaction, bind_of_ok (update_of_ok h)]
  rfl

theorem transaction_of_error (h : g s.working = .error e) : transaction g s = (.error e, s) := by
  rw [transaction, bind_of_error (update_of_error h)]

theorem bind_eq_ok {b : β} (h : (c >>= f) s = (.ok b, s')) :
    ∃ a s'', c s = (.ok a, s'') ∧ f a s'' = (.ok b, s') := by
  cases hc : c s with
  | mk r s'' =>
    cases r with
    | error e =>
      rw [bind_of_error hc] at h
      cases h
    | ok a =>
      rw [bind_of_ok hc] at h
      exact ⟨a, s'', rfl, h⟩

theorem update_eq_ok {u : Unit} (h : update g s = (.ok u, s')) :
    ∃ w, g s.working = .ok w ∧ s' = { s with working := w } := by
  cases hg : g s.working with
  | error e =>
    rw [update_of_error hg] at h
    cases h
  | ok w =>
    rw [update_of_ok hg] at h
    cases h
    exact ⟨w, rfl, rfl⟩

theorem act_eq_ok {g : Store → Except Err (Store × α)} (h : act g s = (.ok a, s')) :
    ∃ w, g s.working = .ok (w, a) ∧ s' = { s with working := w } := by
  rw [act] at h
  cases hg : g s.working with
  | error e =>
    rw [hg] at h
    cases h
  | ok r =>
    rw [hg] at h
    cases h
    exact ⟨r.1, rfl, rfl⟩

theorem query_eq_ok (h : query q s = (.ok a, s')) :
    q s.working = .ok a ∧ s = s' := by
  rw [query, Prod.mk.injEq] at h
  exact h

theorem rollback_bind {f : Unit → Call Store Err α} :
    (rollback >>= f) s = f () ⟨s.committed, s.committed⟩ := rfl

theorem rescue_of_ok (h : c s = (.ok a, s')) : rescue c handler s = (.ok a, s') := by
  rw [rescue, h]

theorem rescue_of_error (h : c s = (.error e, s')) : rescue c handler s = handler e s' := by
  rw [rescue, h]

theorem rescue_eq_error (h : rescue c handler s = (.error e, s')) :
    ∃ e₁ s₁, c s = (.error e₁, s₁) ∧ handler e₁ s₁ = (.error e, s') := by
  cases hc : c s with
  | mk r s₁ =>
    cases r with
    | ok a =>
      rw [rescue_of_ok hc] at h
      cases h
    | error e₁ =>
      rw [rescue_of_error hc] at h
      exact ⟨e₁, s₁, rfl, h⟩

theorem rescue_eq_ok (hhandler : ∀ e s a s', handler e s ≠ (.ok a, s'))
    (h : rescue c handler s = (.ok a, s')) : c s = (.ok a, s') := by
  cases hc : c s with
  | mk r s'' =>
    cases r with
    | ok b =>
      rw [rescue_of_ok hc] at h
      exact h
    | error e =>
      rw [rescue_of_error hc] at h
      exact absurd h (hhandler e s'' a s')

theorem left_transaction (g : Store → Except Err Store) (x : Store) :
    left (transaction g) x = Runs.attempt (fun x () => g x) x () := by
  rw [left, Runs.attempt]
  cases h : g x with
  | ok w => rw [transaction_of_ok h]
  | error e => rw [transaction_of_error h]

theorem update_query (f : Store → Except Err Store) (q : Store → Except Err α) (s : Session Store) :
    (update f >>= fun _ => query q) s
      = match f s.working with
        | .ok w => (q w, { s with working := w })
        | .error e => (.error e, s) := by
  cases h : f s.working with
  | ok w =>
    rw [bind_of_ok (update_of_ok h)]
    rfl
  | error e => rw [bind_of_error (update_of_error h)]

theorem left_discard {b : β} (x : Store) :
    left (c >>= fun _ => pure b) x = left c x := by
  rw [left, left]
  cases h : c ⟨x, x⟩ with
  | mk r s' =>
    cases r with
    | error e => rw [bind_of_error h]
    | ok a => rw [bind_of_ok h]; rfl

theorem left_transaction_of {P : Store → Prop} {x : Store} (hx : P x)
    (h : ∀ y, g x = .ok y → P y) : P (left (transaction g) x) := by
  rw [left_transaction]
  rcases Runs.attempt_cases (fun x () => g x) x () with hfail | hok
  · rw [hfail]
    exact hx
  · exact h _ hok

end Run

/-! ## Calls that commit nothing -/

section Uncommitted

variable {c : Call Store Err α} {f : α → Call Store Err β}

/-- Whatever the call writes, it is lost with the session. -/
def Uncommitted (c : Call Store Err α) : Prop := ∀ s, (c s).2.committed = s.committed

theorem Uncommitted.pure (a : α) : Uncommitted (Pure.pure a : Call Store Err α) := fun _ => rfl

theorem Uncommitted.bind (hc : Uncommitted c) (hf : ∀ a, Uncommitted (f a)) :
    Uncommitted (c >>= f) := by
  intro s
  have hs := hc s
  cases h : c s with
  | mk r s' =>
    rw [h] at hs
    cases r with
    | error e =>
      rw [bind_of_error h]
      exact hs
    | ok a =>
      rw [bind_of_ok h]
      exact (hf a s').trans hs

theorem Uncommitted.update (f : Store → Except Err Store) : Uncommitted (update f) := by
  intro s
  rw [Sessions.update]
  cases f s.working with
  | ok w => rfl
  | error e => rfl

theorem Uncommitted.act (f : Store → Except Err (Store × α)) : Uncommitted (act f) := by
  intro s
  rw [Sessions.act]
  cases f s.working with
  | ok r => rfl
  | error e => rfl

theorem Uncommitted.query (q : Store → Except Err α) : Uncommitted (query q) := fun _ => rfl

theorem Uncommitted.raise (e : Err) : Uncommitted (raise e : Call Store Err α) := fun _ => rfl

theorem Uncommitted.rollback : Uncommitted (rollback : Call Store Err Unit) := fun _ => rfl

theorem Uncommitted.rescue {handler : Err → Call Store Err α} (hc : Uncommitted c)
    (hhandler : ∀ e, Uncommitted (handler e)) :
    Uncommitted (rescue c handler) := by
  intro s
  have hs := hc s
  cases h : c s with
  | mk r s' =>
    rw [h] at hs
    cases r with
    | ok a =>
      rw [rescue_of_ok h]
      exact hs
    | error e =>
      rw [rescue_of_error h]
      exact (hhandler e s').trans hs

theorem Uncommitted.left (h : Uncommitted c) (s : Store) : left c s = s := h ⟨s, s⟩

theorem Uncommitted.after {Action : Type} {call : Action → Call Store Err Unit}
    (h : ∀ a, Uncommitted (call a)) (s : Store) (as : List Action) :
    Sessions.after call s as = s := by
  induction as with
  | nil => rfl
  | cons a as ih =>
    show Sessions.after call (Sessions.left (call a) s) as = s
    rw [(h a).left]
    exact ih

end Uncommitted

/-! ## Calls that commit last -/

section Atomic

variable {c : Call Store Err α} {f : α → Call Store Err β}

/-- A call that raises has committed nothing. -/
def Atomic (c : Call Store Err α) : Prop :=
  ∀ s e s', c s = (.error e, s') → s'.committed = s.committed

theorem Uncommitted.bind_error (hc : Uncommitted c) {P : Store → Prop} {s s' : Session Store}
    {e : Err} (hs : P s.committed)
    (hf : ∀ a s₁, s₁.committed = s.committed → f a s₁ = (.error e, s') → P s'.committed)
    (h : (c >>= f) s = (.error e, s')) : P s'.committed := by
  have hkept := hc s
  cases hrun : c s with
  | mk r s₁ =>
    rw [hrun] at hkept
    cases r with
    | error e' =>
      rw [bind_of_error hrun] at h
      cases h
      exact hkept.symm ▸ hs
    | ok a =>
      rw [bind_of_ok hrun] at h
      exact hf a s₁ hkept h

theorem Uncommitted.bind_atomic (hc : Uncommitted c) (hf : ∀ a, Atomic (f a)) :
    Atomic (c >>= f) := by
  intro s e s' h
  refine hc.bind_error (P := fun store => store = s.committed) rfl ?_ h
  intro a s₁ hkept hrun
  exact (hf a s₁ e s' hrun).trans hkept

theorem Atomic.bind_pure (hc : Atomic c) (g : α → β) :
    Atomic (c >>= fun a => Pure.pure (g a)) := by
  intro s e s' h
  cases hrun : c s with
  | mk r s'' =>
    cases r with
    | error e' =>
      rw [bind_of_error hrun] at h
      cases h
      exact hc s e s' hrun
    | ok a =>
      rw [bind_of_ok hrun] at h
      cases h

theorem Atomic.commit : Atomic (commit : Call Store Err Unit) := by
  intro s e s' h
  cases h

end Atomic

/-! ## Invariants of calls -/

section Keeps

variable {P : Store → Prop} {c : Call Store Err α} {f : α → Call Store Err β}

/-- If `P` holds of what is committed and of the working copy, the call leaves it so; the
working copy of a call that raised is given up. -/
def Keeps (P : Store → Prop) (c : Call Store Err α) : Prop :=
  ∀ s : Session Store, P s.committed → P s.working →
    P (c s).2.committed ∧ ∀ a, (c s).1 = .ok a → P (c s).2.working

theorem Keeps.pure (a : α) : Keeps P (Pure.pure a : Call Store Err α) :=
  fun _ hc hw => ⟨hc, fun _ _ => hw⟩

theorem Keeps.bind (hc : Keeps P c) (hf : ∀ a, Keeps P (f a)) : Keeps P (c >>= f) := by
  intro s hcommitted hworking
  obtain ⟨hc₁, hc₂⟩ := hc s hcommitted hworking
  cases h : c s with
  | mk r s' =>
    rw [h] at hc₁ hc₂
    cases r with
    | error e =>
      rw [bind_of_error h]
      exact ⟨hc₁, fun _ he => (nomatch he)⟩
    | ok a =>
      rw [bind_of_ok h]
      exact hf a s' hc₁ (hc₂ a rfl)

theorem Keeps.update {f : Store → Except Err Store} (h : ∀ s s', P s → f s = .ok s' → P s') :
    Keeps P (update f) := by
  intro s hc hw
  rw [Sessions.update]
  cases hf : f s.working with
  | ok w => exact ⟨hc, fun _ _ => h _ _ hw hf⟩
  | error e => exact ⟨hc, fun _ he => (nomatch he)⟩

theorem Keeps.query (q : Store → Except Err α) : Keeps P (query q) :=
  fun _ hc hw => ⟨hc, fun _ _ => hw⟩

theorem Keeps.query_bind {q : Store → Except Err α}
    (h : ∀ s a, P s → q s = .ok a → Keeps P (f a)) : Keeps P (Sessions.query q >>= f) := by
  intro s hc hw
  cases hq : q s.working with
  | error e =>
    rw [bind_of_error (query_of hq)]
    exact ⟨hc, fun _ he => (nomatch he)⟩
  | ok a =>
    rw [bind_of_ok (query_of hq)]
    exact h s.working a hw hq s hc hw

theorem Keeps.commit : Keeps P (commit : Call Store Err Unit) :=
  fun _ _ hw => ⟨hw, fun _ _ => hw⟩

theorem Keeps.transaction {f : Store → Except Err Store}
    (h : ∀ s s', P s → f s = .ok s' → P s') : Keeps P (transaction f) :=
  (Keeps.update h).bind fun _ => Keeps.commit

theorem Keeps.each {f : α → Call Store Err Unit} (h : ∀ a, Keeps P (f a)) :
    ∀ as, Keeps P (each f as) := by
  intro as
  induction as with
  | nil => exact Keeps.pure ()
  | cons a as ih => exact (h a).bind fun _ => ih

theorem Keeps.left (h : Keeps P c) {s : Store} (hs : P s) : P (left c s) := (h ⟨s, s⟩ hs hs).1

/-- `P` holds of what is committed and of the working copy, whether the call answers or raises: a
handler that does not roll back goes on from there. -/
def Always (P : Store → Prop) (c : Call Store Err α) : Prop :=
  ∀ s : Session Store, P s.committed → P s.working → P (c s).2.committed ∧ P (c s).2.working

theorem Always.pure (a : α) : Always P (Pure.pure a : Call Store Err α) := fun _ hc hw => ⟨hc, hw⟩

theorem Always.raise (e : Err) : Always P (raise e : Call Store Err α) := fun _ hc hw => ⟨hc, hw⟩

theorem Always.query (q : Store → Except Err α) : Always P (query q) := fun _ hc hw => ⟨hc, hw⟩

theorem Always.commit : Always P (commit : Call Store Err Unit) := fun _ _ hw => ⟨hw, hw⟩

theorem Always.rollback : Always P (rollback : Call Store Err Unit) := fun _ hc _ => ⟨hc, hc⟩

theorem Always.update {f : Store → Except Err Store} (h : ∀ s s', P s → f s = .ok s' → P s') :
    Always P (update f) := by
  intro s hc hw
  cases hf : f s.working with
  | ok w =>
    rw [update_of_ok hf]
    exact ⟨hc, h _ _ hw hf⟩
  | error e =>
    rw [update_of_error hf]
    exact ⟨hc, hw⟩

theorem Always.bind (hc : Always P c) (hf : ∀ a, Always P (f a)) : Always P (c >>= f) := by
  intro s hcommitted hworking
  obtain ⟨hc₁, hc₂⟩ := hc s hcommitted hworking
  cases h : c s with
  | mk r s' =>
    rw [h] at hc₁ hc₂
    cases r with
    | error e =>
      rw [bind_of_error h]
      exact ⟨hc₁, hc₂⟩
    | ok a =>
      rw [bind_of_ok h]
      exact hf a s' hc₁ hc₂

theorem Always.rescue {handler : Err → Call Store Err α} (hc : Always P c)
    (hhandler : ∀ e, Always P (handler e)) : Always P (rescue c handler) := by
  intro s hcommitted hworking
  obtain ⟨hc₁, hc₂⟩ := hc s hcommitted hworking
  cases h : c s with
  | mk r s' =>
    rw [h] at hc₁ hc₂
    cases r with
    | ok a =>
      rw [rescue_of_ok h]
      exact ⟨hc₁, hc₂⟩
    | error e =>
      rw [rescue_of_error h]
      exact hhandler e s' hc₁ hc₂

/-- **RUN RULE**: what every call keeps holds in every state of a history of calls. -/
theorem visited_invariant {Action : Type} {call : Action → Call Store Err Unit}
    {Ok : Store → Action → Prop} (hcall : ∀ s a, P s → Ok s a → P (Sessions.left (call a) s))
    (as : List Action) {s : Store} (hs : P s) (hok : Runs.StepsMeet (step call) Ok s as) :
    ∀ s' ∈ Runs.visited (step call) s as, P s' := by
  refine Runs.visited_invariant ?_ as s hs hok
  intro s a s' hs hok h
  cases h
  exact hcall s a hs hok

theorem visited_keeps {Action : Type} {call : Action → Call Store Err Unit}
    (hcall : ∀ a, Keeps P (call a)) (as : List Action) {s : Store} (hs : P s) :
    ∀ s' ∈ Runs.visited (step call) s as, P s' :=
  visited_invariant (fun _ a hs _ => (hcall a).left hs) as hs (Runs.stepsMeet_true _ _ _)

end Keeps
end Sessions
