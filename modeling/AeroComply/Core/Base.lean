/-!
# Base — identifiers, times and the errors the services raise

The service layer raises one of the application errors of `app/core/errors.py`,
which carry a message and a machine-readable code, or lets an exception of the
interpreter or of the database driver through.  A raised error leaves the
transaction uncommitted, so a service is a function into `Except Error`.
-/

namespace AeroComply

/-- A primary or foreign key. -/
abbrev UUID := Nat

/-- An instant, in microseconds. -/
abbrev DateTime := Int

/-- A calendar day. -/
abbrev Date := Int

/-- An `INTEGER` column holds the number. -/
def fitsInteger (n : Int) : Bool := decide (-2147483648 ≤ n) && decide (n ≤ 2147483647)

/-- What a service can raise. -/
inductive Error
  | notFound (message : String)
  | conflict (message : String) (code : String := "conflict")
  | forbidden (message : String) (code : String := "forbidden")
  | unauthorized (message : String)
  | aeroComply (message : String) (code : String := "error")
  | validation (message : String)
  | multipleResultsFound
  | noResultFound
  | integrity
  | dataError
  | attributeError
  | typeError
  | assertionError
  | overflowError
  | keyError
  deriving DecidableEq, Repr

/-- `Result.scalar_one_or_none()`: no row, one row, or an error. -/
def scalarOneOrNone {α : Type} : List α → Except Error (Option α)
  | [] => .ok none
  | [r] => .ok (some r)
  | _ => .error .multipleResultsFound

variable {α : Type}

theorem scalarOneOrNone_eq_some {l : List α} {r : α} (h : scalarOneOrNone l = .ok (some r)) :
    l = [r] := by
  match l, h with
  | [], h => cases h
  | [_], h => cases h; rfl
  | _ :: _ :: _, h => cases h

theorem scalarOneOrNone_eq_none {l : List α} (h : scalarOneOrNone l = .ok none) : l = [] := by
  match l, h with
  | [], _ => rfl
  | [_], h => cases h
  | _ :: _ :: _, h => cases h

/-- `scalar_one_or_none()` followed by `if row is None: raise`. -/
def oneOrRaise {α : Type} (l : List α) (e : Error) : Except Error α := do
  match ← scalarOneOrNone l with
  | some r => .ok r
  | none => .error e

theorem oneOrRaise_eq_ok {l : List α} {e : Error} {r : α} :
    oneOrRaise l e = .ok r ↔ l = [r] := by
  constructor
  · intro h
    match l, h with
    | [], h => cases h
    | [_], h => cases h; rfl
    | _ :: _ :: _, h => cases h
  · rintro rfl
    rfl

theorem oneOrRaise_map {α β : Type} (f : α → β) (l : List α) (e : Error) :
    oneOrRaise (l.map f) e = (oneOrRaise l e).map f := by
  match l with
  | [] => rfl
  | [_] => rfl
  | _ :: _ :: _ => rfl

/-- `if c: raise e`. -/
def raiseIf (c : Prop) [Decidable c] (e : Error) : Except Error Unit :=
  if c then .error e else .ok ()

theorem raiseIf_eq_ok {c : Prop} [Decidable c] {e : Error} {u : Unit} :
    raiseIf c e = .ok u ↔ ¬c := by
  by_cases hc : c
  · simp [raiseIf, hc]
  · simp [raiseIf, hc]

theorem bind_eq_ok {α β : Type} {x : Except Error α} {f : α → Except Error β} {r : β} :
    (x >>= f) = .ok r ↔ ∃ a, x = .ok a ∧ f a = .ok r := by
  cases x with
  | ok a =>
    constructor
    · intro h
      exact ⟨a, rfl, h⟩
    · rintro ⟨_, h, hf⟩
      cases h
      exact hf
  | error e =>
    constructor
    · intro h
      cases h
    · rintro ⟨_, h, _⟩
      cases h

@[simp] theorem ok_bind {α β : Type} (a : α) (f : α → Except Error β) :
    (Except.ok a >>= f) = f a := rfl

theorem forall_eq_ok {x : Except Error α} {a : α} {P : α → Prop} (h : x = .ok a) :
    (∀ b, x = .ok b → P b) ↔ P a := by
  constructor
  · exact fun hall => hall a h
  · intro hp b hb
    cases h.symm.trans hb
    exact hp

/-- What holds of the value of a fallible step, if there is one. -/
def Leaves {α : Type} (P : α → Prop) (x : Except Error α) : Prop := ∀ a, x = .ok a → P a

theorem Leaves.ok {P : α → Prop} {a : α} (h : P a) : Leaves P (.ok a) := by
  intro b hb
  cases hb
  exact h

theorem Leaves.error {P : α → Prop} (e : Error) : Leaves P (.error e) :=
  fun _ h => (nomatch h)

theorem Leaves.bind {α β : Type} {P : β → Prop} {x : Except Error α} {f : α → Except Error β}
    (h : ∀ a, x = .ok a → Leaves P (f a)) : Leaves P (x >>= f) := by
  intro b hb
  obtain ⟨a, ha, hb⟩ := bind_eq_ok.1 hb
  exact h a ha b hb

theorem exists_of_mapM {α β : Type} {f : α → Except Error β} {l : List α} :
    ∀ {rs : List β}, l.mapM f = .ok rs → ∀ r ∈ rs, ∃ a ∈ l, f a = .ok r := by
  induction l with
  | nil =>
    intro rs h r hr
    cases h
    cases hr
  | cons a l ih =>
    intro rs h r hr
    rw [List.mapM_cons] at h
    obtain ⟨b, hb, h⟩ := bind_eq_ok.1 h
    obtain ⟨bs, hbs, h⟩ := bind_eq_ok.1 h
    cases h
    rcases List.mem_cons.1 hr with rfl | hr
    · exact ⟨a, List.mem_cons_self, hb⟩
    · obtain ⟨a', ha', hf⟩ := ih hbs r hr
      exact ⟨a', List.mem_cons_of_mem a ha', hf⟩

theorem exists_mem_of_mapM {α β : Type} {f : α → Except Error β} {l : List α} :
    ∀ {rs : List β}, l.mapM f = .ok rs → ∀ a ∈ l, ∃ r ∈ rs, f a = .ok r := by
  induction l with
  | nil => exact fun _ _ ha => (nomatch ha)
  | cons b l ih =>
    intro rs h a ha
    rw [List.mapM_cons] at h
    obtain ⟨c, hc, h⟩ := bind_eq_ok.1 h
    obtain ⟨cs, hcs, h⟩ := bind_eq_ok.1 h
    cases h
    rcases List.mem_cons.1 ha with rfl | ha
    · exact ⟨c, List.mem_cons_self, hc⟩
    · obtain ⟨r, hr, hf⟩ := ih hcs a ha
      exact ⟨r, List.mem_cons_of_mem c hr, hf⟩

theorem mapM_isOk_iff {α β : Type} {f : α → Except Error β} {l : List α} :
    (∃ rs, l.mapM f = .ok rs) ↔ ∀ a ∈ l, ∃ b, f a = .ok b := by
  induction l with
  | nil => exact ⟨fun _ _ ha => (nomatch ha), fun _ => ⟨[], rfl⟩⟩
  | cons a l ih =>
    rw [List.mapM_cons, List.forall_mem_cons, ← ih]
    constructor
    · rintro ⟨rs, h⟩
      obtain ⟨b, hb, h⟩ := bind_eq_ok.1 h
      obtain ⟨bs, hbs, _⟩ := bind_eq_ok.1 h
      exact ⟨⟨b, hb⟩, bs, hbs⟩
    · rintro ⟨⟨b, hb⟩, bs, hbs⟩
      rw [hb, ok_bind, hbs]
      exact ⟨b :: bs, rfl⟩

theorem mapM_of_forall {α β : Type} {f : α → Except Error β} {g : α → β} {l : List α}
    (h : ∀ a ∈ l, f a = .ok (g a)) : l.mapM f = .ok (l.map g) := by
  induction l with
  | nil => rfl
  | cons a l ih =>
    rw [List.mapM_cons, h a List.mem_cons_self, ok_bind,
      ih fun b hb => h b (List.mem_cons_of_mem a hb)]
    rfl

theorem pure_eq_ok {a r : α} :
    ((pure a : Except Error α) = .ok r) ↔ a = r := by
  constructor
  · intro h
    cases h
    rfl
  · rintro rfl
    rfl

/-- A field of a partial update (`model_dump(exclude_unset=True)`): left out, given as
`None`, or given a value. -/
inductive Patch (α : Type)
  | unset
  | null
  | value (a : α)
  deriving DecidableEq, Repr

namespace Patch

variable {α : Type}

/-- `setattr` on a nullable column, when the field is given. -/
def nullable (old : Option α) : Patch α → Option α
  | unset => old
  | null => none
  | value a => some a

/-- `setattr` on a `NOT NULL` column: the server refuses a given `None`. -/
def notNull (old : α) : Patch α → Except Error α
  | unset => .ok old
  | null => .error .integrity
  | value a => .ok a

/-- The field is one of `updates`. -/
def isGiven : Patch α → Bool
  | unset => false
  | null | value _ => true

/-- The value the column ends with, where the field is not `None`. -/
def newValue (old : α) : Patch α → α
  | unset => old
  | null => old
  | value a => a

theorem notNull_eq_ok {old a : α} {p : Patch α} (h : p.notNull old = .ok a) :
    a = p.newValue old := by
  cases p with
  | unset => cases h; rfl
  | null => cases h
  | value b => cases h; rfl

theorem ne_null_of_notNull {old a : α} {p : Patch α} (h : p.notNull old = .ok a) :
    p ≠ .null := by
  rintro rfl
  cases h

end Patch

@[simp] theorem isOk_map {α β : Type} (x : Except Error α) (f : α → β) :
    (x.map f).isOk = x.isOk := by
  cases x with
  | ok a => rfl
  | error e => rfl

theorem map_eq_ok {α β : Type} {x : Except Error α} {f : α → β} {b : β} :
    x.map f = .ok b ↔ ∃ a, x = .ok a ∧ f a = b := by
  cases x with
  | error e => exact ⟨fun h => (nomatch h), fun ⟨_, h, _⟩ => (nomatch h)⟩
  | ok a =>
    constructor
    · exact fun h => ⟨a, rfl, Except.ok.inj h⟩
    · rintro ⟨a', ha, hb⟩
      cases ha
      rw [← hb]
      rfl

theorem map_fst_eq_ok {α β : Type} {x : Except Error (α × β)} {a : α}
    (h : x.map Prod.fst = .ok a) : ∃ r, x = .ok (a, r) := by
  cases x with
  | error e => cases h
  | ok r =>
    cases h
    exact ⟨r.2, rfl⟩

end AeroComply
