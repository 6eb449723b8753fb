import Mathlib.Data.Set.Insert

/-!
# Mirror — records of one store that mirror the objects of another

A record says what has become of an object that is kept elsewhere: that it is not there yet,
that it is, that putting it failed, that it has been removed.  The two stores have no common
transaction, so a party first writes a `pending` record, then puts the object, then writes what
has come of it; a removal takes the object away first and marks the record afterwards.  A party
can stop after any step.

`Truthful` is what the records can be trusted for.  It holds whatever is interleaved, and a
record that is `failed` or `removed` stays so (`Step.sound`, `Step.final`).  A removal can be
marked twice: the second party has been let in while the record still said `stored`.
`once_mark_iff` says that this is the only way.
-/

namespace Mirrors

variable {Id Key : Type}

inductive Phase
  | pending
  | stored
  | failed
  | removed
  deriving DecidableEq

/-- What a party has done so far. -/
inductive Hold (Id Key : Type)
  | free
  -- it has written the record; the object is put; putting it was refused
  | uploading (id : Id) (key : Key)
  | uploaded (id : Id) (key : Key)
  | refused (id : Id) (key : Key)
  -- it may remove the object; the object is away
  | removing (id : Id) (key : Key)
  | away (id : Id) (key : Key)

/-- The records, the objects, the keys something was ever put under, how often the removal of a
record was marked, and the parties. -/
@[ext] structure Mirror (Id Key : Type) where
  record : Id → Option (Key × Phase)
  objects : Set Key
  everPut : Set Key
  marks : Id → Nat
  hold : Nat → Hold Id Key

namespace Mirror

variable (m : Mirror Id Key)

/-- Nothing is recorded, and nothing kept. -/
def empty : Mirror Id Key := ⟨fun _ => none, ∅, ∅, fun _ => 0, fun _ => .free⟩

/-- Only what the party has done changes. -/
def held (who : Nat) (h : Hold Id Key) : Mirror Id Key :=
  { m with hold := Function.update m.hold who h }

def put (key : Key) : Mirror Id Key :=
  { m with objects := insert key m.objects, everPut := insert key m.everPut }

def taken (key : Key) : Mirror Id Key := { m with objects := m.objects \ {key} }

variable [DecidableEq Id]

/-- `UPDATE … SET phase WHERE id`. -/
def setPhase (id : Id) (phase : Phase) : Mirror Id Key :=
  { m with
    record := Function.update m.record id ((m.record id).map fun r => (r.1, phase)) }

/-- A new record. -/
def added (id : Id) (key : Key) : Mirror Id Key :=
  { m with record := Function.update m.record id (some (key, .pending)) }

def marked (id : Id) : Mirror Id Key :=
  { m with marks := Function.update m.marks id (m.marks id + 1) }

end Mirror

open Mirror

/-- What the parties can do. -/
inductive Step [DecidableEq Id] : Mirror Id Key → Mirror Id Key → Prop
  | add (m) (who : Nat) (id : Id) (key : Key) : m.record id = none →
      (∀ i phase, m.record i ≠ some (key, phase)) →
      Step m ((m.added id key).held who (.uploading id key))
  | put (m) (who : Nat) (id : Id) (key : Key) : m.hold who = .uploading id key →
      Step m ((m.put key).held who (.uploaded id key))
  | refuse (m) (who : Nat) (id : Id) (key : Key) : m.hold who = .uploading id key →
      Step m (m.held who (.refused id key))
  | store (m) (who : Nat) (id : Id) (key : Key) : m.hold who = .uploaded id key →
      Step m ((m.setPhase id .stored).held who .free)
  | fail (m) (who : Nat) (id : Id) (key : Key) : m.hold who = .refused id key →
      Step m ((m.setPhase id .failed).held who .free)
  | start (m) (who : Nat) (id : Id) (key : Key) : m.record id = some (key, .stored) →
      Step m (m.held who (.removing id key))
  | take (m) (who : Nat) (id : Id) (key : Key) : m.hold who = .removing id key →
      Step m ((m.taken key).held who (.away id key))
  | mark (m) (who : Nat) (id : Id) (key : Key) : m.hold who = .away id key →
      Step m (((m.setPhase id .removed).marked id).held who .free)
  -- an object can be taken away whatever its record says
  | purge (m) (who : Nat) (key : Key) : Step m ((m.taken key).held who .free)
  | stop (m) (who : Nat) : Step m (m.held who .free)

/-! ## What the records can be trusted for -/

/-- The record of an upload that is under way. -/
def Hold.upload : Hold Id Key → Option (Id × Key)
  | .uploading id key | .uploaded id key | .refused id key => some (id, key)
  | .free | .removing _ _ | .away _ _ => none

/-- The record of a removal that is under way. -/
def Hold.removal : Hold Id Key → Option (Id × Key)
  | .removing id key | .away id key => some (id, key)
  | .free | .uploading _ _ | .uploaded _ _ | .refused _ _ => none

structure Truthful (m : Mirror Id Key) : Prop where
  /-- Every object has a record with its key. -/
  recorded : ∀ key ∈ m.objects, ∃ id phase, m.record id = some (key, phase)
  /-- What is recorded as stored was put. -/
  stored : ∀ id key, m.record id = some (key, .stored) → key ∈ m.everPut
  /-- What is recorded as removed is not there. -/
  removed : ∀ id key, m.record id = some (key, .removed) → key ∉ m.objects

/-- The removal of a record is marked at most once. -/
def Once (m : Mirror Id Key) : Prop := ∀ id, m.marks id ≤ 1

/-- A record that is failed or removed stays as it is. -/
def Final (m m' : Mirror Id Key) : Prop :=
  ∀ id key phase, m.record id = some (key, phase) → phase = .failed ∨ phase = .removed →
    m'.record id = some (key, phase)

/-- What the parties rely on, besides. -/
structure Sound (m : Mirror Id Key) : Prop extends Truthful m where
  distinct : ∀ i j key phase phase', m.record i = some (key, phase) →
    m.record j = some (key, phase') → i = j
  /-- A pending record that is being uploaded is nobody else's business. -/
  pending : ∀ i id key, (m.hold i).upload = some (id, key) → m.record id = some (key, .pending)
  alone : ∀ i j id key key', (m.hold i).upload = some (id, key) →
    (m.hold j).upload = some (id, key') → i = j
  uploaded : ∀ i id key, m.hold i = .uploaded id key → key ∈ m.everPut
  removing : ∀ i id key, (m.hold i).removal = some (id, key) →
    m.record id = some (key, .stored) ∨ m.record id = some (key, .removed)
  away : ∀ i id key, m.hold i = .away id key → key ∉ m.objects
  marks : ∀ id, m.marks id ≠ 0 ↔ ∃ key, m.record id = some (key, .removed)

theorem Final.refl (m : Mirror Id Key) : Final m m := fun _ _ _ h _ => h

theorem Final.trans {m₁ m₂ m₃ : Mirror Id Key} (h : Final m₁ m₂) (h' : Final m₂ m₃) :
    Final m₁ m₃ := fun id key phase hid hphase => h' id key phase (h id key phase hid hphase) hphase

theorem empty_sound : Sound (Mirror.empty : Mirror Id Key) where
  recorded := nofun
  stored := nofun
  removed := nofun
  distinct := nofun
  pending := nofun
  alone := nofun
  uploaded := nofun
  removing := nofun
  away := nofun
  marks := fun _ => iff_of_false (fun h => h rfl) nofun

section Steps

variable {m m' : Mirror Id Key} {who : Nat} {id : Id} {key : Key}

theorem held_eq (m : Mirror Id Key) (who : Nat) (h : Hold Id Key) (i : Nat) :
    (m.held who h).hold i = if i = who then h else m.hold i := by
  show Function.update m.hold who h i = _
  exact Function.update_apply ..

/-- What a party may take on. -/
structure MayHold (m : Mirror Id Key) (who : Nat) (h : Hold Id Key) : Prop where
  pending : ∀ id key, h.upload = some (id, key) → m.record id = some (key, .pending)
  alone : ∀ id key, h.upload = some (id, key) → ∀ i key',
    (m.hold i).upload = some (id, key') → i = who
  uploaded : ∀ id key, h = .uploaded id key → key ∈ m.everPut
  removing : ∀ id key, h.removal = some (id, key) →
    m.record id = some (key, .stored) ∨ m.record id = some (key, .removed)
  away : ∀ id key, h = .away id key → key ∉ m.objects

theorem mayHold_free (m : Mirror Id Key) (who : Nat) : MayHold m who .free :=
  ⟨nofun, nofun, nofun, nofun, nofun⟩

theorem Sound.held (h : Sound m) {x : Hold Id Key} (hx : MayHold m who x) :
    Sound (m.held who x) where
  recorded := h.recorded
  stored := h.stored
  removed := h.removed
  distinct := h.distinct
  pending := by
    intro i id key hi
    rw [held_eq] at hi
    split at hi
    · exact hx.pending id key hi
    · exact h.pending i id key hi
  alone := by
    intro i j id key key' hi hj
    rw [held_eq] at hi hj
    split at hi
    · next hiw =>
      split at hj
      · next hjw => exact hiw.trans hjw.symm
      · exact hiw.trans (hx.alone id key hi j key' hj).symm
    · split at hj
      · next hjw => exact (hx.alone id key' hj i key hi).trans hjw.symm
      · exact h.alone i j id key key' hi hj
  uploaded := by
    intro i id key hi
    rw [held_eq] at hi
    split at hi
    · exact hx.uploaded id key hi
    · exact h.uploaded i id key hi
  removing := by
    intro i id key hi
    rw [held_eq] at hi
    split at hi
    · exact hx.removing id key hi
    · exact h.removing i id key hi
  away := by
    intro i id key hi
    rw [held_eq] at hi
    split at hi
    · exact hx.away id key hi
    · exact h.away i id key hi
  marks := h.marks

theorem Sound.freed (h : Sound m) (who : Nat) : Sound (m.held who .free) :=
  h.held (mayHold_free m who)

theorem Sound.nobody_else (h : Sound m) (hwho : (m.hold who).upload = some (id, key)) (i : Nat)
    (k : Key) : ((m.held who .free).hold i).upload ≠ some (id, k) := by
  intro hi
  rw [held_eq] at hi
  split at hi
  · cases hi
  · next hne => exact hne (h.alone i who id k key hi hwho)

theorem Sound.mayUpload (h : Sound m) (hwho : (m.hold who).upload = some (id, key))
    {x : Hold Id Key} (hx : x.upload = some (id, key)) (hnot : x.removal = none)
    (hput : ∀ id key, x = .uploaded id key → key ∈ m.everPut) : MayHold m who x where
  pending := by
    intro i k hk
    rw [hx] at hk
    cases hk
    exact h.pending who id key hwho
  alone := by
    intro i k hk j k' hj
    rw [hx] at hk
    cases hk
    exact h.alone j who id k' key hj hwho
  uploaded := hput
  removing := by
    intro i k hk
    rw [hnot] at hk
    cases hk
  away := by
    rintro i k rfl
    cases hnot

theorem Sound.taken (h : Sound m) (key : Key) : Sound (m.taken key) where
  recorded := fun k hk => h.recorded k hk.1
  stored := h.stored
  removed := fun i k hk hmem => h.removed i k hk hmem.1
  distinct := h.distinct
  pending := h.pending
  alone := h.alone
  uploaded := h.uploaded
  removing := h.removing
  away := fun i id k hk hmem => h.away i id k hk hmem.1
  marks := h.marks

theorem Sound.put (h : Sound m) (hid : m.record id = some (key, .pending)) :
    Sound (m.put key) where
  recorded := by
    intro k hk
    rcases hk with rfl | hk
    · exact ⟨id, .pending, hid⟩
    · exact h.recorded k hk
  stored := fun i k hk => Or.inr (h.stored i k hk)
  removed := by
    intro i k hk hmem
    rcases hmem with rfl | hmem
    · -- the keys are distinct
      obtain rfl := h.distinct i id k _ _ hk hid
      exact nomatch hid.symm.trans hk
    · exact h.removed i k hk hmem
  distinct := h.distinct
  pending := h.pending
  alone := h.alone
  uploaded := fun i j k hk => Or.inr (h.uploaded i j k hk)
  removing := h.removing
  away := by
    intro i j k hk hmem
    rcases hmem with rfl | hmem
    · have haway : (m.hold i).removal = some (j, k) := congrArg Hold.removal hk
      rcases h.removing i j k haway with hj | hj
      · obtain rfl := h.distinct j id k _ _ hj hid
        exact nomatch hid.symm.trans hj
      · obtain rfl := h.distinct j id k _ _ hj hid
        exact nomatch hid.symm.trans hj
    · exact h.away i j k hk hmem
  marks := h.marks

variable [DecidableEq Id]

theorem added_record (m : Mirror Id Key) (id i : Id) (key : Key) :
    (m.added id key).record i = if i = id then some (key, .pending) else m.record i := by
  show Function.update m.record id _ i = _
  exact Function.update_apply ..

theorem added_record_of_some {i : Id} {r : Key × Phase} (hnone : m.record id = none)
    (hi : m.record i = some r) : (m.added id key).record i = some r := by
  have hne : i ≠ id := by
    rintro rfl
    rw [hnone] at hi
    cases hi
  rw [added_record, if_neg hne, hi]

theorem Sound.added (h : Sound m) (hnone : m.record id = none)
    (hfresh : ∀ i phase, m.record i ≠ some (key, phase)) : Sound (m.added id key) where
  recorded := by
    intro k hk
    obtain ⟨i, phase, hi⟩ := h.recorded k hk
    exact ⟨i, phase, added_record_of_some hnone hi⟩
  stored := by
    intro i k hk
    rw [added_record] at hk
    split at hk
    · cases hk
    · exact h.stored i k hk
  removed := by
    intro i k hk
    rw [added_record] at hk
    split at hk
    · cases hk
    · exact h.removed i k hk
  distinct := by
    intro i j k phase phase' hi hj
    rw [added_record] at hi hj
    split at hi
    · next hie =>
      split at hj
      · next hje => exact hie.trans hje.symm
      · cases hi
        exact absurd hj (hfresh j phase')
    · split at hj
      · cases hj
        exact absurd hi (hfresh i phase)
      · exact h.distinct i j k phase phase' hi hj
  pending := fun i j k hk => added_record_of_some hnone (h.pending i j k hk)
  alone := h.alone
  uploaded := h.uploaded
  removing := by
    intro i j k hk
    exact (h.removing i j k hk).imp (added_record_of_some hnone) (added_record_of_some hnone)
  away := h.away
  marks := by
    intro i
    rw [show (m.added id key).marks i = m.marks i from rfl, h.marks i]
    constructor
    · rintro ⟨k, hk⟩
      exact ⟨k, added_record_of_some hnone hk⟩
    · rintro ⟨k, hk⟩
      rw [added_record] at hk
      split at hk
      · cases hk
      · exact ⟨k, hk⟩

theorem setPhase_record (hid : ∃ phase, m.record id = some (key, phase)) (phase : Phase) (i : Id) :
    (m.setPhase id phase).record i = if i = id then some (key, phase) else m.record i := by
  obtain ⟨_, hid⟩ := hid
  show Function.update m.record id _ i = _
  rw [Function.update_apply, hid]
  rfl

theorem setPhase_key {phase phase' : Phase} {i : Id} {k : Key}
    (hi : (m.setPhase id phase).record i = some (k, phase')) :
    ∃ old, m.record i = some (k, old) := by
  have hupdate : Function.update m.record id ((m.record id).map fun r => (r.1, phase)) i
      = some (k, phase') := hi
  rw [Function.update_apply] at hupdate
  split at hupdate
  · next hii =>
    obtain ⟨r, hr, heq⟩ := Option.map_eq_some_iff.1 hupdate
    cases heq
    exact ⟨r.2, by rw [hii, hr]⟩
  · exact ⟨phase', hupdate⟩

theorem Sound.recorded_setPhase (h : Sound m) {old : Phase} (hid : m.record id = some (key, old))
    (phase : Phase) :
    ∀ k ∈ m.objects, ∃ i phase', (m.setPhase id phase).record i = some (k, phase') := by
  intro k hk
  obtain ⟨i, was, hi⟩ := h.recorded k hk
  by_cases hii : i = id
  · subst hii
    rw [hid] at hi
    cases hi
    exact ⟨i, phase, by rw [setPhase_record ⟨old, hid⟩, if_pos rfl]⟩
  · exact ⟨i, was, by rw [setPhase_record ⟨old, hid⟩, if_neg hii, hi]⟩

/-- What has come of the object of a pending record that no party is uploading any more. -/
theorem Sound.settled (h : Sound m) (hid : m.record id = some (key, .pending))
    (hnobody : ∀ i k, (m.hold i).upload ≠ some (id, k)) {phase : Phase}
    (hphase : phase = .stored ∧ key ∈ m.everPut ∨ phase = .failed) :
    Sound (m.setPhase id phase) where
  recorded := h.recorded_setPhase hid phase
  stored := by
    intro i k hk
    rw [setPhase_record ⟨_, hid⟩] at hk
    split at hk
    · rcases hphase with ⟨rfl, hput⟩ | rfl
      · cases hk
        exact hput
      · cases hk
    · exact h.stored i k hk
  removed := by
    intro i k hk
    rw [setPhase_record ⟨_, hid⟩] at hk
    split at hk
    · rcases hphase with ⟨rfl, _⟩ | rfl <;> cases hk
    · exact h.removed i k hk
  distinct := by
    intro i j k phase₁ phase₂ hi hj
    obtain ⟨_, hi⟩ := setPhase_key hi
    obtain ⟨_, hj⟩ := setPhase_key hj
    exact h.distinct i j k _ _ hi hj
  pending := by
    intro i j k hk
    have hne : j ≠ id := by
      rintro rfl
      exact hnobody i k hk
    rw [setPhase_record ⟨_, hid⟩, if_neg hne]
    exact h.pending i j k hk
  alone := h.alone
  uploaded := h.uploaded
  removing := by
    intro i j k hk
    have hj := h.removing i j k hk
    have hne : j ≠ id := by
      rintro rfl
      rw [hid] at hj
      rcases hj with hj | hj <;> cases hj
    rw [setPhase_record ⟨_, hid⟩, if_neg hne]
    exact hj
  away := h.away
  marks := by
    intro i
    rw [show (m.setPhase id phase).marks i = m.marks i from rfl, h.marks i]
    refine exists_congr fun k => ?_
    rw [setPhase_record ⟨_, hid⟩]
    split
    · next hii =>
      rw [hii, hid]
      rcases hphase with ⟨rfl, _⟩ | rfl
      · exact iff_of_false nofun nofun
      · exact iff_of_false nofun nofun
    · exact Iff.rfl

theorem Sound.marked (h : Sound m)
    (hid : m.record id = some (key, .stored) ∨ m.record id = some (key, .removed))
    (haway : key ∉ m.objects) : Sound ((m.setPhase id .removed).marked id) := by
  have hsome : ∃ phase, m.record id = some (key, phase) :=
    hid.elim (fun h => ⟨_, h⟩) fun h => ⟨_, h⟩
  have hrec : ∀ i, ((m.setPhase id .removed).marked id).record i
      = if i = id then some (key, .removed) else m.record i := setPhase_record hsome .removed
  exact {
    recorded := by
      obtain ⟨phase, hphase⟩ := hsome
      exact h.recorded_setPhase hphase .removed
    stored := by
      intro i k hk
      rw [hrec] at hk
      split at hk
      · cases hk
      · exact h.stored i k hk
    removed := by
      intro i k hk
      rw [hrec] at hk
      split at hk
      · cases hk
        exact haway
      · exact h.removed i k hk
    distinct := by
      intro i j k phase₁ phase₂ hi hj
      obtain ⟨_, hi⟩ := setPhase_key hi
      obtain ⟨_, hj⟩ := setPhase_key hj
      exact h.distinct i j k _ _ hi hj
    pending := by
      intro i j k hk
      have hj := h.pending i j k hk
      have hne : j ≠ id := by
        rintro rfl
        rw [hj] at hid
        rcases hid with hid | hid <;> cases hid
      rw [hrec, if_neg hne]
      exact hj
    alone := h.alone
    uploaded := h.uploaded
    removing := by
      intro i j k hk
      have hj := h.removing i j k hk
      rw [hrec]
      split
      · next hji =>
        subst hji
        -- both name the key of the record
        obtain ⟨_, hphase⟩ := hsome
        obtain ⟨_, hj⟩ : ∃ phase, m.record j = some (k, phase) :=
          hj.elim (fun h => ⟨_, h⟩) fun h => ⟨_, h⟩
        obtain rfl : key = k := congrArg Prod.fst (Option.some.inj (hphase.symm.trans hj))
        exact Or.inr rfl
      · exact hj
    away := h.away
    marks := by
      intro i
      rw [hrec, show ((m.setPhase id .removed).marked id).marks i
        = if i = id then m.marks id + 1 else m.marks i from Function.update_apply ..]
      split
      · exact iff_of_true (Nat.succ_ne_zero _) ⟨key, rfl⟩
      · exact h.marks i }

/-- **ONE STEP** keeps what the parties rely on. -/
theorem Step.sound (hstep : Step m m') (h : Sound m) : Sound m' := by
  cases hstep with
  | add who id key hnone hfresh =>
    refine (h.added hnone hfresh).held ⟨?_, ?_, nofun, nofun, nofun⟩
    · rintro _ _ ⟨⟩
      rw [added_record, if_pos rfl]
    · rintro _ _ ⟨⟩ i k hi
      have hpending : m.record id = some (k, .pending) := h.pending i id k hi
      rw [hnone] at hpending
      cases hpending
  | put who id key hwho =>
    have hupload : (m.hold who).upload = some (id, key) := congrArg Hold.upload hwho
    refine (h.put (h.pending who id key hupload)).held ?_
    refine (h.put (h.pending who id key hupload)).mayUpload hupload rfl rfl ?_
    rintro _ _ ⟨⟩
    exact Or.inl rfl
  | refuse who id key hwho =>
    have hupload : (m.hold who).upload = some (id, key) := congrArg Hold.upload hwho
    exact h.held (h.mayUpload hupload rfl rfl nofun)
  | store who id key hwho =>
    have hupload : (m.hold who).upload = some (id, key) := congrArg Hold.upload hwho
    exact (h.freed who).settled (h.pending who id key hupload) (h.nobody_else hupload)
      (Or.inl ⟨rfl, h.uploaded who id key hwho⟩)
  | fail who id key hwho =>
    have hupload : (m.hold who).upload = some (id, key) := congrArg Hold.upload hwho
    exact (h.freed who).settled (h.pending who id key hupload) (h.nobody_else hupload)
      (Or.inr rfl)
  | start who id key hid =>
    refine h.held ⟨nofun, nofun, nofun, ?_, nofun⟩
    rintro _ _ ⟨⟩
    exact Or.inl hid
  | take who id key hwho =>
    have hremoval : (m.hold who).removal = some (id, key) := congrArg Hold.removal hwho
    refine (h.taken key).held ⟨nofun, nofun, nofun, ?_, ?_⟩
    · rintro _ _ ⟨⟩
      exact h.removing who id key hremoval
    · rintro _ _ ⟨⟩ hmem
      exact hmem.2 rfl
  | mark who id key hwho =>
    have hremoval : (m.hold who).removal = some (id, key) := congrArg Hold.removal hwho
    exact (h.marked (h.removing who id key hremoval) (h.away who id key hwho)).freed who
  | purge who key => exact (h.taken key).freed who
  | stop who => exact h.freed who

theorem final_setPhase {old phase : Phase} (hid : m.record id = some (key, old))
    (hold : old = phase ∨ (old ≠ .failed ∧ old ≠ .removed)) :
    Final m (m.setPhase id phase) := by
  intro i k was hi hwas
  rw [setPhase_record ⟨old, hid⟩]
  by_cases hii : i = id
  · subst hii
    obtain ⟨rfl, rfl⟩ := Prod.mk.inj (Option.some.inj (hid.symm.trans hi))
    rw [if_pos rfl]
    rcases hold with rfl | ⟨hfailed, hremoved⟩
    · rfl
    · rcases hwas with hwas | hwas
      · exact absurd hwas hfailed
      · exact absurd hwas hremoved
  · rw [if_neg hii]
    exact hi

/-- **FINAL PHASES**: a record that is failed or removed is left as it is. -/
theorem Step.final (hstep : Step m m') (h : Sound m) : Final m m' := by
  cases hstep with
  | add who id key hnone hfresh => exact fun i k phase hi _ => added_record_of_some hnone hi
  | store who id key hwho =>
    have hupload : (m.hold who).upload = some (id, key) := congrArg Hold.upload hwho
    exact final_setPhase (h.pending who id key hupload) (Or.inr ⟨nofun, nofun⟩)
  | fail who id key hwho =>
    have hupload : (m.hold who).upload = some (id, key) := congrArg Hold.upload hwho
    exact final_setPhase (h.pending who id key hupload) (Or.inr ⟨nofun, nofun⟩)
  | mark who id key hwho =>
    have hremoval : (m.hold who).removal = some (id, key) := congrArg Hold.removal hwho
    rcases h.removing who id key hremoval with hid | hid
    · exact final_setPhase hid (Or.inr ⟨nofun, nofun⟩)
    · exact final_setPhase hid (Or.inl rfl)
  | put => exact fun _ _ _ hi _ => hi
  | refuse => exact fun _ _ _ hi _ => hi
  | start => exact fun _ _ _ hi _ => hi
  | take => exact fun _ _ _ hi _ => hi
  | purge => exact fun _ _ _ hi _ => hi
  | stop => exact fun _ _ _ hi _ => hi

/-- **MARKED TWICE**: a mark keeps the bound exactly when the record is not removed yet. -/
theorem once_mark_iff (h : Sound m) (honce : Once m) (hwho : m.hold who = .away id key) :
    Once (((m.setPhase id .removed).marked id).held who .free) ↔
      m.record id = some (key, .stored) := by
  have hremoval : (m.hold who).removal = some (id, key) := congrArg Hold.removal hwho
  have hmarks : ∀ i, (((m.setPhase id .removed).marked id).held who .free).marks i
      = if i = id then m.marks id + 1 else m.marks i := fun i => Function.update_apply ..
  constructor
  · intro hafter
    rcases h.removing who id key hremoval with hid | hid
    · exact hid
    · have hone : m.marks id ≠ 0 := (h.marks id).2 ⟨key, hid⟩
      have htwo := hafter id
      rw [hmarks, if_pos rfl] at htwo
      omega
  · intro hid i
    rw [hmarks]
    split
    · have hnone : ¬ m.marks id ≠ 0 := by
        rw [h.marks id]
        rintro ⟨k, hk⟩
        exact nomatch hid.symm.trans hk
      omega
    · exact honce i

end Steps

end Mirrors
