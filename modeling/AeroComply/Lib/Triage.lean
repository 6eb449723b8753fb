/-!
# Triage — scanning rows for blockers and warnings

A scan looks at each row of a list in turn.  A row passes, warns or blocks; what
it reports is appended to a running report, whose level only rises.  A report
says no more than its rows: it has a blocker exactly when some row blocked, and
it is clear exactly when every row passed.
-/

namespace Triage

variable {α β ω : Type}

/-- What one row has to say. -/
inductive Outcome (β ω : Type)
  | pass
  | warn (warning : ω)
  | block (blocker : β)

namespace Outcome

def blocker? : Outcome β ω → Option β
  | pass => none
  | warn _ => none
  | block b => some b

def warning? : Outcome β ω → Option ω
  | pass => none
  | warn w => some w
  | block _ => none

/-- The row blocks, with a blocker of the kind `p`. -/
def Blocks (p : β → Prop) (o : Outcome β ω) : Prop := ∃ b, o = block b ∧ p b

section Blocks

variable {p : β → Prop}

@[simp] theorem not_blocks_pass : ¬(pass : Outcome β ω).Blocks p := by
  rintro ⟨b, h, -⟩
  cases h

@[simp] theorem not_blocks_warn (w : ω) : ¬(warn w : Outcome β ω).Blocks p := by
  rintro ⟨b, h, -⟩
  cases h

@[simp] theorem blocks_block (b : β) : (block b : Outcome β ω).Blocks p ↔ p b := by
  constructor
  · rintro ⟨b', h, hp⟩
    cases h
    exact hp
  · intro hp
    exact ⟨b, rfl, hp⟩

theorem blocks_ite {c : Prop} [Decidable c] {o o' : Outcome β ω} :
    (if c then o else o').Blocks p ↔ (c ∧ o.Blocks p) ∨ (¬c ∧ o'.Blocks p) := by
  by_cases hc : c
  · simp [hc]
  · simp [hc]

end Blocks

end Outcome

inductive Level
  | clear
  | warning
  | restricted
  deriving DecidableEq, Repr

/-- A blocker restricts; a warning shows only on a clear level. -/
def Level.raise : Level → Outcome β ω → Level
  | level, .pass => level
  | .clear, .warn _ => .warning
  | .warning, .warn _ => .warning
  | .restricted, .warn _ => .restricted
  | _, .block _ => .restricted

/-- A running report. -/
structure Report (β ω : Type) where
  level : Level := .clear
  blockers : List β := []
  warnings : List ω := []

namespace Report

/-- The report with one more outcome. -/
def add (r : Report β ω) (o : Outcome β ω) : Report β ω where
  level := r.level.raise o
  blockers := r.blockers ++ o.blocker?.toList
  warnings := r.warnings ++ o.warning?.toList

/-- The report after the rows were looked at in turn. -/
def scan (f : α → Outcome β ω) (rows : List α) (r : Report β ω) : Report β ω :=
  rows.foldl (fun r a => r.add (f a)) r

/-! ## What a scan reports -/

section Scan

variable {f : α → Outcome β ω}

theorem blockers_scan (rows : List α) :
    ∀ r : Report β ω, (r.scan f rows).blockers
      = r.blockers ++ rows.filterMap (fun a => (f a).blocker?) := by
  induction rows with
  | nil =>
    intro r
    exact (List.append_nil _).symm
  | cons a rows ih =>
    intro r
    show ((r.add (f a)).scan f rows).blockers = _
    rw [ih]
    show (r.blockers ++ (f a).blocker?.toList) ++ _ = _
    rw [List.append_assoc, List.filterMap_cons]
    cases (f a).blocker? with
    | none => rfl
    | some b => rfl

theorem warnings_scan (rows : List α) :
    ∀ r : Report β ω, (r.scan f rows).warnings
      = r.warnings ++ rows.filterMap (fun a => (f a).warning?) := by
  induction rows with
  | nil =>
    intro r
    exact (List.append_nil _).symm
  | cons a rows ih =>
    intro r
    show ((r.add (f a)).scan f rows).warnings = _
    rw [ih]
    show (r.warnings ++ (f a).warning?.toList) ++ _ = _
    rw [List.append_assoc, List.filterMap_cons]
    cases (f a).warning? with
    | none => rfl
    | some w => rfl

variable {r : Report β ω} {rows : List α} {level : Level}

theorem mem_blockers_scan {b : β} :
    b ∈ (r.scan f rows).blockers ↔ b ∈ r.blockers ∨ ∃ a ∈ rows, f a = .block b := by
  rw [blockers_scan, List.mem_append, List.mem_filterMap]
  have hblock : ∀ a, (f a).blocker? = some b ↔ f a = .block b := by
    intro a
    cases f a with
    | pass => exact ⟨fun h => (nomatch h), fun h => (nomatch h)⟩
    | warn w => exact ⟨fun h => (nomatch h), fun h => (nomatch h)⟩
    | block b' => simp [Outcome.blocker?]
  simp only [hblock]

theorem mem_warnings_scan {w : ω} :
    w ∈ (r.scan f rows).warnings ↔ w ∈ r.warnings ∨ ∃ a ∈ rows, f a = .warn w := by
  rw [warnings_scan, List.mem_append, List.mem_filterMap]
  have hwarn : ∀ a, (f a).warning? = some w ↔ f a = .warn w := by
    intro a
    cases f a with
    | pass => exact ⟨fun h => (nomatch h), fun h => (nomatch h)⟩
    | block b => exact ⟨fun h => (nomatch h), fun h => (nomatch h)⟩
    | warn w' => simp [Outcome.warning?]
  simp only [hwarn]

theorem countP_blockers (p : β → Bool) (rows : List α) :
    (rows.filterMap fun a => (f a).blocker?).countP p
      = rows.countP fun a => (f a).blocker?.any p := by
  rw [List.countP_filterMap]
  refine List.countP_congr fun a _ => ?_
  cases (f a).blocker? with
  | none => exact Iff.rfl
  | some b => exact Iff.rfl

/-- The report has a blocker of the kind `p`. -/
def Blocked (p : β → Prop) (r : Report β ω) : Prop := ∃ b ∈ r.blockers, p b

theorem blocked_reset {p : β → Prop} :
    ({ r with level } : Report β ω).Blocked p ↔ r.Blocked p :=
  Iff.rfl

/-- **BLOCKED**: a scan is blocked exactly when it started so or some row blocks. -/
theorem blocked_scan {p : β → Prop} :
    (r.scan f rows).Blocked p ↔ r.Blocked p ∨ ∃ a ∈ rows, (f a).Blocks p := by
  constructor
  · rintro ⟨b, hb, hp⟩
    rcases mem_blockers_scan.1 hb with hb | ⟨a, ha, ho⟩
    · exact Or.inl ⟨b, hb, hp⟩
    · exact Or.inr ⟨a, ha, b, ho, hp⟩
  · rintro (⟨b, hb, hp⟩ | ⟨a, ha, b, ho, hp⟩)
    · exact ⟨b, mem_blockers_scan.2 (Or.inl hb), hp⟩
    · exact ⟨b, mem_blockers_scan.2 (Or.inr ⟨a, ha, ho⟩), hp⟩

theorem raise_eq_clear {o : Outcome β ω} :
    level.raise o = .clear ↔ level = .clear ∧ o = .pass := by
  cases o with
  | pass => exact ⟨fun h => ⟨h, rfl⟩, fun h => h.1⟩
  | warn w =>
    constructor
    · intro h
      cases level with
      | clear => cases h
      | warning => cases h
      | restricted => cases h
    · rintro ⟨-, h⟩
      cases h
  | block b =>
    constructor
    · intro h
      cases level with
      | clear => cases h
      | warning => cases h
      | restricted => cases h
    · rintro ⟨-, h⟩
      cases h

/-- **CLEAR**: a scan is clear exactly when it started clear and every row passed. -/
theorem level_scan_eq_clear (rows : List α) :
    ∀ r : Report β ω, (r.scan f rows).level = .clear ↔
      r.level = .clear ∧ ∀ a ∈ rows, f a = .pass := by
  induction rows with
  | nil =>
    intro r
    exact ⟨fun h => ⟨h, fun a ha => nomatch ha⟩, fun h => h.1⟩
  | cons a rows ih =>
    intro r
    show ((r.add (f a)).scan f rows).level = .clear ↔ _
    rw [ih]
    show (r.level.raise (f a) = .clear ∧ _) ↔ _
    rw [raise_eq_clear, List.forall_mem_cons, and_assoc]

structure Quiet (r : Report β ω) : Prop where
  blockers : r.blockers = []
  warnings : r.warnings = []

theorem quiet_reset :
    ({ r with level } : Report β ω).Quiet ↔ r.Quiet :=
  ⟨fun h => ⟨h.blockers, h.warnings⟩, fun h => ⟨h.blockers, h.warnings⟩⟩

/-- **QUIET**: a scan adds nothing exactly when every row passed. -/
theorem quiet_scan :
    (r.scan f rows).Quiet ↔ r.Quiet ∧ ∀ a ∈ rows, f a = .pass := by
  constructor
  · rintro ⟨hb, hw⟩
    have hb' : ∀ b, b ∉ (r.scan f rows).blockers := by
      intro b hmem
      rw [hb] at hmem
      cases hmem
    have hw' : ∀ w, w ∉ (r.scan f rows).warnings := by
      intro w hmem
      rw [hw] at hmem
      cases hmem
    refine ⟨⟨?_, ?_⟩, ?_⟩
    · exact List.eq_nil_iff_forall_not_mem.2
        (fun b hmem => hb' b (mem_blockers_scan.2 (Or.inl hmem)))
    · exact List.eq_nil_iff_forall_not_mem.2
        (fun w hmem => hw' w (mem_warnings_scan.2 (Or.inl hmem)))
    · intro a ha
      cases ho : f a with
      | pass => rfl
      | warn w => exact absurd (mem_warnings_scan.2 (Or.inr ⟨a, ha, ho⟩)) (hw' w)
      | block b => exact absurd (mem_blockers_scan.2 (Or.inr ⟨a, ha, ho⟩)) (hb' b)
  · rintro ⟨⟨hb, hw⟩, hpass⟩
    constructor
    · apply List.eq_nil_iff_forall_not_mem.2
      intro b hmem
      rcases mem_blockers_scan.1 hmem with hmem | ⟨a, ha, ho⟩
      · rw [hb] at hmem
        cases hmem
      · rw [hpass a ha] at ho
        cases ho
    · apply List.eq_nil_iff_forall_not_mem.2
      intro w hmem
      rcases mem_warnings_scan.1 hmem with hmem | ⟨a, ha, ho⟩
      · rw [hw] at hmem
        cases hmem
      · rw [hpass a ha] at ho
        cases ho

end Scan

end Report
end Triage
