import AeroComply.Services.Assessment

/-!
# AssessmentSnapshot — a snapshot is a ranking of its drafts

What the loop of a run writes is `Wrote`: the six rows of every placed draft, in the order
of the ranks.  As nothing hung on the snapshot before, these are all the rows that hang on
it (`findingsOf_eq` and its siblings), and the counts, the ranks, the severities and the
score of the snapshot can be read off the drafts.  A later run adds rows under its own
identifier, so over whole runs a snapshot stays what it was.
-/

namespace AeroComply

namespace AssessmentEngine

open Ranking
open Relational (Keyed Table)

variable {tables tables' tables'' : AssessmentTables} {p : Placed} {ps : List Placed}

/-! ## The loop -/

/-- The rows of the placed drafts have been added, and nothing else has happened. -/
structure Wrote (tables : AssessmentTables) (ps : List Placed) (tables' : AssessmentTables) :
    Prop where
  operational : tables'.operational = tables.operational
  assessments : tables'.assessments = tables.assessments
  snapshots : tables'.snapshots = tables.snapshots
  findings : tables'.findings.rows = tables.findings.rows ++ ps.map Placed.finding
  gaps : tables'.gaps.rows = tables.gaps.rows ++ ps.map Placed.gap
  risks : tables'.risks.rows = tables.risks.rows ++ ps.map Placed.risk
  recommendations :
    tables'.recommendations.rows = tables.recommendations.rows ++ ps.map Placed.recommendation
  roadmapItems :
    tables'.roadmapItems.rows = tables.roadmapItems.rows ++ ps.map Placed.roadmapItem
  metrics : tables'.metrics.rows = tables.metrics.rows ++ ps.map Placed.metric

theorem Wrote.nil : Wrote tables [] tables := by
  constructor <;> first | rfl | exact (List.append_nil _).symm

theorem rows_trans {α β : Type} {f : β → α} {rows rows' rows'' : List α} {b : β} {bs : List β}
    (h : rows' = rows ++ [b].map f) (h' : rows'' = rows' ++ bs.map f) :
    rows'' = rows ++ (b :: bs).map f := by
  rw [h', h, List.map_singleton, List.map_cons, List.append_assoc, List.singleton_append]

theorem forall_rows {α β : Type} {f : β → α} {q : α → Prop} {rows rows' : List α} {bs : List β}
    (h : rows' = rows ++ bs.map f) (hold : ∀ r ∈ rows, q r) (hnew : ∀ b ∈ bs, q (f b)) :
    ∀ r ∈ rows', q r := by
  intro r hr
  rw [h, List.mem_append] at hr
  rcases hr with hr | hr
  · exact hold r hr
  · obtain ⟨b, hb, rfl⟩ := List.mem_map.1 hr
    exact hnew b hb

theorem Wrote.cons (h : Wrote tables [p] tables') (h' : Wrote tables' ps tables'') :
    Wrote tables (p :: ps) tables'' where
  operational := h'.operational.trans h.operational
  assessments := h'.assessments.trans h.assessments
  snapshots := h'.snapshots.trans h.snapshots
  findings := rows_trans h.findings h'.findings
  gaps := rows_trans h.gaps h'.gaps
  risks := rows_trans h.risks h'.risks
  recommendations := rows_trans h.recommendations h'.recommendations
  roadmapItems := rows_trans h.roadmapItems h'.roadmapItems
  metrics := rows_trans h.metrics h'.metrics

theorem rows_of_addRow {α κ : Type} [Keyed α κ] [DecidableEq κ] {t t' : Table α} {row : α}
    (h : addRow t row = .ok t') : t'.rows = t.rows ++ [row] :=
  (Table.insert?_eq_some (addRowOrRaise_eq_ok.1 h)).2

theorem writeFinding_wrote (h : writeFinding tables p = .ok tables') :
    Wrote tables [p] tables' := by
  obtain ⟨_, _, h⟩ := bind_eq_ok.1 h
  obtain ⟨_, hfindings, h⟩ := bind_eq_ok.1 h
  obtain ⟨_, hgaps, h⟩ := bind_eq_ok.1 h
  obtain ⟨_, hrisks, h⟩ := bind_eq_ok.1 h
  obtain ⟨_, hrecommendations, h⟩ := bind_eq_ok.1 h
  obtain ⟨_, hroadmapItems, h⟩ := bind_eq_ok.1 h
  obtain ⟨_, hmetrics, h⟩ := bind_eq_ok.1 h
  cases h
  exact ⟨rfl, rfl, rfl, rows_of_addRow hfindings, rows_of_addRow hgaps, rows_of_addRow hrisks,
    rows_of_addRow hrecommendations, rows_of_addRow hroadmapItems, rows_of_addRow hmetrics⟩

theorem writeFindings_wrote :
    ∀ {tables : AssessmentTables}, ps.foldlM writeFinding tables = .ok tables' →
      Wrote tables ps tables' := by
  induction ps with
  | nil =>
    intro tables h
    cases h
    exact Wrote.nil
  | cons p ps ih =>
    intro tables h
    rw [List.foldlM_cons] at h
    obtain ⟨_, hfirst, hrest⟩ := bind_eq_ok.1 h
    exact (writeFinding_wrote hfirst).cons (ih hrest)

/-- The identifiers are free, in each table, and the columns hold the texts. -/
structure Writable (tables : AssessmentTables) (ps : List Placed) : Prop where
  fits : ∀ p ∈ ps, entityFits p.draft = true
  findings : (tables.findings.rows.map Keyed.key ++ ps.map fun p => p.ids.finding).Nodup
  gaps : (tables.gaps.rows.map Keyed.key ++ ps.map fun p => p.ids.gap).Nodup
  risks : (tables.risks.rows.map Keyed.key ++ ps.map fun p => p.ids.risk).Nodup
  recommendations :
    (tables.recommendations.rows.map Keyed.key ++ ps.map fun p => p.ids.recommendation).Nodup
  roadmapItems : (tables.roadmapItems.rows.map Keyed.key ++ ps.map fun p => p.ids.roadmapItem).Nodup
  metrics : (tables.metrics.rows.map Keyed.key ++ ps.map fun p => p.ids.metric).Nodup

theorem exists_addRow {α κ : Type} [Keyed α κ] [DecidableEq κ] {t : Table α} (row : α) {ks : List κ}
    (h : (t.rows.map Keyed.key ++ Keyed.key row :: ks).Nodup) :
    ∃ t', addRow t row = .ok t' ∧ (t'.rows.map Keyed.key ++ ks).Nodup := by
  cases hinsert : t.insert? row with
  | none =>
    obtain ⟨x, hx, hkey⟩ := Table.insert?_eq_none.1 hinsert
    exact absurd hkey ((List.nodup_append.1 h).2.2 _ (List.mem_map_of_mem hx) _
      List.mem_cons_self)
  | some t' =>
    refine ⟨t', addRowOrRaise_eq_ok.2 hinsert, ?_⟩
    rw [(Table.insert?_eq_some hinsert).2, List.map_append, List.map_singleton, List.append_assoc,
      List.singleton_append]
    exact h

theorem exists_writeFindings :
    ∀ {tables : AssessmentTables}, Writable tables ps →
      ∃ tables', ps.foldlM writeFinding tables = .ok tables' := by
  induction ps with
  | nil => exact fun _ => ⟨_, rfl⟩
  | cons p ps ih =>
    intro tables h
    obtain ⟨findings, hfindings, findings_nodup⟩ := exists_addRow p.finding h.findings
    obtain ⟨gaps, hgaps, gaps_nodup⟩ := exists_addRow p.gap h.gaps
    obtain ⟨risks, hrisks, risks_nodup⟩ := exists_addRow p.risk h.risks
    obtain ⟨recommendations, hrecommendations, recommendations_nodup⟩ :=
      exists_addRow p.recommendation h.recommendations
    obtain ⟨roadmapItems, hroadmapItems, roadmapItems_nodup⟩ :=
      exists_addRow p.roadmapItem h.roadmapItems
    obtain ⟨metrics, hmetrics, metrics_nodup⟩ := exists_addRow p.metric h.metrics
    have hfits : raiseIf (entityFits p.draft = false) .dataError = .ok () := by
      rw [raiseIf_eq_ok, h.fits p List.mem_cons_self]
      exact Bool.noConfusion
    have hwrite : writeFinding tables p = .ok
        { tables with findings, gaps, risks, recommendations, roadmapItems, metrics } := by
      rw [writeFinding, hfits, ok_bind, hfindings, ok_bind, hgaps, ok_bind, hrisks, ok_bind,
        hrecommendations, ok_bind, hroadmapItems, ok_bind, hmetrics, ok_bind]
      rfl
    rw [List.foldlM_cons, hwrite]
    exact ih ⟨fun p hp => h.fits p (List.mem_cons_of_mem _ hp), findings_nodup, gaps_nodup,
      risks_nodup, recommendations_nodup, roadmapItems_nodup, metrics_nodup⟩

/-! ## The ranking -/

instance : Std.Total rankedBefore := by
  refine ⟨fun d d' => ?_⟩
  rw [rankedBefore, rankedBefore]
  rcases lt_trichotomy d.materialityScore d'.materialityScore with hlt | heq | hgt
  · exact Or.inr (Or.inl hlt)
  · rcases le_total d.dependencyCount d'.dependencyCount with hle | hle
    · exact Or.inr (Or.inr ⟨heq, hle⟩)
    · exact Or.inl (Or.inr ⟨heq.symm, hle⟩)
  · exact Or.inl (Or.inl hgt)

instance : IsTrans DraftFinding rankedBefore := by
  refine ⟨fun d d' d'' h h' => ?_⟩
  rcases h with hlt | ⟨heq, hle⟩
  · rcases h' with hlt' | ⟨heq', _⟩
    · exact Or.inl (hlt'.trans hlt)
    · exact Or.inl (heq' ▸ hlt)
  · rcases h' with hlt' | ⟨heq', hle'⟩
    · exact Or.inl (heq ▸ hlt')
    · exact Or.inr ⟨heq'.trans heq, hle'.trans hle⟩

section Placed

variable {newIds : Nat → RowIds} {organizationId snapshotId : UUID} {drafts : List DraftFinding}

theorem snapshotId_of_mem_placed (h : p ∈ placed newIds organizationId snapshotId drafts) :
    p.snapshotId = snapshotId := by
  obtain ⟨_, _, rfl⟩ := List.mem_map.1 h
  rfl

theorem length_placed : (placed newIds organizationId snapshotId drafts).length = drafts.length := by
  rw [placed, List.length_map, length_ranked]

theorem map_rank_placed :
    (placed newIds organizationId snapshotId drafts).map Placed.rank
      = List.range' 1 drafts.length := by
  rw [← map_snd_ranked rankedBefore drafts, placed, List.map_map]
  rfl

theorem map_draft_placed_perm :
    ((placed newIds organizationId snapshotId drafts).map Placed.draft).Perm drafts := by
  have hdraft : (placed newIds organizationId snapshotId drafts).map Placed.draft
      = (ranked rankedBefore drafts).map Prod.fst := by
    rw [placed, List.map_map]
    rfl
  rw [hdraft]
  exact map_fst_ranked_perm rankedBefore drafts

theorem pairwise_placed :
    (placed newIds organizationId snapshotId drafts).Pairwise fun p p' =>
      p.rank < p'.rank ∧ rankedBefore p.draft p'.draft := by
  have hranks : (placed newIds organizationId snapshotId drafts).Pairwise fun p p' =>
      p.rank < p'.rank := by
    rw [← List.pairwise_map (f := Placed.rank), map_rank_placed]
    exact List.pairwise_lt_range'
  refine hranks.and ?_
  rw [placed, List.pairwise_map]
  exact pairwise_ranked rankedBefore drafts

end Placed

/-! ## The score -/

section Score

variable {drafts drafts' : List DraftFinding}

theorem halfScore_nonneg (d : DraftFinding) : 0 ≤ d.materialityScore / 2 :=
  div_nonneg d.score_nonneg (by norm_num)

theorem roundTenth_mono : Monotone roundTenth := by
  intro x y hxy
  have hround : FlightService.roundHalfEven (x * 10) ≤ FlightService.roundHalfEven (y * 10) :=
    FlightService.nearest_roundHalfEven.monotone (by linarith)
  have hcast : (FlightService.roundHalfEven (x * 10) : ℚ) ≤ FlightService.roundHalfEven (y * 10) := by
    exact_mod_cast hround
  rw [roundTenth, roundTenth]
  linarith

theorem roundTenth_intCast (n : Int) : roundTenth n = n := by
  have hround : FlightService.roundHalfEven ((n * 10 : Int) : ℚ) = n * 10 :=
    FlightService.nearest_roundHalfEven.intCast (n * 10)
  have hcast : (n : ℚ) * 10 = ((n * 10 : Int) : ℚ) := by push_cast; ring
  rw [roundTenth, hcast, hround]
  push_cast
  ring

theorem roundTenth_overallScore_nonneg : 0 ≤ roundTenth (overallScore drafts) := by
  have h := roundTenth_mono (score_nonneg : 0 ≤ overallScore drafts)
  have hzero := roundTenth_intCast 0
  rw [Int.cast_zero] at hzero
  rwa [hzero] at h

theorem roundTenth_overallScore_le : roundTenth (overallScore drafts) ≤ 100 := by
  have h := roundTenth_mono (score_le (by norm_num) halfScore_nonneg : overallScore drafts ≤ 100)
  have hcap := roundTenth_intCast 100
  push_cast at hcap
  rwa [hcap] at h

theorem roundTenth_overallScore_anti (h : drafts.Subperm drafts') :
    roundTenth (overallScore drafts') ≤ roundTenth (overallScore drafts) :=
  roundTenth_mono (score_anti halfScore_nonneg h)

end Score

/-! ## The version -/

/-- The snapshots of the assessment so far. -/
def earlierSnapshots (tables : AssessmentTables) (assessmentId : UUID) : List AssessmentSnapshot :=
  tables.snapshots.select fun s => s.assessmentId = assessmentId

theorem priorVersion_eq (tables : AssessmentTables) (assessmentId : UUID) :
    priorVersion tables assessmentId =
      (((earlierSnapshots tables assessmentId).map AssessmentSnapshot.version).max?).getD 0 := rfl

theorem priorVersion_of_nil {assessmentId : UUID}
    (h : earlierSnapshots tables assessmentId = []) : priorVersion tables assessmentId = 0 := by
  rw [priorVersion_eq, h]
  rfl

theorem priorVersion_isGreatest {assessmentId : UUID}
    (h : earlierSnapshots tables assessmentId ≠ []) :
    (∃ s ∈ earlierSnapshots tables assessmentId, s.version = priorVersion tables assessmentId) ∧
      ∀ s ∈ earlierSnapshots tables assessmentId, s.version ≤ priorVersion tables assessmentId := by
  rw [priorVersion_eq]
  cases hmax : ((earlierSnapshots tables assessmentId).map AssessmentSnapshot.version).max? with
  | none => exact absurd (List.map_eq_nil_iff.1 (List.max?_eq_none_iff.1 hmax)) h
  | some greatest =>
    obtain ⟨hmem, hle⟩ := List.max?_eq_some_iff.1 hmax
    obtain ⟨s, hs, hversion⟩ := List.mem_map.1 hmem
    exact ⟨⟨s, hs, hversion⟩, fun x hx => hle _ (List.mem_map_of_mem hx)⟩

/-! ## The snapshot -/

section Snapshot

variable {newId organizationId : UUID} {newIds : Nat → RowIds} {actorUserId : Option UUID}
variable {assessment : Assessment} {drafts : List DraftFinding} {snapshot : AssessmentSnapshot}

theorem writeSnapshot_cases
    (h : writeSnapshot newId newIds organizationId actorUserId tables assessment drafts
      = .ok (snapshot, tables')) :
    snapshot = snapshotRow newId organizationId assessment (priorVersion tables assessment.id) drafts ∧
      ∃ snapshots written, addRow tables.snapshots snapshot = .ok snapshots ∧
        Wrote { tables with snapshots } (placed newIds organizationId snapshot.id drafts) written ∧
        tables' = { written with
          assessments := tables.assessments.save { assessment with status := .complete }
          operational := tables.operational.recordAuditEvent organizationId actorUserId
            "assessment.run" "Assessment" (some assessment.id) } := by
  obtain ⟨snapshots, hadd, h⟩ := bind_eq_ok.1 h
  obtain ⟨written, hwrite, h⟩ := bind_eq_ok.1 h
  cases h
  have hwrote := writeFindings_wrote hwrite
  refine ⟨rfl, snapshots, written, hadd, hwrote, ?_⟩
  rw [hwrote.assessments, hwrote.operational]

theorem not_hasSnapshot {snapshots : Table AssessmentSnapshot}
    (h : addRow tables.snapshots snapshot = .ok snapshots) : ¬tables.HasSnapshot snapshot.id := by
  rintro ⟨s, hs, hid⟩
  have hfree := (Table.insert?_eq_some (addRowOrRaise_eq_ok.1 h)).1
  exact hfree (List.mem_map.2 ⟨s, hs, hid⟩)

theorem select_written {α : Type} [Keyed α UUID] {t t' : Table α} {f : Placed → α}
    {snapshotOf : α → UUID}
    (hrows : t'.rows = t.rows ++ (placed newIds organizationId newId drafts).map f)
    (hf : ∀ p, snapshotOf (f p) = p.snapshotId)
    (hold : ∀ r ∈ t.rows, tables.HasSnapshot (snapshotOf r)) (hfresh : ¬tables.HasSnapshot newId) :
    t'.select (fun r => snapshotOf r = newId)
      = (placed newIds organizationId newId drafts).map f := by
  refine Table.select_appended hrows ?_ ?_
  · intro r hr
    obtain ⟨p, hp, rfl⟩ := List.mem_map.1 hr
    rw [decide_eq_true_eq, hf]
    exact snapshotId_of_mem_placed hp
  · intro r hr
    rw [decide_eq_true_eq]
    rintro rfl
    exact hfresh (hold r hr)

theorem length_written {α : Type} [Keyed α UUID] {t t' : Table α} {f : Placed → α}
    {snapshotOf : α → UUID}
    (hrows : t'.rows = t.rows ++ (placed newIds organizationId newId drafts).map f)
    (hf : ∀ p, snapshotOf (f p) = p.snapshotId)
    (hold : ∀ r ∈ t.rows, tables.HasSnapshot (snapshotOf r)) (hfresh : ¬tables.HasSnapshot newId) :
    (t'.select fun r => snapshotOf r = newId).length = drafts.length := by
  rw [select_written hrows hf hold hfresh, List.length_map, length_placed]

theorem countP_placed (kind : DraftFinding → Bool) :
    (placed newIds organizationId newId drafts).countP (fun p => kind p.draft)
      = drafts.countP kind := by
  rw [← map_draft_placed_perm.countP_eq kind, List.countP_map]
  rfl

theorem countP_severity :
    drafts.countP (fun d => d.severity = .critical) = criticalCount drafts := by
  refine List.countP_congr fun d _ => ?_
  rw [d.severity_eq, severityForScore]

/-- The snapshot, and what is stored with it, is a ranking of the drafts. -/
structure FaithfulRanking (before : AssessmentTables) (assessmentId : UUID)
    (drafts : List DraftFinding) (snapshot : AssessmentSnapshot) (tables : AssessmentTables) :
    Prop where
  stored : snapshot ∈ tables.snapshots.rows ∧ snapshot.assessmentId = assessmentId
  findingCount : snapshot.findingCount = drafts.length
  findings : (tables.findingsOf snapshot.id).length = drafts.length
  gaps : (tables.gapsOf snapshot.id).length = drafts.length
  risks : (tables.risksOf snapshot.id).length = drafts.length
  recommendations : (tables.recommendationsOf snapshot.id).length = drafts.length
  roadmapItems : (tables.roadmapItemsOf snapshot.id).length = drafts.length
  metrics : (tables.metricsOf snapshot.id).length = drafts.length
  ranks : (tables.findingsOf snapshot.id).map AssessmentFinding.priorityRank
    = List.range' 1 drafts.length
  ordered : ∀ f ∈ tables.findingsOf snapshot.id, ∀ f' ∈ tables.findingsOf snapshot.id,
    f.priorityRank < f'.priorityRank → f'.materialityScore < f.materialityScore ∨
      f'.materialityScore = f.materialityScore ∧ f'.dependencyCount ≤ f.dependencyCount
  critical : snapshot.criticalFindingCount
    = (tables.findingsOf snapshot.id).countP fun f => f.severity = .critical
  score_mem : 0 ≤ snapshot.overallScore ∧ snapshot.overallScore ≤ 100
  first_version : earlierSnapshots before assessmentId = [] → snapshot.version = 1
  next_version : earlierSnapshots before assessmentId ≠ [] →
    (∃ s ∈ earlierSnapshots before assessmentId, snapshot.version = s.version + 1) ∧
      ∀ s ∈ earlierSnapshots before assessmentId, s.version < snapshot.version

theorem findingsOf_eq (hforeign : tables.ForeignKeys)
    (h : writeSnapshot newId newIds organizationId actorUserId tables assessment drafts
      = .ok (snapshot, tables')) :
    tables'.findingsOf snapshot.id
      = (placed newIds organizationId snapshot.id drafts).map Placed.finding := by
  obtain ⟨_, _, _, hadd, hwrote, rfl⟩ := writeSnapshot_cases h
  exact select_written hwrote.findings (fun _ => rfl) hforeign.findings (not_hasSnapshot hadd)

theorem pairwise_findingsOf (hforeign : tables.ForeignKeys)
    (h : writeSnapshot newId newIds organizationId actorUserId tables assessment drafts
      = .ok (snapshot, tables')) :
    (tables'.findingsOf snapshot.id).Pairwise fun f f' =>
      f.priorityRank < f'.priorityRank ∧ (f'.materialityScore < f.materialityScore ∨
        f'.materialityScore = f.materialityScore ∧ f'.dependencyCount ≤ f.dependencyCount) := by
  rw [findingsOf_eq hforeign h, List.pairwise_map]
  exact pairwise_placed

theorem exists_writeSnapshot (hid : ¬tables.HasSnapshot newId)
    (h : Writable tables (placed newIds organizationId newId drafts)) :
    ∃ run, writeSnapshot newId newIds organizationId actorUserId tables assessment drafts
      = .ok run := by
  have hfree : (tables.snapshots.rows.map Keyed.key ++ [newId]).Nodup := by
    refine List.Nodup.append tables.snapshots.nodup (List.nodup_singleton _) ?_
    rw [List.disjoint_singleton]
    intro hmem
    obtain ⟨s, hs, hkey⟩ := List.mem_map.1 hmem
    exact hid ⟨s, hs, hkey⟩
  obtain ⟨snapshots, hadd, _⟩ := exists_addRow (snapshotRow newId organizationId assessment
    (priorVersion tables assessment.id) drafts) hfree
  have hwritable : Writable { tables with snapshots } (placed newIds organizationId newId drafts) :=
    ⟨h.fits, h.findings, h.gaps, h.risks, h.recommendations, h.roadmapItems, h.metrics⟩
  obtain ⟨written, hwrite⟩ := exists_writeFindings hwritable
  simp only [writeSnapshot, hadd, ok_bind, hwrite]
  exact ⟨_, rfl⟩

/-- What a run stores ranks the drafts. -/
theorem faithfulRanking_of_writeSnapshot (hforeign : tables.ForeignKeys)
    (h : writeSnapshot newId newIds organizationId actorUserId tables assessment drafts
      = .ok (snapshot, tables')) :
    FaithfulRanking tables assessment.id drafts snapshot tables' := by
  have hfindings := findingsOf_eq hforeign h
  have hpairwise := pairwise_findingsOf hforeign h
  obtain ⟨hrow, snapshots, written, hadd, hwrote, htables⟩ := writeSnapshot_cases h
  have hfresh := not_hasSnapshot hadd
  refine {
    stored := ?_
    findingCount := ?_
    findings := ?_
    gaps := ?_
    risks := ?_
    recommendations := ?_
    roadmapItems := ?_
    metrics := ?_
    ranks := ?_
    ordered := ?_
    critical := ?_
    score_mem := ?_
    first_version := ?_
    next_version := ?_ }
  · rw [htables, hrow]
    refine ⟨?_, rfl⟩
    show _ ∈ written.snapshots.rows
    rw [hwrote.snapshots, rows_of_addRow hadd, hrow]
    exact List.mem_append_right _ (List.mem_singleton_self _)
  · rw [hrow]
    rfl
  · rw [hfindings, List.length_map, length_placed]
  · rw [htables]
    exact length_written hwrote.gaps (fun _ => rfl) hforeign.gaps hfresh
  · rw [htables]
    exact length_written hwrote.risks (fun _ => rfl) hforeign.risks hfresh
  · rw [htables]
    exact length_written hwrote.recommendations (fun _ => rfl) hforeign.recommendations hfresh
  · rw [htables]
    exact length_written hwrote.roadmapItems (fun _ => rfl) hforeign.roadmapItems hfresh
  · rw [htables]
    exact length_written hwrote.metrics (fun _ => rfl) hforeign.metrics hfresh
  · rw [hfindings, List.map_map]
    exact map_rank_placed
  · intro f hf f' hf' hlt
    exact rel_of_place_lt hpairwise hf hf' hlt
  · rw [hfindings, List.countP_map, hrow]
    exact (countP_severity.symm.trans (countP_placed _).symm)
  · rw [hrow]
    exact ⟨roundTenth_overallScore_nonneg, roundTenth_overallScore_le⟩
  · intro hnone
    rw [hrow]
    show priorVersion tables assessment.id + 1 = 1
    rw [priorVersion_of_nil hnone]
    rfl
  · intro hsome
    obtain ⟨⟨s, hs, hversion⟩, hle⟩ := priorVersion_isGreatest hsome
    rw [hrow]
    refine ⟨⟨s, hs, ?_⟩, fun x hx => ?_⟩
    · rw [hversion]
      rfl
    · exact Int.lt_add_one_of_le (hle x hx)

/-- **A SNAPSHOT IS A FAITHFUL RANKING** of any drafts: one finding, gap, risk, recommendation,
roadmap item and metric for each, ranks 1 to n by materiality and dependencies, the critical
ones counted, a score between 0 and 100 that more drafts do not raise, the next version. -/
theorem snapshot_faithful (store : AssessmentStore)
    (h : writeSnapshot newId newIds organizationId actorUserId store.tables assessment drafts
      = .ok (snapshot, tables')) :
    FaithfulRanking store.tables assessment.id drafts snapshot tables' ∧
      ∀ (tables'' written : AssessmentTables) (newId' organizationId' : UUID)
        (newIds' : Nat → RowIds) (actorUserId' : Option UUID) (assessment' : Assessment)
        (drafts' : List DraftFinding) (snapshot' : AssessmentSnapshot),
        writeSnapshot newId' newIds' organizationId' actorUserId' tables'' assessment' drafts'
            = .ok (snapshot', written) →
          drafts.Subperm drafts' → snapshot'.overallScore ≤ snapshot.overallScore := by
  refine ⟨faithfulRanking_of_writeSnapshot store.foreignKeys h, ?_⟩
  intro tables'' written' newId' organizationId' newIds' actorUserId' assessment' drafts'
    snapshot' h' hsub
  obtain ⟨hrow, _⟩ := writeSnapshot_cases h
  obtain ⟨hrow', _⟩ := writeSnapshot_cases h'
  rw [hrow, hrow']
  exact roundTenth_overallScore_anti hsub

/-- An assessment that has been run before, and found nothing. -/
def runBefore : AssessmentStore where
  tables :=
    { assessments := ⟨[{ id := 1, organizationId := 1, name := "Fleet" }], by decide⟩
      snapshots := ⟨[{ id := 1, organizationId := 1, assessmentId := 1, version := 3
                       overallScore := 100, maturityBand := .healthy }], by decide⟩ }
  foreignKeys := ⟨nofun, nofun, nofun, nofun, nofun, nofun⟩

/-- A qualification that is about to expire, and one that has expired. -/
def twoDrafts : List DraftFinding :=
  [expiryFinding 0 { id := 1, organizationId := 1, userId := 1, aircraftType := "A320"
                     expiresAt := some 1 },
    expiryFinding 0 { id := 2, organizationId := 1, userId := 2, aircraftType := "A320"
                      expiresAt := some 0 }]

theorem snapshot_faithful_twoDrafts :
    ∃ snapshot tables', FaithfulRanking runBefore.tables 1 twoDrafts snapshot tables' ∧
      snapshot.version = 4 ∧ snapshot.findingCount = 2 := by
  have hfresh : ¬runBefore.tables.HasSnapshot 2 := by
    rintro ⟨s, hs, hid⟩
    revert s
    decide
  have hrun : ∃ run, writeSnapshot 2 (fun n => ⟨n, n, n, n, n, n⟩) 1 none runBefore.tables
      { id := 1, organizationId := 1, name := "Fleet" } twoDrafts = .ok run :=
    exists_writeSnapshot hfresh (by constructor <;> decide)
  obtain ⟨⟨snapshot, tables'⟩, h⟩ := hrun
  obtain ⟨hrow, _⟩ := writeSnapshot_cases h
  refine ⟨snapshot, tables', (snapshot_faithful runBefore h).1, ?_, ?_⟩
  · rw [hrow]
    decide
  · rw [hrow]
    decide

theorem writeSnapshot_foreignKeys (hforeign : tables.ForeignKeys)
    (h : writeSnapshot newId newIds organizationId actorUserId tables assessment drafts
      = .ok (snapshot, tables')) : tables'.ForeignKeys := by
  obtain ⟨_, snapshots, written, hadd, hwrote, rfl⟩ := writeSnapshot_cases h
  have hsnapshots : written.snapshots.rows = tables.snapshots.rows ++ [snapshot] := by
    rw [hwrote.snapshots]
    exact rows_of_addRow hadd
  have hkept : ∀ {id : UUID}, tables.HasSnapshot id → ∃ s ∈ written.snapshots.rows, s.id = id := by
    rintro _ ⟨s, hs, rfl⟩
    refine ⟨s, ?_, rfl⟩
    rw [hsnapshots]
    exact List.mem_append_left _ hs
  have hnew : ∃ s ∈ written.snapshots.rows, s.id = snapshot.id := by
    refine ⟨snapshot, ?_, rfl⟩
    rw [hsnapshots]
    exact List.mem_append_right _ (List.mem_singleton_self _)
  have hplaced : ∀ p ∈ placed newIds organizationId snapshot.id drafts,
      ∃ s ∈ written.snapshots.rows, s.id = p.snapshotId := fun p hp =>
    (snapshotId_of_mem_placed hp).symm ▸ hnew
  exact
    { findings := forall_rows hwrote.findings (fun r hr => hkept (hforeign.findings r hr)) hplaced
      gaps := forall_rows hwrote.gaps (fun r hr => hkept (hforeign.gaps r hr)) hplaced
      risks := forall_rows hwrote.risks (fun r hr => hkept (hforeign.risks r hr)) hplaced
      recommendations := forall_rows hwrote.recommendations
        (fun r hr => hkept (hforeign.recommendations r hr)) hplaced
      roadmapItems := forall_rows hwrote.roadmapItems
        (fun r hr => hkept (hforeign.roadmapItems r hr)) hplaced
      metrics := forall_rows hwrote.metrics (fun r hr => hkept (hforeign.metrics r hr)) hplaced }

/-! ## Whole runs -/

/-- A request to the engine, or a commit of any other service: none of them writes snapshots. -/
inductive Action
  | createAssessment (newId organizationId : UUID) (actorUserId : Option UUID)
      (payload : AssessmentCreateRequest)
  | runAssessment (newId : UUID) (newIds : Nat → RowIds) (now : DateTime) (organizationId : UUID)
      (actorUserId : Option UUID) (assessmentId : UUID)
  | elsewhere (db : Database)

def step (tables : AssessmentTables) : Action → Except Error AssessmentTables
  | .createAssessment newId org actor payload => createAssessment tables newId org actor payload
  | .runAssessment newId newIds now org actor assessmentId =>
    (runAssessment newId newIds now org actor tables assessmentId).map Prod.snd
  | .elsewhere db => .ok { tables with operational := db }

/-- The snapshot is stored in both, with the same rows of its own. -/
structure Undisturbed (s : AssessmentSnapshot) (tables tables' : AssessmentTables) : Prop where
  stored : s ∈ tables'.snapshots.rows
  findings : tables'.findingsOf s.id = tables.findingsOf s.id
  gaps : tables'.gapsOf s.id = tables.gapsOf s.id
  risks : tables'.risksOf s.id = tables.risksOf s.id
  recommendations : tables'.recommendationsOf s.id = tables.recommendationsOf s.id
  roadmapItems : tables'.roadmapItemsOf s.id = tables.roadmapItemsOf s.id
  metrics : tables'.metricsOf s.id = tables.metricsOf s.id

/-- Every snapshot of the first is undisturbed in the second. -/
def KeepsSnapshots (tables tables' : AssessmentTables) : Prop :=
  ∀ s ∈ tables.snapshots.rows, Undisturbed s tables tables'

/-- Every snapshot ranks the drafts of some run, and those of an assessment have the versions
1 to n in the order of the runs. -/
structure Consistent (tables : AssessmentTables) : Prop where
  foreignKeys : tables.ForeignKeys
  faithful : ∀ s ∈ tables.snapshots.rows, ∃ before drafts,
    FaithfulRanking before s.assessmentId drafts s tables
  versions : ∀ assessmentId, (earlierSnapshots tables assessmentId).map (·.version)
    = (List.range' 1 (earlierSnapshots tables assessmentId).length).map Nat.cast

theorem Undisturbed.trans {s : AssessmentSnapshot} (h : Undisturbed s tables tables')
    (h' : Undisturbed s tables' tables'') : Undisturbed s tables tables'' :=
  ⟨h'.stored, h'.findings.trans h.findings, h'.gaps.trans h.gaps, h'.risks.trans h.risks,
    h'.recommendations.trans h.recommendations, h'.roadmapItems.trans h.roadmapItems,
    h'.metrics.trans h.metrics⟩

theorem FaithfulRanking.of_undisturbed {before : AssessmentTables} {assessmentId : UUID}
    {s : AssessmentSnapshot} (h : FaithfulRanking before assessmentId drafts s tables)
    (hkept : Undisturbed s tables tables') :
    FaithfulRanking before assessmentId drafts s tables' where
  stored := ⟨hkept.stored, h.stored.2⟩
  findingCount := h.findingCount
  findings := (congrArg _ hkept.findings).trans h.findings
  gaps := (congrArg _ hkept.gaps).trans h.gaps
  risks := (congrArg _ hkept.risks).trans h.risks
  recommendations := (congrArg _ hkept.recommendations).trans h.recommendations
  roadmapItems := (congrArg _ hkept.roadmapItems).trans h.roadmapItems
  metrics := (congrArg _ hkept.metrics).trans h.metrics
  ranks := (congrArg _ hkept.findings).trans h.ranks
  ordered := hkept.findings ▸ h.ordered
  critical := hkept.findings ▸ h.critical
  score_mem := h.score_mem
  first_version := h.first_version
  next_version := h.next_version

theorem select_kept {α : Type} [Keyed α UUID] {t t' : Table α} {f : Placed → α}
    {snapshotOf : α → UUID} {id : UUID}
    (hrows : t'.rows = t.rows ++ (placed newIds organizationId newId drafts).map f)
    (hf : ∀ p, snapshotOf (f p) = p.snapshotId) (hid : id ≠ newId) :
    (t'.select fun r => snapshotOf r = id) = t.select fun r => snapshotOf r = id := by
  have hnone : ((placed newIds organizationId newId drafts).map f).filter
      (fun r => snapshotOf r = id) = [] := by
    refine List.filter_eq_nil_iff.2 fun r hr => ?_
    obtain ⟨p, hp, rfl⟩ := List.mem_map.1 hr
    rw [decide_eq_true_eq, hf, snapshotId_of_mem_placed hp]
    exact hid.symm
  rw [Table.select, hrows, List.filter_append, hnone, List.append_nil, Table.select]

/-- A run adds one snapshot, and disturbs none. -/
theorem snapshots_of_writeSnapshot
    (h : writeSnapshot newId newIds organizationId actorUserId tables assessment drafts
      = .ok (snapshot, tables')) :
    tables'.snapshots.rows = tables.snapshots.rows ++ [snapshot] ∧
      KeepsSnapshots tables tables' := by
  obtain ⟨_, snapshots, written, hadd, hwrote, rfl⟩ := writeSnapshot_cases h
  have hrows : written.snapshots.rows = tables.snapshots.rows ++ [snapshot] := by
    rw [hwrote.snapshots]
    exact rows_of_addRow hadd
  refine ⟨hrows, fun s hs => ?_⟩
  have hid : s.id ≠ snapshot.id := fun hid => not_hasSnapshot hadd ⟨s, hs, hid⟩
  refine ⟨?_, select_kept hwrote.findings (fun _ => rfl) hid,
    select_kept hwrote.gaps (fun _ => rfl) hid, select_kept hwrote.risks (fun _ => rfl) hid,
    select_kept hwrote.recommendations (fun _ => rfl) hid,
    select_kept hwrote.roadmapItems (fun _ => rfl) hid,
    select_kept hwrote.metrics (fun _ => rfl) hid⟩
  show s ∈ written.snapshots.rows
  rw [hrows]
  exact List.mem_append_left _ hs

theorem max?_versions (n : Nat) :
    (((List.range' 1 n).map (Nat.cast : Nat → Int)).max?).getD 0 = n := by
  cases n with
  | zero => rfl
  | succ n =>
    have hmax : ((List.range' 1 (n + 1)).map (Nat.cast : Nat → Int)).max?
        = some ((n + 1 : Nat) : Int) := by
      refine List.max?_eq_some_iff.2 ⟨List.mem_map.2 ⟨n + 1, List.mem_range'_1.2 (by omega), rfl⟩,
        fun v hv => ?_⟩
      obtain ⟨k, hk, rfl⟩ := List.mem_map.1 hv
      have hrange := List.mem_range'_1.1 hk
      omega
    rw [hmax]
    rfl

theorem consistent_of_writeSnapshot (hc : Consistent tables)
    (h : writeSnapshot newId newIds organizationId actorUserId tables assessment drafts
      = .ok (snapshot, tables')) : Consistent tables' ∧ KeepsSnapshots tables tables' := by
  obtain ⟨hrows, hkept⟩ := snapshots_of_writeSnapshot h
  have hnew := faithfulRanking_of_writeSnapshot hc.foreignKeys h
  refine ⟨⟨writeSnapshot_foreignKeys hc.foreignKeys h, fun s hs => ?_, fun a => ?_⟩, hkept⟩
  · rw [hrows, List.mem_append, List.mem_singleton] at hs
    rcases hs with hs | rfl
    · obtain ⟨before, drafts, hfaithful⟩ := hc.faithful s hs
      exact ⟨before, drafts, hfaithful.of_undisturbed (hkept s hs)⟩
    · exact ⟨tables, drafts, hnew.stored.2.symm ▸ hnew⟩
  · have hearlier : earlierSnapshots tables' a
        = earlierSnapshots tables a ++ [snapshot].filter fun s => s.assessmentId = a := by
      rw [earlierSnapshots, Table.select, hrows, List.filter_append]
      rfl
    rw [hearlier]
    by_cases ha : snapshot.assessmentId = a
    · have hversion : snapshot.version = (earlierSnapshots tables a).length + 1 := by
        rw [(writeSnapshot_cases h).1, ← ha, hnew.stored.2]
        show priorVersion tables assessment.id + 1 = _
        rw [priorVersion_eq, hc.versions, max?_versions]
      have hone : [snapshot].filter (fun s => s.assessmentId = a) = [snapshot] := by simp [ha]
      rw [hone, List.map_append, hc.versions, List.length_append, List.length_singleton,
        List.range'_1_concat, List.map_append, List.map_singleton, List.map_singleton, hversion]
      push_cast
      rw [add_comm]
    · have hnone : [snapshot].filter (fun s => s.assessmentId = a) = [] := by simp [ha]
      rw [hnone, List.append_nil]
      exact hc.versions a

/-- A commit that writes neither snapshots nor their rows. -/
theorem consistent_of_others (hc : Consistent tables) (assessments : Table Assessment)
    (operational : Database) : Consistent { tables with assessments, operational } ∧
      KeepsSnapshots tables { tables with assessments, operational } := by
  have hkept : KeepsSnapshots tables { tables with assessments, operational } :=
    fun s hs => ⟨hs, rfl, rfl, rfl, rfl, rfl, rfl⟩
  refine ⟨⟨⟨hc.1.1, hc.1.2, hc.1.3, hc.1.4, hc.1.5, hc.1.6⟩, fun s hs => ?_, hc.versions⟩, hkept⟩
  obtain ⟨before, drafts, hfaithful⟩ := hc.faithful s hs
  exact ⟨before, drafts, hfaithful.of_undisturbed (hkept s hs)⟩

theorem step_consistent {action : Action} (hc : Consistent tables)
    (h : step tables action = .ok tables') : Consistent tables' ∧ KeepsSnapshots tables tables' := by
  cases action with
  | createAssessment newId org actor payload =>
    obtain ⟨_, _, h⟩ := bind_eq_ok.1 h
    obtain ⟨assessments, _, h⟩ := bind_eq_ok.1 h
    cases h
    exact consistent_of_others hc assessments tables.operational
  | runAssessment newId newIds now org actor assessmentId =>
    obtain ⟨⟨snapshot, stored⟩, hrun, hstored⟩ := bind_eq_ok.1 h
    obtain ⟨assessment, _, hrun⟩ := bind_eq_ok.1 hrun
    obtain ⟨drafts, _, hwrite⟩ := bind_eq_ok.1 hrun
    cases hstored
    exact consistent_of_writeSnapshot hc hwrite
  | elsewhere db =>
    cases h
    exact consistent_of_others hc tables.assessments db

end Snapshot

end AssessmentEngine
end AeroComply
