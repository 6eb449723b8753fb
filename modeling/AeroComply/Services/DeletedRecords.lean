import AeroComply.Core.LifecyclePolicy
import AeroComply.Lib.Pages
import AeroComply.Lib.Timeline
import AeroComply.Models.Database

/-!
# DeletedRecords — the queue of soft-deleted records, page by page

`list_deleted_records` of `app/services/restoration_service.py` reads the latest 500 deleted rows of
each of three tables, merges them, sorts them by the time of their deletion and cuts a page out.  A
page has at most 100 records, whatever is asked for.

`lossless_iff` says when the pages at `0`, `limit`, `2 * limit` and so on are all deleted records,
each once and the latest first, with their number as the total.
-/

namespace AeroComply

open Relational (Keyed Table)
open Timeline (latest newestFirst)

namespace RestorationService

/-- The restorations of work orders, which the rows themselves leave out. -/
structure RestorationColumns where
  restoredAt : Option DateTime := none
  restoredBy : Option UUID := none

structure RestorationStore where
  db : Database
  workOrderColumns : UUID → RestorationColumns := fun _ => {}

structure DeletedRecordResponse where
  entityType : String
  entityId : UUID
  organizationId : UUID
  identifier : Option String
  assetType : Option String := none
  status : String
  deletedAt : DateTime
  deletedBy : Option UUID
  deletionReason : Option String
  restoredAt : Option DateTime := none
  restoredBy : Option UUID := none

def deletedRecordsDefaultLimit : Int := 50

def deletedRecordsMaxLimit : Int := 100

def mergeFetchCap : Nat := 500

def deletedRows {α : Type} [Keyed α UUID] (t : Table α) (deletedAt : α → Option DateTime)
    (organizationOf : α → UUID) (organizationId : Option UUID) : List α :=
  t.select fun r =>
    (deletedAt r).isSome && organizationId.all fun id => organizationOf r = id

/-- A row that the queries select has a `deleted_at`. -/
def deletionTime (deletedAt : Option DateTime) : DateTime := deletedAt.getD 0

def assetRecord (a : Asset) : DeletedRecordResponse where
  entityType := "ASSET"
  entityId := a.id
  organizationId := a.organizationId
  identifier := a.registration
  assetType := some a.assetType
  status := "DELETED"
  deletedAt := deletionTime a.deletedAt
  deletedBy := a.deletedBy
  deletionReason := a.deletionReason
  restoredAt := a.restoredAt
  restoredBy := a.restoredBy

def organizationRecord (o : Organization) : DeletedRecordResponse where
  entityType := "ORGANIZATION"
  entityId := o.id
  organizationId := o.id
  identifier := some o.name
  status := "DELETED"
  deletedAt := deletionTime o.deletedAt
  deletedBy := o.deletedBy
  deletionReason := o.deletionReason
  restoredAt := o.restoredAt
  restoredBy := o.restoredBy

def workOrderRecord (store : RestorationStore) (w : WorkOrder) : DeletedRecordResponse where
  entityType := "WORKORDER"
  entityId := w.id
  organizationId := w.organizationId
  identifier := some w.workOrderNumber
  status := w.status.value
  deletedAt := deletionTime w.deletedAt
  deletedBy := w.deletedBy
  deletionReason := w.deletionReason
  restoredAt := (store.workOrderColumns w.id).restoredAt
  restoredBy := (store.workOrderColumns w.id).restoredBy

section

variable (store : RestorationStore) (organizationId : Option UUID)

def deletedAssetRows : List Asset :=
  deletedRows store.db.assets Asset.deletedAt Asset.organizationId organizationId

def deletedOrganizationRows : List Organization :=
  deletedRows store.db.organizations Organization.deletedAt Organization.id organizationId

def deletedWorkOrderRows : List WorkOrder :=
  deletedRows store.db.workOrders WorkOrder.deletedAt WorkOrder.organizationId organizationId

def deletedAssets : List DeletedRecordResponse :=
  (latest (fun a => deletionTime a.deletedAt) mergeFetchCap
    (deletedAssetRows store organizationId)).map assetRecord

def deletedOrganizations : List DeletedRecordResponse :=
  (latest (fun o => deletionTime o.deletedAt) mergeFetchCap
    (deletedOrganizationRows store organizationId)).map organizationRecord

def deletedWorkOrders : List DeletedRecordResponse :=
  (latest (fun w => deletionTime w.deletedAt) mergeFetchCap
    (deletedWorkOrderRows store organizationId)).map (workOrderRecord store)

variable (u : UnicodeTables) (entityType : Option String)

/-- `entity_type is None or entity_type.upper() == ...`. -/
def asksFor (kind : String) : Bool := entityType.all fun text => LifecyclePolicy.upper u text = kind

/-- `combined`, before it is sorted. -/
def combined : List DeletedRecordResponse :=
  (if asksFor u entityType "ASSET" then deletedAssets store organizationId else []) ++
  (if asksFor u entityType "ORGANIZATION" then deletedOrganizations store organizationId else []) ++
  (if asksFor u entityType "WORKORDER" then deletedWorkOrders store organizationId else [])

/-- The check of `entity_type`, when it is given. -/
def assertVisible : Except Error Unit :=
  match entityType with
  | none => .ok ()
  | some text => (LifecyclePolicy.assertVisibleInDeletionQueue u text).map fun _ => ()

/-- `list_deleted_records`: the page and the total. -/
def listDeletedRecords (limit offset : Int) :
    Except Error (List DeletedRecordResponse × Nat) := do
  let limit := max 1 (min limit deletedRecordsMaxLimit)
  let offset := max 0 offset
  assertVisible u entityType
  let sorted := newestFirst DeletedRecordResponse.deletedAt
    (combined store organizationId u entityType)
  pure (Pages.page limit.toNat offset.toNat sorted, sorted.length)

/-! ## The walk -/

/-- The answers at the offsets `0`, `limit`, `2 * limit` and so on. -/
def walkDeletedRecords (limit : Int) (n : Nat) :
    Except Error (List (List DeletedRecordResponse × Nat)) :=
  (List.range n).mapM fun i : Nat =>
    listDeletedRecords store organizationId u entityType limit (i * limit)

/-- The deleted records of each table that is asked for. -/
def deletedRecordsByType : List (List DeletedRecordResponse) :=
  [if asksFor u entityType "ASSET" then (deletedAssetRows store organizationId).map assetRecord
    else [],
   if asksFor u entityType "ORGANIZATION" then
    (deletedOrganizationRows store organizationId).map organizationRecord else [],
   if asksFor u entityType "WORKORDER" then
    (deletedWorkOrderRows store organizationId).map (workOrderRecord store) else []]

/-- All deleted records that are asked for. -/
def allDeletedRecords : List DeletedRecordResponse :=
  (deletedRecordsByType store organizationId u entityType).flatten

/-- From some number of pages on, the walk has every deleted record exactly once, the latest
first, and every page has their number. -/
def Lossless (limit : Int) : Prop :=
  ∃ enough : Nat, ∀ n ≥ enough, ∃ pages,
    walkDeletedRecords store organizationId u entityType limit n = .ok pages ∧
    (pages.flatMap Prod.fst).Perm (allDeletedRecords store organizationId u entityType) ∧
    (pages.flatMap Prod.fst).Pairwise (fun r r' => r'.deletedAt ≤ r.deletedAt) ∧
    ∀ page ∈ pages, page.2 = (allDeletedRecords store organizationId u entityType).length

end

/-! ## What a walk collects -/

variable {store : RestorationStore} {organizationId : Option UUID} {u : UnicodeTables}
  {entityType : Option String} {limit : Int}

theorem combined_eq : combined store organizationId u entityType
    = (deletedRecordsByType store organizationId u entityType).flatMap
        (latest DeletedRecordResponse.deletedAt mergeFetchCap) := by
  have hread : ∀ (c : Bool) {α : Type} (rows : List α) (record : α → DeletedRecordResponse),
      (if c then (latest (DeletedRecordResponse.deletedAt ∘ record) mergeFetchCap rows).map record
        else [])
        = latest DeletedRecordResponse.deletedAt mergeFetchCap
            (if c then rows.map record else []) := by
    intro c α rows record
    cases c with
    | true => exact Timeline.map_latest record rows
    | false => rfl
  rw [deletedRecordsByType, List.flatMap_cons, List.flatMap_cons, List.flatMap_cons,
    List.flatMap_nil, List.append_nil, ← hread, ← hread, ← hread, ← List.append_assoc]
  rfl

/-- The queue in the order in which it is shown. -/
def queue (store : RestorationStore) (organizationId : Option UUID) (u : UnicodeTables)
    (entityType : Option String) : List DeletedRecordResponse :=
  newestFirst DeletedRecordResponse.deletedAt (combined store organizationId u entityType)

/-- The number of records on a page. -/
def pageSize (limit : Int) : Nat := (max 1 (min limit deletedRecordsMaxLimit)).toNat

theorem walkDeletedRecords_eq (hvisible : assertVisible u entityType = .ok ()) (n : Nat) :
    walkDeletedRecords store organizationId u entityType limit n
      = .ok ((List.range n).map fun i =>
          (Pages.page (pageSize limit) (i * limit.toNat) (queue store organizationId u entityType),
            (queue store organizationId u entityType).length)) := by
  rw [walkDeletedRecords]
  refine mapM_of_forall fun i _ => ?_
  have hoffset : (max 0 ((i : Int) * limit)).toNat = i * limit.toNat := by
    rcases le_total 0 limit with h | h
    · obtain ⟨m, rfl⟩ := Int.eq_ofNat_of_zero_le h
      rw [Int.max_eq_right (Int.mul_nonneg (Int.natCast_nonneg i) h), ← Int.natCast_mul]
      rfl
    · have hneg : (i : Int) * limit ≤ 0 :=
        Int.mul_nonpos_of_nonneg_of_nonpos (Int.natCast_nonneg i) h
      rw [Int.max_eq_left hneg, Int.toNat_of_nonpos h, Nat.mul_zero]
      rfl
  rw [listDeletedRecords, hvisible, ok_bind, hoffset]
  rfl

theorem flatMap_pages (n : Nat) (l : List DeletedRecordResponse) :
    ((List.range n).map fun i =>
        (Pages.page (pageSize limit) (i * limit.toNat) l, l.length)).flatMap Prod.fst
      = Pages.walk (pageSize limit) limit.toNat n l := by
  rw [List.flatMap_map]
  rfl

theorem length_queue_eq_iff : (queue store organizationId u entityType).length
    = (allDeletedRecords store organizationId u entityType).length ↔
      ∀ records ∈ deletedRecordsByType store organizationId u entityType,
        records.length ≤ mergeFetchCap := by
  rw [queue, (Timeline.perm_newestFirst _).length_eq, combined_eq]
  exact Timeline.length_flatMap_latest_eq_iff _

theorem queue_perm (h : ∀ records ∈ deletedRecordsByType store organizationId u entityType,
    records.length ≤ mergeFetchCap) : (queue store organizationId u entityType).Perm
      (allDeletedRecords store organizationId u entityType) := by
  refine (Timeline.perm_newestFirst _).trans ?_
  rw [combined_eq]
  exact Timeline.flatMap_latest_perm h

theorem step_eq_pageSize_iff : limit.toNat = pageSize limit ↔ 1 ≤ limit ∧ limit ≤ 100 := by
  simp only [pageSize, deletedRecordsMaxLimit]
  omega

/-- The total of the first page gives a longer queue away. -/
theorem capped_of_lossless (hvisible : assertVisible u entityType = .ok ())
    (h : Lossless store organizationId u entityType limit) :
    ∀ records ∈ deletedRecordsByType store organizationId u entityType,
      records.length ≤ mergeFetchCap := by
  obtain ⟨enough, h⟩ := h
  obtain ⟨pages, hpages, -, -, htotal⟩ := h (enough + 1) (Nat.le_succ enough)
  cases (walkDeletedRecords_eq hvisible (enough + 1)).symm.trans hpages
  refine length_queue_eq_iff.1 ?_
  exact htotal _ (List.mem_map_of_mem (List.mem_range.2 (Nat.succ_pos enough)))

/-- **THE PAGES ARE ALL DELETED RECORDS**, each once and the latest first, with their number as the
total, exactly when no type has more than 500 of them and the pages are of 1 to 100 records, or
the first page has room for all. -/
theorem lossless_iff (hvisible : assertVisible u entityType = .ok ()) :
    Lossless store organizationId u entityType limit ↔
      (∀ records ∈ deletedRecordsByType store organizationId u entityType,
        records.length ≤ mergeFetchCap) ∧
      ((1 ≤ limit ∧ limit ≤ 100) ∨
        (allDeletedRecords store organizationId u entityType).length
          ≤ min (pageSize limit) limit.toNat) := by
  have hsize : 0 < pageSize limit := by
    simp only [pageSize, deletedRecordsMaxLimit]
    omega
  rw [← step_eq_pageSize_iff]
  constructor
  · rintro ⟨enough, h⟩
    have hcap := capped_of_lossless hvisible ⟨enough, h⟩
    have hqueue := queue_perm hcap
    refine ⟨hcap, ?_⟩
    rw [← hqueue.length_eq]
    refine (Pages.walk_perm_iff hsize _).1 ⟨enough, fun n hn => ?_⟩
    obtain ⟨pages, hpages, hall, -, -⟩ := h n hn
    cases (walkDeletedRecords_eq hvisible n).symm.trans hpages
    rw [flatMap_pages] at hall
    exact hall.trans hqueue.symm
  · rintro ⟨hcap, hcovers⟩
    have hqueue := queue_perm hcap
    rw [← hqueue.length_eq] at hcovers
    obtain ⟨enough, h⟩ := Pages.walk_eq_self hsize hcovers
    refine ⟨enough, fun n hn => ⟨_, walkDeletedRecords_eq hvisible n, ?_, ?_, ?_⟩⟩
    · rw [flatMap_pages, h n hn]
      exact hqueue
    · rw [flatMap_pages, h n hn]
      exact Timeline.pairwise_newestFirst _
    · intro page hpage
      obtain ⟨i, -, rfl⟩ := List.mem_map.1 hpage
      exact hqueue.length_eq

/-! ## More deleted assets than the cap -/

def deletedAsset (id : UUID) : Asset := { id, organizationId := 1, deletedAt := some 0 }

def manyDeleted (count : Nat) : RestorationStore where
  db := { assets := ⟨(List.range count).map deletedAsset, by
    rw [List.map_map]
    exact List.nodup_range.map fun _ _ h => h⟩ }

theorem deletedAssetRows_manyDeleted (count : Nat) :
    deletedAssetRows (manyDeleted count) none = (List.range count).map deletedAsset := by
  refine List.filter_eq_self.2 fun a ha => ?_
  obtain ⟨_, -, rfl⟩ := List.mem_map.1 ha
  rfl

/-- One asset more than the cap, on pages of the default size. -/
theorem not_lossless_past_cap :
    ¬Lossless (manyDeleted 501) none UnicodeTables.ascii none deletedRecordsDefaultLimit := by
  intro h
  have hcap := capped_of_lossless rfl h _ List.mem_cons_self
  rw [deletedAssetRows_manyDeleted] at hcap
  simp [asksFor, mergeFetchCap] at hcap

theorem lossless_three_assets : Lossless (manyDeleted 3) none UnicodeTables.ascii none 2 :=
  (lossless_iff rfl).2 ⟨by decide, Or.inl (by decide)⟩

end RestorationService
end AeroComply
