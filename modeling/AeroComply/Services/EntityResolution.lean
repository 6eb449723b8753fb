import AeroComply.Lib.Strings
import AeroComply.Services.Assessment

/-!
# EntityResolution — from what a person writes to a record

`app/services/lisa/entity_resolution_service.py`: an identifier is read as a UUID, and as the
business identifier of a record otherwise; the answer is a record, a list of several, or that there
is none.  The resolvers differ in what they list and in which texts they compare.

Two things come in between: an identifier that can be read as a UUID is looked up by that alone, and
the work orders are listed a page at a time.  `resolve_exact_iff` says when the answer is right.
-/

namespace AeroComply

open Relational (Keyed Table)

namespace PartService

def listParts (db : Database) (organizationId : UUID) : List Part :=
  db.parts.select fun p => p.organizationId = organizationId

end PartService

namespace VendorService

def listVendors (db : Database) (organizationId : UUID) : List Vendor :=
  db.vendors.select fun v => v.organizationId = organizationId

end VendorService

namespace EntityResolution

/-! ## The answers -/

structure ResolvedEntity where
  entityType : String
  entityId : UUID
  display : Message

inductive ResolutionResult
  | resolved (entity : ResolvedEntity)
  | ambiguous (entityType : String) (candidates : List ResolvedEntity)
  | notFound (entityType identifier : String)

/-- What a resolver reads of a row: the texts it compares, the text of an answer, and the text
among several. -/
structure Candidate where
  id : UUID
  names : List String
  display : Message
  label : Message

/-- The answer about one candidate, with one of its texts. -/
def Candidate.entity (entityType : String) (c : Candidate) (text : Message) : ResolvedEntity :=
  { entityType, entityId := c.id, display := text }

/-- One of the texts is the identifier, both trimmed and in one case. -/
def named (norm : String → String) (identifier : String) (c : Candidate) : Bool :=
  c.names.any fun name => norm name = norm identifier

/-- `_try_uuid`: `uuid.UUID` wants 32 digits; `int16` is `int(text, 16)`, and `none` is a
`ValueError`. -/
def tryUuid (int16 : String → Option Int) (identifier : String) : Option UUID :=
  let text := Strings.removeAll "uuid:".toList (Strings.removeAll "urn:".toList identifier.toList)
  let braced := Strings.strip (fun c => c = Char.ofNat 123 || c = Char.ofNat 125) text
  let hex := Strings.removeAll "-".toList braced
  if hex.length = 32 then
    (int16 (String.ofList hex)).bind fun n => if 0 ≤ n ∧ n < 2 ^ 128 then some n.toNat else none
  else none

/-- A resolver: `byId` is the lookup of a UUID, `listed` what the service lists. -/
def resolveBy (int16 : String → Option Int) (norm : String → String) (entityType : String)
    (byId : UUID → Option Candidate) (listed : List Candidate) (identifier : String) :
    ResolutionResult :=
  match tryUuid int16 identifier with
  | some id =>
    match byId id with
    | some c => .resolved (c.entity entityType c.display)
    | none => .notFound entityType identifier
  | none =>
    match listed.filter (named norm identifier) with
    | [] => .notFound entityType identifier
    | [c] => .resolved (c.entity entityType c.display)
    | candidates => .ambiguous entityType (candidates.map fun c => c.entity entityType c.label)

/-! ## The resolvers -/

def aircraftCandidate (a : Aircraft) : Candidate where
  id := a.id
  names := [a.registration]
  display := [.str a.registration]
  label := [.str (a.registration ++ " — Aircraft "), .uuid a.id]

def workOrderCandidate (w : WorkOrder) : Candidate where
  id := w.id
  names := [w.workOrderNumber]
  display := [.str w.workOrderNumber]
  label := [.str (w.workOrderNumber ++ " — Work Order "), .uuid w.id]

def partCandidate (p : Part) : Candidate where
  id := p.id
  names := [p.partNumber]
  display := [.str p.partNumber]
  label := [.str (p.partNumber ++ " — Part "), .uuid p.id]

def vendorCandidate (v : Vendor) : Candidate where
  id := v.id
  names := [v.name]
  display := [.str v.name]
  label := [.str (v.name ++ " — Vendor "), .uuid v.id]

def purchaseOrderCandidate (po : PurchaseOrder) : Candidate where
  id := po.id
  names := [po.poNumber]
  display := [.str po.poNumber]
  label := [.str (po.poNumber ++ " — PO "), .uuid po.id]

def technicianCandidate (user : User) : Candidate where
  id := user.id
  names := [user.fullName, user.email]
  display := [.str user.fullName]
  label := [.str (user.fullName ++ " — " ++ user.email)]

section Resolvers

variable (py : Interpreter) (int16 : String → Option Int) (db : Database)
  (organizationId : UUID) (identifier : String)

/-- `identifier.strip().upper()`. -/
def upperNorm (text : String) : String := py.upper (py.unicode.strip text)

/-- `identifier.strip().lower()`. -/
def lowerNorm (text : String) : String := py.lower (py.unicode.strip text)

/-- The page that `list_work_orders` returns by default. -/
def firstPage : List WorkOrder := (WorkOrderService.listWorkOrders db organizationId).1

/-- The users of the organization, deactivated ones too. -/
def usersOf : List User := db.users.select fun u => u.organizationId = organizationId

def resolveAircraft : ResolutionResult :=
  resolveBy int16 (upperNorm py) "aircraft"
    (fun id => (db.getAircraft organizationId id).toOption.map aircraftCandidate)
    ((AircraftService.listAircraft db organizationId).map aircraftCandidate) identifier

def resolveWorkOrder : ResolutionResult :=
  resolveBy int16 (upperNorm py) "work_order"
    (fun id => (db.getWorkOrder organizationId id).toOption.map workOrderCandidate)
    ((firstPage db organizationId).map workOrderCandidate) identifier

def resolvePart : ResolutionResult :=
  resolveBy int16 (upperNorm py) "part"
    (fun id => (PartService.getPart db organizationId id).toOption.map partCandidate)
    ((PartService.listParts db organizationId).map partCandidate) identifier

def resolveVendor : ResolutionResult :=
  resolveBy int16 (upperNorm py) "vendor"
    (fun id => (VendorService.getVendor db organizationId id).toOption.map vendorCandidate)
    ((VendorService.listVendors db organizationId).map vendorCandidate) identifier

def resolvePurchaseOrder : ResolutionResult :=
  resolveBy int16 (upperNorm py) "purchase_order"
    (fun id => (PurchaseOrderService.getPurchaseOrder db organizationId id).toOption.map
      purchaseOrderCandidate)
    ((AogRecoveryService.listPurchaseOrders db organizationId).map purchaseOrderCandidate)
    identifier

/-- `resolve_technician`; the lookup is by primary key. -/
def resolveTechnician : ResolutionResult :=
  resolveBy int16 (lowerNorm py) "technician"
    (fun id => ((usersOf db organizationId).find? fun u => u.id = id).map technicianCandidate)
    ((usersOf db organizationId).map technicianCandidate) identifier

end Resolvers

/-! ## The right answer -/

/-- The answer to an identifier that is the id or a name of the records with these ids: that there
is none, the one there is, or the list of them. -/
inductive Exact (entityType identifier : String) : List UUID → ResolutionResult → Prop
  | notFound : Exact entityType identifier [] (.notFound entityType identifier)
  | resolved (id : UUID) (display : Message) :
      Exact entityType identifier [id] (.resolved ⟨entityType, id, display⟩)
  | ambiguous {ids : List UUID} {candidates : List ResolvedEntity} (hseveral : 2 ≤ ids.length)
      (hkind : ∀ e ∈ candidates, e.entityType = entityType)
      (hids : (candidates.map ResolvedEntity.entityId).Perm ids) :
      Exact entityType identifier ids (.ambiguous entityType candidates)

section Exactness

variable {int16 : String → Option Int} {norm : String → String} {entityType identifier : String}
  {byId : UUID → Option Candidate} {live listed : List Candidate}

/-- The ids of the records whose id or name is the identifier. -/
def matchingIds (int16 : String → Option Int) (norm : String → String) (identifier : String)
    (live : List Candidate) : List UUID :=
  (live.filter fun c => tryUuid int16 identifier = some c.id || named norm identifier c).map
    Candidate.id

/-- What is answered, from the records that are found. -/
def answer (entityType identifier : String) : List Candidate → ResolutionResult
  | [] => .notFound entityType identifier
  | [c] => .resolved (c.entity entityType c.display)
  | candidates => .ambiguous entityType (candidates.map fun c => c.entity entityType c.label)

/-- The records that a resolver finds. -/
def found (int16 : String → Option Int) (norm : String → String)
    (byId : UUID → Option Candidate) (listed : List Candidate) (identifier : String) :
    List Candidate :=
  match tryUuid int16 identifier with
  | some id => (byId id).toList
  | none => listed.filter (named norm identifier)

theorem resolveBy_eq : resolveBy int16 norm entityType byId listed identifier =
    answer entityType identifier (found int16 norm byId listed identifier) := by
  rw [resolveBy, found]
  cases tryUuid int16 identifier with
  | none => rfl
  | some id =>
    dsimp only
    cases byId id with
    | none => rfl
    | some c => rfl

theorem exact_answer_iff {ids : List UUID} {records : List Candidate} :
    Exact entityType identifier ids (answer entityType identifier records) ↔
      (records.map Candidate.id).Perm ids := by
  match records with
  | [] =>
    constructor
    · rintro ⟨⟩
      exact List.Perm.refl _
    · intro h
      rw [List.Perm.eq_nil h.symm]
      exact .notFound
  | [c] =>
    constructor
    · rintro ⟨⟩
      exact List.Perm.refl _
    · intro h
      rw [List.perm_singleton.1 h.symm]
      exact .resolved _ _
  | c :: c' :: rest =>
    have hentities : ((c :: c' :: rest).map fun c => c.entity entityType c.label).map
        ResolvedEntity.entityId = (c :: c' :: rest).map Candidate.id := by
      rw [List.map_map]
      rfl
    constructor
    · rintro ⟨⟩
      next hids => rwa [hentities] at hids
    · intro h
      refine .ambiguous ?_ ?_ (hentities ▸ h)
      · rw [← h.length_eq]
        simp only [List.length_map, List.length_cons]
        omega
      · intro e he
        obtain ⟨c, -, rfl⟩ := List.mem_map.1 he
        rfl

theorem mem_found (hbyId : ∀ {id c}, byId id = some c ↔ c ∈ live ∧ c.id = id) {c : Candidate} :
    c ∈ found int16 norm byId listed identifier ↔
      (c ∈ live ∧ tryUuid int16 identifier = some c.id) ∨
        (tryUuid int16 identifier = none ∧ c ∈ listed ∧ named norm identifier c = true) := by
  rw [found]
  cases tryUuid int16 identifier with
  | none => simp only [List.mem_filter, reduceCtorEq, and_false, true_and, false_or]
  | some id =>
    simp only [Option.mem_toList, hbyId, Option.some_inj, reduceCtorEq, false_and, or_false,
      eq_comm (a := id)]

theorem nodup_found (hlisted : (listed.map Candidate.id).Nodup) :
    ((found int16 norm byId listed identifier).map Candidate.id).Nodup := by
  rw [found]
  cases tryUuid int16 identifier with
  | none => exact hlisted.sublist (List.filter_sublist.map _)
  | some id =>
    dsimp only
    cases byId id with
    | none => exact List.nodup_nil
    | some c => exact List.nodup_singleton _

/-- The records found are right ones, so the answer is right when no right one is missed. -/
theorem resolveBy_exact_iff (hlive : (live.map Candidate.id).Nodup)
    (hlisted : (listed.map Candidate.id).Nodup) (hsub : ∀ c ∈ listed, c ∈ live)
    (hbyId : ∀ {id c}, byId id = some c ↔ c ∈ live ∧ c.id = id) :
    Exact entityType identifier (matchingIds int16 norm identifier live)
        (resolveBy int16 norm entityType byId listed identifier) ↔
      ∀ c ∈ live, named norm identifier c = true →
        (∀ id, tryUuid int16 identifier = some id → c.id = id) ∧
          (tryUuid int16 identifier = none → c ∈ listed) := by
  have hmatching : (matchingIds int16 norm identifier live).Nodup :=
    hlive.sublist (List.filter_sublist.map _)
  have hmem : ∀ {c}, c ∈ live.filter (fun c => tryUuid int16 identifier = some c.id ||
      named norm identifier c) ↔ c ∈ live ∧ (tryUuid int16 identifier = some c.id ∨
        named norm identifier c = true) := by
    intro c
    simp only [List.mem_filter, Bool.or_eq_true, decide_eq_true_eq]
  rw [resolveBy_eq, exact_answer_iff,
    List.perm_ext_iff_of_nodup (nodup_found hlisted) hmatching]
  constructor
  · intro h c hc hnamed
    obtain ⟨c', hc', hid⟩ := List.mem_map.1
      ((h c.id).2 (List.mem_map.2 ⟨c, hmem.2 ⟨hc, Or.inr hnamed⟩, rfl⟩))
    rcases (mem_found hbyId).1 hc' with ⟨-, hread⟩ | ⟨hread, hlist, -⟩
    · rw [hread, hid]
      exact ⟨fun _ h => Option.some_inj.1 h, fun h => (nomatch h)⟩
    · have hsame : c' = c := List.inj_on_of_nodup_map hlive (hsub c' hlist) hc hid
      rw [hread]
      exact ⟨fun _ h => (nomatch h), fun _ => hsame ▸ hlist⟩
  · intro h id
    constructor
    · intro hid
      obtain ⟨c, hc, rfl⟩ := List.mem_map.1 hid
      refine List.mem_map.2 ⟨c, hmem.2 ?_, rfl⟩
      rcases (mem_found hbyId).1 hc with ⟨hlive, hread⟩ | ⟨-, hlist, hnamed⟩
      · exact ⟨hlive, Or.inl hread⟩
      · exact ⟨hsub c hlist, Or.inr hnamed⟩
    · intro hid
      obtain ⟨c, hc, rfl⟩ := List.mem_map.1 hid
      obtain ⟨hlive, hmatches⟩ := hmem.1 hc
      refine List.mem_map.2 ⟨c, (mem_found hbyId).2 ?_, rfl⟩
      cases hread : tryUuid int16 identifier with
      | none =>
        have hnamed := hmatches.resolve_left (hread ▸ fun h => nomatch h)
        exact Or.inr ⟨rfl, (h c hlive hnamed).2 hread, hnamed⟩
      | some id =>
        refine Or.inl ⟨hlive, congrArg some ?_⟩
        rcases hmatches with hid | hnamed
        · exact Option.some_inj.1 (hread ▸ hid)
        · exact ((h c hlive hnamed).1 id hread).symm

end Exactness

/-! ## The six resolvers -/

inductive Resolver
  | aircraft
  | workOrder
  | part
  | vendor
  | purchaseOrder
  | technician
  deriving DecidableEq, Repr

namespace Resolver

def entityType : Resolver → String
  | aircraft => "aircraft"
  | workOrder => "work_order"
  | part => "part"
  | vendor => "vendor"
  | purchaseOrder => "purchase_order"
  | technician => "technician"

/-- What is compared of a text. -/
def norm (py : Interpreter) : Resolver → String → String
  | technician => lowerNorm py
  | _ => upperNorm py

/-- The function that answers. -/
def resolve (py : Interpreter) (int16 : String → Option Int) (db : Database)
    (organizationId : UUID) (identifier : String) : Resolver → ResolutionResult
  | aircraft => resolveAircraft py int16 db organizationId identifier
  | workOrder => resolveWorkOrder py int16 db organizationId identifier
  | part => resolvePart py int16 db organizationId identifier
  | vendor => resolveVendor py int16 db organizationId identifier
  | purchaseOrder => resolvePurchaseOrder py int16 db organizationId identifier
  | technician => resolveTechnician py int16 db organizationId identifier

/-- The records of the organization that are not soft-deleted. -/
def live (db : Database) (organizationId : UUID) : Resolver → List Candidate
  | aircraft => (AircraftService.listAircraft db organizationId).map aircraftCandidate
  | workOrder =>
    (WorkOrderService.matchingWorkOrders db organizationId fun _ => true).map workOrderCandidate
  | part => (PartService.listParts db organizationId).map partCandidate
  | vendor => (VendorService.listVendors db organizationId).map vendorCandidate
  | purchaseOrder =>
    (AogRecoveryService.listPurchaseOrders db organizationId).map purchaseOrderCandidate
  | technician => (usersOf db organizationId).map technicianCandidate

/-- The records among which a name is searched. -/
def listed (db : Database) (organizationId : UUID) : Resolver → List Candidate
  | workOrder => (firstPage db organizationId).map workOrderCandidate
  | r => r.live db organizationId

def lookup (db : Database) (organizationId : UUID) : Resolver → UUID → Option Candidate
  | aircraft => fun id => (db.getAircraft organizationId id).toOption.map aircraftCandidate
  | workOrder => fun id => (db.getWorkOrder organizationId id).toOption.map workOrderCandidate
  | part => fun id => (PartService.getPart db organizationId id).toOption.map partCandidate
  | vendor => fun id => (VendorService.getVendor db organizationId id).toOption.map vendorCandidate
  | purchaseOrder => fun id =>
    (PurchaseOrderService.getPurchaseOrder db organizationId id).toOption.map
      purchaseOrderCandidate
  | technician => fun id =>
    ((usersOf db organizationId).find? fun u => u.id = id).map technicianCandidate

theorem resolve_eq (py : Interpreter) (int16 : String → Option Int) (db : Database)
    (organizationId : UUID) (identifier : String) (r : Resolver) :
    r.resolve py int16 db organizationId identifier =
      resolveBy int16 (r.norm py) r.entityType (r.lookup db organizationId)
        (r.listed db organizationId) identifier := by
  cases r with
  | aircraft | workOrder | part | vendor | purchaseOrder | technician => rfl

end Resolver

section Rows

variable {α : Type} [Keyed α UUID] {t : Table α} {f : α → Candidate} {p : α → Bool}

theorem nodup_candidates (hf : ∀ r, (f r).id = Keyed.key r) :
    (((t.select p).map f).map Candidate.id).Nodup := by
  have hids : ((t.select p).map f).map Candidate.id = (t.select p).map Keyed.key := by
    rw [List.map_map]
    exact List.map_congr_left fun r _ => hf r
  rw [hids]
  exact t.nodup.sublist (List.filter_sublist.map _)

theorem lookup_row_eq_some (hf : ∀ r, (f r).id = Keyed.key r) {q : α → Bool} {e : Error}
    {id : UUID} (hq : ∀ r, q r = true ↔ Keyed.key r = id ∧ p r = true) {c : Candidate} :
    (oneOrRaise (t.select q) e).toOption.map f = some c ↔
      c ∈ (t.select p).map f ∧ c.id = id := by
  constructor
  · intro h
    cases hone : oneOrRaise (t.select q) e with
    | error _ =>
      rw [hone] at h
      cases h
    | ok r =>
      rw [hone] at h
      cases h
      obtain ⟨hrow, hfound⟩ := mem_of_oneOrRaise hone
      obtain ⟨hid, hp⟩ := (hq r).1 hfound
      exact ⟨List.mem_map.2 ⟨r, Table.mem_select.2 ⟨hrow, hp⟩, rfl⟩, (hf r).trans hid⟩
  · rintro ⟨hc, hid⟩
    obtain ⟨r, hr, rfl⟩ := List.mem_map.1 hc
    obtain ⟨hrow, hp⟩ := Table.mem_select.1 hr
    have hkey : Keyed.key r = id := (hf r).symm.trans hid
    have hone : oneOrRaise (t.select q) e = .ok r :=
      oneOrRaise_of_key hrow ((hq r).2 ⟨hkey, hp⟩) fun x _ hx => ((hq x).1 hx).1.trans hkey.symm
    rw [hone]
    rfl

end Rows

/-- The work orders beyond the 50 newest are not looked through. -/
def Reached (db : Database) (organizationId : UUID) (r : Resolver) (c : Candidate) : Prop :=
  r = .workOrder →
    ∃ w ∈ ((WorkOrderService.matchingWorkOrders db organizationId fun _ => true).insertionSort
      WorkOrderService.newestFirst).take 50, w.id = c.id

section Resolvers

variable {py : Interpreter} {int16 : String → Option Int} {db : Database} {organizationId : UUID}
  {identifier : String}

theorem nodup_live (r : Resolver) : ((r.live db organizationId).map Candidate.id).Nodup := by
  cases r with
  | aircraft | workOrder | part | vendor | purchaseOrder | technician =>
    exact nodup_candidates fun _ => rfl

theorem lookup_eq_some (r : Resolver) {id : UUID} {c : Candidate} :
    r.lookup db organizationId id = some c ↔ c ∈ r.live db organizationId ∧ c.id = id := by
  cases r with
  | aircraft =>
    simp only [Resolver.lookup, Database.getAircraft, Resolver.live, AircraftService.listAircraft]
    refine lookup_row_eq_some (fun _ => rfl) fun a => ?_
    simp only [Bool.and_eq_true, decide_eq_true_eq, and_assoc]
    rfl
  | workOrder =>
    simp only [Resolver.lookup, Database.getWorkOrder, Resolver.live,
      WorkOrderService.matchingWorkOrders]
    refine lookup_row_eq_some (fun _ => rfl) fun w => ?_
    simp only [Bool.and_eq_true, decide_eq_true_eq, and_assoc, and_true]
    rfl
  | part =>
    simp only [Resolver.lookup, PartService.getPart, Resolver.live, PartService.listParts]
    refine lookup_row_eq_some (fun _ => rfl) fun p => ?_
    simp only [Bool.and_eq_true, decide_eq_true_eq]
    rfl
  | vendor =>
    simp only [Resolver.lookup, VendorService.getVendor, Resolver.live, VendorService.listVendors]
    refine lookup_row_eq_some (fun _ => rfl) fun v => ?_
    simp only [Bool.and_eq_true, decide_eq_true_eq]
    rfl
  | purchaseOrder =>
    simp only [Resolver.lookup, PurchaseOrderService.getPurchaseOrder, Resolver.live,
      AogRecoveryService.listPurchaseOrders]
    refine lookup_row_eq_some (fun _ => rfl) fun po => ?_
    simp only [Bool.and_eq_true, decide_eq_true_eq]
    rfl
  | technician =>
    have hnodup : ((usersOf db organizationId).map Keyed.key).Nodup :=
      db.users.nodup.sublist (List.filter_sublist.map _)
    have hfind : ∀ {user}, (usersOf db organizationId).find? (fun u => u.id = id) = some user ↔
        user ∈ usersOf db organizationId ∧ user.id = id := Table.find?_of_nodup hnodup
    rw [Resolver.lookup, Resolver.live, Option.map_eq_some_iff]
    constructor
    · rintro ⟨user, huser, rfl⟩
      exact ⟨List.mem_map.2 ⟨user, (hfind.1 huser).1, rfl⟩, (hfind.1 huser).2⟩
    · rintro ⟨hc, hid⟩
      obtain ⟨user, huser, rfl⟩ := List.mem_map.1 hc
      exact ⟨user, hfind.2 ⟨huser, hid⟩, rfl⟩

theorem listed_eq {r : Resolver} (hne : r ≠ .workOrder) :
    r.listed db organizationId = r.live db organizationId := by
  cases r with
  | workOrder => exact absurd rfl hne
  | aircraft | part | vendor | purchaseOrder | technician => rfl

theorem mem_live_of_mem_listed (r : Resolver) {c : Candidate}
    (h : c ∈ r.listed db organizationId) : c ∈ r.live db organizationId := by
  by_cases hr : r = .workOrder
  · subst hr
    obtain ⟨w, hw, rfl⟩ := List.mem_map.1 h
    exact List.mem_map.2 ⟨w, (List.mem_insertionSort _).1
      (List.mem_of_mem_drop (List.mem_of_mem_take hw)), rfl⟩
  · rwa [listed_eq hr] at h

theorem nodup_listed (r : Resolver) :
    ((r.listed db organizationId).map Candidate.id).Nodup := by
  by_cases hr : r = .workOrder
  · subst hr
    have hsorted := (List.perm_insertionSort WorkOrderService.newestFirst
      (WorkOrderService.matchingWorkOrders db organizationId fun _ => true)).map workOrderCandidate
    have hnodup := (hsorted.map Candidate.id).nodup_iff.2 (nodup_live .workOrder)
    exact hnodup.sublist ((((List.take_sublist _ _).trans (List.drop_sublist _ _)).map _).map _)
  · rw [listed_eq hr]
    exact nodup_live r

theorem mem_listed_iff (r : Resolver) {c : Candidate} (hc : c ∈ r.live db organizationId) :
    c ∈ r.listed db organizationId ↔ Reached db organizationId r c := by
  by_cases hr : r = .workOrder
  · subst hr
    constructor
    · rintro hpage -
      obtain ⟨w, hw, rfl⟩ := List.mem_map.1 hpage
      exact ⟨w, hw, rfl⟩
    · intro h
      obtain ⟨w, hw, hid⟩ := h rfl
      have hlive := mem_live_of_mem_listed .workOrder (List.mem_map.2 ⟨w, hw, rfl⟩)
      have hsame : workOrderCandidate w = c :=
        List.inj_on_of_nodup_map (nodup_live .workOrder) hlive hc hid
      exact hsame ▸ List.mem_map.2 ⟨w, hw, rfl⟩
  · rw [listed_eq hr]
    exact iff_of_true hc fun h => absurd h hr

/-- **EXACT RESOLUTION**: the answer is the right one exactly when no record has the identifier as
its name while the identifier can be read as another UUID, and, where it cannot be read as one, no
work order of that number is beyond the 50 newest. -/
theorem resolve_exact_iff (py : Interpreter) (int16 : String → Option Int) (db : Database)
    (organizationId : UUID) (identifier : String) (r : Resolver) :
    Exact r.entityType identifier
        (matchingIds int16 (r.norm py) identifier (r.live db organizationId))
        (r.resolve py int16 db organizationId identifier) ↔
      ∀ c ∈ r.live db organizationId, named (r.norm py) identifier c = true →
        (∀ id, tryUuid int16 identifier = some id → c.id = id) ∧
          (tryUuid int16 identifier = none → Reached db organizationId r c) := by
  rw [Resolver.resolve_eq, resolveBy_exact_iff (nodup_live r) (nodup_listed r)
    (fun _ h => mem_live_of_mem_listed r h) (lookup_eq_some r)]
  exact forall₃_congr fun c hc _ => and_congr_right fun _ => imp_congr_right fun _ =>
    mem_listed_iff r hc

end Resolvers

/-! ## The work order that is no longer on the first page -/

/-- 51 work orders, number 0 the oldest. -/
def yearOfWork : Database where
  workOrders :=
    { rows := (List.range 51).map fun n =>
        { id := n, organizationId := 1, workOrderNumber := "WO-" ++ toString n, createdAt := n }
      nodup := by decide }

/-- **OUT OF SIGHT**: a work order of the organization is not found by its number. -/
theorem oldest_not_exact :
    ¬Exact Resolver.workOrder.entityType "WO-0"
      (matchingIds (fun _ => none) (Resolver.workOrder.norm .ascii) "WO-0"
        (Resolver.workOrder.live yearOfWork 1))
      (Resolver.workOrder.resolve .ascii (fun _ => none) yearOfWork 1 "WO-0") := by
  have hids : matchingIds (fun _ => none) (Resolver.workOrder.norm .ascii) "WO-0"
      (Resolver.workOrder.live yearOfWork 1) = [0] := by decide
  have hfound : (found (fun _ => none) (Resolver.workOrder.norm .ascii)
      (Resolver.workOrder.lookup yearOfWork 1) (Resolver.workOrder.listed yearOfWork 1)
      "WO-0").isEmpty = true := by decide
  rw [Resolver.resolve_eq, resolveBy_eq, List.isEmpty_iff.1 hfound, hids]
  rintro ⟨⟩

end EntityResolution
end AeroComply
