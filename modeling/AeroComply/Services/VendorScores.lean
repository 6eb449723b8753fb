import AeroComply.Services.VendorFit

/-!
# VendorScores — the lines that are stored, and how they are scored

`create_availability` and `update_availability` of
`app/services/vendor_part_availability_service.py`, which store any text as a status, and
`score_vendor_options_for_part` over such lines, which looks the statuses up in two tables.
`scores_well_iff` says when it answers, and that its scores are then bounded, monotone and ranked.
-/

namespace AeroComply

open Relational (Keyed Table)

/-- A row of `vendor_part_availabilities`, its statuses as the texts they are. -/
structure AvailabilityRow where
  id : UUID
  organizationId : UUID
  vendorId : UUID
  partId : UUID
  availabilityStatus : String := "UNKNOWN"
  quantityAvailable : Option Int := none
  leadTimeDays : Option Int := none
  unitPriceCents : Option Int := none
  currency : Option String := none
  aogAvailability : Option Bool := none
  certificationStatus : String := "UNKNOWN"
  createdAt : DateTime := 0

instance : Keyed AvailabilityRow UUID := ⟨AvailabilityRow.id⟩

/-- The database, with the lines of its vendors. -/
structure AvailabilityStore where
  db : Database
  lines : Table AvailabilityRow := Table.empty

def PartAvailabilityStatus.ofText? (text : String) : Option PartAvailabilityStatus :=
  [.inStock, .limited, .onOrder, .outOfStock, .unknown].find? fun status => status.value = text

def PartCertificationStatus.ofText? (text : String) : Option PartCertificationStatus :=
  [.verified, .notVerified, .referenceUnknown, .unknown].find? fun status => status.value = text

namespace VendorPartAvailabilityService

open PartService (getPart)
open Sessions (Call transaction)
open VendorService (getVendor)

structure VendorPartAvailabilityCreateRequest where
  vendorId : UUID
  partId : UUID
  availabilityStatus : String := "UNKNOWN"
  quantityAvailable : Option Int := none
  leadTimeDays : Option Int := none
  unitPriceCents : Option Int := none
  currency : Option String := none
  aogAvailability : Option Bool := none
  certificationStatus : String := "UNKNOWN"
  availabilityStatus_length : availabilityStatus.length ≤ 32 := by decide
  quantity_nonneg : ∀ n ∈ quantityAvailable, 0 ≤ n := by decide
  leadTime_nonneg : ∀ n ∈ leadTimeDays, 0 ≤ n := by decide
  unitPrice_nonneg : ∀ n ∈ unitPriceCents, 0 ≤ n := by decide
  currency_length : ∀ t ∈ currency, t.length ≤ 8 := by decide
  certificationStatus_length : certificationStatus.length ≤ 32 := by decide

structure VendorPartAvailabilityUpdateRequest where
  availabilityStatus : Patch String := .unset
  quantityAvailable : Patch Int := .unset
  leadTimeDays : Patch Int := .unset
  unitPriceCents : Patch Int := .unset
  currency : Patch String := .unset
  aogAvailability : Patch Bool := .unset
  certificationStatus : Patch String := .unset
  availabilityStatus_length : ∀ t, availabilityStatus = .value t → t.length ≤ 32 := by
    rintro _ ⟨⟩ <;> decide
  quantity_nonneg : ∀ n, quantityAvailable = .value n → 0 ≤ n := by rintro _ ⟨⟩ <;> decide
  leadTime_nonneg : ∀ n, leadTimeDays = .value n → 0 ≤ n := by rintro _ ⟨⟩ <;> decide
  unitPrice_nonneg : ∀ n, unitPriceCents = .value n → 0 ≤ n := by rintro _ ⟨⟩ <;> decide
  currency_length : ∀ t, currency = .value t → t.length ≤ 8 := by rintro _ ⟨⟩ <;> decide
  certificationStatus_length : ∀ t, certificationStatus = .value t → t.length ≤ 32 := by
    rintro _ ⟨⟩ <;> decide

/-- `bool(updates)`. -/
def VendorPartAvailabilityUpdateRequest.given (payload : VendorPartAvailabilityUpdateRequest) :
    Bool :=
  payload.availabilityStatus.isGiven || payload.quantityAvailable.isGiven ||
    payload.leadTimeDays.isGiven || payload.unitPriceCents.isGiven || payload.currency.isGiven ||
    payload.aogAvailability.isGiven || payload.certificationStatus.isGiven

/-- The integer columns hold their values. -/
def columnsFit (a : AvailabilityRow) : Bool :=
  a.quantityAvailable.all fitsInteger && a.leadTimeDays.all fitsInteger &&
    a.unitPriceCents.all fitsInteger

/-- `create_availability`: the two statuses are stored as they are given. -/
def createAvailability (newId : UUID) (now : DateTime) (organizationId : UUID)
    (actorUserId : Option UUID) (payload : VendorPartAvailabilityCreateRequest) :
    Call AvailabilityStore Error Unit :=
  transaction fun store => do
    let _ ← getVendor store.db organizationId payload.vendorId
    let _ ← getPart store.db organizationId payload.partId
    let availability : AvailabilityRow :=
      { id := newId, organizationId, vendorId := payload.vendorId, partId := payload.partId
        availabilityStatus := payload.availabilityStatus
        quantityAvailable := payload.quantityAvailable, leadTimeDays := payload.leadTimeDays
        unitPriceCents := payload.unitPriceCents, currency := payload.currency
        aogAvailability := payload.aogAvailability
        certificationStatus := payload.certificationStatus, createdAt := now }
    raiseIf (columnsFit availability = false) .dataError
    let lines ← addRow store.lines availability
    pure { db := store.db.recordAuditEvent organizationId actorUserId
             "vendor_part_availability.created" "VendorPartAvailability" (some newId)
           lines }

def getAvailability (store : AvailabilityStore) (organizationId availabilityId : UUID) :
    Except Error AvailabilityRow :=
  oneOrRaise
    (store.lines.select fun a => a.id = availabilityId && a.organizationId = organizationId)
    (.notFound "Vendor part availability not found")

def updateAvailability (organizationId : UUID) (actorUserId : Option UUID) (availabilityId : UUID)
    (payload : VendorPartAvailabilityUpdateRequest) : Call AvailabilityStore Error Unit :=
  transaction fun store => do
    let availability ← getAvailability store organizationId availabilityId
    let availabilityStatus ← payload.availabilityStatus.notNull availability.availabilityStatus
    let certificationStatus ← payload.certificationStatus.notNull availability.certificationStatus
    let updated : AvailabilityRow :=
      { availability with
        availabilityStatus
        quantityAvailable := payload.quantityAvailable.nullable availability.quantityAvailable
        leadTimeDays := payload.leadTimeDays.nullable availability.leadTimeDays
        unitPriceCents := payload.unitPriceCents.nullable availability.unitPriceCents
        currency := payload.currency.nullable availability.currency
        aogAvailability := payload.aogAvailability.nullable availability.aogAvailability
        certificationStatus }
    raiseIf (columnsFit updated = false) .dataError
    pure { db := if payload.given then
             store.db.recordAuditEvent organizationId actorUserId
               "vendor_part_availability.updated" "VendorPartAvailability" (some availabilityId)
           else store.db
           lines := store.lines.save updated }

def listAvailabilityForPart (store : AvailabilityStore) (organizationId partId : UUID) :
    List AvailabilityRow :=
  store.lines.select fun a => a.organizationId = organizationId && a.partId = partId

end VendorPartAvailabilityService

namespace VendorScores

open FlightService (nearest_roundHalfEven roundHalfEven)
open Sessions (Call Keeps)
open VendorFit (knownFactors numbers numbers_tally weightedMean weight_pos)
open VendorFitService (VendorFitResult availabilityScore certScore fitResult leadTimeScore
  priceScore)
open VendorPartAvailabilityService
open VendorService (getVendor)

/-- The line with its two statuses looked up; a text that is in neither table raises. -/
def lookedUp (line : AvailabilityRow) : Except Error VendorPartAvailability :=
  match PartAvailabilityStatus.ofText? line.availabilityStatus,
    PartCertificationStatus.ofText? line.certificationStatus with
  | some availabilityStatus, some certificationStatus =>
    .ok
      { id := line.id, organizationId := line.organizationId, vendorId := line.vendorId
        partId := line.partId, availabilityStatus, quantityAvailable := line.quantityAvailable
        leadTimeDays := line.leadTimeDays, unitPriceCents := line.unitPriceCents
        currency := line.currency, aogAvailability := line.aogAvailability, certificationStatus
        createdAt := line.createdAt }
  | _, _ => .error .keyError

/-- `min(prices) if prices else None`. -/
def minPrice (lines : List AvailabilityRow) : Option Int :=
  (lines.filterMap AvailabilityRow.unitPriceCents).min?

def scoreVendorOptionsForPart (store : AvailabilityStore) (organizationId partId : UUID) :
    Except Error (List VendorFitResult) := do
  let lines := listAvailabilityForPart store organizationId partId
  let results ← lines.mapM fun line => do
    let vendor ← getVendor store.db organizationId line.vendorId
    let line ← lookedUp line
    pure (fitResult (minPrice lines) line vendor)
  pure (results.insertionSort fun r r' => r'.score.getD (-1) ≤ r.score.getD (-1))

/-! ## What the scores should be -/

/-- An option that has the same factors known, and is at least as good on each of them. -/
structure AtLeastAsGood (line line' : VendorPartAvailability) (vendor vendor' : Vendor) : Prop where
  availability : Option.Rel (· ≥ ·) (availabilityScore line.availabilityStatus)
    (availabilityScore line'.availabilityStatus)
  certification : Option.Rel (· ≥ ·) (certScore line.certificationStatus)
    (certScore line'.certificationStatus)
  leadTime : Option.Rel (· ≤ ·) line.leadTimeDays line'.leadTimeDays
  price : Option.Rel (· ≤ ·) line.unitPriceCents line'.unitPriceCents
  reliability : Option.Rel (· ≥ ·) vendor.reliabilityScore vendor'.reliabilityScore

/-- `r` does not score lower than `r'`; an unknown score is lower than any. -/
def NotBelow (r r' : VendorFitResult) : Prop :=
  ∀ s', r'.score = some s' → ∃ s, r.score = some s ∧ s' ≤ s

/-- The rounded mean of the factors that are known. -/
def meanScore (known : List (ℚ × ℚ)) : Option Int :=
  if known.isEmpty then none else some (roundHalfEven (weightedMean known))

/-- **BOUNDED, FAIR AND RANKED**: the results for the lines of a part. -/
structure Fair (store : AvailabilityStore) (organizationId partId : UUID)
    (results : List VendorFitResult) : Prop where
  /-- One result for each line. -/
  complete : (results.map fun r => r.availability.id).Perm
    ((listAvailabilityForPart store organizationId partId).map AvailabilityRow.id)
  bounded : ∀ r ∈ results, ∀ s, r.score = some s → 0 ≤ s ∧ s ≤ 100
  monotone : ∀ r ∈ results, ∀ r' ∈ results, ∀ vendor vendor',
    getVendor store.db organizationId r.vendorId = .ok vendor →
      getVendor store.db organizationId r'.vendorId = .ok vendor' →
        AtLeastAsGood r.availability r'.availability vendor vendor' → NotBelow r r'
  /-- The factors that are known make up the score, and the others do not count. -/
  neutral : ∀ r ∈ results, ∀ vendor, getVendor store.db organizationId r.vendorId = .ok vendor →
    r.score = meanScore (knownFactors
      (minPrice (listAvailabilityForPart store organizationId partId)) r.availability vendor)
  ranked : results.Pairwise NotBelow

/-- The scoring answers, with fair scores. -/
def ScoresWell (store : AvailabilityStore) (organizationId partId : UUID) : Prop :=
  ∃ results, scoreVendorOptionsForPart store organizationId partId = .ok results ∧
    Fair store organizationId partId results

/-- Both statuses of the line are in the tables, or UNKNOWN. -/
def Recognized (line : AvailabilityRow) : Prop :=
  (PartAvailabilityStatus.ofText? line.availabilityStatus).isSome = true ∧
    (PartCertificationStatus.ofText? line.certificationStatus).isSome = true

instance (line : AvailabilityRow) : Decidable (Recognized line) :=
  inferInstanceAs (Decidable (_ ∧ _))

/-! ## The weighted mean -/

section Means

variable {known known' : List (ℚ × ℚ)}

theorem weightedMean_bounds {lo hi : ℚ} (hne : known ≠ [])
    (h : ∀ f ∈ known, 0 < f.1 ∧ lo ≤ f.2 ∧ f.2 ≤ hi) :
    lo ≤ weightedMean known ∧ weightedMean known ≤ hi := by
  have hpos : 0 < (known.map Prod.fst).sum := by
    refine List.sum_pos _ (fun w hw => ?_) ?_
    · obtain ⟨f, hf, rfl⟩ := List.mem_map.1 hw
      exact (h f hf).1
    · rwa [ne_eq, List.map_eq_nil_iff]
  have hsums : lo * (known.map Prod.fst).sum ≤ (known.map fun f => f.1 * f.2).sum ∧
      (known.map fun f => f.1 * f.2).sum ≤ hi * (known.map Prod.fst).sum := by
    clear hpos hne
    induction known with
    | nil => simp
    | cons f known ih =>
      obtain ⟨hw, hlo, hhi⟩ := h f List.mem_cons_self
      obtain ⟨ihlo, ihhi⟩ := ih fun g hg => h g (List.mem_cons_of_mem _ hg)
      rw [List.map_cons, List.map_cons, List.sum_cons, List.sum_cons]
      have hleft : f.1 * lo ≤ f.1 * f.2 := mul_le_mul_of_nonneg_left hlo hw.le
      have hright : f.1 * f.2 ≤ f.1 * hi := mul_le_mul_of_nonneg_left hhi hw.le
      constructor <;> linarith
  rw [weightedMean, le_div_iff₀ hpos, div_le_iff₀ hpos]
  exact hsums

theorem weightedMean_mono (hpos : ∀ f ∈ known, 0 < f.1)
    (h : List.Forall₂ (fun f f' => f.1 = f'.1 ∧ f'.2 ≤ f.2) known known') :
    weightedMean known' ≤ weightedMean known := by
  have hsums : (known'.map Prod.fst).sum = (known.map Prod.fst).sum ∧
      (known'.map fun f => f.1 * f.2).sum ≤ (known.map fun f => f.1 * f.2).sum := by
    induction h with
    | nil => exact ⟨rfl, le_refl _⟩
    | cons hf _ ih =>
      obtain ⟨hweight, hscore⟩ := hf
      obtain ⟨ihweights, ihscores⟩ := ih fun g hg => hpos g (List.mem_cons_of_mem _ hg)
      have hw := (hpos _ List.mem_cons_self).le
      rw [List.map_cons, List.map_cons, List.map_cons, List.map_cons, List.sum_cons, List.sum_cons,
        List.sum_cons, List.sum_cons, ← hweight, ihweights]
      exact ⟨rfl, add_le_add (mul_le_mul_of_nonneg_left hscore hw) ihscores⟩
  rw [weightedMean, weightedMean, hsums.1]
  refine div_le_div_of_nonneg_right hsums.2 (List.sum_nonneg fun w hw => ?_)
  obtain ⟨f, hf, rfl⟩ := List.mem_map.1 hw
  exact (hpos f hf).le

end Means

/-! ## One line -/

section Lines

variable {m : Option Int} {line line' : VendorPartAvailability} {vendor vendor' : Vendor}

theorem score_fitResult (m : Option Int) (line : VendorPartAvailability) (vendor : Vendor) :
    (fitResult m line vendor).score = meanScore (knownFactors m line vendor) := by
  obtain ⟨hsum, htotal⟩ := Prod.ext_iff.1 (numbers_tally m line vendor)
  have hmean : (VendorFitService.tally m line vendor).weightedSum
      / (VendorFitService.tally m line vendor).weightTotal
        = weightedMean (knownFactors m line vendor) := by
    show (numbers _).1 / (numbers _).2 = _
    rw [hsum, htotal]
    rfl
  have hweight : (VendorFitService.tally m line vendor).weightTotal
      = ((knownFactors m line vendor).map Prod.fst).sum := htotal
  show VendorFitService.score _ = _
  rw [VendorFitService.score, meanScore, hmean, hweight]
  by_cases hnil : knownFactors m line vendor = []
  · rw [hnil]
    rfl
  · have hpos : 0 < ((knownFactors m line vendor).map Prod.fst).sum := by
      refine List.sum_pos _ (fun w hw => ?_) ?_
      · obtain ⟨f, hf, rfl⟩ := List.mem_map.1 hw
        exact weight_pos hf
      · rwa [ne_eq, List.map_eq_nil_iff]
    rw [if_pos hpos, if_neg (by rwa [List.isEmpty_iff])]

/-- What the bounds of a score rest on: nothing costs less than the least price, which is none
below zero, and the vendor's reliability is in its range. -/
structure Sensible (m : Option Int) (line : VendorPartAvailability) (vendor : Vendor) : Prop where
  leastPrice : ∀ least ∈ m, 0 ≤ least ∧ ∀ cents ∈ line.unitPriceCents, least ≤ cents
  reliability : ∀ r ∈ vendor.reliabilityScore, 0 ≤ r ∧ r ≤ 100

theorem availabilityScore_bounds {status : PartAvailabilityStatus} {s : ℚ}
    (h : availabilityScore status = some s) : 0 ≤ s ∧ s ≤ 100 := by
  cases status <;> cases h <;> norm_num

theorem certScore_bounds {status : PartCertificationStatus} {s : ℚ}
    (h : certScore status = some s) : 0 ≤ s ∧ s ≤ 100 := by
  cases status <;> cases h <;> norm_num

theorem leadTimeScore_bounds (days : Int) : 0 ≤ leadTimeScore days ∧ leadTimeScore days ≤ 100 := by
  rw [leadTimeScore]
  split_ifs <;> norm_num

theorem leadTimeScore_mono {days days' : Int} (h : days ≤ days') :
    leadTimeScore days' ≤ leadTimeScore days := by
  rw [leadTimeScore, leadTimeScore]
  split_ifs <;> first | omega | norm_num

theorem priceScore_bounds {least cents : Int} (hleast : 0 ≤ least) (hle : least ≤ cents) :
    0 ≤ priceScore least cents ∧ priceScore least cents ≤ 100 := by
  rw [priceScore]
  split
  · norm_num
  · have hdiff : (0 : ℚ) ≤ ((cents - least : ℤ) : ℚ) := Int.cast_nonneg (by omega)
    have hbase : (0 : ℚ) ≤ (least : ℚ) := Int.cast_nonneg hleast
    have hshare := div_nonneg hdiff hbase
    exact ⟨le_max_left _ _, max_le (by norm_num) (by linarith)⟩

theorem priceScore_mono {least cents cents' : Int} (hleast : 0 ≤ least) (h : cents ≤ cents') :
    priceScore least cents' ≤ priceScore least cents := by
  rw [priceScore, priceScore]
  split
  · exact le_refl _
  · have hdiff : ((cents - least : ℤ) : ℚ) ≤ ((cents' - least : ℤ) : ℚ) :=
      Int.cast_le.2 (by omega)
    have hbase : (0 : ℚ) ≤ (least : ℚ) := Int.cast_nonneg hleast
    have hshare := div_le_div_of_nonneg_right hdiff hbase
    exact max_le_max (le_refl _) (by linarith)

theorem known_bounds (h : Sensible m line vendor) {f : ℚ × ℚ}
    (hf : f ∈ knownFactors m line vendor) : 0 < f.1 ∧ 0 ≤ f.2 ∧ f.2 ≤ 100 := by
  refine ⟨weight_pos hf, ?_⟩
  obtain ⟨⟨weight, score⟩, hmem, hsome⟩ := List.mem_filterMap.1 hf
  obtain ⟨s, hs, rfl⟩ := Option.map_eq_some_iff.1 hsome
  simp only [List.mem_cons, Prod.mk.injEq, List.not_mem_nil, or_false] at hmem
  rcases hmem with ⟨-, rfl⟩ | ⟨-, rfl⟩ | ⟨-, rfl⟩ | ⟨-, rfl⟩ | ⟨-, rfl⟩
  · exact availabilityScore_bounds hs
  · exact certScore_bounds hs
  · obtain ⟨days, _, rfl⟩ := Option.map_eq_some_iff.1 hs
    exact leadTimeScore_bounds days
  · obtain ⟨least, hleast, hs⟩ := Option.bind_eq_some_iff.1 hs
    obtain ⟨cents, hcents, rfl⟩ := Option.map_eq_some_iff.1 hs
    obtain ⟨hnonneg, hle⟩ := h.leastPrice least hleast
    exact priceScore_bounds hnonneg (hle cents hcents)
  · obtain ⟨r, hr, rfl⟩ := Option.map_eq_some_iff.1 hs
    show (0 : ℚ) ≤ (r : ℚ) ∧ (r : ℚ) ≤ 100
    exact_mod_cast h.reliability r hr

theorem forall₂_known {factors factors' : List (ℚ × Option ℚ)}
    (h : List.Forall₂ (fun f f' => f.1 = f'.1 ∧ Option.Rel (· ≥ ·) f.2 f'.2) factors factors') :
    List.Forall₂ (fun f f' : ℚ × ℚ => f.1 = f'.1 ∧ f'.2 ≤ f.2)
      (factors.filterMap fun f => f.2.map fun s => (f.1, s))
      (factors'.filterMap fun f => f.2.map fun s => (f.1, s)) := by
  induction h with
  | nil => exact .nil
  | @cons f f' rest rest' hf _ ih =>
    obtain ⟨weight, score⟩ := f
    obtain ⟨weight', score'⟩ := f'
    obtain ⟨rfl, hscore⟩ := hf
    cases hscore with
    | none => exact ih
    | some hle => exact .cons ⟨rfl, hle⟩ ih

theorem rel_map {α : Type} {r : α → α → Prop} {f : α → ℚ} (hf : ∀ a b, r a b → f a ≥ f b)
    {o o' : Option α} (h : Option.Rel r o o') : Option.Rel (· ≥ ·) (o.map f) (o'.map f) := by
  cases h with
  | none => exact .none
  | some hab => exact .some (hf _ _ hab)

theorem known_of_atLeastAsGood (hleast : ∀ least ∈ m, 0 ≤ least)
    (h : AtLeastAsGood line line' vendor vendor') :
    List.Forall₂ (fun f f' : ℚ × ℚ => f.1 = f'.1 ∧ f'.2 ≤ f.2) (knownFactors m line vendor)
      (knownFactors m line' vendor') := by
  have hprice : Option.Rel (· ≥ ·) (m.bind fun least => line.unitPriceCents.map (priceScore least))
      (m.bind fun least => line'.unitPriceCents.map (priceScore least)) := by
    cases m with
    | none => exact .none
    | some least =>
      exact rel_map (fun a b hab => priceScore_mono (hleast least rfl) hab) h.price
  refine forall₂_known (.cons ⟨rfl, h.availability⟩ (.cons ⟨rfl, h.certification⟩
    (.cons ⟨rfl, ?_⟩ (.cons ⟨rfl, hprice⟩ (.cons ⟨rfl, ?_⟩ .nil)))))
  · exact rel_map (fun a b hab => leadTimeScore_mono hab) h.leadTime
  · exact rel_map (fun a b hab => Int.cast_le.2 hab) h.reliability

theorem isEmpty_forall₂ {known known' : List (ℚ × ℚ)} {r : ℚ × ℚ → ℚ × ℚ → Prop}
    (h : List.Forall₂ r known known') : known.isEmpty = known'.isEmpty := by
  cases h with
  | nil => rfl
  | cons _ _ => rfl

theorem meanScore_mono {known known' : List (ℚ × ℚ)} (hpos : ∀ f ∈ known, 0 < f.1)
    (h : List.Forall₂ (fun f f' => f.1 = f'.1 ∧ f'.2 ≤ f.2) known known') :
    ∀ s', meanScore known' = some s' → ∃ s, meanScore known = some s ∧ s' ≤ s := by
  intro s' hs'
  rw [meanScore, ← isEmpty_forall₂ h] at hs'
  rw [meanScore]
  split at hs'
  · cases hs'
  · next hne =>
    cases hs'
    rw [if_neg hne]
    exact ⟨_, rfl, nearest_roundHalfEven.monotone (weightedMean_mono hpos h)⟩

theorem meanScore_bounds {known : List (ℚ × ℚ)}
    (h : ∀ f ∈ known, 0 < f.1 ∧ 0 ≤ f.2 ∧ f.2 ≤ 100) {s : Int} (hs : meanScore known = some s) :
    0 ≤ s ∧ s ≤ 100 := by
  rw [meanScore] at hs
  split at hs
  · cases hs
  · next hne =>
    cases hs
    obtain ⟨hlo, hhi⟩ := weightedMean_bounds (by rwa [List.isEmpty_iff] at hne) h
    have hzero : roundHalfEven ((0 : ℤ) : ℚ) = 0 := nearest_roundHalfEven.intCast 0
    have hhundred : roundHalfEven ((100 : ℤ) : ℚ) = 100 := nearest_roundHalfEven.intCast 100
    refine ⟨?_, ?_⟩
    · rw [← hzero]
      exact nearest_roundHalfEven.monotone (by simpa using hlo)
    · rw [← hhundred]
      exact nearest_roundHalfEven.monotone (by simpa using hhi)

end Lines

/-! ## All lines of a part -/

section Parts

variable {store : AvailabilityStore} {org partId : UUID}

/-- The order of the ranking. -/
def Above (r r' : VendorFitResult) : Prop := r'.score.getD (-1) ≤ r.score.getD (-1)

instance : DecidableRel Above := fun r r' =>
  inferInstanceAs (Decidable (r'.score.getD (-1) ≤ r.score.getD (-1)))

instance : Std.Total Above := ⟨fun r r' => le_total (r'.score.getD (-1)) (r.score.getD (-1))⟩

instance : IsTrans VendorFitResult Above := ⟨fun _ _ _ h h' => le_trans h' h⟩

variable {line : AvailabilityRow}

theorem lookedUp_eq_ok {found : VendorPartAvailability} (h : lookedUp line = .ok found) :
    found.id = line.id ∧ found.unitPriceCents = line.unitPriceCents ∧ Recognized line := by
  rw [lookedUp] at h
  split at h
  · next status cert hstatus hcert =>
    cases h
    exact ⟨rfl, rfl, by rw [hstatus]; rfl, by rw [hcert]; rfl⟩
  · cases h

theorem exists_lookedUp (h : Recognized line) :
    ∃ found, lookedUp line = .ok found := by
  obtain ⟨status, hstatus⟩ := Option.isSome_iff_exists.1 h.1
  obtain ⟨cert, hcert⟩ := Option.isSome_iff_exists.1 h.2
  rw [lookedUp, hstatus, hcert]
  exact ⟨_, rfl⟩

theorem exists_results
    (hvendors : ∀ line ∈ listAvailabilityForPart store org partId,
      ∃ vendor, getVendor store.db org line.vendorId = .ok vendor)
    (hrecognized : ∀ line ∈ listAvailabilityForPart store org partId, Recognized line) :
    ∃ results, scoreVendorOptionsForPart store org partId = .ok results ∧
      results.Pairwise Above ∧
      (results.map fun r => r.availability.id).Perm
        ((listAvailabilityForPart store org partId).map AvailabilityRow.id) ∧
      ∀ r ∈ results, ∃ line ∈ listAvailabilityForPart store org partId, ∃ found vendor,
        lookedUp line = .ok found ∧ getVendor store.db org line.vendorId = .ok vendor ∧
          r = fitResult (minPrice (listAvailabilityForPart store org partId)) found vendor := by
  have hlooked := fun line hline => exists_lookedUp (hrecognized line hline)
  have hvendor : Nonempty Vendor := ⟨{ id := 0, organizationId := 0 }⟩
  have hline : Nonempty VendorPartAvailability :=
    ⟨{ id := 0, organizationId := 0, vendorId := 0, partId := 0 }⟩
  choose! vendorOf hvendorOf using hvendors
  choose! foundOf hfoundOf using hlooked
  generalize hlines : listAvailabilityForPart store org partId = lines at *
  let result := fun line => fitResult (minPrice lines) (foundOf line) (vendorOf line)
  have hmapM : lines.mapM (fun line => do
      let vendor ← getVendor store.db org line.vendorId
      let line ← lookedUp line
      pure (fitResult (minPrice lines) line vendor)) = .ok (lines.map result) := by
    refine mapM_of_forall fun line hline => ?_
    rw [hvendorOf line hline, ok_bind, hfoundOf line hline]
    rfl
  refine ⟨(lines.map result).insertionSort Above, ?_, List.pairwise_insertionSort Above _, ?_,
    fun r hr => ?_⟩
  · rw [scoreVendorOptionsForPart, hlines]
    exact bind_eq_ok.2 ⟨_, hmapM, rfl⟩
  · refine ((List.perm_insertionSort Above _).map _).trans ?_
    rw [List.map_map]
    refine List.Perm.of_eq (List.map_congr_left fun line hline => ?_)
    exact (lookedUp_eq_ok (hfoundOf line hline)).1
  · obtain ⟨line, hline, rfl⟩ := List.mem_map.1 ((List.mem_insertionSort Above).1 hr)
    exact ⟨line, hline, _, _, hfoundOf line hline, hvendorOf line hline, rfl⟩

/-- What the calls keep: each line is of a vendor of its tenant and has no price below zero, and
the reliability of a vendor is in its range. -/
structure Sound (store : AvailabilityStore) : Prop where
  vendor : ∀ line ∈ store.lines.rows,
    ∃ vendor, getVendor store.db line.organizationId line.vendorId = .ok vendor
  price : ∀ line ∈ store.lines.rows, ∀ cents ∈ line.unitPriceCents, 0 ≤ cents
  reliability : ∀ v ∈ store.db.vendors.rows, ∀ r ∈ v.reliabilityScore, 0 ≤ r ∧ r ≤ 100

theorem mem_listAvailabilityForPart (h : line ∈ listAvailabilityForPart store org partId) :
    line ∈ store.lines.rows ∧ line.organizationId = org := by
  obtain ⟨hrow, hmatch⟩ := Table.mem_select.1 h
  rw [Bool.and_eq_true, decide_eq_true_eq] at hmatch
  exact ⟨hrow, hmatch.1⟩

theorem Sound.sensible (h : Sound store) {found : VendorPartAvailability} {vendor : Vendor}
    (hline : line ∈ listAvailabilityForPart store org partId) (hfound : lookedUp line = .ok found)
    (hvendor : getVendor store.db org line.vendorId = .ok vendor) :
    Sensible (minPrice (listAvailabilityForPart store org partId)) found vendor := by
  refine ⟨fun least hleast => ?_, ?_⟩
  · obtain ⟨hmem, hle⟩ := List.min?_eq_some_iff.1 hleast
    obtain ⟨other, hother, hprice⟩ := List.mem_filterMap.1 hmem
    refine ⟨h.price other (mem_listAvailabilityForPart hother).1 least hprice, fun cents hcents => ?_⟩
    refine hle cents (List.mem_filterMap.2 ⟨line, hline, ?_⟩)
    rw [← (lookedUp_eq_ok hfound).2.1]
    exact hcents
  · exact h.reliability vendor (mem_of_oneOrRaise hvendor).1

/-- **FAIR SCORES** of lines with recognized statuses. -/
theorem Sound.scoresWell (h : Sound store)
    (hrecognized : ∀ line ∈ listAvailabilityForPart store org partId, Recognized line) :
    ScoresWell store org partId := by
  have hvendors : ∀ line ∈ listAvailabilityForPart store org partId,
      ∃ vendor, getVendor store.db org line.vendorId = .ok vendor := by
    intro line hline
    obtain ⟨hrow, horg⟩ := mem_listAvailabilityForPart hline
    exact horg ▸ h.vendor line hrow
  obtain ⟨results, hok, hsorted, hperm, hof⟩ := exists_results hvendors hrecognized
  -- the vendor of a result is the one that its line was scored with
  have hof' : ∀ r ∈ results, ∀ vendor, getVendor store.db org r.vendorId = .ok vendor →
      ∃ found, r = fitResult (minPrice (listAvailabilityForPart store org partId)) found vendor ∧
        Sensible (minPrice (listAvailabilityForPart store org partId)) found vendor := by
    intro r hr vendor hvendor
    obtain ⟨line, hline, found, vendor', hfound, hvendor', rfl⟩ := hof r hr
    have hid : vendor'.id = line.vendorId := by
      have hmatch := (mem_of_oneOrRaise hvendor').2
      rw [Bool.and_eq_true, decide_eq_true_eq] at hmatch
      exact hmatch.1
    have hsame : vendor' = vendor := by
      have hvendor : getVendor store.db org vendor'.id = .ok vendor := hvendor
      rw [hid, hvendor'] at hvendor
      exact Except.ok.inj hvendor
    subst hsame
    exact ⟨found, rfl, h.sensible hline hfound hvendor'⟩
  have hbounded : ∀ r ∈ results, ∀ s, r.score = some s → 0 ≤ s ∧ s ≤ 100 := by
    intro r hr s hs
    obtain ⟨line, hline, found, vendor, hfound, hvendor, rfl⟩ := hof r hr
    rw [score_fitResult] at hs
    exact meanScore_bounds (fun f hf => known_bounds (h.sensible hline hfound hvendor) hf) hs
  refine ⟨results, hok, hperm, hbounded, ?_, ?_, hsorted.imp_of_mem ?_⟩
  · intro r hr r' hr' vendor vendor' hvendor hvendor' hgood
    obtain ⟨found, rfl, hsensible⟩ := hof' r hr vendor hvendor
    obtain ⟨found', rfl, _⟩ := hof' r' hr' vendor' hvendor'
    rw [NotBelow, score_fitResult, score_fitResult]
    exact meanScore_mono (fun f hf => weight_pos hf)
      (known_of_atLeastAsGood (fun least hleast => (hsensible.leastPrice least hleast).1) hgood)
  · intro r hr vendor hvendor
    obtain ⟨found, rfl, _⟩ := hof' r hr vendor hvendor
    exact score_fitResult _ found vendor
  · intro r r' _ hr' habove s' hs'
    have hlow := (hbounded r' hr' s' hs').1
    rw [Above, hs', Option.getD_some] at habove
    cases hs : r.score with
    | none =>
      rw [hs, Option.getD_none] at habove
      omega
    | some s =>
      rw [hs, Option.getD_some] at habove
      exact ⟨s, rfl, habove⟩

theorem recognized_of_scoresWell (h : ScoresWell store org partId) :
    ∀ line ∈ listAvailabilityForPart store org partId, Recognized line := by
  obtain ⟨results, hok, _⟩ := h
  obtain ⟨scored, hscored, _⟩ := bind_eq_ok.1 hok
  intro line hline
  obtain ⟨_, hone⟩ := mapM_isOk_iff.1 ⟨scored, hscored⟩ line hline
  obtain ⟨_, _, hone⟩ := bind_eq_ok.1 hone
  obtain ⟨found, hfound, _⟩ := bind_eq_ok.1 hone
  exact (lookedUp_eq_ok hfound).2.2

end Parts

/-! ## Sequences of calls -/

inductive Action
  | create (newId : UUID) (now : DateTime) (organizationId : UUID) (actor : Option UUID)
      (payload : VendorPartAvailabilityCreateRequest)
  | update (organizationId : UUID) (actor : Option UUID) (availabilityId : UUID)
      (payload : VendorPartAvailabilityUpdateRequest)

def call : Action → Call AvailabilityStore Error Unit
  | .create newId now org actor payload => createAvailability newId now org actor payload
  | .update org actor availabilityId payload => updateAvailability org actor availabilityId payload

theorem create_keeps {newId org : UUID} {now : DateTime} {actor : Option UUID}
    {payload : VendorPartAvailabilityCreateRequest} :
    Keeps Sound (createAvailability newId now org actor payload) := by
  refine Keeps.transaction ?_
  intro store store' hstore h
  obtain ⟨vendor, hvendor, h⟩ := bind_eq_ok.1 h
  obtain ⟨_, _, h⟩ := bind_eq_ok.1 h
  obtain ⟨_, _, h⟩ := bind_eq_ok.1 h
  obtain ⟨lines, hadd, h⟩ := bind_eq_ok.1 h
  cases h
  refine ⟨fun line hline => ?_, fun line hline => ?_, hstore.reliability⟩
  · rcases (Table.mem_insert? (addRowOrRaise_eq_ok.1 hadd)).1 hline with hline | rfl
    · exact hstore.vendor line hline
    · exact ⟨vendor, hvendor⟩
  · rcases (Table.mem_insert? (addRowOrRaise_eq_ok.1 hadd)).1 hline with hline | rfl
    · exact hstore.price line hline
    · exact payload.unitPrice_nonneg

theorem update_keeps {org availabilityId : UUID} {actor : Option UUID}
    {payload : VendorPartAvailabilityUpdateRequest} :
    Keeps Sound (updateAvailability org actor availabilityId payload) := by
  refine Keeps.transaction ?_
  intro store store' hstore h
  obtain ⟨old, hold, h⟩ := bind_eq_ok.1 h
  obtain ⟨_, _, h⟩ := bind_eq_ok.1 h
  obtain ⟨_, _, h⟩ := bind_eq_ok.1 h
  obtain ⟨_, _, h⟩ := bind_eq_ok.1 h
  have hrow := (mem_of_oneOrRaise hold).1
  have hvendors : store'.db.vendors = store.db.vendors := by
    cases h
    dsimp only
    split
    · rfl
    · rfl
  have hgetVendor : ∀ org vendorId,
      getVendor store'.db org vendorId = getVendor store.db org vendorId := by
    intro org vendorId
    rw [getVendor, getVendor, hvendors]
  refine ⟨fun line hline => ?_, fun line hline => ?_, hvendors ▸ hstore.reliability⟩
  · rw [hgetVendor]
    cases h
    rcases Table.mem_save.1 hline with ⟨hline, _⟩ | ⟨rfl, _⟩
    · exact hstore.vendor line hline
    · exact hstore.vendor old hrow
  · cases h
    rcases Table.mem_save.1 hline with ⟨hline, _⟩ | ⟨rfl, _⟩
    · exact hstore.price line hline
    · intro cents hcents
      cases hprice : payload.unitPriceCents with
      | unset =>
        refine hstore.price old hrow cents ?_
        rwa [hprice] at hcents
      | null =>
        rw [hprice] at hcents
        cases hcents
      | value n =>
        rw [hprice] at hcents
        cases hcents
        exact payload.unitPrice_nonneg cents hprice

theorem call_keeps_sound (a : Action) : Keeps Sound (call a) := by
  cases a with
  | create newId now org actor payload => exact create_keeps
  | update org actor availabilityId payload => exact update_keeps

/-- **THE SCORING ANSWERS, AND FAIRLY**, exactly if the statuses of the part's lines are in the
tables, whatever lines were stored before. -/
theorem scores_well_iff (store : AvailabilityStore) (hempty : store.lines.rows = [])
    (hreliability : ∀ v ∈ store.db.vendors.rows, ∀ r ∈ v.reliabilityScore, 0 ≤ r ∧ r ≤ 100)
    (as : List Action) :
    ∀ store' ∈ Runs.visited (Sessions.step call) store as, ∀ org partId,
      ScoresWell store' org partId ↔
        ∀ line ∈ listAvailabilityForPart store' org partId, Recognized line := by
  have hsound : Sound store := by
    refine ⟨fun line hline => ?_, fun line hline => ?_, hreliability⟩
    · rw [hempty] at hline
      cases hline
    · rw [hempty] at hline
      cases hline
  intro store' hstore' org partId
  have hsound' := Sessions.visited_keeps call_keeps_sound as hsound store' hstore'
  exact ⟨recognized_of_scoresWell, hsound'.scoresWell⟩

def onePart : AvailabilityStore where
  db :=
    { vendors := .single { id := 1, organizationId := 1, name := "Acme", reliabilityScore := some 90 }
      parts := .single { id := 7, organizationId := 1, partNumber := "PN-7", description := "Pump" } }

/-- A line with a status that is given as it is. -/
def storeLine (availabilityStatus : String) (h : availabilityStatus.length ≤ 32) : Action :=
  .create 5 0 1 none
    { vendorId := 1, partId := 7, availabilityStatus, unitPriceCents := some 0
      availabilityStatus_length := h }

/-- A status in the table. -/
theorem inStock_scores_well :
    ScoresWell (Sessions.left (call (storeLine "IN_STOCK" (by decide))) onePart) 1 7 :=
  (scores_well_iff onePart rfl (by decide) [storeLine "IN_STOCK" (by decide)] _
    (List.mem_cons_of_mem _ List.mem_cons_self) 1 7).2 (by decide)

/-- A status that is in no table is stored, and the scoring raises a `KeyError`. -/
theorem backordered_raises :
    ¬(∀ store' ∈ Runs.visited (Sessions.step call) onePart
        [storeLine "BACKORDERED" (by decide)], ∀ org partId, ScoresWell store' org partId) ∧
      scoreVendorOptionsForPart
        (Sessions.left (call (storeLine "BACKORDERED" (by decide))) onePart) 1 7
          = .error .keyError := by
  have hraises : scoreVendorOptionsForPart
      (Sessions.left (call (storeLine "BACKORDERED" (by decide))) onePart) 1 7
        = .error .keyError := by rfl
  refine ⟨fun h => ?_, hraises⟩
  obtain ⟨results, hok, _⟩ := h _ (List.mem_cons_of_mem _ List.mem_cons_self) 1 7
  have hok' := hraises.symm.trans hok
  cases hok'

end VendorScores
end AeroComply
