import Mathlib.Data.List.Sort
import AeroComply.Services.Flight
import AeroComply.Services.Procurement

/-!
# VendorFit — one scoring function in two languages

`score_vendor_options_for_part` of `app/services/vendor_fit_service.py`, and
`scoreVendorOptionsForPart` of `frontend/lib/mock/procurement.ts`, which it was ported from.  Both
take the weighted mean of the factors that are known and round it to an integer, `round` to the
even one between two, `Math.round` to the larger one.

All arithmetic is exact.  `number` is how a number is written into a text of the frontend; nothing
is assumed of it.  `scores_agree_iff` says when the two give the same results.
-/

namespace AeroComply

open Relational (Keyed Table)

/-- The numbers and texts that the two loops collect for a line. -/
structure Tally where
  weightedSum : ℚ := 0
  weightTotal : ℚ := 0
  factors : List String := []
  missingFactors : List String := []

/-- A factor counts with its weight; a factor without source data is only named. -/
def Tally.add (t : Tally) (weight : ℚ) (known : Option (ℚ × String)) (missing : String) : Tally :=
  match known with
  | some (score, factor) =>
    { t with
      weightedSum := t.weightedSum + weight * score
      weightTotal := t.weightTotal + weight
      factors := t.factors ++ [factor] }
  | none => { t with missingFactors := t.missingFactors ++ [missing] }

/-- The keys of `_WEIGHTS`. -/
structure FactorWeights where
  availability : ℚ
  certification : ℚ
  leadTime : ℚ
  price : ℚ
  reliability : ℚ

/-- A status with its underscores written as blanks. -/
def spaced (s : String) : String := s.map fun c => if c = '_' then ' ' else c

namespace VendorFitService

open FlightService (roundHalfEven)
open VendorService (getVendor)

def weights : FactorWeights where
  availability := 30 / 100
  certification := 25 / 100
  leadTime := 20 / 100
  price := 15 / 100
  reliability := 10 / 100

/-- `_AVAILABILITY_SCORE`; it has no entry for `UNKNOWN`. -/
def availabilityScore : PartAvailabilityStatus → Option ℚ
  | .inStock => some 100
  | .limited => some 55
  | .onOrder => some 30
  | .outOfStock => some 0
  | .unknown => none

def certScore : PartCertificationStatus → Option ℚ
  | .verified => some 100
  | .notVerified => some 40
  | .referenceUnknown => some 20
  | .unknown => none

def leadTimeScore (days : Int) : ℚ :=
  if days ≤ 2 then 100 else if days ≤ 5 then 70 else if days ≤ 10 then 40 else 20

def priceScore (minPrice unitPriceCents : Int) : ℚ :=
  if minPrice = 0 then 100
  else max 0 (100 - ((unitPriceCents - minPrice : ℤ) : ℚ) / minPrice * 100)

/-- `f"{cents / 100:.2f}"`. -/
def twoPlaces (cents : Int) : String :=
  let digits := toString (cents.natAbs % 100)
  (if cents < 0 then "-" else "") ++ toString (cents.natAbs / 100) ++ "." ++
    (if digits.length = 1 then "0" ++ digits else digits)

/-- What the loop collects for a line. -/
def tally (minPrice : Option Int) (line : VendorPartAvailability) (vendor : Vendor) : Tally :=
  ({} : Tally)
  |>.add weights.availability
    ((availabilityScore line.availabilityStatus).map fun s =>
      (s, "Availability: " ++ spaced line.availabilityStatus.value))
    "live availability not confirmed"
  |>.add weights.certification
    ((certScore line.certificationStatus).map fun s =>
      (s, "Certification: " ++ spaced line.certificationStatus.value))
    "certification status unknown"
  |>.add weights.leadTime
    (line.leadTimeDays.map fun days => (leadTimeScore days, toString days ++ "-day lead time"))
    "lead time not on file"
  |>.add weights.price
    (minPrice.bind fun m => line.unitPriceCents.map fun cents =>
      (priceScore m cents, "Price: " ++ line.currency.getD "" ++ " " ++ twoPlaces cents))
    "price not on file"
  |>.add weights.reliability
    (vendor.reliabilityScore.map fun r : ℤ => ((r : ℚ), "Reliability score " ++ toString r))
    "vendor reliability history unavailable"

def score (t : Tally) : Option Int :=
  if 0 < t.weightTotal then some (roundHalfEven (t.weightedSum / t.weightTotal)) else none

def confidence (score : Option Int) (weightTotal : ℚ) : String :=
  if score = none then "UNKNOWN"
  else if 85 / 100 ≤ weightTotal then "HIGH"
  else if 5 / 10 ≤ weightTotal then "MEDIUM"
  else "LOW"

structure VendorFitResult where
  vendorId : UUID
  vendorName : String
  availability : VendorPartAvailability
  score : Option Int
  confidence : String
  factors : List String
  missingFactors : List String

def fitResult (minPrice : Option Int) (line : VendorPartAvailability) (vendor : Vendor) :
    VendorFitResult :=
  let t := tally minPrice line vendor
  { vendorId := vendor.id, vendorName := vendor.name, availability := line, score := score t
    confidence := confidence (score t) t.weightTotal, factors := t.factors
    missingFactors := t.missingFactors }

def listAvailabilityForPart (db : Database) (organizationId partId : UUID) :
    List VendorPartAvailability :=
  db.vendorPartAvailabilities.select fun a => a.organizationId = organizationId && a.partId = partId

/-- `min(prices) if prices else None`. -/
def minPrice (lines : List VendorPartAvailability) : Option Int :=
  (lines.filterMap VendorPartAvailability.unitPriceCents).min?

def scoreVendorOptionsForPart (db : Database) (organizationId partId : UUID) :
    Except Error (List VendorFitResult) := do
  let lines := listAvailabilityForPart db organizationId partId
  let results ← lines.mapM fun line => do
    let vendor ← getVendor db organizationId line.vendorId
    pure (fitResult (minPrice lines) line vendor)
  pure (results.insertionSort fun r r' => r'.score.getD (-1) ≤ r.score.getD (-1))

end VendorFitService

namespace FrontendProcurement

/-- `Vendor` of `frontend/lib/mock/types.ts`. -/
structure Vendor where
  id : UUID
  name : String
  reliabilityScore : Option ℚ

/-- `VendorPartAvailability` of `frontend/lib/mock/types.ts`. -/
structure VendorPartAvailability where
  id : UUID
  vendorId : UUID
  partId : Option UUID
  availabilityStatus : PartAvailabilityStatus
  leadTimeDays : Option ℚ
  unitPrice : Option ℚ
  currency : Option String
  certificationStatus : PartCertificationStatus

/-- The two arrays of the module. -/
structure Store where
  vendors : List Vendor
  vendorPartAvailability : List VendorPartAvailability

def weights : FactorWeights where
  availability := 30 / 100
  certification := 25 / 100
  leadTime := 20 / 100
  price := 15 / 100
  reliability := 10 / 100

def availabilityScore : PartAvailabilityStatus → Option ℚ
  | .inStock => some 100
  | .limited => some 55
  | .onOrder => some 30
  | .outOfStock => some 0
  | .unknown => none

def certScore : PartCertificationStatus → Option ℚ
  | .verified => some 100
  | .notVerified => some 40
  | .referenceUnknown => some 20
  | .unknown => none

def leadScore (leadTimeDays : ℚ) : ℚ :=
  if leadTimeDays ≤ 2 then 100 else if leadTimeDays ≤ 5 then 70 else if leadTimeDays ≤ 10 then 40
  else 20

def priceScore (minPrice unitPrice : ℚ) : ℚ :=
  if minPrice = 0 then 100 else max 0 (100 - (unitPrice - minPrice) / minPrice * 100)

/-- `Math.round`: the nearest integer, and the larger one of two. -/
def mathRound (x : ℚ) : Int := (x + 1 / 2).floor

section Scores

variable (number : ℚ → String)

/-- What the loop collects for a line. -/
def tally (minPrice : Option ℚ) (line : VendorPartAvailability) (vendor : Option Vendor) : Tally :=
  ({} : Tally)
  |>.add weights.availability
    ((availabilityScore line.availabilityStatus).map fun s =>
      (s, "Availability: " ++ spaced line.availabilityStatus.value))
    "live availability not confirmed"
  |>.add weights.certification
    ((certScore line.certificationStatus).map fun s =>
      (s, "Certification: " ++ spaced line.certificationStatus.value))
    "certification status unknown"
  |>.add weights.leadTime
    (line.leadTimeDays.map fun days => (leadScore days, number days ++ "-day lead time"))
    "lead time not on file"
  |>.add weights.price
    (minPrice.bind fun m => line.unitPrice.map fun price =>
      (priceScore m price, "Price: " ++ line.currency.getD "" ++ " " ++ number price))
    "price not on file"
  |>.add weights.reliability
    ((vendor.bind Vendor.reliabilityScore).map fun r => (r, "Reliability score " ++ number r))
    "vendor reliability history unavailable"

def score (t : Tally) : Option Int :=
  if 0 < t.weightTotal then some (mathRound (t.weightedSum / t.weightTotal)) else none

def confidence (score : Option Int) (weightTotal : ℚ) : String :=
  if score = none then "UNKNOWN"
  else if 85 / 100 ≤ weightTotal then "HIGH"
  else if 5 / 10 ≤ weightTotal then "MEDIUM"
  else "LOW"

structure VendorScoreResult where
  vendorId : UUID
  vendorName : Option String
  line : VendorPartAvailability
  score : Option Int
  confidence : String
  missingFactors : List String
  factors : List String

/-- The result for a line; a vendor that is not found is named by its identifier, which is `none`
here. -/
def scoreResult (minPrice : Option ℚ) (line : VendorPartAvailability) (vendor : Option Vendor) :
    VendorScoreResult :=
  let t := tally number minPrice line vendor
  { vendorId := line.vendorId, vendorName := vendor.map Vendor.name, line, score := score t
    confidence := confidence (score t) t.weightTotal, missingFactors := t.missingFactors
    factors := t.factors }

def vendorPartAvailabilityForPart (store : Store) (partId : UUID) : List VendorPartAvailability :=
  store.vendorPartAvailability.filter fun a => a.partId = some partId

def getVendorById (store : Store) (id : UUID) : Option Vendor :=
  store.vendors.find? fun v => v.id = id

def scoreVendorOptionsForPart (store : Store) (partId : UUID) : List VendorScoreResult :=
  let lines := vendorPartAvailabilityForPart store partId
  let minPrice := (lines.filterMap VendorPartAvailability.unitPrice).min?
  (lines.map fun line => scoreResult number minPrice line (getVendorById store line.vendorId))
    |>.insertionSort fun a b => b.score.getD (-1) ≤ a.score.getD (-1)

end Scores

end FrontendProcurement

namespace VendorFit

open FlightService (roundHalfEven)
open FrontendProcurement (mathRound)
open VendorService (getVendor)
open VendorFitService (VendorFitResult listAvailabilityForPart minPrice weights)

/-! ## The weighted mean

What both services compute of a line: the mean of the factors that are known, by their weights. -/

/-- The mean of the scores by their weights. -/
def weightedMean (factors : List (ℚ × ℚ)) : ℚ :=
  (factors.map fun f => f.1 * f.2).sum / (factors.map Prod.fst).sum

def knownFactors (minPrice : Option Int) (line : VendorPartAvailability) (vendor : Vendor) :
    List (ℚ × ℚ) :=
  [(weights.availability, VendorFitService.availabilityScore line.availabilityStatus),
    (weights.certification, VendorFitService.certScore line.certificationStatus),
    (weights.leadTime, line.leadTimeDays.map VendorFitService.leadTimeScore),
    (weights.price, minPrice.bind fun m => line.unitPriceCents.map (VendorFitService.priceScore m)),
    (weights.reliability, vendor.reliabilityScore.map fun r : ℤ => (r : ℚ))].filterMap
  fun f => f.2.map fun s => (f.1, s)

/-- The number lies halfway between an even integer and the next one. -/
def HalfAboveEven (q : ℚ) : Prop := ∃ n : ℤ, n % 2 = 0 ∧ q = n + 1 / 2

section Rounds

variable {q : ℚ}

theorem floor_of_half {n : ℤ} (h : q = n + 1 / 2) : ⌊q⌋ = n := by
  rw [Int.floor_eq_iff, h]
  constructor <;> linarith

/-- **THE TWO ROUNDINGS** differ exactly halfway above an even integer. -/
theorem round_eq_iff (q : ℚ) : roundHalfEven q = mathRound q ↔ ¬HalfAboveEven q := by
  have hlo : (⌊q⌋ : ℚ) ≤ q := Int.floor_le q
  have hhi : q < ⌊q⌋ + 1 := Int.lt_floor_add_one q
  have hfloor : q.floor = ⌊q⌋ := rfl
  have hround : mathRound q = ⌊q + 1 / 2⌋ := rfl
  rw [hround, roundHalfEven, hfloor]
  split_ifs with hdown hup heven
  · have hsame : ⌊q + 1 / 2⌋ = ⌊q⌋ := by
      rw [Int.floor_eq_iff]
      constructor <;> linarith
    refine ⟨fun _ => ?_, fun _ => hsame.symm⟩
    rintro ⟨n, _, hq⟩
    rw [floor_of_half hq, hq] at hdown
    linarith
  · have hsame : ⌊q + 1 / 2⌋ = ⌊q⌋ + 1 := by
      rw [Int.floor_eq_iff]
      push_cast
      constructor <;> linarith
    refine ⟨fun _ => ?_, fun _ => hsame.symm⟩
    rintro ⟨n, _, hq⟩
    rw [floor_of_half hq, hq] at hup
    linarith
  · have hup' : ⌊q + 1 / 2⌋ = ⌊q⌋ + 1 := by
      rw [Int.floor_eq_iff]
      push_cast
      constructor <;> linarith
    have htie : HalfAboveEven q := ⟨⌊q⌋, heven, by linarith⟩
    rw [hup']
    exact ⟨fun h => by omega, fun h => absurd htie h⟩
  · have hup' : ⌊q + 1 / 2⌋ = ⌊q⌋ + 1 := by
      rw [Int.floor_eq_iff]
      push_cast
      constructor <;> linarith
    refine ⟨fun _ => ?_, fun _ => hup'.symm⟩
    rintro ⟨n, hn, hq⟩
    rw [floor_of_half hq] at heven
    exact heven hn

end Rounds

/-! ## The tallies -/

def numbers (t : Tally) : ℚ × ℚ := (t.weightedSum, t.weightTotal)

theorem numbers_add (t : Tally) (weight : ℚ) (known : Option (ℚ × String)) (missing : String) :
    numbers (t.add weight known missing) = numbers t +
      (((known.map fun k => weight * k.1).getD 0), (known.map fun _ => weight).getD 0) := by
  cases known with
  | none =>
    show (t.weightedSum, t.weightTotal) = (t.weightedSum + 0, t.weightTotal + 0)
    rw [add_zero, add_zero]
  | some k => rfl

theorem numbers_tally (m : Option Int) (line : VendorPartAvailability) (vendor : Vendor) :
    numbers (VendorFitService.tally m line vendor)
      = (((knownFactors m line vendor).map fun f => f.1 * f.2).sum,
          ((knownFactors m line vendor).map Prod.fst).sum) := by
  have hcons : ∀ (weight : ℚ) (score : Option ℚ) (rest : List (ℚ × Option ℚ)),
      ((((weight, score) :: rest).filterMap fun f => f.2.map fun s => (f.1, s)).map
          (fun f => f.1 * f.2)).sum
        = (score.map fun s => weight * s).getD 0
          + ((rest.filterMap fun f => f.2.map fun s => (f.1, s)).map (fun f => f.1 * f.2)).sum ∧
      ((((weight, score) :: rest).filterMap fun f => f.2.map fun s => (f.1, s)).map
          Prod.fst).sum
        = (score.map fun _ => weight).getD 0
          + ((rest.filterMap fun f => f.2.map fun s => (f.1, s)).map Prod.fst).sum := by
    intro weight score rest
    cases score with
    | none => simp
    | some s => simp
  rw [VendorFitService.tally, numbers_add, numbers_add, numbers_add, numbers_add, numbers_add,
    knownFactors]
  simp only [(hcons _ _ _).1, (hcons _ _ _).2, Option.map_map, Function.comp_def,
    Option.map_bind, List.filterMap_nil, List.map_nil, List.sum_nil]
  refine Prod.ext ?_ ?_
  · show 0 + _ + _ + _ + _ + _ = _
    ring
  · show 0 + _ + _ + _ + _ + _ = _
    ring

/-! ## The frontend's rows -/

def frontendVendor (v : Vendor) : FrontendProcurement.Vendor where
  id := v.id
  name := v.name
  reliabilityScore := v.reliabilityScore.map fun r : ℤ => (r : ℚ)

/-- A price in cents, as the frontend has it. -/
def dollars (cents : Int) : ℚ := cents / 100

def frontendLine (a : VendorPartAvailability) : FrontendProcurement.VendorPartAvailability where
  id := a.id
  vendorId := a.vendorId
  partId := some a.partId
  availabilityStatus := a.availabilityStatus
  leadTimeDays := a.leadTimeDays.map fun days : ℤ => (days : ℚ)
  unitPrice := a.unitPriceCents.map dollars
  currency := a.currency
  certificationStatus := a.certificationStatus

/-- The rows of an organization. -/
def frontendStore (db : Database) (organizationId : UUID) : FrontendProcurement.Store where
  vendors := (db.vendors.select fun v => v.organizationId = organizationId).map frontendVendor
  vendorPartAvailability :=
    (db.vendorPartAvailabilities.select fun a => a.organizationId = organizationId).map frontendLine

section Rows

variable {db : Database} {organizationId partId : UUID}

theorem frontend_lines (db : Database) (organizationId partId : UUID) :
    FrontendProcurement.vendorPartAvailabilityForPart (frontendStore db organizationId) partId
      = (listAvailabilityForPart db organizationId partId).map frontendLine := by
  show ((db.vendorPartAvailabilities.rows.filter _).map frontendLine).filter _
    = (db.vendorPartAvailabilities.rows.filter _).map frontendLine
  rw [List.filter_map, List.filter_filter]
  congr 1
  refine List.filter_congr fun a _ => ?_
  simp [frontendLine, Bool.and_comm]

theorem frontend_vendor {line : VendorPartAvailability} {vendor : Vendor}
    (hvendor : getVendor db organizationId line.vendorId = .ok vendor) :
    FrontendProcurement.getVendorById (frontendStore db organizationId) line.vendorId
      = some (frontendVendor vendor) := by
  obtain ⟨hrow, hfound⟩ := mem_of_oneOrRaise hvendor
  simp only [Bool.and_eq_true, decide_eq_true_eq] at hfound
  show ((db.vendors.select fun v => v.organizationId = organizationId).map frontendVendor).find?
    (fun v => v.id = line.vendorId) = _
  rw [List.find?_map]
  have hfind : (db.vendors.select fun v => v.organizationId = organizationId).find?
      ((fun v => decide (v.id = line.vendorId)) ∘ frontendVendor) = some vendor := by
    have hmem : vendor ∈ db.vendors.select fun v => v.organizationId = organizationId :=
      Table.mem_select.2 ⟨hrow, decide_eq_true hfound.2⟩
    have hnodup : ((db.vendors.select fun v => v.organizationId = organizationId).map
        Keyed.key).Nodup := db.vendors.nodup.sublist (List.filter_sublist.map _)
    exact (Table.find?_of_nodup hnodup).2 ⟨hmem, hfound.1⟩
  rw [hfind]
  rfl

theorem frontend_minPrice (lines : List VendorPartAvailability) :
    ((lines.map frontendLine).filterMap FrontendProcurement.VendorPartAvailability.unitPrice).min?
      = (minPrice lines).map dollars := by
  have hprices : (lines.map frontendLine).filterMap
        FrontendProcurement.VendorPartAvailability.unitPrice
      = (lines.filterMap VendorPartAvailability.unitPriceCents).map dollars := by
    rw [List.filterMap_map, List.map_filterMap]
    rfl
  have hmin : ∀ a b : ℤ, min (dollars a) (dollars b) = dollars (min a b) := by
    intro a b
    rw [dollars, dollars, dollars, Int.cast_min, min_div_div_right (by norm_num)]
  rw [hprices, minPrice]
  cases lines.filterMap VendorPartAvailability.unitPriceCents with
  | nil => rfl
  | cons x xs =>
    rw [List.map_cons, List.min?_cons', List.min?_cons', Option.map_some, List.foldl_map]
    exact congrArg some (List.foldl_hom dollars hmin)

end Rows

/-! ## Results -/

theorem frontend_priceScore (m cents : Int) :
    FrontendProcurement.priceScore (dollars m) (dollars cents)
      = VendorFitService.priceScore m cents := by
  rw [FrontendProcurement.priceScore, VendorFitService.priceScore]
  by_cases hm : m = 0
  · rw [if_pos hm, if_pos (by rw [hm, dollars]; norm_num)]
  · have hm' : (m : ℚ) ≠ 0 := Int.cast_ne_zero.2 hm
    have hdiv : dollars m ≠ 0 := div_ne_zero hm' (by norm_num)
    have hquotient : (dollars cents - dollars m) / dollars m = ((cents - m : ℤ) : ℚ) / m := by
      rw [dollars, dollars]
      push_cast
      field_simp
    rw [if_neg hm, if_neg hdiv, hquotient]

theorem frontend_leadScore (days : Int) :
    FrontendProcurement.leadScore (days : ℚ) = VendorFitService.leadTimeScore days := by
  have hle : ∀ n : ℤ, ((days : ℚ) ≤ (n : ℚ)) = (days ≤ n) := fun n => propext Int.cast_le
  have htwo := hle 2
  have hfive := hle 5
  have hten := hle 10
  push_cast at htwo hfive hten
  rw [FrontendProcurement.leadScore, VendorFitService.leadTimeScore]
  simp only [htwo, hfive, hten]

theorem numbers_add_congr {t t' : Tally} (weight : ℚ) {known known' : Option (ℚ × String)}
    (missing : String) (ht : numbers t = numbers t') (h : known.map Prod.fst = known'.map Prod.fst) :
    numbers (t.add weight known missing) = numbers (t'.add weight known' missing) := by
  have hgiven : ∀ (f : ℚ → ℚ) (k : Option (ℚ × String)),
      (k.map fun x => f x.1) = (k.map Prod.fst).map f := fun f k => (Option.map_map ..).symm
  rw [numbers_add, numbers_add, ht, hgiven, hgiven, hgiven fun _ => weight, hgiven fun _ => weight, h]

theorem frontend_numbers (number : ℚ → String) (m : Option Int) (line : VendorPartAvailability)
    (vendor : Vendor) :
    numbers (FrontendProcurement.tally number (m.map dollars) (frontendLine line)
        (some (frontendVendor vendor)))
      = numbers (VendorFitService.tally m line vendor) := by
  have hlead : ∀ (f : ℚ → String) (g : ℤ → String),
      ((frontendLine line).leadTimeDays.map fun days =>
          (FrontendProcurement.leadScore days, f days)).map Prod.fst
        = (line.leadTimeDays.map fun days => (VendorFitService.leadTimeScore days, g days)).map
          Prod.fst := by
    intro f g
    cases hdays : line.leadTimeDays with
    | none => simp [frontendLine, hdays]
    | some days => simp [frontendLine, hdays, frontend_leadScore]
  have hprice : ∀ (f : ℚ → String) (g : ℤ → String),
      ((m.map dollars).bind fun m' => (frontendLine line).unitPrice.map fun price =>
          (FrontendProcurement.priceScore m' price, f price)).map Prod.fst
        = (m.bind fun m' => line.unitPriceCents.map fun cents =>
          (VendorFitService.priceScore m' cents, g cents)).map Prod.fst := by
    intro f g
    cases m with
    | none => rfl
    | some m =>
      cases hcents : line.unitPriceCents with
      | none => simp [frontendLine, hcents]
      | some cents => simp [frontendLine, hcents, frontend_priceScore]
  have hreliability : ∀ (f : ℚ → String) (g : ℤ → String),
      (((some (frontendVendor vendor)).bind FrontendProcurement.Vendor.reliabilityScore).map
          fun r => (r, f r)).map Prod.fst
        = (vendor.reliabilityScore.map fun r : ℤ => ((r : ℚ), g r)).map Prod.fst := by
    intro f g
    cases hr : vendor.reliabilityScore with
    | none => simp [frontendVendor, hr]
    | some r => simp [frontendVendor, hr]
  refine numbers_add_congr _ _ ?_ (hreliability _ _)
  refine numbers_add_congr _ _ ?_ (hprice _ _)
  exact numbers_add_congr _ _ rfl (hlead _ _)

theorem weight_pos {m : Option Int} {line : VendorPartAvailability} {vendor : Vendor} {f : ℚ × ℚ}
    (hf : f ∈ knownFactors m line vendor) : 0 < f.1 := by
  obtain ⟨⟨weight, score⟩, hmem, hsome⟩ := List.mem_filterMap.1 hf
  obtain ⟨s, _, rfl⟩ := Option.map_eq_some_iff.1 hsome
  simp only [List.mem_cons, Prod.mk.injEq, List.not_mem_nil, or_false] at hmem
  rcases hmem with ⟨rfl, _⟩ | ⟨rfl, _⟩ | ⟨rfl, _⟩ | ⟨rfl, _⟩ | ⟨rfl, _⟩ <;>
    norm_num [weights]

/-- What is compared of a result: the line, its score and its confidence. -/
def fitOutcome (r : VendorFitResult) : UUID × Option Int × String :=
  (r.availability.id, r.score, r.confidence)

def scoreOutcome (r : FrontendProcurement.VendorScoreResult) : UUID × Option Int × String :=
  (r.line.id, r.score, r.confidence)

/-- For one line the two agree exactly when its mean is not halfway above an even integer. -/
theorem outcome_eq_iff (number : ℚ → String) (m : Option Int) (line : VendorPartAvailability)
    (vendor : Vendor) :
    fitOutcome (VendorFitService.fitResult m line vendor)
        = scoreOutcome (FrontendProcurement.scoreResult number (m.map dollars) (frontendLine line)
          (some (frontendVendor vendor))) ↔
      ¬HalfAboveEven (weightedMean (knownFactors m line vendor)) := by
  obtain ⟨hsum, htotal⟩ := Prod.ext_iff.1 (numbers_tally m line vendor)
  obtain ⟨hsum', htotal'⟩ := Prod.ext_iff.1 (frontend_numbers number m line vendor)
  have hmean : (VendorFitService.tally m line vendor).weightedSum
      / (VendorFitService.tally m line vendor).weightTotal
        = weightedMean (knownFactors m line vendor) := by
    show (numbers _).1 / (numbers _).2 = _
    rw [hsum, htotal]
    rfl
  have hmean' : (FrontendProcurement.tally number (m.map dollars) (frontendLine line)
      (some (frontendVendor vendor))).weightedSum / (FrontendProcurement.tally number
      (m.map dollars) (frontendLine line) (some (frontendVendor vendor))).weightTotal
        = weightedMean (knownFactors m line vendor) := by
    rw [← hmean]
    show (numbers _).1 / (numbers _).2 = (numbers _).1 / (numbers _).2
    rw [hsum', htotal']
  have hweight : (FrontendProcurement.tally number (m.map dollars) (frontendLine line)
      (some (frontendVendor vendor))).weightTotal
        = (VendorFitService.tally m line vendor).weightTotal := htotal'
  rw [hweight] at hmean'
  rw [fitOutcome, scoreOutcome, VendorFitService.fitResult, FrontendProcurement.scoreResult]
  dsimp only
  rw [VendorFitService.score, FrontendProcurement.score, hweight, hmean, hmean',
    ← round_eq_iff]
  by_cases hpos : 0 < (VendorFitService.tally m line vendor).weightTotal
  · rw [if_pos hpos, if_pos hpos]
    constructor
    · intro h
      exact Option.some.inj (congrArg (fun o => o.2.1) h)
    · intro h
      rw [h]
      rfl
  · -- no factor is known
    rw [if_neg hpos, if_neg hpos]
    have hzero : weightedMean (knownFactors m line vendor) = 0 := by
      have hnil : knownFactors m line vendor = [] := by
        by_contra hne
        refine hpos ?_
        have hsumPos := List.sum_pos ((knownFactors m line vendor).map Prod.fst) (by
          intro w hw
          obtain ⟨f, hf, rfl⟩ := List.mem_map.1 hw
          exact weight_pos hf) (by
          rw [ne_eq, List.map_eq_nil_iff]
          exact hne)
        have htotalSum : (VendorFitService.tally m line vendor).weightTotal
            = ((knownFactors m line vendor).map Prod.fst).sum := htotal
        rw [htotalSum]
        exact hsumPos
      rw [hnil, weightedMean, List.map_nil, List.sum_nil, zero_div]
    rw [hzero]
    exact ⟨fun _ => by decide +kernel, fun _ => rfl⟩

/-! ## Rankings -/

theorem eq_of_perm_map {α κ β : Type} {l : List α} {key : α → κ} {f g : α → β}
    (hnodup : (l.map key).Nodup)
    (hperm : (l.map fun a => (key a, f a)).Perm (l.map fun a => (key a, g a))) :
    ∀ a ∈ l, f a = g a := by
  intro a ha
  have hmem : (key a, f a) ∈ l.map fun a => (key a, g a) :=
    hperm.mem_iff.1 (List.mem_map.2 ⟨a, ha, rfl⟩)
  obtain ⟨b, hb, heq⟩ := List.mem_map.1 hmem
  have hsame : b = a := List.inj_on_of_nodup_map hnodup hb ha (congrArg Prod.fst heq)
  rw [hsame] at heq
  exact (congrArg Prod.snd heq).symm

/-- The order of the ranking; a line without a score comes last. -/
def Above (a b : UUID × Option Int × String) : Prop := b.2.1.getD (-1) ≤ a.2.1.getD (-1)

instance : DecidableRel Above := fun a b =>
  inferInstanceAs (Decidable (b.2.1.getD (-1) ≤ a.2.1.getD (-1)))

/-- The two services give the same scores and confidences, in the same ranking. -/
def Agree (number : ℚ → String) (db : Database) (organizationId partId : UUID) : Prop :=
  ∃ results, VendorFitService.scoreVendorOptionsForPart db organizationId partId = .ok results ∧
    results.map fitOutcome = (FrontendProcurement.scoreVendorOptionsForPart number
      (frontendStore db organizationId) partId).map scoreOutcome

section Rankings

variable {db : Database} {organizationId partId : UUID} {vendorOf : VendorPartAvailability → Vendor}

theorem backend_ranking (hvendorOf : ∀ line ∈ listAvailabilityForPart db organizationId partId,
      getVendor db organizationId line.vendorId = .ok (vendorOf line)) :
    ∃ results, VendorFitService.scoreVendorOptionsForPart db organizationId partId = .ok results ∧
      results.map fitOutcome
        = ((listAvailabilityForPart db organizationId partId).map fun line =>
            fitOutcome (VendorFitService.fitResult
              (minPrice (listAvailabilityForPart db organizationId partId)) line
              (vendorOf line))).insertionSort Above := by
  let lines := listAvailabilityForPart db organizationId partId
  have hmapM : lines.mapM (fun line => do
      let vendor ← getVendor db organizationId line.vendorId
      pure (VendorFitService.fitResult (minPrice lines) line vendor))
        = .ok (lines.map fun line =>
            VendorFitService.fitResult (minPrice lines) line (vendorOf line)) := by
    refine mapM_of_forall fun line hline => ?_
    rw [hvendorOf line hline]
    rfl
  refine ⟨(lines.map fun line =>
    VendorFitService.fitResult (minPrice lines) line (vendorOf line)).insertionSort
      fun r r' => r'.score.getD (-1) ≤ r.score.getD (-1), ?_, ?_⟩
  · show (lines.mapM _ >>= _) = _
    rw [hmapM]
    rfl
  · have hsort := List.map_insertionSort
      (fun r r' : VendorFitResult => r'.score.getD (-1) ≤ r.score.getD (-1)) Above fitOutcome
      (lines.map fun line => VendorFitService.fitResult (minPrice lines) line (vendorOf line))
      fun _ _ _ _ => Iff.rfl
    rw [List.map_map] at hsort
    exact hsort

theorem frontend_ranking (number : ℚ → String)
    (hvendorOf : ∀ line ∈ listAvailabilityForPart db organizationId partId,
      getVendor db organizationId line.vendorId = .ok (vendorOf line)) :
    (FrontendProcurement.scoreVendorOptionsForPart number (frontendStore db organizationId)
        partId).map scoreOutcome
      = ((listAvailabilityForPart db organizationId partId).map fun line =>
          scoreOutcome (FrontendProcurement.scoreResult number
            ((minPrice (listAvailabilityForPart db organizationId partId)).map dollars)
            (frontendLine line) (some (frontendVendor (vendorOf line))))).insertionSort Above := by
  let lines := listAvailabilityForPart db organizationId partId
  have hresults : FrontendProcurement.scoreVendorOptionsForPart number
      (frontendStore db organizationId) partId
      = (lines.map fun line => FrontendProcurement.scoreResult number
          ((minPrice lines).map dollars) (frontendLine line)
          (some (frontendVendor (vendorOf line)))).insertionSort
            fun a b => b.score.getD (-1) ≤ a.score.getD (-1) := by
    rw [FrontendProcurement.scoreVendorOptionsForPart, frontend_lines, frontend_minPrice,
      List.map_map]
    congr 1
    refine List.map_congr_left fun line hline => ?_
    have hfound := frontend_vendor (hvendorOf line hline)
    show FrontendProcurement.scoreResult number _ (frontendLine line)
      (FrontendProcurement.getVendorById _ line.vendorId) = _
    rw [hfound]
  have hsort := List.map_insertionSort
    (fun a b : FrontendProcurement.VendorScoreResult => b.score.getD (-1) ≤ a.score.getD (-1)) Above
    scoreOutcome (lines.map fun line => FrontendProcurement.scoreResult number
      ((minPrice lines).map dollars) (frontendLine line) (some (frontendVendor (vendorOf line))))
    fun _ _ _ _ => Iff.rfl
  rw [List.map_map] at hsort
  rw [hresults]
  exact hsort

end Rankings

/-- **ONE SCORING FUNCTION**: the two services agree on the lines of a part exactly when no line's
weighted mean is halfway above an even integer. -/
theorem scores_agree_iff (number : ℚ → String) (db : Database) (organizationId partId : UUID)
    (hvendors : ∀ line ∈ listAvailabilityForPart db organizationId partId,
      ∃ vendor, getVendor db organizationId line.vendorId = .ok vendor) :
    Agree number db organizationId partId ↔
      ∀ line ∈ listAvailabilityForPart db organizationId partId, ∀ vendor,
        getVendor db organizationId line.vendorId = .ok vendor →
        ¬HalfAboveEven (weightedMean (knownFactors
          (minPrice (listAvailabilityForPart db organizationId partId)) line vendor)) := by
  have hinhabited : Nonempty Vendor := ⟨{ id := 0, organizationId := 0 }⟩
  choose! vendorOf hvendorOf using hvendors
  obtain ⟨results, hours, hrankOurs⟩ := backend_ranking hvendorOf
  have hrankTheirs := frontend_ranking number hvendorOf
  have hone := fun line => outcome_eq_iff number
    (minPrice (listAvailabilityForPart db organizationId partId)) line (vendorOf line)
  constructor
  · rintro ⟨results', hok, hsame⟩ line hline vendor hvendor
    rw [hours] at hok
    cases hok
    rw [hrankOurs, hrankTheirs] at hsame
    -- the same ranking has the same outcomes, and the id of a line is part of its outcome
    have hperm := (List.perm_insertionSort Above _).symm.trans
      (hsame ▸ List.perm_insertionSort Above _)
    have hnodup : ((listAvailabilityForPart db organizationId partId).map
        VendorPartAvailability.id).Nodup :=
      db.vendorPartAvailabilities.nodup.sublist (List.filter_sublist.map _)
    have heq := eq_of_perm_map hnodup hperm line hline
    rw [hvendorOf line hline] at hvendor
    cases hvendor
    exact (hone line).1 (Prod.ext rfl heq.symm)
  · intro hall
    refine ⟨results, hours, ?_⟩
    rw [hrankOurs, hrankTheirs]
    congr 1
    refine List.map_congr_left fun line hline => ?_
    exact (hone line).2 (hall line hline (vendorOf line) (hvendorOf line hline))

/-- One line of a part; of certification, lead time and price nothing is on file. -/
def oneLine (availabilityStatus : PartAvailabilityStatus) (reliabilityScore : Int) : Database where
  vendors := .single
    { id := 1, organizationId := 0, name := "Acme", reliabilityScore := some reliabilityScore }
  vendorPartAvailabilities := .single
    { id := 2, organizationId := 0, vendorId := 1, partId := 3, availabilityStatus }

/-- A whole number, as a template literal writes it. -/
def wholeNumber (q : ℚ) : String := toString q.num

theorem oneLine_vendor (status : PartAvailabilityStatus) (r : Int) :
    ∀ line ∈ listAvailabilityForPart (oneLine status r) 0 3,
      ∃ vendor, getVendor (oneLine status r) 0 line.vendorId = .ok vendor := by
  intro line hline
  cases List.mem_singleton.1 hline
  exact ⟨_, rfl⟩

/-- Halfway above an odd integer: both services say 98. -/
theorem inStock_agrees :
    (∀ line ∈ listAvailabilityForPart (oneLine .inStock 90) 0 3,
      ∃ vendor, getVendor (oneLine .inStock 90) 0 line.vendorId = .ok vendor) ∧
    Agree wholeNumber (oneLine .inStock 90) 0 3 := by
  refine ⟨oneLine_vendor .inStock 90, (scores_agree_iff wholeNumber (oneLine .inStock 90) 0 3
    (oneLine_vendor .inStock 90)).2 ?_⟩
  intro line hline vendor hvendor
  cases List.mem_singleton.1 hline
  cases hvendor
  rintro ⟨n, hn, hmean⟩
  have hvalue : weightedMean (knownFactors (minPrice (listAvailabilityForPart (oneLine .inStock 90) 0
      3)) { id := 2, organizationId := 0, vendorId := 1, partId := 3, availabilityStatus := .inStock }
      { id := 1, organizationId := 0, name := "Acme", reliabilityScore := some 90 }) = 195 / 2 := by
    decide +kernel
  rw [hvalue] at hmean
  have htwice : ((2 * n + 1 : ℤ) : ℚ) = ((195 : ℤ) : ℚ) := by
    push_cast
    linarith
  have := Int.cast_injective htwice
  omega

/-- Halfway above an even one: the backend says 22, and the frontend 23. -/
theorem onOrder_differs : ¬Agree wholeNumber (oneLine .onOrder 0) 0 3 := by
  rintro ⟨results, hok, hsame⟩
  cases hok
  exact absurd hsame (by decide +kernel)

end VendorFit
end AeroComply
