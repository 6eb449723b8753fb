import AeroComply.Lib.Filling
import AeroComply.Services.AircraftRows

/-!
# AssetConfiguration — the slots of an asset and what is installed in them

`get_asset_configuration` of `app/services/asset_service.py`.  The standard slots of the asset's type
take the first installed component of their type that no earlier slot has taken; what is left over
gets a slot of its own.
-/

namespace AeroComply

open Relational (Table)

namespace AssetType

def helicopter : String := "HELICOPTER"

end AssetType

namespace ComponentStatus

def installed : String := "INSTALLED"

end ComponentStatus

namespace ComponentType

def engine : String := "ENGINE"
def avionics : String := "AVIONICS"
def transmission : String := "TRANSMISSION"
def rotor : String := "ROTOR"
def apu : String := "APU"
def actuator : String := "ACTUATOR"
def hydraulic : String := "HYDRAULIC"
def landingGear : String := "LANDING_GEAR"
def motor : String := "MOTOR"
def esc : String := "ESC"
def propeller : String := "PROPELLER"
def flightController : String := "FLIGHT_CONTROLLER"
def gps : String := "GPS"
def camera : String := "CAMERA"
def gimbal : String := "GIMBAL"
def radio : String := "RADIO"
def sensor : String := "SENSOR"

end ComponentType

namespace AssetService

structure AssetComponentResponse where
  id : UUID
  organizationId : UUID
  assetId : Option UUID
  componentType : String
  name : String
  serialNumber : Option String
  manufacturer : Option String
  model : Option String
  status : String
  installedAt : Option DateTime := none
  createdAt : DateTime

/-- `AssetComponentResponse.model_validate`; a component has no `installed_at`. -/
def AssetComponentResponse.modelValidate (c : Component) : AssetComponentResponse where
  id := c.id
  organizationId := c.organizationId
  assetId := c.assetId
  componentType := c.componentType
  name := c.name
  serialNumber := c.serialNumber
  manufacturer := c.manufacturer
  model := c.model
  status := c.status
  createdAt := c.createdAt

structure AssetConfigurationSlotResponse where
  slotName : String
  componentType : String
  isOccupied : Bool
  component : Option AssetComponentResponse := none

/-- The `airframe_spec` of a response; the last two keys are there for an aircraft with a detail. -/
structure AirframeSpec where
  assetType : String
  manufacturer : Option String
  model : Option String
  serialNumber : Option String
  registration : Option String
  msn : Option String := none
  aircraftType : Option String := none

structure AssetConfigurationResponse where
  assetId : UUID
  assetType : String
  airframeSpec : AirframeSpec
  slots : List AssetConfigurationSlotResponse
  totalComponentsInstalled : Nat

/-- A pair of `standard_slots`. -/
structure StandardSlot where
  slotName : String
  componentType : String
  deriving DecidableEq

open ComponentType in
/-- The `standard_slots` of a type of asset. -/
def standardSlots (assetType : String) : List StandardSlot :=
  if assetType = AssetType.drone then
    [⟨"Propulsion System (Motors)", motor⟩, ⟨"Speed Controllers (ESCs)", esc⟩,
      ⟨"Propeller Set", propeller⟩, ⟨"Flight Controller", flightController⟩,
      ⟨"Navigation GNSS/GPS", gps⟩, ⟨"Sensor / Camera Payload", camera⟩,
      ⟨"Gimbal Stabilization", gimbal⟩, ⟨"Telemetry Radio", radio⟩]
  else if assetType = AssetType.helicopter then
    [⟨"Main Rotor Assembly", rotor⟩, ⟨"Tail Rotor System", rotor⟩,
      ⟨"Turbine Engine 1", engine⟩, ⟨"Main Transmission / Gearbox", transmission⟩,
      ⟨"Integrated Avionics Suite", avionics⟩, ⟨"Flight Control Actuators", actuator⟩,
      ⟨"Hydraulic System", hydraulic⟩, ⟨"Primary Sensor Payload", sensor⟩]
  else
    [⟨"Engine Position 1 (Left)", engine⟩, ⟨"Engine Position 2 (Right)", engine⟩,
      ⟨"Auxiliary Power Unit (APU)", apu⟩, ⟨"Primary Flight Avionics", avionics⟩,
      ⟨"Flight Management Computer", flightController⟩, ⟨"Landing Gear Assembly", landingGear⟩,
      ⟨"Hydraulic Power Unit", hydraulic⟩, ⟨"Navigation / Comms Suite", radio⟩]

/-- `ORDER BY component_type, name`, in the collation of the database. -/
def inOrder (collates : String → String → Bool) (a b : Component) : Bool :=
  if a.componentType = b.componentType then collates a.name b.name
  else collates a.componentType b.componentType

def installedComponents (db : Database) (organizationId assetId : UUID) : List Component :=
  db.components.select fun c =>
    c.assetId = some assetId && c.organizationId = organizationId &&
      c.status = ComponentStatus.installed

/-- The loop over `standard_slots`; what it has used is `matched_component_ids`. -/
def matchSlots (components : List Component) (slots : List StandardSlot) :
    Filling.State StandardSlot Component UUID :=
  Filling.fill Component.id (fun slot c => c.componentType = slot.componentType) components slots

def slotResponse : StandardSlot × Option Component → AssetConfigurationSlotResponse
  | (slot, some c) =>
    { slotName := slot.slotName
      componentType := slot.componentType
      isOccupied := true
      component := some (.modelValidate c) }
  | (slot, none) =>
    { slotName := slot.slotName, componentType := slot.componentType, isOccupied := false }

/-- The slot of a component that is left over. -/
def customSlot (c : Component) : AssetConfigurationSlotResponse where
  slotName := "Custom: " ++ c.name
  componentType := c.componentType
  isOccupied := true
  component := some (.modelValidate c)

def configurationSlots (assetType : String) (components : List Component) :
    List AssetConfigurationSlotResponse :=
  let matched := matchSlots components (standardSlots assetType)
  matched.filled.map slotResponse ++
    (Filling.rest Component.id components matched.used).map customSlot

/-- The detail that the specification of an aircraft is completed with. -/
def specDetail (store : AircraftStore) (asset : Asset) : Except Error (Option AircraftDetail) :=
  if asset.assetType = AssetType.aircraft then
    scalarOneOrNone (store.details.select fun d => d.assetId = asset.id)
  else pure none

def configurationResponse (asset : Asset) (components : List Component)
    (detail : Option AircraftDetail) : AssetConfigurationResponse where
  assetId := asset.id
  assetType := asset.assetType
  airframeSpec :=
    { assetType := asset.assetType
      manufacturer := asset.manufacturer
      model := asset.model
      serialNumber := asset.serialNumber
      registration := asset.registration
      msn := detail.map AircraftDetail.msn
      aircraftType := detail.map AircraftDetail.aircraftType }
  slots := configurationSlots asset.assetType components
  totalComponentsInstalled := components.length

def getAssetConfiguration (collates : String → String → Bool) (store : AircraftStore)
    (organizationId assetId : UUID) : Except Error AssetConfigurationResponse := do
  let asset ← store.db.getAsset organizationId assetId
  let components := (installedComponents store.db organizationId asset.id).mergeSort
    (inOrder collates)
  let detail ← specDetail store asset
  pure (configurationResponse asset components detail)

/-! ## What a configuration shows -/

def AssetConfigurationSlotResponse.slot (s : AssetConfigurationSlotResponse) : StandardSlot :=
  ⟨s.slotName, s.componentType⟩

/-- **EACH INSTALLED COMPONENT ONCE**. -/
structure ShowsEach (assetType : String) (installed : List Component)
    (r : AssetConfigurationResponse) : Prop where
  /-- The occupied slots hold the installed components, each one once. -/
  occupied : ((r.slots.filter AssetConfigurationSlotResponse.isOccupied).map
      AssetConfigurationSlotResponse.component).Perm
    (installed.map fun c => some (.modelValidate c))
  nodup : ((r.slots.filterMap AssetConfigurationSlotResponse.component).map
    AssetComponentResponse.id).Nodup
  ownType : ∀ s ∈ r.slots, ∀ c, s.component = some c → s.componentType = c.componentType
  total : (r.slots.filter AssetConfigurationSlotResponse.isOccupied).length
    = r.totalComponentsInstalled
  /-- Every standard slot is there once. -/
  standard : ∀ slot ∈ standardSlots assetType,
    (r.slots.map AssetConfigurationSlotResponse.slot).count slot = 1
  /-- A slot is empty only if all components of its type are in other standard slots. -/
  empty : ∀ s ∈ r.slots, s.isOccupied = false → ∀ c ∈ installed, c.componentType = s.componentType →
    ∃ s' ∈ r.slots, s' ≠ s ∧ s'.slot ∈ standardSlots assetType ∧
      s'.component = some (.modelValidate c)

/-! ## Standard slots and slots of their own -/

theorem nodup_standardSlots (assetType : String) : (standardSlots assetType).Nodup := by
  rw [standardSlots]
  split
  · decide
  · split
    · decide
    · decide

theorem slot_customSlot_notMem (assetType : String) (c : Component) :
    (customSlot c).slot ∉ standardSlots assetType := by
  have hnames : ∀ slot ∈ standardSlots assetType, slot.slotName.toList.head? ≠ some 'C' := by
    rw [standardSlots]
    split
    · decide
    · split
      · decide
      · decide
  exact fun h => append_ne (c := 'C') (by decide) (hnames _ h) rfl

section Slots

variable {assetType : String} {components : List Component}

theorem filled_matchSlots (components : List Component) (slots : List StandardSlot) :
    Filling.Filled Component.id (fun slot c => c.componentType = slot.componentType) components
      slots (matchSlots components slots) :=
  Filling.filled_fill slots

theorem slot_slotResponse (p : StandardSlot × Option Component) : (slotResponse p).slot = p.1 := by
  obtain ⟨slot, component⟩ := p
  cases component with
  | none => rfl
  | some c => rfl

theorem component_slotResponse (p : StandardSlot × Option Component) :
    (slotResponse p).component = p.2.map .modelValidate := by
  obtain ⟨slot, component⟩ := p
  cases component with
  | none => rfl
  | some c => rfl

theorem isOccupied_slotResponse (p : StandardSlot × Option Component) :
    (slotResponse p).isOccupied = p.2.isSome := by
  obtain ⟨slot, component⟩ := p
  cases component with
  | none => rfl
  | some c => rfl

theorem map_component_filter_slotResponse (filled : List (StandardSlot × Option Component)) :
    ((filled.map slotResponse).filter AssetConfigurationSlotResponse.isOccupied).map
        AssetConfigurationSlotResponse.component
      = (Filling.placed filled).map fun c => some (.modelValidate c) := by
  induction filled with
  | nil => rfl
  | cons p filled ih =>
    obtain ⟨slot, component⟩ := p
    cases component with
    | none => exact ih
    | some c => exact congrArg (some (.modelValidate c) :: ·) ih

theorem map_component_configurationSlots :
    ((configurationSlots assetType components).filter
        AssetConfigurationSlotResponse.isOccupied).map AssetConfigurationSlotResponse.component
      = (Filling.placed (matchSlots components (standardSlots assetType)).filled ++
          Filling.rest Component.id components
            (matchSlots components (standardSlots assetType)).used).map
        fun c => some (.modelValidate c) := by
  have hcustom : ∀ rest : List Component,
      ((rest.map customSlot).filter AssetConfigurationSlotResponse.isOccupied).map
        AssetConfigurationSlotResponse.component = rest.map fun c => some (.modelValidate c) := by
    intro rest
    rw [List.filter_eq_self.2 fun s hs => ?_, List.map_map]
    · rfl
    · obtain ⟨c, _, rfl⟩ := List.mem_map.1 hs
      rfl
  rw [configurationSlots, List.filter_append, List.map_append, map_component_filter_slotResponse,
    hcustom, List.map_append]

theorem occupied_perm (assetType : String) (hnodup : (components.map Component.id).Nodup) :
    (((configurationSlots assetType components).filter
        AssetConfigurationSlotResponse.isOccupied).map
        AssetConfigurationSlotResponse.component).Perm
      (components.map fun c => some (.modelValidate c)) := by
  rw [map_component_configurationSlots]
  exact ((filled_matchSlots components _).placed_append_rest_perm hnodup).map _

variable {s : AssetConfigurationSlotResponse}

theorem isOccupied_eq_isSome (hs : s ∈ configurationSlots assetType components) :
    s.isOccupied = s.component.isSome := by
  rcases List.mem_append.1 hs with hs | hs
  · obtain ⟨p, _, rfl⟩ := List.mem_map.1 hs
    rw [isOccupied_slotResponse, component_slotResponse, Option.isSome_map]
  · obtain ⟨c, _, rfl⟩ := List.mem_map.1 hs
    rfl

theorem filterMap_component_configurationSlots :
    (((configurationSlots assetType components).filter
        AssetConfigurationSlotResponse.isOccupied).map
        AssetConfigurationSlotResponse.component).filterMap id
      = (configurationSlots assetType components).filterMap
          AssetConfigurationSlotResponse.component := by
  rw [List.filterMap_map, List.filterMap_filter]
  refine List.filterMap_congr fun s hs => ?_
  rw [isOccupied_eq_isSome hs]
  cases hcomponent : s.component with
  | none => rfl
  | some c => exact hcomponent

theorem componentType_eq (hs : s ∈ configurationSlots assetType components)
    {c : AssetComponentResponse} (hc : s.component = some c) :
    s.componentType = c.componentType := by
  rcases List.mem_append.1 hs with hs | hs
  · obtain ⟨⟨slot, component⟩, hp, rfl⟩ := List.mem_map.1 hs
    cases component with
    | none => cases hc
    | some i =>
      cases hc
      exact (of_decide_eq_true ((filled_matchSlots components _).fits_of_some slot i hp)).symm
  · obtain ⟨i, _, rfl⟩ := List.mem_map.1 hs
    cases hc
    rfl

theorem map_slot_configurationSlots :
    (configurationSlots assetType components).map AssetConfigurationSlotResponse.slot
      = standardSlots assetType ++ (Filling.rest Component.id components
          (matchSlots components (standardSlots assetType)).used).map
        fun c => (customSlot c).slot := by
  have hstandard : (matchSlots components (standardSlots assetType)).filled.map
      (fun p => (slotResponse p).slot) = standardSlots assetType := by
    refine (List.map_congr_left fun p _ => slot_slotResponse p).trans ?_
    exact (filled_matchSlots components (standardSlots assetType)).map_fst
  rw [configurationSlots, List.map_append, List.map_map, List.map_map]
  exact congrArg (· ++ _) hstandard

theorem count_slot {slot : StandardSlot} (hslot : slot ∈ standardSlots assetType) :
    ((configurationSlots assetType components).map AssetConfigurationSlotResponse.slot).count slot
      = 1 := by
  rw [map_slot_configurationSlots, List.count_append,
    List.count_eq_one_of_mem (nodup_standardSlots assetType) hslot,
    List.count_eq_zero_of_not_mem fun h => ?_]
  obtain ⟨c, _, hc⟩ := List.mem_map.1 h
  exact slot_customSlot_notMem assetType c (hc ▸ hslot)

theorem exists_slot_of_empty (hnodup : (components.map Component.id).Nodup)
    (hs : s ∈ configurationSlots assetType components) (hempty : s.isOccupied = false)
    {c : Component} (hc : c ∈ components) (htype : c.componentType = s.componentType) :
    ∃ s' ∈ configurationSlots assetType components, s' ≠ s ∧ s'.slot ∈ standardSlots assetType ∧
      s'.component = some (.modelValidate c) := by
  have hfilled := filled_matchSlots components (standardSlots assetType)
  rcases List.mem_append.1 hs with hs | hs
  · obtain ⟨⟨slot, component⟩, hp, rfl⟩ := List.mem_map.1 hs
    cases component with
    | some i => cases hempty
    | none =>
      have hused := hfilled.used_of_none slot hp c hc (decide_eq_true htype)
      obtain ⟨slot', hp'⟩ := Filling.mem_placed.1 ((hfilled.mem_placed_iff hnodup hc).2 hused)
      refine ⟨slotResponse (slot', some c), List.mem_append_left _ (List.mem_map_of_mem hp'),
        fun h => ?_, ?_, rfl⟩
      · cases congrArg AssetConfigurationSlotResponse.isOccupied h
      · rw [slot_slotResponse, ← hfilled.map_fst]
        exact List.mem_map_of_mem hp'
  · obtain ⟨i, _, rfl⟩ := List.mem_map.1 hs
    cases hempty

theorem showsEach {installed : List Component} (asset : Asset) (detail : Option AircraftDetail)
    (hperm : components.Perm installed) (hnodup : (components.map Component.id).Nodup) :
    ShowsEach asset.assetType installed (configurationResponse asset components detail) := by
  have hoccupied := occupied_perm asset.assetType hnodup
  have hlength := hoccupied.length_eq
  rw [List.length_map, List.length_map] at hlength
  refine ⟨hoccupied.trans (hperm.map _), ?_, fun s hs c hc => componentType_eq hs hc, hlength,
    fun slot hslot => count_slot hslot, fun s hs hempty c hc htype =>
      exists_slot_of_empty hnodup hs hempty (hperm.mem_iff.2 hc) htype⟩
  have hcomponents := hoccupied.filterMap id
  rw [filterMap_component_configurationSlots, List.filterMap_map,
    show (id ∘ fun c : Component => some (AssetComponentResponse.modelValidate c))
      = some ∘ AssetComponentResponse.modelValidate from rfl, List.filterMap_eq_map] at hcomponents
  refine (hcomponents.map AssetComponentResponse.id).nodup_iff.2 ?_
  rw [List.map_map]
  exact hnodup

end Slots

theorem exists_specDetail (store : AircraftStore) (asset : Asset) :
    ∃ detail, specDetail store asset = .ok detail := by
  rw [specDetail]
  split
  · exact exists_scalarOneOrNone_of_key fun d _ hd => of_decide_eq_true hd
  · exact ⟨none, rfl⟩

/-- **THE CONFIGURATION SHOWS EACH COMPONENT ONCE**, whatever is installed on the asset. -/
theorem configuration_shows_each (collates : String → String → Bool) (store : AircraftStore)
    (org assetId : UUID) (asset : Asset) (hasset : store.db.getAsset org assetId = .ok asset) :
    ∃ r, getAssetConfiguration collates store org assetId = .ok r ∧
      ShowsEach asset.assetType (installedComponents store.db org asset.id) r := by
  obtain ⟨detail, hdetail⟩ := exists_specDetail store asset
  have hperm := List.mergeSort_perm (installedComponents store.db org asset.id) (inOrder collates)
  refine ⟨_, ?_, showsEach asset detail hperm ?_⟩
  · exact bind_eq_ok.2 ⟨asset, hasset, bind_eq_ok.2 ⟨detail, hdetail, rfl⟩⟩
  · exact (hperm.map Component.id).nodup_iff.2
      (store.db.components.nodup.sublist (List.filter_sublist.map _))

/-- A drone with two motors, one more than there are slots for, and a camera. -/
def twoMotors : AircraftStore where
  db :=
    { assets := Table.single { id := 3, organizationId := 1, assetType := AssetType.drone }
      components := ⟨[
        { id := 7, organizationId := 1, assetId := some 3, componentType := "MOTOR", name := "M2" },
        { id := 6, organizationId := 1, assetId := some 3, componentType := "MOTOR", name := "M1" },
        { id := 5, organizationId := 1, assetId := some 3, componentType := "CAMERA",
          name := "Nose" }], by decide⟩ }

theorem twoMotors_shows_each :
    ∃ r, getAssetConfiguration (· ≤ ·) twoMotors 1 3 = .ok r ∧
      ShowsEach AssetType.drone (installedComponents twoMotors.db 1 3) r :=
  configuration_shows_each (· ≤ ·) twoMotors 1 3
    { id := 3, organizationId := 1, assetType := AssetType.drone } rfl

end AssetService
end AeroComply
