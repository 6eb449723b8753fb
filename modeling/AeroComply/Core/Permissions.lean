/-!
# Permissions — the role table

`app/core/permissions.py`.  Callers present role names; a name that is no role
grants nothing.
-/

namespace AeroComply

inductive Permission
  | aircraftRead
  | aircraftWrite
  | regulationRead
  | regulationWrite
  | regulationIngest
  | complianceAssess
  | complianceDecide
  | evidenceRead
  | evidenceWrite
  | inspectionRead
  | inspectionWrite
  | userManage
  | orgManage
  | auditRead
  | partRead
  | partWrite
  | vendorRead
  | vendorWrite
  | procurementRead
  | procurementWrite
  | procurementApprove
  | technicianRead
  | technicianWrite
  | assessmentRead
  | assessmentWrite
  | facilityRead
  | facilityWrite
  | droneRead
  | droneWrite
  | platformManage
  | platformEntitlementOverride
  | dataRestore
  | dataPermanentDelete
  deriving DecidableEq, Repr

/-- `Permission.value`. -/
def Permission.value : Permission → String
  | .aircraftRead => "aircraft:read"
  | .aircraftWrite => "aircraft:write"
  | .regulationRead => "regulation:read"
  | .regulationWrite => "regulation:write"
  | .regulationIngest => "regulation:ingest"
  | .complianceAssess => "compliance:assess"
  | .complianceDecide => "compliance:decide"
  | .evidenceRead => "evidence:read"
  | .evidenceWrite => "evidence:upload"
  | .inspectionRead => "inspection:read"
  | .inspectionWrite => "inspection:write"
  | .userManage => "user:manage"
  | .orgManage => "org:manage"
  | .auditRead => "audit:read"
  | .partRead => "part:read"
  | .partWrite => "part:write"
  | .vendorRead => "vendor:read"
  | .vendorWrite => "vendor:write"
  | .procurementRead => "procurement:read"
  | .procurementWrite => "procurement:write"
  | .procurementApprove => "procurement:approve"
  | .technicianRead => "technician:read"
  | .technicianWrite => "technician:write"
  | .assessmentRead => "assessment:read"
  | .assessmentWrite => "assessment:write"
  | .facilityRead => "facility:read"
  | .facilityWrite => "facility:write"
  | .droneRead => "drone:read"
  | .droneWrite => "drone:write"
  | .platformManage => "platform:manage"
  | .platformEntitlementOverride => "platform:entitlement_override"
  | .dataRestore => "data:restore"
  | .dataPermanentDelete => "data:permanent_delete"

/-- `set(Permission)`. -/
def Permission.all : List Permission :=
  [.aircraftRead, .aircraftWrite, .regulationRead, .regulationWrite, .regulationIngest,
   .complianceAssess, .complianceDecide, .evidenceRead, .evidenceWrite, .inspectionRead,
   .inspectionWrite, .userManage, .orgManage, .auditRead, .partRead, .partWrite, .vendorRead,
   .vendorWrite, .procurementRead, .procurementWrite, .procurementApprove, .technicianRead,
   .technicianWrite, .assessmentRead, .assessmentWrite, .facilityRead, .facilityWrite, .droneRead,
   .droneWrite, .platformManage, .platformEntitlementOverride, .dataRestore, .dataPermanentDelete]

inductive Role
  | superAdmin
  | orgAdmin
  | complianceManager
  | camoManager
  | qualityManager
  | maintenanceEngineer
  | viewer
  | platformAdmin
  | platformStaff
  deriving DecidableEq, Repr

/-- `Role(role_name)`, which fails on a name that is no role. -/
def Role.ofName? (roleName : String) : Option Role :=
  if roleName = "SUPER_ADMIN" then some .superAdmin
  else if roleName = "ORG_ADMIN" then some .orgAdmin
  else if roleName = "COMPLIANCE_MANAGER" then some .complianceManager
  else if roleName = "CAMO_MANAGER" then some .camoManager
  else if roleName = "QUALITY_MANAGER" then some .qualityManager
  else if roleName = "MAINTENANCE_ENGINEER" then some .maintenanceEngineer
  else if roleName = "VIEWER" then some .viewer
  else if roleName = "PLATFORM_ADMIN" then some .platformAdmin
  else if roleName = "PLATFORM_STAFF" then some .platformStaff
  else none

def rolePermissions : Role → List Permission
  | .superAdmin => Permission.all
  | .orgAdmin =>
    [.aircraftRead, .aircraftWrite, .regulationRead, .complianceAssess, .complianceDecide,
     .evidenceRead, .evidenceWrite, .inspectionRead, .inspectionWrite, .userManage, .orgManage,
     .auditRead, .partRead, .partWrite, .vendorRead, .vendorWrite, .procurementRead,
     .procurementWrite, .procurementApprove, .technicianRead, .technicianWrite, .assessmentRead,
     .assessmentWrite, .facilityRead, .facilityWrite, .droneRead, .droneWrite]
  | .complianceManager =>
    [.aircraftRead, .regulationRead, .regulationWrite, .regulationIngest, .complianceAssess,
     .complianceDecide, .evidenceRead, .evidenceWrite, .inspectionRead, .inspectionWrite,
     .auditRead, .partRead, .vendorRead, .procurementRead, .technicianRead, .assessmentRead,
     .assessmentWrite, .facilityRead, .droneRead]
  | .camoManager =>
    [.aircraftRead, .aircraftWrite, .regulationRead, .complianceAssess, .complianceDecide,
     .evidenceRead, .evidenceWrite, .inspectionRead, .inspectionWrite, .partRead, .partWrite,
     .vendorRead, .vendorWrite, .procurementRead, .procurementWrite, .procurementApprove,
     .technicianRead, .technicianWrite, .assessmentRead, .assessmentWrite, .facilityRead,
     .facilityWrite, .droneRead, .droneWrite]
  | .qualityManager =>
    [.aircraftRead, .regulationRead, .complianceAssess, .evidenceRead, .inspectionRead,
     .inspectionWrite, .auditRead, .partRead, .vendorRead, .procurementRead, .technicianRead,
     .assessmentRead, .assessmentWrite, .facilityRead, .droneRead]
  | .maintenanceEngineer =>
    [.aircraftRead, .regulationRead, .evidenceRead, .evidenceWrite, .inspectionRead, .partRead,
     .vendorRead, .procurementRead, .procurementWrite, .technicianRead, .technicianWrite,
     .assessmentRead, .facilityRead, .droneRead]
  | .viewer =>
    [.aircraftRead, .regulationRead, .evidenceRead, .inspectionRead, .facilityRead, .droneRead,
     .partRead, .vendorRead, .procurementRead, .technicianRead, .assessmentRead]
  | .platformAdmin =>
    [.platformManage, .platformEntitlementOverride, .dataRestore, .dataPermanentDelete]
  | .platformStaff =>
    [.platformManage, .dataRestore]

def permissionsForRoles (roles : List String) : List Permission :=
  roles.flatMap fun roleName =>
    match Role.ofName? roleName with
    | some role => rolePermissions role
    | none => []

end AeroComply
