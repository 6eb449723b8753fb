import AeroComply.Core.Text

/-!
# LifecyclePolicy — which entities can be deleted, and how

The registry of `app/core/lifecycle_policy.py`, as far as the queue of deleted records asks it: the
category of an entity, whether its records are kept for good, and whose policy it goes by.
-/

namespace AeroComply
namespace LifecyclePolicy

inductive LifecycleCategory
  | softDeleteRestore
  | archiveStatus
  | retentionProtected
  | dependencyControlled
  | unresolved
  | notApplicable
  deriving DecidableEq, Repr

structure EntityLifecyclePolicy where
  category : LifecycleCategory
  retentionProtected : Bool
  inheritsLifecycleFrom : Option String := none

def assetDerived : EntityLifecyclePolicy := ⟨.softDeleteRestore, false, some "ASSET"⟩

/-- A record that is kept for good. -/
def retained : EntityLifecyclePolicy := ⟨.retentionProtected, true, none⟩

def entityLifecyclePolicies : List (String × EntityLifecyclePolicy) :=
  [("ORGANIZATION", ⟨.softDeleteRestore, false, none⟩),
   ("ASSET", ⟨.softDeleteRestore, false, none⟩),
   ("AIRCRAFT", assetDerived),
   ("DRONE", assetDerived),
   ("HELICOPTER", assetDerived),
   ("EVTOL", assetDerived),
   ("USER", ⟨.archiveStatus, true, none⟩),
   ("COMPONENT", ⟨.archiveStatus, true, none⟩),
   ("BATTERY", ⟨.archiveStatus, true, none⟩),
   ("WORKORDER", ⟨.softDeleteRestore, false, none⟩),
   ("VENDOR", ⟨.softDeleteRestore, false, none⟩),
   ("FACILITY", ⟨.unresolved, false, none⟩),
   ("FLIGHT", retained),
   ("INSPECTIONREQUIREMENT", retained),
   ("COMPLIANCEASSESSMENT", retained),
   ("MAINTENANCEACCOMPLISHMENT", retained),
   ("FINDING", retained),
   ("EVIDENCE", retained),
   ("EVIDENCEFILE", retained),
   ("DEFERREDITEM", retained),
   ("REGULATORYDOCUMENT", retained),
   ("MISSION", ⟨.archiveStatus, false, none⟩),
   ("AOGEVENT", ⟨.archiveStatus, false, none⟩),
   ("AOGBLOCKER", ⟨.archiveStatus, false, some "AOGEVENT"⟩),
   ("APPROVALREQUEST", retained),
   ("PART", ⟨.dependencyControlled, false, none⟩),
   ("PURCHASEORDER", ⟨.dependencyControlled, false, none⟩),
   ("PROCUREMENTREQUEST", ⟨.dependencyControlled, false, none⟩),
   ("TECHNICIANQUALIFICATION", retained),
   ("TASK", ⟨.softDeleteRestore, false, some "WORKORDER"⟩),
   ("IMPORTJOB", retained),
   ("INVENTORYTRANSACTION", retained),
   ("INSTALLATIONHISTORY", retained),
   ("LISACONVERSATIONCONTEXT", ⟨.archiveStatus, false, none⟩),
   ("AUDITEVENT", retained),
   ("USERROLE", ⟨.notApplicable, false, none⟩),
   ("TENANTFEATUREOVERRIDE", ⟨.notApplicable, false, none⟩),
   ("TENANTUSAGELIMIT", ⟨.notApplicable, false, none⟩),
   ("VENDORPARTAVAILABILITY", ⟨.notApplicable, false, none⟩),
   ("PARTREQUIREMENT", ⟨.softDeleteRestore, false, some "WORKORDER"⟩),
   ("CONFIGURATIONS", ⟨.notApplicable, false, none⟩)]

variable (u : UnicodeTables)

/-- `entity_type.upper()`. -/
def upper (entityType : String) : String := String.ofList (u.upperText entityType.toList)

def getPolicy (entityType : String) : Option EntityLifecyclePolicy :=
  entityLifecyclePolicies.lookup (upper u entityType)

/-- `resolve_policy`, over at most so many inheritances. -/
def resolvePolicyWithin : Nat → String → Except Error EntityLifecyclePolicy
  | 0, _ => .error .assertionError
  | depth + 1, entityType =>
    match getPolicy u entityType with
    | none =>
      .error (.notFound ("No lifecycle policy registered for entity type " ++ pyRepr entityType))
    | some policy =>
      match policy.inheritsLifecycleFrom with
      | some parent => resolvePolicyWithin depth parent
      | none => .ok policy

/-- `resolve_policy`: there are no longer chains than the registry. -/
def resolvePolicy (entityType : String) : Except Error EntityLifecyclePolicy :=
  resolvePolicyWithin u entityLifecyclePolicies.length entityType

def assertVisibleInDeletionQueue (entityType : String) : Except Error EntityLifecyclePolicy := do
  let policy ← resolvePolicy u entityType
  raiseIf (policy.retentionProtected = true ∨ policy.category = .retentionProtected)
    (.forbidden (entityType ++ " is retention-protected and can never appear in the deletion queue")
      "retention_protected")
  pure policy

theorem inheritance_ends : ∀ entry ∈ entityLifecyclePolicies,
    ∀ parent ∈ entry.2.inheritsLifecycleFrom,
      ∃ policy, entityLifecyclePolicies.lookup parent = some policy ∧
        policy.inheritsLifecycleFrom = none := by
  decide

theorem resolvePolicyWithin_eq (hupper : ∀ entry ∈ entityLifecyclePolicies,
    ∀ parent ∈ entry.2.inheritsLifecycleFrom, upper u parent = parent) (depth : Nat)
    (entityType : String) :
    resolvePolicyWithin u (depth + 2) entityType = resolvePolicyWithin u 2 entityType := by
  rw [resolvePolicyWithin, resolvePolicyWithin]
  cases hpolicy : getPolicy u entityType with
  | none => rfl
  | some policy =>
    dsimp only
    cases hparent : policy.inheritsLifecycleFrom with
    | none => rfl
    | some parent =>
      obtain ⟨before, after, hentries, -⟩ := List.lookup_eq_some_iff.1 hpolicy
      have hmem : (upper u entityType, policy) ∈ entityLifecyclePolicies :=
        hentries ▸ List.mem_append_right _ List.mem_cons_self
      obtain ⟨last, hlast, hends⟩ := inheritance_ends _ hmem parent hparent
      have hget : getPolicy u parent = some last := by
        rw [getPolicy, hupper _ hmem parent hparent]
        exact hlast
      simp only [resolvePolicyWithin, hget, hends]

end LifecyclePolicy
end AeroComply
