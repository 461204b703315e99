import LicoMesh.WorkQueue.Serialization

namespace LicoMesh.UpstreamAudience

open WorkQueue

/-! Grants, the subjects built from them, and the upstream operations that they may use. -/

def uniqueStrings (values : List String) : List String :=
  ((values.map toText).filter (· ≠ "")).eraseDups

def normalizeGrantValues (values : List String) (limit : Nat) : List String :=
  (uniqueStrings values).take limit

structure EntityRef where
  entityType : String
  entityId : String
  deriving DecidableEq

structure GrantMetadata where
  subjectId : String := ""
  organizationId : String := ""
  teamId : String := ""
  roleId : String := ""
  maxRisk : String := ""
  entityRefs : Option (List EntityRef) := none
  capabilities : List String := []
  dynamicCapabilities : List String := []
  upstreamCapabilities : List String := []
  allowedServiceIds : List String := []
  allowedSecretBindings : List String := []

/-- `subjectRef` is the id of the grant's subject; a missing text is empty. -/
structure Grant where
  id : String
  revoked : Bool := false
  subjectId : String := ""
  subjectRef : String := ""
  organizationId : String := ""
  teamId : String := ""
  roleId : String := ""
  maxRisk : String := ""
  entityRefs : Option (List EntityRef) := none
  scopes : Option (List String) := none
  requiredScopes : Option (List String) := none
  toolsets : List String := []
  capabilities : List String := []
  dynamicCapabilities : List String := []
  upstreamCapabilities : List String := []
  allowedServiceIds : List String := []
  allowedSecretBindings : List String := []
  metadata : GrantMetadata := {}

def grantScopeSet (grant : Grant) : List String :=
  uniqueStrings ((grant.scopes <|> grant.requiredScopes).getD [])

def grantToolsetSet (grant : Grant) : List String := uniqueStrings grant.toolsets

def grantCapabilitySet (grant : Grant) : List String :=
  uniqueStrings (grant.capabilities ++ grant.dynamicCapabilities ++ grant.upstreamCapabilities ++
    grant.metadata.capabilities ++ grant.metadata.dynamicCapabilities ++
    grant.metadata.upstreamCapabilities)

def grantAllowedServiceIds (grant : Grant) : List String :=
  uniqueStrings (grant.allowedServiceIds ++ grant.metadata.allowedServiceIds)

def grantAllowedSecretBindings (grant : Grant) : List String :=
  uniqueStrings (grant.allowedSecretBindings ++ grant.metadata.allowedSecretBindings)

def riskRank (risk : String) : Nat :=
  let risk := toText risk
  if risk = "safe_write" then 1
  else if risk = "repair_write" then 2
  else if risk = "destructive" then 3
  else 0

def grantMaxRisk (grant : Grant) : String :=
  let explicit := toText (firstText [grant.maxRisk, grant.metadata.maxRisk])
  if explicit ≠ "" then explicit
  else if "gateway:write" ∈ grantScopeSet grant then "safe_write"
  else "read_only"

/-- A caller; authority that it declares itself comes before that of its grant. -/
structure Subject where
  type : String
  subjectId : String
  grant : Option Grant := none
  roleId : String := ""
  role : String := ""
  organizationNodeId : String := ""
  organizationId : String := ""
  teamId : String := ""
  scopes : List String := []
  dynamicCapabilities : Option (List String) := none
  capabilities : Option (List String) := none
  upstreamCapabilities : Option (List String) := none
  allowedServiceIds : Option (List String) := none
  allowedSecretBindings : Option (List String) := none

def mcpSubjectFromGrant (grant : Grant) : Subject :=
  let metadata := grant.metadata
  let dynamicCapabilities := normalizeGrantValues (grant.dynamicCapabilities ++
    grant.upstreamCapabilities ++ grant.capabilities ++ metadata.dynamicCapabilities ++
    metadata.upstreamCapabilities ++ metadata.capabilities) 512
  let allowedServiceIds :=
    normalizeGrantValues (grant.allowedServiceIds ++ metadata.allowedServiceIds) 512
  let allowedSecretBindings :=
    normalizeGrantValues (grant.allowedSecretBindings ++ metadata.allowedSecretBindings) 512
  let subjectId := firstText [grant.subjectId, grant.subjectRef, grant.id]
  { type := "tool-grant"
    subjectId := subjectId
    grant := some {
      id := grant.id
      subjectId := subjectId
      dynamicCapabilities := dynamicCapabilities
      allowedServiceIds := allowedServiceIds
      allowedSecretBindings := allowedSecretBindings }
    scopes := normalizeGrantValues (grant.scopes.getD []) 512
    dynamicCapabilities := some dynamicCapabilities
    allowedServiceIds := some allowedServiceIds
    allowedSecretBindings := some allowedSecretBindings }

def operationSubject (grant : Grant) : Subject :=
  let subject := mcpSubjectFromGrant grant
  { subject with roleId := (if subject.subjectId ≠ "" then "tool-grant" else "") }

/-- The text functions of the gateway that the model leaves open: the digest of a credential
reference. -/
structure AudienceEnv where
  hash : String → String

structure TagPolicy where
  entityRefs : List EntityRef
  denyTags : List String
  allowTags : List String
  requiredTags : List String
  policyRevision : Nat
  failOnStale : Bool
  requireFreshRevision : Bool

/-- A service as `normalizeService` leaves it: a tag policy has the entity of the service when it
names none. -/
structure Service where
  serviceId : String
  disabled : Bool := false
  credentialRefs : List String := []
  tagPolicy : Option TagPolicy := none
  named : serviceId ≠ "" ∧ toText serviceId = serviceId
  tagged : ∀ policy, tagPolicy = some policy → policy.entityRefs ≠ [] ∧ ∀ ref ∈ policy.entityRefs,
      ref.entityType ≠ "" ∧ ref.entityId ≠ "" ∧
        toText ref.entityType = ref.entityType ∧ toText ref.entityId = ref.entityId

/-- A configured operation as `normalizeOperation` leaves it. -/
structure Operation where
  operationKey : String
  risk : String
  requiredScopes : List String
  normalized : ∀ scope ∈ requiredScopes, scope ≠ "" ∧ toText scope = scope

structure Capability where
  capabilityId : String
  serviceId : String
  risk : String
  requiredScopes : List String
  credentialBindingIds : List String

def isSegmentChar (c : Char) : Bool := c.isAlphanum || c = '_' || c = '-'

def replaceRuns : List Char → List Char
  | [] => []
  | c :: rest =>
    if isSegmentChar c then c :: replaceRuns rest
    else match replaceRuns rest, rest with
      | replaced, next :: _ => if isSegmentChar next then '-' :: replaced else replaced
      | replaced, [] => '-' :: replaced

def safePublicToolSegment (value : String) : String :=
  let chars := replaceRuns (toText value).toList
  let stripped := ((chars.dropWhile (· = '-')).reverse.dropWhile (· = '-')).reverse
  let segment := String.ofList (stripped.take 80)
  if segment = "" then "service" else segment

def normalizeRisk (value : String) : String :=
  let risk := toText (if value = "" then "safe_write" else value)
  if risk ∈ ["read_only", "safe_write", "repair_write", "destructive"] then risk else "safe_write"

def upstreamOperationCapabilityId (service : Service) (operation : Operation) : String :=
  "cap:upstream:" ++ safePublicToolSegment service.serviceId ++ ":" ++
    safePublicToolSegment
      (if operation.operationKey = "" then "default" else operation.operationKey)

def compileUpstreamOperationCapability (env : AudienceEnv) (service : Service)
    (operation : Operation) : Capability where
  capabilityId := upstreamOperationCapabilityId service operation
  serviceId := toText service.serviceId
  risk := normalizeRisk operation.risk
  requiredScopes := uniqueStrings operation.requiredScopes
  credentialBindingIds :=
    uniqueStrings (service.credentialRefs.map fun ref => "credential:" ++ env.hash ref)

end LicoMesh.UpstreamAudience
