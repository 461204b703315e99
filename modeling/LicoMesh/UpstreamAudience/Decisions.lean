import LicoMesh.UpstreamAudience.Grants

namespace LicoMesh.UpstreamAudience

open WorkQueue

structure TagStore where
  revision : Nat
  effectiveTags : EntityRef → List String

inductive TagReason
  | tagStoreUnavailable
  | tagPolicyDenied
  | tagPolicyStale
  | tagPolicyRequiredTagMissing
  | tagPolicyAllowTagMissing
  | tagPolicyAllowed
  deriving DecidableEq

structure TagDecision where
  allowed : Bool
  reasonCode : TagReason
  stale : Bool

def normalizeEntityRefs (refs : List EntityRef) : List EntityRef :=
  (refs.map fun ref => ⟨toText ref.entityType, toText ref.entityId⟩).filter fun ref =>
    ref.entityType ≠ "" && ref.entityId ≠ ""

def hasUniversalTagPolicyRules (policy : TagPolicy) : Bool :=
  !(normalizeEntityRefs policy.entityRefs).isEmpty || !(uniqueStrings policy.denyTags).isEmpty ||
    !(uniqueStrings policy.allowTags).isEmpty || !(uniqueStrings policy.requiredTags).isEmpty ||
    policy.requireFreshRevision || policy.failOnStale

def effectiveTagSet (store : TagStore) (refs : List EntityRef) : List String :=
  refs.flatMap store.effectiveTags

def evaluateUniversalTagPolicy (tagStore : Option TagStore) (policy : TagPolicy)
    (entityRefs : List EntityRef) : TagDecision :=
  match tagStore with
  | none => ⟨false, .tagStoreUnavailable, true⟩
  | some store =>
    let stale := 0 < policy.policyRevision && policy.policyRevision < store.revision
    let tags := effectiveTagSet store (normalizeEntityRefs entityRefs)
    let allowTags := uniqueStrings policy.allowTags
    if (uniqueStrings policy.denyTags).any (· ∈ tags) then ⟨false, .tagPolicyDenied, stale⟩
    else if (policy.failOnStale || policy.requireFreshRevision) && stale then
      ⟨false, .tagPolicyStale, stale⟩
    else if (uniqueStrings policy.requiredTags).any (· ∉ tags) then
      ⟨false, .tagPolicyRequiredTagMissing, stale⟩
    else if !allowTags.isEmpty && !allowTags.any (· ∈ tags) then
      ⟨false, .tagPolicyAllowTagMissing, stale⟩
    else ⟨true, .tagPolicyAllowed, stale⟩

inductive AudienceReason
  | grantUnavailable
  | serviceDisabled
  | serviceNotGranted
  | capabilityMissing
  | scopeMissing
  | toolsetMissing
  | riskExceeded
  | credentialBindingMissing
  | entityRefsRequired
  | tagPolicy (reason : TagReason)
  | allowed
  deriving DecidableEq

structure AudienceDecision where
  allowed : Bool
  reasonCode : AudienceReason

/-- An operation as `compileUpstreamOperationProjection` projects it; only the tools of a remote
protocol server are `upstreamMcp`. -/
structure AudienceOperation where
  requiredScopes : List String
  toolsets : List String
  upstreamMcp : Bool
  dynamicCapability : Capability

def projectedToolsets (capability : Capability) : List String :=
  if capability.risk = "read_only" then ["meshrix.gateway.read"]
  else if capability.risk = "repair_write" || capability.risk = "destructive" then
    ["meshrix.gateway.maintain"]
  else ["meshrix.gateway.write"]

def projectedOperation (env : AudienceEnv) (service : Service) (operation : Operation) :
    AudienceOperation :=
  let dynamicCapability := compileUpstreamOperationCapability env service operation
  { requiredScopes := dynamicCapability.requiredScopes
    toolsets := projectedToolsets dynamicCapability
    upstreamMcp := false
    dynamicCapability := dynamicCapability }

def grantEntityRefs (grant : Grant) (subject : Option Subject) : List EntityRef :=
  let metadata := grant.metadata
  let explicit := (grant.entityRefs <|> metadata.entityRefs).getD []
  if explicit ≠ [] then normalizeEntityRefs explicit
  else
    let caller (field : Subject → String) : String := ((subject.map field).getD "")
    let subjectId := toText (firstText [caller (·.subjectId), grant.subjectId, metadata.subjectId])
    let organizationId := toText (firstText [caller (·.organizationNodeId),
      caller (·.organizationId), grant.organizationId, metadata.organizationId])
    let teamId := toText (firstText [grant.teamId, metadata.teamId])
    let roleId := toText (firstText [grant.roleId, metadata.roleId])
    [⟨"subject", subjectId⟩, ⟨"organization", organizationId⟩, ⟨"team", teamId⟩,
      ⟨"role", roleId⟩].filter fun ref : EntityRef => ref.entityId ≠ ""

def audienceTagDecision (grant : Grant) (subject : Option Subject) (tagStore : Option TagStore)
    (policy : TagPolicy) : AudienceDecision :=
  if !hasUniversalTagPolicyRules policy then ⟨true, .allowed⟩
  else
    let entityRefs := grantEntityRefs grant subject
    if entityRefs.isEmpty && policy.entityRefs.isEmpty then ⟨false, .entityRefsRequired⟩
    else
      let decision := evaluateUniversalTagPolicy tagStore policy
        (if entityRefs.isEmpty then policy.entityRefs else entityRefs)
      if decision.allowed then ⟨true, .allowed⟩ else ⟨false, .tagPolicy decision.reasonCode⟩

def evaluateAudienceDecision (grant : Grant) (subject : Option Subject)
    (operation : AudienceOperation) (service : Service) (tagStore : Option TagStore) :
    AudienceDecision :=
  let serviceId := toText service.serviceId
  let allowedServices := grantAllowedServiceIds grant
  let capability := operation.dynamicCapability
  let capabilityId := toText capability.capabilityId
  let capabilities := grantCapabilitySet grant
  let toolsets := uniqueStrings operation.toolsets
  let grantToolsets := grantToolsetSet grant
  let allowedBindings := grantAllowedSecretBindings grant
  if grant.revoked then ⟨false, .grantUnavailable⟩
  else if service.disabled then ⟨false, .serviceDisabled⟩
  else if !allowedServices.isEmpty && serviceId ≠ "" && serviceId ∉ allowedServices then
    ⟨false, .serviceNotGranted⟩
  else if capabilityId ≠ "" && operation.upstreamMcp && capabilityId ∉ capabilities then
    ⟨false, .capabilityMissing⟩
  else if (uniqueStrings operation.requiredScopes).any (· ∉ grantScopeSet grant) then
    ⟨false, .scopeMissing⟩
  else if !grantToolsets.isEmpty && !toolsets.isEmpty && !toolsets.any (· ∈ grantToolsets) then
    ⟨false, .toolsetMissing⟩
  else if riskRank (grantMaxRisk grant) < riskRank capability.risk then ⟨false, .riskExceeded⟩
  else if (uniqueStrings capability.credentialBindingIds).any fun bindingId =>
      bindingId ∉ allowedBindings &&
        !(capabilityId ≠ "" && capabilityId ++ ":" ++ bindingId ∈ capabilities) then
    ⟨false, .credentialBindingMissing⟩
  else match service.tagPolicy with
    | none => ⟨true, .allowed⟩
    | some policy => audienceTagDecision grant subject tagStore policy

inductive AuthorizationReason
  | notToolGrant
  | missingDynamicUpstreamCapability
  | upstreamServiceBindingDenied
  | upstreamCredentialBindingDenied
  | dynamicUpstreamCapabilityAllowed

structure DynamicAuthorization where
  allowed : Bool
  reasonCode : AuthorizationReason

def stringSet (values : List String) : List String := uniqueStrings values

def governedSubjectCapabilitySet (subject : Subject) : List String :=
  if subject.dynamicCapabilities.isSome || subject.capabilities.isSome ||
      subject.upstreamCapabilities.isSome then
    stringSet (subject.dynamicCapabilities.getD [] ++ subject.capabilities.getD [] ++
      subject.upstreamCapabilities.getD [])
  else match subject.grant with
    | none => []
    | some grant =>
      stringSet (grant.dynamicCapabilities ++ grant.capabilities ++ grant.upstreamCapabilities ++
        grant.metadata.dynamicCapabilities ++ grant.metadata.capabilities ++
        grant.metadata.upstreamCapabilities)

def governedSubjectAllowedServiceIds (subject : Subject) : List String :=
  match subject.allowedServiceIds, subject.grant with
  | some serviceIds, _ => stringSet serviceIds
  | none, none => []
  | none, some grant => stringSet (grant.allowedServiceIds ++ grant.metadata.allowedServiceIds)

def governedSubjectAllowedSecretBindings (subject : Subject) : List String :=
  match subject.allowedSecretBindings, subject.grant with
  | some bindings, _ => stringSet bindings
  | none, none => []
  | none, some grant =>
    stringSet (grant.allowedSecretBindings ++ grant.metadata.allowedSecretBindings)

def evaluateDynamicOperationAuthorization (subject : Subject) (descriptor : Capability) :
    DynamicAuthorization :=
  let subjectType := toText subject.type
  let capabilityId := toText descriptor.capabilityId
  let capabilities := governedSubjectCapabilitySet subject
  let allowedServiceIds := governedSubjectAllowedServiceIds subject
  let allowedSecretBindings := governedSubjectAllowedSecretBindings subject
  if subjectType ≠ "tool-grant" && subjectType ≠ "scoped-api-key" then ⟨true, .notToolGrant⟩
  else if capabilityId = "" || capabilityId ∉ capabilities then
    ⟨false, .missingDynamicUpstreamCapability⟩
  else if !allowedServiceIds.isEmpty && descriptor.serviceId ∉ allowedServiceIds then
    ⟨false, .upstreamServiceBindingDenied⟩
  else if ((descriptor.credentialBindingIds.map toText).filter (· ≠ "")).any fun bindingId =>
      bindingId ∉ allowedSecretBindings && capabilityId ++ ":" ++ bindingId ∉ capabilities then
    ⟨false, .upstreamCredentialBindingDenied⟩
  else ⟨true, .dynamicUpstreamCapabilityAllowed⟩

def uniqueEntityRefs (refs : List EntityRef) : List EntityRef :=
  (normalizeEntityRefs refs).eraseDups

def subjectEntityRefs (subject : Subject) : List EntityRef :=
  let callerSubjectId := toText subject.subjectId
  let organizationId := firstText [subject.organizationNodeId, subject.organizationId]
  [⟨"subject", callerSubjectId⟩, ⟨"organization", organizationId⟩, ⟨"team", subject.teamId⟩,
    ⟨"role", subject.roleId⟩].filter fun ref : EntityRef => ref.entityId ≠ ""

def evaluateServiceTagPolicy (service : Service) (subject : Subject)
    (tagStore : Option TagStore) : TagDecision :=
  match service.tagPolicy with
  | none => ⟨true, .tagPolicyAllowed, false⟩
  | some policy =>
    if !hasUniversalTagPolicyRules policy then ⟨true, .tagPolicyAllowed, false⟩
    else evaluateUniversalTagPolicy tagStore policy
      (uniqueEntityRefs (subjectEntityRefs subject ++ policy.entityRefs))

structure Preview where
  allowed : Bool
  disabled : Bool
  missingScopes : List String
  tagPolicy : TagDecision
  dynamicAuthorization : DynamicAuthorization

def ADMIN_SCOPES : List String := ["auth:admin", "runtime:admin", "gateway:admin"]

/-- `traffic` is whether an endpoint may be selected. -/
def previewFor (env : AudienceEnv) (service : Service) (operation : Operation) (subject : Subject)
    (tagStore : Option TagStore) (traffic : Bool) : Preview :=
  let subjectScopes := subject.scopes.map toText
  let roleId := toText (firstText [subject.roleId, subject.role])
  let bypass := roleId ∈ ["owner", "admin"] || ADMIN_SCOPES.any (· ∈ subjectScopes)
  let missingScopes :=
    if bypass then [] else operation.requiredScopes.filter (· ∉ subjectScopes)
  let tagPolicy := evaluateServiceTagPolicy service subject tagStore
  let dynamicAuthorization := evaluateDynamicOperationAuthorization subject
    (compileUpstreamOperationCapability env service operation)
  { allowed := !service.disabled && missingScopes.isEmpty && traffic && tagPolicy.allowed &&
      dynamicAuthorization.allowed
    disabled := service.disabled
    missingScopes := missingScopes
    tagPolicy := tagPolicy
    dynamicAuthorization := dynamicAuthorization }

end LicoMesh.UpstreamAudience
