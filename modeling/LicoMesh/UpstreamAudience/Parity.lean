import LicoMesh.UpstreamAudience.Decisions

namespace LicoMesh.UpstreamAudience

open List

open WorkQueue

variable {policy : TagPolicy} {values : List String} {value : String}

def Normalized (values : List String) : Prop := ∀ value ∈ values, value ≠ "" ∧ toText value = value

theorem mem_uniqueStrings :
    value ∈ uniqueStrings values ↔ value ≠ "" ∧ ∃ raw ∈ values, toText raw = value := by
  unfold uniqueStrings
  rw [mem_eraseDups, mem_filter, mem_map, decide_eq_true_eq, and_comm]

theorem normalized_uniqueStrings (values : List String) : Normalized (uniqueStrings values) := by
  intro value member
  obtain ⟨nonempty, raw, _, rfl⟩ := mem_uniqueStrings.mp member
  exact ⟨nonempty, toText_toText raw⟩

theorem normalized_normalizeGrantValues (values : List String) (limit : Nat) :
    Normalized (normalizeGrantValues values limit) :=
  fun value member => normalized_uniqueStrings values value (mem_of_mem_take member)

theorem mem_normalizeGrantValues
    (member : value ∈ normalizeGrantValues values limit) : value ∈ uniqueStrings values :=
  mem_of_mem_take member

variable (normalized : Normalized values)
include normalized

theorem Normalized.mem_uniqueStrings : value ∈ uniqueStrings values ↔ value ∈ values := by
  rw [UpstreamAudience.mem_uniqueStrings]
  constructor
  · rintro ⟨_, raw, member, rfl⟩
    rw [(normalized raw member).2]
    exact member
  · exact fun member => ⟨(normalized value member).1, value, member, (normalized value member).2⟩

theorem Normalized.mem_map : value ∈ values.map toText ↔ value ∈ values := by
  have same : values.map toText = values :=
    (map_congr_left fun raw member => (normalized raw member).2).trans (map_id _)
  rw [same]

theorem Normalized.uniqueStrings_eq_nil : uniqueStrings values = [] ↔ values = [] := by
  rw [eq_nil_iff_forall_not_mem, eq_nil_iff_forall_not_mem]
  exact forall_congr' fun value => not_congr normalized.mem_uniqueStrings

omit normalized

theorem toText_ne_empty (starts : text.toList = c :: rest)
    (visible : isTrimmedSpace c = false) : toText text ≠ "" := by
  intro empty
  have chars : trimChars text.toList = [] := by
    have lists := congrArg String.toList empty
    unfold toText at lists
    rw [String.toList_ofList] at lists
    exact lists
  unfold trimChars at chars
  rw [starts, dropWhile_cons_of_neg (by rw [visible]; exact Bool.false_ne_true),
    reverse_eq_nil_iff, dropWhile_eq_nil_iff] at chars
  have space := chars c (mem_reverse.mpr mem_cons_self)
  rw [visible] at space
  cases space

variable {env : AudienceEnv} {grant : Grant} {service : Service} {operation : Operation}
  {tagStore : Option TagStore} {subject : Subject}

theorem capabilityId_ne_empty (service : Service) (operation : Operation) :
    toText (upstreamOperationCapabilityId service operation) ≠ "" := by
  have starts : (upstreamOperationCapabilityId service operation).toList =
      'c' :: ("ap:upstream:" ++ safePublicToolSegment service.serviceId ++ ":" ++
        safePublicToolSegment (if operation.operationKey = "" then "default"
          else operation.operationKey)).toList := by
    unfold upstreamOperationCapabilityId
    simp only [String.toList_append]
    rfl
  exact toText_ne_empty starts (by decide)

def keptCapabilities (grant : Grant) : List String :=
  normalizeGrantValues (grant.dynamicCapabilities ++ grant.upstreamCapabilities ++
    grant.capabilities ++ grant.metadata.dynamicCapabilities ++
    grant.metadata.upstreamCapabilities ++ grant.metadata.capabilities) 512

def keptServiceIds (grant : Grant) : List String :=
  normalizeGrantValues (grant.allowedServiceIds ++ grant.metadata.allowedServiceIds) 512

def keptSecretBindings (grant : Grant) : List String :=
  normalizeGrantValues (grant.allowedSecretBindings ++ grant.metadata.allowedSecretBindings) 512

def keptScopes (grant : Grant) : List String := normalizeGrantValues (grant.scopes.getD []) 512

def ServiceGranted (serviceIds : List String) (service : Service) : Prop :=
  serviceIds = [] ∨ service.serviceId ∈ serviceIds

def ScopesHeld (scopes : List String) (operation : Operation) : Prop :=
  ∀ scope ∈ operation.requiredScopes, scope ∈ scopes

def CredentialsBound (bindings capabilities : List String) (capability : Capability) : Prop :=
  ∀ bindingId ∈ uniqueStrings capability.credentialBindingIds, bindingId ∈ bindings ∨
    toText capability.capabilityId ++ ":" ++ bindingId ∈ capabilities

def ToolsetHeld (grant : Grant) (capability : Capability) : Prop :=
  grantToolsetSet grant = [] ∨ uniqueStrings (projectedToolsets capability) = [] ∨
    ∃ toolset ∈ uniqueStrings (projectedToolsets capability), toolset ∈ grantToolsetSet grant

def RiskWithin (grant : Grant) (capability : Capability) : Prop :=
  riskRank capability.risk ≤ riskRank (grantMaxRisk grant)

def TagsAllow (tagStore : Option TagStore) (service : Service)
    (refs : TagPolicy → List EntityRef) : Prop :=
  ∀ policy, service.tagPolicy = some policy →
    (evaluateUniversalTagPolicy tagStore policy (refs policy)).allowed = true

def audienceRefs (grant : Grant) (policy : TagPolicy) : List EntityRef :=
  if (grantEntityRefs grant none).isEmpty then policy.entityRefs else grantEntityRefs grant none

def callerRefs (subject : Subject) (policy : TagPolicy) : List EntityRef :=
  uniqueEntityRefs (subjectEntityRefs subject ++ policy.entityRefs)

def AdminScope (grant : Grant) : Prop := ∃ scope ∈ ADMIN_SCOPES, scope ∈ keptScopes grant

structure Eligible (grant : Grant) (service : Service) (operation : Operation)
    (capability : Capability) : Prop where
  live : grant.revoked = false
  enabled : service.disabled = false
  granted : ServiceGranted (grantAllowedServiceIds grant) service
  scopes : ScopesHeld (grantScopeSet grant) operation
  toolset : ToolsetHeld grant capability
  risk : RiskWithin grant capability
  credentials : CredentialsBound (grantAllowedSecretBindings grant) (grantCapabilitySet grant)
    capability

structure Bound (grant : Grant) (service : Service) (capability : Capability)
    (tagStore : Option TagStore) (subject : Subject) : Prop where
  held : toText capability.capabilityId ∈ keptCapabilities grant
  granted : ServiceGranted (keptServiceIds grant) service
  credentials : CredentialsBound (keptSecretBindings grant) (keptCapabilities grant) capability
  tags : TagsAllow tagStore service (callerRefs subject)

variable {capability : Capability}

inductive Listing (grant : Grant) (service : Service) (operation : Operation)
    (capability : Capability) (tagStore : Option TagStore) : AudienceDecision → Prop
  | unavailable (revoked : grant.revoked = true) :
      Listing grant service operation capability tagStore ⟨false, .grantUnavailable⟩
  | disabled (off : service.disabled = true) :
      Listing grant service operation capability tagStore ⟨false, .serviceDisabled⟩
  | notGranted (live : grant.revoked = false) (enabled : service.disabled = false)
      (other : ¬ ServiceGranted (grantAllowedServiceIds grant) service) :
      Listing grant service operation capability tagStore ⟨false, .serviceNotGranted⟩
  | scopeMissing (live : grant.revoked = false) (enabled : service.disabled = false)
      (granted : ServiceGranted (grantAllowedServiceIds grant) service)
      (missing : ¬ ScopesHeld (grantScopeSet grant) operation) :
      Listing grant service operation capability tagStore ⟨false, .scopeMissing⟩
  | toolsetMissing (scopes : ScopesHeld (grantScopeSet grant) operation)
      (missing : ¬ ToolsetHeld grant capability) :
      Listing grant service operation capability tagStore ⟨false, .toolsetMissing⟩
  | riskExceeded (scopes : ScopesHeld (grantScopeSet grant) operation)
      (risky : ¬ RiskWithin grant capability) :
      Listing grant service operation capability tagStore ⟨false, .riskExceeded⟩
  | credentialMissing (scopes : ScopesHeld (grantScopeSet grant) operation)
      (missing : ¬ CredentialsBound (grantAllowedSecretBindings grant) (grantCapabilitySet grant)
        capability) :
      Listing grant service operation capability tagStore ⟨false, .credentialBindingMissing⟩
  | tagsDeny (eligible : Eligible grant service operation capability) (reason : TagReason)
      (deny : ¬ TagsAllow tagStore service (audienceRefs grant)) :
      Listing grant service operation capability tagStore ⟨false, .tagPolicy reason⟩
  | listed (eligible : Eligible grant service operation capability)
      (allow : TagsAllow tagStore service (audienceRefs grant)) :
      Listing grant service operation capability tagStore ⟨true, .allowed⟩

theorem serviceGranted_iff : ServiceGranted serviceIds service ↔
      (!serviceIds.isEmpty && decide (toText service.serviceId ≠ "") &&
        decide (toText service.serviceId ∉ serviceIds)) = false := by
  obtain ⟨nonempty, same⟩ := service.named
  unfold ServiceGranted
  rw [same, decide_eq_true nonempty, Bool.and_true, Bool.and_eq_false_iff, Bool.not_eq_false',
    List.isEmpty_iff, decide_eq_false_iff_not, not_not]

theorem scopesHeld_iff : ScopesHeld scopes operation ↔
      (uniqueStrings (uniqueStrings operation.requiredScopes)).any (fun scope => scope ∉ scopes) =
        false := by
  have normalized : Normalized operation.requiredScopes := operation.normalized
  rw [any_eq_false]
  unfold ScopesHeld
  constructor
  · intro held scope member
    have raw := normalized.mem_uniqueStrings.mp
      ((normalized_uniqueStrings _).mem_uniqueStrings.mp member)
    simpa using held scope raw
  · intro held scope member
    have raw := (normalized_uniqueStrings _).mem_uniqueStrings.mpr
      (normalized.mem_uniqueStrings.mpr member)
    simpa using held scope raw

theorem toolsetHeld_iff : ToolsetHeld grant capability ↔
      (!(grantToolsetSet grant).isEmpty &&
        !(uniqueStrings (projectedToolsets capability)).isEmpty &&
          !(uniqueStrings (projectedToolsets capability)).any
            fun toolset => toolset ∈ grantToolsetSet grant) = false := by
  unfold ToolsetHeld
  generalize uniqueStrings (projectedToolsets capability) = toolsets
  generalize grantToolsetSet grant = held
  rw [Bool.and_eq_false_iff, Bool.and_eq_false_iff, Bool.not_eq_false', Bool.not_eq_false',
    Bool.not_eq_false', List.isEmpty_iff, List.isEmpty_iff, List.any_eq_true, or_assoc]
  simp only [decide_eq_true_eq]

theorem credentialsBound_iff (named : toText capability.capabilityId ≠ "") :
    CredentialsBound bindings capabilities capability ↔
      ((uniqueStrings capability.credentialBindingIds).any fun bindingId =>
        bindingId ∉ bindings &&
          !(decide (toText capability.capabilityId ≠ "") &&
            decide (toText capability.capabilityId ++ ":" ++ bindingId ∈ capabilities))) =
        false := by
  unfold CredentialsBound
  generalize toText capability.capabilityId = capabilityId at named ⊢
  rw [any_eq_false]
  apply forall_congr'
  intro bindingId
  apply imp_congr_right
  intro _
  rw [decide_eq_true named, Bool.true_and, Bool.and_eq_true, Bool.not_eq_true', decide_eq_true_eq,
    decide_eq_false_iff_not, not_and, not_not]
  exact or_iff_not_imp_left

theorem hasUniversalTagPolicyRules_eq (tagged : service.tagPolicy = some policy) :
    hasUniversalTagPolicyRules policy = true := by
  obtain ⟨nonempty, normal⟩ := service.tagged policy tagged
  have same : normalizeEntityRefs policy.entityRefs = policy.entityRefs := by
    unfold normalizeEntityRefs
    have texts : policy.entityRefs.map (fun ref => (⟨toText ref.entityType, toText ref.entityId⟩ :
        EntityRef)) = policy.entityRefs := by
      refine (map_congr_left fun ref member => ?_).trans (map_id _)
      obtain ⟨_, _, left, right⟩ := normal ref member
      rw [left, right]
      rfl
    rw [texts, filter_eq_self]
    intro ref member
    obtain ⟨left, right, _⟩ := normal ref member
    simp [left, right]
  unfold hasUniversalTagPolicyRules
  rw [same, isEmpty_eq_false_iff.mpr nonempty]
  rfl

theorem audienceTagDecision_listing (eligible : Eligible grant service operation capability)
    (tagged : service.tagPolicy = some policy) : Listing grant service operation capability tagStore
      (audienceTagDecision grant none tagStore policy) := by
  have named := (service.tagged policy tagged).1
  unfold audienceTagDecision
  dsimp only
  rw [hasUniversalTagPolicyRules_eq tagged, isEmpty_eq_false_iff.mpr named, Bool.and_false,
    Bool.not_true, if_neg Bool.false_ne_true, if_neg Bool.false_ne_true]
  change Listing grant service operation capability tagStore
    (if (evaluateUniversalTagPolicy tagStore policy (audienceRefs grant policy)).allowed = true then
      _ else _)
  split
  next allowed =>
    refine .listed eligible fun other same => ?_
    cases tagged.symm.trans same
    exact allowed
  next denied => exact .tagsDeny eligible _ fun allow => denied (allow policy tagged)

theorem evaluateAudienceDecision_listing (named : toText capability.capabilityId ≠ "")
    (required : capability.requiredScopes = uniqueStrings operation.requiredScopes) :
    Listing grant service operation capability tagStore (evaluateAudienceDecision grant none
      ⟨capability.requiredScopes, projectedToolsets capability, false, capability⟩ service
      tagStore) := by
  unfold evaluateAudienceDecision
  dsimp only
  split
  next revoked => exact .unavailable revoked
  next live =>
  replace live := Bool.eq_false_of_not_eq_true live
  split
  next off => exact .disabled off
  next enabled =>
  replace enabled := Bool.eq_false_of_not_eq_true enabled
  split
  next other =>
    refine .notGranted live enabled fun granted => ?_
    rw [serviceGranted_iff.mp granted] at other
    cases other
  next granted =>
  replace granted := serviceGranted_iff.mpr (Bool.eq_false_of_not_eq_true granted)
  rw [Bool.and_false, Bool.false_and, if_neg Bool.false_ne_true, required]
  split
  next missing =>
    refine .scopeMissing live enabled granted fun scopes => ?_
    rw [scopesHeld_iff.mp scopes] at missing
    cases missing
  next scopes =>
  replace scopes := scopesHeld_iff.mpr (Bool.eq_false_of_not_eq_true scopes)
  split
  next missing =>
    refine .toolsetMissing scopes fun toolset => ?_
    rw [toolsetHeld_iff.mp toolset] at missing
    cases missing
  next toolset =>
  replace toolset := toolsetHeld_iff.mpr (Bool.eq_false_of_not_eq_true toolset)
  split
  next risky => exact .riskExceeded scopes (Nat.not_le_of_lt risky)
  next risk =>
  replace risk : RiskWithin grant capability := Nat.le_of_not_lt risk
  split
  next missing =>
    refine .credentialMissing scopes fun credentials => ?_
    rw [(credentialsBound_iff named).mp credentials] at missing
    cases missing
  next credentials =>
  replace credentials :=
    (credentialsBound_iff named).mpr (Bool.eq_false_of_not_eq_true credentials)
  have eligible : Eligible grant service operation capability :=
    ⟨live, enabled, granted, scopes, toolset, risk, credentials⟩
  split
  next untagged =>
    refine .listed eligible fun policy same => ?_
    rw [untagged] at same
    cases same
  next policy tagged => exact audienceTagDecision_listing eligible tagged

def subjectsOf (grant : Grant) : List Subject := [mcpSubjectFromGrant grant, operationSubject grant]

structure BuiltFrom (grant : Grant) (subject : Subject) : Prop where
  type : toText subject.type = "tool-grant"
  role : toText (firstText [subject.roleId, subject.role]) ∉ ["owner", "admin"]
  scopes : subject.scopes = keptScopes grant
  dynamicCapabilities : subject.dynamicCapabilities = some (keptCapabilities grant)
  capabilities : subject.capabilities = none
  upstreamCapabilities : subject.upstreamCapabilities = none
  allowedServiceIds : subject.allowedServiceIds = some (keptServiceIds grant)
  allowedSecretBindings : subject.allowedSecretBindings = some (keptSecretBindings grant)

theorem builtFrom_of_mem (member : subject ∈ subjectsOf grant) : BuiltFrom grant subject := by
  have type : toText "tool-grant" = "tool-grant" := by decide +kernel
  have roles : ∀ role ∈ ["tool-grant", ""],
      toText (firstText [some role, some ""]) ∉ ["owner", "admin"] := by decide +kernel
  rcases mem_cons.mp member with rfl | second
  · exact ⟨type, roles "" (mem_cons_of_mem _ mem_cons_self), rfl, rfl, rfl, rfl, rfl, rfl⟩
  · rw [mem_singleton.mp second]
    refine ⟨type, ?_, rfl, rfl, rfl, rfl, rfl, rfl⟩
    apply roles
    unfold operationSubject
    dsimp only
    split
    · exact mem_cons_self
    · exact mem_cons_of_mem _ mem_cons_self

/-- The subjects whose authority is governed. -/
def Governed (subject : Subject) : Prop :=
  toText subject.type = "tool-grant" ∨ toText subject.type = "scoped-api-key"

structure Allowed (subject : Subject) (capability : Capability) : Prop where
  named : toText capability.capabilityId ≠ ""
  held : toText capability.capabilityId ∈ governedSubjectCapabilitySet subject
  service : governedSubjectAllowedServiceIds subject = [] ∨
    capability.serviceId ∈ governedSubjectAllowedServiceIds subject
  credentials : ∀ bindingId ∈ (capability.credentialBindingIds.map toText).filter (· ≠ ""),
    bindingId ∈ governedSubjectAllowedSecretBindings subject ∨
      toText capability.capabilityId ++ ":" ++ bindingId ∈ governedSubjectCapabilitySet subject

theorem allowed_iff (governed : Governed subject) :
    (evaluateDynamicOperationAuthorization subject capability).allowed = true ↔
      Allowed subject capability := by
  have type : ¬(decide (toText subject.type ≠ "tool-grant") &&
      decide (toText subject.type ≠ "scoped-api-key")) = true := by
    simpa [Governed, or_iff_not_imp_left] using governed
  unfold evaluateDynamicOperationAuthorization
  dsimp only
  rw [if_neg type]
  split_ifs with missing other unbound
  · simp only [Bool.or_eq_true, decide_eq_true_eq] at missing
    exact ⟨nofun, fun allowed => absurd missing (not_or.mpr ⟨allowed.named, not_not.mpr allowed.held⟩)⟩
  · simp only [Bool.and_eq_true, Bool.not_eq_true', isEmpty_eq_false_iff,
      decide_eq_true_eq] at other
    exact ⟨nofun, fun allowed => absurd allowed.service (not_or.mpr other)⟩
  · refine ⟨nofun, fun allowed => ?_⟩
    obtain ⟨bindingId, member, lacks⟩ := any_eq_true.mp unbound
    simp only [Bool.and_eq_true, decide_eq_true_eq] at lacks
    exact absurd (allowed.credentials bindingId member) (not_or.mpr lacks)
  · simp only [Bool.or_eq_true, Bool.and_eq_true, Bool.not_eq_true', decide_eq_true_eq, not_or,
      not_not, not_and, isEmpty_eq_false_iff, any_eq_true, not_exists]
      at missing other unbound
    exact ⟨fun _ => ⟨missing.1, missing.2, or_iff_not_imp_left.mpr other,
      fun bindingId member => or_iff_not_imp_left.mpr (unbound bindingId member)⟩, fun _ => rfl⟩

theorem evaluateDynamicOperationAuthorization_iff (built : BuiltFrom grant subject)
    (named : toText capability.capabilityId ≠ "") (own : capability.serviceId = service.serviceId) :
    (evaluateDynamicOperationAuthorization subject capability).allowed = true ↔
      toText capability.capabilityId ∈ keptCapabilities grant ∧
        ServiceGranted (keptServiceIds grant) service ∧
          CredentialsBound (keptSecretBindings grant) (keptCapabilities grant) capability := by
  have held (value : String) : value ∈ governedSubjectCapabilitySet subject ↔
      value ∈ keptCapabilities grant := by
    unfold governedSubjectCapabilitySet
    rw [built.dynamicCapabilities, built.capabilities, built.upstreamCapabilities]
    change value ∈ uniqueStrings (keptCapabilities grant ++ [] ++ []) ↔ _
    rw [append_nil, append_nil]
    exact (normalized_normalizeGrantValues _ _).mem_uniqueStrings
  have services : governedSubjectAllowedServiceIds subject =
      uniqueStrings (keptServiceIds grant) := by
    unfold governedSubjectAllowedServiceIds
    rw [built.allowedServiceIds]
    rfl
  have bindings : governedSubjectAllowedSecretBindings subject =
      uniqueStrings (keptSecretBindings grant) := by
    unfold governedSubjectAllowedSecretBindings
    rw [built.allowedSecretBindings]
    rfl
  have serviceIds : Normalized (keptServiceIds grant) := normalized_normalizeGrantValues _ _
  have secretBindings : Normalized (keptSecretBindings grant) := normalized_normalizeGrantValues _ _
  have granted : ServiceGranted (keptServiceIds grant) service ↔
      governedSubjectAllowedServiceIds subject = [] ∨
        capability.serviceId ∈ governedSubjectAllowedServiceIds subject := by
    rw [services, serviceIds.uniqueStrings_eq_nil, serviceIds.mem_uniqueStrings, own]
    rfl
  have bound (bindingId : String) :
      (bindingId ∈ (capability.credentialBindingIds.map toText).filter (· ≠ "") →
        bindingId ∈ governedSubjectAllowedSecretBindings subject ∨
          toText capability.capabilityId ++ ":" ++ bindingId ∈
            governedSubjectCapabilitySet subject) ↔
        (bindingId ∈ uniqueStrings capability.credentialBindingIds →
          bindingId ∈ keptSecretBindings grant ∨
            toText capability.capabilityId ++ ":" ++ bindingId ∈ keptCapabilities grant) := by
    rw [bindings, secretBindings.mem_uniqueStrings, held, uniqueStrings, mem_eraseDups]
  rw [allowed_iff (.inl built.type), granted]
  exact ⟨fun allowed => ⟨(held _).mp allowed.held, allowed.service,
      fun _ => (bound _).mp (allowed.credentials _)⟩,
    fun all => ⟨named, (held _).mpr all.1, all.2.1, fun _ => (bound _).mpr (all.2.2 _)⟩⟩

theorem evaluateServiceTagPolicy_iff :
    (evaluateServiceTagPolicy service subject tagStore).allowed = true ↔
      TagsAllow tagStore service (callerRefs subject) := by
  unfold evaluateServiceTagPolicy TagsAllow
  cases tagged : service.tagPolicy with
  | none => exact ⟨fun _ => nofun, fun _ => rfl⟩
  | some policy =>
    dsimp only
    rw [hasUniversalTagPolicyRules_eq tagged, Bool.not_true, if_neg Bool.false_ne_true]
    constructor
    · intro allowed other same
      cases same
      exact allowed
    · exact fun all => all policy rfl

theorem missingScopes_iff (built : BuiltFrom grant subject) :
    (if (decide (toText (firstText [subject.roleId, subject.role]) ∈ ["owner", "admin"]) ||
        ADMIN_SCOPES.any fun scope => decide (scope ∈ subject.scopes.map toText)) = true then []
      else operation.requiredScopes.filter fun scope =>
        decide (scope ∉ subject.scopes.map toText)).isEmpty = true ↔
      AdminScope grant ∨ ScopesHeld (keptScopes grant) operation := by
  have kept : Normalized (keptScopes grant) := normalized_normalizeGrantValues _ _
  have admin : (ADMIN_SCOPES.any fun scope => decide (scope ∈ subject.scopes.map toText)) = true ↔
      AdminScope grant := by
    rw [any_eq_true, built.scopes]
    unfold AdminScope
    apply exists_congr
    intro scope
    rw [decide_eq_true_eq, kept.mem_map]
  rw [decide_eq_false built.role, Bool.false_or]
  split
  next bypass => exact ⟨fun _ => .inl (admin.mp bypass), fun _ => rfl⟩
  next none =>
    rw [List.isEmpty_iff, List.filter_eq_nil_iff, built.scopes, or_iff_right fun held =>
      none (admin.mpr held)]
    unfold ScopesHeld
    apply forall_congr'
    intro scope
    apply imp_congr_right
    intro _
    rw [decide_eq_true_eq, not_not, kept.mem_map]

theorem previewFor_iff (env : AudienceEnv) (operation : Operation)
    (built : BuiltFrom grant subject) :
    (previewFor env service operation subject tagStore true).allowed = true ↔
      service.disabled = false ∧ (AdminScope grant ∨ ScopesHeld (keptScopes grant) operation) ∧
          Bound grant service (compileUpstreamOperationCapability env service operation) tagStore
            subject := by
  have named : toText (compileUpstreamOperationCapability env service operation).capabilityId ≠
      "" := capabilityId_ne_empty service operation
  have own : (compileUpstreamOperationCapability env service operation).serviceId =
      service.serviceId := service.named.2
  unfold previewFor
  dsimp only
  generalize compileUpstreamOperationCapability env service operation = capability at named own ⊢
  rw [Bool.and_true, Bool.and_eq_true, Bool.and_eq_true, Bool.and_eq_true, Bool.not_eq_true',
    missingScopes_iff built, evaluateServiceTagPolicy_iff,
    evaluateDynamicOperationAuthorization_iff built named own]
  constructor
  · rintro ⟨⟨⟨enabled, scopes⟩, tags⟩, held, granted, credentials⟩
    exact ⟨enabled, scopes, held, granted, credentials, tags⟩
  · rintro ⟨enabled, scopes, held, granted, credentials, tags⟩
    exact ⟨⟨⟨enabled, scopes⟩, tags⟩, held, granted, credentials⟩

def AudienceReason.IsShared : AudienceReason → Prop
  | .serviceNotGranted | .scopeMissing | .credentialBindingMissing | .entityRefsRequired
  | .tagPolicy _ => True
  | _ => False

/-- What is listed may run, and what is refused for a shared reason may not. -/
structure Agrees (discovery : AudienceDecision) (execution : Preview) : Prop where
  runs : discovery.allowed = true → execution.allowed = true
  refused : discovery.allowed = false → discovery.reasonCode.IsShared → execution.allowed = false

inductive Diverges (grant : Grant) (service : Service) (operation : Operation)
    (capability : Capability) (tagStore : Option TagStore) (subject : Subject) : Prop
  | capability (eligible : Eligible grant service operation capability)
      (tags : TagsAllow tagStore service (audienceRefs grant))
      (missing : toText capability.capabilityId ∉ keptCapabilities grant)
  /-- It is listed by scopes that are not among the first 512 of `scopes`. -/
  | scopes (eligible : Eligible grant service operation capability)
      (tags : TagsAllow tagStore service (audienceRefs grant)) (ordinary : ¬ AdminScope grant)
      (missing : ¬ ScopesHeld (keptScopes grant) operation)
  | service (eligible : Eligible grant service operation capability)
      (tags : TagsAllow tagStore service (audienceRefs grant))
      (cut : ¬ ServiceGranted (keptServiceIds grant) service)
  /-- It is listed by bindings that are not among the first 512. -/
  | credentials (eligible : Eligible grant service operation capability)
      (tags : TagsAllow tagStore service (audienceRefs grant))
      (cut : ¬ CredentialsBound (keptSecretBindings grant) (keptCapabilities grant) capability)
  | tags (eligible : Eligible grant service operation capability)
      (allow : TagsAllow tagStore service (audienceRefs grant))
      (deny : ¬ TagsAllow tagStore service (callerRefs subject))
  | entities (eligible : Eligible grant service operation capability)
      (deny : ¬ TagsAllow tagStore service (audienceRefs grant))
      (scopes : AdminScope grant ∨ ScopesHeld (keptScopes grant) operation)
      (bound : Bound grant service capability tagStore subject)
  /-- An administrator lacks a scope of the operation. -/
  | admin (live : grant.revoked = false) (enabled : service.disabled = false)
      (missing : ¬ ScopesHeld (grantScopeSet grant) operation) (admin : AdminScope grant)
      (bound : Bound grant service capability tagStore subject)

theorem serviceGranted_of_kept (kept : ServiceGranted (keptServiceIds grant) service) :
    ServiceGranted (grantAllowedServiceIds grant) service := by
  cases kept with
  | inl none =>
    left
    have cut : (grantAllowedServiceIds grant).take 512 = [] := none
    rw [take_eq_nil_iff] at cut
    exact cut.resolve_left (by decide)
  | inr member => exact .inr (mem_normalizeGrantValues member)

theorem scopesHeld_of_kept (kept : ScopesHeld (keptScopes grant) operation) :
    ScopesHeld (grantScopeSet grant) operation := by
  intro scope required
  have held := mem_normalizeGrantValues (kept scope required)
  unfold grantScopeSet
  cases given : grant.scopes with
  | none =>
    rw [given] at held
    exact absurd held not_mem_nil
  | some scopes =>
    rw [given] at held
    exact held

theorem mem_reordered {a b c d e f : List String} (member : value ∈ a ++ b ++ c ++ d ++ e ++ f) :
    value ∈ c ++ a ++ b ++ f ++ d ++ e := by
  simp only [mem_append] at member ⊢
  tauto

theorem credentialsBound_of_kept
    (kept : CredentialsBound (keptSecretBindings grant) (keptCapabilities grant) capability) :
    CredentialsBound (grantAllowedSecretBindings grant) (grantCapabilitySet grant) capability := by
  intro bindingId required
  cases kept bindingId required with
  | inl binding => exact .inl (mem_normalizeGrantValues binding)
  | inr tuple =>
    right
    obtain ⟨nonempty, raw, member, same⟩ := mem_uniqueStrings.mp (mem_normalizeGrantValues tuple)
    exact mem_uniqueStrings.mpr ⟨nonempty, raw, mem_reordered member, same⟩

section Outcomes

variable {discovery : AudienceDecision}
  (listing : Listing grant service operation capability tagStore discovery)
include listing

theorem Listing.allowed_iff :
    discovery.allowed = true ↔ Eligible grant service operation capability ∧
      TagsAllow tagStore service (audienceRefs grant) := by
  cases listing with
  | listed eligible allow => exact ⟨fun _ => ⟨eligible, allow⟩, fun _ => rfl⟩
  | unavailable revoked =>
    refine ⟨fun allowed => absurd allowed Bool.false_ne_true, fun both => ?_⟩
    cases revoked.symm.trans both.1.live
  | disabled off =>
    refine ⟨fun allowed => absurd allowed Bool.false_ne_true, fun both => ?_⟩
    cases off.symm.trans both.1.enabled
  | notGranted _ _ other =>
    exact ⟨fun allowed => absurd allowed Bool.false_ne_true, fun both => absurd both.1.granted other⟩
  | scopeMissing _ _ _ missing =>
    exact ⟨fun allowed => absurd allowed Bool.false_ne_true,
      fun both => absurd both.1.scopes missing⟩
  | toolsetMissing _ missing =>
    exact ⟨fun allowed => absurd allowed Bool.false_ne_true,
      fun both => absurd both.1.toolset missing⟩
  | riskExceeded _ risky =>
    exact ⟨fun allowed => absurd allowed Bool.false_ne_true, fun both => absurd both.1.risk risky⟩
  | credentialMissing _ missing =>
    exact ⟨fun allowed => absurd allowed Bool.false_ne_true,
      fun both => absurd both.1.credentials missing⟩
  | tagsDeny _ _ deny =>
    exact ⟨fun allowed => absurd allowed Bool.false_ne_true, fun both => absurd both.2 deny⟩

theorem Listing.scope_refused (live : grant.revoked = false) (enabled : service.disabled = false)
    (granted : ServiceGranted (grantAllowedServiceIds grant) service)
    (missing : ¬ ScopesHeld (grantScopeSet grant) operation) :
    discovery.allowed = false ∧ discovery.reasonCode.IsShared := by
  cases listing with
  | scopeMissing => exact ⟨rfl, trivial⟩
  | unavailable revoked => cases revoked.symm.trans live
  | disabled off => cases off.symm.trans enabled
  | notGranted _ _ other => exact absurd granted other
  | toolsetMissing scopes => exact absurd scopes missing
  | riskExceeded scopes => exact absurd scopes missing
  | credentialMissing scopes => exact absurd scopes missing
  | tagsDeny eligible => exact absurd eligible.scopes missing
  | listed eligible => exact absurd eligible.scopes missing

theorem Listing.tags_refused (eligible : Eligible grant service operation capability)
    (deny : ¬ TagsAllow tagStore service (audienceRefs grant)) :
    discovery.allowed = false ∧ discovery.reasonCode.IsShared := by
  cases listing with
  | tagsDeny => exact ⟨rfl, trivial⟩
  | unavailable revoked => cases revoked.symm.trans eligible.live
  | disabled off => cases off.symm.trans eligible.enabled
  | notGranted _ _ other => exact absurd eligible.granted other
  | scopeMissing _ _ _ missing => exact absurd eligible.scopes missing
  | toolsetMissing _ missing => exact absurd eligible.toolset missing
  | riskExceeded _ risky => exact absurd eligible.risk risky
  | credentialMissing _ missing => exact absurd eligible.credentials missing
  | listed _ allow => exact absurd allow deny

theorem Listing.agrees_iff (runs : execution.allowed = true ↔ service.disabled = false ∧
      (AdminScope grant ∨ ScopesHeld (keptScopes grant) operation) ∧
        Bound grant service capability tagStore subject) : Agrees discovery execution ↔
      ¬ Diverges grant service operation capability tagStore subject := by
  constructor
  · intro agrees diverges
    have listed : Eligible grant service operation capability →
        TagsAllow tagStore service (audienceRefs grant) → _ :=
      fun eligible tags => runs.mp (agrees.runs (listing.allowed_iff.mpr ⟨eligible, tags⟩))
    have refuses : discovery.allowed = false ∧ discovery.reasonCode.IsShared →
        execution.allowed ≠ true := by
      rintro ⟨denied, shared⟩
      rw [agrees.refused denied shared]
      exact Bool.false_ne_true
    cases diverges with
    | capability eligible tags missing => exact missing (listed eligible tags).2.2.held
    | scopes eligible tags ordinary missing =>
      exact (listed eligible tags).2.1.elim ordinary missing
    | service eligible tags cut => exact cut (listed eligible tags).2.2.granted
    | credentials eligible tags cut => exact cut (listed eligible tags).2.2.credentials
    | tags eligible allow deny => exact deny (listed eligible allow).2.2.tags
    | entities eligible deny scopes bound =>
      exact refuses (listing.tags_refused eligible deny)
        (runs.mpr ⟨eligible.enabled, scopes, bound⟩)
    | admin live enabled missing admin bound =>
      exact refuses (listing.scope_refused live enabled
        (serviceGranted_of_kept bound.granted) missing)
        (runs.mpr ⟨enabled, Or.inl admin, bound⟩)
  · intro parted
    constructor
    case runs =>
      intro allowed
      obtain ⟨eligible, tags⟩ := listing.allowed_iff.mp allowed
      refine runs.mpr ⟨eligible.enabled, ?_, ?_, ?_, ?_, ?_⟩
      · by_contra neither
        rw [not_or] at neither
        exact parted (.scopes eligible tags neither.1 neither.2)
      · exact of_not_not fun missing => parted (.capability eligible tags missing)
      · exact of_not_not fun cut => parted (.service eligible tags cut)
      · exact of_not_not fun cut => parted (.credentials eligible tags cut)
      · exact of_not_not fun deny => parted (.tags eligible tags deny)
    case refused =>
      intro denied shared
      apply Bool.eq_false_of_not_eq_true
      intro allowed
      obtain ⟨enabled, scopes, bound⟩ := runs.mp allowed
      cases listing with
      | unavailable => exact shared
      | disabled => exact shared
      | notGranted _ _ other => exact other (serviceGranted_of_kept bound.granted)
      | scopeMissing live _ granted missing =>
        cases scopes with
        | inl admin => exact parted (.admin live enabled missing admin bound)
        | inr held => exact missing (scopesHeld_of_kept held)
      | toolsetMissing => exact shared
      | riskExceeded => exact shared
      | credentialMissing _ missing => exact missing (credentialsBound_of_kept bound.credentials)
      | tagsDeny eligible _ deny => exact parted (.entities eligible deny scopes bound)
      | listed => cases denied

end Outcomes

def sampleEnv : AudienceEnv := ⟨id⟩

def sampleService : Service where
  serviceId := "billing"
  named := by decide +kernel
  tagged := by
    intro policy same
    cases same

def sampleOperation : Operation where
  operationKey := "list"
  risk := "read_only"
  requiredScopes := ["gateway:read"]
  normalized := by decide +kernel

def sampleGrant : Grant := { id := "grant", scopes := some ["gateway:read"] }

variable {first second : Subject} {descriptor : Capability} {had : List String}

/-- A list that a subject declares loses entries, or is declared anew with entries that the
subject had before. -/
inductive NarrowsList (had : List String) : Option (List String) → Option (List String) → Prop
  | undeclared : NarrowsList had none none
  | removed {first second : List String} (sublist : second.Sublist first) :
    NarrowsList had (some first) (some second)
  | declared {second : List String} (known : stringSet second ⊆ had) :
    NarrowsList had none (some second)

/-- The lists of a grant and of its metadata. -/
def authorityLists : List (Grant → List String) :=
  [(·.dynamicCapabilities), (·.capabilities), (·.upstreamCapabilities), (·.allowedServiceIds),
    (·.allowedSecretBindings), (·.metadata.dynamicCapabilities), (·.metadata.capabilities),
    (·.metadata.upstreamCapabilities), (·.metadata.allowedServiceIds),
    (·.metadata.allowedSecretBindings)]

def NarrowsGrant (first second : Grant) : Prop :=
  ∀ list ∈ authorityLists, (list second).Sublist (list first)

structure Narrows (first second : Subject) : Prop where
  type : second.type = first.type
  dynamicCapabilities : NarrowsList (governedSubjectCapabilitySet first)
    first.dynamicCapabilities second.dynamicCapabilities
  capabilities : NarrowsList (governedSubjectCapabilitySet first) first.capabilities
    second.capabilities
  upstreamCapabilities : NarrowsList (governedSubjectCapabilitySet first)
    first.upstreamCapabilities second.upstreamCapabilities
  allowedServiceIds : NarrowsList (governedSubjectAllowedServiceIds first)
    first.allowedServiceIds second.allowedServiceIds
  allowedSecretBindings : NarrowsList (governedSubjectAllowedSecretBindings first)
    first.allowedSecretBindings second.allowedSecretBindings
  grant : Option.Rel NarrowsGrant first.grant second.grant

theorem stringSet_mono (subset : values' ⊆ values) : stringSet values' ⊆ stringSet values := by
  intro value member
  obtain ⟨nonempty, raw, isIn, same⟩ := mem_uniqueStrings.mp member
  exact mem_uniqueStrings.mpr ⟨nonempty, raw, subset isIn, same⟩

theorem stringSet_append_subset (left : stringSet values ⊆ had) (right : stringSet values' ⊆ had) :
    stringSet (values ++ values') ⊆ had := by
  intro value member
  obtain ⟨nonempty, raw, isIn, same⟩ := mem_uniqueStrings.mp member
  obtain isLeft | isRight := mem_append.mp isIn
  · exact left (mem_uniqueStrings.mpr ⟨nonempty, raw, isLeft, same⟩)
  · exact right (mem_uniqueStrings.mpr ⟨nonempty, raw, isRight, same⟩)

/-- What a subject has from its grant where it declares nothing itself. -/
def inherited (listed : Grant → List String) (grant : Option Grant) : List String :=
  (grant.map listed).getD []

section Lists

variable {declared declared' : Option (List String)} {listed : Grant → List String}
  {grant grant' : Option Grant}

theorem inherited_subset (grants : Option.Rel NarrowsGrant grant grant')
    (each : ∀ {grant grant'}, NarrowsGrant grant grant' → (listed grant').Sublist (listed grant)) :
    inherited listed grant' ⊆ inherited listed grant := by
  cases grants with
  | none => exact nil_subset _
  | some narrows => exact (each narrows).subset

theorem NarrowsList.declared_subset (narrows : NarrowsList had declared declared')
    (own : stringSet (declared.getD []) ⊆ had) : stringSet (declared'.getD []) ⊆ had := by
  cases narrows with
  | undeclared => exact own
  | removed sublist => exact fun _ member => own (stringSet_mono sublist.subset member)
  | declared known => exact known

theorem NarrowsList.isSome (narrows : NarrowsList had declared declared')
    (was : declared.isSome = true) : declared'.isSome = true := by
  cases narrows with
  | undeclared => exact was
  | removed => rfl
  | declared => rfl

theorem NarrowsList.governed_subset
    (narrows : NarrowsList (stringSet (declared.getD (inherited listed grant))) declared declared')
    (grants : Option.Rel NarrowsGrant grant grant')
    (each : ∀ {grant grant'}, NarrowsGrant grant grant' → (listed grant').Sublist (listed grant)) :
    stringSet (declared'.getD (inherited listed grant')) ⊆
      stringSet (declared.getD (inherited listed grant)) := by
  cases narrows with
  | undeclared => exact stringSet_mono (inherited_subset grants each)
  | removed sublist => exact stringSet_mono sublist.subset
  | declared known => exact known

end Lists

def capabilitiesOf (grant : Grant) : List String :=
  grant.dynamicCapabilities ++ grant.capabilities ++ grant.upstreamCapabilities ++
    grant.metadata.dynamicCapabilities ++ grant.metadata.capabilities ++
      grant.metadata.upstreamCapabilities

def allowedServiceIdsOf (grant : Grant) : List String :=
  grant.allowedServiceIds ++ grant.metadata.allowedServiceIds

def allowedSecretBindingsOf (grant : Grant) : List String :=
  grant.allowedSecretBindings ++ grant.metadata.allowedSecretBindings

theorem governedSubjectAllowedServiceIds_eq (subject : Subject) :
    governedSubjectAllowedServiceIds subject =
      stringSet (subject.allowedServiceIds.getD (inherited allowedServiceIdsOf subject.grant)) := by
  unfold governedSubjectAllowedServiceIds
  cases subject.allowedServiceIds <;> cases subject.grant <;> rfl

theorem governedSubjectAllowedSecretBindings_eq (subject : Subject) :
    governedSubjectAllowedSecretBindings subject = stringSet
      (subject.allowedSecretBindings.getD (inherited allowedSecretBindingsOf subject.grant)) := by
  unfold governedSubjectAllowedSecretBindings
  cases subject.allowedSecretBindings <;> cases subject.grant <;> rfl

def DeclaresCapabilities (subject : Subject) : Prop :=
  subject.dynamicCapabilities.isSome = true ∨ subject.capabilities.isSome = true ∨
    subject.upstreamCapabilities.isSome = true

theorem governedSubjectCapabilitySet_declared (declares : DeclaresCapabilities subject) :
    governedSubjectCapabilitySet subject = stringSet (subject.dynamicCapabilities.getD [] ++
      subject.capabilities.getD [] ++ subject.upstreamCapabilities.getD []) := by
  unfold governedSubjectCapabilitySet
  rw [if_pos (by simpa [DeclaresCapabilities, or_assoc] using declares)]

theorem governedSubjectCapabilitySet_inherited (undeclared : ¬DeclaresCapabilities subject) :
    governedSubjectCapabilitySet subject = stringSet (inherited capabilitiesOf subject.grant) := by
  unfold governedSubjectCapabilitySet
  rw [if_neg (by simpa [DeclaresCapabilities, or_assoc] using undeclared)]
  cases subject.grant <;> rfl

theorem normalized_governedSubjectCapabilitySet (subject : Subject) :
    Normalized (governedSubjectCapabilitySet subject) := by
  unfold governedSubjectCapabilitySet
  split
  · exact normalized_uniqueStrings _
  · cases subject.grant with
    | none => exact fun _ member => absurd member not_mem_nil
    | some grant => exact normalized_uniqueStrings _

namespace Narrows

variable (narrows : Narrows first second)
include narrows

theorem capabilities_subset :
    governedSubjectCapabilitySet second ⊆ governedSubjectCapabilitySet first := by
  have own : stringSet (first.dynamicCapabilities.getD []) ⊆ governedSubjectCapabilitySet first ∧
      stringSet (first.capabilities.getD []) ⊆ governedSubjectCapabilitySet first ∧
        stringSet (first.upstreamCapabilities.getD []) ⊆ governedSubjectCapabilitySet first := by
    by_cases was : DeclaresCapabilities first
    · rw [governedSubjectCapabilitySet_declared was]
      refine ⟨stringSet_mono ?_, stringSet_mono ?_, stringSet_mono ?_⟩ <;> simp
    · simp only [DeclaresCapabilities, not_or, Option.not_isSome_iff_eq_none] at was
      rw [was.1, was.2.1, was.2.2]
      exact ⟨nil_subset _, nil_subset _, nil_subset _⟩
  by_cases declares : DeclaresCapabilities second
  · rw [governedSubjectCapabilitySet_declared declares]
    exact stringSet_append_subset (stringSet_append_subset
      (narrows.dynamicCapabilities.declared_subset own.1)
      (narrows.capabilities.declared_subset own.2.1))
      (narrows.upstreamCapabilities.declared_subset own.2.2)
  · have undeclared : ¬DeclaresCapabilities first := fun was =>
      declares (was.imp narrows.dynamicCapabilities.isSome
        (.imp narrows.capabilities.isSome narrows.upstreamCapabilities.isSome))
    rw [governedSubjectCapabilitySet_inherited declares,
      governedSubjectCapabilitySet_inherited undeclared]
    refine stringSet_mono (inherited_subset narrows.grant fun grant => ?_)
    simp only [NarrowsGrant, authorityLists, forall_mem_cons] at grant
    obtain ⟨dynamic, own, upstream, -, -, dynamic', own', upstream', -⟩ := grant
    exact ((((dynamic.append own).append upstream).append dynamic').append own').append upstream'

theorem allowedServiceIds_subset :
    governedSubjectAllowedServiceIds second ⊆ governedSubjectAllowedServiceIds first := by
  have lists := narrows.allowedServiceIds
  simp only [governedSubjectAllowedServiceIds_eq] at lists ⊢
  exact lists.governed_subset narrows.grant fun grant =>
    (grant (·.allowedServiceIds) (by simp [authorityLists])).append
      (grant (·.metadata.allowedServiceIds) (by simp [authorityLists]))

theorem allowedSecretBindings_subset :
    governedSubjectAllowedSecretBindings second ⊆ governedSubjectAllowedSecretBindings first := by
  have lists := narrows.allowedSecretBindings
  simp only [governedSubjectAllowedSecretBindings_eq] at lists ⊢
  exact lists.governed_subset narrows.grant fun grant =>
    (grant (·.allowedSecretBindings) (by simp [authorityLists])).append
      (grant (·.metadata.allowedSecretBindings) (by simp [authorityLists]))

end Narrows

/-- An empty list of allowed services is unbounded, so narrowing widens authority exactly when it
takes the last allowed service from a subject that holds a capability. -/
theorem narrowing_never_widens_iff (narrows : Narrows first second) (governed : Governed first) :
    (∀ descriptor, (evaluateDynamicOperationAuthorization second descriptor).allowed = true →
      (evaluateDynamicOperationAuthorization first descriptor).allowed = true) ↔
        governedSubjectAllowedServiceIds first = [] ∨ governedSubjectAllowedServiceIds second ≠ [] ∨
            governedSubjectCapabilitySet second = [] := by
  have governed' : Governed second := by
    unfold Governed
    rw [narrows.type]
    exact governed
  constructor
  · intro never
    by_contra emptied
    simp only [not_or, not_not] at emptied
    obtain ⟨had, none, holds⟩ := emptied
    obtain ⟨capability, member⟩ := exists_mem_of_ne_nil _ holds
    obtain ⟨nonempty, same⟩ := normalized_governedSubjectCapabilitySet second capability member
    have named : toText capability ≠ "" := same.symm ▸ nonempty
    have allowed := (allowed_iff governed).mp (never ⟨capability, "", "", [], []⟩
      ((allowed_iff governed').mpr ⟨named, same.symm ▸ member, .inl none, nofun⟩))
    have service := allowed.service.resolve_left had
    rw [governedSubjectAllowedServiceIds_eq] at service
    exact (mem_uniqueStrings.mp service).1 rfl
  · intro kept descriptor allowed
    rw [allowed_iff governed'] at allowed
    rw [allowed_iff governed]
    refine ⟨allowed.named, narrows.capabilities_subset allowed.held, ?_, ?_⟩
    · obtain unbounded | some | nothing := kept
      · exact .inl unbounded
      · exact .inr (narrows.allowedServiceIds_subset (allowed.service.resolve_left some))
      · have holds := allowed.held
        rw [nothing] at holds
        exact absurd holds not_mem_nil
    · intro bindingId member
      exact (allowed.credentials bindingId member).imp
        (fun bound => narrows.allowedSecretBindings_subset bound)
        (fun held => narrows.capabilities_subset held)

/-- A grant for one service, and the same grant after that service was taken from it. -/
def serviceGrant : Grant where
  id := "g"
  dynamicCapabilities := ["c"]
  allowedServiceIds := ["s"]

def serviceSubject (grant : Grant) : Subject where
  type := "tool-grant"
  subjectId := "u"
  grant := some grant

theorem narrows_serviceSubject : Narrows (serviceSubject serviceGrant)
      (serviceSubject { serviceGrant with allowedServiceIds := [] }) :=
  ⟨rfl, .undeclared, .undeclared, .undeclared, .undeclared, .undeclared, .some
    (by simp [NarrowsGrant, authorityLists, serviceGrant])⟩

theorem narrowing_widens : ∃ first second descriptor, Narrows first second ∧ Governed first ∧
    (evaluateDynamicOperationAuthorization second descriptor).allowed = true ∧
      (evaluateDynamicOperationAuthorization first descriptor).allowed = false :=
  ⟨serviceSubject serviceGrant, serviceSubject { serviceGrant with allowedServiceIds := [] },
    ⟨"c", "other", "", [], []⟩, narrows_serviceSubject, .inl (by decide +kernel),
    by decide +kernel, by decide +kernel⟩

theorem narrowing_never_widens_iff_sample : ∃ descriptor, (evaluateDynamicOperationAuthorization
      (serviceSubject { serviceGrant with allowedServiceIds := [] }) descriptor).allowed = true ∧
        (evaluateDynamicOperationAuthorization (serviceSubject serviceGrant) descriptor).allowed ≠
          true := by
  have widens := mt (narrowing_never_widens_iff narrows_serviceSubject
    (.inl (by decide +kernel))).mp (by decide +kernel)
  simpa using widens

end LicoMesh.UpstreamAudience
