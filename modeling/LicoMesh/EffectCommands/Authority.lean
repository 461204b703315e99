import LicoMesh.EffectCommands.Contract

namespace LicoMesh.EffectCommands

open WorkQueue ProtectedSink

/-! The authority for an effect: the facts that a revalidation answers, and the permit that is
minted and consumed for them. -/

variable {authority : CurrentEffectAuthorization}

def effectCommandFamily : String := "effect-command"

def effectCommandOperationId : String := "collaboration.effect"

def effectCommandAudience : String := "service-collaboration-effect-command"

def effectCommandTransport : String := "effect-command"

def lookupFacts : List String :=
  ["handle", "cursor", "cachedBytes", "connectionState", "earlierDiscovery", "priorApproval"]

def usesLookupFactAsAuthority (input : Json) : Bool :=
  let source := text (orElse (input.get "authoritySource") (input.get "authorizationSource"))
  (source ≠ "" && lookupFacts.contains source) || isTrue (input.get "usePriorApprovalAsAuthority") ||
    (isTrue (input.get "priorApproval") && !isTrue (input.get "revalidationPerformed"))

def usesStrategyPreviewAsAuthority (input : Json) : Bool :=
  (input.get "strategyPreview").isTruthy || (input.get "previewDecision").isTruthy ||
    (input.get "dryRunResult").isTruthy ||
      (isTrue (input.get "dryRunOnly") && isTrue (input.get "usePreviewAsAuthority"))

def copiedReResolutionIsProof (input : Json) : Bool :=
  isTrue (input.get "authorizationReResolved") && !isTrue (input.get "revalidationPerformed") &&
    isTrue (input.get "skipRevalidation")

def currentAuthorizationDenied (input : Json) : Option String :=
  if usesLookupFactAsAuthority input then some "prior_approval_is_not_authority"
  else if usesStrategyPreviewAsAuthority input then
    some "strategy_preview_is_not_execution_credential"
  else if copiedReResolutionIsProof input then some "copied_authorization_is_not_authority"
  else none

structure EffectSubject where
  type : OpaqueId
  subjectId : OpaqueId
  tenantId : OpaqueId
  generation : OpaqueId

structure CurrentEffectAuthorization where
  allowed : Bool
  reasonCode : String
  lookups : Lookups
  grantRevision : OpaqueId
  policyRevision : OpaqueId
  approvalRevision : OpaqueId
  riskRevision : OpaqueId
  workloadGeneration : OpaqueId
  subject : EffectSubject

def firstOf (values : List Json) : Json := values.foldr orElse .null

def defaultLookup (subject grant : Json) (key : String) : Json :=
  if key = "principalLookup" then orElse (subject.get "subjectId") (.str "prin.sc.1")
  else if key = "grantLookup" then orElse (grant.get "id") (.str "gr.sc.1")
  else if key = "targetRef" then .str "tgt.sc.1"
  else if key = "policyRef" then .str "pol.sc.1"
  else if key = "approvalLookup" then .str "apr.sc.1"
  else if key = "audienceRef" then .str "aud.sc.1"
  else .str "req.sc.1"

def readSubject (value subject : Json) : Except EffectError EffectSubject := do
  let type ← requiredOpaque (orElse (subject.get "type") (.str "workload")) "subject.type"
  let subjectId ← requiredOpaque (firstOf [subject.get "subjectId", value.get "principalLookup",
    .str "prin.sc.1"]) "subject.subjectId"
  let tenantId ← requiredOpaque (orElse (subject.get "tenantId") (.str "ten.sc.1"))
    "subject.tenantId"
  let generation ← requiredOpaque (firstOf [subject.get "generation",
    value.get "workloadGeneration", .str "gen.sc.1"]) "subject.generation"
  return { type, subjectId, tenantId, generation }

def createCurrentEffectAuthorization (value : Json) :
    Except EffectError CurrentEffectAuthorization := do
  let subject := recordOr (value.get "subject")
  let grant := recordOr (value.get "grant")
  let reason := text (value.get "reasonCode")
  let lookups ← readLookups (fun key given => orElse given (defaultLookup subject grant key)) value
  let grantRevision ← requiredOpaque (firstOf [value.get "grantRevision", grant.get "revision",
    .str "rev.grant.1"]) "grantRevision"
  let policyRevision ← requiredOpaque (orElse (value.get "policyRevision") (.str "rev.policy.1"))
    "policyRevision"
  let approvalRevision ← requiredOpaque
    (orElse (value.get "approvalRevision") (.str "rev.approval.1")) "approvalRevision"
  let riskRevision ← requiredOpaque (orElse (value.get "riskRevision") (.str "rev.risk.1"))
    "riskRevision"
  let workloadGeneration ← requiredOpaque (firstOf [value.get "workloadGeneration",
    subject.get "generation", .str "gen.sc.1"]) "workloadGeneration"
  let subject ← readSubject value subject
  return {
    allowed := match value.get "allowed" with
      | .bool false => false
      | _ => true
    reasonCode := if reason = "" then "allowed" else reason
    lookups, grantRevision, policyRevision, approvalRevision, riskRevision, workloadGeneration
    subject }

/-- An execution that waits for the answer of its revalidation. -/
structure PendingEffect where
  bound : EffectBinding
  /-- The input of the execution. -/
  given : Json

/-- `{ ...input, ...bound }`. -/
def PendingEffect.input (pending : PendingEffect) : Json :=
  spread pending.given (.obj pending.bound.fields)

def PendingEffect.facts (pending : PendingEffect) : Json :=
  let authorization := pending.input.get "authorization"
  if isPlainObject authorization then authorization else pending.input

/-- What `revalidateAuthorization` is asked. -/
def PendingEffect.request (pending : PendingEffect) : Json :=
  let lookup := fun key => (key, orElse (pending.input.get key) (pending.facts.get key))
  spread pending.facts (.obj
    [("phase", .str "execution"), ("revalidationPerformed", .bool true),
      ("skipRevalidation", .bool false), lookup "principalLookup", lookup "grantLookup",
      lookup "targetRef", lookup "policyRef", lookup "approvalLookup", lookup "audienceRef",
      lookup "requestRef"])

def orReason (given : Json) (reason : String) : String :=
  if text given = "" then reason else text given

/-- `currentAuthority` with the answer of the revalidation; `none` is a failure. -/
def currentAuthority (pending : PendingEffect) (answer : Option Json) :
    Except String CurrentEffectAuthorization :=
  match currentAuthorizationDenied pending.facts with
  | some reason => .error reason
  | none =>
    match answer with
    | none => .error "execution_authorization_failed"
    | some decision =>
      if !isPlainObject decision || !isTrue (decision.get "allowed") then
        .error (orReason (decision.get "reasonCode") "execution_authorization_denied")
      else
        match createCurrentEffectAuthorization
            (spread (spread pending.input pending.facts) decision) with
        | .error _ => .error "execution_authorization_facts_incomplete"
        | .ok authority => .ok authority

structure EffectEnv extends SinkEnv where
  /-- `sha256` of the empty request body, and the digest of a request around it. -/
  digestGovernedExecutionRequest : Json → String

def effectRequest (bound : EffectBinding) : Json :=
  .obj [("operationId", .str effectCommandOperationId),
    ("transport", .str effectCommandTransport), ("method", .str "EFFECT"),
    ("input", .obj [("effectId", .str bound.effectId.val),
      ("targetRef", .str bound.lookups.targetRef.val),
      ("audienceRef", .str bound.lookups.audienceRef.val),
      ("requestRef", .str bound.lookups.requestRef.val),
      ("idempotency", .str bound.idempotency.text)])]

def effectPrincipal (authority : CurrentEffectAuthorization) : Json :=
  .obj [("type", .str authority.subject.type.val),
    ("subjectId", .str authority.subject.subjectId.val),
    ("tenantId", .str authority.subject.tenantId.val),
    ("generation", .str authority.subject.generation.val)]

def effectResource (bound : EffectBinding) (authority : CurrentEffectAuthorization) : Json :=
  .obj [("targetRef", .str bound.lookups.targetRef.val),
    ("grantRevision", .str authority.grantRevision.val),
    ("policyRevision", .str authority.policyRevision.val),
    ("approvalRevision", .str authority.approvalRevision.val),
    ("riskRevision", .str authority.riskRevision.val),
    ("workloadGeneration", .str authority.workloadGeneration.val)]

variable (env : EffectEnv)

def effectMint (bound : EffectBinding) (authority : CurrentEffectAuthorization) (clock : Int) :
    MintInput where
  operationId := .str effectCommandOperationId
  audience := .str effectCommandAudience
  principal := effectPrincipal authority
  resource := effectResource bound authority
  requestDigest := .str (env.digestGovernedExecutionRequest (effectRequest bound))
  proofRef := .str bound.auditRef.val
  authorization := .obj [("grantLookup", .str bound.lookups.grantLookup.val),
    ("policyRef", .str bound.lookups.policyRef.val)]
  approval := .obj [("approvalLookup", .str bound.lookups.approvalLookup.val),
    ("approvalRevision", .str authority.approvalRevision.val)]
  risk := .obj [("riskRevision", .str authority.riskRevision.val)]
  ttlMs := defaultTtlMs
  now := clock

def effectExpected (bound : EffectBinding) (authority : CurrentEffectAuthorization) :
    ExpectedBinding where
  operationId := .str effectCommandOperationId
  audience := .str effectCommandAudience
  requestDigest := .str (env.digestGovernedExecutionRequest (effectRequest bound))
  principal := effectPrincipal authority
  resource := some (effectResource bound authority)

/-- The last millisecond of a `Date`. -/
def maxDateMs : Int := 8640000000000000

/-- A clock reading as a `Date` can have it. -/
def dateOf (clock : Int) : Option Int :=
  if -maxDateMs ≤ clock ∧ clock ≤ maxDateMs then some clock else none

/-- `assertConsumedGovernedExecutionPermit` of the receipt that was just returned. -/
def receiptMatches (receipt : PermitConsumptionReceipt) (expected : ExpectedBinding) : Bool :=
  receipt.operationId = textOf expected.operationId &&
    receipt.audience = textOf expected.audience &&
      receipt.requestDigest = textOf expected.requestDigest &&
        receipt.principalDigest = env.digestGovernedExecutionPrincipal expected.principal

def consumeEffectPermit (permits : ActivePermits) (bound : EffectBinding)
    (authority : CurrentEffectAuthorization) (clock : Int) (token : PermitToken) :
    ActivePermits × Except String PermitConsumptionReceipt :=
  let failed := fun error : SinkError =>
    .error (error.code.getD "governed_execution_permit_required")
  match mintGovernedExecutionPermit env.toSinkEnv permits (effectMint env bound authority clock)
      token with
  | .error error => (permits, failed error)
  | .ok minted =>
    let expected := effectExpected env bound authority
    let consumed := consumeGovernedExecutionPermit env.toSinkEnv minted token.val expected
      (dateOf clock)
    (consumed.1,
      match consumed.2 with
      | .error error => failed error
      | .ok receipt =>
        if receiptMatches env receipt expected then .ok receipt
        else .error "governed_execution_permit_required")

/-- The permit was consumed for this effect, principal and resource. -/
structure PermitFor (bound : EffectBinding) (authority : CurrentEffectAuthorization)
    (receipt : PermitConsumptionReceipt) : Prop where
  operationId : receipt.operationId = effectCommandOperationId
  audience : receipt.audience = effectCommandAudience
  principal : receipt.principalDigest =
    env.digestGovernedExecutionPrincipal (effectPrincipal authority)
  resource : receipt.resourceDigest = env.canonicalDigest (effectResource bound authority)
  request : receipt.requestDigest =
    toText (env.digestGovernedExecutionRequest (effectRequest bound))

variable {env}

theorem consumeEffectPermit_ok
    (consumed : (consumeEffectPermit env permits bound authority clock token).2 = .ok receipt) :
    PermitFor env bound authority receipt := by
  unfold consumeEffectPermit at consumed
  dsimp only at consumed
  split at consumed
  · cases consumed
  · rename_i minted mint
    split at consumed
    · cases consumed
    · rename_i given consume
      split at consumed
      · cases consumed
        obtain ⟨operationId, audience, principal, resource, request⟩ := consume_minted mint consume
        exact ⟨operationId, audience, principal, resource, request⟩
      · cases consumed

theorem currentAuthority_ok (allowed : currentAuthority pending answer = .ok authority) :
    ∃ decision, answer = some decision ∧ decision.get "allowed" = .bool true := by
  unfold currentAuthority at allowed
  split at allowed
  · cases allowed
  · split at allowed
    · cases allowed
    · rename_i decision
      refine ⟨decision, rfl, ?_⟩
      split at allowed
      · cases allowed
      · rename_i passes
        rw [Bool.not_eq_true, Bool.or_eq_false_iff, Bool.not_eq_false', Bool.not_eq_false'] at passes
        cases value : decision.get "allowed" with
        | bool value' =>
          rw [value] at passes
          exact congrArg Json.bool passes.2
        | _ =>
          rw [value] at passes
          exact absurd passes.2 Bool.false_ne_true

end LicoMesh.EffectCommands
