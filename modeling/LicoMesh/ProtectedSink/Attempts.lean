import LicoMesh.ProtectedSink.Permits

namespace LicoMesh.ProtectedSink

open Library WorkQueue SinkText

/-! Attempts and their claims. A claim runs without interruption up to the call of
`revalidateCurrentAuthority`, from its answer up to the call of `resolveCurrentResource`, and from
that answer to its end; anything may happen in between. -/

abbrev AttemptId := Nat

abbrev ClaimId := Nat

abbrev SignalId := Nat

structure AttemptState where
  attempt : AttemptId
  audience : SinkText
  subject : Subject
  operationId : SinkText
  requestDigest : SinkDigest
  context : AttemptContext
  targetSelectorDigest : Sha256Digest
  proofRef : Json
  authorization : Json
  approval : Json
  risk : Json
  signal : Option SignalId
  expiresAt : Int

/-- The options of `createFinalProtectedSinkAttempt`; the clock has answered `issuedAt`. -/
structure CreateOptions where
  audience : Json
  subject : Json
  operationId : Json
  requestDigest : Json
  context : Json
  targetSelector : JsonValue
  proofRef : Json
  authorization : Json
  approval : Json
  risk : Json
  dependenciesAreFunctions : Bool
  signal : Option SignalId
  issuedAt : Option Int
  ttlMs : Int

/-- The options of `claimFinalProtectedSinkAttempt`, what the clock answers to its two calls, and
the random token. -/
structure ClaimOptions where
  attempt : Option AttemptId
  targetSelector : JsonValue
  effect : Json
  resourceRevision : Json
  resolverIsFunction : Bool
  consumedAt : Option Int
  now : Option Int
  token : PermitToken

def selectorDigest (env : SinkEnv) (value : JsonValue) : Except SinkError Sha256Digest :=
  match value.val with
  | .obj _ => .ok (env.canonicalDigest value.val)
  | _ => .error .bindingInvalid

def maxAttemptTtlMs : Int := 60000

def createFinalProtectedSinkAttempt (env : SinkEnv) (attempt : AttemptId)
    (options : CreateOptions) : Except SinkError AttemptState :=
  if options.dependenciesAreFunctions then
    match options.issuedAt with
    | none => .error .clockInvalid
    | some issuedAt => do
        requireKeys options.context attemptContextKeys
        let audience ← requiredText options.audience
        let subject ← normalizeSubject options.subject
        let operationId ← requiredText options.operationId
        let requestDigest ← requiredDigest options.requestDigest
        let context ← normalizeAttemptContext options.context
        let targetSelectorDigest ← selectorDigest env options.targetSelector
        return {
          attempt, audience, subject, operationId, requestDigest, context, targetSelectorDigest
          proofRef := options.proofRef
          authorization := options.authorization
          approval := options.approval
          risk := options.risk
          signal := options.signal
          expiresAt := issuedAt + lifetimeOf maxAttemptTtlMs options.ttlMs }
  else .error .dependenciesInvalid

structure PendingClaim where
  state : AttemptState
  binding : Binding
  consumptionReceipt : PermitConsumptionReceipt

structure AuthorityAnswer where
  allowed : Json
  revoked : Json
  subject : Json
  context : Json

structure ResourceAnswer where
  effect : Json
  resourceRevision : Json

inductive ClaimPhase
  | revalidating (pending : PendingClaim)
  | resolving (pending : PendingClaim) (authority : AuthorityAnswer)
  | returned (receipt : PermitConsumptionReceipt)
  | refused (error : SinkError)

structure ClaimRow where
  claim : ClaimId
  attempt : Option AttemptId
  phase : ClaimPhase

structure SinkState where
  attempts : Table AttemptId AttemptState AttemptState.attempt
  permits : ActivePermits
  claims : Table ClaimId ClaimRow ClaimRow.claim
  aborted : List SignalId
  nextAttempt : AttemptId
  nextClaim : ClaimId

def SinkState.initial : SinkState where
  attempts := .empty
  permits := .empty
  claims := .empty
  aborted := []
  nextAttempt := 0
  nextClaim := 0

def SinkState.isAborted (state : SinkState) (signal : Option SignalId) : Bool :=
  signal.any fun signal => state.aborted.contains signal

def claimedBinding (attempt : AttemptState) (options : ClaimOptions) : Json :=
  .obj [("audience", toJson attempt.audience), ("subject", attempt.subject.toJson),
    ("operationId", toJson attempt.operationId), ("effect", options.effect),
    ("requestDigest", SinkDigest.toJson attempt.requestDigest),
    ("context", contextWith attempt.context.fields options.resourceRevision)]

def resourceJson (binding : Binding) : Json :=
  .obj [("context", binding.context.toJson), ("effect", binding.effect.toJson)]

def mintInput (attempt : AttemptState) (binding : Binding) (consumedAt : Int) : MintInput where
  operationId := toJson binding.operationId
  audience := toJson binding.audience
  principal := binding.subject.toJson
  resource := resourceJson binding
  requestDigest := SinkDigest.toJson binding.requestDigest
  proofRef := attempt.proofRef
  authorization := attempt.authorization
  approval := attempt.approval
  risk := attempt.risk
  ttlMs := max 1 (attempt.expiresAt - consumedAt)
  now := consumedAt

def authorityBinding (binding : Binding) : ExpectedBinding where
  operationId := toJson binding.operationId
  audience := toJson binding.audience
  requestDigest := SinkDigest.toJson binding.requestDigest
  principal := binding.subject.toJson
  resource := some (resourceJson binding)

def usePermit (env : SinkEnv) (permits : ActivePermits) (attempt : AttemptState)
    (binding : Binding) (consumedAt : Int) (options : ClaimOptions) :
    ActivePermits × Except SinkError PermitConsumptionReceipt :=
  match mintGovernedExecutionPermit env permits (mintInput attempt binding consumedAt)
      options.token with
  | .error _ => (permits, .error .denied)
  | .ok minted =>
    match normalizeBinding binding.toJson with
    | .error error => (minted, .error error)
    | .ok normalized =>
      consumeGovernedExecutionPermit env minted options.token.val
        (authorityBinding normalized) options.now

def checkClaim (env : SinkEnv) (state : SinkState) (attempt : AttemptState)
    (options : ClaimOptions) : Except SinkError (Binding × Int) :=
  match options.consumedAt with
  | none => .error .unknownOrReplayed
  | some consumedAt =>
    if attempt.expiresAt ≤ consumedAt then .error .unknownOrReplayed
    else if state.isAborted attempt.signal then .error .denied
    else do
      let digest ← selectorDigest env options.targetSelector
      if digest ≠ attempt.targetSelectorDigest then .error .bindingInvalid
      else if !options.resolverIsFunction then .error .bindingInvalid
      else
        let binding ← normalizeBinding (claimedBinding attempt options)
        return (binding, consumedAt)

def claimAttempt (env : SinkEnv) (state : SinkState) (attempt : AttemptState)
    (options : ClaimOptions) : ActivePermits × ClaimPhase :=
  match checkClaim env state attempt options with
  | .error error => (state.permits, .refused error)
  | .ok (binding, consumedAt) =>
    match usePermit env state.permits attempt binding consumedAt options with
    | (permits, .error error) => (permits, .refused error)
    | (permits, .ok receipt) =>
      if state.isAborted attempt.signal then (permits, .refused .denied)
      else (permits, .revalidating ⟨attempt, binding, receipt⟩)

/-- `authority.allowed !== true || authority.revoked === true`. -/
def AuthorityAnswer.phase (answer : AuthorityAnswer) : Option SinkError :=
  match answer.revoked, answer.allowed with
  | .bool true, _ => some .revoked
  | _, .bool true => none
  | _, _ => some .denied

def answerAuthority (state : SinkState) (pending : PendingClaim) :
    Option AuthorityAnswer → ClaimPhase
  | none => .refused .denied
  | some answer =>
    match answer.phase with
    | some error => .refused error
    | none =>
      if state.isAborted pending.state.signal then .refused .denied
      else .resolving pending answer

def fieldsOf : Json → List (String × Json)
  | .obj fields => fields
  | _ => []

def currentBinding (binding : Binding) (authority : AuthorityAnswer) (resource : ResourceAnswer) :
    Json :=
  .obj [("audience", toJson binding.audience), ("subject", authority.subject),
    ("operationId", toJson binding.operationId), ("effect", resource.effect),
    ("requestDigest", SinkDigest.toJson binding.requestDigest),
    ("context", contextWith (fieldsOf authority.context) resource.resourceRevision)]

def answerResource (state : SinkState) (pending : PendingClaim) (authority : AuthorityAnswer) :
    Option ResourceAnswer → ClaimPhase
  | none => .refused .denied
  | some resource =>
    if state.isAborted pending.state.signal then .refused .denied
    else if currentBindingMatches (currentBinding pending.binding authority resource)
        pending.binding then .returned pending.consumptionReceipt
    else .refused .currentBindingMismatch

inductive SinkEvent
  | create (options : CreateOptions)
  | claim (options : ClaimOptions)
  | authorityAnswers (claim : ClaimId) (answer : Option AuthorityAnswer)
  | resourceAnswers (claim : ClaimId) (answer : Option ResourceAnswer)
  | abort (signal : SignalId)
  | mint (input : MintInput) (token : PermitToken)
  | consume (token : String) (expected : ExpectedBinding) (now : Option Int)

namespace SinkState

variable (env : SinkEnv) (state : SinkState)

def setPhase (row : ClaimRow) (phase : ClaimPhase) : SinkState :=
  { state with claims := state.claims.set { row with phase := phase } }

def addClaim (attempt : Option AttemptId) (phase : ClaimPhase) : SinkState :=
  { state with
    claims := state.claims.set ⟨state.nextClaim, attempt, phase⟩
    nextClaim := state.nextClaim + 1 }

def step : SinkEvent → SinkState
  | .create options =>
    match createFinalProtectedSinkAttempt env state.nextAttempt options with
    | .error _ => state
    | .ok attempt =>
      { state with
        attempts := state.attempts.set attempt
        nextAttempt := state.nextAttempt + 1 }
  | .claim options =>
    match options.attempt.bind state.attempts.find? with
    | none => state.addClaim options.attempt (.refused .unknownOrReplayed)
    | some attempt =>
      let claimed := claimAttempt env state attempt options
      { state with
        attempts := state.attempts.deleteWhere fun other => other.attempt = attempt.attempt
        permits := claimed.1 }.addClaim options.attempt claimed.2
  | .authorityAnswers claim answer =>
    match state.claims.find? claim with
    | some ⟨claim, attempt, .revalidating pending⟩ =>
      state.setPhase ⟨claim, attempt, .revalidating pending⟩
        (answerAuthority state pending answer)
    | _ => state
  | .resourceAnswers claim answer =>
    match state.claims.find? claim with
    | some ⟨claim, attempt, .resolving pending authority⟩ =>
      state.setPhase ⟨claim, attempt, .resolving pending authority⟩
        (answerResource state pending authority answer)
    | _ => state
  | .abort signal => { state with aborted := signal :: state.aborted }
  | .mint input token =>
    match mintGovernedExecutionPermit env state.permits input token with
    | .error _ => state
    | .ok permits => { state with permits := permits }
  | .consume token expected now =>
    { state with permits := (consumeGovernedExecutionPermit env state.permits token expected
        now).1 }

abbrev run (events : List SinkEvent) : SinkState := runAll (step env) .initial events

end SinkState

end LicoMesh.ProtectedSink
