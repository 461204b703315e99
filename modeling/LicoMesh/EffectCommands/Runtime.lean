import LicoMesh.EffectCommands.Authority

namespace LicoMesh.EffectCommands

open Library WorkQueue ProtectedSink

/-! The runtime of effect commands. An execution runs without interruption up to the call of the
revalidator, from its answer up to the call of the sink, and from that answer to its end; anything
may happen in between. -/

structure EffectRecord where
  binding : EffectBinding
  command : EffectCommand
  resultState : ResultState
  cancellationState : CancellationState
  authorizationReResolved : Bool
  reasonCode : String

open EffectRecord

abbrev EffectRecords := Table String EffectRecord fun record => record.binding.effectId.val

structure EffectResult where
  ok : Bool
  effectId : Option String
  command : Option EffectCommand
  resultState : Option ResultState
  cancellationState : CancellationState
  invokedSink : Bool
  permitConsumed : Bool
  retryAllowed : Bool
  authorizationReResolved : Bool
  compensated : Bool
  owned : Bool
  reasonCode : String
  originalEffectId : Option String

abbrev Outcome := Except EffectError EffectResult

/-- The `extras` of a projection. -/
structure Extras where
  ok : Bool := true
  invokedSink : Bool := false
  permitConsumed : Bool := false
  retryAllowed : Bool := false
  authorizationReResolved : Bool := false
  owned : Bool := true
  reasonCode : String
  effectId : String := ""

/-- `left || right || null` for ids. -/
def presentId (id : String) : Option String := if id = "" then none else some id

def project (record : Option EffectRecord) (extras : Extras) : EffectResult where
  ok := extras.ok
  effectId := record.elim (presentId extras.effectId) fun record => record.binding.effectId.val
  command := record.map command
  resultState := record.map resultState
  cancellationState := record.elim .none cancellationState
  invokedSink := extras.invokedSink
  permitConsumed := extras.permitConsumed
  retryAllowed := extras.retryAllowed
  authorizationReResolved :=
    extras.authorizationReResolved || record.any authorizationReResolved
  compensated := false
  owned := extras.owned
  reasonCode :=
    if text (.str extras.reasonCode) ≠ "" then text (.str extras.reasonCode)
    else record.elim "ok" reasonCode
  originalEffectId := none

def denied (record : Option EffectRecord) (reasonCode effectId : String)
    (authorizationReResolved owned : Bool) : EffectResult :=
  project record { ok := false, reasonCode, effectId, authorizationReResolved, owned }

def maxRecords : Nat := 4096

def remember (records : EffectRecords) (record : EffectRecord) : Except EffectError EffectRecords :=
  if records.find? record.binding.effectId.val = none ∧ maxRecords ≤ records.rows.length then
    .error .backpressure
  else .ok (records.set record)

def effectRetryAllowed (command : EffectCommand) : Bool :=
  command.resultState ≠ .uncertain && command.resultState ≠ .cancelled &&
    command.binding.idempotency = .idempotent && command.resultState = .accepted

structure RetryFence where
  allowed : Bool
  reasonCode : String

/-- `retryFence` of a record. -/
def EffectRecord.retryFence (record : EffectRecord) : RetryFence :=
  if record.resultState = .uncertain then ⟨false, "conflict.effect_uncertain"⟩
  else if record.resultState = .cancelled ∨ record.binding.idempotency ≠ .idempotent then
    ⟨false, "conflict.effect_not_retryable"⟩
  else ⟨effectRetryAllowed record.command, "effect_idempotent_replay"⟩

def commandKeys : List String :=
  ["family", "effectId", "idempotency", "principalLookup", "grantLookup", "targetRef", "policyRef",
    "approvalLookup", "audienceRef", "requestRef", "cancellationState", "resultState", "auditRef",
    "compensationRef"]

/-- Whether a value is a text other than `expected`, or no text at all. -/
def differsFrom (value : Json) (expected : String) : Bool :=
  match value with
  | .str given => given ≠ expected
  | _ => true

/-- `bind`; the reason of a refusal. The projection has no key of a CRDT. -/
def bindCommand (input : Json) : Except String EffectBinding :=
  let family := input.get "family"
  if family.isTruthy && differsFrom family effectCommandFamily then .error "effect_family_separated"
  else if commandKeys.any fun key => containsForbiddenKeys (input.get key) then
    .error "effect_privacy_forbidden"
  else
    match bindLookups input with
    | .ok bound => .ok bound
    | .error error => .error (error.code.getD "effect_command_binding_incomplete")

def settledRecord (bound : EffectBinding) (resultState : ResultState)
    (cancellationState : CancellationState) (authorizationReResolved : Bool)
    (reasonCode : String) : Except EffectError EffectRecord := do
  let command ← bound.toCommand resultState cancellationState
  return ⟨bound, command, resultState, cancellationState, authorizationReResolved, reasonCode⟩

def rememberOutcome (records : EffectRecords) (settled : Except EffectError EffectRecord)
    (extras : EffectRecord → Extras) : EffectRecords × Outcome :=
  match settled with
  | .error error => (records, .error error)
  | .ok record =>
    match remember records record with
    | .error error => (records, .error error)
    | .ok remembered => (remembered, .ok (project (some record) (extras record)))

def requestsCancellation (input : Json) : Bool :=
  match cancellationStateValue (input.get "cancellationState") with
  | some .requested => true
  | some .cancelled => true
  | _ => false

def replayExtras (existing : EffectRecord) : Extras where
  ok := existing.retryFence.reasonCode = "effect_idempotent_replay"
  retryAllowed := existing.retryFence.allowed && existing.resultState = .accepted
  reasonCode := existing.retryFence.reasonCode

inductive CallPhase
  | revalidating (pending : PendingEffect)
  | performing (bound : EffectBinding)
  | settled (outcome : Outcome)

def beginExecution (records : EffectRecords) (input : Json) : EffectRecords × CallPhase :=
  match bindCommand input with
  | .error reason =>
    (records, .settled (.ok (denied none reason (opaqueId (input.get "effectId")) false true)))
  | .ok bound =>
    match records.find? bound.effectId.val with
    | some existing =>
      (records, .settled (.ok (project (some existing) (replayExtras existing))))
    | none =>
      if requestsCancellation input then
        let cancelled := rememberOutcome records
          (settledRecord bound .cancelled .cancelled false "effect_cancelled")
          fun _ => { reasonCode := "effect_cancelled" }
        (cancelled.1, .settled cancelled.2)
      else (records, .revalidating ⟨bound, input⟩)

def authorize (env : EffectEnv) (permits : ActivePermits) (pending : PendingEffect)
    (answer : Option Json) (clock : Int) (token : PermitToken) :
    ActivePermits × Except String (CurrentEffectAuthorization × PermitConsumptionReceipt) :=
  match currentAuthority pending answer with
  | .error reason => (permits, .error reason)
  | .ok authority =>
    if !authority.allowed then (permits, .error authority.reasonCode)
    else if authority.lookups ≠ pending.bound.lookups then
      (permits, .error "conflict.authorization_changed")
    else
      let consumed := consumeEffectPermit env permits pending.bound authority clock token
      (consumed.1, consumed.2.map fun receipt => (authority, receipt))

structure SinkInput where
  effectId : OpaqueId
  idempotency : Idempotency
  targetRef : OpaqueId
  permitReceipt : PermitConsumptionReceipt
  principalDigest : Sha256Digest
  currentRevisions : List OpaqueId

def sinkInput (env : EffectEnv) (bound : EffectBinding) (authority : CurrentEffectAuthorization)
    (receipt : PermitConsumptionReceipt) : SinkInput where
  effectId := bound.effectId
  idempotency := bound.idempotency
  targetRef := bound.lookups.targetRef
  permitReceipt := receipt
  principalDigest := env.digestGovernedExecutionPrincipal (effectPrincipal authority)
  currentRevisions := [authority.grantRevision, authority.policyRevision,
    authority.approvalRevision, authority.riskRevision, authority.workloadGeneration]

def answeredStates (answer : Json) : ResultState × CancellationState :=
  let record := recordOr answer
  ((resultStateValue (record.get "resultState")).getD .accepted,
    (cancellationStateValue (record.get "cancellationState")).getD .none)

/-- The end of an execution; `none` is a sink that fails. -/
def endExecution (records : EffectRecords) (bound : EffectBinding) (answer : Option Json) :
    EffectRecords × Outcome :=
  match answer with
  | none =>
    rememberOutcome records
      (settledRecord bound .uncertain .none true "conflict.effect_uncertain")
      fun _ => { ok := false, invokedSink := true, permitConsumed := true,
                 authorizationReResolved := true, reasonCode := "conflict.effect_uncertain" }
  | some answer =>
    let states := answeredStates answer
    rememberOutcome records
      (settledRecord bound states.1 states.2 true
        (if states.1 = .uncertain then "conflict.effect_uncertain" else "ok"))
      fun record => { ok := states.1 ≠ .uncertain, invokedSink := true, permitConsumed := true,
                      retryAllowed := effectRetryAllowed record.command,
                      authorizationReResolved := true, reasonCode := record.reasonCode }

def retry (records : EffectRecords) (input : Json) : EffectResult :=
  let effectId := opaqueId (input.get "effectId")
  let existing := records.find? effectId
  if isTrue (input.get "silent") || isTrue (input.get "automatic") then
    denied existing "silent_uncertain_retry_forbidden" effectId false existing.isSome
  else
    match existing with
    | none => denied none "unowned_external_effect" effectId false false
    | some record =>
      project record {
        ok := record.retryFence.reasonCode = "effect_idempotent_replay"
        retryAllowed := record.retryFence.allowed
        reasonCode := record.retryFence.reasonCode }

def cancel (records : EffectRecords) (input : Json) : EffectRecords × Outcome :=
  match requiredOpaque (input.get "effectId") "effectId" with
  | .error error => (records, .error error)
  | .ok effectId =>
    match records.find? effectId.val with
    | none => (records, .ok (denied none "unowned_external_effect" effectId.val false false))
    | some existing =>
      if existing.resultState ≠ .cancelled then
        (records, .ok (project existing { ok := false, reasonCode := "effect_already_settled" }))
      else
        rememberOutcome records
          (settledRecord existing.binding .cancelled .cancelled
            existing.authorizationReResolved "effect_cancelled")
          fun _ => { reasonCode := "effect_cancelled" }

def compensationInput (existing : EffectRecord) (input : Json) : Except EffectError Json := do
  let original := existing.binding
  let compensationId ← requiredOpaque
    (orElse (input.get "compensationEffectId") (.str ("eff.comp." ++ original.effectId.val)))
    "compensationEffectId"
  let auditRef ← requiredOpaque
    (orElse (input.get "auditRef") (.str ("audt." ++ compensationId.val))) "auditRef"
  return .obj ([("effectId", .str compensationId.val),
    ("idempotency", orElse (input.get "idempotency") (.str "non_idempotent"))] ++
      original.lookups.fields ++
        [("compensationRef", .str original.effectId.val), ("auditRef", .str auditRef.val),
          ("authorization", input.get "authorization")])

def compensationResult (original : Option OpaqueId) (result : EffectResult) : EffectResult :=
  match original with
  | none => result
  | some original =>
    { result with
      compensated := result.ok
      owned := true
      originalEffectId := some original.val
      reasonCode := if result.ok then "compensation_issued" else result.reasonCode }

def unownedCompensation (originalId : String) : EffectResult :=
  { denied none "unowned_external_effect" "" false false with
    originalEffectId := presentId originalId }

abbrev CallId := Nat

structure EffectCall where
  call : CallId
  compensates : Option OpaqueId
  phase : CallPhase

structure SinkCall where
  call : CallId
  bound : EffectBinding
  authority : CurrentEffectAuthorization
  input : SinkInput
  recordThen : Option EffectRecord

inductive EffectEvent
  | revalidated (call : CallId) (request decision : Json)
      (authority : CurrentEffectAuthorization)
  | consumed (call : CallId) (receipt : PermitConsumptionReceipt)
  | sinkCalled (sinkCall : SinkCall)

structure EffectRuntime where
  records : EffectRecords
  permits : ActivePermits
  calls : Table CallId EffectCall EffectCall.call
  nextCall : CallId
  /-- What was done for the calls of the sink, the newest first. -/
  trace : List EffectEvent

def EffectRuntime.initial (permits : ActivePermits) : EffectRuntime where
  records := .empty
  permits := permits
  calls := .empty
  nextCall := 0
  trace := []

inductive EffectAction
  | execute (input : Json)
  | retry (input : Json)
  | cancel (input : Json)
  | compensate (input : Json)
  | authorityAnswers (call : CallId) (answer : Option Json) (clock : Int) (token : PermitToken)
  | sinkAnswers (call : CallId) (answer : Option Json)
  | permitsChange (permits : ActivePermits)

namespace EffectRuntime

variable (env : EffectEnv) (runtime : EffectRuntime)

def addCall (records : EffectRecords) (compensates : Option OpaqueId) (phase : CallPhase) :
    EffectRuntime :=
  { runtime with
    records := records
    calls := runtime.calls.set ⟨runtime.nextCall, compensates, phase⟩
    nextCall := runtime.nextCall + 1 }

def setPhase (row : EffectCall) (phase : CallPhase) : EffectRuntime :=
  { runtime with calls := runtime.calls.set { row with phase := phase } }

def settle (row : EffectCall) (outcome : Outcome) : EffectRuntime :=
  runtime.setPhase row (.settled (outcome.map (compensationResult row.compensates)))

def settleCompensation (original : Option OpaqueId) : CallPhase → CallPhase
  | .settled outcome => .settled (outcome.map (compensationResult original))
  | phase => phase

def compensate (input : Json) : EffectRuntime :=
  let originalId := opaqueId (input.get "effectId")
  match runtime.records.find? originalId with
  | none =>
    runtime.addCall runtime.records none (.settled (.ok (unownedCompensation originalId)))
  | some existing =>
    match compensationInput existing input with
    | .error error => runtime.addCall runtime.records none (.settled (.error error))
    | .ok compensation =>
      let begun := beginExecution runtime.records compensation
      let original := some existing.binding.effectId
      runtime.addCall begun.1 original (settleCompensation original begun.2)

def revalidation (row : EffectCall) (pending : PendingEffect) (answer : Option Json)
    (authority : CurrentEffectAuthorization) : EffectEvent :=
  .revalidated row.call pending.request (answer.getD .null) authority

def answerAuthority (row : EffectCall) (pending : PendingEffect) (answer : Option Json)
    (clock : Int) (token : PermitToken) : EffectRuntime :=
  let authorized := authorize env runtime.permits pending answer clock token
  let asked := { runtime with permits := authorized.1 }
  match authorized.2 with
  | .error reason =>
    asked.settle row (.ok (denied none reason pending.bound.effectId.val true true))
  | .ok (authority, receipt) =>
    { asked with
      trace :=
        .sinkCalled ⟨row.call, pending.bound, authority,
            sinkInput env pending.bound authority receipt,
            runtime.records.find? pending.bound.effectId.val⟩ ::
          .consumed row.call receipt :: revalidation row pending answer authority ::
            runtime.trace }.setPhase row (.performing pending.bound)

def answerSink (row : EffectCall) (bound : EffectBinding) (answer : Option Json) : EffectRuntime :=
  let ended := endExecution runtime.records bound answer
  { runtime with records := ended.1 }.settle row ended.2

def step : EffectAction → EffectRuntime
  | .execute input =>
    let begun := beginExecution runtime.records input
    runtime.addCall begun.1 none begun.2
  | .retry input =>
    runtime.addCall runtime.records none
      (.settled (.ok (EffectCommands.retry runtime.records input)))
  | .cancel input =>
    let cancelled := EffectCommands.cancel runtime.records input
    runtime.addCall cancelled.1 none (.settled cancelled.2)
  | .compensate input => runtime.compensate input
  | .authorityAnswers call answer clock token =>
    match runtime.calls.find? call with
    | some ⟨call, compensates, .revalidating pending⟩ =>
      runtime.answerAuthority env ⟨call, compensates, .revalidating pending⟩ pending answer clock
        token
    | _ => runtime
  | .sinkAnswers call answer =>
    match runtime.calls.find? call with
    | some ⟨call, compensates, .performing bound⟩ =>
      runtime.answerSink ⟨call, compensates, .performing bound⟩ bound answer
    | _ => runtime
  | .permitsChange permits => { runtime with permits := permits }

abbrev run (permits : ActivePermits) (actions : List EffectAction) : EffectRuntime :=
  runAll (step env) (.initial permits) actions

end EffectRuntime

end LicoMesh.EffectCommands
