import LicoMesh.Library.TableMerge
import LicoMesh.ProtectedSink.Binding

namespace LicoMesh.ProtectedSink

open Library WorkQueue

structure SinkEnv where
  sha256 : String → Sha256Digest

abbrev JsonValue := { value : Json // value.isValue = true }

namespace SinkEnv

variable (env : SinkEnv)

def canonicalDigest (value : Json) : Sha256Digest :=
  env.sha256 (String.ofList (canonicalJson value))

/-- `/[\p{Cc}\p{Cf}]/u`. -/
def isControlOrFormat (c : Char) : Bool :=
  [(0x00, 0x1F), (0x7F, 0x9F), (0xAD, 0xAD), (0x600, 0x605), (0x61C, 0x61C), (0x6DD, 0x6DD),
    (0x70F, 0x70F), (0x890, 0x891), (0x8E2, 0x8E2), (0x180E, 0x180E), (0x200B, 0x200F),
    (0x202A, 0x202E), (0x2060, 0x2064), (0x2066, 0x206F), (0xFEFF, 0xFEFF), (0xFFF9, 0xFFFB),
    (0x110BD, 0x110BD), (0x110CD, 0x110CD), (0x13430, 0x1343F), (0x1BCA0, 0x1BCA3),
    (0x1D173, 0x1D17A), (0xE0001, 0xE0001), (0xE0020, 0xE007F)].any fun range =>
      range.1 ≤ c.toNat && c.toNat ≤ range.2

def maxProofRefBytes : Nat := 256

def proofReferenceDigest (value : Json) : Except SinkError String :=
  match value with
  | .str exactValue =>
    if exactValue = "" || maxProofRefBytes < Json.byteLength exactValue.toList ||
        exactValue.toList.any isControlOrFormat then .error .proofRefInvalid
    else .ok ("sha256:" ++ (env.canonicalDigest
      (.obj [("schemaVersion", .str "v0.0.1:security:governed-execution-proof-reference-1"),
        ("proofRef", .str exactValue)])).hex)
  | _ => .error .proofRefInvalid

end SinkEnv

/-- `String(value ?? "").trim()`. -/
def textOf (value : Json) : String := String.ofList (trimChars value.text)

/-- `left || right`. -/
def orElse (left right : Json) : Json := if left.isTruthy then left else right

def SinkEnv.digestGovernedExecutionPrincipal (env : SinkEnv) (value : Json) : Sha256Digest :=
  env.canonicalDigest (.obj
    [("type", .str (textOf (value.get "type"))),
      ("subjectId", .str (textOf (orElse (value.get "subjectId") (value.get "userId")))),
      ("tenantId", .str (textOf (value.get "tenantId"))),
      ("orgId", .str (textOf (value.get "orgId"))),
      ("grantId", .str (textOf (value.get "grantId"))),
      ("generation",
        .str (textOf (orElse (value.get "generation") (value.get "workloadGeneration"))))])

structure PermitBinding where
  permitDigest : Sha256Digest
  operationId : String
  audience : String
  principalDigest : Sha256Digest
  resourceDigest : Sha256Digest
  requestDigest : String
  proofRef : String
  authorizationDigest : Sha256Digest
  approvalDigest : Sha256Digest
  riskDigest : Sha256Digest
  expiresAt : Int

/-- `activePermits`, in insertion order. -/
abbrev ActivePermits := Table Sha256Digest PermitBinding PermitBinding.permitDigest

structure PermitConsumptionReceipt where
  permitDigest : Sha256Digest
  operationId : String
  audience : String
  principalDigest : Sha256Digest
  resourceDigest : Sha256Digest
  requestDigest : String
  proofRef : String
  authorizationDigest : Sha256Digest
  approvalDigest : Sha256Digest
  riskDigest : Sha256Digest
  consumedAt : Int

def defaultTtlMs : Int := 15000

def maxActivePermits : Nat := 4096

def purgeExpired (permits : ActivePermits) (now : Int) : ActivePermits :=
  let live := permits.deleteWhere fun binding => binding.expiresAt ≤ now
  let oldest := live.rows.take (live.rows.length + 1 - maxActivePermits)
  live.deleteWhere fun binding => oldest.any fun old => old.permitDigest = binding.permitDigest

structure MintInput where
  operationId : Json
  audience : Json
  principal : Json
  resource : Json
  requestDigest : Json
  proofRef : Json
  authorization : Json
  approval : Json
  risk : Json
  ttlMs : Int
  now : Int

/-- A token: `mxp_` and the base64url of 32 random bytes. -/
abbrev PermitToken := { token : String // token.startsWith "mxp_" = true ∧ toText token = token }

/-- `Math.min(limit, Math.max(1, Number(ttlMs) || DEFAULT))`. -/
def lifetimeOf (limit ttlMs : Int) : Int :=
  min limit (max 1 (if ttlMs = 0 then defaultTtlMs else ttlMs))

/-- The map after the call, whose result is the token. -/
def mintGovernedExecutionPermit (env : SinkEnv) (permits : ActivePermits) (input : MintInput)
    (token : PermitToken) : Except SinkError ActivePermits := do
  let proofRef ← env.proofReferenceDigest input.proofRef
  if textOf input.operationId = "" || textOf input.audience = "" ||
      textOf input.requestDigest = "" then .error .bindingIncomplete
  else
    .ok ((purgeExpired permits input.now).set
      { permitDigest := env.sha256 token.val
        operationId := textOf input.operationId
        audience := textOf input.audience
        principalDigest := env.digestGovernedExecutionPrincipal input.principal
        resourceDigest := env.canonicalDigest input.resource
        requestDigest := textOf input.requestDigest
        proofRef := proofRef
        authorizationDigest := env.canonicalDigest input.authorization
        approvalDigest := env.canonicalDigest input.approval
        riskDigest := env.canonicalDigest input.risk
        expiresAt := input.now + lifetimeOf defaultTtlMs input.ttlMs })

structure ExpectedBinding where
  operationId : Json
  audience : Json
  requestDigest : Json
  principal : Json
  resource : Option Json

def fieldMatches (bound : String) (expected : Json) : Bool :=
  textOf expected ≠ "" && bound = textOf expected

/-- The checks of a permit that was found; `now` is `none` when it is no finite number. -/
def PermitBinding.consume (env : SinkEnv) (binding : PermitBinding) (expected : ExpectedBinding)
    (now : Option Int) : Except SinkError PermitConsumptionReceipt :=
  if now.any fun now => binding.expiresAt ≤ now then .error .permitExpired
  else if !(fieldMatches binding.operationId expected.operationId &&
      fieldMatches binding.audience expected.audience &&
        fieldMatches binding.requestDigest expected.requestDigest) then .error .bindingMismatch
  else if expected.principal.isTruthy &&
      binding.principalDigest ≠ env.digestGovernedExecutionPrincipal expected.principal then
    .error .principalMismatch
  else if expected.resource.any fun resource =>
      binding.resourceDigest ≠ env.canonicalDigest resource then .error .resourceMismatch
  else
    match now with
    | none => .error .invalidDate
    | some now => .ok
        { permitDigest := binding.permitDigest
          operationId := binding.operationId
          audience := binding.audience
          principalDigest := binding.principalDigest
          resourceDigest := binding.resourceDigest
          requestDigest := binding.requestDigest
          proofRef := binding.proofRef
          authorizationDigest := binding.authorizationDigest
          approvalDigest := binding.approvalDigest
          riskDigest := binding.riskDigest
          consumedAt := now }

def consumeGovernedExecutionPermit (env : SinkEnv) (permits : ActivePermits) (token : String)
    (expected : ExpectedBinding) (now : Option Int) :
    ActivePermits × Except SinkError PermitConsumptionReceipt :=
  if !(toText token).startsWith "mxp_" then (permits, .error .permitInvalid)
  else
    let permitDigest := env.sha256 (toText token)
    (permits.deleteWhere fun binding => binding.permitDigest = permitDigest,
      match permits.find? permitDigest with
      | none => .error .unknownOrReplayed
      | some binding => binding.consume env expected now)

theorem consume_minted

    (mint : mintGovernedExecutionPermit env permits input token = .ok minted)
    (consume : (consumeGovernedExecutionPermit env minted token.val expected now).2 = .ok receipt) :
    receipt.operationId = textOf input.operationId ∧ receipt.audience = textOf input.audience ∧
      receipt.principalDigest = env.digestGovernedExecutionPrincipal input.principal ∧
        receipt.resourceDigest = env.canonicalDigest input.resource ∧
          receipt.requestDigest = textOf input.requestDigest := by
  unfold mintGovernedExecutionPermit at mint
  cases proofRef : env.proofReferenceDigest input.proofRef with
  | error error =>
    rw [proofRef] at mint
    cases mint
  | ok digest =>
    rw [proofRef] at mint
    split at mint
    · cases mint
    · cases mint
      unfold consumeGovernedExecutionPermit at consume
      rw [token.property.2, token.property.1] at consume
      simp only [Bool.not_true, Bool.false_eq_true, if_false, Table.find?_set, if_true] at consume
      unfold PermitBinding.consume at consume
      split at consume
      · cases consume
      · split at consume
        · cases consume
        · split at consume
          · cases consume
          · split at consume
            · cases consume
            · cases now with
              | none => cases consume
              | some now =>
                cases consume
                exact ⟨rfl, rfl, rfl, rfl, rfl⟩

end LicoMesh.ProtectedSink
