import Mathlib.Algebra.Group.Int.Defs
import Mathlib.Algebra.GroupWithZero.Nat
import Mathlib.Data.Int.Basic

namespace LicoMesh.WorkQueue

/-! Queue policies: the limits of a queue, their defaults, merging and validation. -/

structure QueueError where
  message : String
  code : Option String := none
  reason : Option String := none
  limit : Option Nat := none
  expectedCheckpointSeq : Option Nat := none

/-- `Number.MAX_SAFE_INTEGER`. -/
def maxSafeInteger : Nat := 9007199254740991

/-- A limit `getPolicy` accepts: a positive safe integer. -/
abbrev PolicyLimit := { limit : Nat // 1 ≤ limit ∧ limit ≤ maxSafeInteger }

structure CapacityPolicy (ν : Type) where
  maxPayloadRefBytes : ν
  maxOutstanding : ν
  maxOutstandingPerTenant : ν
  maxOutstandingPerWorkspace : ν
  maxOutstandingPerProject : ν
  maxDelayed : ν
  maxLeased : ν
  maxLeasedPerTenant : ν
  maxLeasedPerWorkspace : ν
  maxLeasedPerProject : ν
  maxFailed : ν
  deriving DecidableEq

structure RetentionPolicy (ν : Type) where
  maxTerminalItems : ν
  maxJournalEntries : ν
  maxTransitionsPerWorkItem : ν
  cleanupBatchSize : ν
  deriving DecidableEq

structure FairnessPolicy (ν : Type) where
  agingIntervalMs : ν
  agingBatchSize : ν
  minReservedLeasesPerPartition : ν
  reservationScanLimit : ν
  deriving DecidableEq

structure WorkExpiryPolicy (ν : Type) where
  defaultLifetimeMs : ν
  maxLifetimeMs : ν
  deriving DecidableEq

structure RetryBackoffPolicy (ν τ : Type) where
  initialDelayMs : ν
  multiplier : ν
  maxDelayMs : ν
  retrySeed : τ
  maxJitterBps : ν
  deriving DecidableEq

/-- A policy after `getPolicy`: every limit of the three checked groups is valid. -/
structure QueuePolicy where
  policyVersion : String
  leaseTimeoutMs : Int
  maxAttempts : Int
  workExpiry : WorkExpiryPolicy Int
  retryBackoff : RetryBackoffPolicy Nat String
  capacity : CapacityPolicy PolicyLimit
  retention : RetentionPolicy PolicyLimit
  fairness : FairnessPolicy PolicyLimit

/-- The policy object of a queue definition or of the store options; `none` is an
absent key. -/
structure PolicyInput where
  policyVersion : Option String := none
  leaseTimeoutMs : Option Int := none
  maxAttempts : Option Int := none
  workExpiry : Option (WorkExpiryPolicy (Option Int)) := none
  retryBackoff : Option (RetryBackoffPolicy (Option Nat) (Option String)) := none
  capacity : Option (CapacityPolicy (Option Int)) := none
  retention : Option (RetentionPolicy (Option Int)) := none
  fairness : Option (FairnessPolicy (Option Int)) := none
  deriving DecidableEq

section Groups

variable {α β γ : Type}

def CapacityPolicy.map₂ (f : α → β → γ) (left : CapacityPolicy α)
    (right : CapacityPolicy β) : CapacityPolicy γ where
  maxPayloadRefBytes := f left.maxPayloadRefBytes right.maxPayloadRefBytes
  maxOutstanding := f left.maxOutstanding right.maxOutstanding
  maxOutstandingPerTenant := f left.maxOutstandingPerTenant right.maxOutstandingPerTenant
  maxOutstandingPerWorkspace :=
    f left.maxOutstandingPerWorkspace right.maxOutstandingPerWorkspace
  maxOutstandingPerProject := f left.maxOutstandingPerProject right.maxOutstandingPerProject
  maxDelayed := f left.maxDelayed right.maxDelayed
  maxLeased := f left.maxLeased right.maxLeased
  maxLeasedPerTenant := f left.maxLeasedPerTenant right.maxLeasedPerTenant
  maxLeasedPerWorkspace := f left.maxLeasedPerWorkspace right.maxLeasedPerWorkspace
  maxLeasedPerProject := f left.maxLeasedPerProject right.maxLeasedPerProject
  maxFailed := f left.maxFailed right.maxFailed

def RetentionPolicy.map₂ (f : α → β → γ) (left : RetentionPolicy α)
    (right : RetentionPolicy β) : RetentionPolicy γ where
  maxTerminalItems := f left.maxTerminalItems right.maxTerminalItems
  maxJournalEntries := f left.maxJournalEntries right.maxJournalEntries
  maxTransitionsPerWorkItem :=
    f left.maxTransitionsPerWorkItem right.maxTransitionsPerWorkItem
  cleanupBatchSize := f left.cleanupBatchSize right.cleanupBatchSize

def FairnessPolicy.map₂ (f : α → β → γ) (left : FairnessPolicy α)
    (right : FairnessPolicy β) : FairnessPolicy γ where
  agingIntervalMs := f left.agingIntervalMs right.agingIntervalMs
  agingBatchSize := f left.agingBatchSize right.agingBatchSize
  minReservedLeasesPerPartition :=
    f left.minReservedLeasesPerPartition right.minReservedLeasesPerPartition
  reservationScanLimit := f left.reservationScanLimit right.reservationScanLimit

def CapacityPolicy.map (f : α → β) (group : CapacityPolicy α) : CapacityPolicy β :=
  group.map₂ (fun value _ => f value) group

def RetentionPolicy.map (f : α → β) (group : RetentionPolicy α) : RetentionPolicy β :=
  group.map₂ (fun value _ => f value) group

def FairnessPolicy.map (f : α → β) (group : FairnessPolicy α) : FairnessPolicy β :=
  group.map₂ (fun value _ => f value) group

end Groups

/-- `{ ...base, ...override }` on one field. -/
def spread {α : Type} (base override : Option α) : Option α := override <|> base

/-- `{ ...base.group, ...override.group }` where an absent override group adds nothing. -/
def spreadGroup {γ : Type} (merge : γ → γ → γ) (base : γ) (override : Option γ) : Option γ :=
  some (override.elim base (merge base))

def policyLimit (value : Nat) (valid : 1 ≤ value ∧ value ≤ maxSafeInteger) : PolicyLimit :=
  ⟨value, valid⟩

def defaultCapacity : CapacityPolicy PolicyLimit where
  maxPayloadRefBytes := policyLimit (16 * 1024) (by decide)
  maxOutstanding := policyLimit 10000 (by decide)
  maxOutstandingPerTenant := policyLimit 2000 (by decide)
  maxOutstandingPerWorkspace := policyLimit 1000 (by decide)
  maxOutstandingPerProject := policyLimit 500 (by decide)
  maxDelayed := policyLimit 5000 (by decide)
  maxLeased := policyLimit 1000 (by decide)
  maxLeasedPerTenant := policyLimit 256 (by decide)
  maxLeasedPerWorkspace := policyLimit 128 (by decide)
  maxLeasedPerProject := policyLimit 64 (by decide)
  maxFailed := policyLimit 2000 (by decide)

def defaultRetention : RetentionPolicy PolicyLimit where
  maxTerminalItems := policyLimit 5000 (by decide)
  maxJournalEntries := policyLimit 200000 (by decide)
  maxTransitionsPerWorkItem := policyLimit 64 (by decide)
  cleanupBatchSize := policyLimit 128 (by decide)

theorem one_isLimit : 1 ≤ 1 ∧ 1 ≤ maxSafeInteger := by decide

def defaultFairness : FairnessPolicy PolicyLimit where
  agingIntervalMs := policyLimit 60000 (by decide)
  agingBatchSize := policyLimit 128 (by decide)
  minReservedLeasesPerPartition := policyLimit 1 one_isLimit
  reservationScanLimit := policyLimit 256 (by decide)

def defaultQueuePolicy : QueuePolicy where
  policyVersion := "v0.0.1:workflow:work-queue-default-1"
  leaseTimeoutMs := 30000
  maxAttempts := 16
  workExpiry :=
    { defaultLifetimeMs := 7 * 24 * 60 * 60 * 1000
      maxLifetimeMs := 30 * 24 * 60 * 60 * 1000 }
  retryBackoff :=
    { initialDelayMs := 1000
      multiplier := 2
      maxDelayMs := 300000
      retrySeed := "meshrix-work-queue-retry"
      maxJitterBps := 2000 }
  capacity := defaultCapacity
  retention := defaultRetention
  fairness := defaultFairness

/-- The check of one entry of `positiveIntegerFields`. -/
def positiveLimit (group key : String) (value : Int) : Except QueueError PolicyLimit :=
  if valid : 1 ≤ value.toNat ∧ value.toNat ≤ maxSafeInteger then .ok ⟨value.toNat, valid⟩
  else .error
    { message := "Queue policy " ++ group ++ "." ++ key ++ " must be a finite positive integer."
      code := some "work_queue_policy_invalid"
      reason := some (group ++ "." ++ key) }

def checkCapacity (group : CapacityPolicy Int) :
    Except QueueError (CapacityPolicy PolicyLimit) := do
  let maxPayloadRefBytes ← positiveLimit "capacity" "maxPayloadRefBytes" group.maxPayloadRefBytes
  let maxOutstanding ← positiveLimit "capacity" "maxOutstanding" group.maxOutstanding
  let maxOutstandingPerTenant ←
    positiveLimit "capacity" "maxOutstandingPerTenant" group.maxOutstandingPerTenant
  let maxOutstandingPerWorkspace ←
    positiveLimit "capacity" "maxOutstandingPerWorkspace" group.maxOutstandingPerWorkspace
  let maxOutstandingPerProject ←
    positiveLimit "capacity" "maxOutstandingPerProject" group.maxOutstandingPerProject
  let maxDelayed ← positiveLimit "capacity" "maxDelayed" group.maxDelayed
  let maxLeased ← positiveLimit "capacity" "maxLeased" group.maxLeased
  let maxLeasedPerTenant ← positiveLimit "capacity" "maxLeasedPerTenant" group.maxLeasedPerTenant
  let maxLeasedPerWorkspace ←
    positiveLimit "capacity" "maxLeasedPerWorkspace" group.maxLeasedPerWorkspace
  let maxLeasedPerProject ←
    positiveLimit "capacity" "maxLeasedPerProject" group.maxLeasedPerProject
  let maxFailed ← positiveLimit "capacity" "maxFailed" group.maxFailed
  return { maxPayloadRefBytes, maxOutstanding, maxOutstandingPerTenant,
           maxOutstandingPerWorkspace, maxOutstandingPerProject, maxDelayed, maxLeased,
           maxLeasedPerTenant, maxLeasedPerWorkspace, maxLeasedPerProject, maxFailed }

def checkRetention (group : RetentionPolicy Int) :
    Except QueueError (RetentionPolicy PolicyLimit) := do
  let maxTerminalItems ← positiveLimit "retention" "maxTerminalItems" group.maxTerminalItems
  let maxJournalEntries ← positiveLimit "retention" "maxJournalEntries" group.maxJournalEntries
  let maxTransitionsPerWorkItem ←
    positiveLimit "retention" "maxTransitionsPerWorkItem" group.maxTransitionsPerWorkItem
  let cleanupBatchSize ← positiveLimit "retention" "cleanupBatchSize" group.cleanupBatchSize
  return { maxTerminalItems, maxJournalEntries, maxTransitionsPerWorkItem, cleanupBatchSize }

def checkFairness (group : FairnessPolicy Int) :
    Except QueueError (FairnessPolicy PolicyLimit) := do
  let agingIntervalMs ← positiveLimit "fairness" "agingIntervalMs" group.agingIntervalMs
  let agingBatchSize ← positiveLimit "fairness" "agingBatchSize" group.agingBatchSize
  let minReservedLeasesPerPartition ←
    positiveLimit "fairness" "minReservedLeasesPerPartition" group.minReservedLeasesPerPartition
  let reservationScanLimit ←
    positiveLimit "fairness" "reservationScanLimit" group.reservationScanLimit
  return { agingIntervalMs, agingBatchSize, minReservedLeasesPerPartition, reservationScanLimit }

/-- `getPolicy`: defaults under the input, then the nineteen limit checks in order. -/
def getPolicy (inputPolicy : PolicyInput) : Except QueueError QueuePolicy := do
  let defaults := defaultQueuePolicy
  let fill := fun (given : Option Int) (fallback : PolicyLimit) =>
    given.getD (fallback.val : Int)
  let value := fun (fallback : PolicyLimit) => (fallback.val : Int)
  let capacity ← checkCapacity (inputPolicy.capacity.elim (defaults.capacity.map value)
    fun group => group.map₂ fill defaults.capacity)
  let retention ← checkRetention (inputPolicy.retention.elim (defaults.retention.map value)
    fun group => group.map₂ fill defaults.retention)
  let fairness ← checkFairness (inputPolicy.fairness.elim (defaults.fairness.map value)
    fun group => group.map₂ fill defaults.fairness)
  return {
    policyVersion := inputPolicy.policyVersion.getD defaults.policyVersion
    leaseTimeoutMs := inputPolicy.leaseTimeoutMs.getD defaults.leaseTimeoutMs
    maxAttempts := inputPolicy.maxAttempts.getD defaults.maxAttempts
    workExpiry := inputPolicy.workExpiry.elim defaults.workExpiry fun group =>
      { defaultLifetimeMs := group.defaultLifetimeMs.getD defaults.workExpiry.defaultLifetimeMs
        maxLifetimeMs := group.maxLifetimeMs.getD defaults.workExpiry.maxLifetimeMs }
    retryBackoff := inputPolicy.retryBackoff.elim defaults.retryBackoff fun group =>
      { initialDelayMs := group.initialDelayMs.getD defaults.retryBackoff.initialDelayMs
        multiplier := group.multiplier.getD defaults.retryBackoff.multiplier
        maxDelayMs := group.maxDelayMs.getD defaults.retryBackoff.maxDelayMs
        retrySeed := group.retrySeed.getD defaults.retryBackoff.retrySeed
        maxJitterBps := group.maxJitterBps.getD defaults.retryBackoff.maxJitterBps }
    capacity, retention, fairness }

namespace QueuePolicy

def toInput (policy : QueuePolicy) : PolicyInput where
  policyVersion := some policy.policyVersion
  leaseTimeoutMs := some policy.leaseTimeoutMs
  maxAttempts := some policy.maxAttempts
  workExpiry := some ⟨some policy.workExpiry.defaultLifetimeMs,
    some policy.workExpiry.maxLifetimeMs⟩
  retryBackoff := some
    ⟨some policy.retryBackoff.initialDelayMs, some policy.retryBackoff.multiplier,
      some policy.retryBackoff.maxDelayMs, some policy.retryBackoff.retrySeed,
      some policy.retryBackoff.maxJitterBps⟩
  capacity := some (policy.capacity.map fun limit => some (limit.val : Int))
  retention := some (policy.retention.map fun limit => some (limit.val : Int))
  fairness := some (policy.fairness.map fun limit => some (limit.val : Int))

end QueuePolicy

/-- `{ ...resolvedPolicy, ...override }`: an override group replaces the whole group. -/
def overridePolicy (resolved : QueuePolicy) (override : PolicyInput) : PolicyInput :=
  let base := resolved.toInput
  { policyVersion := spread base.policyVersion override.policyVersion
    leaseTimeoutMs := spread base.leaseTimeoutMs override.leaseTimeoutMs
    maxAttempts := spread base.maxAttempts override.maxAttempts
    workExpiry := spread base.workExpiry override.workExpiry
    retryBackoff := spread base.retryBackoff override.retryBackoff
    capacity := spread base.capacity override.capacity
    retention := spread base.retention override.retention
    fairness := spread base.fairness override.fairness }

/-- The merge of `policyForRow`, `policyForWorkItem` and `enqueue`: as
`overridePolicy`, but capacity and retention are merged field by field. -/
def mergePolicy (resolved : QueuePolicy) (override : PolicyInput) : PolicyInput :=
  { overridePolicy resolved override with
    capacity := spreadGroup (.map₂ spread)
      (resolved.capacity.map fun limit => some (limit.val : Int)) override.capacity
    retention := spreadGroup (.map₂ spread)
      (resolved.retention.map fun limit => some (limit.val : Int)) override.retention }

theorem positiveLimit_val (group key : String) (limit : PolicyLimit) :
    positiveLimit group key (limit.val : Int) = .ok limit := by
  have valid : 1 ≤ (limit.val : Int).toNat ∧ (limit.val : Int).toNat ≤ maxSafeInteger := by
    simpa using limit.property
  unfold positiveLimit
  rw [dif_pos valid]
  rfl

theorem getPolicy_toInput (policy : QueuePolicy) : getPolicy policy.toInput = .ok policy := by
  simp [getPolicy, QueuePolicy.toInput, CapacityPolicy.map, CapacityPolicy.map₂,
    RetentionPolicy.map, RetentionPolicy.map₂, FairnessPolicy.map, FairnessPolicy.map₂,
    checkCapacity, checkRetention, checkFairness, positiveLimit_val, pure, Except.pure, bind,
    Except.bind]

theorem getPolicy_mergePolicy_empty (policy : QueuePolicy) :
    getPolicy (mergePolicy policy {}) = .ok policy := by
  rw [← getPolicy_toInput policy]
  rfl

abbrev Sha256Digest := { bytes : List UInt8 // bytes.length = 32 }

/-- `Buffer.readUInt32BE(0)`. -/
def Sha256Digest.readUInt32BE (digest : Sha256Digest) : Nat :=
  (digest.val.take 4).foldl (fun total byte => total * 256 + byte.toNat) 0

def hexDigit (nibble : Nat) : Char :=
  if nibble < 10 then Char.ofNat (48 + nibble) else Char.ofNat (87 + nibble)

/-- `digest("hex")`. -/
def Sha256Digest.hex (digest : Sha256Digest) : String :=
  String.ofList
    (digest.val.flatMap fun byte => [hexDigit (byte.toNat / 16), hexDigit (byte.toNat % 16)])

def hexValue (digit : Char) : Nat :=
  if digit.isDigit then digit.toNat - 48 else digit.toNat - 87

def bytesOfHex : List Char → List UInt8
  | high :: low :: rest => .ofNat (16 * hexValue high + hexValue low) :: bytesOfHex rest
  | _ => []

def digestOfHex (text : String) : Sha256Digest :=
  ⟨((bytesOfHex text.toList).rightpad 32 0).take 32, by simp [List.rightpad]; omega⟩

def computeDeterministicBackoff (attempt : Nat) (backoff : RetryBackoffPolicy Nat String) : Nat :=
  min (backoff.initialDelayMs * backoff.multiplier ^ (max 1 attempt - 1)) backoff.maxDelayMs

def computeDeterministicRetryDelay (sha256 : String → Sha256Digest)
    (queueDefinitionId workItemId : String) (attempt : Nat)
    (backoff : RetryBackoffPolicy Nat String) : Nat :=
  let baseDelayMs := computeDeterministicBackoff attempt backoff
  let boundedJitterBps := min 10000 backoff.maxJitterBps
  let jitterCeilingMs := baseDelayMs * boundedJitterBps / 10000
  if jitterCeilingMs = 0 then baseDelayMs
  else
    let digest := sha256 (backoff.retrySeed ++ "\x00" ++ queueDefinitionId ++ "\x00" ++
      workItemId ++ "\x00" ++ toString (max 1 attempt))
    baseDelayMs + digest.readUInt32BE % (jitterCeilingMs + 1)

end LicoMesh.WorkQueue
