import LicoMesh.Library.Transaction
import LicoMesh.ServiceManifest.Schema

namespace LicoMesh.ServiceManifest

open Library WorkQueue

inductive ManifestError
  | interrupted
  | indexInvalid
  | replayConflict
  | serviceRevisionStale
  | setRevisionStale
  | budgetExceeded
  | publicationBacklogExceeded
  | immutableConflict
  | constraintPrimaryKey
  | requestCapacityExceeded
  | cleanupBudgetExceeded
  | acknowledgementStale
  | contentInvalid
  deriving DecidableEq

structure ManifestResourceBudget where
  maxServices : Nat
  maxRequestRecords : Nat
  maxRequestBytes : Nat
  maxReadBytes : Nat
  maxWriteBytes : Nat
  maxCleanupEntries : Nat

/-- The budget of a call and which of its checks finds it aborted or past its deadline. -/
structure ManifestTransactionContext where
  budget : ManifestResourceBudget
  interrupts : Nat → Bool

structure ManifestEnv where
  sha256 : String → Sha256Digest

/-- The database inside a transaction, with what the context has counted. -/
structure Session where
  db : Database
  checks : Nat := 0
  writeBytes : Nat := 0
  cleanupEntries : Nat := 0

abbrev Action := Transaction Session ManifestError

namespace ManifestTransactionContext

variable (context : ManifestTransactionContext)

def check : Action Unit := do
  let session ← get
  if context.interrupts session.checks then throw .interrupted
  else set { session with checks := session.checks + 1 }

def consumeWrite (byteCount : Nat) : Action Unit := do
  context.check
  let session ← get
  if context.budget.maxWriteBytes < session.writeBytes + byteCount then throw .budgetExceeded
  else set { session with writeBytes := session.writeBytes + byteCount }

def inspectCleanupEntry : Action Unit := do
  context.check
  let session ← get
  if context.budget.maxCleanupEntries < session.cleanupEntries + 1 then
    throw .cleanupBudgetExceeded
  else set { session with cleanupEntries := session.cleanupEntries + 1 }

end ManifestTransactionContext

def update (write : Database → Database) : Action Unit :=
  modify fun session => { session with db := write session.db }

def require (condition : Bool) (error : ManifestError) : Action Unit :=
  if condition then pure () else throw error

def maxSafeInteger : Int := 2 ^ 53 - 1

def numberMeta (value : Int) : Except ManifestError Int :=
  if 0 ≤ value ∧ value ≤ maxSafeInteger then .ok value else .error .indexInvalid

def pointerFromMeta (pointer : ManifestPointer) : Except ManifestError ManifestPointer := do
  let _ ← numberMeta pointer.setRevision
  return pointer

def stableManifestJson (fields : List (String × Json)) : String :=
  String.ofList (canonicalJson (.obj fields))

def natJson (value : Nat) : Json := .num (toString value)

def transitionSetDigest (env : ManifestEnv) (previousSetDigest : Sha256Digest) (setRevision : Nat)
    (serviceId : ServiceId) (serviceRevision : Nat) (manifestDigest : Sha256Digest) :
    Sha256Digest :=
  env.sha256 (stableManifestJson
    [("previousSetDigest", .str previousSetDigest.hex), ("setRevision", natJson setRevision),
      ("serviceId", .str serviceId), ("serviceRevision", natJson serviceRevision),
      ("manifestDigest", .str manifestDigest.hex)])

structure ManifestCommitInput where
  serviceId : ServiceId
  expectedServiceRevision : Nat
  expectedSetRevision : Nat
  manifestBytes : List UInt8
  manifestDigest : Sha256Digest
  requestDigest : Sha256Digest

def requestFields (input : ManifestCommitInput) (serviceRevision setRevision : Nat)
    (setDigest : Sha256Digest) : List (String × Json) :=
  [("requestDigest", .str input.requestDigest.hex), ("serviceId", .str input.serviceId),
    ("manifestDigest", .str input.manifestDigest.hex),
    ("expectedServiceRevision", natJson input.expectedServiceRevision),
    ("expectedSetRevision", natJson input.expectedSetRevision),
    ("serviceRevision", natJson serviceRevision), ("setRevision", natJson setRevision),
    ("setDigest", .str setDigest.hex)]

def requestOutcome (env : ManifestEnv) (input : ManifestCommitInput)
    (serviceRevision setRevision : Nat) (setDigest : Sha256Digest) : ManifestCommitOutcome where
  requestDigest := input.requestDigest
  serviceId := input.serviceId
  manifestDigest := input.manifestDigest
  expectedServiceRevision := input.expectedServiceRevision
  expectedSetRevision := input.expectedSetRevision
  serviceRevision := serviceRevision
  setRevision := setRevision
  setDigest := setDigest
  receiptRef := "urn:meshrix:storage-manifest-receipt:" ++
    (env.sha256 (stableManifestJson
      (requestFields input serviceRevision setRevision setDigest))).hex

/-- `Buffer.byteLength` of the outcome's text. -/
def recordBytes (outcome : ManifestCommitOutcome) (input : ManifestCommitInput) : Nat :=
  ((canonicalJson (.obj (requestFields input outcome.serviceRevision outcome.setRevision
    outcome.setDigest ++ [("receiptRef", .str outcome.receiptRef)]))).map Char.utf8Size).sum

structure ManifestCommitResult where
  outcome : ManifestCommitOutcome
  replayed : Bool
  changed : Bool

def requestMatches (outcome : ManifestCommitOutcome) (input : ManifestCommitInput) : Bool :=
  outcome.serviceId = input.serviceId && outcome.manifestDigest = input.manifestDigest &&
    outcome.expectedServiceRevision = input.expectedServiceRevision &&
      outcome.expectedSetRevision = input.expectedSetRevision

def maxUnpublishedSetRevisions : Nat := 256

structure Admitted where
  candidate : ManifestPointer
  published : ManifestPointer
  existingService : Option ServiceRow

def Admitted.actualServiceRevision (admitted : Admitted) : Nat :=
  (admitted.existingService.map (·.serviceRevision)).getD 0

def Admitted.unchanged (admitted : Admitted) (input : ManifestCommitInput) : Bool :=
  admitted.existingService.map (·.manifestDigest) = some input.manifestDigest

def Admitted.serviceRevision (admitted : Admitted) (input : ManifestCommitInput) : Nat :=
  if admitted.unchanged input then admitted.actualServiceRevision
  else admitted.actualServiceRevision + 1

def Admitted.setRevision (admitted : Admitted) (input : ManifestCommitInput) : Nat :=
  if admitted.unchanged input then admitted.candidate.setRevision
  else admitted.candidate.setRevision + 1

def Admitted.setDigest (env : ManifestEnv) (admitted : Admitted) (input : ManifestCommitInput) :
    Sha256Digest :=
  if admitted.unchanged input then admitted.candidate.setDigest
  else
    transitionSetDigest env admitted.candidate.setDigest (admitted.setRevision input)
      input.serviceId (admitted.serviceRevision input) input.manifestDigest

def compareRevisions (db : Database) (input : ManifestCommitInput) :
    Except ManifestError Admitted := do
  let candidate ← pointerFromMeta db.metadata.candidate
  let published ← pointerFromMeta db.metadata.published
  let admitted : Admitted := ⟨candidate, published, db.services.find? input.serviceId⟩
  if input.expectedServiceRevision ≠ admitted.actualServiceRevision then
    throw .serviceRevisionStale
  if input.expectedSetRevision ≠ candidate.setRevision then throw .setRevisionStale
  return admitted

def checkServiceCount (context : ManifestTransactionContext) (db : Database)
    (admitted : Admitted) : Except ManifestError Unit :=
  if admitted.existingService.isSome then .ok ()
  else do
    let serviceCount ← numberMeta db.metadata.serviceCount
    if (context.budget.maxServices : Int) < serviceCount + 1 then .error .budgetExceeded
    else .ok ()

def checkBacklog (input : ManifestCommitInput) (admitted : Admitted) : Except ManifestError Unit :=
  if !admitted.unchanged input && admitted.published.setRevision + maxUnpublishedSetRevisions ≤
      admitted.candidate.setRevision then .error .publicationBacklogExceeded
  else .ok ()

def checkLimits (context : ManifestTransactionContext) (db : Database)
    (input : ManifestCommitInput) (admitted : Admitted) : Except ManifestError Unit := do
  checkServiceCount context db admitted
  checkBacklog input admitted

def writeBlob (context : ManifestTransactionContext) (input : ManifestCommitInput) :
    Action Unit := do
  let session ← get
  match session.db.blobs.find? input.manifestDigest with
  | some existing =>
    require (existing.bytes.length = existing.byteSize && existing.bytes = input.manifestBytes)
      .immutableConflict
  | none =>
    context.consumeWrite input.manifestBytes.length
    update fun db => db.insertBlob input.manifestDigest input.manifestBytes

def writeVersion (env : ManifestEnv) (context : ManifestTransactionContext)
    (input : ManifestCommitInput) (admitted : Admitted) : Action Unit := do
  writeBlob context input
  update fun db =>
    if admitted.existingService.isSome then
      db.closeVersions input.serviceId (admitted.setRevision input)
    else db
  let session ← get
  match session.db.insertVersion
      { serviceId := input.serviceId
        validFromRevision := admitted.setRevision input
        validToRevision := 0
        serviceRevision := admitted.serviceRevision input
        manifestDigest := input.manifestDigest } with
  | none => throw .constraintPrimaryKey
  | some inserted => set { session with db := inserted }
  update fun db => db.upsertService
    ⟨input.serviceId, admitted.serviceRevision input, input.manifestDigest⟩
  update fun db => db.setCandidate ⟨admitted.setRevision input, admitted.setDigest env input⟩

def writeManifest (env : ManifestEnv) (context : ManifestTransactionContext)
    (input : ManifestCommitInput) (admitted : Admitted) : Action Unit :=
  if admitted.unchanged input then pure () else writeVersion env context input admitted

def overCapacity (context : ManifestTransactionContext) (db : Database) (bytes : Nat) :
    Except ManifestError Bool := do
  let requestCount ← numberMeta db.metadata.requestCount
  let requestBytes ← numberMeta db.metadata.requestBytes
  return (context.budget.maxRequestRecords : Int) < requestCount + 1 ||
    (context.budget.maxRequestBytes : Int) < requestBytes + bytes

/-- The retention loop; `remaining` is `maxCleanupEntries - removed`. -/
def pruneRequests (context : ManifestTransactionContext) (bytes : Nat) (cutoff : Int) :
    Nat → Action Unit
  | 0 => pure ()
  | remaining + 1 => do
      let session ← get
      let lapsed ← .check (overCapacity context session.db bytes)
      match session.db.oldestRequest lapsed cutoff with
      | none => pure ()
      | some oldest =>
        context.inspectCleanupEntry
        update fun db => db.deleteRequest oldest
        pruneRequests context bytes cutoff remaining

def requestRetentionMs : Int := 7 * 24 * 60 * 60 * 1000

structure CommitClock where
  cutoffNow : Int
  createdAtMs : Int

def recordRequest (context : ManifestTransactionContext) (input : ManifestCommitInput)
    (outcome : ManifestCommitOutcome) (clock : CommitClock) : Action Unit := do
  let bytes := recordBytes outcome input
  require (bytes ≤ context.budget.maxRequestBytes) .requestCapacityExceeded
  pruneRequests context bytes (clock.cutoffNow - requestRetentionMs)
    context.budget.maxCleanupEntries
  let session ← get
  let lapsed ← .check (overCapacity context session.db bytes)
  require (!lapsed) .requestCapacityExceeded
  context.consumeWrite bytes
  update fun db => db.insertRequest outcome clock.createdAtMs bytes

def applyManifest (env : ManifestEnv) (context : ManifestTransactionContext)
    (input : ManifestCommitInput) (clock : CommitClock) : Action ManifestCommitResult := do
  let session ← get
  let admitted ← .check (compareRevisions session.db input)
  .check (checkLimits context session.db input admitted)
  writeManifest env context input admitted
  let outcome := requestOutcome env input (admitted.serviceRevision input)
    (admitted.setRevision input) (admitted.setDigest env input)
  recordRequest context input outcome clock
  return { outcome := outcome, replayed := false, changed := !admitted.unchanged input }

def commitManifest (env : ManifestEnv) (context : ManifestTransactionContext)
    (input : ManifestCommitInput) (clock : CommitClock) : Action ManifestCommitResult := do
  context.check
  context.check
  let session ← get
  match session.db.requestOf input.requestDigest with
  | some existing =>
    require (requestMatches existing.outcome input) .replayConflict
    return { outcome := existing.outcome, replayed := true, changed := false }
  | none => applyManifest env context input clock

def Database.pruneVersion (db : Database) (row : VersionRow) : Database :=
  let deleted := db.deleteVersion row
  if deleted.versions.rows.any fun other => other.manifestDigest = row.manifestDigest then deleted
  else deleted.deleteBlob row.manifestDigest

def pruneVersions (context : ManifestTransactionContext) : List VersionRow → Action Unit
  | [] => pure ()
  | row :: rest => do
      context.inspectCleanupEntry
      update fun db => db.pruneVersion row
      pruneVersions context rest

def acknowledgePublished (context : ManifestTransactionContext) (pointer : ManifestPointer) :
    Action ManifestPointer := do
  context.check
  context.check
  let session ← get
  let candidate ← .check (pointerFromMeta session.db.metadata.candidate)
  require (candidate = pointer) .acknowledgementStale
  update fun db => db.setPublished pointer
  pruneVersions context
    (session.db.obsoleteVersions pointer.setRevision context.budget.maxCleanupEntries)
  return candidate

end LicoMesh.ServiceManifest
