import LicoMesh.Library.Crash
import LicoMesh.WorkQueue.Policies

namespace LicoMesh.RestoreTransaction

open Library WorkQueue

/-! A restore transaction on its disk. Every write of a program is one file-system step that the
code makes durable; directories that are only created for a file are left out. -/

/-- What a path names: a regular file or something else. -/
inductive Node
  | file (bytes : List UInt8)
  | other
  deriving DecidableEq

/-- `external` is an error of the file system or of the caller's code. -/
inductive RestoreError
  | journalInvalid
  | transactionInvalid
  | stagingFailed
  | targetChanged
  | recoveryFailed
  | commitFailed
  | external
  deriving DecidableEq

inductive RestoreOperation
  | install
  | delete
  deriving DecidableEq

/-- An empty digest is `none`. -/
structure RestoreRecord where
  relativePath : String
  operation : RestoreOperation
  hadOriginal : Bool
  previousBytes : Nat
  previousSha256 : Option Sha256Digest
  installedBytes : Nat
  installedSha256 : Option Sha256Digest
  sqlite : Bool
  deriving DecidableEq

inductive RestorePhase
  | prepared
  | rollbackRequired
  | commitComplete

structure RestoreJournal where
  receiptSha256 : Sha256Digest
  phase : RestorePhase
  records : List RestoreRecord

structure TransactionDirectory where
  journal : Option RestoreJournal := none
  staged : String → Option Node := fun _ => none
  rollback : String → Option Node := fun _ => none
  receipt : Option Node := none

/-- The targets, the two places of the transaction's directory, and the published receipt. -/
structure RestoreDisk where
  targets : String → Option Node
  pending : Option TransactionDirectory
  transaction : Option TransactionDirectory
  report : Option Node

/-- `safeParent`: every parent of the path below the root is a real directory. `quickCheck` is
SQLite's verdict on a file; `none` is a file that it cannot open. -/
structure RestoreEnv where
  sha256 : List UInt8 → Sha256Digest
  quickCheck : List UInt8 → Option Bool
  safeParent : String → Bool

abbrev RestoreProgram := Program RestoreDisk RestoreError

def excludedTargetRoots : List String := ["backups", "locks", "logs", "tmp"]

def normalizeTargetRelativePath (path : String) : String :=
  String.ofList (path.toList.map fun c => if c = '\\' then '/' else c)

/-- `normalizeTargetRelativePath` does not throw, for a path that it has normalized. -/
def isTargetPath (path : String) : Bool :=
  let segments := path.toList.splitOn '/'
  !segments.contains [] && !segments.contains "..".toList &&
    !(excludedTargetRoots.map String.toList).contains (segments.headD [])

def isSqliteTarget (path : String) : Bool :=
  [".sqlite", ".sqlite3", ".db"].any fun suffix =>
    suffix.toList.isSuffixOf (path.toList.map Char.toLower)

def normalizeRecord (record : RestoreRecord) : RestoreRecord :=
  { record with relativePath := normalizeTargetRelativePath record.relativePath }

/-- `normalizeRecord` does not throw, for a record that it has normalized. -/
def RestoreRecord.isValid (record : RestoreRecord) : Bool :=
  isTargetPath record.relativePath &&
    (record.previousBytes ≤ maxSafeInteger && record.installedBytes ≤ maxSafeInteger) &&
    (if record.hadOriginal then record.previousSha256.isSome
      else record.previousBytes = 0 && record.previousSha256.isNone) && (match record.operation with
      | .install =>
        record.installedSha256.isSome && record.sqlite = isSqliteTarget record.relativePath
      | .delete =>
        record.hadOriginal && record.installedBytes = 0 && record.installedSha256.isNone &&
          !record.sqlite)

def TransactionDirectory.setPhase (directory : TransactionDirectory) (phase : RestorePhase) :
    TransactionDirectory :=
  { directory with journal := directory.journal.map fun journal => { journal with phase := phase } }

def TransactionDirectory.setJournal (directory : TransactionDirectory)
    (journal : RestoreJournal) : TransactionDirectory :=
  { directory with journal := some journal }

inductive TreeEntry
  | journal
  | receipt
  | staged (path : String)
  | rollback (path : String)

def setAt (paths : String → Option Node) (path : String) (node : Option Node) :
    String → Option Node :=
  fun other => if other = path then node else paths other

@[simp] theorem setAt_self (paths : String → Option Node) (path : String) (node : Option Node) :
    setAt paths path node path = node :=
  if_pos rfl

theorem setAt_of_ne (paths : String → Option Node) (node : Option Node)
    (distinct : other ≠ path) : setAt paths path node other = paths other :=
  if_neg distinct

def TransactionDirectory.remove (directory : TransactionDirectory) :
    TreeEntry → TransactionDirectory
  | .journal => { directory with journal := none }
  | .receipt => { directory with receipt := none }
  | .staged path => { directory with staged := setAt directory.staged path none }
  | .rollback path => { directory with rollback := setAt directory.rollback path none }

namespace RestoreDisk

variable (disk : RestoreDisk)

def setTarget (path : String) (node : Option Node) : RestoreDisk :=
  { disk with targets := setAt disk.targets path node }

def mapPending (change : TransactionDirectory → TransactionDirectory) : RestoreDisk :=
  { disk with pending := disk.pending.map change }

def mapTransaction (change : TransactionDirectory → TransactionDirectory) : RestoreDisk :=
  { disk with transaction := disk.transaction.map change }

def rollbackNode (path : String) : Option Node := disk.transaction.bind (·.rollback path)

def stagedNode (path : String) : Option Node := disk.transaction.bind (·.staged path)

/-- `rename` of a target into the rollback tree. -/
def moveToRollback (path : String) : RestoreDisk :=
  (disk.mapTransaction fun directory =>
    { directory with rollback := setAt directory.rollback path (disk.targets path) }).setTarget
      path none

/-- `rename` out of the rollback tree. -/
def moveBack (path : String) : RestoreDisk :=
  (disk.mapTransaction fun directory =>
    { directory with rollback := setAt directory.rollback path none }).setTarget path
      (disk.rollbackNode path)

/-- `rename` of a staged file onto its target. -/
def installStaged (path : String) : RestoreDisk :=
  (disk.mapTransaction fun directory =>
    { directory with staged := setAt directory.staged path none }).setTarget path
      (disk.stagedNode path)

/-- `rename` of the staged receipt into the report directory. -/
def publishReceipt : RestoreDisk :=
  { disk.mapTransaction (fun directory => { directory with receipt := none }) with
    report := disk.transaction.bind (·.receipt) }

def publishTransaction : RestoreDisk := { disk with pending := none, transaction := disk.pending }

end RestoreDisk

section Files

variable (env : RestoreEnv)

def inspectRegularFile : Option Node → Except RestoreError (Nat × Sha256Digest)
  | some (.file bytes) => .ok (bytes.length, env.sha256 bytes)
  | some .other => .error .recoveryFailed
  | none => .error .external

def hasIntegrity (node : Option Node) (bytes : Nat) (sha256 : Option Sha256Digest) : Bool :=
  match inspectRegularFile env node with
  | .ok integrity => integrity.1 = bytes && some integrity.2 = sha256
  | .error _ => false

def assertExpectedFile (node : Option Node) (bytes : Nat) (sha256 : Option Sha256Digest) :
    Except RestoreError Unit :=
  match inspectRegularFile env node with
  | .ok integrity =>
    if integrity.1 = bytes ∧ some integrity.2 = sha256 then .ok () else .error .recoveryFailed
  | .error error => .error error

/-- `assertExpectedFileSync` with the file's own size. -/
def assertDigest (node : Option Node) (sha256 : Sha256Digest) : Except RestoreError Unit :=
  match inspectRegularFile env node with
  | .ok integrity => if integrity.2 = sha256 then .ok () else .error .recoveryFailed
  | .error error => .error error

def assertSafeTargetParent (path : String) : RestoreProgram Unit :=
  .require (fun _ => env.safeParent path) .recoveryFailed

def removeSafeFile (path : String) : RestoreProgram Unit := do
  match ← .read fun disk => .ok (disk.targets path) with
  | none => pure ()
  | some node =>
    assertSafeTargetParent env path
    match node with
    | .other => .throw .recoveryFailed
    | .file _ => .write fun disk => disk.setTarget path none

def rollbackRecord (record : RestoreRecord) : RestoreProgram Unit := do
  assertSafeTargetParent env record.relativePath
  match ← .read fun disk => .ok (disk.rollbackNode record.relativePath) with
  | some node =>
    .read fun _ =>
      assertExpectedFile env (some node) record.previousBytes record.previousSha256
    removeSafeFile env record.relativePath
    .write fun disk => disk.moveBack record.relativePath
    .read fun disk => assertExpectedFile env (disk.targets record.relativePath)
      record.previousBytes record.previousSha256
  | none =>
    if record.hadOriginal then
      .require (fun disk => (disk.targets record.relativePath).isSome) .recoveryFailed
      .read fun disk => assertExpectedFile env (disk.targets record.relativePath)
        record.previousBytes record.previousSha256
    else removeSafeFile env record.relativePath

def rollbackRecords (records : List RestoreRecord) : RestoreProgram Unit :=
  .forEach records.reverse (rollbackRecord env)

/-- `rmSync` of the transaction's directory, which deletes its entries in some order. -/
def removeTransaction (order : List TreeEntry) : RestoreProgram Unit := do
  .forEach order fun entry =>
    .write fun disk => disk.mapTransaction (·.remove entry)
  .write fun disk => { disk with transaction := none }

def removePending (order : List TreeEntry) : RestoreProgram Unit := do
  .forEach order fun entry =>
    .write fun disk => disk.mapPending (·.remove entry)
  .write fun disk => { disk with pending := none }

def sqliteSidecarSuffixes : List String := ["-wal", "-shm", "-journal"]

def sidecars (path : String) : List String := sqliteSidecarSuffixes.map (path ++ ·)

def requireQuickCheck : Option Bool → RestoreProgram Unit
  | none => .throw .external
  | some verdict => .require (fun _ => verdict) .recoveryFailed

def verifySqlite (path : String) : RestoreProgram Unit := do
  let verdict ← .read fun disk =>
    match disk.targets path with
    | some (.file bytes) => .ok (env.quickCheck bytes)
    | _ => .error .external
  requireQuickCheck verdict
  .forEach (sidecars path) (removeSafeFile env)

def verifyRecord (record : RestoreRecord) : RestoreProgram Unit := do
  assertSafeTargetParent env record.relativePath
  match record.operation with
  | .delete =>
    .require (fun disk => (disk.targets record.relativePath).isNone) .recoveryFailed
  | .install =>
    .require (fun disk => (disk.targets record.relativePath).isSome) .recoveryFailed
    .read fun disk => assertExpectedFile env (disk.targets record.relativePath)
      record.installedBytes record.installedSha256
    if record.sqlite then verifySqlite env record.relativePath else pure ()

def verifyCommittedRecords (records : List RestoreRecord) : RestoreProgram Unit :=
  .forEach records (verifyRecord env)

def publishReceipt (receiptSha256 : Sha256Digest) : RestoreProgram Unit := do
  match ← .read fun disk =>
      .ok (disk.transaction.bind (·.receipt), disk.report) with
  | (some receipt, some report) =>
    .read fun _ => assertDigest env (some receipt) receiptSha256
    .read fun _ => assertDigest env (some report) receiptSha256
    .write fun disk => disk.mapTransaction fun directory =>
      { directory with receipt := none }
  | (some receipt, none) =>
    .read fun _ => assertDigest env (some receipt) receiptSha256
    .write .publishReceipt
  | (none, some report) =>
    .read fun _ => assertDigest env (some report) receiptSha256
  | (none, none) => .throw .recoveryFailed

def finalizeCommittedTransaction (order : List TreeEntry) (journal : RestoreJournal) :
    RestoreProgram Unit := do
  verifyCommittedRecords env journal.records
  publishReceipt env journal.receiptSha256
  removeTransaction order

def reconcileTransaction (order : List TreeEntry) : RestoreProgram Unit := do
  match ← .read fun disk => .ok (disk.transaction.bind (·.journal)) with
  | none => .throw .journalInvalid
  | some journal =>
    match journal.phase with
    | .prepared => removeTransaction order
    | .rollbackRequired =>
      rollbackRecords env journal.records
      removeTransaction order
    | .commitComplete => finalizeCommittedTransaction env order journal

def reconcilePending (order : List TreeEntry) : RestoreProgram Unit := do
  if ← .read fun disk => .ok disk.pending.isSome then removePending order else pure ()

def reconcileStorageRestoreTransactions (order : List TreeEntry) : RestoreProgram Unit := do
  reconcilePending order
  if ← .read fun disk => .ok disk.transaction.isSome then reconcileTransaction env order
  else pure ()

/-- `stageInstall` writes the file of a record, or throws; `none` is no function. -/
structure RestoreExecutionOptions where
  identitiesAreValid : Bool
  report : List UInt8
  records : List RestoreRecord
  stageInstall : Option (RestoreRecord → Option Node)

def RestoreExecutionOptions.normalized (options : RestoreExecutionOptions) :
    RestoreExecutionOptions :=
  { options with records := options.records.map normalizeRecord }

def stageRecord (stageInstall : RestoreRecord → Option Node) (record : RestoreRecord) :
    RestoreProgram Unit :=
  match stageInstall record with
  | none => .throw .external
  | some node => do
      .write fun disk => disk.mapPending fun directory =>
        { directory with staged := setAt directory.staged record.relativePath (some node) }
      let integrity ← .read fun _ => inspectRegularFile env (some node)
      .require (fun _ => integrity.1 = record.installedBytes &&
        some integrity.2 = record.installedSha256) .stagingFailed

def prepareTransaction (options : RestoreExecutionOptions)
    (stageInstall : RestoreRecord → Option Node) : RestoreProgram Unit := do
  .write fun disk => { disk with pending := some {} }
  .forEach (options.records.filter (·.operation = .install))
    (stageRecord env stageInstall)
  .write fun disk => disk.mapPending fun directory =>
    { directory with receipt := some (.file options.report) }
  .write fun disk => disk.mapPending
    (·.setJournal ⟨env.sha256 options.report, .prepared, options.records⟩)
  .write .publishTransaction
  .write fun disk => disk.mapTransaction (·.setPhase .rollbackRequired)

def checkPreimage (disk : RestoreDisk) (record : RestoreRecord) : Except RestoreError Unit :=
  let target := disk.targets record.relativePath
  if !env.safeParent record.relativePath then .error .recoveryFailed
  else if !record.hadOriginal then
    if target.isSome then .error .targetChanged else .ok ()
  else
    match target with
    | none => .error .targetChanged
    | some node =>
      match inspectRegularFile env (some node) with
      | .error error => .error error
      | .ok integrity =>
        if integrity.1 = record.previousBytes ∧ some integrity.2 = record.previousSha256 then
          .ok ()
        else .error .targetChanged

def assertPreimagesUnchanged (records : List RestoreRecord) : RestoreProgram Unit :=
  .forEach records fun record => .read fun disk => checkPreimage env disk record

def moveOriginalToRollback (record : RestoreRecord) : RestoreProgram Unit :=
  if record.hadOriginal then do
    .require (fun disk => (disk.targets record.relativePath).isSome) .external
    .write fun disk => disk.moveToRollback record.relativePath
  else pure ()

def renameStaged (record : RestoreRecord) : RestoreProgram Unit :=
  if record.operation = .install then do
    .require (fun disk => (disk.stagedNode record.relativePath).isSome) .external
    .write fun disk => disk.installStaged record.relativePath
  else pure ()

def commitRecord (record : RestoreRecord) : RestoreProgram Unit := do
  moveOriginalToRollback record
  renameStaged record

def commitTransaction (options : RestoreExecutionOptions) (order : List TreeEntry) :
    RestoreProgram Unit := do
  .forEach options.records commitRecord
  verifyCommittedRecords env options.records
  .write fun disk => disk.mapTransaction (·.setPhase .commitComplete)
  finalizeCommittedTransaction env order
    ⟨env.sha256 options.report, .commitComplete, options.records⟩

def rethrown (error : RestoreError) : RestoreError :=
  if error = .external then .commitFailed else error

def recoverFrom (order : List TreeEntry) (error : RestoreError) : RestoreProgram Unit := do
  .tryCatch
    (do
      if ← .read fun disk => .ok disk.transaction.isSome then reconcileTransaction env order
      else removePending order)
    (fun _ => .throw .recoveryFailed)
  .throw (rethrown error)

def runTransaction (options : RestoreExecutionOptions)
    (stageInstall : RestoreRecord → Option Node) (order : List TreeEntry) : RestoreProgram Unit :=
  .tryCatch
    (do
      prepareTransaction env options stageInstall
      assertPreimagesUnchanged env options.records
      commitTransaction env options order)
    (recoverFrom env order)

def executeDurableRestoreTransaction (options : RestoreExecutionOptions)
    (order : List TreeEntry) : RestoreProgram Unit :=
  if !options.identitiesAreValid then .throw .transactionInvalid
  else
    match options.stageInstall with
    | none => .throw .external
    | some stageInstall =>
      let options := options.normalized
      if !options.records.all (·.isValid) then .throw .journalInvalid
      else if ¬(options.records.map (·.relativePath)).Nodup then
        .throw .transactionInvalid
      else runTransaction env options stageInstall order

end Files

end LicoMesh.RestoreTransaction
