import Mathlib.Data.List.Sort
import LicoMesh.Library.Crash
import LicoMesh.WorkQueue.Policies

namespace LicoMesh.BackupRetention

open Library WorkQueue

abbrev Backup := String → Option (List UInt8)

structure StorageBackupCatalogEntry where
  backupId : String
  createdAt : Int

/-- `missing` is `ENOENT`; `external` is thrown by the caller's tracker. -/
inductive RetentionError
  | journalInvalid
  | recoveryConflict
  | missing
  | external
  deriving DecidableEq

inductive RetentionPhase
  | prepared
  | commitReady

structure RetentionJournal where
  phase : RetentionPhase
  candidateIds : List String
  movedIds : List String

/-- What `validateJournal` accepts. -/
def RetentionJournal.isValid (journal : RetentionJournal) : Bool :=
  journal.candidateIds.Nodup && journal.movedIds.Nodup &&
    journal.movedIds.all journal.candidateIds.contains

/-- The directory of a transaction; `quarantine` is a directory in it. -/
structure TransactionDirectory where
  journal : Option RetentionJournal := none
  quarantine : Option (String → Option Backup) := none

structure RetentionReceipt where
  deleted : Nat
  retained : Nat
  protectedBackups : Nat

/-- The backup root. A run begins by recovering earlier ones, so there is one transaction at
most. -/
structure RetentionDisk where
  backups : String → Option Backup
  catalog : Option (List StorageBackupCatalogEntry)
  transaction : Option TransactionDirectory
  receipts : List RetentionReceipt

structure RetentionPolicy where
  keepLast : Nat
  maxAgeMs : Option Nat
  protectedBackupIds : List String
  keepsOne : 1 ≤ keepLast ∧ keepLast ≤ maxSafeInteger
  positive : ∀ age ∈ maxAgeMs, 1 ≤ age ∧ age ≤ maxSafeInteger

/-- `backupIds`: the names of the directories, sorted. `localeCompare`: whether a name comes
before another or is the same. `manifestCreatedAt`: the timestamp in a backup's manifest, if that
is valid. -/
structure RetentionEnv where
  backupIds : List String
  distinct : backupIds.Nodup
  localeCompare : String → String → Bool
  manifestCreatedAt : String → Backup → Option Int

/-- The tracker: whether the run is active at its start and at a candidate, and whether so many
files and items are within its budget. -/
structure RetentionOptions where
  policy : Option RetentionPolicy
  now : Int
  startsActive : Bool
  isActive : String → Bool
  withinFiles : Nat → Bool
  withinCleanupItems : Nat → Bool

abbrev RetentionProgram := Program RetentionDisk RetentionError

def setAt {α : Type} (entries : String → Option α) (name : String) (value : Option α) :
    String → Option α :=
  fun other => if other = name then value else entries other

inductive TreeEntry
  | journal
  | quarantinedFile (backupId path : String)
  | quarantined (backupId : String)
  | quarantine

namespace TransactionDirectory

variable (directory : TransactionDirectory)

def quarantined (backupId : String) : Option Backup := directory.quarantine.bind (· backupId)

def setQuarantined (backupId : String) (backup : Option Backup) : TransactionDirectory :=
  { directory with quarantine := directory.quarantine.map (setAt · backupId backup) }

def remove : TreeEntry → TransactionDirectory
  | .journal => { directory with journal := none }
  | .quarantinedFile backupId path =>
    directory.setQuarantined backupId
      ((directory.quarantined backupId).map (setAt · path none))
  | .quarantined backupId => directory.setQuarantined backupId none
  | .quarantine => { directory with quarantine := none }

end TransactionDirectory

namespace RetentionDisk

variable (disk : RetentionDisk)

def mapTransaction (change : TransactionDirectory → TransactionDirectory) : RetentionDisk :=
  { disk with transaction := disk.transaction.map change }

def quarantined (backupId : String) : Option Backup :=
  disk.transaction.bind (·.quarantined backupId)

/-- `rename` into the quarantine. -/
def moveToQuarantine (backupId : String) : RetentionDisk :=
  { disk.mapTransaction (·.setQuarantined backupId (disk.backups backupId)) with
    backups := setAt disk.backups backupId none }

/-- `rename` out of the quarantine. -/
def moveBack (backupId : String) : RetentionDisk :=
  { disk.mapTransaction (·.setQuarantined backupId none) with
    backups := setAt disk.backups backupId (disk.quarantined backupId) }

end RetentionDisk

/-- The orders in which a recursive removal deletes the files of a quarantined backup and the
entries of the transaction's directory. -/
structure RemovalOrder where
  backup : String → List String
  transaction : List TreeEntry

def removeQuarantined (order : RemovalOrder) (backupId : String) : RetentionProgram Unit := do
  .forEach (order.backup backupId) fun path =>
    .write fun disk => disk.mapTransaction (·.remove (.quarantinedFile backupId path))
  .write fun disk => disk.mapTransaction (·.remove (.quarantined backupId))

def removeTransaction (order : RemovalOrder) : RetentionProgram Unit := do
  .forEach order.transaction fun entry =>
    .write fun disk => disk.mapTransaction (·.remove entry)
  .write fun disk => { disk with transaction := none }

def readJournal : RetentionProgram RetentionJournal :=
  .read fun disk =>
    match disk.transaction.bind (·.journal) with
    | none => .error .missing
    | some journal => if journal.isValid then .ok journal else .error .journalInvalid

def quarantineExists (disk : RetentionDisk) : Bool := (disk.transaction.bind (·.quarantine)).isSome

def syncDirectory (present : RetentionDisk → Bool) : RetentionProgram Unit :=
  .require present .missing

def moveBackCandidate (backupId : String) : RetentionProgram Unit := do
  let found ← .read fun disk =>
    .ok ((disk.backups backupId).isSome, (disk.quarantined backupId).isSome)
  if found.1 && found.2 then .throw .recoveryConflict
  else if !found.1 && found.2 then .write fun disk => disk.moveBack backupId
  else pure ()

def deleteCandidate (order : RemovalOrder) (backupId : String) : RetentionProgram Unit := do
  .require (fun disk => (disk.backups backupId).isNone) .recoveryConflict
  removeQuarantined order backupId

def reconcileTransaction (order : RemovalOrder) : RetentionProgram Unit := do
  let journal ← readJournal
  match journal.phase with
  | .prepared => .forEach journal.movedIds.reverse moveBackCandidate
  | .commitReady => do
      .forEach journal.candidateIds (deleteCandidate order)
      .tryCatch (syncDirectory quarantineExists) fun error =>
        if error = .missing then pure () else .throw error
  removeTransaction order

def reconcileStorageRetentionTransactions (order : RemovalOrder) : RetentionProgram Nat := do
  if ← .read fun disk => .ok disk.transaction.isSome then
    reconcileTransaction order
    pure 1
  else pure 0

def syncDirectorySync : RetentionProgram Unit := pure ()

def reconcileTransactionSync (order : RemovalOrder) : RetentionProgram Unit := do
  let journal ← readJournal
  match journal.phase with
  | .prepared => .forEach journal.movedIds.reverse moveBackCandidate
  | .commitReady => do
      .forEach journal.candidateIds (deleteCandidate order)
      syncDirectorySync
  removeTransaction order

def reconcileStorageRetentionTransactionsSync (order : RemovalOrder) : RetentionProgram Nat := do
  if ← .read fun disk => .ok disk.transaction.isSome then
    reconcileTransactionSync order
    pure 1
  else pure 0

def rankBackups (env : RetentionEnv) (backups : List StorageBackupCatalogEntry) :
    List StorageBackupCatalogEntry :=
  backups.insertionSort fun left right =>
    right.createdAt < left.createdAt ∨
      (left.createdAt = right.createdAt ∧ env.localeCompare left.backupId right.backupId)

/-- `none` when there is no valid catalog. -/
def readStorageBackupCatalog (env : RetentionEnv) (disk : RetentionDisk) :
    Option (List StorageBackupCatalogEntry) :=
  disk.catalog.bind fun backups =>
    if (backups.map (·.backupId)).Nodup then some (rankBackups env backups) else none

def catalogValue (env : RetentionEnv) (disk : RetentionDisk) : List StorageBackupCatalogEntry :=
  rankBackups env (env.backupIds.filterMap fun backupId =>
    ((disk.backups backupId).bind (env.manifestCreatedAt backupId)).map (⟨backupId, ·⟩))

def rebuildStorageBackupCatalog (env : RetentionEnv) :
    RetentionProgram (List StorageBackupCatalogEntry) := do
  let backups ← .read fun disk => .ok (catalogValue env disk)
  .write fun disk => { disk with catalog := some backups }
  pure backups

def listStorageBackups (env : RetentionEnv) :
    RetentionProgram (List StorageBackupCatalogEntry) := do
  match ← .read fun disk => .ok (readStorageBackupCatalog env disk) with
  | some backups => pure backups
  | none => rebuildStorageBackupCatalog env

def selectCandidates (backups : List StorageBackupCatalogEntry) (policy : RetentionPolicy)
    (now : Int) : List StorageBackupCatalogEntry :=
  let rankedProtected := (backups.take policy.keepLast).map (·.backupId)
  backups.filter fun entry =>
    !policy.protectedBackupIds.contains entry.backupId &&
      !rankedProtected.contains entry.backupId &&
        match policy.maxAgeMs with
        | none => true
        | some age => entry.createdAt ≤ now - age

def writeJournal (journal : RetentionJournal) : RetentionProgram Unit :=
  .write fun disk => disk.mapTransaction fun directory =>
    { directory with journal := some journal }

/-- `movedIds` is the caller's journal, which is written again before each move. -/
def quarantineCandidates (options : RetentionOptions) (candidateIds : List String) :
    List String → List String → RetentionProgram Unit
  | _, [] => pure ()
  | movedIds, backupId :: rest => do
      .require (fun _ => options.isActive backupId) .external
      .require (fun disk => (disk.backups backupId).isSome) .missing
      writeJournal ⟨.prepared, candidateIds, movedIds ++ [backupId]⟩
      .require quarantineExists .missing
      .write fun disk => disk.moveToQuarantine backupId
      quarantineCandidates options candidateIds (movedIds ++ [backupId]) rest

def prepareRetention (options : RetentionOptions) (candidateIds : List String) :
    RetentionProgram Unit := do
  .write fun disk => { disk with transaction := some {} }
  .write fun disk => disk.mapTransaction fun directory =>
    { directory with quarantine := some fun _ => none }
  writeJournal ⟨.prepared, candidateIds, []⟩
  quarantineCandidates options candidateIds [] candidateIds
  writeJournal ⟨.commitReady, candidateIds, candidateIds⟩

def recoverFrom (order : RemovalOrder) (error : RetentionError) : RetentionProgram Unit := do
  .tryCatch (reconcileTransaction order) fun _ => pure ()
  .throw error

def commitRetention (env : RetentionEnv) (order : RemovalOrder) (candidateIds : List String)
    (receipt : RetentionReceipt) : RetentionProgram Unit := do
  .forEach candidateIds (removeQuarantined order)
  .write fun disk => { disk with receipts := disk.receipts ++ [receipt] }
  removeTransaction order
  let _ ← rebuildStorageBackupCatalog env
  pure ()

def deleteCandidates (env : RetentionEnv) (options : RetentionOptions) (order : RemovalOrder)
    (candidateIds : List String) (receipt : RetentionReceipt) : RetentionProgram (List String) := do
  .tryCatch (prepareRetention options candidateIds) (recoverFrom order)
  commitRetention env order candidateIds receipt
  pure candidateIds

/-- The identities that were deleted; there is nothing to do without a policy. -/
def applyStorageBackupRetention (env : RetentionEnv) (options : RetentionOptions)
    (order : RemovalOrder) : RetentionProgram (List String) :=
  match options.policy with
  | none => pure []
  | some policy => do
      .require (fun _ => options.startsActive) .external
      let _ ← reconcileStorageRetentionTransactions order
      let backups ← listStorageBackups env
      .require (fun _ => options.withinFiles backups.length) .external
      let candidateIds := (selectCandidates backups policy options.now).map (·.backupId)
      .require (fun _ => options.withinCleanupItems candidateIds.length) .external
      let receipt : RetentionReceipt := ⟨candidateIds.length,
        backups.length - candidateIds.length, policy.protectedBackupIds.length⟩
      if candidateIds = [] then pure []
      else deleteCandidates env options order candidateIds receipt

end LicoMesh.BackupRetention
