import LicoMesh.BackupRetention.Runs

namespace LicoMesh.BackupRetention

open Library

variable {candidateIds : List String} {env : RetentionEnv} {options : RetentionOptions}
  {start disk : RetentionDisk}

/-- The disks that a run can leave when it crashes, and then any number of recoveries; `allowed`
says which disks a crash leaves. -/
inductive CrashedFrom (env : RetentionEnv) (options : RetentionOptions)
    (allowed : RetentionDisk → Prop) (start : RetentionDisk) : RetentionDisk → Prop
  | before : CrashedFrom env options allowed start start
  | run (order : RemovalOrder) {visited : RetentionDisk}
      (visit : visited ∈ (applyStorageBackupRetention env options order start).visits)
      (allows : allowed visited) : CrashedFrom env options allowed start visited
  | recovery (order : RemovalOrder) {disk visited : RetentionDisk}
      (crashed : CrashedFrom env options allowed start disk)
      (visit : visited ∈ (reconcileStorageRetentionTransactions order disk).visits)
      (allows : allowed visited) : CrashedFrom env options allowed start visited
  | recoverySync (order : RemovalOrder) {disk visited : RetentionDisk}
      (crashed : CrashedFrom env options allowed start disk)
      (visit : visited ∈ (reconcileStorageRetentionTransactionsSync order disk).visits)
      (allows : allowed visited) : CrashedFrom env options allowed start visited

theorem CrashedFrom.recoverable (crashed : CrashedFrom env options HasJournal start disk)
    (settled : start.transaction = none) :
    Recoverable env start (candidateIdsOf env options start) disk := by
  induction crashed with
  | before => exact .untouched settled rfl (.inl rfl)
  | run order visit allows =>
    exact (applyStorageBackupRetention_triple env options order settled start rfl).1 _ visit allows
  | recovery order _ visit allows induction =>
    exact (reconcile_triple order _ induction).1 _ visit allows
  | recoverySync order _ visit allows induction =>
    rw [reconcileSync_eq] at visit
    exact (reconcile_triple order _ induction).1 _ visit allows

def CatalogIsCurrent (env : RetentionEnv) (disk : RetentionDisk) : Prop :=
  ∀ entry ∈ listedBackups env disk, (disk.backups entry.backupId).isSome

def Keeps (env : RetentionEnv) (options : RetentionOptions) (start disk : RetentionDisk) : Prop :=
  ∀ policy, options.policy = some policy → ∀ backupId,
    IsKept env options policy start backupId → disk.backups backupId = start.backups backupId

/-- `rolledBack`: after a rollback the catalog is as good as it was. -/
structure Recovers (env : RetentionEnv) (options : RetentionOptions) (start : RetentionDisk)
    (outcome : Outcome RetentionDisk RetentionError Nat) : Prop where
  succeeds : ∃ reconciled, outcome.result = .ok reconciled
  allOrNone : (∀ backupId ∈ candidateIdsOf env options start,
      outcome.last.backups backupId = start.backups backupId) ∨
    ∀ backupId ∈ candidateIdsOf env options start, outcome.last.backups backupId = none
  keeps : Keeps env options start outcome.last
  settled : outcome.last.transaction = none
  rolledBack : (∃ backupId ∈ candidateIdsOf env options start,
    (outcome.last.backups backupId).isSome) → CatalogIsCurrent env start →
      CatalogIsCurrent env outcome.last
  renewed : CatalogIsCurrent env outcome.last → ∀ again order, Unlimited again →
    ∃ deletedIds, (applyStorageBackupRetention env again order outcome.last).result = .ok deletedIds

theorem deleted_of_not_mem
    (kept : backupId ∉ candidateIds) : deleted candidateIds backups backupId = backups backupId :=
  if_neg kept

theorem Recoverable.keeps (recoverable : Recoverable env start candidateIds disk)
    (kept : backupId ∉ candidateIds) : disk.backups backupId = start.backups backupId := by
  cases recoverable with
  | untouched _ same _ => rw [same]
  | committed _ _ _ gone => rw [gone, deleted_of_not_mem kept]
  | deleted _ gone => rw [gone, deleted_of_not_mem kept]
  | prepared movedIds _ valid split _ =>
    obtain ⟨same, _⟩ | ⟨moved, _⟩ := split backupId
    · exact same
    · unfold ValidIds RetentionJournal.isValid at valid
      simp only [Bool.and_eq_true, List.all_eq_true, List.contains_eq_mem,
        decide_eq_true_eq] at valid
      exact absurd (valid.2 backupId moved) kept

theorem catalogValue_present
    (listed : entry ∈ catalogValue env disk) : (disk.backups entry.backupId).isSome := by
  obtain ⟨backupId, -, found⟩ := List.mem_filterMap.mp ((List.mem_insertionSort _).mp listed)
  obtain ⟨createdAt, read, rfl⟩ := Option.map_eq_some_iff.mp found
  obtain ⟨backup, present, -⟩ := Option.bind_eq_some_iff.mp read
  exact Option.isSome_iff_exists.mpr ⟨backup, present⟩

theorem catalogIsCurrent_of_oldCatalog (catalog : OldCatalog env start disk)
    (same : disk.backups = start.backups) (current : CatalogIsCurrent env start) :
    CatalogIsCurrent env disk := by
  intro entry listed
  rw [same]
  have rebuilt : catalogValue env disk = catalogValue env start := by
    unfold catalogValue
    rw [same]
  unfold listedBackups readStorageBackupCatalog at listed
  rw [rebuilt] at listed
  obtain kept | new := catalog
  · rw [kept] at listed
    exact current entry listed
  · rw [new, Option.bind_some] at listed
    split at listed
    · exact catalogValue_present ((List.mem_insertionSort _).mp listed)
    · exact catalogValue_present listed

theorem apply_ok_of_current (settled : disk.transaction = none)
    (current : CatalogIsCurrent env disk) (unlimited : Unlimited again) (order : RemovalOrder) :
    ∃ deletedIds, (applyStorageBackupRetention env again order disk).result = .ok deletedIds := by
  obtain ⟨_, ended⟩ := applyStorageBackupRetention_triple env again order settled disk rfl
  cases outcome : (applyStorageBackupRetention env again order disk).result with
  | ok deletedIds => exact ⟨deletedIds, rfl⟩
  | error error =>
    rw [outcome] at ended
    obtain ⟨backupId, candidate, absent⟩ := ended.2 unlimited
    unfold candidateIdsOf at candidate
    split at candidate
    · cases candidate
    · obtain ⟨entry, selected, rfl⟩ := List.mem_map.mp candidate
      have present := current entry (List.mem_filter.mp selected).1
      rw [absent] at present
      cases present

theorem recovers_of_recoverable
    (recoverable : Recoverable env start (candidateIdsOf env options start) disk)
    (order : RemovalOrder) :
    Recovers env options start (reconcileStorageRetentionTransactions order disk) := by
  obtain ⟨_, ended⟩ := reconcile_triple order disk recoverable
  cases outcome : (reconcileStorageRetentionTransactions order disk).result with
  | error error =>
    rw [outcome] at ended
    exact ended.elim
  | ok reconciled =>
    rw [outcome] at ended
    obtain ⟨left, finished⟩ : Settled env start (candidateIdsOf env options start)
        (reconcileStorageRetentionTransactions order disk).last := ended
    refine ⟨⟨reconciled, outcome⟩, ?_, ?_, finished, ?_, ?_⟩
    · cases left with
      | untouched _ same _ => exact .inl fun backupId _ => congrFun same backupId
      | deleted _ gone =>
        refine .inr fun backupId candidate => ?_
        rw [gone, deleted, if_pos candidate]
      | prepared _ journal _ _ _ =>
        rw [journalOf, finished] at journal
        cases journal
      | committed _ journal _ _ =>
        rw [journalOf, finished] at journal
        cases journal
    · intro policy configured backupId kept
      exact left.keeps (kept.not_candidate configured)
    · rintro ⟨backupId, candidate, present⟩ current
      cases left with
      | untouched _ same catalog => exact catalogIsCurrent_of_oldCatalog catalog same current
      | deleted _ gone =>
        rw [gone, deleted, if_pos candidate] at present
        cases present
      | prepared _ journal _ _ _ =>
        rw [journalOf, finished] at journal
        cases journal
      | committed _ journal _ _ =>
        rw [journalOf, finished] at journal
        cases journal
    · exact fun current _ order unlimited => apply_ok_of_current finished current unlimited order

def sampleBackup : Backup := fun path => if path = "data" then some [1] else none

def sampleRetentionEnv : RetentionEnv where
  backupIds := ["backup_1", "backup_2"]
  distinct := by decide
  localeCompare := fun _ _ => true
  manifestCreatedAt := fun backupId _ => some (if backupId = "backup_1" then 1000 else 2000)

def keepOne : RetentionPolicy where
  keepLast := 1
  maxAgeMs := none
  protectedBackupIds := []
  keepsOne := WorkQueue.one_isLimit
  positive := by simp

def sampleRetentionOptions : RetentionOptions where
  policy := some keepOne
  now := 5000
  startsActive := true
  isActive := fun _ => true
  withinFiles := fun _ => true
  withinCleanupItems := fun _ => true

def twoBackups : RetentionDisk where
  backups := fun backupId =>
    if backupId = "backup_1" ∨ backupId = "backup_2" then some sampleBackup else none
  catalog := some [⟨"backup_2", 2000⟩, ⟨"backup_1", 1000⟩]
  transaction := none
  receipts := []

def sampleOrder : RemovalOrder := ⟨fun _ => ["data"], [.journal, .quarantine]⟩

def sampleVisits : List RetentionDisk :=
  (applyStorageBackupRetention sampleRetentionEnv sampleRetentionOptions sampleOrder
    twoBackups).visits

theorem sampleVisits_length : sampleVisits.length = 13 := by decide +kernel

def crashAfter (steps : Fin 13) : RetentionDisk :=
  sampleVisits.get (steps.cast sampleVisits_length.symm)

theorem crashAfter_crashed (steps : Fin 13) (allows : allowed (crashAfter steps)) :
    CrashedFrom sampleRetentionEnv sampleRetentionOptions allowed twoBackups (crashAfter steps) :=
  .run sampleOrder (List.get_mem sampleVisits _) allows

theorem crashAfter_hasJournal : HasJournal (crashAfter 4) ∧ HasJournal (crashAfter 5) := by
  unfold HasJournal
  decide +kernel

def recoveryOutcome (disk : RetentionDisk) :
    Except RetentionError Nat × Bool × Except RetentionError (List String) :=
  let recovery := reconcileStorageRetentionTransactions sampleOrder disk
  (recovery.result, recovery.last.transaction.isSome,
    (applyStorageBackupRetention sampleRetentionEnv sampleRetentionOptions sampleOrder
      recovery.last).result)

theorem recoveryOutcome_cases :
    recoveryOutcome (crashAfter 0) = (.error .missing, true, .error .missing) ∧
      recoveryOutcome (crashAfter 9) = (.error .missing, true, .error .missing) ∧
        recoveryOutcome (crashAfter 5) = (.ok 1, false, .error .missing) := by
  decide +kernel

end LicoMesh.BackupRetention
