import LicoMesh.BackupRetention.Programs

namespace LicoMesh.BackupRetention

open Library Program

variable {entry : TreeEntry} {pre crash : RetentionDisk → Prop} {backupId : String}
  {done : List String}

def journalOf (disk : RetentionDisk) : Option RetentionJournal := disk.transaction.bind (·.journal)

def HasJournal (disk : RetentionDisk) : Prop := disk.transaction.isSome → (journalOf disk).isSome

section Steps

variable {disk : RetentionDisk}

theorem journalOf_mapTransaction
    (keeps : ∀ directory, (change directory).journal = directory.journal) :
    journalOf (disk.mapTransaction change) = journalOf disk := by
  unfold journalOf RetentionDisk.mapTransaction
  cases disk.transaction with
  | none => rfl
  | some directory => exact keeps directory

theorem quarantined_setQuarantined (directory : TransactionDirectory) (backupId other : String)
    (backup : Option Backup) : (directory.setQuarantined backupId backup).quarantined other =
      if other = backupId then directory.quarantine.bind fun _ => backup
      else directory.quarantined other := by
  unfold TransactionDirectory.quarantined TransactionDirectory.setQuarantined
  cases directory.quarantine with
  | none => simp
  | some entries =>
    change setAt entries backupId backup other = _
    unfold setAt
    split <;> rfl

theorem quarantined_mapTransaction (change : TransactionDirectory → TransactionDirectory)
    (backupId : String) : (disk.mapTransaction change).quarantined backupId =
      disk.transaction.bind fun directory => (change directory).quarantined backupId := by
  unfold RetentionDisk.quarantined RetentionDisk.mapTransaction
  cases disk.transaction <;> rfl

theorem quarantined_remove (absent : disk.quarantined backupId = none) :
    (disk.mapTransaction (·.remove entry)).quarantined backupId = none := by
  rw [quarantined_mapTransaction]
  unfold RetentionDisk.quarantined at absent
  cases found : disk.transaction with
  | none => rfl
  | some directory =>
    rw [found, Option.bind_some] at absent
    cases entry with
    | journal => exact absent
    | quarantine => rfl
    | quarantinedFile other path =>
      change (directory.setQuarantined _ _).quarantined _ = none
      rw [quarantined_setQuarantined]
      split
      · rename_i same
        rw [← same, absent]
        cases directory.quarantine <;> rfl
      · exact absent
    | quarantined other =>
      change (directory.setQuarantined _ _).quarantined _ = none
      rw [quarantined_setQuarantined]
      split
      · cases directory.quarantine <;> rfl
      · exact absent

theorem journalOf_remove (found : journalOf (disk.mapTransaction (·.remove entry)) = some journal) :
    journalOf disk = some journal := by
  cases entry with
  | journal =>
    unfold journalOf RetentionDisk.mapTransaction at found
    cases present : disk.transaction <;> rw [present] at found <;> cases found
  | quarantinedFile backupId path =>
    rw [journalOf_mapTransaction] at found
    · exact found
    · exact fun _ => rfl
  | quarantined backupId =>
    rw [journalOf_mapTransaction] at found
    · exact found
    · exact fun _ => rfl
  | quarantine =>
    rw [journalOf_mapTransaction] at found
    · exact found
    · exact fun _ => rfl

theorem exists_of_hasJournal (present : HasJournal disk) :
    disk.transaction = none ∨ ∃ journal, journalOf disk = some journal := by
  cases found : disk.transaction with
  | none => exact .inl rfl
  | some directory =>
    have isSome : disk.transaction.isSome := by rw [found]; rfl
    exact .inr (Option.isSome_iff_exists.mp (present isSome))

end Steps

def deleted (candidateIds : List String) (backups : String → Option Backup) :
    String → Option Backup :=
  fun backupId => if backupId ∈ candidateIds then none else backups backupId

def ValidIds (candidateIds movedIds : List String) : Prop :=
  (⟨.prepared, candidateIds, movedIds⟩ : RetentionJournal).isValid = true

section Recoverable

variable (env : RetentionEnv) (start : RetentionDisk) (candidateIds : List String)

def OldCatalog (disk : RetentionDisk) : Prop :=
  disk.catalog = start.catalog ∨ disk.catalog = some (catalogValue env start)

def Split (movedIds : List String) (disk : RetentionDisk) : Prop :=
  ∀ backupId, (disk.backups backupId = start.backups backupId ∧ disk.quarantined backupId = none) ∨
      (backupId ∈ movedIds ∧ disk.backups backupId = none ∧
        disk.quarantined backupId = start.backups backupId)

inductive Recoverable (disk : RetentionDisk) : Prop
  | untouched (settled : disk.transaction = none) (same : disk.backups = start.backups)
      (catalog : OldCatalog env start disk)
  | prepared (movedIds : List String)
      (journal : journalOf disk = some ⟨.prepared, candidateIds, movedIds⟩)
      (valid : ValidIds candidateIds movedIds) (split : Split start movedIds disk)
      (catalog : OldCatalog env start disk)
  | committed (movedIds : List String)
      (journal : journalOf disk = some ⟨.commitReady, candidateIds, movedIds⟩)
      (valid : ValidIds candidateIds movedIds)
      (gone : disk.backups = deleted candidateIds start.backups)
  | deleted (settled : disk.transaction = none)
      (gone : disk.backups = deleted candidateIds start.backups)

def Survives (disk : RetentionDisk) : Prop :=
  HasJournal disk → Recoverable env start candidateIds disk

end Recoverable

variable {env : RetentionEnv} {start disk : RetentionDisk} {candidateIds movedIds : List String}

theorem Recoverable.survives (recoverable : Recoverable env start candidateIds disk) :
    Survives env start candidateIds disk :=
  fun _ => recoverable

theorem removeTransaction_triple (pre : RetentionDisk → Prop) (order : RemovalOrder)
    (keeps : ∀ disk entry, pre disk → pre (disk.mapTransaction (·.remove entry)))
    (survives : ∀ disk, pre disk → crash disk)
    (finish : ∀ disk, pre disk → finished { disk with transaction := none })
    (ends : ∀ disk, finished disk → crash disk) :
    Triple pre (removeTransaction order) (fun _ => finished) (fun _ _ => False) crash := by
  apply triple_bind (fun _ => pre)
  · apply triple_forEach (fun _ _ => pre) _ [] order.transaction
    intro _ entry _
    exact triple_write (fun disk holds => survives _ (keeps disk entry holds))
      fun disk holds => keeps disk entry holds
  · intro _
    exact triple_write (fun disk holds => ends _ (finish disk holds)) finish

structure RolledBack (env : RetentionEnv) (start : RetentionDisk) (candidateIds : List String)
    (disk : RetentionDisk) : Prop where
  journal : ∀ journal, journalOf disk = some journal → ∃ movedIds,
    journal = ⟨.prepared, candidateIds, movedIds⟩ ∧ ValidIds candidateIds movedIds
  same : disk.backups = start.backups
  empty : ∀ backupId, disk.quarantined backupId = none
  catalog : OldCatalog env start disk

theorem RolledBack.survives (rolledBack : RolledBack env start candidateIds disk) :
    Survives env start candidateIds disk := by
  intro present
  obtain settled | ⟨journal, found⟩ := exists_of_hasJournal present
  · exact .untouched settled rolledBack.same rolledBack.catalog
  · obtain ⟨movedIds, rfl, valid⟩ := rolledBack.journal journal found
    exact .prepared movedIds found valid
      (fun backupId => .inl ⟨congrFun rolledBack.same backupId, rolledBack.empty backupId⟩)
      rolledBack.catalog

structure Committed (start : RetentionDisk) (candidateIds : List String)
    (disk : RetentionDisk) : Prop where
  journal : ∀ journal, journalOf disk = some journal → ∃ movedIds,
    journal = ⟨.commitReady, candidateIds, movedIds⟩ ∧ ValidIds candidateIds movedIds
  gone : disk.backups = deleted candidateIds start.backups

theorem Committed.survives (committed : Committed start candidateIds disk) :
    Survives env start candidateIds disk := by
  intro present
  obtain settled | ⟨journal, found⟩ := exists_of_hasJournal present
  · exact .deleted settled committed.gone
  · obtain ⟨movedIds, rfl, valid⟩ := committed.journal journal found
    exact .committed movedIds found valid committed.gone

theorem Committed.remove (committed : Committed start candidateIds disk) (entry : TreeEntry) :
    Committed start candidateIds (disk.mapTransaction (·.remove entry)) :=
  ⟨fun journal found => committed.journal journal (journalOf_remove found), committed.gone⟩

theorem removeQuarantined_triple (order : RemovalOrder) (backupId : String) :
    Triple (Committed start candidateIds) (removeQuarantined order backupId)
      (fun _ => Committed start candidateIds) (fun _ _ => False)
      (Survives env start candidateIds) := by
  apply triple_bind (fun _ => Committed start candidateIds)
  · apply triple_forEach (fun _ _ => Committed start candidateIds) _ [] (order.backup backupId)
    intro _ path _
    exact triple_write (fun _ committed => (committed.remove _).survives)
      fun _ committed => committed.remove _
  · intro _
    exact triple_write (fun _ committed => (committed.remove _).survives)
      fun _ committed => committed.remove _

theorem RolledBack.remove (rolledBack : RolledBack env start candidateIds disk)
    (entry : TreeEntry) :
    RolledBack env start candidateIds (disk.mapTransaction (·.remove entry)) :=
  ⟨fun journal found => rolledBack.journal journal (journalOf_remove found), rolledBack.same,
    fun backupId => quarantined_remove (rolledBack.empty backupId), rolledBack.catalog⟩

def Settled (env : RetentionEnv) (start : RetentionDisk) (candidateIds : List String)
    (disk : RetentionDisk) : Prop :=
  Recoverable env start candidateIds disk ∧ disk.transaction = none

abbrev RecoveryTriple (env : RetentionEnv) (start : RetentionDisk) (candidateIds : List String)
    (pre : RetentionDisk → Prop) (program : RetentionProgram Unit) : Prop :=
  Triple pre program (fun _ => Settled env start candidateIds) (fun _ _ => False)
    (Survives env start candidateIds)

theorem removeRolledBack_triple (order : RemovalOrder) :
    RecoveryTriple env start candidateIds (RolledBack env start candidateIds)
      (removeTransaction order) := by
  apply removeTransaction_triple (RolledBack env start candidateIds)
  · exact fun _ entry rolledBack => rolledBack.remove entry
  · exact fun _ rolledBack => rolledBack.survives
  · exact fun _ rolledBack => ⟨.untouched rfl rolledBack.same rolledBack.catalog, rfl⟩
  · exact fun _ settled => settled.1.survives

theorem removeCommitted_triple (order : RemovalOrder) :
    RecoveryTriple env start candidateIds (Committed start candidateIds)
      (removeTransaction order) := by
  apply removeTransaction_triple (Committed start candidateIds)
  · exact fun _ entry committed => committed.remove entry
  · exact fun _ committed => committed.survives
  · exact fun _ committed => ⟨.deleted rfl committed.gone, rfl⟩
  · exact fun _ settled => settled.1.survives

/-- The rollback of the moves so far; those that are `done` are back. -/
structure MovingBack (env : RetentionEnv) (start : RetentionDisk)
    (candidateIds movedIds done : List String) (disk : RetentionDisk) : Prop where
  journal : journalOf disk = some ⟨.prepared, candidateIds, movedIds⟩
  valid : ValidIds candidateIds movedIds
  split : Split start movedIds disk
  back : ∀ backupId ∈ done,
    disk.backups backupId = start.backups backupId ∧ disk.quarantined backupId = none
  catalog : OldCatalog env start disk

variable (moving : MovingBack env start candidateIds movedIds done disk)

include moving in
theorem MovingBack.survives : Survives env start candidateIds disk :=
  fun _ => .prepared movedIds moving.journal moving.valid moving.split moving.catalog

theorem moveBack_places (disk : RetentionDisk) (backupId other : String) :
    (disk.moveBack backupId).backups other =
        (if other = backupId then disk.quarantined backupId else disk.backups other) ∧
      (disk.moveBack backupId).quarantined other =
        (if other = backupId then none else disk.quarantined other) := by
  refine ⟨rfl, ?_⟩
  change (disk.mapTransaction (·.setQuarantined backupId none)).quarantined other = _
  rw [quarantined_mapTransaction]
  unfold RetentionDisk.quarantined
  cases disk.transaction with
  | none => simp
  | some directory =>
    rw [Option.bind_some, Option.bind_some, quarantined_setQuarantined]
    split
    · cases directory.quarantine <;> rfl
    · rfl

include moving

theorem MovingBack.moveBack (quarantined : disk.quarantined backupId = start.backups backupId) :
    MovingBack env start candidateIds movedIds (done ++ [backupId]) (disk.moveBack backupId) := by
  have placed : ∀ other, (disk.backups other = start.backups other ∧
        disk.quarantined other = none) ∨ other = backupId →
      (disk.moveBack backupId).backups other = start.backups other ∧
        (disk.moveBack backupId).quarantined other = none := by
    intro other place
    obtain ⟨backups, empty⟩ := moveBack_places disk backupId other
    rw [backups, empty]
    split
    · rename_i same
      exact ⟨same ▸ quarantined, rfl⟩
    · rename_i distinct
      exact place.resolve_right distinct
  refine ⟨?_, moving.valid, ?_, ?_, moving.catalog⟩
  · have kept : journalOf (disk.mapTransaction (·.setQuarantined backupId none)) =
        journalOf disk := journalOf_mapTransaction fun _ => rfl
    exact kept.trans moving.journal
  · intro other
    by_cases same : other = backupId
    · exact .inl (placed other (.inr same))
    · obtain place | ⟨moved, missing, kept⟩ := moving.split other
      · exact .inl (placed other (.inl place))
      · obtain ⟨backups, entries⟩ := moveBack_places disk backupId other
        refine .inr ⟨moved, ?_, ?_⟩
        · rw [backups, if_neg same, missing]
        · rw [entries, if_neg same, kept]
  · intro other member
    obtain earlier | last := List.mem_append.mp member
    · exact placed other (.inl (moving.back other earlier))
    · exact placed other (.inr (List.mem_singleton.mp last))

theorem MovingBack.skip
    (place : disk.backups backupId = start.backups backupId ∧ disk.quarantined backupId = none) :
    MovingBack env start candidateIds movedIds (done ++ [backupId]) disk := by
  refine ⟨moving.journal, moving.valid, moving.split, ?_, moving.catalog⟩
  intro other member
  obtain earlier | last := List.mem_append.mp member
  · exact moving.back other earlier
  · rw [List.mem_singleton.mp last]
    exact place

omit moving

theorem moveBackCandidate_triple (backupId : String) :
    Triple (MovingBack env start candidateIds movedIds done) (moveBackCandidate backupId)
      (fun _ => MovingBack env start candidateIds movedIds (done ++ [backupId]))
      (fun _ _ => False) (Survives env start candidateIds) := by
  apply triple_bind (fun found disk => MovingBack env start candidateIds movedIds done disk ∧
    found = ((disk.backups backupId).isSome, (disk.quarantined backupId).isSome))
  · apply triple_read
    · rintro disk _ moving ⟨⟩
      exact ⟨moving, rfl⟩
    · rintro disk _ _ ⟨⟩
  rintro ⟨inRoot, inQuarantine⟩
  cases inQuarantine with
  | false =>
    -- either in its place, or a backup that was absent all along
    rw [Bool.and_false, if_neg Bool.false_ne_true, Bool.and_false, if_neg Bool.false_ne_true]
    apply triple_pure
    rintro disk ⟨moving, found⟩
    obtain ⟨root, quarantine⟩ := Prod.mk.inj found
    have absent : disk.quarantined backupId = none := by simpa using quarantine.symm
    obtain place | ⟨_, missing, kept⟩ := moving.split backupId
    · exact moving.skip place
    · exact moving.skip ⟨missing.trans (absent.symm.trans kept), absent⟩
  | true =>
    intro disk
    rintro ⟨moving, found⟩
    obtain ⟨root, quarantine⟩ := Prod.mk.inj found
    obtain ⟨_, empty⟩ | ⟨_, missing, kept⟩ := moving.split backupId
    · rw [empty] at quarantine
      cases quarantine
    · rw [missing] at root
      cases root
      have moved : Triple (fun other => other = disk)
          (.write fun disk => disk.moveBack backupId : RetentionProgram Unit)
          (fun _ => MovingBack env start candidateIds movedIds (done ++ [backupId]))
          (fun _ _ => False) (Survives env start candidateIds) := by
        apply triple_write
        · rintro _ rfl
          exact (moving.moveBack kept).survives
        · rintro _ rfl
          exact moving.moveBack kept
      exact moved disk rfl

theorem moveBackCandidates_triple : Triple (MovingBack env start candidateIds movedIds [])
      (.forEach movedIds.reverse moveBackCandidate)
      (fun _ => RolledBack env start candidateIds) (fun _ _ => False)
      (Survives env start candidateIds) := by
  have loop := triple_forEach (fun done _ => MovingBack env start candidateIds movedIds done)
    (fun _ backupId _ => moveBackCandidate_triple backupId) [] movedIds.reverse
  apply loop.conseq (fun _ moving => moving) _ (fun _ _ never => never) fun _ survives => survives
  intro _ disk moving
  have placed : ∀ backupId,
      disk.backups backupId = start.backups backupId ∧ disk.quarantined backupId = none := by
    intro backupId
    obtain place | ⟨moved, _⟩ := moving.split backupId
    · exact place
    · exact moving.back backupId (List.mem_reverse.mpr moved)
  refine ⟨?_, funext fun backupId => (placed backupId).1, fun backupId => (placed backupId).2,
    moving.catalog⟩
  intro journal found
  exact ⟨movedIds, Option.some.inj (found.symm.trans moving.journal), moving.valid⟩

theorem deleteCandidate_triple (candidate : backupId ∈ candidateIds) :
    Triple (Committed start candidateIds) (deleteCandidate order backupId)
      (fun _ => Committed start candidateIds) (fun _ _ => False)
      (Survives env start candidateIds) := by
  apply triple_bind (fun _ => Committed start candidateIds)
  · apply triple_require
    · exact fun _ committed _ => committed
    · intro disk committed present
      rw [committed.gone, deleted, if_pos candidate] at present
      cases present
  intro _
  exact removeQuarantined_triple order backupId

theorem readJournal_triple (journal : RetentionJournal) (valid : journal.isValid = true)
    (found : ∀ disk, pre disk → journalOf disk = some journal) :
    Triple pre readJournal (fun value disk => pre disk ∧ value = journal) (fun _ _ => False)
      crash := by
  apply triple_read
  · intro disk value holds read
    have present : disk.transaction.bind (·.journal) = some journal := found disk holds
    rw [present] at read
    simp only [valid, if_true] at read
    cases read
    exact ⟨holds, rfl⟩
  · intro disk error holds read
    have present : disk.transaction.bind (·.journal) = some journal := found disk holds
    rw [present] at read
    simp only [valid, if_true] at read
    cases read

theorem reconcilePrepared_triple (order : RemovalOrder) (valid : ValidIds candidateIds movedIds) :
    RecoveryTriple env start candidateIds (MovingBack env start candidateIds movedIds [])
      (reconcileTransaction order) := by
  apply triple_bind (fun journal disk => MovingBack env start candidateIds movedIds [] disk ∧
    journal = ⟨.prepared, candidateIds, movedIds⟩)
  · exact readJournal_triple _ valid fun _ moving => moving.journal
  intro journal
  apply triple_given
  rintro rfl
  exact triple_bind (fun _ => RolledBack env start candidateIds) moveBackCandidates_triple
    fun _ => removeRolledBack_triple order

theorem syncQuarantine_triple : Triple pre
      (.tryCatch (syncDirectory quarantineExists) fun error =>
        if error = .missing then .pure () else .throw error)
      (fun _ => pre) (fun _ _ => False) crash := by
  apply triple_tryCatch (fun error disk => error = .missing ∧ pre disk)
  · apply triple_require
    · exact fun _ holds _ => holds
    · exact fun _ holds _ => ⟨rfl, holds⟩
  · rintro error disk ⟨rfl, holds⟩
    exact ⟨fun _ member => absurd member List.not_mem_nil, holds⟩

section

variable (order : RemovalOrder)
include order

theorem reconcileCommitted_triple (valid : ValidIds candidateIds movedIds) :
    RecoveryTriple env start candidateIds
      (fun disk => Committed start candidateIds disk ∧
        journalOf disk = some ⟨.commitReady, candidateIds, movedIds⟩)
      (reconcileTransaction order) := by
  apply triple_bind (fun journal disk => (Committed start candidateIds disk ∧
    journalOf disk = some ⟨.commitReady, candidateIds, movedIds⟩) ∧
      journal = ⟨.commitReady, candidateIds, movedIds⟩)
  · exact readJournal_triple ⟨.commitReady, candidateIds, movedIds⟩ valid
      fun _ holds => holds.2
  intro journal
  apply triple_given
  rintro rfl
  apply triple_bind (fun _ => Committed start candidateIds)
  · apply Triple.conseq (triple_forEach_keeps fun _ candidate => deleteCandidate_triple candidate)
    · exact fun _ holds => holds.1
    · exact fun _ _ committed => committed
    · exact fun _ _ never => never
    · exact fun _ survives => survives
  intro _
  apply triple_bind (fun _ => Committed start candidateIds)
  · exact syncQuarantine_triple
  · exact fun _ => removeCommitted_triple order

theorem reconcile_triple :
    Triple (Recoverable env start candidateIds) (reconcileStorageRetentionTransactions order)
      (fun _ => Settled env start candidateIds) (fun _ _ => False)
      (Survives env start candidateIds) := by
  apply triple_bind (fun present disk => Recoverable env start candidateIds disk ∧
    present = disk.transaction.isSome)
  · apply triple_read
    · rintro disk _ recoverable ⟨⟩
      exact ⟨recoverable, rfl⟩
    · rintro disk _ _ ⟨⟩
  intro present disk
  rintro ⟨recoverable, found⟩
  cases present with
  | false =>
    have settled : disk.transaction = none := by simpa using found.symm
    exact ⟨fun _ member => absurd member List.not_mem_nil, recoverable, settled⟩
  | true =>
    have finish : RecoveryTriple env start candidateIds (fun other => other = disk)
        (reconcileTransaction order) := by
      rintro _ rfl
      cases recoverable with
      | untouched settled _ _ =>
        rw [settled] at found
        cases found
      | deleted settled _ =>
        rw [settled] at found
        cases found
      | prepared movedIds journal valid split catalog =>
        exact reconcilePrepared_triple order valid _
          ⟨journal, valid, split, fun _ member => absurd member List.not_mem_nil, catalog⟩
      | committed movedIds journal valid gone =>
        apply reconcileCommitted_triple order valid
        refine ⟨⟨?_, gone⟩, journal⟩
        intro other same
        exact ⟨movedIds, Option.some.inj (same.symm.trans journal), valid⟩
    have counted : Triple (fun other => other = disk)
        (do reconcileTransaction order; .pure 1 : RetentionProgram Nat)
        (fun _ => Settled env start candidateIds) (fun _ _ => False)
        (Survives env start candidateIds) :=
      triple_bind (fun _ => Settled env start candidateIds) finish
        fun _ => triple_pure fun _ settled => settled
    exact counted disk rfl

theorem reconcileTransactionSync_eq :
    reconcileTransactionSync order = reconcileTransaction order := by
  have synced : (Program.tryCatch (syncDirectory quarantineExists) fun error =>
      if error = .missing then Pure.pure () else Program.throw error) = syncDirectorySync := by
    funext disk
    unfold Program.tryCatch syncDirectory Program.require Program.read
    cases found : quarantineExists disk with
    | true =>
      simp only [found, if_true]
      rfl
    | false =>
      simp only [found, Bool.false_eq_true, if_false, if_true]
      rfl
  unfold reconcileTransactionSync reconcileTransaction
  rw [synced]

theorem reconcileSync_eq : reconcileStorageRetentionTransactionsSync order =
      reconcileStorageRetentionTransactions order := by
  unfold reconcileStorageRetentionTransactionsSync
  rw [reconcileTransactionSync_eq]
  rfl

end

end LicoMesh.BackupRetention
