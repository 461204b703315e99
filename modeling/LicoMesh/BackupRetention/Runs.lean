import LicoMesh.BackupRetention.Recovery

namespace LicoMesh.BackupRetention

open Library Program List

/-! Runs of the retention, the disks that they can leave, and what a recovery makes of them. -/

variable {env : RetentionEnv} {options : RetentionOptions} {start disk : RetentionDisk}

/-- What `listStorageBackups` returns. -/
def listedBackups (env : RetentionEnv) (disk : RetentionDisk) : List StorageBackupCatalogEntry :=
  (readStorageBackupCatalog env disk).getD (catalogValue env disk)

def candidateIdsOf (env : RetentionEnv) (options : RetentionOptions) (disk : RetentionDisk) :
    List String :=
  match options.policy with
  | none => []
  | some policy =>
    (selectCandidates (listedBackups env disk) policy options.now).map (·.backupId)

theorem rankBackups_ids (distinct : (backups.map (·.backupId)).Nodup) :
    ((rankBackups env backups).map (·.backupId)).Nodup :=
  ((perm_insertionSort _ backups).map _).nodup_iff.mpr distinct

theorem listedBackups_ids (env : RetentionEnv) (disk : RetentionDisk) :
    ((listedBackups env disk).map (·.backupId)).Nodup := by
  unfold listedBackups
  cases found : readStorageBackupCatalog env disk with
  | some backups =>
    obtain ⟨stored, _, valid⟩ := Option.bind_eq_some_iff.mp found
    split at valid
    · rename_i distinct
      cases valid
      exact rankBackups_ids distinct
    · cases valid
  | none =>
    apply rankBackups_ids
    rw [map_filterMap]
    apply Nodup.filterMap _ env.distinct
    intro first second name inFirst inSecond
    rw [Option.map_map] at inFirst inSecond
    obtain ⟨_, -, rfl⟩ := Option.map_eq_some_iff.mp inFirst
    obtain ⟨_, -, same⟩ := Option.map_eq_some_iff.mp inSecond
    exact same.symm

theorem candidateIdsOf_nodup (env : RetentionEnv) (options : RetentionOptions)
    (disk : RetentionDisk) : (candidateIdsOf env options disk).Nodup := by
  unfold candidateIdsOf
  split
  · exact nodup_nil
  · exact ((filter_sublist).map _).nodup (listedBackups_ids env disk)

def IsKept (env : RetentionEnv) (options : RetentionOptions) (policy : RetentionPolicy)
    (disk : RetentionDisk) (backupId : String) : Prop :=
  backupId ∈ policy.protectedBackupIds ∨
    backupId ∈ ((listedBackups env disk).take policy.keepLast).map (·.backupId) ∨
      ∃ entry ∈ listedBackups env disk, entry.backupId = backupId ∧
        ∃ age ∈ policy.maxAgeMs, options.now - age < entry.createdAt

theorem IsKept.not_candidate (kept : IsKept env options policy disk backupId)
    (configured : options.policy = some policy) : backupId ∉ candidateIdsOf env options disk := by
  intro candidate
  unfold candidateIdsOf at candidate
  rw [configured] at candidate
  obtain ⟨entry, selected, rfl⟩ := mem_map.mp candidate
  obtain ⟨listed, passes⟩ := mem_filter.mp selected
  simp only [Bool.and_eq_true, Bool.not_eq_true', contains_eq_mem, decide_eq_false_iff_not]
    at passes
  obtain ⟨⟨unprotected, unranked⟩, old⟩ := passes
  obtain isProtected | ranked | ⟨other, member, same, age, limited, younger⟩ := kept
  · exact unprotected isProtected
  · exact unranked ranked
  · obtain rfl : other = entry :=
      inj_on_of_nodup_map (listedBackups_ids env disk) member listed same
    have bounded : policy.maxAgeMs = some age := limited
    simp only [bounded, decide_eq_true_eq] at old
    omega

structure Unlimited (options : RetentionOptions) : Prop where
  startsActive : options.startsActive = true
  isActive : ∀ backupId, options.isActive backupId = true
  withinFiles : ∀ files, options.withinFiles files = true
  withinCleanupItems : ∀ items, options.withinCleanupItems items = true

def Explained (options : RetentionOptions) (start : RetentionDisk) (candidateIds : List String) :
    Prop :=
  Unlimited options → ∃ backupId ∈ candidateIds, start.backups backupId = none

variable {candidateIds journaled movedIds : List String}

/-- The candidates in `movedIds` have been moved, and the journal allows for those in
`journaled`. -/
structure Quarantining (env : RetentionEnv) (start : RetentionDisk)
    (candidateIds journaled movedIds : List String) (disk : RetentionDisk) : Prop where
  journal : journalOf disk = some ⟨.prepared, candidateIds, journaled⟩
  quarantine : quarantineExists disk = true
  placed : ∀ backupId, if backupId ∈ movedIds then
      disk.backups backupId = none ∧ disk.quarantined backupId = start.backups backupId
    else disk.backups backupId = start.backups backupId ∧ disk.quarantined backupId = none
  catalog : OldCatalog env start disk

namespace Quarantining

variable (quarantining : Quarantining env start candidateIds journaled movedIds disk)
include quarantining

variable (within : ∀ backupId ∈ movedIds, backupId ∈ journaled)
include within

theorem split : Split start journaled disk := by
  intro backupId
  have placed := quarantining.placed backupId
  split at placed
  · rename_i moved
    exact .inr ⟨within backupId moved, placed⟩
  · exact .inl placed

theorem movingBack (valid : ValidIds candidateIds journaled) :
    MovingBack env start candidateIds journaled [] disk :=
  ⟨quarantining.journal, valid, quarantining.split within,
    fun _ member => absurd member not_mem_nil, quarantining.catalog⟩

omit within

theorem writeJournal (next : List String) :
    Quarantining env start candidateIds next movedIds (disk.mapTransaction fun directory =>
      { directory with journal := some ⟨.prepared, candidateIds, next⟩ }) := by
  have quarantine := quarantining.quarantine
  unfold quarantineExists at quarantine
  cases found : disk.transaction with
  | none =>
    rw [found] at quarantine
    cases quarantine
  | some directory =>
    rw [found] at quarantine
    refine ⟨?_, ?_, ?_, quarantining.catalog⟩
    · rw [journalOf, RetentionDisk.mapTransaction, found]
      rfl
    · rw [quarantineExists, RetentionDisk.mapTransaction, found]
      exact quarantine
    · intro backupId
      have placed := quarantining.placed backupId
      rw [RetentionDisk.quarantined, found] at placed
      rw [quarantined_mapTransaction, found]
      exact placed

theorem move (unmoved : backupId ∉ movedIds) :
    Quarantining env start candidateIds journaled (movedIds ++ [backupId])
      (disk.moveToQuarantine backupId) := by
  have quarantine := quarantining.quarantine
  unfold quarantineExists at quarantine
  cases found : disk.transaction with
  | none =>
    rw [found] at quarantine
    cases quarantine
  | some directory =>
    rw [found] at quarantine
    obtain ⟨entries, present⟩ := Option.isSome_iff_exists.mp quarantine
    have moved : ∀ other, (disk.moveToQuarantine backupId).quarantined other =
        if other = backupId then disk.backups backupId else disk.quarantined other := by
      intro other
      change (disk.mapTransaction _).quarantined other = _
      rw [quarantined_mapTransaction, found, Option.bind_some, quarantined_setQuarantined,
        RetentionDisk.quarantined, found, Option.bind_some, show directory.quarantine = some entries
          from present, Option.bind_some]
    refine ⟨?_, ?_, ?_, quarantining.catalog⟩
    · have kept : journalOf (disk.mapTransaction
          (·.setQuarantined backupId (disk.backups backupId))) = journalOf disk :=
        journalOf_mapTransaction fun _ => rfl
      exact kept.trans quarantining.journal
    · change ((disk.mapTransaction _).transaction.bind (·.quarantine)).isSome = true
      rw [RetentionDisk.mapTransaction, found]
      change (directory.quarantine.map _).isSome = true
      rw [Option.isSome_map]
      exact quarantine
    · intro other
      have placed := quarantining.placed other
      rw [moved]
      change if other ∈ movedIds ++ [backupId] then
          (if other = backupId then none else disk.backups other) = none ∧ _
        else (if other = backupId then none else disk.backups other) = _ ∧ _
      by_cases same : other = backupId
      · subst same
        rw [if_neg unmoved] at placed
        rw [if_pos (mem_append_right _ mem_cons_self), if_pos rfl, if_pos rfl]
        exact ⟨rfl, placed.1⟩
      · rw [if_neg same, if_neg same]
        have unchanged : other ∈ movedIds ++ [backupId] ↔ other ∈ movedIds := by
          simp [same]
        simp only [unchanged]
        exact placed

end Quarantining

theorem validIds_of_append (distinct : candidateIds.Nodup)
    (listed : movedIds ++ rest = candidateIds) : ValidIds candidateIds movedIds := by
  subst listed
  unfold ValidIds RetentionJournal.isValid
  simp only [Bool.and_eq_true, decide_eq_true_eq, all_eq_true, contains_eq_mem]
  exact ⟨⟨distinct, (nodup_append.mp distinct).1⟩,
    fun _ member => mem_append_left _ member⟩

def Failing (env : RetentionEnv) (options : RetentionOptions) (start : RetentionDisk)
    (candidateIds : List String) (disk : RetentionDisk) : Prop :=
  (∃ movedIds, ValidIds candidateIds movedIds ∧
    MovingBack env start candidateIds movedIds [] disk) ∧ Explained options start candidateIds

theorem quarantineCandidates_triple (distinct : candidateIds.Nodup) (rest : List String) :
    ∀ movedIds, movedIds ++ rest = candidateIds →
      Triple (Quarantining env start candidateIds movedIds movedIds)
        (quarantineCandidates options candidateIds movedIds rest)
        (fun _ => Quarantining env start candidateIds candidateIds candidateIds)
        (fun _ => Failing env options start candidateIds) (Survives env start candidateIds) := by
  induction rest with
  | nil =>
    intro movedIds listed
    rw [append_nil] at listed
    subst listed
    exact triple_pure fun _ quarantining => quarantining
  | cons backupId rest induction =>
    intro movedIds listed
    have valid := validIds_of_append distinct listed
    have next : (movedIds ++ [backupId]) ++ rest = candidateIds := by
      rw [append_assoc]
      exact listed
    have nextValid := validIds_of_append distinct next
    have within : ∀ other ∈ movedIds, other ∈ movedIds ++ [backupId] :=
      fun _ member => mem_append_left _ member
    have unmoved : backupId ∉ movedIds := by
      subst listed
      exact fun moved => (nodup_append.mp distinct).2.2 _ moved _ mem_cons_self rfl
    have candidate : backupId ∈ candidateIds := by
      rw [← listed]
      exact mem_append_right _ mem_cons_self
    apply triple_bind (fun _ => Quarantining env start candidateIds movedIds movedIds)
    · apply triple_require
      · exact fun _ holds _ => holds
      · intro disk quarantining stopped
        refine ⟨⟨movedIds, valid, quarantining.movingBack (fun _ member => member) valid⟩, ?_⟩
        intro unlimited
        rw [unlimited.isActive] at stopped
        cases stopped
    intro _
    apply triple_bind (fun _ => Quarantining env start candidateIds movedIds movedIds)
    · apply triple_require
      · exact fun _ holds _ => holds
      · intro disk quarantining missing
        refine ⟨⟨movedIds, valid, quarantining.movingBack (fun _ member => member) valid⟩, ?_⟩
        intro _
        have placed := quarantining.placed backupId
        rw [if_neg unmoved] at placed
        refine ⟨backupId, candidate, ?_⟩
        rw [← placed.1]
        simpa using missing
    intro _
    apply triple_bind (fun _ => Quarantining env start candidateIds (movedIds ++ [backupId])
      movedIds)
    · apply triple_write
      · exact fun _ quarantining =>
          ((quarantining.writeJournal _).movingBack within nextValid).survives
      · exact fun _ quarantining => quarantining.writeJournal _
    intro _
    apply triple_bind (fun _ => Quarantining env start candidateIds (movedIds ++ [backupId])
      movedIds)
    · apply triple_require
      · exact fun _ holds _ => holds
      · intro disk quarantining missing
        rw [quarantining.quarantine] at missing
        cases missing
    intro _
    apply triple_bind (fun _ => Quarantining env start candidateIds (movedIds ++ [backupId])
      (movedIds ++ [backupId]))
    · apply triple_write
      · exact fun _ quarantining =>
          ((quarantining.move unmoved).movingBack (fun _ member => member) nextValid).survives
      · exact fun _ quarantining => quarantining.move unmoved
    intro _
    exact induction (movedIds ++ [backupId]) next

structure Unbegun (env : RetentionEnv) (start disk : RetentionDisk) : Prop where
  settled : disk.transaction = none
  same : disk.backups = start.backups
  catalog : OldCatalog env start disk

/-- The directory of the transaction, without a journal. -/
structure Opened (env : RetentionEnv) (start : RetentionDisk)
    (quarantine : Option (String → Option Backup)) (disk : RetentionDisk) : Prop where
  directory : disk.transaction = some { quarantine := quarantine }
  same : disk.backups = start.backups
  catalog : OldCatalog env start disk

theorem Opened.survives
    (opened : Opened env start quarantine disk) : Survives env start candidateIds disk := by
  intro present
  unfold HasJournal journalOf at present
  rw [opened.directory] at present
  exact absurd (present rfl) Bool.false_ne_true

theorem prepareRetention_triple (distinct : candidateIds.Nodup) :
    Triple (Unbegun env start) (prepareRetention options candidateIds)
      (fun _ => Committed start candidateIds) (fun _ => Failing env options start candidateIds)
      (Survives env start candidateIds) := by
  apply triple_bind (fun _ => Opened env start none)
  · have opens : ∀ disk : RetentionDisk, Unbegun env start disk →
        Opened env start none { disk with transaction := some {} } :=
      fun disk unbegun => ⟨rfl, unbegun.same, unbegun.catalog⟩
    exact triple_write (fun disk unbegun => (opens disk unbegun).survives) opens
  intro _
  apply triple_bind (fun _ => Opened env start (some fun _ => none))
  · have opens : ∀ disk : RetentionDisk, Opened env start none disk →
        Opened env start (some fun _ => none) (disk.mapTransaction fun directory =>
          { directory with quarantine := some fun _ => none }) := by
      intro disk opened
      refine ⟨?_, opened.same, opened.catalog⟩
      rw [RetentionDisk.mapTransaction, opened.directory]
      rfl
    exact triple_write (fun disk opened => (opens disk opened).survives) opens
  intro _
  apply triple_bind (fun _ => Quarantining env start candidateIds [] [])
  · have journals : ∀ disk : RetentionDisk, Opened env start (some fun _ => none) disk →
        Quarantining env start candidateIds [] [] (disk.mapTransaction fun directory =>
          { directory with journal := some ⟨.prepared, candidateIds, []⟩ }) := by
      intro disk opened
      refine ⟨?_, ?_, ?_, opened.catalog⟩
      · rw [journalOf, RetentionDisk.mapTransaction, opened.directory]
        rfl
      · rw [quarantineExists, RetentionDisk.mapTransaction, opened.directory]
        rfl
      · intro backupId
        rw [if_neg not_mem_nil, quarantined_mapTransaction, opened.directory]
        exact ⟨congrFun opened.same backupId, rfl⟩
    apply triple_write
    · intro disk opened
      exact ((journals disk opened).movingBack (fun _ member => member)
        (validIds_of_append distinct rfl)).survives
    · exact journals
  intro _
  apply triple_bind (fun _ => Quarantining env start candidateIds candidateIds candidateIds)
  · exact quarantineCandidates_triple distinct candidateIds [] rfl
  intro _
  have commits : ∀ disk : RetentionDisk,
      Quarantining env start candidateIds candidateIds candidateIds disk →
        Committed start candidateIds (disk.mapTransaction fun directory =>
          { directory with journal := some ⟨.commitReady, candidateIds, candidateIds⟩ }) := by
    intro disk quarantining
    refine ⟨?_, ?_⟩
    · intro journal found
      unfold journalOf RetentionDisk.mapTransaction at found
      cases present : disk.transaction with
      | none =>
        rw [present] at found
        cases found
      | some directory =>
        rw [present] at found
        cases found
        exact ⟨candidateIds, rfl, validIds_of_append distinct (append_nil _)⟩
    · funext backupId
      have placed := quarantining.placed backupId
      unfold deleted
      split at placed
      · rename_i candidate
        rw [if_pos candidate]
        exact placed.1
      · rename_i kept
        rw [if_neg kept]
        exact placed.1
  exact triple_write (fun disk quarantining => (commits disk quarantining).survives) commits

theorem recoverFrom_triple (order : RemovalOrder) (error : RetentionError) :
    Triple (Failing env options start candidateIds) (recoverFrom order error) (fun _ _ => False)
      (fun _ disk => Settled env start candidateIds disk ∧ Explained options start candidateIds)
      (Survives env start candidateIds) := by
  rintro disk ⟨⟨movedIds, valid, moving⟩, explained⟩
  have recovers : Triple (MovingBack env start candidateIds movedIds []) (recoverFrom order error)
      (fun _ _ => False)
      (fun _ disk => Settled env start candidateIds disk ∧
        Explained options start candidateIds)
      (Survives env start candidateIds) := by
    unfold recoverFrom
    apply triple_bind (fun _ => Settled env start candidateIds)
    · apply triple_tryCatch (fun _ _ => False)
      · exact reconcilePrepared_triple order valid
      · rintro _ _ ⟨⟩
    · exact fun _ => triple_throw fun _ settled => ⟨settled, explained⟩
  exact recovers disk moving

variable {failed}

theorem commitRetention_triple (order : RemovalOrder) (receipt : RetentionReceipt) :
    Triple (Committed start candidateIds) (commitRetention env order candidateIds receipt)
      (fun _ => Settled env start candidateIds) failed (Survives env start candidateIds) := by
  have committed : Triple (Committed start candidateIds)
      (commitRetention env order candidateIds receipt) (fun _ => Settled env start candidateIds)
      (fun _ _ => False) (Survives env start candidateIds) := by
    unfold commitRetention
    apply triple_bind (fun _ => Committed start candidateIds)
    · exact triple_forEach_keeps fun backupId _ => removeQuarantined_triple order backupId
    intro _
    apply triple_bind (fun _ => Committed start candidateIds)
    · have receipts : ∀ disk : RetentionDisk, Committed start candidateIds disk →
          Committed start candidateIds { disk with receipts := disk.receipts ++ [receipt] } :=
        fun _ committed => ⟨committed.journal, committed.gone⟩
      exact triple_write (fun disk committed => (receipts disk committed).survives) receipts
    intro _
    apply triple_bind (fun _ disk => disk.transaction = none ∧
      disk.backups = deleted candidateIds start.backups)
    · apply removeTransaction_triple (Committed start candidateIds)
      · exact fun _ entry committed => committed.remove entry
      · exact fun _ committed => committed.survives
      · exact fun _ committed => ⟨rfl, committed.gone⟩
      · exact fun _ ended _ => .deleted ended.1 ended.2
    intro _
    apply triple_bind (fun _ => Settled env start candidateIds)
    · unfold rebuildStorageBackupCatalog
      apply triple_bind (fun _ disk => disk.transaction = none ∧
        disk.backups = deleted candidateIds start.backups)
      · exact triple_read (fun _ _ ended _ => ended) (fun _ _ _ raised => by cases raised)
      intro backups
      apply triple_bind (fun _ => Settled env start candidateIds)
      · apply triple_write
        · exact fun _ ended _ => .deleted ended.1 ended.2
        · exact fun _ ended => ⟨.deleted ended.1 ended.2, ended.1⟩
      · exact fun _ => triple_pure fun _ settled => settled
    · exact fun _ => triple_pure fun _ settled => settled
  exact committed.conseq (fun _ holds => holds) (fun _ _ settled => settled)
    (fun _ _ never => never.elim) fun _ survives => survives

theorem deleteCandidates_triple (distinct : candidateIds.Nodup) (order : RemovalOrder)
    (receipt : RetentionReceipt) :
    Triple (Unbegun env start) (deleteCandidates env options order candidateIds receipt)
      (fun _ => Settled env start candidateIds)
      (fun _ disk => Settled env start candidateIds disk ∧ Explained options start candidateIds)
      (Survives env start candidateIds) := by
  unfold deleteCandidates
  apply triple_bind (fun _ => Committed start candidateIds)
  · apply triple_tryCatch (fun _ => Failing env options start candidateIds)
    · exact prepareRetention_triple distinct
    · intro error
      exact (recoverFrom_triple order error).conseq (fun _ holds => holds)
        (fun _ _ never => never.elim) (fun _ _ settled => settled) fun _ survives => survives
  intro _
  apply triple_bind (fun _ => Settled env start candidateIds)
  · exact commitRetention_triple order receipt
  · exact fun _ => triple_pure fun _ settled => settled

theorem listStorageBackups_triple :
    Triple (fun disk => disk = start ∧ start.transaction = none) (listStorageBackups env)
      (fun backups disk => Unbegun env start disk ∧ backups = listedBackups env start)
      failed (Survives env start candidateIds) := by
  apply triple_bind (fun found disk => (disk = start ∧ start.transaction = none) ∧
    found = readStorageBackupCatalog env start)
  · apply triple_read
    · rintro disk _ ⟨rfl, settled⟩ ⟨⟩
      exact ⟨⟨rfl, settled⟩, rfl⟩
    · rintro disk _ _ ⟨⟩
  intro found
  cases found with
  | some backups =>
    apply triple_pure
    rintro disk ⟨⟨rfl, settled⟩, found⟩
    refine ⟨⟨settled, rfl, .inl rfl⟩, ?_⟩
    rw [listedBackups, ← found, Option.getD_some]
  | none =>
    apply triple_bind (fun backups disk => (disk = start ∧ start.transaction = none) ∧
      backups = listedBackups env start ∧ backups = catalogValue env start)
    · apply triple_read
      · rintro disk _ ⟨⟨rfl, settled⟩, found⟩ ⟨⟩
        refine ⟨⟨rfl, settled⟩, ?_, rfl⟩
        rw [listedBackups, ← found, Option.getD_none]
      · rintro disk _ _ ⟨⟩
    intro backups
    apply triple_bind (fun _ disk => Unbegun env start disk ∧
      backups = listedBackups env start)
    · apply triple_write
      · rintro disk ⟨⟨rfl, settled⟩, _, rebuilt⟩ _
        exact .untouched settled rfl (.inr (congrArg some rebuilt))
      · rintro disk ⟨⟨rfl, settled⟩, listed, rebuilt⟩
        exact ⟨⟨settled, rfl, .inr (congrArg some rebuilt)⟩, listed⟩
    · exact fun _ => triple_pure fun _ holds => holds

theorem reconcile_fresh_triple (order : RemovalOrder) (settled : start.transaction = none) :
    Triple (fun disk => disk = start) (reconcileStorageRetentionTransactions order)
      (fun _ disk => disk = start) failed crash := by
  unfold reconcileStorageRetentionTransactions
  apply triple_bind (fun present disk => disk = start ∧ present = false)
  · apply triple_read
    · rintro disk _ rfl ⟨⟩
      exact ⟨rfl, by rw [settled]; rfl⟩
    · rintro disk _ _ ⟨⟩
  rintro present disk ⟨same, rfl⟩
  exact ⟨fun _ member => absurd member not_mem_nil, same⟩

variable (env options) in
theorem applyStorageBackupRetention_triple (order : RemovalOrder)
    (settled : start.transaction = none) :
    Triple (fun disk => disk = start) (applyStorageBackupRetention env options order)
      (fun _ => Settled env start (candidateIdsOf env options start))
      (fun _ disk => Settled env start (candidateIdsOf env options start) disk ∧
        Explained options start (candidateIdsOf env options start))
      (Survives env start (candidateIdsOf env options start)) := by
  have distinct := candidateIdsOf_nodup env options start
  have unlimitedly : ∀ {stopped : Bool}, (Unlimited options → stopped = true) → stopped = false →
      Explained options start (candidateIdsOf env options start) := by
    intro stopped passes stops unlimited
    cases (passes unlimited).symm.trans stops
  unfold applyStorageBackupRetention
  split
  · apply triple_pure
    rintro disk rfl
    exact ⟨.untouched settled rfl (.inl rfl), settled⟩
  · rename_i policy configured
    have candidates : candidateIdsOf env options start =
        (selectCandidates (listedBackups env start) policy options.now).map (·.backupId) := by
      unfold candidateIdsOf
      rw [configured]
    apply triple_bind (fun _ disk => disk = start)
    · apply triple_require
      · exact fun _ holds _ => holds
      · rintro disk rfl stopped
        exact ⟨⟨.untouched settled rfl (.inl rfl), settled⟩,
          unlimitedly (fun unlimited => unlimited.startsActive) stopped⟩
    intro _
    apply triple_bind (fun _ disk => disk = start)
    · exact reconcile_fresh_triple order settled
    intro _
    apply triple_bind (fun backups disk => Unbegun env start disk ∧
      backups = listedBackups env start)
    · apply listStorageBackups_triple.conseq
      · exact fun _ same => ⟨same, settled⟩
      · exact fun _ _ holds => holds
      · exact fun _ _ fails => fails
      · exact fun _ survives => survives
    intro backups
    apply triple_given
    rintro rfl
    have stops : ∀ disk : RetentionDisk, Unbegun env start disk →
        Settled env start (candidateIdsOf env options start) disk :=
      fun disk unbegun =>
        ⟨.untouched unbegun.settled unbegun.same unbegun.catalog, unbegun.settled⟩
    apply triple_bind (fun _ => Unbegun env start)
    · apply triple_require
      · exact fun _ holds _ => holds
      · exact fun disk unbegun stopped => ⟨stops disk unbegun,
          unlimitedly (fun unlimited => unlimited.withinFiles _) stopped⟩
    intro _
    apply triple_bind (fun _ => Unbegun env start)
    · apply triple_require
      · exact fun _ holds _ => holds
      · exact fun disk unbegun stopped => ⟨stops disk unbegun,
          unlimitedly (fun unlimited => unlimited.withinCleanupItems _) stopped⟩
    intro _
    rw [← candidates]
    split
    · exact triple_pure stops
    · exact deleteCandidates_triple distinct order _

end LicoMesh.BackupRetention
