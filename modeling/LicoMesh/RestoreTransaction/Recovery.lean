import Mathlib.Data.List.Nodup
import LicoMesh.RestoreTransaction.Programs

namespace LicoMesh.RestoreTransaction

open Library Program RestoreDisk Program List

variable {record : RestoreRecord} {pre crash : RestoreDisk → Prop} {entry : TreeEntry}

def journalOf (disk : RestoreDisk) : Option RestoreJournal := disk.transaction.bind (·.journal)

def receiptOf (disk : RestoreDisk) : Option Node := disk.transaction.bind (·.receipt)

def HasJournal (disk : RestoreDisk) : Prop := disk.transaction.isSome → (journalOf disk).isSome

section Steps

variable {disk : RestoreDisk} {change : TransactionDirectory → TransactionDirectory}

theorem journalOf_mapTransaction
    (keeps : ∀ directory, (change directory).journal = directory.journal) :
    journalOf (disk.mapTransaction change) = journalOf disk := by
  unfold journalOf mapTransaction
  cases disk.transaction with
  | none => rfl
  | some directory => exact keeps directory

theorem receiptOf_mapTransaction
    (keeps : ∀ directory, (change directory).receipt = directory.receipt) :
    receiptOf (disk.mapTransaction change) = receiptOf disk := by
  unfold receiptOf mapTransaction
  cases disk.transaction with
  | none => rfl
  | some directory => exact keeps directory

theorem rollbackNode_mapTransaction
    (keeps : ∀ directory, (change directory).rollback = directory.rollback) (path : String) :
    (disk.mapTransaction change).rollbackNode path = disk.rollbackNode path := by
  unfold rollbackNode mapTransaction
  cases disk.transaction with
  | none => rfl
  | some directory => exact congrFun (keeps directory) path

theorem stagedNode_mapTransaction
    (keeps : ∀ directory, (change directory).staged = directory.staged) (path : String) :
    (disk.mapTransaction change).stagedNode path = disk.stagedNode path := by
  unfold stagedNode mapTransaction
  cases disk.transaction with
  | none => rfl
  | some directory => exact congrFun (keeps directory) path

theorem rollbackNode_moveToRollback (opened : (journalOf disk).isSome) (path other : String) :
    (disk.moveToRollback path).rollbackNode other =
      if other = path then disk.targets path else disk.rollbackNode other := by
  unfold journalOf at opened
  change (disk.mapTransaction _).rollbackNode other = _
  unfold rollbackNode mapTransaction
  cases found : disk.transaction with
  | none =>
    rw [found] at opened
    cases opened
  | some directory => rfl

theorem rollbackNode_moveBack (path other : String) : (disk.moveBack path).rollbackNode other =
      if other = path then none else disk.rollbackNode other := by
  change (disk.mapTransaction _).rollbackNode other = _
  unfold rollbackNode mapTransaction
  cases disk.transaction with
  | none => simp
  | some directory => rfl

theorem journalOf_remove (found : journalOf (disk.mapTransaction (·.remove entry)) = some journal) :
    journalOf disk = some journal := by
  unfold journalOf mapTransaction at found
  unfold journalOf
  cases present : disk.transaction with
  | none =>
    rw [present] at found
    cases found
  | some directory =>
    rw [present] at found
    cases entry with
    | journal => cases found
    | receipt => exact found
    | staged path => exact found
    | rollback path => exact found

theorem exists_of_hasJournal (present : HasJournal disk) :
    disk.transaction = none ∨ ∃ journal, journalOf disk = some journal := by
  cases found : disk.transaction with
  | none => exact .inl rfl
  | some directory =>
    have isSome : disk.transaction.isSome := by rw [found]; rfl
    exact .inr (Option.isSome_iff_exists.mp (present isSome))

theorem targets_setTarget (path other : String) (node : Option Node) :
    (disk.setTarget path node).targets other = if other = path then node else disk.targets other :=
  rfl

end Steps

/-- The records with the content of their targets before and after. -/
structure RestorePlan where
  records : List RestoreRecord
  stageInstall : RestoreRecord → Option Node
  report : List UInt8
  old : String → Option Node

open RestorePlan

def RestorePlan.new (plan : RestorePlan) (record : RestoreRecord) : Option Node :=
  match record.operation with
  | .install => plan.stageInstall record
  | .delete => none

def RestorePlan.original (plan : RestorePlan) (record : RestoreRecord) : Option Node :=
  if record.hadOriginal then plan.old record.relativePath else none

def Preimage (env : RestoreEnv) (record : RestoreRecord) (node : Option Node) : Prop :=
  if record.hadOriginal then
    node.isSome ∧ assertExpectedFile env node record.previousBytes record.previousSha256 = .ok ()
  else node = none

def RestoreRecord.InstallsSqlite (record : RestoreRecord) : Prop :=
  record.operation = .install ∧ record.sqlite = true

def SidecarsFirst (records : List RestoreRecord) : Prop :=
  ∀ earlier database later, records = earlier ++ database :: later → database.InstallsSqlite →
    ∀ record ∈ earlier, record.operation = .install →
      record.relativePath ∉ sidecars database.relativePath

structure RestorePlan.Sound (env : RestoreEnv) (plan : RestorePlan) : Prop where
  distinct : (plan.records.map (·.relativePath)).Nodup
  preimages : ∀ record ∈ plan.records, Preimage env record (plan.old record.relativePath)
  safeParent : ∀ record ∈ plan.records, env.safeParent record.relativePath = true
  sidecarsFirst : SidecarsFirst plan.records

def RestorePlan.Staged (plan : RestorePlan) : Prop :=
  ∀ record ∈ plan.records, record.operation = .install →
    ∃ bytes, plan.stageInstall record = some (.file bytes)

section States

variable (env : RestoreEnv) (plan : RestorePlan)

def AllOld (disk : RestoreDisk) : Prop :=
  ∀ record ∈ plan.records, disk.targets record.relativePath = plan.old record.relativePath

def AllNew (disk : RestoreDisk) : Prop :=
  ∀ record ∈ plan.records, disk.targets record.relativePath = plan.new record

/-- The original is in the rollback tree, and nothing or the new file in its place. -/
def Moved (record : RestoreRecord) (disk : RestoreDisk) : Prop :=
  disk.rollbackNode record.relativePath = plan.original record ∧
    (disk.targets record.relativePath = none ∨ disk.targets record.relativePath = plan.new record)

def InPlace (record : RestoreRecord) (disk : RestoreDisk) : Prop :=
  disk.rollbackNode record.relativePath = none ∧
    disk.targets record.relativePath = plan.old record.relativePath

structure InPhase (phase : RestorePhase) (disk : RestoreDisk) : Prop where
  pending : disk.pending = none
  journal : journalOf disk = some ⟨env.sha256 plan.report, phase, plan.records⟩
  report : disk.report = none

/-- The sidecars of installed databases are gone. -/
def Cleared (records : List RestoreRecord) (disk : RestoreDisk) : Prop :=
  ∀ record ∈ records, record.InstallsSqlite →
    ∀ sidecar ∈ sidecars record.relativePath, disk.targets sidecar = none

def Verifiable (record : RestoreRecord) : Prop :=
  env.safeParent record.relativePath = true ∧ (record.operation = .install →
      (plan.new record).isSome ∧
      assertExpectedFile env (plan.new record) record.installedBytes record.installedSha256 =
        .ok () ∧ (record.sqlite = true →
        ∃ bytes, plan.new record = some (.file bytes) ∧ env.quickCheck bytes = some true))

def HasReceipt (disk : RestoreDisk) : Prop :=
  (receiptOf disk = some (.file plan.report) ∧ disk.report = none) ∨
    (receiptOf disk = none ∧ disk.report = some (.file plan.report))

/-- The transaction is committed: everything is in place for good. -/
structure Final (disk : RestoreDisk) : Prop where
  pending : disk.pending = none
  allNew : AllNew plan disk
  cleared : Cleared plan.records disk
  verifiable : ∀ record ∈ plan.records, Verifiable env plan record

inductive Recoverable (disk : RestoreDisk) : Prop
  | old (settled : disk.transaction = none) (allOld : AllOld plan disk)
      (report : disk.report = none)
  | prepared (inPhase : InPhase env plan .prepared disk) (allOld : AllOld plan disk)
  | rollingBack (inPhase : InPhase env plan .rollbackRequired disk) (staged : plan.Staged)
      (placed : ∀ record ∈ plan.records, InPlace plan record disk ∨ Moved plan record disk)
  | committed (journal : journalOf disk =
        some ⟨env.sha256 plan.report, .commitComplete, plan.records⟩)
      (final : Final env plan disk) (receipt : HasReceipt plan disk)
  | new (settled : disk.transaction = none) (pending : disk.pending = none)
      (allNew : AllNew plan disk) (report : disk.report = some (.file plan.report))

def Survives (disk : RestoreDisk) : Prop := HasJournal disk → Recoverable env plan disk

def Settled (disk : RestoreDisk) : Prop :=
  disk.transaction = none ∧ disk.pending = none ∧ ((AllOld plan disk ∧ disk.report = none) ∨
      (AllNew plan disk ∧ disk.report = some (.file plan.report)))

end States

variable {env : RestoreEnv} {plan : RestorePlan} {disk : RestoreDisk}

theorem Recoverable.survives (recoverable : Recoverable env plan disk) : Survives env plan disk :=
  fun _ => recoverable

theorem Settled.recoverable (settled : Settled plan disk) : Recoverable env plan disk := by
  obtain ⟨transaction, pending, ⟨allOld, report⟩ | ⟨allNew, report⟩⟩ := settled
  · exact .old transaction allOld report
  · exact .new transaction pending allNew report

abbrev RecoveryTriple (env : RestoreEnv) (plan : RestorePlan) (pre : RestoreDisk → Prop)
    (program : RestoreProgram Unit) : Prop :=
  Triple pre program (fun _ => Settled plan) (fun _ _ => False) (Survives env plan)

theorem removeTransaction_ends (order : List TreeEntry)
    (keeps : ∀ disk entry, pre disk → pre (disk.mapTransaction (·.remove entry)))
    (survives : ∀ disk, pre disk → Survives env plan disk)
    (finish : ∀ disk, pre disk → Settled plan { disk with transaction := none }) :
    RecoveryTriple env plan pre (removeTransaction order) := by
  apply triple_bind (fun _ => pre)
  · apply triple_forEach_keeps
    intro entry _
    exact triple_write (fun disk holds => survives _ (keeps disk entry holds))
      fun disk holds => keeps disk entry holds
  · intro _
    exact triple_write (fun disk holds _ => (finish disk holds).recoverable) finish

/-- A transaction that has no effect any more; the journal may be gone already. -/
structure Discarded (env : RestoreEnv) (plan : RestorePlan) (disk : RestoreDisk) : Prop where
  journal : ∀ journal, journalOf disk = some journal →
    journal = ⟨env.sha256 plan.report, .prepared, plan.records⟩ ∨
      (plan.Staged ∧ journal = ⟨env.sha256 plan.report, .rollbackRequired, plan.records⟩ ∧
        ∀ record ∈ plan.records, disk.rollbackNode record.relativePath = none)
  pending : disk.pending = none
  allOld : AllOld plan disk
  report : disk.report = none

theorem Discarded.survives (discarded : Discarded env plan disk) : Survives env plan disk := by
  intro present
  obtain settled | ⟨journal, found⟩ := exists_of_hasJournal present
  · exact .old settled discarded.allOld discarded.report
  · obtain rfl | ⟨staged, rfl, empty⟩ := discarded.journal journal found
    · exact .prepared ⟨discarded.pending, found, discarded.report⟩ discarded.allOld
    · exact .rollingBack ⟨discarded.pending, found, discarded.report⟩ staged
        fun record member => .inl ⟨empty record member, discarded.allOld record member⟩

theorem rollbackNode_remove (absent : disk.rollbackNode path = none) :
    (disk.mapTransaction (·.remove entry)).rollbackNode path = none := by
  unfold rollbackNode mapTransaction at *
  cases present : disk.transaction with
  | none => rfl
  | some directory =>
    rw [present] at absent
    cases entry with
    | journal => exact absent
    | receipt => exact absent
    | staged other => exact absent
    | rollback other =>
      change (if path = other then none else directory.rollback path) = none
      split
      · rfl
      · exact absent

theorem Discarded.remove (discarded : Discarded env plan disk) (entry : TreeEntry) :
    Discarded env plan (disk.mapTransaction (·.remove entry)) := by
  refine ⟨?_, discarded.pending, discarded.allOld, discarded.report⟩
  intro journal found
  obtain prepared | ⟨staged, rolling, empty⟩ := discarded.journal journal (journalOf_remove found)
  · exact .inl prepared
  · exact .inr ⟨staged, rolling, fun record member => rollbackNode_remove (empty record member)⟩

theorem removeDiscarded_triple (order : List TreeEntry) :
    RecoveryTriple env plan (Discarded env plan) (removeTransaction order) := by
  apply removeTransaction_ends order
  · exact fun _ entry discarded => discarded.remove entry
  · exact fun _ discarded => discarded.survives
  · exact fun _ discarded => ⟨rfl, discarded.pending, .inl ⟨discarded.allOld, discarded.report⟩⟩

structure Published (env : RestoreEnv) (plan : RestorePlan) (disk : RestoreDisk) : Prop where
  journal : ∀ journal, journalOf disk = some journal →
    journal = ⟨env.sha256 plan.report, .commitComplete, plan.records⟩
  final : Final env plan disk
  receipt : receiptOf disk = none
  report : disk.report = some (.file plan.report)

theorem Published.survives (published : Published env plan disk) : Survives env plan disk := by
  intro present
  obtain settled | ⟨journal, found⟩ := exists_of_hasJournal present
  · exact .new settled published.final.pending published.final.allNew published.report
  · obtain rfl := published.journal journal found
    exact .committed found published.final (.inr ⟨published.receipt, published.report⟩)

theorem receiptOf_remove (absent : receiptOf disk = none) :
    receiptOf (disk.mapTransaction (·.remove entry)) = none := by
  unfold receiptOf mapTransaction at *
  cases present : disk.transaction with
  | none => rfl
  | some directory =>
    rw [present] at absent
    cases entry with
    | journal => exact absent
    | receipt => rfl
    | staged other => exact absent
    | rollback other => exact absent

theorem removePublished_triple (order : List TreeEntry) :
    RecoveryTriple env plan (Published env plan) (removeTransaction order) := by
  apply removeTransaction_ends order
  · intro disk entry published
    have final := published.final
    exact ⟨fun journal found => published.journal journal (journalOf_remove found),
      ⟨final.pending, final.allNew, final.cleared, final.verifiable⟩,
      receiptOf_remove published.receipt, published.report⟩
  · exact fun _ published => published.survives
  · intro disk published
    exact ⟨rfl, published.final.pending, .inr ⟨published.final.allNew, published.report⟩⟩

theorem removeSafeFile_triple (path : String)
    (removes : ∀ disk, pre disk → pre (disk.setTarget path none))
    (survives : ∀ disk, pre disk → crash disk) : Triple pre (removeSafeFile env path)
      (fun _ disk => pre disk ∧ disk.targets path = none)
      (fun _ disk => pre disk ∧ ∃ node, disk.targets path = some node ∧
        (env.safeParent path = false ∨ node = .other)) crash := by
  apply triple_bind (fun node disk => pre disk ∧ disk.targets path = node)
  · apply triple_read
    · rintro disk _ holds ⟨⟩
      exact ⟨holds, rfl⟩
    · rintro disk _ _ ⟨⟩
  intro node
  cases node with
  | none => exact triple_pure fun _ holds => holds
  | some node =>
    apply triple_bind (fun _ disk => pre disk ∧ disk.targets path = some node)
    · apply triple_require
      · exact fun _ holds _ => holds
      · exact fun _ holds isUnsafe => ⟨holds.1, node, holds.2, .inl isUnsafe⟩
    intro _
    cases node with
    | other => exact triple_throw fun _ holds => ⟨holds.1, .other, holds.2, .inr rfl⟩
    | file bytes =>
      apply triple_write
      · exact fun disk holds => survives _ (removes disk holds.1)
      · exact fun disk holds => ⟨removes disk holds.1, if_pos rfl⟩

variable (sound : plan.Sound env)

include sound in
theorem RestorePlan.Sound.same_of_path
    (inFirst : first ∈ plan.records) (inSecond : second ∈ plan.records)
    (same : first.relativePath = second.relativePath) : first = second :=
  inj_on_of_nodup_map sound.distinct inFirst inSecond same

theorem RestorePlan.Staged.new_file (staged : plan.Staged) (member : record ∈ plan.records)
    (found : plan.new record = some node) : ∃ bytes, node = .file bytes := by
  unfold new at found
  cases operation : record.operation with
  | install =>
    obtain ⟨bytes, installed⟩ := staged record member operation
    rw [operation] at found
    exact ⟨bytes, Option.some.inj (found.symm.trans installed)⟩
  | delete =>
    rw [operation] at found
    cases found

/-- The rollback so far; the records that are `done` are back in place. -/
structure Rewound (env : RestoreEnv) (plan : RestorePlan) (done : List RestoreRecord)
    (disk : RestoreDisk) : Prop where
  inPhase : InPhase env plan .rollbackRequired disk
  staged : plan.Staged
  placed : ∀ record ∈ plan.records, InPlace plan record disk ∨ Moved plan record disk
  back : ∀ record ∈ done, InPlace plan record disk

namespace Rewound

variable {done : List RestoreRecord} {record : RestoreRecord} (rewound : Rewound env plan done disk)
include rewound

theorem survives : Survives env plan disk :=
  fun _ => .rollingBack rewound.inPhase rewound.staged rewound.placed

theorem inPlace_add (inPlace : InPlace plan record disk) :
    Rewound env plan (done ++ [record]) disk := by
  refine ⟨rewound.inPhase, rewound.staged, rewound.placed, ?_⟩
  intro other member
  obtain earlier | last := mem_append.mp member
  · exact rewound.back other earlier
  · rw [mem_singleton.mp last]
    exact inPlace

theorem step {next : RestoreDisk} (inPhase : InPhase env plan .rollbackRequired next)
    (fresh : record ∉ done) (within : ∀ other ∈ done, other ∈ plan.records)
    (others : ∀ other ∈ plan.records, other ≠ record →
      next.rollbackNode other.relativePath = disk.rollbackNode other.relativePath ∧
        next.targets other.relativePath = disk.targets other.relativePath)
    (placed : InPlace plan record next ∨ Moved plan record next) : Rewound env plan done next := by
  refine ⟨inPhase, rewound.staged, ?_, ?_⟩
  · intro other member
    by_cases same : other = record
    · rw [same]
      exact placed
    · obtain ⟨rollback, target⟩ := others other member same
      unfold InPlace Moved
      rw [rollback, target]
      exact rewound.placed other member
  · intro other member
    have distinct : other ≠ record := fun same => fresh (same ▸ member)
    obtain ⟨rollback, target⟩ := others other (within other member) distinct
    unfold InPlace
    rw [rollback, target]
    exact rewound.back other member

end Rewound

def RewindingAt (env : RestoreEnv) (plan : RestorePlan) (done : List RestoreRecord)
    (record : RestoreRecord) (disk : RestoreDisk) : Prop :=
  Rewound env plan done disk ∧ Moved plan record disk

section RollbackRecord

variable {done : List RestoreRecord} {record : RestoreRecord}

include sound

section

variable (member : record ∈ plan.records) (fresh : record ∉ done)
  (within : ∀ other ∈ done, other ∈ plan.records)
include member fresh within

theorem removeNew_triple :
    Triple (RewindingAt env plan done record) (removeSafeFile env record.relativePath)
      (fun _ disk => RewindingAt env plan done record disk ∧
        disk.targets record.relativePath = none)
      (fun _ _ => False) (Survives env plan) := by
  apply (removeSafeFile_triple record.relativePath ?_ ?_).conseq
  · exact fun _ holds => holds
  · exact fun _ _ holds => holds
  · rintro _ disk ⟨⟨rewound, moved⟩, node, found, isUnsafe | rfl⟩
    · rw [sound.safeParent record member] at isUnsafe
      cases isUnsafe
    · obtain absent | new := moved.2
      · rw [absent] at found
        cases found
      · obtain ⟨bytes, file⟩ := rewound.staged.new_file member (new.symm.trans found)
        cases file
  · exact fun _ survives => survives
  · rintro disk ⟨rewound, moved⟩
    have removed : Moved plan record (disk.setTarget record.relativePath none) :=
      ⟨moved.1, .inl (if_pos rfl)⟩
    have inPhase := rewound.inPhase
    refine ⟨rewound.step ⟨inPhase.pending, inPhase.journal, inPhase.report⟩ fresh within ?_
      (.inr removed), removed⟩
    intro other inRecords distinct
    refine ⟨rfl, ?_⟩
    rw [targets_setTarget, if_neg]
    exact fun same => distinct (sound.same_of_path inRecords member same)
  · exact fun _ holds => holds.1.survives

theorem moveBack_rewinds (original : plan.original record = plan.old record.relativePath)
    (rewinding : RewindingAt env plan done record disk) :
    Rewound env plan (done ++ [record]) (disk.moveBack record.relativePath) := by
  obtain ⟨rewound, moved⟩ := rewinding
  have inPlace : InPlace plan record (disk.moveBack record.relativePath) := by
    refine ⟨?_, ?_⟩
    · rw [rollbackNode_moveBack, if_pos rfl]
    · change (if record.relativePath = record.relativePath then
        disk.rollbackNode record.relativePath else _) = _
      rw [if_pos rfl, moved.1, original]
  apply Rewound.inPlace_add _ inPlace
  apply rewound.step _ fresh within _ (.inl inPlace)
  · have inPhase := rewound.inPhase
    refine ⟨inPhase.pending, ?_, inPhase.report⟩
    have kept : journalOf (disk.mapTransaction fun directory =>
        { directory with rollback := setAt directory.rollback record.relativePath none }) =
          journalOf disk := journalOf_mapTransaction fun _ => rfl
    exact kept.trans inPhase.journal
  · intro other inRecords distinct
    have apart : other.relativePath ≠ record.relativePath :=
      fun same => distinct (sound.same_of_path inRecords member same)
    refine ⟨?_, if_neg apart⟩
    rw [rollbackNode_moveBack, if_neg apart]

theorem rollbackMoved_triple (hadOriginal : record.hadOriginal = true)
    (original : plan.old record.relativePath = some node) :
    Triple (RewindingAt env plan done record)
      (do
        read fun _ =>
          assertExpectedFile env (some node) record.previousBytes record.previousSha256
        removeSafeFile env record.relativePath
        write fun disk => disk.moveBack record.relativePath
        read fun disk => assertExpectedFile env (disk.targets record.relativePath)
          record.previousBytes record.previousSha256)
      (fun _ => Rewound env plan (done ++ [record])) (fun _ _ => False) (Survives env plan) := by
  have expected := sound.preimages record member
  rw [Preimage, if_pos hadOriginal, original] at expected
  have returned : plan.original record = plan.old record.relativePath := if_pos hadOriginal
  apply triple_bind (fun _ => RewindingAt env plan done record)
  · apply triple_read
    · exact fun _ _ holds _ => holds
    · intro _ _ _ failed
      rw [expected.2] at failed
      cases failed
  intro _
  apply triple_bind (fun _ => RewindingAt env plan done record)
  · apply (removeNew_triple sound member fresh within).conseq
    · exact fun _ holds => holds
    · exact fun _ _ holds => holds.1
    · exact fun _ _ never => never
    · exact fun _ survives => survives
  intro _
  apply triple_bind (fun _ => Rewound env plan (done ++ [record]))
  · apply triple_write
    · exact fun _ holds => (moveBack_rewinds sound member fresh within returned holds).survives
    · exact fun _ holds => moveBack_rewinds sound member fresh within returned holds
  intro _
  apply triple_read
  · exact fun _ _ holds _ => holds
  · intro disk _ rewound failed
    have inPlace := rewound.back record (mem_append_right _ mem_cons_self)
    rw [inPlace.2, original, expected.2] at failed
    cases failed

end

theorem rollbackInPlace_triple (member : record ∈ plan.records)
    (hadOriginal : record.hadOriginal = true) :
    Triple (fun disk => Rewound env plan done disk ∧ InPlace plan record disk)
      (do
        require (fun disk => (disk.targets record.relativePath).isSome) .recoveryFailed
        read fun disk => assertExpectedFile env (disk.targets record.relativePath)
          record.previousBytes record.previousSha256)
      (fun _ => Rewound env plan (done ++ [record])) (fun _ _ => False) (Survives env plan) := by
  have expected := sound.preimages record member
  rw [Preimage, if_pos hadOriginal] at expected
  apply triple_bind (fun _ disk => Rewound env plan done disk ∧ InPlace plan record disk)
  · apply triple_require
    · exact fun _ holds _ => holds
    · rintro disk ⟨_, inPlace⟩ absent
      rw [inPlace.2, expected.1] at absent
      cases absent
  intro _
  apply triple_read
  · exact fun _ _ holds _ => holds.1.inPlace_add holds.2
  · rintro disk _ ⟨_, inPlace⟩ failed
    rw [inPlace.2, expected.2] at failed
    cases failed

section

variable (member : record ∈ plan.records) (fresh : record ∉ done)
  (within : ∀ other ∈ done, other ∈ plan.records)
include member fresh within

theorem rollbackCreated_triple (created : record.hadOriginal = false) :
    Triple (RewindingAt env plan done record) (removeSafeFile env record.relativePath)
      (fun _ => Rewound env plan (done ++ [record])) (fun _ _ => False) (Survives env plan) := by
  have absent := sound.preimages record member
  rw [Preimage, created, if_neg Bool.false_ne_true] at absent
  apply (removeNew_triple sound member fresh within).conseq
  · exact fun _ holds => holds
  · rintro _ disk ⟨⟨rewound, moved⟩, removed⟩
    apply rewound.inPlace_add
    refine ⟨?_, removed.trans absent.symm⟩
    rw [moved.1, original, created, if_neg Bool.false_ne_true]
  · exact fun _ _ never => never
  · exact fun _ survives => survives

theorem rollbackRecord_triple : Triple (Rewound env plan done) (rollbackRecord env record)
      (fun _ => Rewound env plan (done ++ [record])) (fun _ _ => False) (Survives env plan) := by
  have expected := sound.preimages record member
  apply triple_bind (fun _ => Rewound env plan done)
  · apply triple_require
    · exact fun _ holds _ => holds
    · intro _ _ isUnsafe
      rw [sound.safeParent record member] at isUnsafe
      cases isUnsafe
  intro _
  apply triple_bind (fun node disk => Rewound env plan done disk ∧
    disk.rollbackNode record.relativePath = node)
  · apply triple_read
    · rintro disk _ rewound ⟨⟩
      exact ⟨rewound, rfl⟩
    · rintro disk _ _ ⟨⟩
  intro node disk
  rintro ⟨rewound, found⟩
  cases node with
  | some node =>
    have moved : Moved plan record disk := by
      obtain inPlace | moved := rewound.placed record member
      · cases inPlace.1.symm.trans found
      · exact moved
    have kept := moved.1.symm.trans found
    unfold original at kept
    split at kept
    · rename_i hadOriginal
      exact rollbackMoved_triple sound member fresh within hadOriginal kept disk ⟨rewound, moved⟩
    · cases kept
  | none =>
    cases original : record.hadOriginal with
    | true =>
      rw [Preimage, if_pos original] at expected
      have inPlace : InPlace plan record disk := by
        obtain inPlace | moved := rewound.placed record member
        · exact inPlace
        · have kept := moved.1.symm.trans found
          rw [RestorePlan.original, if_pos original] at kept
          rw [kept] at expected
          cases expected.1
      exact rollbackInPlace_triple sound member original disk ⟨rewound, inPlace⟩
    | false =>
      rw [Preimage, original, if_neg Bool.false_ne_true] at expected
      have moved : Moved plan record disk := by
        obtain inPlace | moved := rewound.placed record member
        · refine ⟨?_, .inl (inPlace.2.trans expected)⟩
          rw [inPlace.1, RestorePlan.original, original, if_neg Bool.false_ne_true]
        · exact moved
      exact rollbackCreated_triple sound member fresh within original disk ⟨rewound, moved⟩

end

end RollbackRecord

include sound in
theorem rollbackRecords_triple : Triple (Rewound env plan []) (rollbackRecords env plan.records)
      (fun _ => Discarded env plan) (fun _ _ => False) (Survives env plan) := by
  have distinct : plan.records.reverse.Nodup := nodup_reverse.mpr (.of_map _ sound.distinct)
  have loop : Triple (Rewound env plan []) (forEach plan.records.reverse (rollbackRecord env))
      (fun _ => Rewound env plan plan.records.reverse) (fun _ _ => False) (Survives env plan) := by
    apply triple_forEach_split
    intro done record rest listed
    have reversed : ∀ other ∈ done ++ record :: rest, other ∈ plan.records := by
      intro other member
      rw [listed] at member
      exact mem_reverse.mp member
    apply rollbackRecord_triple sound
    · exact reversed record (mem_append_right _ mem_cons_self)
    · rw [← listed] at distinct
      intro earlier
      exact (nodup_append.mp distinct).2.2 record earlier record mem_cons_self rfl
    · exact fun other member => reversed other (mem_append_left _ member)
  apply loop.conseq
  · exact fun _ rewound => rewound
  · intro _ disk rewound
    have inPlace : ∀ record ∈ plan.records, InPlace plan record disk :=
      fun record member => rewound.back record (mem_reverse.mpr member)
    refine ⟨?_, rewound.inPhase.pending, fun record member => (inPlace record member).2,
      rewound.inPhase.report⟩
    intro journal found
    refine .inr ⟨rewound.staged, ?_, fun record member => (inPlace record member).1⟩
    exact Option.some.inj (found.symm.trans rewound.inPhase.journal)
  · exact fun _ _ never => never
  · exact fun _ survives => survives

theorem verifySqlite_final (member : record ∈ plan.records) (installs : record.InstallsSqlite)
    (pre : RestoreDisk → Prop) (final : ∀ disk, pre disk → Final env plan disk) :
    Triple pre (verifySqlite env record.relativePath) (fun _ => pre) (fun _ _ => False) crash := by
  have content : ∀ disk, pre disk → ∃ bytes,
      disk.targets record.relativePath = some (.file bytes) ∧
        env.quickCheck bytes = some true := by
    intro disk holds
    obtain ⟨bytes, file, checked⟩ :=
      (((final disk holds).verifiable record member).2 installs.1).2.2 installs.2
    exact ⟨bytes, ((final disk holds).allNew record member).trans file, checked⟩
  apply triple_bind (fun verdict disk => pre disk ∧ verdict = some true)
  · apply triple_read
    · intro disk verdict holds read
      obtain ⟨bytes, file, checked⟩ := content disk holds
      simp only [file] at read
      exact ⟨holds, (Except.ok.inj read).symm.trans checked⟩
    · intro disk error holds read
      obtain ⟨bytes, file, _⟩ := content disk holds
      simp only [file] at read
      cases read
  intro verdict
  apply triple_given
  rintro rfl
  apply triple_bind (fun _ => pre)
  · apply triple_require
    · exact fun _ holds _ => holds
    · exact fun _ _ refused => absurd refused.symm Bool.false_ne_true
  intro _
  apply triple_forEach_keeps
  intro sidecar listed
  apply triple_bind (fun node disk => pre disk ∧ node = none)
  · apply triple_read
    · rintro disk _ holds ⟨⟩
      exact ⟨holds, (final disk holds).cleared record member installs sidecar listed⟩
    · rintro disk _ _ ⟨⟩
  intro node
  apply triple_given
  rintro rfl
  exact triple_pure fun _ holds => holds

theorem verifyRecord_final (member : record ∈ plan.records) (pre : RestoreDisk → Prop)
    (final : ∀ disk, pre disk → Final env plan disk) :
    Triple pre (verifyRecord env record) (fun _ => pre) (fun _ _ => False) crash := by
  apply triple_bind (fun _ => pre)
  · apply triple_require
    · exact fun _ holds _ => holds
    · intro disk holds isUnsafe
      rw [((final disk holds).verifiable record member).1] at isUnsafe
      cases isUnsafe
  intro _
  split
  · rename_i operation
    apply triple_require
    · exact fun _ holds _ => holds
    · intro disk holds present
      rw [(final disk holds).allNew record member, new, operation] at present
      cases present
  · rename_i operation
    apply triple_bind (fun _ => pre)
    · apply triple_require
      · exact fun _ holds _ => holds
      · intro disk holds absent
        have verifiable := ((final disk holds).verifiable record member).2 operation
        rw [(final disk holds).allNew record member, verifiable.1] at absent
        cases absent
    intro _
    apply triple_bind (fun _ => pre)
    · apply triple_read
      · exact fun _ _ holds _ => holds
      · intro disk _ holds failed
        have verifiable := ((final disk holds).verifiable record member).2 operation
        rw [(final disk holds).allNew record member, verifiable.2.1] at failed
        cases failed
    intro _
    split
    · rename_i sqlite
      exact verifySqlite_final member ⟨operation, sqlite⟩ pre final
    · exact triple_pure fun _ holds => holds

structure Committed (env : RestoreEnv) (plan : RestorePlan) (disk : RestoreDisk) : Prop where
  journal : journalOf disk = some ⟨env.sha256 plan.report, .commitComplete, plan.records⟩
  final : Final env plan disk
  receipt : HasReceipt plan disk

theorem Committed.survives (committed : Committed env plan disk) : Survives env plan disk :=
  fun _ => .committed committed.journal committed.final committed.receipt

theorem receiptOf_cleared :
    receiptOf (disk.mapTransaction fun directory => { directory with receipt := none }) =
      none := by
  unfold receiptOf mapTransaction
  cases disk.transaction <;> rfl

theorem publishReceipt_triple :
    Triple (Committed env plan) (publishReceipt env (env.sha256 plan.report))
      (fun _ => Published env plan) (fun _ _ => False) (Survives env plan) := by
  have digest : assertDigest env (some (.file plan.report)) (env.sha256 plan.report) = .ok () :=
    if_pos rfl
  apply triple_bind (fun found disk => Committed env plan disk ∧
    found = (receiptOf disk, disk.report))
  · apply triple_read
    · rintro disk _ committed ⟨⟩
      exact ⟨committed, rfl⟩
    · rintro disk _ _ ⟨⟩
  rintro ⟨receipt, report⟩
  cases receipt with
  | some receipt =>
    cases report with
    | some report =>
      rintro disk ⟨committed, found⟩
      obtain ⟨staged, unpublished⟩ := Prod.mk.inj found
      obtain ⟨_, absent⟩ | ⟨absent, _⟩ := committed.receipt
      · cases unpublished.trans absent
      · cases staged.trans absent
    | none =>
      have publishes : ∀ disk : RestoreDisk, Committed env plan disk ∧
          (some receipt, none) = (receiptOf disk, disk.report) →
            Published env plan disk.publishReceipt := by
        rintro disk ⟨committed, found⟩
        obtain ⟨staged, unpublished⟩ := Prod.mk.inj found
        obtain ⟨present, _⟩ | ⟨absent, _⟩ := committed.receipt
        · refine ⟨?_, ⟨committed.final.pending, committed.final.allNew,
            committed.final.cleared, committed.final.verifiable⟩, receiptOf_cleared, present⟩
          intro journal written
          change journalOf (disk.mapTransaction _) = _ at written
          rw [journalOf_mapTransaction] at written
          · exact Option.some.inj (written.symm.trans committed.journal)
          · exact fun _ => rfl
        · cases staged.trans absent
      apply triple_bind (fun _ disk => Committed env plan disk ∧
        (some receipt, none) = (receiptOf disk, disk.report))
      · apply triple_read
        · exact fun _ _ holds _ => holds
        · rintro disk _ ⟨committed, found⟩ failed
          obtain ⟨staged, unpublished⟩ := Prod.mk.inj found
          obtain ⟨present, _⟩ | ⟨absent, _⟩ := committed.receipt
          · rw [staged, present, digest] at failed
            cases failed
          · cases staged.trans absent
      intro _
      exact triple_write (fun disk holds => (publishes disk holds).survives) publishes
  | none =>
    cases report with
    | some report =>
      apply triple_read
      · rintro disk _ ⟨committed, found⟩ _
        obtain ⟨absent, published⟩ := Prod.mk.inj found
        obtain ⟨present, _⟩ | ⟨_, present⟩ := committed.receipt
        · cases absent.trans present
        · exact ⟨fun journal written =>
            Option.some.inj (written.symm.trans committed.journal), committed.final,
            absent.symm, present⟩
      · rintro disk _ ⟨committed, found⟩ failed
        obtain ⟨absent, published⟩ := Prod.mk.inj found
        obtain ⟨present, _⟩ | ⟨_, present⟩ := committed.receipt
        · cases absent.trans present
        · rw [published, present, digest] at failed
          cases failed
    | none =>
      rintro disk ⟨committed, found⟩
      obtain ⟨absent, unpublished⟩ := Prod.mk.inj found
      obtain ⟨present, _⟩ | ⟨_, present⟩ := committed.receipt
      · cases absent.trans present
      · cases unpublished.trans present

theorem finalizeCommittedTransaction_triple (order : List TreeEntry) :
    RecoveryTriple env plan (Committed env plan)
      (finalizeCommittedTransaction env order
        ⟨env.sha256 plan.report, .commitComplete, plan.records⟩) := by
  apply triple_bind (fun _ => Committed env plan)
  · exact triple_forEach_keeps fun record member =>
      verifyRecord_final member (Committed env plan) fun _ committed => committed.final
  intro _
  apply triple_bind (fun _ => Published env plan)
  · exact publishReceipt_triple
  · exact fun _ => removePublished_triple order

/-- What `reconcileTransaction` does with the journal it has read. -/
def reconcilePhase (env : RestoreEnv) (order : List TreeEntry) (journal : RestoreJournal) :
    RestoreProgram Unit :=
  match journal.phase with
  | .prepared => removeTransaction order
  | .rollbackRequired => do
    rollbackRecords env journal.records
    removeTransaction order
  | .commitComplete => finalizeCommittedTransaction env order journal

include sound in
theorem reconcileTransaction_recovers (order : List TreeEntry) : RecoveryTriple env plan
      (fun disk => Recoverable env plan disk ∧ (journalOf disk).isSome)
      (reconcileTransaction env order) := by
  rintro disk ⟨recoverable, journaled⟩
  have recovers : ∀ journal pre, pre disk →
      (∀ other, pre other → journalOf other = some journal) →
      RecoveryTriple env plan pre
        (reconcilePhase env order journal) →
      (∀ visited ∈ (reconcileTransaction env order disk).visits, Survives env plan visited) ∧
        Ends (fun _ => Settled plan) (fun _ _ => False)
          (reconcileTransaction env order disk).result
          (reconcileTransaction env order disk).last := by
    intro journal pre holds found phase
    have read : RecoveryTriple env plan pre (reconcileTransaction env order) := by
      apply triple_bind (fun value disk => pre disk ∧ value = some journal)
      · apply triple_read
        · rintro other _ initial ⟨⟩
          exact ⟨initial, found other initial⟩
        · rintro other _ _ ⟨⟩
      intro value
      apply triple_given
      rintro rfl
      exact phase
    exact read disk holds
  cases recoverable with
  | old settled _ _ =>
    rw [journalOf, settled] at journaled
    cases journaled
  | new settled _ _ _ =>
    rw [journalOf, settled] at journaled
    cases journaled
  | prepared inPhase allOld =>
    apply recovers ⟨env.sha256 plan.report, .prepared, plan.records⟩
      (fun disk => InPhase env plan .prepared disk ∧ AllOld plan disk) ⟨inPhase, allOld⟩
      fun _ holds => holds.1.journal
    have removed : RecoveryTriple env plan (Discarded env plan) (removeTransaction order) :=
      removeDiscarded_triple order
    apply removed.conseq
    · rintro other ⟨prepared, old⟩
      refine ⟨fun journal found => .inl ?_, prepared.pending, old, prepared.report⟩
      exact Option.some.inj (found.symm.trans prepared.journal)
    · exact fun _ _ settled => settled
    · exact fun _ _ never => never
    · exact fun _ survives => survives
  | rollingBack inPhase staged placed =>
    apply recovers ⟨env.sha256 plan.report, .rollbackRequired, plan.records⟩
      (Rewound env plan []) ⟨inPhase, staged, placed, fun _ member =>
        absurd member not_mem_nil⟩ fun _ rewound => rewound.inPhase.journal
    exact triple_bind (fun _ => Discarded env plan) (rollbackRecords_triple sound)
      fun _ => removeDiscarded_triple order
  | committed journal final receipt =>
    apply recovers ⟨env.sha256 plan.report, .commitComplete, plan.records⟩
      (Committed env plan) ⟨journal, final, receipt⟩ fun _ committed => committed.journal
    exact finalizeCommittedTransaction_triple order

theorem removePending_triple (order : List TreeEntry) {failed} :
    Triple (fun disk => disk.transaction = none ∧ AllOld plan disk ∧ disk.report = none)
      (removePending order)
      (fun _ disk => disk.transaction = none ∧ disk.pending = none ∧ AllOld plan disk ∧
        disk.report = none)
      failed (Survives env plan) := by
  apply triple_bind (fun _ disk => disk.transaction = none ∧ AllOld plan disk ∧
    disk.report = none)
  · apply triple_forEach_keeps
    intro entry _
    apply triple_write
    · exact fun _ holds _ => .old holds.1 holds.2.1 holds.2.2
    · exact fun _ holds => holds
  · intro _
    apply triple_write
    · exact fun _ holds _ => .old holds.1 holds.2.1 holds.2.2
    · exact fun _ holds => ⟨holds.1, rfl, holds.2⟩

section

variable (recoverable : Recoverable env plan disk)
include recoverable

theorem Recoverable.hasJournal : HasJournal disk := by
  intro present
  cases recoverable with
  | old settled _ _ =>
    rw [settled] at present
    cases present
  | new settled _ _ _ =>
    rw [settled] at present
    cases present
  | prepared inPhase _ => rw [inPhase.journal]; rfl
  | rollingBack inPhase _ _ => rw [inPhase.journal]; rfl
  | committed journal _ _ => rw [journal]; rfl

theorem Recoverable.old_of_pending (present : disk.pending.isSome) :
    disk.transaction = none ∧ AllOld plan disk ∧ disk.report = none := by
  cases recoverable with
  | old settled allOld report => exact ⟨settled, allOld, report⟩
  | new _ pending _ _ =>
    rw [pending] at present
    cases present
  | prepared inPhase _ =>
    rw [inPhase.pending] at present
    cases present
  | rollingBack inPhase _ _ =>
    rw [inPhase.pending] at present
    cases present
  | committed _ final _ =>
    rw [final.pending] at present
    cases present

theorem Recoverable.settled
    (finished : disk.transaction = none) (pending : disk.pending = none) : Settled plan disk := by
  refine ⟨finished, pending, ?_⟩
  cases recoverable with
  | old _ allOld report => exact .inl ⟨allOld, report⟩
  | new _ _ allNew report => exact .inr ⟨allNew, report⟩
  | prepared inPhase _ =>
    have journal := inPhase.journal
    rw [journalOf, finished] at journal
    cases journal
  | rollingBack inPhase _ _ =>
    have journal := inPhase.journal
    rw [journalOf, finished] at journal
    cases journal
  | committed journal _ _ =>
    rw [journalOf, finished] at journal
    cases journal

end

theorem reconcilePending_triple (order : List TreeEntry) {failed} :
    Triple (Recoverable env plan) (reconcilePending order)
      (fun _ disk => Recoverable env plan disk ∧ disk.pending = none) failed
      (Survives env plan) := by
  apply triple_bind (fun present disk => Recoverable env plan disk ∧
    disk.pending.isSome = present)
  · apply triple_read
    · rintro disk _ recoverable ⟨⟩
      exact ⟨recoverable, rfl⟩
    · rintro disk _ _ ⟨⟩
  intro present
  cases present with
  | true =>
    apply (removePending_triple order).conseq
    · exact fun _ holds => holds.1.old_of_pending holds.2
    · exact fun _ _ holds => ⟨.old holds.1 holds.2.2.1 holds.2.2.2, holds.2.1⟩
    · exact fun _ _ fails => fails
    · exact fun _ survives => survives
  | false =>
    apply triple_pure
    exact fun _ holds => ⟨holds.1, by simpa using holds.2⟩

include sound in
theorem reconcile_triple (order : List TreeEntry) : RecoveryTriple env plan (Recoverable env plan)
      (reconcileStorageRestoreTransactions env order) := by
  apply triple_bind (fun _ disk => Recoverable env plan disk ∧ disk.pending = none)
  · exact reconcilePending_triple order
  intro _
  apply triple_bind (fun present disk => (Recoverable env plan disk ∧ disk.pending = none) ∧
    disk.transaction.isSome = present)
  · apply triple_read
    · rintro disk _ holds ⟨⟩
      exact ⟨holds, rfl⟩
    · rintro disk _ _ ⟨⟩
  intro present
  cases present with
  | true =>
    apply (reconcileTransaction_recovers sound order).conseq
    · exact fun _ holds => ⟨holds.1.1, holds.1.1.hasJournal holds.2⟩
    · exact fun _ _ settled => settled
    · exact fun _ _ never => never
    · exact fun _ survives => survives
  | false =>
    apply triple_pure
    exact fun _ holds => holds.1.1.settled (by simpa using holds.2) holds.1.2

theorem reconcile_settled (settled : Settled plan disk) (order : List TreeEntry) :
    reconcileStorageRestoreTransactions env order disk = ⟨[], .ok (), disk⟩ := by
  obtain ⟨targets, pending, transaction, report⟩ := disk
  obtain ⟨finished, absent, _⟩ := settled
  obtain rfl : transaction = none := finished
  obtain rfl : pending = none := absent
  rfl

end LicoMesh.RestoreTransaction
