import LicoMesh.RestoreTransaction.Recovery

namespace LicoMesh.RestoreTransaction

open Library Program RestoreDisk RestorePlan

/-! The execution of a restore, from its first step to the disk that it ends with. -/

variable {record : RestoreRecord} {done waiting : List RestoreRecord} {start disk : RestoreDisk}
  {env : RestoreEnv} {plan : RestorePlan}

/-- A failure that the recovery undoes or completes. -/
def Failing (env : RestoreEnv) (plan : RestorePlan) (disk : RestoreDisk) : Prop :=
  Recoverable env plan disk ∧ disk.report = none

/-- The directory that is being prepared, in which the installs in `done` are staged. -/
structure Preparing (env : RestoreEnv) (plan : RestorePlan) (done : List RestoreRecord)
    (receipt : Option Node) (journal : Option RestoreJournal) (disk : RestoreDisk) : Prop where
  settled : disk.transaction = none
  allOld : AllOld plan disk
  report : disk.report = none
  directory : ∃ directory, disk.pending = some directory ∧
    directory.rollback = (fun _ => none) ∧ directory.receipt = receipt ∧
      directory.journal = journal ∧
        ∀ record ∈ done, directory.staged record.relativePath = plan.stageInstall record
  staged : ∀ record ∈ done, ∃ bytes, plan.stageInstall record = some (.file bytes)

namespace Preparing

variable {done : List RestoreRecord} {receipt : Option Node} {journal : Option RestoreJournal}
  (preparing : Preparing env plan done receipt journal disk)
include preparing

theorem failing : Failing env plan disk :=
  ⟨.old preparing.settled preparing.allOld preparing.report, preparing.report⟩

theorem mapPending (rollback : ∀ directory, (change directory).rollback = directory.rollback)
    (receipts : ∀ directory : TransactionDirectory, directory.receipt = receipt →
      (change directory).receipt = receipt')
    (journals : ∀ directory : TransactionDirectory, directory.journal = journal →
      (change directory).journal = journal')
    (staging : ∀ directory : TransactionDirectory, ∀ record ∈ done,
      (change directory).staged record.relativePath = directory.staged record.relativePath) :
    Preparing env plan done receipt' journal' (disk.mapPending change) := by
  obtain ⟨directory, pending, empty, received, journaled, staged⟩ := preparing.directory
  refine ⟨preparing.settled, preparing.allOld, preparing.report,
    ⟨change directory, ?_, ?_, receipts directory received, journals directory journaled, ?_⟩,
    preparing.staged⟩
  · rw [RestoreDisk.mapPending, pending, Option.map_some]
  · rw [rollback, empty]
  · intro record member
    rw [staging directory record member, staged record member]

theorem add (placed : ∀ directory, disk.pending = some directory →
      directory.staged record.relativePath = plan.stageInstall record)
    (file : ∃ bytes, plan.stageInstall record = some (.file bytes)) :
    Preparing env plan (done ++ [record]) receipt journal disk := by
  obtain ⟨directory, pending, empty, received, journaled, staged⟩ := preparing.directory
  refine ⟨preparing.settled, preparing.allOld, preparing.report,
    ⟨directory, pending, empty, received, journaled, ?_⟩, ?_⟩
  · intro other member
    obtain earlier | last := List.mem_append.mp member
    · exact staged other earlier
    · rw [List.mem_singleton.mp last]
      exact placed directory pending
  · intro other member
    obtain earlier | last := List.mem_append.mp member
    · exact preparing.staged other earlier
    · rw [List.mem_singleton.mp last]
      exact file

end Preparing

theorem stageRecord_triple (apart : ∀ other ∈ done, other.relativePath ≠ record.relativePath) :
    Triple (Preparing env plan done none none) (stageRecord env plan.stageInstall record)
      (fun _ => Preparing env plan (done ++ [record]) none none)
      (fun _ => Failing env plan) (Survives env plan) := by
  unfold stageRecord
  cases found : plan.stageInstall record with
  | none => exact triple_throw fun _ preparing => preparing.failing
  | some node =>
    have staging : ∀ disk : RestoreDisk, Preparing env plan done none none disk →
        Preparing env plan done none none (disk.mapPending fun directory =>
          { directory with
            staged := setAt directory.staged record.relativePath (some node) }) := by
      intro disk preparing
      apply preparing.mapPending
      · exact fun _ => rfl
      · exact fun _ same => same
      · exact fun _ same => same
      · exact fun directory other member => setAt_of_ne _ _ (apart other member)
    apply triple_bind (fun _ disk => Preparing env plan done none none disk ∧
      ∀ directory, disk.pending = some directory →
        directory.staged record.relativePath = some node)
    · apply triple_write
      · exact fun disk preparing => (staging disk preparing).failing.1.survives
      · intro disk preparing
        refine ⟨staging disk preparing, ?_⟩
        intro directory pending
        obtain ⟨before, -, rfl⟩ := Option.map_eq_some_iff.mp pending
        exact setAt_self _ _ _
    intro _
    apply triple_bind (fun _ disk => (Preparing env plan done none none disk ∧
      ∀ directory, disk.pending = some directory →
        directory.staged record.relativePath = some node) ∧ ∃ bytes, node = .file bytes)
    · apply triple_read
      · intro disk _ holds read
        refine ⟨holds, ?_⟩
        cases node with
        | file bytes => exact ⟨bytes, rfl⟩
        | other => cases read
      · exact fun _ _ holds _ => holds.1.failing
    intro _
    apply triple_require
    · rintro disk ⟨⟨preparing, placed⟩, bytes, rfl⟩ _
      apply preparing.add
      · rw [found]
        exact placed
      · exact ⟨bytes, found⟩
    · exact fun _ holds _ => holds.1.1.failing

/-- The records in `done` are committed, and those in `waiting` are not yet touched. -/
structure Committing (env : RestoreEnv) (plan : RestorePlan) (done waiting : List RestoreRecord)
    (disk : RestoreDisk) : Prop where
  inPhase : InPhase env plan .rollbackRequired disk
  receipt : receiptOf disk = some (.file plan.report)
  staged : plan.Staged
  moved : ∀ record ∈ done, disk.rollbackNode record.relativePath = plan.original record ∧
    disk.targets record.relativePath = plan.new record
  untouched : ∀ record ∈ waiting, InPlace plan record disk ∧ (record.operation = .install →
    disk.stagedNode record.relativePath = plan.stageInstall record)

theorem Committing.failing (committing : Committing env plan done waiting disk)
    (listed : done ++ waiting = plan.records) : Failing env plan disk := by
  refine ⟨.rollingBack committing.inPhase committing.staged ?_, committing.inPhase.report⟩
  intro record member
  rw [← listed] at member
  obtain inDone | inWaiting := List.mem_append.mp member
  · have moved := committing.moved record inDone
    exact .inr ⟨moved.1, .inr moved.2⟩
  · exact .inl (committing.untouched record inWaiting).1

theorem publishTransaction_committing
    (installs : done = plan.records.filter (·.operation = .install))
    (preparing : Preparing env plan done (some (.file plan.report))
      (some ⟨env.sha256 plan.report, .prepared, plan.records⟩) disk) :
    InPhase env plan .prepared disk.publishTransaction ∧ AllOld plan disk.publishTransaction ∧
        Committing env plan [] plan.records
          (disk.publishTransaction.mapTransaction (·.setPhase .rollbackRequired)) := by
  obtain ⟨directory, pending, empty, received, journaled, staged⟩ := preparing.directory
  have member : ∀ {record : RestoreRecord}, record ∈ plan.records →
      record.operation = .install → record ∈ done := by
    intro record listed install
    rw [installs]
    exact List.mem_filter.mpr ⟨listed, by simpa using install⟩
  refine ⟨⟨rfl, ?_, preparing.report⟩, preparing.allOld, ⟨rfl, ?_, preparing.report⟩, ?_, ?_, ?_,
    ?_⟩
  · change disk.pending.bind (·.journal) = _
    rw [pending]
    exact journaled
  · change (disk.pending.map (·.setPhase .rollbackRequired)).bind (·.journal) = _
    rw [pending]
    change directory.journal.map _ = _
    rw [journaled]
    rfl
  · change (disk.pending.map (·.setPhase .rollbackRequired)).bind (·.receipt) = _
    rw [pending]
    exact received
  · exact fun record listed install => preparing.staged record (member listed install)
  · exact fun _ inNil => absurd inNil List.not_mem_nil
  · intro record listed
    refine ⟨⟨?_, preparing.allOld record listed⟩, ?_⟩
    · change (disk.pending.map (·.setPhase .rollbackRequired)).bind (·.rollback record.relativePath) = _
      rw [pending]
      exact congrFun empty record.relativePath
    · intro install
      change (disk.pending.map (·.setPhase .rollbackRequired)).bind (·.staged record.relativePath) = _
      rw [pending]
      exact staged record (member listed install)

variable (sound : plan.Sound env)
include sound

theorem RestorePlan.Sound.installs_apart
    (listed : done ++ record :: after = plan.records.filter (·.operation = .install)) :
    ∀ other ∈ done, other.relativePath ≠ record.relativePath := by
  intro other member same
  have distinct : ((plan.records.filter (·.operation = .install)).map
      (·.relativePath)).Nodup := (List.filter_sublist.map _).nodup sound.distinct
  rw [← listed, List.map_append, List.map_cons] at distinct
  exact (List.nodup_append.mp distinct).2.2 _ (List.mem_map_of_mem member) _ List.mem_cons_self same

theorem prepareTransaction_prepares (options : RestoreExecutionOptions)
    (records : options.records = plan.records) (report : options.report = plan.report) :
    Triple (fun disk => disk.transaction = none ∧ AllOld plan disk ∧ disk.report = none)
      (prepareTransaction env options plan.stageInstall)
      (fun _ => Committing env plan [] plan.records) (fun _ => Failing env plan)
      (Survives env plan) := by
  unfold prepareTransaction
  rw [records, report]
  apply triple_bind (fun _ => Preparing env plan [] none none)
  · have opens : ∀ disk : RestoreDisk,
        disk.transaction = none ∧ AllOld plan disk ∧ disk.report = none →
          Preparing env plan [] none none { disk with pending := some {} } := by
      rintro disk ⟨settled, allOld, unpublished⟩
      exact ⟨settled, allOld, unpublished, ⟨{}, rfl, rfl, rfl, rfl,
        fun _ member => absurd member List.not_mem_nil⟩,
        fun _ member => absurd member List.not_mem_nil⟩
    exact triple_write (fun disk holds => (opens disk holds).failing.1.survives) opens
  intro _
  apply triple_bind (fun _ => Preparing env plan
    (plan.records.filter (·.operation = .install)) none none)
  · apply triple_forEach_split (fun done => Preparing env plan done none none)
    intro done record after listed
    exact stageRecord_triple (sound.installs_apart listed)
  intro _
  apply triple_bind (fun _ => Preparing env plan (plan.records.filter (·.operation = .install))
    (some (.file plan.report)) none)
  · have receives : ∀ disk : RestoreDisk,
        Preparing env plan (plan.records.filter (·.operation = .install)) none none disk →
          Preparing env plan (plan.records.filter (·.operation = .install))
            (some (.file plan.report)) none (disk.mapPending fun directory =>
              { directory with receipt := some (.file plan.report) }) :=
      fun _ preparing => preparing.mapPending (fun _ => rfl) (fun _ _ => rfl)
        (fun _ same => same) fun _ _ _ => rfl
    exact triple_write (fun disk holds => (receives disk holds).failing.1.survives) receives
  intro _
  apply triple_bind (fun _ => Preparing env plan (plan.records.filter (·.operation = .install))
    (some (.file plan.report)) (some ⟨env.sha256 plan.report, .prepared, plan.records⟩))
  · have journals : ∀ disk : RestoreDisk,
        Preparing env plan (plan.records.filter (·.operation = .install))
          (some (.file plan.report)) none disk →
          Preparing env plan (plan.records.filter (·.operation = .install))
            (some (.file plan.report)) (some ⟨env.sha256 plan.report, .prepared, plan.records⟩)
            (disk.mapPending (·.setJournal ⟨env.sha256 plan.report, .prepared, plan.records⟩)) :=
      fun _ preparing => preparing.mapPending (fun _ => rfl) (fun _ same => same)
        (fun _ _ => rfl) fun _ _ _ => rfl
    exact triple_write (fun disk holds => (journals disk holds).failing.1.survives) journals
  intro _
  apply triple_bind (fun _ disk => InPhase env plan .prepared disk ∧ AllOld plan disk ∧
    Committing env plan [] plan.records (disk.mapTransaction (·.setPhase .rollbackRequired)))
  · apply triple_write
    · intro disk preparing
      have published := publishTransaction_committing rfl preparing
      exact fun _ => .prepared published.1 published.2.1
    · exact fun _ preparing => publishTransaction_committing rfl preparing
  intro _
  apply triple_write
  · exact fun _ holds => (holds.2.2.failing (List.nil_append _)).1.survives
  · exact fun _ holds => holds.2.2

omit sound

section CommitRecord

variable {done waiting : List RestoreRecord} {record : RestoreRecord}

structure Lifted (env : RestoreEnv) (plan : RestorePlan) (done : List RestoreRecord)
    (record : RestoreRecord) (waiting : List RestoreRecord) (disk : RestoreDisk) : Prop where
  others : Committing env plan done waiting disk
  rollback : disk.rollbackNode record.relativePath = plan.original record
  target : disk.targets record.relativePath = none
  staged : record.operation = .install →
    disk.stagedNode record.relativePath = plan.stageInstall record

theorem Lifted.failing (lifted : Lifted env plan done record waiting disk)
    (listed : done ++ record :: waiting = plan.records) : Failing env plan disk := by
  refine ⟨.rollingBack lifted.others.inPhase lifted.others.staged ?_, lifted.others.inPhase.report⟩
  intro other member
  rw [← listed] at member
  obtain inDone | inRest := List.mem_append.mp member
  · have moved := lifted.others.moved other inDone
    exact .inr ⟨moved.1, .inr moved.2⟩
  · obtain rfl | inWaiting := List.mem_cons.mp inRest
    · exact .inr ⟨lifted.rollback, .inl lifted.target⟩
    · exact .inl (lifted.others.untouched other inWaiting).1

theorem Committing.step {next : RestoreDisk} (committing : Committing env plan done waiting disk)
    (apart : ∀ other ∈ done ++ waiting, other.relativePath ≠ record.relativePath)
    (inPhase : InPhase env plan .rollbackRequired next) (receipt : receiptOf next = receiptOf disk)
    (others : ∀ path, path ≠ record.relativePath →
      next.rollbackNode path = disk.rollbackNode path ∧ next.targets path = disk.targets path ∧
        next.stagedNode path = disk.stagedNode path) : Committing env plan done waiting next := by
  refine ⟨inPhase, receipt.trans committing.receipt, committing.staged, ?_, ?_⟩
  · intro other member
    obtain ⟨rollback, target, _⟩ := others _ (apart other (List.mem_append_left _ member))
    rw [rollback, target]
    exact committing.moved other member
  · intro other member
    obtain ⟨rollback, target, staged⟩ := others _ (apart other (List.mem_append_right _ member))
    unfold InPlace
    rw [rollback, target, staged]
    exact committing.untouched other member

theorem stagedNode_moveToRollback (path other : String) :
    (disk.moveToRollback path).stagedNode other = disk.stagedNode other := by
  apply stagedNode_mapTransaction
  exact fun _ => rfl

theorem Committing.moveToRollback (committing : Committing env plan done (record :: waiting) disk)
    (apart : ∀ other ∈ done ++ waiting, other.relativePath ≠ record.relativePath)
    (hadOriginal : record.hadOriginal = true) :
    Lifted env plan done record waiting (disk.moveToRollback record.relativePath) := by
  obtain ⟨inPlace, staged⟩ := committing.untouched record List.mem_cons_self
  have opened : (journalOf disk).isSome := by rw [committing.inPhase.journal]; rfl
  have inPhase := committing.inPhase
  have rest : Committing env plan done waiting disk :=
    ⟨inPhase, committing.receipt, committing.staged, committing.moved,
      fun other member => committing.untouched other (List.mem_cons_of_mem _ member)⟩
  have journaled : journalOf (disk.mapTransaction fun directory =>
      { directory with
        rollback := setAt directory.rollback record.relativePath
          (disk.targets record.relativePath) }) = journalOf disk :=
    journalOf_mapTransaction fun _ => rfl
  refine ⟨rest.step apart ⟨inPhase.pending, journaled.trans inPhase.journal, inPhase.report⟩ ?_ ?_,
    ?_, if_pos rfl, ?_⟩
  · exact receiptOf_mapTransaction fun _ => rfl
  · intro path distinct
    refine ⟨?_, if_neg distinct, stagedNode_moveToRollback _ _⟩
    rw [rollbackNode_moveToRollback opened, if_neg distinct]
  · rw [rollbackNode_moveToRollback opened, if_pos rfl, inPlace.2, original,
      if_pos hadOriginal]
  · intro install
    exact (stagedNode_moveToRollback _ _).trans (staged install)

theorem stagedNode_installStaged (path other : String) (distinct : other ≠ path) :
    (disk.installStaged path).stagedNode other = disk.stagedNode other := by
  change (disk.mapTransaction _).stagedNode other = _
  unfold stagedNode mapTransaction
  cases disk.transaction with
  | none => rfl
  | some directory => exact if_neg distinct

theorem Committing.done_add (committing : Committing env plan done waiting disk)
    (moved : disk.rollbackNode record.relativePath = plan.original record ∧
      disk.targets record.relativePath = plan.new record) :
    Committing env plan (done ++ [record]) waiting disk := by
  refine ⟨committing.inPhase, committing.receipt, committing.staged, ?_, committing.untouched⟩
  intro other member
  obtain earlier | last := List.mem_append.mp member
  · exact committing.moved other earlier
  · rw [List.mem_singleton.mp last]
    exact moved

theorem Lifted.installStaged (lifted : Lifted env plan done record waiting disk)
    (apart : ∀ other ∈ done ++ waiting, other.relativePath ≠ record.relativePath)
    (install : record.operation = .install) : Committing env plan (done ++ [record]) waiting
      (disk.installStaged record.relativePath) := by
  have inPhase := lifted.others.inPhase
  have journaled : journalOf (disk.mapTransaction fun directory =>
      { directory with staged := setAt directory.staged record.relativePath none }) =
        journalOf disk := journalOf_mapTransaction fun _ => rfl
  have rollback : ∀ path, (disk.installStaged record.relativePath).rollbackNode path =
      disk.rollbackNode path := rollbackNode_mapTransaction fun _ => rfl
  have stepped : Committing env plan done waiting (disk.installStaged record.relativePath) :=
    lifted.others.step apart
      ⟨inPhase.pending, journaled.trans inPhase.journal, inPhase.report⟩
      (receiptOf_mapTransaction fun _ => rfl) fun path distinct =>
        ⟨rollback path, if_neg distinct, stagedNode_installStaged _ _ distinct⟩
  apply stepped.done_add
  refine ⟨(rollback _).trans lifted.rollback, ?_⟩
  rw [new, install, ← lifted.staged install]
  exact if_pos rfl

include sound in
theorem commitRecord_triple (listed : done ++ record :: waiting = plan.records)
    (apart : ∀ other ∈ done ++ waiting, other.relativePath ≠ record.relativePath) :
    Triple (Committing env plan done (record :: waiting)) (commitRecord record)
      (fun _ => Committing env plan (done ++ [record]) waiting) (fun _ => Failing env plan)
      (Survives env plan) := by
  have member : record ∈ plan.records := by
    rw [← listed]
    exact List.mem_append_right _ List.mem_cons_self
  have preimage := sound.preimages record member
  apply triple_bind (fun _ => Lifted env plan done record waiting)
  · unfold moveOriginalToRollback
    split
    · rename_i hadOriginal
      apply triple_bind (fun _ => Committing env plan done (record :: waiting))
      · exact triple_require (fun _ holds _ => holds) fun _ holds _ => holds.failing listed
      intro _
      apply triple_write
      · exact fun _ committing =>
          ((committing.moveToRollback apart hadOriginal).failing listed).1.survives
      · exact fun _ committing => committing.moveToRollback apart hadOriginal
    · rename_i created
      rw [Preimage, if_neg created] at preimage
      apply triple_pure
      intro disk committing
      obtain ⟨inPlace, staged⟩ := committing.untouched record List.mem_cons_self
      refine ⟨⟨committing.inPhase, committing.receipt, committing.staged, committing.moved,
        fun other inRest => committing.untouched other (List.mem_cons_of_mem _ inRest)⟩, ?_,
        inPlace.2.trans preimage, staged⟩
      rw [inPlace.1, original, if_neg created]
  intro _
  unfold renameStaged
  split
  · rename_i install
    apply triple_bind (fun _ => Lifted env plan done record waiting)
    · exact triple_require (fun _ holds _ => holds) fun _ holds _ => holds.failing listed
    intro _
    have listed' : (done ++ [record]) ++ waiting = plan.records := by
      rw [List.append_assoc]
      exact listed
    apply triple_write
    · exact fun _ lifted => ((lifted.installStaged apart install).failing listed').1.survives
    · exact fun _ lifted => lifted.installStaged apart install
  · rename_i operation
    apply triple_pure
    intro disk lifted
    apply lifted.others.done_add
    refine ⟨lifted.rollback, lifted.target.trans ?_⟩
    unfold new
    cases found : record.operation with
    | install => exact absurd found operation
    | delete => rfl

end CommitRecord

/-- All records are committed, and those in `done` are verified. A file that is the sidecar of a
database may be gone already. -/
structure Verifying (env : RestoreEnv) (plan : RestorePlan) (done : List RestoreRecord)
    (disk : RestoreDisk) : Prop where
  inPhase : InPhase env plan .rollbackRequired disk
  receipt : receiptOf disk = some (.file plan.report)
  staged : plan.Staged
  moved : ∀ record ∈ plan.records, Moved plan record disk
  verified : ∀ record ∈ done, disk.targets record.relativePath = plan.new record
  cleared : Cleared done disk
  verifiable : ∀ record ∈ done, Verifiable env plan record

theorem Verifying.failing (verifying : Verifying env plan done disk) : Failing env plan disk :=
  ⟨.rollingBack verifying.inPhase verifying.staged
    fun record member => .inr (verifying.moved record member), verifying.inPhase.report⟩

section VerifyRecord

variable {done after : List RestoreRecord} {record : RestoreRecord}

theorem sidecar_ne (listed : sidecar ∈ sidecars path) : sidecar ≠ path := by
  obtain ⟨suffix, member, rfl⟩ := List.mem_map.mp listed
  intro same
  have lengths := congrArg String.length same
  rw [String.length_append] at lengths
  have positive : ∀ suffix ∈ sqliteSidecarSuffixes, 0 < suffix.length := by decide
  have suffixPositive := positive suffix member
  omega

include sound

variable (listed : done ++ record :: after = plan.records)
include listed

theorem Verifying.removeSidecar (installs : record.InstallsSqlite)
    (isSidecar : sidecar ∈ sidecars record.relativePath)
    (verifying : Verifying env plan done disk) :
    Verifying env plan done (disk.setTarget sidecar none) := by
  have inPhase := verifying.inPhase
  refine ⟨⟨inPhase.pending, inPhase.journal, inPhase.report⟩, verifying.receipt,
    verifying.staged, ?_, ?_, ?_, verifying.verifiable⟩
  · intro other member
    refine ⟨(verifying.moved other member).1, ?_⟩
    rw [targets_setTarget]
    split
    · exact .inl rfl
    · exact (verifying.moved other member).2
  · intro other member
    rw [targets_setTarget]
    split
    · rename_i same
      unfold new
      cases operation : other.operation with
      | install =>
        exact absurd (same ▸ isSidecar)
          (sound.sidecarsFirst done record after listed.symm installs other member operation)
      | delete => rfl
    · exact verifying.verified other member
  · intro other member sqlite path isPath
    rw [targets_setTarget]
    split
    · rfl
    · exact verifying.cleared other member sqlite path isPath

theorem verifySqlite_triple (installs : record.InstallsSqlite) :
    Triple (fun disk => Verifying env plan done disk ∧
        disk.targets record.relativePath = plan.new record)
      (verifySqlite env record.relativePath)
      (fun _ disk => (Verifying env plan done disk ∧
        disk.targets record.relativePath = plan.new record ∧
          ∀ sidecar ∈ sidecars record.relativePath, disk.targets sidecar = none) ∧
        ∃ bytes, plan.new record = some (.file bytes) ∧ env.quickCheck bytes = some true)
      (fun _ => Failing env plan) (Survives env plan) := by
  apply triple_bind (fun verdict disk => (Verifying env plan done disk ∧
    disk.targets record.relativePath = plan.new record) ∧
      ∃ bytes, plan.new record = some (.file bytes) ∧ env.quickCheck bytes = verdict)
  · apply triple_read
    · rintro disk verdict ⟨verifying, new⟩ read
      refine ⟨⟨verifying, new⟩, ?_⟩
      cases found : disk.targets record.relativePath with
      | none =>
        simp only [found] at read
        cases read
      | some node =>
        cases node with
        | file bytes =>
          simp only [found] at read
          exact ⟨bytes, new.symm.trans found, Except.ok.inj read⟩
        | other =>
          simp only [found] at read
          cases read
    · exact fun _ _ holds _ => holds.1.failing
  intro verdict
  apply triple_bind (fun _ disk => (Verifying env plan done disk ∧
    disk.targets record.relativePath = plan.new record) ∧
      ∃ bytes, plan.new record = some (.file bytes) ∧ env.quickCheck bytes = some true)
  · cases verdict with
    | none => exact triple_throw fun _ holds => holds.1.1.failing
    | some verdict =>
      apply triple_require
      · rintro disk ⟨holds, bytes, file, checked⟩ rfl
        exact ⟨holds, bytes, file, checked⟩
      · exact fun _ holds _ => holds.1.1.failing
  intro _
  apply triple_given
  intro checked
  have swept : Triple
      (fun disk => Verifying env plan done disk ∧
        disk.targets record.relativePath = plan.new record ∧
          ∀ sidecar ∈ ([] : List String), disk.targets sidecar = none)
      (forEach (sidecars record.relativePath) (removeSafeFile env))
      (fun _ disk => Verifying env plan done disk ∧
        disk.targets record.relativePath = plan.new record ∧
          ∀ sidecar ∈ sidecars record.relativePath, disk.targets sidecar = none)
      (fun _ => Failing env plan) (Survives env plan) := by
    apply triple_forEach_split (fun swept disk => Verifying env plan done disk ∧
      disk.targets record.relativePath = plan.new record ∧
        ∀ sidecar ∈ swept, disk.targets sidecar = none)
    intro swept sidecar rest split
    have isSidecar : sidecar ∈ sidecars record.relativePath := by
      rw [← split]
      exact List.mem_append_right _ List.mem_cons_self
    apply (removeSafeFile_triple sidecar ?_ ?_).conseq
    · exact fun _ holds => holds
    · rintro _ disk ⟨⟨verifying, new, gone⟩, removed⟩
      refine ⟨verifying, new, ?_⟩
      intro other member
      obtain earlier | last := List.mem_append.mp member
      · exact gone other earlier
      · rw [List.mem_singleton.mp last]
        exact removed
    · exact fun _ _ holds => holds.1.1.failing
    · exact fun _ survives => survives
    · rintro disk ⟨verifying, new, gone⟩
      refine ⟨verifying.removeSidecar sound listed installs isSidecar, ?_, ?_⟩
      · rw [targets_setTarget, if_neg (sidecar_ne isSidecar).symm]
        exact new
      · intro other member
        rw [targets_setTarget]
        split
        · rfl
        · exact gone other member
    · exact fun _ holds => holds.1.failing.1.survives
  apply swept.conseq
  · exact fun _ holds => ⟨holds.1, holds.2, fun _ member => absurd member List.not_mem_nil⟩
  · exact fun _ _ holds => ⟨holds, checked⟩
  · exact fun _ _ failing => failing
  · exact fun _ survives => survives

omit listed sound

theorem Verifying.add (verifying : Verifying env plan done disk)
    (verified : disk.targets record.relativePath = plan.new record)
    (cleared : record.InstallsSqlite →
      ∀ sidecar ∈ sidecars record.relativePath, disk.targets sidecar = none)
    (verifiable : Verifiable env plan record) : Verifying env plan (done ++ [record]) disk := by
  refine ⟨verifying.inPhase, verifying.receipt, verifying.staged, verifying.moved, ?_, ?_, ?_⟩
  · intro other member
    obtain earlier | last := List.mem_append.mp member
    · exact verifying.verified other earlier
    · rw [List.mem_singleton.mp last]
      exact verified
  · intro other member
    obtain earlier | last := List.mem_append.mp member
    · exact verifying.cleared other earlier
    · rw [List.mem_singleton.mp last]
      exact cleared
  · intro other member
    obtain earlier | last := List.mem_append.mp member
    · exact verifying.verifiable other earlier
    · rw [List.mem_singleton.mp last]
      exact verifiable

include listed in
include sound in
theorem verifyRecord_triple : Triple (Verifying env plan done) (verifyRecord env record)
      (fun _ => Verifying env plan (done ++ [record])) (fun _ => Failing env plan)
      (Survives env plan) := by
  have member : record ∈ plan.records := by
    rw [← listed]
    exact List.mem_append_right _ List.mem_cons_self
  have safeParent := sound.safeParent record member
  apply triple_bind (fun _ => Verifying env plan done)
  · exact triple_require (fun _ holds _ => holds) fun _ holds _ => holds.failing
  intro _
  split
  · rename_i operation
    apply triple_require
    · intro disk verifying absent
      apply verifying.add
      · rw [new, operation]
        simpa using absent
      · rintro ⟨install, _⟩
        cases operation.symm.trans install
      · exact ⟨safeParent, fun install => by cases operation.symm.trans install⟩
    · exact fun _ holds _ => holds.failing
  · rename_i operation
    apply triple_bind (fun _ disk => (Verifying env plan done disk ∧
      disk.targets record.relativePath = plan.new record) ∧ (plan.new record).isSome)
    · apply triple_require
      · intro disk verifying present
        obtain absent | new := (verifying.moved record member).2
        · rw [absent] at present
          cases present
        · rw [new] at present
          exact ⟨⟨verifying, new⟩, present⟩
      · exact fun _ holds _ => holds.failing
    intro _
    apply triple_given
    intro present
    apply triple_bind (fun _ disk => (Verifying env plan done disk ∧
      disk.targets record.relativePath = plan.new record) ∧
        assertExpectedFile env (plan.new record) record.installedBytes record.installedSha256 =
          .ok ())
    · apply triple_read
      · rintro disk ⟨⟩ ⟨verifying, new⟩ matched
        rw [new] at matched
        exact ⟨⟨verifying, new⟩, matched⟩
      · exact fun _ _ holds _ => holds.1.failing
    intro _
    apply triple_given
    intro matched
    split
    · rename_i sqlite
      apply (verifySqlite_triple sound listed ⟨operation, sqlite⟩).conseq
      · exact fun _ holds => holds
      · rintro _ disk ⟨⟨verifying, new, gone⟩, checked⟩
        exact verifying.add new (fun _ => gone)
          ⟨safeParent, fun _ => ⟨present, matched, fun _ => checked⟩⟩
      · exact fun _ _ failing => failing
      · exact fun _ survives => survives
    · rename_i plain
      apply triple_pure
      rintro disk ⟨verifying, new⟩
      apply verifying.add new
      · exact fun installs => absurd installs.2 plain
      · exact ⟨safeParent, fun _ => ⟨present, matched, fun sqlite => absurd sqlite plain⟩⟩

end VerifyRecord

theorem Verifying.commit (verifying : Verifying env plan plan.records disk) :
    Committed env plan (disk.mapTransaction (·.setPhase .commitComplete)) := by
  have inPhase := verifying.inPhase
  have journal := inPhase.journal
  have receipt := verifying.receipt
  refine ⟨?_, ⟨inPhase.pending, verifying.verified, verifying.cleared, verifying.verifiable⟩,
    .inl ⟨?_, inPhase.report⟩⟩
  · unfold journalOf mapTransaction at *
    cases found : disk.transaction with
    | none =>
      rw [found] at journal
      cases journal
    | some directory =>
      rw [found] at journal
      change directory.journal.map _ = _
      rw [show directory.journal = _ from journal]
      rfl
  · rw [receiptOf_mapTransaction]
    · exact receipt
    · exact fun _ => rfl

theorem Committing.verifying (committing : Committing env plan plan.records [] disk) :
    Verifying env plan [] disk where
  inPhase := committing.inPhase
  receipt := committing.receipt
  staged := committing.staged
  moved := fun record member =>
    ⟨(committing.moved record member).1, .inr (committing.moved record member).2⟩
  verified := fun _ member => absurd member List.not_mem_nil
  cleared := fun _ member => absurd member List.not_mem_nil
  verifiable := fun _ member => absurd member List.not_mem_nil

include sound

theorem RestorePlan.Sound.apart (listed : done ++ record :: waiting = plan.records) :
    ∀ other ∈ done ++ waiting, other.relativePath ≠ record.relativePath := by
  have distinct := sound.distinct
  rw [← listed, List.map_append, List.map_cons] at distinct
  have split := List.nodup_append.mp distinct
  intro other member same
  obtain inDone | inWaiting := List.mem_append.mp member
  · exact split.2.2 _ (List.mem_map_of_mem inDone) _ List.mem_cons_self same
  · exact (List.nodup_cons.mp split.2.1).1 (same ▸ List.mem_map_of_mem inWaiting)

theorem commitTransaction_triple (options : RestoreExecutionOptions)
    (records : options.records = plan.records) (report : options.report = plan.report)
    (order : List TreeEntry) :
    Triple (Committing env plan [] plan.records) (commitTransaction env options order)
      (fun _ => Settled plan) (fun _ => Failing env plan) (Survives env plan) := by
  unfold commitTransaction
  rw [records, report]
  apply triple_bind (fun _ => Committing env plan plan.records [])
  · have loop : Triple
        (fun disk => ∃ waiting, [] ++ waiting = plan.records ∧
          Committing env plan [] waiting disk)
        (forEach plan.records commitRecord)
        (fun _ disk => ∃ waiting, plan.records ++ waiting = plan.records ∧
          Committing env plan plan.records waiting disk)
        (fun _ => Failing env plan) (Survives env plan) := by
      apply triple_forEach_split (fun done disk => ∃ waiting, done ++ waiting = plan.records ∧
        Committing env plan done waiting disk)
      rintro done record waiting listed disk ⟨rest, split, committing⟩
      obtain rfl : record :: waiting = rest := List.append_cancel_left (listed.trans split.symm)
      have step := (commitRecord_triple sound listed (sound.apart listed)).conseq
        (fun _ holds => holds)
        (fun _ disk (committing : Committing env plan (done ++ [record]) waiting disk) =>
          (⟨waiting, by rw [List.append_assoc]; exact listed, committing⟩ :
            ∃ rest, (done ++ [record]) ++ rest = plan.records ∧
              Committing env plan (done ++ [record]) rest disk))
        (fun _ _ failing => failing) fun _ survives => survives
      exact step disk committing
    apply loop.conseq
    · exact fun _ committing => ⟨plan.records, rfl, committing⟩
    · rintro _ disk ⟨waiting, listed, committing⟩
      obtain rfl : waiting = [] := List.append_right_eq_self.mp listed
      exact committing
    · exact fun _ _ failing => failing
    · exact fun _ survives => survives
  intro _
  apply triple_bind (fun _ => Verifying env plan plan.records)
  · have loop : Triple (Verifying env plan []) (verifyCommittedRecords env plan.records)
        (fun _ => Verifying env plan plan.records) (fun _ => Failing env plan)
        (Survives env plan) :=
      triple_forEach_split (Verifying env plan) fun _ _ _ listed =>
        verifyRecord_triple sound listed
    apply loop.conseq
    · exact fun _ committing => committing.verifying
    · exact fun _ _ holds => holds
    · exact fun _ _ failing => failing
    · exact fun _ survives => survives
  intro _
  apply triple_bind (fun _ => Committed env plan)
  · exact triple_write (fun _ verifying => verifying.commit.survives)
      fun _ verifying => verifying.commit
  intro _
  apply (finalizeCommittedTransaction_triple order).conseq
  · exact fun _ holds => holds
  · exact fun _ _ settled => settled
  · exact fun _ _ never => never.elim
  · exact fun _ survives => survives

theorem recoverFrom_settles (order : List TreeEntry) (error : RestoreError) :
    Triple (Failing env plan) (recoverFrom env order error) (fun _ _ => False)
      (fun _ => Settled plan) (Survives env plan) := by
  apply triple_bind (fun _ => Settled plan)
  · apply triple_tryCatch (fun _ _ => False)
    · apply triple_bind (fun present disk => Failing env plan disk ∧
        disk.transaction.isSome = present)
      · apply triple_read
        · rintro disk _ failing ⟨⟩
          exact ⟨failing, rfl⟩
        · rintro disk _ _ ⟨⟩
      intro present
      cases present with
      | true =>
        apply (reconcileTransaction_recovers sound order).conseq
        · exact fun _ holds => ⟨holds.1.1, holds.1.1.hasJournal holds.2⟩
        · exact fun _ _ settled => settled
        · exact fun _ _ never => never
        · exact fun _ survives => survives
      | false =>
        apply (removePending_triple order).conseq
        · rintro disk ⟨⟨recoverable, unpublished⟩, absent⟩
          have finished : disk.transaction = none := by simpa using absent
          cases recoverable with
          | old settled allOld report => exact ⟨settled, allOld, report⟩
          | new _ _ _ report => cases unpublished.symm.trans report
          | prepared inPhase _ =>
            have journal := inPhase.journal
            rw [journalOf, finished] at journal
            cases journal
          | rollingBack inPhase _ _ =>
            have journal := inPhase.journal
            rw [journalOf, finished] at journal
            cases journal
          | committed journal _ _ =>
            rw [journalOf, finished] at journal
            cases journal
        · exact fun _ _ holds => ⟨holds.1, holds.2.1, .inl holds.2.2⟩
        · exact fun _ _ fails => fails
        · exact fun _ survives => survives
    · rintro _ _ ⟨⟩
  · exact fun _ => triple_throw fun _ settled => settled

theorem runTransaction_triple (options : RestoreExecutionOptions)
    (records : options.records = plan.records) (report : options.report = plan.report)
    (order : List TreeEntry) :
    Triple (fun disk => disk.transaction = none ∧ AllOld plan disk ∧ disk.report = none)
      (runTransaction env options plan.stageInstall order) (fun _ => Settled plan)
      (fun _ => Settled plan) (Survives env plan) := by
  apply triple_tryCatch (fun _ => Failing env plan)
  · apply triple_bind (fun _ => Committing env plan [] plan.records)
    · exact prepareTransaction_prepares sound options records report
    intro _
    apply triple_bind (fun _ => Committing env plan [] plan.records)
    · apply triple_forEach_keeps
      intro record _
      exact triple_read (fun _ _ holds _ => holds)
        fun _ _ holds _ => holds.failing (List.nil_append _)
    · exact fun _ => commitTransaction_triple sound options records report order
  · intro error
    apply (recoverFrom_settles sound order error).conseq
    · exact fun _ failing => failing
    · exact fun _ _ never => never.elim
    · exact fun _ _ settled => settled
    · exact fun _ survives => survives

omit sound

def planOf (options : RestoreExecutionOptions) (start : RestoreDisk) : RestorePlan where
  records := options.normalized.records
  stageInstall := options.stageInstall.getD fun _ => none
  report := options.report
  old := start.targets

/-- No transaction and no receipt of it are there yet. -/
def Fresh (start : RestoreDisk) : Prop :=
  start.transaction = none ∧ start.pending = none ∧ start.report = none

theorem Fresh.settled (fresh : Fresh start) (options : RestoreExecutionOptions) :
    Settled (planOf options start) start :=
  ⟨fresh.1, fresh.2.1, .inl ⟨fun _ _ => rfl, fresh.2.2⟩⟩

theorem executeDurableRestoreTransaction_triple
    (fresh : Fresh start) (sound : (planOf options start).Sound env) (order : List TreeEntry) :
    Triple (fun disk => disk = start) (executeDurableRestoreTransaction env options order)
      (fun _ => Settled (planOf options start)) (fun _ => Settled (planOf options start))
      (Survives env (planOf options start)) := by
  have refuses : ∀ error : RestoreError, Triple (fun disk => disk = start)
      (.throw error : RestoreProgram Unit) (fun _ => Settled (planOf options start))
      (fun _ => Settled (planOf options start)) (Survives env (planOf options start)) := by
    intro error
    apply triple_throw
    rintro disk rfl
    exact fresh.settled options
  unfold executeDurableRestoreTransaction
  split
  · exact refuses _
  split
  · exact refuses _
  · rename_i stageInstall installer
    dsimp only
    split
    · exact refuses _
    split
    · exact refuses _
    · have stages : stageInstall = (planOf options start).stageInstall := by
        change _ = options.stageInstall.getD _
        rw [installer, Option.getD_some]
      rw [stages]
      apply (runTransaction_triple sound options.normalized rfl rfl order).conseq
      · rintro disk rfl
        exact ⟨fresh.1, fun _ _ => rfl, fresh.2.2⟩
      · exact fun _ _ settled => settled
      · exact fun _ _ settled => settled
      · exact fun _ survives => survives

end LicoMesh.RestoreTransaction
