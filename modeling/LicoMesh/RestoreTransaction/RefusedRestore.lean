import LicoMesh.RestoreTransaction.Programs

namespace LicoMesh.RestoreTransaction

open Library Program Option RestoreDisk WorkQueue

variable {targets : String → Option Node} {disk : RestoreDisk}
  {stageInstall : RestoreRecord → Option Node} {record : RestoreRecord} {env : RestoreEnv}

structure Untouched (targets : String → Option Node) (records : List RestoreRecord)
    (disk : RestoreDisk) : Prop where
  targets : disk.targets = targets
  pending : disk.pending = none
  directory : ∃ directory, disk.transaction = some directory ∧
    directory.rollback = (fun _ => none) ∧
      ∃ receiptSha256, directory.journal = some ⟨receiptSha256, .rollbackRequired, records⟩

structure Unpublished (targets : String → Option Node) (disk : RestoreDisk) : Prop where
  targets : disk.targets = targets
  transaction : disk.transaction = none
  pending : ∃ directory, disk.pending = some directory ∧ directory.rollback = fun _ => none

theorem Unpublished.mapPending (unpublished : Unpublished targets disk)
    (keeps : ∀ directory, (change directory).rollback = directory.rollback) :
    Unpublished targets (disk.mapPending change) := by
  obtain ⟨directory, pending, rollback⟩ := unpublished.pending
  refine ⟨unpublished.targets, unpublished.transaction, change directory, ?_, ?_⟩
  · simp only [RestoreDisk.mapPending, pending, map_some]
  · rw [keeps, rollback]

theorem stageRecord_keepsTargets (targets : String → Option Node) (record : RestoreRecord) :
    Triple (Unpublished targets) (stageRecord env stageInstall record)
      (fun _ => Unpublished targets) (fun _ _ => True) (fun _ => True) := by
  unfold stageRecord
  split
  · exact triple_throw fun _ _ => .intro
  · apply triple_bind (fun _ => Unpublished targets)
    · apply triple_write
      · exact fun _ _ => .intro
      · exact fun _ unpublished => unpublished.mapPending fun _ => rfl
    · intro _
      apply triple_bind (fun _ => Unpublished targets)
      · exact triple_read (fun _ _ holds _ => holds) fun _ _ _ _ => .intro
      · intro _
        exact triple_require (fun _ holds _ => holds) fun _ _ _ => .intro

theorem prepareTransaction_keepsTargets (options : RestoreExecutionOptions)
    (stageInstall : RestoreRecord → Option Node) (targets : String → Option Node) :
    Triple (fun disk => disk.targets = targets ∧ disk.transaction = none)
      (prepareTransaction env options stageInstall)
      (fun _ => Untouched targets options.records) (fun _ _ => True) (fun _ => True) := by
  have nothing : ∀ disk : RestoreDisk, True := fun _ => .intro
  apply triple_bind (fun _ => Unpublished targets)
  · apply triple_write (fun disk _ => nothing disk)
    rintro disk ⟨same, absent⟩
    exact ⟨same, absent, {}, rfl, rfl⟩
  intro _
  apply triple_bind (fun _ => Unpublished targets)
  · exact triple_forEach (fun _ _ => Unpublished targets)
      (fun _ record _ => stageRecord_keepsTargets targets record) [] _
  intro _
  apply triple_bind (fun _ => Unpublished targets)
  · apply triple_write (fun disk _ => nothing disk)
    exact fun _ unpublished => unpublished.mapPending fun _ => rfl
  intro _
  apply triple_bind (fun _ disk => disk.targets = targets ∧
    ∃ directory, disk.pending = some directory ∧ directory.rollback = (fun _ => none) ∧
      ∃ receiptSha256, directory.journal = some ⟨receiptSha256, .prepared, options.records⟩)
  · apply triple_write (fun disk _ => nothing disk)
    rintro disk ⟨same, _, directory, pending, rollback⟩
    refine ⟨same, directory.setJournal ⟨env.sha256 options.report, .prepared, options.records⟩,
      ?_, rollback, env.sha256 options.report, rfl⟩
    simp only [mapPending, pending, map_some]
  intro _
  apply triple_bind (fun _ disk => disk.targets = targets ∧ disk.pending = none ∧
    ∃ directory, disk.transaction = some directory ∧ directory.rollback = (fun _ => none) ∧
      ∃ receiptSha256, directory.journal = some ⟨receiptSha256, .prepared, options.records⟩)
  · apply triple_write (fun disk _ => nothing disk)
    rintro disk ⟨same, directory, pending, rollback⟩
    exact ⟨same, rfl, directory, pending, rollback⟩
  intro _
  apply triple_write (fun disk _ => nothing disk)
  rintro disk ⟨same, absent, directory, transaction, rollback, receiptSha256, journal⟩
  refine ⟨same, absent, directory.setPhase .rollbackRequired, ?_, rollback, receiptSha256, ?_⟩
  · simp only [mapTransaction, transaction, map_some]
  · simp only [TransactionDirectory.setPhase, journal, map_some]

structure Rewinding (env : RestoreEnv) (targets : String → Option Node)
    (done : List RestoreRecord) (disk : RestoreDisk) : Prop where
  rollback : ∀ path, disk.rollbackNode path = none
  shrinks : ∀ path node, disk.targets path = some node → targets path = some node
  matched : ∀ record ∈ done, record.hadOriginal = true →
    assertExpectedFile env (targets record.relativePath) record.previousBytes
      record.previousSha256 = .ok ()
  removed : ∀ record ∈ done, record.hadOriginal = false → disk.targets record.relativePath = none

namespace Rewinding

variable {targets : String → Option Node} {done : List RestoreRecord} {disk : RestoreDisk}

theorem add (rewinding : Rewinding env targets done disk)
    (matched : record.hadOriginal = true → assertExpectedFile env (targets record.relativePath)
      record.previousBytes record.previousSha256 = .ok ())
    (removed : record.hadOriginal = false → disk.targets record.relativePath = none) :
    Rewinding env targets (done ++ [record]) disk := by
  refine ⟨rewinding.rollback, rewinding.shrinks, ?_, ?_⟩
  · intro other member
    obtain earlier | last := List.mem_append.mp member
    · exact rewinding.matched other earlier
    · rw [List.mem_singleton.mp last]
      exact matched
  · intro other member
    obtain earlier | last := List.mem_append.mp member
    · exact rewinding.removed other earlier
    · rw [List.mem_singleton.mp last]
      exact removed

theorem removeTarget (rewinding : Rewinding env targets done disk) (path : String) :
    Rewinding env targets done (disk.setTarget path none) := by
  refine ⟨rewinding.rollback, ?_, rewinding.matched, ?_⟩
  · intro other node present
    change (if other = path then none else disk.targets other) = some node at present
    split at present
    · cases present
    · exact rewinding.shrinks other node present
  · intro record member without
    change (if record.relativePath = path then none else disk.targets record.relativePath) = none
    split
    · rfl
    · exact rewinding.removed record member without

theorem removeSafeFile_triple (path : String) :
    Triple (Rewinding env targets done) (removeSafeFile env path)
      (fun _ disk => Rewinding env targets done disk ∧ disk.targets path = none)
      (fun _ _ => True) (fun _ => True) := by
  apply triple_bind (fun node disk => Rewinding env targets done disk ∧ disk.targets path = node)
  · apply triple_read
    · intro disk node rewinding found
      cases found
      exact ⟨rewinding, rfl⟩
    · exact fun _ _ _ _ => .intro
  intro node
  cases node with
  | none => exact triple_pure fun _ holds => holds
  | some node =>
    apply triple_bind (fun _ => Rewinding env targets done)
    · exact triple_require (fun _ holds _ => holds.1) fun _ _ _ => .intro
    intro _
    cases node with
    | other => exact triple_throw fun _ _ => .intro
    | file bytes =>
      apply triple_write (fun _ _ => .intro)
      intro disk rewinding
      exact ⟨rewinding.removeTarget path, if_pos rfl⟩

theorem rollbackRecord_triple (record : RestoreRecord) :
    Triple (Rewinding env targets done) (rollbackRecord env record)
      (fun _ => Rewinding env targets (done ++ [record])) (fun _ _ => True) (fun _ => True) := by
  apply triple_bind (fun _ => Rewinding env targets done)
  · exact triple_require (fun _ holds _ => holds) fun _ _ _ => .intro
  intro _
  apply triple_bind (fun node disk => Rewinding env targets done disk ∧ node = none)
  · apply triple_read
    · intro disk node rewinding found
      cases found
      exact ⟨rewinding, rewinding.rollback record.relativePath⟩
    · exact fun _ _ _ _ => .intro
  intro node
  cases node with
  | some node =>
    intro disk holds
    cases holds.2
  | none =>
    cases original : record.hadOriginal with
    | false =>
      apply (removeSafeFile_triple record.relativePath).conseq
      · exact fun _ holds => holds.1
      · rintro _ disk ⟨rewinding, removed⟩
        exact rewinding.add (fun had => absurd (original.symm.trans had) Bool.false_ne_true)
          fun _ => removed
      · exact fun _ _ _ => .intro
      · exact fun _ _ => .intro
    | true =>
      apply triple_bind (fun _ disk =>
        Rewinding env targets done disk ∧ (disk.targets record.relativePath).isSome)
      · exact triple_require (fun _ holds present => ⟨holds.1, present⟩)
          fun _ _ _ => .intro
      intro _
      apply triple_read
      · rintro disk ⟨⟩ ⟨rewinding, present⟩ matched
        obtain ⟨node, found⟩ := isSome_iff_exists.mp present
        apply rewinding.add
        · intro _
          rw [rewinding.shrinks _ node found, ← found]
          exact matched
        · exact fun without => absurd (without.symm.trans original) Bool.false_ne_true
      · exact fun _ _ _ _ => .intro

end Rewinding

def RolledBack (env : RestoreEnv) (targets : String → Option Node)
    (records : List RestoreRecord) (disk : RestoreDisk) : Prop :=
  ∀ record ∈ records, if record.hadOriginal then
      assertExpectedFile env (targets record.relativePath) record.previousBytes
        record.previousSha256 = .ok ()
    else disk.targets record.relativePath = none

theorem rollbackRecords_removes (targets : String → Option Node) (records : List RestoreRecord) :
    Triple (Untouched targets records) (rollbackRecords env records)
      (fun _ => RolledBack env targets records) (fun _ _ => True) (fun _ => True) := by
  have loop := triple_forEach (fun done _ => Rewinding env targets done)
    (fun _ record _ => Rewinding.rollbackRecord_triple record) [] records.reverse
  apply loop.conseq
  · rintro disk ⟨same, _, directory, transaction, rollback, _⟩
    refine ⟨?_, ?_, ?_, ?_⟩
    · intro path
      simp only [rollbackNode, transaction, bind_some, rollback]
    · intro path node present
      rw [← same, present]
    · exact fun _ member => absurd member List.not_mem_nil
    · exact fun _ member => absurd member List.not_mem_nil
  · intro _ disk rewinding record member
    have listed : record ∈ [] ++ records.reverse := List.mem_reverse.mpr member
    cases original : record.hadOriginal with
    | true =>
      exact rewinding.matched record listed original
    | false =>
      exact rewinding.removed record listed original
  · exact fun _ _ _ => True.intro
  · exact fun _ _ => True.intro

theorem RolledBack.congr (rolledBack : RolledBack env targets records disk)
    (same : other.targets = disk.targets) : RolledBack env targets records other := by
  unfold RolledBack
  rw [same]
  exact rolledBack

theorem removeTransaction_keepsTargets (targets : String → Option Node) (records : List RestoreRecord)
    (order : List TreeEntry) : Triple (RolledBack env targets records) (removeTransaction order)
      (fun _ => RolledBack env targets records) (fun _ _ => True) (fun _ => True) := by
  apply triple_bind (fun _ => RolledBack env targets records)
  · apply triple_forEach (fun _ _ => RolledBack env targets records) _ [] order
    intro _ entry _
    apply triple_write (fun _ _ => .intro)
    exact fun _ holds => holds.congr rfl
  · intro _
    apply triple_write (fun _ _ => .intro)
    exact fun _ holds => holds.congr rfl

theorem reconcileTransaction_removes (targets : String → Option Node)
    (records : List RestoreRecord) (order : List TreeEntry) :
    Triple (Untouched targets records) (reconcileTransaction env order)
      (fun _ => RolledBack env targets records) (fun _ _ => True) (fun _ => True) := by
  apply triple_bind (fun journal disk => Untouched targets records disk ∧
    ∃ receiptSha256, journal = some ⟨receiptSha256, .rollbackRequired, records⟩)
  · apply triple_read
    · intro disk journal untouched found
      cases found
      obtain ⟨directory, transaction, _, receiptSha256, journal⟩ := untouched.directory
      refine ⟨untouched, receiptSha256, ?_⟩
      rw [transaction, bind_some, journal]
    · exact fun _ _ _ _ => .intro
  rintro journal disk ⟨untouched, receiptSha256, rfl⟩
  have rolled : Triple (Untouched targets records)
      (do rollbackRecords env records; removeTransaction order)
      (fun _ => RolledBack env targets records) (fun _ _ => True) (fun _ => True) :=
    triple_bind (fun _ => RolledBack env targets records) (rollbackRecords_removes targets records)
      fun _ => removeTransaction_keepsTargets targets records order
  exact rolled disk untouched

theorem recoverFrom_removes (targets : String → Option Node) (records : List RestoreRecord)
    (order : List TreeEntry) :
    Triple (Untouched targets records) (recoverFrom env order .targetChanged)
      (fun _ _ => False)
      (fun error disk => error = .targetChanged → RolledBack env targets records disk)
      (fun _ => True) := by
  apply triple_bind (fun _ => RolledBack env targets records)
  · apply triple_tryCatch (fun _ _ => True)
    · apply triple_bind (fun present disk => Untouched targets records disk ∧ present = true)
      · apply triple_read
        · intro disk present untouched found
          cases found
          obtain ⟨directory, transaction, _⟩ := untouched.directory
          refine ⟨untouched, ?_⟩
          rw [transaction, isSome_some]
        · exact fun _ _ _ _ => .intro
      rintro present disk ⟨untouched, rfl⟩
      exact reconcileTransaction_removes targets records order disk untouched
    · intro error
      apply triple_throw
      intro _ _ same
      cases same
  · intro _
    apply triple_throw
    exact fun _ rolledBack _ => rolledBack

structure RefusedAtPreimage (env : RestoreEnv) (options : RestoreExecutionOptions)
    (stageInstall : RestoreRecord → Option Node) (disk : RestoreDisk) : Prop where
  identities : options.identitiesAreValid = true
  installer : options.stageInstall = some stageInstall
  valid : options.normalized.records.all (·.isValid) = true
  distinct : (options.normalized.records.map (·.relativePath)).Nodup
  fresh : disk.transaction = none ∧ disk.pending = none
  prepared : (prepareTransaction env options.normalized stageInstall disk).result = .ok ()
  refused : (assertPreimagesUnchanged env options.normalized.records
    (prepareTransaction env options.normalized stageInstall disk).last).result =
      .error .targetChanged

structure RefusesCleanly (env : RestoreEnv) (options : RestoreExecutionOptions)
    (order : List TreeEntry) (disk : RestoreDisk) : Prop where
  result : (executeDurableRestoreTransaction env options order disk).result = .error .targetChanged
  targets : ∀ record ∈ options.normalized.records,
    (executeDurableRestoreTransaction env options order disk).last.targets record.relativePath =
      disk.targets record.relativePath
  settled : (executeDurableRestoreTransaction env options order disk).last.transaction = none ∧
    (executeDurableRestoreTransaction env options order disk).last.pending = none

theorem checkPreimage_changed (changed : checkPreimage env disk record = .error .targetChanged) :
    if record.hadOriginal then
      assertExpectedFile env (disk.targets record.relativePath) record.previousBytes
        record.previousSha256 ≠ .ok ()
    else disk.targets record.relativePath ≠ none := by
  unfold checkPreimage at changed
  split at changed
  · cases changed
  cases original : record.hadOriginal with
  | false =>
    rw [original] at changed
    intro absent
    rw [absent] at changed
    cases changed
  | true =>
    unfold assertExpectedFile
    intro matched
    cases found : disk.targets record.relativePath with
    | none =>
      rw [found] at matched
      cases matched
    | some node =>
      rw [found] at matched changed
      cases inspected : inspectRegularFile env (some node) with
      | error error =>
        rw [inspected] at matched
        cases matched
      | ok integrity => simp_all

theorem execute_of_refused
    (refusal : RefusedAtPreimage env options stageInstall disk) (order : List TreeEntry) :
    let refused := (prepareTransaction env options.normalized stageInstall disk).last
    (executeDurableRestoreTransaction env options order disk).result =
        (recoverFrom env order .targetChanged refused).result ∧
      (executeDurableRestoreTransaction env options order disk).last =
        (recoverFrom env order .targetChanged refused).last := by
  intro refused
  have unchanged : (assertPreimagesUnchanged env options.normalized.records refused).last = refused :=
    ends_forEach_read.1
  obtain ⟨checked, checkedDisk⟩ := ends_bind_error (assertPreimagesUnchanged env options.normalized.records)
    (fun _ => commitTransaction env options.normalized order) refusal.refused
  obtain ⟨result, last⟩ := ends_bind_ok (prepareTransaction env options.normalized stageInstall)
    (fun _ => do assertPreimagesUnchanged env options.normalized.records; commitTransaction env options.normalized order)
    refusal.prepared
  obtain ⟨caught, caughtDisk⟩ := ends_tryCatch_error _ (recoverFrom env order)
    (result.trans checked)
  have ran : executeDurableRestoreTransaction env options order disk =
      runTransaction env options.normalized stageInstall order disk := by
    unfold executeDurableRestoreTransaction
    simp only [refusal.identities, refusal.installer, refusal.valid, refusal.distinct,
      Bool.not_true, Bool.false_eq_true, if_false, not_true_eq_false]
  rw [ran]
  rw [last, checkedDisk, unchanged] at caught caughtDisk
  exact ⟨caught, caughtDisk⟩

/-- No refusal at a preimage leaves everything as it was. -/
theorem refusal_not_clean {options : RestoreExecutionOptions}
    {stageInstall : RestoreRecord → Option Node} {disk : RestoreDisk}
    (refusal : RefusedAtPreimage env options stageInstall disk) (order : List TreeEntry) :
    ¬RefusesCleanly env options order disk := by
  intro clean
  obtain ⟨result, last⟩ := execute_of_refused refusal order
  obtain ⟨_, prepared⟩ := prepareTransaction_keepsTargets options.normalized stageInstall disk.targets
    disk ⟨rfl, refusal.fresh.1⟩
  rw [refusal.prepared] at prepared
  have untouched : Untouched disk.targets options.normalized.records
    (prepareTransaction env options.normalized stageInstall disk).last := prepared
  obtain ⟨_, recovered⟩ := recoverFrom_removes disk.targets options.normalized.records order _ untouched
  rw [← result, clean.result, ← last] at recovered
  have rolledBack : RolledBack env disk.targets options.normalized.records
    (executeDurableRestoreTransaction env options order disk).last := recovered rfl
  obtain ⟨record, member, changed⟩ := ends_forEach_read.2 _ refusal.refused
  have differs := checkPreimage_changed changed
  have restored := rolledBack record member
  rw [untouched.targets] at differs
  rw [clean.targets record member] at restored
  split at restored
  · rename_i original
    rw [if_pos original] at differs
    exact differs restored
  · rename_i original
    rw [if_neg original] at differs
    exact differs restored

def sampleContentDigest (bytes : List UInt8) : Sha256Digest :=
  ⟨List.replicate 31 0 ++ [bytes.headD 0], by simp⟩

def sampleRestoreEnv : RestoreEnv where
  sha256 := sampleContentDigest
  quickCheck := fun _ => some true
  safeParent := fun _ => true

def installRecord (hadOriginal : Bool) : RestoreRecord where
  relativePath := "a"
  operation := .install
  hadOriginal := hadOriginal
  previousBytes := if hadOriginal then 1 else 0
  previousSha256 := if hadOriginal then some (sampleContentDigest [1]) else none
  installedBytes := 1
  installedSha256 := some (sampleContentDigest [2])
  sqlite := false

def installOptions (hadOriginal : Bool) : RestoreExecutionOptions where
  identitiesAreValid := true
  report := [0]
  records := [installRecord hadOriginal]
  stageInstall := some fun _ => some (.file [2])

def diskWith (target : Option Node) : RestoreDisk where
  targets := fun path => if path = "a" then target else none
  pending := none
  transaction := none
  report := none

def refusalOutcome (hadOriginal : Bool) (target : Option Node) :
    Except RestoreError Unit × Option Node × Bool :=
  let outcome := executeDurableRestoreTransaction sampleRestoreEnv (installOptions hadOriginal) []
    (diskWith target)
  (outcome.result, outcome.last.targets "a", outcome.last.transaction.isSome)

theorem refusal_of_installRecord (refused : (assertPreimagesUnchanged sampleRestoreEnv
      (installOptions hadOriginal).normalized.records
      (prepareTransaction sampleRestoreEnv (installOptions hadOriginal).normalized
        (fun _ => some (.file [2])) (diskWith target)).last).result = .error .targetChanged)
    (prepared : (prepareTransaction sampleRestoreEnv (installOptions hadOriginal).normalized
      (fun _ => some (.file [2])) (diskWith target)).result = .ok ()) :
    RefusedAtPreimage sampleRestoreEnv (installOptions hadOriginal)
      (fun _ => some (.file [2])) (diskWith target) where
  identities := rfl
  installer := rfl
  valid := by cases hadOriginal <;> decide +kernel
  distinct := by cases hadOriginal <;> decide
  fresh := ⟨rfl, rfl⟩
  prepared := prepared
  refused := refused

theorem refusal_not_clean_appeared :
    RefusedAtPreimage sampleRestoreEnv (installOptions false) (fun _ => some (.file [2]))
        (diskWith (some (.file [7]))) ∧
      ¬RefusesCleanly sampleRestoreEnv (installOptions false) [] (diskWith (some (.file [7]))) :=
  ⟨refusal_of_installRecord rfl rfl, refusal_not_clean (refusal_of_installRecord rfl rfl) []⟩

theorem refusalOutcome_cases : refusalOutcome false (some (.file [7])) =
      (.error .targetChanged, none, false) ∧ refusalOutcome true none =
      (.error .recoveryFailed, none, true) ∧ refusalOutcome true (some (.file [7])) =
      (.error .recoveryFailed, some (.file [7]), true) := by
  decide +kernel

/-- A file that has appeared is deleted. One that has disappeared or changed leaves the
transaction, and the refusal is reported as a failed recovery. -/
theorem refusals_lose_or_block :
    (RefusedAtPreimage sampleRestoreEnv (installOptions false) (fun _ => some (.file [2]))
        (diskWith (some (.file [7]))) ∧
      ¬RefusesCleanly sampleRestoreEnv (installOptions false) [] (diskWith (some (.file [7]))) ∧
      refusalOutcome false (some (.file [7])) = (.error .targetChanged, none, false)) ∧
    (RefusedAtPreimage sampleRestoreEnv (installOptions true) (fun _ => some (.file [2]))
        (diskWith none) ∧
      ¬RefusesCleanly sampleRestoreEnv (installOptions true) [] (diskWith none) ∧
      refusalOutcome true none = (.error .recoveryFailed, none, true)) ∧
    RefusedAtPreimage sampleRestoreEnv (installOptions true) (fun _ => some (.file [2]))
        (diskWith (some (.file [7]))) ∧
      ¬RefusesCleanly sampleRestoreEnv (installOptions true) [] (diskWith (some (.file [7]))) ∧
      refusalOutcome true (some (.file [7])) =
        (.error .recoveryFailed, some (.file [7]), true) := by
  obtain ⟨appeared, disappeared, changed⟩ := refusalOutcome_cases
  refine ⟨⟨refusal_of_installRecord rfl rfl, ?_, appeared⟩,
    ⟨refusal_of_installRecord rfl rfl, ?_, disappeared⟩,
    refusal_of_installRecord rfl rfl, ?_, changed⟩
  · intro clean
    have kept := clean.targets (normalizeRecord (installRecord false)) List.mem_cons_self
    cases (congrArg (·.2.1) appeared).symm.trans kept
  · intro clean
    cases (congrArg (·.1) disappeared).symm.trans clean.result
  · intro clean
    cases (congrArg (·.1) changed).symm.trans clean.result

end LicoMesh.RestoreTransaction
