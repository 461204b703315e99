import LicoMesh.RestoreTransaction.Execution
import LicoMesh.RestoreTransaction.RefusedRestore

namespace LicoMesh.RestoreTransaction

open Library

variable {env : RestoreEnv} {options : RestoreExecutionOptions} {start disk : RestoreDisk}

/-- The disks that a restore can leave when it crashes, and then any number of recoveries;
`allowed` says which disks a crash leaves. -/
inductive CrashedFrom (env : RestoreEnv) (options : RestoreExecutionOptions)
    (allowed : RestoreDisk → Prop) (start : RestoreDisk) : RestoreDisk → Prop
  | before : CrashedFrom env options allowed start start
  | run (order : List TreeEntry) {visited : RestoreDisk}
      (visit : visited ∈ (executeDurableRestoreTransaction env options order start).visits)
      (allows : allowed visited) : CrashedFrom env options allowed start visited
  | recovery (order : List TreeEntry) {disk visited : RestoreDisk}
      (crashed : CrashedFrom env options allowed start disk)
      (visit : visited ∈ (reconcileStorageRestoreTransactions env order disk).visits)
      (allows : allowed visited) : CrashedFrom env options allowed start visited

theorem CrashedFrom.recoverable (fresh : Fresh start) (sound : (planOf options start).Sound env)
    (crashed : CrashedFrom env options HasJournal start disk) :
    Recoverable env (planOf options start) disk := by
  induction crashed with
  | before => exact (fresh.settled options).recoverable
  | run order visit allows =>
    exact (executeDurableRestoreTransaction_triple fresh sound order start rfl).1 _ visit allows
  | recovery order _ visit allows induction =>
    exact (reconcile_triple sound order _ induction).1 _ visit allows

/-- A recovery goes through. All targets have their old content and there is no receipt, or all
have their new content and there is one; a further recovery does nothing. -/
structure Recovers (env : RestoreEnv) (plan : RestorePlan)
    (outcome : Outcome RestoreDisk RestoreError Unit) : Prop where
  succeeds : outcome.result = .ok ()
  allOrNone : (AllOld plan outcome.last ∧ outcome.last.report = none) ∨
    (AllNew plan outcome.last ∧ outcome.last.report = some (.file plan.report))
  idempotent : ∀ order, reconcileStorageRestoreTransactions env order outcome.last =
    ⟨[], .ok (), outcome.last⟩

def createOptions : RestoreExecutionOptions := installOptions false

/-- A database and, before it, a file with the name of its log. -/
def sidecarRecord (relativePath : String) (sqlite : Bool) : RestoreRecord :=
  { installRecord false with relativePath := relativePath, sqlite := sqlite }

def sidecarOptions : RestoreExecutionOptions :=
  { createOptions with records := [sidecarRecord "b.db-wal" false, sidecarRecord "b.db" true] }

def visitsOf (options : RestoreExecutionOptions) : List RestoreDisk :=
  (executeDurableRestoreTransaction sampleRestoreEnv options [.journal] (diskWith none)).visits

def crashAfter (options : RestoreExecutionOptions) (step : Nat) : RestoreDisk :=
  (visitsOf options)[step]?.getD (diskWith none)

theorem crashAfter_crashed
    (within : step < (visitsOf options).length) (allows : allowed (crashAfter options step)) :
    CrashedFrom sampleRestoreEnv options allowed (diskWith none) (crashAfter options step) := by
  apply CrashedFrom.run [.journal] _ allows
  unfold crashAfter
  rw [List.getElem?_eq_getElem within, Option.getD_some]
  exact List.getElem_mem within

theorem createOptions_sound : (planOf createOptions (diskWith none)).Sound sampleRestoreEnv := by
  have only : ∀ record ∈ (planOf createOptions (diskWith none)).records,
      record = normalizeRecord (installRecord false) := fun _ member => List.mem_singleton.mp member
  refine ⟨by decide, ?_, fun _ _ => rfl, ?_⟩
  · intro record member
    rw [only record member, Preimage, if_neg]
    · rfl
    · exact Bool.false_ne_true
  · intro earlier database later split installs
    have member : database ∈ (planOf createOptions (diskWith none)).records := by
      rw [split]
      exact List.mem_append_right _ List.mem_cons_self
    rw [only database member] at installs
    cases installs.2

theorem crashAfter_moved :
    6 < (visitsOf createOptions).length ∧ HasJournal (crashAfter createOptions 6) := by
  unfold HasJournal
  decide +kernel

theorem reconcile_without_journal (pending : disk.pending = none)
    (present : disk.transaction.isSome) (missing : journalOf disk = none) (order : List TreeEntry) :
    reconcileStorageRestoreTransactions env order disk = ⟨[], .error .journalInvalid, disk⟩ := by
  obtain ⟨targets, waiting, transaction, report⟩ := disk
  obtain rfl : waiting = none := pending
  obtain ⟨directory, rfl⟩ : ∃ directory, transaction = some directory :=
    Option.isSome_iff_exists.mp present
  obtain ⟨journal, staged, rollback, receipt⟩ := directory
  obtain rfl : journal = none := missing
  rfl

theorem crashAfter_unjournaled :
    9 < (visitsOf createOptions).length ∧ (crashAfter createOptions 9).pending.isNone ∧
      (crashAfter createOptions 9).transaction.isSome ∧
        (journalOf (crashAfter createOptions 9)).isNone := by
  decide +kernel

def recoveryAfter (disk : RestoreDisk) : Except RestoreError Unit × Nat :=
  let recovery := reconcileStorageRestoreTransactions sampleRestoreEnv [] disk
  (recovery.result, recovery.visits.length)

theorem crashAfter_sidecar :
    10 < (visitsOf sidecarOptions).length ∧ HasJournal (crashAfter sidecarOptions 10) ∧
      recoveryAfter (crashAfter sidecarOptions 10) = (.error .recoveryFailed, 0) := by
  unfold HasJournal
  decide +kernel

end LicoMesh.RestoreTransaction
