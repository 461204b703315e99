import LicoMesh.WorkQueue.Commands

namespace LicoMesh.WorkQueue

open Library Transaction

variable {outcome : ItemOutcome} {env : QueueEnv} {store next : Store}

def QueueCommand.lease? : QueueCommand → Option LeaseInput
  | .complete input => some input.toLeaseInput
  | .retry input => some input.toLeaseInput
  | .progress input => some input.toLeaseInput
  | .checkpoint input => some input.toLeaseInput
  | .cancelRunning input => some input.toLeaseInput
  | .fail input => some
      { nowMs := input.nowMs, workItemId := input.workItemId, leaseId := input.leaseId }
  | .markInDoubt input => some input.toLeaseInput
  | .acknowledgeTermination input => some input.toLeaseInput
  | _ => none

def KeepsLease (after : Store) (row : WorkItemRow) (nowMs : Int) : Prop :=
  ∃ later, after.getWorkItem row.workItemId = some later ∧
    ((later.toWorkItemProjection = row.toWorkItemProjection ∧ later.checkpoint = row.checkpoint) ∨
      (isWorkExpired row nowMs ∧ later.state = .expired))

/-- The command carries a lease that the row does not hold. The two commands for
leases in doubt read the lease id trimmed, and `fail` asks for the lease of an open
item only while it is running. -/
def QueueCommand.IsStale (command : QueueCommand) (row : WorkItemRow) (leaseId : String) : Prop :=
  match command with
  | .fail _ => leaseId ≠ row.leaseId ∧ (isOpen row.state → row.state = .running)
  | .markInDoubt _ | .acknowledgeTermination _ =>
    toText leaseId ≠ "" ∧ toText leaseId ≠ row.leaseId
  | _ => leaseId ≠ row.leaseId

section Outcomes

variable {row : WorkItemRow} {nowMs : Int} (found : store.getWorkItem row.workItemId = some row)
include found

theorem keepsLease_unchanged : KeepsLease store row nowMs := ⟨row, found, .inl ⟨rfl, rfl⟩⟩

theorem keepsLease_expireRow (expired : isWorkExpired row nowMs)
    (commits : (expireRow env row nowMs).Commits store updated next) :
    KeepsLease next row nowMs := by
  obtain ⟨landed, _, projection⟩ := transitionProjection_result ⟨row, found, .refl row⟩ commits
  refine ⟨updated, landed, .inr ⟨expired, ?_⟩⟩
  rw [projection]
  rfl

theorem keepsLease_applied {action : StoreTransaction α}
    (keeps : ∀ result next, action.Commits store result next → KeepsLease next row nowMs) :
    KeepsLease (action.applied store) row nowMs := by
  rcases applied_cases action store with ⟨result, commits⟩ | unchanged
  · exact keeps _ _ commits
  · rw [unchanged]
    exact keepsLease_unchanged found

omit found

theorem not_holdsLease (found : store.getWorkItem (toText workItemId) = some row)
    (stale : leaseId ≠ row.leaseId) : ¬ HoldsLease store workItemId leaseId nowMs leased := by
  intro lease
  have same : leased = row := Option.some.inj (lease.found.symm.trans found)
  exact stale (same ▸ lease.current.symm)

theorem withLeasedRow_keepsLease (found : store.getWorkItem (toText input.workItemId) = some row)
    (stale : input.leaseId ≠ row.leaseId)
    (commits : (withLeasedRow env input onExpired settle).Commits store result next) :
    KeepsLease next row input.nowMs := by
  rcases withLeasedRow_cases commits with
    ⟨current, _, present, expired, expiry, _⟩ | ⟨leased, lease, _⟩
  · have same : current = row := Option.some.inj (present.symm.trans found)
    subst same
    exact keepsLease_expireRow (by rw [Store.id_of_getWorkItem found]; exact found) expired expiry
  · exact absurd lease (not_holdsLease found stale)

end Outcomes

section Each

variable {row : WorkItemRow}

theorem complete_keepsLease (found : store.getWorkItem (toText input.workItemId) = some row)
    (stale : input.leaseId ≠ row.leaseId)
    (commits : (complete env input).Commits store outcome next) :
    KeepsLease next row input.nowMs := by
  replace commits := commits_get_bind.mp commits
  split at commits
  · obtain ⟨_, rfl⟩ := commits_pure.mp commits
    exact keepsLease_unchanged (by rw [Store.id_of_getWorkItem found]; exact found)
  · exact withLeasedRow_keepsLease found stale commits

theorem cancelRunning_keepsLease (found : store.getWorkItem (toText input.workItemId) = some row)
    (stale : input.leaseId ≠ row.leaseId)
    (commits : (cancelRunning env input).Commits store outcome next) :
    KeepsLease next row input.nowMs := by
  replace commits := commits_get_bind.mp commits
  split at commits
  · obtain ⟨_, rfl⟩ := commits_pure.mp commits
    exact keepsLease_unchanged (by rw [Store.id_of_getWorkItem found]; exact found)
  · exact withLeasedRow_keepsLease found stale commits

theorem not_checkpoint_commits (found : store.getWorkItem (toText input.workItemId) = some row)
    (stale : input.leaseId ≠ row.leaseId) :
    ¬ (checkpoint env input).Commits store outcome next := by
  intro commits
  obtain ⟨leased, _, required, _⟩ := commits_bind.mp commits
  exact not_holdsLease found stale (requireLeasedRow_commits.mp required).1

theorem fail_keepsLease (found : store.getWorkItem (toText input.workItemId) = some row)
    (stale : input.leaseId ≠ row.leaseId) (fenced : isOpen row.state → row.state = .running)
    (commits : (fail env input).Commits store outcome next) : KeepsLease next row input.nowMs := by
  obtain ⟨current, _, required, commits⟩ := commits_bind.mp commits
  obtain ⟨present, _, rfl⟩ := requireWorkItemBoundary_commits required
  have same : current = row := Option.some.inj (present.symm.trans found)
  subst same
  split at commits
  · exact absurd commits commits_throw
  · rename_i open?
    split at commits
    · rename_i expired
      simp only [commits_bind, commits_pure] at commits
      obtain ⟨_, _, expiry, _, rfl⟩ := commits
      exact keepsLease_expireRow (by rw [Store.id_of_getWorkItem found]; exact found) expired expiry
    · obtain ⟨leased, _, fencing, commits⟩ := commits_bind.mp commits
      obtain ⟨rfl, rfl, needsLease⟩ := fencedForFail_commits found fencing
      by_cases running : current.state = .running
      · exact absurd (needsLease running) (not_holdsLease found stale)
      · -- Behind the lease check only a failed item is left, and it cannot fail again.
        obtain ⟨_, _, transitioned, _⟩ := commits_bind.mp commits
        have legal := transitionProjection_legal (isCurrent_of_found found) transitioned
        exfalso
        revert legal open? running fenced
        cases current.state <;> decide

theorem markInDoubt_unchanged (found : store.getWorkItem (toText input.workItemId) = some row)
    (named : toText input.leaseId ≠ "") (stale : toText input.leaseId ≠ row.leaseId)
    (commits : (markInDoubt env input).Commits store outcome next) : store = next := by
  replace commits := commits_get_bind.mp commits
  simp only [found] at commits
  split at commits
  · exact (commits_pure.mp commits).2
  · split at commits
    · exact (commits_pure.mp commits).2
    · rw [if_pos ⟨named, stale.symm⟩] at commits
      exact absurd commits commits_throw

theorem acknowledgeTermination_unchanged {outcome : AcknowledgeOutcome}
    (found : store.getWorkItem (toText input.workItemId) = some row)
    (named : toText input.leaseId ≠ "") (stale : toText input.leaseId ≠ row.leaseId)
    (commits : (acknowledgeTermination env input).Commits store outcome next) : store = next := by
  replace commits := commits_get_bind.mp commits
  simp only [found] at commits
  split at commits
  · exact (commits_pure.mp commits).2
  · rw [if_pos ⟨named, stale.symm⟩] at commits
    exact absurd commits commits_throw

end Each

theorem applyCommand_keepsLease {row : WorkItemRow} (named : command.lease? = some lease)
    (found : store.getWorkItem (toText lease.workItemId) = some row)
    (stale : command.IsStale row lease.leaseId) :
    KeepsLease (applyCommand env store command) row lease.nowMs := by
  have present : store.getWorkItem row.workItemId = some row := by
    rw [Store.id_of_getWorkItem found]
    exact found
  cases command with
  | complete input =>
    cases named
    exact keepsLease_applied present fun _ _ => complete_keepsLease found stale
  | retry input =>
    cases named
    exact keepsLease_applied present fun _ _ => withLeasedRow_keepsLease found stale
  | progress input =>
    cases named
    exact keepsLease_applied present fun _ _ => withLeasedRow_keepsLease found stale
  | checkpoint input =>
    cases named
    exact keepsLease_applied present fun _ _ commits =>
      absurd commits (not_checkpoint_commits found stale)
  | cancelRunning input =>
    cases named
    exact keepsLease_applied present fun _ _ => cancelRunning_keepsLease found stale
  | fail input =>
    cases named
    exact keepsLease_applied present fun _ _ => fail_keepsLease found stale.1 stale.2
  | markInDoubt input =>
    cases named
    refine keepsLease_applied present fun _ _ commits => ?_
    rw [← markInDoubt_unchanged found stale.1 stale.2 commits]
    exact keepsLease_unchanged present
  | acknowledgeTermination input =>
    cases named
    refine keepsLease_applied present fun _ _ commits => ?_
    rw [← acknowledgeTermination_unchanged found stale.1 stale.2 commits]
    exact keepsLease_unchanged present
  | _ => cases named

theorem runCommands_keepsLease (env : QueueEnv) (commands : List QueueCommand)
    (command : QueueCommand) (lease : LeaseInput) (row : WorkItemRow)
    (named : command.lease? = some lease)
    (found : (runCommands env .empty commands).getWorkItem (toText lease.workItemId) = some row)
    (stale : command.IsStale row lease.leaseId) :
    KeepsLease (applyCommand env (runCommands env .empty commands) command) row lease.nowMs :=
  applyCommand_keepsLease named found stale

def handedBackRun : List QueueCommand :=
  [.enqueue (sampleEnqueue "item" "tenant" 0 10), .claim (sampleClaim leaseA 1 20),
    .retry { toLeaseInput := sampleLease "item" leaseA 30, delayMs := some 0 }]

theorem handedBackRun_keepsLease : ∃ row, (runCommands (sampleEnv .sqlite defaultQueuePolicy) .empty
        handedBackRun).getWorkItem "item" = some row ∧
      KeepsLease (applyCommand (sampleEnv .sqlite defaultQueuePolicy)
        (runCommands (sampleEnv .sqlite defaultQueuePolicy) .empty handedBackRun)
        (.complete { toLeaseInput := sampleLease "item" leaseA 40 })) row 40 := by
  obtain ⟨row, found, unleased⟩ : ∃ row,
      (runCommands (sampleEnv .sqlite defaultQueuePolicy) .empty handedBackRun).getWorkItem
        "item" = some row ∧ row.leaseId = "" := by
    refine Option.map_eq_some_iff.mp ?_
    decide +kernel
  refine ⟨row, found, runCommands_keepsLease _ _ _ (sampleLease "item" leaseA 40) row rfl ?_ ?_⟩
  · exact found
  · show leaseA.val ≠ row.leaseId
    rw [unleased]
    decide

def FencesEveryState (env : QueueEnv) (commands : List QueueCommand) : Prop :=
  ∀ command lease row, QueueCommand.lease? command = some lease →
    (runCommands env .empty commands).getWorkItem (toText lease.workItemId) = some row →
    lease.leaseId ≠ "" → lease.leaseId ≠ row.leaseId →
    KeepsLease (applyCommand env (runCommands env .empty commands) command) row lease.nowMs

theorem not_fencesEveryState {command : QueueCommand} {lease : LeaseInput} {held : String}
    {before after : WorkQueueState} (named : command.lease? = some lease)
    (found : ((runCommands env .empty commands).getWorkItem (toText lease.workItemId)).map
      (fun row => (row.leaseId, row.state)) = some (held, before))
    (landed : ((applyCommand env (runCommands env .empty commands) command).getWorkItem
      (toText lease.workItemId)).map (fun row => row.state) = some after)
    (nonempty : lease.leaseId ≠ "") (stale : lease.leaseId ≠ held) (moved : after ≠ before)
    (unexpired : after ≠ .expired) : ¬ FencesEveryState env commands := by
  intro fences
  obtain ⟨row, hrow, columns⟩ := Option.map_eq_some_iff.mp found
  cases columns
  obtain ⟨later, hlater, state⟩ := Option.map_eq_some_iff.mp landed
  cases state
  obtain ⟨final, hfinal, outcome⟩ := fences command lease row named hrow nonempty stale
  rw [Store.id_of_getWorkItem hrow, hlater] at hfinal
  cases hfinal
  rcases outcome with ⟨projection, _⟩ | ⟨_, expired⟩
  · exact moved (by rw [projection])
  · exact unexpired expired

/-- The worker of the first lease fails the item it handed back, and a padded lease
id is read without its padding. -/
theorem handedBackRun_not_fenced :
    ¬ FencesEveryState (sampleEnv .sqlite defaultQueuePolicy) handedBackRun ∧
      ¬ FencesEveryState (sampleEnv .sqlite defaultQueuePolicy) (handedBackRun.take 2) := by
  refine ⟨?_, ?_⟩
  · exact @not_fencesEveryState _ _
      (.fail { nowMs := 40, workItemId := "item", leaseId := leaseA.val }) _ "" .queued .failed
      rfl (by decide +kernel) (by decide +kernel) (by decide) (by decide) (by decide) (by decide)
  · exact @not_fencesEveryState _ _
      (.markInDoubt { nowMs := 30, workItemId := "item", leaseId := " lease-a " }) _ leaseA.val
      .running .inDoubt rfl (by decide +kernel) (by decide +kernel) (by decide) (by decide)
      (by decide) (by decide)

end LicoMesh.WorkQueue
