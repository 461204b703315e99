import LicoMesh.WorkQueue.Sweeps

namespace LicoMesh.WorkQueue

open Library Transaction

variable {result row : WorkItemRow} {transition : WorkQueueTransition} {toState : WorkQueueState}
  {patch : ProjectionPatch} {dryRun : Option Bool} {command : QueueCommand} {workItemId : String}
  {nowMs : Int} {start : Store} {input : EnqueueInput} {outcome : ItemOutcome}

/-- Commands that settle items in doubt from recorded receipts. -/
def QueueCommand.reconciles : QueueCommand → Bool
  | .claim _ | .reconcileInDoubt _ => true
  | _ => false

def QueueCommand.settles : QueueCommand → Bool
  | .complete _ | .retry _ | .progress _ | .expire _ | .cancel _ | .cancelRunning _ | .fail _
  | .markInDoubt _ | .acknowledgeTermination _ | .recordSinkReceipt _ => true
  | _ => false

theorem not_reconciles_of_settles (settles : command.settles) : command.reconciles = false := by
  cases command <;> first | rfl | cases settles

inductive SweepMove (state : Store) (row : WorkItemRow) :
    WorkQueueTransition → WorkQueueState → Prop
  | expire : SweepMove state row .expire .expired
  | leaseExpired : SweepMove state row .leaseExpired .inDoubt
  | receipt {receipt : SinkFence} (found : terminalReceipt state row = some receipt) :
      SweepMove state row .terminationAcknowledged (receiptState receipt)
  | mature : SweepMove state row .delayMatured .queued
  | exhaust (claimable : row.state.isClaimable) : SweepMove state row .fail .failed
  | lease : SweepMove state row .claim .running

variable {env : QueueEnv}

structure HoldsLease (store : Store) (workItemId leaseId : String) (nowMs : Int)
    (row : WorkItemRow) : Prop where
  found : store.getWorkItem (toText workItemId) = some row
  running : row.state = .running
  named : leaseId ≠ ""
  current : row.leaseId = leaseId
  unexpired : ¬ (0 < row.leaseExpiresAtMs ∧ row.leaseExpiresAtMs ≤ nowMs)

theorem requireLeasedRow_commits :
    (requireLeasedRow workItemId leaseId nowMs).Commits store row next ↔
      HoldsLease store workItemId leaseId nowMs row ∧ store = next := by
  unfold requireLeasedRow
  simp only [commits_bind, commits_get]
  constructor
  · rintro ⟨_, _, ⟨rfl, rfl⟩, commits⟩
    split at commits
    · exact absurd commits commits_throw
    · rename_i found
      split at commits
      · exact absurd commits commits_throw
      · rename_i running
        split at commits
        · exact absurd commits commits_throw
        · rename_i fence
          split at commits
          · exact absurd commits commits_throw
          · rename_i unexpired
            obtain ⟨rfl, rfl⟩ := commits_pure.mp commits
            simp only [not_or, not_not] at fence
            exact ⟨⟨found, by simpa using running, fence.1, fence.2, unexpired⟩, rfl⟩
  · rintro ⟨lease, rfl⟩
    refine ⟨store, store, ⟨rfl, rfl⟩, ?_⟩
    simp [lease.found, lease.running, lease.named, lease.current, lease.unexpired]

def CheckpointInput.Records (env : QueueEnv) (store : Store) (input : CheckpointInput) : Prop :=
  ∃ row normalized, HoldsLease store input.workItemId input.leaseId input.nowMs row ∧
    requireProjectionRow env row = .ok () ∧
    normalizeCheckpointRef env.sha256 input.checkpointRef = .ok normalized ∧
    row.checkpoint.digest ≠ normalized.checkpointDigest ∧
    ∀ expected, input.expectedCheckpointSeq = some expected → expected = (row.checkpoint.seq : Int)

def ClaimInput.ReachesAging (env : QueueEnv) (input : ClaimInput)
    (definition : ResolvedQueueDefinition) (start prepared : Store) : Prop :=
  ∃ sweeps swept matured,
    (sweepBeforeClaim env input definition.queueDefinitionId).Commits start sweeps swept ∧
      isHeld (swept.getQueueControl definition.queueDefinitionId input.resolvedScopeKey) = none ∧
      (materializeDelayedLocked env input.nowMs definition.queueDefinitionId
        input.recoveryScopeKey input.sweepLimit).Commits swept matured prepared

def ClaimInput.Ages (env : QueueEnv) (input : ClaimInput) (start : Store) (row : WorkItemRow)
    (priorityClass : WorkQueuePriorityClass) : Prop :=
  ∃ definition prepared policy, resolveQueueDefinition input.queue false true = .ok definition ∧
      input.ReachesAging env definition start prepared ∧
      getPolicy (overridePolicy env.resolvedPolicy
        (prepared.getLatestDefinitionPolicy definition.queueDefinitionId
          definition.queueDefinitionVersion)) = .ok policy ∧
      row ∈ prepared.agedCandidates definition.queueDefinitionId
        definition.queueDefinitionVersion input.resolvedScopeKey
        (input.nowMs - policy.fairness.agingIntervalMs.val) policy.fairness.agingBatchSize.val ∧
      priorityClass = agedWorkQueuePriorityClass row.priority row.availableAtMs input.nowMs
        policy.fairness.agingIntervalMs.val ∧ priorityClass ≠ row.priorityClass

/-- The effects a command may have, started in the store `start`. -/
def Permits (env : QueueEnv) (start : Store) (command : QueueCommand) (state : Store) :
    Effect → Prop
  | .enroll row policy _ => state = start ∧ ∃ input admission, command = .enqueue input ∧
      input.admission env = .ok admission ∧ row = admission.row ∧ policy = admission.policy
  | .move row transition toState _ _ =>
    (transition = .recover → state = start ∧ ∃ input, command = .recover input ∧
      row.workItemId = toText input.workItemId) ∧
    (command.reconciles → SweepMove state row transition toState)
  | .checkpoint _ _ _ => ∃ input, command = .checkpoint input ∧ input.Records env start
  | .promote row priorityClass _ => ∃ input, command = .claim input ∧
      input.Ages env start row priorityClass ∧ state.virtualFinish = start.virtualFinish
  | .serve _ => ∃ input, command = .claim input
  | .fence _ | .idle _ _ => command.settles
  | .define definition => ∃ input, command = .registerQueueDefinition input ∧
      definition = input.snapshot
  | .rebuild => ∃ dryRun, command = .rebuildProjection dryRun
  | .compact _ _ | .retire _ | .touch _ _ _ | .bookkeep => True

section Settling

variable {permitted : Store → Effect → Prop} {store next : Store}

structure MaySettle (permitted : Store → Effect → Prop) : Prop where
  retention : ∀ state effect, effect.IsRetention → permitted state effect
  move : ∀ state row transition toState patch nowMs, transition ≠ .recover →
    permitted state (.move row transition toState patch nowMs)
  idle : ∀ state queueDefinitionId scopeKey, permitted state (.idle queueDefinitionId scopeKey)
  fence : ∀ state fence, permitted state (.fence fence)

theorem permits_retention :
    ∀ state effect, effect.IsRetention → Permits env start command state effect := by
  intro state effect retention
  cases effect <;> trivial

theorem permits_maySettle (settles : command.settles) : MaySettle (Permits env start command) where
  retention := permits_retention
  move := by
    intro state row transition toState patch nowMs unrecovered
    refine ⟨fun recovers => absurd recovers unrecovered, fun reconciles => ?_⟩
    rw [not_reconciles_of_settles settles] at reconciles
    cases reconciles
  idle _ _ _ := settles
  fence _ _ := settles

theorem isCurrent_of_found (found : store.getWorkItem workItemId = some row) :
    row.IsCurrent store :=
  ⟨row, by rw [Store.id_of_getWorkItem found]; exact found, .refl row⟩

namespace MaySettle

theorem release_path (may : MaySettle permitted) (current : row.IsCurrent store)
    (releases : ∀ live, row.SameItem live → patch.Releases live)
    (unleased : toState.isLeased = false) (unclaimed : transition ≠ .claim)
    (unrecovered : transition ≠ .recover)
    (commits : (transitionProjection env row transition toState patch nowMs).Commits store
      result next) : Path (Step env) permitted store next :=
  transitionProjection_path current
    (.released may.retention (fun _ _ => may.move _ _ _ _ _ _ unrecovered) unleased unclaimed
      unrecovered releases)
    (fun _ _ _ _ => may.idle _ _ _) commits

theorem expire_path (may : MaySettle permitted) (current : row.IsCurrent store)
    (commits : (expireRow env row nowMs).Commits store result next) :
    Path (Step env) permitted store next :=
  may.release_path current (fun live _ => releasedAt_releases live nowMs) rfl (by decide)
    (by decide) commits

theorem fence_path {fence : SinkFence} (may : MaySettle permitted)
    (commits : (modify fun state : Store => state.insertSinkFence fence :
      StoreTransaction PUnit).Commits store done next) : Path (Step env) permitted store next := by
  have written := commits_modify.mp commits
  exact written ▸ .single (may.fence _ _) .fence

end MaySettle

theorem releasedWith_releases (row : WorkItemRow) (nowMs : Int) (lastError : Json) :
    (releasedWith nowMs lastError).Releases row :=
  ⟨rfl, rfl, rfl, .inl rfl, rfl⟩

variable {input : LeaseInput}

theorem withLeasedRow_cases {α : Type} {onExpired : WorkItemRow → α}
    {settle : WorkItemRow → StoreTransaction α} {result : α}
    (commits : (withLeasedRow env input onExpired settle).Commits store result next) :
    (∃ current updated, store.getWorkItem (toText input.workItemId) = some current ∧
      isWorkExpired current input.nowMs ∧
      (expireRow env current input.nowMs).Commits store updated next ∧ result = onExpired updated) ∨
    ∃ row, HoldsLease store input.workItemId input.leaseId input.nowMs row ∧
      (settle row).Commits store result next := by
  unfold withLeasedRow at commits
  replace commits := commits_get_bind.mp commits
  split at commits
  · rename_i current past
    simp only [commits_bind, commits_check, commits_pure] at commits
    obtain ⟨_, _, ⟨_, rfl⟩, updated, _, expiry, rfl, rfl⟩ := commits
    obtain ⟨found, expired⟩ := Option.filter_eq_some_iff.mp past
    exact .inl ⟨current, updated, found, expired, expiry, rfl⟩
  · simp only [commits_bind, commits_check] at commits
    obtain ⟨row, _, leased, _, _, ⟨_, rfl⟩, settled⟩ := commits
    obtain ⟨lease, rfl⟩ := requireLeasedRow_commits.mp leased
    exact .inr ⟨row, lease, settled⟩

theorem withLeasedRow_path {α : Type} {onExpired : WorkItemRow → α}
    {settle : WorkItemRow → StoreTransaction α} {result : α} (may : MaySettle permitted)
    (settles : ∀ {row result after},
      HoldsLease store input.workItemId input.leaseId input.nowMs row →
      (settle row).Commits store result after → Path (Step env) permitted store after)
    (commits : (withLeasedRow env input onExpired settle).Commits store result next) :
    Path (Step env) permitted store next := by
  rcases withLeasedRow_cases commits with
    ⟨current, _, found, _, expiry, _⟩ | ⟨row, lease, settled⟩
  · exact may.expire_path (isCurrent_of_found found) expiry
  · exact settles lease settled

end Settling

section LeaseCommands

variable {permitted : Store → Effect → Prop} {store next : Store}

theorem HoldsLease.isCurrent
    (lease : HoldsLease store workItemId leaseId nowMs row) : row.IsCurrent store :=
  isCurrent_of_found lease.found

theorem complete_path {input : CompleteInput} (may : MaySettle permitted)
    (commits : (complete env input).Commits store outcome next) :
    Path (Step env) permitted store next := by
  replace commits := commits_get_bind.mp commits
  split at commits
  · exact path_pure commits
  · refine withLeasedRow_path may ?_ commits
    intro row result after lease settled
    simp only [commits_bind, commits_pure] at settled
    obtain ⟨_, _, transitioned, _, _, fenced, _, rfl⟩ := settled
    exact (may.release_path lease.isCurrent (fun live _ => releasedWith_releases live _ _) rfl
      (by decide) (by decide) transitioned).trans (may.fence_path fenced)

theorem cancelRunning_path {input : CancelRunningInput} (may : MaySettle permitted)
    (commits : (cancelRunning env input).Commits store outcome next) :
    Path (Step env) permitted store next := by
  replace commits := commits_get_bind.mp commits
  split at commits
  · exact path_pure commits
  · refine withLeasedRow_path may ?_ commits
    intro row result after lease settled
    simp only [commits_bind, commits_pure] at settled
    obtain ⟨_, _, transitioned, _, rfl⟩ := settled
    exact may.release_path lease.isCurrent (fun live _ => releasedWith_releases live _ _) rfl
      (by decide) (by decide) transitioned

theorem attemptState_unleased (row : WorkItemRow) (given : Option Int) :
    (attemptState env row given).isLeased = false := by
  unfold attemptState delayedState
  split
  · rfl
  · split <;> rfl

theorem retry_path {input : RetryInput} {outcome : RetryOutcome} (may : MaySettle permitted)
    (commits : (retry env input).Commits store outcome next) :
    Path (Step env) permitted store next := by
  refine withLeasedRow_path may ?_ commits
  intro row result after lease settled
  simp only at settled
  split at settled
  · simp only [commits_bind, commits_pure] at settled
    obtain ⟨_, _, expiry, _, rfl⟩ := settled
    exact may.expire_path lease.isCurrent expiry
  · simp only [commits_bind, commits_pure] at settled
    obtain ⟨_, _, transitioned, _, rfl⟩ := settled
    exact may.release_path lease.isCurrent (fun live _ => releasedWith_releases live _ _)
      (attemptState_unleased row _) (by decide) (by decide) transitioned

theorem progress_path {input : ProgressInput} (may : MaySettle permitted)
    (commits : (progress env input).Commits store outcome next) :
    Path (Step env) permitted store next := by
  refine withLeasedRow_path may ?_ commits
  intro row result after lease settled
  simp only [commits_bind, commits_pure] at settled
  obtain ⟨_, _, transitioned, _, rfl⟩ := settled
  refine transitionProjection_path lease.isCurrent ⟨may.retention, ?_⟩
    (fun _ _ _ _ => may.idle _ _ _) transitioned
  intro room live _ _ _ same
  refine ⟨may.move _ _ _ _ _ _ (by decide), .renewed _ ?_⟩
  rw [← same.request]
  exact boundedLeaseExpiry_le

theorem recordCheckpoint_path
    (retention : ∀ state effect, effect.IsRetention → permitted state effect)
    (permission : ∀ checkpoint, permitted store (.checkpoint row checkpoint nowMs))
    (found : store.getWorkItem row.workItemId = some row) (running : row.state = .running)
    (commits : (recordCheckpoint env row normalized nowMs).Commits store outcome next) :
    Path (Step env) permitted store next := by
  unfold recordCheckpoint at commits
  simp only [commits_bind, commits_get, commits_set] at commits
  obtain ⟨_, _, ⟨rfl, rfl⟩, _, _, rfl, commits⟩ := commits
  have updated : ∀ checkpoint, (store.updateCheckpoint row.workItemId checkpoint
      nowMs).getWorkItem row.workItemId =
        some { row with checkpoint, updatedAtMs := nowMs } := by
    intro checkpoint
    unfold Store.updateCheckpoint
    rw [Store.getWorkItem_modifyWorkItem, if_pos rfl, found]
    rfl
  rw [updated] at commits
  simp only [commits_bind, commits_get, commits_pure] at commits
  obtain ⟨_, _, appended, _, _, ⟨rfl, rfl⟩, _, rfl⟩ := commits
  obtain ⟨_, housekeeping⟩ := appendTransitionInternal_cases appended
  exact .step _ (permission _) (.checkpoint found running)
    (housekeeping.mono fun _ effect h => retention _ effect h.isRetention)

theorem checkpoint_path {input : CheckpointInput}
    (commits : (checkpoint env input).Commits store outcome next) :
    Path (Step env) (Permits env store (.checkpoint input)) store next := by
  unfold checkpoint at commits
  simp only [commits_bind, commits_check] at commits
  obtain ⟨row, _, leased, _, _, ⟨complete, rfl⟩, normalized, _, ⟨valid, rfl⟩, commits⟩ := commits
  obtain ⟨lease, rfl⟩ := requireLeasedRow_commits.mp leased
  split at commits
  · exact path_pure commits
  · rename_i changed
    split at commits
    · exact absurd commits commits_throw
    · rename_i expected
      have records : input.Records env store := by
        refine ⟨row, normalized, lease, complete, valid, changed, ?_⟩
        intro seq given
        rw [given] at expected
        simpa using expected
      have found : store.getWorkItem row.workItemId = some row := by
        rw [Store.id_of_getWorkItem lease.found]
        exact lease.found
      exact recordCheckpoint_path permits_retention (fun _ => ⟨input, rfl, records⟩) found
        lease.running commits

end LeaseCommands

section BoundaryCommands

variable {permitted : Store → Effect → Prop} {store next : Store}

theorem requireWorkItemBoundary_commits {input : BoundaryInput}
    (commits : (requireWorkItemBoundary input).Commits store row next) :
    store.getWorkItem (toText input.workItemId) = some row ∧
      workItemMatchesBoundary row input ∧ store = next := by
  replace commits := commits_get_bind.mp commits
  split at commits
  · rename_i found
    split at commits
    · rename_i boundary
      obtain ⟨rfl, rfl⟩ := commits_pure.mp commits
      exact ⟨found, boundary, rfl⟩
    · exact absurd commits commits_throw
  · exact absurd commits commits_throw

theorem expire_path {input : ExpireInput} (may : MaySettle permitted)
    (commits : (expire env input).Commits store outcome next) :
    Path (Step env) permitted store next := by
  obtain ⟨row, _, required, commits⟩ := commits_bind.mp commits
  obtain ⟨found, _, rfl⟩ := requireWorkItemBoundary_commits required
  split at commits
  · exact path_pure commits
  · split at commits
    · exact path_pure commits
    · simp only [commits_bind, commits_pure] at commits
      obtain ⟨_, _, expiry, _, rfl⟩ := commits
      exact may.expire_path (isCurrent_of_found found) expiry

theorem cancel_path {input : CancelInput} (may : MaySettle permitted)
    (commits : (cancel env input).Commits store outcome next) :
    Path (Step env) permitted store next := by
  unfold cancel at commits
  obtain ⟨row, _, required, commits⟩ := commits_bind.mp commits
  obtain ⟨found, _, rfl⟩ := requireWorkItemBoundary_commits required
  split at commits
  · exact path_pure commits
  · split at commits
    · exact path_pure commits
    · split at commits
      · simp only [commits_bind, commits_pure] at commits
        obtain ⟨_, _, expiry, _, rfl⟩ := commits
        exact may.expire_path (isCurrent_of_found found) expiry
      · split at commits
        · simp only [commits_bind, commits_pure] at commits
          obtain ⟨_, _, transitioned, _, rfl⟩ := commits
          exact may.release_path (isCurrent_of_found found)
            (fun live _ => releasedWith_releases live _ _) rfl (by decide) (by decide)
            transitioned
        · exact absurd commits commits_throw

variable {input : FailInput}

theorem fencedForFail_commits (found : store.getWorkItem (toText input.workItemId) = some current)
    (commits : (fencedForFail env input current).Commits store row next) :
    current = row ∧ store = next ∧ (current.state = .running →
        HoldsLease store input.workItemId input.leaseId input.nowMs current) := by
  unfold fencedForFail at commits
  split at commits
  · simp only [commits_bind, commits_check, commits_pure] at commits
    obtain ⟨leased, _, required, _, _, ⟨_, rfl⟩, rfl, rfl⟩ := commits
    obtain ⟨lease, rfl⟩ := requireLeasedRow_commits.mp required
    have same : leased = current := by
      have both := lease.found.symm.trans found
      exact Option.some.inj both
    subst same
    exact ⟨rfl, rfl, fun _ => lease⟩
  · rename_i running
    obtain ⟨rfl, rfl⟩ := commits_pure.mp commits
    exact ⟨rfl, rfl, fun h => absurd h running⟩

theorem fail_path (may : MaySettle permitted)
    (commits : (fail env input).Commits store outcome next) :
    Path (Step env) permitted store next := by
  unfold fail at commits
  obtain ⟨current, _, required, commits⟩ := commits_bind.mp commits
  obtain ⟨found, _, rfl⟩ := requireWorkItemBoundary_commits required
  split at commits
  · exact absurd commits commits_throw
  · split at commits
    · simp only [commits_bind, commits_pure] at commits
      obtain ⟨_, _, expiry, _, rfl⟩ := commits
      exact may.expire_path (isCurrent_of_found found) expiry
    · simp only [commits_bind, commits_pure] at commits
      obtain ⟨row, _, fenced, _, _, transitioned, _, _, written, _, rfl⟩ := commits
      obtain ⟨rfl, rfl, _⟩ := fencedForFail_commits found fenced
      exact (may.release_path (isCurrent_of_found found)
        (fun live _ => ⟨rfl, rfl, rfl, .inl rfl, rfl⟩) rfl (by decide) (by decide)
        transitioned).trans (may.fence_path written)

theorem recover_path {input : RecoverInput}
    (commits : (recover env input).Commits store outcome next) :
    Path (Step env) (Permits env store (.recover input)) store next := by
  obtain ⟨row, _, required, commits⟩ := commits_bind.mp commits
  obtain ⟨found, _, rfl⟩ := requireWorkItemBoundary_commits required
  split at commits
  · exact absurd commits commits_throw
  · simp only [commits_bind, commits_get, commits_check, commits_pure] at commits
    obtain ⟨_, _, ⟨rfl, rfl⟩, policy, _, ⟨resolved, rfl⟩, _, _, ⟨admitted, rfl⟩, _, _,
      transitioned, _, rfl⟩ := commits
    refine transitionProjection_path (isCurrent_of_found found) ⟨permits_retention, ?_⟩
      (fun _ _ _ terminal => by cases terminal) transitioned
    intro room live _ unlessFailed _ same
    have here := unlessFailed (by decide)
    subst here
    have named : live.workItemId = toText input.workItemId :=
      same.workItemId.symm.trans (Store.id_of_getWorkItem found)
    refine ⟨⟨fun _ => ⟨rfl, input, rfl, named⟩, fun reconciles => by cases reconciles⟩,
      .released _ _ _ rfl (by decide) ⟨rfl, rfl, rfl, .inr ?_, rfl⟩ ?_⟩
    · rw [← same.projection]
      rfl
    · intro _
      refine ⟨policy, ?_, ?_⟩
      · unfold policyForRow at resolved ⊢
        rw [← same.request]
        exact resolved
      · rw [← same.request]
        exact admitted

end BoundaryCommands

section DoubtCommands

variable {permitted : Store → Effect → Prop} {store next : Store}

theorem markInDoubt_path {input : MarkInDoubtInput} (may : MaySettle permitted)
    (commits : (markInDoubt env input).Commits store outcome next) :
    Path (Step env) permitted store next := by
  replace commits := commits_get_bind.mp commits
  split at commits
  · exact absurd commits commits_throw
  · rename_i row found
    simp only at commits
    split at commits
    · exact path_pure commits
    · split at commits
      · exact path_pure commits
      · split at commits
        · exact absurd commits commits_throw
        · simp only [commits_bind, commits_pure] at commits
          obtain ⟨_, _, transitioned, _, rfl⟩ := commits
          exact transitionProjection_path (isCurrent_of_found found)
            ⟨may.retention, fun _ _ _ _ => ⟨may.move _ _ _ _ _ _ (by decide),
              .doubted _ _ (.inl rfl)⟩⟩
            (fun _ _ _ _ => may.idle _ _ _) transitioned

theorem settlementTarget_unleased {toState : String}
    (requested : requestedSettlement toState = some settlement) :
    (settlementTarget env row given settlement).1.isLeased = false := by
  cases settlement with
  | anotherAttempt => exact attemptState_unleased row given
  | settled state =>
    unfold requestedSettlement at requested
    split at requested
    · cases requested
    · split at requested
      · cases requested
        rfl
      · split at requested
        · cases requested
          rfl
        · cases requested

theorem acknowledgeTermination_path {input : AcknowledgeInput} {outcome : AcknowledgeOutcome}
    (may : MaySettle permitted)
    (commits : (acknowledgeTermination env input).Commits store outcome next) :
    Path (Step env) permitted store next := by
  replace commits := commits_get_bind.mp commits
  split at commits
  · exact absurd commits commits_throw
  · rename_i row found
    simp only at commits
    split at commits
    · exact path_pure commits
    · split at commits
      · exact absurd commits commits_throw
      · split at commits
        · exact absurd commits commits_throw
        · rename_i settlement requested
          unfold acknowledgeRow at commits
          simp only [commits_bind, commits_pure] at commits
          obtain ⟨_, middle, transitioned, _, _, fenced, _, rfl⟩ := commits
          have moved := may.release_path (isCurrent_of_found found)
            (fun live _ => releasedWith_releases live _ _) (settlementTarget_unleased requested)
            (by decide) (by decide) transitioned
          unfold fenceAcknowledged at fenced
          split at fenced
          · exact moved.trans (may.fence_path fenced)
          · obtain ⟨_, rfl⟩ := commits_pure.mp fenced
            exact moved

theorem recordSinkReceipt_path {input : SinkReceiptInput} {outcome : SinkReceiptOutcome}
    (may : MaySettle permitted) (commits : (recordSinkReceipt input).Commits store outcome next) :
    Path (Step env) permitted store next := by
  unfold recordSinkReceipt at commits
  simp only [commits_bind, commits_get, commits_set, commits_pure] at commits
  obtain ⟨_, _, ⟨rfl, rfl⟩, _, _, rfl, _, rfl⟩ := commits
  exact .single (may.fence _ _) .fence

theorem permits_sweepMove (move : SweepMove state row transition toState) :
    Permits env start command state (.move row transition toState patch nowMs) := by
  refine ⟨?_, fun _ => move⟩
  rintro rfl
  cases move

theorem reconcileInDoubt_path {input : ReconcileInput}
    (commits : (reconcileInDoubt env input).Commits store settled next) :
    Path (Step env) (Permits env store (.reconcileInDoubt input)) store next := by
  unfold reconcileInDoubt at commits
  simp only at commits
  split at commits
  · exact reconcileInDoubtLocked_path permits_retention (fun _ _ _ _ found =>
      permits_sweepMove (.receipt found)) commits
  · exact reconcileInDoubtLocked_path permits_retention (fun _ _ _ _ found =>
      permits_sweepMove (.receipt found)) commits

end DoubtCommands

section QueueCommands

variable {store next : Store}

theorem permits_mayClaim {input : ClaimInput} :
    MayClaim (Permits env store (.claim input)) input.nowMs where
  retention := permits_retention
  expire _ _ _ := permits_sweepMove .expire
  leaseExpired _ _ _ := permits_sweepMove .leaseExpired
  receipt _ _ _ _ found := permits_sweepMove (.receipt found)
  mature _ _ _ := permits_sweepMove .mature
  serve _ _ := ⟨input, rfl⟩
  exhaust _ _ _ claimable := permits_sweepMove (.exhaust claimable)
  lease _ _ _ := permits_sweepMove .lease

structure ClaimInput.Serves (env : QueueEnv) (input : ClaimInput)
    (definition : ResolvedQueueDefinition) (start prepared aged next : Store)
    (visits : List ClaimVisit) : Prop where
  resolved : resolveQueueDefinition input.queue false true = .ok definition
  reaches : input.ReachesAging env definition start prepared
  promotes : ∃ promoted, (promoteAgedCandidates env definition.queueDefinitionId
    definition.queueDefinitionVersion input.resolvedScopeKey input.nowMs).Commits prepared
      promoted aged
  looped : (claimLoop env input (input.selector definition) input.resolvedBatchSize 0
    (virtualFinishCursor aged (input.selector definition))).Commits aged visits next

structure ClaimInput.IsHeld (env : QueueEnv) (input : ClaimInput)
    (definition : ResolvedQueueDefinition) (start next : Store) : Prop where
  resolved : resolveQueueDefinition input.queue false true = .ok definition
  sweeping : ∃ sweeps, (sweepBeforeClaim env input definition.queueDefinitionId).Commits start
    sweeps next
  held : ∃ control, isHeld (next.getQueueControl definition.queueDefinitionId
    input.resolvedScopeKey) = some control

section

variable {input : ClaimInput} {result : ClaimResult}
  (commits : (claim env input).Commits store result next)
include commits

theorem claim_cases :
    (result.isServed = false ∧ ∃ definition, input.IsHeld env definition store next) ∨
      ∃ definition prepared aged,
        input.Serves env definition store prepared aged next result.visits := by
  unfold claim at commits
  simp only [commits_bind, commits_check, commits_get] at commits
  obtain ⟨definition, _, ⟨resolved, rfl⟩, sweeps, swept, sweeping, _, _, ⟨rfl, rfl⟩, commits⟩ :=
    commits
  split at commits
  · rename_i control held
    obtain ⟨rfl, rfl⟩ := commits_pure.mp commits
    exact .inl ⟨rfl, definition, resolved, ⟨sweeps, sweeping⟩, control, held⟩
  · rename_i active
    unfold matureAndPromote at commits
    simp only [commits_bind, commits_pure, commits_get] at commits
    obtain ⟨_, _, ⟨matured, prepared, maturing, promoted, aged, promoting, rfl, rfl⟩, _, _,
      ⟨rfl, rfl⟩, visits, _, looped, rfl, rfl⟩ := commits
    exact .inr ⟨definition, prepared, aged, resolved,
      ⟨sweeps, swept, matured, sweeping, active, maturing⟩, ⟨promoted, promoting⟩, looped⟩

theorem claim_path : Path (Step env) (Permits env store (.claim input)) store next := by
  have may := @permits_mayClaim env store input
  rcases claim_cases commits with ⟨_, definition, held⟩ | ⟨definition, prepared, aged, serves⟩
  · obtain ⟨sweeps, sweeping⟩ := held.sweeping
    exact sweepBeforeClaim_path may.toMaySweep sweeping
  · have reaches := serves.reaches
    obtain ⟨sweeps, swept, matured, sweeping, active, maturing⟩ := reaches
    obtain ⟨promoted, promoting⟩ := serves.promotes
    have counters := sweeps_virtualFinish sweeping maturing
    have agingPath : Path (Step env) (Permits env store (.claim input)) prepared aged := by
      refine promoteAgedCandidates_path ?_ promoting
      intro policy state row resolvedPolicy candidate same changes
      exact ⟨input, rfl, ⟨definition, prepared, policy, serves.resolved, serves.reaches,
        resolvedPolicy, candidate, rfl, changes⟩, same.trans counters⟩
    exact (sweepBeforeClaim_path may.toMaySweep sweeping).trans
      ((materializeDelayedLocked_path may.retention may.mature maturing).trans
        (agingPath.trans (claimLoop_path may serves.looped)))

end

variable {result : EnqueueResult}

theorem dedupedItem_commits
    (commits : (dedupedItem existing input definition).Commits store result next) :
    store = next ∧ result = .deduped (rowToWorkItem existing) := by
  unfold dedupedItem at commits
  simp only [commits_bind, commits_check, commits_pure] at commits
  obtain ⟨_, _, ⟨_, rfl⟩, rfl, rfl⟩ := commits
  exact ⟨rfl, rfl⟩

theorem admission_isNew (admitted : input.admission env = .ok admission) : admission.row.IsNew := by
  unfold EnqueueInput.admission at admitted
  simp only [bind_eq_ok] at admitted
  obtain ⟨definition, _, _, _, policy, _, expiresAtMs, _, _, _, _, _, result⟩ := admitted
  cases result
  refine ⟨?_, rfl, Nat.le_max_left _ _, rfl, rfl, rfl, rfl, rfl⟩
  have initial : (input.row env definition policy expiresAtMs).state = input.initialState := rfl
  rw [initial]
  unfold EnqueueInput.initialState
  split
  · exact .inr rfl
  · exact .inl rfl

theorem enqueue_path (commits : (enqueue env input).Commits store result next) :
    Path (Step env) (Permits env store (.enqueue input)) store next := by
  unfold enqueue at commits
  simp only [commits_bind, commits_check, commits_get] at commits
  obtain ⟨admission, _, ⟨admitted, rfl⟩, _, _, ⟨rfl, rfl⟩, commits⟩ := commits
  split at commits
  · obtain ⟨rfl, _⟩ := dedupedItem_commits commits
    exact .refl _
  · unfold insertAdmitted at commits
    simp only [commits_bind, commits_check, commits_get] at commits
    obtain ⟨_, _, ⟨rfl, rfl⟩, _, _, ⟨capacity, rfl⟩, commits⟩ := commits
    split at commits
    · split at commits
      · obtain ⟨rfl, _⟩ := dedupedItem_commits commits
        exact .refl _
      · exact absurd commits commits_throw
    · rename_i inserted inserts
      simp only [commits_bind, commits_set, commits_get, commits_pure] at commits
      obtain ⟨_, _, rfl, seq, _, appended, _, _, ⟨rfl, rfl⟩, _, rfl⟩ := commits
      obtain ⟨_, housekeeping⟩ := appendTransitionInternal_cases appended
      refine .step (.enroll admission.row admission.policy input.nowMs)
        ⟨rfl, input, admission, rfl, admitted, rfl, rfl⟩
        (.enroll inserts (admission_isNew admitted) capacity)
        (housekeeping.mono fun _ effect h => permits_retention _ effect h.isRetention)

theorem registerQueueDefinition_path {input : RegisterInput}
    (commits : (registerQueueDefinition input).Commits store registered next) :
    Path (Step env) (Permits env store (.registerQueueDefinition input)) store next := by
  replace commits := commits_get_bind.mp commits
  simp only at commits
  split at commits
  · exact absurd commits commits_throw
  · split at commits
    · exact absurd commits commits_throw
    · split at commits
      · split at commits
        · exact path_pure commits
        · exact absurd commits commits_throw
      · split at commits
        · exact absurd commits commits_throw
        · simp only [commits_bind, commits_set, commits_pure] at commits
          obtain ⟨_, _, rfl, _, rfl⟩ := commits
          exact .step (.define input.snapshot) ⟨input, rfl, rfl⟩ .define (.refl _)

theorem upsertQueueControl_step (control : QueueControl) :
    Step env store .bookkeep (store.upsertQueueControl control) :=
  .bookkeep rfl rfl rfl rfl rfl

theorem setQueueControl_path {input : QueueControlInput} {control : QueueControl}
    (commits : (setQueueControl input).Commits store control next) :
    Path (Step env) (Permits env store (.setQueueControl input)) store next := by
  unfold setQueueControl at commits
  simp only at commits
  split at commits
  · exact absurd commits commits_throw
  · simp only [commits_bind, commits_modify, commits_pure] at commits
    obtain ⟨_, _, rfl, _, rfl⟩ := commits
    exact .step .bookkeep trivial (upsertQueueControl_step _) (.refl _)

section

variable {result : RebuildResult} (commits : (rebuildProjection dryRun).Commits store result next)
include commits

theorem rebuildProjection_cases :
    store = next ∨ ∃ rebuilt, (replayJournal store.journal).errors = [] ∧
      insertReplayed ((replayJournal store.journal).records.map Prod.snd)
        { store with workItems := .empty } = some rebuilt ∧
      rebuildVirtualFinish rebuilt = next := by
  unfold rebuildProjection at commits
  replace commits := commits_get_bind.mp commits
  simp only at commits
  split at commits
  · rename_i applies
    split at commits
    · exact absurd commits commits_throw
    · rename_i rebuilt inserts
      simp only [commits_bind, commits_set, commits_pure] at commits
      obtain ⟨_, _, rfl, _, rfl⟩ := commits
      exact .inr ⟨rebuilt, List.isEmpty_iff.mp applies.2, inserts, rfl⟩
  · obtain ⟨_, rfl⟩ := commits_pure.mp commits
    exact .inl rfl

theorem rebuildProjection_path :
    Path (Step env) (Permits env store (.rebuildProjection dryRun)) store next := by
  rcases rebuildProjection_cases commits with rfl | ⟨rebuilt, errors, inserts, rfl⟩
  · exact .refl _
  · exact .step .rebuild ⟨dryRun, rfl⟩ (.rebuild errors inserts) (.refl _)

end

end QueueCommands

theorem applyCommand_path (env : QueueEnv) (store : Store) (command : QueueCommand) :
    Path (Step env) (Permits env store command) store (applyCommand env store command) := by
  have lift : ∀ {α : Type} (action : StoreTransaction α),
      (∀ result next, action.Commits store result next →
        Path (Step env) (Permits env store command) store next) →
      Path (Step env) (Permits env store command) store (action.applied store) := by
    intro α action paths
    rcases applied_cases action store with ⟨result, commits⟩ | unchanged
    · exact paths _ _ commits
    · rw [unchanged]
      exact .refl store
  cases command with
  | enqueue input => exact lift (enqueue env input) fun _ _ => enqueue_path
  | claim input => exact lift (claim env input) fun _ _ => claim_path
  | complete input =>
    exact lift (complete env input) fun _ _ => complete_path (permits_maySettle rfl)
  | retry input => exact lift (retry env input) fun _ _ => retry_path (permits_maySettle rfl)
  | progress input =>
    exact lift (progress env input) fun _ _ => progress_path (permits_maySettle rfl)
  | checkpoint input => exact lift (checkpoint env input) fun _ _ => checkpoint_path
  | expire input => exact lift (expire env input) fun _ _ => expire_path (permits_maySettle rfl)
  | cancel input => exact lift (cancel env input) fun _ _ => cancel_path (permits_maySettle rfl)
  | cancelRunning input =>
    exact lift (cancelRunning env input) fun _ _ => cancelRunning_path (permits_maySettle rfl)
  | fail input => exact lift (fail env input) fun _ _ => fail_path (permits_maySettle rfl)
  | recover input => exact lift (recover env input) fun _ _ => recover_path
  | markInDoubt input =>
    exact lift (markInDoubt env input) fun _ _ => markInDoubt_path (permits_maySettle rfl)
  | acknowledgeTermination input =>
    exact lift (acknowledgeTermination env input) fun _ _ =>
      acknowledgeTermination_path (permits_maySettle rfl)
  | recordSinkReceipt input =>
    exact lift (recordSinkReceipt input) fun _ _ => recordSinkReceipt_path (permits_maySettle rfl)
  | reconcileInDoubt input =>
    exact lift (reconcileInDoubt env input) fun _ _ => reconcileInDoubt_path
  | registerQueueDefinition input =>
    exact lift (registerQueueDefinition input) fun _ _ => registerQueueDefinition_path
  | setQueueControl input =>
    exact lift (setQueueControl input) fun _ _ => setQueueControl_path
  | rebuildProjection dryRun =>
    exact lift (rebuildProjection dryRun) fun _ _ => rebuildProjection_path

section Samples

/-- The digest of the canonical text of `{kind: "cursor", ref: "page-1"}`. -/
def sampleDigest : Sha256Digest :=
  ⟨[86, 120, 37, 31, 218, 171, 187, 73, 137, 167, 43, 38, 22, 110, 41, 123, 134, 78, 40, 19, 156,
    101, 19, 146, 63, 153, 87, 144, 122, 102, 151, 162], rfl⟩

def sampleEnv (adapter : Adapter) (policy : QueuePolicy) : QueueEnv where
  adapter := adapter
  resolvedPolicy := policy
  sha256 := fun _ => sampleDigest

def generatedId : Identifier := ⟨"generated", by decide +kernel⟩

def leaseA : Identifier := ⟨"lease-a", by decide +kernel⟩

def leaseB : Identifier := ⟨"lease-b", by decide +kernel⟩

def sampleQueue : QueueReference := { queueDefinitionId := some "queue" }

def sampleEnqueue (workItemId tenantId : String) (priority nowMs : Int) : EnqueueInput where
  nowMs := nowMs
  queue := sampleQueue
  scopeKey := some "scope"
  schedulingScope := some { tenantId }
  payloadRef := .obj [("kind", .str "job")]
  priority := priority
  workItemId := some workItemId
  generatedWorkItemId := generatedId

def sampleClaim (leaseId : Identifier) (batchSize nowMs : Int) : ClaimInput where
  nowMs := nowMs
  queue := sampleQueue
  scopeKey := some "scope"
  batchSize := some batchSize
  generatedWorkerId := generatedId
  leaseIds := fun _ => leaseId

def sampleLease (workItemId : String) (leaseId : Identifier) (nowMs : Int) : LeaseInput where
  nowMs := nowMs
  workItemId := workItemId
  leaseId := leaseId.val

end Samples

end LicoMesh.WorkQueue
