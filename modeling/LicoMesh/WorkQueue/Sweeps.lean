import LicoMesh.WorkQueue.Transitions
import LicoMesh.WorkQueue.Selection

namespace LicoMesh.WorkQueue

open Library Transaction Store WorkQueueState

variable {live row result : WorkItemRow} {sweeps : ClaimSweeps} {transition : WorkQueueTransition}
  {toState : WorkQueueState} {patch : ProjectionPatch} {nowMs : Int} {visit limit : Nat}
  {queueDefinitionId scopeKey : String} {swept : List WorkItem} {input : ClaimInput}
  {selector : FairSelector}

namespace Effect

def IsRetention : Effect → Prop
  | .compact _ _ | .touch _ _ _ | .bookkeep | .retire _ => True
  | _ => False

theorem IsHousekeeping.isRetention {effect : Effect}
    (housekeeping : effect.IsHousekeeping kept) : effect.IsRetention := by
  cases effect <;> trivial

end Effect

variable {env : QueueEnv}

structure Turn (env : QueueEnv) (permitted : Store → Effect → Prop) (workItemId : String)
    (before after : Store) : Prop where
  path : Path (Step env) permitted before after
  others : ∀ {other current}, other ≠ workItemId → before.getWorkItem other = some current →
    ¬ current.IsClosed → ∃ later, after.getWorkItem other = some later ∧ current.SameItem later

theorem Turn.refl (store : Store) : Turn env permitted workItemId store store :=
  ⟨.refl store, fun _ found _ => ⟨_, found, .refl _⟩⟩

def WorkItemRow.IsCurrent (row : WorkItemRow) (store : Store) : Prop :=
  ∃ live, store.getWorkItem row.workItemId = some live ∧ row.SameItem live

open WorkItemRow

/-- What a caller owes for one transition: a permission and a guard at the store
the row is moved in, which is the store itself unless room had to be made. -/
structure MayMove (env : QueueEnv) (permitted : Store → Effect → Prop) (store : Store)
    (row : WorkItemRow) (transition : WorkQueueTransition) (toState : WorkQueueState)
    (patch : ProjectionPatch) (nowMs : Int) : Prop where
  retention : ∀ state effect, effect.IsRetention → permitted state effect
  move : ∀ {room live}, Preserved row.workItemId store room → (toState ≠ .failed → room = store) →
    room.getWorkItem live.workItemId = some live → row.SameItem live →
    permitted room (.move live transition toState patch nowMs) ∧
      MoveGuard env room live transition toState patch

section Transition

variable {permitted : Store → Effect → Prop} {store next : Store} (current : row.IsCurrent store)
include current

variable (may : MayMove env permitted store row transition toState patch nowMs)
include may

theorem transitionProjectionInternal_turn
    (commits : (transitionProjectionInternal env row transition toState patch nowMs).Commits
      store result next) : Turn env permitted row.workItemId store next := by
  obtain ⟨present, found, same⟩ := current
  obtain ⟨room, live, making, unlessFailed, hlive, sameLive, legal, retention, _, _, _⟩ :=
    transitionProjectionInternal_cases found same commits
  have here : live.workItemId = row.workItemId := sameLive.workItemId.symm
  have hlive : room.getWorkItem live.workItemId = some live := by
    rw [here]
    exact hlive
  obtain ⟨permission, guard⟩ := may.move making.preserved unlessFailed hlive sameLive
  have move : Step env room (.move live transition toState patch nowMs)
      (room.moveRow live transition toState patch nowMs) := .move hlive legal guard
  refine ⟨?_, ?_⟩
  · refine (making.mono ?_).trans (.step _ permission move (retention.mono ?_))
    · exact fun _ effect housekeeping => may.retention _ effect housekeeping.isRetention
    · exact fun _ effect housekeeping => may.retention _ effect housekeeping.isRetention
  · intro other open? different hother notClosed
    obtain ⟨middle, hmiddle, sameMiddle⟩ := making.preserved.keeps hother (.inr notClosed)
    have moved : (room.moveRow live transition toState patch nowMs).getWorkItem other =
        some middle := by
      rw [getWorkItem_moveRow hlive, if_neg (fun same => different (same.trans here)), hmiddle]
    have notClosed' : ¬ middle.IsClosed := by
      unfold WorkItemRow.IsClosed
      rw [← sameMiddle.state]
      exact notClosed
    obtain ⟨later, hlater, sameLater⟩ := retention.preserved.keeps moved (.inr notClosed')
    exact ⟨later, hlater, sameMiddle.trans sameLater⟩

theorem transitionProjection_path (idle : ∀ state queueDefinitionId scopeKey, toState.isTerminal →
      permitted state (.idle queueDefinitionId scopeKey))
    (commits : (transitionProjection env row transition toState patch nowMs).Commits
      store result next) : Path (Step env) permitted store next := by
  unfold transitionProjection at commits
  simp only [commits_bind, commits_get] at commits
  obtain ⟨updated, middle, transitioned, _, _, ⟨rfl, rfl⟩, commits⟩ := commits
  have turn := transitionProjectionInternal_turn current may transitioned
  split at commits
  · rename_i closed
    simp only [commits_bind, commits_set, commits_pure] at commits
    obtain ⟨_, _, rfl, _, rfl⟩ := commits
    obtain ⟨present, found, same⟩ := current
    obtain ⟨_, _, _, _, _, _, _, _, _, _, moved⟩ :=
      transitionProjectionInternal_cases found same transitioned
    have terminal : toState.isTerminal := by
      have landed : updated.state = toState := by rw [moved]; rfl
      rw [← landed]
      exact closed.1
    exact turn.path.trans (.step _ (idle _ _ _ terminal) (.idle closed.2) (.refl _))
  · obtain ⟨_, rfl⟩ := commits_pure.mp commits
    exact turn.path

omit may

theorem transitionProjectionInternal_result
    (commits : (transitionProjectionInternal env row transition toState patch nowMs).Commits
      store result next) : next.getWorkItem row.workItemId = some result ∧
      result.toWorkItemRequest = row.toWorkItemRequest ∧
      result.toWorkItemProjection = patch.apply toState row.toWorkItemProjection := by
  obtain ⟨present, found, same⟩ := current
  obtain ⟨_, live, _, _, _, sameLive, _, _, landed, request, projection⟩ :=
    transitionProjectionInternal_cases found same commits
  exact ⟨landed, request.trans sameLive.request.symm, by rw [projection, sameLive.projection]⟩

variable
  (commits : (transitionProjection env row transition toState patch nowMs).Commits store result next)
include commits

theorem transitionProjection_result : next.getWorkItem row.workItemId = some result ∧
      result.toWorkItemRequest = row.toWorkItemRequest ∧
      result.toWorkItemProjection = patch.apply toState row.toWorkItemProjection := by
  unfold transitionProjection at commits
  simp only [commits_bind, commits_get] at commits
  obtain ⟨updated, middle, transitioned, _, _, ⟨rfl, rfl⟩, commits⟩ := commits
  have landed := transitionProjectionInternal_result current transitioned
  split at commits
  · simp only [commits_bind, commits_set, commits_pure] at commits
    obtain ⟨_, _, rfl, rfl, rfl⟩ := commits
    exact landed
  · obtain ⟨rfl, rfl⟩ := commits_pure.mp commits
    exact landed

theorem transitionProjection_legal
    : isLegalWorkQueueTransition transition (some row.state) toState := by
  obtain ⟨updated, middle, transitioned, _⟩ := commits_bind.mp commits
  obtain ⟨present, found, same⟩ := current
  obtain ⟨_, live, _, _, _, sameLive, legal, _⟩ :=
    transitionProjectionInternal_cases found same transitioned
  rw [sameLive.state]
  exact legal

end Transition

section Sweep

variable {permitted : Store → Effect → Prop} {store next : Store}

structure Remaining (env : QueueEnv) (permitted : Store → Effect → Prop) (store : Store)
    (rows : List WorkItemRow) (state : Store) : Prop where
  path : Path (Step env) permitted store state
  distinct : (rows.map fun row => row.workItemId).Nodup
  current : ∀ row ∈ rows, ¬ row.IsClosed ∧ row.IsCurrent state

theorem sweep_path {α : Type} {visit : WorkItemRow → StoreTransaction α} {results : List α}
    (opens : ∀ row, condition row → ¬ row.IsClosed)
    (turns : ∀ {row state result after}, condition row → row.IsCurrent state →
      (visit row).Commits state result after → Turn env permitted row.workItemId state after)
    (commits : ((selectRows store.workItems.rows condition le limit).mapM visit).Commits
      store results next) : Path (Step env) permitted store next := by
  have selected : ∀ row ∈ selectRows store.workItems.rows condition le limit,
      condition row ∧ row.IsCurrent store := by
    intro row member
    obtain ⟨present, holds⟩ := mem_selectRows member
    exact ⟨holds, row, getWorkItem_of_mem present, .refl row⟩
  have start : Remaining env permitted store
      (selectRows store.workItems.rows condition le limit) store :=
    ⟨.refl store, nodup_map_selectRows store.workItems.keysNodup,
      fun row member => ⟨opens row (selected row member).1, (selected row member).2⟩⟩
  have loop := @ensures_mapM Store QueueError α WorkItemRow visit
    (fun rows state => Remaining env permitted store rows state ∧ ∀ row ∈ rows, condition row)
    (by
      intro row rest state ⟨remaining, holds⟩ result after visited
      have turn := turns (holds row List.mem_cons_self)
        (remaining.current row List.mem_cons_self).2 visited
      obtain ⟨fresh, distinct⟩ := List.nodup_cons.mp remaining.distinct
      refine ⟨⟨remaining.path.trans turn.path, distinct, ?_⟩,
        fun other member => holds other (List.mem_cons_of_mem _ member)⟩
      intro other member
      obtain ⟨notClosed, live, found, same⟩ :=
        remaining.current other (List.mem_cons_of_mem _ member)
      have different : other.workItemId ≠ row.workItemId := fun same =>
        fresh (List.mem_map.mpr ⟨other, member, same⟩)
      have liveOpen : ¬ live.IsClosed := by
        unfold WorkItemRow.IsClosed
        rw [← same.state]
        exact notClosed
      obtain ⟨later, hlater, sameLater⟩ := turn.others different found liveOpen
      exact ⟨notClosed, later, hlater, same.trans sameLater⟩)
    (selectRows store.workItems.rows condition le limit) store
    ⟨start, fun row member => (selected row member).1⟩
  exact (loop results next commits).1.path

theorem not_isClosed_of_isOutstanding (h : row.state.isOutstanding) : ¬ row.IsClosed := by
  unfold WorkItemRow.IsClosed
  revert h
  cases row.state <;> simp [isOutstanding, isTerminal]

theorem releasedAt_releases (row : WorkItemRow) (nowMs : Int) : (releasedAt nowMs).Releases row :=
  ⟨rfl, rfl, rfl, .inl rfl, rfl⟩

variable (retention : ∀ state effect, effect.IsRetention → permitted state effect)
include retention

theorem MayMove.released
    (moves : ∀ {room live}, Preserved row.workItemId store room → row.SameItem live →
      permitted room (.move live transition toState patch nowMs))
    (unleased : toState.isLeased = false) (unclaimed : transition ≠ .claim)
    (unrecovered : transition ≠ .recover)
    (releases : ∀ live, row.SameItem live → patch.Releases live) :
    MayMove env permitted store row transition toState patch nowMs :=
  ⟨retention, fun preserved _ _ same => ⟨moves preserved same,
    .released transition toState patch unleased unclaimed (releases _ same)
      fun recovers => absurd recovers unrecovered⟩⟩

theorem expireEligibleLocked_path
    (moves : ∀ state row patch, permitted state (.move row .expire .expired patch nowMs))
    (commits : (expireEligibleLocked env nowMs queueDefinitionId scopeKey limit).Commits
      store swept next) : Path (Step env) permitted store next := by
  refine sweep_path ?_ ?_ commits
  · intro row condition
    simp only [Bool.and_eq_true] at condition
    exact not_isClosed_of_isOutstanding condition.1.1
  · intro row state result after _ current visited
    obtain ⟨updated, transitioned, _⟩ := commits_map.mp visited
    exact transitionProjectionInternal_turn current
      (.released retention (fun _ _ => moves _ _ _) rfl (by decide) (by decide)
        fun live _ => releasedAt_releases live nowMs) transitioned

theorem materializeDelayedLocked_path
    (moves : ∀ state row patch, permitted state (.move row .delayMatured .queued patch nowMs))
    (commits : (materializeDelayedLocked env nowMs queueDefinitionId scopeKey limit).Commits
      store swept next) : Path (Step env) permitted store next := by
  refine sweep_path ?_ ?_ commits
  · intro row condition
    simp only [Bool.and_eq_true, decide_eq_true_eq] at condition
    simp [WorkItemRow.IsClosed, condition.1.1.1, isTerminal]
  · intro row state result after _ current visited
    obtain ⟨updated, transitioned, _⟩ := commits_map.mp visited
    exact transitionProjectionInternal_turn current
      (.released retention (fun _ _ => moves _ _ _) rfl (by decide) (by decide)
        fun live _ => releasedAt_releases live nowMs) transitioned

theorem recoverExpiredLeasesLocked_path
    (moves : ∀ state row patch, permitted state (.move row .leaseExpired .inDoubt patch nowMs))
    (commits : (recoverExpiredLeasesLocked env nowMs queueDefinitionId scopeKey limit).Commits
      store swept next) : Path (Step env) permitted store next := by
  refine sweep_path ?_ ?_ commits
  · intro row condition
    simp only [Bool.and_eq_true, decide_eq_true_eq] at condition
    simp [WorkItemRow.IsClosed, condition.1.1.1, isTerminal]
  · intro row state result after _ current visited
    obtain ⟨updated, transitioned, _⟩ := commits_map.mp visited
    exact transitionProjectionInternal_turn current
      ⟨retention, fun _ _ _ _ => ⟨moves _ _ _, .doubted _ _ (.inr rfl)⟩⟩ transitioned

omit retention

theorem terminalReceipt_congr (same : row.SameItem live)
    (fences : room.sinkFences = store.sinkFences) :
    terminalReceipt room live = terminalReceipt store row := by
  unfold terminalReceipt readSinkFence
  rw [same.workItemId, same.projection, fences]

theorem receiptState_unleased (receipt : SinkFence) : (receiptState receipt).isLeased = false := by
  unfold receiptState
  split <;> rfl

include retention in
theorem reconcileInDoubtLocked_path
    (moves : ∀ state row receipt patch, terminalReceipt state row = some receipt →
      permitted state (.move row .terminationAcknowledged (receiptState receipt) patch nowMs))
    (commits : (reconcileInDoubtLocked env nowMs queueDefinitionId scopeKey workItemId
      limit).Commits store swept next) : Path (Step env) permitted store next := by
  unfold reconcileInDoubtLocked at commits
  simp only [commits_bind, commits_get, commits_pure] at commits
  obtain ⟨_, _, ⟨rfl, rfl⟩, reconciled, _, commits, _, rfl⟩ := commits
  refine sweep_path ?_ ?_ commits
  · intro row condition
    simp only [Bool.and_eq_true, decide_eq_true_eq] at condition
    simp [WorkItemRow.IsClosed, condition.1.1, isTerminal]
  · intro row state result after _ current visited
    replace visited := commits_get_bind.mp visited
    split at visited
    · obtain ⟨_, rfl⟩ := commits_pure.mp visited
      exact .refl _
    · rename_i receipt found
      simp only [commits_bind, commits_pure] at visited
      obtain ⟨updated, _, transitioned, _, rfl⟩ := visited
      refine transitionProjectionInternal_turn current (.released retention ?_
        (receiptState_unleased receipt) (by decide) (by decide)
        fun live _ => ⟨rfl, rfl, rfl, .inl rfl, rfl⟩) transitioned
      intro room live preserved same
      refine moves _ _ _ _ ?_
      rw [terminalReceipt_congr same preserved.sinkFences]
      exact found

end Sweep

section Claim

variable {permitted : Store → Effect → Prop} {store next : Store}

structure MaySweep (permitted : Store → Effect → Prop) (nowMs : Int) : Prop where
  retention : ∀ state effect, effect.IsRetention → permitted state effect
  expire : ∀ state row patch, permitted state (.move row .expire .expired patch nowMs)
  leaseExpired : ∀ state row patch, permitted state (.move row .leaseExpired .inDoubt patch nowMs)
  receipt : ∀ state row receipt patch, terminalReceipt state row = some receipt →
    permitted state (.move row .terminationAcknowledged (receiptState receipt) patch nowMs)
  mature : ∀ state row patch, permitted state (.move row .delayMatured .queued patch nowMs)

structure MayClaim (permitted : Store → Effect → Prop) (nowMs : Int) : Prop
    extends MaySweep permitted nowMs where
  serve : ∀ state key, permitted state (.serve key)
  exhaust : ∀ state row patch, row.state.isClaimable →
    permitted state (.move row .fail .failed patch nowMs)
  lease : ∀ state row patch, permitted state (.move row .claim .running patch nowMs)

theorem sweepBeforeClaim_path (may : MaySweep permitted input.nowMs)
    (commits : (sweepBeforeClaim env input queueDefinitionId).Commits store sweeps next) :
    Path (Step env) permitted store next := by
  unfold sweepBeforeClaim at commits
  simp only [commits_bind, commits_pure] at commits
  obtain ⟨_, _, expiry, _, _, recovery, _, _, reconciliation, _, rfl⟩ := commits
  exact (expireEligibleLocked_path may.retention may.expire expiry).trans
    ((recoverExpiredLeasesLocked_path may.retention may.leaseExpired recovery).trans
      (reconcileInDoubtLocked_path may.retention may.receipt reconciliation))

theorem keepsCounters_maySweep (nowMs : Int) :
    MaySweep (fun _ effect => effect.KeepsCounters) nowMs := by
  refine ⟨?_, fun _ _ _ => trivial, fun _ _ _ => trivial, fun _ _ _ _ _ => trivial,
    fun _ _ _ => trivial⟩
  intro _ effect retention
  cases effect <;> trivial

theorem sweeps_virtualFinish {swept prepared : Store}
    (sweeping : (sweepBeforeClaim env input queueDefinitionId).Commits store sweeps swept)
    (maturing : (materializeDelayedLocked env input.nowMs queueDefinitionId
      input.recoveryScopeKey input.sweepLimit).Commits swept matured prepared) :
    prepared.virtualFinish = store.virtualFinish := by
  have may := keepsCounters_maySweep input.nowMs
  exact (Path.virtualFinish_eq (materializeDelayedLocked_path may.retention may.mature
    maturing)).trans (Path.virtualFinish_eq (sweepBeforeClaim_path may sweeping))

theorem promoteRows_path {rows : List WorkItemRow}
    (nodup : (rows.map fun row => row.workItemId).Nodup)
    (present : ∀ row ∈ rows, state.getWorkItem row.workItemId = some row)
    (promotes : ∀ state' row, row ∈ rows → state'.virtualFinish = state.virtualFinish →
      agedWorkQueuePriorityClass row.priority row.availableAtMs nowMs agingIntervalMs ≠
        row.priorityClass → permitted state' (.promote row
        (agedWorkQueuePriorityClass row.priority row.availableAtMs nowMs agingIntervalMs) nowMs)) :
    Path (Step env) permitted state (rows.foldl (promoteRow nowMs agingIntervalMs) state) := by
  induction rows generalizing state with
  | nil => exact .refl state
  | cons row rest induction =>
    obtain ⟨fresh, nodup⟩ := List.nodup_cons.mp nodup
    have found := present row List.mem_cons_self
    have others : ∀ other ∈ rest,
        (promoteRow nowMs agingIntervalMs state row).getWorkItem other.workItemId =
          some other := by
      intro other member
      have different : ¬ other.workItemId = row.workItemId := fun same =>
        fresh (List.mem_map.mpr ⟨other, member, same⟩)
      unfold promoteRow
      simp only
      split
      · rw [getWorkItem_updatePriorityClass found, if_neg different]
        exact present other (List.mem_cons_of_mem _ member)
      · exact present other (List.mem_cons_of_mem _ member)
    have counters : (promoteRow nowMs agingIntervalMs state row).virtualFinish =
        state.virtualFinish := by
      unfold promoteRow
      simp only
      split <;> rfl
    have later := induction nodup others fun state' other member same =>
      promotes state' other (List.mem_cons_of_mem _ member) (same.trans counters)
    refine .trans ?_ later
    unfold promoteRow
    simp only
    split
    · rename_i changes
      exact .single (promotes state row List.mem_cons_self rfl changes) (.promote found)
    · exact .refl state

theorem promoteAgedCandidates_path {version : Nat} (promotes : ∀ policy state row,
      getPolicy (overridePolicy env.resolvedPolicy
        (store.getLatestDefinitionPolicy queueDefinitionId version)) = .ok policy →
      row ∈ store.agedCandidates queueDefinitionId version scopeKey
        (nowMs - policy.fairness.agingIntervalMs.val) policy.fairness.agingBatchSize.val →
      state.virtualFinish = store.virtualFinish →
      agedWorkQueuePriorityClass row.priority row.availableAtMs nowMs
        policy.fairness.agingIntervalMs.val ≠ row.priorityClass →
      permitted state (.promote row (agedWorkQueuePriorityClass row.priority
        row.availableAtMs nowMs policy.fairness.agingIntervalMs.val) nowMs))
    (commits : (promoteAgedCandidates env queueDefinitionId version scopeKey nowMs).Commits
      store aged next) : Path (Step env) permitted store next := by
  unfold promoteAgedCandidates at commits
  simp only [commits_bind, commits_get, commits_check, commits_set, commits_pure] at commits
  obtain ⟨_, _, ⟨rfl, rfl⟩, policy, _, ⟨resolved, rfl⟩, _, _, rfl, _, rfl⟩ := commits
  refine promoteRows_path (nodup_map_selectRows store.workItems.keysNodup) ?_ ?_
  · intro row member
    exact getWorkItem_of_mem (mem_selectRows member).1
  · intro state row member same changes
    exact promotes policy state row resolved member same changes

theorem boundedLeaseExpiry_le (bounded : 0 < row.expiresAtMs) :
    boundedLeaseExpiry row nowMs duration ≤ row.expiresAtMs := by
  unfold boundedLeaseExpiry
  rw [if_pos bounded]
  omega

variable (selected : Selected env store selector row.priorityClass row)
include selected

theorem Selected.partition_eq : row.partition =
      { toHierarchy := row.toHierarchy
        queueDefinitionId := selector.queueDefinitionId
        queueDefinitionVersion := row.queueDefinitionVersion
        selectorScopeKey := selector.selectorScopeKey
        priorityClass := row.priorityClass } := by
  have waiting := isWaiting_iff.mp (isPending_iff.mp selected.candidate.pending).1
  unfold partition
  rw [waiting.queue, waiting.scope]

theorem Selected.claimed (attempts : row.attempt < row.maxAttempts) (same : row.SameItem live)
    (workItems : served.workItems = store.workItems)
    (definitions : served.definitions = store.definitions) :
    MoveGuard env served live .claim .running (claimPatch row (input.leaseFor env visit row)) := by
  obtain ⟨policy, resolved, capacity⟩ := selected.capacity
  have waiting := isWaiting_iff.mp (isPending_iff.mp selected.candidate.pending).1
  have free := (isPending_iff.mp selected.candidate.pending).2.2
  have limits : withinLeaseLimits served live.queueDefinitionId live.toHierarchy
      policy.capacity := by
    have limits := (Bool.and_eq_true _ _ ▸ capacity).1
    unfold withinLeaseLimits countLeased countStateByHierarchy at limits ⊢
    rw [workItems, ← same.request, waiting.queue]
    exact limits
  have resolved : policyForRow env served live = .ok policy := by
    rw [← resolved]
    unfold policyForRow getDefinitionPolicy
    rw [definitions, same.request]
  have free : served.concurrencyFree live := by
    unfold concurrencyFree at free ⊢
    rw [workItems, ← same.request]
    exact free
  have patch : claimPatch row (input.leaseFor env visit row) =
      claimPatch live (input.leaseFor env visit row) := by
    unfold claimPatch
    rw [same.projection]
  rw [patch]
  refine .claimed _ policy ?_ (input.leaseIds visit).property ?_ ?_ resolved limits free
  · rw [← same.projection]
    exact attempts
  · rw [← same.projection]
    rfl
  · rw [← same.request]
    exact boundedLeaseExpiry_le

theorem visitCandidate_path {result : ClaimVisit} (may : MayClaim permitted input.nowMs)
    (commits : (visitCandidate env input selector visit row).Commits store result next) :
    Path (Step env) permitted store next := by
  unfold visitCandidate at commits
  simp only [← selected.partition_eq] at commits
  have found := getWorkItem_of_mem selected.candidate.member
  have claimable := (isWaiting_iff.mp (isPending_iff.mp selected.candidate.pending).1).claimable
  have current : ∀ served : Store, served.workItems = store.workItems → row.IsCurrent served := by
    intro served workItems
    refine ⟨row, ?_, .refl row⟩
    unfold getWorkItem
    rw [workItems]
    exact found
  split at commits
  · simp only [commits_bind, commits_modify, commits_pure] at commits
    obtain ⟨_, _, rfl, failedRow, _, transitioned, _, rfl⟩ := commits
    refine .step (.serve row.partition) (may.serve _ _) .serve
      (transitionProjection_path (current _ rfl) (.released may.retention ?_ rfl (by decide)
        (by decide) fun live _ => ⟨rfl, rfl, rfl, .inl rfl, rfl⟩) ?_ transitioned)
    · intro room live _ same
      exact may.exhaust _ _ _ (same.state ▸ claimable)
    · intro _ _ _ terminal
      cases terminal
  · rename_i attempts
    simp only [commits_bind, commits_pure] at commits
    obtain ⟨_, served, serving, updated, _, transitioned, _, rfl⟩ := commits
    have servingPath : Path (Step env) permitted store served ∧
        served.workItems = store.workItems ∧ served.definitions = store.definitions := by
      unfold countLeaseService at serving
      split at serving
      · have serving := commits_modify.mp serving
        exact serving ▸ ⟨.single (may.serve _ _) .serve, rfl, rfl⟩
      · obtain ⟨_, rfl⟩ := commits_pure.mp serving
        exact ⟨.refl _, rfl, rfl⟩
    obtain ⟨path, workItems, definitions⟩ := servingPath
    refine path.trans (transitionProjection_path (current served workItems)
      ⟨may.retention, ?_⟩ ?_ transitioned)
    · intro room live preserved unlessFailed _ same
      have here := unlessFailed (by decide)
      subst here
      exact ⟨may.lease _ _ _, selected.claimed (by omega) same workItems definitions⟩
    · intro _ _ _ terminal
      cases terminal

omit selected

theorem claimLoop_path (may : MayClaim permitted input.nowMs)
    (commits : (claimLoop env input selector remaining visit priorityCursor).Commits
      store visits next) : Path (Step env) permitted store next := by
  induction remaining generalizing store visit priorityCursor visits with
  | zero =>
    exact path_pure commits
  | succ remaining induction =>
    unfold claimLoop at commits
    simp only [commits_bind, commits_get, commits_check] at commits
    obtain ⟨_, _, ⟨rfl, rfl⟩, selected, _, ⟨selection, rfl⟩, commits⟩ := commits
    split at commits
    · exact path_pure commits
    · simp only [commits_bind, commits_pure] at commits
      obtain ⟨current, middle, visited, later, _, looped, _, rfl⟩ := commits
      exact (visitCandidate_path (selectFairCandidate_some selection) may visited).trans
        (induction looped)

end Claim

end LicoMesh.WorkQueue
