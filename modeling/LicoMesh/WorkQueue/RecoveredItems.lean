import LicoMesh.WorkQueue.Evolution

namespace LicoMesh.WorkQueue

open Library Transaction

variable {store next : Store} {input : ClaimInput} {row : WorkItemRow} {visits : List ClaimVisit}
  {visit : Nat} {env : QueueEnv}

section Spared

variable {store next : Store}

theorem transitionProjection_spares (current : row.IsCurrent store)
    (commits : (transitionProjection env row transition toState patch nowMs).Commits
      store result next) {other : String} (different : other ≠ row.workItemId) :
    (∀ later, next.getWorkItem other = some later →
      ∃ before, store.getWorkItem other = some before ∧ before.SameItem later) ∧
    ∀ before, store.getWorkItem other = some before → ¬ before.IsClosed →
      ∃ later, next.getWorkItem other = some later ∧ before.SameItem later := by
  obtain ⟨present, found, same⟩ := current
  unfold transitionProjection at commits
  simp only [commits_bind, commits_get] at commits
  obtain ⟨updated, middle, transitioned, _, _, ⟨rfl, rfl⟩, commits⟩ := commits
  obtain ⟨room, live, making, _, hlive, sameLive, _, retention, _, _, _⟩ :=
    transitionProjectionInternal_cases found same transitioned
  have here : live.workItemId = row.workItemId := sameLive.workItemId.symm
  have hlive : room.getWorkItem live.workItemId = some live := by
    rw [here]
    exact hlive
  have moved : (room.moveRow live transition toState patch nowMs).getWorkItem other =
      room.getWorkItem other := by
    rw [getWorkItem_moveRow hlive, if_neg (fun same => different (same.trans here))]
  have rows : next.getWorkItem other = middle.getWorkItem other := by
    split at commits
    · simp only [commits_bind, commits_set, commits_pure] at commits
      obtain ⟨_, _, rfl, _, rfl⟩ := commits
      rfl
    · obtain ⟨_, rfl⟩ := commits_pure.mp commits
      rfl
  rw [rows]
  constructor
  · intro later hlater
    obtain ⟨kept, hkept, sameKept⟩ := retention.preserved.adds_none hlater
    rw [moved] at hkept
    obtain ⟨before, hbefore, sameBefore⟩ := making.preserved.adds_none hkept
    exact ⟨before, hbefore, sameBefore.trans sameKept⟩
  · intro before hbefore notClosed
    obtain ⟨kept, hkept, sameKept⟩ := making.preserved.keeps hbefore (.inr notClosed)
    rw [← moved] at hkept
    have notClosed' : ¬ kept.IsClosed := by
      unfold WorkItemRow.IsClosed
      rw [← sameKept.state]
      exact notClosed
    obtain ⟨later, hlater, sameLater⟩ := retention.preserved.keeps hkept (.inr notClosed')
    exact ⟨later, hlater, sameKept.trans sameLater⟩

end Spared

def Effect.IsPreparation : Effect → Prop
  | .enroll _ _ _ => False
  | .move _ transition _ _ _ => transition = .expire ∨ transition = .leaseExpired ∨
      transition = .terminationAcknowledged ∨ transition = .delayMatured
  | _ => True

theorem isPreparation_maySweep (nowMs : Int) :
    MaySweep (fun _ effect => effect.IsPreparation) nowMs where
  retention := by
    intro _ effect retention
    cases effect <;> trivial
  expire _ _ _ := .inl rfl
  leaseExpired _ _ _ := .inr (.inl rfl)
  receipt _ _ _ _ _ := .inr (.inr (.inl rfl))
  mature _ _ _ := .inr (.inr (.inr rfl))

def Store.Awaits (store : Store) (row : WorkItemRow) : Prop :=
  ∀ later, store.getWorkItem row.workItemId = some later →
    later.toWorkItemProjection = row.toWorkItemProjection ∨ later.state = .expired

open Store

theorem Step.awaits (step : Step env store effect next)
    (replayed : store.Replayed False) (preparation : effect.IsPreparation)
    (recovered : row.state = .recovered) (awaits : store.Awaits row) : next.Awaits row := by
  intro later present
  have here : later.workItemId = row.workItemId := id_of_getWorkItem present
  have present : next.getWorkItem later.workItemId = some later := by
    rw [here]
    exact present
  rcases step.row_cases replayed present with
    enrolled | ⟨before, transition, toState, patch, moved⟩ | ⟨before, kept⟩
  · obtain ⟨_, _, _, rfl, _⟩ := enrolled.enrolls
    exact preparation.elim
  · -- only the expiry of a waiting item is legal among the sweeps
    obtain ⟨nowMs, rfl⟩ := moved.moves
    have found := moved.found
    rw [here] at found
    have legal := moved.legal
    have landed : later.state = toState := by
      rw [moved.projection]
      rfl
    right
    rw [landed]
    have from_ : before.state = .recovered ∨ before.state = .expired := by
      rcases awaits before found with same | expired
      · exact .inl (by rw [same]; exact recovered)
      · exact .inr expired
    rcases from_ with waiting | expired
    · rw [waiting] at legal
      rcases preparation with rfl | rfl | rfl | rfl <;> revert legal <;> cases toState <;> decide
    · rw [expired] at legal
      rcases preparation with rfl | rfl | rfl | rfl <;> revert legal <;> cases toState <;> decide
  · have found := kept.found
    rw [here] at found
    rcases awaits before found with same | expired
    · exact .inl (kept.projection.symm.trans same)
    · right
      rw [← kept.projection]
      exact expired

theorem Path.awaits (path : Path (Step env) (fun _ effect => effect.IsPreparation) store next)
    (replayed : store.Replayed False) (recovered : row.state = .recovered)
    (awaits : store.Awaits row) : next.Awaits row :=
  (path.preserves (@fun _ _ _ preparation step (holds : _ ∧ Awaits _ row) =>
    And.intro (step.replayed nofun holds.1)
      (step.awaits holds.1 preparation recovered holds.2)) ⟨replayed, awaits⟩).2

theorem ClaimInput.Serves.awaits
    (serves : input.Serves env definition store prepared aged next visits)
    (replayed : store.Replayed False) (recovered : row.state = .recovered)
    (awaits : store.Awaits row) : aged.Awaits row := by
  have may := isPreparation_maySweep input.nowMs
  obtain ⟨sweeps, swept, matured, sweeping, _, maturing⟩ := serves.reaches
  obtain ⟨promoted, promoting⟩ := serves.promotes
  have path : Path (Step env) (fun _ effect => effect.IsPreparation) store aged :=
    (sweepBeforeClaim_path may sweeping).trans
      ((materializeDelayedLocked_path may.retention may.mature maturing).trans
        (promoteAgedCandidates_path (fun _ _ _ _ _ _ _ => trivial) promoting))
  exact Path.awaits path replayed recovered awaits

section Visits

variable {input : ClaimInput} {selector : FairSelector} {store next : Store}
  (selected : Selected env store selector row.priorityClass row)

include selected in
theorem Selected.found : store.getWorkItem row.workItemId = some row ∧ row.state.isClaimable :=
  ⟨getWorkItem_of_mem selected.candidate.member,
    (isWaiting_iff.mp (isPending_iff.mp selected.candidate.pending).1).claimable⟩

structure VisitEnds (env : QueueEnv) (input : ClaimInput) (visit : Nat) (row : WorkItemRow)
    (result : ClaimVisit) (store next : Store) : Prop where
  selected : result.selected = row
  exhausted : row.maxAttempts ≤ row.attempt → ∃ item live, result = .exhausted row item ∧
    next.getWorkItem row.workItemId = some live ∧ live.state = .failed
  leased : row.attempt < row.maxAttempts → ∃ item live,
    result = .leased row item (input.leaseFor env visit row) ∧
    next.getWorkItem row.workItemId = some live ∧ live.toWorkItemProjection =
      (claimPatch row (input.leaseFor env visit row)).apply .running row.toWorkItemProjection
  spares : ∀ {other}, other ≠ row.workItemId →
    (∀ later, next.getWorkItem other = some later →
      ∃ before, store.getWorkItem other = some before ∧ before.SameItem later) ∧
    ∀ before, store.getWorkItem other = some before → ¬ before.IsClosed →
      ∃ later, next.getWorkItem other = some later ∧ before.SameItem later

include selected in
theorem visitCandidate_ends {result : ClaimVisit}
    (commits : (visitCandidate env input selector visit row).Commits store result next) :
    VisitEnds env input visit row result store next := by
  have found := selected.found.1
  have current : ∀ served : Store, served.workItems = store.workItems → row.IsCurrent served := by
    intro served workItems
    refine ⟨row, ?_, .refl row⟩
    unfold getWorkItem
    rw [workItems]
    exact found
  have same : ∀ served : Store, served.workItems = store.workItems →
      ∀ other, served.getWorkItem other = store.getWorkItem other := by
    intro served workItems other
    unfold getWorkItem
    rw [workItems]
  unfold visitCandidate at commits
  simp only [← selected.partition_eq] at commits
  split at commits
  · rename_i attempts
    simp only [commits_bind, commits_modify, commits_pure] at commits
    obtain ⟨_, _, rfl, failedRow, _, transitioned, rfl, rfl⟩ := commits
    have here := current (store.advanceVirtualFinish row.partition) rfl
    have landed := transitionProjection_result here transitioned
    refine ⟨rfl, fun _ => ⟨_, failedRow, rfl, landed.1, ?_⟩, fun left => by omega, ?_⟩
    · rw [landed.2.2]
      rfl
    · exact fun different => transitionProjection_spares here transitioned different
  · rename_i attempts
    simp only [commits_bind, commits_pure] at commits
    obtain ⟨_, served, serving, updated, _, transitioned, rfl, rfl⟩ := commits
    have workItems : served.workItems = store.workItems := by
      unfold countLeaseService at serving
      split at serving
      · rw [← commits_modify.mp serving]
        rfl
      · rw [(commits_pure.mp serving).2]
    have landed := transitionProjection_result (current served workItems) transitioned
    refine ⟨rfl, fun used => absurd used attempts,
      fun _ => ⟨_, updated, rfl, landed.1, landed.2.2⟩, ?_⟩
    intro other different
    have spares := transitionProjection_spares (current served workItems) transitioned different
    rwa [same served workItems] at spares

theorem claimLoop_unselected (id : String)
    (commits : (claimLoop env input selector remaining visit cursor).Commits store visits next)
    (busy : ∀ live, store.getWorkItem id = some live → live.state.isClaimable = false) :
    (∀ served ∈ visits, served.selected.workItemId ≠ id) ∧
      ∀ live, store.getWorkItem id = some live → ¬ live.IsClosed →
        ∃ later, next.getWorkItem id = some later ∧ live.SameItem later := by
  induction remaining generalizing store visit cursor visits with
  | zero =>
    obtain ⟨rfl, rfl⟩ := commits_pure.mp commits
    exact ⟨fun _ member => absurd member List.not_mem_nil,
      fun live found _ => ⟨live, found, .refl live⟩⟩
  | succ remaining induction =>
    unfold claimLoop at commits
    simp only [commits_bind, commits_get, commits_check] at commits
    obtain ⟨_, _, ⟨rfl, rfl⟩, chosen, _, ⟨selection, rfl⟩, commits⟩ := commits
    split at commits
    · obtain ⟨rfl, rfl⟩ := commits_pure.mp commits
      exact ⟨fun _ member => absurd member List.not_mem_nil,
      fun live found _ => ⟨live, found, .refl live⟩⟩
    · rename_i row nextCursor
      simp only [commits_bind, commits_pure] at commits
      obtain ⟨current, middle, visited, later, _, looped, rfl, rfl⟩ := commits
      have selected := selectFairCandidate_some selection
      have ends := visitCandidate_ends selected visited
      have different : id ≠ row.workItemId := by
        rintro rfl
        have claimable := busy row selected.found.1
        rw [selected.found.2] at claimable
        cases claimable
      have busyNext : ∀ live, middle.getWorkItem id = some live →
          live.state.isClaimable = false := by
        intro live found
        obtain ⟨before, hbefore, same⟩ := (ends.spares different).1 live found
        rw [← same.state]
        exact busy before hbefore
      obtain ⟨unselected, keeps⟩ := induction looped busyNext
      constructor
      · intro served member
        rcases List.mem_cons.mp member with rfl | member
        · rw [ends.selected]
          exact different.symm
        · exact unselected served member
      · intro live found notClosed
        obtain ⟨kept, hkept, sameKept⟩ := (ends.spares different).2 live found notClosed
        have notClosed' : ¬ kept.IsClosed := by
          unfold WorkItemRow.IsClosed
          rw [← sameKept.state]
          exact notClosed
        obtain ⟨last, hlast, sameLast⟩ := keeps kept hkept notClosed'
        exact ⟨last, hlast, sameKept.trans sameLast⟩

end Visits

def ClaimVisit.Leases (visit : ClaimVisit) (input : ClaimInput) (store : Store)
    (row : WorkItemRow) : Prop :=
  ∃ item lease live, visit.claimed? = some (item, lease) ∧
    lease.workerId = input.resolvedWorkerId ∧ lease.leaseSeq = row.leaseSeq + 1 ∧
    store.getWorkItem row.workItemId = some live ∧ live.state = .running ∧
    live.leaseId = lease.leaseId ∧ live.leaseSeq = lease.leaseSeq ∧
    live.leasedByWorkerId = lease.workerId ∧ live.attempt = row.attempt + 1

theorem claimLoop_leases (awaits : store.Awaits row)
    (commits : (claimLoop env input selector remaining visit cursor).Commits store visits next)
    (member : served ∈ visits) (selects : served.selected.workItemId = row.workItemId) :
    served.Leases input next row ↔ row.attempt < row.maxAttempts := by
  induction remaining generalizing store visit cursor visits with
  | zero =>
    obtain ⟨rfl, rfl⟩ := commits_pure.mp commits
    cases member
  | succ remaining induction =>
    unfold claimLoop at commits
    simp only [commits_bind, commits_get, commits_check] at commits
    obtain ⟨_, _, ⟨rfl, rfl⟩, chosen, _, ⟨selection, rfl⟩, commits⟩ := commits
    split at commits
    · obtain ⟨rfl, rfl⟩ := commits_pure.mp commits
      cases member
    · rename_i candidate nextCursor
      simp only [commits_bind, commits_pure] at commits
      obtain ⟨current, middle, visited, later, _, looped, rfl, rfl⟩ := commits
      have selected := selectFairCandidate_some selection
      have ends := visitCandidate_ends selected visited
      by_cases here : candidate.workItemId = row.workItemId
      · have same : candidate.toWorkItemProjection = row.toWorkItemProjection := by
          rcases awaits candidate (here ▸ selected.found.1) with same | expired
          · exact same
          · have claimable := selected.found.2
            rw [expired] at claimable
            cases claimable
        by_cases left : candidate.attempt < candidate.maxAttempts
        · obtain ⟨item, live, rfl, landed, projection⟩ := ends.leased left
          have leased : live.state = .running := by
            rw [projection]
            rfl
          have notClosed : ¬ live.IsClosed := by
            unfold WorkItemRow.IsClosed
            rw [leased]
            decide
          obtain ⟨unselected, keeps⟩ := claimLoop_unselected row.workItemId looped (by
            intro other found
            rw [← here, landed] at found
            cases found
            rw [leased]
            rfl)
          obtain ⟨last, hlast, sameLast⟩ := keeps live (here ▸ landed) notClosed
          rcases List.mem_cons.mp member with rfl | member
          · refine ⟨fun _ => by rw [← same]; exact left, fun _ => ?_⟩
            refine ⟨item, _, last, rfl, rfl, ?_, hlast, ?_⟩
            · rw [← same]
              rfl
            · rw [← sameLast.projection, projection, ← same]
              exact ⟨rfl, rfl, rfl, rfl, rfl⟩
          · exact absurd selects (unselected served member)
        · obtain ⟨item, live, rfl, landed, failed⟩ := ends.exhausted (by omega)
          obtain ⟨unselected, _⟩ := claimLoop_unselected row.workItemId looped (by
            intro other found
            rw [← here, landed] at found
            cases found
            rw [failed]
            rfl)
          rcases List.mem_cons.mp member with rfl | member
          · refine ⟨?_, fun more => absurd (by rw [same]; exact more) left⟩
            rintro ⟨item, lease, live, claimed, _⟩
            cases claimed
          · exact absurd selects (unselected served member)
      · have awaitsNext : middle.Awaits row := by
          intro live found
          obtain ⟨before, hbefore, sameItem⟩ := (ends.spares (Ne.symm here)).1 live found
          rcases awaits before hbefore with same | expired
          · exact .inl (sameItem.projection.symm.trans same)
          · right
            rw [← sameItem.state]
            exact expired
        rcases List.mem_cons.mp member with rfl | member
        · rw [ends.selected] at selects
          exact absurd selects here
        · exact induction awaitsNext looped member

theorem recover_result {input : RecoverInput}
    (found : store.getWorkItem (toText input.workItemId) = some failed)
    (commits : (recover env input).Commits store outcome next)
    (waiting : next.getWorkItem (toText input.workItemId) = some row) : row.state = .recovered ∧
      row.attempt = failed.attempt ∧ row.maxAttempts = failed.maxAttempts := by
  obtain ⟨present, _, required, commits⟩ := commits_bind.mp commits
  obtain ⟨hpresent, _, rfl⟩ := requireWorkItemBoundary_commits required
  rw [found] at hpresent
  cases hpresent
  split at commits
  · exact absurd commits commits_throw
  · simp only [commits_bind, commits_get, commits_check, commits_pure] at commits
    obtain ⟨_, _, ⟨rfl, rfl⟩, policy, _, ⟨_, rfl⟩, _, _, ⟨_, rfl⟩, updated, _, transitioned, _,
      rfl⟩ := commits
    obtain ⟨landed, _, projection⟩ :=
      transitionProjection_result (isCurrent_of_found found) transitioned
    rw [id_of_getWorkItem found, waiting] at landed
    cases landed
    rw [projection]
    exact ⟨rfl, rfl, rfl⟩

def Store.LeavesAlone (store : Store) (row : WorkItemRow) : Prop :=
  ∃ live, store.getWorkItem row.workItemId = some live ∧
    live.toWorkItemProjection = row.toWorkItemProjection

theorem recovered_claim_leases_iff (env : QueueEnv) (before between : List QueueCommand)
    (input : RecoverInput) (claimInput : ClaimInput) {outcome : ItemOutcome}
    {recovered next : Store} {failed row : WorkItemRow} {result : ClaimResult} {visit : ClaimVisit}
    (found : (runCommands env .empty before).getWorkItem (toText input.workItemId) = some failed)
    (recovers : (recover env input).Commits (runCommands env .empty before) outcome recovered)
    (waiting : recovered.getWorkItem (toText input.workItemId) = some row)
    (untouched : (runCommands env recovered between).LeavesAlone row)
    (claims : (claim env claimInput).Commits (runCommands env recovered between) result next)
    (member : visit ∈ result.visits) (selects : visit.selected.workItemId = row.workItemId) :
    visit.Leases claimInput next row ↔ failed.attempt < failed.maxAttempts := by
  obtain ⟨state, attempt, maxAttempts⟩ := recover_result found recovers waiting
  have replayed : (runCommands env recovered between).Replayed False := by
    have reached : applyCommand env (runCommands env .empty before) (.recover input) =
        recovered := recovers.applied_eq
    refine runCommands_replayed_from ?_ between
    rw [← reached]
    exact applyCommand_replayed False.elim (runCommands_replayed_from replayed_empty before)
  have awaits : (runCommands env recovered between).Awaits row := by
    obtain ⟨live, hlive, same⟩ := untouched
    intro later hlater
    rw [hlive] at hlater
    cases hlater
    exact .inl same
  rw [← attempt, ← maxAttempts]
  rcases claim_cases claims with ⟨unserved, _⟩ | ⟨definition, prepared, aged, serves⟩
  · rw [ClaimResult.visits_of_held unserved] at member
    cases member
  · exact claimLoop_leases (serves.awaits replayed state awaits) serves.looped member selects

def failedRun (maxAttempts : Int) : List QueueCommand :=
  [.enqueue { sampleEnqueue "item" "tenant" 0 10 with maxAttempts := some maxAttempts },
    .claim (sampleClaim leaseA 1 20),
    .fail { nowMs := 30, workItemId := "item", leaseId := leaseA.val }]

def sampleRecovery : RecoverInput := { nowMs := 40, workItemId := "item" }

def recoveredVisit (maxAttempts : Int) (test : ClaimVisit → Bool) : Bool :=
  ((recover (sampleEnv .sqlite defaultQueuePolicy) sampleRecovery).passes
    (runCommands (sampleEnv .sqlite defaultQueuePolicy) .empty (failedRun maxAttempts))
    fun _ recovered => (recovered.getWorkItem "item").isSome &&
      (claim (sampleEnv .sqlite defaultQueuePolicy) (sampleClaim leaseB 1 50)).passes recovered
        fun result _ => result.visits.any fun visit =>
          visit.selected.workItemId = "item" && test visit)

theorem recoveredVisit_parts (visited : recoveredVisit maxAttempts test) :
    ∃ outcome recovered row result next visit,
      (recover (sampleEnv .sqlite defaultQueuePolicy) sampleRecovery).Commits
        (runCommands (sampleEnv .sqlite defaultQueuePolicy) .empty (failedRun maxAttempts))
        outcome recovered ∧
      recovered.getWorkItem "item" = some row ∧ row.workItemId = "item" ∧
      (claim (sampleEnv .sqlite defaultQueuePolicy) (sampleClaim leaseB 1 50)).Commits recovered
        result next ∧
      visit ∈ result.visits ∧ visit.selected.workItemId = row.workItemId ∧ test visit := by
  obtain ⟨outcome, recovered, recovers, rest⟩ := passes_iff.mp visited
  obtain ⟨present, claims⟩ := Bool.and_eq_true_iff.mp rest
  obtain ⟨row, waiting⟩ := Option.isSome_iff_exists.mp present
  obtain ⟨result, next, claims, found⟩ := passes_iff.mp claims
  obtain ⟨visit, member, tested⟩ := List.any_eq_true.mp found
  obtain ⟨selects, tested⟩ := Bool.and_eq_true_iff.mp tested
  have here := id_of_getWorkItem waiting
  exact ⟨outcome, recovered, row, result, next, visit, recovers, waiting, here, claims, member,
    (of_decide_eq_true selects).trans here.symm, tested⟩

theorem recovered_claim_leases_iff_second_attempt :
    ∃ (failed row : WorkItemRow) (recovered next : Store) (visit : ClaimVisit),
      (runCommands (sampleEnv .sqlite defaultQueuePolicy) .empty (failedRun 2)).getWorkItem "item" =
        some failed ∧ recovered.getWorkItem "item" = some row ∧
      (visit.Leases (sampleClaim leaseB 1 50) next row ↔
        failed.attempt < failed.maxAttempts) := by
  obtain ⟨outcome, recovered, row, result, next, visit, recovers, waiting, here, claims, member,
    selects, _⟩ := recoveredVisit_parts
      (by decide +kernel : recoveredVisit 2 fun visit => visit.claimed?.isSome)
  obtain ⟨failed, found⟩ : ∃ failed, (runCommands (sampleEnv .sqlite defaultQueuePolicy) .empty
      (failedRun 2)).getWorkItem "item" = some failed :=
    Option.isSome_iff_exists.mp (by decide +kernel)
  exact ⟨failed, row, recovered, next, visit, found, waiting,
    recovered_claim_leases_iff _ (failedRun 2) [] sampleRecovery _ found recovers waiting
      ⟨row, here ▸ waiting, rfl⟩ claims member selects⟩

def RecoveryMakesRunnable (env : QueueEnv) : Prop :=
  ∀ (before between : List QueueCommand) (input : RecoverInput) (claimInput : ClaimInput)
    (outcome : ItemOutcome) (recovered next : Store) (row : WorkItemRow) (result : ClaimResult)
    (visit : ClaimVisit),
    (recover env input).Commits (runCommands env .empty before) outcome recovered →
    recovered.getWorkItem (toText input.workItemId) = some row →
    (∀ earlier, earlier <+: between → (runCommands env recovered earlier).LeavesAlone row) →
    (claim env claimInput).Commits (runCommands env recovered between) result next →
    visit ∈ result.visits → visit.selected.workItemId = row.workItemId →
    visit.Leases claimInput next row

/-- An item whose only attempt failed is failed again by the claim after its recovery. -/
theorem not_recoveryMakesRunnable :
    ¬ RecoveryMakesRunnable (sampleEnv .sqlite defaultQueuePolicy) := by
  intro runnable
  obtain ⟨outcome, recovered, row, result, next, visit, recovers, waiting, here, claims, member,
    selects, unclaimed⟩ := recoveredVisit_parts
      (by decide +kernel : recoveredVisit 1 fun visit => visit.claimed?.isNone)
  obtain ⟨item, lease, live, claimed, _⟩ := runnable (failedRun 1) [] sampleRecovery _ outcome
    recovered next row result visit recovers waiting (by
      intro earlier isPrefix
      rw [List.prefix_nil.mp isPrefix]
      exact ⟨row, here ▸ waiting, rfl⟩) claims member selects
  rw [claimed] at unclaimed
  cases unclaimed

end LicoMesh.WorkQueue
