import LicoMesh.WorkQueue.Evolution

namespace LicoMesh.WorkQueue

open Library Transaction ProjectionPatch

variable {result : ClaimVisit} {row later : WorkItemRow} {effect : Effect} {input : ClaimInput}
  {selector : FairSelector} {visit : Nat}

structure WorkItemRow.WellFormed (row : WorkItemRow) : Prop where
  attempts : row.attempt = row.leaseSeq
  bounded : row.attempt ≤ row.maxAttempts
  leased : row.state = .running ∨ row.state = .inDoubt → row.leaseId ≠ "" ∧ 1 ≤ row.leaseSeq
  unleased : ¬ (row.state = .running ∨ row.state = .inDoubt) →
    row.leaseId = "" ∧ row.leasedByWorkerId = "" ∧ row.leaseExpiresAtMs = 0
  deadline : row.state = .running → 0 < row.expiresAtMs → row.leaseExpiresAtMs ≤ row.expiresAtMs
  trimmed : toText row.leaseId = row.leaseId

structure Store.WellFormed (store : Store) : Prop where
  rows : ∀ {row}, store.getWorkItem row.workItemId = some row → row.WellFormed
  exclusive : ∀ {left right}, store.getWorkItem left.workItemId = some left →
    store.getWorkItem right.workItemId = some right → left.state = .running →
    right.state = .running → left.queueDefinitionId = right.queueDefinitionId →
    left.scopeKey = right.scopeKey → left.concurrencyKey = right.concurrencyKey →
    left.concurrencyKey ≠ "" → left.workItemId = right.workItemId

open Store

variable {env : QueueEnv} {store next : Store}

theorem isLeased_iff {state : WorkQueueState} :
    state.isLeased ↔ state = .running ∨ state = .inDoubt := by
  cases state <;> decide

theorem WorkItemRow.IsNew.wellFormed (isNew : row.IsNew) : row.WellFormed := by
  have waiting : ¬ (row.state = .running ∨ row.state = .inDoubt) := by
    rcases isNew.state with queued | delayed
    · simp [queued]
    · simp [delayed]
  refine ⟨?_, ?_, fun leased => absurd leased waiting, fun _ =>
    ⟨isNew.leaseId, isNew.leasedByWorkerId, isNew.leaseExpiresAtMs⟩,
    fun running => absurd (.inl running) waiting, ?_⟩
  · rw [isNew.attempt, isNew.leaseSeq]
  · rw [isNew.attempt]
    exact Nat.zero_le _
  · rw [isNew.leaseId]
    rfl

theorem WorkItemRow.WellFormed.congr (wellFormed : row.WellFormed)
    (request : row.toWorkItemRequest = later.toWorkItemRequest)
    (projection : row.toWorkItemProjection = later.toWorkItemProjection) : later.WellFormed := by
  obtain ⟨attempts, bounded, leased, unleased, deadline, trimmed⟩ := wellFormed
  rw [request, projection] at deadline
  rw [projection] at attempts bounded leased unleased trimmed
  exact ⟨attempts, bounded, leased, unleased, deadline, trimmed⟩

theorem Moved.wellFormed (moved : Moved env store effect row later transition toState patch)
    (wellFormed : row.WellFormed) : later.WellFormed := by
  have projection := moved.projection
  have legal := moved.legal
  have request := moved.request
  cases moved.guard with
  | claimed lease policy attempts leaseId leaseSeq deadline =>
    refine ⟨?_, ?_, fun _ => ?_, fun unleased => ?_, fun _ bounded => ?_, ?_⟩
    · rw [projection]
      show row.attempt + 1 = lease.leaseSeq
      rw [leaseSeq, wellFormed.attempts]
    · rw [projection]
      show row.attempt + 1 ≤ row.maxAttempts
      omega
    · rw [projection]
      show lease.leaseId ≠ "" ∧ 1 ≤ lease.leaseSeq
      exact ⟨leaseId.1, by omega⟩
    · rw [projection] at unleased
      exact absurd (.inl rfl) unleased
    · rw [← request] at bounded ⊢
      rw [projection]
      exact deadline bounded
    · rw [projection]
      exact leaseId.2
  | renewed expiresAtMs deadline =>
    have running : row.state = .running := by
      revert legal
      cases row.state <;> decide
    refine ⟨?_, ?_, fun _ => ?_, fun unleased => ?_, fun _ bounded => ?_, ?_⟩
    · rw [projection]
      exact wellFormed.attempts
    · rw [projection]
      exact wellFormed.bounded
    · rw [projection]
      exact wellFormed.leased (.inl running)
    · rw [projection] at unleased
      exact absurd (.inl rfl) unleased
    · rw [← request] at bounded ⊢
      rw [projection]
      exact deadline bounded
    · rw [projection]
      exact wellFormed.trimmed
  | doubted transition lastError interrupts =>
    have running : row.state = .running := by
      revert legal
      rcases interrupts with rfl | rfl <;> cases row.state <;> decide
    refine ⟨?_, ?_, fun _ => ?_, fun unleased => ?_, fun runs => ?_, ?_⟩
    · rw [projection]
      exact wellFormed.attempts
    · rw [projection]
      exact wellFormed.bounded
    · rw [projection]
      exact wellFormed.leased (.inl running)
    · rw [projection] at unleased
      exact absurd (.inr rfl) unleased
    · rw [projection] at runs
      cases runs
    · rw [projection]
      exact wellFormed.trimmed
  | released _ _ _ unleased _ releases =>
    have state : later.state = toState := by rw [projection]; rfl
    have waiting : ¬ (later.state = .running ∨ later.state = .inDoubt) := by
      rw [state, ← isLeased_iff, unleased]
      exact Bool.false_ne_true
    have attempt : later.attempt = row.attempt := by
      rw [projection]
      unfold apply
      rcases releases.attempt with kept | written
      · rw [kept]
        rfl
      · rw [written]
        rfl
    refine ⟨?_, ?_, fun leased => absurd leased waiting, fun _ => ?_,
      fun running => absurd (.inl running) waiting, ?_⟩
    · rw [attempt, wellFormed.attempts, projection]
      unfold apply
      rw [releases.leaseSeq]
      rfl
    · rw [attempt, projection]
      exact wellFormed.bounded
    · rw [projection]
      unfold apply
      rw [releases.leaseId, releases.leasedByWorkerId, releases.leaseExpiresAtMs]
      exact ⟨rfl, rfl, rfl⟩
    · rw [projection]
      unfold apply
      rw [releases.leaseId]
      rfl

theorem concurrencyFree_iff :
    store.concurrencyFree row ↔ ∀ active, store.getWorkItem active.workItemId = some active →
      active.queueDefinitionId = row.queueDefinitionId → active.scopeKey = row.scopeKey →
      active.concurrencyKey = row.concurrencyKey → active.concurrencyKey ≠ "" →
      active.state = .running → active.workItemId = row.workItemId := by
  unfold concurrencyFree
  simp only [Bool.not_eq_true', List.any_eq_false, Bool.and_eq_true, decide_eq_true_eq]
  constructor
  · intro free active found queue scope key named running
    have blocked := free active (mem_of_getWorkItem found)
    by_contra different
    exact blocked ⟨⟨⟨⟨⟨queue, scope⟩, key⟩, named⟩, running⟩, different⟩
  · intro free active member ⟨⟨⟨⟨⟨queue, scope⟩, key⟩, named⟩, running⟩, different⟩
    exact different (free active (getWorkItem_of_mem member) queue scope key named running)

variable (step : Step env store effect next)
include step

variable (replayed : store.Replayed False)
include replayed

theorem Step.running_cases
    (present : next.getWorkItem later.workItemId = some later) (running : later.state = .running) :
    ∃ row, store.getWorkItem later.workItemId = some row ∧
      row.toWorkItemRequest = later.toWorkItemRequest ∧
      (row.state = .running ∨ ∃ patch nowMs, effect = .move row .claim .running patch nowMs ∧
        store.concurrencyFree row) := by
  rcases step.row_cases replayed present with
    enrolled | ⟨row, transition, toState, patch, moved⟩ | ⟨row, kept⟩
  · obtain ⟨row, _, _, _, isNew, _, same⟩ := enrolled.enrolls
    rw [← same.state] at running
    rcases isNew.state with queued | delayed
    · rw [queued] at running
      cases running
    · rw [delayed] at running
      cases running
  · refine ⟨row, moved.found, moved.request, ?_⟩
    obtain ⟨nowMs, same⟩ := moved.moves
    have legal := moved.legal
    have landed := moved.projection
    cases moved.guard with
    | claimed lease policy _ _ _ _ _ _ concurrency =>
      exact .inr ⟨_, nowMs, same, concurrency⟩
    | renewed =>
      refine .inl ?_
      revert legal
      cases row.state <;> decide
    | doubted =>
      rw [landed] at running
      cases running
    | released _ _ _ unleased =>
      have state : toState = .running := by
        rw [landed] at running
        exact running
      rw [state] at unleased
      cases unleased
  · refine ⟨row, kept.found, kept.request, .inl ?_⟩
    rw [kept.projection]
    exact running

theorem Step.wellFormed (wellFormed : store.WellFormed) : next.WellFormed where
  rows := by
    intro later present
    rcases step.row_cases replayed present with
      enrolled | ⟨row, _, _, _, moved⟩ | ⟨row, kept⟩
    · obtain ⟨row, _, _, _, isNew, _, same⟩ := enrolled.enrolls
      exact isNew.wellFormed.congr same.request same.projection
    · have found := moved.found
      rw [← (show row.workItemId = later.workItemId by rw [moved.request])] at found
      exact moved.wellFormed (wellFormed.rows found)
    · have found := kept.found
      rw [← (show row.workItemId = later.workItemId by rw [kept.request])] at found
      exact (wellFormed.rows found).congr kept.request kept.projection
  exclusive := by
    intro left right hleft hright leftRuns rightRuns queue scope key named
    obtain ⟨row, found, request, row_cases⟩ := step.running_cases replayed hleft leftRuns
    obtain ⟨row', found', request', row_cases'⟩ := step.running_cases replayed hright rightRuns
    rw [← request, ← request'] at queue scope key ⊢
    rw [← request] at named found
    rw [← request'] at found'
    rcases row_cases with running | ⟨patch, nowMs, moves, free⟩
    · rcases row_cases' with running' | ⟨patch', nowMs', moves', free'⟩
      · exact wellFormed.exclusive found found' running running' queue scope key named
      · exact concurrencyFree_iff.mp free' row found queue scope key named running
    · rcases row_cases' with running' | ⟨patch', nowMs', moves', free'⟩
      · exact (concurrencyFree_iff.mp free row' found' queue.symm scope.symm key.symm
          (key ▸ named) running').symm
      · rw [moves] at moves'
        cases moves'
        rfl

omit replayed step

theorem wellFormed_empty : empty.WellFormed where
  rows := nofun
  exclusive := nofun

/-- The invariant the well-formedness of rows is carried by. -/
structure Store.Sound (store : Store) : Prop where
  replayed : store.Replayed False
  wellFormed : store.WellFormed

theorem sound_empty : empty.Sound := ⟨replayed_empty, wellFormed_empty⟩

include step in
theorem Step.sound (sound : store.Sound) : next.Sound :=
  ⟨step.replayed nofun sound.replayed, step.wellFormed sound.replayed sound.wellFormed⟩

theorem applyCommand_sound (env : QueueEnv) (store : Store) (command : QueueCommand)
    (sound : store.Sound) : (applyCommand env store command).Sound :=
  (applyCommand_path env store command).preserves (fun _ step => step.sound) sound

theorem runCommands_sound (sound : store.Sound) (commands : List QueueCommand) :
    (runCommands env store commands).Sound :=
  runAll_invariant (applyCommand_sound env) sound commands

section Leases

theorem visitCandidate_leased (current : row.IsCurrent store)
    (commits : (visitCandidate env input selector visit row).Commits store result next)
    (claimed : result.claimed? = some entry) : entry.1.workItemId = row.workItemId ∧
      entry.2.leaseSeq = row.leaseSeq + 1 ∧ ∃ later, next.getWorkItem row.workItemId = some later ∧
      later.leaseSeq = entry.2.leaseSeq := by
  unfold visitCandidate at commits
  split at commits
  · simp only [commits_bind, commits_pure] at commits
    obtain ⟨_, _, _, _, _, _, rfl, _⟩ := commits
    cases claimed
  · simp only [commits_bind, commits_pure] at commits
    obtain ⟨_, served, serving, updated, _, transitioned, rfl, rfl⟩ := commits
    cases claimed
    have served_current : row.IsCurrent served := by
      unfold countLeaseService at serving
      split at serving
      · have serving := commits_modify.mp serving
        exact serving ▸ current
      · obtain ⟨_, rfl⟩ := commits_pure.mp serving
        exact current
    obtain ⟨landed, request, projection⟩ := transitionProjection_result served_current transitioned
    refine ⟨?_, rfl, updated, landed, ?_⟩
    · show updated.workItemId = row.workItemId
      rw [request]
    · rw [projection]
      rfl

structure LeasesRise (before after : Store) (claimed : List (WorkItem × WorkItemLease)) : Prop where
  above : ∀ entry ∈ claimed, ∃ row, before.getWorkItem entry.1.workItemId = some row ∧
    row.leaseSeq < entry.2.leaseSeq
  below : ∀ entry ∈ claimed, ∀ later, after.getWorkItem entry.1.workItemId = some later →
    entry.2.leaseSeq ≤ later.leaseSeq
  distinct : claimed.Pairwise fun earlier later =>
    earlier.1.workItemId = later.1.workItemId → earlier.2.leaseSeq < later.2.leaseSeq

theorem LeasesRise.nil : LeasesRise before after [] where
  above _ member := absurd member List.not_mem_nil
  below _ member := absurd member List.not_mem_nil
  distinct := .nil

theorem LeasesRise.append
    {earlier later : List (WorkItem × WorkItemLease)} (left : LeasesRise first second earlier)
    (right : LeasesRise second third later) (begins : first.Evolves second)
    (ends : second.Evolves third) : LeasesRise first third (earlier ++ later) where
  above := by
    intro entry member
    rcases List.mem_append.mp member with here | there
    · exact left.above entry here
    · obtain ⟨row, found, rises⟩ := right.above entry there
      have id := id_of_getWorkItem found
      rw [← id] at found ⊢
      obtain ⟨before, hbefore, evolves⟩ := begins row found
      exact ⟨before, hbefore, Nat.lt_of_le_of_lt evolves.leaseSeq rises⟩
  below := by
    intro entry member last present
    rcases List.mem_append.mp member with here | there
    · have id := id_of_getWorkItem present
      rw [← id] at present
      obtain ⟨middle, hmiddle, evolves⟩ := ends last present
      exact Nat.le_trans (left.below entry here middle (id ▸ hmiddle)) evolves.leaseSeq
    · exact right.below entry there last present
  distinct := by
    refine List.pairwise_append.mpr ⟨left.distinct, right.distinct, ?_⟩
    intro earlier here later there same
    obtain ⟨row, found, rises⟩ := right.above later there
    exact Nat.lt_of_le_of_lt (left.below earlier here row (same ▸ found)) rises

theorem visitCandidate_rises (found : store.getWorkItem row.workItemId = some row)
    (commits : (visitCandidate env input selector visit row).Commits store result next) :
    LeasesRise store next result.claimed?.toList := by
  cases granted : result.claimed? with
  | none => exact .nil
  | some entry =>
    obtain ⟨id, seq, later, landed, same⟩ :=
      visitCandidate_leased ⟨row, found, .refl row⟩ commits granted
    refine ⟨?_, ?_, List.pairwise_singleton _ _⟩
    · intro other member
      cases List.mem_singleton.mp member
      exact ⟨row, by rw [id, found], by omega⟩
    · intro other member last present
      cases List.mem_singleton.mp member
      rw [id, landed] at present
      cases present
      omega

include replayed

theorem claimLoop_rises
    (commits : (claimLoop env input selector remaining visit priorityCursor).Commits
      store visits next) : LeasesRise store next (visits.filterMap ClaimVisit.claimed?) := by
  induction remaining generalizing store visit priorityCursor visits with
  | zero =>
    obtain ⟨rfl, rfl⟩ := commits_pure.mp commits
    exact .nil
  | succ remaining induction =>
    have may := enrollsNone_mayClaim input.nowMs
    unfold claimLoop at commits
    simp only [commits_bind, commits_get, commits_check] at commits
    obtain ⟨_, _, ⟨rfl, rfl⟩, selected, _, ⟨selection, rfl⟩, commits⟩ := commits
    split at commits
    · obtain ⟨rfl, rfl⟩ := commits_pure.mp commits
      exact .nil
    · simp only [commits_bind, commits_pure] at commits
      obtain ⟨current, middle, visited, later, last, looped, rfl, rfl⟩ := commits
      have chosen := selectFairCandidate_some selection
      have first := visitCandidate_path chosen may visited
      have replayed' := first.preserves (fun _ step => step.replayed False.elim) replayed
      have rises := (visitCandidate_rises (getWorkItem_of_mem chosen.candidate.member)
        visited).append (induction replayed' looped) (Path.evolves first replayed)
          (Path.evolves (claimLoop_path may looped) replayed')
      cases granted : current.claimed? with
      | none => simpa [granted] using rises
      | some entry => simpa [granted] using rises

theorem claim_rises {result : ClaimResult} (commits : (claim env input).Commits store result next) :
    LeasesRise store next result.claimed := by
  unfold ClaimResult.claimed
  rcases claim_cases commits with ⟨held, _⟩ | ⟨definition, prepared, aged, serves⟩
  · rw [ClaimResult.visits_of_held held]
    exact .nil
  · have may := enrollsNone_mayClaim input.nowMs
    obtain ⟨sweeps, swept, matured, sweeping, _, maturing⟩ := serves.reaches
    obtain ⟨promoted, promoting⟩ := serves.promotes
    have sweepPath := (sweepBeforeClaim_path may.toMaySweep sweeping).trans
      ((materializeDelayedLocked_path may.retention may.mature maturing).trans
        (promoteAgedCandidates_path (fun _ _ _ _ _ _ _ => trivial) promoting))
    have replayed' := sweepPath.preserves (fun _ step => step.replayed nofun) replayed
    have begins := Path.evolves sweepPath replayed
    exact LeasesRise.nil.append (claimLoop_rises replayed' serves.looped) begins
      (Path.evolves (claimLoop_path may serves.looped) replayed')

end Leases

structure Store.KeepsRows (env : QueueEnv) (store : Store) : Prop where
  wellFormed : store.WellFormed
  leaseSeq : ∀ {row rest later}, store.getWorkItem row.workItemId = some row →
    RetainedAlong env row.workItemId store rest →
    (runCommands env store rest).getWorkItem row.workItemId = some later →
    row.leaseSeq ≤ later.leaseSeq
  terminal : ∀ {row rest later}, store.getWorkItem row.workItemId = some row →
    RetainedAlong env row.workItemId store rest →
    (runCommands env store rest).getWorkItem row.workItemId = some later →
    row.state = .completed ∨ row.state = .cancelled ∨ row.state = .expired → later.state = row.state
  sameClaim : ∀ {input result next}, (claim env input).Commits store result next →
    result.claimed.Pairwise fun earlier later =>
      earlier.1.workItemId = later.1.workItemId → earlier.2.leaseSeq < later.2.leaseSeq
  laterClaim : ∀ {input result next between input' result' last earlier later},
    (claim env input).Commits store result next →
    (claim env input').Commits (runCommands env next between) result' last →
    earlier ∈ result.claimed → later ∈ result'.claimed →
    earlier.1.workItemId = later.1.workItemId →
    RetainedAlong env earlier.1.workItemId next between →
    earlier.2.leaseSeq < later.2.leaseSeq

theorem Store.Sound.keepsRows (sound : store.Sound) : store.KeepsRows env where
  wellFormed := sound.wellFormed
  leaseSeq := by
    intro row rest later found retained present
    obtain ⟨last, hlast, evolves⟩ := runCommands_holds sound.replayed found retained
    rw [present] at hlast
    cases hlast
    exact evolves.leaseSeq
  terminal := by
    intro row rest later found retained present settled
    obtain ⟨last, hlast, evolves⟩ := runCommands_holds sound.replayed found retained
    rw [present] at hlast
    cases hlast
    refine (evolves.state ?_).symm
    rcases settled with state | state | state <;> rw [state] <;> rfl
  sameClaim commits := (claim_rises sound.replayed commits).distinct
  laterClaim := by
    intro input result next between input' result' last earlier later commits commits'
      granted granted' same retained
    have replayed : next.Replayed False := by
      have applied := applyCommand_sound env store (.claim input) sound
      rw [applyCommand, commits.applied_eq] at applied
      exact applied.replayed
    obtain ⟨row, hrow⟩ := Option.isSome_iff_exists.mp retained.1
    have id := id_of_getWorkItem hrow
    have begins := (claim_rises sound.replayed commits).below earlier granted row hrow
    rw [← id] at hrow retained
    obtain ⟨kept, hkept, evolves⟩ := runCommands_holds replayed hrow retained
    have rises := claim_rises (runCommands_replayed_from replayed between) commits'
    obtain ⟨before, hbefore, above⟩ := rises.above later granted'
    rw [← same, ← id, hkept] at hbefore
    cases hbefore
    exact Nat.lt_of_le_of_lt begins (Nat.lt_of_le_of_lt evolves.leaseSeq above)

/-- Every reachable store has well-formed rows, and keeps them along every run. -/
theorem runCommands_keepsRows (env : QueueEnv) (commands : List QueueCommand) :
    (runCommands env .empty commands).KeepsRows env :=
  (runCommands_sound sound_empty commands).keepsRows

end LicoMesh.WorkQueue
