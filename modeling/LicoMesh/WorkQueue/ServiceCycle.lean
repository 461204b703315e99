import LicoMesh.Library.Cycle
import LicoMesh.WorkQueue.Commands

namespace LicoMesh.WorkQueue

open Library Transaction

/-! The weighted cycle over whole claim calls: the cursor inside a call and the
sum of the service counters between calls walk over the same slots. -/

variable {selector : FairSelector} {result row : WorkItemRow} {transition : WorkQueueTransition}
  {toState : WorkQueueState} {patch : ProjectionPatch} {visits : List ClaimVisit} {nowMs : Int}
  {visit : Nat}

section Counts

def Store.service (store : Store) (counts : PartitionKey → Bool) : Nat :=
  ((store.virtualFinish.rows.filter fun row => counts row.toPartitionKey).map
    fun row => row.virtualFinish).sum

variable {env : QueueEnv} {store next : Store} {counts : PartitionKey → Bool}

section Counters

theorem service_congr (same : next.virtualFinish = store.virtualFinish) :
    next.service counts = store.service counts := by
  unfold Store.service
  rw [same]

theorem service_advanceVirtualFinish (counted : (store.virtualFinish.find? key).isSome) :
    (store.advanceVirtualFinish key).service counts =
      store.service counts + if counts key then 1 else 0 := by
  obtain ⟨row, found⟩ := Option.isSome_iff_exists.mp counted
  obtain ⟨remainder, before, _, after⟩ := Table.exists_remainder found
  have here : row.toPartitionKey = key := store.virtualFinish.key_of_find? found
  have after := after (fun row => { row with virtualFinish := row.virtualFinish + 1 })
    fun _ => rfl
  have sum : ∀ {rows others : List VirtualFinishRow}, rows.Perm others →
      ((rows.filter fun row => counts row.toPartitionKey).map fun row => row.virtualFinish).sum =
        ((others.filter fun row => counts row.toPartitionKey).map
          fun row => row.virtualFinish).sum :=
    fun perm => ((perm.filter _).map _).sum_nat
  unfold Store.service Store.advanceVirtualFinish
  rw [sum before, sum after]
  by_cases counted : counts key
  · simp only [List.filter_cons, here, counted, if_true, List.map_cons, List.sum_cons]
    omega
  · simp only [List.filter_cons, here, counted, Bool.false_eq_true, if_false, Nat.add_zero]

end Counters

section Visits

theorem transitionProjectionInternal_virtualFinish (current : row.IsCurrent store)
    (commits : (transitionProjectionInternal env row transition toState patch nowMs).Commits
      store result next) : next.virtualFinish = store.virtualFinish := by
  obtain ⟨present, found, same⟩ := current
  obtain ⟨room, live, making, _, _, _, _, retention, _⟩ :=
    transitionProjectionInternal_cases found same commits
  exact retention.preserved.virtualFinish.trans making.preserved.virtualFinish

theorem transitionProjection_virtualFinish (current : row.IsCurrent store)
    (nonterminal : toState.isTerminal = false)
    (commits : (transitionProjection env row transition toState patch nowMs).Commits
      store result next) : next.virtualFinish = store.virtualFinish := by
  unfold transitionProjection at commits
  simp only [commits_bind, commits_get] at commits
  obtain ⟨updated, middle, transitioned, _, _, ⟨rfl, rfl⟩, commits⟩ := commits
  have landed : updated.state = toState := by
    rw [(transitionProjectionInternal_result current transitioned).2.2]
    rfl
  have idle : ¬ (updated.state.isTerminal ∧ middle.hasNonterminalInBoundary
      updated.queueDefinitionId updated.scopeKey = false) := by
    rintro ⟨terminal, _⟩
    rw [landed, nonterminal] at terminal
    cases terminal
  rw [if_neg idle] at commits
  obtain ⟨_, rfl⟩ := commits_pure.mp commits
  exact transitionProjectionInternal_virtualFinish current transitioned

variable (selected : Selected env store selector row.priorityClass row)
include selected

section

variable {result : ClaimVisit} (sqlite : env.adapter = .sqlite)
  (commits : (visitCandidate env input selector visit row).Commits store result next)
include sqlite commits

theorem visitCandidate_cases : result.selected = row ∧
      next.virtualFinish = (store.advanceVirtualFinish row.partition).virtualFinish := by
  unfold visitCandidate at commits
  simp only [← selected.partition_eq] at commits
  have current : row.IsCurrent (store.advanceVirtualFinish row.partition) :=
    ⟨row, Store.getWorkItem_of_mem selected.candidate.member, .refl row⟩
  split at commits
  · simp only [commits_bind, commits_modify, commits_pure] at commits
    obtain ⟨_, _, rfl, _, _, transitioned, rfl, rfl⟩ := commits
    exact ⟨rfl, transitionProjection_virtualFinish current rfl transitioned⟩
  · unfold countLeaseService at commits
    simp only [sqlite, commits_bind, commits_modify, commits_pure] at commits
    obtain ⟨_, _, rfl, _, _, transitioned, rfl, rfl⟩ := commits
    exact ⟨rfl, transitionProjection_virtualFinish current rfl transitioned⟩

theorem visitCandidate_service :
    next.service counts = store.service counts + if counts row.partition then 1 else 0 := by
  rw [service_congr (visitCandidate_cases selected sqlite commits).2,
    service_advanceVirtualFinish selected.candidate.counted]

end

end Visits

end Counts

structure ServiceKey where
  queueDefinitionId : String
  queueDefinitionVersion : Nat
  selectorScopeKey : String

def ServiceKey.counts (key : ServiceKey) (partition : PartitionKey) : Bool :=
  partition.queueDefinitionId = key.queueDefinitionId &&
    partition.selectorScopeKey = key.selectorScopeKey && (key.queueDefinitionVersion = 0 ||
      partition.queueDefinitionVersion = key.queueDefinitionVersion)

def FairSelector.serviceKey (selector : FairSelector) : ServiceKey where
  queueDefinitionId := selector.queueDefinitionId
  queueDefinitionVersion := selector.queueDefinitionVersion
  selectorScopeKey := selector.selectorScopeKey

section Slots

variable (env : QueueEnv) (input : ClaimInput)

def slotStores (selector : FairSelector) : Nat → Nat → Nat → Store → List Store
  | 0, _, _, _ => []
  | remaining + 1, visit, priorityCursor, store =>
    store ::
      match selectFairCandidate env store selector workQueuePriorityCycle.length
          priorityCursor with
      | .ok (some (row, nextCursor)) =>
        match visitCandidate env input selector visit row store with
        | .ok (_, next) => slotStores selector remaining (visit + 1) nextCursor next
        | .error _ => []
      | _ => []

def ClaimInput.slots : StoreTransaction (List Store) := do
  let definition ← check (resolveQueueDefinition input.queue false true)
  let _ ← sweepBeforeClaim env input definition.queueDefinitionId
  let _ ← matureAndPromote env input (input.selector definition)
  let prepared ← get
  return slotStores env input (input.selector definition) input.resolvedBatchSize 0
    (virtualFinishCursor prepared (input.selector definition)) prepared

end Slots

def EachClassClaimable (env : QueueEnv) (selector : FairSelector) (store : Store) : Prop :=
  ∀ priorityClass, ∃ row, IsClaimable env store selector priorityClass row

inductive ClaimCalls (env : QueueEnv) (key : ServiceKey) :
    Store → List Nat → List ClaimVisit → Store → Prop
  | nil (store : Store) : ClaimCalls env key store [] [] store
  | cons {store next last : Store} {input : ClaimInput} {definition : ResolvedQueueDefinition}
      {result : ClaimResult} {sizes : List Nat} {visits : List ClaimVisit}
      (commits : (claim env input).Commits store result next) (served : result.isServed)
      (resolved : resolveQueueDefinition input.queue false true = .ok definition)
      (named : (input.selector definition).serviceKey = key)
      (claimable : ∀ slots after, (input.slots env).Commits store slots after →
        ∀ slot ∈ slots, EachClassClaimable env (input.selector definition) slot)
      (rest : ClaimCalls env key next sizes visits last) :
      ClaimCalls env key store (input.resolvedBatchSize :: sizes) (result.visits ++ visits) last

variable {env : QueueEnv} {store next : Store}

def servedClass (visit : ClaimVisit) : WorkQueuePriorityClass := visit.selected.priorityClass

def cycleClasses (cursor slots : Nat) : List WorkQueuePriorityClass :=
  cycleSlots workQueuePriorityCycle (by decide) cursor slots

theorem priorityClassAtCursor_eq (cursor : Nat) :
    priorityClassAtCursor cursor = cycleAt workQueuePriorityCycle (by decide) cursor := rfl

section Call

variable {input : ClaimInput} {selector : FairSelector}

theorem Selected.counts (selected : Selected env store selector priorityClass row) :
    selector.serviceKey.counts row.partition := by
  have waiting := isWaiting_iff.mp (isPending_iff.mp selected.candidate.pending).1
  have version := selected.candidate.version
  unfold ServiceKey.counts FairSelector.serviceKey WorkItemRow.partition
  simp only [Bool.and_eq_true, decide_eq_true_eq]
  exact ⟨⟨waiting.queue, waiting.scope⟩, version⟩

theorem claimLoop_classes (sqlite : env.adapter = .sqlite)
    (claimable : ∀ slot ∈ slotStores env input selector remaining visit cursor store,
      EachClassClaimable env selector slot)
    (commits : (claimLoop env input selector remaining visit cursor).Commits store visits next) :
    visits.map servedClass = cycleClasses cursor remaining ∧
      next.service selector.serviceKey.counts =
        store.service selector.serviceKey.counts + remaining := by
  induction remaining generalizing store visit cursor visits with
  | zero =>
    obtain ⟨rfl, rfl⟩ := commits_pure.mp commits
    exact ⟨rfl, rfl⟩
  | succ remaining induction =>
    unfold claimLoop at commits
    simp only [commits_bind, commits_get, commits_check] at commits
    obtain ⟨_, _, ⟨rfl, rfl⟩, selected, _, ⟨selection, rfl⟩, commits⟩ := commits
    unfold slotStores at claimable
    obtain ⟨row, isClaimable⟩ := claimable store List.mem_cons_self (priorityClassAtCursor cursor)
    obtain ⟨chosen, rfl, sameClass⟩ := selectFairCandidate_of_isClaimable isClaimable selection
    simp only [commits_bind, commits_pure] at commits
    obtain ⟨current, middle, visited, later, _, looped, rfl, rfl⟩ := commits
    have selected := selectFairCandidate_some selection
    have stepped : visitCandidate env input selector visit chosen store = .ok (current, middle) :=
      visited
    rw [selection] at claimable
    simp only [stepped] at claimable
    obtain ⟨classes, service⟩ := induction
      (fun slot member => claimable slot (List.mem_cons_of_mem _ member)) looped
    refine ⟨?_, ?_⟩
    · rw [List.map_cons, classes]
      unfold cycleClasses
      rw [cycleSlots_succ, ← priorityClassAtCursor_eq, ← sameClass]
      have wraps : nextPriorityCursor cursor % workQueuePriorityCycle.length =
          (cursor + 1) % workQueuePriorityCycle.length := Nat.mod_mod _ _
      rw [cycleSlots_congr wraps]
      unfold servedClass
      rw [(visitCandidate_cases selected sqlite visited).1]
    · rw [service, visitCandidate_service selected sqlite visited, if_pos selected.counts]
      omega

theorem claim_classes (sqlite : env.adapter = .sqlite) {result : ClaimResult}
    (commits : (claim env input).Commits store result next) (served : result.isServed)
    (resolved : resolveQueueDefinition input.queue false true = .ok definition)
    (claimable : ∀ slots after, (input.slots env).Commits store slots after →
      ∀ slot ∈ slots, EachClassClaimable env (input.selector definition) slot) :
    result.visits.map servedClass =
        cycleClasses (store.service (input.selector definition).serviceKey.counts)
          input.resolvedBatchSize ∧ next.service (input.selector definition).serviceKey.counts =
        store.service (input.selector definition).serviceKey.counts +
          input.resolvedBatchSize := by
  rcases claim_cases commits with ⟨held, _⟩ | ⟨definition', prepared, aged, serves⟩
  · rw [held] at served
    cases served
  · have same : definition' = definition := by
      have both := serves.resolved.symm.trans resolved
      exact Except.ok.inj both
    subst same
    obtain ⟨sweeps, swept, matured, sweeping, _, maturing⟩ := serves.reaches
    obtain ⟨promoted, promoting⟩ := serves.promotes
    have counters : aged.virtualFinish = store.virtualFinish := by
      refine Eq.trans ?_ (sweeps_virtualFinish sweeping maturing)
      exact Path.virtualFinish_eq
        (promoteAgedCandidates_path (fun _ _ _ _ _ _ _ => trivial) promoting)
    have service := @service_congr _ _ (input.selector definition').serviceKey.counts counters
    have slots : (input.slots env).Commits store (slotStores env input
        (input.selector definition') input.resolvedBatchSize 0
        (virtualFinishCursor aged (input.selector definition')) aged) aged := by
      unfold ClaimInput.slots matureAndPromote
      simp only [commits_bind, commits_check, commits_get, commits_pure]
      exact ⟨definition', store, ⟨resolved, rfl⟩, sweeps, swept, sweeping, (matured, promoted),
        aged, ⟨matured, prepared, maturing, promoted, aged, promoting, rfl, rfl⟩, aged, aged,
        ⟨rfl, rfl⟩, rfl, rfl⟩
    obtain ⟨classes, total⟩ := claimLoop_classes sqlite (claimable _ _ slots) serves.looped
    rw [← service]
    refine ⟨?_, total⟩
    rw [classes]
    refine cycleSlots_congr ?_ _
    exact Nat.mod_mod _ _

end Call

theorem claimCalls_classes (sqlite : env.adapter = .sqlite)
    (calls : ClaimCalls env key store sizes visits last) :
    visits.map servedClass = cycleClasses (store.service key.counts) sizes.sum := by
  induction calls with
  | nil => rfl
  | cons commits served resolved named claimable _ induction =>
    subst named
    obtain ⟨classes, total⟩ := claim_classes sqlite commits served resolved claimable
    rw [List.map_append, classes, induction, total, List.sum_cons]
    exact (cycleSlots_add ..).symm

section Samples

/-- Selection finds an item in every class, and the items of the store share their
version and their position. -/
def slotCheck (env : QueueEnv) (selector : FairSelector) (version : Nat) (position : Hierarchy)
    (slot : Store) : Bool :=
  (WorkQueuePriorityClass.all.all fun priorityClass =>
    match firstWithinCapacity env slot selector priorityClass
        (slot.virtualFinish.rows.length + 1) [] with
    | .ok (some _) => true
    | _ => false) &&
  slot.workItems.rows.all fun row =>
    row.queueDefinitionVersion = version && row.toHierarchy = position

theorem eachClassClaimable_of_slotCheck (checked : slotCheck env selector version position slot) :
    EachClassClaimable env selector slot := by
  intro priorityClass
  unfold slotCheck at checked
  simp only [Bool.and_eq_true, List.all_eq_true, decide_eq_true_eq] at checked
  obtain ⟨classes, alike⟩ := checked
  have found := classes priorityClass (WorkQueuePriorityClass.mem_all priorityClass)
  split at found
  · rename_i row selection
    have selected := firstWithinCapacity_some selection
    refine ⟨row, selected.isClaimable fun other candidate _ => ?_⟩
    obtain ⟨version, position⟩ := alike row selected.candidate.member
    obtain ⟨version', position'⟩ := alike other candidate.member
    exact ⟨version'.trans version.symm, position'.trans position.symm⟩
  · cases found

def sampleDefinition : ResolvedQueueDefinition where
  queueDefinitionId := "queue"
  queueDefinitionVersion := 0
  queueDefinition := {}

theorem sampleQueue_resolved :
    ∃ definition, resolveQueueDefinition sampleQueue false true = .ok definition ∧
      definition.queueDefinitionId = "queue" ∧ definition.queueDefinitionVersion = 0 := by
  have resolved : (resolveQueueDefinition sampleQueue false true).toOption.map
      (fun definition => (definition.queueDefinitionId, definition.queueDefinitionVersion)) =
        some ("queue", 0) := by
    decide +kernel
  cases found : resolveQueueDefinition sampleQueue false true with
  | error e =>
    rw [found] at resolved
    cases resolved
  | ok definition =>
    rw [found] at resolved
    have named := Option.some.inj resolved
    exact ⟨definition, rfl, congrArg Prod.fst named, congrArg Prod.snd named⟩

theorem sampleClaim_scopeKey (leaseId : Identifier) (batchSize nowMs : Int) :
    (sampleClaim leaseId batchSize nowMs).resolvedScopeKey = "scope" := by
  have resolved : resolveScopeKey (some "scope") (.normalize {}) = "scope" := by
    decide +kernel
  exact resolved

def servesSlots (env : QueueEnv) (leaseId : Identifier) (batchSize nowMs : Int)
    (rest : Store → Bool) (store : Store) : Bool :=
  ((sampleClaim leaseId batchSize nowMs).slots env).passes store (fun slots _ =>
    slots.all (slotCheck env ((sampleClaim leaseId batchSize nowMs).selector sampleDefinition) 1
      { tenantId := "tenant" })) &&
  (claim env (sampleClaim leaseId batchSize nowMs)).passes store fun result next =>
    result.isServed && rest next

theorem claimCalls_of_servesSlots (later : ∀ next, rest next → ∃ visits last,
      ClaimCalls env ⟨"queue", 0, "scope"⟩ next sizes visits last)
    (serves : servesSlots env leaseId batchSize nowMs rest store) :
    ∃ visits last, ClaimCalls env ⟨"queue", 0, "scope"⟩ store
      ((sampleClaim leaseId batchSize nowMs).resolvedBatchSize :: sizes) visits last := by
  obtain ⟨slots, claims⟩ := (Bool.and_eq_true _ _).mp serves
  obtain ⟨found, after, selecting, checked⟩ := passes_iff.mp slots
  obtain ⟨result, next, commits, test⟩ := passes_iff.mp claims
  obtain ⟨served, continues⟩ := (Bool.and_eq_true _ _).mp test
  obtain ⟨visits, last, calls⟩ := later next continues
  obtain ⟨definition, resolved, named, version⟩ := sampleQueue_resolved
  have selector : (sampleClaim leaseId batchSize nowMs).selector definition =
      (sampleClaim leaseId batchSize nowMs).selector sampleDefinition := by
    unfold ClaimInput.selector
    rw [named, version]
    rfl
  refine ⟨_, last, .cons commits served resolved ?_ ?_ calls⟩
  · unfold ClaimInput.selector FairSelector.serviceKey
    simp only [named, version, sampleClaim_scopeKey]
  · intro slots' after' selecting' slot member
    obtain ⟨rfl, _⟩ := selecting.unique selecting'
    rw [selector]
    exact eachClassClaimable_of_slotCheck (List.all_eq_true.mp checked slot member)

def everyClassRun : List QueueCommand :=
  [.enqueue (sampleEnqueue "critical-1" "tenant" 2 10),
    .enqueue (sampleEnqueue "critical-2" "tenant" 2 10),
    .enqueue (sampleEnqueue "high" "tenant" 1 10),
    .enqueue (sampleEnqueue "normal" "tenant" 0 10),
    .enqueue (sampleEnqueue "low" "tenant" (-1) 10)]

end Samples

end LicoMesh.WorkQueue
